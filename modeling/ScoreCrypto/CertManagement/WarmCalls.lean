import ScoreCrypto.CertManagement.WarmStore

/-!
The calls of a trust store, one by one, while every file operation succeeds: each leaves a cache that
shows what the slots hold, given what the calls that enable a member do about its CRL.
-/

namespace ScoreCrypto.CertManagement

open Storage Stateful
open StoreAction (Plainly Plain PlainPost)

namespace TrustStore

open StoreSetup TrustStoreHandler

variable {setup : StoreSetup} {readBack : SlotContent → CrlData → CrlData}
  {handler handler' : TrustStoreHandler} {files files' : Files}
  {member : TrustStoreMemberConfig} {slot : SlotIndex} {next : MemberState} {content : SlotContent}

/-! ### Resolving all members -/

section Settled

variable {members : List TrustStoreMemberConfig} {state : SlotIndex → MemberState}
  {contents : SlotIndex → SlotContent}

def settled (setup : StoreSetup) (members : List TrustStoreMemberConfig)
    (state : SlotIndex → MemberState) (contents : SlotIndex → SlotContent) (slot : SlotIndex) :
    MemberState :=
  match members.find? (setup.refersTo slot) with
  | some member => settle setup member (state slot) (contents slot)
  | none => state slot

theorem settled_some (known : members.find? (setup.refersTo slot) = some member) :
    settled setup members state contents slot = settle setup member (state slot) (contents slot) := by
  rw [settled, known]

theorem settled_none (unknown : members.find? (setup.refersTo slot) = none) :
    settled setup members state contents slot = state slot := by
  rw [settled, unknown]

theorem settled_default (new : settled setup members state contents slot = {}) : state slot = {} := by
  unfold settled at new
  split at new
  · exact settle_default new
  · exact new

theorem settled_unaccepted
    (nothing : (settled setup members state contents slot).acceptedFingerprint = none) :
    (state slot).acceptedFingerprint = none := by
  unfold settled at nothing
  split at nothing
  · exact settle_unaccepted nothing
  · exact nothing

end Settled

structure Settles (setup : StoreSetup) (members : List TrustStoreMemberConfig)
    (contents : SlotIndex → SlotContent) (resolution resolution' : Resolution)
    (handler handler' : TrustStoreHandler) : Prop where
  failure : resolution'.failure = resolution.failure
  kept : { handler' with states := handler.states } = handler
  states : handler'.state = settled setup members handler.state contents
  flagged : resolution'.stateChanged = false →
    resolution.stateChanged = false ∧ handler'.state = handler.state
  calm : resolution.stateChanged = false → handler'.state = handler.state →
    resolution'.stateChanged = false
  entries : ∀ slot shows, (slot, shows) ∈ resolution'.all ↔ (slot, shows) ∈ resolution.all ∨
    (members.find? (setup.refersTo slot)).isSome ∧
      shows = shown (handler'.state slot) (contents slot)

theorem Settles.nil (contents : SlotIndex → SlotContent) (resolution : Resolution)
    (handler : TrustStoreHandler) :
    Settles setup [] contents resolution resolution handler handler where
  failure := rfl
  kept := rfl
  states := rfl
  flagged same := ⟨same, rfl⟩
  calm same _ := same
  entries := by simp

variable {members : List TrustStoreMemberConfig}

theorem Settles.cons {contents : SlotIndex → SlotContent}
    {resolution resolution' : Resolution} {unaccepted : List SlotIndex}
    (found : setup.slotOf member = .ok slot)
    (apart : ∀ other ∈ members, setup.slotOf other ≠ .ok slot)
    (next_eq : settle setup member (handler.state slot) (contents slot) = next)
    (settles : Settles setup members contents
      { resolution with
        all := resolution.all ++ [(slot, shown next (contents slot))]
        stateChanged := resolution.stateChanged || next ≠ handler.state slot
        unaccepted := unaccepted } resolution' (handler.setState slot next) handler') :
    Settles setup (member :: members) contents resolution resolution' handler handler' := by
  have own : setup.refersTo slot member = true := refersTo_iff.mpr found
  have others {other : SlotIndex} (differ : other ≠ slot) : setup.refersTo other member = false := by
    simpa [refersTo, found] using differ.symm
  have last : members.find? (setup.refersTo slot) = none := by simpa using apart
  have here : handler'.state slot = next := by
    rw [settles.states, settled_none last, state_setState, if_pos rfl]
  refine ⟨settles.failure, congrArg (fun other => { other with states := handler.states }) settles.kept,
    ?_, ?_, fun before same => ?_, ?_⟩
  · funext other
    rcases eq_or_ne other slot with rfl | differ
    · rw [here, settled_some (List.find?_cons_of_pos own), next_eq]
    · simp [settles.states, settled, others differ, differ]
  · intro unflagged
    rcases settles.flagged unflagged with ⟨before, same⟩
    simp only [Bool.or_eq_false_iff, decide_eq_false_iff_not, not_not] at before
    refine ⟨before.1, ?_⟩
    rw [same, before.2]
    exact funext fun other => handler.state_touch slot other
  · have unchanged : next = handler.state slot := by rw [← here, same]
    refine settles.calm (by simp [before, unchanged]) ?_
    rw [same, unchanged]
    exact (funext fun other => handler.state_touch slot other).symm
  · intro other shows
    rw [settles.entries, List.mem_append, List.mem_singleton, or_assoc]
    apply or_congr_right
    rcases eq_or_ne other slot with rfl | differ
    · simp [own, last, here]
    · simp [others differ, differ]

theorem resolveMembers_plain (few : setup.registry.registry.length < 2 ^ 32)
    {seen : List SlotIndex} (members : List TrustStoreMemberConfig)
    (distinct : setup.validateFrom seen members = true)
    (resolution : Resolution) (readable : ∀ slot, (files.content slot).Readable) :
    Plain setup.registry readBack
      (fun resolution' handler' state' => state' = (files, .nothing) ∧
        Settles setup members files.content resolution resolution' handler handler')
      (resolveMembers setup members resolution) handler files := by
  induction members generalizing resolution handler seen with
  | nil => exact ⟨rfl, .nil _ _ _⟩
  | cons member rest ih =>
    rcases validateFrom_apart distinct with ⟨slot, found, distinct, apart⟩
    simp only [resolveMembers, found, ensures_bind, ensures_get,
      ensures_resolveMemberContentLocked (getConfig_of_slotOf few found) (readable slot) rfl]
    refine (ih distinct _).mono ?_
    rintro resolution' handler' state' ⟨rfl, settles⟩
    exact ⟨rfl, settles.cons found apart rfl⟩

/-! Resolving members reads their slots and writes nothing. -/

def StoreAction.Loads : StoreAction → Prop
  | .loadCertificate _ | .loadCrlData _ => True
  | _ => False

theorem trustedContent_loads (slot : SlotIndex) (certificate : CertObject)
    (handler : TrustStoreHandler) :
    Program.Only StoreAction.Loads (trustedContent slot certificate handler) :=
  ⟨trivial, fun answer => by cases answer <;> trivial⟩

theorem resolveMemberContentLocked_loads (member : TrustStoreMemberConfig) (slot : SlotIndex)
    (handler : TrustStoreHandler) :
    Program.Only StoreAction.Loads (resolveMemberContentLocked setup member slot handler) := by
  change Program.Only _ ((if _ then _ else _ : StoreProg _) _)
  split
  · trivial
  · refine ⟨trivial, fun answer => ?_⟩
    cases answer with
    | error e =>
      change Program.Only _ ((if _ then _ else _ : StoreProg _) _)
      split <;> trivial
    | ok certificate =>
      have trusts (handler : TrustStoreHandler) (changed : Bool) :
          Program.Only StoreAction.Loads ((do
            let content ← trustedContent slot certificate
            pure (content, changed) : StoreProg _) handler) :=
        (trustedContent_loads slot certificate handler).bind fun _ => trivial
      change Program.Only _ ((if _ then _ else _ : StoreProg _) _)
      split
      · split
        · exact trusts _ _
        · exact trusts _ _
        · trivial
      · exact trusts _ _

theorem resolveMembers_loads (members : List TrustStoreMemberConfig) (resolution : Resolution)
    (handler : TrustStoreHandler) :
    Program.Only StoreAction.Loads (resolveMembers setup members resolution handler) := by
  induction members generalizing resolution handler with
  | nil => trivial
  | cons member rest ih =>
    unfold resolveMembers
    cases setup.slotOf member with
    | error e => trivial
    | ok slot =>
      refine (resolveMemberContentLocked_loads member slot handler).bind ?_
      rintro ⟨⟨_ | content, changed⟩, handler'⟩
      · trivial
      · exact ih _ _

structure Resolved (setup : StoreSetup) (handler : TrustStoreHandler) (files : Files)
    (all : List (SlotIndex × MemberContent)) (handler' : TrustStoreHandler) (files' : Files) :
    Prop where
  tracks : Tracks setup handler' files'
  content : files'.content = files.content
  states : handler'.state = settled setup setup.config.members handler.state files.content
  entries : ∀ slot shows, (slot, shows) ∈ all ↔
    (setup.findMember slot).isSome ∧ shows = shown (handler'.state slot) (files.content slot)

variable {α : Type} {part : MemberContent → Option α} {all : List (SlotIndex × MemberContent)}

theorem foldl_cacheMember_eq {value : Option α} {cache : Finmap fun _ : SlotIndex => α}
    (values : ∀ shows, (slot, shows) ∈ all → part shows = value)
    (start : cache.lookup slot = value ∨
      cache.lookup slot = none ∧ ∃ shows, (slot, shows) ∈ all) :
    (all.foldl (cacheMember part) cache).lookup slot = value := by
  induction all generalizing cache with
  | nil => simpa using start
  | cons first rest ih =>
    rcases first with ⟨other, shows⟩
    apply ih fun shows later => values shows (List.mem_cons_of_mem _ later)
    rcases eq_or_ne slot other with rfl | differ
    · left
      have here := values shows List.mem_cons_self
      cases given : part shows with
      | some own => simp [cacheMember, given, ← here]
      | none =>
        rw [given] at here
        simpa [cacheMember, given, ← here] using start
    · have same : (cacheMember part cache (other, shows)).lookup slot = cache.lookup slot := by
        unfold cacheMember
        split
        · exact Finmap.lookup_insert_of_ne _ differ
        · rfl
      rw [same]
      simpa [differ] using start

theorem Resolved.cached_some (resolved : Resolved setup handler files all handler' files')
    (known : setup.findMember slot = some member) :
    (cached part all).lookup slot = part (shown (handler'.state slot) (files.content slot)) := by
  apply foldl_cacheMember_eq
  · intro shows inside
    rw [((resolved.entries slot shows).mp inside).2]
  · exact .inr ⟨rfl, _, (resolved.entries slot _).mpr ⟨by simp [known], rfl⟩⟩

theorem Resolved.cached_none (resolved : Resolved setup handler files all handler' files')
    (unknown : setup.findMember slot = none) : (cached part all).lookup slot = none := by
  apply foldl_cacheMember_eq
  · intro shows inside
    simpa [unknown] using (resolved.entries slot shows).mp inside
  · exact .inl rfl

structure Answers (setup : StoreSetup) {α : Type} (part : MemberContent → Option α)
    (handler : TrustStoreHandler) (files : Files) (found : Multiset (SlotIndex × α))
    (handler' : TrustStoreHandler) (files' : Files) : Prop where
  tracks : Tracks setup handler' files'
  entries : ∀ slot value, (slot, value) ∈ found ↔ (setup.findMember slot).isSome ∧
    part (shown (settled setup setup.config.members handler.state files.content slot)
      (files.content slot)) = some value

section Calls

variable (somewhere : setup.config.deploymentPath ≠ [])
  (few : setup.registry.registry.length < 2 ^ 32)

include somewhere few

theorem resolveAllLocked_plain (tracks : Tracks setup handler files) (cold : handler.loaded = false) :
    Plain setup.registry readBack
      (fun result handler' state' => ∃ all files', result = .ok all ∧ state' = (files', .nothing) ∧
        Resolved setup handler files all handler' files')
      (resolveAllLocked setup) handler files := by
  unfold resolveAllLocked
  refine .bind ((resolveMembers_plain few setup.config.members tracks.distinct {}
    tracks.readable).mono ?_)
  rintro resolution handler' state' ⟨rfl, settles⟩
  have result : resolution.result = .ok resolution.all := by
    rw [Resolution.result, settles.failure]
  have resolved (file : Option DeploymentDescriptor) (exact : Exact setup file handler'.state) :
      Resolved setup handler files resolution.all handler' { files with file := file } := by
    refine ⟨⟨?_, tracks.distinct, exact, tracks.readable, fun warm => ?_⟩, rfl, settles.states, ?_⟩
    · exact (congrArg valid settles.kept).trans tracks.valid
    · cases ((congrArg loaded settles.kept).trans cold).symm.trans warm
    · intro slot shows
      rw [settles.entries slot shows]
      simp [findMember]
  simp only [ensures_ite, ensures_bind, ensures_persistStateLocked somewhere, ensures_pure, result]
  refine ⟨fun _ => ⟨_, _, rfl, rfl, resolved _ (exact_saved tracks.exact ?_ ?_)⟩,
    fun unflagged => ⟨_, _, rfl, rfl, resolved files.file ?_⟩⟩
  · intro slot missing
    have new := state_of_missing missing
    rw [settles.states] at new
    exact settled_default new
  · intro slot nothing
    rw [settles.states] at nothing
    exact settled_unaccepted nothing
  · rw [(settles.flagged (Bool.not_eq_true _ ▸ unflagged)).2]
    exact tracks.exact

theorem loadCache_tracks :
    Keeps (Plainly setup.registry readBack) (Tracking setup) (loadCache setup) := by
  rintro handler state ⟨files, rfl, tracks⟩
  refine Ensures.guarded tracks.valid ?_
  simp only [ensures_ite, ensures_bind, ensures_pure]
  refine ⟨fun _ => tracks.now, fun unloaded => ?_⟩
  refine (resolveAllLocked_plain somewhere few tracks (Bool.not_eq_true _ ▸ unloaded)).mono ?_
  rintro result handler' state' ⟨all, files', rfl, rfl, resolved⟩
  refine Tracks.now { resolved.tracks with mirrors := fun _ slot => ?_ }
  unfold MirrorsAt entry
  cases known : setup.findMember slot with
  | none => simp only [resolved.cached_none known]
  | some member =>
    rw [resolved.cached_some known, resolved.cached_some known, resolved.content]
    refine ⟨rfl, ?_⟩
    change Acknowledged member (handler'.state slot) _
    rw [resolved.states, settled_some known]
    exact settle_acknowledged

theorem readMembers_plain {cache : TrustStoreHandler → Finmap fun _ : SlotIndex => α}
    (holds : ∀ slot, (cache handler).lookup slot = part (entry handler slot))
    (empty : part {} = none) (tracks : Tracks setup handler files) :
    Plain setup.registry readBack
      (fun result handler' state' => ∃ found files', result = .ok found ∧
        state' = (files', .nothing) ∧ Answers setup part handler files found handler' files')
      (readMembers setup cache part) handler files := by
  refine Ensures.guarded tracks.valid ?_
  split
  case isTrue warm =>
    refine Ensures.pure ⟨_, _, rfl, rfl, tracks, fun slot value => ?_⟩
    have mirrors := tracks.mirrors warm slot
    have inside : (slot, value) ∈ Multiset.map (fun entry => (entry.1, entry.2)) (cache handler).entries ↔
        (cache handler).lookup slot = some value := by
      rw [Finmap.lookup_eq_some_iff]
      simp
    rw [inside, holds]
    unfold MirrorsAt at mirrors
    cases known : setup.findMember slot with
    | none =>
      rw [known] at mirrors
      simp [mirrors, empty]
    | some member =>
      rw [known] at mirrors
      simp [settled_some known, mirrors.1, settle_of_acknowledged mirrors.2]
  case isFalse unloaded =>
    refine .bind
      ((resolveAllLocked_plain somewhere few tracks (Bool.not_eq_true _ ▸ unloaded)).mono ?_)
    rintro result handler' state' ⟨all, files', rfl, rfl, resolved⟩
    refine .pure ⟨_, _, rfl, rfl, resolved.tracks, fun slot value => ?_⟩
    rw [Multiset.mem_coe, List.mem_filterMap, ← resolved.states]
    constructor
    · rintro ⟨⟨other, shows⟩, inside, given⟩
      rcases Option.map_eq_some_iff.mp given with ⟨own, has, equal⟩
      cases equal
      rcases (resolved.entries other shows).mp inside with ⟨known, rfl⟩
      exact ⟨known, has⟩
    · rintro ⟨known, has⟩
      refine ⟨_, (resolved.entries slot _).mpr ⟨known, rfl⟩, ?_⟩
      rw [has]
      rfl

end Calls

/-! ### Notifications -/

structure Refreshed (member : TrustStoreMemberConfig) (slot : SlotIndex) (content : SlotContent)
    (changed : Bool) (handler : TrustStoreHandler) (next : MemberState)
    (handler' : TrustStoreHandler) : Prop where
  at_ : ChangedAt slot next (shown next content) handler handler'
  acknowledged : handler.loaded = true → Acknowledged member next content
  unchanged : changed = false → next = handler.state slot
  default : next = {} → handler.state slot = {}
  unaccepted : next.acceptedFingerprint = none → (handler.state slot).acceptedFingerprint = none

theorem Refreshed.of_disabled {changed : Bool} {shows : MemberContent} (off : next.enabled = false)
    (at_ : ChangedAt slot next shows handler handler')
    (accepted : next.acceptedFingerprint = (handler.state slot).acceptedFingerprint)
    (unchanged : changed = false → next = handler.state slot) :
    Refreshed member slot content changed handler next
      ((handler'.setAnchorLocked slot none).setCrlLocked slot none) where
  at_ := by
    rw [shown_disabled off]
    exact at_.setAnchor.setCrl
  acknowledged _ := acknowledged_disabled off
  unchanged := unchanged
  default new := by
    rw [new] at off
    cases off
  unaccepted nothing := accepted ▸ nothing

theorem Refreshed.of_cold (cold : ¬ handler.loaded = true) :
    Refreshed member slot content false handler (handler.state slot) handler where
  at_ := .unchanged fun warm => absurd warm cold
  acknowledged warm := absurd warm cold
  unchanged _ := rfl
  default := id
  unaccepted := id

theorem Refreshed.of_touch {changed : Bool}
    (refreshed : Refreshed member slot content changed (handler.touch slot) next handler') :
    Refreshed member slot content changed handler next handler' := by
  have state : (handler.touch slot).state = handler.state :=
    funext fun other => handler.state_touch slot other
  rcases refreshed with ⟨⟨valid, loaded, states, cache⟩, acknowledged, unchanged, default, unaccepted⟩
  rw [state] at states unchanged default unaccepted
  exact ⟨⟨valid, loaded, states, cache⟩, acknowledged, unchanged, default, unaccepted⟩

section Member

variable (known : ∃ config, setup.registry.getConfig slot = .ok config)

include known

theorem acceptedFingerprintMatchesLocked_plain {post : PlainPost Bool}
    (holds : ∀ matching, post matching (handler.touch slot) (files, .nothing)) :
    Plain setup.registry readBack post (acceptedFingerprintMatchesLocked slot) handler files := by
  simp only [acceptedFingerprintMatchesLocked, ensures_bind, ensures_modify, ensures_get]
  split
  · exact holds _
  · simp only [ensures_bind, Plainly.ensures_loadCertificate known]
    split <;> exact holds _

variable (readable : (files.content slot).Readable)

include readable

theorem refreshMemberLocked_plain :
    Plain setup.registry readBack
      (fun changed handler' state' => state' = (files, .nothing) ∧
        ∃ next, Refreshed member slot (files.content slot) changed handler next handler')
      (refreshMemberLocked setup member slot) handler files := by
  simp only [refreshMemberLocked, ensures_bind, ensures_resolveMemberContentLocked known readable rfl,
    ensures_modify, ensures_pure]
  exact ⟨trivial, _, {
    at_ := ChangedAt.setState.setAnchor.setCrl
    acknowledged := fun _ => settle_acknowledged
    unchanged := by simp
    default := settle_default
    unaccepted := settle_unaccepted }⟩

theorem memberChanged_plain :
    Plain setup.registry readBack
      (fun changed handler' state' => state' = (files, .nothing) ∧
        ∃ next, Refreshed member slot (files.content slot) changed handler next handler')
      (memberChanged setup member slot) handler files := by
  simp only [memberChanged, ensures_ite, ensures_bind, ensures_get]
  refine ⟨fun _ => acceptedFingerprintMatchesLocked_plain known fun matching => ?_,
    fun _ => ⟨fun _ => refreshMemberLocked_plain known readable, fun cold => ⟨rfl, _, .of_cold cold⟩⟩⟩
  refine ⟨fun _ => ⟨fun _ => ?_, fun cold => ⟨rfl, _, (Refreshed.of_cold cold).of_touch⟩⟩, fun _ => ?_⟩
  · refine (refreshMemberLocked_plain known readable).mono ?_
    rintro changed handler' state' ⟨rfl, next, refreshed⟩
    exact ⟨rfl, next, refreshed.of_touch⟩
  · refine ⟨fun on => ⟨rfl, _, .of_touch (.of_disabled rfl .setState rfl fun off => ?_)⟩, fun off =>
      ⟨rfl, _, .of_touch (.of_disabled (by simpa using off) (.unchanged fun _ => rfl) rfl fun _ => rfl)⟩⟩
    cases on.symm.trans off

end Member

theorem membersChanged_other
    (apart : ∀ other ∈ members, setup.slotOf other ≠ .ok slot) :
    membersChanged setup slot members = pure false := by
  induction members with
  | nil => rfl
  | cons first rest ih =>
    unfold membersChanged
    rw [if_neg (by simpa using apart first List.mem_cons_self)]
    exact ih fun other later => apart other (List.mem_cons_of_mem _ later)

theorem ensures_membersChanged {seen : List SlotIndex}
    (distinct : setup.validateFrom seen members = true) {post : PlainPost Bool} :
    Plain setup.registry readBack post (membersChanged setup slot members) handler files ↔
      match members.find? (setup.refersTo slot) with
      | some member => Plain setup.registry readBack post (memberChanged setup member slot) handler files
      | none => post false handler (files, .nothing) := by
  induction members generalizing seen with
  | nil => rfl
  | cons first rest ih =>
    rcases validateFrom_apart distinct with ⟨own, resolved, distinct, apart⟩
    by_cases same : setup.refersTo slot first = true
    · cases resolved.symm.trans (refersTo_iff.mp same)
      simp [membersChanged, same, membersChanged_other apart]
    · simpa [membersChanged, same] using ih distinct

theorem onSlotChanged_tracks (somewhere : setup.config.deploymentPath ≠ [])
    (few : setup.registry.registry.length < 2 ^ 32) (tracks : Tracks setup handler files)
    (readable : content.Readable) :
    Ensures (Plainly setup.registry readBack) (fun _ => Tracking setup) (onSlotChanged setup slot)
      handler (files.put slot content, .caches slot) := by
  refine Ensures.guarded tracks.valid ?_
  simp only [ensures_bind, Plainly.ensures_invalidateSlotCaches_due,
    ensures_membersChanged tracks.distinct]
  cases known : setup.config.members.find? (setup.refersTo slot) with
  | none =>
    refine Tracks.now (tracks.change (.unchanged fun _ => rfl) readable tracks.exact fun warm => ?_)
    have mirrors := tracks.mirrors warm slot
    unfold MirrorsAt at mirrors ⊢
    rwa [findMember, known] at mirrors ⊢
  | some member =>
    have found := (findMember_some known).2
    refine (memberChanged_plain (getConfig_of_slotOf few found) (by simpa)).mono ?_
    rintro changed handler' state' ⟨rfl, next, refreshed⟩
    rw [Files.content_put] at refreshed
    have finish (file : Option DeploymentDescriptor) (exact : Exact setup file handler'.state) :
        Tracks setup handler' { files.put slot content with file := file } := by
      refine tracks.change refreshed.at_ readable exact fun warm => ?_
      unfold MirrorsAt
      rw [findMember, known]
      exact ⟨rfl, refreshed.acknowledged warm⟩
    simp only [ensures_ite, ensures_bind, ensures_persistStateLocked somewhere, ensures_pure]
    refine ⟨fun _ => (finish _ (exact_saved tracks.exact ?_ ?_)).now, fun unchanged => (finish _ ?_).now⟩
    · intro other missing
      have new := state_of_missing missing
      rw [refreshed.at_.state] at new
      rcases eq_or_ne other slot with rfl | differ
      · exact refreshed.default (by simpa using new)
      · simpa [differ] using new
    · intro other
      rw [refreshed.at_.state]
      rcases eq_or_ne other slot with rfl | differ
      · simpa using refreshed.unaccepted
      · simp [differ]
    · rw [Bool.not_eq_true] at unchanged
      rw [refreshed.at_.state, refreshed.unchanged unchanged, Function.update_eq_self]
      exact tracks.exact

end TrustStore

end ScoreCrypto.CertManagement
