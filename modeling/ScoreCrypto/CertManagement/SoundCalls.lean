import ScoreCrypto.CertManagement.SoundStore

/-!
Every call of a trust store keeps it sound. A resolution of all members may accept certificates
before it persists them; what carries it is the file for the states without these acceptances.
-/

namespace ScoreCrypto.CertManagement

open Storage Stateful

namespace TrustStore

open TrustStoreHandler

variable {setup : StoreSetup} {handler handler' : TrustStoreHandler} {world : StoreWorld}
  {member : TrustStoreMemberConfig} {slot : SlotIndex}

/-! ### Resolving all members -/

def forget (slots : List SlotIndex) (state : SlotIndex → MemberState) (slot : SlotIndex) :
    MemberState :=
  if slot ∈ slots then { state slot with acceptedFingerprint := none } else state slot

theorem unaccept_eq {state : MemberState} (nothing : state.acceptedFingerprint = none) :
    { state with acceptedFingerprint := none } = state := by
  rw [← nothing]

theorem forget_eq {slots : List SlotIndex} {state : SlotIndex → MemberState}
    (unaccepted : ∀ slot ∈ slots, (state slot).acceptedFingerprint = none) :
    forget slots state = state := by
  funext slot
  unfold forget
  split
  case isTrue inside => exact unaccept_eq (unaccepted slot inside)
  case isFalse => rfl

theorem forget_cons (slots : List SlotIndex) (state : SlotIndex → MemberState) :
    forget (slot :: slots) state =
      forget slots (Function.update state slot { state slot with acceptedFingerprint := none }) := by
  funext other
  unfold forget
  rcases eq_or_ne other slot with rfl | differ
  · simp
  · simp [differ]

structure Forgets (slots : List SlotIndex) (handler handler' : TrustStoreHandler) : Prop where
  state : handler'.state = forget slots handler.state
  slots : handler'.slots = handler.slots
  loaded : handler'.loaded = handler.loaded
  valid : handler'.valid = handler.valid

theorem rollBack_spec (slots : List SlotIndex) :
    Ensures StoreAction.May
      (fun undone handler' world' => world' = world ∧ Forgets slots handler handler' ∧
        (undone = false → ∀ slot ∈ slots, (handler.state slot).acceptedFingerprint = none))
      (rollBack slots) handler world := by
  induction slots generalizing handler with
  | nil => exact .pure ⟨rfl, ⟨rfl, rfl, rfl, rfl⟩, by simp⟩
  | cons slot rest ih =>
    unfold rollBack
    apply Ensures.modify_bind
    apply Ensures.get_bind
    rw [state_touch]
    have touched : (handler.touch slot).state = handler.state :=
      funext fun other => state_touch handler slot other
    split
    case isTrue nothing =>
      refine ih.mono ?_
      rintro undone handler' world' ⟨rfl, forgets, clean⟩
      rw [touched] at clean
      refine ⟨rfl, ⟨?_, forgets.slots, forgets.loaded, forgets.valid⟩, ?_⟩
      · rw [forgets.state, touched, forget_cons, unaccept_eq nothing, Function.update_eq_self]
      · intro none other inside
        rcases List.mem_cons.mp inside with rfl | later
        · exact nothing
        · exact clean none other later
    case isFalse known =>
      apply Ensures.modify_bind
      refine Ensures.bind (ih.mono ?_)
      rintro undone handler' world' ⟨rfl, forgets, -⟩
      refine .pure ⟨rfl, ⟨?_, forgets.slots, forgets.loaded, forgets.valid⟩, by simp⟩
      rw [forgets.state, forget_cons]
      congr 1
      funext other
      simp [accept, Function.update_apply]

structure Progress (setup : StoreSetup) (resolution : Resolution) (handler : TrustStoreHandler)
    (world : StoreWorld) : Prop where
  valid : handler.valid = true
  loaded : handler.loaded = false
  slots : handler.slots = ∅
  admitted : ∀ entry ∈ resolution.all, ∀ anchor, entry.2.anchor = some anchor →
    Admits setup handler.state entry.1 anchor
  revocable : setup.config.deploymentPath ≠ [] →
    Records setup world.file (forget resolution.unaccepted handler.state)
  pending : resolution.stateChanged = false →
    ∀ slot ∈ resolution.unaccepted, (handler.state slot).acceptedFingerprint = none

def unacceptedWith (member : TrustStoreMemberConfig) (slot : SlotIndex) (state : MemberState)
    (slots : List SlotIndex) : List SlotIndex :=
  if member.kind = .conditionalExternal ∧ state.acceptedFingerprint = none then slots ++ [slot]
  else slots

theorem mem_unacceptedWith {state : MemberState} {slots : List SlotIndex} {other : SlotIndex} :
    other ∈ unacceptedWith member slot state slots ↔
      other ∈ slots ∨ other = slot ∧ member.kind = .conditionalExternal ∧
        state.acceptedFingerprint = none := by
  unfold unacceptedWith
  split
  case isTrue open_ => simp [open_.1, open_.2]
  case isFalse closed => simp only [closed, and_false, or_false]

theorem forget_within {state : SlotIndex → MemberState} {next : MemberState} {changed : Bool}
    (change : StateChange member (state slot) next changed) (slots : List SlotIndex)
    (other : SlotIndex) :
    (forget (unacceptedWith member slot (state slot) slots) (Function.update state slot next)
      other).Within (forget slots state other) := by
  unfold forget
  simp only [mem_unacceptedWith]
  rcases eq_or_ne other slot with rfl | differ
  · rw [Function.update_self]
    cases change with
    | kept =>
      split
      case isTrue inside =>
        split
        case isTrue => exact .refl _
        case isFalse outside =>
          rw [unaccept_eq (inside.resolve_left outside).2.2]
          exact .refl _
      case isFalse outside =>
        rw [if_neg fun inside => outside (.inl inside)]
        exact .refl _
    | disabled =>
      split
      case isTrue inside =>
        split
        case isTrue => exact ⟨Bool.noConfusion, rfl⟩
        case isFalse outside =>
          exact ⟨Bool.noConfusion, (inside.resolve_left outside).2.2.symm⟩
      case isFalse outside =>
        rw [if_neg fun inside => outside (.inl inside)]
        exact MemberState.within_disabled _
    | accepted fingerprint external first =>
      rw [if_pos (.inr ⟨rfl, external, first⟩)]
      split
      · exact .refl _
      · exact ⟨id, first.symm⟩
  · simp only [differ, false_and, or_false, Function.update_of_ne differ]
    exact .refl _

variable {all : List (SlotIndex × MemberContent)} {resolution : Resolution}

theorem Progress.step {result : Expected MemberContent × Bool}
    (progress : Progress setup resolution handler world)
    (resolves : Resolves member slot handler result handler')
    (apart : ∀ entry ∈ resolution.all, entry.1 ≠ slot) (listed : member ∈ setup.config.members)
    (found : setup.slotOf member = .ok slot) (grown : ∀ entry ∈ all, entry ∈ resolution.all ∨
      ∃ content, result.1 = .ok content ∧ entry = (slot, content))
    (failure : Option DaemonErrorCode) :
    Progress setup
      { all := all
        stateChanged := resolution.stateChanged || result.2
        unaccepted := unacceptedWith member slot (handler.state slot) resolution.unaccepted
        failure := failure } handler' world := by
  rcases resolves with ⟨next, at_, change, gated⟩
  refine ⟨at_.valid.trans progress.valid, at_.loaded.trans progress.loaded,
    at_.slots.trans progress.slots, ?_, ?_, ?_⟩
  · intro entry inside anchor named
    rw [at_.state]
    rcases grown entry inside with old | ⟨content, resolved, rfl⟩
    · apply (progress.admitted entry old anchor named).congr
      rw [Function.update_of_ne (apart entry old)]
    · refine ⟨member, listed, found, fun external => ?_⟩
      rw [Function.update_self]
      exact gated content resolved anchor named external
  · intro somewhere
    rw [at_.state]
    exact (progress.revocable somewhere).mono (forget_within change resolution.unaccepted)
  · intro unchanged other inside
    rcases Bool.or_eq_false_iff.mp unchanged with ⟨before, now⟩
    have same : next = handler.state slot := by
      rw [now] at change
      cases change
      rfl
    rw [at_.state, same, Function.update_eq_self]
    rcases mem_unacceptedWith.mp inside with old | ⟨rfl, -, nothing⟩
    · exact progress.pending before other old
    · exact nothing

theorem resolveMembers_spec {seen : List SlotIndex} (rest : List TrustStoreMemberConfig)
    (listed : ∀ member ∈ rest, member ∈ setup.config.members)
    (distinct : setup.validateFrom seen rest = true)
    (known : ∀ entry ∈ resolution.all, entry.1 ∈ seen)
    (progress : Progress setup resolution handler world) :
    Ensures StoreAction.May
      (fun resolution' handler' world' => world' = world ∧
        Progress setup resolution' handler' world')
      (resolveMembers setup rest resolution) handler world := by
  induction rest generalizing resolution handler seen with
  | nil => exact .pure ⟨rfl, progress⟩
  | cons member rest ih =>
    unfold resolveMembers
    unfold StoreSetup.validateFrom at distinct
    cases found : setup.slotOf member with
    | error e =>
      rw [found] at distinct
      cases distinct
    | ok slot =>
      rw [found] at distinct
      simp only at distinct
      split at distinct
      case isTrue => cases distinct
      case isFalse fresh =>
        have apart : ∀ entry ∈ resolution.all, entry.1 ≠ slot :=
          fun entry inside same => fresh (same ▸ known entry inside)
        have own : member ∈ setup.config.members := listed member List.mem_cons_self
        apply Ensures.get_bind
        refine Ensures.bind (resolveMemberContentLocked_spec.mono ?_)
        rintro ⟨content | content, changed⟩ handler' world' ⟨rfl, resolves⟩
        · exact .pure ⟨rfl, progress.step resolves apart own found
            (fun entry inside => .inl inside) _⟩
        · refine ih (fun member inside => listed member (List.mem_cons_of_mem _ inside)) distinct
            ?_ (progress.step resolves apart own found ?_ _)
          · intro entry inside
            rcases List.mem_append.mp inside with old | new
            · exact List.mem_cons_of_mem slot (known entry old)
            · rw [List.mem_singleton.mp new]
              exact List.mem_cons_self
          · intro entry inside
            rcases List.mem_append.mp inside with old | new
            · exact .inl old
            · exact .inr ⟨content, rfl, List.mem_singleton.mp new⟩

theorem Progress.sound (progress : Progress setup resolution handler world)
    (distinct : setup.validateMembers = true) {world' : StoreWorld}
    (slots : handler'.slots = handler.slots) (valid : handler'.valid = handler.valid)
    (durable : setup.config.deploymentPath ≠ [] → Records setup world'.file handler'.state) :
    Sound setup handler' world' where
  valid := valid.trans progress.valid
  distinct := distinct
  cold _ := slots.trans progress.slots
  gate slot certificate cached := by
    rw [slots, progress.slots] at cached
    cases cached
  durable := durable

theorem Resolution.result_ok (ok : resolution.result = .ok all) : all = resolution.all := by
  unfold Resolution.result at ok
  split at ok
  · cases ok
  · cases ok
    rfl

def ResolvedSoundly (setup : StoreSetup)
    (result : Expected (List (SlotIndex × MemberContent)))
    (handler : TrustStoreHandler) (world : StoreWorld) : Prop :=
  Sound setup handler world ∧ handler.loaded = false ∧
    ∀ all, result = .ok all → ∀ entry ∈ all, ∀ anchor, entry.2.anchor = some anchor →
      Admits setup handler.state entry.1 anchor

theorem resolveAllLocked_spec (sound : Sound setup handler world)
    (cold : handler.loaded = false) :
    Ensures StoreAction.May (ResolvedSoundly setup) (resolveAllLocked setup) handler world := by
  unfold resolveAllLocked
  have start : Progress setup {} handler world :=
    { valid := sound.valid
      loaded := cold
      slots := sound.cold cold
      admitted := by simp
      revocable := fun somewhere => by
        rw [forget_eq (by simp)]
        exact sound.durable somewhere
      pending := by simp }
  refine .bind ((resolveMembers_spec setup.config.members (fun _ => id) sound.distinct
    (by simp) start).mono ?_)
  rintro resolution handler' world' ⟨rfl, progress⟩
  have admitted : ∀ all, resolution.result = .ok all → ∀ entry ∈ all, ∀ anchor,
      entry.2.anchor = some anchor → Admits setup handler'.state entry.1 anchor := by
    intro all ok entry inside
    rw [Resolution.result_ok ok] at inside
    exact progress.admitted entry inside
  split
  case isFalse unchanged =>
    have clean := forget_eq (progress.pending (Bool.not_eq_true _ ▸ unchanged))
    refine .pure ⟨?_, progress.loaded, admitted⟩
    exact progress.sound sound.distinct rfl rfl fun somewhere =>
      clean ▸ progress.revocable somewhere
  case isTrue =>
    refine .bind ((persistStateLocked_spec progress.revocable ?_ ?_).mono ?_)
    · intro slot missing
      unfold forget state
      rw [missing]
      split <;> rfl
    · intro slot nothing
      unfold forget
      split
      · rfl
      · exact nothing
    · rintro result handler'' world'' ⟨rfl, outcome⟩
      cases result with
      | ok _ =>
        refine .pure ⟨?_, progress.loaded, admitted⟩
        exact progress.sound sound.distinct rfl rfl fun somewhere => (outcome somewhere).records
      | error e =>
        cases outcome
        refine .bind ((rollBack_spec resolution.unaccepted).mono ?_)
        rintro undone rolled world' ⟨rfl, forgets, clean⟩
        have kept : Sound setup rolled world' :=
          progress.sound sound.distinct forgets.slots forgets.valid fun somewhere =>
            forgets.state ▸ progress.revocable somewhere
        have cold' := forgets.loaded.trans progress.loaded
        cases undone with
        | true => exact .pure ⟨kept, cold', fun all error => nomatch error⟩
        | false =>
          refine .pure ⟨kept, cold', ?_⟩
          rw [forgets.state, forget_eq (clean rfl)]
          exact admitted

/-! ### The cache and the reads -/

theorem foldl_cacheMember_lookup {α : Type} {part : MemberContent → Option α} {value : α}
    {cache : Finmap fun _ : SlotIndex => α}
    (inside : (all.foldl (cacheMember part) cache).lookup slot = some value) :
    cache.lookup slot = some value ∨ ∃ entry ∈ all, entry.1 = slot ∧ part entry.2 = some value := by
  induction all generalizing cache with
  | nil => exact .inl inside
  | cons first rest ih =>
    rcases ih inside with early | ⟨entry, later, named⟩
    · unfold cacheMember at early
      split at early
      case h_1 new given =>
        rcases eq_or_ne slot first.1 with rfl | differ
        · rw [Finmap.lookup_insert] at early
          cases early
          exact .inr ⟨first, List.mem_cons_self, rfl, given⟩
        · rw [Finmap.lookup_insert_of_ne _ differ] at early
          exact .inl early
      case h_2 => exact .inl early
    · exact .inr ⟨entry, List.mem_cons_of_mem _ later, named⟩

theorem cached_lookup {α : Type} {part : MemberContent → Option α} {value : α}
    (inside : (cached part all).lookup slot = some value) :
    ∃ entry ∈ all, entry.1 = slot ∧ part entry.2 = some value := by
  rcases foldl_cacheMember_lookup inside with nothing | found
  · cases nothing
  · exact found

theorem loadCache_keeps : Keeps StoreAction.May (Sound setup) (loadCache setup) := by
  intro handler world sound
  simp [loadCache, sound.valid, sound]
  intro unloaded
  refine (resolveAllLocked_spec sound unloaded).mono ?_
  rintro result handler' world' ⟨sound', -, admitted⟩
  cases result with
  | error e => exact sound'
  | ok all =>
    change Sound setup _ _
    refine { sound' with cold := Bool.noConfusion, gate := fun slot certificate inside => ?_ }
    rcases cached_lookup inside with ⟨entry, member, rfl, anchor⟩
    exact admitted all rfl entry member certificate anchor

theorem readMembers_anchors (sound : Sound setup handler world) :
    Ensures StoreAction.May
      (fun result handler' world' => Sound setup handler' world' ∧
        ∀ anchors, result = .ok anchors → ∀ entry ∈ anchors,
          Admits setup handler'.state entry.1 entry.2)
      (readMembers setup slots MemberContent.anchor) handler world := by
  simp only [readMembers, sound.valid, ensures_bind, ensures_get, ensures_ite, ensures_pure]
  refine ⟨by simp, fun _ => ⟨fun _ => ⟨sound, ?_⟩, fun unloaded => ?_⟩⟩
  · rintro anchors ⟨⟩ entry inside
    rcases Multiset.mem_map.mp inside with ⟨cached, known, rfl⟩
    exact sound.gate _ _ (Finmap.lookup_eq_some_iff.mpr known)
  · refine (resolveAllLocked_spec sound (by simpa using unloaded)).mono ?_
    rintro result handler' world' ⟨sound', -, admitted⟩
    cases result with
    | error e => exact ⟨sound', by simp⟩
    | ok all =>
      refine ⟨sound', ?_⟩
      rintro anchors ⟨⟩ entry inside
      rcases List.mem_filterMap.mp (Multiset.mem_coe.mp inside) with ⟨member, known, named⟩
      rcases Option.map_eq_some_iff.mp named with ⟨anchor, given, rfl⟩
      exact admitted all rfl member known anchor given

theorem readMembers_keeps {α : Type} (cache : TrustStoreHandler → Finmap fun _ : SlotIndex => α)
    (part : MemberContent → Option α) :
    Keeps StoreAction.May (Sound setup) (readMembers setup cache part) := by
  intro handler world sound
  simp [readMembers, sound.valid, sound]
  intro unloaded
  refine (resolveAllLocked_spec sound unloaded).mono ?_
  rintro result handler' world' ⟨sound', -, -⟩
  cases result <;> exact sound'

/-! ### Notifications -/

theorem Sound.settle {next : MemberState} {changed : Bool} (sound : Sound setup handler world)
    (at_ : StateAt slot next handler handler')
    (change : StateChange member (handler.state slot) next changed)
    (settled : member.kind = .conditionalExternal →
      (handler.state slot).acceptedFingerprint ≠ none) : Sound setup handler' world := by
  have within : ∀ other, (handler'.state other).Within (handler.state other) := by
    intro other
    rw [at_.state]
    rcases eq_or_ne other slot with rfl | differ
    · rw [Function.update_self]
      cases change with
      | kept => exact .refl _
      | disabled => exact MemberState.within_disabled _
      | accepted fingerprint external first => exact absurd first (settled external)
    · rw [Function.update_of_ne differ]
      exact .refl _
  refine ⟨at_.valid.trans sound.valid, sound.distinct, ?_, ?_, ?_⟩
  · intro cold
    exact at_.slots.trans (sound.cold (at_.loaded.symm.trans cold))
  · intro other certificate cached
    rw [at_.slots] at cached
    exact (sound.gate other certificate cached).congr (within other).2
  · exact fun somewhere => (sound.durable somewhere).mono within

theorem refreshMemberLocked_keeps (sound : Sound setup handler world)
    (listed : member ∈ setup.config.members) (found : setup.slotOf member = .ok slot)
    (settled : member.kind = .conditionalExternal →
      (handler.state slot).acceptedFingerprint ≠ none) :
    Ensures StoreAction.May (fun _ => Sound setup) (refreshMemberLocked setup member slot)
      handler world := by
  rw [refreshMemberLocked, ensures_bind]
  refine resolveMemberContentLocked_spec.mono ?_
  rintro ⟨content | content, changed⟩ handler' world' ⟨rfl, next, at_, change, gated⟩
  · exact (sound.settle at_ change settled).clearCache
  · refine Sound.setCrl (Sound.setAnchor (sound.settle at_ change settled) ?_) slot content.crl
    intro anchor named
    refine ⟨member, listed, found, fun external => ?_⟩
    rw [at_.state, Function.update_self]
    exact gated content rfl anchor named external

theorem Sound.withdrawAnchor (sound : Sound setup handler world) (slot : SlotIndex) :
    Sound setup (handler.setAnchorLocked slot none) world :=
  sound.setAnchor (by simp)

theorem memberChanged_keeps (listed : member ∈ setup.config.members)
    (found : setup.slotOf member = .ok slot) :
    Keeps StoreAction.May (Sound setup) (memberChanged setup member slot) := by
  intro handler world sound
  have withdrawn : ∀ changed : TrustStoreHandler, Sound setup changed world →
      Sound setup ((changed.setAnchorLocked slot none).setCrlLocked slot none) world :=
    fun changed kept => Sound.setCrl (kept.withdrawAnchor slot) slot none
  have disabled := withdrawn ((handler.touch slot).disable slot) ((sound.touch slot).setState_disabled slot)
  have kept := withdrawn _ (sound.touch slot)
  simp [memberChanged, acceptedFingerprintMatchesLocked, sound]
  refine ⟨fun external => ?_, fun shared _ => ?_⟩
  · cases known : (handler.state slot).acceptedFingerprint with
    | none => simp [disabled, kept]
    | some accepted =>
      simp [disabled, kept, sound.touch]
      exact fun _ _ _ => refreshMemberLocked_keeps (sound.touch slot) listed found (by simp [known])
  · exact refreshMemberLocked_keeps sound listed found fun external => absurd external shared

theorem membersChanged_keeps (rest : List TrustStoreMemberConfig)
    (listed : ∀ member ∈ rest, member ∈ setup.config.members) :
    Keeps StoreAction.May (Sound setup) (membersChanged setup slot rest) := by
  induction rest with
  | nil => exact .pure false
  | cons member rest ih =>
    have later := ih fun member inside => listed member (List.mem_cons_of_mem _ inside)
    unfold membersChanged
    split
    case isTrue refers =>
      refine .bind (memberChanged_keeps (listed member List.mem_cons_self)
        (StoreSetup.refersTo_iff.mp refers)) fun changed => ?_
      exact later.bind fun others => .pure _
    case isFalse => exact later

theorem Sound.persists (sound : Sound setup handler world) :
    Ensures StoreAction.May (fun _ handler' world' => Sound setup handler' world' ∧ handler' = handler)
      (persistStateLocked setup) handler world := by
  refine (persistStateLocked_spec sound.durable ?_ fun _ => id).mono ?_
  · intro slot missing
    rw [state, missing]
    rfl
  · rintro result handler' world' ⟨rfl, outcome⟩
    refine ⟨?_, rfl⟩
    cases result with
    | ok _ => exact { sound with durable := fun somewhere => (outcome somewhere).records }
    | error e =>
      cases outcome
      exact sound

theorem onSlotChanged_keeps : Keeps StoreAction.May (Sound setup) (onSlotChanged setup slot) := by
  intro handler world sound
  simp [onSlotChanged, sound.valid]
  refine (membersChanged_keeps _ (fun _ => id) _ _ sound).mono fun changed handler' world' sound' => ?_
  exact ⟨fun _ => sound'.persists.mono fun _ _ _ kept => kept.1, fun _ => sound'⟩

/-! ### Mutations -/

theorem putCrl_keeps (crl : CrlData) : Keeps StoreAction.May (Sound setup) (putCrl slot crl) := by
  intro handler world sound
  simp [putCrl, sound]

theorem putGivenCrl_keeps (crl : Option CrlData) :
    Keeps StoreAction.May (Sound setup) (putGivenCrl slot crl) := by
  cases crl with
  | none => exact .pure _
  | some crl => exact putCrl_keeps crl

theorem refreshGivenCrl_keeps (crl : Option CrlData) :
    Keeps StoreAction.May (Sound setup) (refreshGivenCrl slot crl) :=
  .ite (fun _ => refreshMemberCrlLocked_keeps true) fun _ => .pure ()

theorem reenable_keeps {certificate : Option CertObject} (sound : Sound setup handler world)
    (listed : member ∈ setup.config.members) (found : setup.slotOf member = .ok slot)
    (gated : member.kind = .conditionalExternal → ∀ anchor, certificate = some anchor →
      (handler.state slot).acceptedFingerprint = some anchor.fingerprint) :
    Ensures StoreAction.May (fun _ => Sound setup)
      (enableAndPublish setup slot { handler.state slot with enabled := true } certificate)
      (handler.touch slot) world :=
  enableAndPublish_keeps (sound.touch slot) listed found (by simp) (by simpa using gated)

theorem upsertMember_keeps (listed : member ∈ setup.config.members)
    (found : setup.slotOf member = .ok slot) (exclusive : member.kind = .exclusiveMutable)
    (certificate : CertObject) (crl : Option CrlData) :
    Keeps StoreAction.May (Sound setup) (upsertMember setup slot certificate crl) := by
  refine .bind (putGivenCrl_keeps crl) fun stored => ?_
  cases stored with
  | error e => exact .pure _
  | ok _ =>
    refine .bind (refreshGivenCrl_keeps crl) fun _ handler world sound => ?_
    simp
    exact reenable_keeps sound listed found (by simp [exclusive])

theorem addToHolder_keeps (certificate : CertObject) (crl : Option CrlData)
    (rest : List TrustStoreMemberConfig) (listed : ∀ member ∈ rest, member ∈ setup.config.members) :
    Keeps StoreAction.May (Sound setup) (addToHolder setup certificate crl rest) := by
  induction rest with
  | nil => exact .pure none
  | cons member rest ih =>
    intro handler world sound
    have later := ih (fun member inside => listed member (List.mem_cons_of_mem _ inside)) _ _ sound
    simp [addToHolder, sound, later]
    intro slot found _ current _ exclusive
    exact upsertMember_keeps (listed member List.mem_cons_self) found exclusive certificate crl _ _ sound

theorem clearAdded_keeps : Keeps StoreAction.May (Sound setup) (clearAdded slot) := by
  intro handler world sound
  simp [clearAdded, sound]

theorem Sound.reenabled {world' : StoreWorld} (sound : Sound setup handler world)
    (durable : setup.config.deploymentPath ≠ [] → Records setup world'.file
      ((handler.touch slot).setState slot { handler.state slot with enabled := true }).state) :
    Sound setup ((handler.touch slot).setState slot { handler.state slot with enabled := true }) world' := by
  refine ⟨sound.valid, sound.distinct, sound.cold, fun other certificate cached => ?_, durable⟩
  apply (sound.gate other certificate cached).congr
  rw [state_setState]
  split
  case isTrue same => rw [same]
  case isFalse => rw [state_touch]

theorem storeMember_keeps (listed : member ∈ setup.config.members)
    (found : setup.slotOf member = .ok slot) (exclusive : member.kind = .exclusiveMutable)
    (certificate : CertObject) (crl : Option CrlData) :
    Keeps StoreAction.May (Sound setup) (storeMember setup slot certificate crl) := by
  intro handler world sound
  simp [storeMember, sound]
  refine (putGivenCrl_keeps crl _ _ sound).mono fun stored handler world sound => ?_
  cases stored with
  | error e => exact clearAdded_keeps.bind (fun _ => .pure _) _ _ sound
  | ok _ =>
    simp
    refine (commitStateLocked_spec (sound.touch slot) (by simp)).mono ?_
    rintro result handler' world' outcome
    cases result with
    | error e =>
      rcases outcome with ⟨rfl, rfl⟩
      exact clearAdded_keeps.bind (fun _ => .pure _) _ _ (sound.touch slot)
    | ok _ =>
      rcases outcome with ⟨rfl, durable⟩
      simp
      refine (refreshMemberCrlLocked_keeps true _ _ (sound.reenabled durable)).mono ?_
      exact fun _ _ _ sound => sound.setAnchor fun _ _ => ⟨member, listed, found, by simp [exclusive]⟩

theorem addToEmpty_keeps (certificate : CertObject) (crl : Option CrlData)
    (rest : List TrustStoreMemberConfig) (listed : ∀ member ∈ rest, member ∈ setup.config.members) :
    Keeps StoreAction.May (Sound setup) (addToEmpty setup certificate crl rest) := by
  induction rest with
  | nil => exact .pure _
  | cons member rest ih =>
    intro handler world sound
    have later := ih (fun member inside => listed member (List.mem_cons_of_mem _ inside)) _ _ sound
    simp [addToEmpty, later]
    intro exclusive slot found _ state
    cases state with
    | empty =>
      exact storeMember_keeps (listed member List.mem_cons_self) found exclusive certificate crl _ _ sound
    | occupied => exact later

theorem addMember_keeps (certificate : CertObject) (crl : Option CrlData) :
    Keeps StoreAction.May (Sound setup) (addMember setup certificate crl) := by
  refine Keeps.guarded (fun _ _ sound => sound.valid)
    (Keeps.bind (addToHolder_keeps certificate _ _ fun _ => id) fun held => ?_)
  cases held with
  | none => exact addToEmpty_keeps certificate _ _ fun _ => id
  | some result => exact Keeps.pure result

theorem withExclusiveMember_keeps {change : StoreProg (Expected Unit)}
    (keeps : Keeps StoreAction.May (Sound setup) change) (rest : List TrustStoreMemberConfig) :
    Keeps StoreAction.May (Sound setup) (withExclusiveMember setup slot change rest) := by
  induction rest with
  | nil => exact .pure _
  | cons member rest ih =>
    intro handler world sound
    have later := ih handler world sound
    simp [withExclusiveMember, later, sound]
    exact fun _ _ _ _ _ => keeps handler world sound

theorem storeCrlForMember_keeps (crl : CrlData) :
    Keeps StoreAction.May (Sound setup) (storeCrlForMember setup slot crl) := by
  refine Keeps.guarded (fun _ _ sound => sound.valid) (withExclusiveMember_keeps ?_ _)
  intro handler world sound
  simp [putCrl, sound]
  exact refreshActiveMemberCrlLocked_keeps handler world sound

theorem clearCrlForMember_keeps :
    Keeps StoreAction.May (Sound setup) (clearCrlForMember setup slot) := by
  refine Keeps.guarded (fun _ _ sound => sound.valid) (withExclusiveMember_keeps ?_ _)
  intro handler world sound
  simp [sound, sound.setCrl]

theorem Sound.lookup_withdrawn (sound : Sound setup handler world) (slot : SlotIndex) :
    (handler.setAnchorLocked slot none).slots.lookup slot = none := by
  unfold setAnchorLocked
  split
  case isTrue => exact Finmap.lookup_erase slot _
  case isFalse unloaded =>
    rw [sound.cold (Bool.not_eq_true _ ▸ unloaded)]
    rfl

/-- A member without trust: it is disabled, and no anchor is cached for it. -/
def Withdrawn (slot : SlotIndex) (handler : TrustStoreHandler) : Prop :=
  handler.slots.lookup slot = none ∧ (handler.state slot).enabled = false

theorem withdraw_spec (sound : Sound setup handler world) :
    Ensures StoreAction.May
      (fun _ handler' world' => Sound setup handler' world' ∧ Withdrawn slot handler')
      (withdraw setup slot) handler world := by
  have disabled : Sound setup (handler.disable slot) world := sound.setState_disabled slot
  simp [withdraw]
  refine (Sound.setCrl (disabled.withdrawAnchor slot) slot none).persists.mono ?_
  rintro result handler' world' ⟨sound', rfl⟩
  refine ⟨sound', ?_, ?_⟩
  · rw [slots_setCrlLocked]
    exact disabled.lookup_withdrawn slot
  · simp [disable]

theorem withdraw_keeps : Keeps StoreAction.May (Sound setup) (withdraw setup slot) :=
  fun _ _ sound => (withdraw_spec sound).mono fun _ _ _ kept => kept.1

theorem removeFrom_keeps (fingerprint : Bytes) (rest : List TrustStoreMemberConfig) :
    Keeps StoreAction.May (Sound setup) (removeFrom setup fingerprint rest) := by
  intro handler world sound
  induction rest with
  | nil => exact sound
  | cons member rest ih =>
    simp [removeFrom, ih, sound]
    exact fun _ slot found _ current _ => withdraw_keeps handler world sound

theorem enableConditional_keeps (listed : member ∈ setup.config.members)
    (found : setup.slotOf member = .ok slot) :
    Keeps StoreAction.May (Sound setup) (enableConditional setup slot) := by
  intro handler world sound
  simp [enableConditional, sound, sound.touch]
  exact fun _ certificate accepted => reenable_keeps sound listed found (by simp [accepted])

theorem enableMember_keeps : Keeps StoreAction.May (Sound setup) (enableMember setup slot) := by
  refine Keeps.guarded (fun _ _ sound => sound.valid) ?_
  cases found : setup.findMember slot with
  | none => exact Keeps.pure _
  | some member =>
    rcases StoreSetup.findMember_some found with ⟨listed, own⟩
    refine .ite (fun _ => enableConditional_keeps listed own) fun shared handler world sound => ?_
    simp
    exact ⟨fun _ => reenable_keeps sound listed own (by simp [shared]),
      fun _ => reenable_keeps sound listed own (by simp [shared])⟩

theorem disableMember_keeps : Keeps StoreAction.May (Sound setup) (disableMember setup slot) := by
  refine Keeps.guarded (fun _ _ sound => sound.valid) ?_
  cases setup.findMember slot with
  | none => exact Keeps.pure _
  | some member => exact withdraw_keeps

theorem acknowledgeConditional_keeps (listed : member ∈ setup.config.members)
    (found : setup.slotOf member = .ok slot) (expected : Bytes) :
    Keeps StoreAction.May (Sound setup) (acknowledgeConditional setup slot expected) := by
  intro handler world sound
  simp [acknowledgeConditional, sound]
  exact fun _ certificate _ => enableAndPublish_keeps (sound.touch slot) listed found (by simp) (by simp)

theorem acknowledgeMemberUpdate_keeps (expected : Bytes) :
    Keeps StoreAction.May (Sound setup) (acknowledgeMemberUpdate setup slot expected) := by
  refine Keeps.ite (fun _ => Keeps.pure _) fun _ => Keeps.guarded (fun _ _ sound => sound.valid) ?_
  cases found : setup.findMember slot with
  | none => exact Keeps.pure _
  | some member =>
    rcases StoreSetup.findMember_some found with ⟨listed, own⟩
    exact .ite (fun _ => acknowledgeConditional_keeps listed own expected) fun _ => .pure _

theorem Call.program_keeps (call : Call) :
    Keeps StoreAction.May (Sound setup) (call.program setup) := by
  cases call with
  | loadCache => exact loadCache_keeps.bind fun _ => .pure _
  | clearCache => exact .bind (.modify fun _ _ sound => sound.clearCache) fun _ => .pure _
  | getAnchors | getCrls => 
      exact ((readMembers_keeps _ _).bind fun _ => .pure _).bind fun _ => .pure _
  | onSlotChanged slot => exact onSlotChanged_keeps.bind fun _ => .pure _
  | onSlotCrlChanged slot => exact refreshActiveMemberCrlLocked_keeps.bind fun _ => .pure _
  | addMember certificate crl => exact (addMember_keeps certificate crl).bind fun _ => .pure _
  | removeMember fingerprint =>
    exact .bind (Keeps.guarded (fun _ _ sound => sound.valid) (removeFrom_keeps fingerprint _))
      fun _ => .pure _
  | enableMember slot => exact enableMember_keeps.bind fun _ => .pure _
  | disableMember slot => exact disableMember_keeps.bind fun _ => .pure _
  | acknowledgeMemberUpdate slot expected =>
    exact (acknowledgeMemberUpdate_keeps expected).bind fun _ => .pure _
  | storeCrlForMember slot crl => exact (storeCrlForMember_keeps crl).bind fun _ => .pure _
  | clearCrlForMember slot => exact clearCrlForMember_keeps.bind fun _ => .pure _

/-! ### Stores that are not valid -/

section Invalid

variable {S : Type} {may : (act : StoreAction) → S → act.Res → S → Prop}
  {dead : TrustStoreHandler → Prop} (invalid : ∀ handler, dead handler → handler.valid = false)

include invalid

theorem guarded_invalid {α : Type} {failed : StoreProg α} {call : TrustStoreHandler → StoreProg α}
    (fails : Keeps may (fun handler _ => dead handler) failed) :
    Keeps may (fun handler _ => dead handler) (do
      let handler ← get
      if handler.valid = false then failed else call handler) := by
  intro handler s holds
  apply Ensures.get_bind
  rw [if_pos (invalid handler holds)]
  exact fails handler s holds

theorem Call.program_invalid (clears : ∀ handler, dead handler → dead handler.clearCacheLocked)
    (sets : ∀ handler slot data, dead handler → dead (handler.setCrlLocked slot data))
    (call : Call) : Keeps may (fun handler _ => dead handler) (call.program setup) := by
  cases call with
  | clearCache => exact .bind (.modify fun handler _ => clears handler) fun _ => .pure _
  | onSlotCrlChanged slot =>
    exact .bind (refreshActiveMemberCrlLocked_invariant (fun _ _ _ _ _ => id)
      (fun handler _ => clears handler) fun handler _ => sets handler slot) fun _ => .pure _
  | getAnchors | getCrls =>
    exact .bind (.bind (guarded_invalid invalid (.pure _)) fun _ => .pure _)
      fun _ => .pure _
  | acknowledgeMemberUpdate slot expected =>
    refine .bind (.ite (fun _ => .pure _) fun _ => ?_) fun _ => .pure _
    exact guarded_invalid invalid (.pure _)
  | _ => exact .bind (guarded_invalid invalid (.pure _)) fun _ => .pure _

end Invalid

end TrustStore

end ScoreCrypto.CertManagement
