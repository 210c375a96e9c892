import ScoreCrypto.CertManagement.StoreHistory
import ScoreCrypto.CertManagement.WarmMutations

/-!
A trust store that has been running for a while against one that is constructed now: what the one has
in its cache and what the other reads from the slots.
-/

namespace ScoreCrypto.CertManagement

open Storage Stateful Program

namespace TrustStore

variable {setup : StoreSetup} {medium : Medium} {handler : TrustStoreHandler} {backend : Backend}
  {files : Files} {slot : SlotIndex}

/-! ### Construction -/

theorem loadMembers_cold {S : Type} {may : (act : StoreAction) → S → act.Res → S → Prop}
    (content : Section) (members : List TrustStoreMemberConfig) :
    Keeps may (fun handler _ => handler.loaded = false) (loadMembers setup content members) := by
  induction members with
  | nil => exact .pure _
  | cons member rest ih =>
    unfold loadMembers
    split
    · exact ih
    · split
      · exact ih
      · split
        · exact .pure _
        · exact .bind (.modify fun _ _ => id) fun _ => ih

theorem loadState_cold {S : Type} {may : (act : StoreAction) → S → act.Res → S → Prop} :
    Keeps may (fun handler _ => handler.loaded = false) (loadState setup) := by
  refine .ite (fun _ => .pure _) fun _ =>
    .bind (.perform fun _ _ _ _ _ => id) fun found => ?_
  match found with
  | .error e => exact .pure _
  | .ok false => exact .pure _
  | .ok true =>
    refine .bind (.perform fun _ _ _ _ _ => id) fun read => ?_
    cases read with
    | error e => exact .pure _
    | ok descriptor => exact .ite (fun _ => loadMembers_cold _ _) fun _ => .pure _

theorem loadState_acts (somewhere : setup.config.deploymentPath ≠ [])
    (distinct : setup.validateMembers = true) :
    Ensures (StoreAction.Acts setup.registry medium)
      (fun usable handler' backend' => backend' = backend ∧
        (usable = true → ∃ file, backend.Reads ⟨backend.content, file⟩ ∧
          Exact setup file handler'.state) ∧
        (usable = false → ∀ files state, backend.Reads files → ¬ Exact setup files.file state))
      (loadState setup) {} backend := by
  unfold loadState
  rw [if_neg somewhere]
  refine .perform_bind fun answer backend' acts => ?_
  cases acts
  cases there : backend.file with
  | none =>
    refine .pure ⟨rfl, fun _ => ⟨none, ⟨rfl, there⟩, ?_⟩, by simp⟩
    exact fun slot member _ => persistedState_empty member
  | some bytes =>
    refine .perform_bind fun answer backend' acts => ?_
    cases acts
    cases read : load backend.file with
    | error e =>
      refine .pure ⟨rfl, by simp, fun _ files state reads => ?_⟩
      have file := reads.file
      rw [read, there] at file
      split at file <;> cases file
    | ok descriptor =>
      have mine : backend.Reads ⟨backend.content, some descriptor⟩ := ⟨rfl, read⟩
      have same {files : Files} (reads : backend.Reads files) : files.file = some descriptor :=
        mine.file_eq reads rfl
      simp only
      split
      case isTrue =>
        refine (loadMembers_spec descriptor _ (fromDescriptor_new descriptor)).mono ?_
        rintro usable handler' backend' ⟨rfl, loads, malformed⟩
        refine ⟨rfl, fun ok => ⟨some descriptor, mine, ?_⟩, fun no files state reads exact => ?_⟩
        · intro slot member known
          rcases StoreSetup.findMember_some known with ⟨listed, found⟩
          exact (loads ok).taken member slot found (.inl listed)
        · rcases malformed no with ⟨member, listed, slot, found, unreadable⟩
          rw [same reads] at exact
          cases unreadable.symm.trans
            (exact slot member (StoreSetup.findMember_of distinct listed found))
      case isFalse absent =>
        refine .pure ⟨rfl, fun _ => ⟨some descriptor, mine, ?_⟩, by simp⟩
        exact fun slot member _ => persistedState_absent absent member

def Follows (setup : StoreSetup) (store : TrustStoreHandler × Backend) : Prop :=
  store.2.Coherent ∧ ∃ files, store.2.Reads files ∧ Tracks setup store.1 files

theorem construct_follows (somewhere : setup.config.deploymentPath ≠ []) (coherent : backend.Coherent)
    (readable : ∀ slot, (backend.content slot).Readable) :
    Ensures (StoreAction.Acts setup.registry medium)
      (fun _ handler' backend' => (handler'.valid = false ∧ handler'.loaded = false ∨
          Follows setup (handler', backend')) ∧ backend' = backend ∧
        ∀ files state, setup.validateMembers = true → backend.Reads files →
          Exact setup files.file state → Follows setup (handler', backend'))
      (construct setup) {} backend := by
  unfold construct
  split
  case isFalse repeated =>
    exact .pure ⟨.inl ⟨rfl, rfl⟩, rfl, fun files state distinct => absurd distinct repeated⟩
  case isTrue distinct =>
    have cold : Ensures (StoreAction.Acts setup.registry medium)
        (fun _ handler' _ => handler'.loaded = false) (loadState setup) {} backend :=
      loadState_cold _ _ rfl
    refine Ensures.bind ((cold.and (loadState_acts somewhere distinct)).mono ?_)
    rintro usable handler' backend' ⟨unloaded, rfl, exact, unreadable⟩
    apply Ensures.modify
    cases usable with
    | false => exact ⟨.inl ⟨rfl, unloaded⟩, rfl, fun files state _ reads exact' =>
      absurd exact' (unreadable rfl files state reads)⟩
    | true =>
      rcases exact rfl with ⟨file, reads, exact⟩
      have follows : Follows setup ({ handler' with valid := true }, backend') :=
        ⟨coherent, _, reads, rfl, distinct, exact, readable, fun warm => by
          cases unloaded.symm.trans warm⟩
      exact ⟨.inr follows, rfl, fun _ _ _ _ _ => follows⟩

/-! ### Events -/

variable (setup medium)

def execute {α : Type} (program : StoreProg α) (store : TrustStoreHandler × Backend) :
    α × TrustStoreHandler × Backend :=
  let ends := exec (StoreAction.serve setup.registry medium) (program store.1) store.2
  (ends.1.1, ends.1.2, ends.2)

inductive StoreEvent where
  | call (called : Call)
  /-- Somebody else has replaced the content of a slot, and the notification follows. -/
  | slotChanged (slot : SlotIndex) (after : Slot)
  | crlChanged (slot : SlotIndex) (after : Slot)
  /-- Somebody else has used the slot manager. -/
  | managerUsed (slots : SlotManager)

def Backend.replace (backend : Backend) (slot : SlotIndex) (after : Slot) : Backend :=
  { backend with slots := Function.update backend.slots slot after }

variable (store : TrustStoreHandler × Backend)

def step : StoreEvent → TrustStoreHandler × Backend
  | .call called => (execute setup medium (called.program setup) store).2
  | .slotChanged slot after =>
    (execute setup medium (onSlotChanged setup slot) (store.1, Backend.replace store.2 slot after)).2
  | .crlChanged slot after =>
    (execute setup medium (onSlotCrlChanged slot) (store.1, Backend.replace store.2 slot after)).2
  | .managerUsed slots => (store.1, { store.2 with slots := slots })

def constructed (backend : Backend) : TrustStoreHandler × Backend :=
  (execute setup medium (construct setup) ({}, backend)).2

/-- Contents can be read, a CRL notification is about a CRL, and the manager serves what the slots
hold. -/
def Admissible : StoreEvent → Prop
  | .call _ => True
  | .slotChanged _ after => after.content.Readable
  | .crlChanged slot after =>
    after.content.Readable ∧ after.Agrees .certificate ∧
      after.content.certificate = (store.2.content slot).certificate
  | .managerUsed slots => SameContent store.2.slots slots

/-- What a call needs in order not to enable a member over a CRL that the cache does not have. -/
def Call.CrlKnown (handler : TrustStoreHandler) (contents : SlotIndex → SlotContent) : Call → Prop
  | .enableMember slot | .acknowledgeMemberUpdate slot _ => CrlCurrent handler contents slot
  | .addMember certificate crl => (crl.filter fun crl => crl.bytes ≠ []) = none →
      HolderCurrent setup certificate handler contents setup.config.members
  | _ => True

/-- No call that succeeds enables a member over a CRL that the cache does not have, and the manager
has nothing of the old CRL when it is told of a new one. -/
def Refreshing : StoreEvent → Prop
  | .call called => (execute setup medium (called.program setup) store).1 = .done (.ok ()) →
      called.CrlKnown setup store.1 store.2.content
  | .crlChanged _ after => after.Agrees .crl
  | _ => True

def Durable (event : StoreEvent) : Prop :=
  let fine {α : Type} (program : StoreProg α) (backend : Backend) : Prop :=
    Along (StoreAction.serve setup.registry medium) (StoreAction.ReadsBack setup.registry medium)
      (program store.1) backend
  match event with
  | .call called => fine (called.program setup) store.2
  | .slotChanged slot after => fine (onSlotChanged setup slot) (Backend.replace store.2 slot after)
  | .crlChanged slot after => fine (onSlotCrlChanged slot) (Backend.replace store.2 slot after)
  | .managerUsed _ => True

def SameAnswers {α : Type} (read : StoreProg (Expected (Multiset α)))
    (warm cold : TrustStoreHandler × Backend) : Prop :=
  ∃ found found', (execute setup medium read warm).1 = .ok found ∧
    (execute setup medium read cold).1 = .ok found' ∧ ∀ value, value ∈ found ↔ value ∈ found'

/-- A warm store answers as one that is constructed over the same slots and the same state file. -/
def WarmAsCold : Prop :=
  store.1.loaded = true → ∀ fresh : Backend, fresh.content = store.2.content →
    fresh.file = store.2.file → fresh.Coherent →
      SameAnswers setup medium (getAnchors setup) store (constructed setup medium fresh) ∧
        SameAnswers setup medium (getCrls setup) store (constructed setup medium fresh)

/-! ### Runs -/

section Runs

variable {setup medium} (somewhere : setup.config.deploymentPath ≠ [])
  (few : setup.registry.registry.length < 2 ^ 32) {α : Type}

theorem execute_ensures {program : StoreProg α}
    {post : α → TrustStoreHandler → Backend → Prop}
    (ensures : Ensures (StoreAction.Acts setup.registry medium) post program handler backend) :
    post (execute setup medium program (handler, backend)).1
      (execute setup medium program (handler, backend)).2.1
      (execute setup medium program (handler, backend)).2.2 :=
  Surely.exec ensures

def DeadOrFollows (setup : StoreSetup) (store : TrustStoreHandler × Backend) : Prop :=
  store.1.valid = false ∧ store.1.loaded = false ∨ Follows setup store

section Plain

variable {α : Type} {program : StoreProg α} {due : Due} (lags : Lags due files backend)
  (durable : Along (StoreAction.serve setup.registry medium)
    (StoreAction.ReadsBack setup.registry medium) (program handler) backend)

include lags durable

theorem execute_plain {post : StoreAction.PlainPost α}
    (ensures : Ensures (StoreAction.Plainly setup.registry medium.crl) post program handler (files, due)) :
    ∃ state, Lags state.2 state.1 (execute setup medium program (handler, backend)).2.2 ∧
      post (execute setup medium program (handler, backend)).1
        (execute setup medium program (handler, backend)).2.1 state :=
  Surely.exec_along durable (surely_of_plain lags ensures)

theorem execute_follows
    (ensures : Ensures (StoreAction.Plainly setup.registry medium.crl) (fun _ => Tracking setup) program
      handler (files, due)) :
    Follows setup (execute setup medium program (handler, backend)).2 := by
  rcases execute_plain lags durable ensures with ⟨state, lags', files', rfl, tracks⟩
  exact ⟨lags'.coherent, files', lags'.reads, tracks⟩

end Plain

include somewhere few in
theorem Call.program_tracks (call : Call) (changed : ∀ slot, call ≠ .onSlotChanged slot)
    (tracks : Tracks setup handler files) :
    StoreAction.Plain setup.registry medium.crl
      (fun response handler' state' =>
        (response = .done (.ok ()) → call.CrlKnown setup handler files.content) →
          Tracking setup handler' state')
      (call.program setup) handler files := by
  have done {α : Type} {program : StoreProg α} {known : Response → Prop} (response : α → Response)
      (ensures : StoreAction.Plain setup.registry medium.crl (fun _ => Tracking setup) program handler
        files) :
      StoreAction.Plain setup.registry medium.crl
        (fun value handler' state' => known value → Tracking setup handler' state')
        (program >>= fun value => pure (response value)) handler files :=
    .bind (ensures.mono fun _ _ _ tracking _ => tracking)
  have doneIf {program : StoreProg (Expected Unit)} {known : Prop}
      (ensures : StoreAction.Plain setup.registry medium.crl
        (fun result handler' state' => (result = .ok () → known) → Tracking setup handler' state')
        program handler files) :
      StoreAction.Plain setup.registry medium.crl
        (fun response handler' state' => (response = Response.done (.ok ()) → known) →
          Tracking setup handler' state')
        (program >>= fun result => pure (Response.done result)) handler files :=
    .bind (ensures.mono fun _ _ _ tracking known => tracking fun ok => known (congrArg _ ok))
  cases call with
  | loadCache => exact done _ (loadCache_tracks somewhere few _ _ tracks.now)
  | clearCache => exact done _ (.modify tracks.clearCache.now)
  | getAnchors | getCrls =>
    refine done _ (.bind ((readMembers_plain somewhere few (fun _ => rfl) rfl tracks).mono ?_))
    rintro result handler' state' ⟨found, files', rfl, rfl, answers⟩
    exact answers.tracks.now
  | onSlotChanged slot => exact absurd rfl (changed slot)
  | onSlotCrlChanged slot =>
    refine done _ ?_
    rw [← files.put_self slot]
    exact refreshActiveMemberCrlLocked_tracks few tracks (tracks.readable slot) rfl
  | addMember certificate crl => exact doneIf (addMember_tracks somewhere few tracks)
  | removeMember fingerprint =>
    exact done _ (removeMember_tracks somewhere few fingerprint _ _ tracks.now)
  | enableMember slot => exact doneIf (enableMember_tracks somewhere few tracks)
  | disableMember slot => exact done _ (disableMember_tracks somewhere _ _ tracks.now)
  | acknowledgeMemberUpdate slot expected =>
    exact doneIf (acknowledgeMemberUpdate_tracks somewhere expected tracks)
  | storeCrlForMember slot crl => exact done _ (storeCrlForMember_tracks few crl _ _ tracks.now)
  | clearCrlForMember slot => exact done _ (clearCrlForMember_tracks few _ _ tracks.now)

include somewhere few in
theorem Call.program_follows {call : Call} (follows : Follows setup (handler, backend))
    (refreshing : Refreshing setup medium (handler, backend) (.call call))
    (durable : Durable setup medium (handler, backend) (.call call)) :
    Follows setup (execute setup medium (call.program setup) (handler, backend)).2 := by
  rcases follows with ⟨coherent, files, reads, tracks⟩
  by_cases changed : ∃ slot, call = .onSlotChanged slot
  · rcases changed with ⟨slot, rfl⟩
    have lags : Lags (.caches slot) (files.put slot (files.content slot)) backend := by
      rw [files.put_self]
      exact ⟨reads, fun other part _ => coherent other part⟩
    refine execute_follows lags durable (.bind ?_)
    exact onSlotChanged_tracks somewhere few tracks (tracks.readable slot)
  · rcases execute_plain (coherent.lags reads) durable (Call.program_tracks somewhere few call
      (not_exists.mp changed) tracks) with ⟨state, lags', tracking⟩
    rcases tracking (reads.content ▸ refreshing) with ⟨files', rfl, tracks'⟩
    exact ⟨lags'.coherent, files', lags'.reads, tracks'⟩

theorem onSlotChanged_dead (dead : handler.valid = false ∧ handler.loaded = false) :
    Ensures (StoreAction.Acts setup.registry medium)
      (fun _ handler' _ => handler'.valid = false ∧ handler'.loaded = false)
      (onSlotChanged setup slot) handler backend := by
  unfold onSlotChanged
  apply Ensures.get_bind
  rw [if_pos dead.1]
  exact Ensures.pure dead

theorem onSlotCrlChanged_dead (dead : handler.valid = false ∧ handler.loaded = false) :
    Ensures (StoreAction.Acts setup.registry medium)
      (fun _ handler' _ => handler'.valid = false ∧ handler'.loaded = false)
      (onSlotCrlChanged slot) handler backend := by
  unfold onSlotCrlChanged refreshActiveMemberCrlLocked
  apply Ensures.get_bind
  rw [if_neg (by simp [dead.2])]
  exact Ensures.pure dead

theorem step_dead {store : TrustStoreHandler × Backend}
    (dead : store.1.valid = false ∧ store.1.loaded = false) (event : StoreEvent) :
    (step setup medium store event).1.valid = false ∧
      (step setup medium store event).1.loaded = false := by
  cases event with
  | call call =>
    have stays : Keeps (StoreAction.Acts setup.registry medium)
        (fun handler _ => handler.valid = false ∧ handler.loaded = false) (call.program setup) := by
      apply Call.program_invalid
      · exact fun handler dead => dead.1
      · exact fun handler dead => ⟨dead.1, rfl⟩
      · exact fun handler slot data dead => ⟨(handler.valid_setCrlLocked slot data).trans dead.1,
          (handler.loaded_setCrlLocked slot data).trans dead.2⟩
    exact execute_ensures (stays store.1 store.2 dead)
  | slotChanged slot after => exact execute_ensures (onSlotChanged_dead dead)
  | crlChanged slot after => exact execute_ensures (onSlotCrlChanged_dead dead)
  | managerUsed slots => exact dead

include somewhere few in
theorem step_follows {store : TrustStoreHandler × Backend} {event : StoreEvent}
    (follows : Follows setup store) (admissible : Admissible store event)
    (refreshing : Refreshing setup medium store event) (durable : Durable setup medium store event) :
    Follows setup (step setup medium store event) := by
  cases event with
  | call call => exact Call.program_follows somewhere few follows refreshing durable
  | slotChanged slot after =>
    rcases follows with ⟨coherent, files, reads, tracks⟩
    refine execute_follows ((coherent.lags reads).update (fun _ _ _ => rfl) ?_) durable
      (onSlotChanged_tracks somewhere few tracks admissible)
    intro part clean
    simp [Due.stale] at clean
  | crlChanged slot after =>
    rcases follows with ⟨coherent, files, reads, tracks⟩
    rcases admissible with ⟨readable, certificate, same⟩
    rw [reads.content] at same
    refine execute_follows ((coherent.lags reads).update (fun _ _ _ => rfl) fun part _ => ?_) durable
      (refreshActiveMemberCrlLocked_tracks few tracks readable same)
    cases part with
    | certificate => exact certificate
    | crl => exact refreshing
  | managerUsed slots =>
    rcases follows with ⟨coherent, files, reads, tracks⟩
    have content := (funext admissible.content).trans reads.content
    exact ⟨fun slot => admissible.coherent slot (coherent slot), files, ⟨content, reads.file⟩, tracks⟩

include somewhere few in
theorem run_follows (start : Backend) (coherent : start.Coherent)
    (readable : ∀ slot, (start.content slot).Readable) (events : List StoreEvent)
    (meets : Run.Meets (step setup medium)
      (fun store event => Admissible store event ∧ Refreshing setup medium store event ∧
        Durable setup medium store event)
      (constructed setup medium start) events) :
    DeadOrFollows setup (Run.run (step setup medium) (constructed setup medium start) events) := by
  refine Run.run_invariant_of_meets (DeadOrFollows setup) ?_ _ events ?_ meets
  · rintro store event (dead | follows) ok
    · exact .inl (step_dead dead event)
    · exact .inr (step_follows somewhere few follows ok.1 ok.2.1 ok.2.2)
  · exact (execute_ensures (construct_follows somewhere coherent readable)).1

/-! ### Warm and cold -/

def Settled (setup : StoreSetup) (handler : TrustStoreHandler) (files : Files) : Prop :=
  ∀ slot member, setup.findMember slot = some member →
    Acknowledged member (handler.state slot) (files.content slot)

theorem Tracks.settled (tracks : Tracks setup handler files) (warm : handler.loaded = true) :
    Settled setup handler files := by
  intro slot member known
  have mirrors := tracks.mirrors warm slot
  rw [MirrorsAt, known] at mirrors
  exact mirrors.2

/-- A store in which nothing is left to be acknowledged writes nothing when it is read. -/
theorem readMembers_durable (few : setup.registry.registry.length < 2 ^ 32)
    {cache : TrustStoreHandler → Finmap fun _ : SlotIndex => α} {part : MemberContent → Option α}
    (lags : Lags .nothing files backend) (tracks : Tracks setup handler files)
    (settled : Settled setup handler files) :
    Along (StoreAction.serve setup.registry medium) (StoreAction.ReadsBack setup.registry medium)
      (readMembers setup cache part handler) backend := by
  have loads : Along (StoreAction.serve setup.registry medium)
      (StoreAction.ReadsBack setup.registry medium)
      (resolveMembers setup setup.config.members {} handler) backend :=
    (resolveMembers_loads _ _ _).along fun act _ loads => by
      cases act <;> first | exact loads.elim | trivial
  rcases Surely.exec_along loads (surely_of_plain lags
    (resolveMembers_plain few _ tracks.distinct {} tracks.readable)) with ⟨-, -, -, settles⟩
  have calm := settles.calm rfl (by
    rw [settles.states]
    funext slot
    cases known : setup.findMember slot with
    | none => exact settled_none known
    | some member =>
      exact (settled_some known).trans (settle_of_acknowledged (settled slot member known)))
  change Along _ _ ((if _ then _ else if _ then _ else _ : StoreProg _) handler) backend
  split
  · trivial
  · split
    · trivial
    · refine Along.bind (.bind loads ?_) ?_
      · change Along _ _ ((if _ then _ else _ : StoreProg _) _) _
        rw [if_neg (by simp [calm])]
        trivial
      · generalize exec _ (resolveAllLocked setup handler) backend = ends
        rcases ends with ⟨⟨_ | all, _⟩, _⟩ <;> trivial

include somewhere few in
theorem readMembers_answers {cache : TrustStoreHandler → Finmap fun _ : SlotIndex => α}
    {part : MemberContent → Option α}
    (holds : ∀ slot, (cache handler).lookup slot = part (entry handler slot)) (empty : part {} = none)
    (lags : Lags .nothing files backend) (tracks : Tracks setup handler files)
    (settled : Settled setup handler files) :
    ∃ found, (execute setup medium (do
        let entries ← readMembers setup cache part
        pure (entries.map (Multiset.map Prod.snd))) (handler, backend)).1 = .ok found ∧
      ∀ value, value ∈ found ↔ ∃ slot member, setup.findMember slot = some member ∧
        part (shown (settle setup member (handler.state slot) (files.content slot))
          (files.content slot)) = some value := by
  have ensures : StoreAction.Plain setup.registry medium.crl
      (fun result _ _ => ∃ found, result = .ok found ∧
        ∀ value, value ∈ found ↔ ∃ slot member, setup.findMember slot = some member ∧
          part (shown (settle setup member (handler.state slot) (files.content slot))
            (files.content slot)) = some value)
      (do
        let entries ← readMembers setup cache part
        pure (entries.map (Multiset.map Prod.snd))) handler files := by
    refine .bind ((readMembers_plain somewhere few holds empty tracks).mono ?_)
    rintro result handler' state' ⟨entries, files', rfl, rfl, answers⟩
    refine .pure ⟨_, rfl, fun value => ?_⟩
    simp only [Multiset.mem_map, Prod.exists, exists_eq_right, answers.entries]
    refine exists_congr fun slot => ?_
    cases known : setup.findMember slot with
    | none => simp
    | some member =>
      simp only [Option.isSome_some, true_and, settled_some known, Option.some.injEq, exists_eq_left']
  have durable : Along (StoreAction.serve setup.registry medium)
      (StoreAction.ReadsBack setup.registry medium) (readMembers setup cache part handler) backend :=
    readMembers_durable few lags tracks settled
  rcases execute_plain lags (Along.bind durable (by trivial)) ensures with ⟨-, -, answered⟩
  exact answered

include somewhere few in
theorem sameAnswers {cache : TrustStoreHandler → Finmap fun _ : SlotIndex => α}
    {part : MemberContent → Option α} {handler' : TrustStoreHandler} {backend' : Backend}
    (holds : ∀ handler slot, (cache handler).lookup slot = part (entry handler slot))
    (empty : part {} = none) (lags : Lags .nothing files backend) (tracks : Tracks setup handler files)
    (lags' : Lags .nothing files backend') (tracks' : Tracks setup handler' files)
    (settled : Settled setup handler files)
    (states : ∀ slot member, setup.findMember slot = some member →
      handler'.state slot = handler.state slot) :
    SameAnswers setup medium (do
        let entries ← readMembers setup cache part
        pure (entries.map (Multiset.map Prod.snd))) (handler, backend) (handler', backend') := by
  have settled' : Settled setup handler' files := fun slot member known =>
    states slot member known ▸ settled slot member known
  rcases readMembers_answers somewhere few (holds handler) empty lags tracks settled with
    ⟨found, answered, entries⟩
  rcases readMembers_answers somewhere few (holds handler') empty lags' tracks' settled' with
    ⟨found', answered', entries'⟩
  refine ⟨found, found', answered, answered', fun value => ?_⟩
  rw [entries, entries']
  refine exists_congr fun slot => exists_congr fun member => and_congr_right fun known => ?_
  rw [states slot member known]

include somewhere few in
theorem Follows.warmAsCold (follows : Follows setup (handler, backend)) :
    WarmAsCold setup medium (handler, backend) := by
  intro warm fresh content file coherent'
  rcases follows with ⟨coherent, files, reads, tracks⟩
  have fresh_reads : fresh.Reads files := ⟨content.trans reads.content, file ▸ reads.file⟩
  have built := execute_ensures (@construct_follows setup medium fresh somewhere coherent'
    (fresh_reads.content ▸ tracks.readable))
  have same : (constructed setup medium fresh).2 = fresh := built.2.1
  -- A store that is constructed over these files takes the same states from them.
  rcases built.2.2 files handler.state tracks.distinct fresh_reads tracks.exact with
    ⟨-, files', reads', tracks'⟩
  obtain rfl : files' = files := by
    have slots := reads'.content.symm.trans ((congrArg Backend.content same).trans fresh_reads.content)
    have state := fresh_reads.file_eq reads' (congrArg Backend.file same)
    cases files
    cases files'
    exact congrArg₂ Files.mk slots state
  have states : ∀ slot member, setup.findMember slot = some member →
      (constructed setup medium fresh).1.state slot = handler.state slot := fun slot member known =>
    Option.some.inj ((tracks'.exact slot member known).symm.trans (tracks.exact slot member known))
  have lags' : Lags .nothing files' (constructed setup medium fresh).2 := by
    rw [same]
    exact coherent'.lags fresh_reads
  have settled := tracks.settled warm
  constructor <;> exact sameAnswers somewhere few (fun _ _ => rfl) rfl (coherent.lags reads) tracks
    lags' tracks' settled states

end Runs

section Reenabled

def crlSetup : StoreSetup where
  config := { members := [{ slotName := ascii "ca" }], deploymentPath := ascii "state" }
  registry := CertSlotRegistry.empty.registerSlot { slotName := ascii "ca", allowedWriteUids := [] }

def sampleCrl : CrlData where
  bytes := [1]
  format := .der
  metadata := none

def recorded (enabled : String) : DeploymentDescriptor :=
  singleEntry stateSection (enabledKey { slotName := ascii "ca" }) (ascii enabled)

def crlBackend (crl : CrlContent) : Backend where
  slots _ := { content := { certificate := .ok sampleCertificate, crl := crl } }
  file := some (ascii "[trust_store_state]\nslot.ca.enabled=false\n")

def wholeMedium (order : HashOrder) : Medium where
  order := order
  fetch _ _ := .ok []
  parse := .ok
  crl _ := id
  storedCrl _ content crl := { content with crl := .some crl }

theorem coherent_of_uncached {slots : SlotManager} {file : Option Bytes}
    (uncached : ∀ slot, (slots slot).cache = {}) : Backend.Coherent ⟨slots, file⟩ := by
  intro slot part
  cases part with
  | certificate =>
    intro certificate cached
    simp [uncached] at cached
  | crl => simp [Slot.Agrees, uncached]

theorem crlBackend_readable (crl : CrlContent) (data : Option CrlData) (held : crl.data = .ok data)
    (slot : SlotIndex) : ((crlBackend crl).content slot).Readable := by
  refine ⟨?_, data, held⟩
  rintro e ⟨⟩

theorem crlBackend_load (crl : CrlContent) : load (crlBackend crl).file = .ok (recorded "false") := by
  rfl

variable (order : HashOrder) (crl : CrlContent)

def crlStore : TrustStoreHandler × Backend :=
  constructed crlSetup (wholeMedium order) (crlBackend crl)

def disabledMember (loaded : Bool) : TrustStoreHandler where
  states := Finmap.singleton 0 { enabled := false }
  loaded := loaded
  valid := true

theorem crlStore_eq : crlStore order crl = (disabledMember false, crlBackend crl) := by
  rfl

def enabledStore (bytes : Bytes) : TrustStoreHandler × Backend :=
  (((disabledMember true).setState 0 {}).setAnchorLocked 0 (some sampleCertificate),
    { (StoreAction.serve crlSetup.registry (wholeMedium order) (.loadCertificate 0)
        (crlBackend crl)).2 with file := some bytes })

theorem content_enabledStore (bytes : Bytes) :
    (enabledStore order crl bytes).2.content = (crlBackend crl).content := by
  have lags : Lags .nothing ⟨(crlBackend crl).content, some (recorded "false")⟩ (crlBackend crl) :=
    Backend.Coherent.lags (coherent_of_uncached fun _ => rfl) ⟨rfl, crlBackend_load crl⟩
  have known : crlSetup.registry.getConfig 0 =
      .ok { slotName := ascii "ca", allowedWriteUids := [] } := rfl
  exact (lags.loadCertificate known).2.reads.content

def Performs (act : StoreAction) (backend : Backend) (answer : act.Res) (backend' : Backend) : Prop :=
  act.ReadsBack crlSetup.registry (wholeMedium order) backend ∧
    act.serve crlSetup.registry (wholeMedium order) backend = (answer, backend')

def enabling : List StoreEvent :=
  [.call .loadCache, .call (.enableMember 0)]

theorem enabling_run : ∃ bytes, load (some bytes) = .ok (recorded "true") ∧
    Run.Meets (step crlSetup (wholeMedium order)) (Durable crlSetup (wholeMedium order))
      (crlStore order crl) enabling ∧
    Run.run (step crlSetup (wholeMedium order)) (crlStore order crl) enabling =
      enabledStore order crl bytes := by
  obtain ⟨bytes, written, read⟩ : ∃ bytes, write order (recorded "true") = .ok bytes ∧
      load (some bytes) = .ok (recorded "true") :=
    load_write order (singleEntry_accepted (by decide)) (by decide)
      (singleEntry_plain (memberKey_plain _ _ _))
  have writes (backend : Backend) : Performs order (.writeDescriptor (recorded "true")) backend (.ok ())
      { backend with file := some bytes } :=
    ⟨⟨bytes, written, read⟩, by simp [StoreAction.serve, wholeMedium, written]⟩
  have enables : Program.Ends (Performs order)
      (Call.program crlSetup (.enableMember 0) (disabledMember true)) (crlBackend crl)
      (.done (.ok ()), (enabledStore order crl bytes).1) (enabledStore order crl bytes).2 :=
    .call ⟨trivial, rfl⟩ (.call ⟨trivial, congrArg (·, _) (crlBackend_load crl)⟩
      (.call (writes _) (.done _ _)))
  rcases enables.exec with ⟨durable, ends⟩
  rw [crlStore_eq]
  refine ⟨bytes, read, ⟨trivial, durable, trivial⟩, ?_⟩
  change step crlSetup _ (disabledMember true, crlBackend crl) (.call (.enableMember 0)) = _
  simp only [step, execute, ends]

end Reenabled

end TrustStore

end ScoreCrypto.CertManagement
