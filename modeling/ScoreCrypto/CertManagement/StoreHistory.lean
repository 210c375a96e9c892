import ScoreCrypto.CertManagement.SoundCalls

/-!
The states a trust store reaches: it is constructed from its state file and then called, any number
of times. What its members may contribute, and what is on disk, follows from its being sound.
-/

namespace ScoreCrypto.CertManagement

open Storage Stateful

namespace TrustStore

variable {setup : StoreSetup} {handler handler' : TrustStoreHandler} {world : StoreWorld}
  {member : TrustStoreMemberConfig} {slot : SlotIndex}

/-! ### Construction -/

def FromDescriptor (setup : StoreSetup) (descriptor : DeploymentDescriptor)
    (handler : TrustStoreHandler) : Prop :=
  ∀ member slot, setup.slotOf member = .ok slot →
    handler.state slot = {} ∨ persistedState descriptor member = some (handler.state slot)

structure Loads (setup : StoreSetup) (descriptor : DeploymentDescriptor)
    (rest : List TrustStoreMemberConfig) (handler handler' : TrustStoreHandler) : Prop where
  slots : handler'.slots = handler.slots
  loaded : handler'.loaded = handler.loaded
  taken : ∀ member slot, setup.slotOf member = .ok slot →
    member ∈ rest ∨ persistedState descriptor member = some (handler.state slot) →
    persistedState descriptor member = some (handler'.state slot)

variable {descriptor : DeploymentDescriptor}

theorem persistedState_congr {other : TrustStoreMemberConfig}
    (found : setup.slotOf member = .ok slot) (found' : setup.slotOf other = .ok slot) :
    persistedState descriptor member = persistedState descriptor other := by
  simp only [persistedState, enabledKey, fingerprintKey, memberKey,
    StoreSetup.slotName_inj found found']

theorem FromDescriptor.taken (from_ : FromDescriptor setup descriptor handler)
    (found : setup.slotOf member = .ok slot) (new : persistedState descriptor member = some {}) :
    persistedState descriptor member = some (handler.state slot) := by
  rcases from_ member slot found with fresh | known
  · rw [new, fresh]
  · exact known

theorem FromDescriptor.setState {state : MemberState}
    (from_ : FromDescriptor setup descriptor handler) (found : setup.slotOf member = .ok slot)
    (read : persistedState descriptor member = some state) :
    FromDescriptor setup descriptor (handler.setState slot state) := by
  intro other slot' found'
  rw [TrustStoreHandler.state_setState]
  split
  case isTrue same =>
    subst same
    exact .inr ((persistedState_congr found' found).trans read)
  case isFalse => exact from_ other slot' found'

theorem Loads.cons {rest : List TrustStoreMemberConfig} {handler₁ : TrustStoreHandler}
    (loads : Loads setup descriptor rest handler₁ handler') (slots : handler₁.slots = handler.slots)
    (loaded : handler₁.loaded = handler.loaded)
    (read : ∀ other slot, setup.slotOf other = .ok slot →
      other = member ∨ persistedState descriptor other = some (handler.state slot) →
      persistedState descriptor other = some (handler₁.state slot)) :
    Loads setup descriptor (member :: rest) handler handler' where
  slots := loads.slots.trans slots
  loaded := loads.loaded.trans loaded
  taken other slot found known := by
    apply loads.taken other slot found
    rcases known with inside | known
    · rcases List.mem_cons.mp inside with rfl | later
      · exact .inr (read other slot found (.inl rfl))
      · exact .inl later
    · exact .inr (read other slot found (.inr known))

theorem loadMembers_spec {S : Type} {s : S} {may : (act : StoreAction) → S → act.Res → S → Prop}
    (descriptor : DeploymentDescriptor) (rest : List TrustStoreMemberConfig)
    (from_ : FromDescriptor setup descriptor handler) :
    Ensures may
      (fun usable handler' s' => s' = s ∧
        (usable = true → Loads setup descriptor rest handler handler') ∧
        (usable = false → ∃ member ∈ rest, ∃ slot, setup.slotOf member = .ok slot ∧
          persistedState descriptor member = none))
      (loadMembers setup (descriptor.getSection stateSection) rest) handler s := by
  induction rest generalizing handler with
  | nil =>
    refine .pure ⟨rfl, fun _ => ⟨rfl, rfl, ?_⟩, by simp⟩
    intro member slot found known
    simpa using known
  | cons member rest ih =>
    have later : (∃ other ∈ rest, ∃ slot, setup.slotOf other = .ok slot ∧
          persistedState descriptor other = none) →
        ∃ other ∈ member :: rest, ∃ slot, setup.slotOf other = .ok slot ∧
          persistedState descriptor other = none := by
      rintro ⟨other, inside, malformed⟩
      exact ⟨other, List.mem_cons_of_mem _ inside, malformed⟩
    unfold loadMembers
    cases found : setup.slotOf member with
    | error e =>
      refine (ih from_).mono ?_
      rintro usable handler' s' ⟨rfl, loads, malformed⟩
      refine ⟨rfl, fun ok => (loads ok).cons rfl rfl ?_, fun no => later (malformed no)⟩
      rintro other slot found' (rfl | known)
      · cases found.symm.trans found'
      · exact known
    | ok slot =>
      simp only
      split
      case h_1 noFlag noFingerprint =>
        have new : persistedState descriptor member = some {} := by
          rw [persistedState, DeploymentDescriptor.entry, DeploymentDescriptor.entry, noFlag,
            noFingerprint]
          rfl
        refine (ih from_).mono ?_
        rintro usable handler' s' ⟨rfl, loads, malformed⟩
        refine ⟨rfl, fun ok => (loads ok).cons rfl rfl ?_, fun no => later (malformed no)⟩
        rintro other slot' found' (rfl | known)
        · exact from_.taken found' new
        · exact known
      case h_2 =>
        split
        case h_1 malformed =>
          exact .pure ⟨rfl, by simp, fun _ =>
            ⟨member, List.mem_cons_self, slot, found, malformed⟩⟩
        case h_2 state read =>
          have read' : persistedState descriptor member = some state := read
          apply Ensures.modify_bind
          refine (ih (from_.setState found read')).mono ?_
          rintro usable handler' s' ⟨rfl, loads, malformed⟩
          refine ⟨rfl, fun ok => (loads ok).cons rfl rfl ?_, fun no => later (malformed no)⟩
          intro other slot' found' known
          rw [TrustStoreHandler.state_setState]
          split
          case isTrue same =>
            subst same
            exact (persistedState_congr found' found).trans read'
          case isFalse differ =>
            rcases known with rfl | known
            · cases found.symm.trans found'
              exact absurd rfl differ
            · exact known

theorem fromDescriptor_new (descriptor : DeploymentDescriptor) :
    FromDescriptor setup descriptor {} :=
  fun _ _ _ => .inl rfl

theorem loadState_spec :
    Ensures StoreAction.May
      (fun usable handler' world' => world' = world ∧ (usable = true → handler'.slots = ∅ ∧
        handler'.loaded = false ∧ (setup.config.deploymentPath ≠ [] →
          Reproduces setup world.file handler'.state)))
      (loadState setup) {} world := by
  unfold loadState
  split
  case isTrue nowhere =>
    exact .pure ⟨rfl, fun _ => ⟨rfl, rfl, fun somewhere => absurd nowhere somewhere⟩⟩
  case isFalse =>
    refine .perform_bind fun answer world' reading => ?_
    rcases reading with ⟨honest, rfl⟩
    match answer with
    | .error e => exact .pure ⟨rfl, by simp⟩
    | .ok false =>
      refine .pure ⟨rfl, fun _ => ⟨rfl, rfl, fun _ => ⟨∅, ?_, ?_⟩⟩⟩
      · have missing := honest false rfl
        cases file : world'.file with
        | none => rfl
        | some bytes => simp [file] at missing
      · exact fun member _ slot _ => persistedState_empty member
    | .ok true =>
      refine .perform_bind fun answer world' reading => ?_
      rcases reading with ⟨loaded, rfl⟩
      cases answer with
      | error e => exact .pure ⟨rfl, by simp⟩
      | ok descriptor =>
        have read := (persisted_of_load (loaded descriptor rfl)).1
        simp only
        split
        case isTrue =>
          refine (loadMembers_spec descriptor _ (fromDescriptor_new descriptor)).mono ?_
          rintro usable handler' world' ⟨rfl, loads, -⟩
          refine ⟨rfl, fun ok => ⟨(loads ok).slots, (loads ok).loaded, fun _ =>
            ⟨descriptor, read, ?_⟩⟩⟩
          exact fun member listed slot found => (loads ok).taken member slot found (.inl listed)
        case isFalse absent =>
          refine .pure ⟨rfl, fun _ => ⟨rfl, rfl, fun _ => ⟨descriptor, read, ?_⟩⟩⟩
          exact fun member _ slot _ => persistedState_absent absent member

theorem construct_spec :
    Ensures StoreAction.May
      (fun _ handler' world' => handler'.valid = true → Sound setup handler' world')
      (construct setup) {} world := by
  unfold construct
  split
  case isFalse => exact .pure (by simp)
  case isTrue distinct =>
    refine Ensures.bind (loadState_spec.mono ?_)
    rintro usable handler' world' ⟨rfl, loads⟩
    apply Ensures.modify
    intro valid
    rcases loads valid with ⟨slots, loaded, reproduces⟩
    refine ⟨valid, distinct, fun _ => slots, ?_, fun somewhere => (reproduces somewhere).records⟩
    intro slot certificate cached
    rw [slots] at cached
    cases cached

/-! ### Reachable states -/

/-- The stores there can be after any calls. -/
inductive Reachable (setup : StoreSetup) (start : StoreWorld) :
    TrustStoreHandler → StoreWorld → Prop where
  | constructed {handler : TrustStoreHandler} {world : StoreWorld}
      (ends : Ends StoreAction.May (construct setup) {} start () handler world) :
      Reachable setup start handler world
  | called {handler handler' : TrustStoreHandler} {world world' : StoreWorld} (call : Call)
      {response : Response} (before : Reachable setup start handler world)
      (ends : Ends StoreAction.May (call.program setup) handler world
        response handler' world') :
      Reachable setup start handler' world'

variable {start : StoreWorld}

theorem Reachable.sound (reachable : Reachable setup start handler world)
    (valid : handler.valid = true) : Sound setup handler world := by
  induction reachable with
  | constructed ends => exact construct_spec.ends ends valid
  | @called earlier later first second call response before ends ih =>
    cases usable : earlier.valid with
    | false =>
      have stays : later.valid = false :=
        (Call.program_invalid (fun _ => id) (fun _ => id) (fun handler slot data invalid =>
          (handler.valid_setCrlLocked slot data).trans invalid) call _ _ usable).ends ends
      rw [stays] at valid
      cases valid
    | true => exact (Call.program_keeps call _ _ (ih usable)).ends ends

/-! ### The gate of conditional members -/

theorem readMembers_invalid {α : Type} {cache : TrustStoreHandler → Finmap fun _ : SlotIndex => α}
    {part : MemberContent → Option α} (invalid : handler.valid = false) :
    Ensures StoreAction.May (fun result _ _ => result = .error .trustStoreInvalid)
      (readMembers setup cache part) handler world := by
  unfold readMembers
  apply Ensures.get_bind
  rw [if_pos invalid]
  exact Ensures.pure rfl

theorem readMembers_gated {entries : Multiset (SlotIndex × CertObject)}
    {world' : StoreWorld} (reachable : Reachable setup start handler world)
    (ends : Ends StoreAction.May (readMembers setup TrustStoreHandler.slots MemberContent.anchor)
      handler world (.ok entries) handler' world') :
    ∀ entry ∈ entries, Admits setup handler'.state entry.1 entry.2 := by
  cases valid : handler.valid with
  | false => cases (readMembers_invalid valid).ends ends
  | true => exact ((readMembers_anchors (reachable.sound valid)).ends ends).2 entries rfl

/-- The anchors come from members' slots, and one from a conditional member is the accepted one. -/
theorem getAnchors_gated {anchors : Multiset CertObject} {world' : StoreWorld}
    (reachable : Reachable setup start handler world)
    (ends : Ends StoreAction.May (getAnchors setup) handler world (.ok anchors) handler' world') :
    ∃ entries : Multiset (SlotIndex × CertObject),
      Ends StoreAction.May (readMembers setup TrustStoreHandler.slots MemberContent.anchor)
          handler world (.ok entries) handler' world' ∧
        anchors = entries.map Prod.snd ∧
        ∀ entry ∈ entries, ∃ member ∈ setup.config.members, setup.slotOf member = .ok entry.1 ∧
          (member.kind = .conditionalExternal →
            (handler'.state entry.1).acceptedFingerprint = some entry.2.fingerprint) := by
  rcases Ends.of_bind ends with ⟨read, handler₁, world₁, reading, ending⟩
  rcases Ends.of_pure ending with ⟨mapped, rfl, rfl⟩
  cases read with
  | error e => cases mapped
  | ok entries =>
    cases mapped
    exact ⟨entries, reading, rfl, readMembers_gated reachable reading⟩

section Sample

def sampleSetup (deploymentPath : Bytes) : StoreSetup where
  config :=
    { members := [{ slotName := ascii "ca", kind := .conditionalExternal }]
      conditionalSlotInitialization := .enableAndAcceptCurrent
      deploymentPath := deploymentPath }
  registry := CertSlotRegistry.empty.registerSlot { slotName := ascii "ca", allowedWriteUids := [] }

def sampleCertificate : CertObject where
  fingerprint := ⟨List.replicate 32 7, by decide⟩

theorem sample_constructed : Reachable (sampleSetup []) ⟨none⟩ { valid := true } ⟨none⟩ := by
  apply Reachable.constructed
  exact .done _ _

theorem sample_getAnchors : Ends StoreAction.May (getAnchors (sampleSetup [])) { valid := true }
    ⟨none⟩ (.ok {sampleCertificate})
    { valid := true
      states := Finmap.singleton 0 { acceptedFingerprint := some sampleCertificate.fingerprint } }
    ⟨none⟩ := by
  refine .call (show StoreAction.May (.loadCertificate 0) _ (.ok sampleCertificate) _
    from rfl) ?_
  refine .call (show StoreAction.May (.loadCrlData 0) _ (.ok none) _ from rfl) ?_
  exact .done _ _

/-- The first certificate that is found becomes the accepted one, and the anchor. -/
theorem sampleAnchor_gated :
    ∃ entries : Multiset (SlotIndex × CertObject),
      Ends StoreAction.May (readMembers (sampleSetup []) TrustStoreHandler.slots MemberContent.anchor)
          { valid := true } ⟨none⟩ (.ok entries)
          { valid := true
            states :=
              Finmap.singleton 0 { acceptedFingerprint := some sampleCertificate.fingerprint } }
          ⟨none⟩ ∧
        {sampleCertificate} = entries.map Prod.snd ∧
        ∀ entry ∈ entries, ∃ member ∈ (sampleSetup []).config.members,
          (sampleSetup []).slotOf member = .ok entry.1 ∧
          (member.kind = .conditionalExternal →
            (({ valid := true
                states := Finmap.singleton 0
                  { acceptedFingerprint := some sampleCertificate.fingerprint } } :
                TrustStoreHandler).state entry.1).acceptedFingerprint =
              some entry.2.fingerprint) :=
  getAnchors_gated sample_constructed sample_getAnchors

end Sample

/-! ### Memory and storage -/

theorem readEnabled_true {value : Option Bytes} :
    readEnabled value = some true ↔ value = none ∨ value = some (ascii "true") := by
  cases value with
  | none => simp [readEnabled]
  | some value =>
    unfold readEnabled
    split
    case h_1 none => cases none
    case h_2 text same =>
      cases same
      split
      case isTrue same => simp [same]
      case isFalse differ =>
        split <;> simp [differ]

theorem readFingerprint_some {value : Option Bytes} {accepted : Fingerprint}
    (read : readFingerprint value = some (some accepted)) :
    ∃ text, value = some text ∧ decodeHex text = some accepted.1 := by
  cases value with
  | none => cases read
  | some text =>
    refine ⟨text, rfl, ?_⟩
    simp only [readFingerprint] at read
    split at read
    case h_1 => cases read
    case h_2 bytes decoded =>
      split at read
      · cases read
        exact decoded
      · cases read

/-- An enabled member is not disabled in the file, and an accepted fingerprint is the one there. -/
def WithinStorage (setup : StoreSetup) (handler : TrustStoreHandler) (file : Option Bytes) : Prop :=
  ∃ descriptor, persisted file = some descriptor ∧
    ∀ member ∈ setup.config.members, ∀ slot, setup.slotOf member = .ok slot →
      ((handler.state slot).enabled = true →
        descriptor.entry stateSection (enabledKey member) = none ∨
          descriptor.entry stateSection (enabledKey member) = some (ascii "true")) ∧
      ∀ accepted, (handler.state slot).acceptedFingerprint = some accepted →
        ∃ text, descriptor.entry stateSection (fingerprintKey member) = some text ∧
          decodeHex text = some accepted.1

theorem Records.withinStorage {file : Option Bytes} (records : Records setup file handler.state) :
    WithinStorage setup handler file := by
  rcases records with ⟨descriptor, read, borne⟩
  refine ⟨descriptor, read, ?_⟩
  intro member listed slot found
  rcases borne member listed slot found with ⟨disk, recorded, within⟩
  rcases readState_some.mp recorded with ⟨flag, fingerprint⟩
  constructor
  · intro enabled
    rw [within.1 enabled] at flag
    exact readEnabled_true.mp flag
  · intro accepted known
    rw [← within.2, known] at fingerprint
    exact readFingerprint_some fingerprint

theorem disableMember_withdraws (sound : Sound setup handler world)
    (known : setup.findMember slot ≠ none) :
    Ensures StoreAction.May (fun _ handler' _ => Withdrawn slot handler') (disableMember setup slot)
      handler world := by
  unfold disableMember
  apply Ensures.get_bind
  rw [if_neg (by simp [sound.valid])]
  cases found : setup.findMember slot with
  | none => exact absurd found known
  | some member => exact (withdraw_spec sound).mono fun _ _ _ outcome => outcome.2

/-! ### Removal -/

structure SlotAnswers where
  hasHandler : SlotIndex → Bool
  certificate : SlotIndex → Expected CertObject
  clear : SlotIndex → Expected Unit

def Answered (slots : SlotAnswers) :
    (act : StoreAction) → StoreWorld → act.Res → StoreWorld → Prop
  | .hasHandler slot, world, answer, world' => answer = slots.hasHandler slot ∧ world' = world
  | .readCertificate slot, world, answer, world' => answer = slots.certificate slot ∧ world' = world
  | .clearSlot slot, world, answer, world' => answer = slots.clear slot ∧ world' = world
  | act, world, answer, world' => act.May world answer world'

theorem Answered.may {slots : SlotAnswers} (act : StoreAction) (world : StoreWorld) (answer : act.Res)
    (world' : StoreWorld) (answered : Answered slots act world answer world') :
    act.May world answer world' := by
  cases act with
  | hasHandler | readCertificate | clearSlot => exact answered.2
  | _ => exact answered

def usableSlot (setup : StoreSetup) (slots : SlotAnswers) (member : TrustStoreMemberConfig) :
    Option SlotIndex :=
  (setup.slotOf member).toOption.filter fun slot =>
    setup.registry.isValidHandle slot && slots.hasHandler slot

theorem ensures_resolveMember_answered {slots : SlotAnswers}
    {post : Option SlotIndex → TrustStoreHandler → StoreWorld → Prop} :
    Ensures (Answered slots) post (resolveMember setup member) handler world ↔
      post (usableSlot setup slots member) handler world := by
  unfold resolveMember resolveSlot usableSlot
  cases setup.slotOf member with
  | error e => exact Iff.rfl
  | ok slot =>
    cases valid : setup.registry.isValidHandle slot with
    | false => simp [Except.toOption, Option.filter, valid]
    | true =>
      have answered {post : Bool → TrustStoreHandler → StoreWorld → Prop} :
          Ensures (Answered slots) post (StoreProg.perform (.hasHandler slot)) handler world ↔
            post (slots.hasHandler slot) handler world := by
        refine ⟨fun ensures => ensures _ _ ⟨rfl, rfl⟩, ?_⟩
        rintro holds _ _ ⟨rfl, rfl⟩
        exact holds
      cases there : slots.hasHandler slot <;>
        simp [Except.toOption, Option.filter, valid, there, answered]

def holderSlot (setup : StoreSetup) (slots : SlotAnswers) (fingerprint : Bytes)
    (member : TrustStoreMemberConfig) : Option SlotIndex :=
  if member.kind = .exclusiveMutable then
    (usableSlot setup slots member).filter fun slot =>
      (slots.certificate slot).toOption.any fun current => current.fingerprint.1 = fingerprint
  else none

/-- The first exclusive member that holds the certificate is withdrawn, whatever comes of writing the
state file, but only if its slot can be cleared. -/
def Removes (setup : StoreSetup) (slots : SlotAnswers) (fingerprint : Bytes)
    (members : List TrustStoreMemberConfig) (handler : TrustStoreHandler)
    (result : Expected Unit) (handler' : TrustStoreHandler) : Prop :=
  match members.findSome? (holderSlot setup slots fingerprint) with
  | none => result = .error .invalidArgument ∧ handler' = handler
  | some slot =>
    match slots.clear slot with
    | .ok _ => Withdrawn slot handler'
    | .error e => result = .error e ∧ handler' = handler

theorem removeFrom_removes (slots : SlotAnswers) (fingerprint : Bytes)
    (members : List TrustStoreMemberConfig) (sound : Sound setup handler world) :
    Ensures (Answered slots)
      (fun result handler' _ => Removes setup slots fingerprint members handler result handler')
      (removeFrom setup fingerprint members) handler world := by
  induction members with
  | nil => exact ⟨rfl, rfl⟩
  | cons member rest ih =>
    have passed (other : holderSlot setup slots fingerprint member = none) :
        Removes setup slots fingerprint (member :: rest) =
          Removes setup slots fingerprint rest := by
      unfold Removes
      rw [List.findSome?_cons, other]
    unfold removeFrom
    split
    case isFalse shared => exact passed (if_neg shared) ▸ ih
    case isTrue exclusive =>
      have own : holderSlot setup slots fingerprint member = _ := if_pos exclusive
      refine Ensures.bind (ensures_resolveMember_answered.mpr ?_)
      cases usable : usableSlot setup slots member with
      | none => exact passed (by rw [own, usable]; rfl) ▸ ih
      | some slot =>
        refine Ensures.perform_bind ?_
        rintro _ _ ⟨rfl, rfl⟩
        cases read : slots.certificate slot with
        | error e => exact passed (by simp [own, usable, read, Except.toOption]) ▸ ih
        | ok current =>
          refine ensures_ite.mpr ⟨fun same => ?_, fun differs => passed ?_ ▸ ih⟩
          · have found : (member :: rest).findSome? (holderSlot setup slots fingerprint) = some slot := by
              simp [own, usable, read, Except.toOption, same]
            refine Ensures.perform_bind ?_
            rintro _ _ ⟨rfl, rfl⟩
            refine Ensures.perform_bind ?_
            rintro _ _ rfl
            cases clears : slots.clear slot with
            | error e =>
              apply Ensures.pure
              simp only [Removes, found, clears, and_self]
            | ok _ =>
              refine ((withdraw_spec sound).narrow Answered.may).mono fun _ _ _ outcome => ?_
              simp only [Removes, found, clears]
              exact outcome.2
          · simp [own, usable, read, Except.toOption, differs]

/-- What is enabled or accepted in memory is so on disk. A disabled member is withdrawn from memory
whatever comes of writing the file, and a removed one if its slot is cleared. -/
theorem reachable_withinStorage (reachable : Reachable setup start handler world)
    (valid : handler.valid = true) (stored : setup.config.deploymentPath ≠ []) :
    WithinStorage setup handler world.file ∧
      (∀ slot, setup.findMember slot ≠ none → ∀ result handler' world',
        Ends StoreAction.May (disableMember setup slot) handler world result handler' world' →
          Withdrawn slot handler') ∧
      ∀ slots fingerprint result handler' world',
        Ends (Answered slots) (removeMember setup fingerprint) handler world result handler' world' →
          Removes setup slots fingerprint setup.config.members handler result handler' := by
  have sound := reachable.sound valid
  refine ⟨(sound.durable stored).withinStorage, ?_, ?_⟩
  · intro slot known result handler' world' ends
    exact (disableMember_withdraws sound known).ends ends
  · intro slots fingerprint result handler' world' ends
    exact (Ensures.guarded valid (removeFrom_removes slots fingerprint _ sound)).ends ends

section Removal

def mixedSetup : StoreSetup where
  config :=
    { members := [{ slotName := ascii "ca", kind := .conditionalExternal },
        { slotName := ascii "own", kind := .exclusiveMutable }]
      deploymentPath := ascii "state" }
  registry := (CertSlotRegistry.empty.registerSlot { slotName := ascii "ca", allowedWriteUids := [] })
    |>.registerSlot { slotName := ascii "own", allowedWriteUids := [] }

def mixedWorld : StoreWorld where
  file := some (ascii "[trust_store_state]\nslot.ca.enabled=false\n")

def restoredStore : TrustStoreHandler where
  states := Finmap.singleton 0 { enabled := false }
  valid := true

def mixedStore : TrustStoreHandler where
  states := restoredStore.states.insert 1 {}
  slots := Finmap.singleton 1 sampleCertificate
  loaded := true
  valid := true

theorem mixedStore_reachable : Reachable mixedSetup mixedWorld mixedStore mixedWorld := by
  have constructs : Ends StoreAction.May (construct mixedSetup) {} mixedWorld () restoredStore
      mixedWorld := by
    refine .call (show StoreAction.May .fileExists _ (.ok true) _ from ⟨?_, rfl⟩) ?_
    · rintro found ⟨⟩
      rfl
    refine .call (show StoreAction.May .loadDescriptor _ (load mixedWorld.file) _
      from ⟨fun _ => id, rfl⟩) ?_
    exact .done _ _
  have loads : Ends StoreAction.May (Call.program mixedSetup .loadCache) restoredStore mixedWorld
      (.done (.ok ())) mixedStore mixedWorld := by
    refine .call (show StoreAction.May (.loadCertificate 1) _ (.ok sampleCertificate) _ from rfl) ?_
    refine .call (show StoreAction.May (.loadCrlData 1) _ (.ok none) _ from rfl) ?_
    exact .done _ _
  exact .called .loadCache (.constructed constructs) loads

theorem mixedStore_withinStorage :
    WithinStorage mixedSetup mixedStore mixedWorld.file ∧
      (∀ slot, mixedSetup.findMember slot ≠ none → ∀ result handler' world',
        Ends StoreAction.May (disableMember mixedSetup slot) mixedStore mixedWorld result handler'
          world' → Withdrawn slot handler') ∧
      ∀ slots fingerprint result handler' world',
        Ends (Answered slots) (removeMember mixedSetup fingerprint) mixedStore mixedWorld result handler'
          world' → Removes mixedSetup slots fingerprint mixedSetup.config.members mixedStore result
            handler' :=
  reachable_withinStorage mixedStore_reachable rfl (by decide)

/-- `ClearSlot` deletes the certificate and then fails to write the descriptor of the slot. -/
def unwritableSlots : SlotAnswers where
  hasHandler _ := true
  certificate _ := .ok sampleCertificate
  clear _ := .error .persistFailed

/-- The certificate that was to be removed stays an anchor. -/
theorem removed_trusted : Reachable mixedSetup mixedWorld mixedStore mixedWorld ∧
    Ends (Answered unwritableSlots) (removeMember mixedSetup sampleCertificate.fingerprint.1) mixedStore
      mixedWorld (.error .persistFailed) mixedStore mixedWorld ∧
    mixedStore.slots.lookup 1 = some sampleCertificate ∧ (mixedStore.state 1).enabled = true := by
  refine ⟨mixedStore_reachable, ?_, rfl, rfl⟩
  refine .call (show Answered unwritableSlots (.hasHandler 1) _ true _ from ⟨rfl, rfl⟩) ?_
  refine .call (show Answered unwritableSlots (.readCertificate 1) _ (.ok sampleCertificate) _
    from ⟨rfl, rfl⟩) ?_
  refine .call (show Answered unwritableSlots (.clearSlot 1) _ (.error .persistFailed) _
    from ⟨rfl, rfl⟩) ?_
  refine .call (show Answered unwritableSlots (.invalidateSlotCaches 1) _ () _ from rfl) ?_
  exact .done _ _

end Removal

end TrustStore

end ScoreCrypto.CertManagement
