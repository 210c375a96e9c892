import ScoreCrypto.CertManagement.StoreState

/-!
What a trust store keeps whatever its slots hold and whichever reads and writes fail: an anchor of a
conditional member is the accepted one, and the memory is not more trusting than the state file.
-/

namespace ScoreCrypto.CertManagement

open Storage Stateful

structure StoreWorld where
  file : Option Bytes

/-- Slots may hold anything at any time. The state file is read as it is or not at all, and a write
replaces it or leaves it. -/
def StoreAction.May : (act : StoreAction) → StoreWorld → act.Res → StoreWorld → Prop
  | .fileExists, world, answer, world' =>
    (∀ found, answer = .ok found → found = world.file.isSome) ∧ world' = world
  | .loadDescriptor, world, answer, world' =>
    (∀ descriptor, answer = .ok descriptor → load world.file = .ok descriptor) ∧ world' = world
  | .writeDescriptor _, world, .error _, world' => world' = world
  | .writeDescriptor descriptor, world, .ok _, world' =>
    ∃ order bytes, write order descriptor = .ok bytes ∧ world' = { world with file := some bytes }
  | _, world, _, world' => world' = world

theorem forall_except {E α : Type} {p : Except E α → Prop} :
    (∀ result, p result) ↔ (∀ e, p (.error e)) ∧ ∀ value, p (.ok value) :=
  ⟨fun all => ⟨fun e => all (.error e), fun value => all (.ok value)⟩, fun both result => by
    cases result with
    | error e => exact both.1 e
    | ok value => exact both.2 value⟩

theorem forall_done {E : Type} {p : Except E Unit → Prop} :
    (∀ result, p result) ↔ (∀ e, p (.error e)) ∧ p (.ok ()) :=
  forall_except.trans (and_congr_right fun _ => ⟨fun all => all (), fun holds _ => holds⟩)

namespace StoreAction

variable {handler : TrustStoreHandler} {world : StoreWorld} {slot : SlotIndex}

abbrev Post (α : Type) := α → TrustStoreHandler → StoreWorld → Prop

theorem ensures_frame (act : StoreAction) {post : Post act.Res}
    (frame : ∀ answer world', act.May world answer world' ↔ world' = world) :
    Ensures May post (StoreProg.perform act) handler world ↔ ∀ answer, post answer handler world := by
  simp [ensures_perform, frame]

@[simp] theorem ensures_hasHandler {post : Post Bool} :
    Ensures May post (StoreProg.perform (.hasHandler slot)) handler world ↔
      post false handler world ∧ post true handler world :=
  (ensures_frame _ fun _ _ => Iff.rfl).trans Bool.forall_bool

section Certificates

variable {post : Post (Expected CertObject)}

@[simp] theorem ensures_loadCertificate :
    Ensures May post (StoreProg.perform (.loadCertificate slot)) handler world ↔
      (∀ e, post (.error e) handler world) ∧ ∀ certificate, post (.ok certificate) handler world :=
  (ensures_frame _ fun _ _ => Iff.rfl).trans forall_except

@[simp] theorem ensures_readCertificate :
    Ensures May post (StoreProg.perform (.readCertificate slot)) handler world ↔
      (∀ e, post (.error e) handler world) ∧ ∀ certificate, post (.ok certificate) handler world :=
  (ensures_frame _ fun _ _ => Iff.rfl).trans forall_except

end Certificates

@[simp] theorem ensures_loadCrlData {post : Post (Expected (Option CrlData))} :
    Ensures May post (StoreProg.perform (.loadCrlData slot)) handler world ↔
      (∀ e, post (.error e) handler world) ∧ ∀ crl, post (.ok crl) handler world :=
  (ensures_frame _ fun _ _ => Iff.rfl).trans forall_except

@[simp] theorem ensures_readSlotState {post : Post (Expected CertificateSlotState)} :
    Ensures May post (StoreProg.perform (.readSlotState slot)) handler world ↔
      (∀ e, post (.error e) handler world) ∧ ∀ state, post (.ok state) handler world :=
  (ensures_frame _ fun _ _ => Iff.rfl).trans forall_except

section Writes

variable {post : Post (Expected Unit)}

@[simp] theorem ensures_storeCertificate {certificate : CertObject} :
    Ensures May post (StoreProg.perform (.storeCertificate slot certificate)) handler world ↔
      (∀ e, post (.error e) handler world) ∧ post (.ok ()) handler world :=
  (ensures_frame _ fun _ _ => Iff.rfl).trans forall_done

@[simp] theorem ensures_storeCrl {crl : CrlData} :
    Ensures May post (StoreProg.perform (.storeCrl slot crl)) handler world ↔
      (∀ e, post (.error e) handler world) ∧ post (.ok ()) handler world :=
  (ensures_frame _ fun _ _ => Iff.rfl).trans forall_done

@[simp] theorem ensures_clearCrl :
    Ensures May post (StoreProg.perform (.clearCrl slot)) handler world ↔
      (∀ e, post (.error e) handler world) ∧ post (.ok ()) handler world :=
  (ensures_frame _ fun _ _ => Iff.rfl).trans forall_done

@[simp] theorem ensures_clearSlot :
    Ensures May post (StoreProg.perform (.clearSlot slot)) handler world ↔
      (∀ e, post (.error e) handler world) ∧ post (.ok ()) handler world :=
  (ensures_frame _ fun _ _ => Iff.rfl).trans forall_done

end Writes

section Invalidations

variable {post : Post Unit}

@[simp] theorem ensures_invalidateSlotCaches :
    Ensures May post (StoreProg.perform (.invalidateSlotCaches slot)) handler world ↔
      post () handler world :=
  (ensures_frame _ fun _ _ => Iff.rfl).trans ⟨fun all => all (), fun holds _ => holds⟩

@[simp] theorem ensures_invalidateCrl :
    Ensures May post (StoreProg.perform (.invalidateCrl slot)) handler world ↔ post () handler world :=
  (ensures_frame _ fun _ _ => Iff.rfl).trans ⟨fun all => all (), fun holds _ => holds⟩

end Invalidations

end StoreAction

namespace MemberState

def Within (memory disk : MemberState) : Prop :=
  (memory.enabled = true → disk.enabled = true) ∧
    memory.acceptedFingerprint = disk.acceptedFingerprint

theorem Within.refl (state : MemberState) : state.Within state := ⟨id, rfl⟩

theorem Within.trans {first second third : MemberState} (left : first.Within second)
    (right : second.Within third) : first.Within third :=
  ⟨fun enabled => right.1 (left.1 enabled), left.2.trans right.2⟩

theorem within_disabled (state : MemberState) :
    MemberState.Within { state with enabled := false } state :=
  ⟨Bool.noConfusion, rfl⟩

end MemberState

namespace TrustStore

open TrustStoreHandler

variable {setup : StoreSetup} {handler handler' : TrustStoreHandler} {world : StoreWorld}
  {member : TrustStoreMemberConfig} {slot : SlotIndex}

/-! ### The state file -/

/-- What the file says, whatever its size. -/
def persisted : Option Bytes → Option DeploymentDescriptor
  | none => some ∅
  | some bytes => (parse bytes).toOption

variable {file : Option Bytes}

theorem persisted_of_load {descriptor : DeploymentDescriptor} (loaded : load file = .ok descriptor) :
    persisted file = some descriptor ∧ PlainEntries descriptor := by
  cases file with
  | none => cases loaded
  | some bytes =>
    unfold load at loaded
    split at loaded
    case h_1 => cases loaded
    case h_2 read accepted =>
      have same : read = bytes := by
        unfold readFile at accepted
        simp only at accepted
        split at accepted
        · cases accepted
        · cases accepted
          rfl
      subst same
      exact ⟨by rw [persisted, loaded]; rfl, parse_plain loaded⟩

def Records (setup : StoreSetup) (file : Option Bytes) (state : SlotIndex → MemberState) : Prop :=
  ∃ descriptor, persisted file = some descriptor ∧
    ∀ member ∈ setup.config.members, ∀ slot, setup.slotOf member = .ok slot →
      ∃ disk, persistedState descriptor member = some disk ∧ (state slot).Within disk

def Reproduces (setup : StoreSetup) (file : Option Bytes) (state : SlotIndex → MemberState) : Prop :=
  ∃ descriptor, persisted file = some descriptor ∧
    ∀ member ∈ setup.config.members, ∀ slot, setup.slotOf member = .ok slot →
      persistedState descriptor member = some (state slot)

variable {state : SlotIndex → MemberState}

theorem Reproduces.records (reproduces : Reproduces setup file state) :
    Records setup file state := by
  rcases reproduces with ⟨descriptor, read, same⟩
  refine ⟨descriptor, read, ?_⟩
  intro member listed slot found
  exact ⟨state slot, same member listed slot found, .refl _⟩

theorem Records.mono {state state' : SlotIndex → MemberState} (records : Records setup file state)
    (within : ∀ slot, (state' slot).Within (state slot)) :
    Records setup file state' := by
  rcases records with ⟨descriptor, read, borne⟩
  refine ⟨descriptor, read, ?_⟩
  intro member listed slot found
  rcases borne member listed slot found with ⟨disk, recorded, inside⟩
  exact ⟨disk, recorded, (within slot).trans inside⟩

theorem startingPoint {existing : Expected DeploymentDescriptor}
    (records : Records setup world.file state)
    (loaded : ∀ descriptor, existing = .ok descriptor → load world.file = .ok descriptor) :
    PlainEntries (existing.toOption.getD ∅) ∧
      ∀ member ∈ setup.config.members, ∀ slot, setup.slotOf member = .ok slot →
        ∃ disk, persistedState (existing.toOption.getD ∅) member = some disk ∧
          (state slot = {} → disk = {}) ∧
          ((state slot).acceptedFingerprint = none → disk.acceptedFingerprint = none) := by
  cases existing with
  | error e =>
    refine ⟨PlainEntries.empty, ?_⟩
    intro member _ slot _
    exact ⟨{}, persistedState_empty member, fun _ => rfl, fun _ => rfl⟩
  | ok descriptor =>
    rcases persisted_of_load (loaded descriptor rfl) with ⟨read, plain⟩
    rcases records with ⟨other, read', borne⟩
    cases read.symm.trans read'
    refine ⟨plain, ?_⟩
    intro member listed slot found
    rcases borne member listed slot found with ⟨disk, recorded, inside⟩
    refine ⟨disk, recorded, ?_, fun nothing => inside.2.symm.trans nothing⟩
    intro new
    rw [new] at inside
    cases disk
    simp_all [MemberState.Within]

theorem persistStateLocked_spec
    (records : setup.config.deploymentPath ≠ [] → Records setup world.file state)
    (absent : ∀ slot, handler.states.lookup slot = none → state slot = {})
    (unaccepted : ∀ slot, (handler.state slot).acceptedFingerprint = none →
      (state slot).acceptedFingerprint = none) :
    Ensures StoreAction.May
      (fun result handler' world' => handler' = handler ∧
        match result with
        | .ok _ => setup.config.deploymentPath ≠ [] → Reproduces setup world'.file handler.state
        | .error _ => world' = world)
      (persistStateLocked setup) handler world := by
  unfold persistStateLocked
  by_cases nowhere : setup.config.deploymentPath = []
  · rw [if_pos nowhere]
    exact .pure ⟨rfl, fun somewhere => absurd nowhere somewhere⟩
  · rw [if_neg nowhere]
    refine .perform_bind fun existing world' reading => ?_
    rcases reading with ⟨loaded, rfl⟩
    apply Ensures.get_bind
    apply Ensures.perform (StoreAction.writeDescriptor _)
    intro answer world' writing
    rcases startingPoint (records nowhere) loaded with ⟨plain, before⟩
    cases answer with
    | error e => exact ⟨rfl, writing⟩
    | ok _ =>
      rcases writing with ⟨order, bytes, written, rfl⟩
      refine ⟨rfl, fun _ =>
        ⟨writeMembers setup handler (existing.toOption.getD ∅) setup.config.members, ?_, ?_⟩⟩
      · rw [persisted, parse_write order (writeMembers_plain handler plain _) written]
        rfl
      · intro member listed slot found
        rcases before member listed slot found with ⟨disk, recorded, new, without⟩
        apply persistedState_writeMembers listed found
        · intro missing
          rw [recorded, new (absent slot missing)]
        · intro nothing
          have read := (readState_some.mp recorded).2
          rw [without (unaccepted slot nothing)] at read
          exact readFingerprint_none.mp read

/-! ### Sound stores -/

def Admits (setup : StoreSetup) (state : SlotIndex → MemberState) (slot : SlotIndex)
    (certificate : CertObject) : Prop :=
  ∃ member ∈ setup.config.members, setup.slotOf member = .ok slot ∧
    (member.kind = .conditionalExternal →
      (state slot).acceptedFingerprint = some certificate.fingerprint)

structure Sound (setup : StoreSetup) (handler : TrustStoreHandler) (world : StoreWorld) : Prop where
  valid : handler.valid = true
  distinct : setup.validateMembers = true
  cold : handler.loaded = false → handler.slots = ∅
  gate : ∀ slot certificate, handler.slots.lookup slot = some certificate →
    Admits setup handler.state slot certificate
  durable : setup.config.deploymentPath ≠ [] → Records setup world.file handler.state

variable {certificate : CertObject}

theorem Admits.congr {state state' : SlotIndex → MemberState}
    (admits : Admits setup state slot certificate)
    (same : (state' slot).acceptedFingerprint = (state slot).acceptedFingerprint) :
    Admits setup state' slot certificate := by
  rcases admits with ⟨member, listed, found, gated⟩
  exact ⟨member, listed, found, fun external => same.trans (gated external)⟩

namespace Sound

variable (sound : Sound setup handler world)

include sound

theorem reduce {states : Finmap fun _ : SlotIndex => MemberState}
    (within : ∀ slot, (({ handler with states := states } : TrustStoreHandler).state slot).Within
      (handler.state slot)) :
    Sound setup { handler with states := states } world where
  valid := sound.valid
  distinct := sound.distinct
  cold := sound.cold
  gate slot certificate cached := (sound.gate slot certificate cached).congr (within slot).2
  durable somewhere := (sound.durable somewhere).mono within

theorem touch (slot : SlotIndex) : Sound setup (handler.touch slot) world := by
  apply sound.reduce
  intro other
  change ((handler.touch slot).state other).Within _
  rw [state_touch]
  exact .refl _

theorem setState_disabled (slot : SlotIndex) :
    Sound setup (handler.setState slot { handler.state slot with enabled := false }) world := by
  apply sound.reduce
  intro other
  change ((handler.setState slot _).state other).Within _
  rw [state_setState]
  split
  case isTrue same =>
    rw [same]
    exact MemberState.within_disabled _
  case isFalse => exact .refl _

theorem clearCache : Sound setup handler.clearCacheLocked world where
  valid := sound.valid
  distinct := sound.distinct
  cold _ := rfl
  gate slot certificate cached := by cases cached
  durable := sound.durable

theorem setAnchor {certificate : Option CertObject}
    (admits : ∀ anchor, certificate = some anchor → Admits setup handler.state slot anchor) :
    Sound setup (handler.setAnchorLocked slot certificate) world := by
  unfold setAnchorLocked
  split
  case isFalse => exact sound
  case isTrue warm =>
    cases certificate with
    | none =>
      refine { sound with cold := fun cold => ?_, gate := ?_ }
      · rw [sound.cold cold]
        rfl
      · intro other anchor cached
        apply sound.gate other anchor
        by_cases same : other = slot
        · subst same
          simp at cached
        · rwa [Finmap.lookup_erase_ne same] at cached
    | some certificate =>
      refine { sound with cold := fun cold => ?_, gate := ?_ }
      · rw [warm] at cold
        cases cold
      · intro other anchor cached
        by_cases same : other = slot
        · subst same
          rw [Finmap.lookup_insert] at cached
          exact admits anchor cached
        · rw [Finmap.lookup_insert_of_ne _ same] at cached
          exact sound.gate other anchor cached

theorem setCrl (slot : SlotIndex) (data : Option CrlData) :
    Sound setup (handler.setCrlLocked slot data) world := by
  unfold setCrlLocked
  split
  · cases data <;> exact { sound with }
  · exact sound

end Sound

theorem Ensures.guarded {S α : Type} {may : (act : StoreAction) → S → act.Res → S → Prop}
    {post : α → TrustStoreHandler → S → Prop} {s : S} (valid : handler.valid = true)
    {error : StoreProg α} {call : TrustStoreHandler → StoreProg α}
    (holds : Ensures may post (call handler) handler s) :
    Ensures may post (do
      let handler ← get
      if handler.valid = false then error else call handler) handler s := by
  apply Ensures.get_bind
  rwa [if_neg (by simp [valid])]

theorem Keeps.guarded {S α : Type} {may : (act : StoreAction) → S → act.Res → S → Prop}
    {inv : TrustStoreHandler → S → Prop}
    (valid : ∀ handler s, inv handler s → handler.valid = true) {error call : StoreProg α}
    (keeps : Keeps may inv call) :
    Keeps may inv (do
      let handler ← get
      if handler.valid = false then error else call) :=
  fun handler s holds => Ensures.guarded (valid handler s holds) (keeps handler s holds)

/-! ### Committing a state -/

theorem restore_setState (next : MemberState) :
    (handler.setState slot next).restore slot (handler.states.lookup slot) = handler := by
  unfold restore
  cases known : handler.states.lookup slot with
  | none =>
    change { handler with states := _ } = handler
    congr 1
    apply Finmap.ext_lookup
    intro other
    rcases eq_or_ne other slot with rfl | differ
    · simp [known]
    · simp [setState, Finmap.lookup_erase_ne differ,
        Finmap.lookup_insert_of_ne _ differ]
  | some previous =>
    change { handler with states := _ } = handler
    congr 1
    apply Finmap.ext_lookup
    intro other
    rcases eq_or_ne other slot with rfl | differ
    · simp [known]
    · simp [setState, Finmap.lookup_insert_of_ne _ differ]

variable {next : MemberState}

/-- A failed commit leaves the memory as it was, and a successful one the file as the memory. -/
theorem commitStateLocked_spec (sound : Sound setup handler world)
    (accepted : next.acceptedFingerprint = none → (handler.state slot).acceptedFingerprint = none) :
    Ensures StoreAction.May
      (fun result handler' world' =>
        match result with
        | .ok _ => handler' = handler.setState slot next ∧
            (setup.config.deploymentPath ≠ [] → Records setup world'.file handler'.state)
        | .error _ => handler' = handler ∧ world' = world)
      (commitStateLocked setup slot next) handler world := by
  unfold commitStateLocked
  apply Ensures.get_bind
  apply Ensures.modify_bind
  refine .bind ((persistStateLocked_spec sound.durable ?_ ?_).mono ?_)
  · exact fun other => missing_setState
  · intro other nothing
    rw [state_setState] at nothing
    split at nothing
    case isTrue same => exact same ▸ accepted nothing
    case isFalse => exact nothing
  · rintro result handler' world' ⟨rfl, outcome⟩
    cases result with
    | ok _ => exact ⟨rfl, fun somewhere => (outcome somewhere).records⟩
    | error e => exact ⟨restore_setState next, outcome⟩

/-- Whatever was cached for the slot before, what counts is the anchor it gets with its new state. -/
theorem Sound.publish {world' : StoreWorld} {certificate : Option CertObject}
    (sound : Sound setup handler world) (durable : setup.config.deploymentPath ≠ [] →
      Records setup world'.file (handler.setState slot next).state)
    (admits : ∀ anchor, certificate = some anchor →
      Admits setup (handler.setState slot next).state slot anchor) :
    Sound setup ((handler.setState slot next).setAnchorLocked slot certificate) world' := by
  have others : ∀ other anchor, other ≠ slot → handler.slots.lookup other = some anchor →
      Admits setup (handler.setState slot next).state other anchor := by
    intro other anchor differ cached
    apply (sound.gate other anchor cached).congr
    rw [state_setState, if_neg differ]
  unfold setAnchorLocked
  split
  case isFalse unloaded =>
    have cold : handler.loaded = false := Bool.not_eq_true _ ▸ unloaded
    refine ⟨sound.valid, sound.distinct, fun _ => sound.cold cold, ?_, durable⟩
    intro other anchor cached
    change handler.slots.lookup other = some anchor at cached
    rw [sound.cold cold] at cached
    cases cached
  case isTrue warm =>
    cases certificate with
    | none =>
      refine ⟨sound.valid, sound.distinct, fun cold => ?_, ?_, durable⟩
      · cases cold.symm.trans warm
      · intro other anchor cached
        rcases eq_or_ne other slot with rfl | differ
        · simp at cached
        · exact others other anchor differ (by rwa [Finmap.lookup_erase_ne differ] at cached)
    | some certificate =>
      refine ⟨sound.valid, sound.distinct, fun cold => ?_, ?_, durable⟩
      · cases cold.symm.trans warm
      · intro other anchor cached
        rcases eq_or_ne other slot with rfl | differ
        · rw [Finmap.lookup_insert] at cached
          exact admits anchor cached
        · exact others other anchor differ (by rwa [Finmap.lookup_insert_of_ne _ differ] at cached)

theorem enableAndPublish_keeps {certificate : Option CertObject} (sound : Sound setup handler world)
    (listed : member ∈ setup.config.members) (found : setup.slotOf member = .ok slot)
    (accepted : next.acceptedFingerprint = none → (handler.state slot).acceptedFingerprint = none)
    (gated : member.kind = .conditionalExternal → ∀ anchor, certificate = some anchor →
      next.acceptedFingerprint = some anchor.fingerprint) :
    Ensures StoreAction.May (fun _ => Sound setup)
      (enableAndPublish setup slot next certificate) handler world := by
  unfold enableAndPublish
  refine .bind ((commitStateLocked_spec sound accepted).mono ?_)
  rintro result handler' world' outcome
  cases result with
  | error e =>
    rcases outcome with ⟨rfl, rfl⟩
    exact .pure sound
  | ok _ =>
    rcases outcome with ⟨rfl, durable⟩
    apply Ensures.modify_bind
    apply Ensures.pure
    refine sound.publish durable ?_
    intro anchor given
    refine ⟨member, listed, found, fun external => ?_⟩
    rw [state_setState, if_pos rfl]
    exact gated external anchor given

/-! ### Reads -/

@[simp] theorem ensures_resolveSlot {post : StoreAction.Post Bool} :
    Ensures StoreAction.May post (resolveSlot setup slot) handler world ↔
      post false handler world ∧
        (setup.registry.isValidHandle slot = true → post true handler world) := by
  rw [resolveSlot]
  cases setup.registry.isValidHandle slot <;> simp

@[simp] theorem ensures_resolveMember {post : StoreAction.Post (Option SlotIndex)} :
    Ensures StoreAction.May post (resolveMember setup member) handler world ↔
      post none handler world ∧ ∀ slot, setup.slotOf member = .ok slot →
        setup.registry.isValidHandle slot = true → post (some slot) handler world := by
  rw [resolveMember]
  cases setup.slotOf member <;> simp

section RefreshCrl

variable {S : Type} {may : (act : StoreAction) → S → act.Res → S → Prop}
  {inv : TrustStoreHandler → S → Prop}
  (reads : ∀ handler s answer s', may (.loadCrlData slot) s answer s' → inv handler s →
    inv handler s')
  (clears : ∀ handler s, inv handler s → inv handler.clearCacheLocked s)
  (sets : ∀ handler s data, inv handler s → inv (handler.setCrlLocked slot data) s)

include reads clears sets

theorem refreshMemberCrlLocked_invariant (usable : Bool) :
    Keeps may inv (refreshMemberCrlLocked slot usable) := by
  intro handler s holds
  unfold refreshMemberCrlLocked
  apply Ensures.get_bind
  split
  case isFalse => exact Ensures.pure holds
  case isTrue =>
    split
    case isFalse => exact .modify (sets handler s none holds)
    case isTrue =>
      refine .perform_bind fun answer s' answered => ?_
      have kept := reads handler s answer s' answered holds
      cases answer with
      | error e => exact .modify (clears handler s' kept)
      | ok data => exact .modify (sets handler s' data kept)

theorem refreshActiveMemberCrlLocked_invariant :
    Keeps may inv (refreshActiveMemberCrlLocked slot) := by
  intro handler s holds
  unfold refreshActiveMemberCrlLocked
  apply Ensures.get_bind
  split
  · exact refreshMemberCrlLocked_invariant reads clears sets _ handler s holds
  · exact Ensures.pure holds

end RefreshCrl

theorem loadCrlData_sound {answer : Expected (Option CrlData)} {world' : StoreWorld}
    (may : StoreAction.May (.loadCrlData slot) world answer world')
    (sound : Sound setup handler world) : Sound setup handler world' := by
  cases may
  exact sound

theorem refreshMemberCrlLocked_keeps (usable : Bool) :
    Keeps StoreAction.May (Sound setup) (refreshMemberCrlLocked slot usable) := by
  apply refreshMemberCrlLocked_invariant
  · exact fun _ _ _ _ => loadCrlData_sound
  · exact fun _ _ sound => sound.clearCache
  · exact fun _ _ data sound => sound.setCrl slot data

theorem refreshActiveMemberCrlLocked_keeps :
    Keeps StoreAction.May (Sound setup) (refreshActiveMemberCrlLocked slot) := by
  apply refreshActiveMemberCrlLocked_invariant
  · exact fun _ _ _ _ => loadCrlData_sound
  · exact fun _ _ sound => sound.clearCache
  · exact fun _ _ data sound => sound.setCrl slot data

/-! ### Resolving a member -/

inductive StateChange (member : TrustStoreMemberConfig) (before : MemberState) :
    MemberState → Bool → Prop where
  | kept : StateChange member before before false
  | disabled : StateChange member before { before with enabled := false } true
  | accepted (fingerprint : Fingerprint) (external : member.kind = .conditionalExternal)
      (first : before.acceptedFingerprint = none) :
      StateChange member before { before with acceptedFingerprint := some fingerprint } true

structure StateAt (slot : SlotIndex) (next : MemberState) (handler handler' : TrustStoreHandler) :
    Prop where
  state : handler'.state = Function.update handler.state slot next
  slots : handler'.slots = handler.slots
  crls : handler'.crls = handler.crls
  loaded : handler'.loaded = handler.loaded
  valid : handler'.valid = handler.valid

theorem stateAt_touch : StateAt slot (handler.state slot) handler (handler.touch slot) where
  state := by
    funext other
    simp
  slots := rfl
  crls := rfl
  loaded := rfl
  valid := rfl

theorem stateAt_setState (next : MemberState) :
    StateAt slot next handler ((handler.touch slot).setState slot next) where
  state := by
    funext other
    simp [Function.update_apply]
  slots := rfl
  crls := rfl
  loaded := rfl
  valid := rfl

def Resolves (member : TrustStoreMemberConfig) (slot : SlotIndex) (handler : TrustStoreHandler)
    (result : Expected MemberContent × Bool) (handler' : TrustStoreHandler) : Prop :=
  ∃ next, StateAt slot next handler handler' ∧ StateChange member (handler.state slot) next result.2 ∧
    ∀ content, result.1 = .ok content → ∀ anchor, content.anchor = some anchor →
      member.kind = .conditionalExternal → next.acceptedFingerprint = some anchor.fingerprint

theorem conditionalGate_cases (setup : StoreSetup) (state : MemberState) (certificate : CertObject) :
    (conditionalGate setup state certificate = none ∧
        state.acceptedFingerprint = some certificate.fingerprint) ∨
      (conditionalGate setup state certificate =
          some ({ state with acceptedFingerprint := some certificate.fingerprint }, true) ∧
        state.acceptedFingerprint = none) ∨
      conditionalGate setup state certificate = some ({ state with enabled := false }, false) ∧
        state.acceptedFingerprint ≠ some certificate.fingerprint := by
  unfold conditionalGate
  cases known : state.acceptedFingerprint with
  | some accepted =>
    by_cases same : certificate.fingerprint = accepted
    · simp [same]
    · simp [same, Ne.symm same]
  | none => cases setup.config.conditionalSlotInitialization <;> simp

theorem resolveMemberContentLocked_spec :
    Ensures StoreAction.May
      (fun result handler' world' => world' = world ∧ Resolves member slot handler result handler')
      (resolveMemberContentLocked setup member slot) handler world := by
  have touched : ∃ next, StateAt slot next handler (handler.touch slot) ∧
      StateChange member (handler.state slot) next false := ⟨_, stateAt_touch, .kept⟩
  simp [resolveMemberContentLocked, trustedContent, Resolves, touched]
  refine fun on certificate => ⟨fun external => ?_, fun shared => ?_⟩
  · rcases conditionalGate_cases setup (handler.state slot) certificate with passes | first | stopped
    · simp [passes.1, external, touched]
      exact ⟨_, stateAt_touch, .kept, passes.2⟩
    · have accepted := StateChange.accepted certificate.fingerprint external first.2
      simp [first.1, external]
      exact ⟨fun _ => ⟨_, stateAt_setState _, accepted⟩, _, stateAt_setState _, accepted, rfl⟩
    · simp [stopped.1, external]
      exact ⟨_, stateAt_setState _, .disabled⟩
  · simp [shared, touched]

end TrustStore

end ScoreCrypto.CertManagement
