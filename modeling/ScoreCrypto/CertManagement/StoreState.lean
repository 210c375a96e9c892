import ScoreCrypto.CertManagement.TrustStoreHandler
import ScoreCrypto.Storage.RoundTrip

/-!
The member states of a trust store as its state file holds them: what a descriptor says about a
member, and what it says after the states have been written over it.
-/

namespace ScoreCrypto.CertManagement

open Storage

namespace StoreSetup

variable {setup : StoreSetup} {member other : TrustStoreMemberConfig} {slot : SlotIndex}

theorem slotOf_congr (same : member.slotName = other.slotName) :
    setup.slotOf member = setup.slotOf other := by
  rw [slotOf, slotOf, same]

theorem slotName_of_slotOf (found : setup.slotOf member = .ok slot) :
    (setup.registry.registry[slot]?).map CertSlotConfig.slotName = some member.slotName := by
  unfold slotOf CertSlotRegistry.resolveSlotInternal at found
  split at found
  case h_1 index located =>
    cases found
    rcases List.findIdx?_eq_some_iff_getElem.mp located with ⟨bound, same, -⟩
    simpa [List.getElem?_eq_getElem bound] using same
  case h_2 => cases found

theorem slotName_inj (found : setup.slotOf member = .ok slot)
    (found' : setup.slotOf other = .ok slot) : member.slotName = other.slotName := by
  have same := (slotName_of_slotOf found).symm.trans (slotName_of_slotOf found')
  exact Option.some.inj same

@[simp] theorem refersTo_iff : setup.refersTo slot member = true ↔ setup.slotOf member = .ok slot := by
  unfold refersTo
  cases setup.slotOf member with
  | error e => simp
  | ok own => simp

theorem findMember_some (found : setup.findMember slot = some member) :
    member ∈ setup.config.members ∧ setup.slotOf member = .ok slot :=
  ⟨List.mem_of_find?_eq_some found, refersTo_iff.mp (List.find?_some found)⟩

/-! ### Members with slots of their own -/

section Distinct

variable {first : TrustStoreMemberConfig} {rest members : List TrustStoreMemberConfig}
  {seen : List SlotIndex}

theorem validateFrom_cons (valid : setup.validateFrom seen (first :: rest) = true) :
    ∃ own, setup.slotOf first = .ok own ∧ own ∉ seen ∧
      setup.validateFrom (own :: seen) rest = true := by
  unfold validateFrom at valid
  split at valid
  case h_1 => cases valid
  case h_2 own resolved =>
    split at valid
    case isTrue => cases valid
    case isFalse fresh => exact ⟨own, resolved, fresh, valid⟩

theorem validateFrom_fresh (valid : setup.validateFrom seen members = true)
    (listed : member ∈ members) (found : setup.slotOf member = .ok slot) : slot ∉ seen := by
  induction members generalizing seen with
  | nil => cases listed
  | cons first rest ih =>
    rcases validateFrom_cons valid with ⟨own, resolved, fresh, valid⟩
    rcases List.mem_cons.mp listed with rfl | later
    · cases resolved.symm.trans found
      exact fresh
    · exact fun known => ih valid later (List.mem_cons_of_mem own known)

theorem validateFrom_apart (valid : setup.validateFrom seen (first :: rest) = true) :
    ∃ own, setup.slotOf first = .ok own ∧ setup.validateFrom (own :: seen) rest = true ∧
      ∀ other ∈ rest, setup.slotOf other ≠ .ok own := by
  rcases validateFrom_cons valid with ⟨own, resolved, -, valid⟩
  exact ⟨own, resolved, valid, fun other later found =>
    validateFrom_fresh valid later found List.mem_cons_self⟩

theorem validateFrom_unique (valid : setup.validateFrom seen members = true)
    (listed : member ∈ members) (listed' : other ∈ members) (found : setup.slotOf member = .ok slot)
    (found' : setup.slotOf other = .ok slot) : member = other := by
  induction members generalizing seen with
  | nil => cases listed
  | cons first rest ih =>
    rcases validateFrom_apart valid with ⟨own, resolved, valid, apart⟩
    rcases List.mem_cons.mp listed with rfl | later
    · rcases List.mem_cons.mp listed' with rfl | later'
      · rfl
      · cases resolved.symm.trans found
        exact absurd found' (apart other later')
    · rcases List.mem_cons.mp listed' with rfl | later'
      · cases resolved.symm.trans found'
        exact absurd found (apart member later)
      · exact ih valid later later'

end Distinct

end StoreSetup

namespace TrustStoreHandler

variable (handler : TrustStoreHandler) (slot : SlotIndex)

@[simp] theorem state_setState (next : MemberState) (other : SlotIndex) :
    (handler.setState slot next).state other = if other = slot then next else handler.state other := by
  by_cases same : other = slot
  · subst same
    simp [state, setState]
  · simp [state, setState, same, Finmap.lookup_insert_of_ne _ same]

variable {handler slot} in
theorem state_of_missing (missing : handler.states.lookup slot = none) : handler.state slot = {} := by
  rw [state, missing]
  rfl

variable {handler slot} in
theorem missing_setState {next : MemberState} {other : SlotIndex}
    (missing : (handler.setState slot next).states.lookup other = none) : handler.state other = {} := by
  rcases eq_or_ne other slot with rfl | differ
  · simp [setState] at missing
  · rw [setState, Finmap.lookup_insert_of_ne _ differ] at missing
    exact state_of_missing missing

@[simp] theorem state_touch (other : SlotIndex) :
    (handler.touch slot).state other = handler.state other := by
  rw [touch, state_setState]
  split
  case isTrue same => rw [same]
  case isFalse => rfl

section Publish

variable (certificate : Option CertObject) (data : Option CrlData)

@[simp] theorem states_setAnchorLocked :
    (handler.setAnchorLocked slot certificate).states = handler.states := by
  unfold setAnchorLocked
  split
  · cases certificate <;> rfl
  · rfl

@[simp] theorem state_setAnchorLocked :
    (handler.setAnchorLocked slot certificate).state = handler.state := by
  funext other
  rw [state, state, states_setAnchorLocked]

@[simp] theorem crls_setAnchorLocked :
    (handler.setAnchorLocked slot certificate).crls = handler.crls := by
  unfold setAnchorLocked
  split
  · cases certificate <;> rfl
  · rfl

@[simp] theorem loaded_setAnchorLocked :
    (handler.setAnchorLocked slot certificate).loaded = handler.loaded := by
  unfold setAnchorLocked
  split
  · cases certificate <;> rfl
  · rfl

@[simp] theorem valid_setAnchorLocked :
    (handler.setAnchorLocked slot certificate).valid = handler.valid := by
  unfold setAnchorLocked
  split
  · cases certificate <;> rfl
  · rfl

theorem lookup_setAnchorLocked (warm : handler.loaded = true) (other : SlotIndex) :
    (handler.setAnchorLocked slot certificate).slots.lookup other =
      if other = slot then certificate else handler.slots.lookup other := by
  unfold setAnchorLocked
  rw [if_pos warm]
  rcases eq_or_ne other slot with rfl | differ
  · cases certificate <;> simp
  · cases certificate <;>
      simp [differ, Finmap.lookup_erase_ne differ, Finmap.lookup_insert_of_ne _ differ]

@[simp] theorem states_setCrlLocked : (handler.setCrlLocked slot data).states = handler.states := by
  unfold setCrlLocked
  split
  · cases data <;> rfl
  · rfl

@[simp] theorem state_setCrlLocked : (handler.setCrlLocked slot data).state = handler.state := by
  funext other
  rw [state, state, states_setCrlLocked]

@[simp] theorem slots_setCrlLocked : (handler.setCrlLocked slot data).slots = handler.slots := by
  unfold setCrlLocked
  split
  · cases data <;> rfl
  · rfl

@[simp] theorem loaded_setCrlLocked : (handler.setCrlLocked slot data).loaded = handler.loaded := by
  unfold setCrlLocked
  split
  · cases data <;> rfl
  · rfl

@[simp] theorem valid_setCrlLocked : (handler.setCrlLocked slot data).valid = handler.valid := by
  unfold setCrlLocked
  split
  · cases data <;> rfl
  · rfl

theorem lookup_setCrlLocked (warm : handler.loaded = true) (other : SlotIndex) :
    (handler.setCrlLocked slot data).crls.lookup other =
      if other = slot then data else handler.crls.lookup other := by
  unfold setCrlLocked
  rw [if_pos warm]
  rcases eq_or_ne other slot with rfl | differ
  · cases data <;> simp
  · cases data <;>
      simp [differ, Finmap.lookup_erase_ne differ, Finmap.lookup_insert_of_ne _ differ]

end Publish

end TrustStoreHandler

namespace TrustStore

variable {setup : StoreSetup} {member other : TrustStoreMemberConfig} {slot : SlotIndex}

/-! ### One member -/

theorem readEnabled_written (enabled : Bool) :
    readEnabled (some (if enabled then ascii "true" else ascii "false")) = some enabled := by
  cases enabled <;> decide

theorem readFingerprint_encoded (accepted : Fingerprint) :
    readFingerprint (some (encodeHex accepted)) = some (some accepted) := by
  simp only [readFingerprint, decodeHex_encodeHex]
  exact dif_pos accepted.2

theorem readFingerprint_none {value : Option Bytes} :
    readFingerprint value = some none ↔ value = none := by
  cases value with
  | none => simp [readFingerprint]
  | some value =>
    simp only [readFingerprint]
    split
    · simp
    · split <;> simp

theorem readState_some {enabled fingerprint : Option Bytes} {state : MemberState} :
    readState enabled fingerprint = some state ↔
      readEnabled enabled = some state.enabled ∧
        readFingerprint fingerprint = some state.acceptedFingerprint := by
  unfold readState
  cases state
  split
  case h_1 on accepted readOn readAccepted => simp [readOn, readAccepted]
  case h_2 unusable =>
    constructor
    · intro read
      cases read
    · intro read
      exact absurd read.2 (unusable _ _ read.1)

theorem enabledKey_inj (same : enabledKey member = enabledKey other) :
    member.slotName = other.slotName := by
  simpa [enabledKey, memberKey] using same

theorem fingerprintKey_inj (same : fingerprintKey member = fingerprintKey other) :
    member.slotName = other.slotName := by
  simpa [fingerprintKey, memberKey] using same

theorem memberKey_getLast (member : TrustStoreMemberConfig) {suffix : String} {c : UInt8}
    (last : (ascii suffix).getLast? = some c) : (memberKey member suffix).getLast? = some c := by
  rw [memberKey, List.getLast?_append, last, Option.some_or]

theorem enabledKey_ne (member other : TrustStoreMemberConfig) :
    enabledKey member ≠ fingerprintKey other := by
  intro same
  have last := congrArg List.getLast? same
  rw [enabledKey, fingerprintKey, memberKey_getLast member (c := 100) (by decide),
    memberKey_getLast other (c := 116) (by decide)] at last
  exact absurd last (by decide)

theorem memberKey_plain (member : TrustStoreMemberConfig) (suffix : String) (value : Bytes) :
    ¬ HeaderLike (memberKey member suffix) value := by
  intro like
  have first := like.1
  simp [memberKey, ascii] at first
  exact absurd first (by decide)

/-- What the descriptor says about a member; without entries it has the state of a new one. -/
def persistedState (descriptor : DeploymentDescriptor) (member : TrustStoreMemberConfig) :
    Option MemberState :=
  readState (descriptor.entry stateSection (enabledKey member))
    (descriptor.entry stateSection (fingerprintKey member))

theorem persistedState_empty (member : TrustStoreMemberConfig) :
    persistedState ∅ member = some {} := by
  rfl

variable {descriptor : DeploymentDescriptor}

theorem persistedState_absent (absent : ¬ descriptor.hasSection stateSection = true)
    (member : TrustStoreMemberConfig) :
    persistedState descriptor member = some {} := by
  have nothing : descriptor.lookup stateSection = none := by
    simpa [DeploymentDescriptor.hasSection] using absent
  simp only [persistedState, DeploymentDescriptor.entry, DeploymentDescriptor.getSection, nothing]
  rfl

theorem writeMember_enabled (descriptor : DeploymentDescriptor) (state : MemberState) :
    (writeMember descriptor other state).entry stateSection (enabledKey member) =
      if member.slotName = other.slotName then
        some (if state.enabled then ascii "true" else ascii "false")
      else descriptor.entry stateSection (enabledKey member) := by
  have keys : enabledKey member = enabledKey other ↔ member.slotName = other.slotName :=
    ⟨enabledKey_inj, fun same => by simp only [enabledKey, memberKey, same]⟩
  unfold writeMember
  cases state.acceptedFingerprint with
  | none => simp [entry_set, keys]
  | some accepted => simp [entry_set, keys, enabledKey_ne]

theorem writeMember_fingerprint (descriptor : DeploymentDescriptor) (state : MemberState) :
    (writeMember descriptor other state).entry stateSection (fingerprintKey member) =
      if member.slotName = other.slotName then
        (state.acceptedFingerprint.map fun accepted : Fingerprint => encodeHex accepted.1).or
          (descriptor.entry stateSection (fingerprintKey member))
      else descriptor.entry stateSection (fingerprintKey member) := by
  have keys : fingerprintKey member = fingerprintKey other ↔ member.slotName = other.slotName :=
    ⟨fingerprintKey_inj, fun same => by simp only [fingerprintKey, memberKey, same]⟩
  unfold writeMember
  cases state.acceptedFingerprint with
  | none => simp [entry_set, (enabledKey_ne _ _).symm]
  | some accepted => simp [entry_set, keys, (enabledKey_ne _ _).symm]

theorem writeMember_plain (plain : PlainEntries descriptor) (member : TrustStoreMemberConfig)
    (state : MemberState) :
    PlainEntries (writeMember descriptor member state) := by
  have described := plain.set stateSection (memberKey_plain member "enabled"
    (if state.enabled then ascii "true" else ascii "false"))
  unfold writeMember
  cases state.acceptedFingerprint with
  | none => exact described
  | some accepted => exact described.set stateSection (memberKey_plain member _ _)

/-! ### All members -/

theorem writeMemberOf_plain (handler : TrustStoreHandler) (plain : PlainEntries descriptor)
    (member : TrustStoreMemberConfig) :
    PlainEntries (writeMemberOf setup handler descriptor member) := by
  unfold writeMemberOf
  split
  · exact plain
  · split
    · exact plain
    · exact writeMember_plain plain member _

theorem writeMembers_plain (handler : TrustStoreHandler) (plain : PlainEntries descriptor)
    (members : List TrustStoreMemberConfig) :
    PlainEntries (writeMembers setup handler descriptor members) := by
  induction members generalizing descriptor with
  | nil => exact plain
  | cons first rest ih => exact ih (writeMemberOf_plain handler plain first)

variable {handler : TrustStoreHandler}

theorem writeMemberOf_same (descriptor : DeploymentDescriptor)
    (found : setup.slotOf member = .ok slot) (same : other.slotName = member.slotName) :
    writeMemberOf setup handler descriptor other =
      match handler.states.lookup slot with
      | none => descriptor
      | some state => writeMember descriptor other state := by
  have resolved := (StoreSetup.slotOf_congr same).trans found
  cases state : handler.states.lookup slot <;> simp [writeMemberOf, resolved, state]

theorem writeMemberOf_other (descriptor : DeploymentDescriptor)
    (differ : member.slotName ≠ other.slotName) :
    (writeMemberOf setup handler descriptor other).entry stateSection (enabledKey member) =
        descriptor.entry stateSection (enabledKey member) ∧
      (writeMemberOf setup handler descriptor other).entry stateSection (fingerprintKey member) =
        descriptor.entry stateSection (fingerprintKey member) := by
  unfold writeMemberOf
  split
  · exact ⟨rfl, rfl⟩
  · split
    · exact ⟨rfl, rfl⟩
    · rw [writeMember_enabled, writeMember_fingerprint, if_neg differ, if_neg differ]
      exact ⟨rfl, rfl⟩

theorem writeMembers_absent (descriptor : DeploymentDescriptor)
    (members : List TrustStoreMemberConfig) (found : setup.slotOf member = .ok slot)
    (absent : handler.states.lookup slot = none) :
    persistedState (writeMembers setup handler descriptor members) member =
      persistedState descriptor member := by
  induction members generalizing descriptor with
  | nil => rfl
  | cons first rest ih =>
    change persistedState (writeMembers setup handler (writeMemberOf setup handler descriptor first)
      rest) member = _
    rw [ih]
    by_cases same : first.slotName = member.slotName
    · rw [writeMemberOf_same descriptor found same, absent]
    · have kept := @writeMemberOf_other setup member first handler descriptor (Ne.symm same)
      rw [persistedState, kept.1, kept.2, persistedState]

section Written

variable {handler : TrustStoreHandler} {state : MemberState}
  (found : setup.slotOf member = .ok slot) (known : handler.states.lookup slot = some state)

include found known

theorem writeMembers_enabled (descriptor : DeploymentDescriptor)
    (members : List TrustStoreMemberConfig) :
    (writeMembers setup handler descriptor members).entry stateSection (enabledKey member) =
      if member.slotName ∈ members.map TrustStoreMemberConfig.slotName then
        some (if state.enabled then ascii "true" else ascii "false")
      else descriptor.entry stateSection (enabledKey member) := by
  induction members generalizing descriptor with
  | nil => rfl
  | cons first rest ih =>
    change (writeMembers setup handler (writeMemberOf setup handler descriptor first) rest).entry
      stateSection (enabledKey member) = _
    rw [ih]
    by_cases same : first.slotName = member.slotName
    · simp [writeMemberOf_same descriptor found same, known, writeMember_enabled, same]
    · simp [(writeMemberOf_other descriptor (Ne.symm same)).1, Ne.symm same]

theorem writeMembers_fingerprint (descriptor : DeploymentDescriptor)
    (members : List TrustStoreMemberConfig) :
    (writeMembers setup handler descriptor members).entry stateSection (fingerprintKey member) =
      if member.slotName ∈ members.map TrustStoreMemberConfig.slotName then
        (state.acceptedFingerprint.map fun accepted : Fingerprint => encodeHex accepted.1).or
          (descriptor.entry stateSection (fingerprintKey member))
      else descriptor.entry stateSection (fingerprintKey member) := by
  induction members generalizing descriptor with
  | nil => rfl
  | cons first rest ih =>
    change (writeMembers setup handler (writeMemberOf setup handler descriptor first) rest).entry
      stateSection (fingerprintKey member) = _
    rw [ih]
    by_cases same : first.slotName = member.slotName
    · simp only [writeMemberOf_same descriptor found same, known, writeMember_fingerprint, same,
        List.map_cons, List.mem_cons, true_or, if_true]
      cases state.acceptedFingerprint <;> simp
    · simp [(writeMemberOf_other descriptor (Ne.symm same)).2, Ne.symm same]

end Written

/-- After the states have been written over it, the descriptor says of each member what the handler
does. A fingerprint is never removed, so what has none in memory must not have one before. -/
theorem persistedState_writeMembers (listed : member ∈ setup.config.members)
    (found : setup.slotOf member = .ok slot)
    (absent : handler.states.lookup slot = none → persistedState descriptor member = some {})
    (unaccepted : (handler.state slot).acceptedFingerprint = none →
      descriptor.entry stateSection (fingerprintKey member) = none) :
    persistedState (writeMembers setup handler descriptor setup.config.members) member =
      some (handler.state slot) := by
  have named : member.slotName ∈ setup.config.members.map TrustStoreMemberConfig.slotName :=
    List.mem_map_of_mem listed
  cases known : handler.states.lookup slot with
  | none =>
    rw [writeMembers_absent descriptor _ found known, absent known, TrustStoreHandler.state, known]
    rfl
  | some state =>
    have current : handler.state slot = state := by
      rw [TrustStoreHandler.state, known, Option.getD_some]
    rw [current] at unaccepted ⊢
    rw [persistedState, writeMembers_enabled found known, writeMembers_fingerprint found known,
      if_pos named, if_pos named, readState_some]
    refine ⟨readEnabled_written state.enabled, ?_⟩
    cases accepted : state.acceptedFingerprint with
    | none =>
      rw [Option.map_none, Option.none_or, unaccepted accepted]
      rfl
    | some fingerprint => exact readFingerprint_encoded fingerprint

end TrustStore

end ScoreCrypto.CertManagement
