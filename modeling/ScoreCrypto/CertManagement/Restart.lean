import ScoreCrypto.CertManagement.StoreHistory

/-!
A trust store that is restarted: the states that `PersistStateLocked` has written come back from the
file, unless the file has grown beyond what is read of it.
-/

namespace ScoreCrypto.CertManagement

open Storage Stateful

def StoreAction.Faithful : (act : StoreAction) → StoreWorld → act.Res → StoreWorld → Prop
  | .fileExists, world, answer, world' => answer = .ok world.file.isSome ∧ world' = world
  | .loadDescriptor, world, answer, world' => answer = load world.file ∧ world' = world
  | act, world, answer, world' => act.May world answer world'

theorem StoreAction.Faithful.may {act : StoreAction} {world world' : StoreWorld} {answer : act.Res}
    (faithful : act.Faithful world answer world') : act.May world answer world' := by
  cases act with
  | fileExists =>
    refine ⟨?_, faithful.2⟩
    rintro found rfl
    exact Except.ok.inj faithful.1
  | loadDescriptor =>
    refine ⟨?_, faithful.2⟩
    rintro descriptor rfl
    exact faithful.1.symm
  | _ => exact faithful

namespace TrustStore

variable {setup : StoreSetup} {handler handler' : TrustStoreHandler} {world world' : StoreWorld}
  {member : TrustStoreMemberConfig} {slot : SlotIndex}

/-! ### Reading the file back -/

def Restores (setup : StoreSetup) (handler : TrustStoreHandler) (world : StoreWorld) : Prop :=
  ∃ fresh, Ends StoreAction.Faithful (loadState setup) {} world true fresh world ∧
    ∀ member ∈ setup.config.members, ∀ slot, setup.slotOf member = .ok slot →
      fresh.state slot = handler.state slot

theorem loadMembers_done (content : Section) (rest : List TrustStoreMemberConfig)
    (handler : TrustStoreHandler) :
    ∃ usable handler', loadMembers setup content rest handler = .done (usable, handler') := by
  induction rest generalizing handler with
  | nil => exact ⟨true, handler, rfl⟩
  | cons member rest ih =>
    unfold loadMembers
    cases setup.slotOf member with
    | error e => exact ih handler
    | ok slot =>
      cases content.lookup (enabledKey member) with
      | some enabled =>
        dsimp only
        cases readState (some enabled) (content.lookup (fingerprintKey member)) with
        | none => exact ⟨false, handler, rfl⟩
        | some state => exact ih _
      | none =>
        cases content.lookup (fingerprintKey member) with
        | some fingerprint =>
          dsimp only
          cases readState none (some fingerprint) with
          | none => exact ⟨false, handler, rfl⟩
          | some state => exact ih _
        | none => exact ih handler

theorem restores_of_load {descriptor : DeploymentDescriptor}
    (stored : setup.config.deploymentPath ≠ []) (loaded : load world.file = .ok descriptor)
    (same : ∀ member ∈ setup.config.members, ∀ slot, setup.slotOf member = .ok slot →
      persistedState descriptor member = some (handler.state slot)) :
    Restores setup handler world := by
  have present : world.file.isSome = true := by
    cases file : world.file with
    | none =>
      rw [file] at loaded
      cases loaded
    | some bytes => rfl
  have reads : ∀ usable fresh,
      (if descriptor.hasSection stateSection then
        loadMembers setup (descriptor.getSection stateSection) setup.config.members
      else pure true : StoreProg Bool) {} = .done (usable, fresh) →
      Ends StoreAction.Faithful (loadState setup) {} world usable fresh world := by
    intro usable fresh done
    unfold Ends loadState
    rw [if_neg stored]
    refine .call (show StoreAction.Faithful .fileExists _ (.ok true) _
      from ⟨by rw [present], rfl⟩) ?_
    refine .call (show StoreAction.Faithful .loadDescriptor _ (.ok descriptor) _
      from ⟨loaded.symm, rfl⟩) ?_
    change Program.Ends _ ((if descriptor.hasSection stateSection then _ else _ : StoreProg Bool) {}) _
      _ _
    rw [done]
    exact .done _ _
  by_cases sections : descriptor.hasSection stateSection = true
  · rcases @loadMembers_done setup (descriptor.getSection stateSection) setup.config.members {} with
      ⟨usable, fresh, done⟩
    have start : FromDescriptor setup descriptor {} := fromDescriptor_new descriptor
    have outcome : Ensures StoreAction.Faithful _ _ _ world :=
      loadMembers_spec descriptor setup.config.members start
    unfold Ensures at outcome
    rw [done] at outcome
    rcases outcome with ⟨-, loads, malformed⟩
    cases usable with
    | false =>
      rcases malformed rfl with ⟨member, listed, slot, found, unreadable⟩
      cases unreadable.symm.trans (same member listed slot found)
    | true =>
      refine ⟨fresh, reads true fresh (by rw [if_pos sections, done]), ?_⟩
      intro member listed slot found
      have taken := (loads rfl).taken member slot found (.inl listed)
      exact Option.some.inj (taken.symm.trans (same member listed slot found))
  · refine ⟨{}, reads true {} (by rw [if_neg sections]; rfl), ?_⟩
    intro member listed slot found
    have default := persistedState_absent sections member
    exact Option.some.inj (default.symm.trans (same member listed slot found))

theorem load_of_restores (stored : setup.config.deploymentPath ≠ []) (exists_ : world.file ≠ none)
    (restores : Restores setup handler world) : ∃ descriptor, load world.file = .ok descriptor := by
  rcases restores with ⟨fresh, ends, -⟩
  cases loaded : load world.file with
  | ok descriptor => exact ⟨descriptor, rfl⟩
  | error e =>
    have fails : Ensures StoreAction.Faithful (fun usable _ _ => usable = false) (loadState setup)
        {} world := by
      unfold loadState
      rw [if_neg stored]
      refine Ensures.perform_bind fun answer world' reading => ?_
      rcases reading with ⟨rfl, rfl⟩
      rw [Option.isSome_iff_ne_none.mpr exists_]
      refine Ensures.perform_bind fun answer world' reading => ?_
      rcases reading with ⟨rfl, rfl⟩
      rw [loaded]
      exact Ensures.pure rfl
    cases fails.ends ends

theorem persist_writes (stored : setup.config.deploymentPath ≠ [])
    (ends : Ends StoreAction.Faithful (persistStateLocked setup) handler world (.ok ()) handler'
      world') :
    ∃ order bytes, write order (writeMembers setup handler ((load world.file).toOption.getD ∅)
      setup.config.members) = .ok bytes ∧ world' = { world with file := some bytes } := by
  have writes : Ensures StoreAction.Faithful
      (fun result _ world' => result = .ok () → ∃ order bytes,
        write order (writeMembers setup handler ((load world.file).toOption.getD ∅)
          setup.config.members) = .ok bytes ∧ world' = { world with file := some bytes })
      (persistStateLocked setup) handler world := by
    unfold persistStateLocked
    rw [if_neg stored]
    refine Ensures.perform_bind fun answer world' reading => ?_
    rcases reading with ⟨rfl, rfl⟩
    apply Ensures.get_bind
    apply Ensures.perform (StoreAction.writeDescriptor _)
    rintro answer world'' writing rfl
    exact writing
  exact writes.ends ends rfl

theorem Sound.persist_reproduces (sound : Sound setup handler world)
    (stored : setup.config.deploymentPath ≠ [])
    (ends : Ends StoreAction.May (persistStateLocked setup) handler world (.ok ()) handler' world') :
    Reproduces setup world'.file handler.state := by
  have absent : ∀ slot, handler.states.lookup slot = none → handler.state slot = {} := by
    intro slot missing
    rw [TrustStoreHandler.state, missing]
    rfl
  exact ((persistStateLocked_spec sound.durable absent fun _ => id).ends ends).2 stored

/-! ### The size of the file -/

def statesOf (setup : StoreSetup) (handler : TrustStoreHandler)
    (members : List TrustStoreMemberConfig) : List (TrustStoreMemberConfig × MemberState) :=
  members.filterMap fun member =>
    match setup.slotOf member with
    | .error _ => none
    | .ok slot => (handler.states.lookup slot).map fun state => (member, state)

def writtenCost (described : TrustStoreMemberConfig × MemberState) : Nat :=
  entryCost (enabledKey described.1) (if described.2.enabled then ascii "true" else ascii "false") +
    match described.2.acceptedFingerprint with
    | none => 0
    | some accepted => entryCost (fingerprintKey described.1) (encodeHex accepted)

def replacedCost (existing : DeploymentDescriptor)
    (described : TrustStoreMemberConfig × MemberState) : Nat :=
  (existing.entry stateSection (enabledKey described.1)).elim 0 (entryCost (enabledKey described.1)) +
    match described.2.acceptedFingerprint with
    | none => 0
    | some _ =>
      (existing.entry stateSection (fingerprintKey described.1)).elim 0
        (entryCost (fingerprintKey described.1))

def headerCost (existing : DeploymentDescriptor)
    (states : List (TrustStoreMemberConfig × MemberState)) : Nat :=
  if states = [] ∨ existing.hasSection stateSection then 0 else stateSection.length + 4

variable (descriptor : DeploymentDescriptor)

theorem hasSection_set (name key value : Bytes) :
    (descriptor.set name key value).hasSection name = true := by
  simp [DeploymentDescriptor.hasSection, DeploymentDescriptor.set]

theorem hasSection_writeMember (state : MemberState) :
    (writeMember descriptor member state).hasSection stateSection = true := by
  unfold writeMember
  cases state.acceptedFingerprint with
  | none => exact hasSection_set _ _ _ _
  | some accepted => exact hasSection_set _ _ _ _

theorem size_writeMember (state : MemberState) :
    serializedSize (writeMember descriptor member state) + replacedCost descriptor (member, state) =
      serializedSize descriptor + writtenCost (member, state) +
        headerCost descriptor [(member, state)] := by
  unfold writeMember replacedCost writtenCost headerCost
  simp only [List.cons_ne_nil, false_or]
  generalize (if state.enabled then ascii "true" else ascii "false") = flag
  have flagged := serializedSize_set descriptor stateSection (enabledKey member) flag
  cases state.acceptedFingerprint with
  | none => simpa using flagged
  | some accepted =>
    have stamped := serializedSize_set (descriptor.set stateSection (enabledKey member) flag)
      stateSection (fingerprintKey member) (encodeHex accepted)
    rw [hasSection_set, entry_set, if_neg fun same => enabledKey_ne _ _ same.2.symm] at stamped
    simp only [if_true] at stamped ⊢
    omega

theorem writeMembers_states (members : List TrustStoreMemberConfig) :
    writeMembers setup handler descriptor members =
      (statesOf setup handler members).foldl (fun descriptor described =>
        writeMember descriptor described.1 described.2) descriptor := by
  induction members generalizing descriptor with
  | nil => rfl
  | cons member rest ih =>
    change writeMembers setup handler (writeMemberOf setup handler descriptor member) rest = _
    simp only [ih, writeMemberOf, statesOf, List.filterMap_cons]
    cases setup.slotOf member with
    | error e => rfl
    | ok slot =>
      simp only
      cases handler.states.lookup slot with
      | none => rfl
      | some state => rfl

theorem replacedCost_writeMember {descriptor : DeploymentDescriptor} {state : MemberState}
    {described : TrustStoreMemberConfig × MemberState}
    (differ : described.1.slotName ≠ member.slotName) :
    replacedCost (writeMember descriptor member state) described = replacedCost descriptor described := by
  unfold replacedCost
  rw [writeMember_enabled, writeMember_fingerprint, if_neg differ, if_neg differ]

theorem size_writeStates (states : List (TrustStoreMemberConfig × MemberState))
    (distinct : (states.map fun described => described.1.slotName).Nodup) :
    serializedSize (states.foldl (fun descriptor described =>
        writeMember descriptor described.1 described.2) descriptor) +
        (states.map (replacedCost descriptor)).sum =
      serializedSize descriptor + (states.map writtenCost).sum + headerCost descriptor states := by
  induction states generalizing descriptor with
  | nil => rfl
  | cons described rest ih =>
    rcases described with ⟨member, state⟩
    rw [List.map_cons, List.nodup_cons] at distinct
    have first := @size_writeMember member descriptor state
    have later := ih (writeMember descriptor member state) distinct.2
    have same : rest.map (replacedCost (writeMember descriptor member state)) =
        rest.map (replacedCost descriptor) := by
      apply List.map_congr_left
      intro other inside
      apply replacedCost_writeMember
      intro equal
      exact distinct.1 (List.mem_map.mpr ⟨other, inside, equal⟩)
    have noHeader : headerCost (writeMember descriptor member state) rest = 0 :=
      if_pos (.inr (hasSection_writeMember descriptor state))
    have header : headerCost descriptor ((member, state) :: rest) =
        headerCost descriptor [(member, state)] := by
      simp [headerCost]
    rw [same, noHeader] at later
    simp only [header, List.foldl_cons, List.map_cons, List.sum_cons]
    omega

theorem validateFrom_nodup {seen : List SlotIndex} {members : List TrustStoreMemberConfig}
    (valid : setup.validateFrom seen members = true) :
    (members.map TrustStoreMemberConfig.slotName).Nodup := by
  induction members generalizing seen with
  | nil => exact List.nodup_nil
  | cons first rest ih =>
    unfold StoreSetup.validateFrom at valid
    split at valid
    case h_1 => cases valid
    case h_2 own resolved =>
      split at valid
      case isTrue => cases valid
      case isFalse =>
        rw [List.map_cons, List.nodup_cons]
        refine ⟨?_, ih valid⟩
        intro inside
        rcases List.mem_map.mp inside with ⟨other, later, same⟩
        have found := (StoreSetup.slotOf_congr same).trans resolved
        exact StoreSetup.validateFrom_fresh valid later found List.mem_cons_self

theorem statesOf_nodup {members : List TrustStoreMemberConfig}
    (distinct : (members.map TrustStoreMemberConfig.slotName).Nodup) :
    ((statesOf setup handler members).map fun described => described.1.slotName).Nodup := by
  have part : ((statesOf setup handler members).map Prod.fst).Sublist members := by
    clear distinct
    induction members with
    | nil => exact List.Sublist.slnil
    | cons first rest ih =>
      rw [statesOf, List.filterMap_cons]
      split
      case h_1 => exact ih.cons first
      case h_2 described chosen =>
        have same : described.1 = first := by
          cases found : setup.slotOf first with
          | error e =>
            rw [found] at chosen
            cases chosen
          | ok slot =>
            rw [found] at chosen
            rcases Option.map_eq_some_iff.mp chosen with ⟨state, -, rfl⟩
            rfl
        rw [List.map_cons, same]
        exact ih.cons_cons first
  have names := (part.map TrustStoreMemberConfig.slotName).nodup distinct
  rwa [List.map_map] at names

/-- What the file already holds and what the states take fits into what is read of it. -/
def StateFits (setup : StoreSetup) (handler : TrustStoreHandler) (existing : DeploymentDescriptor) :
    Prop :=
  let states := statesOf setup handler setup.config.members
  serializedSize existing + (states.map writtenCost).sum + headerCost existing states ≤
    maxDescriptorSize + (states.map (replacedCost existing)).sum

theorem stateFits_iff {existing : DeploymentDescriptor} (distinct : setup.validateMembers = true) :
    StateFits setup handler existing ↔
      serializedSize (writeMembers setup handler existing setup.config.members) ≤
        maxDescriptorSize := by
  have size := size_writeStates existing (statesOf setup handler setup.config.members)
    (statesOf_nodup (validateFrom_nodup distinct))
  rw [← writeMembers_states] at size
  unfold StateFits
  simp only
  omega

/-- The states that have been written come back exactly if the file is not too long. -/
theorem restart_restores_iff {start : StoreWorld} (reachable : Reachable setup start handler world)
    (valid : handler.valid = true) (stored : setup.config.deploymentPath ≠ [])
    (ends : Ends StoreAction.Faithful (persistStateLocked setup) handler world (.ok ()) handler'
      world') :
    Restores setup handler world' ↔
      StateFits setup handler ((load world.file).toOption.getD ∅) := by
  have sound := reachable.sound valid
  rcases persist_writes stored ends with ⟨order, bytes, written, rfl⟩
  rcases startingPoint (sound.durable stored) (fun descriptor (read : load world.file = _) => read) with
      ⟨plain, -⟩
  have loaded := load_written order (writeMembers_plain handler plain _) written
  rw [stateFits_iff sound.distinct]
  constructor
  · intro restores
    rcases load_of_restores stored (by simp) restores with ⟨descriptor, read⟩
    rw [loaded] at read
    split at read
    case isTrue fits => exact fits
    case isFalse => cases read
  · intro fits
    rw [if_pos fits] at loaded
    rcases sound.persist_reproduces stored (ends.mono fun _ _ _ _ => StoreAction.Faithful.may) with
      ⟨descriptor, read, same⟩
    cases read.symm.trans (persisted_of_load loaded).1
    exact restores_of_load stored loaded same

section Named

variable (n : Nat)

def namedMember : TrustStoreMemberConfig where
  slotName := List.replicate n 97

def namedSetup : StoreSetup where
  config := { members := [namedMember n], deploymentPath := ascii "state" }
  registry :=
    { registry := [{ slotName := List.replicate n 97, allowedWriteUids := [] }]
      distinct := List.nodup_singleton _ }

def disabledStore : TrustStoreHandler where
  valid := true
  states := Finmap.singleton 0 { enabled := false }

theorem named_slotOf : (namedSetup n).slotOf (namedMember n) = .ok 0 := by
  simp [StoreSetup.slotOf, namedSetup, namedMember, CertSlotRegistry.resolveSlotInternal]

theorem named_validateMembers : (namedSetup n).validateMembers = true := by
  change (namedSetup n).validateFrom [] [namedMember n] = true
  simp [StoreSetup.validateFrom, named_slotOf]

theorem named_findMember : (namedSetup n).findMember 0 = some (namedMember n) := by
  have refers : (namedSetup n).refersTo 0 (namedMember n) = true :=
    StoreSetup.refersTo_iff.mpr (named_slotOf n)
  change [namedMember n].find? ((namedSetup n).refersTo 0) = _
  simp [refers]

theorem named_reachable : Reachable (namedSetup n) ⟨none⟩ disabledStore ⟨none⟩ := by
  have constructed : Reachable (namedSetup n) ⟨none⟩ { valid := true } ⟨none⟩ := by
    apply Reachable.constructed
    unfold Ends construct
    rw [if_pos (named_validateMembers n)]
    refine .call (show StoreAction.May .fileExists _ (.ok false) _ from ⟨?_, rfl⟩) ?_
    · rintro found ⟨⟩
      rfl
    · exact .done _ _
  have refused : Ends StoreAction.May (Call.program (namedSetup n) (.disableMember 0)) { valid := true }
      ⟨none⟩ (.done (.error .operationFailed)) disabledStore ⟨none⟩ := by
    simp only [Ends, Call.program, disableMember, named_findMember]
    refine .call (show StoreAction.May .loadDescriptor _ (.error .operationFailed) _
      from ⟨by simp, rfl⟩) ?_
    refine .call (show StoreAction.May (.writeDescriptor _) _ (.error .operationFailed) _
      from rfl) ?_
    exact .done _ _
  exact Reachable.called (.disableMember 0) constructed refused

theorem namedKey_letters : ∀ c ∈ enabledKey (namedMember n),
    c ≠ Ascii.equals ∧ c ≠ Ascii.carriageReturn ∧ c ≠ Ascii.newline := by
  have texts : ∀ c ∈ ascii "slot." ++ ascii "." ++ ascii "enabled",
      c ≠ Ascii.equals ∧ c ≠ Ascii.carriageReturn ∧ c ≠ Ascii.newline := by
    have checked : (ascii "slot." ++ ascii "." ++ ascii "enabled").all (fun c =>
        c ≠ Ascii.equals && c ≠ Ascii.carriageReturn && c ≠ Ascii.newline) = true := by decide
    intro c inside
    simpa [and_assoc] using List.all_eq_true.mp checked c inside
  intro c inside
  simp only [enabledKey, memberKey, List.mem_append] at inside texts
  rcases inside with ((slot | named) | dot) | enabled
  · exact texts c (.inl (.inl slot))
  · rw [List.eq_of_mem_replicate named]
    decide
  · exact texts c (.inl (.inr dot))
  · exact texts c (.inr enabled)

theorem namedKey_valid : isValidKvKey (enabledKey (namedMember n)) = true := by
  have first : (enabledKey (namedMember n)).head? = some 115 := rfl
  have last : (enabledKey (namedMember n)).getLast? = some 100 :=
    memberKey_getLast (namedMember n) (by decide)
  have full : enabledKey (namedMember n) ≠ [] := by
    intro empty
    rw [empty] at first
    cases first
  have noEquals : Ascii.equals ∉ enabledKey (namedMember n) :=
    fun inside => (namedKey_letters n _ inside).1 rfl
  have single : isSingleLine (enabledKey (namedMember n)) = true := by
    simpa [isSingleLine] using fun c inside => (namedKey_letters n c inside).2
  have inner : hasBoundaryWhitespace (enabledKey (namedMember n)) = false := by
    rw [hasBoundaryWhitespace, first, last]
    decide
  have noComment : (115 : UInt8) ≠ Ascii.hash := by decide
  simp [isValidKvKey, full, first, noEquals, inner, single, noComment]

theorem named_written : writeMembers (namedSetup n) disabledStore ∅ [namedMember n] =
    singleEntry stateSection (enabledKey (namedMember n)) (ascii "false") := by
  have own : writeMemberOf (namedSetup n) disabledStore ∅ (namedMember n) =
      writeMember ∅ (namedMember n) { enabled := false } := by
    rw [writeMemberOf_same ∅ (named_slotOf n) rfl]
    rfl
  change writeMemberOf (namedSetup n) disabledStore ∅ (namedMember n) = _
  rw [own]
  rfl

theorem size_singleEntry (name key value : Bytes) :
    serializedSize (singleEntry name key value) = name.length + 4 + entryCost key value := by
  rfl

theorem named_persists : ∃ bytes, Ends StoreAction.Faithful (persistStateLocked (namedSetup n))
      disabledStore ⟨none⟩ (.ok ()) disabledStore ⟨some bytes⟩ ∧
    load (some bytes) =
      if n + 43 ≤ maxDescriptorSize then
        .ok (singleEntry stateSection (enabledKey (namedMember n)) (ascii "false"))
      else .error .invalidArgument := by
  have accepted : Accepted (singleEntry stateSection (enabledKey (namedMember n)) (ascii "false")) :=
    singleEntry_accepted (isValidEntry_iff.mpr ⟨by decide, namedKey_valid n, by decide⟩)
  have plain : PlainEntries (singleEntry stateSection (enabledKey (namedMember n)) (ascii "false")) :=
    singleEntry_plain (memberKey_plain _ _ _)
  have size : serializedSize (singleEntry stateSection (enabledKey (namedMember n)) (ascii "false")) =
      n + 43 := by
    rw [size_singleEntry]
    simp [entryCost, enabledKey, memberKey, namedMember, stateSection, ascii]
    omega
  rcases HashOrder.exists_any with ⟨order⟩
  obtain ⟨bytes, written⟩ : ∃ bytes, write order
      (singleEntry stateSection (enabledKey (namedMember n)) (ascii "false")) = .ok bytes :=
    ⟨_, write_accepted order accepted⟩
  refine ⟨bytes, ?_, size ▸ load_written order plain written⟩
  unfold Ends persistStateLocked
  refine .call (show StoreAction.Faithful .loadDescriptor _ (load none) _
    from ⟨rfl, rfl⟩) ?_
  refine .call (show StoreAction.Faithful (.writeDescriptor _) _ (.ok ()) _
    from ⟨order, _, (named_written n).symm ▸ written, rfl⟩) ?_
  exact .done _ _

end Named

/-- A name of two letters leaves the file short enough. -/
theorem shortName_restored : ∃ world', Ends StoreAction.Faithful (persistStateLocked (namedSetup 2))
      disabledStore ⟨none⟩ (.ok ()) disabledStore world' ∧
    Restores (namedSetup 2) disabledStore world' := by
  rcases named_persists 2 with ⟨bytes, ends, -⟩
  refine ⟨_, ends, (restart_restores_iff (named_reachable 2) rfl (by decide) ends).mpr ?_⟩
  unfold StateFits
  decide

/-- A name of 70000 letters passes the validator, and a file with it is never read again. -/
theorem longName_lost : isValidKvKey (enabledKey (namedMember 70000)) = true ∧
    Reachable (namedSetup 70000) ⟨none⟩ disabledStore ⟨none⟩ ∧
    ∃ world', Ends StoreAction.Faithful (persistStateLocked (namedSetup 70000)) disabledStore
        ⟨none⟩ (.ok ()) disabledStore world' ∧
      ¬ Restores (namedSetup 70000) disabledStore world' := by
  rcases named_persists 70000 with ⟨bytes, ends, loaded⟩
  refine ⟨namedKey_valid _, named_reachable _, _, ends, ?_⟩
  intro restores
  rcases load_of_restores (by decide) (by simp) restores with ⟨descriptor, read⟩
  rw [if_neg (by decide)] at loaded
  cases loaded.symm.trans read

end TrustStore

end ScoreCrypto.CertManagement
