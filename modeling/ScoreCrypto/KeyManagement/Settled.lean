import ScoreCrypto.KeyManagement.Ledger

/-!
The accounts of the keys between two calls: besides the `Ledger`, every registered key is in use.
What each call of the service does to them when it runs alone.
-/

namespace ScoreCrypto.KeyManagement

open DataManager Daemon Program

/-- `outside` are the key nodes that the running call still holds. -/
structure Settled (d : Daemon.State) (outside : List KeyDataNode) : Prop where
  ledger : Ledger d
  registry : ∀ p, (d.registries p).WellFormed
  outside_eq : d.outside = outside
  used : ∀ p id key, (d.registries p).keys.lookup id = some key → 0 < references d key
  distinct : ∀ p id id' key, (d.registries p).keys.lookup id = some key →
    (d.registries p).keys.lookup id' = some key → id = id'

def Room (d : Daemon.State) : Prop :=
  ∀ key < d.nextEntry, ∀ entry ∈ d.entries key, entry.refCount.toNat + 1 < 2 ^ 32

instance (d : Daemon.State) : Decidable (Room d) :=
  inferInstanceAs (Decidable (∀ key < d.nextEntry, ∀ entry ∈ d.entries key,
    entry.refCount.toNat + 1 < 2 ^ 32))

def Ready (d : Daemon.State) (p : ProviderId) : Prop :=
  Room d ∧ (d.registries p).NextIdFree

instance (d : Daemon.State) (p : ProviderId) : Decidable (Ready d p) := by
  unfold Ready
  infer_instance

theorem init_settled : Settled Daemon.init [] where
  ledger := init_ledger
  registry := fun _ => KeyRegistry.wellFormed_empty
  outside_eq := rfl
  used := by simp [Daemon.init]
  distinct := by simp [Daemon.init]

variable {d d' : Daemon.State} {outside : List KeyDataNode}

/-- The counts tell how many references there are, so a call that leaves them and the registries
alone leaves every registered key in use. -/
theorem Settled.of_ledger (settled : Settled d outside) {outside' : List KeyDataNode}
    (ledger : Ledger d') (entries : d'.entries = d.entries)
    (registries : d'.registries = d.registries) (outside_eq : d'.outside = outside') :
    Settled d' outside' where
  ledger := ledger
  registry := by
    rw [registries]
    exact settled.registry
  outside_eq := outside_eq
  used := by
    intro p id key found
    rw [registries] at found
    rcases settled.ledger.key_entry p id key found with ⟨entry, here, -⟩
    rw [← ledger.count key entry (by rw [entries, here]), settled.ledger.count key entry here]
    exact settled.used p id key found
  distinct := by
    rw [registries]
    exact settled.distinct

/-! ### References made and released -/

section References

variable {node : KeyDataNode}

theorem construct_settled (ledger : Ledger d) (wf : ∀ p, (d.registries p).WellFormed)
    (used : ∀ p id key, (d.registries p).keys.lookup id = some key → key ≠ node.keyEntry →
      0 < references d key) (distinct : ∀ p id id' key, (d.registries p).keys.lookup id = some key →
      (d.registries p).keys.lookup id' = some key → id = id')
    (registered : (d.registries node.providerId).keys.lookup node.registryId = some node.keyEntry)
    (room : ∀ entry, d.entries node.keyEntry = some entry → entry.refCount.toNat + 1 < 2 ^ 32) :
    Settled (d.construct node) (node :: d.outside) := by
  have ledger' := ledger.construct node ⟨registered, room⟩
  rcases ledger.key_entry _ _ _ registered with ⟨entry, here, -⟩
  have registries : (d.construct node).registries = d.registries := by
    simp [State.construct, here, State.setEntry]
  have outside_eq : (d.construct node).outside = node :: d.outside := by
    simp [State.construct, here, State.setEntry]
  refine ⟨ledger', registries ▸ wf, outside_eq, ?_, ?_⟩
  · intro p id key found
    rw [registries] at found
    apply (holds_of_references ledger'.linked).mpr
    by_cases same : key = node.keyEntry
    · refine ⟨node, Or.inl ?_, same.symm⟩
      rw [outside_eq]
      exact List.mem_cons_self
    · rcases (holds_of_references ledger.linked).mp (used p id key found same) with
        ⟨other, held, points⟩
      refine ⟨other, ?_, points⟩
      rcases held with member | live
      · left
        rw [outside_eq]
        exact List.mem_cons_of_mem node member
      · right
        simpa [State.construct, here, State.setEntry] using live
  · rw [registries]
    exact distinct

theorem Settled.construct (settled : Settled d outside)
    (registered : (d.registries node.providerId).keys.lookup node.registryId = some node.keyEntry)
    (room : Room d) : Settled (d.construct node) (node :: outside) := by
  rw [← settled.outside_eq]
  exact construct_settled settled.ledger settled.registry
    (fun p id key found _ => settled.used p id key found) settled.distinct registered fun entry here =>
      room node.keyEntry (settled.ledger.entry_known _ entry here) entry here

theorem Settled.registered_once (settled : Settled d outside) {p p' : ProviderId}
    {id id' : KeyRegistryId} {key : EntryRef} (found : (d.registries p).keys.lookup id = some key)
    (found' : (d.registries p').keys.lookup id' = some key) : (p, id) = (p', id') := by
  rcases settled.ledger.key_entry _ _ _ found with ⟨entry, here, provider⟩
  rcases settled.ledger.key_entry _ _ _ found' with ⟨entry', here', provider'⟩
  rw [here] at here'
  cases here'
  subst provider
  subst provider'
  rw [settled.distinct _ id id' key found found']

theorem Settled.setRegistry_wellFormed (settled : Settled d outside) {p : ProviderId}
    {registry : KeyRegistry} (wf : registry.WellFormed) (q : ProviderId) :
    ((d.setRegistry p registry).registries q).WellFormed := by
  by_cases same : q = p
  · subst same
    simpa [State.setRegistry] using wf
  · simpa [State.setRegistry, same] using settled.registry q

theorem Settled.construct_registered (settled : Settled d outside) {registry : KeyRegistry}
    {slot : Option Nat} {entry : KeyEntry}
    (added : (d.registries node.providerId).Added registry slot node.keyEntry)
    (free : (d.registries node.providerId).NextIdFree)
    (here : d.entries node.keyEntry = some entry) (provider : entry.providerId = node.providerId)
    (unused : entry.refCount = 0)
    (unregistered : ∀ p id, (d.registries p).keys.lookup id ≠ some node.keyEntry)
    (issued : node.registryId = (d.registries node.providerId).nextId) :
    Settled ((d.setRegistry node.providerId registry).construct node) (node :: outside) := by
  have outside_eq : (d.setRegistry node.providerId registry).outside = outside :=
    settled.outside_eq
  rw [← outside_eq]
  apply construct_settled (settled.ledger.registered added ⟨entry, here, provider⟩)
  · exact settled.setRegistry_wellFormed (added.wellFormed free (settled.registry _))
  · intro p id key found other
    rw [lookup_setRegistry_added added free] at found
    split at found
    · cases found
      exact absurd rfl other
    · exact settled.used p id key found
  · intro p id id' key found found'
    rw [lookup_setRegistry_added added free] at found found'
    split at found
    · rename_i new
      cases found
      split at found'
      · rename_i new'
        exact (Prod.mk.inj new).2.trans (Prod.mk.inj new').2.symm
      · exact absurd found' (unregistered p id')
    · split at found'
      · cases found'
        exact absurd found (unregistered p id)
      · exact settled.distinct p id id' key found found'
  · rw [lookup_setRegistry_added added free, issued, if_pos rfl]
  · intro found present
    have same : d.entries node.keyEntry = some found := present
    rw [here] at same
    cases same
    rw [unused]
    decide

theorem destroyKeyDataNode_settled (settled : Settled d (node :: outside)) :
    Settled (exec (destroyKeyDataNode node) d).2 outside := by
  have member : node ∈ d.outside := by
    rw [settled.outside_eq]
    exact List.mem_cons_self
  have registered := settled.ledger.backed node (Or.inl member)
  rcases settled.ledger.key_entry _ _ _ registered with ⟨entry, here, -⟩
  have positive := settled.used _ _ _ registered
  rw [← settled.ledger.count _ entry here] at positive
  have counted := release_count entry node.clientId positive
  have ledger := settled.ledger.release node
  have left : d.outside.erase node = outside := by
    rw [settled.outside_eq, List.erase_cons_head]
  have used : ∀ retired p id key, (d.registries p).keys.lookup id = some key →
      key ≠ node.keyEntry → 0 < references (recounted d node.keyEntry
        (entry.release node.clientId).2 (d.outside.erase node) retired) key := by
    intro retired p id key found other
    have balance := references_released member (entry.release node.clientId).2 retired key
    rw [if_neg (Ne.symm other), Nat.add_zero] at balance
    rw [balance]
    exact settled.used p id key found
  rw [release_eq here member] at ledger
  unfold destroyKeyDataNode
  simp only [exec_bind, exec_perform, handle, release_eq here member]
  cases last : (entry.release node.clientId).1 with
  | false =>
    simp only [last, Bool.false_eq_true, if_false, exec_pure] at ledger ⊢
    refine ⟨ledger, settled.registry, left, ?_, settled.distinct⟩
    intro p id key found
    by_cases same : key = node.keyEntry
    · have more : entry.refCount.toNat ≠ 1 := by
        intro one
        rw [(release_last entry node.clientId).mpr one] at last
        cases last
      subst same
      rw [← ledger.count _ (entry.release node.clientId).2 (by simp [recounted])]
      omega
    · exact used d.retired p id key found same
  | true =>
    simp only [last, if_true, exec_bind, exec_perform, exec_pure, handle] at ledger ⊢
    have one := (release_last entry node.clientId).mp last
    have gone := KeyRegistry.unregister_cases ((recounted d node.keyEntry
      (entry.release node.clientId).2 (d.outside.erase node)
      ((node.providerId, node.registryId) :: d.retired)).registries node.providerId) node.registryId
    rcases gone with ⟨absent, -⟩ | ⟨-, registry, done, erased, kept⟩
    · exact absurd (registered.symm.trans absent) (Option.some_ne_none _)
    · simp only [done]
      refine ⟨ledger.unregistered erased fun n held => ?_, ?_, left, ?_, ?_⟩
      · exact settled.ledger.last_release here member one held
      · exact settled.setRegistry_wellFormed (kept (settled.registry node.providerId))
      · intro p id key found
        rw [lookup_setRegistry_erased erased] at found
        split at found
        · cases found
        · rename_i other
          refine used d.retired p id key found ?_
          intro same
          subst same
          exact other (settled.registered_once found registered)
      · intro p id id' key found found'
        rw [lookup_setRegistry_erased erased] at found found'
        split at found
        · cases found
        · split at found'
          · cases found'
          · exact settled.distinct p id id' key found found'

theorem destroyKeyDataNodes_settled (nodes : List KeyDataNode)
    (settled : Settled d (nodes ++ outside)) :
    Settled (exec (destroyKeyDataNodes nodes) d).2 outside := by
  induction nodes generalizing d with
  | nil => exact settled
  | cons node nodes ih =>
    simp only [destroyKeyDataNodes, exec_bind]
    exact ih (destroyKeyDataNode_settled settled)

end References

/-! ### The manager's calls -/

section Manager

theorem deleteNode_settled (settled : Settled d outside) (c : ClientId) (id : DataNodeId) :
    Settled (exec (Daemon.deleteNode c id) d).2 outside := by
  simp only [Daemon.deleteNode, exec_bind, exec_perform, exec_pure]
  apply destroyKeyDataNodes_settled
  apply settled.of_ledger (handle_ledger settled.ledger (.deleteNode c id) trivial) rfl rfl
  exact congrArg _ settled.outside_eq

theorem deleteClientNodes_settled (settled : Settled d outside) (c : ClientId) :
    Settled (exec (Daemon.deleteClientNodes c) d).2 outside := by
  simp only [Daemon.deleteClientNodes, exec_bind, exec_perform, exec_pure]
  apply destroyKeyDataNodes_settled
  apply settled.of_ledger (handle_ledger settled.ledger (.deleteClientNodes c) trivial) rfl rfl
  exact congrArg _ settled.outside_eq

theorem destroyAccessor_settled (settled : Settled d outside) (accessor : Accessor) :
    Settled (exec (Daemon.destroyAccessor accessor) d).2 outside := by
  simp only [Daemon.destroyAccessor, exec_bind, exec_perform]
  apply destroyKeyDataNodes_settled
  apply settled.of_ledger (handle_ledger settled.ledger (.destroyAccessor accessor) trivial) rfl
    rfl
  exact congrArg _ settled.outside_eq

theorem getNodeAccessor_settled (settled : Settled d outside) (c : ClientId) (id : DataNodeId) :
    Settled (d.getNodeAccessor c id).2 outside := by
  have ledger := handle_ledger settled.ledger (.getNodeAccessor c id) trivial
  simp only [handle] at ledger
  rw [getNodeAccessor_data] at ledger ⊢
  exact settled.of_ledger ledger rfl rfl settled.outside_eq

variable {node : Node}

theorem added_outside (unheld : ∀ key, node = .keyData key → key ∉ d.outside)
    (result : Expected DataNodeId × DataManager.State Node) :
    (d.added node result).2.outside = d.outside := by
  unfold State.added
  cases result.1 with
  | error e => rfl
  | ok id =>
    cases node with
    | keyData key => exact List.erase_of_not_mem (unheld key rfl)
    | _ => rfl

theorem addNode_settled (settled : Settled d outside) (c : ClientId)
    (unheld : ∀ key, node = .keyData key → key ∉ d.outside) :
    Settled (handle (.addNode c node) d).2 outside := by
  apply settled.of_ledger (handle_ledger settled.ledger (.addNode c node) trivial) rfl rfl
  exact (added_outside unheld _).trans settled.outside_eq

theorem addChildNode_settled (settled : Settled d outside) (c : ClientId) (parentId : DataNodeId)
    (unheld : ∀ key, node = .keyData key → key ∉ d.outside) :
    Settled (handle (.addChildNode c parentId node) d).2 outside := by
  apply settled.of_ledger (handle_ledger settled.ledger (.addChildNode c parentId node) trivial)
    rfl rfl
  exact (added_outside unheld _).trans settled.outside_eq

end Manager

/-! ### The service's calls -/

section Service

variable {config : Config} {params : KeyRegistrationParams} {key : EntryRef} {c : ClientId}

theorem createKeyDataNode_settled {parentId : DataNodeId} {registryId : KeyRegistryId}
    {p : ProviderId}
    (settled : Settled (d.construct ⟨key, registryId, c, p⟩) (⟨key, registryId, c, p⟩ :: outside)) :
    Settled (exec (createKeyDataNode c parentId key registryId p) d).2 outside := by
  have ledger := handle_ledger settled.ledger
    (.addChildNode c parentId (.keyData ⟨key, registryId, c, p⟩)) trivial
  unfold createKeyDataNode
  simp only [exec_bind, exec_perform, handle, State.added] at ledger ⊢
  cases result : (DataManager.addChildNode (d.construct ⟨key, registryId, c, p⟩).data c parentId
      ((d.construct ⟨key, registryId, c, p⟩).object? (.keyData ⟨key, registryId, c, p⟩))).1 with
  | error e =>
    simp only [result, exec_bind, exec_pure] at ledger ⊢
    exact destroyKeyDataNode_settled (settled.of_ledger ledger rfl rfl settled.outside_eq)
  | ok id =>
    simp only [result, exec_pure] at ledger ⊢
    apply settled.of_ledger ledger rfl rfl
    simp [State.handOver, settled.outside_eq]

theorem createKeyDataNode_shared (settled : Settled d outside) (room : Room d)
    {parentId : DataNodeId} {registryId : KeyRegistryId} {p : ProviderId}
    (registered : (d.registries p).keys.lookup registryId = some key) :
    Settled (exec (createKeyDataNode c parentId key registryId p) d).2 outside :=
  createKeyDataNode_settled (settled.construct registered room)

theorem findBySlot_registered {registry : KeyRegistry} {slot : SlotHandle}
    (found : registry.findBySlot slot = some key) :
    registry.keys.lookup (registry.findSlotRegistryId slot) = some key := by
  unfold KeyRegistry.findBySlot at found
  rcases Option.bind_eq_some_iff.mp found with ⟨id, mapped, here⟩
  rw [KeyRegistry.findSlotRegistryId, mapped]
  exact here

theorem shareKey_settled (settled : Settled d outside) (room : Room d)
    (found : (d.registries params.providerId).findBySlot params.slotHandle = some key) :
    Settled (exec (shareKey params key) d).2 outside := by
  unfold shareKey
  simp only [exec_bind, exec_perform, handle]
  exact createKeyDataNode_shared settled room (findBySlot_registered found)

theorem findSlotRegistryId_taken {registry : KeyRegistry} (wf : registry.WellFormed)
    {slot : SlotHandle} {id : KeyRegistryId} (mapped : registry.slotToId.lookup slot.index = some id) :
    registry.findSlotRegistryId slot = id ∧ id ≠ 0 ∧ ∃ key, registry.keys.lookup id = some key := by
  rcases (KeyRegistry.mem_keys_iff id).mp (wf.slot_key _ id mapped) with ⟨key, found⟩
  refine ⟨by rw [KeyRegistry.findSlotRegistryId, mapped]; rfl, ?_, key, found⟩
  rintro rfl
  exact wf.nonzero (wf.slot_key _ 0 mapped)

theorem registerKeyEntry_settled (settled : Settled d outside) (ready : Ready d params.providerId)
    {entry : KeyEntry}
    (here : d.entries key = some entry) (provider : entry.providerId = params.providerId)
    (unused : entry.refCount = 0)
    (unregistered : ∀ p id, (d.registries p).keys.lookup id ≠ some key) :
    Settled (exec (registerKeyEntry params key) d).2 outside := by
  have wf := settled.registry params.providerId
  unfold registerKeyEntry
  by_cases valid : params.slotHandle.isValid = true
  · simp only [valid, if_true, exec_bind, exec_perform]
    rcases (d.registries params.providerId).registerSlotKey_cases params.slotHandle key with
      ⟨⟨id, mapped⟩, same⟩ | ⟨-, registry, done, added⟩
    · rcases findSlotRegistryId_taken wf mapped with ⟨found_id, nonzero, key', found⟩
      simp only [handle, same, if_true, exec_bind, exec_perform, setRegistry_same, found_id,
        if_neg nonzero, KeyRegistry.findById, found]
      exact createKeyDataNode_shared settled ready.1 found
    · simp only [handle, done, if_neg ready.2.1]
      apply createKeyDataNode_settled
      exact settled.construct_registered added ready.2 here provider unused unregistered rfl
  · simp only [valid, Bool.false_eq_true, if_false, exec_bind, exec_perform]
    rcases (d.registries params.providerId).registerEphemeralKey_added key with
      ⟨registry, done, added⟩
    simp only [handle, done]
    apply createKeyDataNode_settled
    exact settled.construct_registered added ready.2 here provider unused unregistered rfl

theorem Settled.unregistered_next (settled : Settled d outside) (p : ProviderId)
    (id : KeyRegistryId) : (d.registries p).keys.lookup id ≠ some d.nextEntry := by
  intro found
  rcases settled.ledger.key_entry p id _ found with ⟨entry, here, -⟩
  exact Nat.lt_irrefl _ (settled.ledger.entry_known _ entry here)

theorem makeKeyEntry_settled (settled : Settled d outside) (keyHandle : ProviderKeyHandle)
    (p : ProviderId) (slot : SlotHandle) :
    Settled (handle (.makeKeyEntry keyHandle p slot) d).2 outside :=
  ⟨handle_ledger settled.ledger (.makeKeyEntry keyHandle p slot) trivial, settled.registry,
    settled.outside_eq, settled.used, settled.distinct⟩

theorem makeKeyEntry_room (room : Room d) (keyHandle : ProviderKeyHandle) (p : ProviderId)
    (slot : SlotHandle) : Room (handle (.makeKeyEntry keyHandle p slot) d).2 := by
  intro key below entry here
  by_cases new : key = d.nextEntry
  · subst new
    simp only [handle, State.setEntry, Function.update_self, Option.mem_some_iff] at here
    rw [← here]
    exact (by decide : (0 : UInt32).toNat + 1 < 2 ^ 32)
  · simp only [handle, State.setEntry, Function.update_of_ne new] at here
    exact room key (Nat.lt_of_le_of_ne (Nat.le_of_lt_succ below) new) entry here

theorem registerKeyMaterial_settled (settled : Settled d outside) (ready : Ready d params.providerId)
    (handler : Option ProviderKeyHandle) :
    Settled (exec (registerKeyMaterial params handler) d).2 outside := by
  cases handler with
  | none => exact settled
  | some keyHandle =>
    simp only [registerKeyMaterial, exec_bind, exec_perform]
    have here : (handle (.makeKeyEntry keyHandle params.providerId params.slotHandle)
        d).2.entries d.nextEntry = some ⟨keyHandle, params.providerId, params.slotHandle, 0, []⟩ := by
      simp [handle, State.setEntry]
    exact registerKeyEntry_settled
      (makeKeyEntry_settled settled keyHandle params.providerId params.slotHandle)
      ⟨makeKeyEntry_room ready.1 keyHandle params.providerId params.slotHandle, ready.2⟩ here rfl rfl
      settled.unregistered_next

theorem loadOrShare_settled (settled : Settled d outside) (ready : Ready d params.providerId)
    (slot : KeySlotConfig) (found : Expected SlotMaterial) :
    Settled (exec (loadOrShare config params slot found) d).2 outside := by
  unfold loadOrShare
  simp only [exec_bind, exec_perform, handle]
  cases shared : (d.registries params.providerId).findBySlot params.slotHandle with
  | some key => exact shareKey_settled settled ready.1 shared
  | none =>
    cases loadKey config params.providerId slot found with
    | ok keyHandle => exact registerKeyMaterial_settled settled ready (some keyHandle)
    | error e =>
      simp only [exec_bind, exec_perform, handle, shared]
      exact settled

theorem getNodeAccessor_ok {id : DataNodeId} {accessor : Accessor} {node : Node}
    (looked : (d.getNodeAccessor c id).1 = .ok (accessor, node)) :
    (d.getNodeAccessor c id).2.data.payload accessor.node = some node := by
  unfold State.getNodeAccessor at looked ⊢
  split at looked
  · cases looked
  · rename_i found data run
    simp only at looked ⊢
    split at looked
    · rename_i object here
      cases looked
      simp [State.payload, here]
    · cases looked

theorem withAccessor_settled {α : Type} {missing : DaemonErrorCode → α}
    {body : Node → Prog α} (settled : Settled d outside) (room : Room d) (c : ClientId)
    (id : DataNodeId)
    (keeps : ∀ d' ref node, Settled d' outside → Room d' → d'.registries = d.registries →
      d'.data.payload ref = some node → Settled (exec (body node) d').2 outside) :
    Settled (exec (withAccessor c id missing body) d).2 outside := by
  have looked := getNodeAccessor_settled settled c id
  have room' : Room (d.getNodeAccessor c id).2 := by
    rw [getNodeAccessor_data]
    exact room
  have registries : (d.getNodeAccessor c id).2.registries = d.registries := by
    rw [getNodeAccessor_data]
  unfold withAccessor
  simp only [exec_bind, exec_perform, handle]
  cases result : (d.getNodeAccessor c id).1 with
  | error e => exact looked
  | ok found =>
    simp only [exec_bind, exec_pure]
    exact destroyAccessor_settled
      (keeps _ found.1.node found.2 looked room' registries (getNodeAccessor_ok result)) found.1

/-- The next key of every provider that slots are loaded with can be registered and counted. -/
def SlotsReady (config : Config) (d : Daemon.State) : Prop :=
  Room d ∧ ∀ slot ∈ config.slots.registry, (d.registries slot.getPrimaryProviderId).NextIdFree

instance (config : Config) (d : Daemon.State) : Decidable (SlotsReady config d) := by
  unfold SlotsReady
  infer_instance

theorem getPrimaryProviderId_ok {slots : SlotRegistry} {slotHandle : SlotHandle} {p : ProviderId}
    (primary : slots.getPrimaryProviderId slotHandle = .ok p) :
    ∃ slot ∈ slots.registry, slot.getPrimaryProviderId = p := by
  unfold SlotRegistry.getPrimaryProviderId SlotRegistry.getConfig at primary
  split at primary
  · cases primary
  · rename_i slot known
    split at known
    · split at known
      · rename_i here
        cases known
        refine ⟨slot, List.mem_of_getElem? here, ?_⟩
        unfold KeySlotConfig.getPrimaryProviderId
        split at primary
        · cases primary
        · rename_i ids
          cases primary
          rw [ids]
          rfl
      · cases known
    · cases known

theorem bindKeyToContext_settled (settled : Settled d outside) (ready : SlotsReady config d)
    (c : ClientId) (contextNodeId keyNodeId : DataNodeId) (target : ProviderId)
    (found : Expected SlotMaterial) :
    Settled (exec (bindKeyToContext config c contextNodeId keyNodeId target found) d).2 outside := by
  apply withAccessor_settled settled ready.1
  intro d' ref node settled' room' registries stored
  cases node with
  | keySlot slotHandle =>
    have free : ∀ p, config.slots.getPrimaryProviderId slotHandle = .ok p →
        (d'.registries p).NextIdFree := by
      intro p primary
      rcases getPrimaryProviderId_ok primary with ⟨slot, known, rfl⟩
      exact registries ▸ ready.2 slot known
    dsimp only
    repeat' split
    all_goals first
      | exact settled'
      | exact loadOrShare_settled settled' ⟨room', free _ (by assumption)⟩ _ found
  | keyData node =>
    simp only [exec_bind, exec_perform, handle]
    cases here : d'.entries node.keyEntry with
    | none => exact settled'
    | some entry =>
      have registered := settled'.ledger.backed node (Or.inr ⟨ref, stored⟩)
      rcases settled'.ledger.key_entry _ _ _ registered with ⟨entry', here', provider⟩
      rw [here] at here'
      cases here'
      rw [← provider] at registered
      dsimp only
      split
      · exact settled'
      · exact createKeyDataNode_shared settled' room' registered
  | _ => exact settled'

end Service

end ScoreCrypto.KeyManagement
