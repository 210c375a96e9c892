import ScoreCrypto.Daemon.Evolution

/-!
Calls that take turns at every operation of a registry or an entry, and the one key that the key
nodes of a slot share.
-/

namespace ScoreCrypto.KeyManagement

open DataManager Daemon Program Run

def SlotsMapped (d : Daemon.State) : Prop :=
  ∀ p id key entry, (d.registries p).keys.lookup id = some key → d.entries key = some entry →
    entry.slotHandle.isValid = true →
      (d.registries p).slotToId.lookup entry.slotHandle.index = some id

structure Shared (d : Daemon.State) : Prop where
  ledger : Ledger d
  mapped : SlotsMapped d
  retired_gone : ∀ node, Holds d node → (node.providerId, node.registryId) ∉ d.retired

/-- A reference is made while its key is registered under the id that the node keeps, before a
destructor has seen the key's last reference go, and while the count is below its maximum. -/
def RefersInTime (d : Daemon.State) : Action → Prop
  | .constructKeyDataNode node =>
    (d.registries node.providerId).findById node.registryId = some node.keyEntry ∧
      (node.providerId, node.registryId) ∉ d.retired ∧
      ∀ entry ∈ d.entries node.keyEntry, entry.refCount.toNat + 1 < 2 ^ 32
  | _ => True

instance (d : Daemon.State) (act : Action) : Decidable (RefersInTime d act) := by
  cases act <;> unfold RefersInTime <;> infer_instance

def Allowed (d : Daemon.State) (act : Action) : Prop :=
  Permitted d act ∧
    match act with
    | .registerSlotKey _ slot key => ∀ entry, d.entries key = some entry → entry.slotHandle = slot
    | .registerEphemeralKey _ key =>
      ∀ entry, d.entries key = some entry → entry.slotHandle.isValid = false
    | .constructKeyDataNode node => (node.providerId, node.registryId) ∉ d.retired
    | _ => True

/-! ### What one action does -/

section Action

variable {d d' : Daemon.State}

theorem SlotsMapped.of_later (mapped : SlotsMapped d) (ledger : Ledger d) (later : Later d d')
    (registries : d'.registries = d.registries) : SlotsMapped d' := by
  intro p id key entry found here valid
  rw [registries] at found ⊢
  rcases ledger.key_entry p id key found with ⟨old, present, -⟩
  rcases later.entries key old present with ⟨entry', here', same⟩
  rw [here] at here'
  cases here'
  rw [same.slotHandle] at valid ⊢
  exact mapped p id key old found present valid

variable {registry : KeyRegistry} {p : ProviderId}

theorem SlotsMapped.setRegistry (mapped : SlotsMapped d)
    (changed : ∀ id key entry, registry.keys.lookup id = some key → d.entries key = some entry →
      entry.slotHandle.isValid = true →
      registry.slotToId.lookup entry.slotHandle.index = some id) :
    SlotsMapped (d.setRegistry p registry) := by
  intro q id key entry found here valid
  by_cases same : q = p
  · subst same
    simp only [State.setRegistry, Function.update_self] at found ⊢
    exact changed id key entry found here valid
  · simp only [State.setRegistry, Function.update_of_ne same] at found ⊢
    exact mapped q id key entry found here valid

theorem registerSlotKey_mapped (mapped : SlotsMapped d) {slot : SlotHandle} {key : EntryRef}
    (added : (d.registries p).Added registry (some slot.index) key)
    (free : (d.registries p).slotToId.lookup slot.index = none)
    (its : ∀ entry, d.entries key = some entry → entry.slotHandle = slot) :
    SlotsMapped (d.setRegistry p registry) := by
  apply mapped.setRegistry
  intro id found entry lookup here valid
  rw [added.keys] at lookup
  rw [added.slots]
  split at lookup
  · rename_i new
    cases lookup
    rw [its entry here, if_pos rfl, new.1]
  · have before := mapped p id found entry lookup here valid
    rw [if_neg]
    · exact before
    · intro taken
      rw [← Option.some.inj taken, free] at before
      cases before

theorem registerEphemeralKey_mapped (mapped : SlotsMapped d) {key : EntryRef}
    (added : (d.registries p).Added registry none key)
    (its : ∀ entry, d.entries key = some entry → entry.slotHandle.isValid = false) :
    SlotsMapped (d.setRegistry p registry) := by
  apply mapped.setRegistry
  intro id found entry lookup here valid
  rw [added.keys] at lookup
  rw [added.slots, if_neg (by simp)]
  split at lookup
  · cases lookup
    rw [its entry here] at valid
    cases valid
  · exact mapped p id found entry lookup here valid

theorem unregister_mapped (mapped : SlotsMapped d) {gone : KeyRegistryId}
    (erased : (d.registries p).Erased registry gone) :
    SlotsMapped (d.setRegistry p registry) := by
  apply mapped.setRegistry
  intro id key entry lookup here valid
  rw [erased.keys] at lookup
  split at lookup
  · cases lookup
  · rename_i other
    exact (erased.slots _ id other).mpr (mapped p id key entry lookup here valid)

theorem handle_holds (linked : Linked d.data []) (act : Action) {node : KeyDataNode}
    (held : Holds (handle act d).2 node) : Holds d node ∨ act = .constructKeyDataNode node := by
  cases act with
  | addNode c n => exact .inl (holds_added (addNode_outcome linked c n) held)
  | addChildNode c parentId n =>
    exact .inl (holds_added (addChildNode_outcome linked c parentId n) held)
  | deleteNode c id => exact .inl (holds_dropped linked (deleteNode_dropped linked c id) held)
  | deleteClientNodes c =>
    exact .inl (holds_dropped linked (deleteClientNodes_dropped linked c) held)
  | getNodeAccessor c id =>
    have same : (handle (.getNodeAccessor c id) d).2 =
        d.removed [] (DataManager.getNodeAccessor d.data c id).2 := getNodeAccessor_data c id
    rw [same] at held
    exact .inl (holds_dropped linked (getNodeAccessor_dropped linked c id) held)
  | destroyAccessor accessor =>
    exact .inl (holds_dropped linked (destroyAccessor_dropped linked accessor) held)
  | constructKeyDataNode n =>
    simp only [handle, State.construct] at held
    split at held
    · exact .inl held
    · rcases held with inside | live
      · rcases List.mem_cons.mp inside with rfl | old
        · exact .inr rfl
        · exact .inl (.inl old)
      · exact .inl (.inr live)
  | releaseKeyDataNode n =>
    simp only [handle, State.release] at held
    split at held
    · exact .inl held
    · split at held
      · exact .inl (held.imp_left List.mem_of_mem_erase)
      · exact .inl held
  | _ => exact .inl held

theorem release_retired_gone (shared : Shared d) (node : KeyDataNode) {n : KeyDataNode}
    (held : Holds (d.release node).2 n) :
    (n.providerId, n.registryId) ∉ (d.release node).2.retired := by
  cases here : d.entries node.keyEntry with
  | none =>
    simp only [State.release, here] at held ⊢
    exact shared.retired_gone n held
  | some entry =>
    by_cases member : node ∈ d.outside
    · rw [release_eq here member] at held ⊢
      have before := shared.retired_gone n (holds_released held)
      simp only [recounted]
      split
      · rename_i last
        have other := shared.ledger.last_release here member ((release_last _ _).mp last) held
        simp [other, before]
      · exact before
    · simp only [State.release, here, member, if_false] at held ⊢
      exact shared.retired_gone n held

theorem handle_retired_gone (shared : Shared d) (act : Action) (allowed : Allowed d act)
    (node : KeyDataNode) (held : Holds (handle act d).2 node) :
    (node.providerId, node.registryId) ∉ (handle act d).2.retired := by
  have gone : (node.providerId, node.registryId) ∉ d.retired := by
    rcases handle_holds shared.ledger.linked act held with before | rfl
    · exact shared.retired_gone node before
    · exact allowed.2
  cases act with
  | releaseKeyDataNode n => exact release_retired_gone shared n held
  | constructKeyDataNode n =>
    simp only [handle, State.construct]
    split <;> exact gone
  | getNodeAccessor c id =>
    simp only [handle, getNodeAccessor_data]
    exact gone
  | _ => exact gone

theorem handle_shared (shared : Shared d) (act : Action) (allowed : Allowed d act) :
    Shared (handle act d).2 := by
  have ledger := shared.ledger
  refine ⟨handle_ledger ledger act allowed.1, ?_, handle_retired_gone shared act allowed⟩
  cases act with
  | registerSlotKey p slot key =>
    rcases (d.registries p).registerSlotKey_cases slot key with
      ⟨-, same⟩ | ⟨free, registry, done, added⟩
    · simpa only [handle, same, setRegistry_same] using shared.mapped
    · simpa only [handle, done] using registerSlotKey_mapped shared.mapped added free allowed.2
  | registerEphemeralKey p key =>
    rcases (d.registries p).registerEphemeralKey_added key with ⟨registry, done, added⟩
    simpa only [handle, done] using registerEphemeralKey_mapped shared.mapped added allowed.2
  | unregister p id =>
    rcases (d.registries p).unregister_cases id with ⟨-, same⟩ | ⟨-, registry, done, erased, -⟩
    · simpa only [handle, same, setRegistry_same] using shared.mapped
    · simpa only [handle, done] using unregister_mapped shared.mapped erased
  | cleanupClient p c =>
    simpa only [handle, cleanupClient_empty allowed.1, setRegistry_same] using shared.mapped
  | constructKeyDataNode node =>
    apply shared.mapped.of_later ledger (later_construct node)
    unfold State.construct
    split <;> rfl
  | releaseKeyDataNode node =>
    apply shared.mapped.of_later ledger (later_release node)
    unfold State.release
    split
    · rfl
    · split <;> rfl
  | getNodeAccessor c id =>
    apply shared.mapped.of_later ledger (handle_later ledger (.getNodeAccessor c id))
    simp only [handle, State.getNodeAccessor]
    split <;> rfl
  | _ => exact shared.mapped.of_later ledger (handle_later ledger _) rfl

end Action

/-! ### What the programs do between the turns of the others -/

section Programs

abbrev SharingSafe {α : Type} (p : Prog α) (d : Daemon.State) : Prop :=
  Safe handle Later Shared RefersInTime (fun _ _ => True) p d

variable {α β : Type} {d : Daemon.State}

theorem sharingSafe_pure (value : α) : SharingSafe (pure value : Prog α) d :=
  Safe.pure fun _ _ _ => trivial

variable {act : Action}

theorem sharingSafe_perform {f : act.Res → Prog β}
    (allowed : ∀ t, Later d t → Shared t → RefersInTime t act → Allowed t act)
    (rest : ∀ t, Later d t → Later d (handle act t).2 →
      SharingSafe (f (handle act t).1) (handle act t).2) :
    SharingSafe (perform act >>= f) d := by
  apply Safe.perform_bind
  intro t later shared inTime
  have after := handle_later shared.ledger act
  exact ⟨handle_shared shared act (allowed t later shared inTime), after,
    rest t later (Later.trans _ _ _ later after)⟩

theorem sharingSafe_bind {p : Prog α} {f : α → Prog β} (first : SharingSafe p d)
    (rest : ∀ value t, Later d t → SharingSafe (f value) t) : SharingSafe (p >>= f) d :=
  Safe.bind Later.trans first Later.refl fun value t later _ => rest value t later

theorem sharingSafe_free {f : act.Res → Prog β} (free : ∀ t, Allowed t act)
    (rest : ∀ t, Later d t → Later d (handle act t).2 →
      SharingSafe (f (handle act t).1) (handle act t).2) :
    SharingSafe (perform act >>= f) d :=
  sharingSafe_perform (fun t _ _ _ => free t) rest

theorem destroyKeyDataNode_sharing (node : KeyDataNode) : SharingSafe (destroyKeyDataNode node) d := by
  refine sharingSafe_free (fun _ => ⟨trivial, trivial⟩) ?_
  intro t _ _
  split
  · rename_i last
    apply sharingSafe_perform
    · intro u later shared _
      refine ⟨fun n held same => shared.retired_gone n held ?_, trivial⟩
      rw [same]
      exact later.retired _ (release_retires last)
    · exact fun _ _ _ => sharingSafe_pure ()
  · exact sharingSafe_pure ()

theorem destroyKeyDataNodes_sharing (nodes : List KeyDataNode) :
    SharingSafe (destroyKeyDataNodes nodes) d := by
  induction nodes generalizing d with
  | nil => exact sharingSafe_pure ()
  | cons node nodes ih =>
    exact sharingSafe_bind (destroyKeyDataNode_sharing node) fun _ _ _ => ih

theorem destroyAccessor_sharing (accessor : Accessor) :
    SharingSafe (Daemon.destroyAccessor accessor) d := by
  refine sharingSafe_free (fun _ => ⟨trivial, trivial⟩) ?_
  exact fun _ _ _ => destroyKeyDataNodes_sharing _

theorem withAccessor_sharing {missing : DaemonErrorCode → α} {body : Node → Prog α}
    (c : ClientId) (id : DataNodeId) (keeps : ∀ t node, SharingSafe (body node) t) :
    SharingSafe (withAccessor c id missing body) d := by
  refine sharingSafe_free (fun _ => ⟨trivial, trivial⟩) ?_
  intro t _ _
  split
  · exact sharingSafe_pure _
  · apply sharingSafe_bind (keeps _ _)
    intro value u _
    exact sharingSafe_bind (destroyAccessor_sharing _) fun _ _ _ => sharingSafe_pure value

variable {config : Config} {params : KeyRegistrationParams}

theorem createKeyDataNode_sharing (c : ClientId) (parentId : DataNodeId) (key : EntryRef)
    (id : KeyRegistryId) (p : ProviderId) :
    SharingSafe (createKeyDataNode c parentId key id p) d := by
  apply sharingSafe_perform
  · exact fun _ _ _ inTime => ⟨⟨inTime.1, inTime.2.2⟩, inTime.2.1⟩
  · intro t _ _
    refine sharingSafe_free (fun _ => ⟨trivial, trivial⟩) ?_
    intro u _ _
    split
    · exact sharingSafe_bind (destroyKeyDataNode_sharing _) fun _ _ _ => sharingSafe_pure _
    · exact sharingSafe_pure _

theorem shareKey_sharing (key : EntryRef) : SharingSafe (shareKey params key) d := by
  refine sharingSafe_free (fun _ => ⟨trivial, trivial⟩) ?_
  exact fun _ _ _ => createKeyDataNode_sharing _ _ _ _ _

def Registers (params : KeyRegistrationParams) (entry : KeyEntry) : Prop :=
  entry.providerId = params.providerId ∧ entry.slotHandle = params.slotHandle

theorem registers_later {key : EntryRef} {entry : KeyEntry} {t : Daemon.State}
    (here : d.entries key = some entry) (its : Registers params entry) (later : Later d t) :
    ∃ entry', t.entries key = some entry' ∧ Registers params entry' := by
  rcases later.entries key entry here with ⟨entry', here', same⟩
  exact ⟨entry', here', same.providerId.trans its.1, same.slotHandle.trans its.2⟩

theorem registerKeyEntry_sharing {key : EntryRef} {entry : KeyEntry}
    (here : d.entries key = some entry) (its : Registers params entry) :
    SharingSafe (registerKeyEntry params key) d := by
  unfold registerKeyEntry
  split
  · apply sharingSafe_perform
    · intro t later _ _
      rcases registers_later here its later with ⟨entry', here', provider, slot⟩
      refine ⟨⟨entry', here', provider⟩, ?_⟩
      intro found there
      rw [here'] at there
      cases there
      exact slot
    · intro t _ _
      repeat' first
        | exact sharingSafe_pure _
        | exact createKeyDataNode_sharing _ _ _ _ _
        | refine sharingSafe_free (fun _ => ⟨trivial, trivial⟩) fun _ _ _ => ?_
        | split
  · rename_i invalid
    apply sharingSafe_perform
    · intro t later _ _
      rcases registers_later here its later with ⟨entry', here', provider, slot⟩
      refine ⟨⟨entry', here', provider⟩, ?_⟩
      intro found there
      rw [here'] at there
      cases there
      rw [slot]
      exact Bool.eq_false_iff.mpr invalid
    · exact fun _ _ _ => createKeyDataNode_sharing _ _ _ _ _

theorem registerKeyMaterial_sharing (handler : Option ProviderKeyHandle) :
    SharingSafe (registerKeyMaterial params handler) d := by
  cases handler with
  | none => exact sharingSafe_pure _
  | some keyHandle =>
    refine sharingSafe_free (fun _ => ⟨trivial, trivial⟩) ?_
    intro t _ _
    have here : (handle (.makeKeyEntry keyHandle params.providerId params.slotHandle)
        t).2.entries t.nextEntry = some ⟨keyHandle, params.providerId, params.slotHandle, 0, []⟩ := by
      simp [handle, State.setEntry]
    exact registerKeyEntry_sharing here ⟨rfl, rfl⟩

theorem loadOrShare_sharing (slot : KeySlotConfig) (found : Expected SlotMaterial) :
    SharingSafe (loadOrShare config params slot found) d := by
  unfold loadOrShare
  repeat' first
    | exact sharingSafe_pure _
    | exact shareKey_sharing _
    | exact registerKeyMaterial_sharing _
    | refine sharingSafe_free (fun _ => ⟨trivial, trivial⟩) fun _ _ _ => ?_
    | split

theorem bindKeyToContext_sharing (c : ClientId) (contextNodeId keyNodeId : DataNodeId)
    (target : ProviderId) (found : Expected SlotMaterial) :
    SharingSafe (bindKeyToContext config c contextNodeId keyNodeId target found) d := by
  apply withAccessor_sharing
  intro t node
  repeat' first
    | exact sharingSafe_pure _
    | exact loadOrShare_sharing _ found
    | exact createKeyDataNode_sharing _ _ _ _ _
    | refine sharingSafe_free (fun _ => ⟨trivial, trivial⟩) fun _ _ _ => ?_
    | split

theorem addCall_sharing {node : Node} (free : ∀ t, Allowed t act) :
    SharingSafe (if node.keyData? = none then (do let _ ← (perform act : Prog act.Res)) else pure ())
      d := by
  split
  · exact sharingSafe_free free fun _ _ _ => sharingSafe_pure ()
  · exact sharingSafe_pure ()

theorem keyCall_sharing (config : Config) (call : KeyCall) (d : Daemon.State) :
    SharingSafe (call.program config) d := by
  cases call with
  | registerKeyMaterial params handler =>
    exact sharingSafe_bind (registerKeyMaterial_sharing handler) fun _ _ _ => sharingSafe_pure ()
  | loadOrShare params slot found =>
    exact sharingSafe_bind (loadOrShare_sharing slot found) fun _ _ _ => sharingSafe_pure ()
  | bindKeyToContext c contextNodeId keyNodeId target found =>
    exact sharingSafe_bind (bindKeyToContext_sharing c contextNodeId keyNodeId target found)
      fun _ _ _ => sharingSafe_pure ()
  | addNode | addChildNode => exact addCall_sharing fun _ => ⟨trivial, trivial⟩
  | deleteNode | deleteClientNodes =>
    refine sharingSafe_bind (sharingSafe_free (fun _ => ⟨trivial, trivial⟩) fun _ _ _ => ?_) ?_
    · exact sharingSafe_bind (destroyKeyDataNodes_sharing _) fun _ _ _ => sharingSafe_pure _
    · exact fun _ _ _ => sharingSafe_pure ()
  | getNodeAccessor c id =>
    exact sharingSafe_free (fun _ => ⟨trivial, trivial⟩) fun _ _ _ => sharingSafe_pure ()
  | destroyAccessor accessor => exact destroyAccessor_sharing accessor

end Programs

/-! ### Every interleaving -/

abbrev Calls := Pool Action Action.Res Daemon.State KeyCall Unit

def callStep (config : Config) : Calls → Turn KeyCall → Calls :=
  Pool.step handle (KeyCall.program config)

def noCalls : Calls := ⟨Daemon.init, []⟩

/-- A key node for a slot points to the key that is registered for the slot, so all the key nodes
that a provider has for the slot point to one key. -/
structure SlotKeysShared (d : Daemon.State) : Prop where
  registered : ∀ node, Holds d node → ∀ entry, d.entries node.keyEntry = some entry →
    entry.slotHandle.isValid = true →
      (d.registries entry.providerId).findBySlot entry.slotHandle = some node.keyEntry
  unique : ∀ node node' entry entry', Holds d node → Holds d node' →
    d.entries node.keyEntry = some entry → d.entries node'.keyEntry = some entry' →
      entry.slotHandle.isValid = true → entry.providerId = entry'.providerId →
        entry.slotHandle = entry'.slotHandle → node.keyEntry = node'.keyEntry

theorem Shared.findBySlot {d : Daemon.State} (shared : Shared d) {node : KeyDataNode}
    {entry : KeyEntry} (held : Holds d node) (here : d.entries node.keyEntry = some entry)
    (valid : entry.slotHandle.isValid = true) :
    (d.registries entry.providerId).findBySlot entry.slotHandle = some node.keyEntry := by
  have registered := shared.ledger.backed node held
  rcases shared.ledger.key_entry _ _ _ registered with ⟨entry', here', provider⟩
  rw [here] at here'
  cases here'
  rw [provider, KeyRegistry.findBySlot,
    shared.mapped _ _ _ entry registered here valid]
  exact registered

theorem Shared.slotKeysShared {d : Daemon.State} (shared : Shared d) : SlotKeysShared d where
  registered := fun _ held _ here valid => shared.findBySlot held here valid
  unique := by
    intro node node' entry entry' held held' here here' valid provider slot
    have found := shared.findBySlot held here valid
    rw [provider, slot] at found
    rw [slot] at valid
    exact Option.some.inj (found.symm.trans (shared.findBySlot held' here' valid))

theorem init_shared : Shared Daemon.init :=
  ⟨init_ledger, by simp [SlotsMapped, Daemon.init], by simp [Daemon.init]⟩

/-- In every interleaving in which references are made in time, the keys of slots are shared. -/
theorem run_slotKeysShared (config : Config) (turns : List (Turn KeyCall))
    (inTime : Meets (callStep config) (Pool.Permits RefersInTime) noCalls turns) :
    SlotKeysShared (run (callStep config) noCalls turns).state := by
  have safe := Pool.run_safe Later.trans Later.refl
    (fun call d _ => keyCall_sharing config call d) noCalls turns init_shared (by simp [noCalls])
    inTime
  exact safe.1.slotKeysShared

/-- In every interleaving in which references are made in time, and in the middle of calls too: every
key node, in the manager or in the hands of a running call, is backed by the key registered under its
id, and the count of a key is the number of the key nodes that point to it. -/
theorem run_keysAccounted (config : Config) (turns : List (Turn KeyCall))
    (inTime : Meets (callStep config) (Pool.Permits RefersInTime) noCalls turns) :
    (∀ node, Holds (run (callStep config) noCalls turns).state node →
      ((run (callStep config) noCalls turns).state.registries node.providerId).keys.lookup
        node.registryId = some node.keyEntry) ∧
      ∀ key entry, (run (callStep config) noCalls turns).state.entries key = some entry →
        entry.refCount.toNat = references (run (callStep config) noCalls turns).state key := by
  have safe := Pool.run_safe Later.trans Later.refl
    (fun call d _ => keyCall_sharing config call d) noCalls turns init_shared (by simp [noCalls])
    inTime
  exact ⟨safe.1.ledger.backed, safe.1.ledger.count⟩

def loadSlot : KeyCall :=
  .loadOrShare ⟨1, 1, 0, ⟨0⟩⟩ ⟨"slot", "HMAC", [0], Permission.mac, [0]⟩ (.ok .secret)

/-- Two loads of the slot take turns at every operation, and the second one shares the key. -/
def alternatingLoads : List (Turn KeyCall) :=
  [.start (.addNode 1 .generic), .advance 0, .start loadSlot, .start loadSlot, .advance 1,
    .advance 1, .advance 1, .advance 2, .advance 1, .advance 2, .advance 1, .advance 2, .advance 2]

theorem alternatingLoads_share :
    SlotKeysShared (run (callStep Config.small) noCalls alternatingLoads).state :=
  run_slotKeysShared Config.small alternatingLoads (by decide +kernel)

/-- One load is done, and the other still has its key node in its hands. -/
theorem alternatingLoads_accounted :
    references (run (callStep Config.small) noCalls (alternatingLoads.take 12)).state 0 = 2 :=
  ((run_keysAccounted Config.small (alternatingLoads.take 12) (by decide +kernel)).2 0 _ rfl).symm

/-- A load finds the key between the last release and the unregistration, and makes a reference
to it that outlives both. -/
def lateShare : List (Turn KeyCall) :=
  [.start (.addNode 1 .generic), .advance 0, .start loadSlot, .advance 1, .advance 1, .advance 1,
    .advance 1, .advance 1, .start (.deleteNode 1 2), .advance 2, .advance 2, .start loadSlot,
    .advance 3, .advance 3, .advance 3, .advance 2, .advance 3]

theorem lateShare_unregistered :
    ¬SlotKeysShared (run (callStep Config.small) noCalls lateShare).state := by
  intro shared
  have found := shared.registered ⟨0, 1, 1, 0⟩ (Or.inr ⟨2, by decide +kernel⟩)
    ⟨loadedHandle 0 ⟨"slot", "HMAC", [0], Permission.mac, [0]⟩ ⟨"HMAC", .other⟩ .secret, 0, ⟨0⟩, 1, [1]⟩
    (by decide +kernel) (by decide)
  revert found
  decide +kernel

end ScoreCrypto.KeyManagement
