import ScoreCrypto.DataManager.Live
import ScoreCrypto.KeyManagement.Service
import ScoreCrypto.Daemon.Extension

/-!
The accounts of the keys: every key node is backed by a registered key, and the count stored in a
key entry is the number of key nodes that point to it.
-/

namespace ScoreCrypto.KeyManagement

open DataManager Daemon

def pointsTo (key : EntryRef) (node : Node) : Bool :=
  match node with
  | .keyData node => node.keyEntry = key
  | _ => false

def liveReferences (d : Daemon.State) (key : EntryRef) : Nat :=
  d.data.liveCount (pointsTo key)

/-- The key nodes that point to the key, with those a running call holds. -/
def references (d : Daemon.State) (key : EntryRef) : Nat :=
  liveReferences d key + d.outside.countP fun node => node.keyEntry = key

def Holds (d : Daemon.State) (node : KeyDataNode) : Prop :=
  node ∈ d.outside ∨ ∃ r, d.data.payload r = some (.keyData node)

structure Ledger (d : Daemon.State) : Prop where
  linked : Linked d.data []
  entry_known : ∀ key entry, d.entries key = some entry → key < d.nextEntry
  key_entry : ∀ p id key, (d.registries p).keys.lookup id = some key →
    ∃ entry, d.entries key = some entry ∧ entry.providerId = p
  backed : ∀ node, Holds d node →
    (d.registries node.providerId).keys.lookup node.registryId = some node.keyEntry
  count : ∀ key entry, d.entries key = some entry → entry.refCount.toNat = references d key

/-- What an action needs so that the accounts stay in order. -/
def Permitted (d : Daemon.State) : Action → Prop
  | .constructKeyDataNode node =>
    (d.registries node.providerId).keys.lookup node.registryId = some node.keyEntry ∧
      ∀ entry, d.entries node.keyEntry = some entry → entry.refCount.toNat + 1 < 2 ^ 32
  | .registerSlotKey p _ key => ∃ entry, d.entries key = some entry ∧ entry.providerId = p
  | .registerEphemeralKey p key => ∃ entry, d.entries key = some entry ∧ entry.providerId = p
  | .unregister p id => ∀ node, Holds d node → (node.providerId, node.registryId) ≠ (p, id)
  | .cleanupClient p _ => (d.registries p).keys.entries = []
  | _ => True

theorem init_ledger : Ledger Daemon.init where
  linked := init_linked
  entry_known := by simp [Daemon.init]
  key_entry := by simp [Daemon.init]
  backed := by simp [Holds, Daemon.init, State.payload, DataManager.init]
  count := by simp [Daemon.init]

variable {d d' : Daemon.State}

theorem holds_of_references {key : EntryRef} (linked : Linked d.data []) :
    0 < references d key ↔ ∃ node, Holds d node ∧ node.keyEntry = key := by
  constructor
  · intro positive
    rcases Nat.eq_zero_or_pos (liveReferences d key) with none' | live
    · have out : 0 < d.outside.countP fun node => node.keyEntry = key := by
        unfold references at positive
        omega
      rcases List.countP_pos_iff.mp out with ⟨node, member, points⟩
      exact ⟨node, .inl member, by simpa using points⟩
    · rcases (State.liveCount_pos linked).mp live with ⟨r, payload, here, points⟩
      cases payload with
      | keyData node => exact ⟨node, Or.inr ⟨r, here⟩, by simpa [pointsTo] using points⟩
      | _ => cases points
  · intro ⟨node, holds, points⟩
    unfold references
    rcases holds with member | ⟨r, here⟩
    · have out : 0 < d.outside.countP fun node => node.keyEntry = key :=
        List.countP_pos_iff.mpr ⟨node, member, by simpa using points⟩
      omega
    · have live : 0 < liveReferences d key :=
        (State.liveCount_pos linked).mpr ⟨r, _, here, by simpa [pointsTo] using points⟩
      omega

/-! ### The manager's operations -/

section Data

theorem Ledger.move (ledger : Ledger d) (data : DataManager.State Node) (outside : List KeyDataNode)
    (linked : Linked data [])
    (holds : ∀ node, Holds { d with data := data, outside := outside } node → Holds d node)
    (same : ∀ key, references { d with data := data, outside := outside } key = references d key) :
    Ledger { d with data := data, outside := outside } where
  linked := linked
  entry_known := ledger.entry_known
  key_entry := ledger.key_entry
  backed := fun node held => ledger.backed node (holds node held)
  count := fun key entry here => (ledger.count key entry here).trans (same key).symm

variable {data : DataManager.State Node} {c : ClientId}

theorem holds_refused (refused : Refused d.data data c) {node : KeyDataNode}
    (held : Holds { d with data := data } node) : Holds d node := by
  have payload : data.payload = d.data.payload := by
    funext r
    rw [State.payload, State.payload, refused.objects_eq.1]
  rwa [Holds, payload] at held

theorem Ledger.refused (ledger : Ledger d) (refused : Refused d.data data c) :
    Ledger { d with data := data } := by
  have payload : data.payload = d.data.payload := by
    funext r
    rw [State.payload, State.payload, refused.objects_eq.1]
  apply ledger.move data d.outside (refused.linked ledger.linked)
  · exact fun node held => holds_refused refused held
  · intro key
    rw [references, references, liveReferences, liveReferences, State.liveCount, State.liveCount,
      payload, refused.objects_eq.2]

variable {node : Node}

theorem countP_erase_pointsTo {nodes : List KeyDataNode} {node : KeyDataNode} (member : node ∈ nodes)
    (key : EntryRef) :
    (nodes.erase node).countP (fun n => n.keyEntry = key) +
        (if pointsTo key (.keyData node) then 1 else 0) =
      nodes.countP fun n => n.keyEntry = key := by
  rw [(List.perm_cons_erase member).countP_eq, List.countP_cons]
  simp [pointsTo]

section Inserted

variable {id : DataNodeId} {parent : Option NodeRef} {object : NewNode Node}

theorem mem_outside_of_object? {key : KeyDataNode} (given : d.object? (.keyData key) = some object) :
    key ∈ d.outside := by
  by_contra absent
  simp [State.object?, absent] at given

theorem holds_inserted (given : d.object? node = some object)
    (inserted : Inserted d.data data c id parent object) {key : KeyDataNode}
    (held : Holds { d with data := data, outside := d.handOver node } key) : Holds d key := by
  rcases held with member | ⟨r, here⟩
  · left
    cases node with
    | keyData m => exact List.mem_of_mem_erase member
    | _ => exact member
  · rw [inserted.payload_eq] at here
    split at here
    · rw [object?_payload given] at here
      cases here
      exact .inl (mem_outside_of_object? given)
    · exact .inr ⟨r, here⟩

theorem Ledger.inserted (ledger : Ledger d) (given : d.object? node = some object)
    (inserted : Inserted d.data data c id parent object) :
    Ledger { d with data := data, outside := d.handOver node } := by
  have stored := object?_payload given
  have outside : ∀ key, (d.handOver node).countP (fun n => n.keyEntry = key) +
      (if pointsTo key node then 1 else 0) = d.outside.countP fun n => n.keyEntry = key := by
    intro key
    cases node with
    | keyData n => exact countP_erase_pointsTo (mem_outside_of_object? given) key
    | _ => rfl
  apply ledger.move data _ (inserted.linked_after ledger.linked)
  · exact fun key held => holds_inserted given inserted held
  · intro key
    have live := inserted.liveCount_eq (pointsTo key)
    rw [stored] at live
    have out := outside key
    simp only [references, liveReferences, live]
    omega

end Inserted

theorem holds_added {result : Expected DataNodeId × DataManager.State Node}
    {above : Option NodeRef → Prop} (outcome : AddOutcome d c node above result) {key : KeyDataNode}
    (held : Holds (d.added node result).2 key) : Holds d key := by
  rcases outcome with ⟨e, data, rfl, refused⟩ | ⟨id, data, parent, object, given, -, rfl, inserted⟩
  · exact holds_refused refused held
  · exact holds_inserted given inserted held

theorem Ledger.added {result : Expected DataNodeId × DataManager.State Node}
    {above : Option NodeRef → Prop} (ledger : Ledger d)
    (outcome : AddOutcome d c node above result) : Ledger (d.added node result).2 := by
  rcases outcome with ⟨e, data, rfl, refused⟩ | ⟨id, data, parent, object, given, -, rfl, inserted⟩
  · exact ledger.refused refused
  · exact ledger.inserted given inserted

theorem countP_keyNodes (nodes : List (DataNode Node)) (key : EntryRef) :
    (State.keyNodes nodes).countP (fun node => node.keyEntry = key) =
      (nodes.map DataNode.payload).countP (pointsTo key) := by
  induction nodes with
  | nil => rfl
  | cons node nodes ih =>
    unfold State.keyNodes at ih ⊢
    rw [List.filterMap_cons, List.map_cons, List.countP_cons, ← ih]
    cases node.payload <;> simp [Node.keyData?, pointsTo, List.countP_cons]

theorem mem_keyNodes {nodes : List (DataNode Node)} {node : KeyDataNode} :
    node ∈ State.keyNodes nodes ↔ .keyData node ∈ nodes.map DataNode.payload := by
  unfold State.keyNodes
  rw [List.mem_filterMap, List.mem_map]
  constructor
  · intro ⟨n, member, stored⟩
    refine ⟨n, member, ?_⟩
    cases payload : n.payload <;> simp [payload, Node.keyData?] at stored
    rw [stored]
  · intro ⟨n, member, stored⟩
    exact ⟨n, member, by simp [stored, Node.keyData?]⟩

theorem holds_dropped {nodes : List (DataNode Node)} (linked : Linked d.data [])
    (dropped : Dropped d.data data (nodes.map DataNode.payload)) {key : KeyDataNode}
    (held : Holds (d.removed nodes data) key) : Holds d key := by
  rcases held with member | ⟨r, here⟩
  · rcases List.mem_append.mp member with gone | out
    · right
      have counted : 0 < (nodes.map DataNode.payload).countP (· = .keyData key) :=
        List.countP_pos_iff.mpr ⟨_, mem_keyNodes.mp gone, by simp⟩
      have before := dropped.count (· = .keyData key)
      have live : 0 < d.data.liveCount (· = .keyData key) := by omega
      rcases (State.liveCount_pos linked).mp live with ⟨r, payload, here, same⟩
      exact ⟨r, by rw [here, of_decide_eq_true same]⟩
    · exact .inl out
  · exact .inr ⟨r, dropped.payload r _ here⟩

theorem Ledger.dropped {nodes : List (DataNode Node)} (ledger : Ledger d) (linked : Linked data [])
    (dropped : Dropped d.data data (nodes.map DataNode.payload)) :
    Ledger (d.removed nodes data) := by
  apply ledger.move data _ linked
  · exact fun node held => holds_dropped ledger.linked dropped held
  · intro key
    have before := dropped.count (pointsTo key)
    simp only [references, liveReferences, List.countP_append, countP_keyNodes]
    omega

end Data

/-! ### Entries and their counts -/

section Entries

theorem Ledger.references_fresh (ledger : Ledger d) : references d d.nextEntry = 0 := by
  rcases Nat.eq_zero_or_pos (references d d.nextEntry) with none' | positive
  · exact none'
  · rcases (holds_of_references ledger.linked).mp positive with ⟨node, held, points⟩
    rcases ledger.key_entry _ _ _ (ledger.backed node held) with ⟨entry, here, -⟩
    have known := ledger.entry_known _ entry here
    rw [points] at known
    exact absurd known (Nat.lt_irrefl _)

theorem Ledger.makeKeyEntry (ledger : Ledger d) (entry : KeyEntry) (unused : entry.refCount = 0) :
    Ledger { d.setEntry d.nextEntry entry with nextEntry := d.nextEntry + 1 } where
  linked := ledger.linked
  entry_known := by
    intro key found here
    by_cases new : key = d.nextEntry
    · rw [new]
      exact Nat.lt_succ_self _
    · simp only [State.setEntry, Function.update_of_ne new] at here
      exact Nat.lt_succ_of_lt (ledger.entry_known key found here)
  key_entry := by
    intro p id key found
    rcases ledger.key_entry p id key found with ⟨old, here, provider⟩
    have other := Nat.ne_of_lt (ledger.entry_known key old here)
    exact ⟨old, by simpa [State.setEntry, other] using here, provider⟩
  backed := ledger.backed
  count := by
    intro key found here
    by_cases new : key = d.nextEntry
    · subst new
      simp only [State.setEntry, Function.update_self, Option.some.injEq] at here
      rw [← here, unused]
      exact ledger.references_fresh.symm
    · simp only [State.setEntry, Function.update_of_ne new] at here
      exact ledger.count key found here

def recounted (d : Daemon.State) (key : EntryRef) (entry : KeyEntry) (outside : List KeyDataNode)
    (retired : List (ProviderId × KeyRegistryId)) : Daemon.State :=
  { d with
    entries := Function.update d.entries key (some entry)
    outside := outside
    retired := retired }

theorem Ledger.recount (ledger : Ledger d) {key : EntryRef} {old : KeyEntry}
    (here : d.entries key = some old) {new : KeyEntry} (provider : new.providerId = old.providerId)
    {outside : List KeyDataNode} {retired : List (ProviderId × KeyRegistryId)}
    (backed : ∀ node, Holds (recounted d key new outside retired) node →
      (d.registries node.providerId).keys.lookup node.registryId = some node.keyEntry)
    (counted : new.refCount.toNat =
      references (recounted d key new outside retired) key)
    (others : ∀ k, k ≠ key →
      references (recounted d key new outside retired) k = references d k) :
    Ledger (recounted d key new outside retired) where
  linked := ledger.linked
  entry_known := by
    intro k found present
    by_cases same : k = key
    · rw [same]
      exact ledger.entry_known key old here
    · simp only [recounted, Function.update_of_ne same] at present
      exact ledger.entry_known k found present
  key_entry := by
    intro p id k found
    rcases ledger.key_entry p id k found with ⟨entry, present, owner⟩
    by_cases same : k = key
    · subst same
      rw [here] at present
      cases present
      exact ⟨new, by simp [recounted], provider.trans owner⟩
    · exact ⟨entry, by simpa [recounted, same] using present, owner⟩
  backed := backed
  count := by
    intro k found present
    by_cases same : k = key
    · subst same
      simp only [recounted, Function.update_self, Option.some.injEq] at present
      rw [← present]
      exact counted
    · simp only [recounted, Function.update_of_ne same] at present
      rw [others k same]
      exact ledger.count k found present

theorem Ledger.construct (ledger : Ledger d) (node : KeyDataNode)
    (permitted : Permitted d (.constructKeyDataNode node)) : Ledger (d.construct node) := by
  rcases permitted with ⟨registered, room⟩
  rcases ledger.key_entry _ _ _ registered with ⟨entry, here, -⟩
  have more : ∀ key, references (recounted d node.keyEntry (entry.addRef node.clientId)
      (node :: d.outside) d.retired) key =
        references d key + if node.keyEntry = key then 1 else 0 := by
    intro key
    simp [references, liveReferences, recounted, List.countP_cons, Nat.add_assoc]
  have next : d.construct node = recounted d node.keyEntry (entry.addRef node.clientId)
      (node :: d.outside) d.retired := by
    simp [State.construct, here, State.setEntry, recounted]
  have same_provider : (entry.addRef node.clientId).providerId = entry.providerId := rfl
  rw [next]
  apply ledger.recount here same_provider
  · intro n held
    rcases held with member | live
    · rcases List.mem_cons.mp member with same | member
      · rw [same]
        exact registered
      · exact ledger.backed n (.inl member)
    · exact ledger.backed n (.inr live)
  · rw [more, if_pos rfl, ← ledger.count _ entry here]
    simp only [KeyEntry.addRef, UInt32.toNat_add]
    exact Nat.mod_eq_of_lt (room entry here)
  · intro key other
    rw [more, if_neg (Ne.symm other), Nat.add_zero]

theorem release_last (entry : KeyEntry) (c : ClientId) :
    (entry.release c).1 = true ↔ entry.refCount.toNat = 1 := by
  simp only [KeyEntry.release, beq_iff_eq, ← UInt32.toNat_inj]
  rfl

theorem release_count (entry : KeyEntry) (c : ClientId) (positive : 0 < entry.refCount.toNat) :
    (entry.release c).2.refCount.toNat + 1 = entry.refCount.toNat := by
  have below : (1 : UInt32) ≤ entry.refCount := UInt32.le_iff_toNat_le.mpr positive
  simp only [KeyEntry.release, UInt32.toNat_sub_of_le _ _ below]
  exact Nat.sub_add_cancel positive

section Release

variable {node : KeyDataNode} {entry : KeyEntry}

theorem release_eq (here : d.entries node.keyEntry = some entry) (member : node ∈ d.outside) :
    d.release node = ((entry.release node.clientId).1,
      recounted d node.keyEntry (entry.release node.clientId).2 (d.outside.erase node)
        (if (entry.release node.clientId).1 then (node.providerId, node.registryId) :: d.retired
          else d.retired)) := by
  simp [State.release, here, member, State.setEntry, recounted]

theorem release_retires (last : (d.release node).1 = true) :
    (node.providerId, node.registryId) ∈ (d.release node).2.retired := by
  cases here : d.entries node.keyEntry with
  | none => simp [State.release, here] at last
  | some entry =>
    by_cases member : node ∈ d.outside
    · rw [release_eq here member] at last ⊢
      simp only at last
      simp [recounted, last]
    · simp [State.release, here, member] at last

theorem references_released (member : node ∈ d.outside) (new : KeyEntry)
    (retired : List (ProviderId × KeyRegistryId)) (key : EntryRef) :
    references (recounted d node.keyEntry new (d.outside.erase node) retired) key +
      (if node.keyEntry = key then 1 else 0) = references d key := by
  have out := countP_erase_pointsTo member key
  simp only [pointsTo, decide_eq_true_eq] at out
  simp only [references, liveReferences, recounted]
  omega

theorem holds_released {new : KeyEntry} {retired : List (ProviderId × KeyRegistryId)}
    {n : KeyDataNode}
    (held : Holds (recounted d node.keyEntry new (d.outside.erase node) retired) n) :
    Holds d n := by
  rcases held with inside | live
  · exact .inl (List.mem_of_mem_erase inside)
  · exact .inr live

/-- A node that is left after the last release would point to the entry counted down to zero. -/
theorem Ledger.last_release (ledger : Ledger d) (here : d.entries node.keyEntry = some entry)
    (member : node ∈ d.outside) (last : entry.refCount.toNat = 1) {new : KeyEntry}
    {retired : List (ProviderId × KeyRegistryId)} {n : KeyDataNode}
    (held : Holds (recounted d node.keyEntry new (d.outside.erase node) retired) n) :
    (n.providerId, n.registryId) ≠ (node.providerId, node.registryId) := by
  intro same
  have key_eq : n.keyEntry = node.keyEntry := by
    have mine := ledger.backed node (.inl member)
    have its := ledger.backed n (holds_released held)
    rw [(Prod.mk.inj same).1, (Prod.mk.inj same).2, mine] at its
    exact (Option.some.inj its).symm
  have pointed := (holds_of_references (d := recounted d node.keyEntry new
    (d.outside.erase node) retired) ledger.linked).mpr ⟨n, held, key_eq⟩
  have balance := references_released member new retired node.keyEntry
  rw [if_pos rfl, ← ledger.count _ entry here, last] at balance
  omega

theorem Ledger.release (ledger : Ledger d) (node : KeyDataNode) : Ledger (d.release node).2 := by
  cases here : d.entries node.keyEntry with
  | none => simpa [State.release, here] using ledger
  | some entry =>
    by_cases member : node ∈ d.outside
    · have positive : 0 < entry.refCount.toNat := by
        rw [ledger.count _ entry here, holds_of_references ledger.linked]
        exact ⟨node, .inl member, rfl⟩
      have same_provider : (entry.release node.clientId).2.providerId = entry.providerId := rfl
      rw [release_eq here member]
      apply ledger.recount here same_provider
      · exact fun n held => ledger.backed n (holds_released held)
      · have balance := references_released member (entry.release node.clientId).2
          (if (entry.release node.clientId).1 then
            (node.providerId, node.registryId) :: d.retired else d.retired) node.keyEntry
        rw [if_pos rfl, ← ledger.count _ entry here,
          ← release_count entry node.clientId positive] at balance
        exact (Nat.succ.inj balance).symm
      · intro key other
        have balance := references_released member (entry.release node.clientId).2
          (if (entry.release node.clientId).1 then
            (node.providerId, node.registryId) :: d.retired else d.retired) key
        rw [if_neg (Ne.symm other)] at balance
        exact balance
    · simpa [State.release, here, member] using ledger

end Release

end Entries

/-! ### Registries -/

section Registries

variable {registry : KeyRegistry} {p : ProviderId}

theorem lookup_setRegistry_added {slot : Option Nat} {key : EntryRef}
    (added : (d.registries p).Added registry slot key) (free : (d.registries p).NextIdFree)
    (q : ProviderId) (id : KeyRegistryId) :
    ((d.setRegistry p registry).registries q).keys.lookup id =
      if (q, id) = (p, (d.registries p).nextId) then some key
      else (d.registries q).keys.lookup id := by
  by_cases same : q = p
  · subst same
    simp [State.setRegistry, added.lookup_keys free]
  · simp [State.setRegistry, same]

theorem lookup_setRegistry_erased {gone : KeyRegistryId}
    (erased : (d.registries p).Erased registry gone) (q : ProviderId) (id : KeyRegistryId) :
    ((d.setRegistry p registry).registries q).keys.lookup id =
      if (q, id) = (p, gone) then none else (d.registries q).keys.lookup id := by
  by_cases same : q = p
  · subst same
    simp [State.setRegistry, erased.keys]
  · simp [State.setRegistry, same]

theorem Ledger.setRegistry (ledger : Ledger d)
    (known : ∀ id key, registry.keys.lookup id = some key →
      ∃ entry, d.entries key = some entry ∧ entry.providerId = p)
    (kept : ∀ node, Holds d node → node.providerId = p →
      registry.keys.lookup node.registryId = some node.keyEntry) :
    Ledger (d.setRegistry p registry) where
  linked := ledger.linked
  entry_known := ledger.entry_known
  key_entry := by
    intro q id key found
    by_cases same : q = p
    · subst same
      simp only [State.setRegistry, Function.update_self] at found
      exact known id key found
    · simp only [State.setRegistry, Function.update_of_ne same] at found
      exact ledger.key_entry q id key found
  backed := by
    intro node held
    by_cases same : node.providerId = p
    · simpa [State.setRegistry, same] using kept node held same
    · simpa [State.setRegistry, same] using ledger.backed node held
  count := ledger.count

theorem Ledger.registered (ledger : Ledger d) {slot : Option Nat} {key : EntryRef}
    (added : (d.registries p).Added registry slot key)
    (known : ∃ entry, d.entries key = some entry ∧ entry.providerId = p) :
    Ledger (d.setRegistry p registry) := by
  apply ledger.setRegistry
  · intro id found here
    rw [added.keys] at here
    split at here
    · cases here
      exact known
    · exact ledger.key_entry p id found here
  · intro node held same
    have before := ledger.backed node held
    rw [same] at before
    rw [added.keys, if_neg]
    · exact before
    · rintro ⟨next, free⟩
      exact free (next ▸ (KeyRegistry.mem_keys_iff _).mpr ⟨_, before⟩)

theorem Ledger.unregistered (ledger : Ledger d) {id : KeyRegistryId}
    (erased : (d.registries p).Erased registry id)
    (unheld : ∀ node, Holds d node → (node.providerId, node.registryId) ≠ (p, id)) :
    Ledger (d.setRegistry p registry) := by
  apply ledger.setRegistry
  · intro id' key here
    rw [erased.keys] at here
    split at here
    · cases here
    · exact ledger.key_entry p id' key here
  · intro node held same
    have before := ledger.backed node held
    rw [same] at before
    rw [erased.keys, if_neg]
    · exact before
    · intro gone
      exact unheld node held (by rw [same, gone])

theorem setRegistry_same (p : ProviderId) : d.setRegistry p (d.registries p) = d := by
  simp [State.setRegistry]

theorem cleanupClient_empty (empty : registry.keys.entries = [])
    (entries : EntryRef → Option KeyEntry) (c : ClientId) :
    registry.cleanupClient entries c = (entries, registry) := by
  simp [KeyRegistry.cleanupClient, empty, KeyRegistry.releaseAll]

end Registries

theorem Ledger.congr (ledger : Ledger d) (data : d'.data = d.data) (entries : d'.entries = d.entries)
    (nextEntry : d'.nextEntry = d.nextEntry) (registries : d'.registries = d.registries)
    (outside : d'.outside = d.outside) : Ledger d' := by
  rcases ledger with ⟨linked, known, entry, backed, count⟩
  constructor <;>
    simpa only [Holds, references, liveReferences, data, entries, nextEntry, registries, outside]

theorem handle_ledger (ledger : Ledger d) (act : Action) (permitted : Permitted d act) :
    Ledger (handle act d).2 := by
  cases act with
  | addNode c node => exact ledger.added (addNode_outcome ledger.linked c node)
  | addChildNode c parentId node =>
    exact ledger.added (addChildNode_outcome ledger.linked c parentId node)
  | deleteNode c id =>
    exact ledger.dropped (deleteNode_linked ledger.linked c id)
      (deleteNode_dropped ledger.linked c id)
  | deleteClientNodes c =>
    exact ledger.dropped (deleteClientNodes_linked ledger.linked c)
      (deleteClientNodes_dropped ledger.linked c)
  | getNodeAccessor c id =>
    have looked : Ledger (d.removed [] (DataManager.getNodeAccessor d.data c id).2) :=
      ledger.dropped (getNodeAccessor_linked ledger.linked c id)
        (getNodeAccessor_dropped ledger.linked c id)
    simp only [handle, State.getNodeAccessor]
    split <;> rename_i run <;> rw [run] at looked <;> exact looked
  | destroyAccessor accessor =>
    exact ledger.dropped (destroyAccessor_linked ledger.linked accessor)
      (destroyAccessor_dropped ledger.linked accessor)
  | makeKeyEntry keyHandle p slot => exact ledger.makeKeyEntry _ rfl
  | constructKeyDataNode node => exact ledger.construct node permitted
  | releaseKeyDataNode node => exact ledger.release node
  | registerSlotKey p slot key =>
    rcases (d.registries p).registerSlotKey_cases slot key with
      ⟨-, same⟩ | ⟨-, registry, done, added⟩
    · simpa only [handle, same, setRegistry_same] using ledger
    · simpa only [handle, done] using ledger.registered added permitted
  | registerEphemeralKey p key =>
    rcases (d.registries p).registerEphemeralKey_added key with ⟨registry, done, added⟩
    simpa only [handle, done] using ledger.registered added permitted
  | unregister p id =>
    rcases (d.registries p).unregister_cases id with ⟨-, same⟩ | ⟨-, registry, done, erased, -⟩
    · simpa only [handle, same, setRegistry_same] using ledger
    · simpa only [handle, done] using ledger.unregistered erased permitted
  | cleanupClient p c =>
    simpa only [handle, cleanupClient_empty permitted, setRegistry_same] using ledger
  | _ => exact ledger.congr rfl rfl rfl rfl rfl

end ScoreCrypto.KeyManagement
