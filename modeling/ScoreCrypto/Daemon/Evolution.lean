import ScoreCrypto.KeyManagement.Ledger

/-!
What no action can undo: which key an entry holds, which keys are retired and what the object
behind a node reference stores.
-/

namespace ScoreCrypto.Daemon

open DataManager KeyManagement

/-- The entry still holds the same key; only its references may differ. -/
structure SameKey (entry entry' : KeyEntry) : Prop where
  handle : entry'.handle = entry.handle
  providerId : entry'.providerId = entry.providerId
  slotHandle : entry'.slotHandle = entry.slotHandle

theorem SameKey.refl (entry : KeyEntry) : SameKey entry entry := ⟨rfl, rfl, rfl⟩

theorem SameKey.trans {first second third : KeyEntry} (before : SameKey first second)
    (after : SameKey second third) : SameKey first third :=
  ⟨after.handle.trans before.handle, after.providerId.trans before.providerId,
    after.slotHandle.trans before.slotHandle⟩

def KeepsKeys (entries entries' : EntryRef → Option KeyEntry) : Prop :=
  ∀ key entry, entries key = some entry → ∃ entry', entries' key = some entry' ∧ SameKey entry entry'

theorem KeepsKeys.refl (entries : EntryRef → Option KeyEntry) : KeepsKeys entries entries :=
  fun _ entry here => ⟨entry, here, SameKey.refl entry⟩

theorem KeepsKeys.trans {first second third : EntryRef → Option KeyEntry}
    (before : KeepsKeys first second) (after : KeepsKeys second third) : KeepsKeys first third := by
  intro key entry here
  rcases before key entry here with ⟨entry', here', same⟩
  rcases after key entry' here' with ⟨entry'', here'', same'⟩
  exact ⟨entry'', here'', same.trans same'⟩

theorem KeepsKeys.update {entries : EntryRef → Option KeyEntry} {key : EntryRef} {new : KeyEntry}
    (same : ∀ entry, entries key = some entry → SameKey entry new) :
    KeepsKeys entries (Function.update entries key (some new)) := by
  intro k entry here
  by_cases updated : k = key
  · subst updated
    exact ⟨new, Function.update_self .., same entry here⟩
  · exact ⟨entry, by rwa [Function.update_of_ne updated], SameKey.refl entry⟩

theorem releaseAll_keepsKeys (c : ClientId)
    (keys : List (Sigma fun _ : KeyRegistryId => EntryRef)) (entries : EntryRef → Option KeyEntry) :
    KeepsKeys entries (KeyRegistry.releaseAll c keys entries).2 := by
  induction keys generalizing entries with
  | nil => exact .refl entries
  | cons head tail ih =>
    unfold KeyRegistry.releaseAll
    split
    · exact ih entries
    · rename_i entry here
      apply KeepsKeys.trans _ (ih _)
      apply KeepsKeys.update
      intro found here'
      rw [here] at here'
      cases here'
      exact ⟨rfl, rfl, rfl⟩

structure Later (d d' : State) : Prop where
  entries : KeepsKeys d.entries d'.entries
  retired : ∀ key ∈ d.retired, key ∈ d'.retired
  nextObject : d.data.nextObject ≤ d'.data.nextObject
  payload : ∀ r < d.data.nextObject, ∀ node, d'.data.payload r = some node →
    d.data.payload r = some node

theorem Later.refl (d : State) : Later d d :=
  ⟨.refl _, fun _ member => member, Nat.le_refl _, fun _ _ _ here => here⟩

theorem Later.trans (first second third : State) (before : Later first second)
    (after : Later second third) : Later first third where
  entries := before.entries.trans after.entries
  retired := fun key member => after.retired key (before.retired key member)
  nextObject := Nat.le_trans before.nextObject after.nextObject
  payload := fun r old node here => before.payload r old node
    (after.payload r (Nat.lt_of_lt_of_le old before.nextObject) node here)

variable {d : State}

section Data

theorem later_of_dropped {nodes : List Node} {data : DataManager.State Node}
    (dropped : Dropped d.data data nodes) (outside : List KeyDataNode) :
    Later d { d with data := data, outside := outside } :=
  ⟨.refl _, fun _ member => member, Nat.le_of_eq dropped.nextObject.symm,
    fun r _ node here => dropped.payload r node here⟩

theorem later_added {c : ClientId} {node : Node} {above : Option NodeRef → Prop}
    {result : Expected DataNodeId × DataManager.State Node}
    (outcome : AddOutcome d c node above result) : Later d (d.added node result).2 := by
  rcases outcome with ⟨e, data, rfl, refused⟩ | ⟨id, data, parent, object, -, -, rfl, inserted⟩
  · have same : data.payload = d.data.payload := by
      funext r
      rw [State.payload, State.payload, refused.objects_eq.1]
    exact later_of_dropped (Dropped.of_same refused.objects_eq.2 same) d.outside
  · refine ⟨.refl _, fun _ member => member, ?_, ?_⟩
    · exact Nat.le_of_lt (inserted.nextObject ▸ Nat.lt_succ_self _)
    · intro r old stored here
      have stored' : data.payload r = some stored := here
      rwa [inserted.payload_eq, if_neg (Nat.ne_of_lt old)] at stored'

end Data

section Keys

theorem later_of_entries {entries : EntryRef → Option KeyEntry} (keeps : KeepsKeys d.entries entries)
    {d' : State} (same : d'.entries = entries) (data : d'.data = d.data)
    (retired : ∀ key ∈ d.retired, key ∈ d'.retired) : Later d d' :=
  ⟨by rwa [same], retired, by rw [data], by simp [data]⟩

theorem later_construct (node : KeyDataNode) : Later d (d.construct node) := by
  unfold State.construct
  split
  · exact Later.refl d
  · rename_i entry here
    refine later_of_entries (.update ?_) rfl rfl fun _ member => member
    intro found here'
    rw [here] at here'
    cases here'
    exact ⟨rfl, rfl, rfl⟩

theorem later_release (node : KeyDataNode) : Later d (d.release node).2 := by
  cases here : d.entries node.keyEntry with
  | none => simpa [State.release, here] using Later.refl d
  | some entry =>
    by_cases member : node ∈ d.outside
    · rw [release_eq here member]
      refine later_of_entries (.update ?_) rfl rfl ?_
      · intro found here'
        rw [here] at here'
        cases here'
        exact ⟨rfl, rfl, rfl⟩
      · intro key retired
        simp only [recounted]
        split
        · exact List.mem_cons_of_mem _ retired
        · exact retired
    · simpa [State.release, here, member] using Later.refl d

end Keys

theorem handle_later (ledger : Ledger d) (act : Action) : Later d (handle act d).2 := by
  have linked := ledger.linked
  cases act with
  | addNode c node => exact later_added (addNode_outcome linked c node)
  | addChildNode c parentId node => exact later_added (addChildNode_outcome linked c parentId node)
  | deleteNode c id => exact later_of_dropped (deleteNode_dropped linked c id) _
  | deleteClientNodes c => exact later_of_dropped (deleteClientNodes_dropped linked c) _
  | getNodeAccessor c id =>
    have looked := later_of_dropped (getNodeAccessor_dropped linked c id) d.outside
    simp only [handle, State.getNodeAccessor]
    split <;> rename_i run <;> rw [run] at looked <;> exact looked
  | destroyAccessor accessor => exact later_of_dropped (destroyAccessor_dropped linked accessor) _
  | makeKeyEntry keyHandle p slot =>
    refine later_of_entries (.update ?_) rfl rfl fun _ member => member
    intro entry here
    exact absurd (ledger.entry_known _ entry here) (Nat.lt_irrefl _)
  | constructKeyDataNode node => exact later_construct node
  | releaseKeyDataNode node => exact later_release node
  | cleanupClient p c =>
    exact later_of_entries (releaseAll_keepsKeys c _ d.entries) rfl rfl fun _ member => member
  | _ => exact later_of_entries (.refl _) rfl rfl fun _ member => member

end ScoreCrypto.Daemon
