import ScoreCrypto.DataManager.Invariant

/-! What a successful `addNode`, `addChildNode` or `addSiblingNode` does to the manager. -/

namespace ScoreCrypto.DataManager

open Table

variable {α : Type}

/-- `s'` is `s` with one more node, below the registered `parent` or as an entry node. -/
structure Inserted (s s' : State α) (c : ClientId) (id : DataNodeId) (parent : Option NodeRef)
    (node : NewNode α) : Prop where
  issued : getNextNodeIdLocked s c = (.ok id, setCounter s c id)
  free : s.find c id = none
  range : 1 ≤ id ∧ id ≤ dataNodeValueMax
  below : ∀ p, parent = some p → ∃ parentId, s.find c parentId = some p
  objects : ∀ r, s'.objects r =
    if r = s.nextObject then
      some { node.construct with nodeId := id, clientId := c, parent := parent }
    else if parent = some r then
      (s.objects r).map fun n => { n with children := n.children ++ [s.nextObject] }
    else s.objects r
  nextObject : s'.nextObject = s.nextObject + 1
  find : ∀ c' id', s'.find c' id' =
    if c' = c ∧ id' = id then some s.nextObject else s.find c' id'
  entryNodes : ∀ c', s'.entryNodes c' =
    if parent = none ∧ c' = c then s.entryNodes c' ++ [id] else s.entryNodes c'
  counters : s'.idCounterPerClient = Function.update s.idCounterPerClient c (some id)
  busyNodes : s'.busyNodes = s.busyNodes
  accessors : s'.accessors = s.accessors
  entries_full : NoEmptyRow s.entryNodesPerClient → NoEmptyRow s'.entryNodesPerClient
  nodes_full : NoEmptyRow s.nodeMap → NoEmptyRow s'.nodeMap

namespace Inserted

variable {s s' : State α} {c c' : ClientId} {id id' : DataNodeId} {parent : Option NodeRef}
  {node : NewNode α} {pending : List NodeRef} {r : NodeRef} {n : DataNode α}

theorem fresh_not_child (linked : Linked s pending) (r : NodeRef) :
    s.nextObject ∉ s.children r := by
  intro member
  obtain ⟨-, c, parentId, id, -, found⟩ := (linked.child_iff r s.nextObject).mp member
  exact Nat.lt_irrefl _ (linked.find_lt found)

variable (inserted : Inserted s s' c id parent node) (linked : Linked s pending)

include inserted

theorem parent_eq (r : NodeRef) :
    s'.parent r = if r = s.nextObject then parent else s.parent r := by
  unfold State.parent
  rw [inserted.objects]
  split
  · rfl
  · split
    · cases s.objects r <;> rfl
    · rfl

theorem find_of (found : s.find c' id' = some r) : s'.find c' id' = some r := by
  rw [inserted.find, if_neg, found]
  rintro ⟨rfl, rfl⟩
  rw [inserted.free] at found
  cases found

theorem find_new : s'.find c id = some s.nextObject := by
  simp [inserted.find]

theorem object_new :
    s'.objects s.nextObject =
      some { node.construct with nodeId := id, clientId := c, parent := parent } := by
  simp [inserted.objects]

theorem object_cases (present : s'.objects r = some n) :
    (r = s.nextObject ∧ n = { node.construct with nodeId := id, clientId := c, parent := parent }) ∨
      (r ≠ s.nextObject ∧ ∃ m, s.objects r = some m ∧
        (n = m ∨ parent = some r ∧ n = { m with children := m.children ++ [s.nextObject] })) := by
  rw [inserted.objects] at present
  split at present
  · rename_i new
    cases present
    exact .inl ⟨new, rfl⟩
  · rename_i old
    refine .inr ⟨old, ?_⟩
    split at present
    · rename_i here
      obtain ⟨m, found, rfl⟩ := Option.map_eq_some_iff.mp present
      exact ⟨m, found, .inr ⟨here, rfl⟩⟩
    · exact ⟨n, present, .inl rfl⟩

include linked

theorem parent_lt {p : NodeRef} (here : parent = some p) : p < s.nextObject := by
  obtain ⟨parentId, found⟩ := inserted.below p here
  exact linked.find_lt found

theorem children_eq (r : NodeRef) : s'.children r =
      if r = s.nextObject then []
      else if parent = some r then s.children r ++ [s.nextObject]
      else s.children r := by
  unfold State.children
  rw [inserted.objects]
  split
  · rfl
  · split
    · rename_i here
      obtain ⟨parentId, found⟩ := inserted.below r here
      obtain ⟨n, present, -, -⟩ := linked.registered _ _ _ found
      simp [present]
    · rfl

theorem find_old (found : s'.find c' id' = some r) :
    (c' = c ∧ id' = id ∧ r = s.nextObject) ∨
      (r ≠ s.nextObject ∧ s.find c' id' = some r) := by
  rw [inserted.find] at found
  split at found
  · rename_i here
    exact .inl ⟨here.1, here.2, (Option.some.inj found).symm⟩
  · exact .inr ⟨Nat.ne_of_lt (linked.find_lt found), found⟩

theorem object_old (present : s.objects r = some n) :
    ∃ n', s'.objects r = some n' ∧ n'.clientId = n.clientId ∧ n'.nodeId = n.nodeId ∧
      n'.payload = n.payload ∧ n'.exclusiveAccess = n.exclusiveAccess ∧ n'.parent = n.parent := by
  rw [inserted.objects, if_neg (Nat.ne_of_lt (linked.allocated r n present)), present]
  split
  · exact ⟨_, rfl, rfl, rfl, rfl, rfl, rfl⟩
  · exact ⟨n, rfl, rfl, rfl, rfl, rfl, rfl⟩

theorem linked_objects (present : s'.objects r = some n) :
    s'.find n.clientId n.nodeId = some r ∨
      (n.children = [] ∧ (r ∈ pending ∨ ∃ a ∈ s'.accessors, a.node = r)) := by
  rcases inserted.object_cases present with ⟨rfl, rfl⟩ | ⟨-, m, found, shape⟩
  · exact .inl inserted.find_new
  · have same : n.clientId = m.clientId ∧ n.nodeId = m.nodeId := by
      rcases shape with rfl | ⟨-, rfl⟩ <;> exact ⟨rfl, rfl⟩
    rw [same.1, same.2, inserted.accessors]
    rcases linked.detached r m found with registered | ⟨empty, holder⟩
    · exact .inl (inserted.find_of registered)
    · rcases shape with rfl | ⟨here, -⟩
      · exact .inr ⟨empty, holder⟩
      · obtain ⟨parentId, registered⟩ := inserted.below r here
        obtain ⟨m', found', rfl, rfl⟩ := linked.registered _ _ _ registered
        rw [found] at found'
        cases found'
        exact .inl (inserted.find_of registered)

theorem linked_parent {r p : NodeRef} (found : s'.find c' id' = some r)
    (link : s'.parent r = some p) :
    p < r ∧ r ∈ s'.children p ∧ ∃ parentId, s'.find c' parentId = some p := by
  rw [inserted.parent_eq] at link
  rcases inserted.find_old linked found with ⟨rfl, -, rfl⟩ | ⟨old, found'⟩
  · rw [if_pos rfl] at link
    have less := inserted.parent_lt linked link
    obtain ⟨parentId, above⟩ := inserted.below p link
    refine ⟨less, ?_, parentId, inserted.find_of above⟩
    rw [inserted.children_eq linked, if_neg (Nat.ne_of_lt less), if_pos link]
    exact List.mem_append_right _ (List.mem_singleton.mpr rfl)
  · rw [if_neg old] at link
    obtain ⟨less, member, parentId, above⟩ := linked.parent_link _ _ _ _ found' link
    refine ⟨less, ?_, parentId, inserted.find_of above⟩
    rw [inserted.children_eq linked, if_neg (Nat.ne_of_lt (linked.find_lt above))]
    split
    · exact List.mem_append_left _ member
    · exact member

theorem linked_child {r w : NodeRef} (found : s'.find c' id' = some r)
    (member : w ∈ s'.children r) :
    s'.parent w = some r ∧ ∃ childId, s'.find c' childId = some w := by
  rw [inserted.children_eq linked] at member
  rcases inserted.find_old linked found with ⟨-, -, rfl⟩ | ⟨old, found'⟩
  · simp at member
  · rw [if_neg old] at member
    have earlier : w ∈ s.children r → s'.parent w = some r ∧ ∃ childId, s'.find c' childId = some w := by
      intro present
      obtain ⟨link, childId, below⟩ := linked.child_link _ _ _ _ found' present
      rw [inserted.parent_eq, if_neg (Nat.ne_of_lt (linked.find_lt below))]
      exact ⟨link, childId, inserted.find_of below⟩
    split at member
    · rename_i here
      rcases List.mem_append.mp member with present | added
      · exact earlier present
      · have new := List.mem_singleton.mp added
        subst new
        obtain ⟨parentId, above⟩ := inserted.below r here
        obtain ⟨rfl, -⟩ := linked.find_injective above found'
        rw [inserted.parent_eq, if_pos rfl]
        exact ⟨here, id, inserted.find_new⟩
    · exact earlier member

theorem fresh_not_entry : id ∉ s.entryNodes c := by
  rw [linked.entry_iff]
  rintro ⟨r, found, -⟩
  rw [inserted.free] at found
  cases found

theorem linked_entry (c' : ClientId) (id' : DataNodeId) :
    id' ∈ s'.entryNodes c' ↔ ∃ r, s'.find c' id' = some r ∧ s'.parent r = none := by
  have old : (∃ r, s.find c' id' = some r ∧ s.parent r = none) ↔
      ∃ r, s.find c' id' = some r ∧ s'.parent r = none := by
    refine exists_congr fun r => and_congr_right fun found => ?_
    rw [inserted.parent_eq, if_neg (Nat.ne_of_lt (linked.find_lt found))]
  rw [inserted.entryNodes, inserted.find]
  by_cases here : c' = c ∧ id' = id
  · obtain ⟨rfl, rfl⟩ := here
    by_cases root : parent = none
    · simp [root, inserted.parent_eq]
    · simp [root, inserted.parent_eq, inserted.fresh_not_entry linked]
  · rw [if_neg here]
    split
    · rename_i root
      have other : id' ≠ id := fun same => here ⟨root.2, same⟩
      rw [List.mem_append, List.mem_singleton, or_iff_left other, linked.entry_iff, old]
    · rw [linked.entry_iff, old]

theorem linked_after : Linked s' pending where
  registered := by
    intro c' id' r found
    rcases inserted.find_old linked found with ⟨rfl, rfl, rfl⟩ | ⟨-, found'⟩
    · exact ⟨_, inserted.object_new, rfl, rfl⟩
    · obtain ⟨n, present, rfl, rfl⟩ := linked.registered _ _ _ found'
      obtain ⟨n', present', client, nodeId, -⟩ := inserted.object_old linked present
      exact ⟨n', present', client, nodeId⟩
  allocated := by
    intro r n present
    rw [inserted.nextObject]
    rcases inserted.object_cases present with ⟨rfl, -⟩ | ⟨-, m, found, -⟩
    · exact Nat.lt_succ_self _
    · exact Nat.lt_succ_of_lt (linked.allocated r m found)
  detached := fun _ _ present => inserted.linked_objects linked present
  held := by
    intro a member
    rw [inserted.accessors] at member
    obtain ⟨n, present⟩ := linked.held a member
    obtain ⟨n', present', -⟩ := inserted.object_old linked present
    exact ⟨n', present'⟩
  id_range := by
    intro c' id' r found
    rcases inserted.find_old linked found with ⟨-, rfl, -⟩ | ⟨-, found'⟩
    · exact inserted.range
    · exact linked.id_range _ _ _ found'
  counter_range := by
    intro c' k counter
    rw [inserted.counters] at counter
    by_cases same : c' = c
    · subst same
      rw [Function.update_self, Option.some.injEq] at counter
      exact counter ▸ inserted.range
    · rw [Function.update_of_ne same] at counter
      exact linked.counter_range c' k counter
  parent_link := fun _ _ _ _ found link => inserted.linked_parent linked found link
  child_link := fun _ _ _ _ found member => inserted.linked_child linked found member
  children_nodup := by
    intro r
    rw [inserted.children_eq linked]
    split
    · exact List.nodup_nil
    · split
      · have absent := Inserted.fresh_not_child linked r
        exact List.Nodup.append (linked.children_nodup r) (List.nodup_singleton _)
          (by simpa using absent)
      · exact linked.children_nodup r
  entry_iff := inserted.linked_entry linked
  entry_nodup := by
    intro c'
    rw [inserted.entryNodes]
    split
    · rename_i root
      obtain ⟨-, rfl⟩ := root
      exact List.Nodup.append (linked.entry_nodup c') (List.nodup_singleton _)
        (by simpa using inserted.fresh_not_entry linked)
    · exact linked.entry_nodup c'
  busy_registered := by
    intro c' id' member
    rw [State.busy, inserted.busyNodes] at member
    obtain ⟨r, found⟩ := linked.busy_registered c' id' member
    exact ⟨r, inserted.find_of found⟩
  entries_full := inserted.entries_full linked.entries_full
  nodes_full := inserted.nodes_full linked.nodes_full
  busy_full := by
    rw [inserted.busyNodes]
    exact linked.busy_full

end Inserted

/-! ### The add operations -/

/-- A refused add leaves the manager alone, except that a failed search for an id has moved the
client's counter. -/
def Refused (s s' : State α) (c : ClientId) : Prop :=
  s' = s ∨ ∃ k, (1 ≤ k ∧ k ≤ dataNodeValueMax) ∧ s' = setCounter s c k ∧
    getNextNodeIdLocked s c = (.error .quotaExceeded, s')

variable {pending : List NodeRef}

theorem Refused.linked {s s' : State α} {c : ClientId} (refused : Refused s s' c)
    (linked : Linked s pending) : Linked s' pending := by
  rcases refused with rfl | ⟨k, range, rfl, -⟩
  · exact linked
  · exact linked.setCounter c k range

theorem find_emplaceNode (s : State α) (c c' : ClientId) (id id' : DataNodeId) (r : NodeRef)
    (free : s.find c id = none) :
    (emplaceNode s c id r).find c' id' =
      if c' = c ∧ id' = id then some r else s.find c' id' := by
  have absent : id ∉ row s.nodeMap c := Finmap.lookup_eq_none.mp free
  unfold emplaceNode State.find
  simp only [absent, if_false]
  by_cases client : c' = c
  · subst client
    rw [row_update_same]
    by_cases node : id' = id
    · subst node
      simp
    · rw [Finmap.lookup_insert_of_ne _ node, if_neg (fun here => node here.2)]
  · rw [row_update_ne _ _ client, if_neg (fun here => client here.1)]

section

variable (s : State α) (c : ClientId)

include s c

theorem emplaceNode_full (id : DataNodeId) (r : NodeRef)
    (full : NoEmptyRow s.nodeMap) : NoEmptyRow (emplaceNode s c id r).nodeMap := by
  refine noEmptyRow_update full c ?_
  intro empty
  split at empty
  · rename_i present
    rw [empty] at present
    exact Finmap.notMem_empty present
  · have present : id ∈ (row s.nodeMap c).insert id r := by simp
    rw [empty] at present
    exact Finmap.notMem_empty present

theorem entry_inserted (k : DataNodeId) (node : NewNode α) (within : 1 ≤ k ∧ k ≤ dataNodeValueMax)
    (issued : getNextNodeIdLocked s c = (.ok k, setCounter s c k)) (free : s.find c k = none) :
    Inserted s
      (pushEntryNode (emplaceNode (allocate (setCounter s c k) c k node).2 c k s.nextObject) c k)
      c k none node where
  issued := issued
  free := free
  range := within
  below := by simp
  objects := by
    intro r
    simp only [reduceCtorEq, if_false]
    exact Function.update_apply _ _ _ _
  nextObject := rfl
  find := fun c' id' => find_emplaceNode _ c c' k id' _ free
  entryNodes := by
    intro c'
    by_cases client : c' = c
    · subst client
      simp [State.entryNodes, pushEntryNode, emplaceNode, allocate, setCounter]
    · simp [State.entryNodes, pushEntryNode, emplaceNode, allocate, setCounter, client]
  counters := rfl
  busyNodes := rfl
  accessors := rfl
  entries_full := fun full => noEmptyRow_update full c (by simp)
  nodes_full := emplaceNode_full _ c k _

theorem addNode_cases (node : Option (NewNode α))
    (range : ∀ k, s.idCounterPerClient c = some k → 1 ≤ k ∧ k ≤ dataNodeValueMax) :
    (∃ e s', addNode s c node = (.error e, s') ∧ Refused s s' c) ∨
      ∃ id s' object, node = some object ∧ addNode s c node = (.ok id, s') ∧
        Inserted s s' c id none object := by
  cases node with
  | none => exact .inl ⟨_, _, rfl, .inl rfl⟩
  | some object =>
    obtain ⟨k, within, ⟨issued, free⟩ | failed⟩ := getNextNodeIdLocked_cases s c range
    · refine .inr ⟨k, _, object, rfl, ?_, entry_inserted s c k object within issued free⟩
      simp only [addNode, issued]
      rfl
    · have failed' : addNode s c (some object) = (.error .quotaExceeded, setCounter s c k) := by
        simp only [addNode, failed]
      exact .inl ⟨_, _, failed', .inr ⟨k, within, rfl, failed⟩⟩

theorem below_inserted (k : DataNodeId) (p : NodeRef)
    (node : NewNode α) (within : 1 ≤ k ∧ k ≤ dataNodeValueMax)
    (issued : getNextNodeIdLocked s c = (.ok k, setCounter s c k)) (free : s.find c k = none)
    (less : p ≠ s.nextObject) {parentId : DataNodeId} (above : s.find c parentId = some p) :
    Inserted s
      (emplaceNode (setParent (addChild (allocate (setCounter s c k) c k node).2 p s.nextObject)
        s.nextObject p) c k s.nextObject)
      c k (some p) node where
  issued := issued
  free := free
  range := within
  below := by
    rintro q same
    cases same
    exact ⟨parentId, above⟩
  objects := by
    intro r
    by_cases new : r = s.nextObject
    · subst new
      simp [emplaceNode, setParent, addChild, State.modify, allocate, setCounter, less.symm]
    · by_cases here : p = r
      · subst here
        simp [emplaceNode, setParent, addChild, State.modify, allocate, setCounter, less]
      · simp [emplaceNode, setParent, addChild, State.modify, allocate, setCounter, new, here,
          Ne.symm here]
  nextObject := rfl
  find := fun c' id' => find_emplaceNode _ c c' k id' _ free
  entryNodes := by
    intro c'
    rw [if_neg (by simp)]
    rfl
  counters := rfl
  busyNodes := rfl
  accessors := rfl
  entries_full := fun full => full
  nodes_full := emplaceNode_full _ c k _

theorem insertBelow_cases (p : NodeRef) (node : NewNode α)
    (linked : Linked s pending) {parentId : DataNodeId} (above : s.find c parentId = some p) :
    (∃ e s', insertBelow s c p node = (.error e, s') ∧ Refused s s' c) ∨
      ∃ id s', insertBelow s c p node = (.ok id, s') ∧ Inserted s s' c id (some p) node := by
  obtain ⟨k, within, ⟨issued, free⟩ | failed⟩ :=
    getNextNodeIdLocked_cases s c (linked.counter_range c)
  · have less := Nat.ne_of_lt (linked.find_lt above)
    refine .inr ⟨k, _, ?_, below_inserted s c k p node within issued free less above⟩
    simp only [insertBelow, issued]
    rfl
  · have failed' : insertBelow s c p node = (.error .quotaExceeded, setCounter s c k) := by
      simp only [insertBelow, failed]
    exact .inl ⟨_, _, failed', .inr ⟨k, within, rfl, failed⟩⟩

theorem addChildNode_cases (parentId : DataNodeId)
    (node : Option (NewNode α)) (linked : Linked s pending) :
    (∃ e s', addChildNode s c parentId node = (.error e, s') ∧ Refused s s' c) ∨
      ∃ id s' p object, node = some object ∧ s.find c parentId = some p ∧
        addChildNode s c parentId node = (.ok id, s') ∧ Inserted s s' c id (some p) object := by
  cases node with
  | none => exact .inl ⟨_, _, rfl, .inl rfl⟩
  | some object =>
    cases above : s.find c parentId with
    | none =>
      refine .inl ⟨.invalidArgument, s, ?_, .inl rfl⟩
      simp [addChildNode, getNodeLocked_eq, above]
    | some p =>
      have run : addChildNode s c parentId (some object) = insertBelow s c p object := by
        simp [addChildNode, getNodeLocked_eq, above]
      rw [run]
      rcases insertBelow_cases s c p object linked above with refused | ⟨id, s', done, inserted⟩
      · exact .inl refused
      · exact .inr ⟨id, s', p, object, rfl, rfl, done, inserted⟩

theorem addSiblingNode_cases (siblingId : DataNodeId)
    (node : Option (NewNode α)) (linked : Linked s pending) :
    (∃ e s', addSiblingNode s c siblingId node = (.error e, s') ∧ Refused s s' c) ∨
      ∃ id s' p object, node = some object ∧
        addSiblingNode s c siblingId node = (.ok id, s') ∧ Inserted s s' c id (some p) object := by
  cases node with
  | none => exact .inl ⟨_, _, rfl, .inl rfl⟩
  | some object =>
    cases beside : s.find c siblingId with
    | none =>
      refine .inl ⟨.invalidArgument, s, ?_, .inl rfl⟩
      simp [addSiblingNode, getNodeLocked_eq, beside]
    | some r =>
      rcases linked.getParent beside with ⟨-, orphan⟩ | ⟨p, parentId, -, above, link⟩
      · refine .inl ⟨.invalidContext, s, ?_, .inl rfl⟩
        simp [addSiblingNode, getNodeLocked_eq, beside, orphan]
      · have run : addSiblingNode s c siblingId (some object) = insertBelow s c p object := by
          simp [addSiblingNode, getNodeLocked_eq, beside, link, above]
        rw [run]
        rcases insertBelow_cases s c p object linked above with
          refused | ⟨id, s', done, inserted⟩
        · exact .inl refused
        · exact .inr ⟨id, s', p, object, rfl, done, inserted⟩

end

end ScoreCrypto.DataManager
