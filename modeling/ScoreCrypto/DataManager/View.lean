import ScoreCrypto.DataManager.Live

/-!
What a client can see of the manager: which node an id names, where it hangs and what it stores.
Insertions and deletions described on this view alone.
-/

namespace ScoreCrypto.DataManager

variable {α : Type}

structure Placed (α : Type) where
  ref : NodeRef
  parent : Option NodeRef
  payload : α
  deriving DecidableEq

abbrev Nodes (α : Type) := ClientId → DataNodeId → Option (Placed α)

def State.placed (s : State α) : Nodes α := fun c id =>
  (s.find c id).bind fun r => (s.objects r).map fun n => ⟨r, n.parent, n.payload⟩

variable {s : State α} {c : ClientId}

theorem placed_of_find {id : DataNodeId} {r : NodeRef} {n : DataNode α}
    (found : s.find c id = some r) (present : s.objects r = some n) :
    s.placed c id = some ⟨r, n.parent, n.payload⟩ := by
  simp [State.placed, found, present]

theorem find_of_placed {id : DataNodeId} {n : Placed α} (here : s.placed c id = some n) :
    s.find c id = some n.ref ∧ s.parent n.ref = n.parent ∧ s.payload n.ref = some n.payload := by
  unfold State.placed at here
  rcases Option.bind_eq_some_iff.mp here with ⟨r, found, here⟩
  rcases Option.map_eq_some_iff.mp here with ⟨object, present, same⟩
  subst same
  simp [found, State.parent, State.payload, present]

section Linked

variable {s s' : State α} {pending : List NodeRef} {c : ClientId} {id : DataNodeId}

theorem Linked.placed_none (linked : Linked s pending) :
    s.placed c id = none ↔ s.find c id = none := by
  unfold State.placed
  cases found : s.find c id with
  | none => simp
  | some r =>
    rcases linked.registered c id r found with ⟨n, present, -⟩
    simp [present]

theorem Linked.placed_injective (linked : Linked s pending) {c' : ClientId} {id' : DataNodeId}
    {n n' : Placed α} (left : s.placed c id = some n) (right : s.placed c' id' = some n')
    (same : n.ref = n'.ref) : c = c' ∧ id = id' := by
  have found := (find_of_placed right).1
  rw [← same] at found
  exact linked.find_injective (find_of_placed left).1 found

theorem Linked.placed_lt (linked : Linked s pending) {n : Placed α}
    (here : s.placed c id = some n) : n.ref < s.nextObject :=
  linked.find_lt (find_of_placed here).1

theorem Linked.placed_parent (linked : Linked s pending) {n : Placed α} {p : NodeRef}
    (here : s.placed c id = some n) (below : n.parent = some p) :
    p < n.ref ∧ ∃ parentId parent, s.placed c parentId = some parent ∧ parent.ref = p := by
  rcases find_of_placed here with ⟨found, parent, -⟩
  rcases linked.parent_link c id n.ref p found (parent.trans below) with ⟨lt, -, parentId, above⟩
  rcases linked.registered c parentId p above with ⟨object, present, -⟩
  exact ⟨lt, parentId, _, placed_of_find above present, rfl⟩

end Linked

/-! ### Insertion -/

section Inserted

variable {s s' : State α} {c : ClientId} {id : DataNodeId} {parent : Option NodeRef}
  {node : NewNode α} {pending : List NodeRef}

theorem Inserted.placed_eq (inserted : Inserted s s' c id parent node) (linked : Linked s pending)
    (c' : ClientId) (id' : DataNodeId) : s'.placed c' id' =
      if c' = c ∧ id' = id then some ⟨s.nextObject, parent, node.payload⟩ else s.placed c' id' := by
  unfold State.placed
  rw [inserted.find]
  split
  · simp [inserted.object_new, NewNode.construct]
  · cases found : s.find c' id' with
    | none => rfl
    | some r =>
      rcases linked.registered c' id' r found with ⟨n, present, -⟩
      rcases inserted.object_old linked present with ⟨n', present', -, -, payload, -, below⟩
      simp [present, present', payload, below]

theorem Inserted.placed_of (inserted : Inserted s s' c id parent node) (linked : Linked s pending)
    {c' : ClientId} {id' : DataNodeId} {n : Placed α} (here : s.placed c' id' = some n) :
    s'.placed c' id' = some n := by
  rw [inserted.placed_eq linked, if_neg, here]
  intro new
  have found := (find_of_placed here).1
  rw [new.1, new.2, inserted.free] at found
  cases found

end Inserted

theorem Refused.placed_eq {s s' : State α} (refused : Refused s s' c) :
    s'.placed = s.placed := by
  rcases refused with same | ⟨k, -, same, -⟩
  · rw [same]
  · rw [same]
    rfl

/-! ### Deletion -/

/-- The nodes of the client under the ids `gone` are removed: the root, and with it whatever hangs
below a removed node. -/
structure Pruned (before after : Nodes α) (c : ClientId) (root : DataNodeId) (gone : Set DataNodeId) :
    Prop where
  others : ∀ c' id, ¬(c' = c ∧ id ∈ gone) → after c' id = before c' id
  removed : ∀ id ∈ gone, after c id = none
  root_gone : before c root ≠ none → root ∈ gone
  upward : ∀ id ∈ gone, id = root ∨ ∃ n parentId p, before c id = some n ∧
    before c parentId = some p ∧ n.parent = some p.ref ∧ parentId ∈ gone
  downward : ∀ id n parentId p, before c id = some n → before c parentId = some p →
    n.parent = some p.ref → parentId ∈ gone → id ∈ gone

section Deleted

variable {s s' : State α} {c : ClientId} {root : DataNodeId} {gone : List (DataNodeId × NodeRef)}

theorem Deleted.placed_eq (deleted : Deleted s s' c root gone) (linked : Linked s [])
    (c' : ClientId) (id : DataNodeId) : s'.placed c' id =
      if c' = c ∧ id ∈ gone.map Prod.fst then none else s.placed c' id := by
  unfold State.placed
  rw [deleted.find]
  split
  · rfl
  · rename_i stays
    cases found : s.find c' id with
    | none => rfl
    | some r =>
      have kept : ¬(r ∈ gone.map Prod.snd ∧ ¬s.Held r) := by
        intro listed
        rcases List.mem_map.mp listed.1 with ⟨⟨id', r'⟩, member, same⟩
        subst same
        have both := linked.find_injective found (deleted.collected.found id' r' member)
        exact stays ⟨both.1, both.2 ▸ List.mem_map_of_mem member⟩
      rw [Option.bind_some, Option.bind_some, deleted.objects, if_neg kept]
      cases s.objects r <;> rfl

theorem Collected.mem_placed (collected : Collected s c root gone) (linked : Linked s [])
    {id : DataNodeId} (member : id ∈ gone.map Prod.fst) : ∃ n, s.placed c id = some n := by
  rcases List.mem_map.mp member with ⟨⟨id', r⟩, inside, same⟩
  subst same
  have found := collected.found id' r inside
  rcases linked.registered c id' r found with ⟨n, present, -⟩
  exact ⟨_, placed_of_find found present⟩

theorem Linked.child_placed (linked : Linked s []) {id parentId : DataNodeId} {n p : Placed α}
    (here : s.placed c id = some n) (above : s.placed c parentId = some p) :
    id ∈ s.childIds c parentId ↔ n.parent = some p.ref := by
  rcases find_of_placed here with ⟨found, parent, -⟩
  have found' := (find_of_placed above).1
  rw [linked.mem_childIds]
  constructor
  · intro ⟨r, w, root, child, below⟩
    rw [found'] at root
    rw [found] at below
    cases root
    cases below
    rw [← parent]
    exact (linked.child_link c parentId p.ref n.ref found' child).1
  · intro below
    have link := linked.parent_link c id n.ref p.ref found (parent.trans below)
    exact ⟨p.ref, n.ref, found', link.2.1, found⟩

theorem Deleted.pruned (deleted : Deleted s s' c root gone) (linked : Linked s []) :
    Pruned s.placed s'.placed c root {id | id ∈ gone.map Prod.fst} where
  others := by
    intro c' id stays
    rw [deleted.placed_eq linked]
    exact if_neg stays
  removed := by
    intro id member
    rw [deleted.placed_eq linked, if_pos ⟨rfl, member⟩]
  root_gone := fun _ => deleted.collected.root_mem
  upward := by
    intro id member
    rcases ((deleted.collected.reached id).mp member).cases_tail with same | ⟨parentId, above, kid⟩
    · exact Or.inl same
    · right
      have above' := (deleted.collected.reached parentId).mpr above
      rcases deleted.collected.mem_placed linked member with ⟨n, here⟩
      rcases deleted.collected.mem_placed linked above' with ⟨p, here'⟩
      exact ⟨n, parentId, p, here, here', (linked.child_placed here here').mp kid, above'⟩
  downward := by
    intro id n parentId p here above below member
    have reached := (deleted.collected.reached parentId).mp member
    exact (deleted.collected.reached id).mpr
      (reached.tail ((linked.child_placed here above).mpr below))

end Deleted

theorem deleteNode_pruned (linked : Linked s []) (c : ClientId) (root : DataNodeId) :
    ∃ gone, Pruned s.placed (deleteNode s c root).state.placed c root gone := by
  rcases deleteNode_cases linked c root with ⟨free, refused⟩ | ⟨gone, s', deleted, done⟩
  · rw [refused]
    refine ⟨∅, ?_, ?_, ?_, ?_, ?_⟩
    · exact fun _ _ _ => rfl
    · simp
    · exact fun present => absurd (linked.placed_none.mpr free) present
    · simp
    · simp
  · rw [done]
    exact ⟨_, deleted.pruned linked⟩

section Pruned

variable {s : State α} {after : Nodes α} {c : ClientId} {root : DataNodeId} {gone : Set DataNodeId}
  {id : DataNodeId} {c' : ClientId} {n : Placed α}

section

variable (pruned : Pruned s.placed after c root gone)

include pruned

theorem Pruned.before (here : after c' id = some n) : s.placed c' id = some n := by
  by_cases listed : c' = c ∧ id ∈ gone
  · rw [listed.1, pruned.removed id listed.2] at here
    cases here
  · rwa [pruned.others c' id listed] at here

theorem Pruned.entry_stays
    (here : s.placed c' id = some n) (entry : n.parent = none) (other : ¬(c' = c ∧ id = root)) :
    after c' id = some n := by
  rw [pruned.others c' id, here]
  intro listed
  rcases pruned.upward id listed.2 with same | ⟨n', parentId, p, here', -, below, -⟩
  · exact other ⟨listed.1, same⟩
  · rw [listed.1, here'] at here
    cases here
    rw [entry] at below
    cases below

theorem Pruned.child_stays (linked : Linked s [])
    {id parentId : DataNodeId} {p : Placed α} (here : s.placed c' id = some n)
    (below : n.parent = some p.ref) (above : after c' parentId = some p)
    (other : ¬(c' = c ∧ id = root)) : after c' id = some n := by
  rw [pruned.others c' id, here]
  intro listed
  rcases pruned.upward id listed.2 with same | ⟨n', parentId', p', here', above', below', member⟩
  · exact other ⟨listed.1, same⟩
  · rw [listed.1] at here above
    rw [here] at here'
    cases here'
    have ref : p'.ref = p.ref := Option.some.inj (below'.symm.trans below)
    have same := linked.placed_injective above' (pruned.before above) ref
    rw [← same.2, pruned.removed parentId' member] at above
    cases above

theorem Pruned.root_le (linked : Linked s [])
    {top : Placed α} (present : s.placed c root = some top) (member : id ∈ gone)
    (here : s.placed c id = some n) : top.ref ≤ n.ref := by
  -- a removed node that is not the root hangs below an older one
  induction rank : n.ref using Nat.strong_induction_on generalizing id n with
  | _ rank' ih =>
    subst rank
    rcases pruned.upward id member with same | ⟨n', parentId, p, here', above, below, member'⟩
    · rw [same, present] at here
      cases here
      exact Nat.le_refl _
    · rw [here] at here'
      cases here'
      have older := (linked.placed_parent here below).1
      exact Nat.le_trans (ih p.ref older member' above rfl) (Nat.le_of_lt older)

end

end Pruned

/-! ### Accessors -/

theorem getNodeAccessor_placed (linked : Linked s []) (c : ClientId) (id : DataNodeId) :
    (getNodeAccessor s c id).2.placed = s.placed := by
  rcases getNodeAccessor_cases linked c id with ⟨e, run⟩ | ⟨r, n, -, -, ⟨-, run⟩ | ⟨-, -, run⟩⟩ <;>
    rw [run] <;> rfl

theorem destroyAccessor_placed (linked : Linked s []) (a : Accessor) :
    (destroyAccessor s a).2.placed = s.placed := by
  by_cases live : a ∈ s.accessors
  · rcases destroyAccessor_cases linked a live with ⟨c, id, -, run⟩ | ⟨unregistered, run⟩
    · rw [run]
      rfl
    · rw [run]
      funext c id
      unfold State.placed
      have same : (destroy (withoutAccessor s a) [a.node]).find c id = s.find c id := rfl
      rw [same]
      cases found : s.find c id with
      | none => rfl
      | some r =>
        have other : r ≠ a.node := fun here => unregistered c id (here ▸ found)
        have objects : (withoutAccessor s a).objects = s.objects := rfl
        simp [destroy, other, objects]
  · rw [destroyAccessor, if_neg live]

end ScoreCrypto.DataManager
