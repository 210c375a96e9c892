import ScoreCrypto.DataManager.Model
import Mathlib.Tactic

/-!
The invariant of the manager's four maps, the node objects and the links stored in them, stated
over the views `find`, `entryNodes`, `busy`, `children` and `parent`.
-/

namespace ScoreCrypto.DataManager

open Table

variable {α : Type}

/-- Objects in `pending` are registered no more and only held by the running operation. -/
structure Linked (s : State α) (pending : List NodeRef) : Prop where
  registered : ∀ c id r, s.find c id = some r →
    ∃ n, s.objects r = some n ∧ n.clientId = c ∧ n.nodeId = id
  allocated : ∀ r n, s.objects r = some n → r < s.nextObject
  detached : ∀ r n, s.objects r = some n → s.find n.clientId n.nodeId = some r ∨
    (n.children = [] ∧ (r ∈ pending ∨ ∃ a ∈ s.accessors, a.node = r))
  held : ∀ a ∈ s.accessors, ∃ n, s.objects a.node = some n
  id_range : ∀ c id r, s.find c id = some r → 1 ≤ id ∧ id ≤ dataNodeValueMax
  counter_range : ∀ c k, s.idCounterPerClient c = some k → 1 ≤ k ∧ k ≤ dataNodeValueMax
  parent_link : ∀ c id r p, s.find c id = some r → s.parent r = some p →
    p < r ∧ r ∈ s.children p ∧ ∃ parentId, s.find c parentId = some p
  child_link : ∀ c id r w, s.find c id = some r → w ∈ s.children r →
    s.parent w = some r ∧ ∃ childId, s.find c childId = some w
  children_nodup : ∀ r, (s.children r).Nodup
  entry_iff : ∀ c id, id ∈ s.entryNodes c ↔ ∃ r, s.find c id = some r ∧ s.parent r = none
  entry_nodup : ∀ c, (s.entryNodes c).Nodup
  busy_registered : ∀ c id, id ∈ s.busy c → ∃ r, s.find c id = some r
  entries_full : NoEmptyRow s.entryNodesPerClient
  nodes_full : NoEmptyRow s.nodeMap
  busy_full : NoEmptyRow s.busyNodes

theorem find_init (c : ClientId) (id : DataNodeId) : (init : State α).find c id = none := by
  rw [State.find, row_of_none rfl]
  rfl

theorem init_linked : Linked (init : State α) [] where
  registered := by simp [find_init]
  allocated := by simp [init]
  detached := by simp [init]
  held := by simp [init]
  id_range := by simp [find_init]
  counter_range := by simp [init]
  parent_link := by simp [find_init]
  child_link := by simp [find_init]
  children_nodup := by simp [State.children, init]
  entry_iff := by simp only [find_init]; simp [State.entryNodes, row, init]
  entry_nodup := by simp [State.entryNodes, row, init]
  busy_registered := by simp [State.busy, row, init]
  entries_full := by intro c; simp [init]
  nodes_full := by intro c; simp [init]
  busy_full := by intro c; simp [init]

variable {pending : List NodeRef} {s : State α} {r : NodeRef}

theorem Linked.find_injective (linked : Linked s pending) {c c' : ClientId} {id id' : DataNodeId}
    (left : s.find c id = some r) (right : s.find c' id' = some r) : c = c' ∧ id = id' := by
  obtain ⟨n, present, rfl, rfl⟩ := linked.registered _ _ _ left
  obtain ⟨m, present', client, node⟩ := linked.registered _ _ _ right
  rw [present] at present'
  cases present'
  exact ⟨client, node⟩

variable {id : DataNodeId} {c : ClientId}

theorem Linked.find_lt (linked : Linked s pending) (found : s.find c id = some r) :
    r < s.nextObject := by
  obtain ⟨n, present, -, -⟩ := linked.registered _ _ _ found
  exact linked.allocated r n present

theorem Linked.getNodeId (linked : Linked s pending) (found : s.find c id = some r) :
    getNodeId s r = some id := by
  obtain ⟨n, present, -, rfl⟩ := linked.registered _ _ _ found
  simp [DataManager.getNodeId, present]

theorem Linked.child_iff (linked : Linked s pending) (p r : NodeRef) :
    r ∈ s.children p ↔ s.parent r = some p ∧
      ∃ c parentId id, s.find c parentId = some p ∧ s.find c id = some r := by
  constructor
  · intro member
    cases present : s.objects p with
    | none => simp [State.children, present] at member
    | some n =>
      rcases linked.detached p n present with found | ⟨empty, -⟩
      · obtain ⟨link, id, found'⟩ := linked.child_link _ _ _ _ found member
        exact ⟨link, _, _, _, found, found'⟩
      · simp [State.children, present, empty] at member
  · rintro ⟨link, c, parentId, id, -, found⟩
    exact (linked.parent_link c id r p found link).2.1

/-! ### Lookup and ids -/

theorem getNodeLocked_eq (s : State α) (c : ClientId) (id : DataNodeId) :
    getNodeLocked s c id =
      match s.find c id with
      | none => .error .invalidArgument
      | some r => .ok r := by
  unfold getNodeLocked State.find row
  cases s.nodeMap c with
  | none => rfl
  | some client => rfl

theorem getNodeLocked_ok_iff (s : State α) (c : ClientId) (id : DataNodeId) (r : NodeRef) :
    getNodeLocked s c id = .ok r ↔ s.find c id = some r := by
  rw [getNodeLocked_eq]
  cases s.find c id <;> simp

theorem getNodeLocked_error_iff (s : State α) (c : ClientId) (id : DataNodeId)
    (e : DaemonErrorCode) :
    getNodeLocked s c id = .error e ↔ s.find c id = none ∧ e = .invalidArgument := by
  rw [getNodeLocked_eq]
  cases s.find c id <;> simp [eq_comm]

theorem Linked.getParent (linked : Linked s pending) (found : s.find c id = some r) :
    (s.parent r = none ∧ getParent s r = .error .invalidContext) ∨
      ∃ p parentId, s.parent r = some p ∧ s.find c parentId = some p ∧
        getParent s r = .ok parentId := by
  cases link : s.parent r with
  | none => exact Or.inl ⟨rfl, by simp [DataManager.getParent, link]⟩
  | some p =>
    obtain ⟨-, -, parentId, found'⟩ := linked.parent_link c id r p found link
    refine .inr ⟨p, parentId, rfl, found', ?_⟩
    simp [DataManager.getParent, link, linked.getNodeId found']

theorem advanceCounter_range (k : DataNodeId) :
    1 ≤ advanceCounter k ∧ advanceCounter k ≤ dataNodeValueMax := by
  unfold advanceCounter
  split
  · exact ⟨Nat.le_refl 1, by decide⟩
  · rename_i within
    exact ⟨Nat.le_add_left 1 k, Nat.le_of_not_lt within⟩

theorem findFreeId_spec (used : NodeMap) (retries : Nat) (k : DataNodeId)
    (range : 1 ≤ k ∧ k ≤ dataNodeValueMax) :
    (1 ≤ (findFreeId used retries k).2 ∧ (findFreeId used retries k).2 ≤ dataNodeValueMax) ∧
      ∀ id, (findFreeId used retries k).1 = some id →
        id = (findFreeId used retries k).2 ∧ id ∉ used := by
  induction retries generalizing k with
  | zero => simp [findFreeId, range]
  | succ retries ih =>
    unfold findFreeId
    split
    · exact ih _ (advanceCounter_range k)
    · rename_i free
      refine ⟨range, ?_⟩
      intro id issued
      cases issued
      exact ⟨rfl, free⟩

theorem getNextNodeIdLocked_cases (s : State α) (c : ClientId)
    (range : ∀ k, s.idCounterPerClient c = some k → 1 ≤ k ∧ k ≤ dataNodeValueMax) :
    ∃ k, (1 ≤ k ∧ k ≤ dataNodeValueMax) ∧
      ((getNextNodeIdLocked s c = (.ok k, setCounter s c k) ∧ s.find c k = none) ∨
        getNextNodeIdLocked s c = (.error .quotaExceeded, setCounter s c k)) := by
  have start : 1 ≤ (s.idCounterPerClient c).getD 1 ∧
      (s.idCounterPerClient c).getD 1 ≤ dataNodeValueMax := by
    cases counter : s.idCounterPerClient c with
    | none => exact ⟨Nat.le_refl 1, by decide⟩
    | some k => exact range k counter
  unfold getNextNodeIdLocked
  cases nodes : s.nodeMap c with
  | none =>
    refine ⟨_, start, .inl ⟨rfl, ?_⟩⟩
    rw [State.find, row_of_none nodes]
    rfl
  | some used =>
    obtain ⟨within, free⟩ := findFreeId_spec used (maxNodesPerClient + 1) _ start
    rcases searched : findFreeId used (maxNodesPerClient + 1) ((s.idCounterPerClient c).getD 1)
      with ⟨found, k⟩
    rw [searched] at within free
    refine ⟨k, within, ?_⟩
    cases found with
    | none => exact Or.inr (by simp [searched])
    | some id =>
      obtain ⟨rfl, absent⟩ := free id rfl
      refine Or.inl ⟨by simp [searched], ?_⟩
      rw [State.find, row_of_some nodes]
      exact Finmap.lookup_eq_none.mpr absent

theorem Linked.setCounter (linked : Linked s pending) (c : ClientId) (k : DataNodeId)
    (range : 1 ≤ k ∧ k ≤ dataNodeValueMax) :
    Linked (setCounter s c k) pending :=
  { linked with
    counter_range := by
      intro c' k' counter
      by_cases same : c' = c
      · subst same
        simp only [DataManager.setCounter, Function.update_self, Option.some.injEq] at counter
        exact counter ▸ range
      · simp only [DataManager.setCounter, Function.update_of_ne same] at counter
        exact linked.counter_range c' k' counter }

end ScoreCrypto.DataManager
