import ScoreCrypto.DataManager.Insertion

/-! What the removal of a set of nodes does to the manager, and that one removal step does it. -/

namespace ScoreCrypto.DataManager

open Table

variable {α : Type}

/-- `s'` is `s` without the listed nodes of the client: they left the map, the entry index, the
busy marks and the child lists, and nothing else changed. -/
structure Removed (s s' : State α) (c : ClientId) (gone : List (DataNodeId × NodeRef)) : Prop where
  objects : ∀ r, s'.objects r =
    (s.objects r).map fun n =>
      { n with children := n.children.filter fun w => w ∉ gone.map Prod.snd }
  nextObject : s'.nextObject = s.nextObject
  find : ∀ c' id, s'.find c' id =
    if c' = c ∧ id ∈ gone.map Prod.fst then none else s.find c' id
  entryNodes : ∀ c', s'.entryNodes c' =
    if c' = c then (s.entryNodes c').filter fun id => id ∉ gone.map Prod.fst
    else s.entryNodes c'
  busy : ∀ c' id, id ∈ s'.busy c' ↔ id ∈ s.busy c' ∧ ¬(c' = c ∧ id ∈ gone.map Prod.fst)
  counters : s'.idCounterPerClient = s.idCounterPerClient
  accessors : s'.accessors = s.accessors
  entries_full : NoEmptyRow s.entryNodesPerClient → NoEmptyRow s'.entryNodesPerClient
  nodes_full : NoEmptyRow s.nodeMap → NoEmptyRow s'.nodeMap
  busy_full : NoEmptyRow s.busyNodes → NoEmptyRow s'.busyNodes

theorem Removed.refl (s : State α) (c : ClientId) : Removed s s c [] where
  objects := by
    intro r
    cases s.objects r <;> simp
  nextObject := rfl
  find := by simp
  entryNodes := by simp
  busy := by simp
  counters := rfl
  accessors := rfl
  entries_full := fun full => full
  nodes_full := fun full => full
  busy_full := fun full => full

theorem Removed.trans {s s' s'' : State α} {c : ClientId} {first second : List (DataNodeId × NodeRef)}
    (before : Removed s s' c first) (after : Removed s' s'' c second) :
    Removed s s'' c (first ++ second) where
  objects := by
    intro r
    rw [after.objects, before.objects]
    cases s.objects r with
    | none => rfl
    | some n =>
      simp only [Option.map_some, List.filter_filter, List.map_append, List.mem_append, not_or,
        Option.some.injEq, DataNode.mk.injEq, true_and, and_true]
      refine List.filter_congr ?_
      intro w _
      rw [← Bool.decide_and]
      simp only [and_comm]
  nextObject := after.nextObject.trans before.nextObject
  find := by
    intro c' id
    rw [after.find, before.find]
    by_cases client : c' = c
    · subst client
      by_cases early : id ∈ first.map Prod.fst
      · simp [early]
      · simp only [early, List.map_append, List.mem_append, true_and, and_false, false_or, if_false]
    · simp [client]
  entryNodes := by
    intro c'
    rw [after.entryNodes, before.entryNodes]
    by_cases client : c' = c
    · rw [if_pos client, if_pos client, if_pos client, List.filter_filter]
      refine List.filter_congr ?_
      intro id _
      rw [List.map_append, ← Bool.decide_and]
      simp only [List.mem_append, not_or, and_comm]
    · simp only [if_neg client]
  busy := by
    intro c' id
    rw [after.busy, before.busy, List.map_append, List.mem_append]
    tauto
  counters := after.counters.trans before.counters
  accessors := after.accessors.trans before.accessors
  entries_full := fun full => after.entries_full (before.entries_full full)
  nodes_full := fun full => after.nodes_full (before.nodes_full full)
  busy_full := fun full => after.busy_full (before.busy_full full)

section Removed

variable {s s' : State α} {c : ClientId} {gone : List (DataNodeId × NodeRef)}
  {pending : List NodeRef}

theorem Removed.children_eq (removed : Removed s s' c gone) (r : NodeRef) :
    s'.children r = (s.children r).filter fun w => w ∉ gone.map Prod.snd := by
  unfold State.children
  rw [removed.objects]
  cases s.objects r <;> rfl

theorem Removed.parent_eq (removed : Removed s s' c gone) (r : NodeRef) :
    s'.parent r = s.parent r := by
  unfold State.parent
  rw [removed.objects]
  cases s.objects r <;> rfl

variable {id : DataNodeId} {r : NodeRef} {c' : ClientId}

theorem Removed.find_some (removed : Removed s s' c gone) (found : s'.find c' id = some r) :
    s.find c' id = some r ∧ ¬(c' = c ∧ id ∈ gone.map Prod.fst) := by
  rw [removed.find] at found
  split at found
  · cases found
  · rename_i stays
    exact ⟨found, stays⟩

theorem Removed.find_of (removed : Removed s s' c gone) (found : s.find c' id = some r)
    (stays : ¬(c' = c ∧ id ∈ gone.map Prod.fst)) :
    s'.find c' id = some r := by
  rw [removed.find, if_neg stays, found]

structure Closed (s : State α) (c : ClientId) (gone : List (DataNodeId × NodeRef)) : Prop where
  found : ∀ id r, (id, r) ∈ gone → s.find c id = some r
  children : ∀ id r, (id, r) ∈ gone → ∀ w ∈ s.children r, w ∈ gone.map Prod.snd

theorem Closed.ref_mem (closed : Closed s c gone) (found : s.find c id = some r)
    (listed : id ∈ gone.map Prod.fst) : (id, r) ∈ gone := by
  obtain ⟨⟨id', r'⟩, member, rfl⟩ := List.mem_map.mp listed
  have same := closed.found id' r' member
  rw [found] at same
  cases same
  exact member

theorem Closed.id_mem (closed : Closed s c gone) (linked : Linked s pending)
    (found : s.find c' id = some r) (listed : r ∈ gone.map Prod.snd) :
    c' = c ∧ id ∈ gone.map Prod.fst := by
  obtain ⟨⟨id', r'⟩, member, rfl⟩ := List.mem_map.mp listed
  obtain ⟨rfl, rfl⟩ := linked.find_injective found (closed.found id' r' member)
  exact ⟨rfl, List.mem_map_of_mem member⟩

section

variable (removed : Removed s s' c gone) (closed : Closed s c gone) (linked : Linked s pending)

include removed closed linked

theorem Removed.linked_detached {n : DataNode α} (present : s'.objects r = some n) :
    s'.find n.clientId n.nodeId = some r ∨ (n.children = [] ∧
      (r ∈ gone.map Prod.snd ++ pending ∨ ∃ a ∈ s'.accessors, a.node = r)) := by
  rw [removed.objects] at present
  obtain ⟨m, before, rfl⟩ := Option.map_eq_some_iff.mp present
  rw [removed.accessors, List.mem_append]
  rcases linked.detached r m before with found | ⟨empty, holder⟩
  · by_cases leaves : m.clientId = c ∧ m.nodeId ∈ gone.map Prod.fst
    · have listed := closed.ref_mem (leaves.1 ▸ found) leaves.2
      refine .inr ⟨List.filter_eq_nil_iff.mpr ?_, .inl (.inl (List.mem_map_of_mem listed))⟩
      intro w member
      have inside := closed.children _ _ listed w (by simpa [State.children, before] using member)
      simpa using inside
    · exact .inl (removed.find_of found leaves)
  · refine Or.inr ⟨by simp [empty], ?_⟩
    rcases holder with waiting | accessed
    · exact .inl (.inr waiting)
    · exact .inr accessed

theorem Removed.linked_parent {r p : NodeRef} (found : s'.find c' id = some r)
    (link : s'.parent r = some p) :
    p < r ∧ r ∈ s'.children p ∧ ∃ parentId, s'.find c' parentId = some p := by
  rw [removed.parent_eq] at link
  obtain ⟨found', stays⟩ := removed.find_some found
  obtain ⟨less, member, parentId, above⟩ := linked.parent_link _ _ _ _ found' link
  have kept : r ∉ gone.map Prod.snd := fun listed => stays (closed.id_mem linked found' listed)
  refine ⟨less, ?_, parentId, removed.find_of above ?_⟩
  · rw [removed.children_eq]
    exact List.mem_filter.mpr ⟨member, by simpa using kept⟩
  · rintro ⟨rfl, listed⟩
    exact kept (closed.children _ _ (closed.ref_mem above listed) r member)

theorem Removed.linked_after : Linked s' (gone.map Prod.snd ++ pending) where
  registered := by
    intro c' id r found
    obtain ⟨n, present, rfl, rfl⟩ := linked.registered _ _ _ (removed.find_some found).1
    refine ⟨{ n with children := n.children.filter fun w => w ∉ gone.map Prod.snd }, ?_, rfl, rfl⟩
    rw [removed.objects, present]
    rfl
  allocated := by
    intro r n present
    rw [removed.objects] at present
    obtain ⟨m, before, -⟩ := Option.map_eq_some_iff.mp present
    rw [removed.nextObject]
    exact linked.allocated r m before
  detached := fun _ _ present => removed.linked_detached closed linked present
  held := by
    intro a member
    rw [removed.accessors] at member
    obtain ⟨n, present⟩ := linked.held a member
    exact ⟨_, by rw [removed.objects, present]; rfl⟩
  id_range := fun c' id r found => linked.id_range c' id r (removed.find_some found).1
  counter_range := by
    rw [removed.counters]
    exact linked.counter_range
  parent_link := fun _ _ _ _ found link => removed.linked_parent closed linked found link
  child_link := by
    intro c' id r w found member
    rw [removed.children_eq] at member
    obtain ⟨present, kept⟩ := List.mem_filter.mp member
    obtain ⟨link, childId, below⟩ := linked.child_link _ _ _ _ (removed.find_some found).1 present
    rw [removed.parent_eq]
    refine ⟨link, childId, removed.find_of below ?_⟩
    rintro ⟨rfl, listed⟩
    have gone' := List.mem_map_of_mem (f := Prod.snd) (closed.ref_mem below listed)
    simp [gone'] at kept
  children_nodup := by
    intro r
    rw [removed.children_eq]
    exact (linked.children_nodup r).filter _
  entry_iff := by
    intro c' id
    simp only [removed.entryNodes, removed.parent_eq, removed.find]
    by_cases client : c' = c
    · by_cases listed : id ∈ gone.map Prod.fst
      · simp [client, listed]
      · rw [if_pos client, List.mem_filter, linked.entry_iff, if_neg (fun here => listed here.2)]
        simp [listed]
    · rw [if_neg client, linked.entry_iff, if_neg (fun here => client here.1)]
  entry_nodup := by
    intro c'
    rw [removed.entryNodes]
    split
    · exact (linked.entry_nodup c').filter _
    · exact linked.entry_nodup c'
  busy_registered := by
    intro c' id member
    obtain ⟨before, stays⟩ := (removed.busy c' id).mp member
    obtain ⟨r, found⟩ := linked.busy_registered c' id before
    exact ⟨r, removed.find_of found stays⟩
  entries_full := removed.entries_full linked.entries_full
  nodes_full := removed.nodes_full linked.nodes_full
  busy_full := removed.busy_full linked.busy_full

end

end Removed

/-! ### One removal step -/

theorem eraseP_eq_filter {β : Type} (p q : β → Bool) (xs : List β) (distinct : xs.Nodup) (x : β)
    (only : ∀ y ∈ xs, (p y = true ↔ y = x)) (other : ∀ y ∈ xs, (q y = true ↔ y ≠ x)) :
    xs.eraseP p = xs.filter q := by
  induction xs with
  | nil => rfl
  | cons y ys ih =>
    obtain ⟨absent, distinct⟩ := List.nodup_cons.mp distinct
    have rest : ys.eraseP p = ys.filter q := ih distinct
      (fun z member => only z (List.mem_cons_of_mem _ member))
      (fun z member => other z (List.mem_cons_of_mem _ member))
    by_cases here : y = x
    · subst here
      have drop : q y = false := by
        have := other y List.mem_cons_self
        simpa using this
      rw [List.eraseP_cons_of_pos ((only y List.mem_cons_self).mpr rfl),
        List.filter_cons_of_neg (by simp [drop]), eq_comm, List.filter_eq_self]
      intro z member
      rw [other z (List.mem_cons_of_mem _ member)]
      rintro rfl
      exact absent member
    · have keep : p y ≠ true := fun holds => here ((only y List.mem_cons_self).mp holds)
      rw [List.eraseP_cons_of_neg keep, rest,
        List.filter_cons_of_pos ((other y List.mem_cons_self).mpr here)]

section Single

variable {s : State α} {c : ClientId} {id : DataNodeId} {r : NodeRef} {pending : List NodeRef}

def withoutChild (s : State α) (r : NodeRef) : NodeRef → Option (DataNode α) :=
  fun q => (s.objects q).map fun n => { n with children := n.children.filter fun w => w ∉ [r] }

theorem withoutChild_of_absent {q : NodeRef} (absent : r ∉ s.children q) :
    withoutChild s r q = s.objects q := by
  unfold withoutChild
  cases present : s.objects q with
  | none => rfl
  | some n =>
    have same : (n.children.filter fun w => w ∉ [r]) = n.children := by
      rw [List.filter_eq_self]
      intro w member
      have other : w ≠ r := by
        rintro rfl
        exact absent (by simpa [State.children, present] using member)
      simpa using other
    simp only [Option.map_some, same]

theorem Linked.not_child_of_parent (linked : Linked s pending) {p q : NodeRef}
    (link : s.parent r = some p) (other : q ≠ p) : r ∉ s.children q := by
  intro member
  have above := ((linked.child_iff q r).mp member).1
  rw [link] at above
  exact other (Option.some.inj above).symm

theorem Linked.not_child_of_root (linked : Linked s pending) (root : s.parent r = none)
    (q : NodeRef) : r ∉ s.children q := by
  intro member
  have above := ((linked.child_iff q r).mp member).1
  rw [root] at above
  cases above

theorem removeChild_spec (linked : Linked s pending) (found : s.find c id = some r) {p : NodeRef}
    {parentId : DataNodeId} (link : s.parent r = some p) (above : s.find c parentId = some p) :
    removeChild s p id = (.ok (), { s with objects := withoutChild s r }) := by
  have member := (linked.parent_link c id r p found link).2.1
  have only : ∀ w ∈ s.children p, (decide (getNodeId s w = some id) = true ↔ w = r) := by
    intro w child
    obtain ⟨-, childId, below⟩ := linked.child_link _ _ _ _ above child
    rw [decide_eq_true_iff, linked.getNodeId below, Option.some.injEq]
    constructor
    · rintro rfl
      rw [found] at below
      exact (Option.some.inj below).symm
    · rintro rfl
      exact (linked.find_injective below found).2
  have some' : (s.children p).any (fun w => decide (getNodeId s w = some id)) = true :=
    List.any_eq_true.mpr ⟨r, member, (only r member).mpr rfl⟩
  obtain ⟨n, present, -, -⟩ := linked.registered _ _ _ above
  have list : s.children p = n.children := by simp [State.children, present]
  unfold removeChild
  rw [if_pos some', State.modify]
  congr 2
  funext q
  by_cases here : q = p
  · subst here
    rw [Function.update_self, withoutChild, present]
    simp only [Option.map_some]
    rw [eraseP_eq_filter _ (fun w => decide (w ∉ [r])) n.children
      (list ▸ linked.children_nodup q) r (list ▸ only) (by simp)]
  · rw [Function.update_of_ne here, withoutChild_of_absent (linked.not_child_of_parent link here)]

theorem removeEntryNodeFromIndex_spec (linked : Linked s pending) (found : s.find c id = some r)
    (root : s.parent r = none) :
    removeEntryNodeFromIndex s c id =
      (.ok (), { s with
        entryNodesPerClient := setRow s.entryNodesPerClient c ((s.entryNodes c).erase id) }) := by
  have member : id ∈ s.entryNodes c := (linked.entry_iff c id).mpr ⟨r, found, root⟩
  unfold removeEntryNodeFromIndex
  cases entries : s.entryNodesPerClient c with
  | none =>
    rw [State.entryNodes, row_of_none entries] at member
    cases member
  | some client =>
    have same : s.entryNodes c = client := row_of_some entries
    rw [same] at member ⊢
    simp [member]

theorem unlinkNode_spec (linked : Linked s pending) (found : s.find c id = some r) :
    ∃ entries, unlinkNode s r c id =
        (.ok (), { s with objects := withoutChild s r, entryNodesPerClient := entries }) ∧
      (∀ c', row entries c' =
        if c' = c then (s.entryNodes c').filter fun i => i ∉ [id] else s.entryNodes c') ∧
      NoEmptyRow entries := by
  unfold unlinkNode
  rcases linked.getParent found with ⟨root, orphan⟩ | ⟨p, parentId, link, above, parent⟩
  · refine ⟨setRow s.entryNodesPerClient c ((s.entryNodes c).erase id), ?_, ?_,
      noEmptyRow_setRow linked.entries_full _ _⟩
    · have same : withoutChild s r = s.objects :=
        funext fun q => withoutChild_of_absent (linked.not_child_of_root root q)
      rw [orphan, same]
      exact removeEntryNodeFromIndex_spec linked found root
    · intro c'
      by_cases client : c' = c
      · subst client
        rw [row_setRow_same, if_pos rfl, (linked.entry_nodup c').erase_eq_filter]
        refine List.filter_congr ?_
        intro i _
        by_cases here : i = id <;> simp [here]
      · rw [row_setRow_ne _ _ client, if_neg client, State.entryNodes]
  · refine ⟨s.entryNodesPerClient, ?_, ?_, linked.entries_full⟩
    · rw [parent]
      simp only [(getNodeLocked_ok_iff s c parentId p).mpr above]
      exact removeChild_spec linked found link above
    · intro c'
      by_cases client : c' = c
      · subst client
        have absent : id ∉ s.entryNodes c' := by
          rw [linked.entry_iff]
          rintro ⟨q, found', root⟩
          rw [found] at found'
          cases found'
          rw [link] at root
          cases root
        rw [if_pos rfl, eq_comm, State.entryNodes, List.filter_eq_self]
        intro i member
        have other : i ≠ id := fun same => absent (same ▸ member)
        simpa using other
      · rw [if_neg client, State.entryNodes]

theorem find_eraseNode (s : State α) (c c' : ClientId) (id id' : DataNodeId) :
    ({ s with nodeMap := setRow s.nodeMap c ((row s.nodeMap c).erase id) } : State α).find c' id' =
      if c' = c ∧ id' ∈ [id] then none else s.find c' id' := by
  unfold State.find
  by_cases client : c' = c
  · subst client
    by_cases node : id' = id
    · subst node
      simp
    · rw [row_setRow_same, Finmap.lookup_erase_ne node, if_neg (by simp [node])]
  · rw [row_setRow_ne _ _ client, if_neg (fun here => client here.1)]

theorem eraseBusy_eq (s : State α) (c : ClientId) (id : DataNodeId) (full : NoEmptyRow s.busyNodes) :
    ∃ busyNodes, eraseBusy s c id = { s with busyNodes := busyNodes } ∧ NoEmptyRow busyNodes ∧
      ∀ c' i, i ∈ row busyNodes c' ↔ i ∈ s.busy c' ∧ ¬(c' = c ∧ i ∈ [id]) := by
  unfold eraseBusy
  cases marks : s.busyNodes c with
  | none =>
    refine ⟨s.busyNodes, rfl, full, ?_⟩
    intro c' i
    rw [State.busy, iff_self_and]
    rintro member ⟨rfl, -⟩
    rw [row_of_none marks] at member
    exact Finset.notMem_empty i member
  | some client =>
    refine ⟨_, rfl, noEmptyRow_setRow full _ _, ?_⟩
    intro c' i
    by_cases here : c' = c
    · subst here
      rw [row_setRow_same, State.busy, row_of_some marks, Finset.mem_erase]
      simp [and_comm]
    · rw [row_setRow_ne _ _ here, State.busy]
      simp [here]

theorem removeSingleNodeFromStorage_spec (linked : Linked s pending)
    (found : s.find c id = some r) :
    ∃ s', removeSingleNodeFromStorage s r c id = (.ok (), s') ∧ Removed s s' c [(id, r)] := by
  obtain ⟨entries, unlinked, left, entriesFull⟩ := unlinkNode_spec linked found
  cases nodes : s.nodeMap c with
  | none =>
    rw [State.find, row_of_none nodes] at found
    cases found
  | some client =>
    have same : client = row s.nodeMap c := (row_of_some nodes).symm
    obtain ⟨busyNodes, erased, busyFull, marks⟩ := eraseBusy_eq
      { s with
        objects := withoutChild s r
        entryNodesPerClient := entries
        nodeMap := setRow s.nodeMap c (client.erase id) } c id linked.busy_full
    refine ⟨{ s with
      objects := withoutChild s r
      entryNodesPerClient := entries
      nodeMap := setRow s.nodeMap c (client.erase id)
      busyNodes := busyNodes }, ?_, ?_⟩
    · simp only [removeSingleNodeFromStorage, unlinked, nodes]
      rw [erased]
    · exact {
        objects := fun q => rfl
        nextObject := rfl
        find := by
          intro c' id'
          rw [same]
          exact find_eraseNode s c c' id id'
        entryNodes := left
        busy := marks
        counters := rfl
        accessors := rfl
        entries_full := fun _ => entriesFull
        nodes_full := fun full => noEmptyRow_setRow full _ _
        busy_full := fun _ => busyFull }

end Single

end ScoreCrypto.DataManager
