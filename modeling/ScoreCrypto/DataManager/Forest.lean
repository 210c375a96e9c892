import ScoreCrypto.DataManager.Access
import ScoreCrypto.Lib.Run

/-! Runs of the manager's operations by any clients, and the forest every run leaves behind. -/

namespace ScoreCrypto.DataManager

open Table Forest Run

/-- One operation under the mutex; a node to add is a fresh object or a null pointer. -/
inductive Step (α : Type) where
  | addNode (clientId : ClientId) (node : Option (NewNode α))
  | addChildNode (clientId : ClientId) (parentId : DataNodeId) (node : Option (NewNode α))
  | addSiblingNode (clientId : ClientId) (siblingId : DataNodeId) (node : Option (NewNode α))
  | deleteNode (clientId : ClientId) (nodeId : DataNodeId)
  | deleteClientNodes (clientId : ClientId)
  | getNodeAccessor (clientId : ClientId) (nodeId : DataNodeId)
  | destroyAccessor (accessor : Accessor)

variable {α : Type}

def step (s : State α) : Step α → State α
  | .addNode c node => (addNode s c node).2
  | .addChildNode c parentId node => (addChildNode s c parentId node).2
  | .addSiblingNode c siblingId node => (addSiblingNode s c siblingId node).2
  | .deleteNode c id => (deleteNode s c id).state
  | .deleteClientNodes c => (deleteClientNodes s c).state
  | .getNodeAccessor c id => (getNodeAccessor s c id).2
  | .destroyAccessor a => (destroyAccessor s a).2

def issue (s : State α) : Step α → Option (ClientId × DataNodeId)
  | .addNode c node => (addNode s c node).1.toOption.map (c, ·)
  | .addChildNode c parentId node => (addChildNode s c parentId node).1.toOption.map (c, ·)
  | .addSiblingNode c siblingId node => (addSiblingNode s c siblingId node).1.toOption.map (c, ·)
  | _ => none

def Step.adder : Step α → Option ClientId
  | .addNode c _ => some c
  | .addChildNode c _ _ => some c
  | .addSiblingNode c _ _ => some c
  | _ => none

theorem step_cases {s : State α} (linked : Linked s []) (event : Step α) :
    (∃ c, event.adder = some c ∧ issue s event = none ∧ Refused s (step s event) c) ∨
      (∃ c id parent node, event.adder = some c ∧ issue s event = some (c, id) ∧
        Inserted s (step s event) c id parent node) ∨
      (issue s event = none ∧
        ((∃ c id, event = .deleteNode c id) ∨ (∃ c, event = .deleteClientNodes c) ∨
          (∃ c id, event = .getNodeAccessor c id) ∨ ∃ a, event = .destroyAccessor a)) := by
  cases event with
  | addNode c node =>
    rcases addNode_cases s c node (linked.counter_range c) with
      ⟨e, s', run, refused⟩ | ⟨id, s', object, -, run, inserted⟩
    · exact Or.inl ⟨c, rfl, by simp [issue, run, Except.toOption],
        by rw [step, run]; exact refused⟩
    · exact Or.inr (Or.inl ⟨c, id, none, object, rfl, by simp [issue, run, Except.toOption],
        by rw [step, run]; exact inserted⟩)
  | addChildNode c parentId node =>
    rcases addChildNode_cases s c parentId node linked with
      ⟨e, s', run, refused⟩ | ⟨id, s', p, object, -, -, run, inserted⟩
    · exact Or.inl ⟨c, rfl, by simp [issue, run, Except.toOption],
        by rw [step, run]; exact refused⟩
    · exact Or.inr (Or.inl ⟨c, id, some p, object, rfl, by simp [issue, run, Except.toOption],
        by rw [step, run]; exact inserted⟩)
  | addSiblingNode c siblingId node =>
    rcases addSiblingNode_cases s c siblingId node linked with
      ⟨e, s', run, refused⟩ | ⟨id, s', p, object, -, run, inserted⟩
    · exact Or.inl ⟨c, rfl, by simp [issue, run, Except.toOption],
        by rw [step, run]; exact refused⟩
    · exact Or.inr (Or.inl ⟨c, id, some p, object, rfl, by simp [issue, run, Except.toOption],
        by rw [step, run]; exact inserted⟩)
  | deleteNode c id => exact .inr (.inr ⟨rfl, .inl ⟨c, id, rfl⟩⟩)
  | deleteClientNodes c => exact .inr (.inr ⟨rfl, .inr (.inl ⟨c, rfl⟩)⟩)
  | getNodeAccessor c id => exact .inr (.inr ⟨rfl, .inr (.inr (.inl ⟨c, id, rfl⟩))⟩)
  | destroyAccessor a => exact .inr (.inr ⟨rfl, .inr (.inr (.inr ⟨a, rfl⟩))⟩)

theorem step_linked (s : State α) (event : Step α) (linked : Linked s []) :
    Linked (step s event) [] := by
  rcases step_cases linked event with ⟨c, -, -, refused⟩ | ⟨c, id, parent, node, -, -, inserted⟩ |
    ⟨-, ⟨c, id, same⟩ | ⟨c, same⟩ | ⟨c, id, same⟩ | ⟨a, same⟩⟩
  · exact refused.linked linked
  · exact inserted.linked_after linked
  · subst same
    exact deleteNode_linked linked c id
  · subst same
    exact (deleteClientNodes_induction (fun _ => True) c (fun _ _ _ _ => trivial) linked trivial).1
  · subst same
    exact getNodeAccessor_linked linked c id
  · subst same
    exact destroyAccessor_linked linked a

theorem run_linked (events : List (Step α)) : Linked (run step init events) [] :=
  run_invariant (fun s => Linked s []) step_linked init events init_linked

/-- The node maps are forests that agree with the links stored in the nodes, the ids and the busy
marks are sound, and no client is left with an empty collection. -/
structure ForestInvariant (s : State α) : Prop where
  forest : ∀ c, ∃ ts : List (RoseTree DataNodeId), ts.map RoseTree.root = s.entryNodes c ∧
    FollowsAll (s.childIds c) ts ∧ (forestVertices ts).Nodup ∧
    ∀ id, id ∈ forestVertices ts ↔ id ∈ row s.nodeMap c
  child_iff : ∀ p r, r ∈ s.children p ↔ s.parent r = some p ∧
    ∃ c parentId id, s.find c parentId = some p ∧ s.find c id = some r
  id_unique : ∀ c c' id id' r, s.find c id = some r → s.find c' id' = some r → c = c' ∧ id = id'
  id_stored : ∀ c id r, s.find c id = some r →
    ∃ n, s.objects r = some n ∧ n.clientId = c ∧ n.nodeId = id
  id_range : ∀ c id, id ∈ row s.nodeMap c → id ≠ 0 ∧ id ≤ dataNodeValueMax
  busy_registered : ∀ c id, id ∈ s.busy c → id ∈ row s.nodeMap c
  no_empty_map : NoEmptyRow s.nodeMap
  no_empty_entries : NoEmptyRow s.entryNodesPerClient
  no_empty_busy : NoEmptyRow s.busyNodes

theorem registered_iff_mem (s : State α) (c : ClientId) (id : DataNodeId) :
    s.Registered c id ↔ id ∈ row s.nodeMap c := by
  rw [State.Registered, Finmap.mem_iff]
  rfl

theorem Linked.forestInvariant {s : State α} (linked : Linked s []) : ForestInvariant s where
  forest := by
    intro c
    obtain ⟨ts, roots, follows, distinct, covered⟩ := (linked.linkage c).exists_forest
      (s.entryNodes c) (linked.entry_nodup c) (linked.parentId_eq_none c)
    refine ⟨ts, roots, follows, distinct, fun id => ?_⟩
    rw [covered, registered_iff_mem]
  child_iff := linked.child_iff
  id_unique := fun _ _ _ _ _ left right => linked.find_injective left right
  id_stored := linked.registered
  id_range := by
    intro c id member
    obtain ⟨r, found⟩ := (registered_iff_mem s c id).mpr member
    obtain ⟨low, high⟩ := linked.id_range c id r found
    exact ⟨Nat.ne_of_gt low, high⟩
  busy_registered := fun c id member =>
    (registered_iff_mem s c id).mp (linked.busy_registered c id member)
  no_empty_map := linked.nodes_full
  no_empty_entries := linked.entries_full
  no_empty_busy := linked.busy_full

/-- Every run of operations by any clients, on fresh nodes, leaves a forest. -/
theorem run_forestInvariant (events : List (Step α)) : ForestInvariant (run step init events) :=
  (run_linked events).forestInvariant

/-- A node object is alive only while it is owned: it is registered under its own client and id, or
an accessor holds it, and then it keeps none of the nodes alive that hung below it. The object of an
accessor and the object that a parent link leads to are alive. -/
theorem run_objectsOwned (events : List (Step α)) :
    (∀ r n, (run step init events).objects r = some n →
      (run step init events).find n.clientId n.nodeId = some r ∨
        n.children = [] ∧ (run step init events).Held r) ∧
      (∀ a ∈ (run step init events).accessors, ∃ n, (run step init events).objects a.node = some n) ∧
      ∀ c id r p, (run step init events).find c id = some r →
        (run step init events).parent r = some p →
          ∃ n, (run step init events).objects p = some n := by
  have linked := run_linked events
  refine ⟨fun r n present => ?_, linked.held, fun c id r p found link => ?_⟩
  · rcases linked.detached r n present with found | ⟨empty, waiting | held⟩
    · exact .inl found
    · cases waiting
    · exact .inr ⟨empty, held⟩
  · rcases linked.parent_link c id r p found link with ⟨-, -, parentId, above⟩
    rcases linked.registered c parentId p above with ⟨n, present, -⟩
    exact ⟨n, present⟩

/-! ### Deletion in a reachable state -/

structure SameOthers (c : ClientId) (s s' : State α) : Prop where
  find : ∀ c' ≠ c, s'.find c' = s.find c'
  entryNodes : ∀ c' ≠ c, s'.entryNodes c' = s.entryNodes c'
  busy : ∀ c' ≠ c, ∀ id, id ∈ s'.busy c' ↔ id ∈ s.busy c'
  objects : ∀ c' ≠ c, ∀ id r, s.find c' id = some r → s'.objects r = s.objects r
  counters : s'.idCounterPerClient = s.idCounterPerClient
  accessors : s'.accessors = s.accessors

theorem SameOthers.refl (c : ClientId) (s : State α) : SameOthers c s s :=
  ⟨fun _ _ => rfl, fun _ _ => rfl, fun _ _ _ => Iff.rfl, fun _ _ _ _ _ => rfl, rfl, rfl⟩

variable {s s' s'' : State α} {c : ClientId} {root : DataNodeId}

theorem SameOthers.trans (before : SameOthers c s s') (after : SameOthers c s' s'') :
    SameOthers c s s'' where
  find := fun c' other => (after.find c' other).trans (before.find c' other)
  entryNodes := fun c' other => (after.entryNodes c' other).trans (before.entryNodes c' other)
  busy := fun c' other id => (after.busy c' other id).trans (before.busy c' other id)
  objects := by
    intro c' other id r found
    have found' : s'.find c' id = some r := by rw [before.find c' other, found]
    exact (after.objects c' other id r found').trans (before.objects c' other id r found)
  counters := after.counters.trans before.counters
  accessors := after.accessors.trans before.accessors

theorem Removed.sameOthers {mid : State α} {gone : List (DataNodeId × NodeRef)}
    (removed : Removed s mid c gone) (closed : Closed s c gone) (linked : Linked s []) :
    SameOthers c s (destroy mid (gone.map Prod.snd)) where
  find := by
    intro c' other
    funext id
    exact (removed.find c' id).trans (if_neg (fun both => other both.1))
  entryNodes := fun c' other => (removed.entryNodes c').trans (if_neg other)
  busy := fun c' other id => (removed.busy c' id).trans (and_iff_left (fun both => other both.1))
  objects := by
    intro c' other id r found
    have outside : ∀ {id r}, s.find c' id = some r → r ∉ gone.map Prod.snd :=
      fun found listed => other (closed.id_mem linked found listed).1
    obtain ⟨n, present, -⟩ := linked.registered c' id r found
    have kids : n.children.filter (fun w => w ∉ gone.map Prod.snd) = n.children := by
      rw [List.filter_eq_self]
      intro w child
      have child : w ∈ s.children r := by simpa [State.children, present] using child
      obtain ⟨-, childId, below⟩ := linked.child_link c' id r w found child
      exact decide_eq_true (outside below)
    simp only [destroy, outside found, false_and, if_false, removed.objects, present,
      Option.map_some, kids]
  counters := removed.counters
  accessors := removed.accessors

theorem deleteNode_sameOthers (linked : Linked s []) (c : ClientId) (root : DataNodeId) :
    SameOthers c s (deleteNode s c root).state := by
  unfold deleteNode
  rcases removeNodesFromStorage_cases linked c root with
    ⟨-, refused⟩ | ⟨gone, mid, collected, removed, done⟩
  · rw [refused]
    exact SameOthers.refl c s
  · rw [done]
    exact removed.sameOthers collected.closed linked

theorem deleteNode_entryNodes (linked : Linked s []) (c : ClientId) (root id : DataNodeId)
    (left : id ∈ (deleteNode s c root).state.entryNodes c) : id ∈ s.entryNodes c ∧ id ≠ root := by
  unfold deleteNode at left
  rcases removeNodesFromStorage_cases linked c root with
    ⟨missing, refused⟩ | ⟨gone, mid, collected, removed, done⟩
  · rw [refused] at left
    refine ⟨left, fun same => ?_⟩
    obtain ⟨r, found, -⟩ := (linked.entry_iff c id).mp left
    rw [same, missing] at found
    cases found
  · rw [done] at left
    change id ∈ mid.entryNodes c at left
    rw [removed.entryNodes, if_pos rfl, List.mem_filter] at left
    refine ⟨left.1, fun same => of_decide_eq_true left.2 ?_⟩
    exact same ▸ collected.root_mem

theorem removeEntries_entryNodes (c : ClientId) (entries : List DataNodeId) (removal : Removal α)
    (linked : Linked removal.state []) (all : ∀ id ∈ removal.state.entryNodes c, id ∈ entries) :
    (removeEntries c entries removal).state.entryNodes c = [] := by
  induction entries generalizing removal with
  | nil => exact List.eq_nil_iff_forall_not_mem.mpr fun id member => nomatch all id member
  | cons root entries ih =>
    refine ih _ (deleteNode_linked linked c root) ?_
    intro id left
    have before := deleteNode_entryNodes linked c root id left
    exact (List.mem_cons.mp (all id before.1)).resolve_left before.2

theorem removeEntries_run (c : ClientId) (entries : List DataNodeId) (removal : Removal α) :
    (removeEntries c entries removal).state =
      run step removal.state (entries.map (Step.deleteNode c)) := by
  induction entries generalizing removal with
  | nil => rfl
  | cons root entries ih => exact ih _

theorem Linked.unregistered_of_no_entry (linked : Linked s []) (none' : s.entryNodes c = [])
    (id : DataNodeId) : ¬s.Registered c id := by
  obtain ⟨ts, roots, -, -, covered⟩ := (linked.linkage c).exists_forest (s.entryNodes c)
    (linked.entry_nodup c) (linked.parentId_eq_none c)
  rw [none', List.map_eq_nil_iff] at roots
  rw [← covered, roots, forestVertices]
  exact List.not_mem_nil

/-- What the two delete operations do to the state. The walk from any id stops with an empty stack;
a deletion succeeds on the registered ids, takes out what its id reaches, each node before those
above it, and touches nothing else. The deletion of a client is one deletion after the other. -/
structure DeletionExact (s : State α) (c : ClientId) : Prop where
  terminates : ∀ root, (collectNodes s c (walkFuel s c)
    { stack := [root], postOrder := [], result := .ok () }).stack = []
  succeeds : ∀ root, (deleteNode s c root).result = .ok () ↔ s.Registered c root
  subtree : ∀ root, s.Registered c root → ∃ gone mid,
    (collectNodes s c (walkFuel s c)
      { stack := [root], postOrder := [], result := .ok () }).postOrder = gone ∧
    (∀ id, id ∈ gone.map Prod.fst ↔ Reaches (s.childIds c) root id) ∧
    (gone.map Prod.fst).Nodup ∧
    (∀ before id after, gone.map Prod.fst = before ++ id :: after →
      ∀ below, Reaches (s.childIds c) id below → below ≠ id → below ∈ before) ∧
    removeCollected s c gone (.ok ()) = (.ok (), mid) ∧ Removed s mid c gone ∧
    (deleteNode s c root).state = destroy mid (gone.map Prod.snd)
  refused : ∀ root, ¬s.Registered c root → (deleteNode s c root).state = s
  client_run : (deleteClientNodes s c).state =
    run step s ((s.entryNodes c).map (Step.deleteNode c))
  client_empty : ∀ id, ¬(deleteClientNodes s c).state.Registered c id
  client_others : SameOthers c s (deleteClientNodes s c).state

theorem Linked.deletionExact (linked : Linked s []) (c : ClientId) : DeletionExact s c where
  terminates := by
    intro root
    cases found : s.find c root with
    | none => rw [walkFuel, collectNodes_unknown found]
    | some r =>
      obtain ⟨gone, -, walked⟩ := collectNodes_spec linked c root ⟨r, found⟩
      rw [walked]
  succeeds := by
    intro root
    rcases deleteNode_cases linked c root with ⟨missing, refused⟩ | ⟨gone, s', deleted, done⟩
    · simp [refused, State.Registered, missing]
    · simp [done, deleted.collected.registered]
  subtree := by
    intro root here
    obtain ⟨gone, mid, collected, removed, walked, emptied, done⟩ :=
      removeNodesFromStorage_registered linked here
    refine ⟨gone, mid, by rw [walked], collected.reached, collected.nodup, ?_, emptied, removed, ?_⟩
    · intro before id after split below reach other
      exact (collected.childrenFirst linked).below split reach other
    · rw [deleteNode, done]
  refused := by
    intro root missing
    rcases deleteNode_cases linked c root with ⟨-, refused⟩ | ⟨gone, s', deleted, done⟩
    · rw [refused]
    · exact absurd deleted.collected.registered missing
  client_run := by
    unfold deleteClientNodes State.entryNodes row
    cases s.entryNodesPerClient c with
    | none => rfl
    | some entries => exact removeEntries_run c entries _
  client_empty := by
    intro id
    have after := (deleteClientNodes_induction (fun _ => True) c (fun _ _ _ _ => trivial) linked
      trivial).1
    refine after.unregistered_of_no_entry ?_ id
    unfold deleteClientNodes
    cases present : s.entryNodesPerClient c with
    | none => exact row_of_none present
    | some entries =>
      refine removeEntries_entryNodes c entries _ linked ?_
      intro id member
      rwa [State.entryNodes, row_of_some present] at member
  client_others := (deleteClientNodes_induction (SameOthers c s) c
    (fun _ root linked same => same.trans (deleteNode_sameOthers linked c root)) linked
    (SameOthers.refl c s)).2

/-- In every reachable state deletion is exact. -/
theorem run_deletionExact (events : List (Step α)) (c : ClientId) :
    DeletionExact (run step init events) c :=
  (run_linked events).deletionExact c

end ScoreCrypto.DataManager
