import ScoreCrypto.DataManager.Forest

/-!
Exclusive access. Busy marks are kept by client and id, so an accessor that outlives its node can
release the mark of the next node with the same id.
-/

namespace ScoreCrypto.DataManager

open Table Run

variable {α : Type}

def State.accessCount (s : State α) (r : NodeRef) : Nat :=
  s.accessors.countP fun a => a.node = r

/-- No registered node that requires exclusive access has two live accessors. -/
def ExclusiveAccess (s : State α) : Prop :=
  ∀ c id r n, s.find c id = some r → s.objects r = some n → n.exclusiveAccess = true →
    s.accessCount r ≤ 1

/-- An accessor that captured the manager is only destroyed while its node is registered, or while no
node is marked busy under the client and id its node had. -/
def ReleasesOwnMark (s : State α) : Step α → Prop
  | .destroyAccessor a =>
    match s.objects a.node, a.manager with
    | some n, true => s.find n.clientId n.nodeId = some a.node ∨ n.nodeId ∉ s.busy n.clientId
    | _, _ => True
  | _ => True

instance (s : State α) (event : Step α) : Decidable (ReleasesOwnMark s event) := by
  unfold ReleasesOwnMark
  split
  · split <;> infer_instance
  · infer_instance

/-- Accessors that captured the manager are those of exclusive nodes, and hold their node's mark. -/
structure Marked (s : State α) : Prop where
  exclusive : ExclusiveAccess s
  captured : ∀ a ∈ s.accessors, ∀ n, s.objects a.node = some n → a.manager = n.exclusiveAccess
  mark : ∀ a ∈ s.accessors, a.manager = true → ∀ c id, s.find c id = some a.node → id ∈ s.busy c

theorem init_marked : Marked (init : State α) where
  exclusive := by
    intro c id r n found
    rw [find_init] at found
    cases found
  captured := by simp [init]
  mark := by simp [init]

section Steps

variable {s s' : State α}

theorem Marked.frame (marked : Marked s) (accessors : s'.accessors = s.accessors)
    (objects : ∀ a ∈ s.accessors, ∀ n', s'.objects a.node = some n' →
      ∃ n, s.objects a.node = some n ∧ n'.exclusiveAccess = n.exclusiveAccess)
    (find : ∀ c id r, s'.find c id = some r → s.Held r →
      s.find c id = some r ∧ (id ∈ s.busy c → id ∈ s'.busy c)) : Marked s' where
  exclusive := by
    intro c id r n' found present required
    unfold State.accessCount
    rw [accessors]
    by_cases held : s.Held r
    · rcases held with ⟨a, member, here⟩
      have before := (find c id r found ⟨a, member, here⟩).1
      rcases objects a member n' (here ▸ present) with ⟨n, present', same⟩
      rw [here] at present'
      exact marked.exclusive c id r n before present' (same ▸ required)
    · have none' : s.accessors.countP (fun a => a.node = r) = 0 := by
        rw [List.countP_eq_zero]
        intro a member here
        exact held ⟨a, member, by simpa using here⟩
      omega
  captured := by
    intro a member n' present
    rw [accessors] at member
    rcases objects a member n' present with ⟨n, present', same⟩
    rw [same]
    exact marked.captured a member n present'
  mark := by
    intro a member manager c id found
    rw [accessors] at member
    have kept := find c id a.node found ⟨a, member, rfl⟩
    exact kept.2 (marked.mark a member manager c id kept.1)

variable {c : ClientId}

theorem Refused.marked (refused : Refused s s' c) (marked : Marked s) :
    Marked s' := by
  rcases refused with same | ⟨k, -, same, -⟩
  · rw [same]
    exact marked
  · rw [same]
    exact ⟨marked.exclusive, marked.captured, marked.mark⟩

theorem Inserted.marked {id : DataNodeId} {parent : Option NodeRef} {node : NewNode α}
    (inserted : Inserted s s' c id parent node) (linked : Linked s []) (marked : Marked s) :
    Marked s' := by
  have old : ∀ {r}, s.Held r → r ≠ s.nextObject := by
    intro r held
    rcases held with ⟨a, member, here⟩
    rcases linked.held a member with ⟨n, present⟩
    rw [← here]
    exact Nat.ne_of_lt (linked.allocated _ n present)
  apply marked.frame inserted.accessors
  · intro a member n' present
    rcases inserted.object_cases present with ⟨new, -⟩ | ⟨-, n, before, shape⟩
    · exact absurd new (old ⟨a, member, rfl⟩)
    · refine ⟨n, before, ?_⟩
      rcases shape with same | ⟨-, same⟩ <;> rw [same]
  · intro c' id' r found held
    rcases inserted.find_old linked found with ⟨-, -, new⟩ | ⟨-, before⟩
    · exact absurd new (old held)
    · refine ⟨before, fun member => ?_⟩
      rw [State.busy, inserted.busyNodes]
      exact member

theorem Deleted.marked {root : DataNodeId} {gone : List (DataNodeId × NodeRef)}
    (deleted : Deleted s s' c root gone) (marked : Marked s) : Marked s' := by
  apply marked.frame deleted.accessors
  · intro a _ n' present
    rcases deleted.object_some present with ⟨n, before, same⟩
    exact ⟨n, before, by rw [same]; rfl⟩
  · intro c' id r found _
    have kept := deleted.find_some found
    exact ⟨kept.1, fun member => (deleted.busy c' id).mpr ⟨member, kept.2⟩⟩

theorem deleteNode_marked (linked : Linked s []) (marked : Marked s) (c : ClientId)
    (root : DataNodeId) : Marked (deleteNode s c root).state := by
  rcases deleteNode_cases linked c root with ⟨-, refused⟩ | ⟨gone, s', deleted, done⟩
  · rw [refused]
    exact marked
  · rw [done]
    exact deleted.marked marked

theorem Marked.unheld_of_free (marked : Marked s) {id : DataNodeId} {r : NodeRef} {n : DataNode α}
    (found : s.find c id = some r) (present : s.objects r = some n)
    (required : n.exclusiveAccess = true) (free : id ∉ s.busy c) : s.accessCount r = 0 := by
  unfold State.accessCount
  rw [List.countP_eq_zero]
  intro a member here
  have same : a.node = r := by simpa using here
  subst same
  have manager := marked.captured a member n present
  exact free (marked.mark a member (manager.trans required) c id found)

theorem getNodeAccessor_marked (linked : Linked s []) (marked : Marked s) (c : ClientId)
    (id : DataNodeId) : Marked (getNodeAccessor s c id).2 := by
  rcases getNodeAccessor_cases linked c id with ⟨e, refused⟩ | ⟨r, n, found, present, granted⟩
  · rw [refused]
    exact marked
  · rcases granted with ⟨shared, granted⟩ | ⟨required, free, granted⟩
    · rw [granted]
      constructor
      · intro c' id' r' n' found' present' required'
        have other : r ≠ r' := by
          intro same
          subst same
          have equal : n = n' := Option.some.inj (present.symm.trans present')
          rw [← equal, shared] at required'
          cases required'
        have count := marked.exclusive c' id' r' n' found' present' required'
        simpa [State.accessCount, List.countP_cons, other] using count
      · intro a member n' present'
        rcases List.mem_cons.mp member with same | member
        · subst same
          have equal : n = n' := Option.some.inj (present.symm.trans present')
          rw [← equal, shared]
        · exact marked.captured a member n' present'
      · intro a member manager c' id' found'
        rcases List.mem_cons.mp member with same | member
        · subst same
          cases manager
        · exact marked.mark a member manager c' id' found'
    · rw [granted]
      have none' := marked.unheld_of_free found present required free
      constructor
      · intro c' id' r' n' found' present' required'
        by_cases same : r = r'
        · subst same
          simpa [State.accessCount, List.countP_cons] using none'
        · have count := marked.exclusive c' id' r' n' found' present' required'
          simpa [State.accessCount, List.countP_cons, same] using count
      · intro a member n' present'
        rcases List.mem_cons.mp member with same | member
        · subst same
          have equal : n = n' := Option.some.inj (present.symm.trans present')
          rw [← equal, required]
        · exact marked.captured a member n' present'
      · intro a member manager c' id' found'
        have kept : id' ∈ s.busy c' ∨ (c' = c ∧ id' = id) := by
          rcases List.mem_cons.mp member with same | member
          · subst same
            exact Or.inr (linked.find_injective found' found)
          · exact Or.inl (marked.mark a member manager c' id' found')
        by_cases client : c' = c
        · subst client
          simp only [State.busy, row_update_same, Finset.mem_insert]
          rcases kept with kept | ⟨-, kept⟩
          · exact Or.inr kept
          · exact Or.inl kept
        · simp only [State.busy]
          rw [row_update_ne _ _ client]
          rcases kept with kept | ⟨same, -⟩
          · exact kept
          · exact absurd same client

theorem withoutAccessor_marked (marked : Marked s) (a : Accessor)
    (live : a ∈ s.accessors) (own : ReleasesOwnMark s (.destroyAccessor a)) :
    Marked (withoutAccessor s a) where
  exclusive := by
    intro c id r n found present required
    have count := marked.exclusive c id r n found present required
    exact Nat.le_trans (List.erase_sublist.countP_le) count
  captured := by
    intro b member
    exact marked.captured b (List.mem_of_mem_erase member)
  mark := by
    intro b member manager c id found
    have before : s.find c id = some b.node := found
    have live' : b ∈ s.accessors := List.mem_of_mem_erase member
    apply (mem_releasedMarks s a c id).mpr
    refine ⟨marked.mark b live' manager c id before, ?_⟩
    intro cleared
    rcases cleared with ⟨captured, n, present, client, node⟩
    have own' : s.find n.clientId n.nodeId = some a.node ∨ n.nodeId ∉ s.busy n.clientId := by
      simpa [ReleasesOwnMark, present, captured] using own
    rw [client, node] at own'
    rcases own' with registered | free
    · -- `b` would be a second accessor of the exclusive node of `a`
      have same : b.node = a.node := Option.some.inj (before.symm.trans registered)
      have required : n.exclusiveAccess = true :=
        (marked.captured a live n present).symm.trans captured
      have count := marked.exclusive c id a.node n registered present required
      have split : s.accessCount a.node =
          (s.accessors.erase a).countP (fun b => b.node = a.node) + 1 := by
        unfold State.accessCount
        rw [(List.perm_cons_erase live).countP_eq, List.countP_cons]
        simp
      have other : 0 < (s.accessors.erase a).countP (fun b => b.node = a.node) :=
        List.countP_pos_iff.mpr ⟨b, member, by simpa using same⟩
      omega
    · exact free (marked.mark b live' manager c id before)

theorem Marked.destroy (marked : Marked s) (refs : List NodeRef) :
    Marked (DataManager.destroy s refs) := by
  have same : (DataManager.destroy s refs).accessors = s.accessors := rfl
  apply marked.frame same
  · intro b _ n' present
    simp only [DataManager.destroy] at present
    split at present
    · cases present
    · exact ⟨n', present, rfl⟩
  · intro c id r found _
    exact ⟨found, fun member => member⟩

theorem destroyAccessor_marked (linked : Linked s []) (marked : Marked s) (a : Accessor)
    (own : ReleasesOwnMark s (.destroyAccessor a)) : Marked (destroyAccessor s a).2 := by
  by_cases live : a ∈ s.accessors
  · have marked' := withoutAccessor_marked marked a live own
    rcases destroyAccessor_cases linked a live with ⟨c, id, -, run⟩ | ⟨-, run⟩
    · rw [run]
      exact marked'
    · rw [run]
      exact marked'.destroy [a.node]
  · rw [destroyAccessor, if_neg live]
    exact marked

end Steps

theorem step_marked (s : State α) (event : Step α) (inv : Linked s [] ∧ Marked s)
    (own : ReleasesOwnMark s event) : Linked (step s event) [] ∧ Marked (step s event) := by
  rcases inv with ⟨linked, marked⟩
  refine ⟨step_linked s event linked, ?_⟩
  rcases step_cases linked event with ⟨c, -, -, refused⟩ | ⟨c, id, parent, node, -, -, inserted⟩ |
    ⟨-, ⟨c, id, same⟩ | ⟨c, same⟩ | ⟨c, id, same⟩ | ⟨a, same⟩⟩
  · exact refused.marked marked
  · exact inserted.marked linked marked
  · subst same
    exact deleteNode_marked linked marked c id
  · subst same
    exact (deleteClientNodes_induction Marked c
      (fun s root linked marked => deleteNode_marked linked marked c root) linked marked).2
  · subst same
    exact getNodeAccessor_marked linked marked c id
  · subst same
    exact destroyAccessor_marked linked marked a own

/-- Exclusive nodes have at most one accessor in every run in which no accessor of a deleted node
is destroyed while its client and id are marked busy again. -/
theorem run_exclusiveAccess (events : List (Step α))
    (own : Meets step ReleasesOwnMark init events) : ExclusiveAccess (run step init events) :=
  (run_invariant_of_meets (fun s => Linked s [] ∧ Marked s) step_marked init events
    ⟨init_linked, init_marked⟩ own).2.exclusive

/-- A client uses a node, ends the use and uses it again. -/
theorem exclusiveAccess_reused :
    ExclusiveAccess (run step (init : State Unit)
      [.addNode 0 (some ⟨true, ()⟩), .getNodeAccessor 0 1, .getNodeAccessor 0 1,
        .destroyAccessor ⟨0, true⟩, .getNodeAccessor 0 1]) :=
  run_exclusiveAccess _ (by decide +kernel)

/-- The node is deleted under its accessor, its id is issued again, and the late release of the
first accessor frees the mark of the second node for a third accessor. -/
def staleRelease : List (Step Unit) :=
  [.addNode 0 (some ⟨true, ()⟩), .getNodeAccessor 0 1, .deleteNode 0 1,
    .addNode 0 (some ⟨true, ()⟩), .getNodeAccessor 0 1, .destroyAccessor ⟨0, true⟩,
    .getNodeAccessor 0 1]

theorem staleRelease_shares : ¬ExclusiveAccess (run step init staleRelease) := by
  intro exclusive
  have count := exclusive 0 1 1 _ (by decide +kernel) rfl (by decide +kernel)
  revert count
  decide +kernel

end ScoreCrypto.DataManager
