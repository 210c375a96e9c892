import ScoreCrypto.DataManager.Deletion

/-! Handing out accessors and destroying them. -/

namespace ScoreCrypto.DataManager

open Table

variable {α : Type} {pending : List NodeRef} {s : State α}

theorem getNodeAccessor_cases (linked : Linked s pending) (c : ClientId) (id : DataNodeId) :
    (∃ e, getNodeAccessor s c id = (.error e, s)) ∨
      ∃ r n, s.find c id = some r ∧ s.objects r = some n ∧
        ((n.exclusiveAccess = false ∧ getNodeAccessor s c id =
            (.ok ⟨r, false⟩, { s with accessors := ⟨r, false⟩ :: s.accessors })) ∨
          (n.exclusiveAccess = true ∧ id ∉ s.busy c ∧ getNodeAccessor s c id =
            (.ok ⟨r, true⟩, { s with
              busyNodes := Function.update s.busyNodes c (some (insert id (s.busy c)))
              accessors := ⟨r, true⟩ :: s.accessors }))) := by
  unfold getNodeAccessor
  rw [getNodeLocked_eq]
  cases found : s.find c id with
  | none => exact .inl ⟨_, rfl⟩
  | some r =>
    obtain ⟨n, present, -, -⟩ := linked.registered c id r found
    cases shared : n.exclusiveAccess with
    | false => exact Or.inr ⟨r, n, rfl, present, Or.inl ⟨shared, by simp [present, shared]⟩⟩
    | true =>
      by_cases marked : id ∈ row s.busyNodes c
      · exact Or.inl ⟨.resourceBusy, by simp [present, shared, marked]⟩
      · exact .inr ⟨r, n, rfl, present,
          Or.inr ⟨shared, marked, by simp [present, shared, marked, State.busy]⟩⟩

theorem releaseNodeAccessor_cases (s : State α) (c : ClientId) (id : DataNodeId) :
    (id ∉ s.busy c ∧ releaseNodeAccessor s c id = (.error .invalidArgument, s)) ∨
      (id ∈ s.busy c ∧ releaseNodeAccessor s c id =
        (.ok (), { s with busyNodes := setRow s.busyNodes c ((s.busy c).erase id) })) := by
  unfold releaseNodeAccessor State.busy
  cases marks : s.busyNodes c with
  | none =>
    rw [row_of_none marks]
    exact .inl ⟨Finset.notMem_empty id, rfl⟩
  | some client =>
    rw [row_of_some marks]
    by_cases member : id ∈ client
    · exact Or.inr ⟨member, by simp [member]⟩
    · exact Or.inl ⟨member, by simp [member]⟩

/-- Accessors may come and go over registered nodes, as long as the objects that lose one are
accounted for. -/
theorem Linked.reaccess (linked : Linked s pending)
    (busyNodes : ClientId → Option (Finset DataNodeId)) (accessors : List Accessor)
    (waiting : List NodeRef) (full : NoEmptyRow busyNodes)
    (marks : ∀ c id, id ∈ row busyNodes c → ∃ r, s.find c id = some r)
    (covered : ∀ r, r ∈ pending ∨ s.Held r → r ∈ waiting ∨ ∃ a ∈ accessors, a.node = r)
    (present : ∀ a ∈ accessors, ∃ n, s.objects a.node = some n) :
    Linked { s with busyNodes := busyNodes, accessors := accessors } waiting :=
  { linked with
    detached := by
      intro r n here
      rcases linked.detached r n here with found | ⟨empty, holder⟩
      · exact .inl found
      · exact .inr ⟨empty, covered r holder⟩
    held := present
    busy_registered := marks
    busy_full := full }

theorem getNodeAccessor_linked (linked : Linked s pending) (c : ClientId) (id : DataNodeId) :
    Linked (getNodeAccessor s c id).2 pending := by
  rcases getNodeAccessor_cases linked c id with ⟨e, refused⟩ | ⟨r, n, found, here, granted⟩
  · rw [refused]
    exact linked
  · have present : ∀ (a : Accessor) (manager : Bool), a ∈ ⟨r, manager⟩ :: s.accessors →
        ∃ n, s.objects a.node = some n := by
      intro a manager member
      rcases List.mem_cons.mp member with rfl | member
      · exact ⟨n, here⟩
      · exact linked.held a member
    have covered : ∀ (manager : Bool) (q : NodeRef), q ∈ pending ∨ s.Held q →
        q ∈ pending ∨ ∃ a ∈ (⟨r, manager⟩ : Accessor) :: s.accessors, a.node = q := by
      rintro manager q (waiting | ⟨a, member, rfl⟩)
      · exact .inl waiting
      · exact .inr ⟨a, List.mem_cons_of_mem _ member, rfl⟩
    rcases granted with ⟨-, granted⟩ | ⟨-, -, granted⟩
    · rw [granted]
      exact linked.reaccess s.busyNodes _ pending linked.busy_full linked.busy_registered
        (covered false) (fun a => present a false)
    · rw [granted]
      refine linked.reaccess _ _ pending (noEmptyRow_update linked.busy_full c ?_) ?_
        (covered true) (fun a => present a true)
      · exact Finset.insert_ne_empty id _
      · intro c' id' member
        by_cases client : c' = c
        · subst client
          rw [row_update_same] at member
          rcases Finset.mem_insert.mp member with rfl | member
          · exact ⟨r, found⟩
          · exact linked.busy_registered c' id' member
        · rw [row_update_ne _ _ client] at member
          exact linked.busy_registered c' id' member

/-- The busy marks after the destructor of an accessor ran `releaseNodeAccessor`. -/
def releasedMarks (s : State α) (a : Accessor) : ClientId → Option (Finset DataNodeId) :=
  match s.objects a.node, a.manager with
  | some n, true => (releaseNodeAccessor s n.clientId n.nodeId).2.busyNodes
  | _, _ => s.busyNodes

theorem releasedMarks_full (s : State α) (a : Accessor) (full : NoEmptyRow s.busyNodes) :
    NoEmptyRow (releasedMarks s a) := by
  unfold releasedMarks
  split
  · rename_i n _ _
    rcases releaseNodeAccessor_cases s n.clientId n.nodeId with ⟨-, run⟩ | ⟨-, run⟩
    · rw [run]
      exact full
    · rw [run]
      exact noEmptyRow_setRow full _ _
  · exact full

theorem mem_releasedMarks (s : State α) (a : Accessor) (c : ClientId) (id : DataNodeId) :
    id ∈ row (releasedMarks s a) c ↔ id ∈ s.busy c ∧
      ¬(a.manager = true ∧ ∃ n, s.objects a.node = some n ∧ n.clientId = c ∧ n.nodeId = id) := by
  unfold releasedMarks
  cases here : s.objects a.node with
  | none => simp [State.busy]
  | some n =>
    cases captured : a.manager with
    | false => simp [State.busy]
    | true =>
      simp only [Option.some.injEq, exists_eq_left', true_and]
      rcases releaseNodeAccessor_cases s n.clientId n.nodeId with ⟨free, run⟩ | ⟨-, run⟩
      · rw [run, State.busy, iff_self_and]
        rintro member ⟨rfl, rfl⟩
        exact free member
      · rw [run]
        by_cases client : c = n.clientId
        · subst client
          rw [row_setRow_same, Finset.mem_erase]
          simp [and_comm, eq_comm]
        · rw [row_setRow_ne _ _ client, State.busy]
          simp [Ne.symm client]

def withoutAccessor (s : State α) (a : Accessor) : State α :=
  { s with busyNodes := releasedMarks s a, accessors := s.accessors.erase a }

theorem destroyAccessor_eq (s : State α) (a : Accessor) (live : a ∈ s.accessors) :
    destroyAccessor s a = dropRefs (withoutAccessor s a) [a.node] := by
  unfold destroyAccessor withoutAccessor releasedMarks
  rw [if_pos live]
  cases here : s.objects a.node with
  | none => rfl
  | some n =>
    cases a.manager with
    | false => rfl
    | true =>
      rcases releaseNodeAccessor_cases s n.clientId n.nodeId with ⟨-, run⟩ | ⟨-, run⟩
      · simp only [run]
      · simp only [run]

theorem Linked.settle {r : NodeRef} (linked : Linked s (r :: pending)) {c : ClientId}
    {id : DataNodeId} (found : s.find c id = some r) : Linked s pending :=
  { linked with
    detached := by
      intro q n here
      rcases linked.detached q n here with registered | ⟨empty, waiting | held⟩
      · exact .inl registered
      · rcases List.mem_cons.mp waiting with rfl | waiting
        · obtain ⟨m, here', rfl, rfl⟩ := linked.registered c id q found
          rw [here] at here'
          cases here'
          exact .inl found
        · exact .inr ⟨empty, .inl waiting⟩
      · exact .inr ⟨empty, .inr held⟩ }

theorem withoutAccessor_linked (linked : Linked s []) (a : Accessor) :
    Linked (withoutAccessor s a) [a.node] := by
  refine linked.reaccess _ _ [a.node] (releasedMarks_full s a linked.busy_full) ?_ ?_ ?_
  · intro c id member
    exact linked.busy_registered c id ((mem_releasedMarks s a c id).mp member).1
  · rintro r (none' | ⟨b, member, rfl⟩)
    · cases none'
    · by_cases same : b = a
      · exact Or.inl (by simp [same])
      · exact .inr ⟨b, (List.mem_erase_of_ne same).mpr member, rfl⟩
  · intro b member
    exact linked.held b (List.mem_of_mem_erase member)

theorem destroyAccessor_cases (linked : Linked s []) (a : Accessor) (live : a ∈ s.accessors) :
    (∃ c id, s.find c id = some a.node ∧ destroyAccessor s a = ([], withoutAccessor s a)) ∨
      ((∀ c id, s.find c id ≠ some a.node) ∧
        destroyAccessor s a =
          ([a.node].filterMap fun r =>
              if (withoutAccessor s a).Held r then none else (withoutAccessor s a).objects r,
            destroy (withoutAccessor s a) [a.node])) := by
  have waiting := withoutAccessor_linked linked a
  rw [destroyAccessor_eq s a live]
  by_cases registered : ∃ c id, s.find c id = some a.node
  · obtain ⟨c, id, found⟩ := registered
    left
    refine ⟨c, id, found, ?_⟩
    have found' : (withoutAccessor s a).find c id = some a.node := found
    obtain ⟨n, here, rfl, rfl⟩ := waiting.registered c id _ found'
    have owner : owned (withoutAccessor s a) a.node = true := by
      simp [owned, here, found']
    simp [dropRefs, here, owner]
  · right
    have unregistered : ∀ c id, s.find c id ≠ some a.node :=
      fun c id found => registered ⟨c, id, found⟩
    refine ⟨unregistered, dropRefs_spec _ [a.node] (List.nodup_singleton _) ?_⟩
    intro r member
    cases List.mem_singleton.mp member
    exact waiting.loose unregistered

theorem destroyAccessor_linked (linked : Linked s []) (a : Accessor) :
    Linked (destroyAccessor s a).2 [] := by
  by_cases live : a ∈ s.accessors
  · have waiting := withoutAccessor_linked linked a
    rcases destroyAccessor_cases linked a live with ⟨c, id, found, run⟩ | ⟨unregistered, run⟩
    · rw [run]
      exact waiting.settle found
    · rw [run]
      refine waiting.destroy ?_
      intro r member c id
      cases List.mem_singleton.mp member
      exact unregistered c id
  · rw [destroyAccessor, if_neg live]
    exact linked

end ScoreCrypto.DataManager
