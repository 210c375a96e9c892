import ScoreCrypto.DataManager.Handles

/-!
How many nodes a client can have. The search for an id gives up after one id more than the limit of
nodes, so it finds one for a client within the limit, and also for one at it; nothing else looks at the
limit.
-/

namespace ScoreCrypto.DataManager

open Table Run

variable {α : Type} {s : State α} {c : ClientId}

def State.nodeCount (s : State α) (c : ClientId) : Nat := (row s.nodeMap c).keys.card

/-! ### The ids that are tried -/

theorem mem_of_findFreeId_none {used : NodeMap} {retries : Nat} {k : DataNodeId}
    (none : (findFreeId used retries k).1 = none) : ∀ i < retries, advanceCounter^[i] k ∈ used := by
  induction retries generalizing k with
  | zero => simp
  | succ retries ih =>
    unfold findFreeId at none
    split at none
    case isTrue taken =>
      intro i below
      cases i with
      | zero => exact taken
      | succ i => exact ih none i (Nat.lt_of_succ_lt_succ below)
    case isFalse => cases none

theorem advanceCounter_iterate {k : Nat} (range : 1 ≤ k ∧ k ≤ 2 ^ 56 - 1) (i : Nat) :
    advanceCounter^[i] k = (k - 1 + i) % (2 ^ 56 - 1) + 1 := by
  induction i with
  | zero =>
    change k = _
    omega
  | succ i ih =>
    have next : (k - 1 + (i + 1)) % (2 ^ 56 - 1) + 1 =
        if (k - 1 + i) % (2 ^ 56 - 1) + 1 + 1 > 2 ^ 56 - 1 then 1
        else (k - 1 + i) % (2 ^ 56 - 1) + 1 + 1 := by split <;> omega
    rw [Function.iterate_succ_apply', ih, next]
    rfl

theorem findFreeId_within {used : NodeMap} {k : Nat} (range : 1 ≤ k ∧ k ≤ dataNodeValueMax)
    (within : used.keys.card ≤ maxNodesPerClient) :
    (findFreeId used (maxNodesPerClient + 1) k).1 ≠ none := by
  intro none
  have tried : ∀ i ∈ Finset.range (maxNodesPerClient + 1), advanceCounter^[i] k ∈ used.keys :=
    fun i below => Finmap.mem_keys.mpr (mem_of_findFreeId_none none i (Finset.mem_range.mp below))
  have distinct : Set.InjOn (fun i => advanceCounter^[i] k) (Finset.range (maxNodesPerClient + 1)) := by
    intro i first j second same
    rw [Finset.coe_range, Set.mem_Iio, maxNodesPerClient] at first second
    have wrapped : (k - 1 + i) % (2 ^ 56 - 1) + 1 = (k - 1 + j) % (2 ^ 56 - 1) + 1 := by
      rwa [← advanceCounter_iterate range, ← advanceCounter_iterate range]
    omega
  have many := Finset.card_le_card_of_injOn _ tried distinct
  rw [Finset.card_range] at many
  omega

theorem issue_of_room (linked : Linked s []) (within : s.nodeCount c ≤ maxNodesPerClient)
    (event : Step α) (asks : asksForId s c event = true) : ∃ id, issue s event = some (c, id) := by
  obtain ⟨k, -, ⟨next, -⟩ | refused⟩ := getNextNodeIdLocked_cases s c (linked.counter_range c)
  · exact ⟨k, issue_of_asks linked next event asks⟩
  · exfalso
    have range : 1 ≤ (s.idCounterPerClient c).getD 1 ∧
        (s.idCounterPerClient c).getD 1 ≤ dataNodeValueMax := by
      cases counter : s.idCounterPerClient c with
      | none => exact ⟨Nat.le_refl 1, by decide⟩
      | some k => exact linked.counter_range c k counter
    unfold getNextNodeIdLocked at refused
    cases nodes : s.nodeMap c with
    | none =>
      rw [nodes] at refused
      cases refused
    | some used =>
      rw [State.nodeCount, row_of_some nodes] at within
      have found := findFreeId_within range within
      rcases search : findFreeId used (maxNodesPerClient + 1) ((s.idCounterPerClient c).getD 1)
        with ⟨_ | id, counter⟩
      · exact found (by rw [search])
      · simp only [nodes, search] at refused
        cases refused

/-! ### Nodes that are added -/

theorem Inserted.nodeCount_eq {s' : State α} {id : DataNodeId} {parent : Option NodeRef}
    {node : NewNode α} (inserted : Inserted s s' c id parent node) :
    s'.nodeCount c = s.nodeCount c + 1 := by
  have keys : (row s'.nodeMap c).keys = insert id (row s.nodeMap c).keys := by
    ext other
    simp only [Finmap.mem_keys, Finset.mem_insert, mem_row_iff, inserted.find, true_and]
    by_cases same : other = id <;> simp [same]
  have new : id ∉ (row s.nodeMap c).keys := by
    simp [Finmap.mem_keys, mem_row_iff, inserted.free]
  rw [State.nodeCount, keys, Finset.card_insert_of_notMem new, State.nodeCount]

theorem nodeCount_le {s' : State α} (kept : ∀ id r, s'.find c id = some r → s.find c id = some r) :
    s'.nodeCount c ≤ s.nodeCount c := by
  refine Finset.card_le_card fun id member => ?_
  rw [Finmap.mem_keys, mem_row_iff] at member ⊢
  exact member.imp fun r => kept id r

theorem step_nodeCount_le (linked : Linked s []) (event : Step α) :
    (step s event).nodeCount c ≤ s.nodeCount c ∨
      asksForId s c event = true ∧ (step s event).nodeCount c = s.nodeCount c + 1 := by
  rcases step_ids linked c event with ⟨id, parent, node, issued, inserted⟩ | ⟨-, kept⟩
  · exact .inr ⟨asks_of_issue linked event id issued, inserted.nodeCount_eq⟩
  · refine .inl (nodeCount_le fun id r found => ?_)
    rcases kept with ⟨-, same⟩ | ⟨-, -, -, same⟩
    · exact same id r found
    · rwa [same] at found

theorem step_nodeCount_eq (linked : Linked s []) (event : Step α)
    (asks : asksForId s c event = true) (within : s.nodeCount c ≤ maxNodesPerClient) :
    (step s event).nodeCount c = s.nodeCount c + 1 := by
  obtain ⟨id, issued⟩ := issue_of_room linked within event asks
  rcases step_ids linked c event with ⟨id', parent, node, -, inserted⟩ | ⟨silent, -⟩
  · exact inserted.nodeCount_eq
  · exact absurd issued (silent id)

/-! ### The limit -/

def answer (s : State α) : Step α → Option (Expected DataNodeId)
  | .addNode c node => some (addNode s c node).1
  | .addChildNode c parentId node => some (addChildNode s c parentId node).1
  | .addSiblingNode c siblingId node => some (addSiblingNode s c siblingId node).1
  | _ => none

theorem answer_of_issue {id : DataNodeId} {event : Step α} (issued : issue s event = some (c, id)) :
    answer s event = some (.ok id) := by
  have ok {result : Expected DataNodeId} {c' : ClientId}
      (same : result.toOption.map (c', ·) = some (c, id)) : some result = some (.ok id) := by
    cases result with
    | ok i =>
      cases same
      rfl
    | error e => cases same
  cases event with
  | addNode | addChildNode | addSiblingNode => exact ok issued
  | _ => cases issued

/-- No client has more nodes than the limit; a node that is asked for is refused for the quota at the
limit and granted below it. -/
def LimitKept (s : State α) : Prop :=
  ∀ c, s.nodeCount c ≤ maxNodesPerClient ∧ ∀ event, asksForId s c event = true →
    if s.nodeCount c < maxNodesPerClient then ∃ id, answer s event = some (.ok id)
    else answer s event = some (.error .quotaExceeded)

theorem limitKept_iff (linked : Linked s []) (node : NewNode α) :
    LimitKept s ↔ ∀ c, s.nodeCount c < maxNodesPerClient := by
  have granted {c : ClientId} {event : Step α} (asks : asksForId s c event = true)
      (within : s.nodeCount c ≤ maxNodesPerClient) : ∃ id, answer s event = some (.ok id) :=
    (issue_of_room linked within event asks).imp fun id issued => answer_of_issue issued
  constructor
  · intro kept c
    by_contra full
    -- nothing compares the number of nodes with the limit
    have asks : asksForId s c (.addNode c (some node)) = true := by simp [asksForId]
    have refused := (kept c).2 _ asks
    obtain ⟨id, accepted⟩ := granted asks (kept c).1
    rw [if_neg full, accepted] at refused
    cases refused
  · intro below c
    refine ⟨Nat.le_of_lt (below c), fun event asks => ?_⟩
    rw [if_pos (below c)]
    exact granted asks (Nat.le_of_lt (below c))

/-- A client does not ask for the node with which it would reach the limit. -/
def Spares (s : State α) (event : Step α) : Prop :=
  ∀ c, asksForId s c event = true → s.nodeCount c + 1 < maxNodesPerClient

theorem run_below (events : List (Step α)) (spares : Meets step Spares init events) (c : ClientId) :
    (run step init events).nodeCount c < maxNodesPerClient := by
  refine (run_invariant_of_meets
    (fun s : State α => Linked s [] ∧ s.nodeCount c < maxNodesPerClient) ?_ init events
    ⟨init_linked, show 0 < 1000 by decide⟩ spares).2
  rintro s event ⟨linked, below⟩ spares
  refine ⟨step_linked s event linked, ?_⟩
  rcases step_nodeCount_le linked event with fewer | ⟨asks, more⟩
  · exact Nat.lt_of_le_of_lt fewer below
  · exact more ▸ spares c asks

/-- In every reachable state a client gets the node it asks for below the limit and also at it, so that
the limit is kept all along a run exactly when no client ever asks for the node with which it reaches
the limit. -/
theorem run_nodeLimit (node : NewNode α) (events : List (Step α)) :
    (∀ c event, asksForId (run step init events) c event = true →
        (run step init events).nodeCount c ≤ maxNodesPerClient →
          ∃ id, answer (run step init events) event = some (.ok id)) ∧
      ((∀ before after, events = before ++ after → LimitKept (run step init before)) ↔
        Meets step Spares init events) := by
  refine ⟨fun c event asks within => ?_, fun kept => ?_, ?_⟩
  · obtain ⟨id, issued⟩ := issue_of_room (run_linked events) within event asks
    exact ⟨id, answer_of_issue issued⟩
  · refine (meets_iff_forall init events).mpr fun before event after same c asks => ?_
    have linked := run_linked before
    have below := (limitKept_iff linked node).mp (kept before _ same) c
    have next := (limitKept_iff (run_linked (before ++ [event])) node).mp
      (kept (before ++ [event]) after (by rw [same, List.append_assoc, List.singleton_append])) c
    rw [run_append] at next
    exact (step_nodeCount_eq linked event asks (Nat.le_of_lt below)) ▸ next
  · rintro spares before after rfl
    exact (limitKept_iff (run_linked before) node).mpr
      (run_below before ((meets_append init before after).mp spares).1)

theorem adder_of_asks {event : Step α} (asks : asksForId s c event = true) :
    event.adder = some c := by
  cases event with
  | addNode | addChildNode | addSiblingNode =>
    simp only [asksForId, Bool.and_eq_true, decide_eq_true_eq] at asks
    simp [Step.adder, asks]
  | _ => cases asks

theorem nodeCount_le_addsBy (events : List (Step α)) (c : ClientId) :
    (run step init events).nodeCount c ≤ addsBy c events := by
  induction events using List.reverseRecOn with
  | nil => exact Nat.le_refl 0
  | append_singleton events event ih =>
    rw [run_append, addsBy, List.countP_append, ← addsBy]
    rcases step_nodeCount_le (c := c) (run_linked events) event with fewer | ⟨asks, more⟩
    · exact Nat.le_trans fewer (Nat.le_trans ih (Nat.le_add_right _ _))
    · simp only [run_cons, run_nil, more, List.countP_singleton, adder_of_asks asks, decide_true,
        if_true]
      omega

theorem spares_of_addsBy {events : List (Step α)}
    (few : ∀ c, addsBy c events < maxNodesPerClient) : Meets step Spares init events := by
  refine (meets_iff_forall init events).mpr fun before event after same c asks => ?_
  have adds := few c
  have held := nodeCount_le_addsBy before c
  rw [same, addsBy, List.countP_append, List.countP_cons_of_pos (by simp [adder_of_asks asks]),
    ← addsBy] at adds
  omega

def addMany (count : Nat) : List (Step Unit) :=
  List.replicate count (.addNode 1 (some ⟨false, ()⟩))

def addAndDelete : List (Step Unit) :=
  [.addNode 1 (some ⟨false, ()⟩), .addChildNode 1 1 (some ⟨false, ()⟩),
    .addNode 1 (some ⟨false, ()⟩), .deleteNode 1 1, .addNode 1 (some ⟨false, ()⟩)]

theorem addAndDelete_limitKept :
    Meets step Spares init addAndDelete ∧ (run step init addAndDelete).nodeCount 1 = 2 ∧
      LimitKept (run step init addAndDelete) := by
  have spares : Meets step Spares init addAndDelete :=
    spares_of_addsBy fun c => Nat.lt_of_le_of_lt List.countP_le_length (by decide)
  refine ⟨spares, by decide +kernel, ?_⟩
  exact (run_nodeLimit ⟨false, ()⟩ addAndDelete).2.mpr spares addAndDelete [] (by simp)

theorem addMany_nodeCount (count : Nat) (few : count ≤ maxNodesPerClient + 1) :
    (run step init (addMany count)).nodeCount 1 = count := by
  induction count with
  | zero => rfl
  | succ count ih =>
    have before := ih (Nat.le_of_succ_le few)
    rw [addMany, List.replicate_succ', run_append, ← addMany]
    have next := step_nodeCount_eq (run_linked (addMany count)) (.addNode 1 (some ⟨false, ()⟩)) rfl
      (before.trans_le (Nat.le_of_succ_le_succ few))
    exact next.trans (congrArg (· + 1) before)

/-- One node more than the limit. -/
theorem addMany_over_limit : (run step init (addMany 1001)).nodeCount 1 = maxNodesPerClient + 1 :=
  addMany_nodeCount 1001 (by decide)

end ScoreCrypto.DataManager
