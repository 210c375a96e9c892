import ScoreCrypto.DataManager.Forest

/-!
The ids a client is given. The counter of a client stays on the id issued last and moves on only
when the next add finds that id in use, so an id is issued again after its node was deleted.
-/

namespace ScoreCrypto.DataManager

open Table Run

variable {α : Type}

/-- The ids returned to the client along a run, each with the node it was issued for. -/
def issuedNodes (c : ClientId) : State α → List (Step α) → List (DataNodeId × NodeRef)
  | _, [] => []
  | s, event :: events =>
    (match issue s event with
      | some (c', id) => if c' = c then [(id, s.nextObject)] else []
      | none => []) ++ issuedNodes c (step s event) events

def issuedBy (c : ClientId) (s : State α) (events : List (Step α)) : List DataNodeId :=
  (issuedNodes c s events).map Prod.fst

def addsBy (c : ClientId) (events : List (Step α)) : Nat :=
  events.countP fun event => event.adder = some c

/-- No add returns an id that an earlier add of the client returned, and an id that named a node
of the client never names another one. -/
def HandlesNotRecycled (c : ClientId) (events : List (Step α)) : Prop :=
  (issuedBy c init events).Nodup ∧
    ∀ before after, events = before ++ after → ∀ id r r',
      (run step init before).find c id = some r → (run step init events).find c id = some r' → r = r'

def asksForId (s : State α) (c : ClientId) : Step α → Bool
  | .addNode c' node => c' = c && node.isSome
  | .addChildNode c' parentId node => c' = c && node.isSome && (s.find c parentId).isSome
  | .addSiblingNode c' siblingId node =>
    c' = c && node.isSome && ((s.find c siblingId).bind s.parent).isSome
  | _ => false

/-- A new id is only asked for while the node with the id issued last is still registered. -/
def KeepsLast (c : ClientId) (s : State α) (event : Step α) : Prop :=
  asksForId s c event = true →
    match s.idCounterPerClient c with
    | none => True
    | some last => (s.find c last).isSome = true

instance (c : ClientId) (s : State α) (event : Step α) : Decidable (KeepsLast c s event) := by
  unfold KeepsLast
  split <;> infer_instance

def nextId (s : State α) (c : ClientId) : DataNodeId :=
  match s.idCounterPerClient c with
  | none => 1
  | some last => if (s.find c last).isSome then last + 1 else last

def Counting (s : State α) (c : ClientId) : Prop :=
  ∀ id r, s.find c id = some r → ∃ last, s.idCounterPerClient c = some last ∧ id ≤ last

section Issue

variable {s : State α} {c : ClientId}

theorem findFreeId_free (used : NodeMap) (retries : Nat) (k : DataNodeId) (free : k ∉ used) :
    findFreeId used (retries + 1) k = (some k, k) := by
  simp [findFreeId, free]

theorem mem_row_iff {id : DataNodeId} :
    id ∈ row s.nodeMap c ↔ ∃ r, s.find c id = some r := by
  rw [State.find, ← Option.isSome_iff_exists, Finmap.lookup_isSome]

theorem findFreeId_counting (counting : Counting s c)
    (below : ∀ last, s.idCounterPerClient c = some last → last < dataNodeValueMax) :
    findFreeId (row s.nodeMap c) (maxNodesPerClient + 1) ((s.idCounterPerClient c).getD 1) =
      (some (nextId s c), nextId s c) := by
  unfold nextId
  cases counter : s.idCounterPerClient c with
  | none =>
    refine findFreeId_free _ _ 1 fun taken => ?_
    rcases mem_row_iff.mp taken with ⟨r, found⟩
    rcases counting 1 r found with ⟨last, known, -⟩
    cases counter.symm.trans known
  | some last =>
    simp only [Option.getD_some]
    split
    case isTrue taken =>
      have next : advanceCounter last = last + 1 := if_neg (Nat.not_lt.mpr (below last counter))
      rw [findFreeId, if_pos (mem_row_iff.mpr (Option.isSome_iff_exists.mp taken)), next]
      refine findFreeId_free _ 999 _ fun again => ?_
      rcases mem_row_iff.mp again with ⟨r, found⟩
      rcases counting (last + 1) r found with ⟨last', known, less⟩
      cases counter.symm.trans known
      exact Nat.not_succ_le_self last less
    case isFalse free =>
      exact findFreeId_free _ _ last fun taken => free (Option.isSome_iff_exists.mpr (mem_row_iff.mp taken))

theorem getNextNodeIdLocked_counting (counting : Counting s c)
    (below : ∀ last, s.idCounterPerClient c = some last → last < dataNodeValueMax) :
    getNextNodeIdLocked s c = (.ok (nextId s c), setCounter s c (nextId s c)) := by
  have search := findFreeId_counting counting below
  unfold getNextNodeIdLocked
  cases nodes : s.nodeMap c with
  | none =>
    rw [row_of_none nodes, findFreeId_free _ _ _ Finmap.notMem_empty] at search
    simp only [(Prod.mk.inj search).2]
  | some used =>
    rw [row_of_some nodes] at search
    simp only [search]

theorem issue_of_asks (linked : Linked s []) {id : DataNodeId} {after : State α}
    (next : getNextNodeIdLocked s c = (.ok id, after)) (event : Step α)
    (asks : asksForId s c event = true) : issue s event = some (c, id) := by
  cases event with
  | addNode c' node =>
    cases node with
    | none => simp [asksForId] at asks
    | some object =>
      obtain rfl : c' = c := by simpa [asksForId] using asks
      simp [issue, addNode, next, Except.toOption]
  | addChildNode c' parentId node =>
    cases node with
    | none => simp [asksForId] at asks
    | some object =>
      obtain ⟨rfl, p, found⟩ : c' = c ∧ ∃ p, s.find c parentId = some p := by
        simpa [asksForId, Option.isSome_iff_exists] using asks
      simp [issue, addChildNode, getNodeLocked_eq, found, insertBelow, next, Except.toOption]
  | addSiblingNode c' siblingId node =>
    cases node with
    | none => simp [asksForId] at asks
    | some object =>
      obtain ⟨rfl, p, r, found, link⟩ :
          c' = c ∧ ∃ p r, s.find c siblingId = some r ∧ s.parent r = some p := by
        simpa [asksForId, Option.isSome_iff_exists, Option.bind_eq_some_iff] using asks
      rcases linked.getParent found with ⟨orphan, -⟩ | ⟨p', parentId, -, above, parentOk⟩
      · cases link.symm.trans orphan
      · simp [issue, addSiblingNode, getNodeLocked_eq, found, parentOk, above, insertBelow, next,
          Except.toOption]
  | _ => cases asks

theorem asks_of_issue (linked : Linked s []) (event : Step α) (id : DataNodeId)
    (issued : issue s event = some (c, id)) : asksForId s c event = true := by
  cases event with
  | addNode c' node =>
    cases node with
    | none => simp [issue, addNode, Except.toOption] at issued
    | some object =>
      rcases Option.map_eq_some_iff.mp issued with ⟨i, -, same⟩
      cases same
      simp [asksForId]
  | addChildNode c' parentId node =>
    cases node with
    | none => simp [issue, addChildNode, Except.toOption] at issued
    | some object =>
      rcases Option.map_eq_some_iff.mp issued with ⟨i, returned, same⟩
      cases same
      cases found : s.find c parentId with
      | none => simp [addChildNode, getNodeLocked_eq, found, Except.toOption] at returned
      | some p => simp [asksForId, found]
  | addSiblingNode c' siblingId node =>
    cases node with
    | none => simp [issue, addSiblingNode, Except.toOption] at issued
    | some object =>
      rcases Option.map_eq_some_iff.mp issued with ⟨i, returned, same⟩
      cases same
      cases found : s.find c siblingId with
      | none => simp [addSiblingNode, getNodeLocked_eq, found, Except.toOption] at returned
      | some r =>
        rcases linked.getParent found with ⟨-, orphan⟩ | ⟨p, parentId, link, -, -⟩
        · simp [addSiblingNode, getNodeLocked_eq, found, orphan, Except.toOption] at returned
        · simp [asksForId, found, link]
  | _ => cases issued

end Issue

/-! ### What a step does to the ids of one client -/

def SameIds (c : ClientId) (s s' : State α) : Prop :=
  s'.idCounterPerClient c = s.idCounterPerClient c ∧
    ∀ id r, s'.find c id = some r → s.find c id = some r

variable {s : State α}

theorem SameIds.refl (c : ClientId) (s : State α) : SameIds c s s :=
  ⟨rfl, fun _ _ found => found⟩

theorem deleteNode_sameIds (linked : Linked s []) (c c' : ClientId) (root : DataNodeId) :
    SameIds c s (deleteNode s c' root).state := by
  rcases deleteNode_cases linked c' root with ⟨-, refused⟩ | ⟨gone, s', deleted, done⟩
  · exact refused ▸ .refl c s
  · rw [done]
    exact ⟨congrFun deleted.counters c, fun id r found => (deleted.find_some found).1⟩

theorem destroyAccessor_sameIds (linked : Linked s []) (c : ClientId) (a : Accessor) :
    SameIds c s (destroyAccessor s a).2 := by
  by_cases live : a ∈ s.accessors
  · rcases destroyAccessor_cases linked a live with ⟨-, -, -, run⟩ | ⟨-, run⟩
    · exact run ▸ .refl c s
    · exact run ▸ .refl c s
  · rw [destroyAccessor, if_neg live]
    exact .refl c s

theorem getNodeAccessor_sameIds (linked : Linked s []) (c c' : ClientId) (id : DataNodeId) :
    SameIds c s (getNodeAccessor s c' id).2 := by
  rcases getNodeAccessor_cases linked c' id with ⟨e, run⟩ | ⟨r, n, -, -, ⟨-, run⟩ | ⟨-, -, run⟩⟩
  · exact run ▸ .refl c s
  · exact run ▸ .refl c s
  · exact run ▸ .refl c s

theorem step_ids (linked : Linked s []) (c : ClientId) (event : Step α) :
    (∃ id parent node, issue s event = some (c, id) ∧
        Inserted s (step s event) c id parent node) ∨
      ((∀ id, issue s event ≠ some (c, id)) ∧
        (SameIds c s (step s event) ∨ event.adder = some c ∧
          ∃ s', getNextNodeIdLocked s c = (.error .quotaExceeded, s') ∧
            ∀ id, (step s event).find c id = s.find c id)) := by
  rcases step_cases linked event with ⟨c', adder, silent, refused⟩ |
    ⟨c', id, parent, node, -, issued, inserted⟩ |
    ⟨silent, ⟨c', id, same⟩ | ⟨c', same⟩ | ⟨c', id, same⟩ | ⟨a, same⟩⟩
  · right
    refine ⟨by simp [silent], ?_⟩
    rcases refused with same | ⟨k, -, same, quota⟩
    · rw [same]
      exact .inl (.refl c s)
    · by_cases client : c' = c
      · subst client
        refine .inr ⟨adder, _, quota, fun id => ?_⟩
        rw [same]
        rfl
      · rw [same]
        exact Or.inl ⟨by simp [setCounter, Ne.symm client], fun _ _ found => found⟩
  · by_cases client : c' = c
    · subst client
      exact .inl ⟨id, parent, node, issued, inserted⟩
    · right
      refine ⟨?_, .inl ⟨?_, ?_⟩⟩
      · intro i same
        rw [issued] at same
        cases same
        exact client rfl
      · rw [inserted.counters, Function.update_of_ne (Ne.symm client)]
      · intro i r found
        rw [inserted.find, if_neg (fun here => client here.1.symm)] at found
        exact found
  · subst same
    exact Or.inr ⟨by simp [silent], Or.inl (deleteNode_sameIds linked c c' id)⟩
  · subst same
    refine Or.inr ⟨by simp [silent], Or.inl ?_⟩
    apply (deleteClientNodes_induction (SameIds c s) c' _ linked (.refl c s)).2
    intro mid root linked' same
    have next := deleteNode_sameIds linked' c c' root
    exact ⟨next.1.trans same.1, fun i r found => same.2 i r (next.2 i r found)⟩
  · subst same
    exact Or.inr ⟨by simp [silent], Or.inl (getNodeAccessor_sameIds linked c c' id)⟩
  · subst same
    exact Or.inr ⟨by simp [silent], Or.inl (destroyAccessor_sameIds linked c a)⟩

theorem find_issued (c : ClientId) (events : List (Step α)) (s : State α) (linked : Linked s [])
    (id : DataNodeId) (r : NodeRef) (found : (run step s events).find c id = some r) :
    s.find c id = some r ∨ (id, r) ∈ issuedNodes c s events := by
  induction events generalizing s with
  | nil => exact .inl found
  | cons event events ih =>
    rcases ih (step s event) (step_linked s event linked) found with before | later
    · rcases step_ids linked c event with ⟨i, parent, node, issued, inserted⟩ | ⟨-, kept⟩
      · rcases inserted.find_old linked before with ⟨-, same, new⟩ | ⟨-, old⟩
        · right
          simp [issuedNodes, issued, same, new]
        · exact .inl old
      · rcases kept with ⟨-, same⟩ | ⟨-, -, -, same⟩
        · exact .inl (same id r before)
        · rw [same] at before
          exact .inl before
    · right
      rw [issuedNodes]
      exact List.mem_append_right _ later

theorem issuedNodes_append (c : ClientId) (s : State α) (first second : List (Step α)) :
    issuedNodes c s (first ++ second) =
      issuedNodes c s first ++ issuedNodes c (run step s first) second := by
  induction first generalizing s with
  | nil => rfl
  | cons event events ih => simp [issuedNodes, ih]

theorem stale_of_nodup (c : ClientId) (events : List (Step α))
    (distinct : (issuedBy c init events).Nodup) (before after : List (Step α))
    (split : events = before ++ after) (id : DataNodeId) (r r' : NodeRef)
    (early : (run step init before).find c id = some r)
    (late : (run step init events).find c id = some r') : r = r' := by
  have none' : ∀ q, (init : State α).find c id ≠ some q := by simp [find_init]
  have first : (id, r) ∈ issuedNodes c init events := by
    rw [split, issuedNodes_append]
    exact List.mem_append_left _
      ((find_issued c before init init_linked id r early).resolve_left (none' r))
  have second : (id, r') ∈ issuedNodes c init events :=
    (find_issued c events init init_linked id r' late).resolve_left (none' r')
  have equal := List.inj_on_of_nodup_map distinct first second rfl
  exact congrArg Prod.snd equal

theorem nextId_cases (s : State α) (c : ClientId) :
    nextId s c = (s.idCounterPerClient c).getD 0 + 1 ∨ s.idCounterPerClient c = some (nextId s c) := by
  unfold nextId
  cases s.idCounterPerClient c with
  | none => exact .inl rfl
  | some last => by_cases here : (s.find c last).isSome = true <;> simp [here]

variable {c : ClientId}

theorem Inserted.counting {s s' : State α} {parent : Option NodeRef}
    {node : NewNode α} (inserted : Inserted s s' c (nextId s c) parent node)
    (linked : Linked s []) (counting : Counting s c) : Counting s' c := by
  intro id r found
  refine ⟨nextId s c, by simp [inserted.counters], ?_⟩
  rcases inserted.find_old linked found with ⟨-, same, -⟩ | ⟨-, old⟩
  · exact Nat.le_of_eq same
  · rcases counting id r old with ⟨last, counter, less⟩
    rcases nextId_cases s c with next | next
    · rw [next, counter]
      exact Nat.le_succ_of_le less
    · cases counter.symm.trans next
      exact less

theorem sameIds_of_silent (linked : Linked s []) (c : ClientId) (event : Step α)
    (counting : Counting s c) (asks : asksForId s c event ≠ true) (below : event.adder = some c →
      ∀ last, s.idCounterPerClient c = some last → last < dataNodeValueMax) :
    (∀ id, issue s event ≠ some (c, id)) ∧ SameIds c s (step s event) := by
  rcases step_ids linked c event with ⟨id, -, -, issued, -⟩ | ⟨silent, kept | ⟨adder, s', quota, -⟩⟩
  · exact absurd (asks_of_issue linked event id issued) asks
  · exact ⟨silent, kept⟩
  · rw [getNextNodeIdLocked_counting counting (below adder)] at quota
    cases quota

variable {event : Step α}

theorem asks_adder (asks : asksForId s c event = true) :
    event.adder = some c := by
  cases event <;> simp_all [asksForId, Step.adder]

theorem keepsLast_iff (asks : asksForId s c event = true) :
    KeepsLast c s event ↔ nextId s c = (s.idCounterPerClient c).getD 0 + 1 := by
  unfold KeepsLast nextId
  cases s.idCounterPerClient c with
  | none => simp
  | some last => by_cases here : (s.find c last).isSome = true <;> simp [asks, here]

theorem addsBy_cons (c : ClientId) (event : Step α) (events : List (Step α)) :
    addsBy c (event :: events) = addsBy c events + if event.adder = some c then 1 else 0 := by
  simp [addsBy, List.countP_cons]

theorem issuedBy_of_issue {id : DataNodeId}
    (issued : issue s event = some (c, id)) (events : List (Step α)) :
    issuedBy c s (event :: events) = id :: issuedBy c (step s event) events := by
  simp [issuedBy, issuedNodes, issued]

theorem issuedBy_of_silent
    (silent : ∀ id, issue s event ≠ some (c, id)) (events : List (Step α)) :
    issuedBy c s (event :: events) = issuedBy c (step s event) events := by
  cases issued : issue s event with
  | none => simp [issuedBy, issuedNodes, issued]
  | some pair =>
    have other : pair.1 ≠ c := fun same => silent pair.2 (by rw [issued, ← same])
    simp [issuedBy, issuedNodes, issued, other]

/-- With fewer adds than ids, the ids issued are consecutive if every add finds the last id in
use, and some id is issued twice if one does not. -/
theorem issuedBy_consecutive (c : ClientId) (events : List (Step α)) (s : State α)
    (linked : Linked s []) (counting : Counting s c)
    (few : (s.idCounterPerClient c).getD 0 + addsBy c events ≤ dataNodeValueMax) :
    (Meets step (KeepsLast c) s events → issuedBy c s events =
        List.range' ((s.idCounterPerClient c).getD 0 + 1) (issuedBy c s events).length) ∧
      (((s.idCounterPerClient c).toList ++ issuedBy c s events).Nodup →
        Meets step (KeepsLast c) s events) := by
  induction events generalizing s with
  | nil => exact ⟨fun _ => rfl, fun _ => trivial⟩
  | cons event events ih =>
    rw [addsBy_cons] at few
    have below : event.adder = some c →
        ∀ last, s.idCounterPerClient c = some last → last < dataNodeValueMax := by
      intro adder last counter
      rw [if_pos adder, counter, Option.getD_some] at few
      exact Nat.lt_of_lt_of_le (Nat.lt_add_of_pos_right (Nat.succ_pos _)) few
    by_cases asks : asksForId s c event = true
    · have adder := asks_adder asks
      have issued := issue_of_asks linked (getNextNodeIdLocked_counting counting (below adder)) event asks
      rcases step_ids linked c event with ⟨id, parent, node, issued', inserted⟩ | ⟨silent, -⟩
      · cases issued.symm.trans issued'
        have counter : (step s event).idCounterPerClient c = some (nextId s c) := by
          simp [inserted.counters]
        have few' : nextId s c + addsBy c events ≤ dataNodeValueMax := by
          rw [if_pos adder] at few
          rcases nextId_cases s c with next | next
          · rwa [next, Nat.add_assoc, Nat.add_comm 1]
          · rw [next, Option.getD_some] at few
            exact Nat.le_of_succ_le few
        have tail := ih (step s event) (step_linked s event linked) (inserted.counting linked counting)
        rw [counter, Option.getD_some] at tail
        rw [issuedBy_of_issue issued]
        refine ⟨fun keeps => ?_, fun distinct => ⟨(keepsLast_iff asks).mpr ?_, (tail few').2 ?_⟩⟩
        · rw [List.length_cons, List.range'_succ, ← (keepsLast_iff asks).mp keeps.1,
            ← (tail few').1 keeps.2]
        · refine (nextId_cases s c).resolve_right fun again => ?_
          rw [again] at distinct
          simp at distinct
        · exact (List.nodup_append.mp distinct).2.1
      · exact absurd issued (silent _)
    · rcases sameIds_of_silent linked c event counting asks below with ⟨silent, counter, kept⟩
      have tail := ih (step s event) (step_linked s event linked)
        fun id r found => counter ▸ counting id r (kept id r found)
      rw [counter] at tail
      rw [issuedBy_of_silent silent]
      have few' := Nat.le_trans (Nat.add_le_add_left (Nat.le_add_right _ _) _) few
      exact ⟨fun keeps => (tail few').1 keeps.2,
        fun distinct => ⟨fun here => absurd here asks, (tail few').2 distinct⟩⟩

/-- With no more adds than there are ids, handles are not recycled exactly in the runs where every
add finds the node with the client's last id still registered. -/
theorem handlesNotRecycled_iff (c : ClientId) (events : List (Step α))
    (few : addsBy c events ≤ dataNodeValueMax) :
    HandlesNotRecycled c events ↔ Meets step (KeepsLast c) init events := by
  have spec := issuedBy_consecutive c events init init_linked
    (fun id r found => by rw [find_init] at found; cases found) (by simpa [init] using few)
  constructor
  · intro unique
    exact spec.2 (by simpa [init] using unique.1)
  · intro keeps
    have distinct : (issuedBy c init events).Nodup := by
      rw [spec.1 keeps]
      exact List.nodup_range'
    exact ⟨distinct, fun before after split id r r' => stale_of_nodup c events distinct before after
      split id r r'⟩

/-- Two adds in a row. -/
theorem handlesNotRecycled_twice :
    HandlesNotRecycled 0 [.addNode 0 (some ⟨true, ()⟩), .addChildNode 0 1 (some ⟨true, ()⟩)] :=
  (handlesNotRecycled_iff 0 _ (by decide)).mpr (by decide +kernel)

/-- The id of a deleted node is issued to the next one. -/
theorem handles_recycled_after_delete :
    addsBy 0 [.addNode 0 (some ⟨true, ()⟩), .deleteNode 0 1, .addNode 0 (some ⟨true, ()⟩)] <
        dataNodeValueMax ∧
      ¬HandlesNotRecycled 0
        [.addNode 0 (some ⟨true, ()⟩), .deleteNode 0 1, .addNode 0 (some ⟨true, ()⟩)] := by
  refine ⟨by decide, fun unique => ?_⟩
  have twice : issuedBy 0 init [.addNode 0 (some ⟨true, ()⟩), .deleteNode 0 1,
      .addNode 0 (some ⟨true, ()⟩)] = [1, 1] := by
    decide +kernel
  have distinct := unique.1
  rw [twice] at distinct
  simp at distinct

end ScoreCrypto.DataManager
