import ScoreCrypto.DataManager.Removal
import ScoreCrypto.Lib.Forest

/-!
Subtree deletion: the stack walk visits exactly the nodes below its root and lists children before
their parents when reversed, so every removal step meets a node whose children are gone.
-/

namespace ScoreCrypto.DataManager

open Table Forest

variable {α : Type}

def State.childIds (s : State α) (c : ClientId) (id : DataNodeId) : List DataNodeId :=
  match s.find c id with
  | none => []
  | some r => getChildren s r

def State.parentId (s : State α) (c : ClientId) (id : DataNodeId) : Option DataNodeId :=
  ((s.find c id).bind s.parent).bind (getNodeId s)

def State.refOf (s : State α) (c : ClientId) (id : DataNodeId) : NodeRef :=
  (s.find c id).getD 0

def State.Registered (s : State α) (c : ClientId) (id : DataNodeId) : Prop :=
  ∃ r, s.find c id = some r

section Linked

variable {s : State α} {pending : List NodeRef}

section

variable (linked : Linked s pending) (c : ClientId)

include linked c

theorem Linked.mem_childIds (id childId : DataNodeId) :
    childId ∈ s.childIds c id ↔
      ∃ r w, s.find c id = some r ∧ w ∈ s.children r ∧ s.find c childId = some w := by
  unfold State.childIds
  cases found : s.find c id with
  | none => simp
  | some r =>
    simp only [getChildren, List.mem_filterMap, Option.some.injEq, exists_and_left, exists_eq_left']
    constructor
    · rintro ⟨w, member, named⟩
      obtain ⟨-, i, below⟩ := linked.child_link _ _ _ _ found member
      rw [linked.getNodeId below, Option.some.injEq] at named
      exact ⟨w, member, named ▸ below⟩
    · rintro ⟨w, member, below⟩
      exact ⟨w, member, linked.getNodeId below⟩

theorem Linked.childIds_nodup (id : DataNodeId) : (s.childIds c id).Nodup := by
  unfold State.childIds
  cases found : s.find c id with
  | none => exact List.nodup_nil
  | some r =>
    simp only [getChildren]
    rw [List.Nodup, List.pairwise_filterMap]
    refine List.Pairwise.imp_of_mem ?_ (linked.children_nodup r)
    intro v w left right distinct i first j second same
    obtain ⟨-, i', below⟩ := linked.child_link _ _ _ _ found left
    obtain ⟨-, j', below'⟩ := linked.child_link _ _ _ _ found right
    rw [linked.getNodeId below, Option.some.injEq] at first
    rw [linked.getNodeId below', Option.some.injEq] at second
    rw [first, same, ← second, below', Option.some.injEq] at below
    exact distinct below.symm

theorem Linked.parentId_eq_some (id parentId : DataNodeId) (here : s.Registered c id) :
    s.parentId c id = some parentId ↔ s.Registered c parentId ∧ id ∈ s.childIds c parentId := by
  obtain ⟨r, found⟩ := here
  have shape : s.parentId c id = (s.parent r).bind (DataManager.getNodeId s) := by
    simp [State.parentId, found]
  rw [linked.mem_childIds, shape]
  constructor
  · intro named
    obtain ⟨p, link, named⟩ := Option.bind_eq_some_iff.mp named
    obtain ⟨-, member, i, above⟩ := linked.parent_link _ _ _ _ found link
    rw [linked.getNodeId above, Option.some.injEq] at named
    subst named
    exact ⟨⟨p, above⟩, p, r, above, member, found⟩
  · rintro ⟨-, p, w, above, member, found'⟩
    rw [found] at found'
    cases found'
    rw [(linked.child_link _ _ _ _ above member).1, Option.bind_some, linked.getNodeId above]

theorem Linked.parentId_eq_none (id : DataNodeId) :
    id ∈ s.entryNodes c ↔ s.Registered c id ∧ s.parentId c id = none := by
  rw [linked.entry_iff]
  unfold State.parentId State.Registered
  constructor
  · rintro ⟨r, found, root⟩
    exact ⟨⟨r, found⟩, by simp [found, root]⟩
  · rintro ⟨⟨r, found⟩, none'⟩
    refine ⟨r, found, ?_⟩
    cases link : s.parent r with
    | none => rfl
    | some p =>
      obtain ⟨-, -, i, above⟩ := linked.parent_link _ _ _ _ found link
      simp [found, link, linked.getNodeId above] at none'

/-- The nodes of one client form a forest, ranked by the order in which they were created. -/
theorem Linked.linkage :
    Linkage (s.childIds c) (s.parentId c) (s.refOf c) s.nextObject (s.Registered c) where
  closed := by
    intro v w _ kid
    obtain ⟨-, r, -, -, below⟩ := (linked.mem_childIds c v w).mp kid
    exact ⟨r, below⟩
  up_kid := by
    intro v w here kid
    obtain ⟨-, r, -, -, below⟩ := (linked.mem_childIds c v w).mp kid
    exact (linked.parentId_eq_some c w v ⟨r, below⟩).mpr ⟨here, kid⟩
  kid_up := fun v w here link => (linked.parentId_eq_some c w v here).mp link
  rank_lt := by
    intro v w _ kid
    obtain ⟨r, w', above, member, below⟩ := (linked.mem_childIds c v w).mp kid
    have link := (linked.child_link _ _ _ _ above member).1
    have less := (linked.parent_link _ _ _ _ below link).1
    simpa [State.refOf, above, below] using less
  nodup := fun v _ => linked.childIds_nodup c v
  bounded := by
    rintro v ⟨r, found⟩
    simpa [State.refOf, found] using linked.find_lt found

end

end Linked

/-! ### The traversal -/

/-- What the walk from a registered node collects: the nodes below it, children before parents. -/
structure Collected (s : State α) (c : ClientId) (root : DataNodeId)
    (gone : List (DataNodeId × NodeRef)) : Prop where
  nodup : (gone.map Prod.fst).Nodup
  found : ∀ id r, (id, r) ∈ gone → s.find c id = some r
  reached : ∀ id, id ∈ gone.map Prod.fst ↔ Reaches (s.childIds c) root id
  ordered : ∀ before id r after, gone = before ++ (id, r) :: after →
    ∀ w ∈ s.children r, w ∈ before.map Prod.snd

variable {gone : List (DataNodeId × NodeRef)} {s : State α} {c : ClientId} {root : DataNodeId}

theorem Collected.root_mem (collected : Collected s c root gone) : root ∈ gone.map Prod.fst :=
  (collected.reached root).mpr Relation.ReflTransGen.refl

theorem Collected.registered (collected : Collected s c root gone) : s.Registered c root := by
  obtain ⟨⟨id, r⟩, member, rfl⟩ := List.mem_map.mp collected.root_mem
  exact ⟨r, collected.found id r member⟩

theorem Collected.closed (collected : Collected s c root gone) :
    Closed s c gone where
  found := collected.found
  children := by
    intro id r member w child
    obtain ⟨before, after, split⟩ := List.append_of_mem member
    have earlier := collected.ordered before id r after split w child
    rw [split, List.map_append]
    exact List.mem_append_left _ earlier

variable {pending : List NodeRef}

theorem Collected.childrenFirst (collected : Collected s c root gone) (linked : Linked s pending) :
    ChildrenFirst (s.childIds c) (gone.map Prod.fst) := by
  intro before id after split kid child
  obtain ⟨left, right, rfl, rfl, tail⟩ := List.map_eq_append_iff.mp split
  obtain ⟨⟨id', r⟩, rest, rfl, rfl, -⟩ := List.map_eq_cons_iff.mp tail
  obtain ⟨r', w, found, child, below⟩ := (linked.mem_childIds c id' kid).mp child
  have here := collected.found id' r (List.mem_append_right _ List.mem_cons_self)
  rw [here] at found
  cases found
  obtain ⟨⟨kid', w'⟩, earlier, rfl⟩ :=
    List.mem_map.mp (collected.ordered left id' r rest rfl w child)
  have listed := collected.found kid' w' (List.mem_append_left _ earlier)
  rw [(linked.find_injective below listed).2]
  exact List.mem_map_of_mem earlier

theorem collected_of_order (linked : Linked s pending) (c : ClientId) (root : DataNodeId)
    (order : List DataNodeId) (distinct : order.Nodup) (inside : ∀ id ∈ order, s.Registered c id)
    (reached : ∀ id, id ∈ order ↔ Reaches (s.childIds c) root id)
    (first : ChildrenFirst (s.childIds c) order) :
    Collected s c root (order.map fun id => (id, s.refOf c id)) := by
  have keys : (order.map fun id => (id, s.refOf c id)).map Prod.fst = order := by
    simp [List.map_map, Function.comp_def]
  refine ⟨by rw [keys]; exact distinct, ?_, by rw [keys]; exact reached, ?_⟩
  · intro id r member
    obtain ⟨i, present, same⟩ := List.mem_map.mp member
    cases same
    obtain ⟨r, found⟩ := inside id present
    simp [State.refOf, found]
  · intro before id r after split w child
    obtain ⟨left, right, rfl, atLeft, atRight⟩ := List.map_eq_append_iff.mp split
    obtain ⟨i, rest, rfl, same, -⟩ := List.map_eq_cons_iff.mp atRight
    cases same
    obtain ⟨r, found⟩ := inside id (List.mem_append_right _ List.mem_cons_self)
    have ref : s.refOf c id = r := by simp [State.refOf, found]
    rw [ref] at child
    obtain ⟨-, childId, below⟩ := linked.child_link _ _ _ _ found child
    have kid : childId ∈ s.childIds c id :=
      (linked.mem_childIds c id childId).mpr ⟨r, w, found, child, below⟩
    have earlier := first left id rest rfl childId kid
    rw [← atLeft]
    exact List.mem_map.mpr ⟨(childId, s.refOf c childId),
      List.mem_map_of_mem (f := fun id => (id, s.refOf c id)) earlier, by simp [State.refOf, below]⟩

theorem collectNodes_searching (linked : Linked s pending) (here : s.Registered c root) (fuel : Nat)
    (stack seen : List DataNodeId) (search : Searching (s.childIds c) root stack seen)
    (enough : (row s.nodeMap c).keys.card < fuel + seen.length) :
    ∃ order, Searching (s.childIds c) root [] order ∧
      collectNodes s c fuel
          { stack := stack, postOrder := seen.map fun id => (id, s.refOf c id), result := .ok () } =
        { stack := [], postOrder := order.map fun id => (id, s.refOf c id), result := .ok () } := by
  have registered : ∀ id ∈ stack ++ seen, s.Registered c id :=
    fun id member => (linked.linkage c).inside_of_reaches here (search.reached id member)
  induction fuel generalizing stack seen with
  | zero =>
    have subset : seen.toFinset ⊆ (row s.nodeMap c).keys := by
      intro id member
      obtain ⟨r, found⟩ := registered id (List.mem_append_right _ (List.mem_toFinset.mp member))
      exact Finmap.mem_keys.mpr (Finmap.mem_of_lookup_eq_some found)
    have bound := Finset.card_le_card subset
    rw [List.toFinset_card_of_nodup search.distinct.of_append_right] at bound
    omega
  | succ fuel ih =>
    cases stack with
    | nil => exact ⟨seen, search, rfl⟩
    | cons v stack =>
      obtain ⟨r, found⟩ := registered v List.mem_cons_self
      have next := search.visit (linked.linkage c) here
      have kids : s.childIds c v = getChildren s r := by simp [State.childIds, found]
      have ref : s.refOf c v = r := by simp [State.refOf, found]
      obtain ⟨order, done, walked⟩ := ih _ _ next (by simp; omega)
        fun id member => (linked.linkage c).inside_of_reaches here (next.reached id member)
      refine ⟨order, done, ?_⟩
      rw [List.map_cons, ref, kids] at walked
      simpa only [collectNodes, (getNodeLocked_ok_iff s c v r).mpr found] using walked

theorem collectNodes_spec (linked : Linked s pending) (c : ClientId) (root : DataNodeId)
    (here : s.Registered c root) :
    ∃ gone, Collected s c root gone ∧
      collectNodes s c (walkFuel s c) { stack := [root], postOrder := [], result := .ok () } =
        { stack := [], postOrder := gone, result := .ok () } := by
  obtain ⟨order, search, walked⟩ := collectNodes_searching linked here (walkFuel s c) [root] []
    (.start _ root) (Nat.lt_succ_self _)
  refine ⟨_, collected_of_order linked c root order search.distinct (fun id member => ?_)
    search.mem_iff search.opened, walked⟩
  exact (linked.linkage c).inside_of_reaches here (search.reached id member)

/-! ### Removing what was collected -/

theorem removeCollected_spec (linked : Linked s pending) (c : ClientId)
    (gone : List (DataNodeId × NodeRef)) (distinct : (gone.map Prod.fst).Nodup)
    (found : ∀ id r, (id, r) ∈ gone → s.find c id = some r)
    (ordered : ∀ before id r after, gone = before ++ (id, r) :: after →
      ∀ w ∈ s.children r, w ∈ before.map Prod.snd) :
    ∃ s', removeCollected s c gone (.ok ()) = (.ok (), s') ∧ Removed s s' c gone := by
  induction gone generalizing s pending with
  | nil => exact ⟨s, rfl, Removed.refl s c⟩
  | cons head rest ih =>
    obtain ⟨id, r⟩ := head
    rw [List.map_cons, List.nodup_cons] at distinct
    have here := found id r List.mem_cons_self
    have leaf : s.children r = [] := by
      rw [List.eq_nil_iff_forall_not_mem]
      intro w child
      simpa using ordered [] id r rest rfl w child
    obtain ⟨mid, removed, single⟩ := removeSingleNodeFromStorage_spec linked here
    have closed : Closed s c [(id, r)] := by
      constructor
      · intro id' r' member
        cases List.mem_singleton.mp member
        exact here
      · intro id' r' member w child
        cases List.mem_singleton.mp member
        rw [leaf] at child
        cases child
    have found' : ∀ id' r', (id', r') ∈ rest → mid.find c id' = some r' := by
      intro id' r' member
      refine single.find_of (found id' r' (List.mem_cons_of_mem _ member)) ?_
      rintro ⟨-, same⟩
      have equal : id' = id := by simpa using same
      subst equal
      exact distinct.1 (List.mem_map.mpr ⟨(id', r'), member, rfl⟩)
    have ordered' : ∀ before id' r' after, rest = before ++ (id', r') :: after →
        ∀ w ∈ mid.children r', w ∈ before.map Prod.snd := by
      intro before id' r' after split w child
      rw [single.children_eq] at child
      obtain ⟨child, kept⟩ := List.mem_filter.mp child
      have earlier := ordered ((id, r) :: before) id' r' after (by rw [split]; rfl) w child
      rcases List.mem_cons.mp earlier with rfl | earlier
      · simp at kept
      · exact earlier
    obtain ⟨last, run, all⟩ := ih (single.linked_after closed linked) distinct.2 found' ordered'
    refine ⟨last, ?_, single.trans all⟩
    simp only [removeCollected, removed, keepFirst]
    exact run

/-! ### Dropping the last references -/

def State.Held (s : State α) (r : NodeRef) : Prop :=
  ∃ a ∈ s.accessors, a.node = r

instance (s : State α) (r : NodeRef) : Decidable (s.Held r) :=
  inferInstanceAs (Decidable (∃ a ∈ s.accessors, a.node = r))

def Loose (s : State α) (r : NodeRef) : Prop :=
  ∀ n, s.objects r = some n → s.find n.clientId n.nodeId ≠ some r ∧
    ∀ p, n.parent = some p → r ∉ s.children p

def destroy (s : State α) (refs : List NodeRef) : State α :=
  { s with objects := fun r => if r ∈ refs ∧ ¬s.Held r then none else s.objects r }

variable {r : NodeRef}

theorem owned_of_loose {n : DataNode α} (present : s.objects r = some n) (loose : Loose s r) :
    owned s r = true ↔ s.Held r := by
  obtain ⟨unregistered, unlisted⟩ := loose n present
  have orphan : (n.parent.any fun p => decide (r ∈ s.children p)) = false := by
    cases link : n.parent with
    | none => rfl
    | some p => simpa using unlisted p link
  simp [owned, present, unregistered, orphan, State.Held]

theorem Loose.erase {r q : NodeRef} (loose : Loose s r) (other : r ≠ q) :
    Loose { s with objects := Function.update s.objects q none } r := by
  intro n present
  simp only [Function.update_of_ne other] at present
  refine ⟨(loose n present).1, ?_⟩
  intro p link member
  by_cases same : p = q
  · subst same
    simp [State.children] at member
  · refine (loose n present).2 p link ?_
    simpa [State.children, same] using member

theorem destroy_cons_of_kept (stays : s.objects r = none ∨ s.Held r) (refs : List NodeRef) :
    destroy s (r :: refs) = destroy s refs := by
  unfold destroy
  congr 1
  funext q
  by_cases same : q = r
  · subst same
    rcases stays with absent | held
    · simp [absent]
    · simp [held]
  · simp [same]

theorem destroy_cons_of_loose (free : ¬s.Held r) (refs : List NodeRef) :
    destroy { s with objects := Function.update s.objects r none } refs = destroy s (r :: refs) := by
  unfold destroy
  congr 1
  funext q
  by_cases same : q = r
  · subst same
    simp [free]
  · simp [same, State.Held]

theorem dropRefs_spec (s : State α) (refs : List NodeRef) (distinct : refs.Nodup)
    (loose : ∀ r ∈ refs, Loose s r) :
    dropRefs s refs =
      (refs.filterMap fun r => if s.Held r then none else s.objects r, destroy s refs) := by
  induction refs generalizing s with
  | nil => simp [dropRefs, destroy]
  | cons r rest ih =>
    rw [List.nodup_cons] at distinct
    have loose' : ∀ q ∈ rest, Loose s q := fun q member => loose q (List.mem_cons_of_mem _ member)
    unfold dropRefs
    cases present : s.objects r with
    | none =>
      simp only [ih s distinct.2 loose', List.filterMap_cons, present, ite_self,
        destroy_cons_of_kept (.inl present)]
    | some n =>
      have owner := owned_of_loose present (loose r List.mem_cons_self)
      by_cases held : s.Held r
      · simp only [owner.mpr held, if_true, ih s distinct.2 loose', List.filterMap_cons, held,
          destroy_cons_of_kept (.inr held)]
      · have free : owned s r = false := by
          rw [← Bool.not_eq_true, owner]
          exact held
        have next := ih { s with objects := Function.update s.objects r none } distinct.2 (by
          intro q member
          exact (loose' q member).erase (fun same => distinct.1 (same ▸ member)))
        rw [destroy_cons_of_loose held] at next
        simp only [free, Bool.false_eq_true, if_false, next, List.filterMap_cons, held, present,
          Prod.mk.injEq, List.cons.injEq, true_and, and_true]
        refine List.filterMap_congr ?_
        intro q member
        have other : q ≠ r := fun same => distinct.1 (same ▸ member)
        simp only [Function.update_of_ne other]
        rfl

theorem Linked.destroy (linked : Linked s pending)
    (unregistered : ∀ r ∈ pending, ∀ c id, s.find c id ≠ some r) :
    Linked (destroy s pending) [] := by
  have keep : ∀ {c id r}, s.find c id = some r →
      (DataManager.destroy s pending).objects r = s.objects r := by
    intro c id r found
    exact if_neg (fun gone => unregistered r gone.1 c id found)
  have before : ∀ {r n}, (DataManager.destroy s pending).objects r = some n →
      s.objects r = some n ∧ (r ∈ pending → s.Held r) := by
    intro r n present
    simp only [DataManager.destroy] at present
    split at present
    · cases present
    · rename_i stays
      refine ⟨present, fun member => ?_⟩
      by_contra loose
      exact stays ⟨member, loose⟩
  have parents : ∀ {c id r}, s.find c id = some r →
      (DataManager.destroy s pending).parent r = s.parent r := by
    intro c id r found
    rw [State.parent, keep found, State.parent]
  have lists : ∀ {c id r}, s.find c id = some r →
      (DataManager.destroy s pending).children r = s.children r := by
    intro c id r found
    rw [State.children, keep found, State.children]
  exact {
    registered := by
      intro c id r found
      obtain ⟨n, present, client, node⟩ := linked.registered c id r found
      exact ⟨n, (keep found).trans present, client, node⟩
    allocated := fun r n present => linked.allocated r n (before present).1
    detached := by
      intro r n present
      rcases linked.detached r n (before present).1 with found | ⟨empty, waiting | held⟩
      · exact .inl found
      · exact .inr ⟨empty, .inr ((before present).2 waiting)⟩
      · exact .inr ⟨empty, .inr held⟩
    held := by
      intro a member
      obtain ⟨n, present⟩ := linked.held a member
      refine ⟨n, (if_neg ?_).trans present⟩
      rintro ⟨-, loose⟩
      exact loose ⟨a, member, rfl⟩
    id_range := linked.id_range
    counter_range := linked.counter_range
    parent_link := by
      intro c id r p found link
      rw [parents found] at link
      obtain ⟨less, member, parentId, above⟩ := linked.parent_link c id r p found link
      exact ⟨less, (lists above) ▸ member, parentId, above⟩
    child_link := by
      intro c id r w found member
      rw [lists found] at member
      obtain ⟨link, childId, below⟩ := linked.child_link c id r w found member
      exact ⟨(parents below).trans link, childId, below⟩
    children_nodup := by
      intro r
      unfold State.children
      cases present : (DataManager.destroy s pending).objects r with
      | none => exact List.nodup_nil
      | some n =>
        have list := linked.children_nodup r
        simpa [State.children, (before present).1] using list
    entry_iff := by
      intro c id
      rw [show (DataManager.destroy s pending).entryNodes c = s.entryNodes c from rfl,
        linked.entry_iff]
      constructor
      · rintro ⟨r, found, root⟩
        exact ⟨r, found, (parents found).trans root⟩
      · rintro ⟨r, found, root⟩
        exact ⟨r, found, (parents found).symm.trans root⟩
    entry_nodup := linked.entry_nodup
    busy_registered := linked.busy_registered
    entries_full := linked.entries_full
    nodes_full := linked.nodes_full
    busy_full := linked.busy_full }

/-! ### The delete operations -/

theorem Removed.unregistered {s mid : State α} (removed : Removed s mid c gone)
    (closed : Closed s c gone) (linked : Linked s pending) (listed : r ∈ gone.map Prod.snd)
    (c' : ClientId) (id : DataNodeId) : mid.find c' id ≠ some r := by
  intro found
  obtain ⟨before, stays⟩ := removed.find_some found
  exact stays (closed.id_mem linked before listed)

theorem Linked.loose (linked : Linked s pending) (unregistered : ∀ c id, s.find c id ≠ some r) :
    Loose s r := by
  intro n _
  refine ⟨unregistered _ _, ?_⟩
  intro p _ member
  obtain ⟨-, c, -, id, -, found⟩ := (linked.child_iff p r).mp member
  exact unregistered c id found

theorem destroy_reverse (s : State α) (refs : List NodeRef) :
    destroy s refs.reverse = destroy s refs := by
  simp [destroy]

theorem Collected.refs_nodup (collected : Collected s c root gone) (linked : Linked s pending) :
    (gone.map Prod.snd).Nodup := by
  have pairs := collected.nodup
  rw [List.Nodup, List.pairwise_map] at pairs ⊢
  refine List.Pairwise.imp_of_mem ?_ pairs
  rintro ⟨id, r⟩ ⟨id', r'⟩ left right distinct same
  have other : s.find c id' = some r := (collected.found id' r' right).trans (congrArg some same.symm)
  exact distinct (linked.find_injective (collected.found id r left) other).2

/-- From a registered node the walk empties its stack, and exactly the nodes below it leave the
manager; those that no accessor holds are destroyed. -/
theorem removeNodesFromStorage_registered (linked : Linked s []) (here : s.Registered c root) :
    ∃ gone mid, Collected s c root gone ∧ Removed s mid c gone ∧
      collectNodes s c (walkFuel s c) { stack := [root], postOrder := [], result := .ok () } =
        { stack := [], postOrder := gone, result := .ok () } ∧
      removeCollected s c gone (.ok ()) = (.ok (), mid) ∧
      removeNodesFromStorage s c root =
        { result := .ok ()
          destroyed := (gone.map Prod.snd).reverse.filterMap fun r =>
            if mid.Held r then none else mid.objects r
          state := destroy mid (gone.map Prod.snd) } := by
  obtain ⟨gone, collected, walked⟩ := collectNodes_spec linked c root here
  obtain ⟨mid, run, removed⟩ := removeCollected_spec linked c gone collected.nodup
    collected.found collected.ordered
  refine ⟨gone, mid, collected, removed, walked, run, ?_⟩
  have linked' := removed.linked_after collected.closed linked
  have dropped := dropRefs_spec mid (gone.map Prod.snd).reverse
    (List.nodup_reverse.mpr (collected.refs_nodup linked)) (by
      intro q listed
      exact linked'.loose (fun c' id => removed.unregistered collected.closed linked
        (List.mem_reverse.mp listed) c' id))
  rw [destroy_reverse] at dropped
  simp only [removeNodesFromStorage, walked, run, List.map_reverse, dropped]

theorem collectNodes_unknown (found : s.find c root = none) (fuel : Nat) :
    collectNodes s c (fuel + 1) { stack := [root], postOrder := [], result := .ok () } =
      { stack := [], postOrder := [], result := .error .invalidArgument } := by
  have missing := (getNodeLocked_error_iff s c root _).mpr ⟨found, rfl⟩
  cases fuel <;> simp only [collectNodes, missing, keepFirst]

theorem removeNodesFromStorage_cases (linked : Linked s []) (c : ClientId) (root : DataNodeId) :
    (s.find c root = none ∧ removeNodesFromStorage s c root =
        { result := .error .invalidArgument, destroyed := [], state := s }) ∨
      ∃ gone mid, Collected s c root gone ∧ Removed s mid c gone ∧
        removeNodesFromStorage s c root =
          { result := .ok ()
            destroyed := (gone.map Prod.snd).reverse.filterMap fun r =>
              if mid.Held r then none else mid.objects r
            state := destroy mid (gone.map Prod.snd) } := by
  cases found : s.find c root with
  | none =>
    left
    refine ⟨rfl, ?_⟩
    simp only [removeNodesFromStorage, walkFuel, collectNodes_unknown found, removeCollected,
      List.reverse_nil, List.map_nil, dropRefs]
  | some r =>
    obtain ⟨gone, mid, collected, removed, -, -, done⟩ :=
      removeNodesFromStorage_registered linked ⟨r, found⟩
    exact .inr ⟨gone, mid, collected, removed, done⟩

def DataNode.without (n : DataNode α) (gone : List (DataNodeId × NodeRef)) : DataNode α :=
  { n with children := n.children.filter fun w => w ∉ gone.map Prod.snd }

structure Deleted (s s' : State α) (c : ClientId) (root : DataNodeId)
    (gone : List (DataNodeId × NodeRef)) : Prop where
  collected : Collected s c root gone
  objects : ∀ r, s'.objects r =
    if r ∈ gone.map Prod.snd ∧ ¬s.Held r then none else (s.objects r).map (·.without gone)
  nextObject : s'.nextObject = s.nextObject
  find : ∀ c' id, s'.find c' id =
    if c' = c ∧ id ∈ gone.map Prod.fst then none else s.find c' id
  busy : ∀ c' id, id ∈ s'.busy c' ↔ id ∈ s.busy c' ∧ ¬(c' = c ∧ id ∈ gone.map Prod.fst)
  counters : s'.idCounterPerClient = s.idCounterPerClient
  accessors : s'.accessors = s.accessors
  linked : Linked s' []

def destroyedNodes (s : State α) (gone : List (DataNodeId × NodeRef)) : List (DataNode α) :=
  (gone.map Prod.snd).reverse.filterMap fun r =>
    if s.Held r then none else (s.objects r).map (·.without gone)

theorem Removed.held_iff {s mid : State α} (removed : Removed s mid c gone) (r : NodeRef) :
    mid.Held r ↔ s.Held r := by
  rw [State.Held, removed.accessors]
  rfl

theorem deleted_destroy {s mid : State α} (linked : Linked s [])
    (collected : Collected s c root gone) (removed : Removed s mid c gone) :
    Deleted s (destroy mid (gone.map Prod.snd)) c root gone where
  collected := collected
  objects := by
    intro r
    by_cases held : s.Held r
    · simp only [destroy, (removed.held_iff r).mpr held, held, not_true_eq_false, and_false, if_false]
      exact removed.objects r
    · by_cases listed : r ∈ gone.map Prod.snd
      · simp only [destroy, listed, mt (removed.held_iff r).mp held, held, not_false_eq_true,
          and_self, if_true]
      · simp only [destroy, listed, false_and, if_false]
        exact removed.objects r
  nextObject := removed.nextObject
  find := removed.find
  busy := removed.busy
  counters := removed.counters
  accessors := removed.accessors
  linked := by
    have linked' := removed.linked_after collected.closed linked
    rw [List.append_nil] at linked'
    apply linked'.destroy
    intro r listed c' id
    exact removed.unregistered collected.closed linked listed c' id

theorem deleteNode_cases (linked : Linked s []) (c : ClientId) (root : DataNodeId) :
    (s.find c root = none ∧ deleteNode s c root =
        { result := .error .invalidArgument, destroyed := [], state := s }) ∨
      ∃ gone s', Deleted s s' c root gone ∧ deleteNode s c root =
        { result := .ok (), destroyed := destroyedNodes s gone, state := s' } := by
  rcases removeNodesFromStorage_cases linked c root with refused |
    ⟨gone, mid, collected, removed, done⟩
  · exact .inl refused
  · right
    refine ⟨gone, destroy mid (gone.map Prod.snd), deleted_destroy linked collected removed, ?_⟩
    rw [deleteNode, done, destroyedNodes]
    congr 2
    funext r
    rw [removed.objects]
    by_cases held : s.Held r
    · rw [if_pos ((removed.held_iff r).mpr held), if_pos held]
    · rw [if_neg (mt (removed.held_iff r).mp held), if_neg held]
      rfl

section Deleted

variable {s s' : State α} {c : ClientId} {root : DataNodeId} {gone : List (DataNodeId × NodeRef)}

theorem Deleted.find_some (deleted : Deleted s s' c root gone) {c' : ClientId} {id : DataNodeId}
    {r : NodeRef} (found : s'.find c' id = some r) :
    s.find c' id = some r ∧ ¬(c' = c ∧ id ∈ gone.map Prod.fst) := by
  rw [deleted.find] at found
  split at found
  · cases found
  · rename_i stays
    exact ⟨found, stays⟩

theorem Deleted.object_some (deleted : Deleted s s' c root gone) {r : NodeRef} {n : DataNode α}
    (present : s'.objects r = some n) : ∃ m, s.objects r = some m ∧ n = m.without gone := by
  rw [deleted.objects] at present
  split at present
  · cases present
  · rcases Option.map_eq_some_iff.mp present with ⟨m, before, same⟩
    exact ⟨m, before, same.symm⟩

end Deleted

theorem deleteNode_linked (linked : Linked s []) (c : ClientId) (root : DataNodeId) :
    Linked (deleteNode s c root).state [] := by
  rcases deleteNode_cases linked c root with ⟨-, refused⟩ | ⟨gone, s', deleted, done⟩
  · rw [refused]
    exact linked
  · rw [done]
    exact deleted.linked

theorem removeEntries_induction (p : State α → Prop) (c : ClientId)
    (keeps : ∀ s root, Linked s [] → p s → p (deleteNode s c root).state)
    (entries : List DataNodeId) (removal : Removal α) (linked : Linked removal.state [])
    (start : p removal.state) :
    Linked (removeEntries c entries removal).state [] ∧ p (removeEntries c entries removal).state := by
  induction entries generalizing removal with
  | nil => exact ⟨linked, start⟩
  | cons root entries ih =>
    exact ih _ (deleteNode_linked linked c root) (keeps removal.state root linked start)

theorem deleteClientNodes_induction (p : State α → Prop) (c : ClientId)
    (keeps : ∀ s root, Linked s [] → p s → p (deleteNode s c root).state) (linked : Linked s [])
    (start : p s) :
    Linked (deleteClientNodes s c).state [] ∧ p (deleteClientNodes s c).state := by
  unfold deleteClientNodes
  cases s.entryNodesPerClient c with
  | none => exact ⟨linked, start⟩
  | some entries => exact removeEntries_induction p c keeps entries _ linked start

end ScoreCrypto.DataManager
