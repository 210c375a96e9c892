import ScoreCrypto.DataManager.Forest

/-! The objects that are alive, by what they store, and how the operations change their number. -/

namespace ScoreCrypto.DataManager

variable {α : Type}

def State.payload (s : State α) (r : NodeRef) : Option α :=
  (s.objects r).map DataNode.payload

def State.liveCount (s : State α) (p : α → Bool) : Nat :=
  ((List.range s.nextObject).filterMap s.payload).countP p

variable {s : State α}

theorem Linked.payload_none {pending : List NodeRef} (linked : Linked s pending) {r : NodeRef}
    (beyond : s.nextObject ≤ r) : s.payload r = none := by
  unfold State.payload
  cases present : s.objects r with
  | none => rfl
  | some n => exact absurd (linked.allocated r n present) (Nat.not_lt.mpr beyond)

theorem State.liveCount_pos {pending : List NodeRef} (linked : Linked s pending) {p : α → Bool} :
    0 < s.liveCount p ↔ ∃ r a, s.payload r = some a ∧ p a = true := by
  unfold State.liveCount
  rw [List.countP_pos_iff]
  constructor
  · intro ⟨a, member, holds⟩
    rcases List.mem_filterMap.mp member with ⟨r, -, here⟩
    exact ⟨r, a, here, holds⟩
  · intro ⟨r, a, here, holds⟩
    have within : r < s.nextObject := by
      by_contra beyond
      rw [linked.payload_none (Nat.not_lt.mp beyond)] at here
      cases here
    exact ⟨a, List.mem_filterMap.mpr ⟨r, List.mem_range.mpr within, here⟩, holds⟩

/-! ### Insertion -/

section Inserted

variable {s s' : State α} {c : ClientId} {id : DataNodeId} {parent : Option NodeRef}
  {node : NewNode α}

theorem Inserted.payload_eq (inserted : Inserted s s' c id parent node) (r : NodeRef) :
    s'.payload r = if r = s.nextObject then some node.payload else s.payload r := by
  unfold State.payload
  rw [inserted.objects]
  split
  · rfl
  · split
    · cases s.objects r <;> rfl
    · rfl

theorem Inserted.liveCount_eq (inserted : Inserted s s' c id parent node) (p : α → Bool) :
    s'.liveCount p = s.liveCount p + if p node.payload then 1 else 0 := by
  have old : (List.range s.nextObject).filterMap s'.payload =
      (List.range s.nextObject).filterMap s.payload := by
    apply List.filterMap_congr
    intro r member
    rw [inserted.payload_eq, if_neg (Nat.ne_of_lt (List.mem_range.mp member))]
  have new : s'.payload s.nextObject = some node.payload := by
    rw [inserted.payload_eq, if_pos rfl]
  unfold State.liveCount
  rw [inserted.nextObject, List.range_succ, List.filterMap_append, old, List.countP_append]
  simp [new, List.countP_cons]

end Inserted

variable {s s' : State α}

theorem Refused.objects_eq {c : ClientId} (refused : Refused s s' c) :
    s'.objects = s.objects ∧ s'.nextObject = s.nextObject := by
  rcases refused with same | ⟨k, -, same, -⟩
  · rw [same]
    exact ⟨rfl, rfl⟩
  · rw [same]
    exact ⟨rfl, rfl⟩

/-! ### Destruction -/

structure Dropped (s s' : State α) (destroyed : List α) : Prop where
  nextObject : s'.nextObject = s.nextObject
  payload : ∀ r a, s'.payload r = some a → s.payload r = some a
  count : ∀ p, s'.liveCount p + destroyed.countP p = s.liveCount p

theorem Dropped.refl (s : State α) : Dropped s s [] :=
  ⟨rfl, fun _ _ here => here, fun _ => rfl⟩

theorem Dropped.trans {s'' : State α} {first second : List α} (before : Dropped s s' first)
    (after : Dropped s' s'' second) : Dropped s s'' (first ++ second) where
  nextObject := after.nextObject.trans before.nextObject
  payload := fun r a here => before.payload r a (after.payload r a here)
  count := by
    intro p
    rw [List.countP_append, ← before.count p, ← after.count p]
    omega

theorem Dropped.of_same (nextObject : s'.nextObject = s.nextObject)
    (payload : s'.payload = s.payload) : Dropped s s' [] where
  nextObject := nextObject
  payload := fun r a here => by rwa [payload] at here
  count := by
    intro p
    rw [State.liveCount, State.liveCount, nextObject, payload, List.countP_nil, Nat.add_zero]

theorem countP_filterMap_update (l : List NodeRef) (distinct : l.Nodup) (f : NodeRef → Option α)
    (p : α → Bool) {r : NodeRef} (member : r ∈ l) :
    (l.filterMap (Function.update f r none)).countP p + (f r).toList.countP p =
      (l.filterMap f).countP p := by
  have split := List.perm_cons_erase member
  have rest : (l.erase r).filterMap (Function.update f r none) = (l.erase r).filterMap f := by
    apply List.filterMap_congr
    intro q member'
    have other : q ≠ r := fun same =>
      distinct.not_mem_erase (same ▸ member')
    simp [other]
  rw [(split.filterMap f).countP_eq, (split.filterMap (Function.update f r none)).countP_eq]
  cases here : f r with
  | none => simp [here, rest]
  | some a => simp [here, rest, List.countP_cons]

theorem countP_filterMap_erase (l refs : List NodeRef) (distinct : l.Nodup) (single : refs.Nodup)
    (inside : ∀ r ∈ refs, r ∈ l) (f : NodeRef → Option α) (p : α → Bool) :
    (l.filterMap fun r => if r ∈ refs then none else f r).countP p +
      (refs.filterMap f).countP p = (l.filterMap f).countP p := by
  induction refs generalizing f with
  | nil => simp
  | cons r refs ih =>
    rw [List.nodup_cons] at single
    have step := ih single.2 (fun q member => inside q (List.mem_cons_of_mem r member))
      (Function.update f r none)
    have shape : (fun q => if q ∈ refs then none else Function.update f r none q) =
        fun q => if q ∈ r :: refs then none else f q := by
      funext q
      by_cases same : q = r
      · simp [same]
      · simp [same]
    have tail : refs.filterMap (Function.update f r none) = refs.filterMap f := by
      apply List.filterMap_congr
      intro q member
      have other : q ≠ r := fun same => single.1 (same ▸ member)
      simp [other]
    have head := countP_filterMap_update l distinct f p (inside r List.mem_cons_self)
    rw [shape, tail] at step
    have unfolded : ((r :: refs).filterMap f).countP p =
        (f r).toList.countP p + (refs.filterMap f).countP p := by
      cases here : f r with
      | none => simp [here]
      | some a => simp [here, List.countP_cons, Nat.add_comm]
    rw [unfolded]
    omega

theorem dropped_of_refs {refs : List NodeRef}
    (nextObject : s'.nextObject = s.nextObject) (distinct : refs.Nodup)
    (known : ∀ r ∈ refs, r < s.nextObject)
    (payload : ∀ r, s'.payload r = if r ∈ refs then none else s.payload r) :
    Dropped s s' (refs.filterMap s.payload) where
  nextObject := nextObject
  payload := by
    intro r a here
    rw [payload] at here
    split at here
    · cases here
    · exact here
  count := by
    intro p
    have shape : s'.payload = fun r => if r ∈ refs then none else s.payload r := funext payload
    unfold State.liveCount
    rw [nextObject, shape]
    apply countP_filterMap_erase _ _ List.nodup_range distinct
    intro r member
    exact List.mem_range.mpr (known r member)

theorem deleteNode_dropped (linked : Linked s []) (c : ClientId) (id : DataNodeId) :
    Dropped s (deleteNode s c id).state ((deleteNode s c id).destroyed.map DataNode.payload) := by
  rcases deleteNode_cases linked c id with ⟨-, refused⟩ | ⟨gone, s', deleted, done⟩
  · rw [refused]
    exact Dropped.refl s
  · rw [done]
    let refs := (gone.map Prod.snd).reverse.filter fun r => ¬s.Held r
    have member : ∀ r, r ∈ refs ↔ r ∈ gone.map Prod.snd ∧ ¬s.Held r := by
      intro r
      simp [refs]
    have listed : (destroyedNodes s gone).map DataNode.payload = refs.filterMap s.payload := by
      simp only [destroyedNodes, refs, List.map_filterMap, List.filterMap_filter]
      apply List.filterMap_congr
      intro r _
      by_cases held : s.Held r
      · simp [held]
      · cases present : s.objects r <;> simp [held, State.payload, present, DataNode.without]
    rw [listed]
    apply dropped_of_refs deleted.nextObject
    · exact (List.nodup_reverse.mpr (deleted.collected.refs_nodup linked)).filter _
    · intro r here
      rcases List.mem_map.mp ((member r).mp here).1 with ⟨pair, inside, same⟩
      rw [← same]
      exact linked.find_lt (deleted.collected.found pair.1 pair.2 inside)
    · intro r
      unfold State.payload
      rw [deleted.objects]
      by_cases here : r ∈ gone.map Prod.snd ∧ ¬s.Held r
      · rw [if_pos here, if_pos ((member r).mpr here)]
        rfl
      · rw [if_neg here, if_neg (mt (member r).mp here)]
        cases s.objects r <;> rfl

theorem removeEntries_dropped (c : ClientId) (entries : List DataNodeId) (removal : Removal α)
    (linked : Linked removal.state [])
    (before : Dropped s removal.state (removal.destroyed.map DataNode.payload)) :
    Dropped s (removeEntries c entries removal).state
      ((removeEntries c entries removal).destroyed.map DataNode.payload) := by
  induction entries generalizing removal with
  | nil => exact before
  | cons id entries ih =>
    simp only [removeEntries]
    apply ih
    · exact deleteNode_linked linked c id
    · rw [List.map_append]
      exact before.trans (deleteNode_dropped linked c id)

theorem deleteClientNodes_dropped (linked : Linked s []) (c : ClientId) :
    Dropped s (deleteClientNodes s c).state
      ((deleteClientNodes s c).destroyed.map DataNode.payload) := by
  unfold deleteClientNodes
  cases s.entryNodesPerClient c with
  | none => exact Dropped.refl s
  | some entries => exact removeEntries_dropped c entries _ linked (Dropped.refl s)

theorem deleteClientNodes_linked (linked : Linked s []) (c : ClientId) :
    Linked (deleteClientNodes s c).state [] :=
  (deleteClientNodes_induction (fun _ => True) c (fun _ _ _ _ => trivial) linked trivial).1

theorem getNodeAccessor_dropped (linked : Linked s []) (c : ClientId) (id : DataNodeId) :
    Dropped s (getNodeAccessor s c id).2 [] := by
  rcases getNodeAccessor_cases linked c id with ⟨e, run⟩ | ⟨r, n, -, -, ⟨-, run⟩ | ⟨-, -, run⟩⟩ <;>
    rw [run] <;> exact Dropped.of_same rfl rfl

theorem destroyAccessor_dropped (linked : Linked s []) (a : Accessor) :
    Dropped s (destroyAccessor s a).2 ((destroyAccessor s a).1.map DataNode.payload) := by
  by_cases live : a ∈ s.accessors
  · rcases destroyAccessor_cases linked a live with ⟨c, id, -, run⟩ | ⟨-, run⟩
    · rw [run]
      exact Dropped.of_same rfl rfl
    · rw [run]
      have next : (destroy (withoutAccessor s a) [a.node]).nextObject = s.nextObject := rfl
      have left : ∀ r, (destroy (withoutAccessor s a) [a.node]).payload r =
          if r = a.node ∧ ¬(withoutAccessor s a).Held a.node then none else s.payload r := by
        intro r
        have objects : (withoutAccessor s a).objects = s.objects := rfl
        simp only [State.payload, destroy, objects, List.mem_singleton]
        by_cases same : r = a.node
        · rw [same]
          by_cases held : (withoutAccessor s a).Held a.node
          · simp only [held, not_true_eq_false, and_false, if_false]
          · simp only [held, not_false_eq_true, and_self, if_true, Option.map_none]
        · simp only [same, false_and, if_false]
      by_cases held : (withoutAccessor s a).Held a.node
      · simp only [List.filterMap_cons, held, if_true, List.filterMap_nil, List.map_nil]
        apply Dropped.of_same next
        funext r
        rw [left, if_neg (fun gone => gone.2 held)]
      · have listed : ([a.node].filterMap fun r =>
              if (withoutAccessor s a).Held r then none else (withoutAccessor s a).objects r).map
              DataNode.payload = [a.node].filterMap s.payload := by
          simp only [List.filterMap_cons, held, if_false, List.filterMap_nil, State.payload]
          have objects : (withoutAccessor s a).objects = s.objects := rfl
          rw [objects]
          cases s.objects a.node <;> rfl
        rw [listed]
        apply dropped_of_refs next (List.nodup_singleton _)
        · intro r member
          rw [List.mem_singleton.mp member]
          rcases linked.held a live with ⟨n, present⟩
          exact linked.allocated _ n present
        · intro r
          rw [left]
          simp [held]
  · rw [destroyAccessor, if_neg live]
    exact Dropped.refl s

end ScoreCrypto.DataManager
