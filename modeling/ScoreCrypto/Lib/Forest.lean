import Mathlib.Data.List.Basic
import Mathlib.Data.List.Nodup
import Mathlib.Logic.Relation
import Mathlib.Tactic

/-! Rooted trees spelled by child lists, and the order in which a stack visits them. -/

namespace ScoreCrypto.Forest

inductive RoseTree (V : Type) where
  | node (root : V) (children : List (RoseTree V))

variable {V : Type}

def RoseTree.root : RoseTree V → V
  | .node v _ => v

def RoseTree.children : RoseTree V → List (RoseTree V)
  | .node _ ts => ts

mutual
def vertices : RoseTree V → List V
  | .node v ts => v :: forestVertices ts
def forestVertices : List (RoseTree V) → List V
  | [] => []
  | t :: ts => vertices t ++ forestVertices ts
end

mutual
/-- Every vertex of the tree has exactly the listed vertices as its children, in order. -/
def Follows (kids : V → List V) : RoseTree V → Prop
  | .node v ts => ts.map RoseTree.root = kids v ∧ FollowsAll kids ts
def FollowsAll (kids : V → List V) : List (RoseTree V) → Prop
  | [] => True
  | t :: ts => Follows kids t ∧ FollowsAll kids ts
end

def Reaches (kids : V → List V) : V → V → Prop :=
  Relation.ReflTransGen (fun v w => w ∈ kids v)

/-- Parent links and child lists that agree on the vertices in `inside`, with ranks that
grow from parent to child and stay below `limit`. -/
structure Linkage (kids : V → List V) (up : V → Option V) (rank : V → Nat) (limit : Nat)
    (inside : V → Prop) : Prop where
  closed : ∀ v w, inside v → w ∈ kids v → inside w
  up_kid : ∀ v w, inside v → w ∈ kids v → up w = some v
  kid_up : ∀ v w, inside w → up w = some v → inside v ∧ w ∈ kids v
  rank_lt : ∀ v w, inside v → w ∈ kids v → rank v < rank w
  nodup : ∀ v, inside v → (kids v).Nodup
  bounded : ∀ v, inside v → rank v < limit

theorem mem_forestVertices (v : V) (ts : List (RoseTree V)) :
    v ∈ forestVertices ts ↔ ∃ t ∈ ts, v ∈ vertices t := by
  induction ts with
  | nil => simp [forestVertices]
  | cons t ts ih => simp [forestVertices, ih]

theorem root_mem_vertices (t : RoseTree V) : t.root ∈ vertices t := by
  cases t with
  | node v ts => simp [vertices, RoseTree.root]

section Membership

variable {kids : V → List V}

mutual
theorem vertices_reaches : ∀ (t : RoseTree V), Follows kids t → ∀ v ∈ vertices t, Reaches kids t.root v
  | .node r ts, follows, v, member => by
    simp only [vertices, List.mem_cons] at member
    rcases member with rfl | member
    · exact Relation.ReflTransGen.refl
    · obtain ⟨spelled, below⟩ := follows
      obtain ⟨t, present, reach⟩ := forest_reaches ts below v member
      have kid : t.root ∈ kids r := by
        rw [← spelled]
        exact List.mem_map_of_mem present
      exact Relation.ReflTransGen.head kid reach
theorem forest_reaches : ∀ (ts : List (RoseTree V)), FollowsAll kids ts → ∀ v ∈ forestVertices ts,
    ∃ t ∈ ts, Reaches kids t.root v
  | [], _, v, member => by simp [forestVertices] at member
  | t :: ts, follows, v, member => by
    obtain ⟨first, rest⟩ := follows
    simp only [forestVertices, List.mem_append] at member
    rcases member with member | member
    · exact ⟨t, List.mem_cons_self, vertices_reaches t first v member⟩
    · obtain ⟨u, present, reach⟩ := forest_reaches ts rest v member
      exact ⟨u, List.mem_cons_of_mem _ present, reach⟩
end

mutual
theorem kid_mem_vertices : ∀ (t : RoseTree V), Follows kids t → ∀ v ∈ vertices t, ∀ w ∈ kids v,
    w ∈ vertices t
  | .node r ts, follows, v, member, w, kid => by
    obtain ⟨spelled, below⟩ := follows
    simp only [vertices, List.mem_cons] at member ⊢
    rcases member with rfl | member
    · rw [← spelled] at kid
      obtain ⟨t, present, rfl⟩ := List.mem_map.mp kid
      exact .inr ((mem_forestVertices _ _).mpr ⟨t, present, root_mem_vertices t⟩)
    · exact .inr (kid_mem_forest ts below v member w kid)
theorem kid_mem_forest : ∀ (ts : List (RoseTree V)), FollowsAll kids ts → ∀ v ∈ forestVertices ts,
    ∀ w ∈ kids v, w ∈ forestVertices ts
  | [], _, v, member, _, _ => by simp [forestVertices] at member
  | t :: ts, follows, v, member, w, kid => by
    obtain ⟨first, rest⟩ := follows
    simp only [forestVertices, List.mem_append] at member ⊢
    rcases member with member | member
    · exact .inl (kid_mem_vertices t first v member w kid)
    · exact .inr (kid_mem_forest ts rest v member w kid)
end

end Membership

section Linked

variable {kids : V → List V} {up : V → Option V} {rank : V → Nat} {limit : Nat}
  {inside : V → Prop}

section

variable (link : Linkage kids up rank limit inside)

include link

theorem Linkage.inside_of_reaches {v w : V}
    (start : inside v) (reach : Reaches kids v w) : inside w := by
  induction reach with
  | refl => exact start
  | tail _ step ih => exact link.closed _ _ ih step

theorem Linkage.rank_le {v w : V}
    (start : inside v) (reach : Reaches kids v w) : rank v ≤ rank w := by
  induction reach with
  | refl => exact Nat.le_refl _
  | tail before step ih =>
    exact Nat.le_trans ih (Nat.le_of_lt
      (link.rank_lt _ _ (link.inside_of_reaches start before) step))

/-- Two vertices above a common one lie on one path, since parents are unique. -/
theorem Linkage.comparable {a b x : V}
    (first : inside a) (second : inside b) (left : Reaches kids a x) (right : Reaches kids b x) :
    Reaches kids a b ∨ Reaches kids b a := by
  induction left generalizing b with
  | refl => exact .inr right
  | @tail y z before step ih =>
    have above := link.inside_of_reaches first before
    rcases Relation.ReflTransGen.cases_tail right with rfl | ⟨y', before', step'⟩
    · exact .inl (Relation.ReflTransGen.tail before step)
    · have same : y' = y := by
        have up1 := link.up_kid _ _ above step
        have up2 := link.up_kid _ _ (link.inside_of_reaches second before') step'
        exact Option.some.inj (up2.symm.trans up1)
      subst same
      exact ih second before'

theorem Linkage.siblings_disjoint {a b x : V}
    (first : inside a) (second : inside b) (same : up a = up b)
    (left : Reaches kids a x) (right : Reaches kids b x) : a = b := by
  have ordered : ∀ {p q : V}, inside p → up p = up q → Reaches kids p q → p = q := by
    intro p q here equal reach
    rcases Relation.ReflTransGen.cases_tail reach with rfl | ⟨y, before, step⟩
    · rfl
    · have above := link.inside_of_reaches here before
      have parent := link.up_kid _ _ above step
      rw [← equal] at parent
      have down := link.kid_up _ _ here parent
      have below := link.rank_lt _ _ down.1 down.2
      have bound := link.rank_le here before
      omega
  rcases link.comparable first second left right with reach | reach
  · exact ordered first same reach
  · exact (ordered second same.symm reach).symm

theorem Linkage.exists_trees (roots : List V) (all : ∀ v ∈ roots, inside v) :
    ∃ ts : List (RoseTree V), ts.map RoseTree.root = roots ∧ FollowsAll kids ts := by
  have single : ∀ gap v, inside v → limit - rank v ≤ gap →
      ∃ t : RoseTree V, t.root = v ∧ Follows kids t := by
    intro gap
    induction gap with
    | zero =>
      intro v here close
      have bound := link.bounded v here
      omega
    | succ gap ih =>
      intro v here close
      have below : ∀ vs : List V, (∀ w ∈ vs, w ∈ kids v) →
          ∃ ts : List (RoseTree V), ts.map RoseTree.root = vs ∧ FollowsAll kids ts := by
        intro vs
        induction vs with
        | nil => intro _; exact ⟨[], rfl, trivial⟩
        | cons w vs tail =>
          intro kid
          have child := kid w List.mem_cons_self
          have grows := link.rank_lt v w here child
          obtain ⟨t, atRoot, follows⟩ := ih w (link.closed v w here child) (by omega)
          obtain ⟨ts, spelled, rest⟩ := tail (fun u member => kid u (List.mem_cons_of_mem _ member))
          exact ⟨t :: ts, by simp [atRoot, spelled], follows, rest⟩
      obtain ⟨ts, spelled, follows⟩ := below (kids v) (fun _ member => member)
      exact ⟨.node v ts, rfl, spelled, follows⟩
  induction roots with
  | nil => exact ⟨[], rfl, trivial⟩
  | cons v vs ih =>
    obtain ⟨t, atRoot, follows⟩ := single (limit - rank v) v (all v List.mem_cons_self) (Nat.le_refl _)
    obtain ⟨ts, spelled, rest⟩ := ih (fun w member => all w (List.mem_cons_of_mem _ member))
    exact ⟨t :: ts, by simp [atRoot, spelled], follows, rest⟩

theorem Linkage.forest_inside (ts : List (RoseTree V))
    (follows : FollowsAll kids ts) (roots : ∀ t ∈ ts, inside t.root) :
    ∀ v ∈ forestVertices ts, inside v := by
  intro v member
  obtain ⟨t, present, reach⟩ := forest_reaches ts follows v member
  exact link.inside_of_reaches (roots t present) reach

end

mutual
theorem Linkage.vertices_nodup (link : Linkage kids up rank limit inside) :
    ∀ (t : RoseTree V), Follows kids t → inside t.root → (vertices t).Nodup
  | .node v ts, follows, here => by
    obtain ⟨spelled, below⟩ := follows
    have kid : ∀ t ∈ ts, t.root ∈ kids v := by
      intro t present
      rw [← spelled]
      exact List.mem_map_of_mem present
    have inner := link.forest_nodup ts below
      (fun t present => link.closed v _ here (kid t present))
      (fun t present => link.up_kid v _ here (kid t present))
      (by rw [spelled]; exact link.nodup v here)
    rw [vertices, List.nodup_cons]
    refine ⟨?_, inner⟩
    intro member
    obtain ⟨t, present, reach⟩ := forest_reaches ts below v member
    have grows := link.rank_lt v _ here (kid t present)
    have bound := link.rank_le (link.closed v _ here (kid t present)) reach
    omega
theorem Linkage.forest_nodup (link : Linkage kids up rank limit inside) {above : Option V} :
    ∀ (ts : List (RoseTree V)), FollowsAll kids ts → (∀ t ∈ ts, inside t.root) →
      (∀ t ∈ ts, up t.root = above) → (ts.map RoseTree.root).Nodup → (forestVertices ts).Nodup
  | [], _, _, _, _ => by simp [forestVertices]
  | t :: ts, follows, here, parents, distinct => by
    obtain ⟨first, rest⟩ := follows
    rw [List.map_cons, List.nodup_cons] at distinct
    rw [forestVertices, List.nodup_append]
    refine ⟨link.vertices_nodup t first (here t List.mem_cons_self),
      link.forest_nodup ts rest (fun u member => here u (List.mem_cons_of_mem _ member))
        (fun u member => parents u (List.mem_cons_of_mem _ member)) distinct.2, ?_⟩
    rintro x left y right rfl
    have reach := vertices_reaches t first x left
    obtain ⟨u, present, reach'⟩ := forest_reaches ts rest x right
    have equal := link.siblings_disjoint (here t List.mem_cons_self)
      (here u (List.mem_cons_of_mem _ present))
      ((parents t List.mem_cons_self).trans (parents u (List.mem_cons_of_mem _ present)).symm)
      reach reach'
    exact distinct.1 (equal ▸ List.mem_map_of_mem present)
end

theorem Linkage.exists_forest (link : Linkage kids up rank limit inside) (roots : List V)
    (distinct : roots.Nodup) (complete : ∀ v, v ∈ roots ↔ inside v ∧ up v = none) :
    ∃ ts : List (RoseTree V), ts.map RoseTree.root = roots ∧ FollowsAll kids ts ∧
      (forestVertices ts).Nodup ∧ ∀ v, v ∈ forestVertices ts ↔ inside v := by
  obtain ⟨ts, spelled, follows⟩ := link.exists_trees roots (fun v member => ((complete v).mp member).1)
  have isRoot : ∀ t ∈ ts, inside t.root ∧ up t.root = none := by
    intro t present
    apply (complete _).mp
    rw [← spelled]
    exact List.mem_map_of_mem present
  refine ⟨ts, spelled, follows, ?_, ?_⟩
  · exact link.forest_nodup ts follows (fun t present => (isRoot t present).1)
      (fun t present => (isRoot t present).2) (by rw [spelled]; exact distinct)
  · have covered : ∀ height v, rank v = height → inside v → v ∈ forestVertices ts := by
      intro height
      induction height using Nat.strong_induction_on with
      | _ height ih =>
        intro v level here
        cases parent : up v with
        | none =>
          have member := (complete v).mpr ⟨here, parent⟩
          rw [← spelled] at member
          obtain ⟨t, present, rfl⟩ := List.mem_map.mp member
          exact (mem_forestVertices _ _).mpr ⟨t, present, root_mem_vertices t⟩
        | some p =>
          have down := link.kid_up p v here parent
          have grows := link.rank_lt p v down.1 down.2
          exact kid_mem_forest ts follows p (ih _ (level ▸ grows) p rfl down.1) v down.2
    intro v
    exact ⟨link.forest_inside ts follows (fun t present => (isRoot t present).1) v,
      covered (rank v) v rfl⟩

end Linked

/-! ### Visiting a tree with a stack -/

def ChildrenFirst (kids : V → List V) (order : List V) : Prop :=
  ∀ before v after, order = before ++ v :: after → ∀ w ∈ kids v, w ∈ before

theorem ChildrenFirst.below {kids : V → List V} {order before after : List V} {v w : V}
    (first : ChildrenFirst kids order) (split : order = before ++ v :: after)
    (reach : Reaches kids v w) (other : w ≠ v) : w ∈ before := by
  induction reach with
  | refl => exact absurd rfl other
  | @tail u w _ kid ih =>
    by_cases same : u = v
    · exact first before v after split w (same ▸ kid)
    · obtain ⟨left, right, rfl⟩ := List.append_of_mem (ih same)
      have earlier := first left u (right ++ v :: after) (by simp [split]) w kid
      exact List.mem_append_left _ earlier

/-- A search from a root: the vertices on the stack, and those that were popped, last one first. A
popped vertex has its children on the stack or popped after it. -/
structure Searching (kids : V → List V) (root : V) (stack seen : List V) : Prop where
  distinct : (stack ++ seen).Nodup
  started : root ∈ stack ++ seen
  reached : ∀ v ∈ stack ++ seen, Reaches kids root v
  pushed : ∀ w ∈ stack ++ seen, w = root ∨ ∃ v ∈ seen, w ∈ kids v
  opened : ∀ before v after, seen = before ++ v :: after → ∀ w ∈ kids v, w ∈ stack ++ before

namespace Searching

variable {kids : V → List V} {root v : V} {stack seen : List V}

theorem start (kids : V → List V) (root : V) : Searching kids root [root] [] :=
  ⟨List.nodup_singleton root, List.mem_singleton_self root,
    fun v member => List.mem_singleton.mp member ▸ Relation.ReflTransGen.refl,
    fun v member => .inl (List.mem_singleton.mp member), by simp⟩

variable {up : V → Option V} {rank : V → Nat} {limit : Nat} {inside : V → Prop}

theorem visit (link : Linkage kids up rank limit inside) (here : inside root)
    (search : Searching kids root (v :: stack) seen) :
    Searching kids root ((kids v).reverse ++ stack) (v :: seen) := by
  have reach := search.reached v List.mem_cons_self
  have known := link.inside_of_reaches here reach
  have fresh : ∀ w ∈ kids v, w ∉ v :: stack ++ seen := by
    intro w kid member
    rcases search.pushed w member with rfl | ⟨u, popped, kid'⟩
    · exact absurd (link.rank_lt v w known kid) (Nat.not_lt.mpr (link.rank_le here reach))
    · have above := link.inside_of_reaches here (search.reached u (List.mem_append_right _ popped))
      cases (link.up_kid u w above kid').symm.trans (link.up_kid v w known kid)
      exact (List.nodup_cons.mp search.distinct).1 (List.mem_append_right _ popped)
  have moved : ∀ w, w ∈ (kids v).reverse ++ stack ++ v :: seen ↔ w ∈ kids v ∨ w ∈ v :: stack ++ seen := by
    intro w
    simp only [List.mem_append, List.mem_reverse, List.mem_cons]
    tauto
  refine ⟨?_, (moved root).mpr (.inr search.started), fun w member => ?_, fun w member => ?_, ?_⟩
  · have rest := List.nodup_middle.mpr search.distinct
    rw [List.append_assoc]
    refine List.Nodup.append (List.nodup_reverse.mpr (link.nodup v known)) rest ?_
    intro w kid member
    refine fresh w (List.mem_reverse.mp kid) ?_
    rwa [List.cons_append, ← List.perm_middle.mem_iff]
  · rcases (moved w).mp member with kid | old
    · exact reach.tail kid
    · exact search.reached w old
  · rcases (moved w).mp member with kid | old
    · exact .inr ⟨v, List.mem_cons_self, kid⟩
    · exact (search.pushed w old).imp_right fun ⟨u, popped, kid⟩ => ⟨u, List.mem_cons_of_mem _ popped, kid⟩
  · intro before u after split w kid
    rcases List.cons_eq_append_iff.mp split with ⟨rfl, same⟩ | ⟨before', rfl, rest⟩
    · cases same
      simp [kid]
    · have later := search.opened before' u after rest w kid
      simp only [List.mem_append, List.mem_cons] at later ⊢
      tauto

theorem mem_iff (search : Searching kids root [] seen) (v : V) : v ∈ seen ↔ Reaches kids root v := by
  refine ⟨search.reached v, fun reach => ?_⟩
  induction reach with
  | refl => exact search.started
  | tail _ kid ih =>
    obtain ⟨before, after, split⟩ := List.append_of_mem ih
    rw [split]
    exact List.mem_append_left _ (search.opened before _ after split _ kid)

end Searching

end ScoreCrypto.Forest
