import Mathlib.Algebra.Ring.Nat
import Mathlib.Data.Finmap
import Mathlib.Data.Finset.Basic
import Mathlib.Logic.Function.Basic

/-!
Tables of collections that drop a row as soon as it becomes empty, and finite maps whose entries
are read in an order of their own.
-/

namespace ScoreCrypto.Table

variable {K B : Type} [EmptyCollection B]

def row (table : K → Option B) (key : K) : B :=
  (table key).getD ∅

def NoEmptyRow (table : K → Option B) : Prop :=
  ∀ key, table key ≠ some ∅

variable {table : K → Option B}

theorem row_of_some {key : K} {value : B} (h : table key = some value) :
    row table key = value := by
  simp [row, h]

theorem row_of_none {key : K} (h : table key = none) :
    row table key = ∅ := by
  simp [row, h]

variable [DecidableEq K]

@[simp] theorem row_update_same (table : K → Option B) (key : K) (value : B) :
    row (Function.update table key (some value)) key = value := by
  simp [row]

@[simp] theorem row_update_ne (table : K → Option B) {key other : K} (value : Option B)
    (h : other ≠ key) : row (Function.update table key value) other = row table other := by
  simp [row, h]

theorem noEmptyRow_update (full : NoEmptyRow table) (key : K) {value : B} (filled : value ≠ ∅) :
    NoEmptyRow (Function.update table key (some value)) := by
  intro other
  by_cases same : other = key
  · subst same
    simpa using filled
  · simpa [same] using full other

variable [DecidableEq B]

def setRow (table : K → Option B) (key : K) (value : B) : K → Option B :=
  Function.update table key (if value = ∅ then none else some value)

@[simp] theorem row_setRow_same (table : K → Option B) (key : K) (value : B) :
    row (setRow table key value) key = value := by
  unfold row setRow
  by_cases h : value = ∅ <;> simp [h]

@[simp] theorem row_setRow_ne (table : K → Option B) {key other : K} (value : B)
    (h : other ≠ key) : row (setRow table key value) other = row table other := by
  simp [row, setRow, h]

theorem noEmptyRow_setRow (full : NoEmptyRow table) (key : K) (value : B) :
    NoEmptyRow (setRow table key value) := by
  intro other
  by_cases same : other = key
  · subst same
    by_cases h : value = ∅ <;> simp [setRow, h]
  · simpa [setRow, same] using full other

theorem update_entry {κ μ β : Type} [DecidableEq κ] [DecidableEq μ] (table : κ → μ → β) (k k' : κ)
    (m m' : μ) (b : β) :
    Function.update table k (Function.update (table k) m b) k' m' =
      if k' = k ∧ m' = m then b else table k' m' := by
  by_cases same : k' = k
  · subst same
    rw [Function.update_self, Function.update_apply]
    simp
  · rw [Function.update_of_ne same, if_neg fun both => same both.1]

end ScoreCrypto.Table

namespace ScoreCrypto

variable {K V : Type}

/-- The entries of a finite map in the order a loop over it meets them. -/
structure Iteration (map : Finmap fun _ : K => V) where
  entries : List (Sigma fun _ : K => V)
  all : (entries : Multiset _) = map.entries

namespace Iteration

variable {map : Finmap fun _ : K => V}

theorem exists_any (map : Finmap fun _ : K => V) : Nonempty (Iteration map) := by
  induction map using Finmap.induction_on with
  | H entries => exact ⟨⟨entries.entries, rfl⟩⟩

theorem nodupKeys (order : Iteration map) : order.entries.NodupKeys := by
  have unique := map.nodupKeys
  rw [← order.all] at unique
  exact Multiset.coe_nodupKeys.mp unique

theorem sum_eq (order : Iteration map) (weight : (Sigma fun _ : K => V) → Nat) :
    (order.entries.map weight).sum = (map.entries.map weight).sum := by
  rw [← order.all, Multiset.map_coe, Multiset.sum_coe]

theorem singleton_entries {key : K} {value : V}
    (order : Iteration (Finmap.singleton key value : Finmap fun _ : K => V)) :
    order.entries = [⟨key, value⟩] :=
  Multiset.coe_eq_singleton.mp order.all

variable [DecidableEq K]

theorem toFinmap_eq (order : Iteration map) : order.entries.toFinmap = map := by
  apply Finmap.ext
  rw [← order.all, List.toFinmap, AList.toFinmap_entries, List.toAList, Multiset.coe_eq_coe]
  apply List.lookup_ext (List.nodupKeys_dedupKeys _) order.nodupKeys
  intro key value
  rw [List.dlookup_dedupKeys]

theorem lookup_foldl_insert {entries : List (Sigma fun _ : K => V)} (unique : entries.NodupKeys)
    (start : Finmap fun _ : K => V) (key : K) :
    (entries.foldl (fun built entry => built.insert entry.1 entry.2) start).lookup key =
      (entries.dlookup key).or (start.lookup key) := by
  induction entries generalizing start with
  | nil => simp
  | cons entry entries ih =>
    rw [List.foldl_cons, ih (List.nodupKeys_cons.mp unique).2]
    by_cases same : key = entry.1
    · subst same
      have absent : entries.dlookup entry.1 = none :=
        List.dlookup_eq_none.mpr (List.nodupKeys_cons.mp unique).1
      rw [absent, Finmap.lookup_insert, List.dlookup_cons_eq]
      rfl
    · rw [Finmap.lookup_insert_of_ne _ same, List.dlookup_cons_ne _ _ same]

theorem foldl_insert (order : Iteration map) :
    order.entries.foldl (fun built entry => built.insert entry.1 entry.2) ∅ = map := by
  apply Finmap.ext_lookup
  intro key
  rw [lookup_foldl_insert order.nodupKeys, Finmap.lookup_empty, Option.or_none,
    ← Finmap.dlookup_list_toFinmap, order.toFinmap_eq]

theorem dlookup_eq (order : Iteration map) (key : K) :
    order.entries.dlookup key = map.lookup key := by
  rw [← Finmap.dlookup_list_toFinmap, order.toFinmap_eq]

theorem mem_iff (order : Iteration map) (key : K) (value : V) :
    ⟨key, value⟩ ∈ order.entries ↔ map.lookup key = some value := by
  rw [← order.dlookup_eq]
  exact (List.mem_dlookup_iff order.nodupKeys).symm

theorem exists_head {key : K} {value : V} (present : map.lookup key = some value) :
    ∃ (order : Iteration map) (rest : List (Sigma fun _ : K => V)),
      order.entries = ⟨key, value⟩ :: rest := by
  obtain ⟨order⟩ := exists_any map
  obtain ⟨before, rest, split⟩ := List.append_of_mem ((order.mem_iff key value).mpr present)
  have moved : (⟨key, value⟩ :: (before ++ rest)).Perm order.entries := by
    rw [split]
    exact List.perm_middle.symm
  exact ⟨⟨_, (Multiset.coe_eq_coe.mpr moved).trans order.all⟩, _, rfl⟩

end Iteration

/-! ### Entries kept and values replaced -/

section Entries

variable (map : Finmap fun _ : K => V)

def retain (keep : K → V → Bool) : Finmap fun _ : K => V where
  entries := map.entries.filter fun entry => keep entry.1 entry.2
  nodupKeys := by
    rcases map with ⟨⟨entries⟩, unique⟩
    have unique : entries.NodupKeys := Multiset.coe_nodupKeys.mp unique
    exact Multiset.coe_nodupKeys.mpr (unique.sublist List.filter_sublist)

def mapValues (change : K → V → V) : Finmap fun _ : K => V where
  entries := map.entries.map fun entry => ⟨entry.1, change entry.1 entry.2⟩
  nodupKeys := by
    rcases map with ⟨⟨entries⟩, unique⟩
    have unique : entries.NodupKeys := Multiset.coe_nodupKeys.mp unique
    have keys : (entries.map fun entry : Sigma fun _ : K => V =>
        (⟨entry.1, change entry.1 entry.2⟩ : Sigma fun _ : K => V)).keys = entries.keys := by
      simp [List.keys, Function.comp_def]
    refine Multiset.coe_nodupKeys.mpr ?_
    rw [List.NodupKeys, keys]
    exact unique

variable [DecidableEq K] {map}

theorem insert_of_lookup {key : K} {value : V} (found : map.lookup key = some value) :
    map.insert key value = map := by
  refine Finmap.ext_lookup fun other => ?_
  rcases eq_or_ne other key with rfl | differ
  · rw [Finmap.lookup_insert, found]
  · rw [Finmap.lookup_insert_of_ne _ differ]

@[simp] theorem lookup_retain (keep : K → V → Bool) (key : K) :
    (retain map keep).lookup key = (map.lookup key).filter (keep key) := by
  apply Option.ext
  intro value
  rw [Finmap.lookup_eq_some_iff, Option.filter_eq_some_iff, Finmap.lookup_eq_some_iff]
  exact Multiset.mem_filter

@[simp] theorem lookup_mapValues (change : K → V → V) (key : K) :
    (mapValues map change).lookup key = (map.lookup key).map (change key) := by
  apply Option.ext
  intro value
  rw [Finmap.lookup_eq_some_iff, Option.map_eq_some_iff]
  constructor
  · intro member
    rcases Multiset.mem_map.mp member with ⟨⟨key', value'⟩, member', same⟩
    cases same
    exact ⟨value', Finmap.lookup_eq_some_iff.mpr member', rfl⟩
  · intro image
    rcases image with ⟨value', found, rfl⟩
    exact Multiset.mem_map.mpr ⟨⟨key, value'⟩, Finmap.lookup_eq_some_iff.mp found, rfl⟩

end Entries

/-! ### Sums over a finite map -/

section Total

variable [DecidableEq K] (weight : K → V → Nat) (map : Finmap fun _ : K => V) (key : K)

def total : Nat :=
  (map.entries.map fun entry => weight entry.1 entry.2).sum

def weightAt : Nat :=
  (map.lookup key).elim 0 (weight key)

theorem total_insert_new {key : K} (value : V) (fresh : key ∉ map) :
    total weight (map.insert key value) = weight key value + total weight map := by
  rw [total, Finmap.entries_insert_of_notMem fresh, Multiset.map_cons, Multiset.sum_cons, total]

theorem total_erase : total weight map = weightAt weight map key + total weight (map.erase key) := by
  unfold weightAt
  cases found : map.lookup key with
  | none =>
    have same : map.erase key = map := by
      apply Finmap.ext_lookup
      intro other
      rcases eq_or_ne other key with rfl | differ
      · rw [Finmap.lookup_erase, found]
      · exact Finmap.lookup_erase_ne differ
    simp [same]
  | some value =>
    have same : map = (map.erase key).insert key value := by
      apply Finmap.ext_lookup
      intro other
      rcases eq_or_ne other key with rfl | differ
      · rw [Finmap.lookup_insert, found]
      · rw [Finmap.lookup_insert_of_ne _ differ, Finmap.lookup_erase_ne differ]
    calc
      total weight map = total weight ((map.erase key).insert key value) := by rw [← same]
      _ = _ := total_insert_new weight _ value Finmap.notMem_erase_self

theorem total_insert (value : V) :
    total weight (map.insert key value) + weightAt weight map key =
      total weight map + weight key value := by
  have added := total_erase weight (map.insert key value) key
  have removed := total_erase weight map key
  have same : (map.insert key value).erase key = map.erase key := by
    apply Finmap.ext_lookup
    intro other
    rcases eq_or_ne other key with rfl | differ
    · rw [Finmap.lookup_erase, Finmap.lookup_erase]
    · rw [Finmap.lookup_erase_ne differ, Finmap.lookup_erase_ne differ,
        Finmap.lookup_insert_of_ne _ differ]
  rw [same] at added
  have here : weightAt weight (map.insert key value) key = weight key value := by
    simp [weightAt]
  omega

end Total

end ScoreCrypto
