import Mathlib.Data.List.Basic

/-! Bitmaps: marking a run of bits, and searching for a run of set ones. -/

namespace ScoreCrypto.Bitmap

def mark (value : Bool) (bits : List Bool) (start : Nat) : Nat → List Bool
  | 0 => bits
  | count + 1 => mark value (bits.set start value) (start + 1) count

@[simp] theorem length_mark (value : Bool) (bits : List Bool) (start count : Nat) :
    (mark value bits start count).length = bits.length := by
  induction count generalizing bits start with
  | zero => rfl
  | succ count ih => rw [mark, ih, List.length_set]

theorem getElem?_mark (value : Bool) (bits : List Bool) (start count i : Nat) :
    (mark value bits start count)[i]? =
      if start ≤ i ∧ i < start + count then bits[i]?.map fun _ => value else bits[i]? := by
  induction count generalizing bits start with
  | zero =>
    rw [if_neg (by omega)]
    rfl
  | succ count ih =>
    rw [mark, ih, List.getElem?_set]
    by_cases first : start = i
    · subst first
      rw [if_neg (by omega), if_pos rfl, if_pos (show start ≤ start ∧ start < start + (count + 1) by
        omega)]
      by_cases inside : start < bits.length <;> simp [inside]
    · rw [if_neg first]
      by_cases later : start + 1 ≤ i ∧ i < start + 1 + count
      · rw [if_pos later, if_pos (by omega)]
      · rw [if_neg later, if_neg (by omega)]

/-! ### Searching -/

/-- How many of the `needed` bits from `start` on are set before the first that is not, and the bits
that are read for that. -/
def scan (bits : List Bool) (start : Nat) : Nat → Nat × List Nat
  | 0 => (0, [])
  | needed + 1 =>
    if bits[start]? = some true then
      let rest := scan bits (start + 1) needed
      (rest.1 + 1, start :: rest.2)
    else (0, [start])

theorem scan_le (bits : List Bool) (start needed : Nat) : (scan bits start needed).1 ≤ needed := by
  induction needed generalizing start with
  | zero => exact Nat.le_refl 0
  | succ needed ih =>
    unfold scan
    split
    · exact Nat.succ_le_succ (ih (start + 1))
    · exact Nat.zero_le _

theorem scan_set (bits : List Bool) (start needed : Nat) {i : Nat}
    (inside : start ≤ i ∧ i < start + (scan bits start needed).1) : bits[i]? = some true := by
  induction needed generalizing start with
  | zero =>
    simp only [scan] at inside
    omega
  | succ needed ih =>
    unfold scan at inside
    split at inside
    case isFalse => omega
    case isTrue first =>
      rcases Nat.eq_or_lt_of_le inside.1 with rfl | later
      · exact first
      · exact ih (start + 1) (by simp only at inside; omega)

theorem scan_stops (bits : List Bool) (start needed : Nat)
    (short : (scan bits start needed).1 < needed) :
    bits[start + (scan bits start needed).1]? ≠ some true := by
  induction needed generalizing start with
  | zero => omega
  | succ needed ih =>
    unfold scan at short ⊢
    split at short
    case isTrue first =>
      rw [if_pos first]
      have rest := ih (start + 1) (Nat.lt_of_succ_lt_succ short)
      rwa [Nat.add_right_comm] at rest
    case isFalse first =>
      rw [if_neg first]
      exact first

theorem scan_read (bits : List Bool) (start needed : Nat) :
    (scan bits start needed).2 = List.range' start (min ((scan bits start needed).1 + 1) needed) := by
  induction needed generalizing start with
  | zero => rfl
  | succ needed ih =>
    unfold scan
    split
    · simp only
      rw [ih, Nat.succ_min_succ, List.range'_succ]
    · simp

/-- The first run of `needed` set bits that starts at `start` or later, and the bits that are read
until it is found; a bit that is not set is skipped with everything before it. -/
def search (bits : List Bool) (needed start : Nat) : Option Nat × List Nat :=
  if start + needed ≤ bits.length then
    let here := scan bits start needed
    if here.1 = needed then (some start, here.2)
    else
      let rest := search bits needed (start + here.1 + 1)
      (rest.1, here.2 ++ rest.2)
  else (none, [])
termination_by bits.length + 1 - start

def firstFit (bits : List Bool) (needed start : Nat) : Option Nat := (search bits needed start).1

def visited (bits : List Bool) (needed start : Nat) : List Nat := (search bits needed start).2

variable {bits : List Bool}

theorem firstFit_of_short {needed start : Nat}
    (short : bits.length < start + needed) : firstFit bits needed start = none := by
  rw [firstFit, search, if_neg (Nat.not_le.mpr short)]

theorem firstFit_zero (bits : List Bool) : firstFit bits 0 0 = some 0 := by
  rw [firstFit, search, if_pos (Nat.zero_le _)]
  rfl

theorem firstFit_some {needed start found : Nat}
    (fits : firstFit bits needed start = some found) :
    start ≤ found ∧ found + needed ≤ bits.length ∧
      ∀ i, found ≤ i → i < found + needed → bits[i]? = some true := by
  unfold firstFit at fits
  fun_induction search bits needed start with
  | case1 start bound here full =>
    have here : start = found := Option.some.inj fits
    subst here
    refine ⟨Nat.le_refl _, bound, ?_⟩
    intro i above below
    exact scan_set bits start needed ⟨above, full.symm ▸ below⟩
  | case2 start bound here short rest ih =>
    rcases ih fits with ⟨later, rest⟩
    exact ⟨by omega, rest⟩
  | case3 => cases fits

theorem firstFit_before {needed start candidate : Nat} (later : start ≤ candidate)
    (bound : candidate + needed ≤ bits.length)
    (before : ∀ found, firstFit bits needed start = some found → candidate < found) :
    ∃ i, candidate ≤ i ∧ i < candidate + needed ∧ bits[i]? ≠ some true := by
  unfold firstFit at before
  fun_induction search bits needed start with
  | case1 start inside here full => exact absurd (before start rfl) (Nat.not_lt.mpr later)
  | case2 start inside here short rest ih =>
    have some : here.1 ≤ needed := scan_le bits start needed
    have stops := scan_stops bits start needed (Nat.lt_of_le_of_ne some short)
    by_cases beyond : start + here.1 + 1 ≤ candidate
    · exact ih beyond before
    · exact ⟨start + here.1, by omega, by omega, stops⟩
  | case3 start outside => omega

theorem visited_forward (bits : List Bool) (needed start : Nat) :
    (visited bits needed start).Pairwise (· < ·) ∧
      ∀ i ∈ visited bits needed start, start ≤ i ∧ i < bits.length := by
  unfold visited
  fun_induction search bits needed start with
  | case1 start bound here full =>
    simp only [here, scan_read]
    refine ⟨List.pairwise_lt_range', fun i read => ?_⟩
    rw [List.mem_range'_1] at read
    omega
  | case2 start bound here short rest ih =>
    have some : here.1 ≤ needed := scan_le bits start needed
    have all : here.2 = List.range' start (min (here.1 + 1) needed) := scan_read bits start needed
    have read {i : Nat} (inside : i ∈ here.2) :
        start ≤ i ∧ i < start + here.1 + 1 ∧ i < bits.length := by
      rw [all, List.mem_range'_1] at inside
      omega
    refine ⟨List.pairwise_append.mpr ⟨?_, ih.1, fun i inside j later => ?_⟩, fun i inside => ?_⟩
    · rw [all]
      exact List.pairwise_lt_range'
    · exact Nat.lt_of_lt_of_le (read inside).2.1 (ih.2 j later).1
    · rcases List.mem_append.mp inside with here | later
      · exact ⟨(read here).1, (read here).2.2⟩
      · have rest := ih.2 i later
        omega
  | case3 => simp

end ScoreCrypto.Bitmap
