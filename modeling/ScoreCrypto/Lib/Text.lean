import Mathlib.Data.List.DropRight
import Mathlib.Data.List.TakeWhile

/-! Texts as lists of characters: lines, and text without the blanks around it. -/

namespace ScoreCrypto.Text

variable {α : Type}

/-! ### Lines -/

/-- The lines of a text; what follows the last line end is a line only if there is something. -/
def lines [DecidableEq α] (lineEnd : α) : List α → List (List α)
  | [] => []
  | c :: text =>
    if c = lineEnd then [] :: lines lineEnd text
    else
      match lines lineEnd text with
      | [] => [[c]]
      | line :: rest => (c :: line) :: rest

@[simp] theorem lines_nil [DecidableEq α] (lineEnd : α) : lines lineEnd [] = [] := rfl

theorem lines_append [DecidableEq α] {lineEnd : α} {line : List α} (single : lineEnd ∉ line)
    (text : List α) : lines lineEnd (line ++ lineEnd :: text) = line :: lines lineEnd text := by
  induction line with
  | nil => simp [lines]
  | cons c line ih =>
    have rest : lineEnd ∉ line := fun h => single (List.mem_cons_of_mem _ h)
    have other : c ≠ lineEnd := fun h => single (h ▸ List.mem_cons_self)
    simp [lines, other, ih rest]

/-! ### Blanks around a text -/

section Trim

variable (blank : α → Bool)

def trim (text : List α) : List α :=
  (text.dropWhile blank).rdropWhile blank

def Tight (text : List α) : Prop :=
  (∀ c ∈ text.head?, blank c = false) ∧ (∀ c ∈ text.getLast?, blank c = false)

variable {blank} {text : List α}

theorem dropWhile_of_head (start : ∀ c ∈ text.head?, blank c = false) :
    text.dropWhile blank = text := by
  cases text with
  | nil => rfl
  | cons c text =>
    have bound : blank c = false := start c rfl
    simp [bound]

theorem rdropWhile_appendsblanks {text blanks : List α} (tight : Tight blank text)
    (all : ∀ c ∈ blanks, blank c = true) : (text ++ blanks).rdropWhile blank = text := by
  induction blanks using List.reverseRecOn with
  | nil =>
    rw [List.append_nil, List.rdropWhile_eq_self_iff]
    intro nonempty
    have last := tight.2 _ (List.getLast?_eq_some_getLast nonempty)
    simp [last]
  | append_singleton blanks c ih =>
    have bound : blank c = true := all c (by simp)
    rw [← List.append_assoc, List.rdropWhile_concat_pos _ _ _ bound]
    exact ih fun c member => all c (by simp [member])

theorem trim_padded {before text after : List α} (tight : Tight blank text)
    (left : ∀ c ∈ before, blank c = true) (right : ∀ c ∈ after, blank c = true) :
    trim blank (before ++ text ++ after) = text := by
  have start : (before ++ text ++ after).dropWhile blank = (text ++ after).dropWhile blank := by
    rw [List.append_assoc, List.dropWhile_append_of_pos left]
  unfold trim
  rw [start]
  cases text with
  | nil =>
    have gone : after.dropWhile blank = [] := List.dropWhile_eq_nil_iff.mpr right
    simp [gone]
  | cons c text =>
    have bound : blank c = false := tight.1 c rfl
    have kept : (c :: text ++ after).dropWhile blank = c :: text ++ after := by simp [bound]
    rw [kept]
    exact rdropWhile_appendsblanks tight right

theorem trim_tight (tight : Tight blank text) : trim blank text = text := by
  have padded := trim_padded tight (by simp : ∀ c ∈ ([] : List α), blank c = true)
    (by simp : ∀ c ∈ ([] : List α), blank c = true)
  simpa using padded

theorem tight_trim (text : List α) : Tight blank (trim blank text) := by
  have last : ∀ c ∈ (trim blank text).getLast?, blank c = false := by
    intro c member
    have nonempty : trim blank text ≠ [] := by
      intro empty
      simp [empty] at member
    have bound := List.rdropWhile_last_not blank (text.dropWhile blank) nonempty
    rw [List.getLast?_eq_some_getLast nonempty, Option.mem_some_iff] at member
    rw [← member]
    simpa [trim] using bound
  refine ⟨?_, last⟩
  intro c member
  have part : trim blank text <+: text.dropWhile blank := List.rdropWhile_prefix _ _
  rcases part with ⟨rest, whole⟩
  have first : (text.dropWhile blank).head? = some c := by
    rw [← whole, List.head?_append, Option.mem_def.mp member]
    rfl
  have bound := List.head?_dropWhile_not blank text
  rw [first] at bound
  simpa using bound

theorem head?_of_trim {c : α} (start : ∀ c ∈ text.head?, blank c = false)
    (first : (trim blank text).head? = some c) : text.head? = some c := by
  have part : trim blank text <+: text := by
    unfold trim
    rw [dropWhile_of_head start]
    exact List.rdropWhile_prefix _ _
  rcases part with ⟨rest, whole⟩
  rw [← whole, List.head?_append, first]
  rfl

theorem getLast?_of_trim {c : α} (stop : ∀ c ∈ text.getLast?, blank c = false)
    (last : (trim blank text).getLast? = some c) : text.getLast? = some c := by
  have nonempty : text.dropWhile blank ≠ [] := by
    intro empty
    simp [trim, empty] at last
  have ends : text.getLast? = (text.dropWhile blank).getLast? := by
    rcases List.dropWhile_suffix (l := text) blank with ⟨before, whole⟩
    conv_lhs => rw [← whole]
    exact List.getLast?_append_of_ne_nil before nonempty
  have kept : trim blank text = text.dropWhile blank := by
    unfold trim
    rw [List.rdropWhile_eq_self_iff]
    intro _
    have bound := stop _ (ends ▸ List.getLast?_eq_some_getLast nonempty)
    simp [bound]
  rw [ends, ← kept, last]

end Trim

end ScoreCrypto.Text
