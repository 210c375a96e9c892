import Mathlib.Logic.Basic

/-!
Computations on a state that may fail and keep what they have changed when they do: running them step by
step.
-/

namespace ScoreCrypto

abbrev Checked (S E : Type) := ExceptT E (StateM S)

namespace Checked

variable {S E α β : Type}

def exec (p : Checked S E α) (s : S) : Except E α × S := (ExceptT.run p).run s

def attempt (result : Except E α) : Checked S E α := ExceptT.mk (pure result)

def ensure (condition : Prop) [Decidable condition] (error : E) : Checked S E Unit :=
  if condition then pure () else throw error

def require (value : Option α) (error : E) : Checked S E α :=
  match value with
  | some value => pure value
  | none => throw error

/-- An error is cleaned up after before it is passed on; whether the cleanup succeeds is not looked at. -/
def onError (p : Checked S E α) (cleanup : E → Checked S E Unit) : Checked S E α := fun s =>
  match exec p s with
  | (.ok value, after) => (.ok value, after)
  | (.error error, after) => (.error error, (exec (cleanup error) after).2)

@[simp] theorem exec_pure (value : α) (s : S) : exec (pure value : Checked S E α) s = (.ok value, s) := rfl

@[simp] theorem exec_throw (error : E) (s : S) :
    exec (throw error : Checked S E α) s = (.error error, s) := rfl

@[simp] theorem exec_attempt (result : Except E α) (s : S) : exec (attempt result) s = (result, s) := rfl

@[simp] theorem exec_get (s : S) : exec (get : Checked S E S) s = (.ok s, s) := rfl

@[simp] theorem exec_modify (change : S → S) (s : S) :
    exec (modify change : Checked S E PUnit) s = (.ok ⟨⟩, change s) := rfl

theorem exec_bind (p : Checked S E α) (f : α → Checked S E β) (s : S) :
    exec (p >>= f) s =
      match exec p s with
      | (.ok value, after) => exec (f value) after
      | (.error error, after) => (.error error, after) := by
  simp only [exec, ExceptT.run, bind, ExceptT.bind, ExceptT.mk, StateT.bind, StateT.run]
  rcases p s with ⟨_ | _, after⟩ <;> rfl

theorem exec_onError (p : Checked S E α) (cleanup : E → Checked S E Unit) (s : S) :
    exec (onError p cleanup) s =
      match exec p s with
      | (.ok value, after) => (.ok value, after)
      | (.error error, after) => (.error error, (exec (cleanup error) after).2) := rfl

@[simp] theorem map_ok (f : α → β) (value : α) :
    Except.map f (.ok value : Except E α) = .ok (f value) := rfl

@[simp] theorem map_error (f : α → β) (error : E) :
    Except.map f (.error error : Except E α) = .error error := rfl

/-! ### What a computation ensures -/

def Ensures (post : Except E α → S → Prop) (p : Checked S E α) (s : S) : Prop :=
  post (exec p s).1 (exec p s).2

variable {post : Except E α → S → Prop} {s : S}

@[simp] theorem ensures_pure {value : α} :
    Ensures post (pure value : Checked S E α) s ↔ post (.ok value) s := Iff.rfl

@[simp] theorem ensures_throw {error : E} :
    Ensures post (throw error : Checked S E α) s ↔ post (.error error) s := Iff.rfl

@[simp] theorem ensures_bind {p : Checked S E β} {f : β → Checked S E α} :
    Ensures post (p >>= f) s ↔
      Ensures (fun result after => (∀ value, result = .ok value → Ensures post (f value) after) ∧
        ∀ error, result = .error error → post (.error error) after) p s := by
  rw [Ensures, Ensures, exec_bind]
  rcases exec p s with ⟨_ | _, after⟩ <;> simp [Ensures]

theorem continues {next : β → Prop} {fails : E → Prop} {value : β} (holds : next value) :
    (∀ other, (.ok value : Except E β) = .ok other → next other) ∧
      ∀ error, (.ok value : Except E β) = .error error → fails error := by
  simpa using holds

variable {p : Checked S E α}

@[simp] theorem ensures_map {post : Except E β → S → Prop} {f : α → β} :
    Ensures post (f <$> p) s ↔ Ensures (fun result after => post (result.map f) after) p s := by
  rw [map_eq_pure_bind, ensures_bind, Ensures, Ensures]
  rcases exec p s with ⟨_ | _, after⟩ <;> simp [Except.map]

@[simp] theorem ensures_require {value : Option α} {error : E} :
    Ensures post (require value error : Checked S E α) s ↔
      (∀ found, value = some found → post (.ok found) s) ∧ (value = none → post (.error error) s) := by
  cases value <;> simp [require]

@[simp] theorem ensures_get {post : Except E S → S → Prop} :
    Ensures post (get : Checked S E S) s ↔ post (.ok s) s := Iff.rfl

@[simp] theorem ensures_modify {post : Except E PUnit → S → Prop} {change : S → S} :
    Ensures post (modify change : Checked S E PUnit) s ↔ post (.ok ⟨⟩) (change s) := Iff.rfl

@[simp] theorem ensures_onError {cleanup : E → Checked S E Unit} :
    Ensures post (onError p cleanup) s ↔
      Ensures (fun result after => (∀ value, result = .ok value → post (.ok value) after) ∧
        ∀ error, result = .error error →
          Ensures (fun _ cleaned => post (.error error) cleaned) (cleanup error) after) p s := by
  rw [Ensures, Ensures, exec_onError]
  rcases exec p s with ⟨_ | _, after⟩ <;> simp [Ensures]

@[simp] theorem ensures_attempt {result : Except E α} :
    Ensures post (attempt result : Checked S E α) s ↔ post result s := Iff.rfl

@[simp] theorem ensures_ensure {post : Except E Unit → S → Prop} {condition : Prop} [Decidable condition]
    {error : E} : Ensures post (ensure condition error : Checked S E Unit) s ↔
      (condition → post (.ok ()) s) ∧ (¬condition → post (.error error) s) := by
  rw [ensure]
  split <;> simp_all

@[simp] theorem ensures_ite {condition : Prop} [Decidable condition] {q : Checked S E α} :
    Ensures post (if condition then p else q) s ↔
      (condition → Ensures post p s) ∧ (¬condition → Ensures post q s) := by
  split <;> simp_all

end Checked

end ScoreCrypto
