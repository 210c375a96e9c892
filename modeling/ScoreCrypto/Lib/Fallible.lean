import ScoreCrypto.Lib.Program

/-!
Programs that may fail, and contracts for them: which actions a program may perform and what it
counts on in their answers. A contract goes through phases, which the actions and their answers
move it on.
-/

namespace ScoreCrypto

variable {Act S G E E' α β : Type} {Res : Act → Type}

/-- The actions a program may perform in a phase, what it counts on in their answers, and the phase
that follows. -/
structure Contract (Act : Type) (Res : Act → Type) (G : Type) where
  may : G → Act → Prop
  gives : G → (act : Act) → Res act → Prop
  next : G → (act : Act) → Res act → G

namespace Program

/-- The program keeps to the contract, as long as the answers do, and ends as promised. -/
def Conforms (contract : Contract Act Res G) (post : G → α → Prop) : G → Program Act Res α → Prop
  | g, .done value => post g value
  | g, .call act next =>
    contract.may g act ∧ ∀ answer, contract.gives g act answer →
      Conforms contract post (contract.next g act answer) (next answer)

variable {contract : Contract Act Res G} {post : G → α → Prop} {g : G} {p : Program Act Res α}

theorem conforms_bind {post : G → β → Prop} {f : α → Program Act Res β} :
    Conforms contract post g (p >>= f) ↔
      Conforms contract (fun later value => Conforms contract post later (f value)) g p := by
  change Conforms contract post g (p.bind f) ↔ _
  induction p generalizing g with
  | done value => exact Iff.rfl
  | call act next ih =>
    exact and_congr_right fun _ => forall₂_congr fun answer _ => ih answer

/-- An invariant that every action of the contract keeps, and under which the answers are as the
program counts on, holds after the program. -/
theorem Conforms.exec {handle : (act : Act) → S → Res act × S} (inv : G → S → Prop)
    (keeps : ∀ g act s, contract.may g act → inv g s →
      contract.gives g act (handle act s).1 ∧
      inv (contract.next g act (handle act s).1) (handle act s).2)
    (conforms : Conforms contract post g p) {s : S} (start : inv g s) :
    ∃ later, inv later (exec handle p s).2 ∧ post later (exec handle p s).1 := by
  induction p generalizing g s with
  | done value => exact ⟨g, start, conforms⟩
  | call act next ih =>
    have step := keeps g act s conforms.1 start
    exact ih _ (conforms.2 _ step.1) step.2

/-- What every step of the contract keeps holds at the end too. -/
theorem Conforms.strengthen (inv : G → Prop)
    (keeps : ∀ g act answer, contract.may g act → contract.gives g act answer → inv g →
      inv (contract.next g act answer)) (conforms : Conforms contract post g p) (start : inv g) :
    Conforms contract (fun later value => inv later ∧ post later value) g p := by
  induction p generalizing g with
  | done value => exact ⟨start, conforms⟩
  | call act next ih =>
    refine ⟨conforms.1, fun answer given => ?_⟩
    exact ih answer (conforms.2 answer given) (keeps g act answer conforms.1 given start)

/-- A program that keeps to a contract keeps to one that allows more, and what follows from its
promise is promised. -/
theorem Conforms.weaken {wider : Contract Act Res G} {post' : G → α → Prop}
    (allowed : ∀ g act, contract.may g act → wider.may g act) (gives : wider.gives = contract.gives)
    (next : wider.next = contract.next) (promised : ∀ g value, post g value → post' g value)
    (conforms : Conforms contract post g p) :
    Conforms wider post' g p := by
  induction p generalizing g with
  | done value => exact promised g value conforms
  | call act rest ih =>
    refine ⟨allowed g act conforms.1, fun answer given => ?_⟩
    rw [gives] at given
    rw [next]
    exact ih answer (conforms.2 answer given)

/-- Two states that every action of the contract answers alike and keeps alike give one result. -/
theorem Conforms.alike {handle : (act : Act) → S → Res act × S} (same : G → S → S → Prop)
    (alike : ∀ g act s t, contract.may g act → same g s t →
      (handle act s).1 = (handle act t).1 ∧ contract.gives g act (handle act s).1 ∧
      same (contract.next g act (handle act s).1) (handle act s).2 (handle act t).2)
    (conforms : Conforms contract post g p) {s t : S} (start : same g s t) :
    (Program.exec handle p s).1 = (Program.exec handle p t).1 ∧
      ∃ later, same later (Program.exec handle p s).2 (Program.exec handle p t).2 := by
  induction p generalizing g s t with
  | done value => exact ⟨rfl, g, start⟩
  | call act next ih =>
    rcases alike g act s t conforms.1 start with ⟨answer, given, later⟩
    rw [Program.exec, Program.exec, ← answer]
    exact ih _ (conforms.2 _ given) later

end Program

/-- The contract that one handler of the actions keeps to, answer by answer. -/
def Contract.exactly (handle : (act : Act) → S → Res act × S) : Contract Act Res S where
  may _ _ := True
  gives s act answer := (handle act s).1 = answer
  next s act _ := (handle act s).2

theorem bind_eq_ok {first : Except E α} {rest : α → Except E β} {value : β} :
    (first >>= rest) = .ok value ↔ ∃ middle, first = .ok middle ∧ rest middle = .ok value := by
  cases first <;> simp [bind, Except.bind]

theorem ite_eq_ok {condition : Prop} [Decidable condition] {error : E} {done : Unit} :
    (if condition then .ok () else .error error) = (.ok done : Except E Unit) ↔ condition := by
  by_cases holds : condition <;> simp [holds]

theorem ite_eq_error {condition : Prop} [Decidable condition] {error thrown : E} :
    (if condition then .ok () else .error error) = (.error thrown : Except E Unit) ↔
      ¬condition ∧ error = thrown := by
  by_cases holds : condition <;> simp [holds]

/-! ### Programs that may fail -/

abbrev Fallible (Act : Type) (Res : Act → Type) (E α : Type) := ExceptT E (Program Act Res) α

namespace Fallible

def perform (act : Act) : Fallible Act Res E (Res act) :=
  ExceptT.mk (Program.perform act >>= fun answer => pure (.ok answer))

def attempt (result : Except E α) : Fallible Act Res E α :=
  ExceptT.mk (pure result)

def require (value : Option α) (error : E) : Fallible Act Res E α :=
  attempt (match value with
    | some value => .ok value
    | none => .error error)

def ensure (condition : Prop) [Decidable condition] (error : E) : Fallible Act Res E Unit :=
  attempt (if condition then .ok () else .error error)

def adapt (translate : E → E') (p : Fallible Act Res E α) : Fallible Act Res E' α :=
  ExceptT.mk (p.run >>= fun result => pure (result.mapError translate))

/-! ### Running one -/

section Exec

variable (handle : (act : Act) → S → Res act × S)

def exec (p : Fallible Act Res E α) (s : S) : Except E α × S :=
  Program.exec handle p.run s

@[simp] theorem exec_pure (value : α) (s : S) :
    exec handle (pure value : Fallible Act Res E α) s = (.ok value, s) := rfl

@[simp] theorem exec_throw (error : E) (s : S) :
    exec handle (throw error : Fallible Act Res E α) s = (.error error, s) := rfl

@[simp] theorem exec_perform (act : Act) (s : S) :
    exec handle (perform act : Fallible Act Res E (Res act)) s =
      (.ok (handle act s).1, (handle act s).2) := rfl

@[simp] theorem exec_attempt (result : Except E α) (s : S) :
    exec handle (attempt result : Fallible Act Res E α) s = (result, s) := rfl

@[simp] theorem exec_bind (p : Fallible Act Res E α) (f : α → Fallible Act Res E β) (s : S) :
    exec handle (p >>= f) s =
      match exec handle p s with
      | (.ok value, s') => exec handle (f value) s'
      | (.error error, s') => (.error error, s') := by
  have unfolded : exec handle (p >>= f) s =
      Program.exec handle (p.run >>= fun result => match result with
        | .ok value => (f value).run
        | .error error => pure (.error error)) s := rfl
  rw [unfolded, Program.exec_bind, exec]
  rcases Program.exec handle p.run s with ⟨_ | _, s'⟩ <;> rfl

@[simp] theorem exec_adapt (translate : E → E') (p : Fallible Act Res E α) (s : S) :
    exec handle (adapt translate p) s =
      ((exec handle p s).1.mapError translate, (exec handle p s).2) :=
  Program.exec_bind handle _ _ s

variable {handle}

end Exec

/-! ### Keeping to a contract -/

def Conforms (contract : Contract Act Res G) (post : G → Except E α → Prop) (g : G)
    (p : Fallible Act Res E α) : Prop :=
  Program.Conforms contract post g p.run

section Conforms

variable {contract : Contract Act Res G} {post : G → Except E α → Prop} {g : G}

@[simp] theorem conforms_pure (value : α) :
    Conforms contract post g (pure value : Fallible Act Res E α) ↔ post g (.ok value) := Iff.rfl

@[simp] theorem conforms_throw (error : E) :
    Conforms contract post g (throw error : Fallible Act Res E α) ↔ post g (.error error) := Iff.rfl

@[simp] theorem conforms_attempt (result : Except E α) :
    Conforms contract post g (attempt result : Fallible Act Res E α) ↔
      (∀ value, result = .ok value → post g (.ok value)) ∧
        ∀ error, result = .error error → post g (.error error) := by
  change post g result ↔ _
  cases result <;> simp

@[simp] theorem conforms_require (value : Option α) (error : E) :
    Conforms contract post g (require value error : Fallible Act Res E α) ↔
      (value = none → post g (.error error)) ∧
        ∀ found, value = some found → post g (.ok found) := by
  change post g (match value with
    | some value => .ok value
    | none => .error error) ↔ _
  cases value <;> simp

@[simp] theorem conforms_ensure (condition : Prop) [Decidable condition] (error : E)
    {post : G → Except E Unit → Prop} :
    Conforms contract post g (ensure condition error : Fallible Act Res E Unit) ↔
      (condition → post g (.ok ())) ∧ (¬condition → post g (.error error)) := by
  change post g (if condition then .ok () else .error error) ↔ _
  by_cases holds : condition <;> simp [holds]

@[simp] theorem conforms_bind {post : G → Except E β → Prop} (p : Fallible Act Res E α)
    (f : α → Fallible Act Res E β) :
    Conforms contract post g (p >>= f) ↔
      Conforms contract (fun later result => match result with
        | .ok value => Conforms contract post later (f value)
        | .error error => post later (.error error)) g p := by
  have unfolded : Conforms contract post g (p >>= f) ↔
      Program.Conforms contract post g (p.run >>= fun result => match result with
        | .ok value => (f value).run
        | .error error => pure (.error error)) := Iff.rfl
  rw [unfolded, Program.conforms_bind, Conforms]
  have posts : (fun later (result : Except E α) => Program.Conforms contract post later
      (match result with
        | .ok value => (f value).run
        | .error error => pure (.error error))) =
      fun later result => match result with
        | .ok value => Conforms contract post later (f value)
        | .error error => post later (.error error) := by
    funext later result
    cases result <;> rfl
  rw [posts]

theorem conforms_perform_bind {post : G → Except E β → Prop} (act : Act)
    (f : Res act → Fallible Act Res E β) :
    Conforms contract post g (perform act >>= f) ↔
      contract.may g act ∧ ∀ answer, contract.gives g act answer →
        Conforms contract post (contract.next g act answer) (f answer) := by
  rw [conforms_bind]
  exact Iff.rfl

theorem conforms_required {gives : Option α → Prop} {phase : Option α → G} {error : E} :
    (∀ answer, gives answer →
        Conforms contract post (phase answer) (require answer error : Fallible Act Res E α)) ↔
      (gives none → post (phase none) (.error error)) ∧
        ∀ found, gives (some found) → post (phase (some found)) (.ok found) := by
  refine Option.forall.trans ?_
  simp

theorem conforms_attempted {gives : Except E α → Prop} {phase : Except E α → G} :
    (∀ answer, gives answer →
        Conforms contract post (phase answer) (attempt answer : Fallible Act Res E α)) ↔
      (∀ value, gives (.ok value) → post (phase (.ok value)) (.ok value)) ∧
        ∀ error, gives (.error error) → post (phase (.error error)) (.error error) := by
  constructor
  · intro holds
    exact ⟨fun value given => holds _ given, fun error given => holds _ given⟩
  · intro holds answer given
    cases answer with
    | ok value => exact holds.1 value given
    | error error => exact holds.2 error given

@[simp] theorem conforms_adapt {post : G → Except E' α → Prop} (translate : E → E')
    (p : Fallible Act Res E α) :
    Conforms contract post g (adapt translate p) ↔
      Conforms contract (fun later result => match result with
        | .ok value => post later (.ok value)
        | .error error => post later (.error (translate error))) g p := by
  refine Program.conforms_bind.trans (iff_of_eq (congrArg (Program.Conforms contract · g p.run) ?_))
  funext later result
  cases result <;> rfl

@[simp] theorem conforms_ite (condition : Prop) [Decidable condition] (p q : Fallible Act Res E α) :
    Conforms contract post g (if condition then p else q) ↔
      (condition → Conforms contract post g p) ∧ (¬condition → Conforms contract post g q) := by
  by_cases holds : condition <;> simp [holds]

theorem Conforms.mono {post' : G → Except E α → Prop} {p : Fallible Act Res E α}
    (conforms : Conforms contract post g p) (promised : ∀ g result, post g result → post' g result) :
    Conforms contract post' g p :=
  Program.Conforms.weaken (fun _ _ allowed => allowed) rfl rfl promised conforms

theorem conforms_exactly {handle : (act : Act) → S → Res act × S} {post : S → Except E α → Prop}
    {s : S} {p : Fallible Act Res E α} :
    Conforms (.exactly handle) post s p ↔ post (exec handle p s).2 (exec handle p s).1 := by
  rw [Conforms, exec]
  generalize p.run = program
  induction program generalizing s with
  | done value => exact Iff.rfl
  | call act rest ih =>
    constructor
    · intro ends
      exact (ih _).mp (ends.2 _ rfl)
    · intro ends
      refine ⟨trivial, fun answer given => ?_⟩
      cases given
      exact (ih _).mpr ends

section Exactly

variable {handle : (act : Act) → S → Res act × S}

@[simp] theorem exactly_may (s : S) (act : Act) : (Contract.exactly handle).may s act := trivial

@[simp] theorem exactly_gives (s : S) (act : Act) (answer : Res act) :
    (Contract.exactly handle).gives s act answer ↔ (handle act s).1 = answer := Iff.rfl

@[simp] theorem exactly_next (s : S) (act : Act) (answer : Res act) :
    (Contract.exactly handle).next s act answer = (handle act s).2 := rfl

end Exactly

end Conforms

end Fallible

end ScoreCrypto
