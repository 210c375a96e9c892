import Mathlib.Data.List.Basic

/-! Runs of a deterministic step function and the invariant rules over them. -/

namespace ScoreCrypto.Run

variable {S E : Type}

def run (step : S → E → S) (s : S) (events : List E) : S :=
  events.foldl step s

/-- Every step of the run is taken in a state that meets the condition for it. -/
def Meets (step : S → E → S) (ok : S → E → Prop) : S → List E → Prop
  | _, [] => True
  | s, event :: events => ok s event ∧ Meets step ok (step s event) events

instance decidableMeets (step : S → E → S) (ok : S → E → Prop) [∀ s event, Decidable (ok s event)] :
    ∀ s events, Decidable (Meets step ok s events)
  | _, [] => isTrue trivial
  | s, event :: events =>
    have := decidableMeets step ok (step s event) events
    inferInstanceAs (Decidable (ok s event ∧ Meets step ok (step s event) events))

variable {step : S → E → S} {ok : S → E → Prop}

@[simp] theorem run_nil (s : S) : run step s [] = s := rfl

@[simp] theorem run_cons (s : S) (event : E) (events : List E) :
    run step s (event :: events) = run step (step s event) events := rfl

theorem run_append (s : S) (first second : List E) :
    run step s (first ++ second) = run step (run step s first) second :=
  List.foldl_append

theorem meets_append (s : S) (first second : List E) :
    Meets step ok s (first ++ second) ↔
      Meets step ok s first ∧ Meets step ok (run step s first) second := by
  induction first generalizing s with
  | nil => simp [Meets]
  | cons event events ih => simp [Meets, ih, and_assoc]

theorem meets_iff_forall (s : S) (events : List E) :
    Meets step ok s events ↔
      ∀ before event after, events = before ++ event :: after → ok (run step s before) event := by
  constructor
  · rintro meets before event after rfl
    exact ((meets_append s before (event :: after)).mp meets).2.1
  · intro all
    induction events generalizing s with
    | nil => trivial
    | cons event events ih =>
      refine ⟨all [] event events rfl, ih (step s event) fun before later after same => ?_⟩
      exact all (event :: before) later after (by rw [same, List.cons_append])

theorem Meets.and {ok' : S → E → Prop} {s : S} {events : List E} (first : Meets step ok s events)
    (second : Meets step ok' s events) : Meets step (fun s e => ok s e ∧ ok' s e) s events := by
  induction events generalizing s with
  | nil => trivial
  | cons event events ih => exact ⟨⟨first.1, second.1⟩, ih first.2 second.2⟩

theorem run_invariant (inv : S → Prop) (keeps : ∀ s event, inv s → inv (step s event))
    (s : S) (events : List E) (start : inv s) : inv (run step s events) := by
  induction events generalizing s with
  | nil => exact start
  | cons event events ih => exact ih _ (keeps s event start)

/-- The invariant rule for steps that keep the invariant only where they meet the condition. -/
theorem run_invariant_of_meets (inv : S → Prop)
    (keeps : ∀ s event, inv s → ok s event → inv (step s event))
    (s : S) (events : List E) (start : inv s) (meets : Meets step ok s events) :
    inv (run step s events) := by
  induction events generalizing s with
  | nil => exact start
  | cons event events ih => exact ih _ (keeps s event start meets.1) meets.2

end ScoreCrypto.Run
