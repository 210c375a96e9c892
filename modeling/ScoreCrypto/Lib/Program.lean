import ScoreCrypto.Lib.Run
import Mathlib.Data.List.Basic

/-!
Programs that act on a shared state by atomic actions: what such a program does when it runs
alone, and what any number of them do when they take turns.
-/

namespace ScoreCrypto

/-- A program that performs its actions one by one; `Res act` is what the action answers. -/
inductive Program (Act : Type) (Res : Act → Type) (α : Type) : Type where
  | done (value : α)
  | call (act : Act) (next : Res act → Program Act Res α)

namespace Program

variable {Act : Type} {Res : Act → Type} {S R α β : Type}

def bind (p : Program Act Res α) (f : α → Program Act Res β) : Program Act Res β :=
  match p with
  | .done value => f value
  | .call act next => .call act fun answer => (next answer).bind f

instance : Monad (Program Act Res) where
  pure := done
  bind := bind

def perform (act : Act) : Program Act Res (Res act) :=
  .call act .done

def finished : Program Act Res α → Bool
  | .done _ => true
  | .call _ _ => false

/-! ### One program alone -/

section Exec

variable (handle : (act : Act) → S → Res act × S)

def exec : Program Act Res α → S → α × S
  | .done value, s => (value, s)
  | .call act next, s => exec (next (handle act s).1) (handle act s).2

@[simp] theorem exec_pure (value : α) (s : S) :
    exec handle (pure value : Program Act Res α) s = (value, s) := rfl

@[simp] theorem exec_perform (act : Act) (s : S) :
    exec handle (perform act : Program Act Res (Res act)) s = handle act s := rfl

@[simp] theorem exec_bind (p : Program Act Res α) (f : α → Program Act Res β) (s : S) :
    exec handle (p >>= f) s = exec handle (f (exec handle p s).1) (exec handle p s).2 := by
  change exec handle (p.bind f) s = _
  induction p generalizing s with
  | done value => rfl
  | call act next ih => exact ih _ _

/-- The program ends with the postcondition when it runs alone from `s`. -/
def wp (p : Program Act Res α) (post : α → S → Prop) (s : S) : Prop :=
  post (exec handle p s).1 (exec handle p s).2

variable {handle}

theorem wp_pure {post : α → S → Prop} {value : α} {s : S} (holds : post value s) :
    wp handle (pure value : Program Act Res α) post s :=
  holds

theorem wp_perform {act : Act} {post : Res act → S → Prop} {s : S}
    (holds : post (handle act s).1 (handle act s).2) :
    wp handle (perform act : Program Act Res (Res act)) post s :=
  holds

theorem wp_bind {p : Program Act Res α} {f : α → Program Act Res β} {post : β → S → Prop} {s : S}
    (holds : wp handle p (fun value s' => wp handle (f value) post s') s) :
    wp handle (p >>= f) post s := by
  unfold wp
  rw [exec_bind]
  exact holds

theorem wp_mono {p : Program Act Res α} {post post' : α → S → Prop} {s : S}
    (holds : wp handle p post s) (weaker : ∀ value s', post value s' → post' value s') :
    wp handle p post' s :=
  weaker _ _ holds

end Exec

/-! ### The actions of a program -/

/-- Whatever its actions answer, the program performs allowed actions only. -/
def Only (allowed : Act → Prop) : Program Act Res α → Prop
  | .done _ => True
  | .call act next => allowed act ∧ ∀ answer, Only allowed (next answer)

section Only

variable {allowed : Act → Prop}

theorem Only.pure (value : α) : Only allowed (pure value : Program Act Res α) := trivial

theorem Only.perform {act : Act} (ok : allowed act) :
    Only allowed (perform act : Program Act Res (Res act)) :=
  ⟨ok, fun _ => trivial⟩

variable {p : Program Act Res α}

theorem Only.bind {f : α → Program Act Res β} (first : Only allowed p)
    (rest : ∀ value, Only allowed (f value)) : Only allowed (p >>= f) := by
  change Only allowed (p.bind f)
  induction p with
  | done value => exact rest value
  | call act next ih => exact ⟨first.1, fun answer => ih answer (first.2 answer)⟩

theorem Only.mono {allowed' : Act → Prop} (weaker : ∀ act, allowed act → allowed' act)
    (only : Only allowed p) : Only allowed' p := by
  induction p with
  | done value => trivial
  | call act next ih => exact ⟨weaker act only.1, fun answer => ih answer (only.2 answer)⟩

theorem Only.ite {c : Prop} [Decidable c] {p q : Program Act Res α} (left : Only allowed p)
    (right : Only allowed q) : Only allowed (if c then p else q) := by
  split
  · exact left
  · exact right

theorem Only.exec {handle : (act : Act) → S → Res act × S} {inv : S → Prop}
    (keeps : ∀ act s, allowed act → inv s → inv (handle act s).2) (only : Only allowed p) {s : S}
    (start : inv s) : inv (Program.exec handle p s).2 := by
  induction p generalizing s with
  | done value => exact start
  | call act next ih => exact ih _ (only.2 _) (keeps act s only.1 start)

end Only

/-! ### Answers that are not determined -/

section Surely

variable (may : (act : Act) → S → Res act → S → Prop)

/-- However the actions answer, among the answers they may give and the states they may leave, the
program ends with the postcondition. -/
def Surely (post : α → S → Prop) : Program Act Res α → S → Prop
  | .done value, s => post value s
  | .call act next, s => ∀ answer s', may act s answer s' → Surely post (next answer) s'

variable {may} {post : α → S → Prop} {s : S} {value : α}

theorem Surely.pure (holds : post value s) :
    Surely may post (pure value : Program Act Res α) s :=
  holds

theorem Surely.perform_bind {act : Act} {f : Res act → Program Act Res β} {post : β → S → Prop}
    (holds : ∀ answer s', may act s answer s' → Surely may post (f answer) s') :
    Surely may post (perform act >>= f) s :=
  holds

variable {p : Program Act Res α} {f : α → Program Act Res β}

theorem surely_bind {post : β → S → Prop} :
    Surely may post (p >>= f) s ↔ Surely may (fun value s' => Surely may post (f value) s') p s := by
  change Surely may post (p.bind f) s ↔ _
  induction p generalizing s with
  | done value => exact Iff.rfl
  | call act next ih =>
    exact forall_congr' fun answer => forall_congr' fun s' => imp_congr_right fun _ => ih answer

variable {post : α → S → Prop}

theorem Surely.mono {post' : α → S → Prop} (holds : Surely may post p s)
    (weaker : ∀ value s', post value s' → post' value s') :
    Surely may post' p s := by
  induction p generalizing s with
  | done value => exact weaker value s holds
  | call act next ih => exact fun answer s' allowed => ih answer (holds answer s' allowed)

theorem Surely.narrow {may' : (act : Act) → S → Res act → S → Prop}
    (holds : Surely may post p s)
    (narrower : ∀ act s answer s', may' act s answer s' → may act s answer s') :
    Surely may' post p s := by
  induction p generalizing s with
  | done value => exact holds
  | call act next ih =>
    exact fun answer s' allowed => ih answer (holds answer s' (narrower _ _ _ _ allowed))

theorem Surely.and {post' : α → S → Prop} (first : Surely may post p s)
    (second : Surely may post' p s) :
    Surely may (fun value s' => post value s' ∧ post' value s') p s := by
  induction p generalizing s with
  | done value => exact ⟨first, second⟩
  | call act next ih =>
    exact fun answer s' allowed => ih answer (first answer s' allowed) (second answer s' allowed)

theorem Surely.exec {handle : (act : Act) → S → Res act × S}
    (holds : Surely (fun act s answer s' => handle act s = (answer, s')) post p s) :
    post (exec handle p s).1 (exec handle p s).2 := by
  induction p generalizing s with
  | done value => exact holds
  | call act next ih => exact ih _ (holds _ _ rfl)

/-- Every action that the program performs, when it runs alone, is in order where it is performed. -/
def Along (handle : (act : Act) → S → Res act × S) (ok : Act → S → Prop) :
    Program Act Res α → S → Prop
  | .done _, _ => True
  | .call act next, s => ok act s ∧ Along handle ok (next (handle act s).1) (handle act s).2

variable {ok : Act → S → Prop}

theorem Along.bind {handle : (act : Act) → S → Res act × S} (first : Along handle ok p s)
    (rest : Along handle ok (f (Program.exec handle p s).1) (Program.exec handle p s).2) :
    Along handle ok (p >>= f) s := by
  change Along handle ok (p.bind f) s
  induction p generalizing s with
  | done value => exact rest
  | call act next ih => exact ⟨first.1, ih _ first.2 rest⟩

theorem Only.along {handle : (act : Act) → S → Res act × S}
    {allowed : Act → Prop} (only : Only allowed p) (fine : ∀ act s, allowed act → ok act s) :
    Along handle ok p s := by
  induction p generalizing s with
  | done value => trivial
  | call act next ih => exact ⟨fine act s only.1, ih _ (only.2 _)⟩

theorem Surely.exec_along {handle : (act : Act) → S → Res act × S}
    (along : Along handle ok p s)
    (holds : Surely (fun act s answer s' => ok act s ∧ handle act s = (answer, s')) post p s) :
    post (Program.exec handle p s).1 (Program.exec handle p s).2 := by
  induction p generalizing s with
  | done value => exact holds
  | call act next ih => exact ih _ along.2 (holds _ _ ⟨along.1, rfl⟩)

variable (may) in
inductive Ends : Program Act Res α → S → α → S → Prop where
  | done (value : α) (s : S) : Ends (.done value) s value s
  | call {act : Act} {next : Res act → Program Act Res α} {s s' s'' : S} {answer : Res act} {value : α}
      (allowed : may act s answer s') (rest : Ends (next answer) s' value s'') :
      Ends (.call act next) s value s''

theorem Ends.exec {handle : (act : Act) → S → Res act × S} {s s' : S}
    (ends : Ends (fun act s answer s' => ok act s ∧ handle act s = (answer, s')) p s value s') :
    Along handle ok p s ∧ Program.exec handle p s = (value, s') := by
  induction ends with
  | done value s => exact ⟨trivial, rfl⟩
  | call allowed rest ih =>
    simp only [Along, Program.exec, allowed.2]
    exact ⟨⟨allowed.1, ih.1⟩, ih.2⟩

theorem Surely.ends {s s' : S} (holds : Surely may post p s) (ends : Ends may p s value s') :
    post value s' := by
  induction ends with
  | done value s => exact holds
  | call allowed rest ih => exact ih (holds _ _ allowed)

theorem Ends.mono {may' : (act : Act) → S → Res act → S → Prop}
    (weaker : ∀ act s answer s', may act s answer s' → may' act s answer s') {s s' : S}
    (ends : Ends may p s value s') : Ends may' p s value s' := by
  induction ends with
  | done value s => exact .done value s
  | call allowed rest ih => exact .call (weaker _ _ _ _ allowed) ih

theorem Ends.of_bind {s s'' : S} {value : β}
    (ends : Ends may (p >>= f) s value s'') :
    ∃ first s', Ends may p s first s' ∧ Ends may (f first) s' value s'' := by
  change Ends may (p.bind f) s value s'' at ends
  induction p generalizing s with
  | done first => exact ⟨first, s, .done first s, ends⟩
  | call act next ih =>
    cases ends with
    | call allowed rest =>
      rcases ih _ rest with ⟨first, s', early, late⟩
      exact ⟨first, s', .call allowed early, late⟩

end Surely

/-! ### Programs that take turns -/

/-- Requests whose programs have been started, each with what is left of its program. -/
structure Pool (Act : Type) (Res : Act → Type) (S R α : Type) where
  state : S
  threads : List (R × Program Act Res α)

inductive Turn (R : Type) where
  | start (request : R)
  | advance (thread : Nat)

namespace Pool

variable (handle : (act : Act) → S → Res act × S) (program : R → Program Act Res α)

/-- A turn starts a request or performs the next action of a running one. -/
def step (pool : Pool Act Res S R α) : Turn R → Pool Act Res S R α
  | .start request => { pool with threads := pool.threads ++ [(request, program request)] }
  | .advance i =>
    match pool.threads[i]? with
    | some (request, .call act next) =>
      { state := (handle act pool.state).2
        threads := pool.threads.set i (request, next (handle act pool.state).1) }
    | _ => pool

def Idle (pool : Pool Act Res S R α) : Prop :=
  ∀ thread ∈ pool.threads, thread.2.finished = true

instance (pool : Pool Act Res S R α) : Decidable pool.Idle :=
  inferInstanceAs (Decidable (∀ _ ∈ _, _))

/-- The action of the turn, if there is one, is performed in a state that allows it. -/
def Permits (ok : S → Act → Prop) (pool : Pool Act Res S R α) : Turn R → Prop
  | .start _ => True
  | .advance i =>
    match pool.threads[i]? with
    | some (_, .call act _) => ok pool.state act
    | _ => True

instance (ok : S → Act → Prop) [∀ s act, Decidable (ok s act)] (pool : Pool Act Res S R α)
    (turn : Turn R) : Decidable (pool.Permits ok turn) := by
  unfold Permits
  split
  · infer_instance
  · split <;> infer_instance

end Pool

section Safe

variable (handle : (act : Act) → S → Res act × S) (later : S → S → Prop) (inv : S → Prop)
  (ok : S → Act → Prop)

/-- Whatever the others do between its actions, as long as they move the state from earlier to
later states with the invariant, the program does so too and ends with the postcondition. -/
def Safe (post : α → S → Prop) : Program Act Res α → S → Prop
  | .done value, s => ∀ s', later s s' → inv s' → post value s'
  | .call act next, s => ∀ s', later s s' → inv s' → ok s' act →
      inv (handle act s').2 ∧ later s' (handle act s').2 ∧
        Safe post (next (handle act s').1) (handle act s').2

variable {handle later inv ok}

theorem Safe.pure {post : α → S → Prop} {value : α} {s : S}
    (holds : ∀ t, later s t → inv t → post value t) :
    Safe handle later inv ok post (pure value : Program Act Res α) s :=
  holds

theorem Safe.perform_bind {post : β → S → Prop} {act : Act} {f : Res act → Program Act Res β} {s : S}
    (step : ∀ t, later s t → inv t → ok t act →
      inv (handle act t).2 ∧ later t (handle act t).2 ∧
        Safe handle later inv ok post (f (handle act t).1) (handle act t).2) :
    Safe handle later inv ok post (perform act >>= f) s :=
  step

variable (trans : ∀ s t u, later s t → later t u → later s u)

include trans

theorem Safe.mono {post : α → S → Prop} {p : Program Act Res α} {s t : S}
    (safe : Safe handle later inv ok post p s) (after : later s t) :
    Safe handle later inv ok post p t := by
  cases p with
  | done | call => exact fun u beyond => safe u (trans s t u after beyond)

theorem Safe.bind {mid : α → S → Prop} {post : β → S → Prop} {p : Program Act Res α}
    {f : α → Program Act Res β} {s : S} (first : Safe handle later inv ok mid p s)
    (refl : ∀ s, later s s)
    (rest : ∀ value t, later s t → (inv t → mid value t) → Safe handle later inv ok post (f value) t) :
    Safe handle later inv ok post (p >>= f) s := by
  change Safe handle later inv ok post (p.bind f) s
  induction p generalizing s with
  | done value => exact rest value s (refl s) (first s (refl s))
  | call act next ih =>
    intro t after holds allowed
    rcases first t after holds allowed with ⟨holds', after', safe⟩
    refine ⟨holds', after', ih _ safe ?_⟩
    intro value u beyond
    exact rest value u (trans s t u after (trans _ _ _ after' beyond))

/-- Every state of the pool keeps the invariant, and every thread stays safe. -/
theorem Pool.run_safe (refl : ∀ s, later s s) {program : R → Program Act Res α}
    {post : R → α → S → Prop}
    (safe : ∀ request s, inv s → Safe handle later inv ok (post request) (program request) s)
    (pool : Pool Act Res S R α) (turns : List (Turn R)) (start : inv pool.state)
    (threads : ∀ t ∈ pool.threads, Safe handle later inv ok (post t.1) t.2 pool.state)
    (meets : Run.Meets (Pool.step handle program) (Pool.Permits ok) pool turns) :
    inv (Run.run (Pool.step handle program) pool turns).state ∧
      ∀ t ∈ (Run.run (Pool.step handle program) pool turns).threads,
        Safe handle later inv ok (post t.1) t.2
          (Run.run (Pool.step handle program) pool turns).state := by
  refine Run.run_invariant_of_meets
    (fun pool => inv pool.state ∧
      ∀ t ∈ pool.threads, Safe handle later inv ok (post t.1) t.2 pool.state)
    ?_ pool turns ⟨start, threads⟩ meets
  intro pool turn holds permitted
  cases turn with
  | start request =>
    refine ⟨holds.1, ?_⟩
    intro t member
    rcases List.mem_append.mp member with old | new
    · exact holds.2 t old
    · rw [List.mem_singleton.mp new]
      exact safe request pool.state holds.1
  | advance i =>
    cases found : pool.threads[i]? with
    | none => simpa only [Pool.step, found] using holds
    | some thread =>
      rcases thread with ⟨request, value | ⟨act, next⟩⟩
      · simpa only [Pool.step, found] using holds
      · simp only [Pool.step, Pool.Permits, found] at permitted ⊢
        have safe' := holds.2 _ (List.mem_of_getElem? found) pool.state (refl _) holds.1 permitted
        refine ⟨safe'.1, ?_⟩
        intro t member
        rcases List.mem_or_eq_of_mem_set member with old | new
        · exact (holds.2 t old).mono trans safe'.2.1
        · rw [new]
          exact safe'.2.2

end Safe

end Program

end ScoreCrypto
