import ScoreCrypto.Lib.Program

/-!
Programs with a memory of their own: what such a program ensures of its memory and of the state that
its actions leave, whatever they answer.
-/

namespace ScoreCrypto

open Program

abbrev Stateful (H Act : Type) (Res : Act → Type) := StateT H (Program Act Res)

namespace Stateful

variable {H Act S α β : Type} {Res : Act → Type}

def perform (act : Act) : Stateful H Act Res (Res act) :=
  fun h => Program.perform act >>= fun answer => pure (answer, h)

/-! ### One program -/

section Ensures

variable (may : (act : Act) → S → Res act → S → Prop)

def Ensures (post : α → H → S → Prop) (p : Stateful H Act Res α) (h : H) (s : S) : Prop :=
  Surely may (fun result s' => post result.1 result.2 s') (p h) s

variable {may} {post : α → H → S → Prop} {h : H} {s : S} {value : α}

@[simp] theorem ensures_pure :
    Ensures may post (pure value : Stateful H Act Res α) h s ↔ post value h s := Iff.rfl

@[simp] theorem ensures_bind {p : Stateful H Act Res β} {f : β → Stateful H Act Res α} :
    Ensures may post (p >>= f) h s ↔
      Ensures may (fun value h' s' => Ensures may post (f value) h' s') p h s := surely_bind

@[simp] theorem ensures_get {post : H → H → S → Prop} :
    Ensures may post (get : Stateful H Act Res H) h s ↔ post h h s := Iff.rfl

@[simp] theorem ensures_modify {change : H → H} {post : PUnit → H → S → Prop} :
    Ensures may post (modify change : Stateful H Act Res PUnit) h s ↔ post ⟨⟩ (change h) s := Iff.rfl

@[simp] theorem ensures_ite {c : Prop} [Decidable c] {p q : Stateful H Act Res α} :
    Ensures may post (if c then p else q) h s ↔
      (c → Ensures may post p h s) ∧ (¬c → Ensures may post q h s) := by
  split <;> simp_all

theorem ensures_perform (act : Act) {post : Res act → H → S → Prop} :
    Ensures may post (perform act : Stateful H Act Res (Res act)) h s ↔
      ∀ answer s', may act s answer s' → post answer h s' := Iff.rfl

theorem Ensures.pure (holds : post value h s) :
    Ensures may post (pure value : Stateful H Act Res α) h s :=
  holds

theorem Ensures.bind {p : Stateful H Act Res β} {f : β → Stateful H Act Res α}
    (holds : Ensures may (fun value h' s' => Ensures may post (f value) h' s') p h s) :
    Ensures may post (p >>= f) h s :=
  surely_bind.mpr holds

variable {p : Stateful H Act Res α}

theorem Ensures.mono {post' : α → H → S → Prop} (holds : Ensures may post p h s)
    (weaker : ∀ value h' s', post value h' s' → post' value h' s') : Ensures may post' p h s :=
  Surely.mono holds fun _ _ => weaker _ _ _

theorem Ensures.narrow {may' : (act : Act) → S → Res act → S → Prop} (holds : Ensures may post p h s)
    (narrower : ∀ act s answer s', may' act s answer s' → may act s answer s') :
    Ensures may' post p h s :=
  Surely.narrow holds narrower

theorem Ensures.of_forall (holds : ∀ value h' s', post value h' s') : Ensures may post p h s := by
  unfold Ensures
  generalize p h = program
  induction program generalizing s with
  | done result => exact holds _ _ _
  | call act next ih => exact fun answer s' _ => ih answer

theorem Ensures.and {post' : α → H → S → Prop} (first : Ensures may post p h s)
    (second : Ensures may post' p h s) :
    Ensures may (fun value h' s' => post value h' s' ∧ post' value h' s') p h s :=
  Surely.and first second

theorem Ensures.get_bind {f : H → Stateful H Act Res α} (holds : Ensures may post (f h) h s) :
    Ensures may post (get >>= f) h s :=
  holds

theorem Ensures.modify_bind {change : H → H} {f : PUnit → Stateful H Act Res α}
    (holds : Ensures may post (f ⟨⟩) (change h) s) :
    Ensures may post (modify change >>= f) h s :=
  holds

theorem Ensures.perform_bind {act : Act} {f : Res act → Stateful H Act Res α}
    (holds : ∀ answer s', may act s answer s' → Ensures may post (f answer) h s') :
    Ensures may post (perform act >>= f) h s :=
  holds

theorem Ensures.perform (act : Act) {post : Res act → H → S → Prop}
    (holds : ∀ answer s', may act s answer s' → post answer h s') :
    Ensures may post (perform act : Stateful H Act Res (Res act)) h s :=
  holds

theorem Ensures.modify {change : H → H} {post : PUnit → H → S → Prop}
    (holds : post ⟨⟩ (change h) s) :
    Ensures may post (modify change : Stateful H Act Res PUnit) h s :=
  holds

variable (may) in
def Ends (p : Stateful H Act Res α) (h : H) (s : S) (value : α) (h' : H) (s' : S) : Prop :=
  Program.Ends may (p h) s (value, h') s'

variable {h' : H} {s' : S}

theorem Ensures.ends (holds : Ensures may post p h s) (ends : Ends may p h s value h' s') :
    post value h' s' := by
  have surely : Surely may (fun result s' => post result.1 result.2 s') (p h) s := holds
  exact surely.ends ends

theorem Ends.mono {may' : (act : Act) → S → Res act → S → Prop}
    (weaker : ∀ act s answer s', may act s answer s' → may' act s answer s')
    (ends : Ends may p h s value h' s') :
    Ends may' p h s value h' s' :=
  Program.Ends.mono weaker ends

theorem Ends.of_pure {result value : α}
    (ends : Ends may (pure result : Stateful H Act Res α) h s value h' s') :
    value = result ∧ h' = h ∧ s' = s := by
  cases ends
  exact ⟨rfl, rfl, rfl⟩

theorem Ends.of_bind {p : Stateful H Act Res β} {f : β → Stateful H Act Res α}
    (ends : Ends may (p >>= f) h s value h' s') :
    ∃ first h₁ s₁, Ends may p h s first h₁ s₁ ∧ Ends may (f first) h₁ s₁ value h' s' := by
  rcases Program.Ends.of_bind ends with ⟨⟨first, h₁⟩, s₁, early, late⟩
  exact ⟨first, h₁, s₁, early, late⟩

end Ensures

/-! ### Invariants of a program -/

def Keeps (may : (act : Act) → S → Res act → S → Prop) (inv : H → S → Prop)
    (p : Stateful H Act Res α) : Prop :=
  ∀ h s, inv h s → Ensures may (fun _ h' s' => inv h' s') p h s

namespace Keeps

variable {may : (act : Act) → S → Res act → S → Prop} {inv : H → S → Prop}

theorem pure (value : α) : Keeps may inv (pure value : Stateful H Act Res α) :=
  fun _ _ holds => holds

theorem bind {p : Stateful H Act Res β} {f : β → Stateful H Act Res α} (first : Keeps may inv p)
    (rest : ∀ value, Keeps may inv (f value)) : Keeps may inv (p >>= f) :=
  fun h s holds => Ensures.bind ((first h s holds).mono fun value h' s' => rest value h' s')

theorem modify {change : H → H} (keeps : ∀ h s, inv h s → inv (change h) s) :
    Keeps may inv (modify change : Stateful H Act Res PUnit) :=
  fun h s holds => keeps h s holds

theorem perform {act : Act} (keeps : ∀ h s answer s', may act s answer s' → inv h s → inv h s') :
    Keeps may inv (perform act : Stateful H Act Res (Res act)) :=
  fun h s holds answer s' allowed => keeps h s answer s' allowed holds

theorem ite {c : Prop} [Decidable c] {p q : Stateful H Act Res α} (left : c → Keeps may inv p)
    (right : ¬c → Keeps may inv q) : Keeps may inv (if c then p else q) := by
  split
  case isTrue holds => exact left holds
  case isFalse fails => exact right fails

end Keeps

end Stateful

end ScoreCrypto
