/-
# Fallible computations and runs of a transition system

`Except` computations are taken apart with `bind_eq_ok`; a loop over a list
that may fail keeps what each of its rounds keeps (`foldlM_invariant`).

A transition system is a partial step function on states and labels.  `Reachable`
are the states that steps allowed by a guard lead to, and an invariant of the
steps holds in all of them (`Reachable.invariant`).
-/

import Mathlib.Init
import Mathlib.Logic.Basic

universe u v w

/-! ### Computations in `Except` -/

section Except

variable {ε : Type u} {α β : Type v} {x : Except ε α} {f : α → Except ε β} {a : α} {e : ε}
  {P : ε → Prop}

theorem bind_eq_ok {b : β} : (x >>= f) = .ok b ↔ ∃ a, x = .ok a ∧ f a = .ok b := by
  cases x with
  | error e =>
    constructor
    · intro h
      cases h
    · rintro ⟨a, ha, -⟩
      cases ha
  | ok a =>
    constructor
    · intro h
      exact ⟨a, rfl, h⟩
    · rintro ⟨a', ha, h⟩
      cases ha
      exact h

/-- A check that lets a computation go on. -/
theorem ite_error_eq_ok {c : Prop} [Decidable c] :
    (if c then .error e else x) = .ok a ↔ ¬ c ∧ x = .ok a := by
  by_cases hc : c
  · simp [hc]
  · simp [hc]

/-- To run a sequence, run its first part. -/
theorem exists_bind_eq_ok {P : β → Prop} (hx : x = .ok a) (hf : ∃ b, f a = .ok b ∧ P b) :
    ∃ b, (x >>= f) = .ok b ∧ P b := by
  subst hx
  exact hf

theorem pure_eq_ok {b : α} : (pure a : Except ε α) = .ok b ↔ a = b :=
  ⟨fun h => Except.ok.inj h, fun h => congrArg _ h⟩

theorem Except.toOption_eq_some (h : x.toOption = some a) : x = .ok a := by
  cases x with
  | error e => cases h
  | ok b => exact congrArg _ (Option.some.inj h)

-- What a computation returns can be computed, so what holds of its result can be decided.
instance Except.decidableExistsOk {x : Except ε α} {P : α → Prop} [DecidablePred P] :
    Decidable (∃ a, x = .ok a ∧ P a) :=
  match x with
  | .error _ => isFalse fun ⟨_, h, _⟩ => nomatch h
  | .ok a => decidable_of_iff (P a) ⟨fun h => ⟨a, rfl, h⟩, fun ⟨_, h, hP⟩ => Except.ok.inj h ▸ hP⟩

instance Option.decidableExistsSome {o : Option α} {P : α → Prop} [DecidablePred P] :
    Decidable (∃ a, o = some a ∧ P a) :=
  match o with
  | none => isFalse fun ⟨_, h, _⟩ => nomatch h
  | some a => decidable_of_iff (P a) ⟨fun h => ⟨a, rfl, h⟩, fun ⟨_, h, hP⟩ => Option.some.inj h ▸ hP⟩

/-- What holds of every result, and what can be computed of it. -/
theorem Option.exists_and_of_some {o : Option α} {P Q : α → Prop} (hP : ∀ a, o = some a → P a)
    (h : ∃ a, o = some a ∧ Q a) : ∃ a, P a ∧ Q a :=
  h.imp fun a ha => ⟨hP a ha.1, ha.2⟩

/-- What follows for a result of which something can be computed. -/
theorem Option.exists_some_of {o : Option α} {P : α → Prop} (Q : α → Prop)
    (hQ : ∃ a, o = some a ∧ Q a) (hP : ∀ a, o = some a → Q a → P a) : ∃ a, o = some a ∧ P a :=
  hQ.imp fun a ha => ⟨ha.1, hP a ha.1 ha.2⟩

theorem Option.exists_some_and {o : Option α} {P Q : α → Prop} (hQ : ∃ a, o = some a ∧ Q a)
    (hP : ∀ a, o = some a → Q a → P a) : ∃ a, o = some a ∧ P a ∧ Q a :=
  exists_some_of Q hQ fun a ha h => ⟨hP a ha h, h⟩

/-- The error of a run that fails. -/
def Except.error? : Except ε α → Option ε
  | .error e => some e
  | .ok _ => none

theorem Except.error?_eq_some : x.error? = some e ↔ x = .error e := by
  cases x with
  | error e' =>
    constructor
    · intro h
      exact congrArg _ (Option.some.inj h)
    · intro h
      cases h
      rfl
  | ok a =>
    constructor
    · intro h
      cases h
    · intro h
      cases h

/-- **A loop keeps what its rounds keep.** -/
theorem foldlM_invariant {γ : Type w} {f : α → γ → Except ε α} (P : α → Prop) :
    ∀ {l : List γ} {s s' : α},
      (∀ s x s', x ∈ l → P s → f s x = .ok s' → P s') → P s → l.foldlM f s = .ok s' → P s'
  | [], s, s', _, hs, h => by
    rw [List.foldlM_nil, pure_eq_ok] at h
    exact h ▸ hs
  | x :: l, s, s', hf, hs, h => by
    rw [List.foldlM_cons, bind_eq_ok] at h
    obtain ⟨s₁, h₁, h₂⟩ := h
    exact foldlM_invariant P (fun s y s' hy => hf s y s' (List.mem_cons_of_mem _ hy))
      (hf s x s₁ List.mem_cons_self hs h₁) h₂

/-- Every error that a computation may end with satisfies `P`. -/
def Except.FailsOnly (P : ε → Prop) (x : Except ε α) : Prop := ∀ e, x = .error e → P e

theorem Except.FailsOnly.of_eq_ok (h : x = .ok a) : x.FailsOnly P := by
  intro e he
  rw [h] at he
  cases he

/-- A sequence fails only as its parts do. -/
theorem Except.FailsOnly.bind (hx : x.FailsOnly P) (hf : ∀ a, x = .ok a → (f a).FailsOnly P) :
    (x >>= f).FailsOnly P := by
  cases x with
  | error e =>
    rintro e' ⟨⟩
    exact hx e rfl
  | ok a => exact hf a rfl

end Except

/-! ### Reachable states -/

section Reachable

variable {σ : Type u} {α : Type v}

/-- The states reached from `s₀` by steps that `guard` allows. -/
inductive Reachable (step : σ → α → Option σ) (guard : σ → α → Prop) (s₀ : σ) : σ → Prop
  | start : Reachable step guard s₀ s₀
  | next {s s' : σ} {a : α} :
    Reachable step guard s₀ s → guard s a → step s a = some s' → Reachable step guard s₀ s'

variable {step : σ → α → Option σ} {guard : σ → α → Prop} {s₀ : σ}

/-- **An invariant of the steps holds in every reachable state.** -/
theorem Reachable.invariant (I : σ → Prop) (h₀ : I s₀)
    (hstep : ∀ s a s', I s → guard s a → step s a = some s' → I s') {s : σ}
    (h : Reachable step guard s₀ s) : I s := by
  induction h with
  | start => exact h₀
  | next _ hg hs ih => exact hstep _ _ _ ih hg hs

/-- A weaker guard allows at least as many steps. -/
theorem Reachable.mono {guard' : σ → α → Prop} (hg : ∀ s a, guard s a → guard' s a) {s : σ}
    (h : Reachable step guard s₀ s) : Reachable step guard' s₀ s := by
  induction h with
  | start => exact .start
  | next _ hga hs ih => exact ih.next (hg _ _ hga) hs

/-- Take the steps of a list, one after the other. -/
def runSteps (step : σ → α → Option σ) : σ → List α → Option σ
  | s, [] => some s
  | s, a :: l => (step s a).bind fun s' => runSteps step s' l

/-- Every step of a run is allowed in the state it is taken in. -/
def Guarded (step : σ → α → Option σ) (guard : σ → α → Prop) : σ → List α → Prop
  | _, [] => True
  | s, a :: l => guard s a ∧ ∀ s', step s a = some s' → Guarded step guard s' l

instance Guarded.decidable [∀ s a, Decidable (guard s a)] :
    ∀ s l, Decidable (Guarded step guard s l)
  | _, [] => isTrue trivial
  | s, a :: l =>
    match h : step s a with
    | none => decidable_of_iff (guard s a) (by simp [Guarded, h])
    | some s' =>
      have := Guarded.decidable s' l
      decidable_of_iff (guard s a ∧ Guarded step guard s' l) (by simp [Guarded, h])

theorem Guarded.of_forall (h : ∀ s a, guard s a) : ∀ {l : List α} {s : σ}, Guarded step guard s l
  | [], _ => trivial
  | a :: _, s => ⟨h s a, fun _ _ => .of_forall h⟩

/-- A run of allowed steps leads to a reachable state. -/
theorem Reachable.of_runSteps {l : List α} {s s' : σ} (hs : Reachable step guard s₀ s)
    (hg : Guarded step guard s l) (h : runSteps step s l = some s') :
    Reachable step guard s₀ s' := by
  induction l generalizing s with
  | nil =>
    cases h
    exact hs
  | cons a l ih =>
    obtain ⟨s₁, h₁, h₂⟩ := Option.bind_eq_some_iff.1 h
    exact ih (hs.next hg.1 h₁) (hg.2 s₁ h₁) h₂

end Reachable
