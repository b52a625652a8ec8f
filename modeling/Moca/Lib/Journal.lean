/-
# Undo journals

A program keeps, beside its state, a list of entries, each with what is needed to
undo one change, and goes back to an earlier state by undoing the entries made since,
the newest first.  What it comes back to is often not the earlier state itself: caches
have been filled, values written and written back.  So the states are compared by a
relation `Le s t`, "`t` is as good as `s`", and undoing an entry has to respect it
(`Respects`).

`Undoable undo Ok Le s₀ es s` says that undoing `es` in `s`, newest first, is possible
and leads to a state as good as `s₀`.  It holds of no entries (`Undoable.nil`), it is
kept when the state gets better (`Undoable.le`) and when a change adds an entry that
undoes it (`Undoable.cons`), and undoing part of the entries keeps it for the rest
(`Undoable.rewind`).  Nothing else is needed for a revert inside a revert.
-/

import Moca.Lib.Run

namespace Moca

universe u v w

variable {σ : Type u} {ε : Type v} {π : Type w}

/-- Undo some entries, the first of the list first. -/
def rewind (undo : ε → σ → Except π σ) : List ε → σ → Except π σ
  | [], s => .ok s
  | e :: es, s => do
    let t ← undo e s
    rewind undo es t

/-- **Undoing respects the comparison**: in a state as good as `s`, an entry that can be undone
in `s` can be undone too, with as good a result.  Only results that are `Ok` are of interest. -/
structure Respects (undo : ε → σ → Except π σ) (Ok : σ → Prop) (Le : σ → σ → Prop) : Prop where
  trans : ∀ {s t u}, Le s t → Le t u → Le s u
  undo : ∀ {e s s' t}, Le s s' → Ok s' → undo e s = .ok t → Ok t →
    ∃ t', undo e s' = .ok t' ∧ Ok t' ∧ Le t t'

/-- Undoing the entries in `s` leads to `u`, through states that are `Ok`. -/
inductive Rewinds (undo : ε → σ → Except π σ) (Ok : σ → Prop) : List ε → σ → σ → Prop
  | nil (s : σ) : Rewinds undo Ok [] s s
  | cons {e : ε} {es : List ε} {s t u : σ} :
    undo e s = .ok t → Ok t → Rewinds undo Ok es t u → Rewinds undo Ok (e :: es) s u

/-- **The entries lead back**: undoing them in `s` gives a state as good as `s₀`. -/
def Undoable (undo : ε → σ → Except π σ) (Ok : σ → Prop) (Le : σ → σ → Prop) (s₀ : σ)
    (es : List ε) (s : σ) : Prop :=
  ∃ u, Rewinds undo Ok es s u ∧ Le s₀ u

variable {undo : ε → σ → Except π σ} {Ok : σ → Prop} {Le : σ → σ → Prop} {s₀ s s' t : σ}
  {e : ε} {es es' : List ε}

theorem Rewinds.rewind_eq {u : σ} (h : Rewinds undo Ok es s u) : rewind undo es s = .ok u := by
  induction h with
  | nil s => rfl
  | cons hundo _ _ ih =>
    rw [rewind, hundo]
    exact ih

theorem Rewinds.ok {u : σ} (h : Rewinds undo Ok es s u) (hs : Ok s) : Ok u := by
  induction h with
  | nil s => exact hs
  | cons _ ht _ ih => exact ih ht

theorem Rewinds.split {u : σ} (h : Rewinds undo Ok (es ++ es') s u) :
    ∃ t, Rewinds undo Ok es s t ∧ Rewinds undo Ok es' t u := by
  induction es generalizing s with
  | nil => exact ⟨s, .nil s, h⟩
  | cons e es ih =>
    cases h with
    | cons hundo ht hrest =>
      obtain ⟨t, h₁, h₂⟩ := ih hrest
      exact ⟨t, .cons hundo ht h₁, h₂⟩

theorem Rewinds.le (hr : Respects undo Ok Le) {u : σ} (h : Rewinds undo Ok es s u) (hle : Le s s')
    (hs' : Ok s') : ∃ u', Rewinds undo Ok es s' u' ∧ Le u u' := by
  induction h generalizing s' with
  | nil s => exact ⟨s', .nil s', hle⟩
  | cons hundo ht _ ih =>
    obtain ⟨t', hundo', ht', hle'⟩ := hr.undo hle hs' hundo ht
    obtain ⟨u', hu', hle''⟩ := ih hle' ht'
    exact ⟨u', .cons hundo' ht' hu', hle''⟩

theorem Undoable.nil (hle : Le s₀ s) : Undoable undo Ok Le s₀ [] s := ⟨s, .nil s, hle⟩

section

variable (hr : Respects undo Ok Le) (h : Undoable undo Ok Le s₀ es s)
include hr h

/-- A state that gets better can still be undone. -/
theorem Undoable.le (hle : Le s s') (hs' : Ok s') : Undoable undo Ok Le s₀ es s' := by
  obtain ⟨u, hu, hle₀⟩ := h
  obtain ⟨u', hu', hle'⟩ := hu.le hr hle hs'
  exact ⟨u', hu', hr.trans hle₀ hle'⟩

/-- **A change with an entry that undoes it** can be undone with what came before. -/
theorem Undoable.cons (hundo : undo e s' = .ok t) (ht : Ok t) (hle : Le s t) :
    Undoable undo Ok Le s₀ (e :: es) s' := by
  obtain ⟨u, hu, hle₀⟩ := h.le hr hle ht
  exact ⟨u, .cons hundo ht hu, hle₀⟩

/-- What leads back to `s` leads back to where `s` came from, with the entries of both. -/
theorem Undoable.trans (h' : Undoable undo Ok Le s es' s') (hs' : Ok s') :
    Undoable undo Ok Le s₀ (es' ++ es) s' := by
  obtain ⟨u, hu, hle⟩ := h'
  have hback := h.le hr hle (hu.ok hs')
  clear hle h
  induction hu with
  | nil s => exact hback
  | cons hundo ht _ ih =>
    obtain ⟨v, hv, hle₀⟩ := ih ht hback
    exact ⟨v, .cons hundo ht hv, hle₀⟩

end

/-- **Undoing the newest entries** is possible, and the rest can be undone after that. -/
theorem Undoable.rewind (h : Undoable undo Ok Le s₀ (es ++ es') s) (hs : Ok s) :
    ∃ t, Moca.rewind undo es s = .ok t ∧ Ok t ∧ Undoable undo Ok Le s₀ es' t := by
  obtain ⟨u, hu, hle₀⟩ := h
  obtain ⟨t, h₁, h₂⟩ := hu.split
  exact ⟨t, h₁.rewind_eq, h₁.ok hs, u, h₂, hle₀⟩

end Moca
