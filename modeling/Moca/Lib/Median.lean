/-
# The middle of a sorted list

An element of a sorted list is at least `a` if no more elements are below `a` than stand before it,
and at most `b` if fewer are above `b` than stand from it on.  So when more than half of the
elements lie in an interval, the one or two in the middle do (`getElem_mem_of_majority`).
-/

import Mathlib.Data.List.Sort

namespace Moca

variable {α : Type} [LinearOrder α] {a b : α} {i : ℕ} {l : List α}

theorem le_getElem_of_countP_le (hl : l.SortedLE) (hi : i < l.length)
    (h : l.countP (fun x => decide (x < a)) ≤ i) : a ≤ l[i] := by
  by_contra hlt
  -- then the elements up to this one are all below `a`
  have hall : (l.take (i + 1)).countP (fun x => decide (x < a)) = (l.take (i + 1)).length := by
    refine List.countP_eq_length.2 fun x hx => decide_eq_true ?_
    obtain ⟨k, hk, rfl⟩ := List.mem_take_iff_getElem.1 hx
    have hki : l[k] ≤ l[i] := hl.getElem_le_getElem_of_le (by omega)
    exact lt_of_le_of_lt hki (not_le.1 hlt)
  have hle : (l.take (i + 1)).countP (fun x => decide (x < a)) ≤ l.countP _ :=
    (List.take_sublist (i + 1) l).countP_le
  rw [hall, List.length_take] at hle
  omega

theorem getElem_le_of_countP_lt (hl : l.SortedLE) (hi : i < l.length)
    (h : i + l.countP (fun x => decide (b < x)) < l.length) : l[i] ≤ b := by
  by_contra hlt
  -- then the elements from this one on are all above `b`
  have hall : (l.drop i).countP (fun x => decide (b < x)) = (l.drop i).length := by
    refine List.countP_eq_length.2 fun x hx => decide_eq_true ?_
    obtain ⟨k, hk, rfl⟩ := List.mem_drop_iff_getElem.1 hx
    have hik : l[i] ≤ l[i + k] := hl.getElem_le_getElem_of_le (by omega)
    exact lt_of_lt_of_le (not_le.1 hlt) hik
  have hle : (l.drop i).countP (fun x => decide (b < x)) ≤ l.countP _ :=
    (List.drop_sublist i l).countP_le
  rw [hall, List.length_drop] at hle
  omega

/-- What excludes each other is counted once. -/
theorem countP_add_countP_le {β : Type} {l : List β} {p q : β → Bool}
    (h : ∀ x, p x = true → ¬q x = true) :
    l.countP p + l.countP q ≤ l.length := by
  have hq : l.countP p ≤ l.countP fun x => !q x :=
    List.countP_mono_left fun x _ hp => by simpa using h x hp
  have hlen := List.length_eq_countP_add_countP q (l := l)
  simp only [Bool.not_eq_true, Bool.decide_eq_false] at hlen
  omega

/-- **A majority in an interval keeps the middle there.** -/
theorem getElem_mem_of_majority (hl : l.SortedLE)
    (hmajority : l.length < 2 * l.countP fun x => decide (a ≤ x ∧ x ≤ b)) (hi : i < l.length)
    (hlow : l.length ≤ 2 * (i + 1)) (hhigh : 2 * i ≤ l.length) : a ≤ l[i] ∧ l[i] ≤ b := by
  have hbelow : l.countP (fun x => decide (x < a)) +
      l.countP (fun x => decide (a ≤ x ∧ x ≤ b)) ≤ l.length :=
    countP_add_countP_le fun x hx hin =>
      absurd (of_decide_eq_true hin).1 (not_le.2 (of_decide_eq_true hx))
  have habove : l.countP (fun x => decide (b < x)) +
      l.countP (fun x => decide (a ≤ x ∧ x ≤ b)) ≤ l.length :=
    countP_add_countP_le fun x hx hin =>
      absurd (of_decide_eq_true hin).2 (not_le.2 (of_decide_eq_true hx))
  exact ⟨le_getElem_of_countP_le hl hi (by omega), getElem_le_of_countP_lt hl hi (by omega)⟩

end Moca
