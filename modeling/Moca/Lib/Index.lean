/-
# Secondary indexes

A table of records by id and an index that finds a record by one of its keys.  The
index is exact when it holds the key of every record with the id of that record, and
nothing else.  It stays exact when a record with a new key is added, when a record is
replaced and its old key dropped, and when a record is removed with its key.

Where ids come from a sequence, a table continues another when no id given out so far has
come to stand for something else.
-/

import Moca.Lib.SortedMap

universe u v w

namespace SortedMap

variable {ι : Type u} {κ : Type v} {ρ : Type w} [LinearOrder ι] [LinearOrder κ]

/-- The index holds the key of every record with its id, and nothing else. -/
def IndexOf (records : SortedMap ι ρ) (key : ρ → κ) (index : SortedMap κ ι) : Prop :=
  ∀ k i, index.find? k = some i ↔ ∃ r, records.find? i = some r ∧ key r = k

namespace IndexOf

variable {records : SortedMap ι ρ} {key : ρ → κ} {index : SortedMap κ ι} {i : ι} {k : κ} {r : ρ}
  {r' : ρ}

theorem empty (key : ρ → κ) : IndexOf (.empty : SortedMap ι ρ) key .empty := by
  intro k i
  simp

section

variable (h : IndexOf records key index)
include h

/-- The key of a record leads to it. -/
theorem find?_key (hr : records.find? i = some r) : index.find? (key r) = some i :=
  (h _ _).2 ⟨r, hr, rfl⟩

/-- **No two records share a key.** -/
theorem eq_of_key_eq {j : ι} (hr : records.find? i = some r) (hr' : records.find? j = some r')
    (hk : key r = key r') : i = j := by
  have hi := h.find?_key hr
  rw [hk, h.find?_key hr'] at hi
  exact (Option.some.inj hi).symm

/-- A key is not in the index when no record is found through it. -/
theorem find?_eq_none (hk : (index.find? k).bind records.find? = none) : index.find? k = none := by
  cases hi : index.find? k with
  | none => rfl
  | some i =>
    obtain ⟨r, hr, -⟩ := (h k i).1 hi
    rw [hi] at hk
    simp [hr] at hk

/-- **A new record with a new key.** -/
theorem insert (hi : records.find? i = none) (hk : index.find? (key r) = none) :
    IndexOf (records.insert i r) key (index.insert (key r) i) := by
  intro k j
  rw [find?_insert, find?_insert]
  by_cases hkr : k = key r
  · rw [if_pos hkr]
    constructor
    · intro hj
      cases hj
      exact ⟨r, if_pos rfl, hkr.symm⟩
    · rintro ⟨r', hr', hk'⟩
      split_ifs at hr' with hji
      · rw [hji]
      · have hfind := h.find?_key hr'
        rw [hk', hkr, hk] at hfind
        simp at hfind
  · rw [if_neg hkr, h k j]
    constructor
    · rintro ⟨r', hr', hk'⟩
      refine ⟨r', ?_, hk'⟩
      rw [if_neg]
      · exact hr'
      · rintro rfl
        rw [hi] at hr'
        simp at hr'
    · rintro ⟨r', hr', hk'⟩
      split_ifs at hr' with hji
      · cases hr'
        exact absurd hk'.symm hkr
      · exact ⟨r', hr', hk'⟩

/-- **A record removed with its key.** -/
theorem erase (hr : records.find? i = some r) :
    IndexOf (records.erase i) key (index.erase (key r)) := by
  intro k j
  rw [find?_erase, find?_erase]
  by_cases hkr : k = key r
  · rw [if_pos hkr]
    constructor
    · simp
    · rintro ⟨r', hr', hk'⟩
      split_ifs at hr' with hji
      exact absurd (h.eq_of_key_eq hr' hr (hk'.trans hkr)) hji
  · rw [if_neg hkr, h k j]
    constructor
    · rintro ⟨r', hr', hk'⟩
      refine ⟨r', ?_, hk'⟩
      rw [if_neg]
      · exact hr'
      · rintro rfl
        rw [hr] at hr'
        cases hr'
        exact hkr hk'.symm
    · rintro ⟨r', hr', hk'⟩
      split_ifs at hr' with hji
      exact ⟨r', hr', hk'⟩

/-- **A record replaced by another.**  Its old key is dropped, and the new one does not lead to
another record. -/
theorem replace (hr : records.find? i = some r) (hk : ∀ j, index.find? (key r') = some j → j = i) :
    IndexOf (records.insert i r') key ((index.erase (key r)).insert (key r') i) := by
  have hdropped := h.erase hr
  rw [← insert_erase_self]
  apply hdropped.insert
  · exact find?_erase_self ..
  · rw [find?_erase]
    split_ifs with heq
    · rfl
    · cases hj : index.find? (key r') with
      | none => rfl
      | some j =>
        -- the new key leads to the record itself, so it is the old key
        obtain rfl := hk j hj
        obtain ⟨r'', hr'', hkey⟩ := (h _ _).1 hj
        rw [hr] at hr''
        cases hr''
        exact absurd hkey.symm heq

/-- A record replaced by another with the same key. -/
theorem replace_same (hr : records.find? i = some r) (hk : key r' = key r) :
    IndexOf (records.insert i r') key index := by
  have hold := h.find?_key hr
  have hnew : IndexOf (records.insert i r') key ((index.erase (key r)).insert (key r') i) := by
    apply h.replace hr
    intro j hj
    rw [hk, hold] at hj
    exact (Option.some.inj hj).symm
  rw [hk, insert_erase_self, insert_eq_self hold] at hnew
  exact hnew

end

end IndexOf

/-! ### Records numbered by a sequence -/

/-- **The ids up to `n` stand for what they stood for.**  A later record under one of them was there
before, with the same `ident`; an id whose record is gone stays free. -/
structure Continues {α : Type v} (ident : ρ → α) (n : ℕ) (m : SortedMap ℕ ρ) (n' : ℕ)
    (m' : SortedMap ℕ ρ) : Prop where
  le : n ≤ n'
  kept : ∀ id r', id ≤ n → m'.find? id = some r' →
    ∃ r, m.find? id = some r ∧ ident r' = ident r

namespace Continues

variable {α : Type v} {ident : ρ → α} {n n₁ n' i : ℕ} {m m₁ m' : SortedMap ℕ ρ} {r r' : ρ}

theorem refl : Continues ident n m n m := ⟨le_rfl, fun _ r' _ hr' => ⟨r', hr', rfl⟩⟩

theorem trans (h : Continues ident n m n₁ m₁) (h' : Continues ident n₁ m₁ n' m') :
    Continues ident n m n' m' := by
  refine ⟨h.le.trans h'.le, fun id r' hid hr' => ?_⟩
  obtain ⟨r₁, hr₁, hident'⟩ := h'.kept id r' (hid.trans h.le) hr'
  obtain ⟨r, hr, hident⟩ := h.kept id r₁ hid hr₁
  exact ⟨r, hr, hident'.trans hident⟩

/-- A record under the next id. -/
theorem append (r : ρ) : Continues ident n m (n + 1) (m.insert (n + 1) r) := by
  refine ⟨n.le_succ, fun id r' hid hr' => ⟨r', ?_, rfl⟩⟩
  rwa [find?_insert_of_ne _ _ (by omega)] at hr'

theorem edit (hr : m.find? i = some r) (hident : ident r' = ident r) :
    Continues ident n m n (m.insert i r') := by
  refine ⟨le_rfl, fun id r₁ _ hr₁ => ?_⟩
  rw [find?_insert] at hr₁
  split_ifs at hr₁ with hid
  · cases hr₁
    exact ⟨r, hid ▸ hr, hident⟩
  · exact ⟨r₁, hr₁, rfl⟩

theorem erase : Continues ident n m n (m.erase i) :=
  ⟨le_rfl, fun _ r' _ hr' => ⟨r', find?_of_erase hr', rfl⟩⟩

end Continues

end SortedMap
