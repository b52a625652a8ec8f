/-
# Byte strings of numbers

`bigEndian n` is the shortest big-endian byte string of `n`, which is empty for zero;
`ofBigEndian` reads any byte string back.  `lengthPrefixed` puts the length in front, as one
byte, and leaves the empty string as it is: a length-prefixed string in front of a string of
known length can be told from it (`lengthPrefixed_append_inj`).

`fixed k n` has exactly `k` bytes; such strings compare as their numbers do
(`fixed_strictMonoOn`).
-/

import Mathlib.Data.Nat.Digits.Defs
import Mathlib.Data.Nat.Digits.Lemmas
import Mathlib.Data.List.Lex
import Mathlib.Order.Monotone.Basic

/-- A byte string. -/
abbrev Bytes := List (Fin 256)

namespace Bytes

/-- The low byte of a number. -/
def low (n : ℕ) : Fin 256 := ⟨n % 256, Nat.mod_lt n (by omega)⟩

/-- The byte zero. -/
def zero : Fin 256 := low 0

/-- The bytes of a number, the highest first, without leading zeros. -/
def bigEndian (n : ℕ) : Bytes := (Nat.digits 256 n).reverse.map low

/-- The number of a byte string. -/
def ofBigEndian (b : Bytes) : ℕ := Nat.ofDigits 256 (b.reverse.map Fin.val)

theorem map_val_low {l : List ℕ} (h : ∀ d ∈ l, d < 256) : (l.map low).map Fin.val = l := by
  induction l with
  | nil => rfl
  | cons d l ih =>
    have hd : d % 256 = d := Nat.mod_eq_of_lt (h d List.mem_cons_self)
    have hl := ih fun x hx => h x (List.mem_cons_of_mem _ hx)
    simp only [List.map_cons, low, hd, hl]

@[simp] theorem ofBigEndian_bigEndian (n : ℕ) : ofBigEndian (bigEndian n) = n := by
  have h : ∀ d ∈ Nat.digits 256 n, d < 256 := fun d hd => Nat.digits_lt_base (by omega) hd
  rw [ofBigEndian, bigEndian, ← List.map_reverse, List.reverse_reverse, map_val_low h,
    Nat.ofDigits_digits]

theorem bigEndian_injective : Function.Injective bigEndian :=
  Function.LeftInverse.injective ofBigEndian_bigEndian

variable {k n : ℕ} {b c b' : Bytes}

theorem length_bigEndian_le (h : n < 256 ^ k) : (bigEndian n).length ≤ k := by
  have hdigits := (Nat.digits_length_le_iff (k := k) (by omega : 1 < 256) n).2 h
  rw [bigEndian, List.length_map, List.length_reverse]
  exact hdigits

theorem bigEndian_eq_nil (h : bigEndian n = []) : n = 0 := by
  have hn := ofBigEndian_bigEndian n
  rw [h] at hn
  exact hn.symm

/-! ### A fixed number of bytes -/

/-- The lowest `k` bytes of a number, the highest first: `binary.BigEndian.PutUint64` for
eight. -/
def fixed : ℕ → ℕ → Bytes
  | 0, _ => []
  | k + 1, n => low (n / 256 ^ k) :: fixed k (n % 256 ^ k)

@[simp] theorem length_fixed (k n : ℕ) : (fixed k n).length = k := by
  induction k generalizing n with
  | zero => rfl
  | succ k ih => rw [fixed, List.length_cons, ih]

/-- The number that is read back. -/
@[simp] theorem ofBigEndian_fixed (h : n < 256 ^ k) : ofBigEndian (fixed k n) = n := by
  induction k generalizing n with
  | zero =>
    rw [pow_zero] at h
    simp [fixed, ofBigEndian]
    omega
  | succ k ih =>
    have hpos : 0 < 256 ^ k := by positivity
    have hq : n / 256 ^ k < 256 := Nat.div_lt_of_lt_mul (by rw [pow_succ] at h; omega)
    have hr := ih (Nat.mod_lt n hpos)
    unfold ofBigEndian at hr ⊢
    rw [fixed, List.reverse_cons, List.map_append, Nat.ofDigits_append, hr]
    simp only [List.length_map, List.length_reverse, length_fixed, List.map_cons, List.map_nil,
      Nat.ofDigits_singleton, low, Nat.mod_eq_of_lt hq]
    exact Nat.mod_add_div n (256 ^ k)

/-- **The order of the bytes is that of the numbers.** -/
theorem fixed_strictMonoOn (k : ℕ) : StrictMonoOn (fixed k) {n | n < 256 ^ k} := by
  induction k with
  | zero =>
    rintro a ha b hb hab
    simp only [pow_zero, Set.mem_ofPred_eq] at ha hb
    omega
  | succ k ih =>
    rintro a ha b hb hab
    have hpos : 0 < 256 ^ k := by positivity
    have hqa : a / 256 ^ k < 256 := Nat.div_lt_of_lt_mul (by
      rw [Set.mem_ofPred_eq, pow_succ] at ha; omega)
    have hqb : b / 256 ^ k < 256 := Nat.div_lt_of_lt_mul (by
      rw [Set.mem_ofPred_eq, pow_succ] at hb; omega)
    rw [fixed, fixed]
    -- the first bytes differ, or the rests do
    rcases (Nat.div_le_div_right (c := 256 ^ k) hab.le).lt_or_eq with hlt | heq
    · refine List.cons_lt_cons_iff.2 (Or.inl ?_)
      show a / 256 ^ k % 256 < b / 256 ^ k % 256
      rw [Nat.mod_eq_of_lt hqa, Nat.mod_eq_of_lt hqb]
      exact hlt
    · rw [heq]
      refine List.cons_lt_cons_iff.2 (Or.inr ⟨rfl, ih (Nat.mod_lt a hpos) (Nat.mod_lt b hpos) ?_⟩)
      have hda := Nat.div_add_mod a (256 ^ k)
      have hdb := Nat.div_add_mod b (256 ^ k)
      rw [heq] at hda
      omega

/-! ### Strings with their length -/

/-- A byte string with its length in front; the empty string stays empty. -/
def lengthPrefixed (b : Bytes) : Bytes :=
  if b.length = 0 then b else low b.length :: b

theorem lengthPrefixed_injective : Function.Injective lengthPrefixed := by
  intro b b' h
  unfold lengthPrefixed at h
  split_ifs at h with hb hb' hb'
  · exact h
  · rw [List.length_eq_zero_iff.1 hb] at h
    cases h
  · rw [List.length_eq_zero_iff.1 hb'] at h
    cases h
  · exact (List.cons.inj h).2

/-- **The string after a length-prefixed one is known by its length.** -/
theorem lengthPrefixed_append_inj {c' : Bytes} (hlen : c.length = c'.length)
    (h : lengthPrefixed b ++ c = lengthPrefixed b' ++ c') : b = b' ∧ c = c' := by
  obtain ⟨hb, hc⟩ := List.append_inj' h hlen
  exact ⟨lengthPrefixed_injective hb, hc⟩

/-- **A length-prefixed string is known from what follows.** -/
theorem eq_of_lengthPrefixed_prefix (hb : b ≠ []) (hb' : b' ≠ []) (hlen : b.length < 256)
    (hlen' : b'.length < 256) (h : lengthPrefixed b <+: lengthPrefixed b' ++ c) : b = b' := by
  rw [lengthPrefixed, lengthPrefixed, if_neg (mt List.length_eq_zero_iff.1 hb),
    if_neg (mt List.length_eq_zero_iff.1 hb'), List.cons_append, List.cons_prefix_cons] at h
  obtain ⟨hhead, htail⟩ := h
  have hsame : b.length = b'.length := by
    have hval : b.length % 256 = b'.length % 256 := congrArg Fin.val hhead
    omega
  exact (List.append_inj (List.prefix_iff_eq_append.1 htail |>.trans rfl) hsame).1

end Bytes
