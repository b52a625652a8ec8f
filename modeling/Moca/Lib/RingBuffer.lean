/-
# Ring buffers in a key value store

A buffer of a fixed number of slots, written one after the other in a circle: the
cursor is the slot written last.  It is read from the slot after the cursor on, once
around, where slots not written yet are skipped, so the oldest entry comes first.

`toList_push` says what a write does to what is read: the entry in the slot is
dropped, the new one comes last.  A buffer that starts empty is packed: as long as it
is not full, its entries are in the slots before the next one.  So what is read after a
write are the last entries of what was read before and the new one (`Packed.toList_push`).
-/

import Moca.Lib.SortedMap
import Mathlib.Data.List.DropRight

universe u

structure RingBuffer (α : Type u) where
  size : ℕ
  cursor : Option ℕ
  slots : SortedMap ℕ α
  size_pos : 0 < size
  cursor_lt : ∀ c ∈ cursor, c < size
  unwritten : cursor = none → slots = .empty

namespace RingBuffer

variable {α : Type u} {r : RingBuffer α}

def empty (size : ℕ) (h : 0 < size) : RingBuffer α := ⟨size, none, .empty, h, by simp, fun _ => rfl⟩

/-- The slot that is written next. -/
def next (r : RingBuffer α) : ℕ :=
  match r.cursor with
  | none => 0
  | some c => (c + 1) % r.size

theorem next_lt (r : RingBuffer α) : r.next < r.size := by
  unfold next
  cases r.cursor with
  | none => exact r.size_pos
  | some c => exact Nat.mod_lt _ r.size_pos

def push (r : RingBuffer α) (a : α) : RingBuffer α where
  size := r.size
  cursor := some r.next
  slots := r.slots.insert r.next a
  size_pos := r.size_pos
  cursor_lt := by
    rintro c ⟨⟩
    exact r.next_lt
  unwritten := nofun

/-- Read on from `current` until `cursor` has been read, at most `rounds` times. -/
def readFrom (r : RingBuffer α) (cursor : ℕ) : ℕ → ℕ → List α
  | 0, _ => []
  | rounds + 1, current =>
    let current := (current + 1) % r.size
    (r.slots.find? current).toList ++
      if current = cursor then [] else r.readFrom cursor rounds current

/-- The entries, oldest first. -/
def toList (r : RingBuffer α) : List α :=
  match r.cursor with
  | none => []
  | some cursor => r.readFrom cursor r.size cursor

/-- Going around by `d` slots comes back only if `d` is a multiple of the size. -/
theorem mod_ne_self {size c d : ℕ} (hc : c < size) (hd : 0 < d) (hlt : d < size) :
    (c + d) % size ≠ c := by
  rcases Nat.lt_or_ge (c + d) size with h | h
  · rw [Nat.mod_eq_of_lt h]
    omega
  · rw [Nat.mod_eq_sub_mod h, Nat.mod_eq_of_lt (by omega)]
    omega

/-- The last `n` rounds of reading: induction on their number, where the first of them starts
`n` slots before the cursor. -/
theorem readFrom_eq (r : RingBuffer α) {cursor : ℕ} (hc : cursor < r.size) :
    ∀ n, n ≤ r.size → r.readFrom cursor n ((cursor + (r.size - n)) % r.size) =
      (List.range n).filterMap fun i => r.slots.find? ((cursor + (r.size - n) + 1 + i) % r.size)
  | 0, _ => rfl
  | n + 1, hn => by
    have hnext : ((cursor + (r.size - (n + 1))) % r.size + 1) % r.size =
        (cursor + (r.size - n)) % r.size := by
      rw [Nat.mod_add_mod]
      congr 1
      omega
    have hshift : ∀ i, cursor + (r.size - (n + 1)) + 1 + i = cursor + (r.size - n) + i := by omega
    have hrest : (if (cursor + (r.size - n)) % r.size = cursor then []
        else r.readFrom cursor n ((cursor + (r.size - n)) % r.size)) =
        (List.range n).filterMap fun i =>
          r.slots.find? ((cursor + (r.size - n) + 1 + i) % r.size) := by
      rcases Nat.eq_zero_or_pos n with rfl | hpos
      · simp [Nat.mod_eq_of_lt hc]
      · rw [if_neg (mod_ne_self hc (by omega) (by omega)), readFrom_eq r hc n (by omega)]
    rw [readFrom, hnext, hrest, List.range_succ_eq_map]
    simp only [hshift, List.filterMap_cons, List.filterMap_map, Nat.add_zero]
    cases hfirst : r.slots.find? ((cursor + (r.size - n)) % r.size) <;>
      simp [Nat.add_assoc, Nat.add_comm 1]

/-- The entries are the slots in the order of writing. -/
theorem toList_eq (r : RingBuffer α) : r.toList =
    (List.range r.size).filterMap fun i => r.slots.find? ((r.next + i) % r.size) := by
  unfold toList next
  cases hcursor : r.cursor with
  | none => simp [r.unwritten hcursor]
  | some c =>
    have hc := r.cursor_lt c hcursor
    have hread := r.readFrom_eq hc r.size le_rfl
    rw [Nat.sub_self, Nat.add_zero, Nat.mod_eq_of_lt hc] at hread
    simp [hread]

/-- **A write drops the entry in its slot and comes last.** -/
theorem toList_push (r : RingBuffer α) (a : α) :
    ∃ rest, r.toList = (r.slots.find? r.next).toList ++ rest ∧ (r.push a).toList = rest ++ [a] := by
  obtain ⟨n, hn⟩ : ∃ n, r.size = n + 1 := ⟨r.size - 1, by have := r.size_pos; omega⟩
  have hlt := r.next_lt
  have hpush : (r.push a).next = (r.next + 1) % r.size := rfl
  refine ⟨(List.range n).filterMap fun i => r.slots.find? ((r.next + (i + 1)) % r.size), ?_, ?_⟩
  · rw [toList_eq, hn, List.range_succ_eq_map, ← hn]
    simp only [List.filterMap_cons, List.filterMap_map, Nat.add_zero, Nat.mod_eq_of_lt hlt]
    cases r.slots.find? r.next <;> simp
  · have hround : (r.next + 1 + n) % r.size = r.next := by
      rw [hn, Nat.add_assoc, Nat.add_comm 1, Nat.add_mod_right, Nat.mod_eq_of_lt (hn ▸ hlt)]
    have hslots : ∀ i, (r.push a).slots.find? (((r.push a).next + i) % r.size) =
        if (r.next + (i + 1)) % r.size = r.next then some a
        else r.slots.find? ((r.next + (i + 1)) % r.size) := by
      intro i
      rw [hpush, Nat.mod_add_mod, Nat.add_assoc, Nat.add_comm 1]
      exact SortedMap.find?_insert _ _ _ _
    have hsize : (r.push a).size = n + 1 := hn
    rw [toList_eq, hsize, List.range_succ, List.filterMap_append, ← hn]
    simp only [hslots, List.filterMap_cons, List.filterMap_nil]
    rw [Nat.add_comm n 1, ← Nat.add_assoc, if_pos hround]
    congr 1
    refine List.filterMap_congr fun i hi => ?_
    rw [if_neg (mod_ne_self hlt (by omega) ?_)]
    have hin := List.mem_range.1 hi
    omega

theorem toList_push_sublist (r : RingBuffer α) (a : α) : (r.push a).toList.Sublist (r.toList ++ [a]) := by
  obtain ⟨rest, hbefore, hafter⟩ := r.toList_push a
  rw [hbefore, hafter, List.append_assoc]
  exact List.sublist_append_right _ _

/-! ### Buffers that start empty -/

/-- All slots are written, or those before the next one. -/
def Packed (r : RingBuffer α) : Prop :=
  (∀ i < r.size, (r.slots.find? i).isSome) ∨ ∀ i, (r.slots.find? i).isSome ↔ i < r.next

theorem packed_empty (size : ℕ) (h : 0 < size) : (empty size h : RingBuffer α).Packed :=
  .inr fun i => by simp [empty, next]

theorem Packed.push (h : r.Packed) (a : α) : (r.push a).Packed := by
  have hfind : ∀ i, ((r.push a).slots.find? i).isSome ↔ i = r.next ∨ (r.slots.find? i).isSome := by
    intro i
    show ((r.slots.insert r.next a).find? i).isSome ↔ _
    rw [SortedMap.find?_insert]
    split_ifs with hi
    · simp [hi]
    · simp [hi]
  rcases h with hfull | hpart
  · exact .inl fun i hi => (hfind i).2 (.inr (hfull i hi))
  · have hnext : (r.push a).next = (r.next + 1) % r.size := rfl
    have hlt := r.next_lt
    rcases Nat.lt_or_ge (r.next + 1) r.size with hroom | hlast
    · refine .inr fun i => ?_
      rw [hfind, hpart, hnext, Nat.mod_eq_of_lt hroom]
      omega
    · -- the last slot was written
      refine .inl fun i hi => (hfind i).2 ?_
      rw [hpart]
      have hi' : i < r.size := hi
      omega

theorem length_toList_le (r : RingBuffer α) : r.toList.length ≤ r.size := by
  rw [toList_eq]
  exact (List.length_filterMap_le _ _).trans_eq List.length_range

/-- The slot that is written next is free exactly as long as the buffer is not full. -/
theorem Packed.find?_next (h : r.Packed) :
    r.slots.find? r.next = none ∨ r.toList.length = r.size := by
  rcases h with hfull | hpart
  · refine .inr ?_
    rw [toList_eq, List.length_filterMap_eq_countP, List.countP_eq_length.2, List.length_range]
    exact fun i _ => hfull _ (Nat.mod_lt _ r.size_pos)
  · refine .inl (Option.not_isSome_iff_eq_none.1 fun hsome => ?_)
    exact absurd ((hpart _).1 hsome) (Nat.lt_irrefl _)

/-- **After a write the last entries are read**, as many as there are slots. -/
theorem Packed.toList_push (h : r.Packed) (a : α) :
    (r.push a).toList = (r.toList ++ [a]).rtake r.size := by
  obtain ⟨rest, hbefore, hafter⟩ := r.toList_push a
  have hlen := r.length_toList_le
  have hlen' := (r.push a).length_toList_le
  have hsize : (r.push a).size = r.size := rfl
  rw [hafter, List.length_append, List.length_singleton, hsize] at hlen'
  unfold List.rtake
  rw [hafter]
  rcases h.find?_next with hnone | hfull
  · rw [hnone, Option.toList_none, List.nil_append] at hbefore
    rw [hbefore, List.length_append, List.length_singleton, Nat.sub_eq_zero_of_le hlen',
      List.drop_zero]
  · cases hfind : r.slots.find? r.next with
    | none =>
      rw [hfind, Option.toList_none, List.nil_append] at hbefore
      rw [hbefore] at hfull
      omega
    | some b =>
      rw [hfind, Option.toList_some] at hbefore
      rw [List.length_append, List.length_singleton, hfull, Nat.add_sub_cancel_left, hbefore]
      rfl

/-- Of a list that is cut and goes on, the last entries are those of the whole. -/
theorem rtake_append_rtake (l l' : List α) (n : ℕ) : (l.rtake n ++ l').rtake n = (l ++ l').rtake n := by
  simp only [List.rtake_eq_reverse_take_reverse, List.reverse_append, List.reverse_reverse,
    List.take_append, List.take_take, List.length_reverse]
  rw [min_eq_left (Nat.sub_le _ _)]

/-- **Writing a list** leaves its last entries. -/
theorem Packed.foldl_push : ∀ {l : List α} {r : RingBuffer α}, r.Packed →
    (l.foldl .push r).Packed ∧ (l.foldl .push r).size = r.size ∧
      (l.foldl .push r).toList = (r.toList ++ l).rtake r.size
  | [], r, h => by
    refine ⟨h, rfl, ?_⟩
    have hlen := r.length_toList_le
    rw [List.append_nil, List.rtake, Nat.sub_eq_zero_of_le hlen, List.drop_zero]
    rfl
  | a :: l, r, h => by
    obtain ⟨hpacked, hsize, hlist⟩ := foldl_push (l := l) (h.push a)
    refine ⟨hpacked, hsize, ?_⟩
    rw [List.foldl_cons, hlist, h.toList_push a]
    show ((r.toList ++ [a]).rtake r.size ++ l).rtake r.size = _
    rw [rtake_append_rtake, List.append_assoc]
    rfl

end RingBuffer
