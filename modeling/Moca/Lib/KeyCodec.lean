/-
# Keys in byte order

A store keeps its entries in the order of the bytes of their keys.  `Encodes f S st m` says that
the store `st` holds under `f k` what the map `m` holds under `k`, for keys in `S`.  If `f` is
strictly monotone on `S`, writes to the two go together (`Encodes.insert`), and a reverse iterator
over the store meets the entry that it would meet in the map (`Encodes.entryBefore`).

`WrittenAt T m m'` says that `m'` is `m` after writes at keys in `T`.  Writes at keys from `k` on
leave alone what a reverse iterator that ends at `k` meets (`WrittenAt.entryBefore`).
-/

import Moca.Lib.SortedMap

universe u v w

namespace SortedMap

variable {κ : Type u} {κ' : Type v} {ν : Type w} [LinearOrder κ] [LinearOrder κ'] {k : κ}

/-! ### Writes at some keys -/

/-- The map `m'` is `m` after writes at keys in `T`. -/
def WrittenAt (T : Set κ) (m m' : SortedMap κ ν) : Prop :=
  ∃ l : List (κ × ν), (∀ e ∈ l, e.1 ∈ T) ∧ m' = l.foldl (fun m e => m.insert e.1 e.2) m

section WrittenAt

variable {T : Set κ} {m m₁ m' : SortedMap κ ν}

theorem WrittenAt.refl (T : Set κ) (m : SortedMap κ ν) : WrittenAt T m m := ⟨[], by simp, rfl⟩

theorem WrittenAt.of_eq (h : m' = m) : WrittenAt T m m' := h ▸ .refl T m

theorem WrittenAt.insert (m : SortedMap κ ν) (v : ν) (h : k ∈ T) : WrittenAt T m (m.insert k v) :=
  ⟨[(k, v)], by simpa using h, rfl⟩

theorem WrittenAt.trans (h : WrittenAt T m m₁) (h' : WrittenAt T m₁ m') : WrittenAt T m m' := by
  obtain ⟨l, hl, rfl⟩ := h
  obtain ⟨l', hl', rfl⟩ := h'
  refine ⟨l ++ l', fun e he => ?_, (List.foldl_append ..).symm⟩
  rcases List.mem_append.1 he with he | he
  · exact hl e he
  · exact hl' e he

theorem WrittenAt.mono {T' : Set κ} (h : WrittenAt T m m') (hT : T ⊆ T') : WrittenAt T' m m' := by
  obtain ⟨l, hl, rfl⟩ := h
  exact ⟨l, fun e he => hT (hl e he), rfl⟩

/-- **Writes at later keys do not change what comes last before a key.** -/
theorem WrittenAt.entryBefore (h : WrittenAt T m m') (hk : ∀ t ∈ T, k ≤ t) :
    m'.entryBefore k = m.entryBefore k := by
  obtain ⟨l, hl, rfl⟩ := h
  induction l generalizing m with
  | nil => rfl
  | cons e l ih =>
    rw [List.foldl_cons, ih fun x hx => hl x (List.mem_cons_of_mem _ hx)]
    exact entryBefore_insert_of_le m e.2 (hk _ (hl e List.mem_cons_self))

theorem WrittenAt.latestBefore (h : WrittenAt T m m') (hk : ∀ t ∈ T, k ≤ t) :
    m'.latestBefore k = m.latestBefore k := by
  rw [latestBefore_eq, latestBefore_eq, h.entryBefore hk]

end WrittenAt

/-! ### Scans -/

section Scans

variable {α : Type u} {l : List α} {p : α → Bool}

theorem takeWhile_congr {q : α → Bool} (h : ∀ a ∈ l, p a = q a) :
    l.takeWhile p = l.takeWhile q := by
  induction l with
  | nil => rfl
  | cons a l ih =>
    rw [List.takeWhile_cons, List.takeWhile_cons, h a List.mem_cons_self,
      ih fun b hb => h b (List.mem_cons_of_mem _ hb)]

end Scans

/-! ### Encoded keys -/

/-- The map `st` holds under `f k` what `m` holds under `k`, and the keys of `m` are in `S`. -/
structure Encodes (f : κ → κ') (S : Set κ) (st : SortedMap κ' ν) (m : SortedMap κ ν) : Prop where
  mem : ∀ e ∈ m.entries, e.1 ∈ S
  entries : st.entries = m.entries.map fun e => (f e.1, e.2)

section Encodes

variable {f : κ → κ'} {S : Set κ} {st : SortedMap κ' ν} {m m' : SortedMap κ ν}

theorem Encodes.empty (f : κ → κ') (S : Set κ) :
    Encodes f S (SortedMap.empty : SortedMap κ' ν) (SortedMap.empty : SortedMap κ ν) :=
  ⟨fun _ he => absurd he (List.not_mem_nil), rfl⟩

theorem insertList_map (hf : StrictMonoOn f S) (hk : k ∈ S) (v : ν) :
    ∀ {l : List (κ × ν)}, (∀ e ∈ l, e.1 ∈ S) →
      insertList (f k) v (l.map fun e => (f e.1, e.2)) =
        (insertList k v l).map fun e => (f e.1, e.2)
  | [], _ => rfl
  | x :: rest, hl => by
    have hx := hl x List.mem_cons_self
    have ih := insertList_map hf hk v fun e he => hl e (List.mem_cons_of_mem _ he)
    rw [List.map_cons]
    unfold insertList
    rw [ih]
    simp only [hf.lt_iff_lt hk hx, hf.eq_iff_eq hk hx]
    split_ifs <;> rfl

section

variable (h : Encodes f S st m) (hf : StrictMonoOn f S)
include h hf

/-- **A write under an encoded key.** -/
theorem Encodes.insert (hk : k ∈ S) (v : ν) : Encodes f S (st.insert (f k) v) (m.insert k v) where
  mem e he := by
    rcases mem_insertList he with rfl | he
    · exact hk
    · exact h.mem e he
  entries := by
    show insertList (f k) v st.entries = (insertList k v m.entries).map _
    rw [h.entries, insertList_map hf hk v h.mem]

/-- **The encoded map is written where the map is.** -/
theorem Encodes.writtenAt {T : Set κ} (hT : T ⊆ S) (hm : WrittenAt T m m') :
    ∃ st', WrittenAt (f '' T) st st' ∧ Encodes f S st' m' := by
  obtain ⟨l, hl, rfl⟩ := hm
  induction l generalizing m st with
  | nil => exact ⟨st, .refl _ _, h⟩
  | cons e l ih =>
    have he := hl e List.mem_cons_self
    obtain ⟨st', hst', henc⟩ := ih (h.insert hf (hT he) e.2) fun x hx =>
      hl x (List.mem_cons_of_mem _ hx)
    exact ⟨st', (WrittenAt.insert st e.2 (Set.mem_image_of_mem f he)).trans hst', henc⟩

/-- **A reverse iterator over the encoded keys** meets what one over the keys would meet. -/
theorem Encodes.entryBefore (hk : k ∈ S) :
    st.entryBefore (f k) = (m.entryBefore k).map fun e => (f e.1, e.2) := by
  have hsame : ∀ e ∈ m.entries, decide (f e.1 < f k) = decide (e.1 < k) := by
    intro e he
    rw [decide_eq_decide]
    exact hf.lt_iff_lt (h.mem e he) hk
  unfold SortedMap.entryBefore
  rw [h.entries, List.takeWhile_map, List.getLast?_map]
  exact congrArg (fun l => (List.getLast? l).map _) (takeWhile_congr hsame)

theorem Encodes.latestBefore (hk : k ∈ S) : st.latestBefore (f k) = m.latestBefore k := by
  rw [latestBefore_eq, latestBefore_eq, h.entryBefore hf hk, Option.map_map]
  rfl

end

end Encodes

end SortedMap
