/-
# Finite maps kept as strictly sorted association lists

An ordered key-value store: `find?`, `insert` and `erase` act as on a map, and
`entries` is what an iterator over the whole store visits, in increasing key
order.  `iterFrom k` is what an iterator that starts at `k` visits.

The entries carry the proof that their keys increase strictly, so that a map is
determined by its lookups (`SortedMap.ext_find?`), and sums over all entries
change by exactly one summand per write (`sum_insert`, `sum_erase`).
-/

import Mathlib.Order.Lattice
import Mathlib.Order.Basic
import Mathlib.Algebra.BigOperators.Group.List.Basic
import Mathlib.Algebra.BigOperators.Group.Finset.Basic
import Mathlib.Algebra.Order.BigOperators.Group.Finset
import Mathlib.Tactic.Abel

universe u v w

/-- A finite map from `κ` to `ν`, as the list of its entries in increasing key order. -/
structure SortedMap (κ : Type u) (ν : Type v) [LinearOrder κ] where
  /-- The entries, in iteration order. -/
  entries : List (κ × ν)
  /-- The keys increase strictly. -/
  sorted : entries.Pairwise fun a b => a.1 < b.1

namespace SortedMap

variable {κ : Type u} {ν : Type v} [LinearOrder κ] {e : κ × ν}

/-! ### The operations on the entry list -/

/-- Write `v` at `k`, keeping the keys increasing. -/
def insertList (k : κ) (v : ν) : List (κ × ν) → List (κ × ν)
  | [] => [(k, v)]
  | e :: rest =>
    if k < e.1 then (k, v) :: e :: rest
    else if k = e.1 then (k, v) :: rest
    else e :: insertList k v rest

/-- Remove the entry at `k`. -/
def eraseList (k : κ) : List (κ × ν) → List (κ × ν)
  | [] => []
  | e :: rest => if k = e.1 then rest else e :: eraseList k rest

/-- The value at `k`. -/
def findList (k : κ) : List (κ × ν) → Option ν
  | [] => none
  | e :: rest => if k = e.1 then some e.2 else findList k rest

theorem mem_insertList {k : κ} {v : ν} :
    ∀ {l : List (κ × ν)}, e ∈ insertList k v l → e = (k, v) ∨ e ∈ l
  | [], h => by simpa [insertList] using h
  | x :: rest, h => by
    unfold insertList at h
    split_ifs at h
    · simpa using h
    · rcases List.mem_cons.1 h with h | h
      · exact Or.inl h
      · exact Or.inr (List.mem_cons_of_mem _ h)
    · rcases List.mem_cons.1 h with h | h
      · exact Or.inr (h ▸ List.mem_cons_self)
      · rcases mem_insertList h with h | h
        · exact Or.inl h
        · exact Or.inr (List.mem_cons_of_mem _ h)

theorem eraseList_sublist (k : κ) : ∀ l : List (κ × ν), (eraseList k l).Sublist l
  | [] => List.Sublist.slnil
  | x :: rest => by
    unfold eraseList
    split_ifs
    · exact List.sublist_cons_self _ _
    · exact (eraseList_sublist k rest).cons_cons x

theorem insertList_sorted (k : κ) (v : ν) :
    ∀ {l : List (κ × ν)}, l.Pairwise (fun a b => a.1 < b.1) →
      (insertList k v l).Pairwise fun a b => a.1 < b.1
  | [], _ => by simp [insertList]
  | x :: rest, h => by
    obtain ⟨hx, hrest⟩ := List.pairwise_cons.1 h
    unfold insertList
    split_ifs with hlt heq
    · refine List.pairwise_cons.2 ⟨fun b hb => ?_, h⟩
      rcases List.mem_cons.1 hb with rfl | hb
      · exact hlt
      · exact hlt.trans (hx b hb)
    · subst heq
      exact List.pairwise_cons.2 ⟨fun b hb => hx b hb, hrest⟩
    · refine List.pairwise_cons.2 ⟨fun b hb => ?_, insertList_sorted k v hrest⟩
      rcases mem_insertList hb with rfl | hb
      · exact lt_of_le_of_ne (not_lt.1 hlt) (Ne.symm heq)
      · exact hx b hb

/-! ### The map operations -/

/-- The map with no entries. -/
def empty : SortedMap κ ν := ⟨[], List.Pairwise.nil⟩

instance : Inhabited (SortedMap κ ν) := ⟨empty⟩

variable (m : SortedMap κ ν) (k : κ) (v : ν) {t k' : κ} {m' : SortedMap κ ν} {ν' : Type w}

/-- The value stored at `k`, if any. -/
def find? : Option ν := findList k m.entries

/-- Store `v` at `k`, over any value there. -/
def insert : SortedMap κ ν :=
  ⟨insertList k v m.entries, insertList_sorted k v m.sorted⟩

/-- Remove the entry at `k`, if any. -/
def erase : SortedMap κ ν :=
  ⟨eraseList k m.entries, m.sorted.sublist (eraseList_sublist k m.entries)⟩

/-- Whether an entry is stored at `k`. -/
def contains : Bool := (m.find? k).isSome

/-- The entries an iterator starting at `k` visits. -/
def iterFrom : List (κ × ν) :=
  m.entries.dropWhile fun e => decide (e.1 < k)

/-- The sum of `f` over all entries. -/
def sum {M : Type w} [AddCommMonoid M] (m : SortedMap κ ν) (f : κ → ν → M) : M :=
  (m.entries.map fun e => f e.1 e.2).sum

/-! ### Lookups -/

theorem findList_eq_none_of_lt {k : κ} :
    ∀ {l : List (κ × ν)}, (∀ e ∈ l, k < e.1) → findList k l = none
  | [], _ => rfl
  | x :: rest, h => by
    have hx : k < x.1 := h x List.mem_cons_self
    rw [findList, if_neg hx.ne]
    exact findList_eq_none_of_lt fun e he => h e (List.mem_cons_of_mem _ he)

theorem findList_insertList (k : κ) (v : ν) (k' : κ) :
    ∀ l : List (κ × ν),
      findList k' (insertList k v l) = if k' = k then some v else findList k' l
  | [] => by simp [insertList, findList]
  | x :: rest => by
    have ih := findList_insertList k v k' rest
    unfold insertList
    by_cases hlt : k < x.1
    · rw [if_pos hlt, findList]
    by_cases heq : k = x.1
    · rw [if_neg hlt, if_pos heq, findList, findList]
      subst heq
      split_ifs <;> rfl
    rw [if_neg hlt, if_neg heq, findList, findList, ih]
    by_cases hk : k' = k
    · rw [if_pos hk, if_pos hk, if_neg (by rw [hk]; exact heq)]
    · rw [if_neg hk, if_neg hk]

theorem findList_eraseList (k k' : κ) :
    ∀ {l : List (κ × ν)}, l.Pairwise (fun a b => a.1 < b.1) →
      findList k' (eraseList k l) = if k' = k then none else findList k' l
  | [], _ => by simp [eraseList, findList]
  | x :: rest, h => by
    obtain ⟨hx, hrest⟩ := List.pairwise_cons.1 h
    unfold eraseList
    split_ifs with heq hk hk
    · subst hk heq
      exact findList_eq_none_of_lt hx
    · rw [findList, if_neg (by rw [← heq]; exact hk)]
    · rw [findList, if_neg (by rw [hk]; exact heq), findList_eraseList k k' hrest, if_pos hk]
    · simp only [findList, findList_eraseList k k' hrest, if_neg hk]

theorem findList_eq_some_iff {k : κ} {v : ν} :
    ∀ {l : List (κ × ν)}, l.Pairwise (fun a b => a.1 < b.1) →
      (findList k l = some v ↔ (k, v) ∈ l)
  | [], _ => by simp [findList]
  | x :: rest, h => by
    obtain ⟨hx, hrest⟩ := List.pairwise_cons.1 h
    unfold findList
    split_ifs with heq
    · constructor
      · intro hv
        cases hv
        exact heq ▸ List.mem_cons_self
      · intro hmem
        rcases List.mem_cons.1 hmem with rfl | hmem
        · rfl
        · exact absurd (hx _ hmem) (by rw [heq]; exact lt_irrefl _)
    · rw [findList_eq_some_iff hrest, List.mem_cons]
      constructor
      · exact Or.inr
      · rintro (rfl | hmem)
        · exact absurd rfl heq
        · exact hmem

@[simp] theorem find?_empty : (empty : SortedMap κ ν).find? k = none := rfl

theorem find?_insert (k' : κ) : (m.insert k v).find? k' = if k' = k then some v else m.find? k' :=
  findList_insertList k v k' m.entries

@[simp] theorem find?_insert_self : (m.insert k v).find? k = some v := by
  rw [find?_insert, if_pos rfl]

theorem find?_insert_of_ne {k : κ} (v : ν) (h : k' ≠ k) : (m.insert k v).find? k' = m.find? k' := by
  rw [find?_insert, if_neg h]

theorem find?_erase (k' : κ) : (m.erase k).find? k' = if k' = k then none else m.find? k' :=
  findList_eraseList k k' m.sorted

@[simp] theorem find?_erase_self : (m.erase k).find? k = none := by
  rw [find?_erase, if_pos rfl]

theorem find?_erase_of_ne {k : κ} (h : k' ≠ k) : (m.erase k).find? k' = m.find? k' := by
  rw [find?_erase, if_neg h]

/-- What holds of the new entry and of the others holds of all after a write. -/
theorem forall_insert {m : SortedMap κ ν} {k : κ} {v : ν} {P : κ → ν → Prop} (hnew : P k v)
    (hold : ∀ k' v', k' ≠ k → m.find? k' = some v' → P k' v') (k' : κ) (v' : ν)
    (h : (m.insert k v).find? k' = some v') : P k' v' := by
  rw [find?_insert] at h
  split_ifs at h with hk
  · cases h
    exact hk ▸ hnew
  · exact hold k' v' hk h

/-- What is found after a removal was there before. -/
theorem find?_of_erase {m : SortedMap κ ν} {k : κ} {v : ν} (h : (m.erase k).find? k' = some v) :
    m.find? k' = some v := by
  rw [find?_erase] at h
  split_ifs at h
  exact h

theorem find?_insert_eq_update [DecidableEq κ] (m : SortedMap κ ν) (k : κ) (v : ν) :
    (m.insert k v).find? = Function.update m.find? k (some v) := by
  funext k'
  rw [find?_insert, Function.update_apply]
  split_ifs <;> rfl

theorem find?_erase_eq_update [DecidableEq κ] (m : SortedMap κ ν) (k : κ) :
    (m.erase k).find? = Function.update m.find? k none := by
  funext k'
  rw [find?_erase, Function.update_apply]
  split_ifs <;> rfl

theorem find?_eq_some_iff {m : SortedMap κ ν} {k : κ} {v : ν} :
    m.find? k = some v ↔ (k, v) ∈ m.entries :=
  findList_eq_some_iff m.sorted

/-- **A map is determined by its lookups.**  Two strictly sorted lists with the same
lookups have the same smallest key, and so on down the lists. -/
theorem ext_find? {m : SortedMap κ ν} (h : ∀ k, m.find? k = m'.find? k) : m = m' := by
  have hmem : ∀ e : κ × ν, e ∈ m.entries ↔ e ∈ m'.entries := by
    rintro ⟨k, v⟩
    rw [← find?_eq_some_iff, ← find?_eq_some_iff, h k]
  have hperm : m.entries.Perm m'.entries := by
    refine (List.perm_ext_iff_of_nodup ?_ ?_).2 hmem
    · exact m.sorted.imp fun hab => by rintro rfl; exact lt_irrefl _ hab
    · exact m'.sorted.imp fun hab => by rintro rfl; exact lt_irrefl _ hab
  have hentries : m.entries = m'.entries :=
    hperm.eq_of_pairwise (fun a b _ _ hab hba => absurd (hab.trans hba) (lt_irrefl _))
      m.sorted m'.sorted
  cases m
  cases m'
  simp only at hentries
  subst hentries
  rfl

/-- The entries that satisfy `p`. -/
def filter (m : SortedMap κ ν) (p : κ → ν → Bool) : SortedMap κ ν :=
  ⟨m.entries.filter fun e => p e.1 e.2, m.sorted.filter _⟩

theorem find?_filter_eq_some {m : SortedMap κ ν} {p : κ → ν → Bool} {k : κ} {v : ν} :
    (m.filter p).find? k = some v ↔ m.find? k = some v ∧ p k v = true := by
  rw [find?_eq_some_iff, find?_eq_some_iff]
  exact List.mem_filter

theorem erase_eq_self {m : SortedMap κ ν} {k : κ} (h : m.find? k = none) : m.erase k = m := by
  refine ext_find? fun k' => ?_
  rw [find?_erase]
  split_ifs with hk
  · rw [hk, h]
  · rfl

theorem insert_eq_self {m : SortedMap κ ν} {k : κ} {v : ν} (h : m.find? k = some v) :
    m.insert k v = m := by
  refine ext_find? fun k' => ?_
  rw [find?_insert]
  split_ifs with hk
  · rw [hk, h]
  · rfl

/-- Two selections of entries are one list if they have the same entries. -/
theorem filter_entries_congr {m : SortedMap κ ν} {p p' : κ × ν → Bool}
    (h : ∀ e, (e ∈ m.entries ∧ p e = true) ↔ (e ∈ m'.entries ∧ p' e = true)) :
    m.entries.filter p = m'.entries.filter p' := by
  have heq : (⟨m.entries.filter p, m.sorted.filter p⟩ : SortedMap κ ν) =
      ⟨m'.entries.filter p', m'.sorted.filter p'⟩ := by
    refine ext_find? fun k => Option.ext fun v => ?_
    rw [find?_eq_some_iff, find?_eq_some_iff]
    simp only [List.mem_filter]
    exact h (k, v)
  exact congrArg SortedMap.entries heq

/-- Writing the entries of a list one after the other: a key that is in the list has one of its
values there, and the other keys are not changed. -/
theorem find?_foldl_insert (k : κ) :
    ∀ (l : List (κ × ν)) (m : SortedMap κ ν),
      (k ∈ l.map Prod.fst →
        ∃ e ∈ l, e.1 = k ∧ (l.foldl (fun m e => m.insert e.1 e.2) m).find? k = some e.2) ∧
      (k ∉ l.map Prod.fst → (l.foldl (fun m e => m.insert e.1 e.2) m).find? k = m.find? k)
  | [], _ => ⟨fun h => absurd h List.not_mem_nil, fun _ => rfl⟩
  | e :: l, m => by
    obtain ⟨hin, hout⟩ := find?_foldl_insert k l (m.insert e.1 e.2)
    rw [List.map_cons, List.mem_cons, List.foldl_cons]
    refine ⟨fun h => ?_, fun h => ?_⟩
    · by_cases hl : k ∈ l.map Prod.fst
      · obtain ⟨e', he', hk, hfind⟩ := hin hl
        exact ⟨e', List.mem_cons_of_mem _ he', hk, hfind⟩
      · have hk : k = e.1 := h.resolve_right hl
        refine ⟨e, List.mem_cons_self, hk.symm, ?_⟩
        rw [hout hl, hk, find?_insert_self]
    · obtain ⟨hne, hl⟩ := not_or.1 h
      rw [hout hl, find?_insert_of_ne _ _ hne]

/-- **The entries of a map, written one after the other, give the map again.** -/
theorem foldl_insert_entries : m.entries.foldl (fun m e => m.insert e.1 e.2) empty = m := by
  refine ext_find? fun k => ?_
  obtain ⟨hin, hout⟩ := find?_foldl_insert k m.entries empty
  by_cases hk : k ∈ m.entries.map Prod.fst
  · obtain ⟨e, he, rfl, hfind⟩ := hin hk
    rw [hfind]
    exact (find?_eq_some_iff.2 he).symm
  · rw [hout hk]
    cases hfind : m.find? k with
    | none => rfl
    | some v => exact absurd (List.mem_map.2 ⟨(k, v), find?_eq_some_iff.1 hfind, rfl⟩) hk

/-- The second write at a key replaces the first. -/
theorem insert_insert_self (v' : ν) : (m.insert k v).insert k v' = m.insert k v' := by
  refine ext_find? fun k' => ?_
  simp only [find?_insert]
  split_ifs <;> rfl

theorem insert_erase_self : (m.erase k).insert k v = m.insert k v := by
  refine ext_find? fun k' => ?_
  simp only [find?_insert, find?_erase]
  split_ifs <;> rfl

theorem erase_insert_self : (m.insert k v).erase k = m.erase k := by
  refine ext_find? fun k' => ?_
  simp only [find?_insert, find?_erase]
  split_ifs <;> rfl

theorem erase_insert_comm {k : κ} (v : ν) (h : k ≠ k') :
    (m.insert k v).erase k' = (m.erase k').insert k v := by
  refine ext_find? fun x => ?_
  simp only [find?_erase, find?_insert]
  split_ifs with h₁ h₂
  · exact absurd (h₂.symm.trans h₁) h
  · rfl
  · rfl
  · rfl

/-- Every value is replaced by a function of its key and itself. -/
def mapWithKey {ν' : Type w} (m : SortedMap κ ν) (f : κ → ν → ν') : SortedMap κ ν' :=
  ⟨m.entries.map fun e => (e.1, f e.1 e.2), List.pairwise_map.2 m.sorted⟩

theorem find?_mapWithKey (m : SortedMap κ ν) (f : κ → ν → ν') (k : κ) :
    (m.mapWithKey f).find? k = (m.find? k).map (f k) := by
  show findList k (m.entries.map fun e => (e.1, f e.1 e.2)) = (findList k m.entries).map (f k)
  induction m.entries with
  | nil => rfl
  | cons e l ih =>
    rw [List.map_cons, findList, findList, ih]
    split_ifs with hk
    · rw [hk]
      rfl
    · rfl

theorem mapWithKey_insert (m : SortedMap κ ν) (f : κ → ν → ν') (k : κ) (v : ν) :
    (m.insert k v).mapWithKey f = (m.mapWithKey f).insert k (f k v) := by
  refine ext_find? fun k' => ?_
  simp only [find?_mapWithKey, find?_insert]
  split_ifs with hk
  · rw [hk]
    rfl
  · rfl

theorem mapWithKey_erase (m : SortedMap κ ν) (f : κ → ν → ν') (k : κ) :
    (m.erase k).mapWithKey f = (m.mapWithKey f).erase k := by
  refine ext_find? fun k' => ?_
  simp only [find?_mapWithKey, find?_erase]
  split_ifs <;> rfl

/-! ### Iteration -/

theorem mem_dropWhile_lt {k : κ} : ∀ {l : List (κ × ν)}, l.Pairwise (fun a b => a.1 < b.1) →
      (e ∈ l.dropWhile (fun x => decide (x.1 < k)) ↔ e ∈ l ∧ k ≤ e.1)
  | [], _ => by simp
  | x :: rest, h => by
    obtain ⟨hx, hrest⟩ := List.pairwise_cons.1 h
    rw [List.dropWhile_cons]
    split_ifs with hlt
    · rw [decide_eq_true_iff] at hlt
      rw [mem_dropWhile_lt hrest, List.mem_cons]
      constructor
      · exact fun h => ⟨Or.inr h.1, h.2⟩
      · rintro ⟨rfl | he, hk⟩
        · exact absurd hlt (not_lt.2 hk)
        · exact ⟨he, hk⟩
    · rw [decide_eq_true_iff] at hlt
      refine ⟨fun he => ⟨he, ?_⟩, fun he => he.1⟩
      rcases List.mem_cons.1 he with rfl | he
      · exact not_lt.1 hlt
      · exact (not_lt.1 hlt).trans (hx e he).le

/-- **An iterator from `k` visits exactly the entries at or after `k`.** -/
theorem mem_iterFrom {m : SortedMap κ ν} {k : κ} :
    e ∈ m.iterFrom k ↔ m.find? e.1 = some e.2 ∧ k ≤ e.1 := by
  rw [find?_eq_some_iff]
  exact mem_dropWhile_lt m.sorted

theorem iterFrom_sorted : (m.iterFrom k).Pairwise fun a b => a.1 < b.1 :=
  m.sorted.sublist (List.dropWhile_sublist _)

/-- The value at the largest key before `k`: what a reverse iterator that ends at `k` meets
first. -/
def latestBefore : Option ν :=
  ((m.entries.takeWhile fun e => decide (e.1 < k)).getLast?).map Prod.snd

theorem takeWhile_insertList {k : κ} (v : ν) (h : k ≤ t) :
    ∀ l : List (κ × ν), (insertList t v l).takeWhile (fun e => decide (e.1 < k)) =
      l.takeWhile fun e => decide (e.1 < k)
  | [] => by simp [insertList, h]
  | x :: rest => by
    unfold insertList
    by_cases hlt : t < x.1
    · rw [if_pos hlt, List.takeWhile_cons, List.takeWhile_cons]
      simp [not_lt.2 h, not_lt.2 (h.trans hlt.le)]
    rw [if_neg hlt]
    by_cases heq : t = x.1
    · rw [if_pos heq, List.takeWhile_cons, List.takeWhile_cons]
      simp [← heq, not_lt.2 h]
    · rw [if_neg heq, List.takeWhile_cons, List.takeWhile_cons, takeWhile_insertList v h rest]

/-- The entry that a reverse iterator that ends at `k` meets first. -/
def entryBefore : Option (κ × ν) :=
  (m.entries.takeWhile fun e => decide (e.1 < k)).getLast?

theorem latestBefore_eq : m.latestBefore k = (m.entryBefore k).map Prod.snd := rfl

/-- **Later writes do not change what was the latest before.** -/
theorem entryBefore_insert_of_le (m : SortedMap κ ν) {k : κ} (v : ν) (h : k ≤ t) :
    (m.insert t v).entryBefore k = m.entryBefore k := by
  unfold entryBefore insert
  rw [takeWhile_insertList v h]

/-! ### Sums over the entries -/

section Sum

variable {M : Type w} [AddCommMonoid M]

@[simp] theorem sum_empty (f : κ → ν → M) : (empty : SortedMap κ ν).sum f = 0 := rfl

variable (m : SortedMap κ ν) (f : κ → ν → M) (k : κ) (v : ν)

theorem sum_insertList (f : κ → ν → M) (k : κ) (v : ν) :
    ∀ {l : List (κ × ν)}, l.Pairwise (fun a b => a.1 < b.1) →
      ((insertList k v l).map fun e => f e.1 e.2).sum + (findList k l).elim 0 (f k)
        = (l.map fun e => f e.1 e.2).sum + f k v
  | [], _ => by simp [insertList, findList]
  | x :: rest, h => by
    obtain ⟨hx, hrest⟩ := List.pairwise_cons.1 h
    unfold insertList
    split_ifs with hlt heq
    · have hnone : findList k (x :: rest) = none :=
        findList_eq_none_of_lt fun e he => by
          rcases List.mem_cons.1 he with rfl | he
          · exact hlt
          · exact hlt.trans (hx e he)
      rw [hnone]
      simp only [List.map_cons, List.sum_cons, Option.elim]
      abel
    · rw [findList, if_pos heq]
      simp only [List.map_cons, List.sum_cons, Option.elim, heq]
      abel
    · rw [findList, if_neg heq]
      simp only [List.map_cons, List.sum_cons]
      rw [add_assoc, sum_insertList f k v hrest, add_assoc]

theorem sum_eraseList (f : κ → ν → M) (k : κ) :
    ∀ l : List (κ × ν),
      ((eraseList k l).map fun e => f e.1 e.2).sum + (findList k l).elim 0 (f k)
        = (l.map fun e => f e.1 e.2).sum
  | [] => by simp [eraseList, findList]
  | x :: rest => by
    unfold eraseList findList
    split_ifs with heq
    · simp only [List.map_cons, List.sum_cons, Option.elim, heq]
      abel
    · simp only [List.map_cons, List.sum_cons]
      rw [add_assoc, sum_eraseList f k rest]

/-- **A write changes one summand:** the new value's for the old one's. -/
theorem sum_insert : (m.insert k v).sum f + (m.find? k).elim 0 (f k) = m.sum f + f k v :=
  sum_insertList f k v m.sorted

/-- **A removal takes one summand away.** -/
theorem sum_erase : (m.erase k).sum f + (m.find? k).elim 0 (f k) = m.sum f :=
  sum_eraseList f k m.entries

theorem sum_mapWithKey {ν' : Type*} (m : SortedMap κ ν) (g : κ → ν → ν') (f : κ → ν' → M) :
    (m.mapWithKey g).sum f = m.sum fun k v => f k (g k v) := by
  unfold sum mapWithKey
  rw [List.map_map]
  rfl

theorem sum_congr {m : SortedMap κ ν} {f g : κ → ν → M}
    (h : ∀ k v, m.find? k = some v → f k v = g k v) : m.sum f = m.sum g := by
  unfold sum
  congr 1
  exact List.map_congr_left fun e he => h e.1 e.2 (find?_eq_some_iff.2 he)

theorem sum_add (g : κ → ν → M) : (m.sum fun k v => f k v + g k v) = m.sum f + m.sum g := by
  unfold sum
  exact List.sum_map_add

theorem sum_eq_zero {m : SortedMap κ ν} {f : κ → ν → M}
    (h : ∀ k v, m.find? k = some v → f k v = 0) : m.sum f = 0 := by
  unfold sum
  refine List.sum_eq_zero fun x hx => ?_
  obtain ⟨e, he, rfl⟩ := List.mem_map.1 hx
  exact h e.1 e.2 (find?_eq_some_iff.2 he)

/-- The keys with a value. -/
def keys : Finset κ := (m.entries.map Prod.fst).toFinset

theorem mem_keys {m : SortedMap κ ν} {k : κ} : k ∈ m.keys ↔ ∃ v, m.find? k = some v := by
  simp [keys, find?_eq_some_iff]

/-- A sum over the entries as a sum over the finite set of keys. -/
theorem sum_eq_sum_keys : m.sum f = ∑ k ∈ m.keys, (m.find? k).elim 0 (f k) := by
  have hnodup : (m.entries.map Prod.fst).Nodup :=
    List.pairwise_map.2 (m.sorted.imp fun h => ne_of_lt h)
  rw [keys, List.sum_toFinset _ hnodup, List.map_map, sum]
  refine congrArg List.sum (List.map_congr_left fun e he => ?_)
  simp [find?_eq_some_iff.2 he]

theorem sum_eq_sum_of_subset {m : SortedMap κ ν} {t : Finset κ} (h : m.keys ⊆ t) (f : κ → ν → M) :
    m.sum f = ∑ k ∈ t, (m.find? k).elim 0 (f k) := by
  rw [sum_eq_sum_keys]
  refine Finset.sum_subset h fun k _ hk => ?_
  cases hv : m.find? k with
  | none => rfl
  | some v => exact absurd (mem_keys.2 ⟨v, hv⟩) hk

/-- **A sum depends only on the summand at each key**, which is zero where there is no value. -/
theorem sum_eq_of_summands {m : SortedMap κ ν} {f f' : κ → ν → M}
    (h : ∀ k, (m.find? k).elim 0 (f k) = (m'.find? k).elim 0 (f' k)) : m.sum f = m'.sum f' := by
  rw [sum_eq_sum_of_subset (t := m.keys ∪ m'.keys) Finset.subset_union_left f,
    sum_eq_sum_of_subset (t := m.keys ∪ m'.keys) Finset.subset_union_right f']
  exact Finset.sum_congr rfl fun k _ => h k

/-- A write over a value. -/
theorem sum_insert_of_some {m : SortedMap κ ν} {k : κ} {v : ν} (h : m.find? k = some v)
    (f : κ → ν → M) (v' : ν) : (m.insert k v').sum f + f k v = m.sum f + f k v' := by
  have hsum := m.sum_insert f k v'
  rw [h] at hsum
  exact hsum

/-- A write of a new value. -/
theorem sum_insert_of_none {m : SortedMap κ ν} {k : κ} (h : m.find? k = none) (f : κ → ν → M)
    (v : ν) : (m.insert k v).sum f = m.sum f + f k v := by
  have hsum := m.sum_insert f k v
  rw [h, Option.elim, add_zero] at hsum
  exact hsum

/-- A removal of a value. -/
theorem sum_erase_of_some {m : SortedMap κ ν} {k : κ} {v : ν} (h : m.find? k = some v)
    (f : κ → ν → M) : (m.erase k).sum f + f k v = m.sum f := by
  have hsum := m.sum_erase f k
  rw [h] at hsum
  exact hsum

/-- **Writes over the values of distinct keys**, one after the other. -/
theorem sum_foldl_insert (f : κ → ν → M) :
    ∀ {l : List (κ × ν)} {m : SortedMap κ ν}, (l.map Prod.fst).Nodup →
      (l.foldl (fun m e => m.insert e.1 e.2) m).sum f
          + (l.map fun e => (m.find? e.1).elim 0 (f e.1)).sum
        = m.sum f + (l.map fun e => f e.1 e.2).sum
  | [], _, _ => by simp
  | e :: l, m, hnodup => by
    obtain ⟨hnot, hnodup⟩ := List.nodup_cons.1 hnodup
    have ih := sum_foldl_insert f (m := m.insert e.1 e.2) hnodup
    have hold : (l.map fun e' => ((m.insert e.1 e.2).find? e'.1).elim 0 (f e'.1))
        = l.map fun e' => (m.find? e'.1).elim 0 (f e'.1) := by
      refine List.map_congr_left fun e' he' => ?_
      rw [find?_insert_of_ne]
      exact fun heq => hnot (List.mem_map.2 ⟨e', he', heq⟩)
    rw [hold] at ih
    simp only [List.foldl_cons, List.map_cons, List.sum_cons]
    calc _ = (l.foldl (fun m e => m.insert e.1 e.2) (m.insert e.1 e.2)).sum f
          + (l.map fun e => (m.find? e.1).elim 0 (f e.1)).sum + (m.find? e.1).elim 0 (f e.1) := by abel
      _ = (m.insert e.1 e.2).sum f + (m.find? e.1).elim 0 (f e.1)
          + (l.map fun e => f e.1 e.2).sum := by rw [ih]; abel
      _ = _ := by rw [sum_insert]; abel

theorem sum_le_of_summands {m : SortedMap κ ν} {f f' : κ → ν → ℕ}
    (h : ∀ k, (m.find? k).elim 0 (f k) ≤ (m'.find? k).elim 0 (f' k)) : m.sum f ≤ m'.sum f' := by
  rw [sum_eq_sum_of_subset (t := m.keys ∪ m'.keys) Finset.subset_union_left f,
    sum_eq_sum_of_subset (t := m.keys ∪ m'.keys) Finset.subset_union_right f']
  exact Finset.sum_le_sum fun k _ => h k

theorem sum_le_sum {m : SortedMap κ ν} {f f' : κ → ν → ℕ}
    (h : ∀ k v, m.find? k = some v → f k v ≤ f' k v) : m.sum f ≤ m.sum f' := by
  refine sum_le_of_summands fun k => ?_
  cases hv : m.find? k with
  | none => exact le_rfl
  | some v => exact h k v hv

theorem le_sum {m : SortedMap κ ν} {k : κ} {v : ν} (h : m.find? k = some v) (f : κ → ν → ℕ) :
    f k v ≤ m.sum f := by
  have hsum := sum_erase_of_some h f
  omega

theorem sum_foldl_insert_le (f : κ → ν → ℕ) (l : List (κ × ν)) (m : SortedMap κ ν) :
    (l.foldl (fun m e => m.insert e.1 e.2) m).sum f ≤ m.sum f + (l.map fun e => f e.1 e.2).sum := by
  induction l generalizing m with
  | nil => simp
  | cons e l ih =>
    have hfirst := m.sum_insert f e.1 e.2
    have hrest := ih (m.insert e.1 e.2)
    simp only [List.foldl_cons, List.map_cons, List.sum_cons]
    omega

theorem sum_insert_le {m : SortedMap κ ν} {f : κ → ν → ℕ} {k : κ} {v : ν}
    (h : f k v ≤ (m.find? k).elim 0 (f k)) : (m.insert k v).sum f ≤ m.sum f := by
  have := m.sum_insert f k v
  omega

/-- Distinct keys with positive summands. -/
theorem length_le_sum {m : SortedMap κ ν} {f : κ → ν → ℕ} {l : List κ} (hl : l.Nodup)
    (h : ∀ k ∈ l, ∃ v, m.find? k = some v ∧ 1 ≤ f k v) : l.length ≤ m.sum f := by
  have hsub : l.toFinset ⊆ m.keys := by
    intro k hk
    obtain ⟨v, hv, -⟩ := h k (List.mem_toFinset.1 hk)
    exact mem_keys.2 ⟨v, hv⟩
  calc l.length = ∑ _k ∈ l.toFinset, 1 := by
        rw [← Finset.card_eq_sum_ones, List.toFinset_card_of_nodup hl]
    _ ≤ ∑ k ∈ l.toFinset, (m.find? k).elim 0 (f k) := by
        refine Finset.sum_le_sum fun k hk => ?_
        obtain ⟨v, hv, hpos⟩ := h k (List.mem_toFinset.1 hk)
        rw [hv]
        exact hpos
    _ ≤ m.sum f := by
        rw [sum_eq_sum_keys]
        exact Finset.sum_le_sum_of_subset hsub

/-- **A sum of ones is the number of keys.** -/
theorem sum_one (m : SortedMap κ ν) : (m.sum fun _ _ => 1) = m.keys.card := by
  rw [sum_eq_sum_keys, Finset.card_eq_sum_ones]
  refine Finset.sum_congr rfl fun k hk => ?_
  obtain ⟨v, hv⟩ := mem_keys.1 hk
  rw [hv]
  rfl

/-- **A sum of nonnegative summands is zero only if all are.** -/
theorem sum_eq_zero_iff_of_nonneg [PartialOrder M] [IsOrderedAddMonoid M] {m : SortedMap κ ν}
    {f : κ → ν → M} (h : ∀ k v, m.find? k = some v → 0 ≤ f k v) :
    m.sum f = 0 ↔ ∀ k v, m.find? k = some v → f k v = 0 := by
  rw [sum_eq_sum_keys, Finset.sum_eq_zero_iff_of_nonneg]
  · constructor
    · intro hzero k v hk
      simpa [hk] using hzero k (mem_keys.2 ⟨v, hk⟩)
    · intro hzero k hk
      obtain ⟨v, hv⟩ := mem_keys.1 hk
      simpa [hv] using hzero k v hv
  · intro k hk
    obtain ⟨v, hv⟩ := mem_keys.1 hk
    simpa [hv] using h k v hv

end Sum

/-! ### Grouping a list by a key -/

section Group

variable {ι : Type w} (key : ι → κ) (comb : Option ν → ι → ν)

/-- Group a list by a key: each element is combined into the value at its key. -/
def group (l : List ι) : SortedMap κ ν :=
  l.foldl (fun m i => m.insert (key i) (comb (m.find? (key i)) i)) empty

theorem foldl_group_invariant (P : κ → ν → Prop) :
    ∀ (l : List ι) (m : SortedMap κ ν), (∀ k v, m.find? k = some v → P k v) →
      (∀ i ∈ l, ∀ o, (∀ v, o = some v → P (key i) v) → P (key i) (comb o i)) →
      ∀ k v, (l.foldl (fun m i => m.insert (key i) (comb (m.find? (key i)) i)) m).find? k = some v →
        P k v
  | [], _, hm, _ => hm
  | i :: l, m, hm, hcomb => by
    refine foldl_group_invariant P l _ (forall_insert ?_ fun k v _ => hm k v) fun j hj =>
      hcomb j (List.mem_cons_of_mem _ hj)
    exact hcomb i List.mem_cons_self _ fun v hv => hm _ _ hv

/-- What holds of every combined value holds of the values of a grouping. -/
theorem group_invariant (P : κ → ν → Prop) (l : List ι)
    (hcomb : ∀ i ∈ l, ∀ o, (∀ v, o = some v → P (key i) v) → P (key i) (comb o i)) {k : κ} {v : ν}
    (h : (group key comb l).find? k = some v) : P k v := by
  refine foldl_group_invariant key comb P l empty (fun k v h => ?_) hcomb k v h
  rw [find?_empty] at h
  cases h

theorem find?_foldl_group (k : κ) :
    ∀ (l : List ι) (m : SortedMap κ ν),
      (l.foldl (fun m i => m.insert (key i) (comb (m.find? (key i)) i)) m).find? k =
        (l.filter fun i => decide (key i = k)).foldl (fun o i => some (comb o i)) (m.find? k)
  | [], _ => rfl
  | i :: l, m => by
    rw [List.foldl_cons, find?_foldl_group k l, find?_insert, List.filter_cons]
    by_cases hk : key i = k
    · subst hk
      simp
    · rw [if_neg (Ne.symm hk), if_neg (by simpa using hk)]

/-- **The value at a key of a grouping** combines the elements with that key, in their order. -/
theorem find?_group (l : List ι) (k : κ) :
    (group key comb l).find? k =
      (l.filter fun i => decide (key i = k)).foldl (fun o i => some (comb o i)) none := by
  unfold group
  rw [find?_foldl_group, find?_empty]

variable {M : Type*} [AddCommGroup M]

theorem sum_foldl_group (f : κ → ν → M) (g : ι → M)
    (h : ∀ o i, f (key i) (comb o i) = o.elim 0 (f (key i)) + g i) :
    ∀ (l : List ι) (m : SortedMap κ ν),
      (l.foldl (fun m i => m.insert (key i) (comb (m.find? (key i)) i)) m).sum f =
        m.sum f + (l.map g).sum
  | [], m => by simp
  | i :: l, m => by
    rw [List.foldl_cons, sum_foldl_group f g h l, List.map_cons, List.sum_cons, ← add_assoc]
    congr 1
    have hs := m.sum_insert f (key i) (comb (m.find? (key i)) i)
    rw [h, ← add_assoc, add_right_comm] at hs
    exact add_right_cancel hs

/-- **Grouping keeps sums** that the combination adds up. -/
theorem sum_group (f : κ → ν → M) (g : ι → M)
    (h : ∀ o i, f (key i) (comb o i) = o.elim 0 (f (key i)) + g i) (l : List ι) :
    (group key comb l).sum f = (l.map g).sum := by
  unfold group
  rw [sum_foldl_group key comb f g h l, sum_empty, zero_add]

end Group

end SortedMap
