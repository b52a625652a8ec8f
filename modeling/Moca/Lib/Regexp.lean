/-
# Regular expressions

Regular expressions over an arbitrary alphabet, with assertions: an assertion looks at the
characters on both sides of a place and matches no character.  `Matches` says which part of a
text an expression matches, between what stands before and after it; `matched` computes the
parts that are matched at a place, and `search` whether there is one anywhere in a text
(`search_iff`).
-/

import Mathlib.Data.List.Basic
import Mathlib.Data.List.Infix

namespace Moca

/-- A regular expression. -/
inductive Regexp (α : Type)
  /-- No character. -/
  | empty
  /-- One character. -/
  | sat (p : α → Bool)
  /-- No character, at a place between two characters; at an end of the text there is none. -/
  | assert (p : Option α → Option α → Bool)
  | cat (r r' : Regexp α)
  | alt (r r' : Regexp α)
  | star (r : Regexp α)

namespace Regexp

variable {α : Type} {r r' : Regexp α} {b m m' a t : List α} {f : List α → List α → List (List α)}
  {n : ℕ} {l : List (α → Bool)}

/-- One expression after the other. -/
def concat (l : List (Regexp α)) : Regexp α := l.foldr cat empty

/-- The expression `n` times. -/
def pow (r : Regexp α) : ℕ → Regexp α
  | 0 => empty
  | n + 1 => cat r (r.pow n)

/-- The expression at least `min` and at most `max` times. -/
def times (r : Regexp α) (min : ℕ) : Option ℕ → Regexp α
  | none => cat (r.pow min) (star r)
  | some max => cat (r.pow min) ((alt r empty).pow (max - min))

/-! ### The meaning of an expression -/

/-- **The expression matches `m`**, after `b` and before `a`. -/
inductive Matches : Regexp α → List α → List α → List α → Prop
  | empty {b a : List α} : Matches empty b [] a
  | sat {p : α → Bool} {b a : List α} {c : α} (h : p c = true) : Matches (sat p) b [c] a
  | assert {p : Option α → Option α → Bool} {b a : List α} (h : p b.getLast? a.head? = true) :
    Matches (assert p) b [] a
  | cat {r r' : Regexp α} {b m m' a : List α} (h : Matches r b m (m' ++ a))
    (h' : Matches r' (b ++ m) m' a) : Matches (cat r r') b (m ++ m') a
  | altLeft {r r' : Regexp α} {b m a : List α} (h : Matches r b m a) : Matches (alt r r') b m a
  | altRight {r r' : Regexp α} {b m a : List α} (h : Matches r' b m a) : Matches (alt r r') b m a
  | starNil {r : Regexp α} {b a : List α} : Matches (star r) b [] a
  | starCons {r : Regexp α} {b m m' a : List α} (h : Matches r b m (m' ++ a))
    (h' : Matches (star r) (b ++ m) m' a) : Matches (star r) b (m ++ m') a

/-- The expression matches a part of the text. -/
def Occurs (r : Regexp α) (t : List α) : Prop :=
  ∃ b m a, t = b ++ (m ++ a) ∧ Matches r b m a

/-! ### Matching -/

/-- The parts that at most `n` rounds match one after the other.  A round that matches no
character leads nowhere. -/
def rounds (f : List α → List α → List (List α)) : ℕ → List α → List α → List (List α)
  | 0, _, _ => [[]]
  | n + 1, b, t => [] :: ((f b t).filter fun m => !m.isEmpty).flatMap fun m =>
      (rounds f n (b ++ m) (t.drop m.length)).map (m ++ ·)

/-- The parts at the start of `t` that are matched, after `b`. -/
def matched : Regexp α → List α → List α → List (List α)
  | .empty, _, _ => [[]]
  | .sat _, _, [] => []
  | .sat p, _, c :: _ => if p c then [[c]] else []
  | .assert p, b, t => if p b.getLast? t.head? then [[]] else []
  | .cat r r', b, t => (r.matched b t).flatMap fun m =>
      (r'.matched (b ++ m) (t.drop m.length)).map (m ++ ·)
  | .alt r r', b, t => r.matched b t ++ r'.matched b t
  | .star r, b, t => rounds r.matched t.length b t

/-- The expression matches a part of the text, as a test. -/
def search (r : Regexp α) (t : List α) : Bool :=
  (List.range (t.length + 1)).any fun i => !(r.matched (t.take i) (t.drop i)).isEmpty

/-- `f` computes the parts that `r` matches. -/
def Computes (f : List α → List α → List (List α)) (r : Regexp α) : Prop :=
  ∀ b t m, m ∈ f b t ↔ ∃ a, t = m ++ a ∧ Matches r b m a

/-- A part and one that follows it, as `cat` and `star` put them together. -/
theorem mem_flatMap_append {l : List (List α)} {g : List α → List (List α)} :
    m ∈ l.flatMap (fun m => (g m).map (m ++ ·)) ↔ ∃ m₁ ∈ l, ∃ m₂ ∈ g m₁, m₁ ++ m₂ = m := by
  simp only [List.mem_flatMap, List.mem_map]

theorem matches_of_mem_rounds (hf : Computes f r) (h : m ∈ rounds f n b t) :
    ∃ a, t = m ++ a ∧ Matches (star r) b m a := by
  induction n generalizing b t m with
  | zero =>
    obtain rfl := List.mem_singleton.1 h
    exact ⟨t, rfl, .starNil⟩
  | succ n ih =>
    rw [rounds, List.mem_cons, mem_flatMap_append] at h
    obtain rfl | ⟨m₁, hm₁, m₂, hm₂, rfl⟩ := h
    · exact ⟨t, rfl, .starNil⟩
    · obtain ⟨a₁, rfl, h₁⟩ := (hf b t m₁).1 (List.mem_filter.1 hm₁).1
      rw [List.drop_left] at hm₂
      obtain ⟨a, rfl, h₂⟩ := ih hm₂
      exact ⟨a, (List.append_assoc ..).symm, .starCons h₁ h₂⟩

/-- As many rounds as there are characters are enough, since only rounds that match a character
count. -/
theorem mem_rounds_of_matches (hf : Computes f r) (h : Matches (star r) b m a) (hn : m.length ≤ n) :
    m ∈ rounds f n b (m ++ a) := by
  generalize hr : star r = r₁ at h
  induction h generalizing n with
  | starNil => cases n <;> simp [rounds]
  | @starCons r₁ b m m' a h _ _ ih =>
    cases hr
    rcases m with _ | ⟨c, m⟩
    · rw [List.append_nil] at ih
      exact ih hn rfl
    · obtain ⟨n, rfl⟩ : ∃ k, n = k + 1 := ⟨n - 1, by simp at hn; omega⟩
      rw [rounds, List.mem_cons, mem_flatMap_append, List.append_assoc]
      refine .inr ⟨c :: m, List.mem_filter.2 ⟨(hf ..).2 ⟨_, rfl, h⟩, rfl⟩, m', ?_, rfl⟩
      rw [List.drop_left]
      exact ih (by simp at hn; omega) rfl
  | _ => cases hr

/-- **The matched parts are those that the expression matches.** -/
theorem computes_matched (r : Regexp α) : Computes r.matched r := by
  induction r with
  | empty =>
    intro b t m
    simp only [matched, List.mem_singleton]
    constructor
    · rintro rfl
      exact ⟨t, rfl, .empty⟩
    · rintro ⟨a, -, h⟩
      cases h
      rfl
  | sat p =>
    intro b t m
    constructor
    · intro h
      rcases t with _ | ⟨c, t⟩ <;> simp only [matched] at h
      · cases h
      · split_ifs at h with hp
        · obtain rfl := List.mem_singleton.1 h
          exact ⟨t, rfl, .sat hp⟩
        · cases h
    · rintro ⟨a, rfl, h⟩
      cases h with
      | sat hp => simp [matched, hp]
  | assert p =>
    intro b t m
    simp only [matched]
    constructor
    · intro h
      split_ifs at h with hp
      · obtain rfl := List.mem_singleton.1 h
        exact ⟨t, rfl, .assert hp⟩
      · cases h
    · rintro ⟨a, rfl, h⟩
      cases h with
      | assert hp => simp [hp]
  | cat r r' ih ih' =>
    intro b t m
    rw [matched, mem_flatMap_append]
    constructor
    · rintro ⟨m₁, hm₁, m₂, hm₂, rfl⟩
      obtain ⟨a₁, rfl, h₁⟩ := (ih ..).1 hm₁
      rw [List.drop_left] at hm₂
      obtain ⟨a, rfl, h₂⟩ := (ih' ..).1 hm₂
      exact ⟨a, (List.append_assoc ..).symm, .cat h₁ h₂⟩
    · rintro ⟨a, rfl, h⟩
      cases h with
      | @cat _ _ _ m₁ m₂ _ h₁ h₂ =>
        rw [List.append_assoc]
        refine ⟨m₁, (ih ..).2 ⟨_, rfl, h₁⟩, m₂, ?_, rfl⟩
        rw [List.drop_left]
        exact (ih' ..).2 ⟨_, rfl, h₂⟩
  | alt r r' ih ih' =>
    intro b t m
    rw [matched, List.mem_append, ih, ih']
    constructor
    · rintro (⟨a, ht, h⟩ | ⟨a, ht, h⟩)
      · exact ⟨a, ht, .altLeft h⟩
      · exact ⟨a, ht, .altRight h⟩
    · rintro ⟨a, ht, h⟩
      cases h with
      | altLeft h => exact .inl ⟨a, ht, h⟩
      | altRight h => exact .inr ⟨a, ht, h⟩
  | star r ih =>
    intro b t m
    constructor
    · exact matches_of_mem_rounds ih
    · rintro ⟨a, rfl, h⟩
      exact mem_rounds_of_matches ih h (by simp)

/-- **The search finds a match exactly if there is one.** -/
theorem search_iff : r.search t = true ↔ r.Occurs t := by
  simp only [search, List.any_eq_true, Bool.not_eq_true', List.isEmpty_eq_false_iff_exists_mem,
    computes_matched r _ _ _]
  constructor
  · rintro ⟨i, -, m, a, hdrop, h⟩
    exact ⟨t.take i, m, a, by rw [← hdrop, List.take_append_drop], h⟩
  · rintro ⟨b, m, a, rfl, h⟩
    have hstart : b.length ∈ List.range ((b ++ (m ++ a)).length + 1) := by
      rw [List.mem_range, List.length_append]
      omega
    exact ⟨b.length, hstart, m, a, by simp, by simpa using h⟩

instance (r : Regexp α) (t : List α) : Decidable (r.Occurs t) :=
  decidable_of_iff _ search_iff

/-! ### Sequences of characters -/

/-- **An expression that asks for one character after the other** matches the texts whose
characters it asks for. -/
theorem matches_concat_sat :
    Matches (concat (l.map sat)) b m a ↔ List.Forall₂ (fun p c => p c = true) l m := by
  induction l generalizing b m with
  | nil =>
    constructor
    · intro h
      cases h
      exact .nil
    · intro h
      cases h
      exact .empty
  | cons p l ih =>
    constructor
    · intro h
      cases h with
      | cat h h' =>
        cases h with
        | sat hp => exact .cons hp (ih.1 h')
    · intro h
      cases h with
      | cons hp h => exact Matches.cat (.sat hp) (ih.2 h)

theorem occurs_concat_sat : (concat (l.map sat)).Occurs t ↔
      ∃ m, m <:+: t ∧ List.Forall₂ (fun p c => p c = true) l m := by
  constructor
  · rintro ⟨b, m, a, rfl, h⟩
    exact ⟨m, ⟨b, a, List.append_assoc ..⟩, matches_concat_sat.1 h⟩
  · rintro ⟨m, ⟨b, a, rfl⟩, h⟩
    exact ⟨b, m, a, List.append_assoc .., matches_concat_sat.2 h⟩

end Regexp

end Moca
