/-
# The syntax of regular expressions in Go

What `regexp.Compile` reads, with the flags of `syntax.Perl`: literals, `.`, classes, groups
with names and flags, alternatives, repetitions, assertions and escapes.  The pattern is read
from left to right; `Reader` is what has been read so far.  A pattern that is refused is read as
`none`.

The tables of Unicode, for classes by name and for the flag `i`, are a parameter.  Two things
are left out: classes such as `[:alpha:]`, which are refused, and the limits on the size of an
expression other than that of a single repetition.
-/

import Moca.Lib.Regexp
import Mathlib.Data.List.Forall2

namespace Moca.Regexp

/-- The tables of Unicode: a class by its name, and the characters that differ in case only. -/
structure Unicode where
  table : List Char → Option (Char → Bool) := fun _ => none
  orbit : Char → List Char := fun c => [c]

/-- The flags `i`, `m` and `s`.  The flag `U` chooses between matches only. -/
structure Flags where
  foldCase : Bool := false
  multiLine : Bool := false
  dotNL : Bool := false

variable (u : Unicode) (f : Flags)

/-- A set of characters or what is not in it, under the flags. -/
def Flags.set (negated : Bool) (p : Char → Bool) : Char → Bool := fun c =>
  (if f.foldCase then (u.orbit c).any p else p c) != negated

/-! ### Parts of a pattern -/

/-- `\w`. -/
def isWord (c : Char) : Bool := c.isAlphanum || c == '_'

/-- `\s`. -/
def isSpace (c : Char) : Bool := ['\t', '\n', '\x0c', '\r', ' '].contains c

def isOctal (c : Char) : Bool := decide ('0' ≤ c ∧ c ≤ '7')

def beginText : Regexp Char := .assert fun before _ => before.isNone

def endText : Regexp Char := .assert fun _ after => after.isNone

def beginLine : Regexp Char := .assert fun before _ => before.all (· == '\n')

def endLine : Regexp Char := .assert fun _ after => after.all (· == '\n')

/-- `\b`, or `\B`: there is a boundary of a word or not. -/
def wordBoundary (boundary : Bool) : Regexp Char :=
  .assert fun before after => (before.any isWord != after.any isWord) == boundary

/-- The text up to a character, and what follows the character. -/
def cutAt (c : Char) (t : List Char) : Option (List Char × List Char) :=
  match t.dropWhile (· != c) with
  | [] => none
  | _ :: rest => some (t.takeWhile (· != c), rest)

def hexDigit (c : Char) : Option ℕ :=
  if c.isDigit then some (c.toNat - 48)
  else if 'a' ≤ c ∧ c ≤ 'f' then some (c.toNat - 87)
  else if 'A' ≤ c ∧ c ≤ 'F' then some (c.toNat - 55)
  else none

/-- What follows a backslash and stands for one character. -/
def readEscape : List Char → Option (Char × List Char)
  | [] => none
  | 'a' :: t => some ('\x07', t)
  | 'f' :: t => some ('\x0c', t)
  | 'n' :: t => some ('\n', t)
  | 'r' :: t => some ('\r', t)
  | 't' :: t => some ('\t', t)
  | 'v' :: t => some ('\x0b', t)
  | 'x' :: '\x7b' :: t => do
    let (digits, t) ← cutAt '\x7d' t
    let n ← digits.foldlM (fun n c => (hexDigit c).map (16 * n + ·)) 0
    if digits = [] ∨ 0x10ffff < n then none else some (Char.ofNat n, t)
  | 'x' :: c :: d :: t => do
    let x ← hexDigit c
    let y ← hexDigit d
    some (Char.ofNat (16 * x + y), t)
  | c :: t =>
    if isOctal c then
      let digits := c :: (t.take 2).takeWhile isOctal
      -- one digit other than zero would refer to a group
      if c ≠ '0' ∧ digits.length = 1 then none
      else some (Char.ofNat (digits.foldl (fun n c => 8 * n + (c.toNat - 48)) 0),
        t.drop (digits.length - 1))
    else if c.toNat < 128 ∧ c.isAlphanum = false then some (c, t)
    else none

/-- What follows `\p`: a class by its name. -/
def readUnicode : List Char → Option ((Bool × (Char → Bool)) × List Char)
  | [] => none
  | '\x7b' :: t => do
    let (name, t) ← cutAt '\x7d' t
    match name with
    | '^' :: name => (u.table name).map fun p => ((true, p), t)
    | _ => (u.table name).map fun p => ((false, p), t)
  | c :: t => (u.table [c]).map fun p => ((false, p), t)

/-- What follows a backslash and stands for a set of characters, or for what is not in it. -/
def readClassEscape : List Char → Option ((Bool × (Char → Bool)) × List Char)
  | 'd' :: t => some ((false, Char.isDigit), t)
  | 'D' :: t => some ((true, Char.isDigit), t)
  | 's' :: t => some ((false, isSpace), t)
  | 'S' :: t => some ((true, isSpace), t)
  | 'w' :: t => some ((false, isWord), t)
  | 'W' :: t => some ((true, isWord), t)
  | 'p' :: t => readUnicode u t
  | 'P' :: t => (readUnicode u t).map fun e => ((!e.1.1, e.1.2), e.2)
  | _ => none

/-- A character of a class. -/
def readClassChar : List Char → Option (Char × List Char)
  | [] => none
  | '\\' :: t => readEscape t
  | c :: t => some (c, t)

/-- A character of a class, or a range. -/
def readRange (t : List Char) : Option ((Char × Char) × List Char) := do
  let (lo, t) ← readClassChar t
  match t with
  | '-' :: c :: t =>
    if c = ']' then some ((lo, lo), '-' :: c :: t)
    else do
      let (hi, t) ← readClassChar (c :: t)
      if hi < lo then none else some ((lo, hi), t)
  | _ => some ((lo, lo), t)

/-- The items of a class, up to the bracket that closes it; a bracket that comes first does not. -/
def readItems : ℕ → Bool → List Char → (Char → Bool) → Option ((Char → Bool) × List Char)
  | 0, _, _, _ => none
  | _ + 1, false, ']' :: t, p => some (p, t)
  | _ + 1, _, '[' :: ':' :: _, _ => none
  | n + 1, _, t, p =>
    match t.head?, readClassEscape u t.tail with
    | some '\\', some ((negated, q), t) => readItems n false t fun c => p c || f.set u negated q c
    | _, _ => do
      let ((lo, hi), t) ← readRange t
      readItems n false t fun c => p c || f.set u false (fun d => decide (lo ≤ d ∧ d ≤ hi)) c

/-- What follows the bracket that opens a class. -/
def readClass : List Char → Option ((Char → Bool) × List Char)
  | '^' :: t => (readItems u f (t.length + 1) true t fun _ => false).map fun e =>
      ((fun c => !e.1 c), e.2)
  | t => readItems u f (t.length + 1) true t fun _ => false

/-- A number without leading zeros. -/
def readInt (t : List Char) : Option (ℕ × List Char) :=
  let digits := t.takeWhile Char.isDigit
  if digits = [] ∨ 1 < digits.length ∧ digits.head? = some '0' then none
  else some (digits.foldl (fun n c => 10 * n + (c.toNat - 48)) 0, t.dropWhile Char.isDigit)

/-- What follows the brace of a repetition. -/
def readCounts (t : List Char) : Option ((ℕ × Option ℕ) × List Char) := do
  let (min, t) ← readInt t
  match t with
  | '\x7d' :: t => some ((min, some min), t)
  | ',' :: '\x7d' :: t => some ((min, none), t)
  | ',' :: t => do
    let (max, t) ← readInt t
    match t with
    | '\x7d' :: t => some ((min, some max), t)
    | _ => none
  | _ => none

/-- A repetition may be marked as lazy, which chooses between matches only. -/
def skipLazy : List Char → List Char
  | '?' :: t => t
  | t => t

/-- Flags that are set, or cleared after a minus sign: the new flags, and whether a group is
opened. -/
def readFlags : List Char → Bool → Bool → Flags → Option ((Flags × Bool) × List Char)
  | 'i' :: t, clear, _, f => readFlags t clear true { f with foldCase := !clear }
  | 'm' :: t, clear, _, f => readFlags t clear true { f with multiLine := !clear }
  | 's' :: t, clear, _, f => readFlags t clear true { f with dotNL := !clear }
  | 'U' :: t, clear, _, f => readFlags t clear true f
  | '-' :: t, false, _, f => readFlags t true false f
  | ':' :: t, clear, seen, f => if clear && !seen then none else some ((f, true), t)
  | ')' :: t, clear, seen, f => if clear && !seen then none else some ((f, false), t)
  | _, _, _, _ => none

/-! ### Patterns -/

/-- What has been read: the flags, and the alternatives and the items of the group that is open,
last first; whether the last item is a repetition; and the same for the groups around it. -/
structure Reader where
  flags : Flags := {}
  alts : List (Regexp Char) := []
  items : List (Regexp Char) := []
  lastRepeat : Bool := false
  groups : List (Flags × List (Regexp Char) × List (Regexp Char)) := []

namespace Reader

variable (st : Reader)

def push (r : Regexp Char) : Reader := { st with items := r :: st.items, lastRepeat := false }

def literal (c : Char) : Reader := st.push (.sat (st.flags.set u false (· == c)))

/-- The group that is open, as one expression. -/
def group : Regexp Char := st.alts.foldl (fun r r' => .alt r' r) (concat st.items.reverse)

def bar : Reader :=
  { st with alts := concat st.items.reverse :: st.alts, items := [], lastRepeat := false }

def openGroup (flags : Flags) : Reader where
  flags := flags
  groups := (st.flags, st.alts, st.items) :: st.groups

/-- The flags are those of the time when the group was opened. -/
def closeGroup : Option Reader :=
  match st.groups with
  | [] => none
  | (flags, alts, items) :: groups => some { flags, alts, items := st.group :: items, groups }

/-- Repetitions need an item and do not follow each other. -/
def repeatLast (min : ℕ) (max : Option ℕ) : Option Reader :=
  match st.items with
  | [] => none
  | r :: items =>
    if st.lastRepeat then none
    else some { st with items := r.times min max :: items, lastRepeat := true }

def finish : Option (Regexp Char) := if st.groups.isEmpty then some st.group else none

/-- What follows `\Q`: literals up to `\E`. -/
def quote : List Char → Reader → Reader × List Char
  | [], st => (st, [])
  | '\\' :: 'E' :: t, st => (st, t)
  | c :: t, st => quote t (st.literal u c)

/-- What follows a backslash. -/
def backslash : List Char → Option (Reader × List Char)
  | 'A' :: t => some (st.push beginText, t)
  | 'b' :: t => some (st.push (wordBoundary true), t)
  | 'B' :: t => some (st.push (wordBoundary false), t)
  | 'Q' :: t => some (quote u t { st with lastRepeat := false })
  | 'z' :: t => some (st.push endText, t)
  | t =>
    match readClassEscape u t with
    | some ((negated, p), t) => some (st.push (.sat (st.flags.set u negated p)), t)
    | none => (readEscape t).map fun e => (st.literal u e.1, e.2)

/-- A name of a group, up to the bracket that closes it. -/
def named (t : List Char) : Option (Reader × List Char) :=
  match t.takeWhile isWord, t.dropWhile isWord with
  | _ :: _, '>' :: t => some (st.openGroup st.flags, t)
  | _, _ => none

/-- What follows the parenthesis and the question mark of a group with a name or with flags. -/
def perlGroup : List Char → Option (Reader × List Char)
  | 'P' :: '<' :: t => st.named t
  | '<' :: t => st.named t
  | t => (readFlags t false false st.flags).map fun e =>
      if e.1.2 then (st.openGroup e.1.1, e.2)
      else ({ st with flags := e.1.1, lastRepeat := false }, e.2)

/-- What follows the brace: a repetition, or the brace is a literal. -/
def brace (t : List Char) : Option (Reader × List Char) :=
  match readCounts t with
  | none => some (st.literal u '\x7b', t)
  | some ((min, max), t) =>
    if 1000 < min ∨ max.any (fun n => decide (1000 < n ∨ n < min)) then none
    else (st.repeatLast min max).map (·, skipLazy t)

/-- One round of the loop: what a character stands for, and what is left of the pattern. -/
def round (c : Char) (t : List Char) : Option (Reader × List Char) :=
  if c = '(' then
    match t with
    | '?' :: t => st.perlGroup t
    | _ => some (st.openGroup st.flags, t)
  else if c = '|' then some (st.bar, t)
  else if c = ')' then st.closeGroup.map (·, t)
  else if c = '^' then some (st.push (if st.flags.multiLine then beginLine else beginText), t)
  else if c = '$' then some (st.push (if st.flags.multiLine then endLine else endText), t)
  else if c = '.' then some (st.push (.sat fun d => st.flags.dotNL || d != '\n'), t)
  else if c = '[' then (readClass u st.flags t).map fun e => (st.push (.sat e.1), e.2)
  else if c = '*' then (st.repeatLast 0 none).map (·, skipLazy t)
  else if c = '+' then (st.repeatLast 1 none).map (·, skipLazy t)
  else if c = '?' then (st.repeatLast 0 (some 1)).map (·, skipLazy t)
  else if c = '\x7b' then st.brace u t
  else if c = '\\' then st.backslash u t
  else some (st.literal u c, t)

end Reader

/-- The loop; every round takes a character. -/
def read : ℕ → List Char → Reader → Option (Regexp Char)
  | _, [], st => st.finish
  | 0, _ :: _, _ => none
  | n + 1, c :: t, st => do
    let (st, t) ← st.round u c t
    read n t st

/-- `regexp.Compile`. -/
def compile (t : List Char) : Option (Regexp Char) := read u t.length t {}

/-- `regexp.MatchString`: a match anywhere in the text. -/
def matchString (pattern text : List Char) : Bool := (compile u pattern).any (·.search text)

theorem matchString_iff {pattern text : List Char} :
    matchString u pattern text = true ↔ ∃ r, compile u pattern = some r ∧ r.Occurs text := by
  simp [matchString, Option.any_eq_true, search_iff]

example : matchString {} "b(c|[0-9x-]+)?\\.d{2,3}$".toList "ab42.ddd".toList = true := by
  decide +kernel

example : matchString {} "^[^a-c]*(?s:.)\\b".toList "ab".toList = false := by decide +kernel

/-! ### Patterns without operators other than dots -/

/-- The operators of patterns, except for the dot. -/
def operators : List Char :=
  ['\\', '+', '*', '?', '(', ')', '|', '[', '\x7b', '^', '$']

/-- What a character of such a pattern asks for: a dot stands for any character but a newline. -/
def Resembles (c d : Char) : Prop := if c = '.' then d ≠ '\n' else d = c

instance (c d : Char) : Decidable (Resembles c d) := by
  delta Resembles
  infer_instance

variable {u} {t : List Char}

/-- The set of characters that a character of such a pattern stands for. -/
def charSet (u : Unicode) (c : Char) : Char → Bool :=
  if c = '.' then fun d => ({} : Flags).dotNL || d != '\n' else ({} : Flags).set u false (· == c)

theorem charSet_iff {c d : Char} : charSet u c d = true ↔ Resembles c d := by
  unfold charSet Resembles
  split_ifs <;> simp [Flags.set]

theorem Reader.round_of_not_operator {st : Reader} {c : Char} (hflags : st.flags = {})
    (hc : c ∉ operators) : st.round u c t = some (st.push (.sat (charSet u c)), t) := by
  simp only [operators, List.mem_cons, List.not_mem_nil, or_false, not_or] at hc
  obtain ⟨h₁, h₂, h₃, h₄, h₅, h₆, h₇, h₈, h₉, h₁₀, h₁₁⟩ := hc
  unfold Reader.round charSet
  simp only [h₁, h₂, h₃, h₄, h₅, h₆, h₇, h₈, h₉, h₁₀, h₁₁, if_false, hflags, Reader.literal]
  split_ifs <;> rfl

theorem read_of_not_operators (ht : ∀ c ∈ t, c ∉ operators) (st : Reader)
    (hflags : st.flags = {}) : ∃ lastRepeat, read u t.length t st =
      { st with items := (t.map fun c => sat (charSet u c)).reverse ++ st.items
                lastRepeat }.finish := by
  induction t generalizing st with
  | nil => exact ⟨st.lastRepeat, rfl⟩
  | cons c t ih =>
    obtain ⟨lastRepeat, hread⟩ := ih (fun d hd => ht d (List.mem_cons_of_mem _ hd))
      (st.push (sat (charSet u c))) hflags
    refine ⟨lastRepeat, ?_⟩
    rw [List.length_cons, read, Reader.round_of_not_operator hflags (ht c List.mem_cons_self)]
    change read u t.length t _ = _
    rw [hread]
    simp [Reader.push]

/-- **A pattern without operators other than dots** asks for one character after the other. -/
theorem compile_of_not_operators (ht : ∀ c ∈ t, c ∉ operators) :
    compile u t = some (concat ((t.map (charSet u)).map sat)) := by
  obtain ⟨lastRepeat, hread⟩ := read_of_not_operators (u := u) ht {} rfl
  rw [compile, hread]
  simp [Reader.finish, Reader.group, Function.comp_def]

/-- **Such a pattern occurs where a part of the text resembles it.** -/
theorem occurs_iff_resembles (ht : ∀ c ∈ t, c ∉ operators) {r : Regexp Char}
    (hr : compile u t = some r) {text : List Char} :
    r.Occurs text ↔ ∃ part, part <:+: text ∧ List.Forall₂ Resembles t part := by
  rw [compile_of_not_operators ht] at hr
  cases hr
  rw [occurs_concat_sat]
  refine exists_congr fun part => and_congr_right fun _ => ?_
  rw [List.forall₂_map_left_iff]
  simp only [charSet_iff]

end Moca.Regexp
