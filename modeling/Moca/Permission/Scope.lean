/-
# Which objects a statement reaches

`Statement.Eval` compiles every resource of a statement as a regular expression and looks
for a match anywhere in the resource name of the object.  A statement that lists objects
by their names therefore speaks of an object that is not listed whenever a listed name
occurs in its name: a grant on `report` reaches `report-secret`
(`listed_object_reaches_longer`).  A listed name with operators of regular expressions in
it reaches what it matches; one with dots reaches what resembles it: a grant on `v1.2`
reaches `v1x2`.
-/

import Moca.Permission.Decision
import Moca.Permission.Grn

namespace Moca.Permission

/-- The resource name of an object, by the names of its bucket and of itself.  No address
is part of it. -/
def objectText (names : Text × Text) : Text :=
  (newObjectGRN names.1 names.2).string hexCodec

/-- A listed name, read as a regular expression, matches a part of the name of the object. -/
def Ctx.Reaches (ctx : Ctx) (listed object : Text × Text) : Prop :=
  ∃ r, Regexp.compile ctx.unicode (objectText listed) = some r ∧ r.Occurs (objectText object)

instance (ctx : Ctx) (listed object : Text × Text) : Decidable (ctx.Reaches listed object) :=
  decidable_of_iff _ (Regexp.matchString_iff ctx.unicode)

/-- A name without operators of regular expressions other than dots. -/
def IsDotted (names : Text × Text) : Prop := ∀ c ∈ objectText names, c ∉ Regexp.operators

/-- The statement has not expired, is about the action and has an effect. -/
structure Statement.Speaks (ctx : Ctx) (action : ActionType) (st : Statement) : Prop where
  live : isExpired ctx.blockTime st.expirationTime = false
  action : st.coversAction action = true
  effect : st.effect ≠ .unspecified

/-- The options of `VerifyObjectPermission`. -/
def objectOptions (names : Text × Text) : Option VerifyOptions :=
  some { resource := String.ofList (objectText names) }

/-- The round of `Policy.Eval` on the statement ends in an effect on the object. -/
def Statement.Decides (ctx : Ctx) (action : ActionType) (names : Text × Text) (st : Statement) :
    Prop :=
  (st.outcome ctx action (objectOptions names)).1 ≠ .unspecified

variable {ctx : Ctx} {action : ActionType} {st : Statement} {names : Text × Text}
  {listed : List (Text × Text)}

theorem objectText_ne_nil (names : Text × Text) : objectText names ≠ [] := by
  have hlength : 0 < (objectText names).length := by
    simp only [objectText, GRN.string, trimColon]
    split_ifs <;> simp [newObjectGRN, GRN.parts, List.intercalate]
  exact List.ne_nil_of_length_pos hlength

/-- No size is asked for, so that the limit of the statement does not matter. -/
theorem limitOn_objectOptions : st.limitOn action (objectOptions names) = none := by
  unfold Statement.limitOn
  split_ifs
  · cases st.limitSize <;> rfl
  · rfl

theorem coversResource_objectOptions
    (hlisted : st.resources = listed.map fun l => String.ofList (objectText l)) :
    st.coversResource ctx (objectOptions names) = true ↔ ∃ l ∈ listed, ctx.Reaches l names := by
  simp [Statement.coversResource, objectOptions, objectText_ne_nil, hlisted,
    Regexp.matchString_iff, Ctx.Reaches]

theorem decides_iff (hlisted : st.resources = listed.map fun l => String.ofList (objectText l)) :
    st.Decides ctx action names ↔
      st.Speaks ctx action ∧ ∃ l ∈ listed, ctx.Reaches l names := by
  rw [← coversResource_objectOptions hlisted]
  unfold Statement.Decides
  by_cases hmatches : st.Matches ctx action (objectOptions names)
  · rw [Statement.outcome_of_matches hmatches, limitOn_objectOptions]
    split_ifs with hdeny
    · simp only [ne_eq, reduceCtorEq, not_false_eq_true, true_iff]
      exact ⟨⟨hmatches.live, hmatches.action, by simp [hdeny]⟩, hmatches.resource⟩
    · exact ⟨fun heffect => ⟨⟨hmatches.live, hmatches.action, heffect⟩, hmatches.resource⟩,
        fun h => h.1.effect⟩
  · rw [Statement.outcome_of_not_matches hmatches]
    simp only [ne_eq, not_true_eq_false, false_iff]
    exact fun ⟨hspeaks, hresource⟩ => hmatches ⟨hspeaks.live, hresource, hspeaks.action⟩

/-- **A dotted name reaches what resembles it**: a part of the object's name that has any character
but a newline where the listed name has a dot, and the same characters elsewhere. -/
theorem reaches_of_isDotted {listed : Text × Text} (h : IsDotted listed) :
    ctx.Reaches listed names ↔ ∃ part, part <:+: objectText names ∧
      List.Forall₂ Regexp.Resembles (objectText listed) part := by
  obtain ⟨r, hr⟩ : ∃ r, Regexp.compile ctx.unicode (objectText listed) = some r :=
    ⟨_, Regexp.compile_of_not_operators h⟩
  rw [← Regexp.occurs_iff_resembles h hr]
  constructor
  · rintro ⟨r', hr', hoccurs⟩
    rwa [← Option.some.inj (hr'.symm.trans hr)]
  · exact fun hoccurs => ⟨r, hr, hoccurs⟩

/-- A name without dots resembles itself only. -/
theorem forall₂_resembles_iff {t part : Text} (ht : '.' ∉ t) :
    List.Forall₂ Regexp.Resembles t part ↔ part = t := by
  have hself : ∀ c ∈ t, ∀ d, Regexp.Resembles c d ↔ c = d := by
    intro c hc d
    have hdot : c ≠ '.' := fun heq => ht (heq ▸ hc)
    rw [Regexp.Resembles, if_neg hdot, eq_comm]
  constructor
  · intro h
    induction h with
    | nil => rfl
    | @cons c d t part hcd _ ih =>
      rw [(hself c List.mem_cons_self d).1 hcd,
        ih (fun hdot => ht (List.mem_cons_of_mem _ hdot)) fun c hc =>
          hself c (List.mem_cons_of_mem _ hc)]
  · rintro rfl
    exact List.forall₂_same.2 fun c hc => (hself c hc c).2 rfl

/-- **The scope of a statement** that lists objects by their resource names: it decides only
about listed objects exactly if the object is listed, the statement does not speak of the
action, or no listed name, read as a regular expression, matches a part of the object's.  That is
for a name without operators that it occurs there, and for a name with dots that a part of the
object's name resembles it. -/
theorem listed_scope {ctx : Ctx} {st : Statement} {listed : List (Text × Text)}
    (hlisted : st.resources = listed.map fun l => String.ofList (objectText l))
    (action : ActionType) (names : Text × Text) :
    ((st.Decides ctx action names → String.ofList (objectText names) ∈ st.resources) ↔
      (String.ofList (objectText names) ∈ st.resources ∨ ¬st.Speaks ctx action ∨
        ∀ l ∈ listed, ¬ctx.Reaches l names)) ∧
    ∀ l, IsDotted l →
      (ctx.Reaches l names ↔ ∃ part, part <:+: objectText names ∧
        List.Forall₂ Regexp.Resembles (objectText l) part) ∧
      ('.' ∉ objectText l → (ctx.Reaches l names ↔ objectText l <:+: objectText names)) := by
  refine ⟨?_, fun l hl => ⟨reaches_of_isDotted hl, fun hdot => ?_⟩⟩
  · rw [decides_iff hlisted]
    constructor
    · intro h
      by_cases hspeaks : st.Speaks ctx action
      · by_cases hreaches : ∃ l ∈ listed, ctx.Reaches l names
        · exact .inl (h ⟨hspeaks, hreaches⟩)
        · exact .inr (.inr fun l hl hr => hreaches ⟨l, hl, hr⟩)
      · exact .inr (.inl hspeaks)
    · rintro (h | h | h) ⟨hspeaks, l, hl, hr⟩
      · exact h
      · exact absurd hspeaks h
      · exact absurd hr (h l hl)
  · rw [reaches_of_isDotted hl]
    simp only [forall₂_resembles_iff hdot, exists_eq_right]

def reportStatement : Statement where
  effect := .allow
  actions := [.getObject]
  resources := ["report", "v1.2"].map fun name =>
    String.ofList (objectText ("bucket".toList, name.toList))

theorem listed_scope_other :
    String.ofList (objectText ("bucket".toList, "v1-3".toList)) ∉ reportStatement.resources ∧
      ¬reportStatement.Decides { blockTime := 0 } .getObject ("bucket".toList, "v1-3".toList) := by
  have hlisted : reportStatement.resources = [("bucket".toList, "report".toList),
      ("bucket".toList, "v1.2".toList)].map fun l => String.ofList (objectText l) := rfl
  have hother : String.ofList (objectText ("bucket".toList, "v1-3".toList)) ∉
      reportStatement.resources := by decide +kernel
  have hscope := (@listed_scope { blockTime := 0 } _ _ hlisted .getObject
    ("bucket".toList, "v1-3".toList)).1.2 (.inr (.inr (by decide +kernel)))
  exact ⟨hother, fun hdecides => hother (hscope hdecides)⟩

/-- A policy on the bucket that allows two objects to be read allows an object to be read whose
name goes on where a listed one ends, and one whose name resembles a listed one. -/
theorem listed_object_reaches_longer :
    ∃ put, (State.empty {}).putPolicy
        { principal := .account zeroAddress
          resourceType := .bucket
          resourceId := .zero
          statements := [reportStatement] } = .ok put ∧
      ∀ name ∈ ["report-secret", "v1x2"],
        String.ofList (objectText ("bucket".toList, name.toList)) ∉ reportStatement.resources ∧
        ∃ decided, put.1.verifyObjectPermission { blockTime := 0 }
            { id := .zero
              owner := List.Vector.replicate 20 1 }
            { id := .zero
              owner := List.Vector.replicate 20 1
              grn := String.ofList (objectText ("bucket".toList, name.toList)) }
            (some zeroAddress) .getObject = .ok decided ∧
          decided.2 = .allow := by
  decide +kernel

end Moca.Permission
