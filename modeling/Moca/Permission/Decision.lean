/-
# What a permission decision says

The evaluation of a policy stops at the first statement that denies, and that of the groups at the
first policy that does.  `Policy.effectFor` and `State.decision` say what comes out without any
order: a policy denies if one of its statements does, and otherwise allows if one does; the policy
for the account goes before those for its groups, among which denial again wins.

`VerifyPolicy` gives this answer whenever it gives one (`State.verifyPolicy_cases`).  It panics
on a group as the resource, unless the policy for the account decides, since there is no key
for the policy groups of a group; and it panics when it has to write back the policy of a group on
a resource whose policy group is full.  The sweep of expired policies changes no decision
(`sweep_keeps_decisions`).
-/

import Moca.Permission.Override
import Moca.Permission.References
import Moca.Permission.Verify

namespace Moca.Permission

open State Policy Statement

variable {ctx : Ctx} {s : State} {action : ActionType} {opts : Option VerifyOptions}

/-! ### Statements -/

variable (ctx action opts)

/-- The statement has not expired and speaks of the action on the resource. -/
structure Statement.Matches (st : Statement) : Prop where
  live : isExpired ctx.blockTime st.expirationTime = false
  resource : st.coversResource ctx opts = true
  action : st.coversAction action = true

/-- The size asked for is over the limit of the statement. -/
def Statement.Exceeded (st : Statement) : Prop :=
  ∃ limit wanted, st.limitOn action opts = some (limit, wanted) ∧ limit < wanted

/-- The statement denies the action, or limits it to less than is asked for. -/
def Statement.Denies (st : Statement) : Prop :=
  st.Matches ctx action opts ∧ (st.effect = .deny ∨ st.Exceeded action opts)

/-- The statement allows the action, within its limit if it has one. -/
def Statement.Allows (st : Statement) : Prop :=
  st.Matches ctx action opts ∧ st.effect ≠ .deny ∧ ¬st.Exceeded action opts ∧
    (st.effect = .allow ∨ (st.limitOn action opts).isSome)

/-- One round of the loop of `Policy.Eval`. -/
def Statement.outcome (st : Statement) : Effect × Option Statement :=
  if isExpired ctx.blockTime st.expirationTime then (.unspecified, none)
  else st.eval ctx action opts

variable {ctx action opts}
variable {operator : AccAddress} {i : Uint} {t : ResourceType} {key : Bytes} {p : Policy}
  {item : PolicyGroupItem} {effect : Effect} {st : Statement} {items later : List PolicyGroupItem}
  {id : Uint}

theorem Statement.outcome_of_not_matches (h : ¬st.Matches ctx action opts) :
    st.outcome ctx action opts = (.unspecified, none) := by
  unfold outcome Statement.eval
  split_ifs with hlive hcovers
  · rfl
  · rfl
  all_goals
    simp only [not_or, Bool.not_eq_false] at hcovers
    exact absurd ⟨Bool.eq_false_iff.2 hlive, hcovers.1, hcovers.2⟩ h

/-- What a statement that speaks of the action says. -/
theorem Statement.outcome_of_matches (h : st.Matches ctx action opts) : st.outcome ctx action opts =
      if st.effect = .deny then (.deny, none)
      else
        match st.limitOn action opts with
        | some (limit, wanted) =>
          if wanted ≤ limit then (.allow, some { st with limitSize := some (limit - wanted) })
          else (.deny, none)
        | none => (st.effect, none) := by
  have hlive : ¬isExpired ctx.blockTime st.expirationTime = true := by simp [h.live]
  have hcovers : ¬(st.coversResource ctx opts = false ∨ st.coversAction action = false) := by
    simp [h.resource, h.action]
  exact (if_neg hlive).trans (if_neg hcovers)

theorem Statement.outcome_eq_deny (st : Statement) :
    (st.outcome ctx action opts).1 = .deny ↔ st.Denies ctx action opts := by
  unfold Denies Exceeded
  by_cases hm : st.Matches ctx action opts
  · rw [outcome_of_matches hm]
    split_ifs with heffect
    · simp [hm, heffect]
    · rcases hlimit : st.limitOn action opts with _ | ⟨limit, wanted⟩
      · simp [hm, heffect]
      · dsimp only
        split_ifs with hle <;> simp [hm, heffect] <;> omega
  · rw [outcome_of_not_matches hm]
    simp [hm]

theorem Statement.outcome_eq_allow (st : Statement) :
    (st.outcome ctx action opts).1 = .allow ↔ st.Allows ctx action opts := by
  unfold Allows Exceeded
  by_cases hm : st.Matches ctx action opts
  · rw [outcome_of_matches hm]
    split_ifs with heffect
    · simp [heffect]
    · rcases hlimit : st.limitOn action opts with _ | ⟨limit, wanted⟩
      · simp only [hm, heffect, not_false_eq_true, reduceCtorEq, false_and, exists_false,
          Option.isSome_none, Bool.false_eq_true, or_false, true_and, ne_eq]
      · dsimp only
        split_ifs with hle <;> simp [hm, heffect] <;> omega
  · rw [outcome_of_not_matches hm]
    simp [hm]

/-! ### Policies -/

open Classical in
/-- **What a policy says about an action.**  Nothing once it has expired; otherwise a statement that
denies wins over those that allow. -/
noncomputable def Policy.effectFor (ctx : Ctx) (p : Policy) (action : ActionType)
    (opts : Option VerifyOptions) : Effect :=
  if isExpired ctx.blockTime p.expirationTime = true then .unspecified
  else if ∃ st ∈ p.statements, st.Denies ctx action opts then .deny
  else if ∃ st ∈ p.statements, st.Allows ctx action opts then .allow
  else .unspecified

/-- The loop of `Policy.Eval` in one equation. -/
theorem evalStatements_eq (l : List Statement) (allowed updated : Bool) (done : List Statement) :
    evalStatements ctx action opts l allowed updated done =
      if l.any fun st => decide ((st.outcome ctx action opts).1 = .deny) then none
      else some (allowed || l.any fun st => decide ((st.outcome ctx action opts).1 = .allow),
        updated || l.any fun st => (st.outcome ctx action opts).2.isSome,
        done ++ l.map fun st => (st.outcome ctx action opts).2.getD st) := by
  induction l generalizing allowed updated done with
  | nil => simp [evalStatements]
  | cons st l ih =>
    unfold evalStatements
    rcases hlive : isExpired ctx.blockTime st.expirationTime with _ | _
    · have hout : st.outcome ctx action opts = st.eval ctx action opts := by
        rw [outcome, hlive]
        rfl
      rw [if_neg (by simp), ← hout]
      rcases hst : st.outcome ctx action opts with ⟨_ | _ | _, st'⟩ <;>
        simp [ih, hst, Bool.or_assoc]
    · have hout : st.outcome ctx action opts = (.unspecified, none) := by
        rw [outcome, hlive]
        rfl
      rw [if_pos rfl, ih]
      simp [hout]

theorem any_outcome_deny (l : List Statement) :
    (l.any fun st => decide ((st.outcome ctx action opts).1 = .deny)) = true ↔
      ∃ st ∈ l, st.Denies ctx action opts := by
  simp [outcome_eq_deny]

theorem any_outcome_allow (l : List Statement) :
    (l.any fun st => decide ((st.outcome ctx action opts).1 = .allow)) = true ↔
      ∃ st ∈ l, st.Allows ctx action opts := by
  simp [outcome_eq_allow]

/-- A policy after an evaluation: the limits of its statements are used. -/
def Policy.spent (ctx : Ctx) (action : ActionType) (opts : Option VerifyOptions) (p : Policy) :
    Policy :=
  { p with statements := p.statements.map fun st => (st.outcome ctx action opts).2.getD st }

/-- `Policy.Eval` in one equation. -/
theorem Policy.eval_eq (p : Policy) : p.eval ctx action opts =
    (p.effectFor ctx action opts,
      if p.effectFor ctx action opts = .allow ∧
          (p.statements.any fun st => (st.outcome ctx action opts).2.isSome) = true then
        some (p.spent ctx action opts)
      else none) := by
  unfold Policy.eval effectFor
  rw [evalStatements_eq]
  by_cases hlive : isExpired ctx.blockTime p.expirationTime = true
  · simp [hlive]
  rw [if_neg hlive, if_neg hlive]
  by_cases hd : ∃ st ∈ p.statements, st.Denies ctx action opts
  · simp [(any_outcome_deny p.statements).2 hd, hd]
  rw [if_neg (mt (any_outcome_deny p.statements).1 hd), if_neg hd, Bool.false_or, Bool.false_or,
    List.nil_append]
  by_cases ha : ∃ st ∈ p.statements, st.Allows ctx action opts
  · rw [if_pos ha, (any_outcome_allow p.statements).2 ha]
    simp [spent]
  · rw [if_neg ha, Bool.eq_false_iff.2 (mt (any_outcome_allow p.statements).1 ha)]
    simp

theorem Policy.eval_fst (p : Policy) :
    (p.eval ctx action opts).1 = p.effectFor ctx action opts := by
  rw [eval_eq]

theorem Policy.effectFor_eq_allow (h : p.effectFor ctx action opts = .allow) :
    isExpired ctx.blockTime p.expirationTime = false ∧
      (∀ st ∈ p.statements, ¬st.Denies ctx action opts) ∧
      ∃ st ∈ p.statements, st.Allows ctx action opts := by
  unfold effectFor at h
  split_ifs at h with hlive hd ha
  refine ⟨Bool.eq_false_iff.2 hlive, fun st hst hdenies => hd ⟨st, hst, hdenies⟩, ha⟩

/-- A statement is updated where it limits an action that it allows. -/
theorem Statement.isSome_outcome (h : ¬st.Denies ctx action opts) :
    (st.outcome ctx action opts).2.isSome ↔
      st.Matches ctx action opts ∧ (st.limitOn action opts).isSome := by
  by_cases hm : st.Matches ctx action opts
  · have heffect : st.effect ≠ .deny := fun he => h ⟨hm, .inl he⟩
    rw [outcome_of_matches hm, if_neg heffect]
    rcases hlimit : st.limitOn action opts with _ | ⟨limit, wanted⟩
    · simp
    · have hle : wanted ≤ limit := by
        by_contra hlt
        exact h ⟨hm, .inr ⟨limit, wanted, hlimit, not_le.1 hlt⟩⟩
      simp [hm, hle]
  · rw [outcome_of_not_matches hm]
    simp [hm]

/-- The policy allows the action, and one of its statements limits it. -/
def Policy.Limits (ctx : Ctx) (action : ActionType) (opts : Option VerifyOptions) (p : Policy) :
    Prop :=
  ∃ st ∈ p.statements, st.Matches ctx action opts ∧ (st.limitOn action opts).isSome

/-- **An evaluation updates a policy** if it allows the action and a statement limits it. -/
theorem Policy.eval_snd_eq_some {p' : Policy} : (p.eval ctx action opts).2 = some p' ↔
    p.effectFor ctx action opts = .allow ∧ p.Limits ctx action opts ∧
      p' = p.spent ctx action opts := by
  rw [eval_eq]
  dsimp only
  by_cases hallow : p.effectFor ctx action opts = .allow
  · have hlimits : (p.statements.any fun st => (st.outcome ctx action opts).2.isSome) = true ↔
        p.Limits ctx action opts := by
      rw [List.any_eq_true]
      constructor
      · rintro ⟨st, hst, hsome⟩
        have hdenies := (effectFor_eq_allow hallow).2.1 st hst
        exact ⟨st, hst, (isSome_outcome hdenies).1 hsome⟩
      · rintro ⟨st, hst, hlimited⟩
        have hdenies := (effectFor_eq_allow hallow).2.1 st hst
        exact ⟨st, hst, (isSome_outcome hdenies).2 hlimited⟩
    split_ifs with hboth
    · simp [hallow, hlimits.1 hboth.2, eq_comm]
    · have hnot : ¬p.Limits ctx action opts := fun hl => hboth ⟨hallow, hlimits.2 hl⟩
      simp [hnot]
  · simp [hallow]

/-! ### Policies for the groups of an account -/

section Decisions

variable (ctx : Ctx) (s : State) (resourceId : Uint) (resourceType : ResourceType)
  (operator : AccAddress) (action : ActionType) (opts : Option VerifyOptions)

/-- The group of an item exists, and the operator is a member of it. -/
def State.Concerns (item : PolicyGroupItem) : Prop :=
  ctx.hasGroup item.groupId = true ∧ s.isMember ctx item.groupId operator = true

instance (item : PolicyGroupItem) :
    Decidable (s.Concerns ctx operator item) := inferInstanceAs (Decidable (_ ∧ _))

/-- The policy of an item gives an effect, and the group concerns the operator. -/
def State.Gives (item : PolicyGroupItem) (effect : Effect) : Prop :=
  s.Concerns ctx operator item ∧
    ∃ p, s.getPolicyByID item.policyId = some p ∧ p.effectFor ctx action opts = effect

/-- The items of the policy group of a resource. -/
def State.itemsOf : List PolicyGroupItem :=
  (s.getPolicyGroupForResource resourceId resourceType).getD []

open Classical in
/-- **The decision of the policies for groups**: denial wins. -/
noncomputable def State.groupDecision : Effect :=
  if ∃ item ∈ s.itemsOf resourceId resourceType, s.Gives ctx operator action opts item .deny then
    .deny
  else if ∃ item ∈ s.itemsOf resourceId resourceType,
      s.Gives ctx operator action opts item .allow then .allow
  else .unspecified

/-- What the policy for the account says. -/
noncomputable def State.accountDecision : Effect :=
  match s.getPolicyForAccount resourceId resourceType operator with
  | none => .unspecified
  | some p => p.effectFor ctx action opts

/-- **The decision of the policies on a resource**: the one for the account goes first. -/
noncomputable def State.decision : Effect :=
  if s.accountDecision ctx resourceId resourceType operator action opts = .unspecified then
    s.groupDecision ctx resourceId resourceType operator action opts
  else s.accountDecision ctx resourceId resourceType operator action opts

/-- One round of the loop over the groups. -/
def State.itemOutcome (item : PolicyGroupItem) : Effect × Option Policy :=
  if s.Concerns ctx operator item then
    match s.getPolicyByID item.policyId with
    | none => (.unspecified, none)
    | some p => p.eval ctx action opts
  else (.unspecified, none)

/-- The loop over the groups: a group that denies, or the last one that allows. -/
def State.groupsOutcome (items : List PolicyGroupItem) (acc : Effect × Option Policy) :
    Effect × Option Policy :=
  if items.any fun item => decide ((s.itemOutcome ctx operator action opts item).1 = .deny) then
    (.deny, none)
  else
    ((items.reverse.find? fun item =>
      decide ((s.itemOutcome ctx operator action opts item).1 = .allow)).map
        (s.itemOutcome ctx operator action opts)).getD acc

/-- The last group that allows the operator a creation limits its size, no group denies it, and the
policy group of the resource is full. -/
def State.Refuses : Prop :=
  action = .createObject ∧ ctx.inTx = true ∧
    s.params.maximumGroupNum ≤ (s.itemsOf resourceId resourceType).length ∧
    (∀ item ∈ s.itemsOf resourceId resourceType, ¬s.Gives ctx operator action opts item .deny) ∧
    ∃ earlier item later p, s.itemsOf resourceId resourceType = earlier ++ item :: later ∧
      s.Concerns ctx operator item ∧ s.getPolicyByID item.policyId = some p ∧
      p.effectFor ctx action opts = .allow ∧ p.Limits ctx action opts ∧
      ∀ x ∈ later, ¬s.Gives ctx operator action opts x .allow

/-- `VerifyPolicy` comes to an answer: the policy for the account decides, or the resource has a
policy group and no write-back to it is refused. -/
def State.Answers : Prop :=
  s.accountDecision ctx resourceId resourceType operator action opts ≠ .unspecified ∨
    (getPolicyForGroupKey resourceId resourceType ≠ none ∧
      ¬s.Refuses ctx resourceId resourceType operator action opts)

end Decisions

theorem State.itemOutcome_fst (heffect : effect ≠ .unspecified) :
    (s.itemOutcome ctx operator action opts item).1 = effect ↔
      s.Gives ctx operator action opts item effect := by
  unfold itemOutcome Gives
  split_ifs with hconcerns
  · rcases s.getPolicyByID item.policyId with _ | p
    · simp [heffect.symm]
    · simp [hconcerns, eval_fst]
  · simp [hconcerns, heffect.symm]

/-- The loop over the groups in one equation. -/
theorem State.evalGroups_eq (items : List PolicyGroupItem) (acc : Effect × Option Policy)
    (h : ∀ item ∈ items, s.getPolicyByID item.policyId ≠ none) :
    s.evalGroups ctx operator action opts items acc =
      .ok (s.groupsOutcome ctx operator action opts items acc) := by
  unfold groupsOutcome
  induction items generalizing acc with
  | nil => rfl
  | cons item items ih =>
    have hrest := fun acc => ih acc fun x hx => h x (List.mem_cons_of_mem _ hx)
    obtain ⟨p, hp⟩ := Option.ne_none_iff_exists'.1 (h item List.mem_cons_self)
    unfold evalGroups
    by_cases hgroup : ctx.hasGroup item.groupId = true
    · rw [if_pos hgroup, mustGetPolicyByID_eq_ok.2 hp]
      dsimp only [bind, Except.bind, pure, Except.pure]
      rcases hmember : s.isMember ctx item.groupId operator with _ | _
      · have hout : s.itemOutcome ctx operator action opts item = (.unspecified, none) :=
          if_neg fun hconcerns => by simp [hconcerns.2] at hmember
        rcases p.eval ctx action opts with ⟨_ | _ | _, newPolicy⟩ <;> simp [hrest, hout]
      · have hout : s.itemOutcome ctx operator action opts item = p.eval ctx action opts := by
          rw [itemOutcome, if_pos ⟨hgroup, hmember⟩, hp]
        rcases heval : p.eval ctx action opts with ⟨_ | _ | _, newPolicy⟩
        · simp [hrest, hout, heval]
        · have hallow : (s.itemOutcome ctx operator action opts item).1 = .allow := by
            rw [hout, heval]
          refine (hrest (.allow, newPolicy)).trans (congrArg Except.ok ?_)
          simp only [List.any_cons, hallow, reduceCtorEq, decide_false, Bool.false_or,
            List.reverse_cons, List.find?_append, List.find?_singleton, decide_true, if_true]
          split_ifs
          · rfl
          · -- the last group that allows is one of the others, or this one
            rcases items.reverse.find? _ with _ | x
            · exact (hout.trans heval).symm
            · rfl
        · simp [hout, heval]
    · have hout : s.itemOutcome ctx operator action opts item = (.unspecified, none) :=
        if_neg fun hconcerns => hgroup hconcerns.1
      rw [if_neg hgroup, hrest]
      simp [hout]

/-! ### The write-back -/

theorem State.items_of_find? (h : s.policyGroups.find? key = some items) : s.items key = items := by
  simp [State.items, h]

/-- A policy is the one for its own resource and principal. -/
theorem State.Coherent.policyFor_self (hc : s.Coherent) (honce : s.GroupsOnce)
    (hp : s.getPolicyByID id = some p) :
    s.policyFor p.resourceType p.resourceId p.principal = some p := by
  obtain ⟨hplace, hsome⟩ := hc.placeOf_eq hp
  obtain ⟨place, hplace'⟩ := Option.ne_none_iff_exists'.1 hsome
  rw [hplace'] at hplace
  rcases place with key | ⟨key, g⟩
  · obtain ⟨addr, hprincipal, hkey⟩ := place_eq_account.1 hplace'
    rw [hprincipal]
    exact getPolicyForAccount_eq_some.2 ⟨key, id, hkey, (hc.accounts key id).2 hplace, hp⟩
  · obtain ⟨hprincipal, hkey⟩ := place_eq_group.1 hplace'
    rw [hprincipal]
    have hmem : (⟨id, g⟩ : PolicyGroupItem) ∈ s.items key := (hc.items.mem_iff key ⟨id, g⟩).2 hplace
    rcases hitems : s.policyGroups.find? key with _ | items
    · simp [State.items, hitems] at hmem
    rw [items_of_find? hitems] at hmem
    have hnodup := honce key
    rw [items_of_find? hitems] at hnodup
    refine getPolicyForGroup_eq_some.2 ⟨key, items, ⟨id, g⟩, hkey, hitems, ?_, hp⟩
    rcases hfind : items.find? fun item => decide (item.groupId = g) with _ | item
    · exact absurd (List.find?_eq_none.1 hfind _ hmem) (by simp)
    · have hitem : item.groupId = g := by simpa using List.find?_some hfind
      have hfound := List.mem_of_find?_eq_some hfind
      exact hfind.trans (congrArg some (List.inj_on_of_nodup_map hnodup hfound hmem hitem))

/-- A statement limits no action without a size. -/
theorem Policy.not_limits (h : opts.bind VerifyOptions.wantedSize = none) :
    ¬p.Limits ctx action opts := by
  rintro ⟨st, -, -, hlimit⟩
  simp [limitOn, h] at hlimit

/-- **The write-back after an evaluation** is refused where the policy is that of a group, its
limit is used, and the policy group is full. -/
theorem State.writeBack_cases (hc : s.Coherent) (honce : s.GroupsOnce)
    (hp : s.getPolicyByID id = some p) (heffect : p.effectFor ctx action opts = .allow) :
    ((action = .createObject ∧ ctx.inTx = true ∧
        s.isFull p.resourceType p.resourceId p.principal = true ∧ p.Limits ctx action opts) ∧
      ∃ e, s.writeBack ctx action (p.eval ctx action opts).2 = .error e) ∨
    (¬(action = .createObject ∧ ctx.inTx = true ∧
        s.isFull p.resourceType p.resourceId p.principal = true ∧ p.Limits ctx action opts) ∧
      ∃ s', s.writeBack ctx action (p.eval ctx action opts).2 = .ok s' ∧
        (opts.bind VerifyOptions.wantedSize = none → s' = s)) := by
  rcases hnew : (p.eval ctx action opts).2 with _ | p'
  · have hlimits : ¬p.Limits ctx action opts := fun hlimits =>
      Option.some_ne_none _ ((eval_snd_eq_some.2 ⟨heffect, hlimits, rfl⟩).symm.trans hnew)
    exact .inr ⟨fun h => hlimits h.2.2.2, s, rfl, fun _ => rfl⟩
  obtain ⟨-, hlimits, rfl⟩ := eval_snd_eq_some.1 hnew
  have hsize : ∀ s' : State, opts.bind VerifyOptions.wantedSize = none → s' = s :=
    fun _ h => absurd hlimits (not_limits h)
  unfold writeBack
  dsimp only
  by_cases hwrites : action = .createObject ∧ ctx.inTx = true
  · rw [if_pos hwrites]
    rcases hfull : s.isFull p.resourceType p.resourceId p.principal with _ | _
    · have hself : s.policyFor (p.spent ctx action opts).resourceType
          (p.spent ctx action opts).resourceId (p.spent ctx action opts).principal = some p :=
        hc.policyFor_self honce hp
      rw [putPolicy_of_policyFor honce hself hfull]
      exact .inr ⟨fun h => Bool.false_ne_true h.2.2.1, _, rfl, hsize _⟩
    · have hrefused : ∃ e, s.putPolicy (p.spent ctx action opts) = .error e :=
        putPolicy_of_isFull hfull
      obtain ⟨e, he⟩ := hrefused
      rw [he]
      exact .inl ⟨⟨hwrites.1, hwrites.2, rfl, hlimits⟩, e, rfl⟩
  · rw [if_neg hwrites]
    exact .inr ⟨fun h => hwrites ⟨h.1, h.2.1⟩, s, rfl, fun _ => rfl⟩

/-! ### The decision of `VerifyPolicy` -/

theorem State.any_gives_deny : (items.any fun item =>
      decide ((s.itemOutcome ctx operator action opts item).1 = .deny)) = true ↔
      ∃ item ∈ items, s.Gives ctx operator action opts item .deny := by
  simp [itemOutcome_fst]

/-- The last item that gives `allow` is the one found. -/
theorem State.find?_reverse_eq_some (earlier : List PolicyGroupItem)
    (hitem : s.Gives ctx operator action opts item .allow)
    (hlater : ∀ x ∈ later, ¬s.Gives ctx operator action opts x .allow) :
    ((earlier ++ item :: later).reverse.find? fun item =>
      decide ((s.itemOutcome ctx operator action opts item).1 = .allow)) = some item := by
  have hallow : ∀ x, (s.itemOutcome ctx operator action opts x).1 = .allow ↔
      s.Gives ctx operator action opts x .allow := fun x => itemOutcome_fst (by simp)
  have hnone : (later.reverse.find? fun item =>
      decide ((s.itemOutcome ctx operator action opts item).1 = .allow)) = none := by
    refine List.find?_eq_none.2 fun x hx => ?_
    rw [decide_eq_true_iff, hallow]
    exact hlater x (List.mem_reverse.1 hx)
  rw [List.reverse_append, List.reverse_cons, List.append_assoc, List.find?_append, hnone,
    Option.none_or, List.singleton_append, List.find?_cons, decide_eq_true ((hallow item).2 hitem)]

/-- **The three outcomes of the loop**: a group denies; none denies and the last one that allows
decides; none says anything. -/
theorem State.groupsOutcome_cases (items : List PolicyGroupItem) :
    ((∃ item ∈ items, s.Gives ctx operator action opts item .deny) ∧
      s.groupsOutcome ctx operator action opts items (.unspecified, none) = (.deny, none)) ∨
    ((∀ item ∈ items, ¬s.Gives ctx operator action opts item .deny) ∧
      (∃ earlier item later, items = earlier ++ item :: later ∧
        s.Gives ctx operator action opts item .allow ∧
        (∀ x ∈ later, ¬s.Gives ctx operator action opts x .allow) ∧
        s.groupsOutcome ctx operator action opts items (.unspecified, none) =
          s.itemOutcome ctx operator action opts item)) ∨
    ((∀ item ∈ items, ¬s.Gives ctx operator action opts item .deny) ∧
      (∀ item ∈ items, ¬s.Gives ctx operator action opts item .allow) ∧
      s.groupsOutcome ctx operator action opts items (.unspecified, none) =
        (.unspecified, none)) := by
  unfold groupsOutcome
  by_cases hdeny : ∃ item ∈ items, s.Gives ctx operator action opts item .deny
  · exact .inl ⟨hdeny, if_pos (any_gives_deny.2 hdeny)⟩
  rw [if_neg (mt any_gives_deny.1 hdeny)]
  push Not at hdeny
  rcases hfind : items.reverse.find? fun item =>
      decide ((s.itemOutcome ctx operator action opts item).1 = .allow) with _ | item
  · refine .inr (.inr ⟨hdeny, fun item hitem hgives => ?_, rfl⟩)
    have hnot := List.find?_eq_none.1 hfind item (List.mem_reverse.2 hitem)
    exact hnot (decide_eq_true ((itemOutcome_fst (by simp)).2 hgives))
  · obtain ⟨hitem, after, before, hsplit, hafter⟩ := List.find?_eq_some_iff_append.1 hfind
    have hgives : s.Gives ctx operator action opts item .allow :=
      (itemOutcome_fst (by simp)).1 (of_decide_eq_true hitem)
    refine .inr (.inl ⟨hdeny, before.reverse, item, after.reverse, ?_, hgives, ?_, rfl⟩)
    · rw [← List.reverse_reverse items, hsplit]
      simp
    · intro x hx hallow
      have hnot := hafter x (List.mem_reverse.1 hx)
      rw [decide_eq_true ((itemOutcome_fst (by simp)).2 hallow)] at hnot
      cases hnot

theorem State.itemsOf_eq (hkey : getPolicyForGroupKey i t = some key) :
    s.itemsOf i t = s.items key := by
  rw [itemsOf, getPolicyGroupForResource, hkey, Option.bind_some, State.items]

/-- The policy group of an item is full. -/
theorem State.isFull_of_item (hitem : item ∈ s.items key)
    (hprincipal : p.principal = .group item.groupId)
    (hkey : getPolicyForGroupKey p.resourceId p.resourceType = some key) :
    s.isFull p.resourceType p.resourceId p.principal = true ↔
      s.params.maximumGroupNum ≤ (s.items key).length := by
  rcases hitems : s.policyGroups.find? key with _ | items
  · simp [State.items, hitems] at hitem
  · rw [hprincipal, items_of_find? hitems]
    simp [isFull, getPolicyGroupForResource, hkey, hitems]

/-- The groups after the loop: the write-back, and the effect. -/
theorem State.verifyGroupPolicies_eq (hc : s.Coherent) (hkey : getPolicyForGroupKey i t = some key)
    {newPolicy : Option Policy}
    (hout : s.groupsOutcome ctx operator action opts (s.itemsOf i t) (.unspecified, none) = (effect, newPolicy)) :
    s.verifyGroupPolicies ctx i t operator action opts =
      (s.writeBack ctx action newPolicy).map fun s' => (s', effect) := by
  rw [s.itemsOf_eq hkey] at hout
  have hpolicies : ∀ item ∈ s.items key, s.getPolicyByID item.policyId ≠ none := by
    intro item hitem
    obtain ⟨p, hp, -⟩ := hc.item_policy hitem
    simp [hp]
  have hloop : s.evalGroups ctx operator action opts (s.items key) (.unspecified, none) =
      .ok (effect, newPolicy) := (evalGroups_eq _ _ hpolicies).trans (congrArg _ hout)
  unfold verifyGroupPolicies
  simp only [hkey]
  rcases hitems : s.policyGroups.find? key with _ | items
  · rw [State.items, hitems] at hloop
    cases hloop
    rfl
  · rw [items_of_find? hitems] at hloop
    dsimp only
    rw [hloop]
    rcases hwrite : s.writeBack ctx action newPolicy with e | s' <;>
      simp [bind, Except.bind, pure, Except.pure, Except.map, hwrite]

/-- The refusal in terms of the last group that allows. -/
theorem State.refuses_iff {earlier : List PolicyGroupItem}
    (hdeny : ∀ item ∈ s.itemsOf i t, ¬s.Gives ctx operator action opts item .deny)
    (hsplit : s.itemsOf i t = earlier ++ item :: later) (hconcerns : s.Concerns ctx operator item)
    (hp : s.getPolicyByID item.policyId = some p) (hallow : p.effectFor ctx action opts = .allow)
    (hlater : ∀ x ∈ later, ¬s.Gives ctx operator action opts x .allow) :
    s.Refuses ctx i t operator action opts ↔
      action = .createObject ∧ ctx.inTx = true ∧
        s.params.maximumGroupNum ≤ (s.itemsOf i t).length ∧ p.Limits ctx action opts := by
  constructor
  · rintro ⟨haction, htx, hfull, -, earlier', item', later', p', hsplit', hconcerns', hp',
      hallow', hlimits, hlater'⟩
    have hlast := find?_reverse_eq_some earlier ⟨hconcerns, p, hp, hallow⟩ hlater
    have hlast' := find?_reverse_eq_some earlier' ⟨hconcerns', p', hp', hallow'⟩ hlater'
    rw [← hsplit] at hlast
    rw [← hsplit', hlast] at hlast'
    cases hlast'
    obtain rfl := Option.some.inj (hp.symm.trans hp')
    exact ⟨haction, htx, hfull, hlimits⟩
  · rintro ⟨haction, htx, hfull, hlimits⟩
    exact ⟨haction, htx, hfull, hdeny, earlier, item, later, p, hsplit, hconcerns, hp, hallow,
      hlimits, hlater⟩

/-- **The groups decide**, unless a write-back is refused; nothing is written without a size. -/
theorem State.verifyGroupPolicies_cases (hc : s.Coherent) (honce : s.GroupsOnce)
    (hkey : getPolicyForGroupKey i t = some key) : (s.Refuses ctx i t operator action opts ∧
      ∃ e, s.verifyGroupPolicies ctx i t operator action opts = .error e) ∨
    (¬s.Refuses ctx i t operator action opts ∧
      ∃ s', s.verifyGroupPolicies ctx i t operator action opts =
        .ok (s', s.groupDecision ctx i t operator action opts) ∧
        (opts.bind VerifyOptions.wantedSize = none → s' = s)) := by
  unfold groupDecision
  rcases groupsOutcome_cases (s.itemsOf i t) with ⟨hdeny, hout⟩ |
    ⟨hdeny, earlier, item, later, hsplit, hgives, hlater, hout⟩ | ⟨hdeny, hallow, hout⟩
  · rw [verifyGroupPolicies_eq hc hkey hout, if_pos hdeny]
    refine .inr ⟨fun hrefuses => ?_, s, rfl, fun _ => rfl⟩
    obtain ⟨item, hitem, hgives⟩ := hdeny
    exact hrefuses.2.2.2.1 item hitem hgives
  · obtain ⟨hconcerns, p, hp, heffect⟩ := id hgives
    have hnot : ¬∃ item ∈ s.itemsOf i t, s.Gives ctx operator action opts item .deny :=
      fun ⟨item, hitem, hdenies⟩ => hdeny item hitem hdenies
    have houtcome : s.itemOutcome ctx operator action opts item =
        (.allow, (p.eval ctx action opts).2) := by
      rw [itemOutcome, if_pos hconcerns, hp, ← heffect, ← eval_fst]
    have hmem : item ∈ s.itemsOf i t := by simp [hsplit]
    have hfull : s.isFull p.resourceType p.resourceId p.principal = true ↔
        s.params.maximumGroupNum ≤ (s.itemsOf i t).length := by
      rw [s.itemsOf_eq hkey] at hmem ⊢
      obtain ⟨p', hp', hprincipal, hkey'⟩ := hc.item_policy hmem
      obtain rfl := Option.some.inj (hp.symm.trans hp')
      exact isFull_of_item hmem hprincipal hkey'
    rw [verifyGroupPolicies_eq hc hkey (hout.trans houtcome), if_neg hnot,
      if_pos ⟨item, hmem, hgives⟩, refuses_iff hdeny hsplit hconcerns hp heffect hlater,
      ← hfull]
    rcases writeBack_cases hc honce hp heffect with ⟨hrefused, e, he⟩ | ⟨hnot, s', hs', hsize⟩
    · rw [he]
      exact .inl ⟨hrefused, e, rfl⟩
    · rw [hs']
      exact .inr ⟨hnot, s', rfl, hsize⟩
  · have hnot : ¬∃ item ∈ s.itemsOf i t, s.Gives ctx operator action opts item .deny :=
      fun ⟨item, hitem, hdenies⟩ => hdeny item hitem hdenies
    have hnot' : ¬∃ item ∈ s.itemsOf i t, s.Gives ctx operator action opts item .allow :=
      fun ⟨item, hitem, hallows⟩ => hallow item hitem hallows
    rw [verifyGroupPolicies_eq hc hkey hout, if_neg hnot, if_neg hnot']
    refine .inr ⟨?_, s, rfl, fun _ => rfl⟩
    rintro ⟨-, -, -, -, earlier, item, later, p, hsplit, hconcerns, hp, heffect, -, -⟩
    exact hallow item (by simp [hsplit]) ⟨hconcerns, p, hp, heffect⟩

theorem getPolicyForGroupKey_eq_none (h : getPolicyForAccountKey i t operator = none) :
    getPolicyForGroupKey i t = none := by
  cases t with
  | unspecified => rfl
  | _ => cases h

theorem State.accountDecision_eq_unspecified (h : getPolicyForAccountKey i t operator = none) :
    s.accountDecision ctx i t operator action opts = .unspecified := by
  rw [accountDecision, getPolicyForAccount, h]
  rfl

theorem State.evalAccount_fst : (s.evalAccount ctx i t operator action opts).1 =
      s.accountDecision ctx i t operator action opts := by
  unfold evalAccount accountDecision
  rcases s.getPolicyForAccount i t operator with _ | p
  · rfl
  · exact p.eval_fst

section

variable (hc : s.Coherent) (honce : s.GroupsOnce)
include hc honce

/-- A policy for an account is written back without fail. -/
theorem State.writeBack_evalAccount
    (hallow : s.accountDecision ctx i t operator action opts = .allow) :
    ∃ s', s.writeBack ctx action (s.evalAccount ctx i t operator action opts).2 = .ok s' ∧
      (opts.bind VerifyOptions.wantedSize = none → s' = s) := by
  unfold accountDecision at hallow
  unfold evalAccount
  rcases hget : s.getPolicyForAccount i t operator with _ | p
  · rw [hget] at hallow
    cases hallow
  rw [hget] at hallow
  obtain ⟨key, id, hkey, hid, hp⟩ := getPolicyForAccount_eq_some.1 hget
  have hplace : p.place = some (.account key) :=
    (hc.placeOf_eq hp).1.symm.trans ((hc.accounts key id).1 hid)
  obtain ⟨addr, hprincipal, -⟩ := place_eq_account.1 hplace
  rcases writeBack_cases hc honce hp hallow with ⟨⟨-, -, hfull, -⟩, -⟩ | ⟨-, hwritten⟩
  · rw [hprincipal] at hfull
    cases hfull
  · exact hwritten

/-- **`VerifyPolicy` gives the decision or panics.** -/
theorem State.verifyPolicy_cases : (¬s.Answers ctx i t operator action opts ∧
      ∃ e, s.verifyPolicy ctx i t operator action opts = .error e) ∨
    (s.Answers ctx i t operator action opts ∧
      ∃ s', s.verifyPolicy ctx i t operator action opts =
        .ok (s', s.decision ctx i t operator action opts) ∧
        (opts.bind VerifyOptions.wantedSize = none → s' = s)) := by
  unfold verifyPolicy Answers decision
  have hfst : (s.evalAccount ctx i t operator action opts).1 =
    s.accountDecision ctx i t operator action opts := evalAccount_fst
  by_cases haccount : getPolicyForAccountKey i t operator = none
  · -- there is no key of any kind
    have hdecision : s.accountDecision ctx i t operator action opts = .unspecified :=
      accountDecision_eq_unspecified haccount
    rw [if_pos haccount]
    exact .inl ⟨by simp [hdecision, getPolicyForGroupKey_eq_none haccount], _, rfl⟩
  rw [if_neg haccount]
  rcases heval : s.evalAccount ctx i t operator action opts with ⟨_ | _ | _, newPolicy⟩
  · have hdecision : s.accountDecision ctx i t operator action opts = .unspecified := by
      rw [← hfst, heval]
    rw [if_pos hdecision]
    rcases hkey : getPolicyForGroupKey i t with _ | key
    · refine .inl ⟨by simp [hdecision], .invalidResourceType, ?_⟩
      dsimp only
      rw [verifyGroupPolicies, hkey]
    · rcases verifyGroupPolicies_cases hc honce hkey with ⟨hrefuses, herror⟩ | ⟨hnot, hok⟩
      · exact .inl ⟨by simp [hdecision, hrefuses], herror⟩
      · exact .inr ⟨by simp [hnot], hok⟩
  · have hdecision : s.accountDecision ctx i t operator action opts = .allow := by
      rw [← hfst, heval]
    obtain ⟨s', hs', hsize⟩ := writeBack_evalAccount hc honce hdecision
    rw [heval] at hs'
    rw [if_neg (by simp [hdecision])]
    refine .inr ⟨by simp [hdecision], s', ?_, hsize⟩
    dsimp only
    rw [hs', hdecision]
    rfl
  · have hdecision : s.accountDecision ctx i t operator action opts = .deny := by
      rw [← hfst, heval]
    rw [if_neg (by simp [hdecision])]
    refine .inr ⟨by simp [hdecision], s, ?_, fun _ => rfl⟩
    rw [hdecision]

/-- An answer is the decision. -/
theorem State.eq_decision_of_verifyPolicy {s' : State}
    (h : s.verifyPolicy ctx i t operator action opts = .ok (s', effect)) :
    effect = s.decision ctx i t operator action opts := by
  rcases verifyPolicy_cases hc honce with ⟨-, e, he⟩ | ⟨-, s₁, hs₁, -⟩
  · rw [he] at h
    cases h
  · rw [hs₁] at h
    exact (Prod.mk.inj (Except.ok.inj h)).2.symm

/-! ### Permissions on objects -/

/-- Without a size nothing is written back, and the policies on a bucket or an object answer. -/
theorem State.verifyPolicy_of_no_size (operator : AccAddress)
    (hkey : getPolicyForGroupKey i t ≠ none) (hsize : opts.bind VerifyOptions.wantedSize = none) :
    s.verifyPolicy ctx i t operator action opts =
      .ok (s, s.decision ctx i t operator action opts) := by
  have hrefuses : ¬s.Refuses ctx i t operator action opts := by
    rintro ⟨-, -, -, -, earlier, item, later, p, -, -, -, -, hlimits, -⟩
    exact not_limits hsize hlimits
  rcases verifyPolicy_cases hc honce with ⟨hanswers, -⟩ | ⟨-, s', hs', hsame⟩
  · exact absurd (.inr ⟨hkey, hrefuses⟩) hanswers
  · rw [hs', hsame hsize]

/-- **`VerifyObjectPermission` asks the policies on the bucket and on the object**: neither may
deny, and one has to allow. -/
theorem State.verifyObjectPermission_eq {bucket : Bucket} {object : Object}
    (howner : operator ≠ object.owner)
    (hpublic : ¬(object.isPublic bucket ∧ publicReadObjectAllowedActions action)) :
    let onBucket := s.decision ctx bucket.id .bucket operator action
      (some { resource := object.grn })
    let onObject := s.decision ctx object.id .object operator action none
    s.verifyObjectPermission ctx bucket object (some operator) action =
      .ok (s, if onBucket ≠ .deny ∧ onObject ≠ .deny ∧ (onBucket = .allow ∨ onObject = .allow) then
        .allow else .deny) := by
  intro onBucket onObject
  have hbucket : s.verifyPolicy ctx bucket.id .bucket operator action
      (some { resource := object.grn }) = .ok (s, onBucket) :=
    verifyPolicy_of_no_size hc honce operator (Option.some_ne_none _) rfl
  have hobject : s.verifyPolicy ctx object.id .object operator action none = .ok (s, onObject) :=
    verifyPolicy_of_no_size hc honce operator (Option.some_ne_none _) rfl
  unfold verifyObjectPermission
  rw [if_neg hpublic]
  dsimp only
  rw [if_neg howner, hbucket]
  rcases onBucket with _ | _ | _
  · simp only [bind, Except.bind, reduceCtorEq, if_false, hobject]
    rcases onObject with _ | _ | _ <;> rfl
  · simp only [bind, Except.bind, reduceCtorEq, if_false, hobject]
    rcases onObject with _ | _ | _ <;> rfl
  · rfl

end

/-! ### Order -/

/-- The same policies, with the statements of each and the items of each policy group in any
order. -/
structure State.Reordered (s s₂ : State) : Prop where
  policies : ∀ id, Option.Rel (fun p p₂ : Policy => p₂.expirationTime = p.expirationTime ∧
    p₂.statements.Perm p.statements) (s.getPolicyByID id) (s₂.getPolicyByID id)
  accounts : s₂.accountPolicies = s.accountPolicies
  items : ∀ key, (s₂.items key).Perm (s.items key)
  members : ∀ groupId member, s₂.getGroupMember groupId member = s.getGroupMember groupId member

theorem Policy.effectFor_congr {p₂ : Policy} (hexp : p₂.expirationTime = p.expirationTime)
    (hperm : p₂.statements.Perm p.statements) :
    p₂.effectFor ctx action opts = p.effectFor ctx action opts := by
  have hmem : ∀ st, st ∈ p₂.statements ↔ st ∈ p.statements := fun _ => hperm.mem_iff
  classical
  unfold effectFor
  rw [hexp]
  refine if_congr Iff.rfl rfl (if_congr ?_ rfl (if_congr ?_ rfl rfl)) <;> simp only [hmem]

namespace State.Reordered

variable {s₂ : State} (h : s.Reordered s₂)

include h

theorem gives_iff : s₂.Gives ctx operator action opts item effect ↔
      s.Gives ctx operator action opts item effect := by
  unfold Gives Concerns isMember
  rw [h.members]
  have hrel := h.policies item.policyId
  generalize s.getPolicyByID item.policyId = o, s₂.getPolicyByID item.policyId = o₂ at hrel ⊢
  rcases hrel with ⟨hexp, hperm⟩ | _
  · simp [effectFor_congr hexp hperm]
  · rfl

theorem mem_itemsOf_iff : item ∈ s₂.itemsOf i t ↔ item ∈ s.itemsOf i t := by
  unfold itemsOf getPolicyGroupForResource
  rcases getPolicyForGroupKey i t with _ | key
  · rfl
  · exact (h.items key).mem_iff

theorem accountDecision_eq : s₂.accountDecision ctx i t operator action opts =
      s.accountDecision ctx i t operator action opts := by
  unfold accountDecision getPolicyForAccount
  rw [h.accounts]
  rcases (getPolicyForAccountKey i t operator).bind s.accountPolicies.find? with _ | id
  · rfl
  · simp only [Option.bind_some]
    have hrel := h.policies id
    generalize s.getPolicyByID id = o, s₂.getPolicyByID id = o₂ at hrel ⊢
    rcases hrel with ⟨hexp, hperm⟩ | _
    · exact effectFor_congr hexp hperm
    · rfl

/-- **The decision does not depend on an order.** -/
theorem decision_eq :
    s₂.decision ctx i t operator action opts = s.decision ctx i t operator action opts := by
  classical
  unfold decision groupDecision
  rw [h.accountDecision_eq]
  refine if_congr Iff.rfl (if_congr ?_ rfl (if_congr ?_ rfl rfl)) rfl <;>
    simp only [h.gives_iff, h.mem_itemsOf_iff]

end State.Reordered

/-! ### The decisions of the module -/

/-- A policy of an account that allows to get objects and expires, and policies of two groups, of
which the account is a member: one allows to get and delete objects, the other denies to get them. -/
def decidingOps : List Op :=
  let bucketId : Uint := ⟨400, by decide⟩
  [.addGroupMember ⟨17, by decide⟩ zeroAddress none,
   .addGroupMember ⟨18, by decide⟩ zeroAddress none,
   .putPolicy
    { principal := .account zeroAddress, resourceType := .bucket, resourceId := bucketId,
      statements := [⟨.allow, [.getObject], [], none, none⟩], expirationTime := some 5 },
   .putPolicy
    { principal := .group ⟨17, by decide⟩, resourceType := .bucket, resourceId := bucketId,
      statements := [⟨.allow, [.getObject, .deleteObject], [], none, none⟩] },
   .putPolicy
    { principal := .group ⟨18, by decide⟩, resourceType := .bucket, resourceId := bucketId,
      statements := [⟨.deny, [.getObject], [], none, none⟩] }]

theorem State.empty_decision (params : Params) (i : Uint) (t : ResourceType)
    (operator : AccAddress) :
    (State.empty params).decision ctx i t operator action opts = .unspecified := by
  have haccount : (State.empty params).getPolicyForAccount i t operator = none := by
    rcases hkey : getPolicyForAccountKey i t operator with _ | key
    all_goals simp [getPolicyForAccount, State.empty, hkey]
  have hitems : (State.empty params).itemsOf i t = [] := by
    rcases hkey : getPolicyForGroupKey i t with _ | key
    all_goals simp [itemsOf, getPolicyGroupForResource, State.empty, hkey]
  simp [decision, accountDecision, haccount, groupDecision, hitems]

variable {s' : State} {blockTime : ℤ}

namespace State.ExpiredOnly

variable (h : ExpiredOnly blockTime s s') (htime : blockTime ≤ ctx.blockTime)

include h htime

/-- A policy that is gone said nothing any more. -/
theorem policy_cases (id : Uint) : s'.getPolicyByID id = s.getPolicyByID id ∨
    s'.getPolicyByID id = none ∧
      ∃ p, s.getPolicyByID id = some p ∧ ∀ action opts, p.effectFor ctx action opts = .unspecified := by
  rcases h id with heq | ⟨hnone, p, t, hp, hexp, ht⟩
  · exact .inl heq
  · refine .inr ⟨hnone, p, hp, fun action opts => if_pos ?_⟩
    simpa [isExpired, hexp] using ht.trans_le htime

theorem accountDecision_eq (hc : s.Coherent) (hc' : s'.Coherent) :
    s'.accountDecision ctx i t operator action opts =
      s.accountDecision ctx i t operator action opts := by
  unfold accountDecision getPolicyForAccount
  rcases getPolicyForAccountKey i t operator with _ | key
  · rfl
  dsimp only [Option.bind_some]
  rcases hid' : s'.accountPolicies.find? key with _ | id
  · rcases hid : s.accountPolicies.find? key with _ | id
    · rfl
    rcases h.policy_cases htime id with heq | ⟨-, p, hp, hsilent⟩
    · -- a policy that is there has its reference
      have hplace := (hc.accounts key id).1 hid
      rw [placeOf, ← heq] at hplace
      cases hid'.symm.trans ((hc'.accounts key id).2 hplace)
    · simp [hp, hsilent]
  · have hplace := (hc'.accounts key id).1 hid'
    rcases h.policy_cases htime id with heq | ⟨hnone, -⟩
    · rw [placeOf, heq] at hplace
      simp [(hc.accounts key id).2 hplace, heq]
    · simp [placeOf, hnone] at hplace

theorem gives_iff (hc : s.Coherent) (hc' : s'.Coherent)
    (hmembers : s'.getGroupMember = s.getGroupMember) (heffect : effect ≠ .unspecified) :
    item ∈ s'.itemsOf i t ∧ s'.Gives ctx operator action opts item effect ↔
      item ∈ s.itemsOf i t ∧ s.Gives ctx operator action opts item effect := by
  rcases hkey : getPolicyForGroupKey i t with _ | key
  · simp [itemsOf, getPolicyGroupForResource, hkey]
  rw [itemsOf_eq hkey, itemsOf_eq hkey, hc.items.mem_iff, hc'.items.mem_iff]
  unfold placeOf Gives Concerns isMember
  rw [hmembers]
  rcases h.policy_cases htime item.policyId with heq | ⟨hnone, p, hp, hsilent⟩
  · rw [heq]
  · simp [hnone, hp, hsilent, heffect.symm]

theorem decision_eq (hc : s.Coherent) (hc' : s'.Coherent)
    (hmembers : s'.getGroupMember = s.getGroupMember) :
    s'.decision ctx i t operator action opts = s.decision ctx i t operator action opts := by
  classical
  unfold decision groupDecision
  rw [h.accountDecision_eq htime hc hc']
  refine if_congr Iff.rfl (if_congr ?_ rfl (if_congr ?_ rfl rfl)) rfl <;>
    exact exists_congr fun item => h.gives_iff htime hc hc' hmembers (by simp)

end State.ExpiredOnly

theorem State.removeExpiredPolicy_members {queueKey : QueueKey}
    (h : s.removeExpiredPolicy queueKey = .ok s') : s'.getGroupMember = s.getGroupMember := by
  unfold State.removeExpiredPolicy at h
  split at h
  · cases h
  split at h
  · cases h
  dsimp only at h
  split at h
  · split at h <;> cases h
    rfl
  · split at h
    · cases h
    split at h <;> cases h
    · rfl
    · unfold State.setPolicyGroup
      split <;> rfl
  · cases h
    rfl

/-- **Removing expired policies changes no answer.**  In every run `RemoveExpiredPolicies` succeeds,
and at the time of the block and later the policies decide every question as before. -/
theorem sweep_keeps_decisions {params : Params} (h : s.Reached params) (blockTime : ℤ) :
    ∃ s', s.removeExpiredPolicies blockTime = .ok s' ∧
      ∀ (ctx : Ctx) i t operator action opts, blockTime ≤ ctx.blockTime →
        s'.decision ctx i t operator action opts = s.decision ctx i t operator action opts ∧
        ∀ s₁ s₁' effect effect', s.verifyPolicy ctx i t operator action opts = .ok (s₁, effect) →
          s'.verifyPolicy ctx i t operator action opts = .ok (s₁', effect') → effect' = effect := by
  obtain ⟨s', hs', hc', hexpired⟩ := h.coherent.removeExpiredPolicies blockTime
  have hnext : s'.Reached params :=
    .next h (a := .removeExpiredPolicies blockTime) trivial (congrArg Except.toOption hs')
  have hmembers : s'.getGroupMember = s.getGroupMember :=
    foldlM_invariant (fun s₁ => s₁.getGroupMember = s.getGroupMember)
      (fun _ _ _ _ hs₁ hstep => (removeExpiredPolicy_members hstep).trans hs₁) rfl hs'
  refine ⟨s', hs', fun ctx i t operator action opts htime => ?_⟩
  have hdecision : s'.decision ctx i t operator action opts =
      s.decision ctx i t operator action opts :=
    hexpired.decision_eq htime h.coherent hc' hmembers
  refine ⟨hdecision, fun s₁ s₁' effect effect' hs₁ hs₁' => ?_⟩
  rw [eq_decision_of_verifyPolicy h.coherent h.groupsOnce hs₁,
    eq_decision_of_verifyPolicy hc' hnext.groupsOnce hs₁', hdecision]

/-- The policy for the account, which decided, is removed; the denial of a group decides before and
after. -/
theorem sweep_keeps_decisions_sample : ∃ s s' : State, s.Reached {} ∧
    s.removeExpiredPolicies 10 = .ok s' ∧
    s.getPolicyByID ⟨1, by decide⟩ ≠ none ∧ s'.getPolicyByID ⟨1, by decide⟩ = none ∧
    s'.decision { blockTime := 10 } ⟨400, by decide⟩ .bucket zeroAddress .getObject none = .deny ∧
    ∀ i t operator, s'.decision { blockTime := 10 } i t operator .getObject none =
      s.decision { blockTime := 10 } i t operator .getObject none := by
  obtain ⟨s, hs, hthere, s', hs', hgone, x, hx, hdeny⟩ : ∃ s,
      runSteps State.step (State.empty {}) decidingOps = some s ∧
      s.getPolicyByID ⟨1, by decide⟩ ≠ none ∧
      ∃ s', s.removeExpiredPolicies 10 = .ok s' ∧ s'.getPolicyByID ⟨1, by decide⟩ = none ∧
        ∃ x, s.verifyPolicy { blockTime := 10 } ⟨400, by decide⟩ .bucket zeroAddress .getObject none =
          .ok x ∧ x.2 = .deny := by decide +kernel
  have hreached : s.Reached {} := .of_runSteps .start (.of_forall fun _ _ => trivial) hs
  obtain ⟨s₁, hs₁, hsame⟩ := sweep_keeps_decisions hreached 10
  obtain rfl := Except.ok.inj (hs'.symm.trans hs₁)
  refine ⟨s, s', hreached, hs', hthere, hgone, ?_,
    fun i t operator => (hsame _ i t operator _ none le_rfl).1⟩
  rw [(hsame _ _ _ _ _ _ le_rfl).1,
    ← eq_decision_of_verifyPolicy hreached.coherent hreached.groupsOnce hx, hdeny]

end Moca.Permission
