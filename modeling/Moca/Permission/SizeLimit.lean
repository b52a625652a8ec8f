/-
# Limited grants

A statement may limit the size of the objects that an account creates under it.  The limit is spent
inside `VerifyPolicy`: a decision to allow a creation writes the policy back with what is left
(`Limited.spent_left`).  So the sizes allowed in a run add up to the limit at most
(`Ledger.Within.step`), as long as nobody puts the policy again.

The policy is written back only where the context has the bytes of a transaction.  A message that
runs without one, as those of a governance proposal do at the end of a block, is allowed its size
again and again.
-/

import Moca.Permission.Regrant

namespace Moca.Permission

open State Policy Statement

variable {ctx : Ctx} {s s' : State} {action : ActionType} {opts : Option VerifyOptions}

/-! ### A limited policy -/

/-- A policy with one statement that limits the creation of objects; no other statement may allow
one. -/
structure Limited where
  policy : Policy
  before : List Statement
  statement : Statement
  after : List Statement
  others : ∀ st ∈ before ++ after, st.effect = .deny ∨ st.coversAction .createObject = false

/-- The policy with so much of the limit left. -/
def Limited.left (q : Limited) (rest : ℕ) : Policy :=
  { q.policy with
    statements := q.before ++ { q.statement with limitSize := some rest } :: q.after }

theorem Limited.left_injective (q : Limited) : Function.Injective q.left := by
  intro m n h
  have hstatements := congrArg statements h
  simpa [Limited.left] using hstatements

variable {q : Limited} {rest w : ℕ} {st : Statement}

theorem Statement.not_allows_of_other
    (h : st.effect = .deny ∨ st.coversAction .createObject = false) :
    ¬st.Allows ctx .createObject opts := by
  rintro ⟨hmatches, heffect, -⟩
  rcases h with hdeny | hcovers
  · exact heffect hdeny
  · rw [hmatches.action] at hcovers
    cases hcovers

/-- The other statements are not updated. -/
theorem Statement.outcome_of_other (h : st.effect = .deny ∨ st.coversAction .createObject = false) :
    (st.outcome ctx .createObject opts).2 = none := by
  by_cases hmatches : st.Matches ctx .createObject opts
  · rcases h with hdeny | hcovers
    · rw [outcome_of_matches hmatches, if_pos hdeny]
    · rw [hmatches.action] at hcovers
      cases hcovers
  · rw [outcome_of_not_matches hmatches]

theorem map_outcome_of_others {l : List Statement}
    (h : ∀ st ∈ l, st.effect = .deny ∨ st.coversAction .createObject = false) :
    (l.map fun st => (st.outcome ctx .createObject opts).2.getD st) = l := by
  conv_rhs => rw [← List.map_id l]
  refine List.map_congr_left fun st hst => ?_
  rw [outcome_of_other (h st hst)]
  rfl

/-- **An allowed creation spends its size.** -/
theorem Limited.spent_left (hsize : opts.bind VerifyOptions.wantedSize = some w)
    (hallow : (q.left rest).effectFor ctx .createObject opts = .allow) :
    w ≤ rest ∧ (q.left rest).Limits ctx .createObject opts ∧
      (q.left rest).spent ctx .createObject opts = q.left (rest - w) := by
  obtain ⟨-, hdenies, st, hst, hallows⟩ := effectFor_eq_allow hallow
  have hbefore : ∀ st ∈ q.before, st.effect = .deny ∨ st.coversAction .createObject = false :=
    fun st hst => q.others st (List.mem_append_left _ hst)
  have hafter : ∀ st ∈ q.after, st.effect = .deny ∨ st.coversAction .createObject = false :=
    fun st hst => q.others st (List.mem_append_right _ hst)
  -- only the limited statement can be the one that allows
  have hlimited : st = { q.statement with limitSize := some rest } := by
    rcases List.mem_append.1 hst with hmem | hmem
    · exact absurd hallows (not_allows_of_other (hbefore st hmem))
    rcases List.mem_cons.1 hmem with rfl | hmem
    · rfl
    · exact absurd hallows (not_allows_of_other (hafter st hmem))
  subst hlimited
  obtain ⟨hmatches, heffect, hexceeded, -⟩ := hallows
  have hlimit : limitOn { q.statement with limitSize := some rest } .createObject opts =
      some (rest, w) := by
    simp [limitOn, hsize]
  have hle : w ≤ rest := by
    by_contra hlt
    exact hexceeded ⟨rest, w, hlimit, not_le.1 hlt⟩
  refine ⟨hle, ⟨_, hst, hmatches, by simp [hlimit]⟩, ?_⟩
  have hspent : (outcome ctx .createObject opts
      { q.statement with limitSize := some rest }).2 =
      some { q.statement with limitSize := some (rest - w) } := by
    rw [outcome_of_matches hmatches, if_neg heffect, hlimit]
    dsimp only
    rw [if_pos hle]
  unfold spent Limited.left
  simp only [List.map_append, List.map_cons, map_outcome_of_others hbefore,
    map_outcome_of_others hafter, hspent, Option.getD_some]

/-! ### One decision -/

/-- The place of a grant to an account. -/
structure Grant where
  resourceType : ResourceType
  resourceId : Uint
  account : AccAddress
  deriving DecidableEq

/-- The policy of a grant. -/
def State.grant (s : State) (g : Grant) : Option Policy :=
  s.policyFor g.resourceType g.resourceId (.account g.account)

theorem State.writeBack_eq_ok {newPolicy : Option Policy}
    (h : s.writeBack ctx action newPolicy = .ok s') :
    s' = s ∨ ∃ p id, newPolicy = some p ∧ (action = .createObject ∧ ctx.inTx = true) ∧
      s.putPolicy p = .ok (s', id) := by
  unfold writeBack at h
  split at h
  · exact .inl (Except.ok.inj h).symm
  · next p =>
    split_ifs at h with hwrites
    · simp only [bind_eq_ok, pure_eq_ok] at h
      obtain ⟨⟨s₁, id⟩, hput, rfl⟩ := h
      exact .inr ⟨p, id, rfl, hwrites, hput⟩
    · exact .inl (Except.ok.inj h).symm

variable {i : Uint} {t : ResourceType} {operator : AccAddress} {effect : Effect}

/-- The groups write back the policy of a group. -/
theorem State.verifyGroupPolicies_eq_ok (hc : s.Coherent)
    (h : s.verifyGroupPolicies ctx i t operator action opts = .ok (s', effect)) :
    s' = s ∨ ∃ p id g, p.principal = .group g ∧ s.putPolicy p = .ok (s', id) := by
  rcases hkey : getPolicyForGroupKey i t with _ | key
  · rw [verifyGroupPolicies, hkey] at h
    cases h
  rcases hout : s.groupsOutcome ctx operator action opts (s.itemsOf i t) (.unspecified, none) with
    ⟨effect', newPolicy⟩
  rw [verifyGroupPolicies_eq hc hkey hout] at h
  rcases hwrite : s.writeBack ctx action newPolicy with e | s₁
  · rw [hwrite] at h
    cases h
  rw [hwrite] at h
  cases h
  rcases writeBack_eq_ok hwrite with rfl | ⟨p, id, rfl, -, hput⟩
  · exact .inl rfl
  refine .inr ⟨p, id, ?_⟩
  -- a policy to write back is that of the last item that allows
  rcases groupsOutcome_cases (s.itemsOf i t) with ⟨-, hdeny⟩ |
    ⟨-, earlier, item, later, hsplit, ⟨hconcerns, p', hp', -⟩, -, hlast⟩ | ⟨-, -, hnone⟩
  · cases hout.symm.trans hdeny
  · have hmem : item ∈ s.items key := by
      rw [← s.itemsOf_eq hkey, hsplit]
      simp
    obtain ⟨p'', hp'', hprincipal, -⟩ := hc.item_policy hmem
    obtain rfl := Option.some.inj (hp'.symm.trans hp'')
    have heval := hout.symm.trans hlast
    rw [itemOutcome, if_pos hconcerns, hp'] at heval
    obtain ⟨-, -, rfl⟩ := eval_snd_eq_some.1 (congrArg Prod.snd heval).symm
    exact ⟨item.groupId, hprincipal, hput⟩
  · cases hout.symm.trans hnone

/-- **What a decision writes**: nothing, the policy of the account with its limits used, or the
policy of a group. -/
theorem State.verifyPolicy_eq_ok (hc : s.Coherent)
    (h : s.verifyPolicy ctx i t operator action opts = .ok (s', effect)) :
    s' = s ∨
    (∃ p id, s.policyFor t i (.account operator) = some p ∧
      p.effectFor ctx action opts = .allow ∧ p.Limits ctx action opts ∧
      (action = .createObject ∧ ctx.inTx = true) ∧
      s.putPolicy (p.spent ctx action opts) = .ok (s', id)) ∨
    (s.accountDecision ctx i t operator action opts = .unspecified ∧
      ∃ p id g, p.principal = .group g ∧ s.putPolicy p = .ok (s', id)) := by
  unfold verifyPolicy at h
  split_ifs at h with hkey
  have hfst : (s.evalAccount ctx i t operator action opts).1 =
    s.accountDecision ctx i t operator action opts := evalAccount_fst
  rcases heval : s.evalAccount ctx i t operator action opts with ⟨_ | _ | _, newPolicy⟩
  · rw [heval] at h hfst
    rcases verifyGroupPolicies_eq_ok hc h with hsame | hput
    · exact .inl hsame
    · exact .inr (.inr ⟨hfst.symm, hput⟩)
  · rw [heval] at h
    simp only [bind_eq_ok, pure_eq_ok] at h
    obtain ⟨s₁, hwrite, hs⟩ := h
    obtain ⟨rfl, -⟩ := Prod.mk.inj hs
    rcases writeBack_eq_ok hwrite with hsame | ⟨p', id, rfl, hwrites, hput⟩
    · exact .inl hsame
    unfold evalAccount at heval
    rcases hget : s.getPolicyForAccount i t operator with _ | p
    · rw [hget] at heval
      cases heval
    rw [hget] at heval
    obtain ⟨hallow, hlimits, rfl⟩ := eval_snd_eq_some.1 (congrArg Prod.snd heval)
    exact .inr (.inl ⟨p, id, hget, hallow, hlimits, hwrites, hput⟩)
  · rw [heval] at h
    exact .inl (Prod.mk.inj (Except.ok.inj h)).1.symm

/-- A decision keeps the indexes. -/
theorem State.verifyPolicy_invariants (hc : s.Coherent) (honce : s.GroupsOnce)
    (h : s.verifyPolicy ctx i t operator action opts = .ok (s', effect)) :
    s'.Coherent ∧ s'.GroupsOnce := by
  rcases verifyPolicy_eq_ok hc h with rfl | ⟨p, id, -, -, -, -, hput⟩ | ⟨-, p, id, g, -, hput⟩
  · exact ⟨hc, honce⟩
  · exact ⟨hc.putPolicy hput, honce.putPolicy hput⟩
  · exact ⟨hc.putPolicy hput, honce.putPolicy hput⟩

/-- The decision spends the limit of a grant. -/
def State.Spends (ctx : Ctx) (s : State) (g : Grant) (resourceId : Uint)
    (resourceType : ResourceType) (operator : AccAddress) (action : ActionType)
    (opts : Option VerifyOptions) : Prop :=
  (resourceId = g.resourceId ∧ resourceType = g.resourceType ∧ operator = g.account) ∧
    (action = .createObject ∧ ctx.inTx = true) ∧
    ∃ p, s.grant g = some p ∧ p.effectFor ctx action opts = .allow ∧ p.Limits ctx action opts

theorem State.verifyPolicy_grant_of_not_spends (hc : s.Coherent) {g : Grant}
    (h : s.verifyPolicy ctx i t operator action opts = .ok (s', effect))
    (hnot : ¬s.Spends ctx g i t operator action opts) : s'.grant g = s.grant g := by
  rcases verifyPolicy_eq_ok hc h with
    rfl | ⟨p, id, hp, hallow, hlimits, hwrites, hput⟩ | ⟨-, p, id, g', hprincipal, hput⟩
  · rfl
  · refine hc.putPolicy_policyFor hput ?_
    rintro ⟨ht, hi, hprincipal⟩
    obtain ⟨ht', hi', hprincipal'⟩ := hc.principal_of_account hp
    obtain rfl := ht'.symm.trans ht
    obtain rfl := hi'.symm.trans hi
    obtain rfl := Principal.account.inj (hprincipal'.symm.trans hprincipal)
    exact hnot ⟨⟨rfl, rfl, rfl⟩, hwrites, p, hp, hallow, hlimits⟩
  · refine hc.putPolicy_policyFor hput ?_
    rintro ⟨-, -, haccount⟩
    cases hprincipal.symm.trans haccount

theorem State.verifyPolicy_grant_of_spends (hc : s.Coherent) (honce : s.GroupsOnce) {g : Grant}
    {p : Policy} (hp : s.grant g = some p) (hallow : p.effectFor ctx .createObject opts = .allow)
    (hlimits : p.Limits ctx .createObject opts) (htx : ctx.inTx = true)
    (h : s.verifyPolicy ctx g.resourceId g.resourceType g.account .createObject opts =
      .ok (s', effect)) : s'.grant g = some (p.spent ctx .createObject opts) := by
  obtain ⟨ht, hi, hprincipal⟩ := hc.principal_of_account hp
  have hself : s.policyFor (p.spent ctx .createObject opts).resourceType
      (p.spent ctx .createObject opts).resourceId (p.spent ctx .createObject opts).principal =
        some p := by
    show s.policyFor p.resourceType p.resourceId p.principal = some p
    rw [ht, hi, hprincipal]
    exact hp
  have hfull : s.isFull p.resourceType p.resourceId p.principal = false := by
    rw [hprincipal]
    rfl
  have hput := putPolicy_of_policyFor honce hself hfull
  have heval : s.evalAccount ctx g.resourceId g.resourceType g.account .createObject opts =
      (.allow, some (p.spent ctx .createObject opts)) := by
    have hget : s.getPolicyForAccount g.resourceId g.resourceType g.account = some p := hp
    rw [evalAccount, hget]
    exact Prod.ext (p.eval_fst.trans hallow) (eval_snd_eq_some.2 ⟨hallow, hlimits, rfl⟩)
  have hwrite : s.writeBack ctx .createObject (some (p.spent ctx .createObject opts)) =
      .ok (s.updatePolicy p (p.spent ctx .createObject opts)) := by
    unfold writeBack
    dsimp only
    rw [if_pos ⟨rfl, htx⟩, hput]
    rfl
  unfold verifyPolicy at h
  split_ifs at h
  rw [heval] at h
  dsimp only at h
  rw [hwrite] at h
  cases h
  have hstored := (updatePolicy_regrants hc hself).stored
  rwa [show (p.spent ctx .createObject opts).resourceType = g.resourceType from ht,
    show (p.spent ctx .createObject opts).resourceId = g.resourceId from hi,
    show (p.spent ctx .createObject opts).principal = .account g.account from hprincipal] at hstored

/-! ### Runs -/

/-- An operation of the keeper, or a decision. -/
inductive Event
  | op (op : Op)
  | verify (ctx : Ctx) (resourceId : Uint) (resourceType : ResourceType) (operator : AccAddress)
      (action : ActionType) (opts : Option VerifyOptions)

/-- What an event does to the store; a panic undoes the message. -/
def State.apply (s : State) : Event → Option State
  | .op op => s.step op
  | .verify ctx resourceId resourceType operator action opts =>
    (s.verifyPolicy ctx resourceId resourceType operator action opts).toOption.map Prod.fst

/-- The size of a creation that the policy of a grant allows. -/
def State.grantedSize (g : Grant) (s : State) : Event → Option ℕ
  | .op _ => none
  | .verify ctx resourceId resourceType operator action opts =>
    if (resourceId = g.resourceId ∧ resourceType = g.resourceType ∧ operator = g.account) ∧
        action = .createObject ∧
        (s.evalAccount ctx resourceId resourceType operator action opts).1 = .allow then
      opts.bind VerifyOptions.wantedSize
    else none

/-- The event puts a policy in the place of a grant. -/
def Event.puts (g : Grant) : Event → Bool
  | .op (.putPolicy policy) =>
    decide (policy.resourceType = g.resourceType ∧ policy.resourceId = g.resourceId ∧
      policy.principal = .account g.account)
  | _ => false

/-- The event runs in a transaction. -/
def Event.inTx : Event → Bool
  | .op _ => true
  | .verify ctx _ _ _ _ _ => ctx.inTx

/-- The store, and the sizes that were allowed under a grant. -/
structure Ledger where
  state : State
  total : ℕ := 0

/-- One event of a run. -/
def Ledger.step (g : Grant) (l : Ledger) (e : Event) : Option Ledger :=
  (l.state.apply e).map fun s => ⟨s, l.total + (l.state.grantedSize g e).getD 0⟩

/-- Nobody puts the policy again, and what is allowed under it is allowed in a transaction. -/
def Ledger.Kept (g : Grant) (l : Ledger) (e : Event) : Prop :=
  e.puts g = false ∧ ((l.state.grantedSize g e).isSome → e.inTx = true)

instance (g : Grant) (l : Ledger) (e : Event) : Decidable (l.Kept g e) :=
  inferInstanceAs (Decidable (_ ∧ _))

/-- The sizes that were allowed are within the limit, and the policy of the grant, as long as it is
there, has the rest. -/
structure Ledger.Within (g : Grant) (q : Limited) (limit : ℕ) (l : Ledger) : Prop where
  coherent : l.state.Coherent
  once : l.state.GroupsOnce
  total_le : l.total ≤ limit
  grant : l.state.grant g = none ∨ l.state.grant g = some (q.left (limit - l.total))

variable {g : Grant} {limit : ℕ} {l l' : Ledger}

theorem Ledger.Within.op (h : l.Within g q limit) {op : Op} (hkept : l.Kept g (.op op))
    (hstep : l.step g (.op op) = some l') : l'.Within g q limit := by
  obtain ⟨s', hs', rfl⟩ := Option.map_eq_some_iff.1 hstep
  have hgrant : s'.grant g = none ∨ s'.grant g = l.state.grant g := by
    rcases exec_cases (Except.toOption_eq_some hs') with ⟨policy, id, rfl, hput⟩ |
      ⟨_, member, expiration, -, hadd⟩ | hw
    · exact .inr (h.coherent.putPolicy_policyFor hput (of_decide_eq_false hkept.1))
    · obtain ⟨id, -, rfl⟩ := addGroupMember_eq_ok hadd
      exact .inr rfl
    · exact hw.policyFor_account _ _ _
  refine ⟨h.coherent.step hs', h.once.step hs', h.total_le, ?_⟩
  rcases hgrant with hnone | hsame
  · exact .inl hnone
  · exact hsame ▸ h.grant

theorem State.grantedSize_eq_some :
    s.grantedSize g (.verify ctx i t operator action opts) = some w ↔
      (i = g.resourceId ∧ t = g.resourceType ∧ operator = g.account) ∧ action = .createObject ∧
        (∃ p, s.grant g = some p ∧ p.effectFor ctx .createObject opts = .allow) ∧
        opts.bind VerifyOptions.wantedSize = some w := by
  have hallow : ∀ {i t operator}, (i = g.resourceId ∧ t = g.resourceType ∧ operator = g.account) →
      ((s.evalAccount ctx i t operator .createObject opts).1 = .allow ↔
        ∃ p, s.grant g = some p ∧ p.effectFor ctx .createObject opts = .allow) := by
    rintro _ _ _ ⟨rfl, rfl, rfl⟩
    rw [evalAccount_fst, accountDecision]
    show _ ↔ ∃ p, s.getPolicyForAccount g.resourceId g.resourceType g.account = some p ∧ _
    rcases s.getPolicyForAccount g.resourceId g.resourceType g.account with _ | p <;> simp
  unfold grantedSize
  dsimp only
  split_ifs with hif
  · obtain ⟨hplace, rfl, heval⟩ := hif
    simp [hplace, (hallow hplace).1 heval]
  · constructor
    · intro h
      cases h
    · rintro ⟨hplace, rfl, hp, -⟩
      exact absurd ⟨hplace, rfl, (hallow hplace).2 hp⟩ hif

theorem Ledger.Within.verify (h : l.Within g q limit)
    (hkept : l.Kept g (.verify ctx i t operator action opts))
    (hstep : l.step g (.verify ctx i t operator action opts) = some l') : l'.Within g q limit := by
  obtain ⟨s', hs', rfl⟩ := Option.map_eq_some_iff.1 hstep
  obtain ⟨⟨s₁, effect⟩, hverify, rfl⟩ := Option.map_eq_some_iff.1 hs'
  have hverify := Except.toOption_eq_some hverify
  obtain ⟨hc, honce⟩ := verifyPolicy_invariants h.coherent h.once hverify
  rcases hsize : l.state.grantedSize g (.verify ctx i t operator action opts) with _ | w
  · have hnot : ¬l.state.Spends ctx g i t operator action opts := by
      rintro ⟨⟨rfl, rfl, rfl⟩, ⟨rfl, -⟩, p, hp, hallow, hlimits⟩
      rcases hwanted : opts.bind VerifyOptions.wantedSize with _ | w
      · exact not_limits hwanted hlimits
      · rw [grantedSize_eq_some.2 ⟨⟨rfl, rfl, rfl⟩, rfl, ⟨p, hp, hallow⟩, hwanted⟩] at hsize
        cases hsize
    refine ⟨hc, honce, h.total_le, ?_⟩
    show s₁.grant g = none ∨ s₁.grant g = _
    rw [verifyPolicy_grant_of_not_spends h.coherent hverify hnot]
    exact h.grant
  · obtain ⟨⟨rfl, rfl, rfl⟩, rfl, ⟨p, hp, hallow⟩, hwanted⟩ := grantedSize_eq_some.1 hsize
    have htx : ctx.inTx = true := hkept.2 (by rw [hsize]; rfl)
    obtain rfl : p = q.left (limit - l.total) := by
      rcases h.grant with hnone | hleft
      · cases hp.symm.trans hnone
      · exact Option.some.inj (hp.symm.trans hleft)
    obtain ⟨hle, hlimits, hspent⟩ := Limited.spent_left hwanted hallow
    have hgrant :=
      verifyPolicy_grant_of_spends h.coherent h.once hp hallow hlimits htx hverify
    have htotal := h.total_le
    refine ⟨hc, honce, ?_, .inr ?_⟩
    · show l.total + w ≤ limit
      omega
    · show s₁.grant g = some (q.left (limit - (l.total + w)))
      rw [hgrant, hspent, Nat.sub_sub]

/-- **One event keeps the sizes within the limit.** -/
theorem Ledger.Within.step (h : l.Within g q limit) {e : Event} (hkept : l.Kept g e)
    (hstep : l.step g e = some l') : l'.Within g q limit := by
  cases e with
  | op op => exact h.op hkept hstep
  | verify ctx i t operator action opts => exact h.verify hkept hstep

/-- The creation that a grant allows takes its size from the limit exactly if it runs in a
transaction. -/
theorem Ledger.Within.spends_iff (h : l.Within g q limit)
    (hsize : opts.bind VerifyOptions.wantedSize = some w)
    (hverify : l.state.verifyPolicy ctx g.resourceId g.resourceType g.account .createObject opts =
      .ok (s', effect))
    (hallow : (l.state.evalAccount ctx g.resourceId g.resourceType g.account .createObject
      opts).1 = .allow) :
    l.state.grant g = some (q.left (limit - l.total)) ∧ l.total + w ≤ limit ∧
      (s'.grant g = some (q.left (limit - l.total - w)) ↔ ctx.inTx = true ∨ w = 0) := by
  have hgranted : l.state.grantedSize g (.verify ctx g.resourceId g.resourceType g.account
      .createObject opts) = some w := by
    rw [← hsize]
    exact if_pos ⟨⟨rfl, rfl, rfl⟩, rfl, hallow⟩
  obtain ⟨-, -, ⟨p, hp, heffect⟩, -⟩ := grantedSize_eq_some.1 hgranted
  obtain rfl : p = q.left (limit - l.total) := by
    rcases h.grant with hnone | hleft
    · cases hp.symm.trans hnone
    · exact Option.some.inj (hp.symm.trans hleft)
  obtain ⟨hle, hlimits, hspent⟩ := Limited.spent_left hsize heffect
  have htotal := h.total_le
  refine ⟨hp, by omega, ?_⟩
  rcases htx : ctx.inTx with _ | _
  · have hnot : ¬l.state.Spends ctx g g.resourceId g.resourceType g.account .createObject opts := by
      rintro ⟨-, ⟨-, htrue⟩, -⟩
      cases htx.symm.trans htrue
    rw [verifyPolicy_grant_of_not_spends h.coherent hverify hnot, hp]
    simp only [Option.some.injEq, q.left_injective.eq_iff, Bool.false_eq_true, false_or]
    omega
  · rw [verifyPolicy_grant_of_spends h.coherent h.once hp heffect hlimits htx hverify, hspent]
    simp

/-- **A limited grant is spent at most once.**  In every run in which the policy is not put again
and each creation that it allows runs in a transaction, the sizes it allows add up to the limit at
most.  In the states of such a run, a creation that it allows takes its size from what is left
exactly if it runs in a transaction or has no size, and a creation that is denied leaves the policy
as it is. -/
theorem limited_grant_spent {params : Params} {s₀ : State} (h₀ : s₀.Reached params)
    (hgrant : s₀.grant g = some (q.left limit))
    (h : Reachable (Ledger.step g) (Ledger.Kept g) ⟨s₀, 0⟩ l) :
    l.total ≤ limit ∧
    ∀ ctx opts w s' effect, opts.bind VerifyOptions.wantedSize = some w →
      l.state.verifyPolicy ctx g.resourceId g.resourceType g.account .createObject opts =
        .ok (s', effect) →
      ((l.state.evalAccount ctx g.resourceId g.resourceType g.account .createObject opts).1 =
          .allow →
        l.state.grant g = some (q.left (limit - l.total)) ∧ l.total + w ≤ limit ∧
        (s'.grant g = some (q.left (limit - l.total - w)) ↔ ctx.inTx = true ∨ w = 0)) ∧
      (effect ≠ .allow → s'.grant g = l.state.grant g) := by
  have hstart : Ledger.Within g q limit ⟨s₀, 0⟩ :=
    ⟨h₀.coherent, h₀.groupsOnce, Nat.zero_le _, .inr hgrant⟩
  have hl : l.Within g q limit := Reachable.invariant (Ledger.Within g q limit) hstart
    (fun _ _ _ hl hkept hstep => hl.step hkept hstep) h
  refine ⟨hl.total_le, fun ctx opts w s' effect hsize hverify => ⟨hl.spends_iff hsize hverify, ?_⟩⟩
  intro hdenied
  refine verifyPolicy_grant_of_not_spends hl.coherent hverify ?_
  rintro ⟨-, -, p, hp, hallow, -⟩
  have haccount : l.state.accountDecision ctx g.resourceId g.resourceType g.account .createObject
      opts = .allow := by
    have hget : l.state.getPolicyForAccount g.resourceId g.resourceType g.account = some p := hp
    rw [accountDecision, hget]
    exact hallow
  refine hdenied ?_
  rw [eq_decision_of_verifyPolicy hl.coherent hl.once hverify, decision, haccount]
  rfl

/-- The account may create objects of ten bytes in all. -/
def sampleLimited : Limited where
  policy :=
    { id := ⟨1, samplePolicyId_lt⟩, principal := .account zeroAddress,
      resourceType := .bucket, resourceId := sampleBucketId }
  before := []
  statement := { effect := .allow, actions := [.createObject] }
  after := []
  others := by simp

def sampleGrantPlace : Grant := ⟨.bucket, sampleBucketId, zeroAddress⟩

/-- The creation of an object of eight bytes. -/
def sampleCreation (inTx : Bool) : Event :=
  .verify { blockTime := 0, inTx } sampleBucketId .bucket zeroAddress .createObject
    (some { wantedSize := some 8 })

theorem limited_grant_spent_sample : ∃ s₀ l, s₀.Reached {} ∧
    s₀.grant sampleGrantPlace = some (sampleLimited.left 10) ∧
    Reachable (Ledger.step sampleGrantPlace) (Ledger.Kept sampleGrantPlace) ⟨s₀, 0⟩ l ∧
    l.total ≤ 10 := by
  obtain ⟨s, hs, hgrant, hguarded, l, hl, -⟩ : ∃ s,
      runSteps State.step (empty {}) [.putPolicy (sampleLimited.left 10)] = some s ∧
      s.grant sampleGrantPlace = some (sampleLimited.left 10) ∧
      Guarded (Ledger.step sampleGrantPlace) (Ledger.Kept sampleGrantPlace) ⟨s, 0⟩
        [sampleCreation true, sampleCreation true] ∧
      ∃ l, runSteps (Ledger.step sampleGrantPlace) ⟨s, 0⟩
        [sampleCreation true, sampleCreation true] = some l ∧ True := by decide +kernel
  have hreached : s.Reached {} := Reachable.of_runSteps .start (by decide +kernel) hs
  have hrun := Reachable.of_runSteps .start hguarded hl
  exact ⟨s, l, hreached, hgrant, hrun, (limited_grant_spent hreached hgrant hrun).1⟩

/-- Outside of a transaction the limit of ten bytes is not spent: two objects of eight bytes are
allowed, and the policy still has all of it. -/
theorem limited_grant_unspent : ∃ s₀, s₀.Reached {} ∧
    s₀.grant sampleGrantPlace = some (sampleLimited.left 10) ∧
    Guarded (Ledger.step sampleGrantPlace) (fun _ e => e.puts sampleGrantPlace = false) ⟨s₀, 0⟩
      [sampleCreation false, sampleCreation false] ∧
    ∃ l, runSteps (Ledger.step sampleGrantPlace) ⟨s₀, 0⟩
        [sampleCreation false, sampleCreation false] = some l ∧
      l.total = 16 ∧ l.state.grant sampleGrantPlace = some (sampleLimited.left 10) :=
  Option.exists_and_of_some
    (o := runSteps State.step (empty {}) [.putPolicy (sampleLimited.left 10)])
    (fun s hs => Reachable.of_runSteps .start (by decide +kernel) hs) (by decide +kernel)

end Moca.Permission
