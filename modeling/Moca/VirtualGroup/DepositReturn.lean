/-
# Who gets the deposit of a group back

`DeleteGlobalVirtualGroup` and `Withdraw` are the only messages that pay out of the
account of the deposits.  `Withdraw` compares the sender with the primary provider
of the group; `DeleteGlobalVirtualGroup` does not, and pays whichever provider sent it.
-/

import Moca.VirtualGroup.Moves

namespace Moca.VirtualGroup

variable {ctx : Ctx} {s s' : State} {op : Op}

/-- The group on whose behalf a message may pay out of the module account. -/
def Op.gvg : Op → Option ℕ
  | .deleteGlobalVirtualGroup _ gvgID => some gvgID
  | .withdraw _ gvgID _ => some gvgID
  | _ => none

/-- Whatever the step from `s` to `s'` has paid out of the module account has gone to the funding
address of the provider that is the primary of the group. -/
def ReturnedToPrimary (op : Op) (s s' : State) : Prop :=
  ∀ t ∈ s'.payouts.drop s.payouts.length, ∃ gvgID gvg sp, op.gvg = some gvgID ∧
    s.gvgs.find? gvgID = some gvg ∧ s.sp.getStorageProvider gvg.primarySpId = some sp ∧
    t.recipient = sp.fundingAddress

/-- A group with a deposit is deleted only by a provider that has the funding address of its
primary, as the primary itself does. -/
def Op.DeletedByPrimary (s : State) : Op → Prop
  | .deleteGlobalVirtualGroup storageProvider gvgID => ∀ sp gvg,
    s.sp.getStorageProviderByOperatorAddr storageProvider = some sp →
    s.gvgs.find? gvgID = some gvg → gvg.totalDeposit ≠ 0 →
    ∃ primary, s.sp.getStorageProvider gvg.primarySpId = some primary ∧
      primary.fundingAddress = sp.fundingAddress
  | _ => True

/-- All messages but two pay nothing. -/
theorem run_payouts (h : op.run ctx s = .ok s') (hgvg : op.gvg = none) :
    s'.payouts = s.payouts := by
  by_cases hop : op.rearranges = true
  · exact (run_kept hop h).payouts
  · cases op with
    | createGlobalVirtualGroup _ _ _ _ =>
      obtain ⟨_, _, _, _, -, -, hfunded⟩ := createGlobalVirtualGroup_eq_ok h
      exact hfunded.payouts
    | deposit _ _ _ =>
      obtain ⟨_, _, -, -, -, heq, -⟩ := deposit_eq_ok h
      rw [heq]
    | deleteGlobalVirtualGroup _ _ => cases hgvg
    | withdraw _ _ _ => cases hgvg
    | sp _ =>
      cases h
      rfl
    | payment _ =>
      dsimp only [Op.run] at h
      split at h
      all_goals
        cases h
        rfl
    | storedSize _ _ =>
      dsimp only [Op.run] at h
      split at h
      all_goals
        cases h
        rfl
    | _ => exact absurd rfl hop

theorem returnedToPrimary_of_eq (h : s'.payouts = s.payouts) : ReturnedToPrimary op s s' := by
  unfold ReturnedToPrimary
  rw [h, List.drop_length]
  simp

/-- **A message that succeeds pays the primary exactly if it meets the condition.** -/
theorem returnedToPrimary_iff (h : op.run ctx s = .ok s') :
    ReturnedToPrimary op s s' ↔ op.DeletedByPrimary s := by
  cases op with
  | deleteGlobalVirtualGroup storageProvider gvgID =>
    obtain ⟨sp, hsp, h⟩ := bind_eq_ok.1 h
    obtain ⟨gvg, family, hdeleted, -, -, -, heq, -⟩ := deleteGVG_eq_ok h
    have hgvg := hdeleted.find
    rw [operator_eq_ok] at hsp
    have hnew : s'.payouts.drop s.payouts.length =
        if gvg.totalDeposit = 0 then [] else [⟨sp.fundingAddress, gvg.totalDeposit⟩] := by
      rw [heq, List.drop_left]
    unfold ReturnedToPrimary Op.DeletedByPrimary
    rw [hnew]
    constructor
    · intro hret sp' gvg' hsp' hgvg' hdep
      obtain rfl := Option.some.inj (hsp.symm.trans hsp')
      obtain rfl := Option.some.inj (hgvg.symm.trans hgvg')
      rw [if_neg hdep] at hret
      obtain ⟨id, gvg', primary, hid, hgvg', hprimary, heq⟩ := hret _ (List.mem_singleton_self _)
      cases hid
      obtain rfl := Option.some.inj (hgvg.symm.trans hgvg')
      exact ⟨primary, hprimary, heq.symm⟩
    · intro hcond t ht
      split_ifs at ht with hdep
      · cases ht
      · obtain rfl := List.mem_singleton.1 ht
        obtain ⟨primary, hprimary, heq⟩ := hcond sp gvg hsp hgvg hdep
        exact ⟨gvgID, gvg, primary, rfl, hgvg, hprimary, heq.symm⟩
  | withdraw storageProvider gvgID coin =>
    obtain ⟨gvg, sp, hgvg, hsp, -, -, heq, -⟩ := withdraw_eq_ok h
    refine iff_of_true (fun t ht => ?_) trivial
    rw [heq, List.drop_left, List.mem_singleton] at ht
    exact ⟨gvgID, gvg, sp, rfl, hgvg, hsp, by rw [ht]⟩
  | _ => exact iff_of_true (returnedToPrimary_of_eq (run_payouts h rfl)) trivial

/-- **Deposits are returned to the primary provider.**  In every run in which groups with a deposit
are deleted only by a provider with the funding address of their primary, whatever a step pays out
of the module account goes to the funding address of the primary of the group; and a message that
succeeds in any state that a run reaches pays so exactly if it meets that condition. -/
theorem deposit_returned_to_primary (s₀ : State) (l : List (Ctx × Op)) :
    (Guarded State.step (fun s l => l.2.DeletedByPrimary s) s₀ l →
      Guarded State.step (fun s l => ∀ s', s.step l = some s' → ReturnedToPrimary l.2 s s') s₀ l) ∧
    ∀ s ctx op s', Reachable State.step (fun _ _ => True) s₀ s → op.run ctx s = .ok s' →
      (ReturnedToPrimary op s s' ↔ op.DeletedByPrimary s) := by
  refine ⟨?_, fun s ctx op s' _ h => returnedToPrimary_iff h⟩
  induction l generalizing s₀ with
  | nil => exact fun _ => trivial
  | cons e l ih =>
    rintro ⟨hcond, hrest⟩
    refine ⟨fun s' hstep => ?_, fun s' hstep => ih s' (hrest s' hstep)⟩
    unfold State.step at hstep
    split at hstep
    · rename_i s₁ hrun
      cases hstep
      exact (returnedToPrimary_iff hrun).2 hcond
    · cases hstep
      exact returnedToPrimary_of_eq rfl

/-- Two providers in service. -/
def twoProviders : Sp.Store := Sp.numberedProviders [1, 2]

/-- The funding addresses of both providers have some coins. -/
def twoProvidersState : State :=
  State.empty defaultParams twoProviders
    (Payment.State.empty Payment.defaultParams fun a => if a = 201 ∨ a = 202 then 1000 else 0)

/-- Groups of one primary and one secondary provider. -/
def oneSecondaryCtx : Ctx where
  blockTime := 1000
  expectSecondarySPNum := 1

/-- The first provider creates a group with a deposit of 500. -/
def createdGroup : List (Ctx × Op) :=
  [(oneSecondaryCtx, .createGlobalVirtualGroup 101 0 [2] ⟨"amoca", 500⟩)]

/-- The run in which the primary deletes its group meets the condition, so the deposit comes back
to the funding address of the primary. -/
theorem deposit_returned_to_creator :
    ∃ s s', runSteps State.step twoProvidersState createdGroup = some s ∧
      (Op.deleteGlobalVirtualGroup 101 1).run oneSecondaryCtx s = .ok s' ∧
      s'.payouts = [⟨201, 500⟩] ∧
      ReturnedToPrimary (.deleteGlobalVirtualGroup 101 1) s s' := by
  obtain ⟨s, hs, s', hs', hpay, ⟨sp, hsp, hop⟩, ⟨gvg, hgvg, hid⟩, primary, hprimary, hfunding⟩ : ∃ s,
      runSteps State.step twoProvidersState createdGroup = some s ∧
      ∃ s', (Op.deleteGlobalVirtualGroup 101 1).run oneSecondaryCtx s = .ok s' ∧
        s'.payouts = [⟨201, 500⟩] ∧
        (∃ sp, s.sp.getStorageProviderByOperatorAddr 101 = some sp ∧ sp.fundingAddress = 201) ∧
        (∃ gvg, s.gvgs.find? 1 = some gvg ∧ gvg.primarySpId = 1) ∧
        ∃ sp, s.sp.getStorageProvider 1 = some sp ∧ sp.fundingAddress = 201 := by
    decide
  refine ⟨s, s', hs, hs', hpay, ?_⟩
  have hreach : Reachable State.step (fun _ _ => True) twoProvidersState s := by
    refine Reachable.of_runSteps .start ?_ hs
    exact ⟨trivial, fun _ _ => trivial⟩
  refine ((deposit_returned_to_primary twoProvidersState createdGroup).2 s _ _ s' hreach hs').2 ?_
  intro sp₁ gvg₁ hsp₁ hgvg₁ _
  obtain rfl := Option.some.inj (hsp.symm.trans hsp₁)
  obtain rfl := Option.some.inj (hgvg.symm.trans hgvg₁)
  exact ⟨primary, hid ▸ hprimary, hfunding.trans hop.symm⟩

/-- The second provider deletes the empty group of the first one and is paid its deposit. -/
theorem deposit_returned_to_other :
    ∃ s s', runSteps State.step twoProvidersState createdGroup = some s ∧
      (Op.deleteGlobalVirtualGroup 102 1).run oneSecondaryCtx s = .ok s' ∧
      s'.payouts = [⟨202, 500⟩] ∧
      ¬ ReturnedToPrimary (.deleteGlobalVirtualGroup 102 1) s s' := by
  obtain ⟨s, hs, s', hs', hnone, hpay, ⟨gvg, hgvg, hprimary⟩, sp, hsp, hfunding⟩ : ∃ s,
      runSteps State.step twoProvidersState createdGroup = some s ∧
      ∃ s', (Op.deleteGlobalVirtualGroup 102 1).run oneSecondaryCtx s = .ok s' ∧
        s.payouts = [] ∧ s'.payouts = [⟨202, 500⟩] ∧
        (∃ gvg, s.gvgs.find? 1 = some gvg ∧ gvg.primarySpId = 1) ∧
        ∃ sp, s.sp.getStorageProvider 1 = some sp ∧ sp.fundingAddress = 201 := by
    decide
  refine ⟨s, s', hs, hs', hpay, fun hret => ?_⟩
  have hmem : (⟨202, 500⟩ : Payout) ∈ s'.payouts.drop s.payouts.length := by
    rw [hpay, hnone]
    exact List.mem_singleton_self _
  obtain ⟨gvgID, gvg₁, sp₁, hid, hgvg₁, hsp₁, heq⟩ := hret _ hmem
  cases hid
  obtain rfl := Option.some.inj (hgvg.symm.trans hgvg₁)
  rw [hprimary] at hsp₁
  obtain rfl := Option.some.inj (hsp.symm.trans hsp₁)
  exact absurd (heq.trans hfunding) (by decide)

end Moca.VirtualGroup
