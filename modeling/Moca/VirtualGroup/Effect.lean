/-
# What the messages of `x/virtualgroup` write

A settlement of a virtual payment account and a transfer between providers change
only the payment part of the state (`PaymentMove`): they ask the keeper of
`x/payment` for a balance and a withdrawal, or move coins in the bank, so no flow and
no lock balance changes.  They do not touch the account that holds the deposits as
long as it is none of the addresses involved (`Foreign`).

`Kept` is what holds of every message that neither creates nor deletes a group, nor
changes its deposit.  The four messages that do have an inversion lemma each, here
and in `Moca.VirtualGroup.Moves`.
-/

import Mathlib.Logic.Relation
import Moca.Payment.Versions
import Moca.VirtualGroup.Msg

namespace Moca.VirtualGroup

open State Function

variable {ctx : Ctx} {s s' s₁ s₂ : State}

/-! ### The account of the deposits -/

/-- The coins in the module account. -/
def State.depositPool (s : State) : ℤ := s.payment.balance moduleAddress

/-- The module account is no funding address and no virtual payment account. -/
structure State.Foreign (s : State) : Prop where
  funding : ∀ id sp, s.sp.getStorageProvider id = some sp → sp.fundingAddress ≠ moduleAddress
  group : ∀ id gvg, s.gvgs.find? id = some gvg → gvg.virtualPaymentAddress ≠ moduleAddress
  family : ∀ id family, s.families.find? id = some family →
    family.virtualPaymentAddress ≠ moduleAddress

/-- No version of the parameters of `x/payment` is written. -/
def SameVersions (s s' : State) : Prop := s'.payment.versionedParams = s.payment.versionedParams

theorem SameVersions.of_eq (h : s'.payment = s.payment) : SameVersions s s' :=
  congrArg Payment.State.versionedParams h

/-- Only the payment part has changed, and not the account of the deposits. -/
structure PaymentMove (s s' : State) : Prop where
  eq : s' = { s with payment := s'.payment }
  versions : SameVersions s s'
  pool : s.Foreign → s'.depositPool = s.depositPool

theorem PaymentMove.refl (s : State) : PaymentMove s s := ⟨rfl, .of_eq rfl, fun _ => rfl⟩

theorem PaymentMove.foreign_iff (h : PaymentMove s s') : s'.Foreign ↔ s.Foreign := by
  rw [h.eq]
  exact ⟨fun hs => ⟨hs.funding, hs.group, hs.family⟩, fun hs => ⟨hs.funding, hs.group, hs.family⟩⟩

theorem PaymentMove.trans (h₁ : PaymentMove s s₁) (h₂ : PaymentMove s₁ s₂) :
    PaymentMove s s₂ := by
  refine ⟨?_, h₂.versions.trans h₁.versions, fun hs => ?_⟩
  · rw [h₂.eq, h₁.eq]
  · exact (h₂.pool (h₁.foreign_iff.2 hs)).trans (h₁.pool hs)

variable {addr recipient : Addr} {amount : ℤ} {p p' : Payment.State} {e : Error}
  {sp : Sp.StorageProvider} {y sender toAddr fromAddr : Addr} {total totalDeposit : ℤ}

/-- A transfer between two accounts that do not hold the deposits. -/
theorem sendCoins_move (h : s.sendCoins sender recipient amount = .ok s')
    (hs : s.Foreign → sender ≠ moduleAddress ∧ recipient ≠ moduleAddress) : PaymentMove s s' := by
  unfold sendCoins at h
  split_ifs at h
  cases h
  refine ⟨rfl, rfl, fun hf => ?_⟩
  show Function.update _ recipient _ moduleAddress = _
  rw [update_of_ne (hs hf).2.symm, update_of_ne (hs hf).1.symm]
  rfl

theorem swapDeposit_move {successor primary : Addr}
    (h : s.swapDeposit successor primary totalDeposit = .ok s')
    (hs : s.Foreign → successor ≠ moduleAddress ∧ primary ≠ moduleAddress) : PaymentMove s s' := by
  unfold swapDeposit at h
  split_ifs at h
  · exact sendCoins_move h hs
  · cases h
    exact .refl s

/-! ### Settlements -/

theorem moduleAddress_ne_governance : moduleAddress ≠ Payment.governanceAddress := by decide

/-- The bank balances that a withdrawal by a keeper does not touch. -/
theorem balance_keeperWithdraw {ctx : Payment.Ctx}
    (h : Payment.keeperWithdraw ctx p fromAddr toAddr amount = .ok p')
    (hgov : y ≠ Payment.governanceAddress) (hfrom : y ≠ fromAddr) (hto : y ≠ toAddr) :
    p'.balance y = p.balance y := by
  obtain ⟨r, p₁, r₁, -, hu, -, rfl⟩ := Payment.keeperWithdraw_eq_ok h
  exact (update_of_ne hto _ _).trans 
    (Payment.spared_updateStreamRecord hu hgov hfrom).balance

theorem balance_queryDynamicBalance {ctx : Payment.Ctx}
    (h : Payment.queryDynamicBalance ctx p addr = .ok (p', total))
    (hgov : y ≠ Payment.governanceAddress) (hy : y ≠ addr) : p'.balance y = p.balance y := by
  unfold Payment.queryDynamicBalance at h
  split at h
  · cases h
    rfl
  · obtain ⟨⟨p₁, r₁⟩, hu, h⟩ := bind_eq_ok.1 h
    cases h
    exact (Payment.spared_updateStreamRecord hu hgov hy).balance

theorem queryDynamicBalance_versions {ctx : Payment.Ctx}
    (h : Payment.queryDynamicBalance ctx p addr = .ok (p', total)) :
    p'.versionedParams = p.versionedParams := by
  unfold Payment.queryDynamicBalance at h
  split at h
  · cases h
    rfl
  · obtain ⟨⟨p₁, r₁⟩, hu, h⟩ := bind_eq_ok.1 h
    cases h
    exact (Payment.updateStreamRecord_frame hu).versionedParams

theorem keeperWithdraw_versions {ctx : Payment.Ctx}
    (h : Payment.keeperWithdraw ctx p fromAddr toAddr amount = .ok p') :
    p'.versionedParams = p.versionedParams := by
  obtain ⟨r, p₁, r₁, -, hu, -, rfl⟩ := Payment.keeperWithdraw_eq_ok h
  exact (Payment.updateStreamRecord_frame hu).versionedParams

variable {gvg : GlobalVirtualGroup} {family : GlobalVirtualGroupFamily} {spID gvgID : ℕ}
  {storageProvider : Addr} {coin : Coin}

/-- A settlement of a family: there is nothing to pay, or all of it is paid. -/
theorem settleAndDistributeGVGFamily_eq_ok
    (h : s.settleAndDistributeGVGFamily ctx e sp family = .ok s') :
    ∃ p x, Payment.queryDynamicBalance (ctx.toCtx.withForced false) s.payment
        family.virtualPaymentAddress = .ok (p, x) ∧
      ((x ≤ 0 ∧ s' = { s with payment := p }) ∨
        (0 < x ∧ ∃ p', Payment.keeperWithdraw (ctx.toCtx.withForced false) p
          family.virtualPaymentAddress sp.fundingAddress x = .ok p' ∧
            s' = { s with payment := p' })) := by
  obtain ⟨⟨p, x⟩, hq, h⟩ := bind_eq_ok.1 h
  dsimp only at h
  split_ifs at h with hle
  · exact ⟨p, x, ofPayment_eq_ok.1 hq, .inl ⟨hle, (Except.ok.inj h).symm⟩⟩
  · obtain ⟨p', hw, h⟩ := bind_eq_ok.1 h
    exact ⟨p, x, ofPayment_eq_ok.1 hq,
      .inr ⟨not_le.1 hle, p', ofPayment_eq_ok.1 hw, (Except.ok.inj h).symm⟩⟩

theorem settleAndDistributeGVGFamily_move
    (h : s.settleAndDistributeGVGFamily ctx e sp family = .ok s')
    (hs : s.Foreign → sp.fundingAddress ≠ moduleAddress ∧
      family.virtualPaymentAddress ≠ moduleAddress) : PaymentMove s s' := by
  obtain ⟨p₁, x, hq, hpaid⟩ := settleAndDistributeGVGFamily_eq_ok h
  have hq' : s.Foreign → p₁.balance moduleAddress = s.depositPool := fun hf =>
    balance_queryDynamicBalance hq moduleAddress_ne_governance (hs hf).2.symm
  rcases hpaid with ⟨-, rfl⟩ | ⟨-, p₂, hw, rfl⟩
  · exact ⟨rfl, queryDynamicBalance_versions hq, hq'⟩
  · refine ⟨rfl, (keeperWithdraw_versions hw).trans (queryDynamicBalance_versions hq), fun hf => ?_⟩
    exact (balance_keeperWithdraw hw moduleAddress_ne_governance (hs hf).2.symm
      (hs hf).1.symm).trans (hq' hf)

theorem payShare_eq_ok (h : payShare ctx e addr amount s spID = .ok s') :
    ∃ sp p, s.sp.getStorageProvider spID = some sp ∧ s' = { s with payment := p } ∧
      Payment.keeperWithdraw (ctx.toCtx.withForced false) s.payment addr sp.fundingAddress amount =
        .ok p := by
  unfold payShare at h
  split at h
  · cases h
  · rename_i sp hsp
    obtain ⟨p, hw, h⟩ := bind_eq_ok.1 h
    cases h
    exact ⟨sp, p, hsp, rfl, ofPayment_eq_ok.1 hw⟩

theorem payShare_move (h : payShare ctx e addr amount s spID = .ok s')
    (hs : s.Foreign → addr ≠ moduleAddress) : PaymentMove s s' := by
  obtain ⟨sp, p₁, hsp, rfl, hw⟩ := payShare_eq_ok h
  refine ⟨rfl, keeperWithdraw_versions hw, fun hf => ?_⟩
  exact balance_keeperWithdraw hw moduleAddress_ne_governance (hs hf).symm
    (hf.funding spID sp hsp).symm

/-- A settlement of a group: the share is not positive, or it is paid to every secondary. -/
theorem settleAndDistributeGVG_eq_ok (h : s.settleAndDistributeGVG ctx e gvg = .ok s') :
    gvg.secondarySpIds.length ≠ 0 ∧ ∃ p x,
      Payment.queryDynamicBalance (ctx.toCtx.withForced false) s.payment
        gvg.virtualPaymentAddress = .ok (p, x) ∧
      ((x.tdiv gvg.secondarySpIds.length ≤ 0 ∧ s' = { s with payment := p }) ∨
        (0 < x.tdiv gvg.secondarySpIds.length ∧
          gvg.secondarySpIds.foldlM (payShare ctx e gvg.virtualPaymentAddress
            (x.tdiv gvg.secondarySpIds.length)) { s with payment := p } = .ok s')) := by
  obtain ⟨⟨p, x⟩, hq, h⟩ := bind_eq_ok.1 h
  dsimp only at h
  split_ifs at h with hlen hle
  · exact ⟨hlen, p, x, ofPayment_eq_ok.1 hq, .inl ⟨hle, (Except.ok.inj h).symm⟩⟩
  · exact ⟨hlen, p, x, ofPayment_eq_ok.1 hq, .inr ⟨not_le.1 hle, h⟩⟩

theorem settleAndDistributeGVG_move (h : s.settleAndDistributeGVG ctx e gvg = .ok s')
    (hs : s.Foreign → gvg.virtualPaymentAddress ≠ moduleAddress) : PaymentMove s s' := by
  obtain ⟨-, p₁, x, hq, hpaid⟩ := settleAndDistributeGVG_eq_ok h
  have hfirst : PaymentMove s { s with payment := p₁ } := by
    refine ⟨rfl, queryDynamicBalance_versions hq, fun hf => ?_⟩
    exact balance_queryDynamicBalance hq moduleAddress_ne_governance (hs hf).symm
  rcases hpaid with ⟨-, rfl⟩ | ⟨-, hfold⟩
  · exact hfirst
  · refine foldlM_invariant (PaymentMove s) (fun s₁ id s₂ _ hI hpay => ?_) hfirst hfold
    exact hI.trans (payShare_move hpay fun hf => hs (hI.foreign_iff.1 hf))

/-! ### What the messages keep that do not change a deposit -/

/-- No provider has got a new funding address. -/
def FundingKept (s s' : State) : Prop :=
  ∀ id sp', s'.sp.getStorageProvider id = some sp' →
    ∃ sp, s.sp.getStorageProvider id = some sp ∧ sp.fundingAddress = sp'.fundingAddress

theorem FundingKept.of_eq (h : s'.sp = s.sp) : FundingKept s s' := by
  intro id sp hsp
  exact ⟨sp, h ▸ hsp, rfl⟩

/-- The fields of a group that the books of the deposits depend on. -/
def GlobalVirtualGroup.books (gvg : GlobalVirtualGroup) : ℤ × ℕ × Addr :=
  (gvg.totalDeposit, gvg.storedSize, gvg.virtualPaymentAddress)

/-- Groups and families are the same as far as the deposits are concerned, and nothing is paid out
of their account. -/
structure Kept (s s' : State) : Prop where
  groups : ∀ id, (s'.gvgs.find? id).map GlobalVirtualGroup.books =
    (s.gvgs.find? id).map GlobalVirtualGroup.books
  families : ∀ id, (s'.families.find? id).map GlobalVirtualGroupFamily.virtualPaymentAddress =
    (s.families.find? id).map GlobalVirtualGroupFamily.virtualPaymentAddress
  staking : s'.params.gvgStakingPerBytes = s.params.gvgStakingPerBytes
  funding : FundingKept s s'
  payouts : s'.payouts = s.payouts
  versions : SameVersions s s'
  pool : s.Foreign → s'.depositPool = s.depositPool

theorem Kept.exists_group (h : Kept s s') {id : ℕ} {gvg' : GlobalVirtualGroup}
    (hfind : s'.gvgs.find? id = some gvg') :
    ∃ gvg, s.gvgs.find? id = some gvg ∧ gvg.books = gvg'.books := by
  have hgroup := h.groups id
  rw [hfind, Option.map_some] at hgroup
  exact Option.map_eq_some_iff.1 hgroup.symm

theorem Kept.foreign (h : Kept s s') (hs : s.Foreign) : s'.Foreign := by
  refine ⟨fun id sp' hsp => ?_, fun id gvg' hgvg => ?_, fun id family' hfamily => ?_⟩
  · obtain ⟨sp, hold, haddr⟩ := h.funding id sp' hsp
    exact haddr ▸ hs.funding id sp hold
  · obtain ⟨gvg, hold, hbooks⟩ := h.exists_group hgvg
    have haddr : gvg.virtualPaymentAddress = gvg'.virtualPaymentAddress :=
      congrArg (fun b => b.2.2) hbooks
    exact haddr ▸ hs.group id gvg hold
  · have hsame := h.families id
    rw [hfamily, Option.map_some] at hsame
    obtain ⟨family, hold, haddr⟩ := Option.map_eq_some_iff.1 hsame.symm
    exact haddr ▸ hs.family id family hold

theorem Kept.trans (h₁ : Kept s s₁) (h₂ : Kept s₁ s₂) : Kept s s₂ where
  groups id := (h₂.groups id).trans (h₁.groups id)
  families id := (h₂.families id).trans (h₁.families id)
  staking := h₂.staking.trans h₁.staking
  funding id sp₂ hsp₂ := by
    obtain ⟨sp₁, hsp₁, haddr₂⟩ := h₂.funding id sp₂ hsp₂
    obtain ⟨sp, hsp, haddr₁⟩ := h₁.funding id sp₁ hsp₁
    exact ⟨sp, hsp, haddr₁.trans haddr₂⟩
  payouts := h₂.payouts.trans h₁.payouts
  versions := h₂.versions.trans h₁.versions
  pool hs := (h₂.pool (h₁.foreign hs)).trans (h₁.pool hs)

/-- Groups, families, parameters and the account of the deposits are not written. -/
theorem Kept.of_eq (hgvgs : s'.gvgs = s.gvgs) (hfamilies : s'.families = s.families)
    (hstaking : s'.params.gvgStakingPerBytes = s.params.gvgStakingPerBytes)
    (hfunding : FundingKept s s') (hpayouts : s'.payouts = s.payouts)
    (hpayment : s'.payment = s.payment) : Kept s s' where
  groups id := by rw [hgvgs]
  families id := by rw [hfamilies]
  staking := hstaking
  funding := hfunding
  payouts := hpayouts
  versions := .of_eq hpayment
  pool _ := congrArg (fun p => p.balance moduleAddress) hpayment

theorem Kept.refl (s : State) : Kept s s := .of_eq rfl rfl rfl (.of_eq rfl) rfl rfl

theorem PaymentMove.kept (h : PaymentMove s s') : Kept s s' := by
  refine ⟨fun id => ?_, fun id => ?_, ?_, .of_eq ?_, ?_, h.versions, h.pool⟩
  all_goals rw [h.eq]

/-! ### Inversion of the messages -/

theorem operator_eq_ok :
    s.operator addr = .ok sp ↔ s.sp.getStorageProviderByOperatorAddr addr = some sp := by
  unfold operator
  split <;> simp_all

theorem getStorageProvider_of_operator (h : s.operator addr = .ok sp) :
    s.sp.getStorageProvider sp.id = some sp :=
  Sp.getStorageProvider_of_byOperatorAddr (operator_eq_ok.1 h)

/-- The provider that a sender is taken for is stored under its id. -/
theorem operatorOrFunding_eq_ok (h : s.operatorOrFunding addr = .ok sp) :
    s.sp.getStorageProvider sp.id = some sp := by
  unfold operatorOrFunding at h
  split at h
  · rename_i sp' hop
    cases h
    exact Sp.getStorageProvider_of_byOperatorAddr hop
  · split at h
    · cases h
    · rename_i sp' hfund
      cases h
      exact Sp.getStorageProvider_of_byFundingAddr hfund

theorem sendCoinsFromModuleToAccount_eq_ok
    (h : s.sendCoinsFromModuleToAccount ctx recipient amount = .ok s') :
    s' = { s with payment := s'.payment, payouts := s.payouts ++ [⟨recipient, amount⟩] } ∧
      SameVersions s s' ∧ (recipient ≠ moduleAddress → s'.depositPool = s.depositPool - amount) := by
  unfold sendCoinsFromModuleToAccount at h
  split_ifs at h
  obtain ⟨s₁, h₁, h₂⟩ := bind_eq_ok.1 h
  cases h₂
  unfold sendCoins at h₁
  split_ifs at h₁
  cases h₁
  refine ⟨rfl, rfl, fun hne => ?_⟩
  show Function.update _ recipient _ moduleAddress = _
  rw [update_of_ne hne.symm, update_self]
  rfl

theorem sendCoinsFromAccountToModule_eq_ok
    (h : s.sendCoinsFromAccountToModule sender amount = .ok s') :
    s' = { s with payment := s'.payment } ∧ SameVersions s s' ∧
      (sender ≠ moduleAddress → s'.depositPool = s.depositPool + amount) := by
  unfold sendCoinsFromAccountToModule sendCoins at h
  split_ifs at h
  cases h
  refine ⟨rfl, rfl, fun hne => ?_⟩
  unfold depositPool
  dsimp only
  rw [update_self, update_of_ne hne.symm]

theorem sendBackDeposit_eq_ok (h : s.sendBackDeposit ctx recipient totalDeposit = .ok s') :
    s' = { s with
        payment := s'.payment
        payouts := s.payouts ++
          if totalDeposit = 0 then [] else [⟨recipient, totalDeposit⟩] } ∧
      SameVersions s s' ∧
      (recipient ≠ moduleAddress → s'.depositPool = s.depositPool - totalDeposit) := by
  unfold sendBackDeposit at h
  split_ifs at h with hzero
  · rw [if_neg hzero]
    exact sendCoinsFromModuleToAccount_eq_ok h
  · cases h
    rw [if_pos (not_not.1 hzero), List.append_nil, not_not.1 hzero, sub_zero]
    exact ⟨rfl, .of_eq rfl, fun _ => rfl⟩

/-- **`Deposit`** raises the deposit of a group by what a provider pays. -/
theorem deposit_eq_ok (h : deposit s storageProvider gvgID coin = .ok s') : ∃ gvg sp,
      s.gvgs.find? gvgID = some gvg ∧ s.sp.getStorageProvider sp.id = some sp ∧ 0 < coin.amount ∧
      s' = { s with
        payment := s'.payment
        gvgs := s.gvgs.insert gvgID
          { gvg with totalDeposit := gvg.totalDeposit + coin.amount } } ∧
      SameVersions s s' ∧
      (sp.fundingAddress ≠ moduleAddress → s'.depositPool = s.depositPool + coin.amount) := by
  unfold deposit at h
  split at h
  · cases h
  · rename_i hpos
    obtain ⟨sp, hsp, h⟩ := bind_eq_ok.1 h
    split at h
    · cases h
    · rename_i gvg hgvg
      split at h
      · cases h
      · obtain ⟨s₁, hsend, h⟩ := bind_eq_ok.1 h
        cases h
        obtain ⟨hs₁, hversions, hpool⟩ := sendCoinsFromAccountToModule_eq_ok hsend
        refine ⟨gvg, sp, hgvg, operatorOrFunding_eq_ok hsp, not_le.1 hpos, ?_, hversions, hpool⟩
        rw [hs₁]
        rfl

theorem withdrawTokens_eq_ok {available requested tokens : ℤ} (hpos : 0 < requested)
    (h : withdrawTokens available requested = .ok tokens) :
    tokens = requested ∧ requested ≤ available := by
  unfold withdrawTokens at h
  split_ifs at h with hneg hzero hlarge
  · omega
  · cases h
    exact ⟨rfl, not_lt.1 hlarge⟩

/-- **`Withdraw`** pays the primary provider of a group from what the stored size does not bind. -/
theorem withdraw_eq_ok (h : withdraw ctx s storageProvider gvgID coin = .ok s') : ∃ gvg sp,
      s.gvgs.find? gvgID = some gvg ∧ s.sp.getStorageProvider gvg.primarySpId = some sp ∧
      0 < coin.amount ∧ coin.amount ≤ s.getAvailableStakingTokens gvg ∧
      s' = { s with
        payment := s'.payment
        payouts := s.payouts ++ [⟨sp.fundingAddress, coin.amount⟩]
        gvgs := s.gvgs.insert gvgID
          { gvg with totalDeposit := gvg.totalDeposit - coin.amount } } ∧
      SameVersions s s' ∧
      (sp.fundingAddress ≠ moduleAddress → s'.depositPool = s.depositPool - coin.amount) := by
  unfold withdraw at h
  split at h
  · cases h
  · rename_i hpos
    obtain ⟨sp, hsp, h⟩ := bind_eq_ok.1 h
    split at h
    · cases h
    · rename_i gvg hgvg
      split_ifs at h with hprimary
      obtain ⟨tokens, htokens, h⟩ := bind_eq_ok.1 h
      obtain ⟨s₁, hsend, h⟩ := bind_eq_ok.1 h
      cases h
      obtain ⟨rfl, havail⟩ := withdrawTokens_eq_ok (not_le.1 hpos) htokens
      obtain ⟨hs₁, hversions, hpool⟩ := sendCoinsFromModuleToAccount_eq_ok hsend
      refine ⟨gvg, sp, hgvg, ?_, not_le.1 hpos, havail, ?_, hversions, hpool⟩
      · rw [not_not.1 hprimary]
        exact operatorOrFunding_eq_ok hsp
      · rw [hs₁]
        rfl

end Moca.VirtualGroup
