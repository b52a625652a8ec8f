/-
# Settlement of the virtual payment accounts is exact

`SettleAndDistributeGVG` (`keeper/payment.go`) asks `x/payment` for the dynamic balance `T` of the
account of a group, which `QueryDynamicBalance` computes by an update that it does not store, and
then withdraws `T / n` for each of the `n` secondary providers, in an update of its own each time.
All of them run at one block time, so only the first accrues: the account of a record that does
not pay (`HasEarned`) has what is left as its dynamic balance after each withdrawal
(`HasEarned.keeperWithdraw`), and the loop over the providers leaves `T - n * (T / n)`
(`HasEarned.payShares`).  A second settlement then finds less than one unit for each provider.

A virtual payment account only receives, so its balance is not negative.  If it were, nobody would
be paid: the code returns early if the share is not positive.
-/

import Moca.VirtualGroup.DepositReturn

namespace Moca
namespace Payment

variable {ctx : Ctx} {s s' : State} {addr toAddr : Addr} {r : StreamRecord} {now T x : ℤ}

/-! ### Accounts that do not pay -/

/-- What `QueryDynamicBalance` finds for a record that does not pay, before the bank helps: the
static balance with what has flowed in, and a buffer that is not needed any more. -/
def StreamRecord.dynamicBalance (r : StreamRecord) (now : ℤ) : ℤ :=
  (r.accrue now).staticBalance + r.bufferBalance

/-- Such a record after a change of its static balance. -/
def StreamRecord.earned (r : StreamRecord) (now x : ℤ) : StreamRecord :=
  { r.accrue now with
    staticBalance := r.dynamicBalance now + x
    bufferBalance := 0
    settleTimestamp := 0 }

/-- The account has an active record that does not pay, with the dynamic balance `T`. -/
def HasEarned (s : State) (addr : Addr) (now T : ℤ) : Prop :=
  ∃ r, s.streamRecords.find? addr = some r ∧ r.status = .active ∧ 0 ≤ r.netflowRate ∧
    r.dynamicBalance now = T

theorem accrue_dynamicBalance (r : StreamRecord) (now x : ℤ) :
    (r.earned now x).dynamicBalance now = r.dynamicBalance now + x := by
  have hcrud : ¬now > (r.earned now x).crudTimestamp := by
    show ¬now > (r.accrue now).crudTimestamp
    unfold StreamRecord.accrue
    split_ifs with h
    · exact lt_irrefl _
    · exact h
  show ((r.earned now x).accrue now).staticBalance + 0 = _
  rw [StreamRecord.accrue, if_neg hcrud, add_zero]
  rfl

/-- **An update of an account that does not pay**, by an amount that its balance bears: the bank
is not asked, and there is no settle time. -/
theorem updateStreamRecord_earning (hst : r.status = .active) (hrate : 0 ≤ r.netflowRate)
    (hbal : 0 ≤ r.dynamicBalance ctx.blockTime + x) :
    updateStreamRecord ctx s addr r { addr := addr, staticBalanceChange := x } =
      .ok (s.updateAutoSettleRecord addr r.settleTimestamp 0, r.earned ctx.blockTime x) := by
  have hnot : ¬r.netflowRate < 0 := not_lt.2 hrate
  have happly : r.apply ctx.blockTime s.params.versionedParams.reserveTime
      { addr := addr, staticBalanceChange := x } =
        { r.earned ctx.blockTime x with settleTimestamp := r.settleTimestamp } := by
    simp [StreamRecord.apply, StreamRecord.changeRate, StreamRecord.addStatic, bufferFor, hnot,
      StreamRecord.earned, StreamRecord.dynamicBalance]
  have hpull : pullFromBank ctx s addr
      { r.earned ctx.blockTime x with settleTimestamp := r.settleTimestamp } =
        (s, { r.earned ctx.blockTime x with settleTimestamp := r.settleTimestamp }) := by
    unfold pullFromBank
    exact if_neg fun h => not_lt.2 hbal h.1
  rw [updateStreamRecord, updateStreamRecordWith, hst]
  dsimp only
  rw [happly, hpull]
  split_ifs with hpay
  · exact absurd hpay.2.2 (not_lt.2 hbal)
  · rw [settleTime, if_neg (by simpa [StreamRecord.earned] using hrate)]
    rfl

section

variable (h : HasEarned s addr ctx.blockTime T)
include h

/-- The query returns the dynamic balance and changes no record and no bank balance. -/
theorem HasEarned.query (hT : 0 ≤ T) :
    ∃ s', queryDynamicBalance ctx s addr = .ok (s', T) ∧ s'.streamRecords = s.streamRecords ∧
      s'.balance = s.balance := by
  obtain ⟨r, hr, hst, hrate, rfl⟩ := h
  have hu : updateStreamRecord ctx s addr r { addr := addr } = _ :=
    updateStreamRecord_earning (x := 0) hst hrate (by simpa using hT)
  refine ⟨s.updateAutoSettleRecord addr r.settleTimestamp 0, ?_, by simp, by simp⟩
  rw [queryDynamicBalance, hr]
  dsimp only
  rw [hu]
  dsimp only [bind, Except.bind, pure, Except.pure, StreamRecord.earned]
  rw [add_zero]

/-- A query of an account that owes finds nothing to pay out. -/
theorem HasEarned.query_owing (hT : T < 0) (hq : queryDynamicBalance ctx s addr = .ok (s', x)) :
    x ≤ 0 ∧ ∀ y, s'.balance y ≤ s.balance y := by
  obtain ⟨r, hr, hst, hrate, rfl⟩ := h
  rw [queryDynamicBalance, hr] at hq
  obtain ⟨⟨s₁, r₁⟩, hu, hq⟩ := bind_eq_ok.1 hq
  cases hq
  have hneg : (r.apply ctx.blockTime s.params.versionedParams.reserveTime
      { addr := addr }).staticBalance = r.dynamicBalance ctx.blockTime := by
    simp [StreamRecord.apply, StreamRecord.changeRate, StreamRecord.addStatic, bufferFor,
      not_lt.2 hrate, StreamRecord.dynamicBalance]
  obtain ⟨z, hz, hz', hpulled⟩ := pullFromBank_eq ctx s addr
    (r.apply ctx.blockTime s.params.versionedParams.reserveTime { addr := addr })
  rw [hneg] at hz'
  cases updated_of_updateStreamRecord hu with
  | frozen hfro _ =>
    rw [hst] at hfro
    cases hfro
  | kept _ hpull _ _ =>
    cases hpulled.symm.trans hpull
    refine ⟨?_, fun y => ?_⟩
    · show _ + z ≤ 0
      rw [hneg]
      omega
    · rw [updateAutoSettleRecord_balance]
      by_cases hy : y = addr
      · subst hy
        simp only [Function.update_self]
        omega
      · simp only [Function.update_of_ne hy, le_refl]
  | settled _ hpull _ hlt _ _ _ _ =>
    rw [(pull_fields hpull).1] at hlt
    simp only [apply_netflowRate] at hlt
    omega

/-- **A withdrawal takes its amount from the dynamic balance and pays it out.** -/
theorem HasEarned.keeperWithdraw (hle : x ≤ T)
    (hw : Payment.keeperWithdraw ctx s addr toAddr x = .ok s') :
    HasEarned s' addr ctx.blockTime (T - x) ∧
      s'.balance = Function.update s.balance toAddr (s.balance toAddr + x) := by
  obtain ⟨r, hr, hst, hrate, rfl⟩ := h
  obtain ⟨r₀, s₁, r₁, hr₀, hu, -, rfl⟩ := keeperWithdraw_eq_ok hw
  obtain rfl : r = r₀ := Option.some.inj (hr.symm.trans hr₀)
  rw [updateStreamRecord_earning hst hrate (by omega)] at hu
  cases hu
  refine ⟨⟨r.earned ctx.blockTime (-x), SortedMap.find?_insert_self _ _ _, ?_, ?_, ?_⟩, ?_⟩
  · exact (accrue_fields r ctx.blockTime).2.2.2.1.trans hst
  · exact hrate.trans_eq (accrue_fields r ctx.blockTime).1.symm
  · rw [accrue_dynamicBalance, sub_eq_add_neg]
  · rw [updateAutoSettleRecord_balance]

end

end Payment

namespace VirtualGroup

variable {ctx ctx' : Ctx} {s s' : State} {e : Error} {addr : Addr} {T amount : ℤ}

/-! ### The loop over the secondary providers -/

/-- The funding address of a provider. -/
def State.fundingOf (s : State) (spID : ℕ) : Option Addr :=
  (s.sp.getStorageProvider spID).map (·.fundingAddress)

/-- **The shares.**  Every provider of the list has got the amount, nobody else has got anything,
and the account has the rest. -/
theorem HasEarned.payShares {l : List ℕ} (h : Payment.HasEarned s.payment addr ctx.blockTime T)
    (hpos : 0 ≤ amount) (hle : l.length * amount ≤ T) (hnodup : (l.map s.fundingOf).Nodup)
    (hs : l.foldlM (State.payShare ctx e addr amount) s = .ok s') :
    Payment.HasEarned s'.payment addr ctx.blockTime (T - l.length * amount) ∧
      ∀ y, s'.payment.balance y =
        s.payment.balance y + if some y ∈ l.map s.fundingOf then amount else 0 := by
  induction l generalizing s T with
  | nil =>
    cases hs
    simpa using h
  | cons spID l ih =>
    obtain ⟨s₁, hpay, hs⟩ := bind_eq_ok.1 (List.foldlM_cons.symm.trans hs)
    obtain ⟨sp, p, hsp, rfl, hw⟩ := payShare_eq_ok hpay
    have hto : s.fundingOf spID = some sp.fundingAddress := by simp [State.fundingOf, hsp]
    rw [List.length_cons, Nat.cast_succ, add_mul, one_mul] at hle ⊢
    have hrest : 0 ≤ (l.length : ℤ) * amount := Int.mul_nonneg (Int.natCast_nonneg _) hpos
    have hnow : Payment.HasEarned s.payment addr (ctx.toCtx.withForced false).blockTime T := h
    obtain ⟨hearns, hbal⟩ := hnow.keeperWithdraw (by omega) hw
    rw [List.map_cons, List.nodup_cons, hto] at hnodup
    obtain ⟨hleft, hpaid⟩ := ih (s := { s with payment := p }) hearns (by omega) hnodup.2 hs
    refine ⟨by rwa [sub_sub, add_comm] at hleft, fun y => ?_⟩
    have hmap : l.map ({ s with payment := p } : State).fundingOf = l.map s.fundingOf := rfl
    rw [hpaid y, hmap, hbal, List.map_cons, hto]
    by_cases hy : y = sp.fundingAddress
    · subst hy
      simp [hnodup.1]
    · simp [hy]

/-! ### Both settlements -/

/-- What a settlement has done: each of the payees has got `amount` and nobody else anything, and
the account has the dynamic balance `left`. -/
structure PaysOut (ctx : Ctx) (s s' : State) (addr : Addr) (payees : List (Option Addr))
    (amount left : ℤ) : Prop where
  paid : ∀ y, s'.payment.balance y = s.payment.balance y + if some y ∈ payees then amount else 0
  left : (Payment.queryDynamicBalance (ctx.toCtx.withForced false) s'.payment addr).map Prod.snd =
    .ok left

theorem HasEarned.leaves (h : Payment.HasEarned s.payment addr ctx.blockTime T) (hT : 0 ≤ T) :
    (Payment.queryDynamicBalance (ctx.toCtx.withForced false) s.payment addr).map Prod.snd =
      .ok T := by
  have hnow : Payment.HasEarned s.payment addr (ctx.toCtx.withForced false).blockTime T := h
  obtain ⟨p, hq, -, -⟩ := hnow.query hT
  rw [hq]
  rfl

variable {gvg : GlobalVirtualGroup} {family : GlobalVirtualGroupFamily} {sp : Sp.StorageProvider}

/-- A settlement of a group that finds less than one unit for each secondary pays nothing. -/
theorem HasEarned.settle_little (h : Payment.HasEarned s.payment gvg.virtualPaymentAddress ctx.blockTime T)
    (hT : 0 ≤ T) (hlt : T < gvg.secondarySpIds.length) :
    ∃ s', s.settleAndDistributeGVG ctx e gvg = .ok s' ∧ s'.payment.balance = s.payment.balance := by
  have hnow : Payment.HasEarned s.payment gvg.virtualPaymentAddress
    (ctx.toCtx.withForced false).blockTime T := h
  obtain ⟨p, hq, -, hbal⟩ := hnow.query hT
  refine ⟨{ s with payment := p }, ?_, hbal⟩
  have hshare : T.tdiv gvg.secondarySpIds.length ≤ 0 := by
    rw [Int.tdiv_eq_ediv_of_nonneg hT, Int.ediv_eq_zero_of_lt hT hlt]
  have hlen : gvg.secondarySpIds.length ≠ 0 := by omega
  rw [State.settleAndDistributeGVG, hq]
  dsimp only [ofPayment, bind, Except.bind, pure, Except.pure]
  rw [if_neg hlen, if_pos hshare]

/-- A settlement of a family that finds nothing pays nothing. -/
theorem HasEarned.settle_nothing
    (h : Payment.HasEarned s.payment family.virtualPaymentAddress ctx.blockTime 0) :
    ∃ s', s.settleAndDistributeGVGFamily ctx e sp family = .ok s' ∧
      s'.payment.balance = s.payment.balance := by
  have hnow : Payment.HasEarned s.payment family.virtualPaymentAddress
    (ctx.toCtx.withForced false).blockTime 0 := h
  obtain ⟨p, hq, -, hbal⟩ := hnow.query le_rfl
  refine ⟨{ s with payment := p }, ?_, hbal⟩
  rw [State.settleAndDistributeGVGFamily, hq]
  rfl

/-- The shares of a balance that is not negative, and what they leave. -/
theorem HasEarned.settleGVG (h : Payment.HasEarned s.payment gvg.virtualPaymentAddress ctx.blockTime T)
    (hT : 0 ≤ T) (hnodup : (gvg.secondarySpIds.map s.fundingOf).Nodup)
    (hs : s.settleAndDistributeGVG ctx e gvg = .ok s') :
    Payment.HasEarned s'.payment gvg.virtualPaymentAddress ctx.blockTime
        (T % gvg.secondarySpIds.length) ∧
      ∀ y, s'.payment.balance y = s.payment.balance y +
        if some y ∈ gvg.secondarySpIds.map s.fundingOf then T / gvg.secondarySpIds.length
        else 0 := by
  have hnow : Payment.HasEarned s.payment gvg.virtualPaymentAddress
    (ctx.toCtx.withForced false).blockTime T := h
  obtain ⟨p, hq, hrec, hbal⟩ := hnow.query hT
  obtain ⟨hlen, p₁, x, hq₁, hcases⟩ := settleAndDistributeGVG_eq_ok hs
  obtain ⟨rfl, rfl⟩ := Prod.mk.inj (Except.ok.inj (hq.symm.trans hq₁))
  have hn : (0 : ℤ) < gvg.secondarySpIds.length := by omega
  have hearns : Payment.HasEarned p gvg.virtualPaymentAddress ctx.blockTime T := by
    unfold Payment.HasEarned
    rwa [hrec]
  have hdiv := Int.mul_ediv_add_emod T gvg.secondarySpIds.length
  rw [Int.tdiv_eq_ediv_of_nonneg hT] at hcases
  rcases hcases with ⟨hle, rfl⟩ | ⟨hpos, hfold⟩
  · have hzero : T / gvg.secondarySpIds.length = 0 := le_antisymm hle (Int.ediv_nonneg hT hn.le)
    rw [hzero, mul_zero, zero_add] at hdiv
    rw [hzero, hdiv]
    exact ⟨hearns, fun y => by simp [hbal]⟩
  · have hmod := Int.emod_nonneg T hn.ne'
    obtain ⟨hleft, hpaid⟩ := HasEarned.payShares (s := { s with payment := p }) hearns hpos.le
      (by omega) hnodup hfold
    refine ⟨?_, fun y => ?_⟩
    · rwa [show T - _ = T % gvg.secondarySpIds.length by omega] at hleft
    · rw [hpaid y]
      show p.balance y + _ = _
      rw [hbal]
      rfl

/-- All of a balance that is not negative goes to the primary provider. -/
theorem HasEarned.settleFamily
    (h : Payment.HasEarned s.payment family.virtualPaymentAddress ctx.blockTime T) (hT : 0 ≤ T)
    (hs : s.settleAndDistributeGVGFamily ctx e sp family = .ok s') :
    Payment.HasEarned s'.payment family.virtualPaymentAddress ctx.blockTime 0 ∧
      ∀ y, s'.payment.balance y =
        s.payment.balance y + if some y ∈ [some sp.fundingAddress] then T else 0 := by
  have hnow : Payment.HasEarned s.payment family.virtualPaymentAddress
    (ctx.toCtx.withForced false).blockTime T := h
  obtain ⟨p, hq, hrec, hbal⟩ := hnow.query hT
  obtain ⟨p₁, x, hq₁, hcases⟩ := settleAndDistributeGVGFamily_eq_ok hs
  obtain ⟨rfl, rfl⟩ := Prod.mk.inj (Except.ok.inj (hq.symm.trans hq₁))
  have hearns : Payment.HasEarned p family.virtualPaymentAddress
      (ctx.toCtx.withForced false).blockTime T := by
    unfold Payment.HasEarned
    rwa [hrec]
  rcases hcases with ⟨hle, rfl⟩ | ⟨-, p', hw, rfl⟩
  · obtain rfl : T = 0 := le_antisymm hle hT
    exact ⟨hearns, fun y => by simp [hbal]⟩
  · obtain ⟨hleft, hpaid⟩ := hearns.keeperWithdraw le_rfl hw
    rw [sub_self] at hleft
    refine ⟨hleft, fun y => ?_⟩
    show p'.balance y = _
    rw [hpaid, hbal]
    by_cases hy : y = sp.fundingAddress
    · subst hy
      simp
    · simp [hy]

/-- **Settlement is exact.**  Take an account with an active record that does not pay and has the
dynamic balance `T`.  If it is that of a group whose `n` secondary providers have distinct funding
addresses, a settlement pays `T / n` to each of them and leaves `T % n`; if it is that of a family,
it pays all of `T` and leaves nothing.  A second settlement at the same block time pays nothing.
If the account owed something, nobody would be paid. -/
theorem settlement_exact (h : Payment.HasEarned s.payment addr ctx.blockTime T)
    (htime : ctx'.blockTime = ctx.blockTime) :
    (∀ gvg : GlobalVirtualGroup, gvg.virtualPaymentAddress = addr →
      (gvg.secondarySpIds.map s.fundingOf).Nodup →
      s.settleAndDistributeGVG ctx e gvg = .ok s' →
      (0 ≤ T → PaysOut ctx s s' addr (gvg.secondarySpIds.map s.fundingOf)
          (T / gvg.secondarySpIds.length) (T % gvg.secondarySpIds.length) ∧
        ∃ s'', s'.settleAndDistributeGVG ctx' e gvg = .ok s'' ∧
          s''.payment.balance = s'.payment.balance) ∧
      (T < 0 → ∀ y, s'.payment.balance y ≤ s.payment.balance y)) ∧
    (∀ (sp : Sp.StorageProvider) (family : GlobalVirtualGroupFamily),
      family.virtualPaymentAddress = addr →
      s.settleAndDistributeGVGFamily ctx e sp family = .ok s' →
      (0 ≤ T → PaysOut ctx s s' addr [some sp.fundingAddress] T 0 ∧
        ∃ s'', s'.settleAndDistributeGVGFamily ctx' e sp family = .ok s'' ∧
          s''.payment.balance = s'.payment.balance) ∧
      (T < 0 → ∀ y, s'.payment.balance y ≤ s.payment.balance y)) := by
  have hnow : Payment.HasEarned s.payment addr (ctx.toCtx.withForced false).blockTime T := h
  refine ⟨fun gvg hgvg hnodup hs => ⟨fun hT => ?_, fun hT => ?_⟩,
    fun sp family hfamily hs => ⟨fun hT => ?_, fun hT => ?_⟩⟩
  · subst hgvg
    have hlen : (0 : ℤ) < gvg.secondarySpIds.length := by
      have := (settleAndDistributeGVG_eq_ok hs).1
      omega
    obtain ⟨hleft, hpaid⟩ := HasEarned.settleGVG h hT hnodup hs
    have hmod := Int.emod_nonneg T hlen.ne'
    have hlt := Int.emod_lt_of_pos T hlen
    refine ⟨⟨hpaid, HasEarned.leaves hleft hmod⟩, ?_⟩
    rw [← htime] at hleft
    exact HasEarned.settle_little hleft hmod hlt
  · subst hgvg
    obtain ⟨-, p, x, hq, hcases⟩ := settleAndDistributeGVG_eq_ok hs
    obtain ⟨hx, hbal⟩ := hnow.query_owing hT hq
    have hshare : 0 ≤ (-x).tdiv gvg.secondarySpIds.length :=
      Int.tdiv_nonneg (by omega) (Int.natCast_nonneg _)
    rw [Int.neg_tdiv] at hshare
    rcases hcases with ⟨-, rfl⟩ | ⟨hpos, -⟩
    · exact hbal
    · omega
  · subst hfamily
    obtain ⟨hleft, hpaid⟩ := HasEarned.settleFamily h hT hs
    refine ⟨⟨hpaid, HasEarned.leaves hleft le_rfl⟩, ?_⟩
    rw [← htime] at hleft
    exact HasEarned.settle_nothing hleft
  · subst hfamily
    obtain ⟨p, x, hq, hcases⟩ := settleAndDistributeGVGFamily_eq_ok hs
    obtain ⟨hx, hbal⟩ := hnow.query_owing hT hq
    rcases hcases with ⟨-, rfl⟩ | ⟨hpos, -⟩
    · exact hbal
    · omega

/-- The account of a group that has earned one coin in each of seven seconds. -/
def earningState : State :=
  { twoProvidersState with
    payment := { twoProvidersState.payment with
      pool := 7
      streamRecords := SortedMap.empty.insert 50
        { Payment.newStreamRecord 993 with netflowRate := 1 } } }

def earningGroup : GlobalVirtualGroup where
  familyId := 1
  primarySpId := 3
  secondarySpIds := [1, 2]
  storedSize := 0
  virtualPaymentAddress := 50
  totalDeposit := 0

/-- Two secondaries share seven coins: three for each, and one is left. -/
theorem settlement_of_seven :
    ∃ s', earningState.settleAndDistributeGVG oneSecondaryCtx .gvgNotExist earningGroup = .ok s' ∧
      s'.payment.balance 202 = 1003 ∧
      PaysOut oneSecondaryCtx earningState s' 50 [some 201, some 202] 3 1 := by
  obtain ⟨s', hs', hbal⟩ : ∃ s', earningState.settleAndDistributeGVG oneSecondaryCtx .gvgNotExist
      earningGroup = .ok s' ∧ s'.payment.balance 202 = 1003 := by decide
  have hearns : Payment.HasEarned earningState.payment 50 oneSecondaryCtx.blockTime 7 :=
    ⟨_, rfl, rfl, by decide, by decide⟩
  have hall := (@settlement_exact oneSecondaryCtx oneSecondaryCtx earningState s' .gvgNotExist 50 7
    hearns rfl).1 earningGroup rfl (by decide) hs'
  exact ⟨s', hs', hbal, (hall.1 (by decide)).1⟩

end VirtualGroup
end Moca
