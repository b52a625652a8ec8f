/-
# The pool of the deposits

The module account holds exactly the deposits of the stored groups, and no deposit
is negative: `Backed` is kept by every message.  The ids of the groups come from a
`uint32` sequence that wraps around, so a creation may write over a stored group;
the deposit of that group is then in the account but belongs to no group.  This is
the one way in which the books can be broken.
-/

import Moca.VirtualGroup.DepositReturn

namespace Moca.VirtualGroup

open SortedMap

variable {ctx : Ctx} {s s' : State} {gvg : GlobalVirtualGroup} {storageProvider : Addr}
  {coin : Coin} {gvgID : ℕ} {p : Params}

/-- The sum of the deposits of the stored groups. -/
def State.totalDeposits (s : State) : ℤ := s.gvgs.sum fun _ gvg => gvg.totalDeposit

/-- **The books of the deposits.**  The stored sizes are those of an `int64`, which is how the
available tokens are computed from them. -/
structure Backed (s : State) : Prop where
  foreign : s.Foreign
  pool : s.depositPool = s.totalDeposits
  nonneg : ∀ id gvg, s.gvgs.find? id = some gvg → 0 ≤ gvg.totalDeposit
  size : ∀ id gvg, s.gvgs.find? id = some gvg → gvg.storedSize < 2 ^ 63
  staking : 0 < s.params.gvgStakingPerBytes

/-! ### The kinds of writes -/

/-- **One group is written.**  The books are kept if its deposit changes by what the account
gets. -/
theorem Backed.insert (hb : Backed s) {id : ℕ} (hgvgs : s'.gvgs = s.gvgs.insert id gvg)
    (hfamilies : ∀ i f, s'.families.find? i = some f → f.virtualPaymentAddress ≠ moduleAddress)
    (hsp : s'.sp = s.sp) (hstaking : s'.params.gvgStakingPerBytes = s.params.gvgStakingPerBytes)
    (haddr : gvg.virtualPaymentAddress ≠ moduleAddress) (hnonneg : 0 ≤ gvg.totalDeposit)
    (hsize : gvg.storedSize < 2 ^ 63)
    (hpool : s'.depositPool =
      s.depositPool + gvg.totalDeposit - (s.gvgs.find? id).elim 0 fun g => g.totalDeposit) :
    Backed s' where
  foreign := by
    refine ⟨hsp ▸ hb.foreign.funding, ?_, hfamilies⟩
    rw [hgvgs]
    exact forall_insert haddr fun i g _ => hb.foreign.group i g
  pool := by
    have hsum := s.gvgs.sum_insert (fun _ gvg => gvg.totalDeposit) id gvg
    have hold := hb.pool
    unfold State.totalDeposits at hold ⊢
    rw [hgvgs]
    omega
  nonneg := by
    rw [hgvgs]
    exact forall_insert hnonneg fun i g _ => hb.nonneg i g
  size := by
    rw [hgvgs]
    exact forall_insert hsize fun i g _ => hb.size i g
  staking := hstaking ▸ hb.staking

/-- **The messages that do not change a deposit** keep the books. -/
theorem Backed.kept (hb : Backed s) (h : Kept s s') : Backed s' := by
  refine ⟨h.foreign hb.foreign, ?_, fun id gvg' hgvg => ?_, fun id gvg' hgvg => ?_,
    h.staking ▸ hb.staking⟩
  · rw [h.pool hb.foreign, hb.pool]
    refine sum_eq_of_summands fun id => ?_
    cases hnew : s'.gvgs.find? id with
    | none =>
      have hgroup := h.groups id
      rw [hnew, Option.map_none] at hgroup
      rw [Option.map_eq_none_iff.1 hgroup.symm]
    | some gvg' =>
      obtain ⟨gvg, hold, hbooks⟩ := h.exists_group hnew
      rw [hold]
      exact congrArg Prod.fst hbooks
  · obtain ⟨gvg, hold, hbooks⟩ := h.exists_group hgvg
    have hdeposit : gvg.totalDeposit = gvg'.totalDeposit := congrArg Prod.fst hbooks
    exact hdeposit ▸ hb.nonneg id gvg hold
  · obtain ⟨gvg, hold, hbooks⟩ := h.exists_group hgvg
    have hsize : gvg.storedSize = gvg'.storedSize := congrArg (fun b => b.2.1) hbooks
    exact hsize ▸ hb.size id gvg hold

/-! ### Runs -/

/-- The assumptions on a step: nobody sends coins to the module account directly, which is no
derived address; and the next id of the sequence is not that of a stored group. -/
def DepositStep (s : State) (l : Ctx × Op) : Prop :=
  (∀ id, l.1.deriveGVG id ≠ moduleAddress) ∧ (∀ id, l.1.deriveFamily id ≠ moduleAddress) ∧
  match l.2 with
  | .createGlobalVirtualGroup _ _ _ _ => s.gvgs.find? (inc32 s.gvgSequence) = none
  | .sp store => ∀ id sp, store.getStorageProvider id = some sp → sp.fundingAddress ≠ moduleAddress
  | .payment op => ∀ p, op.run l.1.toCtx s.payment = .ok p →
    p.balance moduleAddress = s.payment.balance moduleAddress
  | .storedSize _ size => size < 2 ^ 63
  | _ => True

section

variable (hb : Backed s)
include hb

theorem Backed.create {familyID : ℕ} {ids : List ℕ}
    (h : createGlobalVirtualGroup ctx s storageProvider familyID ids coin = .ok s')
    (hstep : DepositStep s (ctx, .createGlobalVirtualGroup storageProvider familyID ids coin)) :
    Backed s' := by
  obtain ⟨hgvg, hfamily, hfresh⟩ := hstep
  obtain ⟨sp, id, family, gvg, hsp, hcreated, hfunded⟩ := createGlobalVirtualGroup_eq_ok h
  refine hb.insert hcreated.gvgs ?_ hcreated.sp (by rw [hfunded.params]) (hfunded.address ▸ hgvg _)
    (hfunded.deposit ▸ hfunded.pos.le) (hfunded.size ▸ Nat.two_pow_pos 63) ?_
  · rw [hcreated.families]
    refine forall_insert ?_ fun i f _ => hb.foreign.family i f
    rcases hcreated.join with ⟨-, -, -, rfl⟩ | ⟨-, -, -, hold⟩
    · exact hfamily _
    · exact hb.foreign.family id family hold
  · rw [hfunded.pool (hb.foreign.funding _ _ (getStorageProvider_of_operator hsp)),
      hcreated.gvgSequence, hfresh, hfunded.deposit]
    exact (sub_zero _).symm

theorem Backed.delete {sp : Sp.StorageProvider} (h : s.deleteGVG ctx sp gvgID = .ok s')
    (hsp : sp.fundingAddress ≠ moduleAddress) : Backed s' := by
  obtain ⟨gvg, family, ⟨hgvg, hfamily, -, -, -, -, -⟩, -, -, -, heq, -, hpool⟩ := deleteGVG_eq_ok h
  have hgvgs : ∀ id g, s'.gvgs.find? id = some g → s.gvgs.find? id = some g := by
    intro id g hg
    rw [heq] at hg
    exact find?_of_erase hg
  refine ⟨⟨?_, fun id g hg => hb.foreign.group id g (hgvgs id g hg), ?_⟩, ?_,
    fun id g hg => hb.nonneg id g (hgvgs id g hg), fun id g hg => hb.size id g (hgvgs id g hg), ?_⟩
  · rw [heq]
    exact hb.foreign.funding
  · rw [heq]
    refine forall_insert ?_ fun id f _ => hb.foreign.family id f
    exact hb.foreign.family gvg.familyId family hfamily
  · have hsum := s.gvgs.sum_erase (fun _ gvg => gvg.totalDeposit) gvgID
    rw [hgvg] at hsum
    have hold := hb.pool
    rw [hpool hsp]
    unfold State.totalDeposits at hold ⊢
    rw [heq]
    dsimp only [Option.elim] at hsum ⊢
    omega
  · rw [heq]
    exact hb.staking

theorem Backed.deposit (h : VirtualGroup.deposit s storageProvider gvgID coin = .ok s') :
    Backed s' := by
  obtain ⟨gvg, sp, hgvg, hsp, hpos, heq, -, hpool⟩ := deposit_eq_ok h
  have hgvgs : s'.gvgs = s.gvgs.insert gvgID
      { gvg with totalDeposit := gvg.totalDeposit + coin.amount } := by rw [heq]
  refine hb.insert hgvgs ?_ (by rw [heq]) (by rw [heq]) (hb.foreign.group gvgID gvg hgvg) ?_
    (hb.size gvgID gvg hgvg) ?_
  · rw [heq]
    exact hb.foreign.family
  · exact add_nonneg (hb.nonneg gvgID gvg hgvg) hpos.le
  · rw [hpool (hb.foreign.funding _ _ hsp), hgvg]
    dsimp only [Option.elim]
    omega

/-- What is available for a withdrawal is no more than the deposit. -/
theorem Backed.available_le (hgvg : s.gvgs.find? gvgID = some gvg) :
    s.getAvailableStakingTokens gvg ≤ gvg.totalDeposit := by
  unfold State.getAvailableStakingTokens
  have hsize := hb.size gvgID gvg hgvg
  rw [int64_eq_self (by omega) (by omega)]
  have hbound : 0 ≤ s.params.gvgStakingPerBytes * (gvg.storedSize : ℤ) :=
    Int.mul_nonneg hb.staking.le (Int.natCast_nonneg _)
  omega

theorem Backed.withdraw (h : VirtualGroup.withdraw ctx s storageProvider gvgID coin = .ok s') :
    Backed s' := by
  obtain ⟨gvg, sp, hgvg, hsp, hpos, havail, heq, -, hpool⟩ := withdraw_eq_ok h
  have hgvgs : s'.gvgs = s.gvgs.insert gvgID
      { gvg with totalDeposit := gvg.totalDeposit - coin.amount } := by rw [heq]
  refine hb.insert hgvgs ?_ (by rw [heq]) (by rw [heq]) (hb.foreign.group gvgID gvg hgvg) ?_
    (hb.size gvgID gvg hgvg) ?_
  · rw [heq]
    exact hb.foreign.family
  · have hle := hb.available_le hgvg
    dsimp only
    omega
  · rw [hpool (hb.foreign.funding _ _ hsp), hgvg]
    dsimp only [Option.elim]
    omega

/-- **Every message keeps the books.** -/
theorem Backed.run {op : Op} (hstep : DepositStep s (ctx, op)) (h : op.run ctx s = .ok s') :
    Backed s' := by
  by_cases hop : op.rearranges = true
  · exact hb.kept (run_kept hop h)
  · cases op with
    | createGlobalVirtualGroup _ _ _ _ => exact hb.create h hstep
    | deleteGlobalVirtualGroup _ _ =>
      obtain ⟨sp, hsp, h⟩ := bind_eq_ok.1 h
      exact hb.delete h (hb.foreign.funding _ _ (getStorageProvider_of_operator hsp))
    | deposit _ _ _ => exact hb.deposit h
    | withdraw _ _ _ => exact hb.withdraw h
    | sp store =>
      cases h
      exact ⟨⟨hstep.2.2, hb.foreign.group, hb.foreign.family⟩, hb.pool, hb.nonneg, hb.size,
        hb.staking⟩
    | payment op =>
      dsimp only [Op.run] at h
      split at h
      · rename_i p hp
        cases h
        exact ⟨⟨hb.foreign.funding, hb.foreign.group, hb.foreign.family⟩,
          (hstep.2.2 p hp).trans hb.pool, hb.nonneg, hb.size, hb.staking⟩
      · cases h
        exact hb
    | storedSize gvgID size =>
      dsimp only [Op.run] at h
      split at h
      · cases h
        exact hb
      · rename_i gvg hgvg
        cases h
        have hgvgs : (s.setGVG gvgID { gvg with storedSize := size }).gvgs =
            s.gvgs.insert gvgID { gvg with storedSize := size } := rfl
        refine hb.insert hgvgs hb.foreign.family rfl rfl
          (hb.foreign.group gvgID gvg hgvg) (hb.nonneg gvgID gvg hgvg) hstep.2.2 ?_
        rw [hgvg]
        exact (add_sub_cancel_right _ _).symm
    | _ => exact absurd rfl hop

end

theorem Params.staking_pos (hp : p.validate = true) : 0 < p.gvgStakingPerBytes := by
  unfold Params.validate at hp
  simp only [Bool.and_eq_true, decide_eq_true_eq] at hp
  exact hp.1.1.1.1

theorem Backed.empty {sp : Sp.Store} {payment : Payment.State} (hp : p.validate = true)
    (hsp : ∀ id x, sp.getStorageProvider id = some x → x.fundingAddress ≠ moduleAddress)
    (hpayment : payment.balance moduleAddress = 0) : Backed (State.empty p sp payment) where
  foreign := ⟨hsp, by simp [State.empty], by simp [State.empty]⟩
  pool := hpayment
  nonneg := by simp [State.empty]
  size := by simp [State.empty]
  staking := Params.staking_pos hp

theorem Backed.reachable {s₀ : State} (h₀ : Backed s₀)
    (hreach : Reachable State.step DepositStep s₀ s) : Backed s := by
  refine hreach.invariant Backed h₀ fun s₁ l s₂ hb hstep h => ?_
  unfold State.step at h
  split at h
  · rename_i s₃ hrun
    cases h
    exact hb.run hstep hrun
  · cases h
    exact hb

/-- **The pool of the deposits.**  From genesis on, as long as no creation writes over a stored
group, the module account holds exactly the deposits of the groups, and none is negative. -/
theorem deposit_pool_eq (p : Params) (sp : Sp.Store) (payment : Payment.State)
    (hp : p.validate = true)
    (hsp : ∀ id x, sp.getStorageProvider id = some x → x.fundingAddress ≠ moduleAddress)
    (hpayment : payment.balance moduleAddress = 0) (s : State)
    (hreach : Reachable State.step DepositStep (State.empty p sp payment) s) :
    s.depositPool = s.totalDeposits ∧
      ∀ id gvg, s.gvgs.find? id = some gvg → 0 ≤ gvg.totalDeposit := by
  have hb := (Backed.empty hp hsp hpayment).reachable hreach
  exact ⟨hb.pool, hb.nonneg⟩

theorem twoProviders_foreign (id : ℕ) (sp : Sp.StorageProvider)
    (h : twoProviders.getStorageProvider id = some sp) : sp.fundingAddress ≠ moduleAddress := by
  have hall : ∀ e ∈ twoProviders.providers.entries, e.2.fundingAddress ≠ moduleAddress := by decide
  exact hall (id, sp) (find?_eq_some_iff.1 h)

/-- Addresses derived for groups and families, none of which is the module account. -/
def foreignCtx : Ctx where
  blockTime := 1000
  expectSecondarySPNum := 1
  deriveGVG _ := 1
  deriveFamily _ := 2

theorem foreignCtx_group (id : ℕ) : foreignCtx.deriveGVG id ≠ moduleAddress :=
  show (1 : ℕ) ≠ moduleAddress by decide

theorem foreignCtx_family (id : ℕ) : foreignCtx.deriveFamily id ≠ moduleAddress :=
  show (2 : ℕ) ≠ moduleAddress by decide

/-- The first provider creates a group of its own in a new family. -/
def createOne : Ctx × Op := (foreignCtx, .createGlobalVirtualGroup 101 0 [2] ⟨"amoca", 1⟩)

/-- A deposit of 7 and a withdrawal of 3. -/
theorem deposit_pool_eq_five :
    ∃ s, runSteps State.step twoProvidersState
        [createOne, (foreignCtx, .deposit 101 1 ⟨"amoca", 7⟩),
          (foreignCtx, .withdraw 101 1 ⟨"amoca", 3⟩)] = some s ∧
      s.depositPool = 5 ∧ s.depositPool = s.totalDeposits := by
  refine Option.exists_some_of (fun s => s.depositPool = 5) (by decide) fun s hs hpool => ⟨hpool, ?_⟩
  have hreach : Reachable State.step DepositStep twoProvidersState s := by
    refine Reachable.of_runSteps .start ?_ hs
    refine ⟨⟨foreignCtx_group, foreignCtx_family, rfl⟩, fun s₁ _ => ?_⟩
    refine ⟨⟨foreignCtx_group, foreignCtx_family, trivial⟩, fun s₂ _ => ?_⟩
    exact ⟨⟨foreignCtx_group, foreignCtx_family, trivial⟩, fun _ _ => trivial⟩
  exact (deposit_pool_eq _ _ _ (by decide) twoProviders_foreign (by decide) s hreach).1

/-! ### A sequence that wraps around -/

/-- The funding address of the first provider has coins for all ids of the sequence. -/
def richProviderState : State :=
  State.empty defaultParams twoProviders
    (Payment.State.empty Payment.defaultParams fun a => if a = 201 then 2 ^ 33 else 0)

theorem sendOne_ok (hcoins : 1 ≤ s.payment.balance 201) :
    ∃ s', s.sendCoinsFromAccountToModule 201 1 = .ok s' ∧
      s'.payment.balance 201 = s.payment.balance 201 - 1 := by
  unfold State.sendCoinsFromAccountToModule State.sendCoins
  rw [if_neg (by decide), if_neg (not_lt.2 hcoins)]
  refine ⟨_, rfl, ?_⟩
  dsimp only
  rw [Function.update_of_ne (by decide), Function.update_self]

/-- A creation succeeds as long as there are coins. -/
theorem createOne_ok (hsp : s.sp = twoProviders)
    (hcoins : 1 ≤ s.payment.balance 201) :
    ∃ s', s.step createOne = some s' ∧
      createGlobalVirtualGroup foreignCtx s 101 0 [2] ⟨"amoca", 1⟩ = .ok s' ∧
      s'.payment.balance 201 = s.payment.balance 201 - 1 := by
  have hop : s.operator 101 = .ok ⟨1, 101, 201, 301, 0, .inService⟩ := by
    rw [operator_eq_ok, hsp]
    decide
  have hsecondary : s.secondaryStat ⟨1, 101, 201, 301, 0, .inService⟩ 2 =
      .ok (2, { s.getOrCreateGVGStatisticsWithinSP 2 with
        secondaryCount := inc32 (s.getOrCreateGVGStatisticsWithinSP 2).secondaryCount }) := by
    have hfind : s.sp.getStorageProvider 2 = some ⟨2, 102, 202, 302, 0, .inService⟩ := by
      rw [hsp]
      decide
    unfold State.secondaryStat
    rw [hfind]
    rfl
  have hstats : [2].mapM (s.secondaryStat ⟨1, 101, 201, 301, 0, .inService⟩) =
      .ok [(2, { s.getOrCreateGVGStatisticsWithinSP 2 with
        secondaryCount := inc32 (s.getOrCreateGVGStatisticsWithinSP 2).secondaryCount })] := by
    rw [List.mapM_cons, hsecondary]
    rfl
  have hrun : ∃ s', createGlobalVirtualGroup foreignCtx s 101 0 [2] ⟨"amoca", 1⟩ = .ok s' ∧
      s'.payment.balance 201 = s.payment.balance 201 - 1 := by
    refine exists_bind_eq_ok (a := ()) rfl ?_
    refine exists_bind_eq_ok hop ?_
    refine exists_bind_eq_ok hstats ?_
    refine exists_bind_eq_ok rfl ?_
    refine exists_bind_eq_ok (a := ()) rfl ?_
    dsimp only
    rw [List.length_nil, if_neg (Nat.not_lt_zero _)]
    obtain ⟨s₁, hs₁, hbal⟩ := sendOne_ok (s := { s with
      gvgFamilySequence := inc32 s.gvgFamilySequence
      gvgFamilyStatistics := s.gvgFamilyStatistics.insert 1
        (s.getOrCreateGVGFamilyStatisticsWithinSP 1 ++ [inc32 s.gvgFamilySequence]) }) hcoins
    refine exists_bind_eq_ok hs₁ ⟨_, rfl, ?_⟩
    rw [batchSetGVGStatisticsWithinSP_eq]
    exact hbal
  obtain ⟨s', hs', hbal⟩ := hrun
  refine ⟨s', ?_, hs', hbal⟩
  unfold State.step createOne
  dsimp only [Op.run]
  rw [hs']

/-- What a creation does in this run. -/
theorem createOne_eq (hsp : s.sp = twoProviders) (hcoins : 1 ≤ s.payment.balance 201) :
    ∃ s' gvg, s.step createOne = some s' ∧ s'.sp = twoProviders ∧
      s'.payment.balance 201 = s.payment.balance 201 - 1 ∧
      s'.gvgSequence = inc32 s.gvgSequence ∧ gvg.totalDeposit = 1 ∧
      s'.gvgs = s.gvgs.insert (inc32 s.gvgSequence) gvg ∧
      s'.depositPool = s.depositPool + 1 := by
  obtain ⟨s', hstep, hrun, hbal⟩ := createOne_ok hsp hcoins
  obtain ⟨sp, id, family, gvg, hop, hcreated, hfunded⟩ := createGlobalVirtualGroup_eq_ok hrun
  have hfunding : sp.fundingAddress ≠ moduleAddress := by
    have hstored := getStorageProvider_of_operator hop
    rw [hsp] at hstored
    exact twoProviders_foreign _ _ hstored
  exact ⟨s', gvg, hstep, hcreated.sp.trans hsp, hbal, hcreated.gvgSequence, hfunded.deposit,
    hcreated.gvgSequence ▸ hcreated.gvgs, hfunded.pool hfunding⟩

/-- After some creations the ids up to the sequence are taken, each with a deposit of one. -/
theorem createOne_many (n : ℕ) (hn : n < 2 ^ 32) :
    ∃ s, Reachable State.step DepositStep richProviderState s ∧ s.sp = twoProviders ∧
      s.payment.balance 201 = 2 ^ 33 - n ∧ s.gvgSequence = n ∧
      (∀ id gvg, s.gvgs.find? id = some gvg → 1 ≤ id ∧ id ≤ n) ∧
      (1 ≤ n → ∃ gvg, s.gvgs.find? 1 = some gvg ∧ gvg.totalDeposit = 1) := by
  induction n with
  | zero =>
    refine ⟨richProviderState, .start, rfl, rfl, rfl, ?_, fun h => absurd h (by decide)⟩
    simp [richProviderState, State.empty]
  | succ n ih =>
    obtain ⟨s, hreach, hsp, hbal, hseq, hids, hone⟩ := ih (by omega)
    obtain ⟨s', gvg, hstep, hsp', hbal', hseq', hdep, hgvgs, -⟩ :=
      createOne_eq hsp (by omega)
    have hnext : inc32 s.gvgSequence = n + 1 := by
      rw [hseq]
      exact Nat.mod_eq_of_lt hn
    rw [hnext] at hseq' hgvgs
    have hfresh : s.gvgs.find? (n + 1) = none := by
      cases hfind : s.gvgs.find? (n + 1) with
      | none => rfl
      | some g =>
        have := hids _ _ hfind
        omega
    refine ⟨s', hreach.next ⟨foreignCtx_group, foreignCtx_family, ?_⟩ hstep, hsp', by omega, hseq',
      fun id g hg => ?_, fun _ => ?_⟩
    · show s.gvgs.find? (inc32 s.gvgSequence) = none
      rw [hnext, hfresh]
    · rw [hgvgs, find?_insert] at hg
      split_ifs at hg with hid
      · omega
      · have := hids id g hg
        omega
    · rw [hgvgs, find?_insert]
      split_ifs with hid
      · exact ⟨gvg, rfl, hdep⟩
      · exact hone (by omega)

/-- **A sequence that has wrapped around breaks the books.**  After `2 ^ 32` creations the next one
writes over group 1, whose deposit stays in the account. -/
theorem deposit_pool_overwritten :
    ∃ s, Reachable State.step (fun _ _ => True) richProviderState s ∧
      s.depositPool = s.totalDeposits + 1 := by
  obtain ⟨s, hreach, hsp, hbal, hseq, hids, hone⟩ := createOne_many (2 ^ 32 - 1) (by decide)
  obtain ⟨g₁, hfind₁, hdep₁⟩ := hone (by decide)
  -- the last id of the sequence is 0
  obtain ⟨s₁, gvg₁, hstep₁, hsp₁, hbal₁, hseq₁, -, hgvgs₁, -⟩ := createOne_eq hsp (by omega)
  have hzero : inc32 s.gvgSequence = 0 := by
    rw [hseq]
    decide
  rw [hzero] at hseq₁ hgvgs₁
  have hfresh : s.gvgs.find? 0 = none := by
    cases hfind : s.gvgs.find? 0 with
    | none => rfl
    | some g => exact absurd (hids _ _ hfind).1 (by decide)
  have hreach₁ : Reachable State.step DepositStep richProviderState s₁ := by
    refine hreach.next ⟨foreignCtx_group, foreignCtx_family, ?_⟩ hstep₁
    show s.gvgs.find? (inc32 s.gvgSequence) = none
    rw [hzero, hfresh]
  have hb : Backed s₁ :=
    (Backed.empty (by decide) twoProviders_foreign (by decide)).reachable hreach₁
  -- and the next one is 1 again
  obtain ⟨s₂, gvg₂, hstep₂, -, -, -, hdep₂, hgvgs₂, hpool₂⟩ := createOne_eq hsp₁ (by omega)
  have hnext : inc32 s₁.gvgSequence = 1 := by
    rw [hseq₁]
    decide
  rw [hnext] at hgvgs₂
  have hfind : s₁.gvgs.find? 1 = some g₁ := by
    rw [hgvgs₁, find?_insert_of_ne _ _ (by decide), hfind₁]
  refine ⟨s₂, ?_, ?_⟩
  · refine Reachable.next (a := createOne) ?_ trivial hstep₂
    exact hreach₁.mono fun _ _ _ => trivial
  · have hsum := s₁.gvgs.sum_insert (fun _ gvg => gvg.totalDeposit) 1 gvg₂
    have hpool := hb.pool
    unfold State.totalDeposits at hpool ⊢
    rw [hfind] at hsum
    dsimp only [Option.elim] at hsum
    rw [hgvgs₂, hpool₂]
    omega

end Moca.VirtualGroup
