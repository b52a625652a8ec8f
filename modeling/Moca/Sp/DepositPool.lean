/-
# The deposits and the module account

The module account of `x/sp` holds the deposits of the providers.  `CreateStorageProvider`
and `Deposit` pay into it, `Slash` pays rewards out of the deposit of one provider, and
`CompleteStorageProviderExit` of `x/virtualgroup` pays the deposit of a provider back, or
to the governance account.

`InitGenesis` stores the providers of the genesis state, and checks that the module account
has their deposits, but does not set the id sequence: the next provider that joins may get
the id of one of them, and its record and deposit are written over
(`genesis_provider_overwritten`).  While the next id is unused whenever a provider joins,
and the module account funds no provider, the module account has what the providers have
deposited (`deposit_pool_backed`).
-/

import Moca.Sp.Exit
import Moca.Sp.Ledger

namespace Moca.Sp

open SortedMap Function

section Pool

variable {ctx : Ctx} {s s' s₁ : State} {n n' : ℤ} {rewardInfos : List RewardInfo} {spID : ℕ}

/-! ### The bank -/

/-- **A transfer** takes from the sender what the recipient gets. -/
theorem sendCoins_balance {sender recipient : Addr} {amount : ℤ}
    (h : s.sendCoins sender recipient amount = .ok s') :
    0 ≤ amount ∧ (sender ≠ recipient →
      s'.balance sender = s.balance sender - amount ∧
        s'.balance recipient = s.balance recipient + amount) := by
  unfold State.sendCoins at h
  split_ifs at h with hneg hlow
  cases h
  refine ⟨not_lt.1 hneg, fun hne => ⟨?_, ?_⟩⟩
  · show Function.update _ recipient _ sender = _
    rw [update_of_ne hne, update_self]
  · show Function.update _ recipient _ recipient = _
    rw [update_self, update_of_ne hne.symm]

/-- The sum of rewards. -/
def rewardSum (rewardInfos : List RewardInfo) : ℤ :=
  (rewardInfos.map fun info => info.amount.amount).sum

theorem totalReward_eq_ok {denom : String} :
    ∀ {rewardInfos : List RewardInfo} {total total' : ℤ},
      totalReward denom rewardInfos total = .ok total' → total' = total + rewardSum rewardInfos
  | [], total, total', h => by
    cases h
    simp [rewardSum]
  | info :: rest, total, total', h => by
    rw [totalReward] at h
    split_ifs at h
    rw [totalReward_eq_ok h]
    simp only [rewardSum, List.map_cons, List.sum_cons]
    omega

/-- **The rewards of a slash** come out of the module account, to which the bank refuses to pay. -/
theorem rewards_balance (hblocked : ctx.blockedAddr moduleAddress = true) :
    ∀ {rewardInfos : List RewardInfo} {s s₁ : State},
      rewardInfos.foldlM (fun s info =>
        s.sendCoinsFromModuleToAccount ctx info.address info.amount.amount) s = .ok s₁ →
      s₁.balance moduleAddress = s.balance moduleAddress - rewardSum rewardInfos
  | [], s, s₁, h => by
    cases h
    simp [rewardSum]
  | info :: rest, s, s₁, h => by
    rw [List.foldlM_cons, bind_eq_ok] at h
    obtain ⟨s₂, hsend, hrest⟩ := h
    unfold State.sendCoinsFromModuleToAccount at hsend
    split_ifs at hsend with hrecipient
    have hne : moduleAddress ≠ info.address := fun heq => hrecipient (heq ▸ hblocked)
    have hfirst := ((sendCoins_balance hsend).2 hne).1
    rw [rewards_balance hblocked hrest, hfirst]
    simp only [rewardSum, List.map_cons, List.sum_cons]
    omega

/-! ### The pool -/

/-- **The providers have deposited `n`**, no deposit is negative, and the module account is
nobody's funding account. -/
structure State.Deposits (s : State) (n : ℤ) : Prop where
  total : n = s.accounts.sum fun _ a => a.2
  nonneg : ∀ id a, s.accounts.find? id = some a → 0 ≤ a.2
  funding : ∀ id a, s.accounts.find? id = some a → a.1 ≠ moduleAddress

/-- The module account has what the providers have deposited. -/
abbrev State.PoolOk (s : State) : Prop := s.Deposits (s.balance moduleAddress)

theorem State.Deposits.congr (h : s.Deposits n) (hn : n' = n) (haccounts : s'.accounts = s.accounts) :
    s'.Deposits n' where
  total := by rw [hn, haccounts]; exact h.total
  nonneg := by rw [haccounts]; exact h.nonneg
  funding := by rw [haccounts]; exact h.funding

/-- An account is written, and the difference is deposited. -/
theorem State.Deposits.write (h : s.Deposits n) {id : ℕ} {a : Addr × ℤ}
    (haccounts : s'.accounts = s.accounts.insert id a) (hdeposit : 0 ≤ a.2)
    (hfunding : a.1 ≠ moduleAddress)
    (hn : n' + (s.accounts.find? id).elim 0 (fun b => b.2) = n + a.2) : s'.Deposits n' where
  total := by
    have hsum := s.accounts.sum_insert (fun _ a => a.2) id a
    rw [haccounts]
    have htotal := h.total
    omega
  nonneg := by
    rw [haccounts]
    exact forall_insert hdeposit fun id a _ => h.nonneg id a
  funding := by
    rw [haccounts]
    exact forall_insert hfunding fun id a _ => h.funding id a

/-- **A provider joins** and pays its deposit. -/
theorem State.PoolOk.create {msg : MsgCreateStorageProvider} (h : s.PoolOk)
    (hunused : s.providers.find? (inc32 s.spSequence) = none)
    (hfunding : msg.fundingAddress ≠ moduleAddress)
    (hrun : createStorageProvider ctx s msg = .ok s') : s'.PoolOk := by
  obtain ⟨maintenanceAddress, s₁, -, -, hsend, rfl⟩ := createStorageProvider_eq_ok hrun
  have hs₁ := sendCoins_eq_ok hsend
  obtain ⟨hamount, hmoved⟩ := sendCoins_balance hsend
  have hid : inc32 s₁.spSequence = inc32 s.spSequence := by rw [hs₁]
  have hnew : s.accounts.find? (inc32 s.spSequence) = none := by
    rw [find?_accounts, hunused]
    rfl
  have haccounts : (State.register ctx { s₁ with spSequence := inc32 s₁.spSequence }
      (newStorageProvider ctx (inc32 s₁.spSequence) maintenanceAddress msg) msg).accounts =
      s.accounts.insert (inc32 s.spSequence) (msg.fundingAddress, msg.deposit.amount) := by
    have haccounts := accounts_setStorageProvider s₁
      (newStorageProvider ctx (inc32 s₁.spSequence) maintenanceAddress msg)
    have hsame : s₁.accounts = s.accounts := by
      rw [hs₁]
      rfl
    rw [hsame] at haccounts
    rw [← hid]
    exact haccounts
  refine h.write haccounts hamount hfunding ?_
  rw [hnew]
  show s₁.balance moduleAddress + 0 = _
  rw [(hmoved hfunding).2, add_zero]

/-- **A deposit.** -/
theorem State.PoolOk.deposit {creator spAddress : Addr} {coin : VirtualGroup.Coin} (h : s.PoolOk)
    (hrun : Sp.deposit s creator spAddress coin = .ok s') : s'.PoolOk := by
  obtain ⟨sp, s₁, hsp, hamount, hsend, rfl⟩ := deposit_eq_ok hrun
  have haccount := accounts_of_find? hsp
  have hfunding := h.funding _ _ haccount
  have hnonneg := h.nonneg _ _ haccount
  have hmoved := ((sendCoins_balance hsend).2 hfunding).2
  have hsame : s₁.accounts = s.accounts := by
    rw [sendCoins_eq_ok hsend]
    rfl
  refine h.write (a := (sp.fundingAddress, sp.totalDeposit + coin.amount))
    ((accounts_setStorageProvider s₁ _).trans (by rw [hsame]; rfl)) ?_ hfunding ?_
  · exact add_nonneg hnonneg hamount.le
  · rw [haccount]
    show s₁.balance moduleAddress + sp.totalDeposit = _
    rw [hmoved]
    dsimp only
    omega

/-- **A slash** takes from a provider what it pays out, which is at most its deposit. -/
theorem slash_pays (hblocked : ctx.blockedAddr moduleAddress = true)
    (hrun : s.slash ctx spID rewardInfos = .ok s') :
    ∃ sp, s.providers.find? spID = some sp ∧ rewardSum rewardInfos ≤ sp.totalDeposit ∧
      s'.balance moduleAddress = s.balance moduleAddress - rewardSum rewardInfos ∧
      s'.accounts = s.accounts.insert spID
        (sp.fundingAddress, sp.totalDeposit - rewardSum rewardInfos) := by
  obtain ⟨sp, total, s₁, rfl, hsp, htotal, hcovered, hpaid, rfl⟩ := slash_eq_ok hrun
  have hsame : s₁.accounts = s.accounts := by
    rw [rewards_eq_ok hpaid]
    rfl
  have hsum := totalReward_eq_ok htotal
  rw [zero_add] at hsum
  rw [← hsum]
  refine ⟨sp, hsp, hcovered, ?_, ?_⟩
  · show s₁.balance moduleAddress = _
    rw [hsum]
    exact rewards_balance hblocked hpaid
  · rw [accounts_setStorageProvider, hsame]
    rfl

theorem State.PoolOk.slash (h : s.PoolOk) (hblocked : ctx.blockedAddr moduleAddress = true)
    (hrun : s.slash ctx spID rewardInfos = .ok s') : s'.PoolOk := by
  obtain ⟨sp, hsp, hcovered, hbalance, haccounts⟩ := slash_pays hblocked hrun
  have haccount := accounts_of_find? hsp
  have hfunding : sp.fundingAddress ≠ moduleAddress := h.funding _ _ haccount
  refine h.write haccounts (sub_nonneg.2 hcovered) hfunding ?_
  rw [haccount, hbalance]
  show s.balance moduleAddress - rewardSum rewardInfos + sp.totalDeposit = _
  omega

/-- **A provider is removed**, and the module account has paid its deposit. -/
theorem State.PoolOk.exit (h : s.PoolOk) {sp : Provider} (hsp : s.providers.find? sp.id = some sp)
    (haccounts : s'.accounts = s.accounts.erase sp.id)
    (hbalance : s'.balance moduleAddress = s.balance moduleAddress - sp.totalDeposit) :
    s'.PoolOk where
  total := by
    have hsum := sum_erase_of_some (accounts_of_find? hsp) fun _ (a : Addr × ℤ) => a.2
    have htotal := h.total
    have haccount : sp.account.2 = sp.totalDeposit := rfl
    rw [haccounts]
    omega
  nonneg id a ha := h.nonneg id a (find?_of_erase (haccounts ▸ ha))
  funding id a ha := h.funding id a (find?_of_erase (haccounts ▸ ha))

/-! ### Genesis -/

/-- The providers of a genesis state have different ids and no negative deposits, and are not
funded by the module account. -/
structure GenesisState.Sound (g : GenesisState) : Prop where
  ids : g.storageProviders.Pairwise fun sp sp' => sp.id ≠ sp'.id
  nonneg : ∀ sp ∈ g.storageProviders, 0 ≤ sp.totalDeposit
  funding : ∀ sp ∈ g.storageProviders, sp.fundingAddress ≠ moduleAddress

/-- **The loop of `InitGenesis`** adds up what the providers have deposited. -/
theorem State.Deposits.initProviders {l : List Provider}
    (hids : l.Pairwise fun sp sp' => sp.id ≠ sp'.id)
    (hl : ∀ sp ∈ l, 0 ≤ sp.totalDeposit ∧ sp.fundingAddress ≠ moduleAddress) {s s' : State}
    (h : s.Deposits n) (hnew : ∀ sp ∈ l, s.accounts.find? sp.id = none)
    (hrun : l.foldlM initProvider (s, n) = .ok (s', n')) : s'.Deposits n' := by
  induction l generalizing s n with
  | nil =>
    cases hrun
    exact h
  | cons sp l ih =>
    rw [List.foldlM_cons] at hrun
    obtain ⟨⟨s₁, n₁⟩, hsp, hrun⟩ := bind_eq_ok.1 hrun
    unfold initProvider at hsp
    split_ifs at hsp
    cases hsp
    have haccounts := accounts_setStorageProvider s sp
    obtain ⟨hdeposit, hfunding⟩ := hl sp List.mem_cons_self
    refine ih hids.of_cons (fun sp' hsp' => hl sp' (List.mem_cons_of_mem _ hsp'))
      (h.write haccounts hdeposit hfunding ?_) (fun sp' hsp' => ?_) hrun
    · rw [hnew sp List.mem_cons_self, Option.elim_none, add_zero]
      rfl
    · rw [haccounts, find?_insert_of_ne _ _ (List.rel_of_pairwise_cons hids hsp').symm]
      exact hnew sp' (List.mem_cons_of_mem _ hsp')

theorem State.Deposits.empty (p : Params) (balance : Addr → ℤ) :
    (State.empty p balance).Deposits 0 where
  total := rfl
  nonneg id a ha := by simp [find?_accounts, State.empty] at ha
  funding id a ha := by simp [find?_accounts, State.empty] at ha

/-- **`InitGenesis`** checks that the module account has the deposits. -/
theorem State.PoolOk.initGenesis {b : Addr → ℤ} {g : GenesisState} (hg : g.Sound)
    (h : Sp.initGenesis b g = .ok s) : s.PoolOk := by
  obtain ⟨s₀, hparams, h⟩ := bind_eq_ok.1 h
  obtain ⟨⟨s₁, n⟩, hloop, h⟩ := bind_eq_ok.1 h
  dsimp only at h
  split_ifs at h with hneg hpool
  cases h
  unfold updateParams at hparams
  split_ifs at hparams
  cases hparams
  have hdeposits := (State.Deposits.empty g.params b).initProviders hg.ids
    (fun sp hsp => ⟨hg.nonneg sp hsp, hg.funding sp hsp⟩)
    (fun sp _ => by simp [find?_accounts, State.empty]) hloop
  exact hdeposits.congr (not_not.1 hpool) rfl

end Pool

/-! ### Runs of the two modules -/

variable {s s' : System}

/-- **`CompleteStorageProviderExit`** pays the deposit of the provider to its funding account or to
the governance account, and removes the provider. -/
theorem completeExit_eq_ok {ctx : BlockCtx} {addr : Addr} {vg : VirtualGroup.State}
    (h : VirtualGroup.completeStorageProviderExit ctx.virtualGroup s.view addr = .ok vg) :
    ∃ sp, s.sp.providers.find? sp.id = some sp ∧
      s.sp.afterCall ctx.sp (.completeStorageProviderExit addr) = s.sp.exit sp ∧
      (sp.fundingAddress ≠ moduleAddress →
        vg.payment.balance moduleAddress = s.sp.balance moduleAddress - sp.totalDeposit) := by
  obtain ⟨sp, hsp, h⟩ := bind_eq_ok.1 h
  obtain ⟨sp', hsp', rfl⟩ := operator_view hsp
  split at h
  · simp at h
  obtain ⟨_, -, h⟩ := bind_eq_ok.1 h
  have hrecipient : sp'.fundingAddress ≠ moduleAddress →
      (if sp'.toStorageProvider.status = .gracefulExiting then
        sp'.toStorageProvider.fundingAddress else Payment.governanceAddress) ≠ moduleAddress := by
    intro hfunding
    split_ifs
    · exact hfunding
    · decide
  generalize (if sp'.toStorageProvider.status = .gracefulExiting then
    sp'.toStorageProvider.fundingAddress else Payment.governanceAddress) = recipient at h hrecipient
  dsimp only at h
  split at h
  · simp at h
  obtain ⟨s₁, hsend, h⟩ := bind_eq_ok.1 h
  cases h
  refine ⟨sp', (lookup_eq_some hsp').2, ?_, fun hfunding => ?_⟩
  · simp only [State.afterCall, providerCall, Op.run, hsp', Except.toOption, Option.getD_some]
  · unfold VirtualGroup.State.sendCoins at hsend
    split_ifs at hsend
    cases hsend
    show Function.update _ recipient _ moduleAddress = _
    rw [update_of_ne (hrecipient hfunding).symm, update_self]
    rfl

/-- What the steps of a run have to meet: a provider that joins gets an unused id, the module
account funds no provider, the denomination of the deposits stays, and the bank refuses to pay to the module account.  The
steps of `x/virtualgroup` and `x/payment` that have nothing to do with the deposits of providers do
not send coins to the module account. -/
def PoolGuard (s : System) (l : BlockCtx × SystemOp) : Prop :=
  match l.2 with
  | .sp (.createStorageProvider msg) =>
    s.sp.providers.find? (inc32 s.sp.spSequence) = none ∧ msg.fundingAddress ≠ moduleAddress
  | .sp (.slash _ _) => l.1.sp.blockedAddr moduleAddress = true
  | .sp (.updateParams p) => p.depositDenom = s.sp.params.depositDenom
  | .sp _ => True
  | .virtualGroup (.completeStorageProviderExit _) => True
  | .virtualGroup op => ∀ vg, op.run l.1.virtualGroup s.view = .ok vg →
      vg.payment.balance moduleAddress = s.sp.balance moduleAddress

/-- A step of `x/virtualgroup` other than the removal of a provider changes no deposit. -/
theorem afterCall_accounts {ctx : Ctx} {op : VirtualGroup.Op} {sp : State}
    (hop : ∀ addr, op ≠ .completeStorageProviderExit addr) :
    (sp.afterCall ctx op).accounts = sp.accounts := by
  unfold State.afterCall
  split
  · rfl
  · rename_i call hcall
    have hquiet : call.isQuiet = true := by
      cases op with
      | storageProviderExit _ =>
        cases hcall
        rfl
      | storageProviderForcedExit _ =>
        cases hcall
        rfl
      | completeStorageProviderExit addr => exact absurd rfl (hop addr)
      | _ => cases hcall
    cases hrun : call.run ctx sp with
    | error e => rfl
    | ok sp' => exact (run_sameLedger hquiet hrun).accounts

/-- **A step keeps the pool.** -/
theorem State.PoolOk.step {l : BlockCtx × SystemOp} (h : s.sp.PoolOk) (hguard : PoolGuard s l)
    (hstep : s.step l = some s') : s'.sp.PoolOk := by
  obtain ⟨ctx, op⟩ := l
  unfold System.step at hstep
  cases op with
  | sp op =>
    dsimp only at hstep
    split_ifs at hstep with hown
    split at hstep
    · rename_i sp hrun
      cases hstep
      cases op with
      | createStorageProvider msg => exact State.PoolOk.create h hguard.1 hguard.2 hrun
      | deposit creator spAddress coin => exact State.PoolOk.deposit h hrun
      | slash spID rewardInfos => exact State.PoolOk.slash h hguard hrun
      | exit operatorAddr => simp [Op.isOwn] at hown
      | _ =>
        have hsame := run_sameLedger rfl hrun
        exact h.congr (congrFun hsame.balance _) hsame.accounts
    · cases hstep
      exact h
  | virtualGroup op =>
    dsimp only at hstep
    split_ifs at hstep
    split at hstep
    · rename_i vg hrun
      cases hstep
      by_cases hexit : ∃ addr, op = .completeStorageProviderExit addr
      · obtain ⟨addr, rfl⟩ := hexit
        obtain ⟨sp, hsp, hcall, hbalance⟩ := completeExit_eq_ok hrun
        refine State.PoolOk.exit h hsp ?_ (hbalance (h.funding _ _ (accounts_of_find? hsp)))
        show (s.sp.afterCall ctx.sp _).accounts = _
        rw [hcall, accounts_exit]
      · have hother : ∀ addr, op ≠ .completeStorageProviderExit addr := fun addr heq =>
          hexit ⟨addr, heq⟩
        have hkept : vg.payment.balance moduleAddress = s.sp.balance moduleAddress := by
          cases op with
          | completeStorageProviderExit addr => exact absurd rfl (hother addr)
          | _ => exact hguard vg hrun
        exact h.congr hkept (afterCall_accounts hother)
    · cases hstep
      exact h

/-- **The module account has the deposits of all providers**, from genesis and in every state of a
run in which a provider that joins gets an unused id and none is funded by the module account; no
deposit is negative, and a slash pays at most the deposit of the provider. -/
theorem deposit_pool_backed (g : GenesisState) (b : Addr → ℤ) (start : State)
    (vg : VirtualGroup.State) (s : System) (hsound : g.Sound) (hstart : initGenesis b g = .ok start)
    (h : Reachable System.step PoolGuard ⟨start, vg⟩ s) :
    s.sp.balance moduleAddress = (s.sp.providers.sum fun _ sp => sp.totalDeposit) ∧
      (∀ id sp, s.sp.providers.find? id = some sp → 0 ≤ sp.totalDeposit) ∧
      ∀ ctx spID rewardInfos sp', ctx.blockedAddr moduleAddress = true →
        s.sp.slash ctx spID rewardInfos = .ok sp' →
        ∃ sp, s.sp.providers.find? spID = some sp ∧
          s.sp.balance moduleAddress - sp'.balance moduleAddress ≤ sp.totalDeposit := by
  have hpool : s.sp.PoolOk := h.invariant (fun s => s.sp.PoolOk) (.initGenesis hsound hstart)
    fun _ _ _ h hguard hstep => State.PoolOk.step h hguard hstep
  refine ⟨?_, fun id sp hsp => hpool.nonneg id _ (accounts_of_find? hsp), ?_⟩
  · rw [hpool.total, State.accounts, sum_mapWithKey]
    rfl
  · intro ctx spID rewardInfos sp' hblocked hrun
    obtain ⟨sp, hsp, hcovered, hbalance, -⟩ := slash_pays hblocked hrun
    exact ⟨sp, hsp, by omega⟩

/-! ### Runs from a genesis with a provider -/

/-- A genesis state with the provider of the sample message, under the given id. -/
def sampleGenesis (id : ℕ) : GenesisState where
  params := defaultParams
  storageProviders := [newStorageProvider (blockAt 0 10).sp id 601 sampleMsg]

/-- The bank at genesis: the module account has the deposit, and every other account is rich. -/
def genesisBank (addr : Addr) : ℤ := if addr = moduleAddress then 10000 * 10 ^ 18 else 10 ^ 30

/-- A block in which the bank refuses to pay to the module account. -/
def poolBlock (height time : ℤ) : BlockCtx where
  sp := { (blockAt height time).sp with blockedAddr := fun addr => decide (addr = moduleAddress) }
  virtualGroup := (blockAt height time).virtualGroup

/-- A provider joins, deposits and is slashed. -/
def slashedRun : List (BlockCtx × SystemOp) :=
  [(poolBlock 0 10, .sp (.createStorageProvider sampleMsg)),
    (poolBlock 1 20, .sp (.deposit 201 101 ⟨"amoca", 500⟩)),
    (poolBlock 2 30, .sp (.slash 1 [⟨7, ⟨"amoca", 200⟩⟩, ⟨8, ⟨"amoca", 100⟩⟩]))]

/-- The run starts with a provider whose id is not the next one. -/
theorem deposit_pool_slashed : ∃ start s, initGenesis genesisBank (sampleGenesis 7) = .ok start ∧
    runSteps System.step ⟨start, systemStart.virtualGroup⟩ slashedRun = some s ∧
    s.sp.balance moduleAddress = 20000 * 10 ^ 18 + 200 ∧
    (s.sp.providers.sum fun _ sp => sp.totalDeposit) = 20000 * 10 ^ 18 + 200 := by
  obtain ⟨start, hstart, hunused, s, hs, hbalance⟩ : ∃ start,
      initGenesis genesisBank (sampleGenesis 7) = .ok start ∧
      start.providers.find? (inc32 start.spSequence) = none ∧
      ∃ s, runSteps System.step ⟨start, systemStart.virtualGroup⟩ slashedRun = some s ∧
        s.sp.balance moduleAddress = 20000 * 10 ^ 18 + 200 := by decide +kernel
  have hguarded : Guarded System.step PoolGuard ⟨start, systemStart.virtualGroup⟩ slashedRun :=
    ⟨⟨hunused, by decide⟩, fun _ _ => ⟨trivial, fun _ _ =>
      ⟨(decide_eq_true rfl : decide (moduleAddress = moduleAddress) = true), fun _ _ => trivial⟩⟩⟩
  have hsound : (sampleGenesis 7).Sound := ⟨by decide, by decide, by decide⟩
  have hbacked := (deposit_pool_backed _ _ start _ s hsound hstart
    (.of_runSteps .start hguarded hs)).1
  exact ⟨start, s, hstart, hs, hbalance, hbacked.symm.trans hbalance⟩

/-- **The provider of a genesis state is written over.**  It has the id 1, and so has the first
provider that joins: the module account has the deposits of both, the store that of the second. -/
theorem genesis_provider_overwritten : ∃ start,
    initGenesis genesisBank (sampleGenesis 1) = .ok start ∧ ∃ s,
    runSteps System.step ⟨start, systemStart.virtualGroup⟩
      [(poolBlock 0 10, .sp (.createStorageProvider { sampleMsg with
        creator := 102, spAddress := 102, fundingAddress := 202 }))] = some s ∧
    s.sp.balance moduleAddress = 20000 * 10 ^ 18 ∧
    (s.sp.providers.sum fun _ sp => sp.totalDeposit) = 10000 * 10 ^ 18 ∧
    (s.sp.providers.find? 1).map (·.operatorAddress) = some 102 := by
  decide +kernel

end Moca.Sp
