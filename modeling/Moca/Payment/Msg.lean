/-
# Messages and runs of `x/payment`

`keeper/msg_server_*.go`, `keeper/keeper.go` (`Withdraw`, `QueryDynamicBalance`) and
the steps a chain takes: a message that fails is rolled back, while a panic of
`EndBlock` halts the chain, and block times do not decrease.

Messages run without the forced flag; `ApplyUserFlowsList` is also called by the
end blocker of `x/storage`, under the forced flag.
-/

import Moca.Payment.Settle

namespace Moca.Payment

/-! ### Deposits and withdrawals -/

variable (ctx : Ctx) (s : State) (creator fromAddr toAddr : Addr) (amount depositAmount : ℤ)
  (addr : Addr)

/-- The coins of a payment account in the bank are swept into its deposit. -/
def sweepPaymentAccount : Except Error (State × ℤ) :=
  if s.paymentAccounts.contains toAddr then
    if 0 < s.balance toAddr then do
      let amount := s.balance toAddr
      let s ← s.sendCoinsFromAccountToModule toAddr amount
      return (s, depositAmount + amount)
    else return (s, depositAmount)
  else return (s, depositAmount)

/-- The part of `Deposit` after the coins have moved. -/
def creditDeposit : Except Error State :=
  match s.streamRecords.find? toAddr with
  | none =>
    if s.paymentAccounts.contains toAddr = false ∧ ctx.hasAccount toAddr = false then
      .error .receiveAccountNotExist
    else s.setStreamRecord toAddr { newStreamRecord ctx.blockTime with staticBalance := depositAmount }
  | some r =>
    match r.status with
    | .active => do
      let (s, r) ← updateStreamRecord ctx s toAddr r
        { addr := toAddr, staticBalanceChange := depositAmount }
      s.setStreamRecord toAddr r
    | .frozen => tryResumeStreamRecord ctx s toAddr r depositAmount

/-- `MsgDeposit`, with its `ValidateBasic`. -/
def deposit : Except Error State :=
  if amount ≤ 0 then .error .invalidCoins
  else do
    let s ← s.sendCoinsFromAccountToModule creator amount
    let (s, depositAmount) ← sweepPaymentAccount s toAddr amount
    creditDeposit ctx s toAddr depositAmount

/-- `MsgWithdraw` with an empty `From`: claim a delayed withdrawal. -/
def claimDelayedWithdrawal : Except Error State :=
  match s.delayedWithdrawals.find? creator with
  | none => .error .noDelayedWithdrawal
  | some d =>
    if d.amount ≠ amount then .error .incorrectWithdrawAmount
    else if ctx.blockTime ≤ d.unlockTimestamp then .error .notReachTimeLockDuration
    else
      { s with delayedWithdrawals := s.delayedWithdrawals.erase creator }.sendCoinsFromModuleToAccount
        ctx creator amount

/-- Whether `creator` may withdraw from `from`. -/
def checkWithdrawer : Except Error Unit :=
  if creator = fromAddr then .ok ()
  else
    match s.paymentAccounts.find? fromAddr with
    | none => .error .paymentAccountNotFound
    | some p =>
      if creator ≠ p.owner then .error .notPaymentAccountOwner
      else if p.refundable = false then .error .paymentAccountAlreadyNonRefundable
      else .ok ()

/-- The payout of a withdrawal: delayed from the threshold on. -/
def payOrDelay : Except Error State :=
  if s.params.withdrawTimeLockThreshold ≤ amount then
    if s.delayedWithdrawals.contains creator then .error .existsDelayedWithdrawal
    else .ok { s with
      delayedWithdrawals := s.delayedWithdrawals.insert creator
        { amount := amount
          fromAddr := fromAddr
          unlockTimestamp := int64 (ctx.blockTime + s.params.withdrawTimeLockDuration) } }
  else s.sendCoinsFromModuleToAccount ctx creator amount

/-- `MsgWithdraw` from a stream account. -/
def withdrawFrom : Except Error State :=
  match s.streamRecords.find? fromAddr with
  | none => .error .streamRecordNotFound
  | some r =>
    if r.status = .frozen then .error .invalidStreamAccountStatus
    else do
      checkWithdrawer s creator fromAddr
      let (s, r) ← updateStreamRecord ctx s fromAddr r
        { addr := fromAddr, staticBalanceChange := -amount }
      let s ← s.setStreamRecord fromAddr r
      if r.staticBalance < 0 then .error .insufficientBalance
      else payOrDelay ctx s creator fromAddr amount

/-- `MsgWithdraw`, with its `ValidateBasic`. -/
def withdraw (fromAddr : Option Addr) (amount : ℤ) : Except Error State :=
  if amount ≤ 0 then .error .invalidCoins
  else
    match fromAddr with
    | none => claimDelayedWithdrawal ctx s creator amount
    | some a => withdrawFrom ctx s creator a amount

/-- `Keeper.Withdraw`: the distribution module account is paid past the block list. -/
def keeperWithdraw : Except Error State :=
  match s.streamRecords.find? fromAddr with
  | none => .error .streamRecordNotFound
  | some r => do
    let (s, r) ← updateStreamRecord ctx s fromAddr r
      { addr := fromAddr, staticBalanceChange := -amount }
    let s ← s.setStreamRecord fromAddr r
    if toAddr = ctx.distributionAddress then s.payFromModule toAddr amount
    else s.sendCoinsFromModuleToAccount ctx toAddr amount

/-- `QueryDynamicBalance`: the updated record is not stored, but the bank and the settle
queue are changed. -/
def queryDynamicBalance : Except Error (State × ℤ) :=
  match s.streamRecords.find? addr with
  | none => .ok (s, 0)
  | some r => do
    let (s, r) ← updateStreamRecord ctx s addr r { addr := addr }
    return (s, r.staticBalance)

/-! ### Payment accounts and parameters -/

/-- `MsgCreatePaymentAccount`. -/
def createPaymentAccount : Except Error State :=
  let count := (s.paymentAccountCounts.find? creator).getD 0
  if s.params.paymentAccountCountLimit ≤ count then .error .reachPaymentAccountLimit
  else .ok { s with
    paymentAccountCounts := s.paymentAccountCounts.insert creator (count + 1)
    paymentAccounts := s.paymentAccounts.insert (ctx.derive creator count)
      { owner := creator, refundable := true } }

/-- `MsgDisableRefund`. -/
def disableRefund (owner addr : Addr) : Except Error State :=
  match s.paymentAccounts.find? addr with
  | none => .error .paymentAccountNotFound
  | some p =>
    if p.owner ≠ owner then .error .notPaymentAccountOwner
    else if p.refundable = false then .error .paymentAccountAlreadyNonRefundable
    else .ok { s with
      paymentAccounts := s.paymentAccounts.insert addr { p with refundable := false } }

/-- `SetParams`, for a `MsgUpdateParams` of the authority. -/
def updateParams (p : Params) : Except Error State :=
  if p.validate then .ok { s with
    params := p
    versionedParams := s.versionedParams.insert ctx.blockTime p.versionedParams }
  else .error .invalidParams

/-! ### Runs -/

/-- The operations of the module. -/
inductive Op
  | deposit (creator toAddr : Addr) (amount : ℤ)
  | withdraw (creator : Addr) (fromAddr : Option Addr) (amount : ℤ)
  | keeperWithdraw (fromAddr toAddr : Addr) (amount : ℤ)
  | applyUserFlowsList (forced : Bool) (userFlowsList : List UserFlows)
  | tryResume (addr : Addr) (depositBalance : ℤ)
  | createPaymentAccount (creator : Addr)
  | disableRefund (owner addr : Addr)
  | updateParams (p : Params)
  | endBlock

/-- What an operation does. -/
def Op.run : Op → Except Error State
  | .deposit creator toAddr amount => Payment.deposit (ctx.withForced false) s creator toAddr amount
  | .withdraw creator fromAddr amount =>
    Payment.withdraw (ctx.withForced false) s creator fromAddr amount
  | .keeperWithdraw fromAddr toAddr amount =>
    Payment.keeperWithdraw (ctx.withForced false) s fromAddr toAddr amount
  | .applyUserFlowsList forced userFlowsList =>
    Payment.applyUserFlowsList (ctx.withForced forced) s userFlowsList
  | .tryResume addr depositBalance =>
    match s.streamRecords.find? addr with
    | none => .error .streamRecordNotFound
    | some r => tryResumeStreamRecord (ctx.withForced false) s addr r depositBalance
  | .createPaymentAccount creator => Payment.createPaymentAccount ctx s creator
  | .disableRefund owner addr => Payment.disableRefund s owner addr
  | .updateParams p => Payment.updateParams ctx s p
  | .endBlock => Payment.endBlock ctx s

/-- The state and the time of the last block. -/
structure Chain where
  state : State
  time : ℤ

/-- The state a step leads to: a failed operation is rolled back, but a failed `EndBlock`
has no next state. -/
def stepState (op : Op) : Option State :=
  match op.run ctx s with
  | .ok s' => some s'
  | .error _ =>
    match op with
    | .endBlock => none
    | _ => some s

/-- A step of the chain, at a block time not before the last one. -/
def Chain.step (c : Chain) (ctx : Ctx) (op : Op) : Option Chain :=
  if c.time ≤ ctx.blockTime then
    (stepState ctx c.state op).map fun s => { state := s, time := ctx.blockTime }
  else none

/-- An operation in a block. -/
abbrev Chain.exec (c : Chain) (l : Ctx × Op) : Option Chain := c.step l.1 l.2

/-! ### What a successful message does -/

/-- The coins of the pool that no delayed withdrawal waits for. -/
def State.unpromised : ℤ := s.pool - s.delayedWithdrawals.sum fun _ d => d.amount

/-- Only the bank and the delayed withdrawals have changed, and `x` coins more are not promised. -/
structure State.BankMove (s s' : State) (x : ℤ) : Prop where
  eq : s' = { s with
    pool := s'.pool, balance := s'.balance, delayedWithdrawals := s'.delayedWithdrawals }
  unpromised : s'.unpromised = s.unpromised + x

theorem State.BankMove.refl : s.BankMove s 0 := ⟨rfl, (add_zero _).symm⟩

variable {s s' : State} {addr creator fromAddr toAddr : Addr} {amount : ℤ} {ctx : Ctx}

theorem State.BankMove.of_bank (h : s' = { s with pool := s.pool + amount, balance := s'.balance }) :
    s.BankMove s' amount := by
  rw [h]
  refine ⟨rfl, ?_⟩
  dsimp only [State.unpromised]
  omega

theorem payFromModule_eq_ok (h : s.payFromModule addr amount = .ok s') :
    s' = { s with
      pool := s.pool + -amount
      balance := Function.update s.balance addr (s.balance addr + amount) } := by
  unfold State.payFromModule at h
  split_ifs at h with h₁ h₂
  cases h
  rfl

theorem sendCoinsFromModuleToAccount_eq_ok
    (h : s.sendCoinsFromModuleToAccount ctx addr amount = .ok s') :
    s' = { s with
      pool := s.pool + -amount
      balance := Function.update s.balance addr (s.balance addr + amount) } := by
  unfold State.sendCoinsFromModuleToAccount at h
  split_ifs at h with hb
  exact payFromModule_eq_ok h

/-- A deposit brings coins into the pool and credits all of them to the account. -/
theorem deposit_eq_ok (h : deposit ctx s creator toAddr amount = .ok s') :
    ∃ s₁ x, s.BankMove s₁ x ∧ 0 ≤ x ∧ creditDeposit ctx s₁ toAddr x = .ok s' := by
  unfold deposit at h
  split_ifs at h with hpos
  obtain ⟨s₁, h₁, hsweep⟩ := bind_eq_ok.1 h
  obtain ⟨-, -, rfl⟩ := sendCoinsFromAccountToModule_eq_ok.1 h₁
  obtain ⟨⟨s₂, x⟩, h₂, hcredit⟩ := bind_eq_ok.1 hsweep
  unfold sweepPaymentAccount at h₂
  split_ifs at h₂ with hacc hbal
  · obtain ⟨s₃, h₃, h₂⟩ := bind_eq_ok.1 h₂
    obtain ⟨-, -, rfl⟩ := sendCoinsFromAccountToModule_eq_ok.1 h₃
    cases h₂
    exact ⟨_, _, .of_bank (by rw [← add_assoc]), by omega, hcredit⟩
  · cases h₂
    exact ⟨_, _, .of_bank rfl, by omega, hcredit⟩
  · cases h₂
    exact ⟨_, _, .of_bank rfl, by omega, hcredit⟩

/-- Crediting a deposit: to a new record, to an active one, or as the deposit that may resume a
frozen one. -/
theorem creditDeposit_eq_ok {x : ℤ} (h : creditDeposit ctx s toAddr x = .ok s') :
    (s.streamRecords.find? toAddr = none ∧
        s' = s.putStreamRecord toAddr { newStreamRecord ctx.blockTime with staticBalance := x }) ∨
      ∃ r, s.streamRecords.find? toAddr = some r ∧
        ((∃ s₁ r₁, r.status = .active ∧ checkStreamRecord r₁ = true ∧
            updateStreamRecord ctx s toAddr r { addr := toAddr, staticBalanceChange := x } =
              .ok (s₁, r₁) ∧ s' = s₁.putStreamRecord toAddr r₁) ∨
          (r.status = .frozen ∧ tryResumeStreamRecord ctx s toAddr r x = .ok s')) := by
  unfold creditDeposit at h
  split at h
  · rename_i hnone
    split_ifs at h with hacc
    exact Or.inl ⟨hnone, (setStreamRecord_eq_ok.1 h).2⟩
  · rename_i r hr
    refine Or.inr ⟨r, hr, ?_⟩
    split at h
    · rename_i hst
      obtain ⟨⟨s₁, r₁⟩, hu, h⟩ := bind_eq_ok.1 h
      obtain ⟨hcheck, rfl⟩ := setStreamRecord_eq_ok.1 h
      exact Or.inl ⟨s₁, r₁, hst, hcheck, hu, rfl⟩
    · rename_i hst
      exact Or.inr ⟨hst, h⟩

/-- The amount is paid, or booked as a delayed withdrawal where none is pending. -/
theorem payOrDelay_eq_ok (h : payOrDelay ctx s creator fromAddr amount = .ok s') :
    s.BankMove s' (-amount) := by
  unfold payOrDelay at h
  split_ifs at h with hlim hex
  · cases h
    have hnone : s.delayedWithdrawals.find? creator = none := by
      simpa [SortedMap.contains] using hex
    refine ⟨rfl, ?_⟩
    dsimp only [State.unpromised]
    rw [SortedMap.sum_insert_of_none hnone]
    dsimp only
    omega
  · exact .of_bank (by rw [sendCoinsFromModuleToAccount_eq_ok h])

/-- A claim of a delayed withdrawal pays what was promised. -/
theorem claimDelayedWithdrawal_eq_ok (h : claimDelayedWithdrawal ctx s creator amount = .ok s') :
    s.BankMove s' 0 := by
  unfold claimDelayedWithdrawal at h
  split at h
  · cases h
  · rename_i d hd
    split_ifs at h with hamt htime
    obtain rfl := sendCoinsFromModuleToAccount_eq_ok h
    have hsum := SortedMap.sum_erase_of_some hd fun _ d => d.amount
    refine ⟨rfl, ?_⟩
    dsimp only [State.unpromised] at hsum ⊢
    omega

theorem keeperWithdraw_eq_ok (h : keeperWithdraw ctx s fromAddr toAddr amount = .ok s') :
    ∃ r s₁ r₁, s.streamRecords.find? fromAddr = some r ∧
      updateStreamRecord ctx s fromAddr r { addr := fromAddr, staticBalanceChange := -amount } =
        .ok (s₁, r₁) ∧
      checkStreamRecord r₁ = true ∧ s' = { s₁.putStreamRecord fromAddr r₁ with
        pool := s₁.pool + -amount
        balance := Function.update s₁.balance toAddr (s₁.balance toAddr + amount) } := by
  unfold keeperWithdraw at h
  split at h
  · cases h
  · rename_i r hr
    obtain ⟨⟨s₁, r₁⟩, hu, h⟩ := bind_eq_ok.1 h
    obtain ⟨s₂, hs₂, h⟩ := bind_eq_ok.1 h
    obtain ⟨hcheck, rfl⟩ := setStreamRecord_eq_ok.1 hs₂
    refine ⟨r, s₁, r₁, hr, hu, hcheck, ?_⟩
    split_ifs at h with hdist
    · exact payFromModule_eq_ok h
    · exact sendCoinsFromModuleToAccount_eq_ok h

/-- Two states that differ at most in parameters and payment accounts. -/
structure State.SameStreams (s s' : State) : Prop where
  streamRecords : s'.streamRecords = s.streamRecords
  outFlows : s'.outFlows = s.outFlows
  autoSettleRecords : s'.autoSettleRecords = s.autoSettleRecords
  autoResumeRecords : s'.autoResumeRecords = s.autoResumeRecords
  delayedWithdrawals : s'.delayedWithdrawals = s.delayedWithdrawals
  pool : s'.pool = s.pool

/-- **What an operation does.**  A deposit opens a record, is added to an active one, or may resume
a frozen one; a withdrawal is taken from an active record and paid, at once or later. -/
inductive Ran (ctx : Ctx) (s : State) : Op → State → Prop
  | opened {creator toAddr : Addr} {amount x : ℤ} {s₁ : State} (hbank : s.BankMove s₁ x)
    (hnone : s₁.streamRecords.find? toAddr = none) (hx : 0 ≤ x) :
    Ran ctx s (.deposit creator toAddr amount)
      (s₁.putStreamRecord toAddr { newStreamRecord ctx.blockTime with staticBalance := x })
  /-- The coins that come in, before or after the update, are those the record gets. -/
  | updated {op : Op} {addr : Addr} {x y : ℤ} {s₁ s₂ s' : State} {r r' : StreamRecord}
    (hbank : s.BankMove s₁ x) (hr : s₁.streamRecords.find? addr = some r) (hst : r.status = .active)
    (hu : updateStreamRecord (ctx.withForced false) s₁ addr r
      { addr := addr, staticBalanceChange := x + y } = .ok (s₂, r'))
    (hcheck : checkStreamRecord r' = true) (hpay : (s₂.putStreamRecord addr r').BankMove s' y) :
    Ran ctx s op s'
  | claimed {creator : Addr} {amount : ℤ} {s' : State} (hbank : s.BankMove s' 0) :
    Ran ctx s (.withdraw creator none amount) s'
  | resumed {creator toAddr : Addr} {amount x : ℤ} {s₁ s' : State} {r : StreamRecord}
    (hbank : s.BankMove s₁ x) (hr : s₁.streamRecords.find? toAddr = some r)
    (hres : tryResumeStreamRecord (ctx.withForced false) s₁ toAddr r x = .ok s') :
    Ran ctx s (.deposit creator toAddr amount) s'
  | tried {addr : Addr} {x : ℤ} {s' : State} {r : StreamRecord}
    (hr : s.streamRecords.find? addr = some r)
    (hres : tryResumeStreamRecord (ctx.withForced false) s addr r x = .ok s') :
    Ran ctx s (.tryResume addr x) s'
  | charged {forced : Bool} {l : List UserFlows} {s' : State}
    (hs : applyUserFlowsList (ctx.withForced forced) s l = .ok s') :
    Ran ctx s (.applyUserFlowsList forced l) s'
  | configured {op : Op} {s' : State} (hsame : s.SameStreams s')
    (hparams : s'.params = s.params ∧ s'.versionedParams = s.versionedParams ∨
      op = .updateParams s'.params ∧ s'.params.validate = true) : Ran ctx s op s'
  | ended {s' : State} (hs : endBlock ctx s = .ok s') : Ran ctx s .endBlock s'

/-- **Every successful operation is one of the ways of `Ran`.** -/
theorem Op.ran {op : Op} (h : op.run ctx s = .ok s') : Ran ctx s op s' := by
  cases op with
  | deposit creator toAddr amount =>
    obtain ⟨s₁, x, hbank, hx, h⟩ := deposit_eq_ok h
    rcases creditDeposit_eq_ok h with ⟨hnone, rfl⟩ | ⟨r, hr, ⟨s₂, r₁, hst, hcheck, hu, rfl⟩ | ⟨-, hres⟩⟩
    · exact .opened hbank hnone hx
    · exact .updated hbank hr hst (by rwa [add_zero]) hcheck (.refl _)
    · exact .resumed hbank hr hres
  | withdraw creator fromAddr amount =>
    change Payment.withdraw _ s creator fromAddr amount = .ok s' at h
    unfold Payment.withdraw at h
    split_ifs at h
    cases fromAddr with
    | none => exact .claimed (claimDelayedWithdrawal_eq_ok h)
    | some a =>
      dsimp only [withdrawFrom] at h
      split at h
      · cases h
      · rename_i r hr
        split_ifs at h with hst
        obtain ⟨-, -, h⟩ := bind_eq_ok.1 h
        obtain ⟨⟨s₁, r₁⟩, hu, h⟩ := bind_eq_ok.1 h
        obtain ⟨s₂, hs₂, h⟩ := bind_eq_ok.1 h
        obtain ⟨hcheck, rfl⟩ := setStreamRecord_eq_ok.1 hs₂
        split_ifs at h
        have hact := (updated_of_updateStreamRecord hu).active_of_not_forced rfl
        exact .updated (.refl s) hr hact (by rwa [zero_add]) hcheck (payOrDelay_eq_ok h)
  | keeperWithdraw fromAddr toAddr amount =>
    obtain ⟨r, s₁, r₁, hr, hu, hcheck, hs'⟩ := keeperWithdraw_eq_ok h
    have hact := (updated_of_updateStreamRecord hu).active_of_not_forced rfl
    exact .updated (.refl s) hr hact (by rwa [zero_add]) hcheck (.of_bank (by rw [hs']; rfl))
  | applyUserFlowsList forced l => exact .charged h
  | tryResume addr x =>
    simp only [Op.run] at h
    split at h
    · cases h
    · rename_i r hr
      exact .tried hr h
  | createPaymentAccount creator =>
    dsimp only [Op.run, Payment.createPaymentAccount] at h
    split_ifs at h
    cases h
    exact .configured ⟨rfl, rfl, rfl, rfl, rfl, rfl⟩ (.inl ⟨rfl, rfl⟩)
  | disableRefund owner addr =>
    dsimp only [Op.run, Payment.disableRefund] at h
    split at h
    · cases h
    · split_ifs at h
      cases h
      exact .configured ⟨rfl, rfl, rfl, rfl, rfl, rfl⟩ (.inl ⟨rfl, rfl⟩)
  | updateParams p =>
    dsimp only [Op.run, Payment.updateParams] at h
    split_ifs at h with hp
    cases h
    exact .configured ⟨rfl, rfl, rfl, rfl, rfl, rfl⟩ (.inr ⟨rfl, hp⟩)
  | endBlock => exact .ended h

/-- A step of the chain: the operation succeeds, or it fails and changes nothing. -/
theorem step_eq_some {c c' : Chain} {op : Op} (h : c.step ctx op = some c') :
    c.time ≤ ctx.blockTime ∧ c'.time = ctx.blockTime ∧
      (op.run ctx c.state = .ok c'.state ∨ c'.state = c.state) := by
  unfold Chain.step at h
  split_ifs at h with htime
  obtain ⟨s, hs, rfl⟩ := Option.map_eq_some_iff.1 h
  refine ⟨htime, rfl, ?_⟩
  unfold stepState at hs
  split at hs
  · rename_i s₁ hrun
    cases hs
    exact Or.inl hrun
  · cases op <;> simp at hs <;> exact Or.inr hs.symm

end Moca.Payment
