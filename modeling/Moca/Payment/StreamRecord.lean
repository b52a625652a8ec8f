/-
# `UpdateStreamRecord` and `ForceSettle`

`keeper/stream_record.go` (`CheckStreamRecord` … `ForceSettle`) and
`keeper/auto_settle_record.go`.  A record accrues lazily: `UpdateStreamRecord`
first adds `NetflowRate` times the time passed, then applies a change, and then
recomputes when the account has to be settled.

`UpdateStreamRecord` may call `ForceSettle`, which calls
`UpdateStreamRecordByAddr` on the governance account, which may call
`UpdateStreamRecord` again.  The recursion is cut at `Ctx.stack` calls; past that
the model panics, as the program does when its stack overflows.

`Updated` says everything a successful update can do; the invariants of the module
are derived from it.
-/

import Moca.Lib.Run
import Moca.Payment.Types
import Mathlib.Algebra.Order.Group.Unbundled.Int
import Mathlib.Algebra.Order.Group.Unbundled.Abs

namespace Moca.Payment

open State StreamRecord SortedMap

/-! ### The stores -/

/-- `CheckStreamRecord`: what every record written to the store satisfies. -/
def checkStreamRecord (r : StreamRecord) : Bool :=
  decide (r.frozenNetflowRate ≤ 0) && decide (0 ≤ r.lockBalance) && decide (0 ≤ r.bufferBalance)
    && !(decide (r.netflowRate < 0) && decide (r.outFlowCount = 0))

variable (byAddr : State → StreamRecordChange → Except Error State) (ctx : Ctx) (s : State)
  (addr : Addr) (r : StreamRecord) (c : StreamRecordChange) {s₁ s₂ s₃ : State}

/-- Write a record without checking it. -/
def State.putStreamRecord : State :=
  { s with streamRecords := s.streamRecords.insert addr r }

/-- `SetStreamRecord`. -/
def State.setStreamRecord : Except Error State :=
  if checkStreamRecord r then .ok (s.putStreamRecord addr r)
  else .error (.panic (.invalidStreamRecord addr))

/-- `GetStreamRecord`: a new record if none is stored. -/
def getStreamRecord : StreamRecord :=
  (s.streamRecords.find? addr).getD (newStreamRecord ctx.blockTime)

/-- `IsEmptyNetFlow`. -/
def State.isEmptyNetFlow : Bool :=
  match s.streamRecords.find? addr with
  | none => true
  | some r => decide (r.netflowRate = 0) && decide (r.frozenNetflowRate = 0)

/-- `SetAutoSettleRecord`. -/
def State.setAutoSettleRecord (timestamp : ℤ) (addr : Addr) : State :=
  { s with autoSettleRecords := s.autoSettleRecords.insert ⟨timestamp, addr⟩ () }

/-- `RemoveAutoSettleRecord`. -/
def State.removeAutoSettleRecord (timestamp : ℤ) (addr : Addr) : State :=
  { s with autoSettleRecords := s.autoSettleRecords.erase ⟨timestamp, addr⟩ }

/-- `UpdateAutoSettleRecord`: a timestamp of zero stands for no record. -/
def State.updateAutoSettleRecord (oldTime newTime : ℤ) : State :=
  let s := if oldTime ≠ 0 then s.removeAutoSettleRecord oldTime addr else s
  if newTime ≠ 0 then s.setAutoSettleRecord newTime addr else s

/-! ### The bank -/

/-- `bankKeeper.SendCoinsFromAccountToModule` into the payment module account. -/
def State.sendCoinsFromAccountToModule (amount : ℤ) : Except Error State :=
  if amount < 0 then .error (.panic .negativeCoinAmount)
  else if s.balance addr < amount then .error (.insufficientFunds addr)
  else .ok { s with
    pool := s.pool + amount
    balance := Function.update s.balance addr (s.balance addr - amount) }

/-- Pay out of the payment module account. -/
def State.payFromModule (amount : ℤ) : Except Error State :=
  if amount < 0 then .error (.panic .negativeCoinAmount)
  else if s.pool < amount then .error .insufficientPool
  else .ok { s with
    pool := s.pool - amount
    balance := Function.update s.balance addr (s.balance addr + amount) }

/-- `bankKeeper.SendCoinsFromModuleToAccount`: refused for a blocked address. -/
def State.sendCoinsFromModuleToAccount (amount : ℤ) : Except Error State :=
  if ctx.blockedAddr addr then .error (.unauthorized addr) else s.payFromModule addr amount

/-! ### Changes to a record -/

/-- Add what has flowed since the last update. -/
def StreamRecord.accrue (now : ℤ) : StreamRecord :=
  if now > r.crudTimestamp then
    { r with
      staticBalance := r.staticBalance + r.netflowRate * (now - r.crudTimestamp)
      crudTimestamp := now }
  else r

/-- Move `c` from the static to the lock balance; a lock balance that would become negative
becomes zero, and the static balance takes the difference. -/
def StreamRecord.changeLock (c : ℤ) : StreamRecord :=
  if c = 0 then r
  else if r.lockBalance + c < 0 then
    { r with
      staticBalance := r.staticBalance - c + (r.lockBalance + c)
      lockBalance := 0 }
  else
    { r with
      staticBalance := r.staticBalance - c
      lockBalance := r.lockBalance + c }

/-- The buffer of a record with this rate: `ReserveTime` seconds of a negative rate. -/
def bufferFor (reserveTime : ℕ) (rate : ℤ) : ℤ :=
  if rate < 0 then |rate| * reserveTime else 0

/-- Change the rate and move the static balance into or out of the buffer. -/
def StreamRecord.changeRate (reserveTime : ℕ) (c : ℤ) : StreamRecord :=
  { r with
    netflowRate := r.netflowRate + c
    staticBalance := r.staticBalance - bufferFor reserveTime (r.netflowRate + c) + r.bufferBalance
    bufferBalance := bufferFor reserveTime (r.netflowRate + c) }

/-- Change the static balance. -/
def StreamRecord.addStatic (c : ℤ) : StreamRecord :=
  { r with staticBalance := r.staticBalance + c }

/-- An active record after accrual and all parts of a change. -/
def StreamRecord.apply (now : ℤ) (reserveTime : ℕ) (c : StreamRecordChange) : StreamRecord :=
  (((r.accrue now).changeLock c.lockBalanceChange).changeRate reserveTime c.rateChange).addStatic
    c.staticBalanceChange

/-- A frozen record after the parts of a change it takes: the static balance change is
ignored. -/
def StreamRecord.applyFrozen : StreamRecord :=
  { r.changeLock c.lockBalanceChange with
    netflowRate := r.netflowRate + c.rateChange
    frozenNetflowRate := r.frozenNetflowRate + c.frozenRateChange }

/-- `UpdateFrozenStreamRecord`. -/
def updateFrozenStreamRecord : Except Error StreamRecord :=
  if ctx.forced then .ok (r.applyFrozen c) else .error (.frozen addr)

/-- A negative static balance is paid from the bank account of the address, if it has one
with enough coins. -/
def pullFromBank : State × StreamRecord :=
  if r.staticBalance < 0 ∧ ctx.hasAccount addr = true then
    match s.sendCoinsFromAccountToModule addr |r.staticBalance| with
    | .ok s' => (s', { r with staticBalance := 0 })
    | .error _ => (s, r)
  else (s, r)

/-- How long static and buffer balance last, in seconds. -/
def StreamRecord.payDuration : ℤ :=
  (r.staticBalance + r.bufferBalance).tdiv |r.netflowRate|

/-- `sdkmath.Int.Int64`. -/
def toInt64 (x : ℤ) : Except Error ℤ :=
  if -2 ^ 63 ≤ x ∧ x < 2 ^ 63 then .ok x else .error (.panic .int64OutOfBound)

/-- `ForceSettle`: what is left goes to the governance account, through `byAddr`, and the
account is frozen. -/
def forceSettle : Except Error (State × StreamRecord) := do
  let totalBalance := r.staticBalance + r.bufferBalance
  let s ← byAddr s { addr := governanceAddress, staticBalanceChange := totalBalance }
  return (s, { r with staticBalance := 0, bufferBalance := 0, status := .frozen })

/-- The last part of `UpdateStreamRecord`: the settle time, with a forced settlement if it
is too near. -/
def settleTime : Except Error (State × StreamRecord × ℤ) :=
  if r.netflowRate < 0 then do
    let (s', r') ←
      if r.payDuration ≤ s.params.forcedSettleTime then
        if ctx.forced then forceSettle byAddr s r
        else .error (.lacks addr |r.staticBalance|)
      else pure (s, r)
    let payDuration ← toInt64 r.payDuration
    return (s', r', int64 (ctx.blockTime - s.params.forcedSettleTime + payDuration))
  else return (s, r, 0)

/-- `UpdateStreamRecord`, with `byAddr` for the call of `UpdateStreamRecordByAddr` in
`ForceSettle`. -/
def updateStreamRecordWith : Except Error (State × StreamRecord) :=
  match r.status with
  | .frozen => do
    let r ← updateFrozenStreamRecord ctx addr r c
    return (s, r)
  | .active => do
    let isPay := c.staticBalanceChange < 0 ∨ c.rateChange < 0
    let (s, r) := pullFromBank ctx s addr
      (r.apply ctx.blockTime s.params.versionedParams.reserveTime c)
    if ctx.forced = false ∧ isPay ∧ r.staticBalance < 0 then
      .error (.balanceNotEnough addr |r.staticBalance|)
    else do
      let (s, r, settleTimestamp) ← settleTime byAddr ctx s addr r
      return (s.updateAutoSettleRecord addr r.settleTimestamp settleTimestamp,
        { r with settleTimestamp := settleTimestamp })

/-- `UpdateStreamRecordByAddr`, at most `n` calls deep. -/
def updateStreamRecordByAddrDepth : ℕ → Ctx → State → StreamRecordChange → Except Error State
  | 0, _, _, _ => .error (.panic .stackOverflow)
  | n + 1, ctx, s, c => do
    let (s, r) ← updateStreamRecordWith (updateStreamRecordByAddrDepth n ctx) ctx s c.addr
      (getStreamRecord ctx s c.addr) c
    s.setStreamRecord c.addr r

/-- `UpdateStreamRecordByAddr`. -/
def updateStreamRecordByAddr : Except Error State :=
  updateStreamRecordByAddrDepth ctx.stack ctx s c

/-- `UpdateStreamRecord`. -/
def updateStreamRecord : Except Error (State × StreamRecord) :=
  updateStreamRecordWith (updateStreamRecordByAddrDepth ctx.stack ctx) ctx s addr r c

/-! ### What an update leaves alone -/

/-- Two states that differ at most in the stream records, the settle queue and the bank. -/
structure State.Frame (s s' : State) : Prop where
  params : s'.params = s.params
  versionedParams : s'.versionedParams = s.versionedParams
  outFlows : s'.outFlows = s.outFlows
  autoResumeRecords : s'.autoResumeRecords = s.autoResumeRecords
  delayedWithdrawals : s'.delayedWithdrawals = s.delayedWithdrawals

theorem State.Frame.refl : s.Frame s := ⟨rfl, rfl, rfl, rfl, rfl⟩

theorem State.Frame.trans (h : s₁.Frame s₂) (h' : s₂.Frame s₃) : s₁.Frame s₃ where
  params := h'.params.trans h.params
  versionedParams := h'.versionedParams.trans h.versionedParams
  outFlows := h'.outFlows.trans h.outFlows
  autoResumeRecords := h'.autoResumeRecords.trans h.autoResumeRecords
  delayedWithdrawals := h'.delayedWithdrawals.trans h.delayedWithdrawals

theorem setStreamRecord_eq_ok {s s' : State} {addr : Addr} {r : StreamRecord} :
    s.setStreamRecord addr r = .ok s' ↔ checkStreamRecord r = true ∧ s' = s.putStreamRecord addr r := by
  unfold setStreamRecord
  split_ifs with h
  · simp [h, eq_comm]
  · simp [h]

theorem putStreamRecord_frame :
    s.Frame (s.putStreamRecord addr r) := ⟨rfl, rfl, rfl, rfl, rfl⟩

theorem updateAutoSettleRecord_frame (oldTime newTime : ℤ) :
    s.Frame (s.updateAutoSettleRecord addr oldTime newTime) := by
  unfold updateAutoSettleRecord
  split_ifs <;> exact ⟨rfl, rfl, rfl, rfl, rfl⟩

@[simp] theorem updateAutoSettleRecord_streamRecords (o n : ℤ) :
    (s.updateAutoSettleRecord addr o n).streamRecords = s.streamRecords := by
  unfold updateAutoSettleRecord
  split_ifs <;> rfl

@[simp] theorem updateAutoSettleRecord_pool (o n : ℤ) :
    (s.updateAutoSettleRecord addr o n).pool = s.pool := by
  unfold updateAutoSettleRecord
  split_ifs <;> rfl

@[simp] theorem updateAutoSettleRecord_balance (o n : ℤ) :
    (s.updateAutoSettleRecord addr o n).balance = s.balance := by
  unfold updateAutoSettleRecord
  split_ifs <;> rfl

theorem find?_updateAutoSettleRecord (o n t : ℤ) (a : Addr) :
    (s.updateAutoSettleRecord addr o n).autoSettleRecords.find? ⟨t, a⟩ =
      if a = addr ∧ t = n ∧ n ≠ 0 then some ()
      else if a = addr ∧ t = o ∧ o ≠ 0 then none
      else s.autoSettleRecords.find? ⟨t, a⟩ := by
  have hkey : ∀ t', ((⟨t, a⟩ : QueueKey) = ⟨t', addr⟩) = (a = addr ∧ t = t') := fun t' => by
    rw [QueueKey.mk.injEq, and_comm]
  unfold updateAutoSettleRecord setAutoSettleRecord removeAutoSettleRecord
  by_cases ho : o = 0 <;> by_cases hn : n = 0 <;>
    simp [ho, hn, find?_insert, find?_erase, hkey]

/-! ### What a successful update does -/

theorem sendCoinsFromAccountToModule_eq_ok {s s' : State} {addr : Addr} {amount : ℤ} :
    s.sendCoinsFromAccountToModule addr amount = .ok s' ↔
      0 ≤ amount ∧ amount ≤ s.balance addr ∧
        s' = { s with
          pool := s.pool + amount
          balance := Function.update s.balance addr (s.balance addr - amount) } := by
  unfold sendCoinsFromAccountToModule
  split_ifs with h₁ h₂
  · simp only [false_iff]
    omega
  · simp only [false_iff]
    omega
  · rw [Except.ok.injEq, eq_comm]
    exact ⟨fun h => ⟨not_lt.1 h₁, not_lt.1 h₂, h⟩, fun h => h.2.2⟩

/-- **Pulling from the bank** moves some amount `x` from the account to the pool and to the
static balance: nothing, or exactly what makes the static balance zero. -/
theorem pullFromBank_eq : ∃ x, 0 ≤ x ∧ (x = 0 ∨ x = -r.staticBalance) ∧
      pullFromBank ctx s addr r =
        ({ s with
          pool := s.pool + x
          balance := Function.update s.balance addr (s.balance addr - x) },
        { r with staticBalance := r.staticBalance + x }) := by
  have hzero : (s, r) = ({ s with
      pool := s.pool + 0
      balance := Function.update s.balance addr (s.balance addr - 0) },
      { r with staticBalance := r.staticBalance + 0 }) := by
    simp only [add_zero, sub_zero, Function.update_eq_self]
  unfold pullFromBank
  split_ifs with h
  · split
    · rename_i s' hs
      obtain ⟨-, -, rfl⟩ := sendCoinsFromAccountToModule_eq_ok.1 hs
      rw [abs_of_neg h.1]
      refine ⟨-r.staticBalance, by omega, Or.inr rfl, ?_⟩
      rw [add_neg_cancel]
    · exact ⟨0, le_rfl, Or.inl rfl, hzero⟩
  · exact ⟨0, le_rfl, Or.inl rfl, hzero⟩

/-- The non-forced context refuses a payment that leaves the static balance negative. -/
def Solvent (ctx : Ctx) (c : StreamRecordChange) (r : StreamRecord) : Prop :=
  ctx.forced = false → c.staticBalanceChange < 0 ∨ c.rateChange < 0 → 0 ≤ r.staticBalance

/-- State and record after accrual, change and the transfer from the bank, before the settle
time is looked at. -/
def changed (ctx : Ctx) (s : State) (addr : Addr) (r : StreamRecord) (c : StreamRecordChange) :
    State × StreamRecord :=
  pullFromBank ctx s addr (r.apply ctx.blockTime s.params.versionedParams.reserveTime c)

/-- **The ways an update succeeds.**  A frozen record takes the change in the forced context
only.  An active record accrues, takes the change and what it can pull from the bank; then
it has a settle time, which is zero if it earns (`kept`), or it is settled by force and
what it has left, or lacks, goes to the governance account (`settled`). -/
inductive Updated (byAddr : State → StreamRecordChange → Except Error State) (ctx : Ctx)
    (s : State) (addr : Addr) (r : StreamRecord) (c : StreamRecordChange) :
    State → StreamRecord → Prop
  | frozen (hst : r.status = .frozen) (hf : ctx.forced = true) :
    Updated byAddr ctx s addr r c s (r.applyFrozen c)
  | kept {s₁ : State} {r₁ : StreamRecord} {t : ℤ} (hst : r.status = .active)
    (hpull : changed ctx s addr r c = (s₁, r₁)) (hsol : Solvent ctx c r₁)
    (ht : (0 ≤ r₁.netflowRate ∧ t = 0) ∨ (r₁.netflowRate < 0 ∧
      (s₁.params.forcedSettleTime : ℤ) < r₁.payDuration ∧ r₁.payDuration < 2 ^ 63 ∧
      t = int64 (ctx.blockTime - s₁.params.forcedSettleTime + r₁.payDuration))) :
    Updated byAddr ctx s addr r c (s₁.updateAutoSettleRecord addr r₁.settleTimestamp t)
      { r₁ with settleTimestamp := t }
  | settled {s₁ s₂ : State} {r₁ : StreamRecord} (hst : r.status = .active)
    (hpull : changed ctx s addr r c = (s₁, r₁))
    (hsol : Solvent ctx c r₁) (hrate : r₁.netflowRate < 0)
    (hdur : r₁.payDuration ≤ s₁.params.forcedSettleTime) (hmin : -2 ^ 63 ≤ r₁.payDuration)
    (hf : ctx.forced = true)
    (hgov : byAddr s₁ { addr := governanceAddress
                        staticBalanceChange := r₁.staticBalance + r₁.bufferBalance } = .ok s₂) :
    Updated byAddr ctx s addr r c
      (s₂.updateAutoSettleRecord addr r₁.settleTimestamp
        (int64 (ctx.blockTime - s₁.params.forcedSettleTime + r₁.payDuration)))
      { r₁ with
        staticBalance := 0
        bufferBalance := 0
        status := .frozen
        settleTimestamp := int64 (ctx.blockTime - s₁.params.forcedSettleTime + r₁.payDuration) }

variable {byAddr : State → StreamRecordChange → Except Error State} {ctx : Ctx} {s s' : State}
  {addr y : Addr} {r r' : StreamRecord} {c : StreamRecordChange}

theorem toInt64_eq_ok {x y : ℤ} : toInt64 x = .ok y ↔ -2 ^ 63 ≤ x ∧ x < 2 ^ 63 ∧ y = x := by
  unfold toInt64
  split_ifs with h
  · rw [Except.ok.injEq, eq_comm]
    exact ⟨fun hy => ⟨h.1, h.2, hy⟩, fun hy => hy.2.2⟩
  · simp only [false_iff]
    omega

/-- The settle time of a record: none for a record that does not pay, a time more than
`ForcedSettleTime` away, or a forced settlement. -/
theorem settleTime_eq_ok {t : ℤ} (h : settleTime byAddr ctx s addr r = .ok (s', r', t)) :
    (0 ≤ r.netflowRate ∧ s' = s ∧ r' = r ∧ t = 0) ∨
      (r.netflowRate < 0 ∧ t = int64 (ctx.blockTime - s.params.forcedSettleTime + r.payDuration) ∧
        -2 ^ 63 ≤ r.payDuration ∧ r.payDuration < 2 ^ 63 ∧
        (((s.params.forcedSettleTime : ℤ) < r.payDuration ∧ s' = s ∧ r' = r) ∨
          (r.payDuration ≤ s.params.forcedSettleTime ∧ ctx.forced = true ∧
            byAddr s { addr := governanceAddress
                       staticBalanceChange := r.staticBalance + r.bufferBalance } = .ok s' ∧
            r' = { r with staticBalance := 0, bufferBalance := 0, status := .frozen }))) := by
  unfold settleTime at h
  split_ifs at h with hrate hdur hf
  · obtain ⟨⟨s₁, r₁⟩, h₁, h⟩ := bind_eq_ok.1 h
    obtain ⟨d, hd, h⟩ := bind_eq_ok.1 h
    obtain ⟨hlo, hhi, rfl⟩ := toInt64_eq_ok.1 hd
    obtain ⟨s₂, hgov, hs₂⟩ := bind_eq_ok.1 h₁
    cases hs₂
    cases h
    exact Or.inr ⟨hrate, rfl, hlo, hhi, Or.inr ⟨hdur, hf, hgov, rfl⟩⟩
  · cases h
  · obtain ⟨⟨s₁, r₁⟩, h₁, h⟩ := bind_eq_ok.1 h
    obtain ⟨d, hd, h⟩ := bind_eq_ok.1 h
    obtain ⟨hlo, hhi, rfl⟩ := toInt64_eq_ok.1 hd
    cases h₁
    cases h
    exact Or.inr ⟨hrate, rfl, hlo, hhi, Or.inl ⟨not_le.1 hdur, rfl, rfl⟩⟩
  · cases h
    exact Or.inl ⟨not_lt.1 hrate, rfl, rfl, rfl⟩

/-- **Every successful update is one of the ways of `Updated`.** -/
theorem updated_of_eq_ok
    (h : updateStreamRecordWith byAddr ctx s addr r c = .ok (s', r')) :
    Updated byAddr ctx s addr r c s' r' := by
  unfold updateStreamRecordWith at h
  split at h
  · rename_i hst
    obtain ⟨r₁, h₁, h⟩ := bind_eq_ok.1 h
    cases h
    unfold updateFrozenStreamRecord at h₁
    split_ifs at h₁ with hf
    cases h₁
    exact .frozen hst hf
  · rename_i hst
    generalize hpull : pullFromBank ctx s addr
      (r.apply ctx.blockTime s.params.versionedParams.reserveTime c) = p at h
    obtain ⟨s₁, r₁⟩ := p
    simp only at h
    split_ifs at h with hlack
    have hsol : Solvent ctx c r₁ := fun hf hpay => not_lt.1 fun hneg => hlack ⟨hf, hpay, hneg⟩
    obtain ⟨⟨s₂, r₂, t⟩, h₂, h⟩ := bind_eq_ok.1 h
    cases h
    rcases settleTime_eq_ok h₂ with ⟨hrate, rfl, rfl, rfl⟩ |
      ⟨hrate, rfl, hlo, hhi, ⟨hdur, rfl, rfl⟩ | ⟨hdur, hf, hgov, rfl⟩⟩
    · exact .kept hst hpull hsol (.inl ⟨hrate, rfl⟩)
    · exact .kept hst hpull hsol (.inr ⟨hrate, hdur, hhi, rfl⟩)
    · exact .settled hst hpull hsol hrate hdur hlo hf hgov

/-! ### The fields of an updated record -/

section Fields

variable (r : StreamRecord) (now : ℤ) (reserveTime : ℕ) (c : StreamRecordChange)

@[simp] theorem accrue_fields :
    (r.accrue now).netflowRate = r.netflowRate ∧ (r.accrue now).bufferBalance = r.bufferBalance ∧
      (r.accrue now).lockBalance = r.lockBalance ∧ (r.accrue now).status = r.status ∧
      (r.accrue now).settleTimestamp = r.settleTimestamp ∧
      (r.accrue now).outFlowCount = r.outFlowCount ∧
      (r.accrue now).frozenNetflowRate = r.frozenNetflowRate := by
  unfold accrue
  split_ifs <;> exact ⟨rfl, rfl, rfl, rfl, rfl, rfl, rfl⟩

@[simp] theorem changeLock_fields (l : ℤ) :
    (r.changeLock l).netflowRate = r.netflowRate ∧
      (r.changeLock l).bufferBalance = r.bufferBalance ∧ (r.changeLock l).status = r.status ∧
      (r.changeLock l).crudTimestamp = r.crudTimestamp ∧
      (r.changeLock l).settleTimestamp = r.settleTimestamp ∧
      (r.changeLock l).outFlowCount = r.outFlowCount ∧
      (r.changeLock l).frozenNetflowRate = r.frozenNetflowRate := by
  unfold changeLock
  split_ifs <;> exact ⟨rfl, rfl, rfl, rfl, rfl, rfl, rfl⟩

@[simp] theorem changeLock_zero : r.changeLock 0 = r := if_pos rfl

/-- The lock change moves coins between the static and the lock balance. -/
theorem changeLock_conserves (l : ℤ) :
    (r.changeLock l).staticBalance + (r.changeLock l).lockBalance =
      r.staticBalance + r.lockBalance := by
  unfold changeLock
  split_ifs <;> simp only <;> omega

@[simp] theorem apply_netflowRate :
    (r.apply now reserveTime c).netflowRate = r.netflowRate + c.rateChange := by
  simp [StreamRecord.apply, addStatic, changeRate]

@[simp] theorem apply_bufferBalance :
    (r.apply now reserveTime c).bufferBalance =
      bufferFor reserveTime (r.netflowRate + c.rateChange) := by
  simp [StreamRecord.apply, addStatic, changeRate]

@[simp] theorem apply_status : (r.apply now reserveTime c).status = r.status := by
  simp [StreamRecord.apply, addStatic, changeRate]

@[simp] theorem apply_settleTimestamp :
    (r.apply now reserveTime c).settleTimestamp = r.settleTimestamp := by
  simp [StreamRecord.apply, addStatic, changeRate]

@[simp] theorem apply_outFlowCount :
    (r.apply now reserveTime c).outFlowCount = r.outFlowCount := by
  simp [StreamRecord.apply, addStatic, changeRate]

@[simp] theorem apply_frozenNetflowRate :
    (r.apply now reserveTime c).frozenNetflowRate = r.frozenNetflowRate := by
  simp [StreamRecord.apply, addStatic, changeRate]

theorem apply_crudTimestamp (h : r.crudTimestamp ≤ now) :
    (r.apply now reserveTime c).crudTimestamp = now := by
  simp only [StreamRecord.apply, addStatic, changeRate,
    changeLock_fields, accrue]
  split_ifs
  · rfl
  · omega

/-- **Accrual and change.**  The three balances together grow by what has flowed and by the
static balance change. -/
theorem apply_balances (h : r.crudTimestamp ≤ now) :
    (r.apply now reserveTime c).staticBalance + (r.apply now reserveTime c).bufferBalance +
        (r.apply now reserveTime c).lockBalance =
      r.staticBalance + r.bufferBalance + r.lockBalance +
        r.netflowRate * (now - r.crudTimestamp) + c.staticBalanceChange := by
  have hlock := changeLock_conserves (r.accrue now) c.lockBalanceChange
  have hacc : (r.accrue now).staticBalance =
      r.staticBalance + r.netflowRate * (now - r.crudTimestamp) := by
    unfold accrue
    split_ifs with hlt
    · rfl
    · rw [show now - r.crudTimestamp = 0 by omega, mul_zero, add_zero]
  simp only [StreamRecord.apply, addStatic, changeRate,
    changeLock_fields, accrue_fields] at hlock ⊢
  omega

end Fields

/-- The record after the change and the pull differs from the changed record in the static
balance only. -/
theorem pull_fields {r₁ : StreamRecord} (h : pullFromBank ctx s addr r = (s₁, r₁)) :
    r₁ = { r with staticBalance := r₁.staticBalance } ∧ s.Frame s₁ ∧
      s₁.streamRecords = s.streamRecords ∧ s₁.autoSettleRecords = s.autoSettleRecords := by
  obtain ⟨x, -, -, hx⟩ := pullFromBank_eq ctx s addr r
  rw [hx] at h
  cases h
  exact ⟨rfl, ⟨rfl, rfl, rfl, rfl, rfl⟩, rfl, rfl⟩

/-! ### The effect of an update on the stored records -/

/-- The record of an address; one that is not stored counts as a new one. -/
def State.record (s : State) (addr : Addr) : StreamRecord :=
  (s.streamRecords.find? addr).getD (newStreamRecord 0)

theorem record_putStreamRecord (s : State) (addr : Addr) (r : StreamRecord) (x : Addr) :
    (s.putStreamRecord addr r).record x = if x = addr then r else s.record x := by
  unfold record putStreamRecord
  rw [find?_insert]
  split_ifs <;> rfl

theorem find?_putStreamRecord (s : State) (addr : Addr) (r : StreamRecord) (x : Addr) :
    (s.putStreamRecord addr r).streamRecords.find? x =
      if x = addr then some r else s.streamRecords.find? x :=
  find?_insert _ _ _ _

/-- A record of a store in which one record has been written. -/
@[elab_as_elim] theorem of_find?_putStreamRecord {motive : StreamRecord → Prop} {x : Addr}
    (h : (s.putStreamRecord addr r).streamRecords.find? x = some r') (hr : x = addr → motive r)
    (hs : x ≠ addr → s.streamRecords.find? x = some r' → motive r') : motive r' := by
  rw [find?_putStreamRecord] at h
  split_ifs at h with hx
  · exact Option.some.inj h ▸ hr hx
  · exact hs hx h

theorem record_congr {x : Addr} (h : s'.streamRecords.find? x = s.streamRecords.find? x) :
    s'.record x = s.record x := by
  unfold record
  rw [h]

theorem record_eq (h : s'.streamRecords = s.streamRecords) (x : Addr) : s'.record x = s.record x :=
  record_congr (by rw [h])

/-- `GetStreamRecord` and `State.record` differ in the timestamp of a new record only. -/
theorem getStreamRecord_eq (ctx : Ctx) (s : State) (addr : Addr) :
    getStreamRecord ctx s addr =
      { s.record addr with crudTimestamp := (getStreamRecord ctx s addr).crudTimestamp } := by
  unfold getStreamRecord record
  cases s.streamRecords.find? addr <;> rfl

/-- Two states whose records have the same rates and flow counts, and where no record has
been made active. -/
structure State.SameRates (s s' : State) : Prop where
  netflowRate : ∀ x, (s'.record x).netflowRate = (s.record x).netflowRate
  frozenNetflowRate : ∀ x, (s'.record x).frozenNetflowRate = (s.record x).frozenNetflowRate
  outFlowCount : ∀ x, (s'.record x).outFlowCount = (s.record x).outFlowCount
  status : ∀ x, (s'.record x).status = .active → (s.record x).status = .active

theorem State.SameRates.refl (s : State) : s.SameRates s :=
  ⟨fun _ => rfl, fun _ => rfl, fun _ => rfl, fun _ h => h⟩

theorem State.SameRates.trans (h : s₁.SameRates s₂) (h' : s₂.SameRates s₃) : s₁.SameRates s₃ where
  netflowRate x := (h'.netflowRate x).trans (h.netflowRate x)
  frozenNetflowRate x := (h'.frozenNetflowRate x).trans (h.frozenNetflowRate x)
  outFlowCount x := (h'.outFlowCount x).trans (h.outFlowCount x)
  status x hx := h.status x (h'.status x hx)

theorem State.SameRates.of_streamRecords (h : s'.streamRecords = s.streamRecords) :
    s.SameRates s' := by
  have hx := record_eq h
  exact ⟨fun x => by rw [hx], fun x => by rw [hx], fun x => by rw [hx], fun x h => by rwa [hx] at h⟩

/-- The rates of the updated record itself. -/
theorem Updated.rates (h : Updated byAddr ctx s addr r c s' r') :
    r'.netflowRate = r.netflowRate + c.rateChange ∧ r'.outFlowCount = r.outFlowCount ∧
      (c.frozenRateChange = 0 → r'.frozenNetflowRate = r.frozenNetflowRate) ∧
      (r'.status = .active → r.status = .active) := by
  cases h with
  | frozen hst hf =>
    refine ⟨rfl, by simp [applyFrozen], fun hz => ?_, fun h => ?_⟩
    · simp [applyFrozen, hz]
    · simpa [applyFrozen] using h
  | kept hst hpull _ _ =>
    rw [(pull_fields hpull).1]
    exact ⟨by simp, by simp, fun _ => by simp, fun _ => hst⟩
  | settled hst hpull _ _ _ _ _ _ =>
    rw [(pull_fields hpull).1]
    exact ⟨by simp, by simp, fun _ => by simp, fun _ => hst⟩

/-- Without the forced flag the update of a frozen record is refused. -/
theorem Updated.active_of_not_forced (h : Updated byAddr ctx s addr r c s' r')
    (hforced : ctx.forced = false) : r.status = .active := by
  cases h with
  | frozen _ hf => simp [hforced] at hf
  | kept hst _ _ _ => exact hst
  | settled hst _ _ _ _ _ _ _ => exact hst

/-- An update keeps everything outside the records, the settle queue and the bank. -/
theorem Updated.frame (hby : ∀ s c s', byAddr s c = .ok s' → s.Frame s')
    (h : Updated byAddr ctx s addr r c s' r') : s.Frame s' := by
  cases h with
  | frozen _ _ => exact .refl s
  | kept _ hpull _ _ => exact (pull_fields hpull).2.1.trans (updateAutoSettleRecord_frame _ _ _ _)
  | settled _ hpull _ _ _ _ _ hgov =>
    exact ((pull_fields hpull).2.1.trans (hby _ _ _ hgov)).trans (updateAutoSettleRecord_frame _ _ _ _)

/-- The stored records an update changes: none, unless it settles by force. -/
theorem Updated.streamRecords (h : Updated byAddr ctx s addr r c s' r') :
    s'.streamRecords = s.streamRecords ∨
      ∃ s₁ s₂ x, s₁.streamRecords = s.streamRecords ∧ s'.streamRecords = s₂.streamRecords ∧
        byAddr s₁ { addr := governanceAddress, staticBalanceChange := x } = .ok s₂ := by
  cases h with
  | frozen _ _ => exact Or.inl rfl
  | kept _ hpull _ _ => exact Or.inl (by simp [(pull_fields hpull).2.2.1])
  | settled _ hpull _ _ _ _ _ hgov =>
    exact Or.inr ⟨_, _, _, (pull_fields hpull).2.2.1, by simp, hgov⟩

/-- An update keeps the stored rates, if an update of the governance account does. -/
theorem Updated.sameRates
    (hby : ∀ s x s', byAddr s { addr := governanceAddress, staticBalanceChange := x } = .ok s' →
      s.SameRates s')
    (h : Updated byAddr ctx s addr r c s' r') : s.SameRates s' := by
  rcases h.streamRecords with heq | ⟨s₁, s₂, x, h₁, h₂, hgov⟩
  · exact .of_streamRecords heq
  · exact ((SameRates.of_streamRecords h₁).trans (hby _ _ _ hgov)).trans (.of_streamRecords h₂)

theorem updateStreamRecordByAddrDepth_eq_ok {n : ℕ}
    (h : updateStreamRecordByAddrDepth n ctx s c = .ok s') :
    ∃ m s₁ r, n = m + 1 ∧ checkStreamRecord r = true ∧ s' = s₁.putStreamRecord c.addr r ∧
      Updated (updateStreamRecordByAddrDepth m ctx) ctx s c.addr (getStreamRecord ctx s c.addr) c
        s₁ r := by
  cases n with
  | zero => cases h
  | succ m =>
    obtain ⟨⟨s₁, r⟩, h₁, h₂⟩ := bind_eq_ok.1 h
    obtain ⟨hr, rfl⟩ := setStreamRecord_eq_ok.1 h₂
    exact ⟨m, s₁, r, rfl, hr, rfl, updated_of_eq_ok h₁⟩

theorem updateStreamRecordByAddrDepth_frame :
    ∀ (n : ℕ) {s s' : State} {c : StreamRecordChange},
      updateStreamRecordByAddrDepth n ctx s c = .ok s' → s.Frame s'
  | 0, _, _, _, h => by cases h
  | n + 1, s, s', c, h => by
    obtain ⟨m, s₁, r, hm, -, rfl, hu⟩ := updateStreamRecordByAddrDepth_eq_ok h
    obtain rfl : n = m := by omega
    exact (hu.frame fun s c s' h => updateStreamRecordByAddrDepth_frame n h).trans
      (putStreamRecord_frame _ _ _)

/-- **The effect of `UpdateStreamRecordByAddr` on the rates:** the rate of its address
changes by the rate change, and nothing else. -/
theorem updateStreamRecordByAddrDepth_rates :
    ∀ (n : ℕ) {s s' : State} {c : StreamRecordChange},
      updateStreamRecordByAddrDepth n ctx s c = .ok s' → c.frozenRateChange = 0 → ∀ x,
        (s'.record x).netflowRate =
            (s.record x).netflowRate + (if x = c.addr then c.rateChange else 0) ∧
          (s'.record x).frozenNetflowRate = (s.record x).frozenNetflowRate ∧
          (s'.record x).outFlowCount = (s.record x).outFlowCount ∧
          ((s'.record x).status = .active → (s.record x).status = .active)
  | 0, _, _, _, h => by cases h
  | n + 1, s, s', c, h => by
    intro hz x
    obtain ⟨m, s₁, r, hm, -, rfl, hu⟩ := updateStreamRecordByAddrDepth_eq_ok h
    obtain rfl : n = m := by omega
    -- the nested update of the governance account has no rate change
    have hsame : s.SameRates s₁ := hu.sameRates fun s₂ y s₃ hgov => by
      have hrec := updateStreamRecordByAddrDepth_rates n hgov rfl
      exact ⟨fun x => by rw [(hrec x).1]; simp, fun x => (hrec x).2.1, fun x => (hrec x).2.2.1,
        fun x => (hrec x).2.2.2⟩
    rw [record_putStreamRecord]
    split_ifs with hx
    · subst hx
      obtain ⟨h₁, h₂, h₃, h₄⟩ := hu.rates
      rw [getStreamRecord_eq] at h₁ h₂ h₃ h₄
      exact ⟨h₁, h₃ hz, h₂, h₄⟩
    · rw [add_zero]
      exact ⟨hsame.netflowRate x, hsame.frozenNetflowRate x, hsame.outFlowCount x, hsame.status x⟩

section

variable (h : updateStreamRecord ctx s addr r c = .ok (s', r'))
include h

theorem updated_of_updateStreamRecord :
    Updated (updateStreamRecordByAddrDepth ctx.stack ctx) ctx s addr r c s' r' :=
  updated_of_eq_ok h

theorem updateStreamRecord_frame : s.Frame s' :=
  (updated_of_updateStreamRecord h).frame fun _ _ _ h => updateStreamRecordByAddrDepth_frame _ h

theorem updateStreamRecord_sameRates : s.SameRates s' := by
  refine (updated_of_updateStreamRecord h).sameRates fun s₂ y s₃ hgov => ?_
  have hrec := updateStreamRecordByAddrDepth_rates _ hgov rfl
  exact ⟨fun x => by rw [(hrec x).1]; simp, fun x => (hrec x).2.1, fun x => (hrec x).2.2.1,
    fun x => (hrec x).2.2.2⟩

end

/-! ### What an update touches -/

/-- The record, the settle queue entries and the bank balance of `y` are the same. -/
structure State.Spared (y : Addr) (s s' : State) : Prop where
  record : s'.streamRecords.find? y = s.streamRecords.find? y
  entries : ∀ t, s'.autoSettleRecords.find? ⟨t, y⟩ = s.autoSettleRecords.find? ⟨t, y⟩
  balance : s'.balance y = s.balance y

theorem State.Spared.trans (h : s₁.Spared y s₂) (h' : s₂.Spared y s₃) : s₁.Spared y s₃ where
  record := h'.record.trans h.record
  entries t := (h'.entries t).trans (h.entries t)
  balance := h'.balance.trans h.balance

/-- An update touches its own account only, apart from what `byAddr` touches. -/
theorem Updated.spared (h : Updated byAddr ctx s addr r c s' r') (hy : y ≠ addr)
    (hby : ∀ s₁ s₂ x, byAddr s₁ { addr := governanceAddress, staticBalanceChange := x } = .ok s₂ →
      s₁.Spared y s₂) : s.Spared y s' := by
  have hpulled {s₁ : State} {r₀ r₁ : StreamRecord} (hpull : pullFromBank ctx s addr r₀ = (s₁, r₁)) :
      s.Spared y s₁ := by
    obtain ⟨x, -, -, hx⟩ := pullFromBank_eq ctx s addr r₀
    rw [hx] at hpull
    cases hpull
    exact ⟨rfl, fun _ => rfl, Function.update_of_ne hy _ _⟩
  have hqueue (s₁ : State) (o n : ℤ) : s₁.Spared y (s₁.updateAutoSettleRecord addr o n) := by
    refine ⟨by rw [updateAutoSettleRecord_streamRecords], fun t => ?_,
      by rw [updateAutoSettleRecord_balance]⟩
    rw [find?_updateAutoSettleRecord, if_neg (fun h => hy h.1), if_neg (fun h => hy h.1)]
  cases h with
  | frozen _ _ => exact ⟨rfl, fun _ => rfl, rfl⟩
  | kept _ hpull _ _ => exact (hpulled hpull).trans (hqueue _ _ _)
  | settled _ hpull _ _ _ _ _ hgov =>
    exact ((hpulled hpull).trans (hby _ _ _ hgov)).trans (hqueue _ _ _)

/-- `UpdateStreamRecordByAddr` touches its address and the governance account. -/
theorem spared_updateStreamRecordByAddrDepth (hy : y ≠ governanceAddress) :
    ∀ (n : ℕ) {s s' : State} {c : StreamRecordChange},
      updateStreamRecordByAddrDepth n ctx s c = .ok s' → y ≠ c.addr → s.Spared y s'
  | 0, _, _, _, h, _ => by cases h
  | n + 1, s, s', c, h, hc => by
    obtain ⟨m, s₁, r, hm, -, rfl, hu⟩ := updateStreamRecordByAddrDepth_eq_ok h
    obtain rfl : n = m := by omega
    refine (hu.spared hc fun _ _ _ hgov =>
      spared_updateStreamRecordByAddrDepth hy n hgov hy).trans ⟨?_, fun _ => rfl, rfl⟩
    exact find?_insert_of_ne _ _ hc

/-- `UpdateStreamRecord` touches its account and the governance account. -/
theorem spared_updateStreamRecord (h : updateStreamRecord ctx s addr r c = .ok (s', r'))
    (hy : y ≠ governanceAddress) (hya : y ≠ addr) : s.Spared y s' :=
  (updated_of_updateStreamRecord h).spared hya fun _ _ _ hgov =>
    spared_updateStreamRecordByAddrDepth hy _ hgov hy

/-- `UpdateStreamRecord` writes at most the record of the governance account. -/
theorem find?_updateStreamRecord (h : updateStreamRecord ctx s addr r c = .ok (s', r'))
    (hy : y ≠ governanceAddress) : s'.streamRecords.find? y = s.streamRecords.find? y := by
  rcases (updated_of_updateStreamRecord h).streamRecords with heq | ⟨s₂, s₃, x, h₂, h₃, hgov⟩
  · rw [heq]
  · rw [h₃, (spared_updateStreamRecordByAddrDepth hy _ hgov hy).record, h₂]

end Moca.Payment
