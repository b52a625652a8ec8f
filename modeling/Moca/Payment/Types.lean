/-
# Stream payments: the data of `x/payment`

`types/types.go`, `types/keys.go`, `types/params.go`, `types/errors.go` and the
protobuf records they refer to.  A payer and a receiver each have a stream
record; an out-flow is a rate from a payer to a receiver, stored under
`OutFlowKey(addr, status, toAddr)`; the two queues `AutoSettleRecord` and
`AutoResumeRecord` are sets of keys `(timestamp, addr)` read in key order.

A store is a map sorted by key, so that an iterator visits its entries in order,
and an iteration is over the entries the store had when the iterator was made
(the stores of the SDK isolate an open iterator from later writes).

Amounts and rates are integers (`sdkmath.Int`), timestamps are the integers of
`int64`.  The bank is the balance of the payment module account, `pool`, and the
spendable balance of every other address.
-/

import Moca.Lib.SortedMap
import Mathlib.Order.Lex
import Mathlib.Data.Prod.Lex
import Mathlib.Order.Nat
import Mathlib.Algebra.Order.Group.Int

namespace Moca

/-- An account address: the big-endian value of its 20 bytes. -/
abbrev Addr := ℕ

/-- `int64(x)`: the two's complement value of the low 64 bits. -/
def int64 (x : ℤ) : ℤ := (x + 2 ^ 63) % 2 ^ 64 - 2 ^ 63

theorem int64_eq_self {x : ℤ} (h₁ : -2 ^ 63 ≤ x) (h₂ : x < 2 ^ 63) : int64 x = x := by
  unfold int64
  rw [Int.emod_eq_of_lt] <;> omega

namespace Payment

/-- `types.GovernanceAddress`: it receives what a forced settlement leaves and
pays for the debt of a late one. -/
def governanceAddress : Addr := 0x25b2f7C1aA3cCCeF718e8e3A7Ec1A7C521eef2a9

/-- `types.ValidatorTaxPoolAddress`. -/
def validatorTaxPoolAddress : Addr := 0xdF5F0588f6B09f0B9E58D3426252db25Dc74E7a1

/-! ### Records -/

/-- `STREAM_ACCOUNT_STATUS_ACTIVE` and `STREAM_ACCOUNT_STATUS_FROZEN`. -/
inductive StreamAccountStatus
  | active
  | frozen
  deriving DecidableEq, Repr

/-- `StreamRecord`, without its `Account`, which is the key it is stored under. -/
structure StreamRecord where
  crudTimestamp : ℤ
  netflowRate : ℤ
  staticBalance : ℤ
  bufferBalance : ℤ
  lockBalance : ℤ
  status : StreamAccountStatus
  settleTimestamp : ℤ
  outFlowCount : ℤ
  frozenNetflowRate : ℤ
  deriving DecidableEq, Repr

/-- `NewStreamRecord`. -/
def newStreamRecord (crudTimestamp : ℤ) : StreamRecord where
  crudTimestamp := crudTimestamp
  netflowRate := 0
  staticBalance := 0
  bufferBalance := 0
  lockBalance := 0
  status := .active
  settleTimestamp := 0
  outFlowCount := 0
  frozenNetflowRate := 0

/-- `StreamRecordChange`; the defaults are those of `NewDefaultStreamRecordChangeWithAddr`. -/
structure StreamRecordChange where
  addr : Addr
  rateChange : ℤ := 0
  staticBalanceChange : ℤ := 0
  lockBalanceChange : ℤ := 0
  frozenRateChange : ℤ := 0
  deriving DecidableEq, Repr

/-- `OUT_FLOW_STATUS_ACTIVE` and `OUT_FLOW_STATUS_FROZEN`. -/
inductive OutFlowStatus
  | active
  | frozen
  deriving DecidableEq, Repr

/-- The status byte of an out-flow key. -/
def OutFlowStatus.byte : OutFlowStatus → ℕ
  | .active => 0
  | .frozen => 1

/-- `OutFlowKey`: the payer, the status byte, the receiver. -/
structure OutFlowKey where
  addr : Addr
  status : OutFlowStatus
  toAddr : Addr
  deriving Repr

/-- The bytes of an out-flow key, compared lexicographically. -/
def OutFlowKey.bytes (k : OutFlowKey) : ℕ ×ₗ ℕ ×ₗ ℕ :=
  toLex (k.addr, toLex (k.status.byte, k.toAddr))

theorem OutFlowKey.bytes_injective : Function.Injective OutFlowKey.bytes := by
  rintro ⟨a, st, r⟩ ⟨a', st', r'⟩ h
  have h₁ : a = a' := congrArg (fun x => (ofLex x).1) h
  have h₂ : st.byte = st'.byte := congrArg (fun x => (ofLex (ofLex x).2).1) h
  have h₃ : r = r' := congrArg (fun x => (ofLex (ofLex x).2).2) h
  cases st <;> cases st' <;> simp_all [OutFlowStatus.byte]

instance : LinearOrder OutFlowKey := LinearOrder.lift' OutFlowKey.bytes OutFlowKey.bytes_injective

theorem OutFlowKey.lt_iff {k k' : OutFlowKey} : k < k' ↔ k.addr < k'.addr ∨
    (k.addr = k'.addr ∧ (k.status.byte < k'.status.byte ∨
      (k.status.byte = k'.status.byte ∧ k.toAddr < k'.toAddr))) := by
  change k.bytes < k'.bytes ↔ _
  simp only [OutFlowKey.bytes, Prod.Lex.toLex_lt_toLex]

theorem OutFlowStatus.byte_inj {st st' : OutFlowStatus} : st.byte = st'.byte ↔ st = st' := by
  cases st <;> cases st' <;> simp [OutFlowStatus.byte]

/-- Past the flows of a payer with one status, an iterator does not come back to them. -/
theorem OutFlowKey.lt_of_outside {k : OutFlowKey} {a : Addr} {st : OutFlowStatus}
    (h : ⟨a, st, 0⟩ ≤ k) (hne : ¬(k.addr = a ∧ k.status = st)) (r : Addr) : ⟨a, st, r⟩ < k := by
  rcases h.lt_or_eq with h | rfl
  · rw [OutFlowKey.lt_iff] at h ⊢
    rw [← OutFlowStatus.byte_inj] at hne
    rcases h with h | ⟨h, h' | h'⟩
    · exact Or.inl h
    · exact Or.inr ⟨h, Or.inl h'⟩
    · exact absurd ⟨h.symm, h'.1.symm⟩ hne
  · exact absurd ⟨rfl, rfl⟩ hne

/-- `OutFlow`, as a change asks for it: the receiver and the rate. -/
structure OutFlow where
  toAddr : Addr
  rate : ℤ
  deriving DecidableEq, Repr

/-- `UserFlows`. -/
structure UserFlows where
  fromAddr : Addr
  flows : List OutFlow
  deriving DecidableEq, Repr

/-- The key of an `AutoSettleRecord` or an `AutoResumeRecord`. -/
structure QueueKey where
  timestamp : ℤ
  addr : Addr
  deriving Repr

/-- The bytes of a queue key.  The timestamp is stored as a big-endian `uint64`, so that
the negative ones come after the others. -/
def QueueKey.bytes (k : QueueKey) : ℕ ×ₗ ℤ ×ₗ ℕ :=
  toLex (if k.timestamp < 0 then 1 else 0, toLex (k.timestamp, k.addr))

theorem QueueKey.bytes_injective : Function.Injective QueueKey.bytes := by
  rintro ⟨t, a⟩ ⟨t', a'⟩ h
  have h₁ : t = t' := congrArg (fun x => (ofLex (ofLex x).2).1) h
  have h₂ : a = a' := congrArg (fun x => (ofLex (ofLex x).2).2) h
  rw [h₁, h₂]

instance : LinearOrder QueueKey := LinearOrder.lift' QueueKey.bytes QueueKey.bytes_injective

/-- `PaymentAccount`, without its address, which is the key. -/
structure PaymentAccount where
  owner : Addr
  refundable : Bool
  deriving DecidableEq, Repr

/-- `DelayedWithdrawalRecord`, without its address, which is the key. -/
structure DelayedWithdrawalRecord where
  amount : ℤ
  fromAddr : Addr
  unlockTimestamp : ℤ
  deriving DecidableEq, Repr

/-! ### Parameters -/

/-- `VersionedParams`; the tax rate is a decimal with 18 digits. -/
structure VersionedParams where
  reserveTime : ℕ
  validatorTaxRate : ℤ
  deriving DecidableEq, Repr

/-- `Params`, for one fee denomination. -/
structure Params where
  versionedParams : VersionedParams
  forcedSettleTime : ℕ
  paymentAccountCountLimit : ℕ
  maxAutoSettleFlowCount : ℕ
  maxAutoResumeFlowCount : ℕ
  withdrawTimeLockThreshold : ℤ
  withdrawTimeLockDuration : ℕ
  deriving DecidableEq, Repr

/-- `Params.Validate`, in its order of checks. -/
def Params.validate (p : Params) : Bool :=
  decide (0 < p.versionedParams.reserveTime)
  && decide (0 ≤ p.versionedParams.validatorTaxRate ∧
      p.versionedParams.validatorTaxRate ≤ 10 ^ 18)
  && decide (0 < p.forcedSettleTime)
  && decide (0 < p.paymentAccountCountLimit)
  && decide (0 < p.maxAutoSettleFlowCount)
  && decide (0 < p.maxAutoResumeFlowCount)
  && decide (0 < p.withdrawTimeLockThreshold)
  && decide (p.forcedSettleTime < p.versionedParams.reserveTime)

/-- `DefaultParams`. -/
def defaultParams : Params where
  versionedParams := { reserveTime := 180 * 24 * 60 * 60, validatorTaxRate := 10 ^ 16 }
  forcedSettleTime := 24 * 60 * 60
  paymentAccountCountLimit := 200
  maxAutoSettleFlowCount := 100
  maxAutoResumeFlowCount := 100
  withdrawTimeLockThreshold := 100 * 10 ^ 18
  withdrawTimeLockDuration := 24 * 60 * 60

theorem validate_defaultParams : defaultParams.validate = true := by decide

/-! ### State, context and errors -/

/-- The store of `x/payment` and the part of the bank it moves coins in. -/
structure State where
  params : Params
  versionedParams : SortedMap ℤ VersionedParams
  streamRecords : SortedMap Addr StreamRecord
  outFlows : SortedMap OutFlowKey ℤ
  autoSettleRecords : SortedMap QueueKey Unit
  autoResumeRecords : SortedMap QueueKey Unit
  paymentAccounts : SortedMap Addr PaymentAccount
  paymentAccountCounts : SortedMap Addr ℕ
  delayedWithdrawals : SortedMap Addr DelayedWithdrawalRecord
  /-- The balance of the payment module account. -/
  pool : ℤ
  /-- The spendable balance of every other address. -/
  balance : Addr → ℤ

/-- The store before the first message, with the parameters of the genesis. -/
def State.empty (p : Params) (balance : Addr → ℤ) : State where
  params := p
  versionedParams := .empty
  streamRecords := .empty
  outFlows := .empty
  autoSettleRecords := .empty
  autoResumeRecords := .empty
  paymentAccounts := .empty
  paymentAccountCounts := .empty
  delayedWithdrawals := .empty
  pool := 0
  balance := balance

/-- What a step reads from its `sdk.Context` and from the other modules. -/
structure Ctx where
  /-- `ctx.BlockTime().Unix()`. -/
  blockTime : ℤ
  /-- The value of `ForceUpdateStreamRecordKey`. -/
  forced : Bool := false
  /-- `accountKeeper.HasAccount`. -/
  hasAccount : Addr → Bool := fun _ => false
  /-- The addresses the bank refuses to pay from a module account. -/
  blockedAddr : Addr → Bool := fun _ => false
  /-- Whether the text of one address sorts before that of another. -/
  stringLe : Addr → Addr → Bool := fun a b => decide (a ≤ b)
  /-- `DerivePaymentAccountAddress`. -/
  derive : Addr → ℕ → Addr := fun owner index => owner + index + 1
  /-- The address of the distribution module account. -/
  distributionAddress : Addr := 0
  /-- How many calls of `ForceSettle` may be nested before the stack overflows. -/
  stack : ℕ := 8

/-- `ctx.WithValue(ForceUpdateStreamRecordKey, forced)`. -/
def Ctx.withForced (ctx : Ctx) (forced : Bool) : Ctx := { ctx with forced := forced }

/-- The `panic`s of the module. -/
inductive Panic
  /-- `CheckStreamRecord`. -/
  | invalidStreamRecord (addr : Addr)
  /-- `sdkmath.Int.Int64` of a value out of range. -/
  | int64OutOfBound
  /-- `sdk.NewCoin` with a negative amount. -/
  | negativeCoinAmount
  /-- `panic("should not happen")` in `AutoSettle` and `AutoResume`. -/
  | shouldNotHappen
  /-- Unbounded recursion between `UpdateStreamRecord` and `ForceSettle`. -/
  | stackOverflow
  deriving DecidableEq, Repr

/-- The errors of the module, of the bank, and the panics. -/
inductive Error
  /-- "stream record %s is frozen" -/
  | frozen (addr : Addr)
  /-- "stream account %s balance not enough, lack of %s amoca" -/
  | balanceNotEnough (addr : Addr) (lack : ℤ)
  /-- "stream account %s lacks of %s amoca" -/
  | lacks (addr : Addr) (amount : ℤ)
  /-- "stream account %s status is not frozen" -/
  | notFrozen (addr : Addr)
  /-- "stream account %s status is resuming, please wait" -/
  | resuming (addr : Addr)
  | reachPaymentAccountLimit
  | paymentAccountNotFound
  | streamRecordNotFound
  | notPaymentAccountOwner
  | paymentAccountAlreadyNonRefundable
  | insufficientBalance
  | receiveAccountNotExist
  | invalidStreamAccountStatus
  | invalidParams
  | noDelayedWithdrawal
  | incorrectWithdrawAmount
  | notReachTimeLockDuration
  | existsDelayedWithdrawal
  /-- `ValidateBasic`: the amount of a message is not positive. -/
  | invalidCoins
  /-- The bank: the account has less than it should send. -/
  | insufficientFunds (addr : Addr)
  /-- The bank: the payment module account has less than it should pay. -/
  | insufficientPool
  /-- The bank: the recipient is not allowed to receive funds. -/
  | unauthorized (addr : Addr)
  | panic (p : Panic)
  deriving DecidableEq, Repr

end Payment

end Moca
