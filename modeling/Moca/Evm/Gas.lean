/-
# Gas and fees of an Ethereum transaction

The fee of a transaction is settled in three places: `EthGasConsumeDecorator` takes the
gas limit at the effective gas price from the sender (`VerifyFee`,
`DeductTxCostsFromUserBalance`), `ApplyMessageWithConfig` computes the gas used, and
`RefundGas` pays the rest back at the price `AsMessage` gives the message.

The two prices agree for the three kinds of transactions (`gasPrice_eq`), the gas used
lies between its minimum and the limit (`gasUsed_bounds`), and so the senders of the
messages of a transaction pay the gas used at the effective price (`gas_accounting`).

`core.IntrinsicGas`, the gas price of a message, the run of the interpreter and the commit
of the `StateDB` are inputs; `GoEthereum` says what is assumed of them.
`MinGasMultiplier` is a decimal with 18 digits.
-/

import Moca.Evm.Keeper
import Mathlib.Tactic.Linarith

namespace Moca.Evm

open Function

/-- The holders of the coins a fee moves between. -/
inductive Holder
  | account (a : Address)
  | feeCollector
  deriving DecidableEq

abbrev Bank := Holder → ℤ

/-- `TxData`: the prices of the three kinds of transactions. -/
inductive TxData
  | legacy (gasPrice : ℤ)
  | accessList (gasPrice : ℤ)
  | dynamicFee (gasTipCap gasFeeCap : ℤ)
  deriving DecidableEq

structure EthTx where
  sender : Address
  data : TxData
  gas : ℕ
  /-- `To == nil`. -/
  contractCreation : Bool
  /-- `len(Data)`. -/
  dataSize : ℕ
  /-- `core.IntrinsicGas` of the data and the access list, if it does not overflow. -/
  intrinsicGas : Option ℕ

/-- What the interpreter and the commit of its `StateDB` leave behind. -/
structure Execution where
  leftoverGas : ℕ
  /-- `GetRefund`: the refund counter. -/
  refund : ℕ
  committed : Bool
  /-- The bank `RefundGas` works on: that of the run, or the one before it if the run or
  its hooks failed. -/
  bank : Bank

structure GasCtx where
  env : Env
  isCheckTx : Bool := false
  /-- `GetBaseFee`: none before London. -/
  baseFee : Option ℕ
  isLondon : Bool
  enableCreate : Bool := true
  enableCall : Bool := true
  minGasMultiplier : ℤ
  blockGasLimit : ℕ
  transientGasUsed : ℕ := 0
  /-- `evm.Create` or `evm.Call`, given the gas after the intrinsic one. -/
  evm : EthTx → ℕ → Bank → Execution
  /-- The `GasPrice` of the message that `AsMessage` makes of a transaction. -/
  messageGasPrice : TxData → Option ℕ → ℤ

inductive GasError
  | intrinsicGas
  | outOfGas
  | insufficientFee
  /-- The panic on a dynamic fee without a base fee. -/
  | nilBaseFee
  | invalidFees
  | insufficientFunds
  | unauthorized
  | createDisabled
  | callDisabled
  | maxInitCodeSizeExceeded
  | gasOverflow
  | commit
  /-- The panic of `Uint64`. -/
  | uint64OutOfBound
  | invalidRefund
  | transientGasUsed
  deriving DecidableEq

/-- `MaxInitCodeSize`. -/
def maxInitCodeSize : ℕ := 2 * 24576

/-- `int64(x)` of a `uint64`. -/
def int64 (x : ℕ) : ℤ := (x : ℤ).bmod (2 ^ 64)

theorem int64_of_lt {x : ℕ} (h : x < 2 ^ 63) : int64 x = x := by
  unfold int64
  rw [Int.bmod_def]
  split <;> omega

/-- `x - y` on a `uint64`. -/
def sub (x y : ℕ) : ℕ := (x + (2 ^ 64 - y)) % 2 ^ 64

theorem sub_of_le {x y : ℕ} (hx : x < 2 ^ 63) (h : y ≤ x) : sub x y = x - y := by
  unfold sub
  omega

/-- `TruncateInt` of a decimal. -/
def truncateInt (d : ℤ) : ℤ := d.tdiv (10 ^ 18)

namespace TxData

/-- `GetGasFeeCap`. -/
def gasFeeCap : TxData → ℤ
  | legacy gasPrice => gasPrice
  | accessList gasPrice => gasPrice
  | dynamicFee _ gasFeeCap => gasFeeCap

/-- `GetGasTipCap`. -/
def gasTipCap : TxData → ℤ
  | legacy gasPrice => gasPrice
  | accessList gasPrice => gasPrice
  | dynamicFee gasTipCap _ => gasTipCap

/-- `EffectiveGasPrice`: only the price of a dynamic fee looks at the base fee. -/
def effectiveGasPrice (data : TxData) (baseFee : Option ℕ) : Except GasError ℤ :=
  match data, baseFee with
  | legacy gasPrice, _ => pure gasPrice
  | accessList gasPrice, _ => pure gasPrice
  | dynamicFee _ _, none => throw .nilBaseFee
  | dynamicFee gasTipCap gasFeeCap, some baseFee => pure (min (gasTipCap + baseFee) gasFeeCap)

end TxData

/-- What is assumed of go-ethereum: it returns no more gas than it was given, and `AsMessage` has
one rule for every kind of transaction, with the gas price as both caps of the older two; without
a base fee it is `GasPrice`, which of a dynamic fee is its fee cap. -/
structure GoEthereum (ctx : GasCtx) : Prop where
  leftover_le : ∀ tx gas bank, (ctx.evm tx gas bank).leftoverGas ≤ gas
  price : ∀ data baseFee,
    ctx.messageGasPrice data (some baseFee) = min (data.gasTipCap + baseFee) data.gasFeeCap
  price_none : ∀ data, ctx.messageGasPrice data none = data.gasFeeCap

/-- The message is priced as the ante handler priced the transaction. -/
theorem GoEthereum.gasPrice_eq {ctx : GasCtx} (hgeth : GoEthereum ctx) {data : TxData}
    {baseFee : Option ℕ} {price : ℤ} (h : data.effectiveGasPrice baseFee = .ok price) :
    ctx.messageGasPrice data baseFee = price := by
  cases baseFee with
  | none =>
    rw [hgeth.price_none]
    cases data with
    | legacy gasPrice => exact pure_eq_ok.1 h
    | accessList gasPrice => exact pure_eq_ok.1 h
    | dynamicFee gasTipCap gasFeeCap => cases h
  | some baseFee =>
    rw [hgeth.price]
    cases data with
    | legacy gasPrice =>
      rw [← pure_eq_ok.1 h]
      show min (gasPrice + baseFee) gasPrice = gasPrice
      omega
    | accessList gasPrice =>
      rw [← pure_eq_ok.1 h]
      show min (gasPrice + baseFee) gasPrice = gasPrice
      omega
    | dynamicFee gasTipCap gasFeeCap => exact pure_eq_ok.1 h

namespace GasCtx

variable (ctx : GasCtx) (bank : Bank) (tx : EthTx) (execution : Execution) (leftoverGas : ℕ)
  {txs : List EthTx}

/-- `VerifyFee`: the amount of the fee; no coins are deducted for a zero one. -/
def verifyFee : Except GasError ℤ :=
  match tx.intrinsicGas with
  | none => throw .intrinsicGas
  | some intrinsicGas =>
    if ctx.isCheckTx ∧ tx.gas < intrinsicGas then throw .outOfGas
    else if ∃ baseFee ∈ ctx.baseFee, tx.data.gasFeeCap < baseFee then throw .insufficientFee
    else do
      let price ← tx.data.effectiveGasPrice ctx.baseFee
      pure (price * tx.gas)

/-- `SendCoins` of a positive amount; only unlocked coins of an account can be sent. -/
def sendCoins (sender receiver : Holder) (amount : ℤ) : Except GasError Bank :=
  let locked := match sender with
    | .account a => ctx.env.lockedCoins a
    | .feeCollector => 0
  if bank sender - locked < amount then throw .insufficientFunds
  else
    let bank := Function.update bank sender (bank sender - amount)
    pure (Function.update bank receiver (bank receiver + amount))

/-- `DeductTxCostsFromUserBalance` of the fee of the transaction. -/
def deductTxCosts : Except GasError Bank := do
  let fee ← ctx.verifyFee tx
  if fee = 0 then pure bank
  else if fee < 0 then throw .invalidFees
  else ctx.sendCoins bank (.account tx.sender) .feeCollector fee

/-- `EthGasConsumeDecorator.AnteHandle` outside of `CheckTx`: the fee of every message, then
the block's limit on their gas. -/
def anteHandle (txs : List EthTx) (bank : Bank) : Except GasError Bank := do
  let bank ← txs.foldlM ctx.deductTxCosts bank
  if ctx.blockGasLimit < (txs.map EthTx.gas).sum % 2 ^ 64 then throw .outOfGas else pure bank

/-- The interpreter's part of `ApplyMessageWithConfig`. -/
def execute (bank : Bank) : Except GasError Execution :=
  if !ctx.enableCreate ∧ tx.contractCreation then throw .createDisabled
  else if !ctx.enableCall ∧ !tx.contractCreation then throw .callDisabled
  else match tx.intrinsicGas with
  | none => throw .intrinsicGas
  | some intrinsicGas =>
    if tx.gas < intrinsicGas then throw .intrinsicGas
    else if tx.contractCreation ∧ maxInitCodeSize < tx.dataSize then
      throw .maxInitCodeSizeExceeded
    else
      let execution := ctx.evm tx (tx.gas - intrinsicGas) bank
      if tx.gas < execution.leftoverGas then throw .gasOverflow
      else if !execution.committed then throw .commit
      else pure execution

/-- `RefundQuotient`, or `RefundQuotientEIP3529` after London. -/
def refundQuotient : ℕ := if ctx.isLondon then 5 else 2

/-- `GasToRefund`. -/
def gasToRefund (availableRefund gasConsumed refundQuotient : ℕ) : ℕ :=
  let refund := gasConsumed / refundQuotient
  if availableRefund < refund then availableRefund else refund

/-- `temporaryGasUsed`: the gas used before the refund. -/
def rawGasUsed : ℕ := tx.gas - execution.leftoverGas

/-- The gas the refund counter gives back. -/
def refund : ℕ :=
  gasToRefund execution.refund (rawGasUsed tx execution) ctx.refundQuotient

/-- The gas used of `ApplyMessageWithConfig`: at least the minimum share of the limit.  The
product of an integer and a decimal is exact. -/
def gasUsed : Except GasError ℕ :=
  let refund := ctx.refund tx execution
  let minimumGasUsed := int64 tx.gas * ctx.minGasMultiplier
  if tx.gas < execution.leftoverGas + refund then throw .gasOverflow
  else
    let used := truncateInt
      (max minimumGasUsed (int64 (rawGasUsed tx execution - refund) * 10 ^ 18))
    if 0 ≤ used ∧ used < 2 ^ 64 then pure used.toNat else throw .uint64OutOfBound

/-- `RefundGas`. -/
def refundGas : Except GasError Bank :=
  let remaining := leftoverGas * ctx.messageGasPrice tx.data ctx.baseFee
  if remaining < 0 then throw .invalidRefund
  else if remaining = 0 then pure bank
  else if ctx.env.blockedAddr tx.sender then throw .unauthorized
  else ctx.sendCoins bank .feeCollector (.account tx.sender) remaining

/-- The gas used, the run it comes from and the bank after the refund. -/
structure Applied where
  gasUsed : ℕ
  execution : Execution
  bank : Bank

/-- `ApplyTransaction`. -/
def applyTransaction : Except GasError Applied := do
  let execution ← ctx.execute tx bank
  let gasUsed ← ctx.gasUsed tx execution
  let bank ← ctx.refundGas execution.bank tx (sub tx.gas gasUsed)
  if 2 ^ 64 ≤ ctx.transientGasUsed + gasUsed then throw .transientGasUsed
  else pure ⟨gasUsed, execution, bank⟩

/-- The messages of a transaction, one after the other, each on the bank that the one before
leaves; `AddTransientGasUsed` adds up their gas. -/
def applyTransactions : GasCtx → List EthTx → Bank → Except GasError (List Applied)
  | _, [], _ => pure []
  | ctx, tx :: txs, bank => do
    let applied ← ctx.applyTransaction bank tx
    let rest ← applyTransactions
      { ctx with transientGasUsed := ctx.transientGasUsed + applied.gasUsed } txs applied.bank
    pure (applied :: rest)

/-- The effective gas price, where there is one. -/
def price : ℤ := (tx.data.effectiveGasPrice ctx.baseFee).toOption.getD 0

/-- The sum of an amount over the transactions of one sender. -/
def sumOf {α : Type} (a : Address) (sender : α → Address) (amount : α → ℤ) (l : List α) : ℤ :=
  (l.map fun x => if sender x = a then amount x else 0).sum

variable {applied : Applied} {applieds : List Applied}

section Specs

variable {ctx : GasCtx} {tx : EthTx} {bank bank' : Bank} {execution : Execution}

theorem verifyFee_eq_ok {fee : ℤ} (h : ctx.verifyFee tx = .ok fee) :
    ∃ price, tx.data.effectiveGasPrice ctx.baseFee = .ok price ∧ fee = price * tx.gas := by
  unfold verifyFee at h
  split at h
  · cases h
  · split_ifs at h
    obtain ⟨price, hprice, hfee⟩ := bind_eq_ok.1 h
    exact ⟨price, hprice, (pure_eq_ok.1 hfee).symm⟩

/-- A fee leaves the account of its payer for the fee collector. -/
theorem sendCoins_fee {a x : Address} {amount : ℤ}
    (h : ctx.sendCoins bank (.account a) .feeCollector amount = .ok bank') :
    bank' (.account x) = bank (.account x) - if a = x then amount else 0 := by
  simp only [sendCoins] at h
  split_ifs at h
  rw [← pure_eq_ok.1 h, update_of_ne (by simp), update_apply]
  by_cases hx : a = x
  · simp [hx]
  · simp [hx, Ne.symm hx]

/-- The ante handler takes the gas limit at the effective price. -/
theorem deductTxCosts_eq_ok (h : ctx.deductTxCosts bank tx = .ok bank') :
    tx.data.effectiveGasPrice ctx.baseFee = .ok (ctx.price tx) ∧
      ∀ a, bank' (.account a) =
        bank (.account a) - if tx.sender = a then ctx.price tx * tx.gas else 0 := by
  obtain ⟨fee, hfee, h⟩ := bind_eq_ok.1 h
  obtain ⟨price, hprice, rfl⟩ := verifyFee_eq_ok hfee
  obtain rfl : ctx.price tx = price := by
    unfold GasCtx.price
    rw [hprice]
    rfl
  refine ⟨hprice, fun a => ?_⟩
  split_ifs at h with hzero
  · rw [← pure_eq_ok.1 h, hzero, ite_self, sub_zero]
  · exact sendCoins_fee h

/-- **The ante handler takes from every account** the fees of the messages it has signed. -/
theorem foldlM_deductTxCosts (h : txs.foldlM ctx.deductTxCosts bank = .ok bank') :
    (∀ tx ∈ txs, tx.data.effectiveGasPrice ctx.baseFee = .ok (ctx.price tx)) ∧
      ∀ a, bank (.account a) - bank' (.account a) =
        sumOf a EthTx.sender (fun tx => ctx.price tx * tx.gas) txs := by
  induction txs generalizing bank with
  | nil =>
    cases h
    exact ⟨fun _ hmem => (List.not_mem_nil hmem).elim, fun a => sub_self _⟩
  | cons tx txs ih =>
    rw [List.foldlM_cons] at h
    obtain ⟨next, hfirst, hrest⟩ := bind_eq_ok.1 h
    obtain ⟨hprice, htaken⟩ := deductTxCosts_eq_ok hfirst
    obtain ⟨hprices, hsum⟩ := ih hrest
    refine ⟨List.forall_mem_cons.2 ⟨hprice, hprices⟩, fun a => ?_⟩
    have hnext := hsum a
    rw [htaken a] at hnext
    unfold sumOf at hnext ⊢
    rw [List.map_cons, List.sum_cons, ← hnext]
    ring

theorem execute_eq_ok (h : ctx.execute tx bank = .ok execution) :
    ∃ intrinsicGas, tx.intrinsicGas = some intrinsicGas ∧ intrinsicGas ≤ tx.gas ∧
      execution = ctx.evm tx (tx.gas - intrinsicGas) bank := by
  cases hi : tx.intrinsicGas with
  | none =>
    simp only [execute, hi] at h
    split_ifs at h
  | some intrinsicGas =>
    simp only [execute, hi] at h
    split_ifs at h with _ _ hgas
    exact ⟨intrinsicGas, rfl, Nat.le_of_not_lt hgas, (pure_eq_ok.1 h).symm⟩

/-- The refund is the smaller of the counter and its share of the gas used. -/
theorem refund_le (ctx : GasCtx) (tx : EthTx) (execution : Execution) :
    ctx.refund tx execution ≤ rawGasUsed tx execution / ctx.refundQuotient := by
  simp only [refund, gasToRefund]
  split_ifs <;> omega

/-- The gas used lies between the minimum share of the limit and the limit. -/
theorem gasUsed_bounds {used : ℕ} (hgas : tx.gas < 2 ^ 63)
    (hmultiplier : ctx.minGasMultiplier ≤ 10 ^ 18) (h : ctx.gasUsed tx execution = .ok used) :
    truncateInt (ctx.minGasMultiplier * tx.gas) ≤ used ∧ used ≤ tx.gas := by
  simp only [gasUsed] at h
  split_ifs at h with _ hused
  have hraw : rawGasUsed tx execution - ctx.refund tx execution ≤ tx.gas :=
    (Nat.sub_le _ _).trans (Nat.sub_le _ _)
  rw [int64_of_lt hgas, int64_of_lt (hraw.trans_lt hgas)] at h hused
  generalize rawGasUsed tx execution - ctx.refund tx execution = raw at *
  have hminimum : (tx.gas : ℤ) * ctx.minGasMultiplier ≤ tx.gas * 10 ^ 18 :=
    mul_le_mul_of_nonneg_left hmultiplier (Int.natCast_nonneg _)
  -- Both sides of the maximum are at most the limit, and truncation is monotone.
  have hmax : max ((tx.gas : ℤ) * ctx.minGasMultiplier) (raw * 10 ^ 18) ≤ tx.gas * 10 ^ 18 := by
    omega
  cases h
  rw [Int.toNat_of_nonneg hused.1, mul_comm ctx.minGasMultiplier]
  constructor
  · exact Int.tdiv_le_tdiv (by norm_num) (le_max_left _ _)
  · have := Int.tdiv_le_tdiv (by norm_num : (0 : ℤ) < 10 ^ 18) hmax
    rw [Int.mul_tdiv_cancel _ (by norm_num)] at this
    simp only [truncateInt]
    omega

theorem refundGas_eq_ok {leftoverGas : ℕ} (h : ctx.refundGas bank tx leftoverGas = .ok bank') :
    bank' (.account tx.sender) =
      bank (.account tx.sender) + leftoverGas * ctx.messageGasPrice tx.data ctx.baseFee := by
  simp only [refundGas] at h
  split_ifs at h with _ hzero
  · rw [← pure_eq_ok.1 h, hzero, add_zero]
  · simp only [sendCoins] at h
    split_ifs at h
    rw [← pure_eq_ok.1 h, update_self, update_of_ne (by simp)]

theorem applyTransaction_eq_ok (h : ctx.applyTransaction bank tx = .ok applied) :
    ctx.execute tx bank = .ok applied.execution ∧
      ctx.gasUsed tx applied.execution = .ok applied.gasUsed ∧
      ctx.refundGas applied.execution.bank tx (sub tx.gas applied.gasUsed) = .ok applied.bank := by
  obtain ⟨execution, hexecution, h⟩ := bind_eq_ok.1 h
  obtain ⟨used, hused, h⟩ := bind_eq_ok.1 h
  obtain ⟨bank₁, hbank, h⟩ := bind_eq_ok.1 h
  split_ifs at h
  cases h
  exact ⟨hexecution, hused, hbank⟩

end Specs

/-- What `RefundGas` returns to the sender of an executed message. -/
def Applied.refunded (tx : EthTx) (applied : Applied) : ℤ :=
  applied.bank (.account tx.sender) - applied.execution.bank (.account tx.sender)

/-- The gas of an executed message, and its refund. -/
structure Accounted (ctx : GasCtx) (tx : EthTx) (applied : Applied) : Prop where
  intrinsic_le : ∃ intrinsicGas, tx.intrinsicGas = some intrinsicGas ∧
    intrinsicGas ≤ rawGasUsed tx applied.execution
  raw_le : rawGasUsed tx applied.execution ≤ tx.gas
  refund_le : ctx.refund tx applied.execution ≤
    rawGasUsed tx applied.execution / ctx.refundQuotient
  minimum_le : truncateInt (ctx.minGasMultiplier * tx.gas) ≤ applied.gasUsed
  gasUsed_le : applied.gasUsed ≤ tx.gas
  price : tx.data.effectiveGasPrice ctx.baseFee = .ok (ctx.price tx)
  /-- What was not used comes back at the price that was paid. -/
  refunded : applied.refunded tx = (tx.gas - applied.gasUsed) * ctx.price tx

/-- **One message.** -/
theorem accounted_of_applyTransaction {ctx : GasCtx} {tx : EthTx} {bank : Bank}
    (hgas : tx.gas < 2 ^ 63) (hmultiplier : ctx.minGasMultiplier ≤ 10 ^ 18) (hgeth : GoEthereum ctx)
    (hprice : tx.data.effectiveGasPrice ctx.baseFee = .ok (ctx.price tx))
    (h : ctx.applyTransaction bank tx = .ok applied) : Accounted ctx tx applied := by
  obtain ⟨hexecute, hused, hrefund⟩ := applyTransaction_eq_ok h
  obtain ⟨intrinsicGas, hintrinsic, hle, hexecution⟩ := execute_eq_ok hexecute
  have hleft : applied.execution.leftoverGas ≤ tx.gas - intrinsicGas := by
    rw [hexecution]
    exact hgeth.leftover_le _ _ _
  have hraw : intrinsicGas ≤ rawGasUsed tx applied.execution := by
    unfold rawGasUsed
    omega
  obtain ⟨hminimum, hlimit⟩ := gasUsed_bounds hgas hmultiplier hused
  refine ⟨⟨intrinsicGas, hintrinsic, hraw⟩, Nat.sub_le _ _, refund_le _ _ _, hminimum, hlimit,
    hprice, ?_⟩
  have hback := refundGas_eq_ok hrefund
  rw [hgeth.gasPrice_eq hprice, sub_of_le hgas hlimit] at hback
  unfold Applied.refunded
  rw [hback]
  push_cast [hlimit]
  ring

/-- **All messages**, by induction over the list: the later ones start with more gas used. -/
theorem accounted_of_applyTransactions {ctx : GasCtx} {bank : Bank}
    (hgas : ∀ tx ∈ txs, tx.gas < 2 ^ 63) (hmultiplier : ctx.minGasMultiplier ≤ 10 ^ 18)
    (hgeth : GoEthereum ctx)
    (hprice : ∀ tx ∈ txs, tx.data.effectiveGasPrice ctx.baseFee = .ok (ctx.price tx))
    (h : ctx.applyTransactions txs bank = .ok applieds) :
    List.Forall₂ (Accounted ctx) txs applieds := by
  induction txs generalizing ctx bank applieds with
  | nil =>
    cases h
    exact .nil
  | cons tx txs ih =>
    obtain ⟨applied, hfirst, h⟩ := bind_eq_ok.1 h
    obtain ⟨rest, hrest, h⟩ := bind_eq_ok.1 h
    cases h
    have htail := @ih _ { ctx with transientGasUsed := ctx.transientGasUsed + applied.gasUsed } _
      (fun tx htx => hgas tx (List.mem_cons_of_mem _ htx)) hmultiplier
      ⟨hgeth.leftover_le, hgeth.price, hgeth.price_none⟩
      (fun tx htx => hprice tx (List.mem_cons_of_mem _ htx)) hrest
    refine .cons (accounted_of_applyTransaction (hgas tx List.mem_cons_self) hmultiplier hgeth
      (hprice tx List.mem_cons_self) hfirst) (htail.imp fun tx applied h => ?_)
    exact ⟨h.intrinsic_le, h.raw_le, h.refund_le, h.minimum_le, h.gasUsed_le, h.price, h.refunded⟩

/-- What was taken for the executed messages, less what came back, is the gas used. -/
theorem sumOf_refunded {ctx : GasCtx} (h : List.Forall₂ (Accounted ctx) txs applieds) (a : Address) :
    sumOf a EthTx.sender (fun tx => ctx.price tx * tx.gas) txs -
        sumOf a (fun e => e.1.sender) (fun e => e.2.refunded e.1) (txs.zip applieds) =
      sumOf a (fun e => e.1.sender) (fun e => e.2.gasUsed * ctx.price e.1) (txs.zip applieds) := by
  unfold sumOf
  induction h with
  | nil => rfl
  | @cons tx applied txs applieds hfirst _ ih =>
    rw [List.zip_cons_cons, List.map_cons, List.map_cons, List.map_cons, List.sum_cons,
      List.sum_cons, List.sum_cons, ← ih]
    dsimp only
    split_ifs
    · rw [hfirst.refunded]
      ring
    · ring

/-- **Gas accounting** of a transaction whose messages `txs` have been executed, on the bank that
the ante handler left.  Every executed message used at least its intrinsic gas and at most its
limit, is refunded at most the quotient's share, and its gas used is at least the minimum share
of the limit.  Every account pays, from the ante handler's bank before to that after it and less
what `RefundGas` returned, the gas used at the effective gas price, and the gas limit of the
messages that were not executed. -/
theorem gas_accounting {ctx : GasCtx} {txs rest : List EthTx} {bank bank₁ : Bank}
    {applieds : List Applied} (hgas : ∀ tx ∈ txs, tx.gas < 2 ^ 63)
    (hmultiplier : 0 ≤ ctx.minGasMultiplier ∧ ctx.minGasMultiplier ≤ 10 ^ 18)
    (hgeth : GoEthereum ctx) (hante : ctx.anteHandle (txs ++ rest) bank = .ok bank₁)
    (hrun : ctx.applyTransactions txs bank₁ = .ok applieds) :
    List.Forall₂ (Accounted ctx) txs applieds ∧
      ∀ a, (bank (.account a) - bank₁ (.account a)) -
          sumOf a (fun e => e.1.sender) (fun e => e.2.refunded e.1) (txs.zip applieds) =
        sumOf a (fun e => e.1.sender) (fun e => e.2.gasUsed * ctx.price e.1) (txs.zip applieds) +
          sumOf a EthTx.sender (fun tx => ctx.price tx * tx.gas) rest := by
  obtain ⟨bank₂, hdeduct, hante⟩ := bind_eq_ok.1 hante
  split_ifs at hante
  cases hante
  obtain ⟨hprice, htaken⟩ := foldlM_deductTxCosts hdeduct
  have haccounted := accounted_of_applyTransactions hgas hmultiplier.2 hgeth
    (fun tx htx => hprice tx (List.mem_append_left _ htx)) hrun
  refine ⟨haccounted, fun a => ?_⟩
  have hsplit : sumOf a EthTx.sender (fun tx => ctx.price tx * tx.gas) (txs ++ rest) =
      sumOf a EthTx.sender (fun tx => ctx.price tx * tx.gas) txs +
        sumOf a EthTx.sender (fun tx => ctx.price tx * tx.gas) rest := by
    unfold sumOf
    rw [List.map_append, List.sum_append]
  rw [htaken a, hsplit, ← sumOf_refunded haccounted a]
  ring

/-- The interpreter leaves half of the gas it is given and a small refund counter. -/
def transferCtx : GasCtx where
  env := { keccak256 := fun _ => 0 }
  baseFee := some 7
  isLondon := true
  minGasMultiplier := 500000000000000000
  blockGasLimit := 1000000
  evm := fun _ gas bank => ⟨gas / 2, 3000, true, bank⟩
  messageGasPrice
    | data, none => data.gasFeeCap
    | data, some baseFee => min (data.gasTipCap + baseFee) data.gasFeeCap

def transferTx : EthTx where
  sender := 1
  data := .dynamicFee 2 10
  gas := 61000
  contractCreation := false
  dataSize := 0
  intrinsicGas := some 21000

def transferBank : Bank
  | .account _ => 2000000
  | .feeCollector => 600000

/-- The same call at a fixed price. -/
def legacyTx : EthTx := { transferTx with data := .legacy 9 }

/-- Account 1 sends two messages; it pays the gas that each of them has used. -/
theorem gas_accounting_transfer :
    ∃ bank₁, transferCtx.anteHandle [transferTx, legacyTx] transferBank = .ok bank₁ ∧
      ∃ applied₁ applied₂,
        transferCtx.applyTransactions [transferTx, legacyTx] bank₁ = .ok [applied₁, applied₂] ∧
        applied₁.gasUsed = 38000 ∧ Accounted transferCtx transferTx applied₁ ∧
        (transferBank (.account 1) - bank₁ (.account 1)) -
          (applied₁.refunded transferTx + applied₂.refunded legacyTx) =
            applied₁.gasUsed * 9 + applied₂.gasUsed * 9 := by
  obtain ⟨bank₁, hante, applieds, hrun, hlength, hused⟩ : ∃ bank₁,
      transferCtx.anteHandle [transferTx, legacyTx] transferBank = .ok bank₁ ∧
      ∃ applieds, transferCtx.applyTransactions [transferTx, legacyTx] bank₁ = .ok applieds ∧
        applieds.length = 2 ∧ applieds.head?.map Applied.gasUsed = some 38000 := by decide +kernel
  obtain ⟨applied₁, applied₂, rfl⟩ := List.length_eq_two.1 hlength
  obtain ⟨hall, hpaid⟩ := @gas_accounting _ _ [] _ _ _ (by decide) (by decide)
    ⟨fun _ gas _ => Nat.div_le_self gas 2, fun _ _ => rfl, fun _ => rfl⟩ hante hrun
  refine ⟨bank₁, hante, applied₁, applied₂, hrun, Option.some.inj hused,
    (List.forall₂_cons.1 hall).1, ?_⟩
  have hone := hpaid 1
  have hprice : transferCtx.price transferTx = 9 ∧ transferCtx.price legacyTx = 9 := by decide
  have hsender : transferTx.sender = 1 ∧ legacyTx.sender = 1 := by decide
  simpa [sumOf, hprice, hsender] using hone

end GasCtx

end Moca.Evm
