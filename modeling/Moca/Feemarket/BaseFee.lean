/-
# The base fee of `x/feemarket`

`CalculateBaseFee` (`keeper/eip1559.go`) moves the base fee of the last block
towards the gas target: `BeginBlock` stores what it returns in the params, and
`EndBlock` stores the gas that the next block sees as used.

The floor `MinGasPrice` is applied in one branch only, where the last block stayed
below its target.  A run that starts at or above the floor stays there
(`base_fee_floor`) as long as governance never puts the stored base fee below it;
`base_fee_below_floor` is a change of params that does.  The response to the gas used
is the one of EIP-1559 (`base_fee_response`), but that the block that activates the fee
takes the base fee of the params as it is and does not rise (`base_fee_at_activation`).

`MinGasPrice` and `MinGasMultiplier` are decimals with 18 digits.  Division by
zero is a panic of the node.
-/

import Moca.Lib.Run
import Mathlib.Algebra.Order.Group.Unbundled.Int
import Mathlib.Data.Int.ConditionallyCompleteOrder
import Mathlib.Tactic.Linarith

namespace Moca.Feemarket

structure Params where
  noBaseFee : Bool
  baseFeeChangeDenominator : ℕ
  elasticityMultiplier : ℕ
  baseFee : ℤ
  enableHeight : ℤ
  minGasPrice : ℤ
  minGasMultiplier : ℤ

inductive Error
  /-- base fee change denominator cannot be 0 -/
  | zeroDenominator
  /-- initial base fee cannot be negative -/
  | negativeBaseFee
  /-- enable height cannot be negative -/
  | negativeHeight
  /-- value cannot be negative, or cannot be greater than 1 -/
  | minGasMultiplier
  /-- value cannot be negative -/
  | minGasPrice
  /-- the node panics -/
  | divisionByZero
  /-- integer overflow by integer type conversion -/
  | overflow
  deriving DecidableEq

def Params.validate (p : Params) : Except Error Unit := do
  if p.baseFeeChangeDenominator = 0 then throw .zeroDenominator
  if p.baseFee < 0 then throw .negativeBaseFee
  if p.enableHeight < 0 then throw .negativeHeight
  if p.minGasMultiplier < 0 ∨ 10 ^ 18 < p.minGasMultiplier then throw .minGasMultiplier
  if p.minGasPrice < 0 then throw .minGasPrice

def Params.isBaseFeeEnabled (p : Params) (height : ℤ) : Bool :=
  !p.noBaseFee && decide (height ≥ p.enableHeight)

/-- `MinGasPrice.TruncateInt()`. -/
def Params.floor (p : Params) : ℤ := p.minGasPrice.tdiv (10 ^ 18)

/-- The height of the block and the `MaxGas` of the consensus params, an `int64`. -/
structure Ctx where
  blockHeight : ℤ
  maxGas : Option ℤ
  maxGas_lt : ∀ gas ∈ maxGas, gas < 2 ^ 63

def Ctx.gasLimit (ctx : Ctx) : ℕ :=
  match ctx.maxGas with
  | some gas => if gas > -1 then gas.toNat else 2 ^ 64 - 1
  | none => 2 ^ 64 - 1

def Ctx.parentGasTarget (ctx : Ctx) (p : Params) : ℕ := ctx.gasLimit / p.elasticityMultiplier

/-- The base fee of the block, if it has one. -/
def calculateBaseFee (ctx : Ctx) (p : Params) (parentGasUsed : ℕ) : Except Error (Option ℤ) := do
  if !p.isBaseFeeEnabled ctx.blockHeight then return none
  -- the first block with a base fee
  if ctx.blockHeight = p.enableHeight then return some p.baseFee
  if p.elasticityMultiplier = 0 then throw .divisionByZero
  let parentGasTarget := ctx.parentGasTarget p
  if parentGasTarget ≥ 2 ^ 64 then return none
  if parentGasUsed = parentGasTarget then return some p.baseFee
  if parentGasTarget = 0 ∨ p.baseFeeChangeDenominator = 0 then throw .divisionByZero
  if parentGasUsed > parentGasTarget then
    let y := p.baseFee * ((parentGasUsed - parentGasTarget : ℕ) : ℤ) / parentGasTarget
    return some (p.baseFee + max (y / p.baseFeeChangeDenominator) 1)
  let y := p.baseFee * ((parentGasTarget - parentGasUsed : ℕ) : ℤ) / parentGasTarget
  return some (max (p.baseFee - y / p.baseFeeChangeDenominator) p.floor)

/-! ### What a calculation returns -/

variable {ctx : Ctx} {p : Params} {used : ℕ}

/-- What `Validate` checks. -/
structure Params.Valid (p : Params) : Prop where
  denominator : 0 < p.baseFeeChangeDenominator
  baseFee : 0 ≤ p.baseFee
  minGasPrice : 0 ≤ p.minGasPrice

theorem Params.valid_of_validate (h : p.validate = .ok ()) : p.Valid := by
  unfold Params.validate at h
  split_ifs at h
  all_goals cases h
  constructor <;> omega

theorem Ctx.parentGasTarget_lt (ctx : Ctx) (p : Params) : ctx.parentGasTarget p < 2 ^ 64 := by
  refine lt_of_le_of_lt (Nat.div_le_self _ _) ?_
  unfold Ctx.gasLimit
  cases hgas : ctx.maxGas with
  | none => norm_num
  | some gas =>
    have hlt := ctx.maxGas_lt gas hgas
    dsimp only
    split_ifs <;> omega

/-- The step of the base fee for a distance to the target. -/
def Params.delta (p : Params) (target distance : ℕ) : ℤ :=
  p.baseFee * distance / target / p.baseFeeChangeDenominator

/-- The base fee after a block that used `used` gas. -/
def Params.next (p : Params) (target used : ℕ) : ℤ :=
  if used = target then p.baseFee
  else if target < used then p.baseFee + max (p.delta target (used - target)) 1
  else max (p.baseFee - p.delta target (target - used)) p.floor

/-- **What a calculation returns**, after the block that activates the fee. -/
theorem calculateBaseFee_eq (hvalid : p.Valid) (henabled : p.isBaseFeeEnabled ctx.blockHeight = true)
    (hafter : ctx.blockHeight ≠ p.enableHeight) (htarget : 0 < ctx.parentGasTarget p) (used : ℕ) :
    calculateBaseFee ctx p used = .ok (some (p.next (ctx.parentGasTarget p) used)) := by
  have helastic : p.elasticityMultiplier ≠ 0 := by
    rintro hzero
    rw [Ctx.parentGasTarget, hzero, Nat.div_zero] at htarget
    exact lt_irrefl _ htarget
  have hlt := ctx.parentGasTarget_lt p
  have hden := hvalid.denominator
  unfold calculateBaseFee Params.next Params.delta
  rw [if_neg (by simp [henabled]), if_neg hafter, if_neg helastic]
  dsimp only
  rw [if_neg (by omega)]
  split_ifs <;> first | rfl | omega

/-! ### The response to the gas used -/

section Response

variable {target : ℕ} (hvalid : p.Valid) {d : ℕ}

include hvalid

theorem Params.delta_mono {d' : ℕ} (h : d ≤ d') : p.delta target d ≤ p.delta target d' := by
  have hmul : p.baseFee * d ≤ p.baseFee * d' :=
    mul_le_mul_of_nonneg_left (Int.ofNat_le.2 h) hvalid.baseFee
  have hden : (0 : ℤ) < p.baseFeeChangeDenominator := Int.natCast_pos.2 hvalid.denominator
  obtain rfl | htarget := Nat.eq_zero_or_pos target
  · simp [Params.delta]
  · exact Int.ediv_le_ediv hden (Int.ediv_le_ediv (Int.natCast_pos.2 htarget) hmul)

theorem Params.delta_le (htarget : 0 < target) (h : d ≤ target) :
    p.delta target d ≤ p.baseFee / p.baseFeeChangeDenominator := by
  have hself : p.delta target target = p.baseFee / p.baseFeeChangeDenominator := by
    rw [Params.delta, Int.mul_ediv_cancel _ (by omega)]
  exact hself ▸ Params.delta_mono hvalid h

theorem Params.delta_nonneg : 0 ≤ p.delta target d := by
  have hzero : p.delta target 0 = 0 := by simp [Params.delta]
  exact hzero ▸ Params.delta_mono hvalid (Nat.zero_le d)

theorem Params.next_mono (hfloor : p.floor ≤ p.baseFee) : Monotone (p.next target) := by
  intro u u' h
  have hbelow := @Params.delta_mono _ target hvalid (target - u') (target - u) (by omega)
  have habove := @Params.delta_mono _ target hvalid (u - target) (u' - target) (by omega)
  have hdown := @Params.delta_nonneg _ target hvalid (target - u)
  unfold Params.next
  split_ifs <;> omega

end Response

/-- In the block that activates it, the base fee is the one of the params. -/
theorem calculateBaseFee_at_activation (henabled : p.isBaseFeeEnabled ctx.blockHeight = true)
    (hfirst : ctx.blockHeight = p.enableHeight) (used : ℕ) :
    calculateBaseFee ctx p used = .ok (some p.baseFee) := by
  unfold calculateBaseFee
  rw [if_neg (by simp [henabled]), if_pos hfirst]
  rfl

/-- **The response of the base fee.**  The base fee follows the gas of the last block: it never
falls when more gas was used, rests at the target, and moves by a bounded part of itself.  After
the block that activates it, it rises by at least one above the target. -/
theorem base_fee_response (hvalid : p.validate = .ok ()) (hfloor : p.floor ≤ p.baseFee)
    (henabled : p.isBaseFeeEnabled ctx.blockHeight = true) (htarget : 0 < ctx.parentGasTarget p) :
    ∃ fee : ℕ → ℤ, (∀ used, calculateBaseFee ctx p used = .ok (some (fee used))) ∧
      Monotone fee ∧ fee (ctx.parentGasTarget p) = p.baseFee ∧
      (ctx.blockHeight ≠ p.enableHeight →
        ∀ used > ctx.parentGasTarget p, p.baseFee + 1 ≤ fee used) ∧
      (∀ used, p.baseFee - fee used ≤ p.baseFee / p.baseFeeChangeDenominator) ∧
      ∀ used, fee used - p.baseFee ≤ max 1 (p.baseFee * (used - ctx.parentGasTarget p) /
        (ctx.parentGasTarget p * p.baseFeeChangeDenominator)) := by
  have hvalid := Params.valid_of_validate hvalid
  set target := ctx.parentGasTarget p with htargetEq
  have hquot : 0 ≤ p.baseFee / p.baseFeeChangeDenominator :=
    Int.ediv_nonneg hvalid.baseFee (Int.natCast_nonneg _)
  by_cases hfirst : ctx.blockHeight = p.enableHeight
  · refine ⟨fun _ => p.baseFee, calculateBaseFee_at_activation henabled hfirst, monotone_const, rfl,
      fun hafter => absurd hfirst hafter, fun _ => ?_, fun _ => ?_⟩ <;> rw [sub_self]
    · exact hquot
    · exact zero_le_one.trans (le_max_left _ _)
  refine ⟨p.next target, calculateBaseFee_eq hvalid henabled hfirst htarget,
    Params.next_mono hvalid hfloor, by simp [Params.next], fun _ used hused => ?_, fun used => ?_,
    fun used => ?_⟩
  · rw [Params.next, if_neg (by omega), if_pos hused]
    omega
  · have hdelta := @Params.delta_le _ target hvalid (target - used) htarget (by omega)
    have hup := @Params.delta_nonneg _ target hvalid (used - target)
    unfold Params.next
    split_ifs <;> omega
  · unfold Params.next
    split_ifs with heq hlt
    · omega
    · have hrise : p.delta target (used - target) = p.baseFee * (used - target) /
          (target * p.baseFeeChangeDenominator) := by
        rw [Params.delta, Int.ediv_ediv_of_nonneg (Int.natCast_nonneg _), Nat.cast_sub hlt.le]
      rw [← hrise]
      omega
    · have hdown := @Params.delta_nonneg _ target hvalid (target - used)
      omega

/-- Params with a base fee of 1000, active from block 5 on. -/
def sampleParams : Params := ⟨false, 8, 2, 1000, 5, 7 * 10 ^ 18, 5 * 10 ^ 17⟩

/-- A block with a gas target of 50. -/
def sampleCtx (height : ℤ) : Ctx := ⟨height, some 100, by simp⟩

/-- The activating block and the one after it. -/
theorem base_fee_response_sample :
    (∃ fee : ℕ → ℤ,
      (∀ used, calculateBaseFee (sampleCtx 5) sampleParams used = .ok (some (fee used))) ∧
      Monotone fee ∧ fee 50 = 1000) ∧
    ∃ fee : ℕ → ℤ,
      (∀ used, calculateBaseFee (sampleCtx 6) sampleParams used = .ok (some (fee used))) ∧
      Monotone fee ∧ fee 50 = 1000 ∧ 1001 ≤ fee 51 ∧ fee 100 ≤ 1125 := by
  have htarget : ∀ height, (sampleCtx height).parentGasTarget sampleParams = 50 := by
    simp [Ctx.parentGasTarget, Ctx.gasLimit, sampleCtx, sampleParams]
  constructor
  · obtain ⟨fee, hfee, hmono, hrest, -⟩ :=
      @base_fee_response (sampleCtx 5) sampleParams rfl (by decide) (by decide) (by simp [htarget])
    rw [htarget] at hrest
    exact ⟨fee, hfee, hmono, hrest⟩
  · obtain ⟨fee, hfee, hmono, hrest, hrise, -, hbound⟩ :=
      @base_fee_response (sampleCtx 6) sampleParams rfl (by decide) (by decide) (by simp [htarget])
    rw [htarget] at hrest hrise hbound
    refine ⟨fee, hfee, hmono, hrest, hrise (by decide) 51 (by omega), ?_⟩
    have h100 := hbound 100
    norm_num [sampleParams] at h100
    exact h100

/-- **The activating block does not respond**: with twice the target used before it, its
base fee is the one of the params. -/
theorem base_fee_at_activation : sampleParams.validate = .ok () ∧
    sampleParams.floor ≤ sampleParams.baseFee ∧ (sampleCtx 5).parentGasTarget sampleParams = 50 ∧
    calculateBaseFee (sampleCtx 5) sampleParams 100 = .ok (some 1000) := by
  refine ⟨rfl, ?_⟩
  decide

/-! ### The floor over a run of blocks -/

/-- The params and what `SetBlockGasWanted` stored. -/
structure State where
  params : Params
  blockGasWanted : ℕ

/-- What writes to the store of the module: the two ends of a block, and a change of the
params by governance, whose message `ValidateBasic` has checked. -/
inductive Op
  | beginBlock (ctx : Ctx)
  | updateParams (params : Params)
  | endBlock (gasWanted gasUsed : ℕ)

def State.beginBlock (s : State) (ctx : Ctx) : Except Error State := do
  match ← calculateBaseFee ctx s.params s.blockGasWanted with
  | none => return s
  | some baseFee => return { s with params := { s.params with baseFee } }

def State.endBlock (s : State) (gasWanted gasUsed : ℕ) : Except Error State := do
  if gasWanted ≥ 2 ^ 63 ∨ gasUsed ≥ 2 ^ 63 then throw .overflow
  let updatedGasWanted := (max (gasWanted * s.params.minGasMultiplier) (gasUsed * 10 ^ 18)).tdiv
    (10 ^ 18)
  return { s with blockGasWanted := updatedGasWanted.toNat }

def State.step (s : State) : Op → Option State
  | .beginBlock ctx => (s.beginBlock ctx).toOption
  | .updateParams params => (params.validate.map fun _ => { s with params }).toOption
  | .endBlock gasWanted gasUsed => (s.endBlock gasWanted gasUsed).toOption

/-- A change of the params leaves the base fee at or above the floor it sets. -/
def Op.KeepsFloor : Op → Prop
  | .updateParams params => params.floor ≤ params.baseFee
  | _ => True

/-- One calculation keeps the floor: the fee rests or rises, or is clamped. -/
theorem floor_le_of_calculateBaseFee {fee : ℤ} (hfloor : p.floor ≤ p.baseFee)
    (h : calculateBaseFee ctx p used = .ok (some fee)) : p.floor ≤ fee := by
  unfold calculateBaseFee at h
  split at h
  · cases h
  split at h
  · cases h
    exact hfloor
  split at h
  · cases h
  dsimp only at h
  split at h
  · cases h
  split at h
  · cases h
    exact hfloor
  split at h
  · cases h
  -- above the target the fee rises, below it is clamped
  split at h
  · cases h
    omega
  · cases h
    exact le_max_right _ _

theorem floor_le_of_beginBlock {s s' : State} (hfloor : s.params.floor ≤ s.params.baseFee)
    (h : s.beginBlock ctx = .ok s') : s'.params.floor ≤ s'.params.baseFee := by
  obtain ⟨fee, hfee, hset⟩ := bind_eq_ok.1 h
  cases fee with
  | none => exact pure_eq_ok.1 hset ▸ hfloor
  | some fee =>
    cases hset
    exact (floor_le_of_calculateBaseFee hfloor hfee :)

theorem floor_le_of_step {s s' : State} {op : Op} (hfloor : s.params.floor ≤ s.params.baseFee)
    (hop : op.KeepsFloor) (h : s.step op = some s') : s'.params.floor ≤ s'.params.baseFee := by
  cases op with
  | beginBlock ctx => exact floor_le_of_beginBlock hfloor (Except.toOption_eq_some h)
  | updateParams params =>
    have hmap := Except.toOption_eq_some h
    cases hcheck : params.validate with
    | error e =>
      rw [hcheck] at hmap
      cases hmap
    | ok u =>
      rw [hcheck] at hmap
      cases hmap
      exact hop
  | endBlock gasWanted gasUsed =>
    have hend := Except.toOption_eq_some h
    unfold State.endBlock at hend
    split_ifs at hend
    · cases hend
    · cases hend
      exact hfloor

/-- **The floor holds over every run** in which no change of the params puts the base fee
below the floor it sets. -/
theorem base_fee_floor (s₀ s : State) (hstart : s₀.params.floor ≤ s₀.params.baseFee)
    (hrun : Reachable State.step (fun _ op => op.KeepsFloor) s₀ s) (ctx : Ctx) (s' : State)
    (hblock : s.beginBlock ctx = .ok s') : s'.params.floor ≤ s'.params.baseFee := by
  have hfloor : s.params.floor ≤ s.params.baseFee :=
    hrun.invariant (fun s => s.params.floor ≤ s.params.baseFee) hstart
      fun _ _ _ hs hop hstep => floor_le_of_step hs hop hstep
  exact floor_le_of_beginBlock hfloor hblock

/-- A block that used its target, after one that raised the floor with the base fee. -/
theorem base_fee_floor_sample : ∃ s s',
    runSteps State.step ⟨sampleParams, 100⟩
      [.beginBlock (sampleCtx 6), .updateParams { sampleParams with minGasPrice := 10 ^ 21 },
        .endBlock 90 50] = some s ∧
      s.beginBlock (sampleCtx 7) = .ok s' ∧ s'.params.floor = 1000 ∧
      s'.params.floor ≤ s'.params.baseFee := by
  obtain ⟨s, hs, s', hs', hfloor⟩ : ∃ s, runSteps State.step ⟨sampleParams, 100⟩
      [.beginBlock (sampleCtx 6), .updateParams { sampleParams with minGasPrice := 10 ^ 21 },
        .endBlock 90 50] = some s ∧
      ∃ s', s.beginBlock (sampleCtx 7) = .ok s' ∧ s'.params.floor = 1000 := by decide
  refine ⟨s, s', hs, hs', hfloor, base_fee_floor ⟨sampleParams, 100⟩ s (by decide) ?_ _ s' hs'⟩
  refine Reachable.of_runSteps .start ?_ hs
  have hchange : (10 ^ 21 : ℤ).tdiv (10 ^ 18) ≤ 1000 := by decide
  exact ⟨trivial, fun _ _ => ⟨hchange, fun _ _ => ⟨trivial, fun _ _ => trivial⟩⟩⟩

/-- **A change of the floor alone is not applied.**  Governance raises `MinGasPrice` above
the base fee; the next block used its target, and keeps a base fee below the floor. -/
theorem base_fee_below_floor : sampleParams.floor ≤ sampleParams.baseFee ∧
    ∃ s, runSteps State.step ⟨sampleParams, 100⟩
      [.updateParams { sampleParams with minGasPrice := 2 * 10 ^ 21 }, .endBlock 90 50,
        .beginBlock (sampleCtx 7)] = some s ∧
      s.params.floor = 2000 ∧ s.params.baseFee = 1000 := by
  decide

end Moca.Feemarket
