/-
# Virtual groups: the data of `x/virtualgroup`

`types/types.go`, `types/keys.go`, `types/params.go`, `types/errors.go` and the
protobuf records they refer to.  A global virtual group (GVG) is a primary storage
provider with a list of secondary ones; the groups of a primary are collected in
families.  The deposits of the groups lie in the module account; what users pay for
storage streams into virtual payment accounts, one for each group and family.

Ids and counters are `uint32` and wrap around; amounts are integers.  The bank is
that of the payment state, in the one denomination that both modules use.
-/

import Moca.Sp.Store
import Moca.Payment.Msg

namespace Moca

/-- `x++` on a `uint32`. -/
def inc32 (x : ℕ) : ℕ := (x + 1) % 2 ^ 32

/-- `x--` on a `uint32`. -/
def dec32 (x : ℕ) : ℕ := (x + (2 ^ 32 - 1)) % 2 ^ 32

/-- `uint64(x)` of an `int64`. -/
def uint64 (x : ℤ) : ℕ := (x % 2 ^ 64).toNat

namespace VirtualGroup

/-- The address of the module account that holds the deposits of the groups. -/
def moduleAddress : Addr := 0x8b741a178a3978023c3a07dd18fa59d13fa0121c

/-- `NoSpecifiedFamilyID`. -/
def noSpecifiedFamilyID : ℕ := 0

/-! ### Records -/

/-- `GlobalVirtualGroup`, without its `Id`, which is the key it is stored under. -/
structure GlobalVirtualGroup where
  familyId : ℕ
  primarySpId : ℕ
  secondarySpIds : List ℕ
  storedSize : ℕ
  virtualPaymentAddress : Addr
  totalDeposit : ℤ
  deriving DecidableEq, Repr

/-- `GlobalVirtualGroupFamily`, without its `Id`, which is the key it is stored under. -/
structure GlobalVirtualGroupFamily where
  primarySpId : ℕ
  globalVirtualGroupIds : List ℕ := []
  virtualPaymentAddress : Addr
  deriving DecidableEq, Repr

/-- `GVGStatisticsWithinSP`, without the id of the provider, which is the key. -/
structure GVGStatisticsWithinSP where
  primaryCount : ℕ := 0
  secondaryCount : ℕ := 0
  breakRedundancyReqmtGvgCount : ℕ := 0
  deriving DecidableEq, Repr

/-- `SwapOutInfo`. -/
structure SwapOutInfo where
  spId : ℕ
  successorSpId : ℕ
  deriving DecidableEq, Repr

/-- `SwapInInfo`. -/
structure SwapInInfo where
  successorSpId : ℕ
  targetSpId : ℕ
  expirationTime : ℕ
  deriving DecidableEq, Repr

/-- `sdk.Coin`. -/
structure Coin where
  denom : String
  amount : ℤ
  deriving DecidableEq, Repr

/-- `Params`. -/
structure Params where
  depositDenom : String
  gvgStakingPerBytes : ℤ
  maxGlobalVirtualGroupNumPerFamily : ℕ
  maxStoreSizePerFamily : ℕ
  swapInValidityPeriod : ℕ
  spConcurrentExitNum : ℕ
  deriving DecidableEq, Repr

/-- `Params.Validate`, for a denomination that is well formed. -/
def Params.validate (p : Params) : Bool :=
  decide (0 < p.gvgStakingPerBytes)
  && decide (0 < p.maxGlobalVirtualGroupNumPerFamily)
  && decide (0 < p.maxStoreSizePerFamily)
  && decide (0 < p.swapInValidityPeriod)
  && decide (0 < p.spConcurrentExitNum)

/-- `DefaultParams`. -/
def defaultParams : Params where
  depositDenom := "amoca"
  gvgStakingPerBytes := 16000
  maxGlobalVirtualGroupNumPerFamily := 10
  maxStoreSizePerFamily := 64 * 1024 * 1024 * 1024 * 1024
  swapInValidityPeriod := 60 * 60 * 24 * 7
  spConcurrentExitNum := 1

theorem validate_defaultParams : defaultParams.validate = true := by decide

/-- A payment out of the module account. -/
structure Payout where
  recipient : Addr
  amount : ℤ
  deriving DecidableEq, Repr

/-! ### State, context and errors -/

/-- The store of `x/virtualgroup`, with the stores of the modules it calls. -/
structure State where
  params : Params
  gvgs : SortedMap ℕ GlobalVirtualGroup
  families : SortedMap ℕ GlobalVirtualGroupFamily
  gvgSequence : ℕ
  gvgFamilySequence : ℕ
  gvgStatistics : SortedMap ℕ GVGStatisticsWithinSP
  /-- `GVGFamilyStatisticsWithinSP`: the ids of the families of a provider. -/
  gvgFamilyStatistics : SortedMap ℕ (List ℕ)
  swapOutFamilies : SortedMap ℕ SwapOutInfo
  swapOutGVGs : SortedMap ℕ SwapOutInfo
  swapInFamilies : SortedMap ℕ SwapInInfo
  swapInGVGs : SortedMap ℕ SwapInInfo
  sp : Sp.Store
  payment : Payment.State
  /-- The events of the bank for payments out of the module account. -/
  payouts : List Payout

/-- The store before the first message. -/
def State.empty (p : Params) (sp : Sp.Store) (payment : Payment.State) : State where
  params := p
  gvgs := .empty
  families := .empty
  gvgSequence := 0
  gvgFamilySequence := 0
  gvgStatistics := .empty
  gvgFamilyStatistics := .empty
  swapOutFamilies := .empty
  swapOutGVGs := .empty
  swapInFamilies := .empty
  swapInGVGs := .empty
  sp := sp
  payment := payment
  payouts := []

/-- What a message reads from its `sdk.Context` and from the other modules. -/
structure Ctx extends Payment.Ctx where
  /-- `storageKeeper.GetExpectSecondarySPNumForECObject`. -/
  expectSecondarySPNum : ℕ
  /-- `DeriveVirtualPaymentAccount` for a group. -/
  deriveGVG : ℕ → Addr := fun id => 2 * id
  /-- `DeriveVirtualPaymentAccount` for a family. -/
  deriveFamily : ℕ → Addr := fun id => 2 * id + 1

/-- The `panic`s of the module. -/
inductive Panic
  /-- "not found gvg family when delete gvg" -/
  | familyNotFound
  /-- "remove gvg from family failed. err: %s" -/
  | removeGVG
  /-- "must get gvg statistics within sp" -/
  | statisticsNotFound
  /-- "must get vgf within sp" -/
  | familyStatisticsNotFound
  /-- "the available tokens is negative when withdraw" -/
  | negativeAvailableTokens
  /-- "secondary sp found but the index is not correct when swap out as secondary sp" -/
  | secondarySPIndex
  /-- `sdk.NewCoin` with a negative amount. -/
  | negativeCoinAmount
  /-- An index past the end of `secondarySpIDs`. -/
  | indexOutOfRange
  /-- `QuoRaw(0)`. -/
  | divisionByZero
  /-- `sdkmath.Int.Uint64` of a value out of range. -/
  | uint64OutOfBound
  /-- A panic of `x/payment`. -/
  | payment (p : Payment.Panic)
  deriving DecidableEq, Repr

/-- Why a swap out fails. -/
inductive SwapOutFailure
  /-- "the family(ID: %d) is not owned by primary sp(ID: %d)" -/
  | familyNotOwned
  /-- "the primary id (%d) in global virtual group is not match the primary sp id (%d)" -/
  | primaryMismatch
  /-- "the successor primary sp(ID: %d) can not be the secondary sp of gvg(%s)." -/
  | successorIsSecondary
  /-- "the successor sp(ID: %d) can not be the primary sp of gvg(%s)." -/
  | successorIsPrimary
  /-- "The sp(ID: %d) that needs swap out is not one of the secondary sps of gvg gvg(%s)." -/
  | notSecondary
  /-- "fail to settle GVG family %d", "fail to settle GVG %d" -/
  | settle
  /-- "SwapOutInfo of this gvg family(ID: %d) already exist", and for a group -/
  | alreadyExist
  /-- "The swap info not found in blockchain." -/
  | infoNotFound
  /-- "The successor sp(ID: %d) is mismatch with the specify successor sp (ID: %d)" -/
  | successorMismatch
  deriving DecidableEq, Repr

/-- Why a swap in fails. -/
inductive SwapInFailure
  /-- "The SP(ID=%d) can not swap itself" -/
  | self
  /-- "the family(ID: %d) primary SP(ID: %d) does not match the target SP(ID: %d) …" -/
  | targetMismatch
  /-- "the primary id (%d) in global virtual group does not match the target primary sp id (%d)" -/
  | primaryMismatch
  /-- "The SP(ID=%d) is already the primary SP of GVG(ID=%d)" -/
  | alreadyPrimary
  /-- "The sp(ID: %d) is already one of the secondary in this GVG(ID:%d)" -/
  | alreadySecondary
  /-- "The sp(ID: %d) that needs swap out is not one of the secondary sps of gvg gvg(%s)." -/
  | notSecondary
  /-- "can not swap into GVG which all SP are unique" -/
  | allUnique
  /-- "already exist SP(ID=%d) reserved the swap, please re-check the GVG after timestamp %d." -/
  | reserved
  /-- "already tried to swap in but expired" -/
  | expired
  /-- "The swap info not found in blockchain." -/
  | infoNotFound
  /-- "The SP(ID: %d) has not reserved the swap(swapInfo=%s)" -/
  | notReserved
  /-- "fail to settle GVG family %d", "fail to settle GVG %d" -/
  | settle
  /-- "the primary SP(ID: %d) can not swap into GVG's secondary (%s)." -/
  | successorIsPrimary
  deriving DecidableEq, Repr

/-- The errors of the module and of the bank, and the panics. -/
inductive Error
  | invalidSecondarySPCount (expected : ℕ)
  | duplicateSecondarySP (spID : ℕ)
  | storageProviderNotFound
  | storageProviderNotInService (status : Sp.Status)
  | storageProviderWrongStatus
  | storageProviderExitFailed
  | gvgFamilyNotExist
  | gvgNotExist
  | gvgNotEmpty
  | duplicateGVG
  | limitationExceed
  | withdrawFailed (spID primarySpID : ℕ)
  | withdrawAmountTooLarge
  | invalidDenom (got expected : String)
  | invalidSignature
  | swapOutFailed (why : SwapOutFailure)
  | swapInFailed (why : SwapInFailure)
  | settleFailed
  | spCanNotExit
  | invalidParameter
  /-- `ValidateBasic`. -/
  | invalidMessage
  /-- The bank: the account has less than it should send. -/
  | insufficientFunds (addr : Addr)
  /-- The bank: the recipient is not allowed to receive funds. -/
  | unauthorized (addr : Addr)
  | panic (p : Panic)
  deriving DecidableEq, Repr

/-- An error of `x/payment` that the caller replaces by its own; a panic goes through. -/
def ofPayment {α : Type} (e : Error) : Except Payment.Error α → Except Error α
  | .ok a => .ok a
  | .error (.panic p) => .error (.panic (.payment p))
  | .error _ => .error e

theorem ofPayment_eq_ok {α : Type} {e : Error} {x : Except Payment.Error α} {a : α} :
    ofPayment e x = .ok a ↔ x = .ok a := by
  cases x with
  | ok b => exact ⟨fun h => congrArg _ (Except.ok.inj h), fun h => congrArg _ (Except.ok.inj h)⟩
  | error err => cases err <;> simp [ofPayment]

/-! ### The bank -/

/-- `SendCoins` of one coin. -/
def State.sendCoins (s : State) (sender recipient : Addr) (amount : ℤ) : Except Error State :=
  if amount < 0 then .error (.panic .negativeCoinAmount)
  else if s.payment.balance sender < amount then .error (.insufficientFunds sender)
  else
    let paid := Function.update s.payment.balance sender (s.payment.balance sender - amount)
    .ok { s with payment := { s.payment with
      balance := Function.update paid recipient (paid recipient + amount) } }

/-- `SendCoinsFromAccountToModule`, to the module account. -/
def State.sendCoinsFromAccountToModule (s : State) (sender : Addr) (amount : ℤ) :
    Except Error State :=
  s.sendCoins sender moduleAddress amount

/-- `SendCoinsFromModuleToAccount`, from the module account. -/
def State.sendCoinsFromModuleToAccount (ctx : Ctx) (s : State) (recipient : Addr) (amount : ℤ) :
    Except Error State :=
  if ctx.blockedAddr recipient then .error (.unauthorized recipient)
  else do
    let s ← s.sendCoins moduleAddress recipient amount
    return { s with payouts := s.payouts ++ [⟨recipient, amount⟩] }

end VirtualGroup
end Moca
