/-
# Storage providers: the data of `x/sp`

`types/types.go`, `types/keys.go`, `types/params.go`, `types/errors.go` and the
protobuf records they refer to.  A provider is stored under its id and found by six
indexes: five of its addresses and its BLS public key.  A provider in maintenance
leaves a record under its operator address, which counts against its quota.

Ids are `uint32`, heights, times and durations are `int64` and wrap around, prices are
decimals with 18 digits.
-/

import Moca.Lib.Bytes
import Moca.VirtualGroup.Types
import Mathlib.Data.List.Lex

namespace Moca.Sp

open VirtualGroup (Coin)

/-! ### Records -/

/-- `Description`. -/
structure Description where
  moniker : String
  identity : String
  website : String
  details : String
  deriving DecidableEq, Repr

/-- The fields of a description, as the errors name them. -/
inductive DescriptionField
  | moniker
  | identity
  | website
  | details
  deriving DecidableEq, Repr

/-- `StorageProvider`, with the fields that only `x/sp` reads. -/
structure Provider extends StorageProvider where
  sealAddress : Addr
  gcAddress : Addr
  maintenanceAddress : Addr
  endpoint : String
  description : Description
  blsKey : Bytes
  deriving DecidableEq, Repr

/-- `MaintenanceRecord`. -/
structure MaintenanceRecord where
  height : ℤ
  requestDuration : ℤ
  actualDuration : ℤ
  requestAt : ℤ
  deriving DecidableEq, Repr

/-- `SpStoragePrice`, without the id of the provider, which is the key. -/
structure SpStoragePrice where
  updateTimeSec : ℤ
  readPrice : ℤ
  freeReadQuota : ℕ
  storePrice : ℤ
  deriving DecidableEq, Repr

/-- `GlobalSpStorePrice`, without its time, which is the key. -/
structure GlobalSpStorePrice where
  readPrice : ℤ
  primaryStorePrice : ℤ
  secondaryStorePrice : ℤ
  deriving DecidableEq, Repr

/-- `RewardInfo`. -/
structure RewardInfo where
  address : Addr
  amount : Coin
  deriving DecidableEq, Repr

/-- `Params`. -/
structure Params where
  depositDenom : String
  minDeposit : ℤ
  secondarySpStorePriceRatio : ℤ
  numOfHistoricalBlocksForMaintenanceRecords : ℤ
  maintenanceDurationQuota : ℤ
  numOfLockupBlocksForMaintenance : ℤ
  updateGlobalPriceInterval : ℕ
  updatePriceDisallowedDays : ℕ
  deriving DecidableEq, Repr

/-- `Params.Validate`, for a denomination that is well formed. -/
def Params.validate (p : Params) : Bool :=
  decide (0 ≤ p.minDeposit)
  && decide (0 < p.secondarySpStorePriceRatio ∧ p.secondarySpStorePriceRatio ≤ 10 ^ 18)
  && decide (p.numOfHistoricalBlocksForMaintenanceRecords ≠ 0)
  && decide (p.maintenanceDurationQuota ≠ 0)
  && decide (p.numOfLockupBlocksForMaintenance ≠ 0)

/-- `DefaultParams`. -/
def defaultParams : Params where
  depositDenom := "amoca"
  minDeposit := 10000 * 10 ^ 18
  secondarySpStorePriceRatio := 12 * 10 ^ 16
  numOfHistoricalBlocksForMaintenanceRecords := 864000
  maintenanceDurationQuota := 21600
  numOfLockupBlocksForMaintenance := 21600
  updateGlobalPriceInterval := 0
  updatePriceDisallowedDays := 2

theorem validate_defaultParams : defaultParams.validate = true := by decide

/-- `MaintenanceRecordsGCFrequencyInBlocks`. -/
def maintenanceRecordsGCFrequencyInBlocks : ℤ := 100

/-- `DoNotModifyDesc`. -/
def doNotModifyDesc : String := "[do-not-modify]"

/-- The byte before a BLS public key in the key of its index, `StorageProviderByBlsPubKeyKey`. -/
def blsPubKeyPrefix : Fin 256 := Bytes.low 0x30

/-! ### Messages -/

/-- `MsgCreateStorageProvider`; a maintenance address that is not an address is `none`. -/
structure MsgCreateStorageProvider where
  creator : Addr
  spAddress : Addr
  fundingAddress : Addr
  sealAddress : Addr
  approvalAddress : Addr
  gcAddress : Addr
  maintenanceAddress : Option Addr
  description : Description
  endpoint : String
  deposit : Coin
  readPrice : ℤ
  freeReadQuota : ℕ
  storePrice : ℤ
  blsKey : Bytes
  blsProof : Bytes
  deriving DecidableEq, Repr

/-- `MsgEditStorageProvider`; a field that is left empty is `none`. -/
structure MsgEditStorageProvider where
  spAddress : Addr
  endpoint : Option String := none
  description : Option Description := none
  sealAddress : Option Addr := none
  approvalAddress : Option Addr := none
  gcAddress : Option Addr := none
  maintenanceAddress : Option Addr := none
  blsKey : Option Bytes := none
  blsProof : Bytes := []
  deriving DecidableEq, Repr

/-! ### State, context and errors -/

/-- The store of `x/sp` and the bank. -/
structure State where
  params : Params
  providers : SortedMap ℕ Provider
  byOperatorAddr : SortedMap Addr ℕ
  byFundingAddr : SortedMap Addr ℕ
  bySealAddr : SortedMap Addr ℕ
  byApprovalAddr : SortedMap Addr ℕ
  byGcAddr : SortedMap Addr ℕ
  /-- The index by BLS public key; its keys are what follows `blsPubKeyPrefix`. -/
  byBlsKey : SortedMap Bytes ℕ
  spSequence : ℕ
  /-- `SpMaintenanceStats.Records`, by operator address. -/
  maintenanceStats : SortedMap Addr (List MaintenanceRecord)
  spStoragePrices : SortedMap ℕ SpStoragePrice
  globalSpStorePrices : SortedMap ℤ GlobalSpStorePrice
  balance : Addr → ℤ
  id_key : ∀ i sp, providers.find? i = some sp → sp.id = i

/-- The store before the first provider. -/
def State.empty (p : Params) (balance : Addr → ℤ) : State where
  params := p
  providers := .empty
  byOperatorAddr := .empty
  byFundingAddr := .empty
  bySealAddr := .empty
  byApprovalAddr := .empty
  byGcAddr := .empty
  byBlsKey := .empty
  spSequence := 0
  maintenanceStats := .empty
  spStoragePrices := .empty
  globalSpStorePrices := .empty
  balance := balance
  id_key := by simp

/-- What a message reads from its `sdk.Context` and from the other modules. -/
structure Ctx extends Payment.Ctx where
  blockHeight : ℤ
  /-- The address of the governance module account. -/
  govAddress : Addr := 0
  /-- `CheckDepositAuthorization`: the grant of the funding address to the governance account
  accepts the deposit. -/
  depositAuthorized : Addr → Coin → Bool := fun _ _ => true
  /-- `sdk.BLSPubKeyLength`. -/
  blsPubKeyLength : ℕ := 128
  /-- `checkBlsProof`: the proof is a signature of the hash of the key. -/
  blsProofOk : Bytes → Bytes → Bool := fun _ _ => true
  /-- `ValidateEndpointURL`. -/
  validEndpoint : String → Bool := fun _ => true
  /-- `time.Unix(t, 0).UTC().Month()`. -/
  month : ℤ → ℕ := fun _ => 1
  /-- `IsLastDaysOfTheMonth`, at the block time. -/
  isLastDaysOfTheMonth : ℕ → Bool := fun _ => false

/-- The errors of the module and of the bank. -/
inductive Error
  /-- "account %s not found" -/
  | accountNotFound (addr : Addr)
  | invalidMaintenanceAddress
  | signerNotSPOperator
  | signerNotGovModule
  | storageProviderNotFound
  | storageProviderNotInService
  | storageProviderOwnerExists
  | storageProviderFundingAddrExists
  | storageProviderSealAddrExists
  | storageProviderApprovalAddrExists
  | storageProviderGcAddrExists
  | storageProviderInvalidBlsKey
  | storageProviderBlsKeyExists
  | invalidBlsProof
  /-- "invalid moniker length; got: %d, max: %d", and for the other fields -/
  | invalidLength (field : DescriptionField) (got max : ℕ)
  | insufficientDepositAmount
  /-- "invalid coin denomination: got %s, expected %s" -/
  | invalidDenom (got expected : String)
  | depositUnauthorized
  /-- "the sp address mismatch" -/
  | depositAccountNotAllowed
  | storageProviderNotChanged
  | storageProviderStatusUpdateNotAllow
  | storageProviderPriceUpdateNotAllow
  | invalidParams
  /-- `ValidateBasic`. -/
  | invalidMessage
  /-- The bank: the account has less than it should send. -/
  | insufficientFunds (addr : Addr)
  /-- The bank: the recipient is not allowed to receive funds. -/
  | unauthorized (addr : Addr)
  /-- `sdk.NewCoins` with a negative amount. -/
  | negativeCoinAmount
  /-- "invalid initialization storage provider status in genesis block" -/
  | invalidGenesisStatus
  /-- "sp deposit pool balance is different from sp deposit coins: %s <-> %s" -/
  | depositPoolMismatch (balance deposits : ℤ)
  deriving DecidableEq, Repr

end Moca.Sp
