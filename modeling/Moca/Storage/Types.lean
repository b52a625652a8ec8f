/-
# Buckets and objects: the data of `x/storage`

`types/types.go`, `types/keys.go`, `types/params.go`, `types/errors.go` and the
protobuf records they refer to.  A bucket lies in a family of global virtual groups;
its local virtual groups (LVG) count what its sealed objects store and are charged
for in each global virtual group (GVG).  An object is found by name through the map
`ObjectKey → id`, and its record by id.

A name stands for its Keccak hash, which is what the keys of the store are made of;
different names have different hashes.  Sizes and counters are `uint64` and wrap
around, ids of buckets and objects are unbounded, prices are decimals with 18 digits.
-/

import Moca.VirtualGroup.Msg

namespace Moca

/-- `x + y` on a `uint64`. -/
def add64 (x y : ℕ) : ℕ := (x + y) % 2 ^ 64

/-- `x - y` on a `uint64`. -/
def sub64 (x y : ℕ) : ℕ := (x + (2 ^ 64 - y)) % 2 ^ 64

namespace Storage

/-- A bucket or object name: the Keccak hash of its text. -/
abbrev Name := ℕ

/-! ### Keys -/

/-- `GetObjectKey` and `GetShadowObjectKey`: the hashes of both names. -/
structure ObjectKey where
  bucketName : Name
  objectName : Name
  deriving DecidableEq, Repr

/-- The bytes of an object key, compared lexicographically. -/
def ObjectKey.bytes (k : ObjectKey) : ℕ ×ₗ ℕ := toLex (k.bucketName, k.objectName)

theorem ObjectKey.bytes_injective : Function.Injective ObjectKey.bytes := by
  rintro ⟨b, o⟩ ⟨b', o'⟩ h
  have h₁ : b = b' := congrArg (fun x => (ofLex x).1) h
  have h₂ : o = o' := congrArg (fun x => (ofLex x).2) h
  rw [h₁, h₂]

instance : LinearOrder ObjectKey := LinearOrder.lift' ObjectKey.bytes ObjectKey.bytes_injective

/-- `GetBucketFlowRateLimitKey`. -/
structure RateLimitKey where
  paymentAccount : Addr
  bucketOwner : Addr
  bucketName : Name
  deriving Repr

/-- The bytes of a rate limit key. -/
def RateLimitKey.bytes (k : RateLimitKey) : ℕ ×ₗ ℕ ×ₗ ℕ :=
  toLex (k.paymentAccount, toLex (k.bucketOwner, k.bucketName))

theorem RateLimitKey.bytes_injective : Function.Injective RateLimitKey.bytes := by
  rintro ⟨p, o, n⟩ ⟨p', o', n'⟩ h
  have h₁ : p = p' := congrArg (fun x => (ofLex x).1) h
  have h₂ : o = o' := congrArg (fun x => (ofLex (ofLex x).2).1) h
  have h₃ : n = n' := congrArg (fun x => (ofLex (ofLex x).2).2) h
  rw [h₁, h₂, h₃]

instance : LinearOrder RateLimitKey :=
  LinearOrder.lift' RateLimitKey.bytes RateLimitKey.bytes_injective

/-! ### Records -/

/-- `BucketStatus`. -/
inductive BucketStatus
  | created
  | discontinued
  | migrating
  deriving DecidableEq, Repr

/-- `ObjectStatus`. -/
inductive ObjectStatus
  | created
  | sealed
  | discontinued
  deriving DecidableEq, Repr

/-- `BucketInfo`, without its `Id`, which is the key it is stored under. -/
structure BucketInfo where
  owner : Addr
  bucketName : Name
  createAt : ℤ
  bucketStatus : BucketStatus := .created
  chargedReadQuota : ℕ
  paymentAddress : Addr
  globalVirtualGroupFamilyId : ℕ
  spAsDelegatedAgentDisabled : Bool := false
  deriving DecidableEq, Repr

/-- `LocalVirtualGroup`, without its `Id`, which is the key. -/
structure LocalVirtualGroup where
  globalVirtualGroupId : ℕ
  storedSize : ℕ := 0
  totalChargeSize : ℕ := 0
  deriving DecidableEq, Repr

/-- `InternalBucketInfo`.  `AppendLVG` only takes ids larger than the last one, so the list of
local virtual groups is a map sorted by id. -/
structure InternalBucketInfo where
  priceTime : ℤ
  totalChargeSize : ℕ := 0
  localVirtualGroups : SortedMap ℕ LocalVirtualGroup := .empty

/-- `ObjectInfo`, without its `Id`, which is the key.  Of the checksums only their number is
kept: none stands for `nil`. -/
structure ObjectInfo where
  owner : Addr
  /-- Not set when the owner of the bucket is the creator. -/
  creator : Option Addr := none
  bucketName : Name
  objectName : Name
  payloadSize : ℕ
  createAt : ℤ
  updatedAt : ℤ := 0
  objectStatus : ObjectStatus
  isUpdating : Bool := false
  localVirtualGroupId : ℕ := 0
  checksums : ℕ
  deriving DecidableEq, Repr

/-- The name key of an object. -/
def ObjectInfo.key (o : ObjectInfo) : ObjectKey := ⟨o.bucketName, o.objectName⟩

/-- `GetLatestUpdatedTime`. -/
def ObjectInfo.getLatestUpdatedTime (o : ObjectInfo) : ℤ :=
  if o.updatedAt ≠ 0 then o.updatedAt else o.createAt

/-- `ShadowObjectInfo`: the content that a sealed object is being updated to. -/
structure ShadowObjectInfo where
  operator : Addr
  id : ℕ
  payloadSize : ℕ
  updatedAt : ℤ
  checksums : ℕ
  deriving DecidableEq, Repr

/-- `MigrationBucketInfo`, as far as it is read. -/
structure MigrationBucketInfo where
  srcSpId : ℕ
  dstSpId : ℕ
  deriving DecidableEq, Repr

/-- `GVGMapping`, with the answer of the check of its signature. -/
structure GVGMapping where
  srcGlobalVirtualGroupId : ℕ
  dstGlobalVirtualGroupId : ℕ
  blsVerified : Bool := true
  deriving DecidableEq, Repr

/-- `common.Approval`, with the answer of the check of its signature. -/
structure Approval where
  expiredHeight : ℕ
  globalVirtualGroupFamilyId : ℕ := 0
  verified : Bool := true
  deriving DecidableEq, Repr

/-- `GlobalSpStorePrice` of `x/sp`: decimals with 18 digits, which are not negative. -/
structure GlobalSpStorePrice where
  readPrice : ℕ
  primaryStorePrice : ℕ
  secondaryStorePrice : ℕ
  deriving DecidableEq, Repr

/-! ### Parameters -/

/-- `VersionedParams`, as far as they are read. -/
structure VersionedParams where
  redundantDataChunkNum : ℕ
  redundantParityChunkNum : ℕ
  minChargeSize : ℕ
  deriving DecidableEq, Repr

/-- `Params`, as far as they are read. -/
structure Params where
  versionedParams : VersionedParams
  maxPayloadSize : ℕ
  maxBucketsPerAccount : ℕ
  discontinueCountingWindow : ℕ
  discontinueObjectMax : ℕ
  discontinueBucketMax : ℕ
  discontinueConfirmPeriod : ℤ
  discontinueDeletionMax : ℕ
  minQuotaUpdateInterval : ℕ
  maxLocalVirtualGroupNumPerBucket : ℕ
  deriving DecidableEq, Repr

/-- The versioned parameters are in the range of their types and positive. -/
def VersionedParams.validate (p : VersionedParams) : Bool :=
  decide (0 < p.redundantDataChunkNum ∧ p.redundantDataChunkNum < 2 ^ 32)
  && decide (0 < p.redundantParityChunkNum ∧ p.redundantParityChunkNum < 2 ^ 32)
  && decide (0 < p.minChargeSize ∧ p.minChargeSize < 2 ^ 64)

/-- `Params.Validate`, with the ranges of the types of the fields. -/
def Params.validate (p : Params) : Bool :=
  p.versionedParams.validate
  && decide (0 < p.maxPayloadSize ∧ p.maxPayloadSize < 2 ^ 64)
  && decide (0 < p.maxBucketsPerAccount ∧ p.maxBucketsPerAccount < 2 ^ 32)
  && decide (0 < p.discontinueCountingWindow ∧ p.discontinueCountingWindow < 2 ^ 64)
  && decide (p.discontinueObjectMax < 2 ^ 64)
  && decide (p.discontinueBucketMax < 2 ^ 64)
  && decide (0 < p.discontinueConfirmPeriod ∧ p.discontinueConfirmPeriod < 2 ^ 63)
  && decide (0 < p.discontinueDeletionMax ∧ p.discontinueDeletionMax < 2 ^ 64)
  && decide (p.minQuotaUpdateInterval < 2 ^ 64)
  && decide (0 < p.maxLocalVirtualGroupNumPerBucket ∧ p.maxLocalVirtualGroupNumPerBucket < 2 ^ 32)

/-- `DefaultParams`. -/
def defaultParams : Params where
  versionedParams :=
    { redundantDataChunkNum := 4, redundantParityChunkNum := 2, minChargeSize := 1024 * 1024 }
  maxPayloadSize := 64 * 1024 * 1024 * 1024
  maxBucketsPerAccount := 100
  discontinueCountingWindow := 10000
  discontinueObjectMax := 2 ^ 64 - 1
  discontinueBucketMax := 2 ^ 64 - 1
  discontinueConfirmPeriod := 604800
  discontinueDeletionMax := 100
  minQuotaUpdateInterval := 2592000
  maxLocalVirtualGroupNumPerBucket := 10

theorem validate_defaultParams : defaultParams.validate = true := by decide

/-! ### State, context and errors -/

/-- The store of `x/storage`, with the prices of `x/sp` and the stores of the modules it
calls. -/
structure State where
  params : Params
  versionedParams : SortedMap ℤ VersionedParams
  /-- `GlobalSpStorePrice` of `x/sp`, by update time. -/
  globalSpStorePrices : SortedMap ℤ GlobalSpStorePrice
  /-- Bucket name to bucket id. -/
  bucketIds : SortedMap Name ℕ
  buckets : SortedMap ℕ BucketInfo
  internalBuckets : SortedMap ℕ InternalBucketInfo
  bucketSequence : ℕ
  /-- Bucket and object name to object id. -/
  objectIds : SortedMap ObjectKey ℕ
  objects : SortedMap ℕ ObjectInfo
  shadowObjects : SortedMap ObjectKey ShadowObjectInfo
  objectSequence : ℕ
  lockedObjectCounts : SortedMap ℕ ℕ
  quotaUpdateTimes : SortedMap ℕ ℕ
  migrationBuckets : SortedMap ℕ MigrationBucketInfo
  rateLimits : SortedMap RateLimitKey ℤ
  /-- `BucketFlowRateLimitStatus.IsBucketLimited`, by bucket name. -/
  rateLimitStatuses : SortedMap Name Bool
  discontinueObjectCounts : SortedMap Addr ℕ
  discontinueBucketCounts : SortedMap Addr ℕ
  /-- The objects to be deleted, by time. -/
  discontinueObjectIds : SortedMap ℕ (List ℕ)
  /-- The buckets to be deleted, by time. -/
  discontinueBucketIds : SortedMap ℕ (List ℕ)
  /-- The status of an object before it was discontinued. -/
  discontinueObjectStatuses : SortedMap ℕ ObjectStatus
  bucketCounts : SortedMap Addr ℕ
  /-- The objects that the contract of the object tokens has a token for. -/
  objectTokens : SortedMap ℕ Unit
  virtualGroup : VirtualGroup.State

/-- The store before the first bucket, with the parameters and prices of the genesis. -/
def State.empty (p : Params) (versionedParams : SortedMap ℤ VersionedParams)
    (prices : SortedMap ℤ GlobalSpStorePrice) (virtualGroup : VirtualGroup.State) : State where
  params := p
  versionedParams := versionedParams
  globalSpStorePrices := prices
  bucketIds := .empty
  buckets := .empty
  internalBuckets := .empty
  bucketSequence := 0
  objectIds := .empty
  objects := .empty
  shadowObjects := .empty
  objectSequence := 0
  lockedObjectCounts := .empty
  quotaUpdateTimes := .empty
  migrationBuckets := .empty
  rateLimits := .empty
  rateLimitStatuses := .empty
  discontinueObjectCounts := .empty
  discontinueBucketCounts := .empty
  discontinueObjectIds := .empty
  discontinueBucketIds := .empty
  discontinueObjectStatuses := .empty
  bucketCounts := .empty
  objectTokens := .empty
  virtualGroup := virtualGroup

/-- What a message reads from its `sdk.Context` and from the other modules. -/
structure Ctx extends toVirtualGroup : VirtualGroup.Ctx where
  blockHeight : ℕ := 0
  /-- Whether the chain is the test network. -/
  isTestnet : Bool := false
  /-- The index of `x/sp` by seal address. -/
  spBySealAddr : Addr → Option ℕ := fun _ => none
  /-- The index of `x/sp` by garbage collection address. -/
  spByGcAddr : Addr → Option ℕ := fun _ => none
  /-- `MaintenanceAddress` of a storage provider. -/
  maintenanceAddress : ℕ → Addr := fun _ => 0
  /-- Whether `VerifyBucketPermission` or `VerifyObjectPermission` answers `EFFECT_ALLOW`. -/
  allowed : Bool := true
  /-- Whether the aggregated BLS signature of the secondary providers is right. -/
  blsVerified : Bool := true
  /-- Whether `CallEVM` goes through, as far as the tokens of objects allow. -/
  evmCall : Bool := true

/-- The context of the payment module. -/
def Ctx.payment (ctx : Ctx) : Payment.Ctx := ctx.toVirtualGroup.toCtx

/-- `ctx.WithValue(ForceUpdateStreamRecordKey, forced)`. -/
def Ctx.withForced (ctx : Ctx) (forced : Bool) : Ctx := { ctx with forced := forced }

/-- The `panic`s of the module. -/
inductive Panic
  /-- "Internal bucket Info not found" -/
  | internalBucketInfoNotFound
  /-- "Shadow Object Info not found" -/
  | shadowObjectInfoNotFound
  /-- "lvg not found in internal bucket info" -/
  | lvgNotFound
  /-- "Not allow to append a lvg which id is smaller than the last lvg" -/
  | appendLVG
  /-- "The store size is non-zero when total charge size is zero." -/
  | storeSizeNonZero
  /-- A nil local virtual group in `ChargeViaObjectChange`. -/
  | nilLVG
  /-- "migration bucket key is existed." -/
  | migrationBucketKey
  /-- `MustGetPrimarySPForBucket`: "gvg family (%d) not found." -/
  | gvgFamilyNotFound
  /-- `MustGetStorageProvider`. -/
  | storageProviderNotFound
  /-- "should not happen" in `ForceDeleteBucket`. -/
  | objectInfoNotFound
  /-- "get expect secondary sp num error, msg: %s" -/
  | expectSecondarySPNum
  /-- "gvg not found when get store size of family" -/
  | familyStoreSize
  /-- "should not happen" in `EndBlocker`. -/
  | endBlocker
  /-- A panic of `x/payment`. -/
  | payment (p : Payment.Panic)
  /-- A panic of `x/virtualgroup`. -/
  | virtualGroup (p : VirtualGroup.Panic)
  deriving DecidableEq, Repr

/-- The errors of the module and of those it calls, and the panics. -/
inductive Error
  | noSuchBucket
  | noSuchObject
  | bucketAlreadyExists
  | objectAlreadyExists
  | accessDenied
  | objectAlreadySealed
  | bucketNotEmpty
  | noSuchStorageProvider
  | objectNotCreated
  | tooLargeObject
  | invalidApproval
  | chargeFailed
  | updateQuotaFailed
  | invalidGlobalVirtualGroup
  | updateObjectNotAllowed
  | objectIsUpdating
  | objectIsNotUpdating
  | updatePaymentAccountFailed
  | objectChecksumsMissing
  | invalidChecksum
  | invalidObjectIDs
  | noMoreDiscontinue
  | bucketDiscontinued
  | bucketMigrating
  | invalidObjectStatus
  | invalidBucketStatus
  | migrationBucketFailed
  | virtualGroupOperateFailed
  | storageProviderNotFound
  | storageProviderNotInService
  | gvgFamilyNotExist
  | gvgNotExist
  | limitationExceed
  | insufficientStaking
  | settleFailed
  | notPaymentAccountOwner
  | invalidStreamAccountStatus
  | invalidParams
  /-- `ValidateBasic`. -/
  | invalidRequest
  /-- "no price found" -/
  | noPrice
  /-- "no versioned params found, ts:%d", of `x/storage` or of `x/payment` -/
  | noVersionedParams
  /-- "get GVG family failed: %d" -/
  | getGVGFamily (familyID : ℕ)
  /-- "get GVG failed: %d, %s" -/
  | getGVG (gvgID : ℕ)
  /-- "unexpected total store charge size: %s, %d" -/
  | unexpectedTotalChargeSize (totalChargeSize : ℕ)
  /-- "payment address and read quota can not be changed at the same time" -/
  | paymentAndQuotaChanged
  /-- "static balance is not enough for %s %s, lacks %s" -/
  | staticBalanceNotEnough (lacks : ℤ)
  /-- "payment account is not changed but the bucket is limited" -/
  | paymentNotChangedButLimited
  /-- "bucket is rate limited: %s" -/
  | bucketRateLimited
  /-- "the flow rate limit is not set for the bucket %s" -/
  | rateLimitNotSet
  /-- "the total flow rate of the bucket %s is greater than the flow rate limit" -/
  | rateOverLimit
  /-- The signature of the secondary providers does not verify. -/
  | invalidBlsSignature
  /-- `CallEVM` fails. -/
  | callEVM
  /-- An error of `x/payment`. -/
  | payment (e : Payment.Error)
  /-- An error of `x/virtualgroup`. -/
  | virtualGroup (e : VirtualGroup.Error)
  | panic (p : Panic)
  deriving DecidableEq, Repr

/-- An error of `x/payment` is passed on; a panic goes through. -/
def ofPayment {α : Type} : Except Payment.Error α → Except Error α
  | .ok a => .ok a
  | .error (.panic p) => .error (.panic (.payment p))
  | .error e => .error (.payment e)

theorem ofPayment_eq_ok {α : Type} {x : Except Payment.Error α} {a : α} :
    ofPayment x = .ok a ↔ x = .ok a := by
  cases x with
  | ok b => exact ⟨fun h => congrArg _ (Except.ok.inj h), fun h => congrArg _ (Except.ok.inj h)⟩
  | error err => cases err <;> simp [ofPayment]

/-- An error of `x/virtualgroup` is passed on; a panic goes through. -/
def ofVirtualGroup {α : Type} : Except VirtualGroup.Error α → Except Error α
  | .ok a => .ok a
  | .error (.panic p) => .error (.panic (.virtualGroup p))
  | .error e => .error (.virtualGroup e)

theorem ofVirtualGroup_eq_ok {α : Type} {x : Except VirtualGroup.Error α} {a : α} :
    ofVirtualGroup x = .ok a ↔ x = .ok a := by
  cases x with
  | ok b => exact ⟨fun h => congrArg _ (Except.ok.inj h), fun h => congrArg _ (Except.ok.inj h)⟩
  | error err => cases err <;> simp [ofVirtualGroup]

end Storage
end Moca
