/-
# Operations on buckets

The bucket part of `keeper/keeper.go`, `keeper/msg_server.go` and
`keeper/bucket_rate_limit.go`: create, delete, update, discontinue, migrate, and the
flow-rate limit of a bucket.
-/

import Moca.Storage.Groups

namespace Moca.Storage

/-! ### Lookups and checks -/

variable (ctx : Ctx) (s : State) (operator : Addr) (bucketName : Name) (bucketID : ℕ)
  (b : BucketInfo)

/-- `GetBucketInfo`, with the id. -/
def State.getBucketInfo : Option (ℕ × BucketInfo) :=
  (s.bucketIds.find? bucketName).bind fun id => (s.buckets.find? id).map fun b => (id, b)

/-- `GetBucketInfo`, where a missing bucket is an error. -/
def State.findBucket : Except Error (ℕ × BucketInfo) :=
  match s.getBucketInfo bucketName with
  | none => .error .noSuchBucket
  | some e => .ok e

/-- `SetBucketInfo`. -/
def State.setBucketInfo : State :=
  { s with buckets := s.buckets.insert bucketID b }

/-- `CheckBucketStatus`. -/
def BucketInfo.checkBucketStatus : Except Error Unit :=
  match b.bucketStatus with
  | .discontinued => .error .bucketDiscontinued
  | .migrating => .error .bucketMigrating
  | .created => .ok ()

/-- `spKeeper.MustGetStorageProvider`. -/
def State.mustGetStorageProvider (spID : ℕ) : Except Error Sp.StorageProvider :=
  match s.virtualGroup.sp.getStorageProvider spID with
  | none => .error (.panic .storageProviderNotFound)
  | some sp => .ok sp

/-- `MustGetPrimarySPForBucket`. -/
def State.mustGetPrimarySPForBucket : Except Error Sp.StorageProvider :=
  match s.virtualGroup.families.find? b.globalVirtualGroupFamilyId with
  | none => .error (.panic .gvgFamilyNotFound)
  | some family => s.mustGetStorageProvider family.primarySpId

/-- A provider serves an operator: it is in service, or it is in maintenance and its maintenance
account asks (`fromSpMaintenanceAcct`). -/
def serves (sp : Sp.StorageProvider) (operator : Addr) : Bool :=
  decide (sp.status = .inService ∨
    (sp.status = .inMaintenance ∧ operator = ctx.maintenanceAddress sp.id))

/-- `VerifySP`. -/
def verifySP (sp : Sp.StorageProvider) (operator : Addr) : Except Error Unit :=
  if serves ctx sp operator then .ok () else .error .storageProviderNotInService

/-- The expiration of an approval, and `VerifySPAndSignature`. -/
def verifyApproval (sp : Sp.StorageProvider) (approval : Approval) (operator : Addr) :
    Except Error Unit :=
  if approval.expiredHeight < ctx.blockHeight then .error .invalidApproval
  else do
    verifySP ctx sp operator
    if approval.verified then return () else .error .invalidApproval

/-- `VerifyBucketPermission` and `VerifyObjectPermission` have to allow an operation. -/
def checkAllowed : Except Error Unit :=
  if ctx.allowed then .ok () else .error .accessDenied

/-- `CallEVM` mints or burns the token of a resource. -/
def callEVM (ctx : Ctx) : Except Error Unit :=
  if ctx.evmCall then .ok () else .error .callEVM

/-- `CallEVM` mints the token of an object: the contract reverts if there is one. -/
def State.mintObject (id : ℕ) : Except Error State := do
  callEVM ctx
  if s.objectTokens.contains id then .error .callEVM
  else return { s with objectTokens := s.objectTokens.insert id () }

/-- `CallEVM` burns the token of an object: the contract reverts if there is none. -/
def State.burnObject (id : ℕ) : Except Error State := do
  callEVM ctx
  if s.objectTokens.contains id then return { s with objectTokens := s.objectTokens.erase id }
  else .error .callEVM

/-- `GetLockedObjectCount`. -/
def State.getLockedObjectCount : ℕ :=
  (s.lockedObjectCounts.find? bucketID).getD 0

/-! ### Create and delete -/

/-- `GetBucketCountByOwner`. -/
def State.getBucketCountByOwner (owner : Addr) : ℕ :=
  (s.bucketCounts.find? owner).getD 0

/-- The writes of `CreateBucket`, with the next id and `IncrementBucketCount`. -/
def State.storeBucket (ibi : InternalBucketInfo) : State :=
  let id := s.bucketSequence + 1
  { s with
    bucketSequence := id
    bucketIds := s.bucketIds.insert b.bucketName id
    buckets := s.buckets.insert id b
    internalBuckets := s.internalBuckets.insert id ibi
    bucketCounts := s.bucketCounts.insert b.owner (s.getBucketCountByOwner b.owner + 1) }

/-- `CreateBucket`. -/
def createBucket (owner : Addr) (bucketName : Name) (primarySpAcc : Addr)
    (paymentAddress : Option Addr) (chargedReadQuota : ℕ) (approval : Approval) :
    Except Error State :=
  if 0 < s.params.maxBucketsPerAccount ∧
      s.params.maxBucketsPerAccount ≤ s.getBucketCountByOwner owner then .error .accessDenied
  else if s.bucketIds.contains bucketName then .error .bucketAlreadyExists
  else
    match s.virtualGroup.sp.getStorageProviderByOperatorAddr primarySpAcc with
    | none => .error .noSuchStorageProvider
    | some sp =>
      if serves ctx sp owner = false then .error .noSuchStorageProvider
      else do
        verifyApproval ctx sp approval owner
        let _ ← s.getAndCheckGVGFamilyAvailableForNewBucket approval.globalVirtualGroupFamilyId
        let b : BucketInfo :=
          { owner := owner
            bucketName := bucketName
            createAt := ctx.blockTime
            chargedReadQuota := chargedReadQuota
            paymentAddress := paymentAddress.getD owner
            globalVirtualGroupFamilyId := approval.globalVirtualGroupFamilyId }
        let (s, ibi) ← s.chargeBucketReadFee ctx b { priceTime := ctx.blockTime }
        callEVM ctx
        return s.storeBucket b ibi

/-- `isNonEmptyBucket`. -/
def State.isNonEmptyBucket : Bool :=
  s.objectIds.entries.any fun e => decide (e.1.bucketName = bucketName)

/-- The writes of `doDeleteBucket`, with `DecrementBucketCount`. -/
def State.removeBucket : State :=
  { s with
    bucketIds := s.bucketIds.erase b.bucketName
    buckets := s.buckets.erase bucketID
    quotaUpdateTimes := s.quotaUpdateTimes.erase bucketID
    internalBuckets := s.internalBuckets.erase bucketID
    migrationBuckets := s.migrationBuckets.erase bucketID
    lockedObjectCounts := s.lockedObjectCounts.erase bucketID
    rateLimitStatuses := s.rateLimitStatuses.erase b.bucketName
    bucketCounts :=
      if 0 < s.getBucketCountByOwner b.owner then
        s.bucketCounts.insert b.owner (s.getBucketCountByOwner b.owner - 1)
      else s.bucketCounts }

/-- `doDeleteBucket`. -/
def State.doDeleteBucket : Except Error State := do
  callEVM ctx
  return s.removeBucket bucketID b

/-- Whether some local virtual group still counts stored or charged bytes. -/
def InternalBucketInfo.hasNonEmptyLVG (ibi : InternalBucketInfo) : Bool :=
  ibi.localVirtualGroups.entries.any fun e =>
    decide (e.2.storedSize ≠ 0 ∨ e.2.totalChargeSize ≠ 0)

/-- `DeleteBucket`. -/
def deleteBucket : Except Error State := do
  let (bucketID, b) ← s.findBucket bucketName
  checkAllowed ctx
  if s.isNonEmptyBucket bucketName then .error .bucketNotEmpty
  else do
    let ibi ← s.mustGetInternalBucketInfo bucketID
    if ibi.hasNonEmptyLVG then .error .virtualGroupOperateFailed
    else do
      let s ← s.unChargeBucketReadFee ctx b ibi
      s.doDeleteBucket ctx bucketID b

/-! ### Update -/

/-- `getQuotaUpdateTime`. -/
def State.getQuotaUpdateTime : ℕ :=
  (s.quotaUpdateTimes.find? bucketID).getD (uint64 b.createAt)

/-- The new read quota of `UpdateBucketInfo`: it may be lowered only after a while. -/
def State.updateQuota (quota : Option ℕ) : Except Error (State × ℕ) :=
  match quota with
  | none => .ok (s, b.chargedReadQuota)
  | some q =>
    if q = b.chargedReadQuota then .ok (s, q)
    else if q < b.chargedReadQuota ∧
        uint64 ctx.blockTime <
          add64 (s.getQuotaUpdateTime bucketID b) s.params.minQuotaUpdateInterval then
      .error .updateQuotaFailed
    else .ok ({ s with
      quotaUpdateTimes := s.quotaUpdateTimes.insert bucketID (uint64 ctx.blockTime) }, q)

/-- The new payer of `UpdateBucketInfo`: it may change only while no object is locked. -/
def State.updatePaymentAddress (paymentAddress : Option Addr) : Except Error Addr :=
  match paymentAddress with
  | none => .ok b.paymentAddress
  | some a =>
    if a ≠ b.paymentAddress ∧ s.getLockedObjectCount bucketID ≠ 0 then
      .error .updatePaymentAccountFailed
    else .ok a

/-- `UpdateBucketInfo`. -/
def updateBucketInfo (quota : Option ℕ) (paymentAddress : Option Addr) : Except Error State := do
  let (bucketID, b) ← s.findBucket bucketName
  let sp ← s.mustGetPrimarySPForBucket b
  if sp.status.isExiting then .error .updateQuotaFailed
  else do
    checkAllowed ctx
    let (s, q) ← s.updateQuota ctx bucketID b quota
    let paymentAcc ← s.updatePaymentAddress bucketID b paymentAddress
    let ibi ← s.mustGetInternalBucketInfo bucketID
    let (s, b, ibi) ← s.updateBucketInfoAndCharge ctx b ibi paymentAcc q
    return (s.setBucketInfo bucketID b).setInternalBucketInfo bucketID ibi

/-- `ToggleSPAsDelegatedAgent`. -/
def toggleSPAsDelegatedAgent : Except Error State := do
  let (bucketID, b) ← s.findBucket bucketName
  if operator ≠ b.owner then .error .accessDenied
  else
    let b := { b with spAsDelegatedAgentDisabled := !b.spAsDelegatedAgentDisabled }
    return s.setBucketInfo bucketID b

/-! ### Discontinue -/

/-- A storage provider found by its garbage collection address, in service. -/
def State.gcProvider : Except Error Sp.StorageProvider :=
  match (ctx.spByGcAddr operator).bind s.virtualGroup.sp.getStorageProvider with
  | none => .error .noSuchStorageProvider
  | some sp => if sp.status ≠ .inService then .error .storageProviderNotInService else .ok sp

/-- The key of the deletion queues: the end of the confirm period. -/
def State.deleteAt : ℕ :=
  uint64 (int64 (ctx.blockTime + s.params.discontinueConfirmPeriod))

/-- `appendDiscontinueBucketIDs` and `AppendDiscontinueObjectIds`. -/
def appendIds (m : SortedMap ℕ (List ℕ)) (timestamp : ℕ) (ids : List ℕ) : SortedMap ℕ (List ℕ) :=
  m.insert timestamp ((m.find? timestamp).getD [] ++ ids)

/-- `DiscontinueBucket`. -/
def discontinueBucket : Except Error State := do
  let sp ← s.gcProvider ctx operator
  let (bucketID, b) ← s.findBucket bucketName
  if b.bucketStatus = .discontinued then .error .invalidBucketStatus
  else do
    let spInState ← s.mustGetPrimarySPForBucket b
    if sp.id ≠ spInState.id then .error .accessDenied
    else
      let count := (s.discontinueBucketCounts.find? operator).getD 0
      if s.params.discontinueBucketMax < add64 count 1 then .error .noMoreDiscontinue
      else return { s.setBucketInfo bucketID { b with bucketStatus := .discontinued } with
        discontinueBucketIds := appendIds s.discontinueBucketIds (s.deleteAt ctx) [bucketID]
        discontinueBucketCounts := s.discontinueBucketCounts.insert operator (add64 count 1) }

/-! ### Migration -/

/-- The stream record of the payer is there and active. -/
def State.checkPayerActive : Except Error Unit :=
  match s.virtualGroup.payment.streamRecords.find? b.paymentAddress with
  | none => .error .invalidStreamAccountStatus
  | some r => if r.status = .frozen then .error .invalidStreamAccountStatus else .ok ()

/-- `MigrateBucket`. -/
def migrateBucket (dstSpID : ℕ) (approval : Approval) : Except Error State := do
  let (bucketID, b) ← s.findBucket bucketName
  if operator ≠ b.owner then .error .accessDenied
  else if b.bucketStatus ≠ .created then .error .invalidBucketStatus
  else do
    let srcSP ← s.mustGetPrimarySPForBucket b
    match s.virtualGroup.sp.getStorageProvider dstSpID with
    | none => .error .storageProviderNotFound
    | some dstSP =>
      if srcSP.id = dstSP.id then .error .migrationBucketFailed
      else if srcSP.isInService = false ∨ dstSP.isInService = false then
        .error .storageProviderNotInService
      else do
        s.checkPayerActive b
        verifyApproval ctx dstSP approval operator
        if s.isBucketRateLimited b.bucketName then .error .bucketRateLimited
        else if s.migrationBuckets.contains bucketID then .error (.panic .migrationBucketKey)
        else return { s.setBucketInfo bucketID { b with bucketStatus := .migrating } with
          migrationBuckets := s.migrationBuckets.insert bucketID ⟨srcSP.id, dstSP.id⟩ }

/-- The end of a migration that does not take place. -/
def State.stopMigration : State :=
  { s.setBucketInfo bucketID { b with bucketStatus := .created } with
    migrationBuckets := s.migrationBuckets.erase bucketID }

/-- `CancelBucketMigration`. -/
def cancelBucketMigration : Except Error State := do
  let (bucketID, b) ← s.findBucket bucketName
  if operator ≠ b.owner then .error .accessDenied
  else if b.bucketStatus ≠ .migrating then .error .invalidBucketStatus
  else if s.migrationBuckets.contains bucketID = false then .error .migrationBucketFailed
  else return s.stopMigration bucketID b

/-- `RejectBucketMigration`. -/
def rejectBucketMigration : Except Error State := do
  let (bucketID, b) ← s.findBucket bucketName
  if b.bucketStatus ≠ .migrating then .error .invalidBucketStatus
  else
    match s.migrationBuckets.find? bucketID with
    | none => .error .migrationBucketFailed
    | some info => do
      let sp ← s.mustGetStorageProvider info.dstSpId
      if sp.operatorAddress ≠ operator then .error .accessDenied
      else return s.stopMigration bucketID b

/-- `virtualGroupKeeper.GetGVGFamily` in `CompleteMigrateBucket`. -/
def State.findFamily (familyID : ℕ) : Except Error VirtualGroup.GlobalVirtualGroupFamily :=
  match s.virtualGroup.families.find? familyID with
  | none => .error .gvgFamilyNotExist
  | some family => .ok family

/-- The checks of `CompleteMigrateBucket` on the destination provider. -/
def State.checkMigration : Except Error Unit :=
  match s.virtualGroup.sp.getStorageProviderByOperatorAddr operator with
  | none => .error .storageProviderNotFound
  | some dstSP =>
    if b.bucketStatus ≠ .migrating then .error .invalidBucketStatus
    else
      match s.migrationBuckets.find? bucketID with
      | none => .error .migrationBucketFailed
      | some info => if dstSP.id ≠ info.dstSpId then .error .migrationBucketFailed else .ok ()

/-- `CompleteMigrateBucket`. -/
def completeMigrateBucket (gvgFamilyID : ℕ) (mappings : List GVGMapping) : Except Error State := do
  let (bucketID, b) ← s.findBucket bucketName
  s.checkMigration operator bucketID b
  let _ ← s.findFamily gvgFamilyID
  let srcFamily ← s.findFamily b.globalVirtualGroupFamilyId
  s.checkPayerActive b
  let sp ← s.mustGetPrimarySPForBucket b
  let vg ← ofVirtualGroup (s.virtualGroup.settleAndDistributeGVGFamily ctx.toVirtualGroup
    .settleFailed sp srcFamily)
  let s := { s with virtualGroup := vg }
  let ibi ← s.mustGetInternalBucketInfo bucketID
  let s ← s.unChargeBucketReadStoreFee ctx b ibi
  let b := { b with globalVirtualGroupFamilyId := gvgFamilyID }
  s.verifyGVGSignatures mappings
  let s ← s.rebindingVirtualGroup ctx bucketID b ibi mappings
  return s.stopMigration bucketID b

/-! ### Flow-rate limit -/

/-- `SetBucketFlowRateLimit`, with its `ValidateBasic`. -/
def setBucketFlowRateLimit (bucketOwner paymentAccount : Addr) (bucketName : Name) (rateLimit : ℤ) :
    Except Error State :=
  if rateLimit < 0 then .error .invalidRequest
  else if s.isPaymentAccountOwner paymentAccount operator = false then
    .error .notPaymentAccountOwner
  else do
    let s ← match s.getBucketInfo bucketName with
      | none => pure s
      | some (bucketID, b) =>
        if b.paymentAddress ≠ paymentAccount ∨ b.owner ≠ bucketOwner then pure s
        else s.setFlowRateLimit ctx bucketID b rateLimit
    return { s with
      rateLimits := s.rateLimits.insert ⟨paymentAccount, bucketOwner, bucketName⟩ rateLimit }

end Moca.Storage
