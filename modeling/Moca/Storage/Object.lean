/-
# Operations on objects

The object part of `keeper/keeper.go`: create, seal, reject, cancel, copy, update,
delete and discontinue.  An object with content is created locked and becomes stored
when its primary provider seals it; an empty object is stored at once.  A sealed
object is updated through a shadow object, which is locked until the new content is
sealed.
-/

import Moca.Storage.Bucket

namespace Moca.Storage

/-! ### Lookups and writes -/

variable (ctx : Ctx) (s : State) (operator : Addr) (bucketName objectName : Name) (bucketID : ℕ)
  (b : BucketInfo)

/-- `GetObjectInfo`, with the id; a missing object is an error. -/
def State.findObject : Except Error (ℕ × ObjectInfo) :=
  match (s.objectIds.find? ⟨bucketName, objectName⟩).bind fun id =>
      (s.objects.find? id).map fun o => (id, o) with
  | none => .error .noSuchObject
  | some e => .ok e

/-- `MustGetShadowObjectInfo`. -/
def State.mustGetShadowObjectInfo : Except Error ShadowObjectInfo :=
  match s.shadowObjects.find? ⟨bucketName, objectName⟩ with
  | none => .error (.panic .shadowObjectInfoNotFound)
  | some sh => .ok sh

/-- `SetObjectInfo`. -/
def State.setObjectInfo (id : ℕ) (o : ObjectInfo) : State :=
  { s with objects := s.objects.insert id o }

/-- The writes of a new object, under the next id. -/
def State.storeObject (key : ObjectKey) (o : ObjectInfo) : State :=
  let id := s.objectSequence + 1
  { s with
    objectSequence := id
    objectIds := s.objectIds.insert key id
    objects := s.objects.insert id o }

/-- The removal of a name key and an object. -/
def State.removeObject (id : ℕ) (bucketName objectName : Name) : State :=
  { s with
    objectIds := s.objectIds.erase ⟨bucketName, objectName⟩
    objects := s.objects.erase id }

/-- The removal of a shadow object. -/
def State.removeShadow : State :=
  { s with shadowObjects := s.shadowObjects.erase ⟨bucketName, objectName⟩ }

/-- `IncreaseLockedObjectCount`. -/
def State.increaseLockedObjectCount : State :=
  { s with
    lockedObjectCounts :=
      s.lockedObjectCounts.insert bucketID (s.getLockedObjectCount bucketID + 1) }

/-- `DecreaseLockedObjectCount`: it does not go below zero. -/
def State.decreaseLockedObjectCount : State :=
  { s with
    lockedObjectCounts :=
      s.lockedObjectCounts.insert bucketID (s.getLockedObjectCount bucketID - 1) }

/-! ### Create -/

/-- The checks of a delegated create or update: only the primary provider may be an agent. -/
def checkDelegated (sp : Sp.StorageProvider) (operator : Addr) (delegator : Option Addr) :
    Except Error Unit :=
  if delegator.isSome then
    if b.spAsDelegatedAgentDisabled then .error .accessDenied
    else if operator ≠ sp.operatorAddress then .error .accessDenied
    else .ok ()
  else .ok ()

/-- The part of `CreateObject` and `CopyObject` that charges or locks the fee and writes the
object: an empty object is sealed at once. -/
def State.addObject (key : ObjectKey) (o : ObjectInfo) : Except Error State :=
  if o.payloadSize = 0 then do
    let (s, o) ← s.sealEmptyObjectOnVirtualGroup ctx bucketID b { o with objectStatus := .sealed }
    return s.storeObject key o
  else do
    let o := { o with objectStatus := .created }
    let s ← s.lockObjectStoreFee ctx bucketID b o.getLatestUpdatedTime o.payloadSize
    return (s.increaseLockedObjectCount bucketID).storeObject key o

/-- `CreateObject`, for a delegator if the operator is an agent. -/
def createObject (payloadSize checksums : ℕ) (delegator : Option Addr) : Except Error State :=
  if s.params.maxPayloadSize < payloadSize then .error .tooLargeObject
  else do
    let (bucketID, b) ← s.findBucket bucketName
    b.checkBucketStatus
    let sp ← s.mustGetPrimarySPForBucket b
    checkDelegated b sp operator delegator
    checkAllowed ctx
    verifySP ctx sp operator
    if s.objectIds.contains ⟨bucketName, objectName⟩ then .error .objectAlreadyExists
    else
      let creator := delegator.getD operator
      s.addObject ctx bucketID b ⟨bucketName, objectName⟩
        { owner := b.owner
          creator := if creator = b.owner then none else some creator
          bucketName := bucketName
          objectName := objectName
          payloadSize := payloadSize
          createAt := ctx.blockTime
          objectStatus := .created
          checksums := checksums }

/-- `CopyObject`: a destination name that is in use is written over. -/
def copyObject (srcBucketName srcObjectName dstBucketName dstObjectName : Name)
    (approval : Approval) : Except Error State := do
  let _ ← s.findBucket srcBucketName
  let (dstID, dst) ← s.findBucket dstBucketName
  let dstPrimarySP ← s.mustGetPrimarySPForBucket dst
  dst.checkBucketStatus
  let (_, src) ← s.findObject srcBucketName srcObjectName
  if src.isUpdating then .error .accessDenied
  else do
    checkAllowed ctx
    verifyApproval ctx dstPrimarySP approval operator
    s.addObject ctx dstID dst ⟨dstBucketName, dstObjectName⟩
      { owner := operator
        bucketName := dst.bucketName
        objectName := dstObjectName
        payloadSize := src.payloadSize
        createAt := ctx.blockTime
        objectStatus := .created
        checksums := src.checksums }

/-! ### Seal -/

/-- A storage provider found by its seal address. -/
def State.sealProvider : Except Error Sp.StorageProvider :=
  match (ctx.spBySealAddr operator).bind s.virtualGroup.sp.getStorageProvider with
  | none => .error .noSuchStorageProvider
  | some sp => .ok sp

/-- `UnChargeObjectStoreFee` on the stored record of the bucket. -/
def State.unChargeStored (o : ObjectInfo) : Except Error State := do
  let ibi ← s.mustGetInternalBucketInfo bucketID
  let (s, ibi) ← s.unChargeObjectStoreFee ctx b ibi o
  return s.setInternalBucketInfo bucketID ibi

/-- The part of `SealObject` for an object with new content: the old content is uncharged and
taken out, and the object takes over the data of its shadow. -/
def State.takeOverShadow (bucketName objectName : Name) (o : ObjectInfo) (checksums : ℕ) :
    Except Error (State × ObjectInfo) := do
  let s ← s.unChargeStored ctx bucketID b o
  let s ← s.deleteObjectFromVirtualGroup bucketID o
  let sh ← s.mustGetShadowObjectInfo bucketName objectName
  if sh.checksums = 0 ∧ checksums = 0 then .error .objectChecksumsMissing
  else return (s.removeShadow b.bucketName objectName,
    { o with
      updatedAt := sh.updatedAt
      checksums := if sh.checksums = 0 then checksums else sh.checksums
      payloadSize := sh.payloadSize
      isUpdating := false })

/-- The checks of `SealObject` on the group that the object is to be sealed into. -/
def State.checkSealGVG (spID gvgID : ℕ) (o : ObjectInfo) : Except Error Unit :=
  match s.virtualGroup.gvgs.find? gvgID with
  | none => .error .gvgNotExist
  | some gvg =>
    if gvg.familyId ≠ b.globalVirtualGroupFamilyId ∨ gvg.primarySpId ≠ spID then
      .error .invalidGlobalVirtualGroup
    else do
      let expected ← s.getExpectSecondarySPNumForECObject o.getLatestUpdatedTime
      if expected ≠ gvg.secondarySpIds.length then .error .invalidGlobalVirtualGroup
      else if ctx.blsVerified then return () else .error .invalidBlsSignature

/-- `SealObject` and `SealObjectV2`. -/
def sealObject (gvgID checksums : ℕ) : Except Error State := do
  let (bucketID, b) ← s.findBucket bucketName
  let sp ← s.sealProvider ctx operator
  let spInState ← s.mustGetPrimarySPForBucket b
  if sp.id ≠ spInState.id then .error .accessDenied
  else do
    let (id, o) ← s.findObject bucketName objectName
    if o.checksums = 0 ∧ checksums = 0 then .error .objectChecksumsMissing
    else do
      let o := { o with checksums := if o.checksums = 0 then checksums else o.checksums }
      let (s, o) ←
        if o.isUpdating = true ∧ o.objectStatus = .sealed then
          s.takeOverShadow ctx bucketID b bucketName objectName o checksums
        else if o.objectStatus ≠ .created then .error .objectAlreadySealed
        else pure (s, o)
      s.checkSealGVG ctx b spInState.id gvgID o
      let (s, o) ← s.sealObjectOnVirtualGroup ctx bucketID b gvgID o
      let s := (s.decreaseLockedObjectCount bucketID).setObjectInfo id
        { o with objectStatus := .sealed }
      s.mintObject ctx id

/-! ### Delete -/

/-- `CancelCreateObject`. -/
def cancelCreateObject : Except Error State := do
  let (bucketID, b) ← s.findBucket bucketName
  let (id, o) ← s.findObject bucketName objectName
  let _ ← s.mustGetPrimarySPForBucket b
  if o.objectStatus ≠ .created then .error .objectNotCreated
  else if ctx.allowed = false ∧ some operator ≠ o.creator then .error .accessDenied
  else do
    let s ← s.unlockObjectStoreFee ctx b o
    return (s.decreaseLockedObjectCount bucketID).removeObject id bucketName objectName

/-- `UnlockShadowObjectFeeAndDeleteShadowObjectInfo`, with the count of locked objects. -/
def State.dropShadow (bucketName objectName : Name) : Except Error State := do
  let sh ← s.mustGetShadowObjectInfo bucketName objectName
  let s ← s.unlockShadowObjectStoreFee ctx b sh
  return (s.removeShadow b.bucketName objectName).decreaseLockedObjectCount bucketID

/-- `doDeleteObject`: the token of an object that was sealed with content is burnt. -/
def State.doDeleteObject (id : ℕ) (o : ObjectInfo) (originalStatus : ObjectStatus) :
    Except Error State := do
  let s := s.removeObject id b.bucketName o.objectName
  let s ← if o.localVirtualGroupId ≠ 0 then s.deleteObjectFromVirtualGroup bucketID o else pure s
  if originalStatus = .sealed ∧ 0 < o.payloadSize then s.burnObject ctx id else return s

/-- `DeleteObject`. -/
def deleteObject : Except Error State := do
  let (bucketID, b) ← s.findBucket bucketName
  let (id, o) ← s.findObject bucketName objectName
  if o.objectStatus = .discontinued then .error .invalidObjectStatus
  else if o.objectStatus = .created then cancelCreateObject ctx s operator bucketName objectName
  else do
    checkAllowed ctx
    let s ← if o.isUpdating then s.dropShadow ctx bucketID b b.bucketName o.objectName else pure s
    let s ← s.unChargeStored ctx bucketID b o
    s.doDeleteObject ctx bucketID b id o o.objectStatus

/-- `RejectSealObject`. -/
def rejectSealObject : Except Error State := do
  let (bucketID, b) ← s.findBucket bucketName
  let (id, o) ← s.findObject bucketName objectName
  let spInState ← s.mustGetPrimarySPForBucket b
  if o.objectStatus ≠ .created ∧ o.isUpdating = false then .error .objectNotCreated
  else do
    let sp ← s.sealProvider ctx operator
    if sp.isInService = false ∧ sp.isInMaintenance = false then .error .storageProviderNotInService
    else if sp.id ≠ spInState.id then .error .accessDenied
    else if o.isUpdating then do
      let s ← s.dropShadow ctx bucketID b bucketName objectName
      return s.setObjectInfo id { o with isUpdating := false }
    else do
      let s ← s.unlockObjectStoreFee ctx b o
      return (s.removeObject id bucketName objectName).decreaseLockedObjectCount bucketID

/-! ### Discontinue and forced deletion -/

/-- One object of `DiscontinueObject`. -/
def State.discontinueOne (s : State) (id : ℕ) : Except Error State :=
  match s.objects.find? id with
  | none => .error .invalidObjectIDs
  | some o =>
    if o.bucketName ≠ bucketName then .error .invalidObjectIDs
    else if o.objectStatus = .discontinued then .error .invalidObjectIDs
    else .ok { s.setObjectInfo id { o with objectStatus := .discontinued } with
      discontinueObjectStatuses := s.discontinueObjectStatuses.insert id o.objectStatus }

/-- The successor in a swap of the primary provider of the family may discontinue objects as
well. -/
def State.checkDiscontinuer (sp spInState : Sp.StorageProvider) : Except Error Unit :=
  if sp.id = spInState.id then .ok ()
  else if (s.virtualGroup.swapInFamilies.find? b.globalVirtualGroupFamilyId).any fun info =>
      decide (info.targetSpId = spInState.id ∧ info.successorSpId = sp.id) then .ok ()
  else .error .accessDenied

/-- `DiscontinueObject`, with its `ValidateBasic`. -/
def discontinueObject (objectIDs : List ℕ) : Except Error State :=
  if objectIDs = [] ∨ 128 < objectIDs.length then .error .invalidObjectIDs
  else do
    let sp ← s.gcProvider ctx operator
    let (_, b) ← s.findBucket bucketName
    if b.bucketStatus = .discontinued then .error .invalidBucketStatus
    else do
      let spInState ← s.mustGetPrimarySPForBucket b
      s.checkDiscontinuer b sp spInState
      let count := (s.discontinueObjectCounts.find? operator).getD 0
      if s.params.discontinueObjectMax < add64 count objectIDs.length then
        .error .noMoreDiscontinue
      else do
        let s ← objectIDs.foldlM (State.discontinueOne bucketName) s
        return { s with
          discontinueObjectIds := appendIds s.discontinueObjectIds (s.deleteAt ctx) objectIDs
          discontinueObjectCounts :=
            s.discontinueObjectCounts.insert operator (add64 count objectIDs.length) }

/-- `getAndDeleteDiscontinueObjectStatus`. -/
def State.getAndDeleteDiscontinueObjectStatus (id : ℕ) : Except Error (State × ObjectStatus) :=
  match s.discontinueObjectStatuses.find? id with
  | none => .error .invalidObjectStatus
  | some st =>
    .ok ({ s with discontinueObjectStatuses := s.discontinueObjectStatuses.erase id }, st)

/-- The part of a forced deletion that depends on the status before the object was discontinued:
the fee is unlocked or uncharged, and a shadow object goes as well. -/
def State.releaseObject (o : ObjectInfo) : ObjectStatus → Except Error State
  | .created => do
    let s ← s.unlockObjectStoreFee ctx b o
    return s.decreaseLockedObjectCount bucketID
  | .sealed => do
    let s ← s.unChargeStored ctx bucketID b o
    if o.isUpdating then s.dropShadow ctx bucketID b b.bucketName o.objectName else return s
  | .discontinued => .ok s

/-- `ForceDeleteObject`. -/
def State.forceDeleteObject (id : ℕ) : Except Error State :=
  match s.objects.find? id with
  | none => .ok s
  | some o => do
    let (bucketID, b) ← s.findBucket o.bucketName
    let (s, st) ← s.getAndDeleteDiscontinueObjectStatus id
    let _ ← s.mustGetPrimarySPForBucket b
    let s ← s.releaseObject ctx bucketID b o st
    s.doDeleteObject ctx bucketID b id o st

/-- One object of `ForceDeleteBucket`: it need not be discontinued itself. -/
def State.forceDeleteEntry (s : State) (id : ℕ) : Except Error State :=
  match s.objects.find? id with
  | none => .error (.panic .objectInfoNotFound)
  | some o => do
    let (s, st) ←
      if o.objectStatus = .discontinued then s.getAndDeleteDiscontinueObjectStatus id
      else pure (s, o.objectStatus)
    let s ← s.releaseObject ctx bucketID b o st
    s.doDeleteObject ctx bucketID b id o st

/-- The loop of `ForceDeleteBucket`: it also returns how many objects were deleted, and whether
the iterator came to its end. -/
def State.forceDeleteEntries (ctx : Ctx) (bucketID : ℕ) (b : BucketInfo) (cap : ℕ) :
    List (ObjectKey × ℕ) → State → ℕ → Except Error (State × ℕ × Bool)
  | [], s, deleted => .ok (s, deleted, true)
  | e :: rest, s, deleted =>
    if cap ≤ deleted then .ok (s, deleted, false)
    else do
      let s ← s.forceDeleteEntry ctx bucketID b e.2
      State.forceDeleteEntries ctx bucketID b cap rest s (deleted + 1)

/-- `ForceDeleteBucket`: whether the bucket is deleted, and how many objects were. -/
def State.forceDeleteBucket (cap : ℕ) : Except Error (State × Bool × ℕ) :=
  match s.buckets.find? bucketID with
  | none => .ok (s, true, 0)
  | some b => do
    let _ ← s.mustGetPrimarySPForBucket b
    let entries := s.objectIds.entries.filter fun e => decide (e.1.bucketName = b.bucketName)
    let (s, deleted, finished) ← State.forceDeleteEntries ctx bucketID b cap entries s 0
    if finished then do
      let ibi ← s.mustGetInternalBucketInfo bucketID
      let s ← s.unChargeBucketReadFee ctx b ibi
      let s ← s.doDeleteBucket ctx bucketID b
      return (s, true, deleted)
    else return (s, false, deleted)

/-! ### Update -/

/-- `UpdateObjectInfo`: only the visibility changes, which is not part of the model. -/
def updateObjectInfo : Except Error State := do
  let _ ← s.findBucket bucketName
  let _ ← s.findObject bucketName objectName
  checkAllowed ctx
  return s

/-- The update of an object to empty content: uncharged, taken out and sealed again. -/
def State.updateToEmpty (id : ℕ) (o : ObjectInfo) (checksums : ℕ) : Except Error State := do
  let s ← s.unChargeStored ctx bucketID b o
  let s ← s.deleteObjectFromVirtualGroup bucketID o
  let (s, o) ← s.sealEmptyObjectOnVirtualGroup ctx bucketID b
    { o with updatedAt := ctx.blockTime, payloadSize := 0, checksums := checksums }
  return s.setObjectInfo id o

/-- The start of an update to content: a locked shadow object. -/
def State.startUpdate (key : ObjectKey) (id : ℕ) (o : ObjectInfo) (updater : Addr)
    (payloadSize checksums : ℕ) : Except Error State := do
  let sh : ShadowObjectInfo :=
    { operator := updater
      id := id
      payloadSize := payloadSize
      updatedAt := ctx.blockTime
      checksums := checksums }
  let s := { s with shadowObjects := s.shadowObjects.insert key sh }
  let s ← s.lockObjectStoreFee ctx bucketID b sh.updatedAt sh.payloadSize
  return (s.increaseLockedObjectCount bucketID).setObjectInfo id { o with isUpdating := true }

/-- `UpdateObjectContent`, for a delegator if the operator is an agent. -/
def updateObjectContent (payloadSize checksums : ℕ) (delegator : Option Addr) :
    Except Error State := do
  let (bucketID, b) ← s.findBucket bucketName
  b.checkBucketStatus
  let (id, o) ← s.findObject bucketName objectName
  if o.objectStatus ≠ .sealed then .error .updateObjectNotAllowed
  else if o.isUpdating then .error .objectIsUpdating
  else do
    checkAllowed ctx
    if s.params.maxPayloadSize < payloadSize then .error .tooLargeObject
    else do
      let sp ← s.mustGetPrimarySPForBucket b
      if serves ctx sp operator = false then .error .noSuchStorageProvider
      else do
        checkDelegated b sp operator delegator
        let updater := delegator.getD operator
        if payloadSize = 0 then s.updateToEmpty ctx bucketID b id o checksums
        else
          s.startUpdate ctx bucketID b ⟨bucketName, objectName⟩ id o updater payloadSize checksums

/-- `CancelUpdateObjectContent`. -/
def cancelUpdateObjectContent : Except Error State := do
  let (bucketID, b) ← s.findBucket bucketName
  let (id, o) ← s.findObject bucketName objectName
  if o.isUpdating = false then .error .objectIsNotUpdating
  else do
    let sh ← s.mustGetShadowObjectInfo bucketName objectName
    let s ← s.dropShadow ctx bucketID b bucketName objectName
    if operator ≠ o.owner ∧ operator ≠ sh.operator then .error .accessDenied
    else return s.setObjectInfo id { o with isUpdating := false }

end Moca.Storage
