/-
# Objects and buckets on virtual groups

`keeper/virtualgroup.go`, with `GetGlobalVirtualGroupIfAvailable` and
`GetAndCheckGVGFamilyAvailableForNewBucket` of `x/virtualgroup`.  An object is sealed
into the local virtual group of its bucket that is bound to a global one, and taken
out of it when it is deleted; a migration rebinds every local virtual group of a
bucket.

`RebindingVirtualGroup` reads the source and the destination group into two copies
and writes the source before the destination.
-/

import Moca.Storage.Bill

namespace Moca.Storage

/-! ### Capacity -/

variable (ctx : Ctx) (s : State) (bucketID : ℕ) (b : BucketInfo) (ibi : InternalBucketInfo)

/-- `GetTotalStakingStoreSize`: a value that is no `uint64` counts as the largest one. -/
def State.getTotalStakingStoreSize (gvg : VirtualGroup.GlobalVirtualGroup) : ℕ :=
  let total := gvg.totalDeposit.tdiv s.virtualGroup.params.gvgStakingPerBytes
  if 0 ≤ total ∧ total < 2 ^ 64 then total.toNat else 2 ^ 64 - 1

/-- `GetGlobalVirtualGroupIfAvailable`. -/
def State.getGlobalVirtualGroupIfAvailable (gvgID expectedStoreSize : ℕ) :
    Except Error VirtualGroup.GlobalVirtualGroup :=
  match s.virtualGroup.gvgs.find? gvgID with
  | none => .error .gvgNotExist
  | some gvg =>
    if s.getTotalStakingStoreSize gvg < add64 gvg.storedSize expectedStoreSize then
      .error .insufficientStaking
    else .ok gvg

/-- `GetStoreSizeOfFamily`. -/
def State.getStoreSizeOfFamily (s : State) : List ℕ → ℕ → Except Error ℕ
  | [], total => .ok total
  | gvgID :: rest, total =>
    match s.virtualGroup.gvgs.find? gvgID with
    | none => .error (.panic .familyStoreSize)
    | some gvg => s.getStoreSizeOfFamily rest (add64 total gvg.storedSize)

/-- `GetAndCheckGVGFamilyAvailableForNewBucket`. -/
def State.getAndCheckGVGFamilyAvailableForNewBucket (familyID : ℕ) :
    Except Error VirtualGroup.GlobalVirtualGroupFamily :=
  match s.virtualGroup.families.find? familyID with
  | none => .error .gvgFamilyNotExist
  | some family => do
    let storeSize ← s.getStoreSizeOfFamily family.globalVirtualGroupIds 0
    if s.virtualGroup.params.maxStoreSizePerFamily ≤ storeSize then .error .limitationExceed
    else return family

/-! ### Local virtual groups -/

/-- `GetLVGByGVGID`: the first one that is bound to the group. -/
def InternalBucketInfo.getLVGByGVGID (gvgID : ℕ) : Option (ℕ × LocalVirtualGroup) :=
  ibi.localVirtualGroups.entries.find? fun e => decide (e.2.globalVirtualGroupId = gvgID)

/-- `GetMaxLVGID`. -/
def InternalBucketInfo.getMaxLVGID : ℕ :=
  (ibi.localVirtualGroups.entries.getLast?.map Prod.fst).getD 0

/-- `MustGetLVG`. -/
def InternalBucketInfo.mustGetLVG (lvgID : ℕ) : Except Error LocalVirtualGroup :=
  match ibi.localVirtualGroups.find? lvgID with
  | none => .error (.panic .lvgNotFound)
  | some lvg => .ok lvg

/-- The id of a new local virtual group: `GetMaxLVGID() + 1`, which `AppendLVG` refuses if it
wrapped around. -/
def InternalBucketInfo.newLVGID : Except Error ℕ :=
  let lvgID := inc32 ibi.getMaxLVGID
  if ibi.localVirtualGroups.entries ≠ [] ∧ lvgID ≤ ibi.getMaxLVGID then .error (.panic .appendLVG)
  else .ok lvgID

/-- The local virtual group that an object is sealed into: the one bound to the group, or a
new one. -/
def State.lvgForGVG (gvgID : ℕ) : Except Error (ℕ × LocalVirtualGroup) :=
  match ibi.getLVGByGVGID gvgID with
  | some e => .ok e
  | none =>
    if s.params.maxLocalVirtualGroupNumPerBucket < ibi.localVirtualGroups.entries.length then
      .error .virtualGroupOperateFailed
    else do
      let lvgID ← ibi.newLVGID
      return (lvgID, { globalVirtualGroupId := gvgID })

/-- `SetGVG` of `x/virtualgroup`. -/
def State.setGVG (s : State) (gvgID : ℕ) (gvg : VirtualGroup.GlobalVirtualGroup) : State :=
  { s with virtualGroup := s.virtualGroup.setGVG gvgID gvg }

/-! ### Sealing -/

/-- `SealObjectOnVirtualGroup`; it returns the object with its local virtual group. -/
def State.sealObjectOnVirtualGroup (gvgID : ℕ) (o : ObjectInfo) :
    Except Error (State × ObjectInfo) := do
  let gvg ← s.getGlobalVirtualGroupIfAvailable gvgID o.payloadSize
  let ibi ← s.mustGetInternalBucketInfo bucketID
  let (lvgID, lvg) ← s.lvgForGVG ibi gvgID
  let ibi := { ibi with
    localVirtualGroups := ibi.localVirtualGroups.insert lvgID
      { lvg with storedSize := add64 lvg.storedSize o.payloadSize } }
  let o := { o with localVirtualGroupId := lvgID }
  let (s, ibi) ←
    if o.payloadSize = 0 then s.chargeObjectStoreFee ctx b ibi o
    else s.unlockAndChargeObjectStoreFee ctx b ibi o
  let s := s.setGVG gvgID { gvg with storedSize := add64 gvg.storedSize o.payloadSize }
  return (s.setInternalBucketInfo bucketID ibi, o)

/-- `SealEmptyObjectOnVirtualGroup`: into the first group of the family. -/
def State.sealEmptyObjectOnVirtualGroup (o : ObjectInfo) : Except Error (State × ObjectInfo) :=
  match s.virtualGroup.families.find? b.globalVirtualGroupFamilyId with
  | none => .error .gvgFamilyNotExist
  | some family =>
    match family.globalVirtualGroupIds with
    | [] => .error .gvgNotExist
    | gvgID :: _ => s.sealObjectOnVirtualGroup ctx bucketID b gvgID o

/-! ### Deleting -/

/-- The local virtual groups after an object was taken out of one: an empty one is removed. -/
def InternalBucketInfo.takeOut (lvgID : ℕ) (lvg : LocalVirtualGroup) (payloadSize : ℕ) :
    Except Error InternalBucketInfo :=
  let storedSize := sub64 lvg.storedSize payloadSize
  if lvg.totalChargeSize = 0 then
    if storedSize ≠ 0 then .error (.panic .storeSizeNonZero)
    else .ok { ibi with localVirtualGroups := ibi.localVirtualGroups.erase lvgID }
  else .ok { ibi with
    localVirtualGroups :=
      ibi.localVirtualGroups.insert lvgID { lvg with storedSize := storedSize } }

/-- `DeleteObjectFromVirtualGroup`. -/
def State.deleteObjectFromVirtualGroup (o : ObjectInfo) : Except Error State := do
  let ibi ← s.mustGetInternalBucketInfo bucketID
  let lvg ← ibi.mustGetLVG o.localVirtualGroupId
  match s.virtualGroup.gvgs.find? lvg.globalVirtualGroupId with
  | none => .error .gvgNotExist
  | some gvg => do
    let ibi ← ibi.takeOut o.localVirtualGroupId lvg o.payloadSize
    let s := s.setGVG lvg.globalVirtualGroupId
      { gvg with storedSize := sub64 gvg.storedSize o.payloadSize }
    return s.setInternalBucketInfo bucketID ibi

/-! ### Rebinding -/

/-- The destination of a group: of several mappings with one source the last counts. -/
def mappedGVG (mappings : List GVGMapping) (gvgID : ℕ) : Option ℕ :=
  (mappings.reverse.find? fun m => decide (m.srcGlobalVirtualGroupId = gvgID)).map
    GVGMapping.dstGlobalVirtualGroupId

/-- One local virtual group of `RebindingVirtualGroup`. -/
def State.rebindLVG (mappings : List GVGMapping) (acc : State × InternalBucketInfo)
    (e : ℕ × LocalVirtualGroup) : Except Error (State × InternalBucketInfo) :=
  match mappedGVG mappings e.2.globalVirtualGroupId with
  | none => .error .virtualGroupOperateFailed
  | some dstID =>
    match acc.1.virtualGroup.gvgs.find? dstID with
    | none => .error .virtualGroupOperateFailed
    | some dst =>
      match acc.1.virtualGroup.gvgs.find? e.2.globalVirtualGroupId with
      | none => .error .virtualGroupOperateFailed
      | some src => do
        let vg ← ofVirtualGroup
          (acc.1.virtualGroup.settleAndDistributeGVG ctx.toVirtualGroup .settleFailed src)
        let s := { acc.1 with virtualGroup := vg }
        -- both copies were read before either is written
        let s := s.setGVG e.2.globalVirtualGroupId
          { src with storedSize := sub64 src.storedSize e.2.storedSize }
        let s := s.setGVG dstID { dst with storedSize := add64 dst.storedSize e.2.storedSize }
        return (s, { acc.2 with
          localVirtualGroups := acc.2.localVirtualGroups.insert e.1
            { e.2 with globalVirtualGroupId := dstID } })

/-- `RebindingVirtualGroup`. -/
def State.rebindingVirtualGroup (mappings : List GVGMapping) : Except Error State := do
  let (s, ibi) ← ibi.localVirtualGroups.entries.foldlM (State.rebindLVG ctx mappings) (s, ibi)
  let (s, ibi) ← s.chargeBucketReadStoreFee ctx b ibi
  return s.setInternalBucketInfo bucketID ibi

/-- `verifyGVGSignatures`. -/
def State.verifyGVGSignatures (mappings : List GVGMapping) : Except Error Unit :=
  mappings.forM fun m =>
    if s.virtualGroup.gvgs.contains m.dstGlobalVirtualGroupId = false then .error .gvgNotExist
    else if m.blsVerified then .ok () else .error .invalidBlsSignature

end Moca.Storage
