/-
# Messages, blocks and runs of `x/storage`

`keeper/msg_server.go` and `keeper/abci.go`.  A failed message is rolled back, while a
failed end blocker halts the chain; block times do not decrease.  The end blocker
deletes discontinued objects and buckets under the forced flag.

The messages of `x/virtualgroup` and `x/payment` run on the same state.  `x/sp`
changes its store and the prices between them: it adds and changes providers, and
only `CompleteStorageProviderExit` of `x/virtualgroup` removes one.
-/

import Moca.Storage.Object

namespace Moca.Storage

open State

/-! ### Blocks -/

variable (ctx : Ctx) (s : State)

/-- `BeginBlocker`: a new counting window. -/
def beginBlocker : State :=
  if 0 < ctx.blockHeight ∧ 0 < s.params.discontinueCountingWindow ∧
      ctx.blockHeight % s.params.discontinueCountingWindow = 0 then
    { s with discontinueObjectCounts := .empty, discontinueBucketCounts := .empty }
  else s

/-- The inner loop of `DeleteDiscontinueObjectsUntil`: the ids that are left when the maximum is
reached. -/
def State.forceDeleteObjects (ctx : Ctx) (max : ℕ) :
    List ℕ → State → ℕ → Except Error (State × ℕ × List ℕ)
  | [], s, deleted => .ok (s, deleted, [])
  | id :: rest, s, deleted =>
    if max ≤ deleted then .ok (s, deleted, id :: rest)
    else do
      let s ← s.forceDeleteObject ctx id
      forceDeleteObjects ctx max rest s (deleted + 1)

/-- What is left of the ids of a time is written back. -/
def writeBack (m : SortedMap ℕ (List ℕ)) (timestamp : ℕ) (left : List ℕ) : SortedMap ℕ (List ℕ) :=
  if left = [] then m.erase timestamp else m.insert timestamp left

/-- `DeleteDiscontinueObjectsUntil`, over the entries the iterator visits. -/
def State.deleteDiscontinueObjects (ctx : Ctx) (max : ℕ) :
    List (ℕ × List ℕ) → State → ℕ → Except Error (State × ℕ)
  | [], s, deleted => .ok (s, deleted)
  | e :: rest, s, deleted =>
    if max ≤ deleted then .ok (s, deleted)
    else do
      let (s, deleted, left) ← forceDeleteObjects ctx max e.2 s deleted
      deleteDiscontinueObjects ctx max rest
        { s with discontinueObjectIds := writeBack s.discontinueObjectIds e.1 left } deleted

/-- The inner loop of `DeleteDiscontinueBucketsUntil`: the buckets that could not be deleted or
were not reached are left. -/
def State.forceDeleteBuckets (ctx : Ctx) (max : ℕ) :
    List ℕ → State → ℕ → List ℕ → Except Error (State × ℕ × List ℕ)
  | [], s, deleted, left => .ok (s, deleted, left)
  | id :: rest, s, deleted, left =>
    if max ≤ deleted then forceDeleteBuckets ctx max rest s deleted (left ++ [id])
    else do
      let (s, bucketDeleted, objectDeleted) ← s.forceDeleteBucket ctx id (max - deleted)
      if bucketDeleted then
        forceDeleteBuckets ctx max rest s (deleted + objectDeleted + 1) left
      else forceDeleteBuckets ctx max rest s (deleted + objectDeleted) (left ++ [id])

/-- `DeleteDiscontinueBucketsUntil`, over the entries the iterator visits. -/
def State.deleteDiscontinueBuckets (ctx : Ctx) (max : ℕ) :
    List (ℕ × List ℕ) → State → ℕ → Except Error (State × ℕ)
  | [], s, deleted => .ok (s, deleted)
  | e :: rest, s, deleted =>
    if max ≤ deleted then .ok (s, deleted)
    else do
      let (s, deleted, left) ← forceDeleteBuckets ctx max e.2 s deleted []
      deleteDiscontinueBuckets ctx max rest
        { s with discontinueBucketIds := writeBack s.discontinueBucketIds e.1 left } deleted

/-- The entries of a deletion queue up to a time. -/
def queueUntil (m : SortedMap ℕ (List ℕ)) (timestamp : ℕ) : List (ℕ × List ℕ) :=
  m.entries.filter fun e => decide (e.1 ≤ timestamp)

/-- `EndBlocker`, without the clean-up of stale policies; an error panics. -/
def endBlocker : Except Error State :=
  let max := s.params.discontinueDeletionMax
  if max = 0 then .ok s
  else do
    let ctx := ctx.withForced true
    let now := uint64 ctx.blockTime
    let (s, deleted) ←
      deleteDiscontinueObjects ctx max (queueUntil s.discontinueObjectIds now) s 0
    if max ≤ deleted then return s
    else if 5946511 < ctx.blockHeight ∧ ctx.isTestnet = true then return s
    else do
      let (s, _) ← deleteDiscontinueBuckets ctx (max - deleted)
        (queueUntil s.discontinueBucketIds now) s 0
      return s

/-! ### Messages -/

/-- `MsgCreateObject` and `MsgUpdateObjectContent` carry a checksum for each piece. -/
def State.checkExpectChecksums (checksums : ℕ) : Except Error Unit := do
  let expected ← s.getExpectSecondarySPNumForECObject ctx.blockTime
  if checksums ≠ (1 + expected) % 2 ^ 32 then .error .invalidChecksum else return ()

/-- `SetParams`, for a `MsgUpdateParams` of the authority. -/
def updateParams (p : Params) : Except Error State :=
  if p.validate then .ok { s with
    params := p
    versionedParams := s.versionedParams.insert ctx.blockTime p.versionedParams }
  else .error .invalidParams

/-- The messages of `x/payment` and its end blocker. -/
def isPaymentMessage : Payment.Op → Bool
  | .deposit .. | .withdraw .. | .createPaymentAccount .. | .disableRefund .. => true
  | .updateParams .. | .endBlock => true
  | .keeperWithdraw .. | .applyUserFlowsList .. | .tryResume .. => false

/-- The messages of `x/virtualgroup`. -/
def isVirtualGroupMessage : VirtualGroup.Op → Bool
  | .sp .. | .payment .. | .storedSize .. => false
  | _ => true

/-- A message of `x/virtualgroup`; `CreateGlobalVirtualGroup` asks for the number of secondary
providers. -/
def State.runVirtualGroup (op : VirtualGroup.Op) : Except Error State :=
  match s.getExpectSecondarySPNumForECObject ctx.blockTime, op with
  | .error e, .createGlobalVirtualGroup .. => .error e
  | expected, op => do
    let ctx := { ctx.toVirtualGroup with expectSecondarySPNum := expected.toOption.getD 0 }
    let vg ← ofVirtualGroup (op.run ctx s.virtualGroup)
    return { s with virtualGroup := vg }

/-- Every provider of a store is in the other one. -/
def keepsProviders (store store' : Sp.Store) : Bool :=
  store.providers.entries.all fun e => store'.providers.contains e.1

/-! ### Runs -/

/-- The messages of the module, its blocks, and the steps of the other modules. -/
inductive Op
  | createBucket (owner : Addr) (bucketName : Name) (primarySpAcc : Addr)
    (paymentAddress : Option Addr) (chargedReadQuota : ℕ) (approval : Approval)
  | deleteBucket (bucketName : Name)
  | updateBucketInfo (bucketName : Name) (quota : Option ℕ) (paymentAddress : Option Addr)
  | toggleSPAsDelegatedAgent (operator : Addr) (bucketName : Name)
  | discontinueBucket (operator : Addr) (bucketName : Name)
  | migrateBucket (operator : Addr) (bucketName : Name) (dstSpID : ℕ) (approval : Approval)
  | cancelMigrateBucket (operator : Addr) (bucketName : Name)
  | rejectMigrateBucket (operator : Addr) (bucketName : Name)
  | completeMigrateBucket (operator : Addr) (bucketName : Name) (gvgFamilyID : ℕ)
    (mappings : List GVGMapping)
  | setBucketFlowRateLimit (operator bucketOwner paymentAccount : Addr) (bucketName : Name)
    (rateLimit : ℤ)
  | createObject (creator : Addr) (bucketName objectName : Name) (payloadSize checksums : ℕ)
  | delegateCreateObject (operator creator : Addr) (bucketName objectName : Name)
    (payloadSize checksums : ℕ)
  | copyObject (operator : Addr) (srcBucketName srcObjectName dstBucketName dstObjectName : Name)
    (approval : Approval)
  | sealObject (operator : Addr) (bucketName objectName : Name) (gvgID : ℕ)
  | sealObjectV2 (operator : Addr) (bucketName objectName : Name) (gvgID checksums : ℕ)
  | cancelCreateObject (operator : Addr) (bucketName objectName : Name)
  | deleteObject (operator : Addr) (bucketName objectName : Name)
  | rejectSealObject (operator : Addr) (bucketName objectName : Name)
  | discontinueObject (operator : Addr) (bucketName : Name) (objectIDs : List ℕ)
  | updateObjectInfo (bucketName objectName : Name)
  | updateObjectContent (operator : Addr) (bucketName objectName : Name)
    (payloadSize checksums : ℕ)
  | delegateUpdateObjectContent (operator updater : Addr) (bucketName objectName : Name)
    (payloadSize checksums : ℕ)
  | cancelUpdateObjectContent (operator : Addr) (bucketName objectName : Name)
  | updateParams (p : Params)
  | beginBlock
  | endBlock
  /-- `x/sp` sets the global price. -/
  | setGlobalSpStorePrice (price : GlobalSpStorePrice)
  /-- `x/sp` changes its store. -/
  | sp (store : Sp.Store)
  /-- A message or the end blocker of `x/payment`. -/
  | payment (op : Payment.Op)
  /-- A message of `x/virtualgroup`. -/
  | virtualGroup (op : VirtualGroup.Op)

/-- What an operation does; `ctx` runs without the forced flag. -/
def Op.exec : Op → Except Error State
  | .createBucket owner bucketName primarySpAcc paymentAddress quota approval =>
    Storage.createBucket ctx s owner bucketName primarySpAcc paymentAddress quota approval
  | .deleteBucket bucketName => Storage.deleteBucket ctx s bucketName
  | .updateBucketInfo bucketName quota paymentAddress =>
    Storage.updateBucketInfo ctx s bucketName quota paymentAddress
  | .toggleSPAsDelegatedAgent operator bucketName =>
    Storage.toggleSPAsDelegatedAgent s operator bucketName
  | .discontinueBucket operator bucketName => Storage.discontinueBucket ctx s operator bucketName
  | .migrateBucket operator bucketName dstSpID approval =>
    Storage.migrateBucket ctx s operator bucketName dstSpID approval
  | .cancelMigrateBucket operator bucketName => cancelBucketMigration s operator bucketName
  | .rejectMigrateBucket operator bucketName => rejectBucketMigration s operator bucketName
  | .completeMigrateBucket operator bucketName gvgFamilyID mappings =>
    Storage.completeMigrateBucket ctx s operator bucketName gvgFamilyID mappings
  | .setBucketFlowRateLimit operator bucketOwner paymentAccount bucketName rateLimit =>
    Storage.setBucketFlowRateLimit ctx s operator bucketOwner paymentAccount bucketName rateLimit
  | .createObject creator bucketName objectName payloadSize checksums => do
    s.checkExpectChecksums ctx checksums
    Storage.createObject ctx s creator bucketName objectName payloadSize checksums none
  | .delegateCreateObject operator creator bucketName objectName payloadSize checksums =>
    Storage.createObject ctx s operator bucketName objectName payloadSize checksums (some creator)
  | .copyObject operator srcBucketName srcObjectName dstBucketName dstObjectName approval =>
    Storage.copyObject ctx s operator srcBucketName srcObjectName dstBucketName dstObjectName
      approval
  | .sealObject operator bucketName objectName gvgID =>
    Storage.sealObject ctx s operator bucketName objectName gvgID 0
  | .sealObjectV2 operator bucketName objectName gvgID checksums =>
    Storage.sealObject ctx s operator bucketName objectName gvgID checksums
  | .cancelCreateObject operator bucketName objectName =>
    Storage.cancelCreateObject ctx s operator bucketName objectName
  | .deleteObject operator bucketName objectName =>
    Storage.deleteObject ctx s operator bucketName objectName
  | .rejectSealObject operator bucketName objectName =>
    Storage.rejectSealObject ctx s operator bucketName objectName
  | .discontinueObject operator bucketName objectIDs =>
    Storage.discontinueObject ctx s operator bucketName objectIDs
  | .updateObjectInfo bucketName objectName => Storage.updateObjectInfo ctx s bucketName objectName
  | .updateObjectContent operator bucketName objectName payloadSize checksums => do
    s.checkExpectChecksums ctx checksums
    Storage.updateObjectContent ctx s operator bucketName objectName payloadSize checksums none
  | .delegateUpdateObjectContent operator updater bucketName objectName payloadSize checksums =>
    Storage.updateObjectContent ctx s operator bucketName objectName payloadSize checksums
      (some updater)
  | .cancelUpdateObjectContent operator bucketName objectName =>
    Storage.cancelUpdateObjectContent ctx s operator bucketName objectName
  | .updateParams p => Storage.updateParams ctx s p
  | .beginBlock => .ok (beginBlocker ctx s)
  | .endBlock => endBlocker ctx s
  | .setGlobalSpStorePrice price =>
    .ok { s with globalSpStorePrices := s.globalSpStorePrices.insert ctx.blockTime price }
  | .sp store =>
    if keepsProviders s.virtualGroup.sp store then
      .ok { s with virtualGroup := { s.virtualGroup with sp := store } }
    else .error .invalidRequest
  | .payment op =>
    if isPaymentMessage op then do
      let p ← ofPayment (op.run ctx.payment s.virtualGroup.payment)
      return s.setPayment p
    else .error .invalidRequest
  | .virtualGroup op =>
    if isVirtualGroupMessage op then s.runVirtualGroup ctx op else .error .invalidRequest

/-- What an operation does; the end blocker sets the forced flag itself. -/
def Op.run (op : Op) : Except Error State :=
  op.exec (ctx.withForced false) s

/-- An operation that halts the chain when it fails. -/
def Op.isEndBlock : Op → Bool
  | .endBlock | .payment .endBlock => true
  | _ => false

/-- The state and the time of the last block. -/
structure Chain where
  state : State
  time : ℤ

/-- A step of the chain, at a block time not before the last one: a failed message is rolled
back, but a failed end blocker has no next state. -/
def Chain.step (c : Chain) (l : Ctx × Op) : Option Chain :=
  if c.time ≤ l.1.blockTime then
    match l.2.run l.1 c.state with
    | .ok s => some { state := s, time := l.1.blockTime }
    | .error _ =>
      if l.2.isEndBlock then none else some { state := c.state, time := l.1.blockTime }
  else none

/-- A step of the chain: the operation succeeds, or it fails and changes nothing. -/
theorem step_eq_some {c c' : Chain} {l : Ctx × Op} (h : c.step l = some c') :
    c.time ≤ l.1.blockTime ∧ c'.time = l.1.blockTime ∧
      (l.2.run l.1 c.state = .ok c'.state ∨ c'.state = c.state) := by
  unfold Chain.step at h
  split at h
  · rename_i htime
    refine ⟨htime, ?_⟩
    split at h
    · rename_i s hs
      cases h
      exact ⟨rfl, Or.inl hs⟩
    · split at h
      · exact absurd h (by simp)
      · cases h
        exact ⟨rfl, Or.inr rfl⟩
  · exact absurd h (by simp)

end Moca.Storage
