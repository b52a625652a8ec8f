/-
# Bills, locks and flow-rate limits

`keeper/payment.go` and `keeper/bucket_rate_limit.go`.  The bill of a bucket is the
list of flows its payer owes for the read quota and, for each local virtual group,
for the stored bytes; an operation applies the difference of two bills.  A bucket
over its flow-rate limit is not charged at all.  An object that is not yet sealed
has its fee for the reserve time locked.

A function that changes the records it is given, through pointers in the code,
returns the changed records.
-/

import Moca.Storage.Types

namespace Moca.Storage

open Payment (OutFlow UserFlows)

variable (ctx : Ctx) (s : State) (b : BucketInfo) (ibi : InternalBucketInfo)

/-- The state with another payment store. -/
def State.setPayment (p : Payment.State) : State :=
  { s with virtualGroup := { s.virtualGroup with payment := p } }

/-- `paymentKeeper.ApplyUserFlowsList`. -/
def State.applyUserFlowsList (ctx : Ctx) (s : State) (l : List UserFlows) : Except Error State := do
  let p ← ofPayment (Payment.applyUserFlowsList ctx.payment s.virtualGroup.payment l)
  return s.setPayment p

/-! ### Prices and parameters in force at a time -/

/-- `spKeeper.GetGlobalSpStorePriceByTime`: the price set last before the time. -/
def State.getGlobalSpStorePriceByTime (time : ℤ) : Except Error GlobalSpStorePrice :=
  match s.globalSpStorePrices.latestBefore time with
  | none => .error .noPrice
  | some price => .ok price

/-- `GetVersionedParamsWithTS`. -/
def State.getVersionedParamsWithTS (ts : ℤ) : Except Error VersionedParams :=
  match s.versionedParams.latestBefore ts with
  | none => .error .noVersionedParams
  | some p => .ok p

/-- `paymentKeeper.GetVersionedParamsWithTs`. -/
def State.getPaymentParamsWithTs (ts : ℤ) : Except Error Payment.VersionedParams :=
  match s.virtualGroup.payment.versionedParams.latestBefore ts with
  | none => .error .noVersionedParams
  | some p => .ok p

/-- `GetExpectSecondarySPNumForECObject`. -/
def State.getExpectSecondarySPNumForECObject (createTime : ℤ) : Except Error ℕ :=
  match s.versionedParams.latestBefore createTime with
  | none => .error (.panic .expectSecondarySPNum)
  | some p => .ok ((p.redundantParityChunkNum + p.redundantDataChunkNum) % 2 ^ 32)

/-- `GetObjectChargeSize`. -/
def State.getObjectChargeSize (payloadSize : ℕ) (ts : ℤ) : Except Error ℕ := do
  let params ← s.getVersionedParamsWithTS ts
  return if payloadSize < params.minChargeSize then params.minChargeSize else payloadSize

/-- `d.MulInt(x).TruncateInt()`, for a decimal with 18 digits. -/
def mulTruncate (d x : ℤ) : ℤ := (d * x).tdiv (10 ^ 18)

/-- `GetObjectLockFee`: the amount to be locked and the rate it is for. -/
def State.getObjectLockFee (priceTime : ℤ) (payloadSize : ℕ) : Except Error (ℤ × ℤ) := do
  let price ← s.getGlobalSpStorePriceByTime priceTime
  let chargeSize ← s.getObjectChargeSize payloadSize priceTime
  let primaryRate := mulTruncate price.primaryStorePrice chargeSize
  let secondarySPNum ← s.getExpectSecondarySPNumForECObject priceTime
  let secondaryRate := mulTruncate price.secondaryStorePrice chargeSize * secondarySPNum
  let params ← s.getPaymentParamsWithTs priceTime
  let validatorTaxRate := mulTruncate params.validatorTaxRate (primaryRate + secondaryRate)
  let rate := primaryRate + secondaryRate + validatorTaxRate
  return (rate * params.reserveTime, rate)

/-! ### Bills -/

/-- A flow that is only listed if its rate is positive. -/
def positiveFlow (toAddr : Addr) (rate : ℤ) : List OutFlow :=
  if 0 < rate then [{ toAddr := toAddr, rate := rate }] else []

/-- `getNegFlows`. -/
def getNegFlows (flows : List OutFlow) : List OutFlow :=
  flows.map fun f => { f with rate := -f.rate }

/-- `getTotalOutFlowRate`. -/
def getTotalOutFlowRate (flows : List OutFlow) : ℤ := (flows.map OutFlow.rate).sum

/-- The flows for the read quota of a bucket. -/
def readFlows (price : GlobalSpStorePrice) (params : Payment.VersionedParams)
    (family : VirtualGroup.GlobalVirtualGroupFamily) (quota : ℕ) : List OutFlow :=
  let rate := mulTruncate price.readPrice quota
  positiveFlow family.virtualPaymentAddress rate ++
    positiveFlow Payment.validatorTaxPoolAddress (mulTruncate params.validatorTaxRate rate)

/-- `calculateLVGStoreBill`. -/
def calculateLVGStoreBill (price : GlobalSpStorePrice) (params : Payment.VersionedParams)
    (family : VirtualGroup.GlobalVirtualGroupFamily) (gvg : VirtualGroup.GlobalVirtualGroup)
    (lvg : LocalVirtualGroup) : List OutFlow :=
  let primaryRate := mulTruncate price.primaryStorePrice lvg.totalChargeSize
  let secondaryRate := mulTruncate price.secondaryStorePrice lvg.totalChargeSize *
    gvg.secondarySpIds.length
  positiveFlow family.virtualPaymentAddress primaryRate ++
    (positiveFlow gvg.virtualPaymentAddress secondaryRate ++
      positiveFlow Payment.validatorTaxPoolAddress
        (mulTruncate params.validatorTaxRate (primaryRate + secondaryRate)))

/-- `virtualGroupKeeper.GetGVGFamily`, where a missing family fails the bill. -/
def State.billFamily (familyID : ℕ) : Except Error VirtualGroup.GlobalVirtualGroupFamily :=
  match s.virtualGroup.families.find? familyID with
  | none => .error (.getGVGFamily familyID)
  | some family => .ok family

/-- `virtualGroupKeeper.GetGVG`, where a missing group fails the bill. -/
def State.billGVG (gvgID : ℕ) : Except Error VirtualGroup.GlobalVirtualGroup :=
  match s.virtualGroup.gvgs.find? gvgID with
  | none => .error (.getGVG gvgID)
  | some gvg => .ok gvg

/-- `GetBucketReadBill`. -/
def State.getBucketReadBill : Except Error UserFlows :=
  if b.chargedReadQuota = 0 then .ok { fromAddr := b.paymentAddress, flows := [] }
  else do
    let family ← s.billFamily b.globalVirtualGroupFamilyId
    let price ← s.getGlobalSpStorePriceByTime ibi.priceTime
    let params ← s.getPaymentParamsWithTs ibi.priceTime
    return {
      fromAddr := b.paymentAddress
      flows := readFlows price params family b.chargedReadQuota }

/-- The loop of `GetBucketReadStoreBill` over the local virtual groups. -/
def State.storeFlows (s : State) (price : GlobalSpStorePrice) (params : Payment.VersionedParams)
    (family : VirtualGroup.GlobalVirtualGroupFamily) :
    List (ℕ × LocalVirtualGroup) → Except Error (List OutFlow)
  | [] => .ok []
  | e :: rest => do
    let gvg ← s.billGVG e.2.globalVirtualGroupId
    let flows ← s.storeFlows price params family rest
    return calculateLVGStoreBill price params family gvg e.2 ++ flows

/-- `GetBucketReadStoreBill`. -/
def State.getBucketReadStoreBill : Except Error UserFlows :=
  if ibi.totalChargeSize = 0 ∧ b.chargedReadQuota = 0 then
    .ok { fromAddr := b.paymentAddress, flows := [] }
  else do
    let family ← s.billFamily b.globalVirtualGroupFamilyId
    let price ← s.getGlobalSpStorePriceByTime ibi.priceTime
    let params ← s.getPaymentParamsWithTs ibi.priceTime
    let flows ← s.storeFlows price params family ibi.localVirtualGroups.entries
    return {
      fromAddr := b.paymentAddress
      flows := readFlows price params family b.chargedReadQuota ++ flows }

/-! ### Flow-rate limits -/

/-- `IsBucketRateLimited`. -/
def State.isBucketRateLimited (bucketName : Name) : Bool :=
  (s.rateLimitStatuses.find? bucketName).getD false

/-- `paymentKeeper.IsPaymentAccountOwner`. -/
def State.isPaymentAccountOwner (addr owner : Addr) : Bool :=
  decide (addr = owner) ||
    (s.virtualGroup.payment.paymentAccounts.find? addr).any fun a => decide (a.owner = owner)

/-- `getBucketFlowRateLimit`, for the payer and the owner of a bucket. -/
def State.getBucketFlowRateLimit : Option ℤ :=
  s.rateLimits.find? ⟨b.paymentAddress, b.owner, b.bucketName⟩

/-- `isBucketFlowRateUnderLimitWithRate`. -/
def State.isBucketFlowRateUnderLimitWithRate (rate : ℤ) : Except Error Unit :=
  if rate = 0 then .ok ()
  else
    match s.getBucketFlowRateLimit b with
    | none =>
      if s.isPaymentAccountOwner b.paymentAddress b.owner then .ok () else .error .rateLimitNotSet
    | some limit => if limit < rate then .error .rateOverLimit else .ok ()

/-- `isBucketFlowRateUnderLimit`. -/
def State.isBucketFlowRateUnderLimit (bill : UserFlows) : Except Error Unit :=
  s.isBucketFlowRateUnderLimitWithRate b (getTotalOutFlowRate bill.flows)

/-- `shouldCheckRateLimit`. -/
def State.shouldCheckRateLimit : Bool :=
  match s.getBucketFlowRateLimit b with
  | none => !s.isPaymentAccountOwner b.paymentAddress b.owner
  | some _ => true

/-- `deleteBucketFlowRateLimitStatus`. -/
def State.deleteBucketFlowRateLimitStatus (bucketName : Name) : State :=
  { s with rateLimitStatuses := s.rateLimitStatuses.erase bucketName }

/-- `setBucketFlowRateLimitStatus` to limited. -/
def State.setBucketFlowRateLimitStatus (bucketName : Name) : State :=
  { s with rateLimitStatuses := s.rateLimitStatuses.insert bucketName true }

/-! ### Charging the read quota -/

/-- `ChargeBucketReadFee`. -/
def State.chargeBucketReadFee : Except Error (State × InternalBucketInfo) :=
  if b.chargedReadQuota = 0 then .ok (s, ibi)
  else do
    let ibi := { ibi with priceTime := ctx.blockTime }
    let bill ← s.getBucketReadBill b ibi
    s.isBucketFlowRateUnderLimit b bill
    let s ← s.applyUserFlowsList ctx [bill]
    return (s, ibi)

/-- `UnChargeBucketReadFee`. -/
def State.unChargeBucketReadFee : Except Error State :=
  if 0 < ibi.totalChargeSize then .error (.unexpectedTotalChargeSize ibi.totalChargeSize)
  else if s.isBucketRateLimited b.bucketName then .ok s
  else do
    let bill ← s.getBucketReadBill b ibi
    if bill.flows = [] then return s
    else s.applyUserFlowsList ctx [{ bill with flows := getNegFlows bill.flows }]

/-! ### Locking the fee of an object -/

/-- `MustGetInternalBucketInfo`. -/
def State.mustGetInternalBucketInfo (bucketID : ℕ) : Except Error InternalBucketInfo :=
  match s.internalBuckets.find? bucketID with
  | none => .error (.panic .internalBucketInfoNotFound)
  | some ibi => .ok ibi

/-- `SetInternalBucketInfo`. -/
def State.setInternalBucketInfo (bucketID : ℕ) (ibi : InternalBucketInfo) : State :=
  { s with internalBuckets := s.internalBuckets.insert bucketID ibi }

/-- `UpdateStreamRecordByAddr` with a change of the lock balance. -/
def State.changeLockBalance (addr : Addr) (amount : ℤ) : Except Error State := do
  let p ← ofPayment (Payment.updateStreamRecordByAddr ctx.payment s.virtualGroup.payment
    { addr := addr, lockBalanceChange := amount })
  return s.setPayment p

/-- The check of `lockObjectStoreFee` that the bill with the new object stays under the limit. -/
def State.checkLockRate (bucketID : ℕ) (b : BucketInfo) (timestamp rate : ℤ) : Except Error Unit :=
  if s.shouldCheckRateLimit b then do
    let ibi ← s.mustGetInternalBucketInfo bucketID
    let nextBill ← s.getBucketReadStoreBill b { ibi with priceTime := timestamp }
    s.isBucketFlowRateUnderLimitWithRate b (getTotalOutFlowRate nextBill.flows + rate)
  else .ok ()

/-- `lockObjectStoreFee`. -/
def State.lockObjectStoreFee (bucketID : ℕ) (b : BucketInfo) (timestamp : ℤ) (payloadSize : ℕ) :
    Except Error State := do
  let (amount, rate) ← s.getObjectLockFee timestamp payloadSize
  s.checkLockRate bucketID b timestamp rate
  let s ← s.changeLockBalance ctx b.paymentAddress amount
  let r := Payment.getStreamRecord ctx.payment s.virtualGroup.payment b.paymentAddress
  if r.staticBalance < 0 then .error (.staticBalanceNotEnough (-r.staticBalance)) else return s

/-- `UnlockObjectStoreFee` and `UnlockShadowObjectStoreFee`. -/
def State.unlockStoreFee (timestamp : ℤ) (payloadSize : ℕ) : Except Error State := do
  let (amount, _) ← s.getObjectLockFee timestamp payloadSize
  s.changeLockBalance ctx b.paymentAddress (-amount)

/-- `UnlockObjectStoreFee`. -/
def State.unlockObjectStoreFee (o : ObjectInfo) : Except Error State :=
  s.unlockStoreFee ctx b o.getLatestUpdatedTime o.payloadSize

/-- `UnlockShadowObjectStoreFee`. -/
def State.unlockShadowObjectStoreFee (o : ShadowObjectInfo) : Except Error State :=
  s.unlockStoreFee ctx b o.updatedAt o.payloadSize

/-! ### Charging the store fee -/

/-- `ApplyBillChanges`. -/
def State.applyBillChanges (prev : Option UserFlows) (current : UserFlows) : Except Error State :=
  s.applyUserFlowsList ctx
    ((prev.map fun u => { u with flows := getNegFlows u.flows }).toList ++ [current])

/-- `ChargeViaBucketChange`. -/
def State.chargeViaBucketChange (b' : BucketInfo) (ibi' : InternalBucketInfo) :
    Except Error (State × BucketInfo × InternalBucketInfo) := do
  let prevBill ← s.getBucketReadStoreBill b ibi
  let ibi' := { ibi' with priceTime := ctx.blockTime }
  let newBill ← s.getBucketReadStoreBill b' ibi'
  let limited := s.isBucketRateLimited b'.bucketName
  if b.paymentAddress = b'.paymentAddress ∧ limited = true then .error .paymentNotChangedButLimited
  else do
    s.isBucketFlowRateUnderLimit b' newBill
    if limited then do
      let s ← s.applyBillChanges ctx none newBill
      return (s.deleteBucketFlowRateLimitStatus b'.bucketName, b', ibi')
    else do
      let s ← s.applyBillChanges ctx (some prevBill) newBill
      return (s, b', ibi')

/-- `UpdateBucketInfoAndCharge`. -/
def State.updateBucketInfoAndCharge (newPaymentAddr : Addr) (newReadQuota : ℕ) :
    Except Error (State × BucketInfo × InternalBucketInfo) :=
  if b.paymentAddress ≠ newPaymentAddr ∧ b.chargedReadQuota ≠ newReadQuota then
    .error .paymentAndQuotaChanged
  else s.chargeViaBucketChange ctx b ibi
    { b with paymentAddress := newPaymentAddr, chargedReadQuota := newReadQuota } ibi

/-- The charge sizes of a bucket and one of its local virtual groups after an object came
(`add64`) or went (`sub64`). -/
def InternalBucketInfo.changeChargeSize (lvgID : ℕ) (lvg : LocalVirtualGroup) (op : ℕ → ℕ → ℕ)
    (chargeSize : ℕ) : InternalBucketInfo :=
  { ibi with
    totalChargeSize := op ibi.totalChargeSize chargeSize
    localVirtualGroups := ibi.localVirtualGroups.insert lvgID
      { lvg with totalChargeSize := op lvg.totalChargeSize chargeSize } }

/-- The checks of `ChargeViaObjectChange` before the flows are applied: whether they are. -/
def State.shouldApplyFlowRate : Except Error Bool :=
  if ctx.forced then .ok (!s.isBucketRateLimited b.bucketName)
  else if s.isBucketRateLimited b.bucketName then .error .bucketRateLimited
  else do
    let currentBill ← s.getBucketReadStoreBill b ibi
    s.isBucketFlowRateUnderLimit b currentBill
    return true

/-- `ChargeViaObjectChange`, for a local virtual group id; it returns the merged flows for an
early deletion. -/
def State.chargeViaObjectChange (lvgID chargeSize : ℕ) (delete : Bool) :
    Except Error (State × InternalBucketInfo × List OutFlow) := do
  let family ← s.billFamily b.globalVirtualGroupFamilyId
  let price ← s.getGlobalSpStorePriceByTime ibi.priceTime
  match ibi.localVirtualGroups.find? lvgID with
  | none => .error (.panic .nilLVG)
  | some lvg => do
    let gvg ← s.billGVG lvg.globalVirtualGroupId
    let params ← s.getPaymentParamsWithTs ibi.priceTime
    let op := if delete then sub64 else add64
    let preFlows := calculateLVGStoreBill price params family gvg lvg
    let newFlows := calculateLVGStoreBill price params family gvg
      { lvg with totalChargeSize := op lvg.totalChargeSize chargeSize }
    let ibi := ibi.changeChargeSize lvgID lvg op chargeSize
    let flows := getNegFlows preFlows ++ newFlows
    let apply ← s.shouldApplyFlowRate ctx b ibi
    let s ← if apply then
        s.applyUserFlowsList ctx [{ fromAddr := b.paymentAddress, flows := flows }]
      else pure s
    return (s, ibi, Payment.mergeOutFlowList ctx.payment flows)

/-- `IsPriceChanged`. -/
def State.isPriceChanged (priceTime : ℤ) : Except Error Bool := do
  let prePrice ← s.getGlobalSpStorePriceByTime priceTime
  let currentPrice ← s.getGlobalSpStorePriceByTime ctx.blockTime
  let preParams ← s.getPaymentParamsWithTs priceTime
  let currentParams ← s.getPaymentParamsWithTs ctx.blockTime
  return !(decide (prePrice = currentPrice) &&
    decide (preParams.validatorTaxRate = currentParams.validatorTaxRate))

/-- The change of `ChargeObjectStoreFee` to the records of the bucket: a local virtual group
that is not there is passed over. -/
def InternalBucketInfo.addChargeSize (lvgID chargeSize : ℕ) : InternalBucketInfo :=
  match ibi.localVirtualGroups.find? lvgID with
  | none => { ibi with totalChargeSize := add64 ibi.totalChargeSize chargeSize }
  | some lvg => ibi.changeChargeSize lvgID lvg add64 chargeSize

/-- `ChargeObjectStoreFee`. -/
def State.chargeObjectStoreFee (o : ObjectInfo) : Except Error (State × InternalBucketInfo) := do
  let chargeSize ← s.getObjectChargeSize o.payloadSize o.getLatestUpdatedTime
  let priceChanged ← s.isPriceChanged ctx ibi.priceTime
  if priceChanged then do
    let (s, _, ibi) ← s.chargeViaBucketChange ctx b ibi b
      (ibi.addChargeSize o.localVirtualGroupId chargeSize)
    return (s, ibi)
  else do
    let (s, ibi, _) ← s.chargeViaObjectChange ctx b ibi o.localVirtualGroupId chargeSize false
    return (s, ibi)

/-- `UnlockAndChargeObjectStoreFee`. -/
def State.unlockAndChargeObjectStoreFee (o : ObjectInfo) :
    Except Error (State × InternalBucketInfo) := do
  let s ← s.unlockObjectStoreFee ctx b o
  s.chargeObjectStoreFee ctx b ibi o

/-- The loop of `ChargeObjectStoreFeeForEarlyDeletion`: the receivers are paid for the time to
the end of the reserve time.  What was paid before an error stays. -/
def payReceivers (ctx : Payment.Ctx) (timeToPay : ℤ) :
    List OutFlow → Payment.State → ℤ → Payment.State × Except Payment.Error ℤ
  | [], p, total => (p, .ok total)
  | flow :: rest, p, total =>
    match Payment.updateStreamRecordByAddr ctx p
        { addr := flow.toAddr, staticBalanceChange := |flow.rate| * timeToPay } with
    | .error e => (p, .error e)
    | .ok p => payReceivers ctx timeToPay rest p (total + |flow.rate| * timeToPay)

/-- `ChargeObjectStoreFeeForEarlyDeletion`, with the state it leaves also when it fails. -/
def chargeObjectStoreFeeForEarlyDeletion (ctx : Payment.Ctx) (p : Payment.State)
    (flows : List OutFlow) (paymentAddress : Addr) (timeToPay : ℤ) :
    Payment.State × Option Payment.Error :=
  match payReceivers ctx timeToPay flows p 0 with
  | (p, .error e) => (p, some e)
  | (p, .ok total) =>
    match Payment.updateStreamRecordByAddr ctx p
        { addr := paymentAddress, staticBalanceChange := -total } with
    | .error e => (p, some e)
    | .ok p => (p, none)

/-- The early deletion fee of `UnChargeObjectStoreFee`: under the forced flag an error of it is
not an error of the caller. -/
def State.payEarlyDeletion (flows : List OutFlow) (paymentAddress : Addr) (timeToPay : ℤ) :
    Except Error State :=
  if 0 < timeToPay then
    match chargeObjectStoreFeeForEarlyDeletion ctx.payment s.virtualGroup.payment flows
        paymentAddress timeToPay with
    | (p, none) => .ok (s.setPayment p)
    | (_, some (.panic e)) => .error (.panic (.payment e))
    | (p, some e) => if ctx.forced then .ok (s.setPayment p) else .error (.payment e)
  else .ok s

/-- `UnChargeObjectStoreFee`. -/
def State.unChargeObjectStoreFee (o : ObjectInfo) : Except Error (State × InternalBucketInfo) := do
  let chargeSize ← s.getObjectChargeSize o.payloadSize o.getLatestUpdatedTime
  let (s, ibi, flows) ← s.chargeViaObjectChange ctx b ibi o.localVirtualGroupId chargeSize true
  let params ← s.getPaymentParamsWithTs ibi.priceTime
  let timeToPay := int64 (o.getLatestUpdatedTime + int64 params.reserveTime - ctx.blockTime)
  let s ← s.payEarlyDeletion ctx flows b.paymentAddress timeToPay
  return (s, ibi)

/-! ### Charging a whole bucket -/

/-- `unChargeBucketReadStoreFee`. -/
def State.unChargeBucketBill : Except Error State := do
  let bill ← s.getBucketReadStoreBill b ibi
  s.applyUserFlowsList ctx [{ bill with flows := getNegFlows bill.flows }]

/-- `UnChargeBucketReadStoreFee`. -/
def State.unChargeBucketReadStoreFee : Except Error State :=
  if s.isBucketRateLimited b.bucketName then .ok s else s.unChargeBucketBill ctx b ibi

/-- `ChargeBucketReadStoreFee`. -/
def State.chargeBucketReadStoreFee : Except Error (State × InternalBucketInfo) := do
  let ibi := { ibi with priceTime := ctx.blockTime }
  let bill ← s.getBucketReadStoreBill b ibi
  if s.isBucketRateLimited b.bucketName then .error .bucketRateLimited
  else do
    s.isBucketFlowRateUnderLimit b bill
    let s ← s.applyUserFlowsList ctx [bill]
    return (s, ibi)

/-- `chargeBucketReadStoreFee` of `bucket_rate_limit.go`. -/
def State.resumeBucketBill (bucketID : ℕ) (b : BucketInfo) (ibi : InternalBucketInfo) :
    Except Error State := do
  let ibi := { ibi with priceTime := ctx.blockTime }
  let bill ← s.getBucketReadStoreBill b ibi
  let s ← s.applyUserFlowsList ctx [bill]
  return s.setInternalBucketInfo bucketID ibi

/-- `unChargeAndLimitBucket`. -/
def State.unChargeAndLimitBucket (bucketID : ℕ) (b : BucketInfo) : Except Error State := do
  let s := s.setBucketFlowRateLimitStatus b.bucketName
  let ibi ← s.mustGetInternalBucketInfo bucketID
  s.unChargeBucketBill ctx b ibi

/-- `setFlowRateLimit`. -/
def State.setFlowRateLimit (bucketID : ℕ) (b : BucketInfo) (rateLimit : ℤ) : Except Error State :=
  let current := s.getBucketFlowRateLimit b
  if current = some rateLimit then .ok s
  else do
    let ibi ← s.mustGetInternalBucketInfo bucketID
    if current.isSome = true ∧ s.isBucketRateLimited b.bucketName = true then do
      let bill ← s.getBucketReadStoreBill b { ibi with priceTime := ctx.blockTime }
      if getTotalOutFlowRate bill.flows ≤ rateLimit then do
        let s ← s.resumeBucketBill ctx bucketID b ibi
        return s.deleteBucketFlowRateLimitStatus b.bucketName
      else return s
    else do
      let bill ← s.getBucketReadStoreBill b ibi
      if rateLimit < getTotalOutFlowRate bill.flows then s.unChargeAndLimitBucket ctx bucketID b
      else return s

end Moca.Storage
