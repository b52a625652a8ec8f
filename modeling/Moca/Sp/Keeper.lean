/-
# The keeper of `x/sp`

`keeper/sp.go`, `keeper/sp_status.go`, `keeper/sp_storage_price.go`, `keeper/slash.go`.

The key of the index by BLS public key is a prefix byte followed by the key; `Exit`
prepends the prefix twice, so that the key it deletes is not the one that was set.

`State.store` is what the other modules see of a provider store, the records without
the fields that only `x/sp` reads and two of the indexes; each operation of `State`
that the other modules call is one of `Store`.
-/

import Moca.Sp.Types
import Mathlib.Data.List.DropRight
import Mathlib.Data.List.Sort

namespace Moca.Sp

/-! ### Records and indexes -/

variable (ctx : Ctx) (s : State) (sp : Provider) (addr : Addr)

/-- `GetStorageProvider`. -/
def State.getStorageProvider (id : ℕ) : Option Provider := s.providers.find? id

/-- The record of the id that an index holds for a key. -/
def State.lookup {κ : Type} [LinearOrder κ] (s : State) (index : SortedMap κ ℕ) (k : κ) :
    Option Provider :=
  (index.find? k).bind s.getStorageProvider

/-- `GetStorageProviderByOperatorAddr`. -/
def State.getStorageProviderByOperatorAddr : Option Provider :=
  s.lookup s.byOperatorAddr addr

/-- `GetStorageProviderByFundingAddr`. -/
def State.getStorageProviderByFundingAddr : Option Provider :=
  s.lookup s.byFundingAddr addr

/-- `SetStorageProvider`. -/
def State.setStorageProvider : State :=
  { s with
    providers := s.providers.insert sp.id sp
    id_key := SortedMap.forall_insert rfl fun i sp' _ => s.id_key i sp' }

/-- `SetStorageProviderByOperatorAddr`. -/
def State.setStorageProviderByOperatorAddr : State :=
  { s with byOperatorAddr := s.byOperatorAddr.insert sp.operatorAddress sp.id }

/-- `SetStorageProviderByFundingAddr`. -/
def State.setStorageProviderByFundingAddr : State :=
  { s with byFundingAddr := s.byFundingAddr.insert sp.fundingAddress sp.id }

/-- `SetStorageProviderBySealAddr`. -/
def State.setStorageProviderBySealAddr : State :=
  { s with bySealAddr := s.bySealAddr.insert sp.sealAddress sp.id }

/-- `SetStorageProviderByApprovalAddr`. -/
def State.setStorageProviderByApprovalAddr : State :=
  { s with byApprovalAddr := s.byApprovalAddr.insert sp.approvalAddress sp.id }

/-- `SetStorageProviderByGcAddr`. -/
def State.setStorageProviderByGcAddr : State :=
  { s with byGcAddr := s.byGcAddr.insert sp.gcAddress sp.id }

/-- `SetStorageProviderByBlsKey`. -/
def State.setStorageProviderByBlsKey : State :=
  { s with byBlsKey := s.byBlsKey.insert sp.blsKey sp.id }

/-- `GetAllStorageProviders`. -/
def State.getAllStorageProviders : List Provider :=
  s.providers.entries.map fun e => e.2

/-- `Exit`. -/
def State.exit : State :=
  { s with
    byOperatorAddr := s.byOperatorAddr.erase sp.operatorAddress
    byFundingAddr := s.byFundingAddr.erase sp.fundingAddress
    bySealAddr := s.bySealAddr.erase sp.sealAddress
    byApprovalAddr := s.byApprovalAddr.erase sp.approvalAddress
    byGcAddr := s.byGcAddr.erase sp.gcAddress
    providers := s.providers.erase sp.id
    -- the key handed to `GetStorageProviderByBlsKeyKey` already has the prefix
    byBlsKey := s.byBlsKey.erase (blsPubKeyPrefix :: sp.blsKey)
    id_key := fun i sp' h => s.id_key i sp' (SortedMap.find?_of_erase h) }

/-! ### The bank -/

/-- `SendCoins` of one coin. -/
def State.sendCoins (sender recipient : Addr) (amount : ℤ) : Except Error State :=
  if amount < 0 then .error .negativeCoinAmount
  else if s.balance sender < amount then .error (.insufficientFunds sender)
  else
    let paid := Function.update s.balance sender (s.balance sender - amount)
    .ok { s with balance := Function.update paid recipient (paid recipient + amount) }

/-- `SendCoinsFromModuleToAccount`, from the module account. -/
def State.sendCoinsFromModuleToAccount (recipient : Addr) (amount : ℤ) : Except Error State :=
  if ctx.blockedAddr recipient then .error (.unauthorized recipient)
  else s.sendCoins moduleAddress recipient amount

/-- The total of the rewards of a slash, all in the denomination of the deposits. -/
def totalReward (denom : String) : List RewardInfo → ℤ → Except Error ℤ
  | [], total => .ok total
  | info :: rest, total =>
    if denom ≠ info.amount.denom then .error (.invalidDenom info.amount.denom denom)
    else totalReward denom rest (total + info.amount.amount)

/-- `Slash`. -/
def State.slash (spID : ℕ) (rewardInfos : List RewardInfo) : Except Error State :=
  match s.getStorageProvider spID with
  | none => .error .storageProviderNotFound
  | some sp => do
    let totalAmount ← totalReward s.params.depositDenom rewardInfos 0
    if sp.totalDeposit < totalAmount then .error .insufficientDepositAmount
    else do
      let s ← rewardInfos.foldlM
        (fun s info => s.sendCoinsFromModuleToAccount ctx info.address info.amount.amount) s
      return s.setStorageProvider { sp with totalDeposit := sp.totalDeposit - totalAmount }

/-! ### Maintenance -/

/-- `UpdateToInMaintenance`: the changed record, and the state with the new request. -/
def State.updateToInMaintenance (requestDuration : ℤ) : Except Error (Provider × State) :=
  if s.params.maintenanceDurationQuota < requestDuration then
    .error .storageProviderStatusUpdateNotAllow
  else
    let newRecord : MaintenanceRecord :=
      { height := ctx.blockHeight, requestDuration := requestDuration, actualDuration := 0,
        requestAt := ctx.blockTime }
    let sp := { sp with status := .inMaintenance }
    match s.maintenanceStats.find? sp.operatorAddress with
    | none => .ok (sp, { s with
        maintenanceStats := s.maintenanceStats.insert sp.operatorAddress [newRecord] })
    | some records =>
      if records.getLast?.any fun record => decide (ctx.blockHeight <
          int64 (record.height + s.params.numOfLockupBlocksForMaintenance)) then
        .error .storageProviderStatusUpdateNotAllow
      else
        -- the loop runs from the last record to the first
        let totalUsedTime := records.foldr (fun record total => int64 (total + record.actualDuration)) 0
        if s.params.maintenanceDurationQuota < int64 (totalUsedTime + requestDuration) then
          .error .storageProviderStatusUpdateNotAllow
        else .ok (sp, { s with
          maintenanceStats := s.maintenanceStats.insert sp.operatorAddress (records ++ [newRecord]) })

/-- `UpdateToInService`. -/
def State.updateToInService : Provider × State :=
  let served := { sp with status := .inService }
  match (s.maintenanceStats.find? sp.operatorAddress).bind fun records =>
      records.getLast?.map fun lastRecord => (records, lastRecord) with
  | none => (served, s)
  | some (records, lastRecord) =>
    (served, { s with
      maintenanceStats := s.maintenanceStats.insert sp.operatorAddress (records.dropLast ++
        [{ lastRecord with actualDuration := int64 (ctx.blockTime - lastRecord.requestAt) }]) })

/-- The record has not been closed, and the requested duration is over. -/
def MaintenanceRecord.isOverdue (curTime : ℤ) (record : MaintenanceRecord) : Bool :=
  decide (record.actualDuration = 0 ∧ int64 (record.requestAt + record.requestDuration) < curTime)

/-- The record is older than the blocks that are kept. -/
def MaintenanceRecord.isOutdated (p : Params) (record : MaintenanceRecord) : Bool :=
  decide (int64 (record.height + p.numOfHistoricalBlocksForMaintenanceRecords) < ctx.blockHeight)

/-- The sweep puts a provider back in service: every provider that is not in service is looked
at, whether it is in maintenance or not. -/
def Provider.isOverdue (curTime : ℤ) (sp : Provider) (records : List MaintenanceRecord) : Bool :=
  decide (sp.status ≠ .inService) && records.any (·.isOverdue curTime)

/-- The records of a provider after the sweep has closed those that are overdue. -/
def Provider.closeOverdue (curTime : ℤ) (sp : Provider) (records : List MaintenanceRecord) :
    List MaintenanceRecord :=
  if sp.isOverdue curTime records then
    records.map fun record => if record.isOverdue curTime then
      { record with actualDuration := record.requestDuration } else record
  else records

/-- Store the records under an address, or delete the key when there are none. -/
def State.setRecords (records : List MaintenanceRecord) : State :=
  { s with
    maintenanceStats := if records = [] then s.maintenanceStats.erase addr
      else s.maintenanceStats.insert addr records }

/-- The body of the loop of `ForceUpdateMaintenanceRecords`. -/
def State.forceUpdateRecords : State :=
  match s.maintenanceStats.find? sp.operatorAddress with
  | none => s
  | some records =>
    let updated := if sp.isOverdue ctx.blockTime records then
      s.setStorageProvider { sp with status := .inService } else s
    -- the records after the last outdated one are kept
    updated.setRecords sp.operatorAddress ((sp.closeOverdue ctx.blockTime records).rtakeWhile
      fun record => !record.isOutdated ctx s.params)

/-- `ForceUpdateMaintenanceRecords`. -/
def State.forceUpdateMaintenanceRecords : State :=
  s.getAllStorageProviders.foldl (State.forceUpdateRecords ctx) s

/-! ### Prices -/

/-- `chopPrecisionAndRound`: half of the last digit is rounded to the even neighbour. -/
def chopPrecisionAndRound (x : ℤ) : ℤ :=
  let quo : ℕ := x.natAbs / 10 ^ 18
  let rem : ℕ := x.natAbs % 10 ^ 18
  let rounded := if 5 * 10 ^ 17 < rem ∨ (rem = 5 * 10 ^ 17 ∧ quo % 2 = 1) then quo + 1 else quo
  x.sign * rounded

/-- `calculateMedian`, of a list that is not empty. -/
def calculateMedian (prices : List ℤ) : ℤ :=
  let sorted := prices.insertionSort (· ≤ ·)
  let l := sorted.length
  if l % 2 = 0 then (sorted.getD (l / 2 - 1) 0 + sorted.getD (l / 2) 0).tdiv 2
  else sorted.getD (l / 2) 0

/-- The prices of the providers that are in service or in maintenance; `none` if one has no
price. -/
def State.countedPrices : Option (List SpStoragePrice) :=
  (s.getAllStorageProviders.filter fun sp => sp.isInService || sp.isInMaintenance).mapM
    fun sp => s.spStoragePrices.find? sp.id

/-- `UpdateGlobalSpStorePrice`; an error is only logged. -/
def State.updateGlobalSpStorePrice : State :=
  match s.countedPrices with
  | none => s
  | some [] => s
  | some prices =>
    let primaryStorePrice := calculateMedian (prices.map SpStoragePrice.storePrice)
    { s with
      globalSpStorePrices := s.globalSpStorePrices.insert ctx.blockTime
        { readPrice := calculateMedian (prices.map SpStoragePrice.readPrice)
          primaryStorePrice := primaryStorePrice
          secondaryStorePrice :=
            chopPrecisionAndRound (s.params.secondarySpStorePriceRatio * primaryStorePrice) } }

/-- The time of the last global price before a time. -/
def State.lastPriceTime (time : ℤ) : Option ℤ :=
  ((s.globalSpStorePrices.entries.takeWhile fun e => decide (e.1 < time)).getLast?).map Prod.fst

/-- Whether the global price is to be computed at the end of a block. -/
def State.needUpdate : Bool :=
  match s.lastPriceTime (ctx.blockTime + 1) with
  | none => true
  | some updateTimeSec =>
    if 0 < s.params.updateGlobalPriceInterval then
      decide (int64 s.params.updateGlobalPriceInterval < int64 (ctx.blockTime - updateTimeSec))
    else decide (ctx.month updateTimeSec ≠ ctx.month ctx.blockTime)

/-- `EndBlocker` of `abci.go`. -/
def State.endBlocker : State :=
  let s := if ctx.blockHeight % maintenanceRecordsGCFrequencyInBlocks = 0 then
    s.forceUpdateMaintenanceRecords ctx else s
  if s.needUpdate ctx then s.updateGlobalSpStorePrice ctx else s

/-! ### What the other modules see -/

/-- The records and indexes that the other modules read. -/
def State.store : Store where
  providers := s.providers.mapWithKey fun _ sp => sp.toStorageProvider
  byOperatorAddr := s.byOperatorAddr
  byFundingAddr := s.byFundingAddr
  id_key i sp h := by
    rw [SortedMap.find?_mapWithKey] at h
    obtain ⟨sp', h', rfl⟩ := Option.map_eq_some_iff.1 h
    exact s.id_key i sp' h'

end Moca.Sp
