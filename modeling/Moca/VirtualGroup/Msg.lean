/-
# Messages and runs of `x/virtualgroup`

`keeper/msg_server.go`, with the `ValidateBasic` of each message.  A failed message
is rolled back.  Between two messages the other modules move on: `x/sp` changes its
store, `x/payment` its own, and `x/storage` the stored size of a group.
-/

import Moca.VirtualGroup.Keeper

namespace Moca.VirtualGroup

/-! ### Groups and deposits -/

variable (ctx : Ctx) (s : State) (storageProvider : Addr) (familyID : ℕ)

/-- Look up the sender of a message by operator address. -/
def State.operator (addr : Addr) : Except Error Sp.StorageProvider :=
  match s.sp.getStorageProviderByOperatorAddr addr with
  | none => .error .storageProviderNotFound
  | some sp => .ok sp

/-- Look up the sender of a message by operator address, and then by funding address. -/
def State.operatorOrFunding (addr : Addr) : Except Error Sp.StorageProvider :=
  match s.sp.getStorageProviderByOperatorAddr addr with
  | some sp => .ok sp
  | none =>
    match s.sp.getStorageProviderByFundingAddr addr with
    | none => .error .storageProviderNotFound
    | some sp => .ok sp

/-- The first id that occurs twice, if there is one. -/
def checkDuplicates : List ℕ → List ℕ → Except Error Unit
  | [], _ => .ok ()
  | spID :: rest, seen =>
    if spID ∈ seen then .error (.duplicateSecondarySP spID)
    else checkDuplicates rest (spID :: seen)

/-- The statistics of a secondary provider of a new group. -/
def State.secondaryStat (sp : Sp.StorageProvider) (id : ℕ) :
    Except Error (ℕ × GVGStatisticsWithinSP) :=
  match s.sp.getStorageProvider id with
  | none => .error .storageProviderNotFound
  | some ssp =>
    if ssp.isInService = false ∧ ssp.isInMaintenance = false then
      .error (.storageProviderNotInService sp.status)
    else
      let stat := s.getOrCreateGVGStatisticsWithinSP ssp.id
      .ok (ssp.id, { stat with secondaryCount := inc32 stat.secondaryCount })

/-- The inner loop of the search for a group with the same secondary providers: whether the new
list agrees with the old one up to its own last position. -/
def sameSecondaries : List ℕ → List ℕ → Except Error Bool
  | [], _ => .ok false
  | _ :: _, [] => .error (.panic .indexOutOfRange)
  | old :: rest, new :: rest' =>
    if old ≠ new then .ok false
    else if rest' = [] then .ok true
    else sameSecondaries rest rest'

/-- The search for a group with the same secondary providers in the same order. -/
def State.checkDuplicateGVG (secondarySpIDs : List ℕ) (gvgID : ℕ) : Except Error Unit :=
  match s.gvgs.find? gvgID with
  | none => .error .gvgNotExist
  | some gvg => do
    if ← sameSecondaries gvg.secondarySpIds secondarySpIDs then .error .duplicateGVG else return ()

/-- `CreateGlobalVirtualGroup`. -/
def createGlobalVirtualGroup (reqSecondarySpIds : List ℕ) (coin : Coin) : Except Error State :=
  if coin.amount ≤ 0 then .error .invalidMessage
  else if reqSecondarySpIds.length ≠ ctx.expectSecondarySPNum then
    .error (.invalidSecondarySPCount ctx.expectSecondarySPNum)
  else do
    checkDuplicates reqSecondarySpIds []
    let sp ← s.operator storageProvider
    if sp.isInService = false ∧ sp.isInMaintenance = false then
      .error (.storageProviderNotInService sp.status)
    else do
      -- the statistics of all providers are loaded before any is written
      let stat := s.getOrCreateGVGStatisticsWithinSP sp.id
      let stats ← reqSecondarySpIds.mapM (s.secondaryStat sp)
      let secondarySpIDs := stats.map fun e => e.1
      let (s, familyID, family) ← s.getOrCreateEmptyGVGFamily ctx familyID sp.id
      family.globalVirtualGroupIds.forM (s.checkDuplicateGVG secondarySpIDs)
      if s.params.maxGlobalVirtualGroupNumPerFamily < family.globalVirtualGroupIds.length then
        .error .limitationExceed
      else do
        let s ← s.sendCoinsFromAccountToModule sp.fundingAddress coin.amount
        let gvgID := inc32 s.gvgSequence
        let s := { s with gvgSequence := gvgID }
        let s := s.setGVG gvgID
          { familyId := familyID
            primarySpId := sp.id
            secondarySpIds := secondarySpIDs
            storedSize := 0
            virtualPaymentAddress := ctx.deriveGVG gvgID
            totalDeposit := coin.amount }
        let s := s.setGVGFamily familyID
          { family with globalVirtualGroupIds := family.globalVirtualGroupIds ++ [gvgID] }
        return s.batchSetGVGStatisticsWithinSP
          ((sp.id, { stat with primaryCount := inc32 stat.primaryCount }) :: stats)

/-- `DeleteGlobalVirtualGroup`. -/
def deleteGlobalVirtualGroup (gvgID : ℕ) : Except Error State := do
  let sp ← s.operator storageProvider
  s.deleteGVG ctx sp gvgID

/-- `Deposit`. -/
def deposit (gvgID : ℕ) (coin : Coin) : Except Error State :=
  if coin.amount ≤ 0 then .error .invalidMessage
  else do
    let sp ← s.operatorOrFunding storageProvider
    match s.gvgs.find? gvgID with
    | none => .error .gvgNotExist
    | some gvg =>
      if s.params.depositDenom ≠ coin.denom then
        .error (.invalidDenom coin.denom s.params.depositDenom)
      else do
        let s ← s.sendCoinsFromAccountToModule sp.fundingAddress coin.amount
        return s.setGVG gvgID { gvg with totalDeposit := gvg.totalDeposit + coin.amount }

/-- The amount that a withdrawal pays. -/
def withdrawTokens (available requested : ℤ) : Except Error ℤ :=
  if available < 0 then .error (.panic .negativeAvailableTokens)
  else if requested = 0 then .ok available
  else if available < requested then .error .withdrawAmountTooLarge
  else .ok requested

/-- `Withdraw`: only the primary provider of the group may withdraw. -/
def withdraw (gvgID : ℕ) (coin : Coin) : Except Error State :=
  if coin.amount ≤ 0 then .error .invalidMessage
  else do
    let sp ← s.operatorOrFunding storageProvider
    match s.gvgs.find? gvgID with
    | none => .error .gvgNotExist
    | some gvg =>
      if gvg.primarySpId ≠ sp.id then .error (.withdrawFailed sp.id gvg.primarySpId)
      else if coin.denom ≠ s.params.depositDenom then
        .error (.invalidDenom coin.denom s.params.depositDenom)
      else do
        let tokens ← withdrawTokens (s.getAvailableStakingTokens gvg) coin.amount
        let s ← s.sendCoinsFromModuleToAccount ctx sp.fundingAddress tokens
        return s.setGVG gvgID { gvg with totalDeposit := gvg.totalDeposit - tokens }

/-! ### Swaps -/

/-- `ValidateBasic` of the swap out messages: either a family or groups. -/
def checkFamilyOrGVGs (gvgIDs : List ℕ) : Except Error Unit :=
  if familyID = noSpecifiedFamilyID then
    if gvgIDs = [] then .error .invalidMessage else .ok ()
  else if gvgIDs = [] then .ok () else .error .invalidMessage

/-- `ValidateBasic` of the swap in messages: either a family or a group. -/
def checkFamilyOrGVG (gvgID : ℕ) : Except Error Unit :=
  if familyID = noSpecifiedFamilyID then
    if gvgID = 0 then .error .invalidMessage else .ok ()
  else if gvgID = 0 then .ok () else .error .invalidMessage

/-- `SwapOut`; `approved` says whether the signature of the approval is that of the successor. -/
def swapOut (gvgIDs : List ℕ) (successorSpId : ℕ) (approved : Bool) : Except Error State := do
  checkFamilyOrGVGs familyID gvgIDs
  if successorSpId = 0 then .error .invalidMessage
  else do
    let sp ← s.operator storageProvider
    match s.sp.getStorageProvider successorSpId with
    | none => .error .storageProviderNotFound
    | some successorSP =>
      if successorSP.isInService = false then .error (.storageProviderNotInService sp.status)
      else if approved = false then .error .invalidSignature
      else s.setSwapOutInfo familyID gvgIDs ⟨sp.id, successorSP.id⟩

/-- `CancelSwapOut`. -/
def cancelSwapOut (gvgIDs : List ℕ) : Except Error State := do
  checkFamilyOrGVGs familyID gvgIDs
  let sp ← s.operator storageProvider
  s.deleteSwapOutInfo familyID gvgIDs sp.id

/-- `CompleteSwapOut`. -/
def completeSwapOut (ctx : Ctx) (s : State) (storageProvider : Addr) (familyID : ℕ)
    (gvgIDs : List ℕ) : Except Error State := do
  checkFamilyOrGVGs familyID gvgIDs
  let sp ← s.operator storageProvider
  s.completeSwapOut ctx familyID gvgIDs sp

/-- `SwapInValidityPeriod`. -/
def Params.swapInPeriod (p : Params) : Except Error ℤ :=
  if 2 ^ 64 ≤ p.swapInValidityPeriod then .error (.panic .uint64OutOfBound)
  else .ok (int64 p.swapInValidityPeriod)

/-- `ReserveSwapIn`. -/
def reserveSwapIn (targetSpId familyID gvgID : ℕ) : Except Error State := do
  checkFamilyOrGVG familyID gvgID
  if targetSpId = 0 then .error .invalidMessage
  else do
    let successorSP ← s.operator storageProvider
    if successorSP.id = targetSpId then .error (.swapInFailed .self)
    else
      match s.sp.getStorageProvider targetSpId with
      | none => .error .storageProviderNotFound
      | some targetSP => do
        let period ← s.params.swapInPeriod
        s.swapIn ctx familyID gvgID successorSP.id targetSP (int64 (ctx.blockTime + period))

/-- `CancelSwapIn`. -/
def cancelSwapIn (gvgID : ℕ) : Except Error State := do
  checkFamilyOrGVG familyID gvgID
  let successorSP ← s.operator storageProvider
  s.deleteSwapInInfo familyID gvgID successorSP.id

/-- `CompleteSwapIn`. -/
def completeSwapIn (ctx : Ctx) (s : State) (storageProvider : Addr) (familyID gvgID : ℕ) :
    Except Error State := do
  checkFamilyOrGVG familyID gvgID
  let successorSP ← s.operator storageProvider
  s.completeSwapIn ctx familyID gvgID successorSP

/-! ### Settlement, exit and parameters -/

/-- One group of `Settle`. -/
def State.settleGVG (gvgID : ℕ) : Except Error State :=
  match s.gvgs.find? gvgID with
  | none => .error .gvgNotExist
  | some gvg => s.settleAndDistributeGVG ctx .settleFailed gvg

/-- `Settle`; the groups are settled in the order in which the map of their ids is iterated. -/
def settle (gvgIDs : List ℕ) : Except Error State :=
  if familyID ≠ noSpecifiedFamilyID then
    match s.families.find? familyID with
    | none => .error .gvgFamilyNotExist
    | some family =>
      match s.sp.getStorageProvider family.primarySpId with
      | none => .error .storageProviderNotFound
      | some sp => s.settleAndDistributeGVGFamily ctx .settleFailed sp family
  else gvgIDs.foldlM (State.settleGVG ctx) s

/-- The loop that counts the exiting providers, and fails when there are too many. -/
def checkExiting (max : ℕ) : List Sp.StorageProvider → ℕ → Except Error Unit
  | [], _ => .ok ()
  | sp :: rest, count =>
    if sp.status.isExiting then
      if max ≤ count + 1 then .error .storageProviderExitFailed else checkExiting max rest (count + 1)
    else checkExiting max rest count

/-- `SpConcurrentExitNum`. -/
def Params.maxExiting (p : Params) : Except Error ℕ :=
  if 2 ^ 64 ≤ p.spConcurrentExitNum then .error (.panic .uint64OutOfBound)
  else .ok (p.spConcurrentExitNum % 2 ^ 32)

/-- `StorageProviderExit`. -/
def storageProviderExit : Except Error State := do
  let sp ← s.operator storageProvider
  if sp.status ≠ .inService then .error .storageProviderExitFailed
  else if (s.gvgStatistics.find? sp.id).any
      (fun stat => decide (stat.breakRedundancyReqmtGvgCount ≠ 0)) then
    .error .spCanNotExit
  else do
    let max ← s.params.maxExiting
    checkExiting max s.sp.getAllStorageProviders 0
    return { s with sp := s.sp.setStorageProvider { sp with status := .gracefulExiting } }

/-- `StorageProviderForcedExit`, sent by the authority. -/
def storageProviderForcedExit : Except Error State := do
  let sp ← s.operator storageProvider
  let max ← s.params.maxExiting
  checkExiting max s.sp.getAllStorageProviders 0
  return { s with sp := s.sp.setStorageProvider { sp with status := .forcedExiting } }

/-- `CompleteStorageProviderExit`: the deposit of the provider lies in the module account of
`x/sp`; after a forced exit it goes to the governance account. -/
def completeStorageProviderExit : Except Error State := do
  let sp ← s.operator storageProvider
  if sp.status.isExiting = false then .error .storageProviderExitFailed
  else do
    s.storageProviderExitable sp.id
    let recipient := if sp.status = .gracefulExiting then sp.fundingAddress
      else Payment.governanceAddress
    if ctx.blockedAddr recipient then .error (.unauthorized recipient)
    else do
      let s ← s.sendCoins Sp.moduleAddress recipient sp.totalDeposit
      return { s with sp := s.sp.exit sp }

/-- `UpdateParams`, sent by the authority. -/
def updateParams (p : Params) : Except Error State :=
  if p.gvgStakingPerBytes ≠ s.params.gvgStakingPerBytes ∨ p.depositDenom ≠ s.params.depositDenom then
    .error .invalidParameter
  else if p.validate = false then .error .invalidParameter
  else .ok { s with params := p }

/-! ### Runs -/

/-- The messages of the module, and the steps of the other modules. -/
inductive Op
  | createGlobalVirtualGroup (storageProvider : Addr) (familyID : ℕ) (secondarySpIds : List ℕ)
    (coin : Coin)
  | deleteGlobalVirtualGroup (storageProvider : Addr) (gvgID : ℕ)
  | deposit (storageProvider : Addr) (gvgID : ℕ) (coin : Coin)
  | withdraw (storageProvider : Addr) (gvgID : ℕ) (coin : Coin)
  | swapOut (storageProvider : Addr) (familyID : ℕ) (gvgIDs : List ℕ) (successorSpId : ℕ)
    (approved : Bool)
  | cancelSwapOut (storageProvider : Addr) (familyID : ℕ) (gvgIDs : List ℕ)
  | completeSwapOut (storageProvider : Addr) (familyID : ℕ) (gvgIDs : List ℕ)
  | reserveSwapIn (storageProvider : Addr) (targetSpId familyID gvgID : ℕ)
  | cancelSwapIn (storageProvider : Addr) (familyID gvgID : ℕ)
  | completeSwapIn (storageProvider : Addr) (familyID gvgID : ℕ)
  | settle (familyID : ℕ) (gvgIDs : List ℕ)
  | storageProviderExit (storageProvider : Addr)
  | storageProviderForcedExit (storageProvider : Addr)
  | completeStorageProviderExit (storageProvider : Addr)
  | updateParams (p : Params)
  /-- `x/sp` changes its store. -/
  | sp (store : Sp.Store)
  /-- `x/payment` takes a step. -/
  | payment (op : Payment.Op)
  /-- `x/storage` changes the stored size of a group. -/
  | storedSize (gvgID size : ℕ)

/-- What a message or a step of another module does. -/
def Op.run (ctx : Ctx) (s : State) : Op → Except Error State
  | .createGlobalVirtualGroup storageProvider familyID secondarySpIds coin =>
    VirtualGroup.createGlobalVirtualGroup ctx s storageProvider familyID secondarySpIds coin
  | .deleteGlobalVirtualGroup storageProvider gvgID =>
    VirtualGroup.deleteGlobalVirtualGroup ctx s storageProvider gvgID
  | .deposit storageProvider gvgID coin => VirtualGroup.deposit s storageProvider gvgID coin
  | .withdraw storageProvider gvgID coin => VirtualGroup.withdraw ctx s storageProvider gvgID coin
  | .swapOut storageProvider familyID gvgIDs successorSpId approved =>
    VirtualGroup.swapOut s storageProvider familyID gvgIDs successorSpId approved
  | .cancelSwapOut storageProvider familyID gvgIDs =>
    VirtualGroup.cancelSwapOut s storageProvider familyID gvgIDs
  | .completeSwapOut storageProvider familyID gvgIDs =>
    VirtualGroup.completeSwapOut ctx s storageProvider familyID gvgIDs
  | .reserveSwapIn storageProvider targetSpId familyID gvgID =>
    VirtualGroup.reserveSwapIn ctx s storageProvider targetSpId familyID gvgID
  | .cancelSwapIn storageProvider familyID gvgID =>
    VirtualGroup.cancelSwapIn s storageProvider familyID gvgID
  | .completeSwapIn storageProvider familyID gvgID =>
    VirtualGroup.completeSwapIn ctx s storageProvider familyID gvgID
  | .settle familyID gvgIDs => VirtualGroup.settle ctx s familyID gvgIDs
  | .storageProviderExit storageProvider => VirtualGroup.storageProviderExit s storageProvider
  | .storageProviderForcedExit storageProvider =>
    VirtualGroup.storageProviderForcedExit s storageProvider
  | .completeStorageProviderExit storageProvider =>
    VirtualGroup.completeStorageProviderExit ctx s storageProvider
  | .updateParams p => VirtualGroup.updateParams s p
  | .sp store => .ok { s with sp := store }
  | .payment op =>
    match op.run ctx.toCtx s.payment with
    | .ok p => .ok { s with payment := p }
    | .error _ => .ok s
  | .storedSize gvgID size =>
    match s.gvgs.find? gvgID with
    | none => .ok s
    | some gvg => .ok (s.setGVG gvgID { gvg with storedSize := size })

/-- A step of the chain: a message that fails is rolled back. -/
def State.step (l : Ctx × Op) : Option State :=
  match l.2.run l.1 s with
  | .ok s' => some s'
  | .error _ => some s

end Moca.VirtualGroup
