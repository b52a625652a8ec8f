/-
# The keeper of `x/virtualgroup`

`keeper/keeper.go` and `keeper/payment.go`: groups, families and their statistics,
the settlement of the virtual payment accounts, and the swaps.

Statistics are loaded, changed and written back as a whole.  Where the code loads
those of two providers before it writes any, and the providers are the same, the
second write replaces the first.
-/

import Moca.VirtualGroup.Types

namespace Moca.VirtualGroup

/-! ### Groups, families and statistics -/

variable (ctx : Ctx) (s : State) (spID familyID : ℕ)

/-- `SetGVG`. -/
def State.setGVG (gvgID : ℕ) (gvg : GlobalVirtualGroup) : State :=
  { s with gvgs := s.gvgs.insert gvgID gvg }

/-- `SetGVGFamily`. -/
def State.setGVGFamily (family : GlobalVirtualGroupFamily) : State :=
  { s with families := s.families.insert familyID family }

/-- `GetOrCreateGVGStatisticsWithinSP`. -/
def State.getOrCreateGVGStatisticsWithinSP : GVGStatisticsWithinSP :=
  (s.gvgStatistics.find? spID).getD {}

/-- `MustGetGVGStatisticsWithinSP`. -/
def State.mustGetGVGStatisticsWithinSP : Except Error GVGStatisticsWithinSP :=
  match s.gvgStatistics.find? spID with
  | none => .error (.panic .statisticsNotFound)
  | some stat => .ok stat

/-- `SetGVGStatisticsWithSP`. -/
def State.setGVGStatisticsWithSP (stat : GVGStatisticsWithinSP) : State :=
  { s with gvgStatistics := s.gvgStatistics.insert spID stat }

/-- `BatchSetGVGStatisticsWithinSP`. -/
def State.batchSetGVGStatisticsWithinSP (stats : List (ℕ × GVGStatisticsWithinSP)) : State :=
  stats.foldl (fun s e => s.setGVGStatisticsWithSP e.1 e.2) s

/-- `GetOrCreateGVGFamilyStatisticsWithinSP`. -/
def State.getOrCreateGVGFamilyStatisticsWithinSP : List ℕ :=
  (s.gvgFamilyStatistics.find? spID).getD []

/-- `MustGetGVGFamilyStatisticsWithinSP`. -/
def State.mustGetGVGFamilyStatisticsWithinSP : Except Error (List ℕ) :=
  match s.gvgFamilyStatistics.find? spID with
  | none => .error (.panic .familyStatisticsNotFound)
  | some ids => .ok ids

/-- `SetGVGFamilyStatisticsWithinSP`. -/
def State.setGVGFamilyStatisticsWithinSP (ids : List ℕ) : State :=
  { s with gvgFamilyStatistics := s.gvgFamilyStatistics.insert spID ids }

/-- `DeleteSpecificGVGFamilyStatisticsFromSP`: nothing is written if the family is not there. -/
def State.deleteSpecificGVGFamilyStatisticsFromSP : Except Error State := do
  let ids ← s.mustGetGVGFamilyStatisticsWithinSP spID
  if familyID ∈ ids then return s.setGVGFamilyStatisticsWithinSP spID (ids.erase familyID)
  else return s

/-- `MustRemoveGVG`. -/
def GlobalVirtualGroupFamily.mustRemoveGVG (f : GlobalVirtualGroupFamily) (gvgID : ℕ) :
    Except Error GlobalVirtualGroupFamily :=
  if gvgID ∈ f.globalVirtualGroupIds then
    .ok { f with globalVirtualGroupIds := f.globalVirtualGroupIds.erase gvgID }
  else .error (.panic .removeGVG)

/-- `GetOrCreateEmptyGVGFamily`: without a family id a new family is made for the provider. -/
def State.getOrCreateEmptyGVGFamily (primarySPID : ℕ) :
    Except Error (State × ℕ × GlobalVirtualGroupFamily) :=
  if familyID = noSpecifiedFamilyID then
    let id := inc32 s.gvgFamilySequence
    let s := { s with gvgFamilySequence := id }
    let ids := s.getOrCreateGVGFamilyStatisticsWithinSP primarySPID
    .ok (s.setGVGFamilyStatisticsWithinSP primarySPID (ids ++ [id]), id,
      { primarySpId := primarySPID, virtualPaymentAddress := ctx.deriveFamily id })
  else
    match s.families.find? familyID with
    | none => .error .gvgFamilyNotExist
    | some family => .ok (s, familyID, family)

/-- `GetAvailableStakingTokens`. -/
def State.getAvailableStakingTokens (gvg : GlobalVirtualGroup) : ℤ :=
  gvg.totalDeposit - s.params.gvgStakingPerBytes * int64 gvg.storedSize

/-- `paymentKeeper.IsEmptyNetFlow`. -/
def State.isEmptyNetFlow (addr : Addr) : Bool := s.payment.isEmptyNetFlow addr

/-- One secondary provider of a deleted group. -/
def State.decSecondary : Except Error State := do
  let stat ← s.mustGetGVGStatisticsWithinSP spID
  return s.setGVGStatisticsWithSP spID { stat with secondaryCount := dec32 stat.secondaryCount }

/-- "send back the deposit", if there is one. -/
def State.sendBackDeposit (recipient : Addr) (totalDeposit : ℤ) : Except Error State :=
  if totalDeposit ≠ 0 then s.sendCoinsFromModuleToAccount ctx recipient totalDeposit else .ok s

/-- `DeleteGVG`: the deposit goes to the funding address of the provider in the arguments. -/
def State.deleteGVG (primarySp : Sp.StorageProvider) (gvgID : ℕ) : Except Error State :=
  match s.gvgs.find? gvgID with
  | none => .error .gvgNotExist
  | some gvg =>
    if gvg.storedSize ≠ 0 then .error .gvgNotEmpty
    else if s.isEmptyNetFlow gvg.virtualPaymentAddress = false then .error .gvgNotEmpty
    else do
      let s ← s.sendBackDeposit ctx primarySp.fundingAddress gvg.totalDeposit
      match s.families.find? gvg.familyId with
      | none => .error (.panic .familyNotFound)
      | some family =>
        let family ← family.mustRemoveGVG gvgID
        let stat ← s.mustGetGVGStatisticsWithinSP family.primarySpId
        let s := s.setGVGStatisticsWithSP family.primarySpId
          { stat with primaryCount := dec32 stat.primaryCount }
        let s ← gvg.secondarySpIds.foldlM State.decSecondary s
        return { s with gvgs := s.gvgs.erase gvgID }.setGVGFamily gvg.familyId family

/-! ### Settlement of the virtual payment accounts -/

/-- `SettleAndDistributeGVGFamily`. -/
def State.settleAndDistributeGVGFamily (e : Error) (sp : Sp.StorageProvider)
    (family : GlobalVirtualGroupFamily) : Except Error State := do
  let (payment, totalBalance) ← ofPayment e
    (Payment.queryDynamicBalance (ctx.toCtx.withForced false) s.payment family.virtualPaymentAddress)
  if totalBalance ≤ 0 then return { s with payment := payment }
  else do
    let payment ← ofPayment e (Payment.keeperWithdraw (ctx.toCtx.withForced false) payment
      family.virtualPaymentAddress sp.fundingAddress totalBalance)
    return { s with payment := payment }

/-- The share of one secondary provider. -/
def State.payShare (e : Error) (paymentAddress : Addr) (amount : ℤ) (s : State) (spID : ℕ) :
    Except Error State :=
  match s.sp.getStorageProvider spID with
  | none => .error e
  | some sp => do
    let payment ← ofPayment e (Payment.keeperWithdraw (ctx.toCtx.withForced false) s.payment
      paymentAddress sp.fundingAddress amount)
    return { s with payment := payment }

/-- `SettleAndDistributeGVG`: equal shares for the secondary providers. -/
def State.settleAndDistributeGVG (e : Error) (gvg : GlobalVirtualGroup) : Except Error State := do
  let (payment, totalBalance) ← ofPayment e
    (Payment.queryDynamicBalance (ctx.toCtx.withForced false) s.payment gvg.virtualPaymentAddress)
  let s := { s with payment := payment }
  if gvg.secondarySpIds.length = 0 then .error (.panic .divisionByZero)
  else
    let amount := totalBalance.tdiv gvg.secondarySpIds.length
    if amount ≤ 0 then return s
    else gvg.secondarySpIds.foldlM (State.payShare ctx e gvg.virtualPaymentAddress amount) s

/-! ### Swapping the primary provider of a family -/

/-- What the loop of `SwapAsPrimarySP` over the groups of a family has done so far. -/
structure FamilySwap where
  state : State
  /-- The groups to be written with the new primary. -/
  gvgs : List (ℕ × GlobalVirtualGroup)
  srcStat : GVGStatisticsWithinSP
  dstStat : GVGStatisticsWithinSP

/-- The error of a swap that may be in either direction. -/
def swapFailed (swapIn : Bool) (i : SwapInFailure) (o : SwapOutFailure) : Error :=
  if swapIn then .swapInFailed i else .swapOutFailed o

/-- "swap deposit": the successor pays the deposit of a group to the old primary. -/
def State.swapDeposit (successor primary : Addr) (totalDeposit : ℤ) : Except Error State :=
  if totalDeposit ≠ 0 then s.sendCoins successor primary totalDeposit else .ok s

/-- The successor gets a group as primary; it may be one of its secondaries already. -/
def GVGStatisticsWithinSP.addPrimary (stat : GVGStatisticsWithinSP) (isSecondary : Bool) :
    GVGStatisticsWithinSP :=
  { stat with
    primaryCount := inc32 stat.primaryCount
    breakRedundancyReqmtGvgCount :=
      if isSecondary then inc32 stat.breakRedundancyReqmtGvgCount
      else stat.breakRedundancyReqmtGvgCount }

/-- One group of the family. -/
def swapGVG (primarySP successorSP : Sp.StorageProvider) (swapIn : Bool) (acc : FamilySwap)
    (gvgID : ℕ) : Except Error FamilySwap :=
  match acc.state.gvgs.find? gvgID with
  | none => .error .gvgNotExist
  | some gvg =>
    if gvg.primarySpId ≠ primarySP.id then
      .error (swapFailed swapIn .primaryMismatch .primaryMismatch)
    else if successorSP.id ∈ gvg.secondarySpIds ∧ swapIn = false then
      .error (.swapOutFailed .successorIsSecondary)
    else do
      let s ← acc.state.swapDeposit successorSP.fundingAddress primarySP.fundingAddress
        gvg.totalDeposit
      return {
        state := s
        gvgs := acc.gvgs ++ [(gvgID, { gvg with primarySpId := successorSP.id })]
        srcStat := { acc.srcStat with primaryCount := dec32 acc.srcStat.primaryCount }
        dstStat := acc.dstStat.addPrimary (decide (successorSP.id ∈ gvg.secondarySpIds)) }

/-- `SwapAsPrimarySP`. -/
def State.swapAsPrimarySP (primarySP successorSP : Sp.StorageProvider) (familyID : ℕ)
    (swapIn : Bool) : Except Error State :=
  match s.families.find? familyID with
  | none => .error .gvgFamilyNotExist
  | some family =>
    if family.primarySpId ≠ primarySP.id then .error (.swapOutFailed .familyNotOwned)
    else do
      let srcStat ← s.mustGetGVGStatisticsWithinSP primarySP.id
      let dstStat := s.getOrCreateGVGStatisticsWithinSP successorSP.id
      let _ ← s.mustGetGVGFamilyStatisticsWithinSP primarySP.id
      let dstFamilies := s.getOrCreateGVGFamilyStatisticsWithinSP successorSP.id
      let acc ← family.globalVirtualGroupIds.foldlM (swapGVG primarySP successorSP swapIn)
        { state := s, gvgs := [], srcStat := srcStat, dstStat := dstStat }
      let family := { family with primarySpId := successorSP.id }
      let s ← acc.state.settleAndDistributeGVGFamily ctx (swapFailed swapIn .settle .settle)
        primarySP family
      let s := s.setGVGFamily familyID family
      let s := acc.gvgs.foldl (fun s e => s.setGVG e.1 e.2) s
      let s := s.setGVGStatisticsWithSP primarySP.id acc.srcStat
      let s := s.setGVGStatisticsWithSP successorSP.id acc.dstStat
      let s ← s.deleteSpecificGVGFamilyStatisticsFromSP primarySP.id familyID
      return s.setGVGFamilyStatisticsWithinSP successorSP.id (dstFamilies ++ [familyID])

/-! ### Swapping a secondary provider of a group -/

/-- The search of `SwapOutAsSecondarySP`: the last position of `secondary`, and an error if
`successor` is met. -/
def searchSecondary (successor secondary : ℕ) : List ℕ → ℕ → Option ℕ → Except Error (Option ℕ)
  | [], _, found => .ok found
  | spID :: rest, i, found =>
    if spID = successor then .error (.swapOutFailed .successorIsSecondary)
    else searchSecondary successor secondary rest (i + 1)
      (if spID = secondary then some i else found)

/-- The last position of `target`. -/
def lastIndexOf (target : ℕ) : List ℕ → ℕ → Option ℕ → Option ℕ
  | [], _, found => found
  | spID :: rest, i, found => lastIndexOf target rest (i + 1) (if spID = target then some i else found)

/-- `SwapOutAsSecondarySP`. -/
def State.swapOutAsSecondarySP (secondarySP successorSP : Sp.StorageProvider) (gvgID : ℕ) :
    Except Error State :=
  match s.gvgs.find? gvgID with
  | none => .error .gvgNotExist
  | some gvg =>
    if gvg.primarySpId = successorSP.id then .error (.swapOutFailed .successorIsPrimary)
    else do
      match ← searchSecondary successorSP.id secondarySP.id gvg.secondarySpIds 0 none with
      | none => .error (.swapOutFailed .notSecondary)
      | some i => do
        let s ← s.settleAndDistributeGVG ctx (.swapOutFailed .settle) gvg
        let gvg := { gvg with secondarySpIds := gvg.secondarySpIds.set i successorSP.id }
        let origin ← s.mustGetGVGStatisticsWithinSP secondarySP.id
        let successor := s.getOrCreateGVGStatisticsWithinSP successorSP.id
        let s := s.setGVGStatisticsWithSP secondarySP.id
          { origin with secondaryCount := dec32 origin.secondaryCount }
        let s := s.setGVGStatisticsWithSP successorSP.id
          { successor with secondaryCount := inc32 successor.secondaryCount }
        return s.setGVG gvgID gvg

/-- A provider is no secondary of a group any more; it may be the primary of it. -/
def GVGStatisticsWithinSP.removeSecondary (stat : GVGStatisticsWithinSP) (isPrimary : Bool) :
    GVGStatisticsWithinSP :=
  { stat with
    secondaryCount := dec32 stat.secondaryCount
    breakRedundancyReqmtGvgCount :=
      if isPrimary then dec32 stat.breakRedundancyReqmtGvgCount
      else stat.breakRedundancyReqmtGvgCount }

/-- `completeSwapInGVG`. -/
def State.completeSwapInGVG (successorSPID targetSecondarySPID gvgID : ℕ) : Except Error State :=
  match s.gvgs.find? gvgID with
  | none => .error .gvgNotExist
  | some gvg =>
    if successorSPID = gvg.primarySpId then .error (.swapInFailed .successorIsPrimary)
    else do
      let s ← s.settleAndDistributeGVG ctx (.swapInFailed .settle) gvg
      match lastIndexOf targetSecondarySPID gvg.secondarySpIds 0 none with
      | none => .error (.panic .secondarySPIndex)
      | some i => do
        let origin ← s.mustGetGVGStatisticsWithinSP targetSecondarySPID
        let successor := s.getOrCreateGVGStatisticsWithinSP successorSPID
        let s := s.setGVGStatisticsWithSP targetSecondarySPID
          (origin.removeSecondary (decide (targetSecondarySPID = gvg.primarySpId)))
        let s := s.setGVGStatisticsWithSP successorSPID
          { successor with secondaryCount := inc32 successor.secondaryCount }
        return s.setGVG gvgID { gvg with
          secondarySpIds := gvg.secondarySpIds.set i successorSPID }

/-! ### Swap out -/

/-- `SetSwapOutInfo` for one group. -/
def State.setSwapOutGVG (info : SwapOutInfo) (s : State) (gvgID : ℕ) : Except Error State :=
  if s.swapOutGVGs.contains gvgID then .error (.swapOutFailed .alreadyExist)
  else .ok { s with swapOutGVGs := s.swapOutGVGs.insert gvgID info }

/-- `SetSwapOutInfo`. -/
def State.setSwapOutInfo (gvgIDs : List ℕ) (info : SwapOutInfo) : Except Error State :=
  if familyID ≠ noSpecifiedFamilyID then
    if s.swapOutFamilies.contains familyID then .error (.swapOutFailed .alreadyExist)
    else .ok { s with swapOutFamilies := s.swapOutFamilies.insert familyID info }
  else gvgIDs.foldlM (State.setSwapOutGVG info) s

/-- `DeleteSwapOutInfo` for one group; a missing entry reads as a zero one. -/
def State.deleteSwapOutGVG (s : State) (gvgID : ℕ) : Except Error State :=
  if ((s.swapOutGVGs.find? gvgID).getD ⟨0, 0⟩).spId ≠ spID then .error .storageProviderNotFound
  else .ok { s with swapOutGVGs := s.swapOutGVGs.erase gvgID }

/-- `DeleteSwapOutInfo`. -/
def State.deleteSwapOutInfo (gvgIDs : List ℕ) (spID : ℕ) : Except Error State :=
  if familyID ≠ noSpecifiedFamilyID then
    if ((s.swapOutFamilies.find? familyID).getD ⟨0, 0⟩).spId ≠ spID then
      .error .storageProviderNotFound
    else .ok { s with swapOutFamilies := s.swapOutFamilies.erase familyID }
  else gvgIDs.foldlM (State.deleteSwapOutGVG spID) s

/-- The checks of `CompleteSwapOut` on an entry: it names the successor, and the provider that
swaps out exists. -/
def State.checkSwapOut (info : Option SwapOutInfo) (successorSP : Sp.StorageProvider) :
    Except Error Sp.StorageProvider :=
  match info with
  | none => .error (.swapOutFailed .infoNotFound)
  | some info =>
    if info.successorSpId ≠ successorSP.id then .error (.swapOutFailed .successorMismatch)
    else
      match s.sp.getStorageProvider info.spId with
      | none => .error .storageProviderNotFound
      | some sp => .ok sp

/-- `CompleteSwapOut` for one group. -/
def State.completeSwapOutGVG (successorSP : Sp.StorageProvider) (s : State) (gvgID : ℕ) :
    Except Error State := do
  let sp ← s.checkSwapOut (s.swapOutGVGs.find? gvgID) successorSP
  let s ← s.swapOutAsSecondarySP ctx sp successorSP gvgID
  return { s with swapOutGVGs := s.swapOutGVGs.erase gvgID }

/-- `CompleteSwapOut`. -/
def State.completeSwapOut (gvgIDs : List ℕ) (successorSP : Sp.StorageProvider) :
    Except Error State :=
  if familyID ≠ noSpecifiedFamilyID then do
    let sp ← s.checkSwapOut (s.swapOutFamilies.find? familyID) successorSP
    let s ← s.swapAsPrimarySP ctx sp successorSP familyID false
    return { s with swapOutFamilies := s.swapOutFamilies.erase familyID }
  else gvgIDs.foldlM (State.completeSwapOutGVG ctx successorSP) s

/-! ### Swap in -/

/-- `setSwapInInfo`: what is to be written over the entry of a family or a group. -/
def overwriteSwapIn (old : Option SwapInInfo) (info : SwapInInfo) : Except Error SwapInInfo :=
  match old with
  | none => .ok info
  | some cur =>
    if uint64 ctx.blockTime < cur.expirationTime then .error (.swapInFailed .reserved)
    else if cur.successorSpId = info.successorSpId then .error (.swapInFailed .expired)
    else .ok info

/-- `setSwapInInfo` for a family. -/
def State.setSwapInFamily (info : SwapInInfo) : Except Error State := do
  let info ← overwriteSwapIn ctx (s.swapInFamilies.find? familyID) info
  return { s with swapInFamilies := s.swapInFamilies.insert familyID info }

/-- `setSwapInInfo` for a group. -/
def State.setSwapInGVG (gvgID : ℕ) (info : SwapInInfo) : Except Error State := do
  let info ← overwriteSwapIn ctx (s.swapInGVGs.find? gvgID) info
  return { s with swapInGVGs := s.swapInGVGs.insert gvgID info }

/-- The loop of `SwapIn` over the secondary providers: whether `target` is one of them, and an
error at the first that is the successor. -/
def searchTarget (successor target : ℕ) : List ℕ → Bool → Except Error Bool
  | [], found => .ok found
  | sspID :: rest, found =>
    if sspID = successor then .error (.swapInFailed .alreadySecondary)
    else searchTarget successor target rest (found || decide (sspID = target))

/-- `SwapIn`. -/
def State.swapIn (gvgID successorSPID : ℕ) (targetSP : Sp.StorageProvider) (expirationTime : ℤ) :
    Except Error State :=
  let info : SwapInInfo := ⟨successorSPID, targetSP.id, uint64 expirationTime⟩
  if familyID ≠ noSpecifiedFamilyID then
    if targetSP.status.isExiting = false then .error .storageProviderWrongStatus
    else
      match s.families.find? familyID with
      | none => .error .gvgFamilyNotExist
      | some family =>
        if family.primarySpId ≠ targetSP.id then .error (.swapInFailed .targetMismatch)
        else s.setSwapInFamily ctx familyID info
  else
    match s.gvgs.find? gvgID with
    | none => .error .gvgNotExist
    | some gvg =>
      if gvg.primarySpId = successorSPID then .error (.swapInFailed .alreadyPrimary)
      else do
        let found ← searchTarget successorSPID targetSP.id gvg.secondarySpIds false
        if found = false then .error (.swapInFailed .notSecondary)
        else if targetSP.status.isExiting then s.setSwapInGVG ctx gvgID info
        else if gvg.primarySpId ∈ gvg.secondarySpIds then s.setSwapInGVG ctx gvgID info
        else .error (.swapInFailed .allUnique)

/-- The check of `DeleteSwapInInfo` on an entry. -/
def checkCancelSwapIn (info : Option SwapInInfo) (successorSPID : ℕ) : Except Error Unit :=
  match info with
  | none => .error (.swapInFailed .infoNotFound)
  | some info => if info.successorSpId ≠ successorSPID then .error .storageProviderNotFound else .ok ()

/-- `DeleteSwapInInfo`. -/
def State.deleteSwapInInfo (gvgID successorSPID : ℕ) : Except Error State :=
  if familyID ≠ noSpecifiedFamilyID then do
    checkCancelSwapIn (s.swapInFamilies.find? familyID) successorSPID
    return { s with swapInFamilies := s.swapInFamilies.erase familyID }
  else do
    checkCancelSwapIn (s.swapInGVGs.find? gvgID) successorSPID
    return { s with swapInGVGs := s.swapInGVGs.erase gvgID }

/-- The checks of `CompleteSwapIn` on an entry: it names the successor, and the target exists.
The expiration time is not looked at. -/
def State.checkSwapIn (info : Option SwapInInfo) (successorSP : Sp.StorageProvider) :
    Except Error Sp.StorageProvider :=
  match info with
  | none => .error (.swapInFailed .infoNotFound)
  | some info =>
    if successorSP.id ≠ info.successorSpId then .error (.swapInFailed .notReserved)
    else
      match s.sp.getStorageProvider info.targetSpId with
      | none => .error .storageProviderNotFound
      | some sp => .ok sp

/-- `CompleteSwapIn`. -/
def State.completeSwapIn (gvgID : ℕ) (successorSP : Sp.StorageProvider) : Except Error State :=
  if familyID ≠ noSpecifiedFamilyID then do
    let target ← s.checkSwapIn (s.swapInFamilies.find? familyID) successorSP
    let s ← s.swapAsPrimarySP ctx target successorSP familyID true
    return { s with swapInFamilies := s.swapInFamilies.erase familyID }
  else do
    let target ← s.checkSwapIn (s.swapInGVGs.find? gvgID) successorSP
    let s ← s.completeSwapInGVG ctx successorSP.id target.id gvgID
    return { s with swapInGVGs := s.swapInGVGs.erase gvgID }

/-! ### Exit -/

/-- `StorageProviderExitable`. -/
def State.storageProviderExitable : Except Error Unit :=
  match s.gvgStatistics.find? spID with
  | none => .ok ()
  | some stat =>
    if stat.primaryCount ≠ 0 then .error .spCanNotExit
    else if stat.secondaryCount ≠ 0 then .error .spCanNotExit
    else .ok ()

end Moca.VirtualGroup
