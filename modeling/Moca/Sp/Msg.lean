/-
# Messages and runs of `x/sp`

`genesis.go`, `keeper/genesis.go` and `keeper/msg_server.go`, with the `ValidateBasic` of
each message, the end of a block, and the calls of the other modules: `x/challenge` slashes a provider, `x/virtualgroup`
starts and completes its exit.  A failed message is rolled back.
-/

import Moca.Sp.Keeper

namespace Moca.Sp

open VirtualGroup (Coin)

/-! ### Descriptions -/

variable (ctx : Ctx) (s : State)

/-- One of the checks of `EnsureLength`. -/
def checkLength (field : DescriptionField) (text : String) (max : ℕ) : Except Error Unit :=
  if max < text.utf8ByteSize then .error (.invalidLength field text.utf8ByteSize max) else .ok ()

/-- `EnsureLength`. -/
def Description.ensureLength (d : Description) : Except Error Unit := do
  checkLength .moniker d.moniker 70
  checkLength .identity d.identity 3000
  checkLength .website d.website 140
  checkLength .details d.details 280

/-- A field of a new description that may ask for the old one. -/
def updateText (old new : String) : String := if new = doNotModifyDesc then old else new

/-- `UpdateDescription`. -/
def Description.updateDescription (d d2 : Description) : Except Error Description := do
  let d2 : Description :=
    { moniker := updateText d.moniker d2.moniker
      identity := updateText d.identity d2.identity
      website := updateText d.website d2.website
      details := updateText d.details d2.details }
  d2.ensureLength
  return d2

/-- The description after an edit. -/
def Description.edited (d : Description) : Option Description → Except Error Description
  | none => .ok d
  | some d2 => d.updateDescription d2

/-! ### Providers -/

/-- No provider is found under a key of an index. -/
def State.checkUnused {κ : Type} [LinearOrder κ] (s : State) (index : SortedMap κ ℕ) (k : κ)
    (e : Error) : Except Error Unit :=
  match s.lookup index k with
  | some _ => .error e
  | none => .ok ()

/-- `ValidateBasic` of `MsgCreateStorageProvider`. -/
def MsgCreateStorageProvider.validateBasic (msg : MsgCreateStorageProvider) : Bool :=
  decide (0 < msg.deposit.amount)
  && decide (msg.description ≠ ⟨"", "", "", ""⟩)
  && decide (msg.blsKey.length = ctx.blsPubKeyLength)
  && ctx.blsProofOk msg.blsKey msg.blsProof
  && ctx.validEndpoint msg.endpoint
  && decide (0 ≤ msg.readPrice ∧ 0 ≤ msg.storePrice)

/-- `NewStorageProvider`, with the status a new provider starts with. -/
def newStorageProvider (spID : ℕ) (maintenanceAddress : Addr) (msg : MsgCreateStorageProvider) :
    Provider where
  id := spID
  operatorAddress := msg.spAddress
  fundingAddress := msg.fundingAddress
  sealAddress := msg.sealAddress
  approvalAddress := msg.approvalAddress
  gcAddress := msg.gcAddress
  maintenanceAddress := maintenanceAddress
  totalDeposit := msg.deposit.amount
  endpoint := msg.endpoint
  description := msg.description
  blsKey := msg.blsKey
  -- a provider that joins by a proposal is in maintenance first
  status := if ctx.blockHeight = 0 then .inService else .inMaintenance

/-- The record of a new provider, all its indexes and its price. -/
def State.register (sp : Provider) (msg : MsgCreateStorageProvider) : State :=
  let s := s.setStorageProvider sp
  let s := s.setStorageProviderByOperatorAddr sp
  let s := s.setStorageProviderByApprovalAddr sp
  let s := s.setStorageProviderByFundingAddr sp
  let s := s.setStorageProviderBySealAddr sp
  let s := s.setStorageProviderByGcAddr sp
  let s := s.setStorageProviderByBlsKey sp
  { s with
    spStoragePrices := s.spStoragePrices.insert sp.id
      { updateTimeSec := ctx.blockTime, readPrice := msg.readPrice,
        freeReadQuota := msg.freeReadQuota, storePrice := msg.storePrice } }

/-- `CreateStorageProvider`. -/
def createStorageProvider (msg : MsgCreateStorageProvider) : Except Error State :=
  if msg.validateBasic ctx = false then .error .invalidMessage
  else if ctx.hasAccount msg.fundingAddress = false then
    .error (.accountNotFound msg.fundingAddress)
  else
    match msg.maintenanceAddress with
    | none => .error .invalidMaintenanceAddress
    | some maintenanceAddress =>
      if ctx.blockHeight = 0 ∧ msg.creator ≠ msg.spAddress then .error .signerNotSPOperator
      else if ctx.blockHeight ≠ 0 ∧ msg.creator ≠ ctx.govAddress then .error .signerNotGovModule
      else do
        s.checkUnused s.byOperatorAddr msg.spAddress .storageProviderOwnerExists
        s.checkUnused s.byFundingAddr msg.fundingAddress .storageProviderFundingAddrExists
        s.checkUnused s.bySealAddr msg.sealAddress .storageProviderSealAddrExists
        s.checkUnused s.byApprovalAddr msg.approvalAddress .storageProviderApprovalAddrExists
        s.checkUnused s.byGcAddr msg.gcAddress .storageProviderGcAddrExists
        if msg.blsKey.length ≠ ctx.blsPubKeyLength then .error .storageProviderInvalidBlsKey
        else do
          s.checkUnused s.byBlsKey msg.blsKey .storageProviderBlsKeyExists
          if ctx.blsProofOk msg.blsKey msg.blsProof = false then .error .invalidBlsProof
          else do
            msg.description.ensureLength
            if msg.deposit.amount < s.params.minDeposit then .error .insufficientDepositAmount
            else if s.params.depositDenom ≠ msg.deposit.denom then
              .error (.invalidDenom msg.deposit.denom s.params.depositDenom)
            else if ctx.blockHeight ≠ 0 ∧
                ctx.depositAuthorized msg.fundingAddress msg.deposit = false then
              .error .depositUnauthorized
            else do
              let s ← s.sendCoins msg.fundingAddress moduleAddress msg.deposit.amount
              let spID := inc32 s.spSequence
              let s := { s with spSequence := spID }
              return s.register ctx (newStorageProvider ctx spID maintenanceAddress msg) msg

/-- A key that an edit asks for is not another provider's. -/
def State.checkNotOthers {κ : Type} [LinearOrder κ] (s : State) (index : SortedMap κ ℕ) (id : ℕ)
    (e : Error) : Option κ → Except Error Unit
  | none => .ok ()
  | some k =>
    match s.lookup index k with
    | some other => if other.id ≠ id then .error e else .ok ()
    | none => .ok ()

/-- The BLS key that an edit asks for, if it gives a proof. -/
def MsgEditStorageProvider.newBlsKey (msg : MsgEditStorageProvider) : Option Bytes :=
  if msg.blsProof = [] then none else msg.blsKey

/-- Whether an edit asks for nothing. -/
def MsgEditStorageProvider.isEmpty (msg : MsgEditStorageProvider) : Bool :=
  msg.endpoint.isNone && msg.description.isNone && msg.sealAddress.isNone
  && msg.approvalAddress.isNone && msg.gcAddress.isNone && msg.maintenanceAddress.isNone
  && msg.newBlsKey.isNone

/-- `ValidateBasic` of `MsgEditStorageProvider`. -/
def MsgEditStorageProvider.validateBasic (msg : MsgEditStorageProvider) : Bool :=
  msg.description.all (fun d => decide (d ≠ ⟨"", "", "", ""⟩))
  && msg.endpoint.all ctx.validEndpoint
  && msg.blsKey.all (fun k => decide (msg.blsProof ≠ [] ∧ k.length = ctx.blsPubKeyLength)
      && ctx.blsProofOk k msg.blsProof)

/-- The checks of `EditStorageProvider`, and the changed record. -/
def State.edited (ctx : Ctx) (s : State) (sp : Provider) (msg : MsgEditStorageProvider) :
    Except Error Provider := do
  let description ← sp.description.edited msg.description
  s.checkNotOthers s.bySealAddr sp.id .storageProviderSealAddrExists msg.sealAddress
  s.checkNotOthers s.byApprovalAddr sp.id .storageProviderApprovalAddrExists msg.approvalAddress
  s.checkNotOthers s.byGcAddr sp.id .storageProviderGcAddrExists msg.gcAddress
  if msg.newBlsKey.any fun k => decide (k.length ≠ ctx.blsPubKeyLength) then
    .error .storageProviderInvalidBlsKey
  else do
    s.checkNotOthers s.byBlsKey sp.id .storageProviderBlsKeyExists msg.newBlsKey
    if msg.newBlsKey.any fun k => !ctx.blsProofOk k msg.blsProof then .error .invalidBlsProof
    else return { sp with
      endpoint := msg.endpoint.getD sp.endpoint
      description := description
      sealAddress := msg.sealAddress.getD sp.sealAddress
      approvalAddress := msg.approvalAddress.getD sp.approvalAddress
      gcAddress := msg.gcAddress.getD sp.gcAddress
      maintenanceAddress := msg.maintenanceAddress.getD sp.maintenanceAddress
      blsKey := msg.newBlsKey.getD sp.blsKey }

/-- An index without the old key of a record, if the key has changed. -/
def dropOldKey {κ : Type} [LinearOrder κ] (index : SortedMap κ ℕ) (old new : κ) :
    SortedMap κ ℕ :=
  if new ≠ old then index.erase old else index

/-- The indexes without the keys that an edit replaces. -/
def State.dropOldKeys (sp sp' : Provider) : State :=
  { s with
    bySealAddr := dropOldKey s.bySealAddr sp.sealAddress sp'.sealAddress
    byApprovalAddr := dropOldKey s.byApprovalAddr sp.approvalAddress sp'.approvalAddress
    byGcAddr := dropOldKey s.byGcAddr sp.gcAddress sp'.gcAddress
    byBlsKey := dropOldKey s.byBlsKey sp.blsKey sp'.blsKey }

/-- The writes of `EditStorageProvider`; the operator address is not written again. -/
def State.rewrite (sp sp' : Provider) : State :=
  let s := s.dropOldKeys sp sp'
  let s := s.setStorageProvider sp'
  let s := s.setStorageProviderByFundingAddr sp'
  let s := s.setStorageProviderBySealAddr sp'
  let s := s.setStorageProviderByApprovalAddr sp'
  let s := s.setStorageProviderByGcAddr sp'
  s.setStorageProviderByBlsKey sp'

/-- `EditStorageProvider`. -/
def editStorageProvider (msg : MsgEditStorageProvider) : Except Error State :=
  if msg.validateBasic ctx = false then .error .invalidMessage
  else
    match s.getStorageProviderByOperatorAddr msg.spAddress with
    | none => .error .storageProviderNotFound
    | some sp => do
      let sp' ← s.edited ctx sp msg
      if msg.isEmpty then .error .storageProviderNotChanged else return s.rewrite sp sp'

/-- `Deposit`. -/
def deposit (creator spAddress : Addr) (coin : Coin) : Except Error State :=
  if coin.amount ≤ 0 then .error .invalidMessage
  else
    match s.getStorageProviderByFundingAddr creator with
    | none => .error .storageProviderNotFound
    | some sp =>
      if sp.operatorAddress ≠ spAddress then .error .depositAccountNotAllowed
      else if s.params.depositDenom ≠ coin.denom then
        .error (.invalidDenom coin.denom s.params.depositDenom)
      else do
        let s ← s.sendCoins sp.fundingAddress moduleAddress coin.amount
        return s.setStorageProvider { sp with totalDeposit := sp.totalDeposit + coin.amount }

/-- `UpdateSpStoragePrice`. -/
def updateSpStoragePrice (spAddress : Addr) (readPrice : ℤ) (freeReadQuota : ℕ) (storePrice : ℤ) :
    Except Error State :=
  if readPrice < 0 ∨ storePrice < 0 then .error .invalidMessage
  else
    match s.getStorageProviderByOperatorAddr spAddress with
    | none => .error .storageProviderNotFound
    | some sp =>
      if sp.status ≠ .inService then .error .storageProviderNotInService
      else if s.params.updateGlobalPriceInterval = 0 ∧
          ctx.isLastDaysOfTheMonth s.params.updatePriceDisallowedDays then
        .error .storageProviderPriceUpdateNotAllow
      else .ok { s with
        spStoragePrices := s.spStoragePrices.insert sp.id
          { updateTimeSec := ctx.blockTime, readPrice := readPrice,
            freeReadQuota := freeReadQuota, storePrice := storePrice } }

/-- `ValidateBasic` of `MsgUpdateStorageProviderStatus`. -/
def validateStatus (newStatus : Status) (duration : ℤ) : Bool :=
  match newStatus with
  | .inService => true
  | .inMaintenance => decide (0 < duration)
  | _ => false

/-- `UpdateSpStatus`. -/
def updateSpStatus (spAddress : Addr) (newStatus : Status) (duration : ℤ) : Except Error State :=
  if validateStatus newStatus duration = false then .error .invalidMessage
  else
    match s.getStorageProviderByOperatorAddr spAddress with
    | none => .error .storageProviderNotFound
    | some sp =>
      if sp.status = newStatus then .error .storageProviderNotChanged
      else
        match sp.status with
        | .inService =>
          if newStatus ≠ .inMaintenance then .error .storageProviderStatusUpdateNotAllow
          else do
            let (sp, s) ← s.updateToInMaintenance ctx sp duration
            return s.setStorageProvider sp
        | .inMaintenance =>
          if newStatus ≠ .inService then .error .storageProviderStatusUpdateNotAllow
          else
            let updated := s.updateToInService ctx sp
            .ok (updated.2.setStorageProvider updated.1)
        | .inJailed | .gracefulExiting | .forcedExiting =>
          .error .storageProviderStatusUpdateNotAllow

/-- `UpdateParams`, sent by the authority. -/
def updateParams (p : Params) : Except Error State :=
  if p.validate = false then .error .invalidParams else .ok { s with params := p }

/-! ### Genesis -/

/-- `GenesisState`, as far as `InitGenesis` reads it. -/
structure GenesisState where
  params : Params
  storageProviders : List Provider

/-- One round of the loop of `InitGenesis`: the record is stored without its indexes, and the
deposit is added up. -/
def initProvider (acc : State × ℤ) (sp : Provider) : Except Error (State × ℤ) :=
  if sp.status = .inService ∨ sp.status = .inJailed then
    .ok (acc.1.setStorageProvider sp, acc.2 + sp.totalDeposit)
  else .error .invalidGenesisStatus

/-- `InitGenesis`, next to the bank; its panics are errors.  The id sequence is not set. -/
def initGenesis (balance : Addr → ℤ) (g : GenesisState) : Except Error State := do
  let s ← updateParams (.empty g.params balance) g.params
  let (s, depositAmount) ← g.storageProviders.foldlM initProvider (s, 0)
  if depositAmount < 0 then .error .negativeCoinAmount
  else if s.balance moduleAddress ≠ depositAmount then
    .error (.depositPoolMismatch (s.balance moduleAddress) depositAmount)
  else .ok s

/-! ### Runs -/

/-- The messages of the module, the calls of other modules and the end of a block. -/
inductive Op
  | createStorageProvider (msg : MsgCreateStorageProvider)
  | editStorageProvider (msg : MsgEditStorageProvider)
  | deposit (creator spAddress : Addr) (coin : Coin)
  | updateSpStoragePrice (spAddress : Addr) (readPrice : ℤ) (freeReadQuota : ℕ) (storePrice : ℤ)
  | updateSpStatus (spAddress : Addr) (newStatus : Status) (duration : ℤ)
  | updateParams (p : Params)
  /-- `x/challenge` slashes a provider. -/
  | slash (spID : ℕ) (rewardInfos : List RewardInfo)
  /-- `x/virtualgroup` sets the status of the provider of an operator address. -/
  | setStatus (operatorAddr : Addr) (status : Status)
  /-- `x/virtualgroup` removes the provider of an operator address. -/
  | exit (operatorAddr : Addr)
  | endBlock
  deriving DecidableEq, Repr

/-- What a message, a call or the end of a block does. -/
def Op.run : Op → Except Error State
  | .createStorageProvider msg => Sp.createStorageProvider ctx s msg
  | .editStorageProvider msg => Sp.editStorageProvider ctx s msg
  | .deposit creator spAddress coin => Sp.deposit s creator spAddress coin
  | .updateSpStoragePrice spAddress readPrice freeReadQuota storePrice =>
    Sp.updateSpStoragePrice ctx s spAddress readPrice freeReadQuota storePrice
  | .updateSpStatus spAddress newStatus duration =>
    Sp.updateSpStatus ctx s spAddress newStatus duration
  | .updateParams p => Sp.updateParams s p
  | .slash spID rewardInfos => s.slash ctx spID rewardInfos
  | .setStatus operatorAddr status =>
    match s.getStorageProviderByOperatorAddr operatorAddr with
    | none => .error .storageProviderNotFound
    | some sp => .ok (s.setStorageProvider { sp with status := status })
  | .exit operatorAddr =>
    match s.getStorageProviderByOperatorAddr operatorAddr with
    | none => .error .storageProviderNotFound
    | some sp => .ok (s.exit sp)
  | .endBlock => .ok (s.endBlocker ctx)

/-- A step of the chain: a message that fails is rolled back. -/
def State.step (l : Ctx × Op) : Option State :=
  match l.2.run l.1 s with
  | .ok s' => some s'
  | .error _ => some s

end Moca.Sp
