/-
# Challenges of storage providers: `x/challenge`

A challenge is started for a piece of an object on a provider that stores it, by a
message (`Submit`, `keeper/msg_server_submit.go`) or at the end of a block
(`EndBlocker`, `abci.go`).  The validators vote on it, and `Attest`
(`keeper/msg_server_attest.go`) brings the vote to the chain: the provider is slashed,
or the attestation is a heartbeat.  `BeginBlocker` drops what is too old.

The state is the store of the module.  What the other modules answer is in the context
of a message: the stores of `x/storage`, `x/virtualgroup` and `x/sp` as they are then,
and whether the votes verify and the rewards are paid.  A slash is stored under the
hash of provider and object, which is taken to be injective; challenge ids do not wrap.
-/

import Moca.Lib.RingBuffer
import Moca.Sp.Keeper
import Moca.Storage.Object

namespace Moca.Challenge

open Storage (Name BucketInfo ObjectInfo)

/-! ### Parameters, state and context -/

/-- `Params`, as far as they are read here and as `Validate` lets them be. -/
structure Params where
  challengeCountPerBlock : ℕ
  challengeKeepAlivePeriod : ℕ
  slashCoolingOffPeriod : ℕ
  slashAmountSizeRate : ℤ
  slashAmountMin : ℤ
  slashAmountMax : ℤ
  heartbeatInterval : ℕ
  attestationKeptCount : ℕ
  spSlashMaxAmount : ℤ
  spSlashCountingWindow : ℕ
  rewardValidatorRatio : ℤ
  rewardSubmitterRatio : ℤ
  rewardSubmitterThreshold : ℤ
  keepAlive_pos : 0 < challengeKeepAlivePeriod
  heartbeat_pos : 0 < heartbeatInterval
  kept_pos : 0 < attestationKeptCount

/-- `VoteResult`. -/
inductive VoteResult
  | challengeFailed
  | challengeSucceed
  deriving DecidableEq

/-- `AttestedChallenge`. -/
structure AttestedChallenge where
  id : ℕ
  result : VoteResult
  deriving DecidableEq

/-- Provider and object of a slash. -/
abbrev SlashKey := ℕ ×ₗ ℕ

def slashKey (spID objectID : ℕ) : SlashKey := toLex (spID, objectID)

structure State where
  params : Params
  challengeId : ℕ
  /-- The height at which a challenge expires, by id. -/
  challenges : SortedMap ℕ ℕ
  /-- The height of the last slash. -/
  slashes : SortedMap SlashKey ℕ
  spSlashAmounts : SortedMap ℕ ℤ
  attestedChallenges : Option (RingBuffer AttestedChallenge)
  /-- In the transient store. -/
  challengeCountCurrentBlock : ℕ

inductive Error
  | unknownBucketObject
  | invalidSpStatus
  | invalidObjectStatus
  | invalidSegmentIndex
  | cannotFindGVG
  | unknownSp
  | notStoredOnSp
  | existsRecentSlash
  | invalidChallengeID
  | notInturnChallenger
  | invalidVotes
  | noSuchBucket
  | duplicatedSlash
  /-- An error of `doSlashAndRewards` or `doHeartbeatAndRewards`. -/
  | rewards
  /-- A lookup that must succeed panics. -/
  | panic (e : Storage.Error)
  deriving DecidableEq

/-- What a message reads besides the store of the module. -/
structure Ctx where
  blockHeight : ℕ
  storage : Storage.State
  /-- `MaxSegmentSize` of `x/storage` at a time. -/
  maxSegmentSize : ℤ → Option ℕ
  /-- `RandomSegmentIndex` for a number of segments, from the `RandaoMix` of the block. -/
  randomSegmentIndex : ℕ → ℕ
  /-- `isInturnAttestation`. -/
  inTurn : Bool := true
  /-- The challenger addresses that `verifySignature` returns; they are more than two thirds of the
  validators, so there is none only if it fails. -/
  validators : List Addr := [0]
  /-- `DepositDenomForSP`. -/
  depositDenom : String := "amoca"
  /-- Whether `Slash` of `x/sp` goes through for a provider and rewards. -/
  slashPaid : ℕ → List Sp.RewardInfo → Bool := fun _ _ => true
  /-- Whether the withdrawals of `doHeartbeatAndRewards` go through. -/
  heartbeatPaid : Bool := true

/-- `EventStartChallenge`. -/
structure EventStartChallenge where
  challengeId : ℕ
  objectId : ℕ
  segmentIndex : ℕ
  spId : ℕ
  spOperatorAddress : Addr
  redundancyIndex : ℤ
  challengerAddress : Option Addr
  expiredHeight : ℕ

/-! ### The stores -/

variable (ctx : Ctx) (s : State)

/-- `SaveChallenge`. -/
def State.saveChallenge (id expiredHeight : ℕ) : State :=
  { s with challengeId := id, challenges := s.challenges.insert id expiredHeight }

/-- `RemoveChallengeUntil`. -/
def State.removeChallengeUntil (height : ℕ) : State :=
  { s with challenges := s.challenges.filter fun _ expiredHeight => !decide (expiredHeight ≤ height) }

/-- `RemoveSlashUntil`. -/
def State.removeSlashUntil (height : ℕ) : State :=
  { s with slashes := s.slashes.filter fun _ slashHeight => !decide (slashHeight ≤ height) }

/-- `ExistsSlash`. -/
def State.existsSlash (spID objectID : ℕ) : Bool :=
  s.slashes.contains (slashKey spID objectID)

/-- `GetAttestedChallenges`. -/
def State.getAttestedChallenges : List AttestedChallenge :=
  (s.attestedChallenges.map RingBuffer.toList).getD []

/-- `AppendAttestedChallenge`: a buffer of another size is written anew. -/
def State.appendAttestedChallenge (challenge : AttestedChallenge) : State :=
  let fresh := RingBuffer.empty s.params.attestationKeptCount s.params.kept_pos
  let buffer := match s.attestedChallenges with
    | none => fresh
    | some buffer =>
      if buffer.size ≠ s.params.attestationKeptCount then buffer.toList.foldl .push fresh
      else buffer
  { s with attestedChallenges := some (buffer.push challenge) }

/-! ### Starting a challenge -/

/-- `MsgSubmit`. -/
structure MsgSubmit where
  challenger : Addr
  spOperatorAddress : Addr
  bucketName : Name
  objectName : Name
  segmentIndex : ℕ
  randomIndex : Bool

variable (msg : MsgSubmit)

/-- The statuses of a provider that may be challenged. -/
def isChallengeable (status : Sp.Status) : Bool :=
  decide (status = .inService ∨ status = .gracefulExiting ∨ status = .forcedExiting)

/-- `CalculateSegments`. -/
def calculateSegments (payloadSize segmentSize : ℕ) : ℕ :=
  if payloadSize % segmentSize = 0 then payloadSize / segmentSize else payloadSize / segmentSize + 1

/-- The object of the message, which has to be sealed and not empty. -/
def Ctx.challengedObject : Except Error (ℕ × ObjectInfo) :=
  match ctx.storage.findObject msg.bucketName msg.objectName with
  | .error _ => .error .unknownBucketObject
  | .ok (objectID, o) =>
    if o.objectStatus ≠ .sealed then .error .invalidObjectStatus
    else if o.payloadSize = 0 then .error .invalidSegmentIndex
    else .ok (objectID, o)

/-- `GetObjectGVG`. -/
def getObjectGVG (s : Storage.State) (bucketID lvgID : ℕ) :
    Option VirtualGroup.GlobalVirtualGroup :=
  (s.internalBuckets.find? bucketID).bind fun ibi =>
    (ibi.localVirtualGroups.find? lvgID).bind fun lvg =>
      s.virtualGroup.gvgs.find? lvg.globalVirtualGroupId

/-- The loop over the secondary providers: the index of the first with the operator address. -/
def findSecondary (sp : Sp.Store) (spOperator : Addr) : List ℕ → ℕ → Except Error ℕ
  | [], _ => .error .notStoredOnSp
  | spID :: rest, i =>
    match sp.getStorageProvider spID with
    | none => .error .unknownSp
    | some tmpSp =>
      if spOperator = tmpSp.operatorAddress then .ok i else findSecondary sp spOperator rest (i + 1)

/-- Whether the provider stores the object, as its redundancy index, which is -1 for the primary. -/
def Ctx.redundancyIndex (primary : Sp.StorageProvider) (bucketID : ℕ) (o : ObjectInfo) :
    Except Error ℤ := do
  if msg.spOperatorAddress = primary.operatorAddress then return -1
  match getObjectGVG ctx.storage bucketID o.localVirtualGroupId with
  | none => throw .cannotFindGVG
  | some gvg =>
    let i ← findSecondary ctx.storage.virtualGroup.sp msg.spOperatorAddress gvg.secondarySpIds 0
    return i

/-- The segment to be proved. -/
def Ctx.segmentIndex (ctx : Ctx) (msg : MsgSubmit) (o : ObjectInfo) : Except Error ℕ :=
  match ctx.maxSegmentSize o.getLatestUpdatedTime with
  | none => .error .invalidSegmentIndex
  | some segmentSize =>
    let segments := calculateSegments o.payloadSize segmentSize
    if msg.randomIndex then .ok (ctx.randomSegmentIndex segments)
    else if msg.segmentIndex > segments - 1 then .error .invalidSegmentIndex
    else .ok msg.segmentIndex

/-- The height at which a challenge started now expires. -/
def State.expiredHeight : ℕ :=
  add64 s.params.challengeKeepAlivePeriod ctx.blockHeight

/-- `MustGetPrimarySPForBucket`. -/
def Ctx.primarySP (b : BucketInfo) : Except Error Sp.StorageProvider :=
  (ctx.storage.mustGetPrimarySPForBucket b).mapError .panic

/-- What a submission writes and announces. -/
def State.startChallenge (spID objectID : ℕ) (redundancyIndex : ℤ) (segmentIndex : ℕ) :
    State × EventStartChallenge :=
  let s := { s with challengeCountCurrentBlock := s.challengeCountCurrentBlock + 1 }
  let challengeID := add64 s.challengeId 1
  (s.saveChallenge challengeID (s.expiredHeight ctx),
    { challengeId := challengeID, objectId := objectID, segmentIndex, spId := spID,
      spOperatorAddress := msg.spOperatorAddress, redundancyIndex,
      challengerAddress := some msg.challenger, expiredHeight := s.expiredHeight ctx })

/-- `Submit`, from the primary provider of the bucket on. -/
def State.submitIn (bucketID : ℕ) (sp : Sp.StorageProvider) :
    Except Error (State × EventStartChallenge) :=
  if !isChallengeable sp.status then .error .invalidSpStatus
  else do
    let (objectID, o) ← ctx.challengedObject msg
    let redundancyIndex ← ctx.redundancyIndex msg sp bucketID o
    if s.existsSlash sp.id objectID then .error .existsRecentSlash
    else
      let segmentIndex ← ctx.segmentIndex msg o
      return s.startChallenge ctx msg sp.id objectID redundancyIndex segmentIndex

/-- `Submit`. -/
def State.submit : Except Error (State × EventStartChallenge) :=
  match ctx.storage.getBucketInfo msg.bucketName with
  | none => .error .unknownBucketObject
  | some (bucketID, b) => do
    let sp ← ctx.primarySP b
    s.submitIn ctx msg bucketID sp

/-! ### Attesting a challenge -/

/-- `MsgAttest`; of the votes only the answer of their check is kept, in the context. -/
structure MsgAttest where
  submitter : Addr
  challengeId : ℕ
  objectId : ℕ
  spOperatorAddress : Addr
  voteResult : VoteResult
  /-- None for a challenge that the chain has started itself. -/
  challengerAddress : Option Addr
  deriving DecidableEq

/-- `calculateSlashAmount`: the size in gigabytes, rounded up, at the rate of the params.  The
factor of `10 ^ 18` at the end takes all digits of the decimal. -/
def Params.calculateSlashAmount (p : Params) (objectSize : ℕ) : ℤ :=
  let objectSizeInGB : ℕ := (objectSize * 10 ^ 18 + (2 ^ 30 - 1)) / 2 ^ 30
  let slashAmount := Sp.chopPrecisionAndRound (objectSizeInGB * p.slashAmountSizeRate)
  if slashAmount < p.slashAmountMin then p.slashAmountMin
  else if slashAmount > p.slashAmountMax then p.slashAmountMax
  else slashAmount

/-- What is slashed: nothing if the provider has been slashed up to its maximum. -/
def State.toSlashAmount (spID : ℕ) (o : ObjectInfo) : ℤ :=
  let amount := s.params.calculateSlashAmount o.payloadSize
  let slashedAmount := (s.spSlashAmounts.find? spID).getD 0
  if slashedAmount ≠ 0 ∧ slashedAmount + amount > s.params.spSlashMaxAmount then 0 else amount

/-- The checks of `Attest` before the vote is looked at: the provider and the object. -/
def State.attested (s : State) (msg : MsgAttest) : Except Error (Sp.StorageProvider × ObjectInfo) :=
  match ctx.storage.virtualGroup.sp.getStorageProviderByOperatorAddr msg.spOperatorAddress with
  | none => .error .unknownSp
  | some sp =>
    if !s.challenges.contains msg.challengeId then .error .invalidChallengeID
    else if !ctx.inTurn then .error .notInturnChallenger
    else if ctx.validators = [] then .error .invalidVotes
    else match ctx.storage.objects.find? msg.objectId with
    | none => .error .unknownBucketObject
    | some o =>
      match ctx.storage.getBucketInfo o.bucketName with
      | none => .error .noSuchBucket
      | some (bucketID, b) => do
        let spInState ← ctx.primarySP b
        -- a group that is not found has no secondary providers
        let secondaries := ((getObjectGVG ctx.storage bucketID o.localVirtualGroupId).map
          fun gvg => gvg.secondarySpIds).getD []
        if spInState.id ≠ sp.id ∧ sp.id ∉ secondaries then .error .notStoredOnSp
        else .ok (sp, o)

/-- The rewards of the challenger, of each validator and of the submitter. -/
structure SlashRewards where
  challenger : ℤ
  eachValidator : ℤ
  submitter : ℤ

/-- `calculateSlashRewards`; ratios are decimals with 18 digits. -/
def Params.calculateSlashRewards (p : Params) (total : ℤ) (challenger : Option Addr)
    (validators : ℕ) : SlashRewards :=
  let ratioReward := (Sp.chopPrecisionAndRound
    (p.rewardSubmitterRatio * (total * 10 ^ 18))).tdiv (10 ^ 18)
  let submitterReward :=
    if ratioReward > p.rewardSubmitterThreshold then p.rewardSubmitterThreshold else ratioReward
  let total := total - submitterReward
  match challenger with
  | none =>
    let eachValidatorReward := total.tdiv validators
    let total := (· - eachValidatorReward)^[validators] total
    -- send remaining to submitter
    ⟨0, eachValidatorReward, submitterReward + total⟩
  | some _ =>
    let eachValidatorReward := ((p.rewardValidatorRatio * total).tdiv validators).tdiv (10 ^ 18)
    -- the left is rewarded to challenger
    ⟨(· - eachValidatorReward)^[validators] total, eachValidatorReward, submitterReward⟩

/-- The rewards that `doSlashAndRewards` hands to `Slash`. -/
def SlashRewards.rewardInfos (r : SlashRewards) (ctx : Ctx) (msg : MsgAttest) :
    List Sp.RewardInfo :=
  (msg.challengerAddress.toList.map fun addr => ⟨addr, ⟨ctx.depositDenom, r.challenger⟩⟩) ++
    (ctx.validators.map fun val => ⟨val, ⟨ctx.depositDenom, r.eachValidator⟩⟩) ++
    [⟨msg.submitter, ⟨ctx.depositDenom, r.submitter⟩⟩]

/-- `doSlashAndRewards`. -/
def State.doSlashAndRewards (msg : MsgAttest) (slashAmount : ℤ) (spID : ℕ) : Except Error Unit :=
  if slashAmount = 0 then .ok ()
  else
    let r := s.params.calculateSlashRewards slashAmount msg.challengerAddress ctx.validators.length
    if (0 < r.challenger ∨ 0 < r.eachValidator ∨ 0 < r.submitter) ∧
        !ctx.slashPaid spID (r.rewardInfos ctx msg) then .error .rewards
    else .ok ()

/-- `SaveSlash` and `SetSpSlashAmount`. -/
def State.saveSlash (spID objectID : ℕ) (o : ObjectInfo) : State :=
  let slashedAmount := (s.spSlashAmounts.find? spID).getD 0
  { s with
    slashes := s.slashes.insert (slashKey spID objectID) ctx.blockHeight
    spSlashAmounts := s.spSlashAmounts.insert spID (slashedAmount + s.toSlashAmount spID o) }

/-- `Attest`. -/
def State.attest (msg : MsgAttest) : Except Error State := do
  let (sp, o) ← s.attested ctx msg
  match msg.voteResult with
  | .challengeSucceed =>
    if s.existsSlash sp.id msg.objectId then .error .duplicatedSlash
    else
      s.doSlashAndRewards ctx msg (s.toSlashAmount sp.id o) sp.id
      return (s.saveSlash ctx sp.id msg.objectId o).appendAttestedChallenge
        ⟨msg.challengeId, .challengeSucceed⟩
  | .challengeFailed =>
    if msg.challengeId % s.params.heartbeatInterval ≠ 0 then .error .invalidChallengeID
    else if !ctx.heartbeatPaid then .error .rewards
    else .ok (s.appendAttestedChallenge ⟨msg.challengeId, .challengeFailed⟩)

/-! ### The ends of a block -/

/-- `BeginBlocker`; the count of the block is in a store that starts empty. -/
def State.beginBlocker (height : ℕ) (s : State) : State :=
  let s := { s with challengeCountCurrentBlock := 0 }.removeChallengeUntil height
  let s := if height > s.params.slashCoolingOffPeriod then
    s.removeSlashUntil (height - s.params.slashCoolingOffPeriod) else s
  if s.params.spSlashCountingWindow > 0 ∧ height > 0 ∧ height % s.params.spSlashCountingWindow = 0 then
    { s with spSlashAmounts := .empty } else s

/-- The provider and the object that one round of `EndBlocker` starts a challenge for, where the
seed gives an object id and a redundancy index for a number of providers. -/
def State.drawn (seed : ℕ × (ℕ → ℤ)) : Option (ℕ × ℕ) := do
  let o ← ctx.storage.objects.find? seed.1
  guard (o.objectStatus = .sealed ∧ o.payloadSize ≠ 0)
  let (bucketID, _) ← ctx.storage.getBucketInfo o.bucketName
  let gvg ← getObjectGVG ctx.storage bucketID o.localVirtualGroupId
  let redundancyIndex := seed.2 (gvg.secondarySpIds.length + 1)
  let spID := if redundancyIndex = -1 then gvg.primarySpId
    else gvg.secondarySpIds.getD redundancyIndex.toNat 0
  let sp ← ctx.storage.virtualGroup.sp.getStorageProvider spID
  guard (isChallengeable sp.status ∧ s.existsSlash sp.id seed.1 = false)
  guard (ctx.maxSegmentSize o.getLatestUpdatedTime).isSome
  return (sp.id, seed.1)

/-- The loop of `EndBlocker` over the seeds of the block: at most the missing number of challenges,
at most one for a provider and an object. -/
def State.drawChallenges (ctx : Ctx) (s : State) : ℕ → List (ℕ × ℕ) → List (ℕ × (ℕ → ℤ)) → State
  | 0, _, _ => s
  | _, _, [] => s
  | missing + 1, done, seed :: seeds =>
    match s.drawn ctx seed with
    | none => s.drawChallenges ctx (missing + 1) done seeds
    | some pair =>
      if pair ∈ done then s.drawChallenges ctx (missing + 1) done seeds
      else (s.saveChallenge (add64 s.challengeId 1) (s.expiredHeight ctx)).drawChallenges ctx missing
        (pair :: done) seeds

/-- `EndBlocker`; the loop makes ten rounds for each missing challenge. -/
def State.endBlocker (seeds : ℕ → ℕ × (ℕ → ℤ)) : State :=
  let missing := s.params.challengeCountPerBlock - s.challengeCountCurrentBlock
  s.drawChallenges ctx missing [] ((List.range (10 * missing % 2 ^ 64)).map fun i =>
    seeds (i + 1))

end Moca.Challenge
