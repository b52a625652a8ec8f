/-
# Which provider a submission challenges

`Submit` looks up the primary provider of the bucket first.  The status, the recent
slash and the id in the event are those of this provider, also when the message names
a secondary one: then another provider is checked, and the event pairs the id of the
primary with the operator address of the secondary.  `EndBlocker` and `Attest` look at
the challenged provider itself.

`submit_decides` says for which messages the decision is the right one;
`secondary_announced_as_primary` is a message for which it is not.
-/

import Moca.Challenge.Keeper
import Moca.Storage.ObjectIndex

namespace Moca.Challenge

variable {ctx : Ctx} {s : State} {msg : MsgSubmit} {bucketID objectID : ℕ}
  {b : Storage.BucketInfo} {o : Storage.ObjectInfo} {primary sp : Sp.StorageProvider}

/-- A message names an object and, by its operator address, a provider. -/
structure Names (ctx : Ctx) (msg : MsgSubmit) (bucketID : ℕ) (b : Storage.BucketInfo)
    (primary : Sp.StorageProvider) (objectID : ℕ) (o : Storage.ObjectInfo)
    (sp : Sp.StorageProvider) : Prop where
  bucket : ctx.storage.getBucketInfo msg.bucketName = some (bucketID, b)
  primarySP : ctx.storage.mustGetPrimarySPForBucket b = .ok primary
  object : ctx.storage.findObject msg.bucketName msg.objectName = .ok (objectID, o)
  provider : ctx.storage.virtualGroup.sp.getStorageProvider sp.id = some sp
  operator : sp.operatorAddress = msg.spOperatorAddress

/-- The provider may be challenged for the object: it stores it, has a status for that, and no
recent slash. -/
structure Eligible (ctx : Ctx) (s : State) (bucketID : ℕ) (primary : Sp.StorageProvider)
    (objectID : ℕ) (o : Storage.ObjectInfo) (sp : Sp.StorageProvider) : Prop where
  stores : sp = primary ∨ ∃ gvg, getObjectGVG ctx.storage bucketID o.localVirtualGroupId = some gvg ∧
    sp.id ∈ gvg.secondarySpIds
  status : isChallengeable sp.status = true
  noSlash : s.existsSlash sp.id objectID = false

/-- A submission is decided by the named provider: one that goes through challenges it, and it is
not refused for the status or the slash of another one. -/
structure Decided (ctx : Ctx) (s : State) (msg : MsgSubmit) (eligible : Prop)
    (sp : Sp.StorageProvider) : Prop where
  accepted : ∀ s' event, s.submit ctx msg = .ok (s', event) → eligible ∧ event.spId = sp.id ∧
    event.spOperatorAddress = sp.operatorAddress
  refused : eligible → s.submit ctx msg ≠ .error .invalidSpStatus ∧
    s.submit ctx msg ≠ .error .existsRecentSlash

/-! ### The checks that are not about a provider -/

/-- An error that names the status or the slash of a provider. -/
def Error.OfProvider (e : Error) : Prop := e = .invalidSpStatus ∨ e = .existsRecentSlash

theorem challengedObject_fails : (ctx.challengedObject msg).FailsOnly fun e => ¬e.OfProvider := by
  intro e he
  unfold Ctx.challengedObject at he
  split at he
  · cases he
    simp [Error.OfProvider]
  · split_ifs at he <;> cases he <;> simp [Error.OfProvider]

theorem findSecondary_fails (store : Sp.Store) (operator : Addr) :
    ∀ (ids : List ℕ) (i : ℕ), (findSecondary store operator ids i).FailsOnly fun e => ¬e.OfProvider
  | [], _ => by
    rintro e ⟨⟩
    simp [Error.OfProvider]
  | id :: ids, i => by
    intro e he
    unfold findSecondary at he
    split at he
    · cases he
      simp [Error.OfProvider]
    · split_ifs at he
      exact findSecondary_fails store operator ids (i + 1) e he

theorem redundancyIndex_fails :
    (ctx.redundancyIndex msg primary bucketID o).FailsOnly fun e => ¬e.OfProvider := by
  unfold Ctx.redundancyIndex
  split_ifs
  · exact .of_eq_ok rfl
  · cases getObjectGVG ctx.storage bucketID o.localVirtualGroupId with
    | none =>
      rintro e ⟨⟩
      simp [Error.OfProvider]
    | some gvg => exact (findSecondary_fails _ _ _ _).bind fun i _ => .of_eq_ok rfl

theorem segmentIndex_fails : (ctx.segmentIndex msg o).FailsOnly fun e => ¬e.OfProvider := by
  intro e he
  unfold Ctx.segmentIndex at he
  split at he
  · cases he
    simp [Error.OfProvider]
  · dsimp only at he
    split_ifs at he
    cases he
    simp [Error.OfProvider]

/-! ### When the decision is right -/

namespace Names

variable (h : Names ctx msg bucketID b primary objectID o sp)

include h

theorem submit_eq : s.submit ctx msg = s.submitIn ctx msg bucketID primary := by
  unfold State.submit Ctx.primarySP
  rw [h.bucket]
  dsimp only
  rw [h.primarySP]
  rfl

/-- The object that passes the checks is the one the message names. -/
theorem challengedObject_eq {e : ℕ × Storage.ObjectInfo} (he : ctx.challengedObject msg = .ok e) :
    e = (objectID, o) := by
  unfold Ctx.challengedObject at he
  rw [h.object] at he
  dsimp only at he
  split_ifs at he
  exact (Except.ok.inj he).symm

theorem eq_primary (hid : primary.id = sp.id) : sp = primary := by
  have hfound := h.primarySP
  unfold Storage.State.mustGetPrimarySPForBucket Storage.State.mustGetStorageProvider at hfound
  split at hfound
  · cases hfound
  · split at hfound
    · cases hfound
    · rename_i found hfind
      cases hfound
      have hprovider := h.provider
      rw [← hid, ctx.storage.virtualGroup.sp.id_key _ _ hfind] at hprovider
      exact Option.some.inj (hprovider.symm.trans hfind)

end Names

theorem decided_of_error {e : Error} {eligible : Prop} (h : s.submit ctx msg = .error e) :
    Decided ctx s msg eligible sp ↔ (e.OfProvider → ¬eligible) := by
  constructor
  · rintro hdecided (rfl | rfl) heligible
    · exact (hdecided.refused heligible).1 h
    · exact (hdecided.refused heligible).2 h
  · intro hnot
    refine ⟨fun s' event hok => ?_, fun heligible => ⟨fun he => ?_, fun he => ?_⟩⟩
    · rw [h] at hok
      cases hok
    · exact hnot (.inl (Except.error.inj (h.symm.trans he))) heligible
    · exact hnot (.inr (Except.error.inj (h.symm.trans he))) heligible

/-- **Whose submission is decided rightly.**  That of the primary provider always is.  That of
another one is if it is refused for the object, the place or the segment, or if the named
provider fails the check that the primary has failed. -/
theorem submit_decides (h : Names ctx msg bucketID b primary objectID o sp) :
    Decided ctx s msg (Eligible ctx s bucketID primary objectID o sp) sp ↔
      sp = primary ∨
      if isChallengeable primary.status = false then ¬Eligible ctx s bucketID primary objectID o sp
      else (∃ e, ctx.challengedObject msg = .error e) ∨
        (∃ e, ctx.redundancyIndex msg primary bucketID o = .error e) ∨
        if s.existsSlash primary.id objectID = true then
          ¬Eligible ctx s bucketID primary objectID o sp
        else ∃ e, ctx.segmentIndex msg o = .error e := by
  have hsubmit := h.submit_eq (s := s)
  unfold State.submitIn at hsubmit
  cases hstatus : isChallengeable primary.status with
  | false =>
    rw [hstatus] at hsubmit
    rw [decided_of_error hsubmit, if_pos rfl]
    constructor
    · exact fun hnot => .inr (hnot (.inl rfl))
    · rintro (rfl | hnot) -
      · exact fun heligible => absurd (heligible.status.symm.trans hstatus) (by decide)
      · exact hnot
  | true =>
  rw [hstatus] at hsubmit
  rw [if_neg (by decide)]
  cases hobject : ctx.challengedObject msg with
  | error e =>
    rw [hobject] at hsubmit
    have hother := challengedObject_fails e hobject
    exact iff_of_true ((decided_of_error hsubmit).2 fun he => absurd he hother) (.inr (.inl ⟨e, rfl⟩))
  | ok e =>
  obtain rfl := h.challengedObject_eq hobject
  rw [hobject] at hsubmit
  dsimp only [bind, Except.bind] at hsubmit
  cases hindex : ctx.redundancyIndex msg primary bucketID o with
  | error e =>
    rw [hindex] at hsubmit
    have hother := redundancyIndex_fails e hindex
    exact iff_of_true ((decided_of_error hsubmit).2 fun he => absurd he hother)
      (.inr (.inr (.inl ⟨e, rfl⟩)))
  | ok r =>
  rw [hindex] at hsubmit
  cases hslash : s.existsSlash primary.id objectID with
  | true =>
    rw [hslash] at hsubmit
    rw [decided_of_error hsubmit, if_pos rfl]
    constructor
    · exact fun hnot => .inr (.inr (.inr (hnot (.inr rfl))))
    · rintro (rfl | ⟨e, ⟨⟩⟩ | ⟨e, ⟨⟩⟩ | hnot) -
      · exact fun heligible => absurd (heligible.noSlash.symm.trans hslash) (by decide)
      · exact hnot
  | false =>
  rw [hslash] at hsubmit
  rw [if_neg (by decide)]
  cases hsegment : ctx.segmentIndex msg o with
  | error e =>
    rw [hsegment] at hsubmit
    have hother := segmentIndex_fails e hsegment
    exact iff_of_true ((decided_of_error hsubmit).2 fun he => absurd he hother)
      (.inr (.inr (.inr ⟨e, rfl⟩)))
  | ok i =>
  rw [hsegment] at hsubmit
  constructor
  · -- the event carries the id of the primary provider
    intro hdecided
    exact .inl (h.eq_primary (hdecided.accepted _ _ hsubmit).2.1)
  · rintro (rfl | ⟨e, ⟨⟩⟩ | ⟨e, ⟨⟩⟩ | ⟨e, ⟨⟩⟩)
    refine ⟨fun s' event hok => ?_, fun _ => ?_⟩
    · rw [hsubmit] at hok
      cases hok
      exact ⟨⟨.inl rfl, hstatus, hslash⟩, rfl, h.operator.symm⟩
    · rw [hsubmit]
      exact ⟨nofun, nofun⟩

/-- The sample bucket with a sealed object, which the first provider stores as the primary and
the second and the third as secondaries. -/
def sealedObject : List (Storage.Ctx × Storage.Op) :=
  Storage.sampleBucket ++ [(Storage.sampleCtx, .createObject 7 1 1 3 3),
    (Storage.sampleCtx, .sealObject 401 1 1 1)]

/-- A block in which objects have segments of one byte. -/
def blockAt (height : ℕ) (storage : Storage.State) : Ctx where
  blockHeight := height
  storage := storage
  maxSegmentSize _ := some 1
  randomSegmentIndex _ := 0

/-- `DefaultParams`. -/
def defaultParams : Params where
  challengeCountPerBlock := 1
  challengeKeepAlivePeriod := 300
  slashCoolingOffPeriod := 300
  slashAmountSizeRate := 85 * 10 ^ 14
  slashAmountMin := 10 ^ 16
  slashAmountMax := 10 ^ 18
  heartbeatInterval := 1000
  attestationKeptCount := 300
  spSlashMaxAmount := 5 * 10 ^ 18
  spSlashCountingWindow := 43200
  rewardValidatorRatio := 9 * 10 ^ 17
  rewardSubmitterRatio := 10 ^ 15
  rewardSubmitterThreshold := 10 ^ 15
  keepAlive_pos := by decide
  heartbeat_pos := by decide
  kept_pos := by decide

/-- The store before the first challenge. -/
def State.empty (params : Params) : State := ⟨params, 0, .empty, .empty, .empty, none, 0⟩

/-- A challenge of the sealed object on the provider with an operator address. -/
def sealedMsg (spOperatorAddress : Addr) : MsgSubmit := ⟨9, spOperatorAddress, 1, 1, 0, false⟩

/-- The primary provider is challenged as itself. -/
theorem primary_announced :
    ∃ c, runSteps Storage.Chain.step (Storage.sampleStart 1) sealedObject = some c ∧
      ∃ e, c.state.getBucketInfo 1 = some e ∧
      ∃ primary, c.state.mustGetPrimarySPForBucket e.2 = .ok primary ∧
      ∃ r, (State.empty defaultParams).submit (blockAt 5 c.state) (sealedMsg 101) = .ok r ∧
        r.2.spId = primary.id ∧ r.2.spOperatorAddress = primary.operatorAddress := by
  obtain ⟨c, hc, ⟨bucketID, b⟩, hb, primary, hprimary, ⟨objectID, o⟩, ho, hfind, hoperator, r, hr, -⟩ :
      ∃ c, runSteps Storage.Chain.step (Storage.sampleStart 1) sealedObject = some c ∧
      ∃ e, c.state.getBucketInfo 1 = some e ∧
      ∃ primary, c.state.mustGetPrimarySPForBucket e.2 = .ok primary ∧
      ∃ e, c.state.findObject 1 1 = .ok e ∧
        c.state.virtualGroup.sp.getStorageProvider primary.id = some primary ∧
        primary.operatorAddress = 101 ∧
      ∃ r, (State.empty defaultParams).submit (blockAt 5 c.state) (sealedMsg 101) = .ok r ∧ True := by
    decide +kernel
  have hnames : Names (blockAt 5 c.state) (sealedMsg 101) bucketID b primary objectID o primary :=
    ⟨hb, hprimary, ho, hfind, hoperator⟩
  have hdecided := (submit_decides (s := State.empty defaultParams) hnames).2 (.inl rfl)
  exact ⟨c, hc, _, hb, primary, hprimary, r, hr, (hdecided.accepted _ _ hr).2⟩

/-- **A secondary provider is challenged as the primary**: the event names the provider with the
id 1 by the operator address of the one with the id 2. -/
theorem secondary_announced_as_primary :
    ∃ c, runSteps Storage.Chain.step (Storage.sampleStart 1) sealedObject = some c ∧
      ∃ sp, c.state.virtualGroup.sp.getStorageProviderByOperatorAddr 102 = some sp ∧ sp.id = 2 ∧
      ∃ r, (State.empty defaultParams).submit (blockAt 5 c.state) (sealedMsg sp.operatorAddress) =
          .ok r ∧ r.2.redundancyIndex = 0 ∧ r.2.spId = 1 ∧ r.2.spOperatorAddress = 102 := by
  decide +kernel

end Moca.Challenge
