/-
# How much a provider is slashed

Two rules keep slashes within limits.  The record of a slash refuses another of the same provider
and object until `BeginBlocker` drops it, after `SlashCoolingOffPeriod` blocks.  And a counter for
each provider adds up what it was slashed: a slash that would take it above `SpSlashMaxAmount` is of
nothing, except the first, which is not compared with anything but is clamped to `SlashAmountMax`
like all.  The counters are cleared every `SpSlashCountingWindow` blocks.

A ledger beside the chain keeps each slash with its amount and the number of clearings before it.
-/

import Moca.Challenge.Attest

namespace Moca.Challenge

open SortedMap

/-! ### The ledger of a run -/

/-- What `Params.Validate` checks of the params of slashes. -/
structure Params.Valid (p : Params) : Prop where
  rate_nonneg : 0 ≤ p.slashAmountSizeRate
  min_nonneg : 0 ≤ p.slashAmountMin
  min_lt_max : p.slashAmountMin < p.slashAmountMax
  spMax_nonneg : 0 ≤ p.spSlashMaxAmount
  window_pos : 0 < p.spSlashCountingWindow

/-- A slash, with the number of times the counters had been cleared. -/
structure Slash where
  spId : ℕ
  objectId : ℕ
  height : ℕ
  amount : ℤ
  clearings : ℕ
  deriving DecidableEq

structure Ledger where
  chain : Chain
  slashes : List Slash
  clearings : ℕ

def Ledger.start (params : Params) (height : ℕ) : Ledger := ⟨.start params height, [], 0⟩

/-- Whether the counters are cleared at a height. -/
def Params.Clears (p : Params) (height : ℕ) : Prop :=
  p.spSlashCountingWindow > 0 ∧ height > 0 ∧ height % p.spSlashCountingWindow = 0

instance (p : Params) (height : ℕ) : Decidable (p.Clears height) :=
  inferInstanceAs (Decidable (_ ∧ _))

/-- The slash of an attestation, if it is for one. -/
def Ledger.slashOf (l : Ledger) (ctx : Ctx) (msg : MsgAttest) : List Slash :=
  match msg.voteResult, ctx.storage.objects.find? msg.objectId with
  | .challengeSucceed, some o =>
    [{ spId := ctx.spOf msg, objectId := msg.objectId, height := l.chain.height,
       amount := l.chain.state.toSlashAmount (ctx.spOf msg) o, clearings := l.clearings }]
  | _, _ => []

/-- One step of the chain, and what it adds to the ledger. -/
def Ledger.step (l : Ledger) (op : Ctx × Op) : Option Ledger :=
  (l.chain.step op).map fun c =>
    match op.2 with
    | .beginBlock =>
      { l with
        chain := c
        clearings := if l.chain.state.params.Clears c.height then l.clearings + 1 else l.clearings }
    | .attest msg => { l with chain := c, slashes := l.slashes ++ l.slashOf op.1 msg }
    | _ => { l with chain := c }

/-- What a provider was slashed between a clearing and the next. -/
def Ledger.slashed (l : Ledger) (spID clearings : ℕ) : ℤ :=
  ((l.slashes.filter fun e => decide (e.spId = spID ∧ e.clearings = clearings)).map
    fun e => e.amount).sum

/-- The params stay as they are. -/
def Op.KeepsParams : Op → Prop
  | .updateParams _ => False
  | _ => True

/-! ### Amounts -/

theorem calculateSlashAmount_le {p : Params} (hp : p.Valid) (objectSize : ℕ) :
    p.calculateSlashAmount objectSize ≤ p.slashAmountMax := by
  have hlt := hp.min_lt_max
  unfold Params.calculateSlashAmount
  dsimp only
  split_ifs <;> omega

variable {s : State} {spID : ℕ}

/-- **One slash keeps the counter within the limit.** -/
theorem add_toSlashAmount_le (hp : s.params.Valid) (o : Storage.ObjectInfo)
    (h : (s.spSlashAmounts.find? spID).getD 0 ≤ max s.params.spSlashMaxAmount s.params.slashAmountMax) :
    (s.spSlashAmounts.find? spID).getD 0 + s.toSlashAmount spID o ≤
      max s.params.spSlashMaxAmount s.params.slashAmountMax := by
  have hle := calculateSlashAmount_le hp o.payloadSize
  unfold State.toSlashAmount
  dsimp only
  split_ifs with hover
  · omega
  · -- either this is the first slash, or the sum was compared with the maximum
    omega

/-! ### The invariant of a run -/

/-- The books of a run with constant params. -/
structure Ledger.Books (params : Params) (l : Ledger) : Prop where
  params_eq : l.chain.state.params = params
  past : ∀ e ∈ l.slashes, e.height ≤ l.chain.height ∧ e.clearings ≤ l.clearings
  recorded : ∀ e ∈ l.slashes,
    (∃ height, l.chain.state.slashes.find? (slashKey e.spId e.objectId) = some height ∧
      e.height ≤ height) ∨ e.height + params.slashCoolingOffPeriod ≤ l.chain.height
  apart : l.slashes.Pairwise fun e e' => e.spId = e'.spId → e.objectId = e'.objectId →
    e.height + params.slashCoolingOffPeriod ≤ e'.height
  counted : ∀ spID, (l.chain.state.spSlashAmounts.find? spID).getD 0 = l.slashed spID l.clearings
  limited : ∀ spID n, l.slashed spID n ≤ max params.spSlashMaxAmount params.slashAmountMax

variable {params : Params} {l l' : Ledger} {ctx : Ctx}

/-- The stores of slashes stay as they are. -/
structure State.SameSlashes (s s' : State) : Prop where
  params : s'.params = s.params
  slashes : s'.slashes = s.slashes
  spSlashAmounts : s'.spSlashAmounts = s.spSlashAmounts

theorem drawChallenges_sameSlashes : ∀ (seeds : List (ℕ × (ℕ → ℤ))) (missing : ℕ)
    (done : List (ℕ × ℕ)) (s : State), s.SameSlashes (s.drawChallenges ctx missing done seeds)
  | _, 0, _, s => by
    rw [State.drawChallenges]
    exact ⟨rfl, rfl, rfl⟩
  | [], missing + 1, _, s => ⟨rfl, rfl, rfl⟩
  | seed :: seeds, missing + 1, done, s => by
    rw [State.drawChallenges]
    split
    · exact drawChallenges_sameSlashes seeds _ done s
    · split_ifs
      · exact drawChallenges_sameSlashes seeds _ done s
      · obtain ⟨hparams, hslashes, hamounts⟩ := drawChallenges_sameSlashes seeds missing _
          (s.saveChallenge (add64 s.challengeId 1) (s.expiredHeight ctx))
        exact ⟨hparams, hslashes, hamounts⟩

theorem Ledger.Books.congr (h : l.Books params) {log : List Attestation}
    (hsame : l.chain.state.SameSlashes s) :
    Books params { l with chain := ⟨s, l.chain.height, log⟩ } := by
  obtain ⟨hparams, hslashes, hamounts⟩ := hsame
  refine ⟨hparams.trans h.params_eq, h.past, ?_, h.apart, ?_, h.limited⟩
  · dsimp only
    rw [hslashes]
    exact h.recorded
  · dsimp only
    rw [hamounts]
    exact h.counted

/-- Nothing was slashed after a clearing that is still to come. -/
theorem Ledger.Books.slashed_next (h : l.Books params) (spID : ℕ) :
    l.slashed spID (l.clearings + 1) = 0 := by
  have hnone : l.slashes.filter
      (fun e => decide (e.spId = spID ∧ e.clearings = l.clearings + 1)) = [] := by
    refine List.filter_eq_nil_iff.2 fun e he hlater => ?_
    have hpast := (h.past e he).2
    have := (of_decide_eq_true hlater).2
    omega
  rw [Ledger.slashed, hnone]
  rfl

theorem Ledger.Books.beginBlock (h : l.Books params) :
    Books params
      { l with
        chain := { l.chain with
          state := l.chain.state.beginBlocker (l.chain.height + 1), height := l.chain.height + 1 }
        clearings := if l.chain.state.params.Clears (l.chain.height + 1) then l.clearings + 1
          else l.clearings } := by
  obtain ⟨slashes, amounts, heq, hamounts, hslashes⟩ :=
    beginBlocker_eq (l.chain.height + 1) l.chain.state
  rw [h.params_eq] at hslashes
  rw [heq]
  refine ⟨h.params_eq, fun e he => ⟨?_, ?_⟩, fun e he => ?_, h.apart, fun spID => ?_, h.limited⟩
  · exact (h.past e he).1.trans (Nat.le_succ _)
  · have hpast := (h.past e he).2
    dsimp only
    split_ifs <;> omega
  · -- a record is dropped only after the cooling off period
    dsimp only
    rcases h.recorded e he with ⟨height, hfind, hle⟩ | hlong
    · rcases hslashes _ _ hfind with hkept | hdropped
      · exact .inl ⟨height, hkept, hle⟩
      · exact .inr (by omega)
    · exact .inr (by omega)
  · show (amounts.find? spID).getD 0 = l.slashed spID
      (if l.chain.state.params.Clears (l.chain.height + 1) then l.clearings + 1 else l.clearings)
    by_cases hclears : l.chain.state.params.Clears (l.chain.height + 1)
    · rw [if_pos hclears, h.slashed_next, hamounts.trans (if_pos hclears)]
      rfl
    · rw [if_neg hclears, hamounts.trans (if_neg hclears)]
      exact h.counted spID

theorem Ledger.slashed_append (slashes : List Slash) (e : Slash) (c c' : Chain) (k k' spID n : ℕ) :
    Ledger.slashed ⟨c, slashes ++ [e], k⟩ spID n = Ledger.slashed ⟨c', slashes, k'⟩ spID n +
      if e.spId = spID ∧ e.clearings = n then e.amount else 0 := by
  unfold Ledger.slashed
  rw [List.filter_append, List.map_append, List.sum_append, List.filter_singleton]
  split_ifs with he <;> simp [he]

section

variable (h : l.Books params) (hp : params.Valid)
include h hp

/-- **A slash** of an amount that keeps the counter within the limit, where there is no record. -/
theorem Ledger.Books.slash {objectID : ℕ} (o : Storage.ObjectInfo) {log : List Attestation}
    (challenge : AttestedChallenge) (hctx : ctx.blockHeight = l.chain.height)
    (hslash : l.chain.state.existsSlash spID objectID = false) : Books params
      { l with
        chain := ⟨(l.chain.state.saveSlash ctx spID objectID o).appendAttestedChallenge challenge,
          l.chain.height, log⟩
        slashes := l.slashes ++ [⟨spID, objectID, l.chain.height,
          l.chain.state.toSlashAmount spID o, l.clearings⟩] } := by
  refine ⟨h.params_eq, fun e he => ?_, fun e he => ?_, ?_, fun spID' => ?_, fun spID' n => ?_⟩
  · rcases List.mem_append.1 he with hold | hlast
    · exact h.past e hold
    · obtain rfl := List.mem_singleton.1 hlast
      exact ⟨le_rfl, le_rfl⟩
  · dsimp only [State.appendAttestedChallenge, State.saveSlash]
    rw [find?_insert]
    rcases List.mem_append.1 he with hold | hlast
    · split_ifs
      · exact .inl ⟨_, rfl, hctx.symm ▸ (h.past e hold).1⟩
      · exact h.recorded e hold
    · obtain rfl := List.mem_singleton.1 hlast
      exact .inl ⟨_, if_pos rfl, hctx.ge⟩
  · refine List.pairwise_append.2 ⟨h.apart, List.pairwise_singleton _ _, fun e he e' he' => ?_⟩
    obtain rfl := List.mem_singleton.1 he'
    rintro rfl rfl
    rcases h.recorded e he with ⟨height, hfind, -⟩ | hlong
    · simp [State.existsSlash, SortedMap.contains, hfind] at hslash
    · exact hlong
  · rw [Ledger.slashed_append _ _ _ l.chain _ l.clearings]
    dsimp only [State.appendAttestedChallenge, State.saveSlash]
    rw [find?_insert]
    split_ifs with hsame hsame' hsame'
    · subst hsame
      rw [Option.getD_some, h.counted]
    · exact absurd ⟨hsame.symm, rfl⟩ hsame'
    · exact absurd hsame'.1.symm hsame
    · rw [add_zero, h.counted]
  · rw [Ledger.slashed_append _ _ _ l.chain _ l.clearings]
    split_ifs with hsame
    · obtain ⟨rfl, rfl⟩ := hsame
      have hlimited := h.limited spID l.clearings
      rw [← h.counted, ← h.params_eq] at hlimited ⊢
      exact add_toSlashAmount_le (h.params_eq ▸ hp) o hlimited
    · rw [add_zero]
      exact h.limited spID' n

theorem Ledger.Books.attest {msg : MsgAttest} {log : List Attestation}
    (hctx : ctx.blockHeight = l.chain.height) (hattest : l.chain.state.attest ctx msg = .ok s) :
    Books params
      { l with chain := ⟨s, l.chain.height, log⟩, slashes := l.slashes ++ l.slashOf ctx msg } := by
  unfold Ledger.slashOf
  cases hvote : msg.voteResult with
  | challengeSucceed =>
    obtain ⟨expiry, o, -, ho, hslash, rfl⟩ := attest_eq_ok hvote hattest
    rw [ho]
    exact h.slash hp o _ hctx hslash
  | challengeFailed =>
    obtain ⟨r, -, hattest⟩ := bind_eq_ok.1 hattest
    rw [hvote] at hattest
    dsimp only at hattest ⊢
    split_ifs at hattest
    cases hattest
    rw [List.append_nil]
    exact h.congr ⟨rfl, rfl, rfl⟩

theorem Ledger.Books.step {op : Ctx × Op} (hop : op.2.KeepsParams) (hstep : l.step op = some l') :
    l'.Books params := by
  obtain ⟨ctx, op⟩ := op
  obtain ⟨c, hc, rfl⟩ := Option.map_eq_some_iff.1 hstep
  cases op with
  | beginBlock =>
    cases hc
    exact h.beginBlock
  | submit msg =>
    obtain ⟨⟨s', event⟩, hsubmit, rfl⟩ := Option.map_eq_some_iff.1 hc
    obtain ⟨count, rfl⟩ := submit_eq_ok (Except.toOption_eq_some hsubmit)
    exact h.congr ⟨rfl, rfl, rfl⟩
  | attest msg =>
    obtain ⟨s', hattest, rfl⟩ := Option.map_eq_some_iff.1 hc
    exact @Ledger.Books.attest s' params l { ctx with blockHeight := l.chain.height } h hp msg _ rfl
      (Except.toOption_eq_some hattest)
  | endBlock seeds =>
    cases hc
    exact h.congr (drawChallenges_sameSlashes _ _ _ _)
  | updateParams params => exact hop.elim

end

/-- **Slashes keep their limits.**  In every run with constant valid params, two slashes of one
provider and object are at least `SlashCoolingOffPeriod` blocks apart, and between two clearings of
the counters a provider is slashed at most the larger of `SpSlashMaxAmount` and
`SlashAmountMax`. -/
theorem slash_limits (params : Params) (hp : params.Valid) (height : ℕ) (l : Ledger)
    (hrun : Reachable Ledger.step (fun _ op => op.2.KeepsParams) (Ledger.start params height) l) :
    (l.slashes.Pairwise fun e e' => e.spId = e'.spId → e.objectId = e'.objectId →
      e.height + params.slashCoolingOffPeriod ≤ e'.height) ∧
    ∀ spID n, l.slashed spID n ≤ max params.spSlashMaxAmount params.slashAmountMax := by
  have hmax := hp.spMax_nonneg
  have hbooks : l.Books params := by
    refine hrun.invariant (Ledger.Books params) ?_ fun l op l' h hop hstep => h.step hp hop hstep
    refine ⟨rfl, by simp [Ledger.start], by simp [Ledger.start], List.Pairwise.nil, ?_, ?_⟩
    · simp [Ledger.start, Chain.start, State.empty, Ledger.slashed]
    · intro spID n
      exact hmax.trans (le_max_left _ _)
  exact ⟨hbooks.apart, hbooks.limited⟩

/-- The default params with a cooling off period of two blocks. -/
def coolingParams : Params := { defaultParams with slashCoolingOffPeriod := 2 }

/-- The sealed object is slashed, and again in the first block that allows it. -/
def slashedTwice (storage : Storage.State) : List (Ctx × Op) :=
  attestedRun storage .challengeSucceed ++ [(blockAt 6 storage, .beginBlock),
    (blockAt 7 storage, .beginBlock), (blockAt 7 storage, .attest (sealedVote .challengeSucceed))]

/-- The slashes are the minimum, two blocks apart, and they are added up. -/
theorem slash_limits_twice : ∃ d l,
    runSteps Storage.Chain.step (Storage.sampleStart 1) sealedObject = some d ∧
      runSteps Ledger.step (Ledger.start coolingParams 5) (slashedTwice d.state) = some l ∧
      l.slashes = [⟨1, 1, 5, 10 ^ 16, 0⟩, ⟨1, 1, 7, 10 ^ 16, 0⟩] ∧ l.slashed 1 0 = 2 * 10 ^ 16 ∧
      (l.slashes.Pairwise fun e e' => e.spId = e'.spId → e.objectId = e'.objectId →
        e.height + 2 ≤ e'.height) ∧ l.slashed 1 0 ≤ 5 * 10 ^ 18 := by
  obtain ⟨d, hd, l, hl, hslashes, hsum⟩ : ∃ d,
      runSteps Storage.Chain.step (Storage.sampleStart 1) sealedObject = some d ∧
      ∃ l, runSteps Ledger.step (Ledger.start coolingParams 5) (slashedTwice d.state) = some l ∧
        l.slashes = [⟨1, 1, 5, 10 ^ 16, 0⟩, ⟨1, 1, 7, 10 ^ 16, 0⟩] ∧
        l.slashed 1 0 = 2 * 10 ^ 16 := by
    decide +kernel
  have hvalid : coolingParams.Valid := ⟨by decide, by decide, by decide, by decide, by decide⟩
  have hguarded : Guarded Ledger.step (fun _ op => op.2.KeepsParams)
      (Ledger.start coolingParams 5) (slashedTwice d.state) :=
    ⟨trivial, fun _ _ => ⟨trivial, fun _ _ => ⟨trivial, fun _ _ => ⟨trivial, fun _ _ => ⟨trivial,
      fun _ _ => trivial⟩⟩⟩⟩⟩
  have hlimits := slash_limits coolingParams hvalid 5 l (.of_runSteps .start hguarded hl)
  exact ⟨d, l, hd, hl, hslashes, hsum, hlimits.1, hlimits.2 1 0⟩

end Moca.Challenge
