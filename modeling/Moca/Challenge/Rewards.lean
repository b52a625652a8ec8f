/-
# The rewards of a slash

The submitter of an attestation gets a part of the slash, up to a threshold.  Without a
challenger the rest goes to the validators in equal parts, and what does not divide goes to
the submitter; with one the validators get their ratio of the rest, and the challenger what
is left.  Every division truncates, and each time one party gets the remainder: the rewards
add up to the slash (`calculateSlashRewards_exact`), and so does what `Attest` hands to
`Slash` of `x/sp`, which takes the sum of the rewards from the deposit of the provider
(`attest_shares_slash`).
-/

import Moca.Challenge.Attest
import Moca.Sp.DepositPool

namespace Moca.Challenge

open Sp (chopPrecisionAndRound rewardSum)

/-- What `Params.Validate` checks of the params of rewards. -/
structure Params.ValidRewards (p : Params) : Prop where
  validator_nonneg : 0 ≤ p.rewardValidatorRatio
  submitter_nonneg : 0 ≤ p.rewardSubmitterRatio
  threshold_nonneg : 0 ≤ p.rewardSubmitterThreshold
  sum_le_one : p.rewardValidatorRatio + p.rewardSubmitterRatio ≤ 10 ^ 18

variable {p : Params} {total : ℤ} {n : ℕ}

/-! ### Sums -/

theorem iterate_sub (each : ℤ) (n : ℕ) (total : ℤ) :
    (· - each)^[n] total = total - n * each := by
  induction n generalizing total with
  | zero => simp
  | succ n ih =>
    rw [Function.iterate_succ_apply, ih]
    push_cast
    ring

/-- A whole number is not rounded. -/
theorem chopPrecisionAndRound_mul (x : ℤ) : chopPrecisionAndRound (x * 10 ^ 18) = x := by
  have habs : (x * 10 ^ 18).natAbs = x.natAbs * 10 ^ 18 := by
    rw [Int.natAbs_mul]
    rfl
  have hsign : (x * 10 ^ 18).sign = x.sign := by
    have hone : Int.sign (10 ^ 18) = 1 := by decide
    rw [Int.sign_mul, hone, mul_one]
  unfold chopPrecisionAndRound
  dsimp only
  rw [habs, hsign, Nat.mul_div_cancel _ (by norm_num), Nat.mul_mod_left, if_neg (by norm_num)]
  exact Int.sign_mul_natAbs x

/-- Equal parts, rounded down, are together at most the whole. -/
theorem mul_tdiv_le {x m : ℤ} (hx : 0 ≤ x) (hm : 0 < m) : 0 ≤ x.tdiv m ∧ m * x.tdiv m ≤ x := by
  rw [Int.tdiv_eq_ediv_of_nonneg hx]
  exact ⟨Int.ediv_nonneg hx hm.le, Int.mul_ediv_self_le hm.ne'⟩

/-- The reward of the submitter is at most the slash. -/
theorem submitterReward_mem (hp : p.ValidRewards) (htotal : 0 ≤ total) :
    let ratioReward := (chopPrecisionAndRound
      (p.rewardSubmitterRatio * (total * 10 ^ 18))).tdiv (10 ^ 18)
    let submitterReward :=
      if ratioReward > p.rewardSubmitterThreshold then p.rewardSubmitterThreshold else ratioReward
    0 ≤ submitterReward ∧ submitterReward ≤ total := by
  obtain ⟨hvalidator, hratio, hthreshold, hsum⟩ := hp
  have hmul : 0 ≤ p.rewardSubmitterRatio * total := mul_nonneg hratio htotal
  have hle : p.rewardSubmitterRatio * total ≤ 10 ^ 18 * total :=
    mul_le_mul_of_nonneg_right (by omega) htotal
  rw [← mul_assoc, chopPrecisionAndRound_mul, Int.tdiv_eq_ediv_of_nonneg hmul]
  dsimp only
  split_ifs <;> omega

/-- **The rewards are exact**: none is negative, and together they are the slash. -/
theorem calculateSlashRewards_exact (hp : p.ValidRewards) (htotal : 0 ≤ total) (hn : 0 < n)
    (challenger : Option Addr) :
    let r := p.calculateSlashRewards total challenger n
    0 ≤ r.challenger ∧ 0 ≤ r.eachValidator ∧ 0 ≤ r.submitter ∧
      r.challenger + n * r.eachValidator + r.submitter = total ∧
      (challenger = none → r.challenger = 0) := by
  obtain ⟨hsubmitter, hle⟩ := submitterReward_mem hp htotal
  unfold Params.calculateSlashRewards
  dsimp only at hsubmitter hle ⊢
  generalize (if _ > p.rewardSubmitterThreshold then p.rewardSubmitterThreshold else _) = submitter
    at hsubmitter hle ⊢
  have hn' : (0 : ℤ) < n := by omega
  have hrest : 0 ≤ total - submitter := by omega
  rcases challenger with _ | challenger
  · obtain ⟨heach, hall⟩ := mul_tdiv_le hrest hn'
    dsimp only
    rw [iterate_sub]
    exact ⟨le_rfl, heach, by omega, by omega, fun _ => rfl⟩
  · -- the validators get at most the ratio of the rest, and the ratio is at most one
    obtain ⟨hratio, hratio', -, hsum⟩ := hp
    have hmul : 0 ≤ p.rewardValidatorRatio * (total - submitter) := mul_nonneg hratio hrest
    have hwhole : p.rewardValidatorRatio * (total - submitter) ≤ 10 ^ 18 * (total - submitter) :=
      mul_le_mul_of_nonneg_right (by omega) hrest
    obtain ⟨hpart, hparts⟩ := mul_tdiv_le hmul hn'
    obtain ⟨heach, hall⟩ := @mul_tdiv_le _ (10 ^ 18) hpart (by norm_num)
    have hshares : n * (((p.rewardValidatorRatio * (total - submitter)).tdiv n).tdiv (10 ^ 18)) ≤
        total - submitter := by
      have hscaled := mul_le_mul_of_nonneg_left hall hn'.le
      nlinarith
    dsimp only
    rw [iterate_sub]
    exact ⟨by omega, heach, hsubmitter, by omega, by rintro ⟨⟩⟩

/-! ### `Attest` -/

variable {ctx : Ctx} {s s' : State} {msg : MsgAttest}

theorem rewardSum_rewardInfos (r : SlashRewards) (h : msg.challengerAddress = none → r.challenger = 0) :
    rewardSum (r.rewardInfos ctx msg) =
      r.challenger + ctx.validators.length * r.eachValidator + r.submitter := by
  unfold rewardSum SlashRewards.rewardInfos
  cases hchallenger : msg.challengerAddress with
  | none => simp [Function.comp_def, h hchallenger]
  | some addr =>
    simp [Function.comp_def]
    ring

/-- **A slash is shared out.**  A vote for a slash of a positive amount goes through only if `Slash`
pays the rewards; none of them is negative, and together they are the amount. -/
theorem attest_shares_slash (hp : s.params.ValidRewards) (hvote : msg.voteResult = .challengeSucceed)
    (h : s.attest ctx msg = .ok s') :
    ∃ o, ctx.storage.objects.find? msg.objectId = some o ∧
      (0 < s.toSlashAmount (ctx.spOf msg) o → ∃ infos, ctx.slashPaid (ctx.spOf msg) infos = true ∧
        (∀ info ∈ infos, 0 ≤ info.amount.amount) ∧
        rewardSum infos = s.toSlashAmount (ctx.spOf msg) o) := by
  obtain ⟨⟨sp, o⟩, hattested, h⟩ := bind_eq_ok.1 h
  obtain ⟨hid, ho, -⟩ := attested_eq_ok hattested
  refine ⟨o, ho, fun hpos => ?_⟩
  have hvalidators : 0 < ctx.validators.length := attested_validators hattested
  rw [hvote] at h
  dsimp only at h hid
  rw [hid] at h
  split_ifs at h
  obtain ⟨_, hpaid, -⟩ := bind_eq_ok.1 h
  obtain ⟨hchallenger, heach, hsubmitter, hsum, hnone⟩ :=
    calculateSlashRewards_exact hp hpos.le hvalidators msg.challengerAddress
  unfold State.doSlashAndRewards at hpaid
  rw [if_neg hpos.ne'] at hpaid
  dsimp only at hpaid
  generalize s.params.calculateSlashRewards _ _ _ = r at *
  refine ⟨r.rewardInfos ctx msg, ?_, ?_, (rewardSum_rewardInfos r hnone).trans hsum⟩
  · by_contra hnot
    -- with nobody rewarded the amount would be zero
    have hsome : 0 < r.challenger ∨ 0 < r.eachValidator ∨ 0 < r.submitter := by
      by_contra hnobody
      have hzero : (ctx.validators.length : ℤ) * r.eachValidator = 0 := by
        rw [show r.eachValidator = 0 by omega, mul_zero]
      omega
    simp [hsome, hnot] at hpaid
  · simp only [SlashRewards.rewardInfos, List.mem_append, List.mem_map, List.mem_singleton]
    rintro info ((⟨addr, -, rfl⟩ | ⟨val, -, rfl⟩) | rfl)
    · exact hchallenger
    · exact heach
    · exact hsubmitter

end Moca.Challenge
