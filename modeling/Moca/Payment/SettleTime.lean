/-
# When the settle time fits an `int64`

`UpdateStreamRecord` and `TryResumeStreamRecord` divide what an account has by what
it pays in a second, convert the quotient with `Int64()`, which panics on a value out
of range, and add it to the block time with the wrapping arithmetic of an `int64`.
Balances have 18 decimals and a rate can be as small as 1, so that the quotient need
not fit: an account with `10 ^ 28` that pays `1` lasts longer than `2 ^ 63` seconds.

`SettleFits` is the exact condition, without the division (`le_tdiv_iff`).  It is a
condition on the record, the change, the bank balance and the times; `settleFunds` is
what the account has after the change, written out from these.
-/

import Moca.Payment.Accrual

namespace Moca.Payment

/-! ### Quotients and their range -/

/-- `k ≤ n / d` for the quotient rounded towards zero, without the quotient. -/
def QuotientAtLeast (k n d : ℤ) : Prop := if 0 < k then k * d ≤ n else (k - 1) * d < n

instance (k n d : ℤ) : Decidable (QuotientAtLeast k n d) := by
  unfold QuotientAtLeast
  infer_instance

/-- **The truncated quotient against a bound.** -/
theorem le_tdiv_iff {k n d : ℤ} (hd : 0 < d) : k ≤ n.tdiv d ↔ QuotientAtLeast k n d := by
  unfold QuotientAtLeast
  rcases le_or_gt 0 n with hn | hn
  · rw [Int.tdiv_eq_ediv_of_nonneg hn]
    split_ifs with hk
    · exact Int.le_ediv_iff_mul_le hd
    · have hquot : 0 ≤ n / d := Int.ediv_nonneg hn hd.le
      have hneg : (k - 1) * d < 0 := mul_neg_of_neg_of_pos (by omega) hd
      constructor <;> intro <;> omega
  · -- a negative quotient is that of the opposite number
    have hopp : n.tdiv d = -(-n / d) := by
      rw [← Int.tdiv_eq_ediv_of_nonneg (by omega), Int.neg_tdiv, neg_neg]
    have hquot : 0 ≤ -n / d := Int.ediv_nonneg (by omega) hd.le
    rw [hopp]
    split_ifs with hk
    · have hpos : 0 < k * d := Int.mul_pos hk hd
      constructor <;> intro <;> omega
    · have hlt := Int.ediv_lt_iff_lt_mul (a := -n) (b := -k + 1) hd
      have hmul : (-k + 1) * d = -((k - 1) * d) := by ring
      rw [hmul] at hlt
      constructor
      · intro h
        have := hlt.1 (by omega)
        omega
      · intro h
        have := hlt.2 (by omega)
        omega

/-- **The condition.**  An account whose rate is negative has `funds` that pay less seconds than
an `int64` and the block time allow, and owes less than they allow. -/
def SettleFits (now : ℤ) (forcedSettleTime : ℕ) (funds rate : ℤ) : Prop :=
  rate < 0 →
    QuotientAtLeast (max (-2 ^ 63) (-2 ^ 63 - (now - forcedSettleTime))) funds |rate| ∧
      ¬QuotientAtLeast (min (2 ^ 63) (2 ^ 63 - (now - forcedSettleTime))) funds |rate|

instance (now : ℤ) (forcedSettleTime : ℕ) (funds rate : ℤ) :
    Decidable (SettleFits now forcedSettleTime funds rate) := by
  unfold SettleFits
  infer_instance

/-- `int64` wraps exactly the values out of range. -/
theorem int64_eq_self_iff {x : ℤ} : int64 x = x ↔ -2 ^ 63 ≤ x ∧ x < 2 ^ 63 := by
  constructor
  · intro h
    unfold int64 at h
    omega
  · rintro ⟨h₁, h₂⟩
    exact int64_eq_self h₁ h₂

/-- **The conversion does not panic and the sum does not wrap** exactly under the condition. -/
theorem settleFits_iff {now funds rate : ℤ} {forcedSettleTime : ℕ} (hneg : rate < 0) :
    SettleFits now forcedSettleTime funds rate ↔
      toInt64 (funds.tdiv |rate|) = .ok (funds.tdiv |rate|) ∧
        int64 (now - forcedSettleTime + funds.tdiv |rate|) =
          now - forcedSettleTime + funds.tdiv |rate| := by
  have hrate : 0 < |rate| := abs_pos.2 hneg.ne
  unfold SettleFits
  rw [← le_tdiv_iff hrate, ← le_tdiv_iff hrate, toInt64_eq_ok, int64_eq_self_iff]
  constructor
  · intro h
    obtain ⟨hlo, hhi⟩ := h hneg
    refine ⟨⟨by omega, by omega, rfl⟩, by omega, by omega⟩
  · rintro ⟨⟨h₁, h₂, -⟩, h₃, h₄⟩ -
    constructor <;> omega

/-! ### What an account has after a change -/

/-- The balances after accrual and change, without the bank: what was static or in the buffer,
what has flowed, the change, and what is unlocked. -/
def availableFunds (now : ℤ) (r : StreamRecord) (c : StreamRecordChange) : ℤ :=
  r.staticBalance + r.bufferBalance + r.netflowRate * (now - r.crudTimestamp) +
    c.staticBalanceChange + min r.lockBalance (-c.lockBalanceChange)

/-- With the bank: an account that cannot fill its buffer fills it from its bank account, if that
has enough. -/
def settleFunds (ctx : Ctx) (s : State) (addr : Addr) (r : StreamRecord)
    (c : StreamRecordChange) : ℤ :=
  let buffer := bufferFor s.params.versionedParams.reserveTime (r.netflowRate + c.rateChange)
  let funds := availableFunds ctx.blockTime r c
  if funds < buffer ∧ ctx.hasAccount addr = true ∧ buffer - funds ≤ s.balance addr then buffer
  else funds

variable {ctx : Ctx} {s s' : State} {addr : Addr} {r r' : StreamRecord} {c : StreamRecordChange}

/-- A negative static balance becomes zero if the bank account pays it. -/
theorem pullFromBank_staticBalance (ctx : Ctx) (s : State) (addr : Addr) (r : StreamRecord) :
    (pullFromBank ctx s addr r).2.staticBalance =
      if r.staticBalance < 0 ∧ ctx.hasAccount addr = true ∧ -r.staticBalance ≤ s.balance addr
      then 0 else r.staticBalance := by
  unfold pullFromBank
  by_cases h : r.staticBalance < 0 ∧ ctx.hasAccount addr = true
  · rw [if_pos h, abs_of_neg h.1]
    cases hsend : s.sendCoinsFromAccountToModule addr (-r.staticBalance) with
    | ok s₁ =>
      obtain ⟨-, hle, -⟩ := sendCoinsFromAccountToModule_eq_ok.1 hsend
      rw [if_pos ⟨h.1, h.2, hle⟩]
    | error e =>
      rw [if_neg]
      rintro ⟨-, -, hle⟩
      have hok : s.sendCoinsFromAccountToModule addr (-r.staticBalance) = .ok _ :=
        sendCoinsFromAccountToModule_eq_ok.2 ⟨by omega, hle, rfl⟩
      rw [hsend] at hok
      cases hok
  · rw [if_neg h, if_neg fun h' => h ⟨h'.1, h'.2.1⟩]

/-- **The changed record has the settle funds**, static and buffer balance together. -/
theorem changed_funds (s : State) (addr : Addr) (c : StreamRecordChange)
    (hlock : 0 ≤ r.lockBalance) (hnow : r.crudTimestamp ≤ ctx.blockTime) :
    (changed ctx s addr r c).2.staticBalance + (changed ctx s addr r c).2.bufferBalance =
      settleFunds ctx s addr r c := by
  have hbal := apply_balances r ctx.blockTime s.params.versionedParams.reserveTime c hnow
  have hlock' : (r.apply ctx.blockTime s.params.versionedParams.reserveTime c).lockBalance =
      r.lockBalance - min r.lockBalance (-c.lockBalanceChange) := by
    simp only [StreamRecord.apply, StreamRecord.addStatic, StreamRecord.changeRate,
      StreamRecord.changeLock, accrue_fields]
    split_ifs <;> simp only [accrue_fields] <;> omega
  have hbuffer := apply_bufferBalance r ctx.blockTime s.params.versionedParams.reserveTime c
  rw [(changed_fields ctx s addr r c).2.1, changed, pullFromBank_staticBalance]
  rw [hlock', hbuffer] at hbal
  unfold settleFunds
  dsimp only
  set buffer := bufferFor s.params.versionedParams.reserveTime (r.netflowRate + c.rateChange)
  set static := (r.apply ctx.blockTime s.params.versionedParams.reserveTime c).staticBalance
  -- so the static balance is negative exactly if the funds do not fill the buffer
  have hfunds : static + buffer = availableFunds ctx.blockTime r c := by
    unfold availableFunds
    omega
  by_cases h : static < 0 ∧ ctx.hasAccount addr = true ∧ -static ≤ s.balance addr
  · rw [if_pos h, if_pos ⟨by omega, h.2.1, by omega⟩]
    omega
  · rw [if_neg h, if_neg fun h' => h ⟨by omega, h'.2.1, by omega⟩]
    omega

/-- The settle time of a changed record, with what the account has written out. -/
theorem changed_payDuration (s : State) (addr : Addr) (c : StreamRecordChange)
    (hlock : 0 ≤ r.lockBalance) (hnow : r.crudTimestamp ≤ ctx.blockTime) :
    (changed ctx s addr r c).2.payDuration =
      (settleFunds ctx s addr r c).tdiv |r.netflowRate + c.rateChange| := by
  unfold StreamRecord.payDuration
  rw [changed_funds s addr c hlock hnow, (changed_fields ctx s addr r c).1]

/-! ### The two computations -/

variable (ctx s addr r c)

/-- **Exact:** an update does not panic in the conversion, and if it succeeds a record that pays has
the time at which its funds reach `ForcedSettleTime`, as an integer. -/
def SettlesExactly : Prop :=
  updateStreamRecord ctx s addr r c ≠ .error (.panic .int64OutOfBound) ∧
    ∀ s' r', updateStreamRecord ctx s addr r c = .ok (s', r') → r.netflowRate + c.rateChange < 0 →
      r'.settleTimestamp = ctx.blockTime - s.params.forcedSettleTime +
        (settleFunds ctx s addr r c).tdiv |r.netflowRate + c.rateChange|

/-- The update is not refused before its settle time is computed.  Without the forced flag a
payment needs a full buffer and an account the balances for more than `ForcedSettleTime`. -/
def ReachesSettleTime : Prop :=
  ctx.forced = true ∨
    ((c.staticBalanceChange < 0 ∨ c.rateChange < 0 →
        bufferFor s.params.versionedParams.reserveTime (r.netflowRate + c.rateChange) ≤
          settleFunds ctx s addr r c) ∧
      (r.netflowRate + c.rateChange < 0 → QuotientAtLeast (s.params.forcedSettleTime + 1)
        (settleFunds ctx s addr r c) |r.netflowRate + c.rateChange|))

/-- Under the forced flag the governance account can take what a settlement of the account
leaves. -/
def GovernanceTakes : Prop :=
  ctx.forced = true → ∃ s', updateStreamRecordByAddr ctx (changed ctx s addr r c).1
    { addr := governanceAddress, staticBalanceChange := settleFunds ctx s addr r c } = .ok s'

variable {ctx s addr r c}

/-- What `UpdateStreamRecord` does with the changed record. -/
theorem updateStreamRecord_changed (ctx : Ctx) (s : State) (addr : Addr) (c : StreamRecordChange)
    (hst : r.status = .active) :
    updateStreamRecord ctx s addr r c =
      if ctx.forced = false ∧ (c.staticBalanceChange < 0 ∨ c.rateChange < 0) ∧
          (changed ctx s addr r c).2.staticBalance < 0 then
        .error (.balanceNotEnough addr |(changed ctx s addr r c).2.staticBalance|)
      else do
        let (s, r, settleTimestamp) ← settleTime (updateStreamRecordByAddr ctx) ctx
          (changed ctx s addr r c).1 addr (changed ctx s addr r c).2
        return (s.updateAutoSettleRecord addr r.settleTimestamp settleTimestamp,
          { r with settleTimestamp := settleTimestamp }) := by
  rw [updateStreamRecord, updateStreamRecordWith, hst]
  rfl

/-- A settle time that is computed: after a forced settlement, if there is one, the quotient is
converted. -/
theorem settleTime_computed {byAddr : State → StreamRecordChange → Except Error State}
    (addr : Addr)
    (hby : ctx.forced = true → ∃ s', byAddr s
      { addr := governanceAddress, staticBalanceChange := r.staticBalance + r.bufferBalance } = .ok s')
    (hneg : r.netflowRate < 0)
    (hreach : ctx.forced = true ∨ (s.params.forcedSettleTime : ℤ) < r.payDuration) :
    ∃ s' r', settleTime byAddr ctx s addr r = (do
      let payDuration ← toInt64 r.payDuration
      return (s', r', int64 (ctx.blockTime - s.params.forcedSettleTime + payDuration))) := by
  unfold settleTime
  rw [if_pos hneg]
  split_ifs with hdur hforced
  · obtain ⟨s₁, hs₁⟩ := hby hforced
    refine ⟨s₁, { r with staticBalance := 0, bufferBalance := 0, status := .frozen }, ?_⟩
    simp only [forceSettle, hs₁]
    rfl
  · rcases hreach with hforced' | hlt
    · exact absurd hforced' hforced
    · omega
  · exact ⟨s, r, rfl⟩

/-- **Where the settle time is computed, the update is exact under the condition only.** -/
theorem settlesExactly_iff_of_reaches (hgov : GovernanceTakes ctx s addr r c)
    (hst : r.status = .active) (hlock : 0 ≤ r.lockBalance)
    (hnow : r.crudTimestamp ≤ ctx.blockTime) (hneg : r.netflowRate + c.rateChange < 0)
    (hreach : ReachesSettleTime ctx s addr r c) :
    SettlesExactly ctx s addr r c ↔
      SettleFits ctx.blockTime s.params.forcedSettleTime (settleFunds ctx s addr r c)
        (r.netflowRate + c.rateChange) := by
  obtain ⟨hrate, hbuffer, -, -, -, hparams, -⟩ := changed_fields ctx s addr r c
  have hdur := changed_payDuration s addr c hlock hnow
  have hfunds := changed_funds s addr c hlock hnow
  have hpay : ¬(ctx.forced = false ∧ (c.staticBalanceChange < 0 ∨ c.rateChange < 0) ∧
      (changed ctx s addr r c).2.staticBalance < 0) := by
    rintro ⟨hf, hp, hlt⟩
    rcases hreach with hforced | ⟨hfull, -⟩
    · simp [hf] at hforced
    · have := hfull hp
      omega
  have hlong : ctx.forced = true ∨ ((changed ctx s addr r c).1.params.forcedSettleTime : ℤ) <
      (changed ctx s addr r c).2.payDuration := by
    refine hreach.imp id fun h => ?_
    have := (le_tdiv_iff (abs_pos.2 hneg.ne)).2 (h.2 hneg)
    rw [hparams, hdur]
    omega
  unfold GovernanceTakes at hgov
  rw [← hfunds] at hgov
  obtain ⟨s₁, r₁, h₁⟩ := settleTime_computed addr hgov (hrate ▸ hneg) hlong
  unfold SettlesExactly
  rw [updateStreamRecord_changed ctx s addr c hst, if_neg hpay, h₁, settleFits_iff hneg, ← hdur, hparams]
  constructor
  · rintro ⟨hpanic, hexact⟩
    -- the conversion panics unless the quotient is in range
    have hd : toInt64 (changed ctx s addr r c).2.payDuration =
        .ok (changed ctx s addr r c).2.payDuration := by
      unfold toInt64 at hpanic ⊢
      split_ifs at hpanic ⊢ with hin
      · rfl
      · exact absurd rfl hpanic
    rw [hd] at hexact
    exact ⟨hd, hexact _ _ rfl hneg⟩
  · rintro ⟨hd, hsum⟩
    rw [hd]
    refine ⟨fun h => ?_, fun s' r' h _ => ?_⟩
    · cases h
    · cases h
      exact hsum

/-- An update that fails for another reason is exact. -/
theorem settlesExactly_of_error {e : Error} (h : updateStreamRecord ctx s addr r c = .error e)
    (he : e ≠ .panic .int64OutOfBound) : SettlesExactly ctx s addr r c := by
  unfold SettlesExactly
  rw [h]
  refine ⟨fun hp => he (Except.error.inj hp), fun s' r' hok => ?_⟩
  cases hok

/-- An update that is refused before, or of an account that does not pay, is exact. -/
theorem settlesExactly_of_not_reaches (hst : r.status = .active) (hlock : 0 ≤ r.lockBalance)
    (hnow : r.crudTimestamp ≤ ctx.blockTime)
    (h : 0 ≤ r.netflowRate + c.rateChange ∨ ¬ReachesSettleTime ctx s addr r c) :
    SettlesExactly ctx s addr r c := by
  obtain ⟨hrate, hbuffer, -, -, -, hparams, -⟩ := changed_fields ctx s addr r c
  have hdur := changed_payDuration s addr c hlock hnow
  have hfunds := changed_funds s addr c hlock hnow
  have hstep := updateStreamRecord_changed ctx s addr c hst
  by_cases hpay : ctx.forced = false ∧ (c.staticBalanceChange < 0 ∨ c.rateChange < 0) ∧
      (changed ctx s addr r c).2.staticBalance < 0
  · rw [if_pos hpay] at hstep
    exact settlesExactly_of_error hstep (by simp)
  rw [if_neg hpay] at hstep
  rcases lt_or_ge (r.netflowRate + c.rateChange) 0 with hneg | hpos
  · -- the account pays, so that it is refused for its balances
    have hnot := h.resolve_left (not_le.2 hneg)
    have hforced : ctx.forced = false := by
      by_contra hf
      exact hnot (Or.inl (by simpa using hf))
    have hfull : c.staticBalanceChange < 0 ∨ c.rateChange < 0 →
        bufferFor s.params.versionedParams.reserveTime (r.netflowRate + c.rateChange) ≤
          settleFunds ctx s addr r c := fun hp => by
      by_contra hlt
      exact hpay ⟨hforced, hp, by omega⟩
    have hshort : (changed ctx s addr r c).2.payDuration ≤
        (changed ctx s addr r c).1.params.forcedSettleTime := by
      by_contra hlt
      refine hnot (Or.inr ⟨hfull, fun _ => (le_tdiv_iff (abs_pos.2 hneg.ne)).1 ?_⟩)
      rw [hparams, hdur] at hlt
      omega
    have hlacks : settleTime (updateStreamRecordByAddr ctx) ctx (changed ctx s addr r c).1 addr
        (changed ctx s addr r c).2 =
          .error (.lacks addr |(changed ctx s addr r c).2.staticBalance|) := by
      unfold settleTime
      rw [if_pos (hrate ▸ hneg), if_pos hshort, if_neg (by simp [hforced])]
      rfl
    rw [hlacks] at hstep
    exact settlesExactly_of_error hstep (by simp)
  · have hearn : settleTime (updateStreamRecordByAddr ctx) ctx (changed ctx s addr r c).1 addr
        (changed ctx s addr r c).2 =
          .ok ((changed ctx s addr r c).1, (changed ctx s addr r c).2, 0) := by
      unfold settleTime
      rw [if_neg (by rw [hrate]; exact not_lt.2 hpos)]
      rfl
    rw [hearn] at hstep
    refine ⟨fun h => ?_, fun _ _ _ hneg => absurd hpos (not_le.2 hneg)⟩
    rw [hstep] at h
    cases h

/-- The record of a resumed account with its settle time. -/
theorem checkStreamRecord_resumed {t : ℤ} (hcheck : checkStreamRecord r = true)
    (hcount : r.outFlowCount ≠ 0) {now expected : ℤ} (hexp : 0 ≤ expected) :
    checkStreamRecord (r.resumed now t expected) = true ∧
      ∀ rate, checkStreamRecord { r.resumed now t expected with
        status := .active, netflowRate := rate, frozenNetflowRate := 0 } = true := by
  rw [checkStreamRecord_iff] at hcheck
  obtain ⟨hfrozen, hlock, -, -⟩ := hcheck
  exact ⟨checkStreamRecord_iff.2 ⟨hfrozen, hlock, hexp, fun _ => hcount⟩,
    fun rate => checkStreamRecord_iff.2 ⟨le_rfl, hlock, hexp, fun _ => hcount⟩⟩

/-- **A resumption and its settle time.**  A frozen account that is not being resumed, has flows
that can be resumed and the balance for its buffer is resumed with the exact settle time if and
only if the condition holds of its balance and its whole rate. -/
theorem resumesExactly_iff {deposit : ℤ} (hst : r.status = .frozen)
    (hidle : existsAutoResumeRecord s 0 addr = false) (hcheck : checkStreamRecord r = true)
    (hcount : r.outFlowCount ≠ 0) (hneg : r.netflowRate + r.frozenNetflowRate < 0)
    (henough : -(r.netflowRate + r.frozenNetflowRate) * s.params.versionedParams.reserveTime ≤
      r.staticBalance + deposit)
    (hflows : ∃ p, resumeAllFlows ctx s addr = .ok p) :
    (∃ s', tryResumeStreamRecord ctx s addr r deposit = .ok s' ∧
        (s'.record addr).settleTimestamp = ctx.blockTime - s.params.forcedSettleTime +
          (r.staticBalance + deposit).tdiv |r.netflowRate + r.frozenNetflowRate|) ↔
      SettleFits ctx.blockTime s.params.forcedSettleTime (r.staticBalance + deposit)
        (r.netflowRate + r.frozenNetflowRate) := by
  have hrec : ∀ {s₁ : State} {x : StreamRecord} {o n : ℤ},
      (((s₁.putStreamRecord addr x).updateAutoSettleRecord addr o n).record addr) = x := by
    intro s₁ x o n
    rw [record_congr (s := s₁.putStreamRecord addr x) (by simp), record_putStreamRecord, if_pos rfl]
  have horder : ctx.blockTime - s.params.forcedSettleTime +
      (r.staticBalance + deposit).tdiv |r.netflowRate + r.frozenNetflowRate| = ctx.blockTime +
      (r.staticBalance + deposit).tdiv |r.netflowRate + r.frozenNetflowRate| -
      s.params.forcedSettleTime := by ring
  rw [settleFits_iff hneg]
  constructor
  · rintro ⟨s', h, hexact⟩
    obtain ⟨-, -, hres⟩ := resumed_of_eq_ok h
    cases hres with
    | idle hrate _ => omega
    | short _ hlack _ => omega
    | direct _ _ _ hdur _ _ hr _ =>
      obtain ⟨-, -, rfl⟩ := toInt64_eq_ok.1 hdur
      refine ⟨hdur, ?_⟩
      rw [hrec, hr] at hexact
      rw [horder]
      exact hexact.trans horder
    | queued _ _ _ hdur _ hr _ =>
      obtain ⟨-, -, rfl⟩ := toInt64_eq_ok.1 hdur
      refine ⟨hdur, ?_⟩
      change ((s.putStreamRecord addr _).record addr).settleTimestamp = _ at hexact
      rw [record_putStreamRecord, if_pos rfl, hr] at hexact
      rw [horder]
      exact hexact.trans horder
  · rintro ⟨hd, hsum⟩
    have hexp : 0 ≤ -(r.netflowRate + r.frozenNetflowRate) *
        s.params.versionedParams.reserveTime := Int.mul_nonneg (by omega) (Int.natCast_nonneg _)
    obtain ⟨⟨acc, finished⟩, hacc⟩ := hflows
    rw [horder] at hsum
    have hchecks : ∀ t, _ := fun t => @checkStreamRecord_resumed
      { r with staticBalance := r.staticBalance + deposit } t hcheck hcount ctx.blockTime _ hexp
    unfold tryResumeStreamRecord
    rw [if_neg (not_not.2 hst), if_neg (by simp [hidle])]
    dsimp only
    rw [if_neg (by omega), if_neg (not_lt.2 henough), hd]
    refine exists_bind_eq_ok rfl ?_
    split_ifs with hfew
    · refine exists_bind_eq_ok hacc ?_
      refine exists_bind_eq_ok (setStreamRecord_eq_ok.2 ⟨(hchecks _).2 _, rfl⟩) ?_
      refine ⟨_, rfl, ?_⟩
      rw [hrec, horder]
      exact hsum
    · refine exists_bind_eq_ok (setStreamRecord_eq_ok.2 ⟨(hchecks _).1, rfl⟩) ?_
      refine ⟨_, rfl, ?_⟩
      change ((s.putStreamRecord addr _).record addr).settleTimestamp = _
      rw [record_putStreamRecord, if_pos rfl, horder]
      exact hsum

/-- **When the settle time does not overflow.**  An update of an active record neither panics in
the conversion nor wraps the time if and only if it is refused before, or its funds and its rate
after the change meet `SettleFits`.  The resumption of a frozen account that has the balance for
its buffer and flows that can be resumed gives it the exact settle time if and only if its balance
with the deposit and its whole rate meet `SettleFits`. -/
theorem settle_time_exact_iff (ctx : Ctx) (s : State) (addr : Addr) (r : StreamRecord) :
    (∀ c : StreamRecordChange,
      GovernanceTakes ctx s addr r c → r.status = .active → 0 ≤ r.lockBalance →
      r.crudTimestamp ≤ ctx.blockTime →
        (SettlesExactly ctx s addr r c ↔ (ReachesSettleTime ctx s addr r c →
          SettleFits ctx.blockTime s.params.forcedSettleTime (settleFunds ctx s addr r c)
            (r.netflowRate + c.rateChange)))) ∧
    (∀ deposit : ℤ,
      r.status = .frozen → existsAutoResumeRecord s 0 addr = false →
      checkStreamRecord r = true → r.outFlowCount ≠ 0 →
      r.netflowRate + r.frozenNetflowRate < 0 →
      -(r.netflowRate + r.frozenNetflowRate) * s.params.versionedParams.reserveTime ≤
        r.staticBalance + deposit →
      (∃ p, resumeAllFlows ctx s addr = .ok p) →
        ((∃ s', tryResumeStreamRecord ctx s addr r deposit = .ok s' ∧
            (s'.record addr).settleTimestamp = ctx.blockTime - s.params.forcedSettleTime +
              (r.staticBalance + deposit).tdiv |r.netflowRate + r.frozenNetflowRate|) ↔
          SettleFits ctx.blockTime s.params.forcedSettleTime (r.staticBalance + deposit)
            (r.netflowRate + r.frozenNetflowRate))) := by
  refine ⟨fun c hgov hst hlock hnow => ?_,
    fun deposit hst hidle hcheck hcount hneg henough hflows =>
      resumesExactly_iff hst hidle hcheck hcount hneg henough hflows⟩
  by_cases hneg : r.netflowRate + c.rateChange < 0
  · by_cases hreach : ReachesSettleTime ctx s addr r c
    · rw [settlesExactly_iff_of_reaches hgov hst hlock hnow hneg hreach]
      exact ⟨fun h _ => h, fun h => h hreach⟩
    · exact ⟨fun _ h => absurd h hreach,
        fun _ => settlesExactly_of_not_reaches hst hlock hnow (Or.inr hreach)⟩
  · exact ⟨fun _ _ h => absurd h hneg,
      fun _ => settlesExactly_of_not_reaches hst hlock hnow (Or.inl (not_lt.1 hneg))⟩

/-- The forced update of the overdrawn account settles exactly, and so does its update by a
deposit, which is not forced: the funds meet the condition. -/
theorem settle_time_exact_overdrawn :
    SettlesExactly { blockTime := 1000100, forced := true } (State.empty defaultParams fun _ => 0) 7
        overdrawnRecord { addr := 7 } ∧
      SettlesExactly { blockTime := 1000100 } (State.empty defaultParams fun _ => 0) 7
        overdrawnRecord { addr := 7, staticBalanceChange := 10 ^ 12 } ∧
      ReachesSettleTime { blockTime := 1000100 } (State.empty defaultParams fun _ => 0) 7
        overdrawnRecord { addr := 7, staticBalanceChange := 10 ^ 12 } := by
  have hgov : GovernanceTakes { blockTime := 1000100, forced := true }
      (State.empty defaultParams fun _ => 0) 7 overdrawnRecord { addr := 7 } := fun _ => by
    unfold changed
    rw [pullFromBank_of_not_hasAccount _ rfl]
    exact (recordsOk_empty {governanceAddress} _ _).exists_updateStreamRecordByAddr rfl
      (by decide) rfl le_rfl
  refine ⟨((settle_time_exact_iff _ _ _ _).1 _ hgov rfl (by decide) (by decide)).2
      fun _ => by decide +kernel,
    ((settle_time_exact_iff _ _ _ _).1 _ (fun h => by cases h) rfl (by decide) (by decide)).2
      fun _ => by decide +kernel, .inr ⟨by decide +kernel, by decide +kernel⟩⟩

/-- An account with a total of `10 ^ 28` that pays `1` in a second. -/
def richRecord : StreamRecord where
  crudTimestamp := 1700000000
  netflowRate := -1
  staticBalance := 9999999999999999999984448000
  bufferBalance := 15552000
  lockBalance := 0
  status := .active
  settleTimestamp := 0
  outFlowCount := 1
  frozenNetflowRate := 0

/-- **The settle time overflows:** a forced update of the rich account with the zero change panics,
with and without the forced flag, and so does its resumption when it is frozen. -/
theorem settle_time_overflows :
    updateStreamRecord { blockTime := 1700000001, forced := true }
        (State.empty defaultParams fun _ => 0) 7 richRecord { addr := 7 } =
      .error (.panic .int64OutOfBound) ∧
    updateStreamRecord { blockTime := 1700000001 }
        (State.empty defaultParams fun _ => 0) 7 richRecord { addr := 7 } =
      .error (.panic .int64OutOfBound) ∧
    tryResumeStreamRecord { blockTime := 1700000001 } (State.empty defaultParams fun _ => 0) 7
        { richRecord with
          status := .frozen, bufferBalance := 0, netflowRate := 0, frozenNetflowRate := -1 } 0 =
      .error (.panic .int64OutOfBound) := by
  refine ⟨?_, ?_, ?_⟩ <;> exact Except.error?_eq_some.1 (by decide +kernel)

end Moca.Payment
