/-
# One update of a record: value and time

`Moca.Payment.StreamRecord` says in which ways `UpdateStreamRecord` succeeds
(`Updated`).  Here are two facts about one update of one record.

The first is a balance (`updateStreamRecord_conserves`).  What the record has
afterwards, with what a forced settlement has taken to the governance account, is
what it had before, with the flow since the last update, the change, and what came
from the bank account of the address.  `pulledAmount` and `settledAmount` are these
two amounts; the theorem also says where they went.

The second is that the time of an update does not matter (`update_path_independent`):
an update with the zero change in between is not noticed afterwards, neither in the
record nor in the settle queue.  The settle time is a truncated quotient of what the
record has left.  As long as an account is not settled by force that is positive, so
that the quotient is a floor and falls by one with every second that passes
(`tdiv_sub_mul_self`).
-/

import Moca.Payment.EndBlockTotal
import Moca.Payment.SettleQueue

namespace Moca.Payment

open State StreamRecord

variable {ctx : Ctx} {s s' s₁ : State} {addr : Addr} {r r' r₁ : StreamRecord}
  {c : StreamRecordChange}

/-! ### Value -/

variable (ctx s addr r c)

/-- The amount the update pulls from the bank account of the address. -/
def pulledAmount : ℤ :=
  s.balance addr - (changed ctx s addr r c).1.balance addr

/-- The amount `ForceSettle` transfers to the governance account: static and buffer balance of a
record that is settled, zero for any other. -/
def settledAmount : ℤ :=
  let r₁ := (changed ctx s addr r c).2
  if r₁.netflowRate < 0 ∧ r₁.payDuration ≤ s.params.forcedSettleTime then
    r₁.staticBalance + r₁.bufferBalance
  else 0

/-- The balances of a record, together. -/
def StreamRecord.total : ℤ :=
  r.staticBalance + r.bufferBalance + r.lockBalance

/-- The fields of the changed record that the pull does not touch. -/
theorem changed_fields :
    (changed ctx s addr r c).2.netflowRate = r.netflowRate + c.rateChange ∧
      (changed ctx s addr r c).2.bufferBalance =
        bufferFor s.params.versionedParams.reserveTime (r.netflowRate + c.rateChange) ∧
      (changed ctx s addr r c).2.lockBalance =
        ((r.accrue ctx.blockTime).changeLock c.lockBalanceChange).lockBalance ∧
      (changed ctx s addr r c).2.status = r.status ∧
      (changed ctx s addr r c).2.settleTimestamp = r.settleTimestamp ∧
      (changed ctx s addr r c).1.params = s.params ∧
      (changed ctx s addr r c).1.streamRecords = s.streamRecords := by
  obtain ⟨hr, hframe, hrec, -⟩ := pull_fields (show pullFromBank ctx s addr
    (r.apply ctx.blockTime s.params.versionedParams.reserveTime c) =
      ((changed ctx s addr r c).1, (changed ctx s addr r c).2) from rfl)
  rw [hr]
  exact ⟨by simp, by simp, rfl, by simp, by simp, hframe.params, hrec⟩

variable {ctx s addr r c}

/-- **Accrual, change and pull.**  The balances together grow by the flow, the change and the
pull. -/
theorem changed_total (s : State) (addr : Addr) (c : StreamRecordChange)
    (hnow : r.crudTimestamp ≤ ctx.blockTime) :
    (changed ctx s addr r c).2.total =
      r.total + r.netflowRate * (ctx.blockTime - r.crudTimestamp) + c.staticBalanceChange +
        pulledAmount ctx s addr r c := by
  have hbal := apply_balances r ctx.blockTime s.params.versionedParams.reserveTime c hnow
  obtain ⟨x, -, -, hx⟩ := pullFromBank_eq ctx s addr
    (r.apply ctx.blockTime s.params.versionedParams.reserveTime c)
  simp only [pulledAmount, changed, hx, total, Function.update_self] at hbal ⊢
  omega

/-- The buffer is `ReserveTime` seconds of what the account pays. -/
theorem bufferFor_eq (reserveTime : ℕ) (rate : ℤ) :
    bufferFor reserveTime rate = reserveTime * max 0 (-rate) := by
  unfold bufferFor
  split_ifs with h
  · rw [abs_of_neg h, max_eq_right (by omega), mul_comm]
  · rw [max_eq_left (by omega), mul_zero]

/-- **`UpdateStreamRecord` conserves value.**  The record has afterwards, with what was settled,
what it had before, with the flow since its last update, the change of the static balance and
what was pulled from the bank.

The pulled amount is gone from the bank account of the address.  The settled amount is not zero
only if the account is frozen now, and it was the static balance change of an update of the
governance account, which made all changes to stored records.

A lock balance does not become negative.  A record that stays active has the buffer of its rate,
and one that had to pay without the forced flag has a static balance that is not negative. -/
theorem updateStreamRecord_conserves (hst : r.status = .active) (hgov : addr ≠ governanceAddress)
    (hnow : r.crudTimestamp ≤ ctx.blockTime)
    (h : updateStreamRecord ctx s addr r c = .ok (s', r')) :
    r'.total + settledAmount ctx s addr r c =
        r.total + r.netflowRate * (ctx.blockTime - r.crudTimestamp) + c.staticBalanceChange +
          pulledAmount ctx s addr r c ∧
      s'.balance addr = s.balance addr - pulledAmount ctx s addr r c ∧
      ((r'.status = .active ∧ settledAmount ctx s addr r c = 0 ∧
          s'.streamRecords = s.streamRecords) ∨
        (r'.status = .frozen ∧ ∃ s₁ s₂, s₁.streamRecords = s.streamRecords ∧
          updateStreamRecordByAddr ctx s₁
            { addr := governanceAddress
              staticBalanceChange := settledAmount ctx s addr r c } = .ok s₂ ∧
          s'.streamRecords = s₂.streamRecords)) ∧
      (0 ≤ r.lockBalance → 0 ≤ r'.lockBalance) ∧
      (r'.status = .active → r'.bufferBalance =
        s.params.versionedParams.reserveTime * max 0 (-r'.netflowRate)) ∧
      (ctx.forced = false → c.staticBalanceChange < 0 ∨ c.rateChange < 0 →
        0 ≤ r'.staticBalance) := by
  have htotal := changed_total s addr c hnow
  obtain ⟨hrate, hbuffer, hlock, hstatus, -, hparams, hrec⟩ := changed_fields ctx s addr r c
  have hlock' : 0 ≤ r.lockBalance → 0 ≤ (changed ctx s addr r c).2.lockBalance := fun hl => by
    rw [hlock]
    exact changeLock_nonneg (by simpa using hl) _
  rw [hst] at hstatus
  have hkept : (changed ctx s addr r c).2.bufferBalance =
      s.params.versionedParams.reserveTime * max 0 (-(changed ctx s addr r c).2.netflowRate) := by
    rw [← bufferFor_eq, hrate, hbuffer]
  cases updated_of_updateStreamRecord h with
  | frozen hfro _ =>
    rw [hst] at hfro
    cases hfro
  | @kept s₁ r₁ t _ hpull hsol ht =>
    have hzero : settledAmount ctx s addr r c = 0 := by
      rw [hpull] at hparams
      rcases ht with ⟨hpos, -⟩ | ⟨-, hdur, -⟩
      · simp [settledAmount, hpull, not_lt.2 hpos]
      · rw [hparams] at hdur
        simp [settledAmount, hpull, not_le.2 hdur]
    rw [hpull] at htotal hkept hlock' hstatus hrec
    refine ⟨by rw [hzero, add_zero]; exact htotal, ?_, Or.inl ⟨hstatus, hzero, by simpa using hrec⟩,
      hlock', fun _ => hkept, hsol⟩
    simp [pulledAmount, hpull]
  | @settled s₁ s₂ r₁ _ hpull hsol hneg hdur hmin hforced hby =>
    have hall : settledAmount ctx s addr r c = r₁.staticBalance + r₁.bufferBalance := by
      rw [hpull] at hparams
      rw [hparams] at hdur
      simp [settledAmount, hpull, hneg, hdur]
    rw [hpull] at htotal hlock' hrec
    refine ⟨?_, ?_, Or.inr ⟨rfl, s₁, s₂, hrec, ?_, by simp⟩, hlock', fun hact => ?_, fun hf => ?_⟩
    · rw [hall]
      simp only [total] at htotal ⊢
      omega
    · rw [updateAutoSettleRecord_balance,
        (spared_updateStreamRecordByAddrDepth hgov _ hby hgov).balance]
      simp [pulledAmount, hpull]
    · rw [hall]
      exact hby
    · cases hact
    · rw [hforced] at hf
      cases hf

/-- An account that is late: its flow has used up the buffer. -/
def lateRecord : StreamRecord where
  crudTimestamp := 1000000
  netflowRate := -10
  staticBalance := 0
  bufferBalance := 864000
  lockBalance := 5
  status := .active
  settleTimestamp := 1000000
  outFlowCount := 1
  frozenNetflowRate := 0

/-- A forced update of the late account that unlocks more than is locked: the governance account
takes over its debt. -/
theorem updateStreamRecord_conserves_late :
    ∃ s' r', updateStreamRecord { blockTime := 1090000, forced := true }
        (empty defaultParams fun _ => 0) 7 lateRecord
        { addr := 7, lockBalanceChange := -9 } = .ok (s', r') ∧
      r'.total + settledAmount { blockTime := 1090000, forced := true }
          (empty defaultParams fun _ => 0) 7 lateRecord
          { addr := 7, lockBalanceChange := -9 } = -35995 := by
  obtain ⟨p, h, -⟩ : ∃ p, updateStreamRecord { blockTime := 1090000, forced := true }
      (empty defaultParams fun _ => 0) 7 lateRecord { addr := 7, lockBalanceChange := -9 } = .ok p ∧
      True := by decide +kernel
  refine ⟨p.1, p.2, h, ?_⟩
  rw [(updateStreamRecord_conserves rfl (by decide) (by decide) h).1]
  decide +kernel

/-! ### Time -/

/-- **A quotient that stays non-negative falls by one with each divisor taken away.** -/
theorem tdiv_sub_mul_self {x d n : ℤ} (hd : 0 < d) (hn : 0 ≤ n) (hx : 0 ≤ x - d * n) :
    (x - d * n).tdiv d = x.tdiv d - n := by
  have hdn : 0 ≤ d * n := Int.mul_nonneg hd.le hn
  rw [Int.tdiv_eq_ediv_of_nonneg hx, Int.tdiv_eq_ediv_of_nonneg (by omega),
    Int.sub_mul_ediv_left x n hd.ne']

/-- The settle time of an account, as of the last update of its record. -/
def StreamRecord.settleAt (r : StreamRecord) (forcedSettleTime : ℕ) : ℤ :=
  if r.netflowRate < 0 then int64 (r.crudTimestamp - forcedSettleTime + r.payDuration) else 0

/-- Nothing is pulled for an address without a bank account. -/
theorem pullFromBank_of_not_hasAccount (s : State) (hacc : ctx.hasAccount addr = false)
    (r : StreamRecord) : pullFromBank ctx s addr r = (s, r) := by
  unfold pullFromBank
  simp [hacc]

/-- The settle timestamp of the record plays no part in accrual and change. -/
theorem apply_with_settleTimestamp (r : StreamRecord) (m now : ℤ) (reserveTime : ℕ)
    (c : StreamRecordChange) :
    ({ r with settleTimestamp := m } : StreamRecord).apply now reserveTime c =
      { r.apply now reserveTime c with settleTimestamp := m } := by
  simp only [StreamRecord.apply, accrue, changeLock,
    changeRate, addStatic]
  split_ifs <;> rfl

/-- **Accrual composes:** accruing at `t₁` on the way changes nothing. -/
theorem apply_apply (r : StreamRecord) {t₁ t₂ : ℤ} (reserveTime : ℕ) (c : StreamRecordChange)
    (h₁ : r.crudTimestamp ≤ t₁) (h₂ : t₁ ≤ t₂) :
    (r.apply t₁ reserveTime { addr := addr }).apply t₂ reserveTime c =
      r.apply t₂ reserveTime c := by
  have hflow : r.netflowRate * (t₂ - r.crudTimestamp) =
      r.netflowRate * (t₁ - r.crudTimestamp) + r.netflowRate * (t₂ - t₁) := by ring
  -- the first update, with its buffer
  have hmid : r.apply t₁ reserveTime { addr := addr } =
      { r with
        crudTimestamp := t₁
        staticBalance := r.staticBalance + r.netflowRate * (t₁ - r.crudTimestamp) -
          bufferFor reserveTime r.netflowRate + r.bufferBalance
        bufferBalance := bufferFor reserveTime r.netflowRate } := by
    simp only [StreamRecord.apply, accrue, changeLock_zero, changeRate,
      addStatic, add_zero]
    split_ifs with h
    · rfl
    · obtain rfl : t₁ = r.crudTimestamp := by omega
      simp
  rw [hmid]
  simp only [StreamRecord.apply, accrue, changeLock,
    changeRate, addStatic]
  rcases h₁.lt_or_eq with hlt | rfl <;> rcases h₂.lt_or_eq with hlt' | rfl
  all_goals
    split_ifs <;> simp only [StreamRecord.mk.injEq, true_and, and_true] <;> omega

/-- The record `q` after a change is neither refused nor settled by force. -/
structure Steady (ctx : Ctx) (s : State) (c : StreamRecordChange) (q : StreamRecord) : Prop where
  solvent : Solvent ctx c q
  lasts : q.netflowRate < 0 →
    (s.params.forcedSettleTime : ℤ) < q.payDuration ∧ q.payDuration < 2 ^ 63

/-- A steady record is written with its settle time. -/
theorem Steady.settleTime {byAddr : State → StreamRecordChange → Except Error State}
    (h : Steady ctx s c r) (hnow : r.crudTimestamp = ctx.blockTime) :
    settleTime byAddr ctx s addr r = .ok (s, r, r.settleAt s.params.forcedSettleTime) := by
  unfold Payment.settleTime settleAt
  split_ifs with hneg hle
  · have := (h.lasts hneg).1
    omega
  · have := (h.lasts hneg).1
    omega
  · have hfits : toInt64 r.payDuration = .ok r.payDuration := by
      obtain ⟨hlo, hhi⟩ := h.lasts hneg
      exact toInt64_eq_ok.2 ⟨by omega, hhi, rfl⟩
    rw [hnow, hfits]
    rfl
  · rfl

/-- **The updates that leave an account active**, where the bank is not asked: the change is
applied, and the settle time moves to that of the new record. -/
theorem updateStreamRecord_active_iff (hst : r.status = .active)
    (hacc : ctx.hasAccount addr = false) (hnow : r.crudTimestamp ≤ ctx.blockTime) :
    (updateStreamRecord ctx s addr r c = .ok (s', r') ∧ r'.status = .active) ↔
      ∃ q, q = r.apply ctx.blockTime s.params.versionedParams.reserveTime c ∧ Steady ctx s c q ∧
        s' = s.updateAutoSettleRecord addr r.settleTimestamp
          (q.settleAt s.params.forcedSettleTime) ∧
        r' = { q with settleTimestamp := q.settleAt s.params.forcedSettleTime } := by
  have hcrud := apply_crudTimestamp r ctx.blockTime s.params.versionedParams.reserveTime c hnow
  have hsettle := apply_settleTimestamp r ctx.blockTime s.params.versionedParams.reserveTime c
  have hact := apply_status r ctx.blockTime s.params.versionedParams.reserveTime c
  have hpulled := pullFromBank_of_not_hasAccount s hacc
    (r.apply ctx.blockTime s.params.versionedParams.reserveTime c)
  constructor
  · rintro ⟨h, hact'⟩
    refine ⟨_, rfl, ?_⟩
    cases updated_of_updateStreamRecord h with
    | frozen hfro _ =>
      rw [hst] at hfro
      cases hfro
    | kept _ hpull hsol ht =>
      cases hpulled.symm.trans hpull
      rw [hsettle, settleAt]
      rcases ht with ⟨hpos, rfl⟩ | ⟨hneg, hdur, hmax, rfl⟩
      · rw [if_neg (not_lt.2 hpos)]
        exact ⟨⟨hsol, fun hneg => absurd hpos (not_le.2 hneg)⟩, rfl, rfl⟩
      · rw [if_pos hneg, hcrud]
        exact ⟨⟨hsol, fun _ => ⟨hdur, hmax⟩⟩, rfl, rfl⟩
    | settled _ _ _ _ _ _ _ _ => cases hact'
  · rintro ⟨q, hq, hsteady, rfl, rfl⟩
    rw [← hq] at hcrud hsettle hact hpulled
    refine ⟨?_, hact.trans hst⟩
    have hpay : ¬(ctx.forced = false ∧ (c.staticBalanceChange < 0 ∨ c.rateChange < 0) ∧
        q.staticBalance < 0) := fun ⟨hf, hp, hlt⟩ => absurd (hsteady.solvent hf hp) (not_le.2 hlt)
    rw [updateStreamRecord, updateStreamRecordWith, hst, ← hq]
    dsimp only
    rw [hpulled]
    dsimp only
    rw [if_neg hpay, hsteady.settleTime hcrud, ← hsettle]
    rfl

/-- **The settle time does not drift.**  A record that accrues and is not settled by force keeps
its settle time, whether its static balance is negative or not. -/
theorem settleAt_apply {t : ℤ} {reserveTime forcedSettleTime : ℕ} (hnow : r.crudTimestamp ≤ t)
    (hlasts : (r.apply t reserveTime { addr := addr }).netflowRate < 0 →
      (forcedSettleTime : ℤ) < (r.apply t reserveTime { addr := addr }).payDuration) :
    (r.apply t reserveTime { addr := addr }).settleAt forcedSettleTime =
      r.settleAt forcedSettleTime := by
  set q := r.apply t reserveTime { addr := addr } with hq
  have hrate : q.netflowRate = r.netflowRate := by simp [hq]
  have hcrud : q.crudTimestamp = t := apply_crudTimestamp r t _ _ hnow
  unfold settleAt
  rw [hrate, hcrud]
  split_ifs with hneg
  · -- what the record has left falls by the rate with each second
    have hleft : q.staticBalance + q.bufferBalance =
        r.staticBalance + r.bufferBalance - |r.netflowRate| * (t - r.crudTimestamp) := by
      have hbal := apply_balances r t reserveTime { addr := addr } hnow
      have hlock : q.lockBalance = r.lockBalance := by
        simp [hq, StreamRecord.apply, addStatic, changeRate]
      rw [← hq, hlock, add_zero] at hbal
      rw [abs_of_neg hneg, neg_mul]
      omega
    have hpos : 0 ≤ q.staticBalance + q.bufferBalance := by
      by_contra hlt
      have hdur : 0 ≤ (-(q.staticBalance + q.bufferBalance)).tdiv |q.netflowRate| :=
        Int.tdiv_nonneg (by omega) (abs_nonneg _)
      rw [Int.neg_tdiv] at hdur
      have hlast := hlasts (hrate ▸ hneg)
      unfold payDuration at hlast
      omega
    have hdur : q.payDuration = r.payDuration - (t - r.crudTimestamp) := by
      unfold payDuration
      rw [hrate, hleft]
      exact tdiv_sub_mul_self (abs_pos.2 hneg.ne) (by omega) (hleft ▸ hpos)
    rw [hdur]
    congr 1
    omega
  · rfl

/-- Only the queue is changed. -/
theorem updateAutoSettleRecord_eq (s : State) (addr : Addr) (o n : ℤ) :
    s.updateAutoSettleRecord addr o n =
      { s with autoSettleRecords := (s.updateAutoSettleRecord addr o n).autoSettleRecords } := by
  unfold updateAutoSettleRecord
  split_ifs <;> rfl

/-- Moving the queue entry of an account twice is moving it once, if no other entry was in the
way. -/
theorem updateAutoSettleRecord_twice {o m : ℤ} (n : ℤ) (h : s.SettlesAt m addr → m = o) :
    (s.updateAutoSettleRecord addr o m).updateAutoSettleRecord addr m n =
      s.updateAutoSettleRecord addr o n := by
  have hqueue : ((s.updateAutoSettleRecord addr o m).updateAutoSettleRecord addr m
      n).autoSettleRecords = (s.updateAutoSettleRecord addr o n).autoSettleRecords := by
    refine SortedMap.ext_find? fun ⟨t, a⟩ => ?_
    simp only [find?_updateAutoSettleRecord]
    by_cases hnew : a = addr ∧ t = n ∧ n ≠ 0
    · simp [hnew]
    by_cases hmid : a = addr ∧ t = m ∧ m ≠ 0
    · -- the entry in between is gone again; it was there before only if it is the old one
      obtain ⟨rfl, rfl, hm⟩ := hmid
      rw [if_neg hnew, if_neg hnew, if_pos ⟨rfl, rfl, hm⟩]
      split_ifs with hold
      · rfl
      · cases hfind : s.autoSettleRecords.find? ⟨t, a⟩ with
        | none => rfl
        | some _ =>
          obtain rfl := h hfind
          exact absurd ⟨rfl, rfl, hm⟩ hold
    · rw [if_neg hnew, if_neg hnew, if_neg hmid, if_neg hmid]
  rw [updateAutoSettleRecord_eq _ addr m n, hqueue, updateAutoSettleRecord_eq s addr o m,
    updateAutoSettleRecord_eq s addr o n]

/-- **Lazy accrual is path independent.**  Take an active record of an address without a bank
account, whose settle time was computed with the parameters in force, or whose queue entry is the
only one of the address.  Update it with the zero change at `t₁` and with `c` at `t₂`, so that
neither update fails or settles it by force.  Then updating it with `c` at `t₂` alone succeeds, with
the same record and the same state, queue included.  And if `c` is the zero change too, the settle
time is still the one computed at `t₁`. -/
theorem update_path_independent {ctx₁ ctx₂ : Ctx} {s₂ : State} {r₂ : StreamRecord}
    (hst : r.status = .active) (hacc₁ : ctx₁.hasAccount addr = false)
    (hacc₂ : ctx₂.hasAccount addr = false) (h₁ : r.crudTimestamp ≤ ctx₁.blockTime)
    (h₂ : ctx₁.blockTime ≤ ctx₂.blockTime)
    (hsettle : r.settleTimestamp = r.settleAt s.params.forcedSettleTime ∨
      ∀ t, s.SettlesAt t addr → t = r.settleTimestamp)
    (hu₁ : updateStreamRecord ctx₁ s addr r { addr := addr } = .ok (s₁, r₁))
    (hact₁ : r₁.status = .active)
    (hu₂ : updateStreamRecord ctx₂ s₁ addr r₁ c = .ok (s₂, r₂)) (hact₂ : r₂.status = .active) :
    updateStreamRecord ctx₂ s addr r c = .ok (s₂, r₂) ∧
      (c.rateChange = 0 → c.staticBalanceChange = 0 → c.lockBalanceChange = 0 →
        r₂.settleTimestamp = r₁.settleTimestamp) := by
  obtain ⟨q, hq, hsteady, rfl, rfl⟩ :=
    (updateStreamRecord_active_iff hst hacc₁ h₁).1 ⟨hu₁, hact₁⟩
  have hcrud : q.crudTimestamp = ctx₁.blockTime := hq ▸ apply_crudTimestamp r _ _ _ h₁
  obtain ⟨q₂, hq₂, hsteady₂, rfl, rfl⟩ :=
    (updateStreamRecord_active_iff hact₁ hacc₂ (hcrud.le.trans h₂)).1 ⟨hu₂, hact₂⟩
  have hparams := (updateAutoSettleRecord_frame s addr r.settleTimestamp
    (q.settleAt s.params.forcedSettleTime)).params
  rw [hparams] at hq₂ ⊢
  set m := q.settleAt s.params.forcedSettleTime with hm
  -- the settle time in between is that of the record as it was
  have hdrift : m = r.settleAt s.params.forcedSettleTime := by
    rw [hm, hq]
    rw [hq] at hsteady
    exact settleAt_apply h₁ fun hneg => (hsteady.lasts hneg).1
  have hmid : q₂ = { r.apply ctx₂.blockTime s.params.versionedParams.reserveTime c with
      settleTimestamp := m } := by
    rw [hq₂, apply_with_settleTimestamp, hq, apply_apply r _ c h₁ h₂]
  set q' := r.apply ctx₂.blockTime s.params.versionedParams.reserveTime c with hq'
  have hsame : q₂.settleAt s.params.forcedSettleTime = q'.settleAt s.params.forcedSettleTime := by
    rw [hmid]
    rfl
  have hsteady' : Steady ctx₂ s c q' := by
    rw [hmid] at hsteady₂
    refine ⟨hsteady₂.solvent, fun hneg => ?_⟩
    have hlasts := hsteady₂.lasts hneg
    rwa [hparams] at hlasts
  refine ⟨((updateStreamRecord_active_iff hst hacc₂ (h₁.trans h₂)).2
    ⟨q', hq', hsteady', ?_, ?_⟩).1, fun hrate hstatic hlock => ?_⟩
  · rw [hsame]
    refine updateAutoSettleRecord_twice _ fun hm' => ?_
    rcases hsettle with hcurrent | honly
    · rw [hdrift, hcurrent]
    · exact honly m hm'
  · rw [hsame, hmid]
  · have hzero : q' = r.apply ctx₂.blockTime s.params.versionedParams.reserveTime
        { addr := addr } := by
      simp [hq', StreamRecord.apply, hrate, hstatic, hlock]
    change q₂.settleAt s.params.forcedSettleTime = m
    rw [hsame, hdrift, hzero]
    refine settleAt_apply (h₁.trans h₂) fun hneg => ?_
    rw [← hzero] at hneg ⊢
    exact (hsteady'.lasts hneg).1

/-- An account that lives on its buffer: its static balance is negative. -/
def overdrawnRecord : StreamRecord where
  crudTimestamp := 1000000
  netflowRate := -10
  staticBalance := -100
  bufferBalance := 155520000
  lockBalance := 0
  status := .active
  settleTimestamp := 16465590
  outFlowCount := 1
  frozenNetflowRate := 0

/-- The overdrawn account, updated twice and once. -/
theorem update_path_independent_overdrawn :
    ∃ s₁ r₁ s₂ r₂,
      updateStreamRecord { blockTime := 1000100 } (empty defaultParams fun _ => 0) 7
        overdrawnRecord { addr := 7 } = .ok (s₁, r₁) ∧
      updateStreamRecord { blockTime := 1000333 } s₁ 7 r₁
        { addr := 7, rateChange := 2, staticBalanceChange := 7 } = .ok (s₂, r₂) ∧
      updateStreamRecord { blockTime := 1000333 } (empty defaultParams fun _ => 0) 7
        overdrawnRecord { addr := 7, rateChange := 2, staticBalanceChange := 7 } = .ok (s₂, r₂) := by
  obtain ⟨⟨s₁, r₁⟩, hu₁, hact₁, ⟨s₂, r₂⟩, hu₂, hact₂⟩ : ∃ p, updateStreamRecord
      { blockTime := 1000100 } (empty defaultParams fun _ => 0) 7 overdrawnRecord { addr := 7 } =
        .ok p ∧ p.2.status = .active ∧
      ∃ q, updateStreamRecord { blockTime := 1000333 } p.1 7 p.2
          { addr := 7, rateChange := 2, staticBalanceChange := 7 } = .ok q ∧ q.2.status = .active := by
    decide +kernel
  exact ⟨s₁, r₁, s₂, r₂, hu₁, hu₂, (update_path_independent rfl rfl rfl (by decide) (by decide)
    (Or.inl (by decide +kernel)) hu₁ hact₁ hu₂ hact₂).1⟩

end Moca.Payment
