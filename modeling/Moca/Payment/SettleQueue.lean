/-
# Auto-settle queue coherence

The settle queue has a record of an active account exactly when the account pays,
at its `SettleTimestamp`; and a frozen account whose active flows have not all been
frozen yet is still in the queue, at a time that has passed.

`QueueOk` says this of one account and the record it has, and `QueueBooks` of all.
An update moves the record and the entry of its account together
(`QueueBooks.updated`).  The two branches of `TryResumeStreamRecord` that change
`SettleTimestamp` or the status without looking at the queue do not: the account
must have left the queue before.
-/

import Moca.Payment.Conservation

namespace Moca.Payment

open SortedMap State

variable {R : Set Addr}

/-! ### The invariant -/

/-- The settle queue has an entry of `addr` at time `t`. -/
abbrev State.SettlesAt (s : State) (t : ℤ) (addr : Addr) : Prop :=
  s.autoSettleRecords.find? ⟨t, addr⟩ = some ()

/-- Some active out-flow of `addr` is stored. -/
abbrev State.HasActiveFlow (s : State) (addr : Addr) : Prop :=
  ∃ x v, s.outFlows.find? ⟨addr, .active, x⟩ = some v

/-- **The queue entries of an account fit its record.** -/
structure QueueOk (R : Set Addr) (now : ℤ) (s : State) (addr : Addr) (r : StreamRecord) : Prop where
  entry : ∀ t, s.SettlesAt t addr → t = r.settleTimestamp ∧ t ≠ 0
  paying : r.status = .active → r.netflowRate < 0 → s.SettlesAt r.settleTimestamp addr
  earning : r.status = .active → 0 ≤ r.netflowRate → r.settleTimestamp = 0
  settling : r.status = .frozen → ¬s.Queued addr → s.HasActiveFlow addr →
    ∃ t ≤ now, s.SettlesAt t addr
  receiver : addr ∈ R → r.status = .active

/-- Neither balance of the record is negative. -/
structure StreamRecord.Funded (r : StreamRecord) : Prop where
  static : 0 ≤ r.staticBalance
  buffer : 0 ≤ r.bufferBalance

/-- The queue fits all records, no record is ahead of time or has a negative lock, and no receiver
is in debt. -/
structure QueueBooks (R : Set Addr) (now : ℤ) (s : State) : Prop where
  ok : ∀ a, QueueOk R now s a (s.record a)
  crud_le : ∀ x r, s.streamRecords.find? x = some r → r.crudTimestamp ≤ now
  lock_nonneg : ∀ x r, s.streamRecords.find? x = some r → 0 ≤ r.lockBalance
  funded : ∀ x ∈ R, ∀ r, s.streamRecords.find? x = some r → r.Funded

variable {c : StreamRecordChange} {byAddr : State → StreamRecordChange → Except Error State}
  {st : OutFlowStatus} {count count' : ℕ} {acc : FlowMove} {record : QueueKey}

section QueueBooks

variable {now : ℤ} {s s' : State} {addr : Addr} {r r' : StreamRecord} {ctx : Ctx}
  {r₁ : StreamRecord} {s₁ : State} {rt : ℕ} {forced duration : ℤ}

/-- The entries of an account fit as long as they, its flows and its place in the resume queue
stay. -/
theorem QueueOk.congr (h : QueueOk R now s addr r)
    (hq : ∀ t, s'.autoSettleRecords.find? ⟨t, addr⟩ = s.autoSettleRecords.find? ⟨t, addr⟩)
    (hflow : ¬s'.Queued addr → s'.HasActiveFlow addr → s.HasActiveFlow addr)
    (hres : s.Queued addr → s'.Queued addr) : QueueOk R now s' addr r where
  entry t ht := h.entry t (by rwa [SettlesAt, hq] at ht)
  paying hst hrate := by
    rw [SettlesAt, hq]
    exact h.paying hst hrate
  earning := h.earning
  settling hst hnq hact := by
    obtain ⟨t, ht, hs⟩ := h.settling hst (fun hqa => hnq (hres hqa)) (hflow hnq hact)
    exact ⟨t, ht, by rwa [SettlesAt, hq]⟩
  receiver := h.receiver

/-- What is left to say of a frozen payer. -/
theorem QueueOk.of_frozen (hst : r.status = .frozen) (haR : addr ∉ R)
    (hentry : ∀ t, s.SettlesAt t addr → t = r.settleTimestamp ∧ t ≠ 0)
    (hsettling : ¬s.Queued addr → s.HasActiveFlow addr → ∃ t ≤ now, s.SettlesAt t addr) :
    QueueOk R now s addr r :=
  ⟨hentry, fun hact => by simp [hst] at hact, fun hact => by simp [hst] at hact,
    fun _ => hsettling, fun hR => absurd hR haR⟩

/-- Writing a record that fits keeps the books; the queue may change at that account. -/
theorem QueueBooks.put (h : QueueBooks R now s)
    (hrec : ∀ x ≠ addr, s'.streamRecords.find? x = s.streamRecords.find? x)
    (hq : ∀ t, ∀ x ≠ addr,
      s'.autoSettleRecords.find? ⟨t, x⟩ = s.autoSettleRecords.find? ⟨t, x⟩)
    (hflow : ∀ x ≠ addr, s'.HasActiveFlow x → s.HasActiveFlow x)
    (hres : ∀ x ≠ addr, s.Queued x → s'.Queued x) (hok : QueueOk R now s' addr r)
    (hcrud : r.crudTimestamp ≤ now) (hlock : 0 ≤ r.lockBalance) (hfund : addr ∈ R → r.Funded) :
    QueueBooks R now (s'.putStreamRecord addr r) where
  ok a := by
    rw [record_putStreamRecord]
    split_ifs with ha
    · subst ha
      exact hok.congr (fun _ => rfl) (fun _ => id) id
    · rw [record_congr (hrec a ha)]
      exact (h.ok a).congr (fun t => hq t a ha) (fun _ => hflow a ha) (hres a ha)
  crud_le x r' hx := of_find?_putStreamRecord hx (fun _ => hcrud) fun hxa hx =>
    h.crud_le x r' (hrec x hxa ▸ hx)
  lock_nonneg x r' hx := of_find?_putStreamRecord hx (fun _ => hlock) fun hxa hx =>
    h.lock_nonneg x r' (hrec x hxa ▸ hx)
  funded x hxR r' hx := of_find?_putStreamRecord hx (fun hxa => hfund (hxa ▸ hxR)) fun hxa hx =>
    h.funded x hxR r' (hrec x hxa ▸ hx)

/-- Writing a record that fits the queue as it is. -/
theorem QueueBooks.put_record (h : QueueBooks R now s) (hok : QueueOk R now s addr r)
    (hcrud : r.crudTimestamp ≤ now) (hlock : 0 ≤ r.lockBalance) (hfund : addr ∈ R → r.Funded) :
    QueueBooks R now (s.putStreamRecord addr r) :=
  h.put (fun _ _ => rfl) (fun _ _ _ => rfl) (fun _ _ => id) (fun _ _ => id) hok hcrud hlock hfund

/-- The books do not depend on the bank and the parameters; active flows may leave the store, and
come into it for accounts that are being resumed. -/
theorem QueueBooks.congr (h : QueueBooks R now s) (hrec : s'.streamRecords = s.streamRecords)
    (hq : s'.autoSettleRecords = s.autoSettleRecords)
    (hflow : ∀ x, ¬s'.Queued x → s'.HasActiveFlow x → s.HasActiveFlow x)
    (hres : s'.autoResumeRecords = s.autoResumeRecords) : QueueBooks R now s' where
  ok a := by
    rw [record_eq hrec]
    refine (h.ok a).congr (fun t => by rw [hq]) (hflow a) fun hqa => ?_
    rwa [Queued, hres]
  crud_le x r hx := h.crud_le x r (hrec ▸ hx)
  lock_nonneg x r hx := h.lock_nonneg x r (hrec ▸ hx)
  funded x hxR r hx := h.funded x hxR r (hrec ▸ hx)

/-- An in-memory record that an update of `addr` may start from. -/
structure Settleable (R : Set Addr) (now : ℤ) (s : State) (addr : Addr) (r : StreamRecord) :
    Prop where
  crud_le : r.crudTimestamp ≤ now
  lock_nonneg : 0 ≤ r.lockBalance
  entry : ∀ t, s.SettlesAt t addr → t = r.settleTimestamp ∧ t ≠ 0
  frozen : r.status = .frozen → QueueOk R now s addr r
  funded : addr ∈ R → r.Funded

theorem QueueBooks.settleable (h : QueueBooks R now s)
    (hr : s.streamRecords.find? addr = some r) : Settleable R now s addr r := by
  have hok := h.ok addr
  rw [record_of_find? hr] at hok
  exact ⟨h.crud_le addr r hr, h.lock_nonneg addr r hr, hok.entry, fun _ => hok,
    fun haR => h.funded addr haR r hr⟩

theorem QueueBooks.settleable_get (h : QueueBooks R ctx.blockTime s) (addr : Addr) :
    Settleable R ctx.blockTime s addr (getStreamRecord ctx s addr) := by
  cases hr : s.streamRecords.find? addr with
  | some r =>
    rw [show getStreamRecord ctx s addr = r by rw [getStreamRecord, hr, Option.getD_some]]
    exact h.settleable hr
  | none =>
    have hok := h.ok addr
    rw [record, hr, Option.getD_none] at hok
    rw [getStreamRecord, hr, Option.getD_none]
    exact ⟨le_rfl, le_rfl, hok.entry, fun hst => (by cases hst), fun _ => ⟨le_rfl, le_rfl⟩⟩

/-- The clock is past `ForcedSettleTime` and fits an `int64`. -/
structure ClockOk (ctx : Ctx) (s : State) : Prop where
  forced_lt : (s.params.forcedSettleTime : ℤ) < ctx.blockTime
  lt_max : ctx.blockTime < 2 ^ 63

theorem ClockOk.of_params (h : ClockOk ctx s) (hs : s'.params = s.params) : ClockOk ctx s' :=
  ⟨hs ▸ h.forced_lt, h.lt_max⟩

/-- What an active record has left at time `now`, before the bank helps. -/
def StreamRecord.credit (r : StreamRecord) (now : ℤ) : ℤ :=
  r.staticBalance + r.bufferBalance +
    (if r.status = .active then r.netflowRate else r.netflowRate + r.frozenNetflowRate) *
      (now - r.crudTimestamp)

/-- Accrual, change and pull leave at least the credit and the change of the static balance. -/
theorem pulled_credit (hst : r.status = .active) (hcrud : r.crudTimestamp ≤ ctx.blockTime)
    (hc : c.lockBalanceChange = 0)
    (hpull : pullFromBank ctx s addr (r.apply ctx.blockTime rt c) = (s₁, r₁)) :
    r₁.lockBalance = r.lockBalance ∧ r.credit ctx.blockTime + c.staticBalanceChange ≤
      r₁.staticBalance + r₁.bufferBalance := by
  have hkeep : (r.apply ctx.blockTime rt c).lockBalance = r.lockBalance := by
    simp only [StreamRecord.apply, StreamRecord.addStatic, StreamRecord.changeRate,
      hc, changeLock_zero, accrue_fields]
  have hbal := apply_balances r ctx.blockTime rt c hcrud
  obtain ⟨x, hx, -, heq⟩ := pullFromBank_eq ctx s addr (r.apply ctx.blockTime rt c)
  rw [heq] at hpull
  cases hpull
  refine ⟨hkeep, ?_⟩
  unfold StreamRecord.credit
  rw [if_pos hst]
  dsimp only
  rw [hkeep] at hbal
  linarith

/-- What an update of a receiver may do: the rate is not negative before or after, and a forced
update takes nothing. -/
structure EarningChange (forced : Bool) (r : StreamRecord) (c : StreamRecordChange) : Prop where
  active : r.status = .active
  rate : 0 ≤ r.netflowRate
  rate' : 0 ≤ r.netflowRate + c.rateChange
  static : forced = true → 0 ≤ c.staticBalanceChange

/-- A receiver is not in debt after an update: it has no buffer, and an unforced update refuses
to take more than there is. -/
theorem pulled_funded (hc : EarningChange ctx.forced r c) (hr : r.Funded)
    (hcrud : r.crudTimestamp ≤ ctx.blockTime) (hlock : c.lockBalanceChange = 0)
    (hsol : Solvent ctx c r₁)
    (hpull : pullFromBank ctx s addr (r.apply ctx.blockTime rt c) = (s₁, r₁)) : r₁.Funded := by
  obtain ⟨-, hcred⟩ := pulled_credit hc.active hcrud hlock hpull
  have hbuffer : r₁.bufferBalance = 0 := by
    rw [(pull_fields hpull).1]
    simp [StreamRecord.apply, StreamRecord.addStatic, StreamRecord.changeRate, bufferFor,
      not_lt.2 hc.rate']
  have haccrual : 0 ≤ r.netflowRate * (ctx.blockTime - r.crudTimestamp) :=
    mul_nonneg hc.rate (sub_nonneg.2 hcrud)
  refine ⟨?_, hbuffer.ge⟩
  by_cases hneg : c.staticBalanceChange < 0
  · cases hf : ctx.forced with
    | false => exact hsol hf (Or.inl hneg)
    | true => exact absurd (hc.static hf) (not_le.2 hneg)
  · have hstatic := hr.static
    have hbuf := hr.buffer
    rw [StreamRecord.credit, if_pos hc.active] at hcred
    omega

/-- A settle time more than `ForcedSettleTime` away is not zero. -/
theorem settleTime_ne_zero {now : ℤ} (hnow : 0 ≤ now) (hmax : now < 2 ^ 63) (hforced : 0 ≤ forced)
    (hlt : forced < duration) (hdur : duration < 2 ^ 63) : int64 (now - forced + duration) ≠ 0 := by
  unfold int64
  omega

/-- A settle time of an account that is not in debt has passed, and is not zero. -/
theorem settleTime_passed {now : ℤ} (hnow : forced < now) (hmax : now < 2 ^ 63)
    (hle : duration ≤ forced) (hdur : 0 ≤ duration) :
    int64 (now - forced + duration) ≠ 0 ∧ int64 (now - forced + duration) ≤ now := by
  rw [int64_eq_self (by omega) (by omega)]
  omega

/-- The entries of `addr` after its record has been moved from the old to a new settle time. -/
theorem QueueOk.moved {n : ℤ} (hr : Settleable R now s addr r)
    (hent : ∀ t, s'.autoSettleRecords.find? ⟨t, addr⟩ = s.autoSettleRecords.find? ⟨t, addr⟩)
    (hnew : r'.settleTimestamp = n)
    (hpay : r'.status = .active → r'.netflowRate < 0 → n ≠ 0)
    (hearn : r'.status = .active → 0 ≤ r'.netflowRate → n = 0)
    (hsettle : r'.status = .frozen → n ≠ 0 ∧ n ≤ now) (hR : addr ∈ R → r'.status = .active) :
    QueueOk R now (s'.updateAutoSettleRecord addr r.settleTimestamp n) addr r' where
  entry t ht := by
    rw [SettlesAt, find?_updateAutoSettleRecord] at ht
    split_ifs at ht with h₁ h₂
    · exact ⟨h₁.2.1.trans hnew.symm, h₁.2.1 ▸ h₁.2.2⟩
    · -- the only old entry has been removed
      rw [hent] at ht
      exact absurd ⟨rfl, (hr.entry t ht).1, (hr.entry t ht).1 ▸ (hr.entry t ht).2⟩ h₂
  paying hst hrate := by
    rw [SettlesAt, find?_updateAutoSettleRecord, hnew, if_pos ⟨rfl, rfl, hpay hst hrate⟩]
  earning hst hrate := by rw [hnew, hearn hst hrate]
  settling hst _ _ := by
    obtain ⟨hne, hle⟩ := hsettle hst
    refine ⟨n, hle, ?_⟩
    rw [SettlesAt, find?_updateAutoSettleRecord, if_pos ⟨rfl, rfl, hne⟩]
  receiver := hR

theorem frame_hasActiveFlow (h : s.Frame s') (x : Addr) (hx : s'.HasActiveFlow x) :
    s.HasActiveFlow x := by
  rwa [HasActiveFlow, ← h.outFlows]

theorem frame_queued (h : s.Frame s') (x : Addr) (hx : s.Queued x) : s'.Queued x := by
  rwa [Queued, h.autoResumeRecords]

/-- An update that does not settle by force writes the new settle time into the queue. -/
theorem QueueBooks.pulled (h : QueueBooks R ctx.blockTime s)
    (hr : Settleable R ctx.blockTime s addr r) (hst : r.status = .active)
    (hlock : c.lockBalanceChange = 0) (hRc : addr ∈ R → EarningChange ctx.forced r c)
    (hsol : Solvent ctx c r₁)
    (hpull : pullFromBank ctx s addr (r.apply ctx.blockTime rt c) = (s₁, r₁)) (n : ℤ)
    (hpay : r₁.netflowRate < 0 → n ≠ 0) (hearn : 0 ≤ r₁.netflowRate → n = 0) :
    QueueBooks R ctx.blockTime ((s₁.updateAutoSettleRecord addr r₁.settleTimestamp n).putStreamRecord
      addr { r₁ with settleTimestamp := n }) := by
  obtain ⟨hr₁, hframe, hrec, hqueue⟩ := pull_fields hpull
  obtain ⟨hcrud, hact, -⟩ := pulled_worth hst hr.crud_le hpull
  obtain ⟨hlock', -⟩ := pulled_credit hst hr.crud_le hlock hpull
  have hold : r₁.settleTimestamp = r.settleTimestamp := by rw [hr₁]; simp
  have hframe' := hframe.trans (updateAutoSettleRecord_frame s₁ addr r₁.settleTimestamp n)
  refine h.put (fun x _ => by simp [hrec]) (fun t x hx => ?_)
    (fun x _ => frame_hasActiveFlow hframe' x) (fun x _ => frame_queued hframe' x) ?_ hcrud.le
    (hlock' ▸ hr.lock_nonneg) (fun haR => ?_)
  · rw [find?_updateAutoSettleRecord, if_neg (fun h => hx h.1), if_neg (fun h => hx h.1), hqueue]
  · rw [hold]
    refine QueueOk.moved hr (fun t => by rw [hqueue]) rfl (fun _ => hpay) (fun _ => hearn)
      (fun hfro => ?_) (fun _ => hact)
    rw [show r₁.status = .frozen from hfro] at hact
    cases hact
  · have hfund := pulled_funded (hRc haR) (hr.funded haR) hr.crud_le hlock hsol hpull
    exact ⟨hfund.static, hfund.buffer⟩

/-- **An update moves the record and the queue entry of its account together.**  In the forced
context the account must not be in debt. -/
theorem QueueBooks.updated (h : QueueBooks R ctx.blockTime s) (hclock : ClockOk ctx s)
    (hr : Settleable R ctx.blockTime s addr r) (hearn : addr ∈ R → EarningChange ctx.forced r c)
    (hlock : c.lockBalanceChange = 0)
    (hcredit : ctx.forced = true → addr ∉ R → r.status = .active →
      0 ≤ r.credit ctx.blockTime + c.staticBalanceChange)
    (hby : ∀ s₁ s₂ x, 0 ≤ x → s₁.streamRecords = s.streamRecords → s.Frame s₁ →
      QueueBooks R ctx.blockTime s₁ →
      byAddr s₁ { addr := governanceAddress, staticBalanceChange := x } = .ok s₂ →
      QueueBooks R ctx.blockTime s₂ ∧ s₁.Frame s₂ ∧
        s₂.autoSettleRecords = s₁.autoSettleRecords) (hu : Updated byAddr ctx s addr r c s' r') :
    QueueBooks R ctx.blockTime (s'.putStreamRecord addr r') := by
  have hnow : 0 ≤ ctx.blockTime := by have := hclock.forced_lt; omega
  cases hu with
  | frozen hst _ =>
    have hok := hr.frozen hst
    have hnotR : addr ∉ R := fun haR => by
      rw [hok.receiver haR] at hst
      cases hst
    refine h.put_record (.of_frozen ?_ hnotR ?_ (hok.settling hst)) ?_ ?_
      fun haR => absurd haR hnotR
    · simp [StreamRecord.applyFrozen, hst]
    · simpa [StreamRecord.applyFrozen] using hok.entry
    · simpa [StreamRecord.applyFrozen] using hr.crud_le
    · simp only [StreamRecord.applyFrozen, hlock, changeLock_zero]
      exact hr.lock_nonneg
  | kept hst hpull hsol ht =>
    refine h.pulled hr hst hlock hearn hsol hpull _ (fun hneg => ?_) fun hpos => ?_
    · obtain ⟨-, hdur, hmax, rfl⟩ := ht.resolve_left fun hpos => absurd hpos.1 (not_le.2 hneg)
      exact settleTime_ne_zero hnow hclock.lt_max (by omega) hdur hmax
    · exact (ht.resolve_right fun hneg => absurd hneg.1 (not_lt.2 hpos)).2
  | @settled s₁ s₂ r₁ hst hpull _ hrate hdur _ hf hbyeq =>
    obtain ⟨hr₁, hframe, hrec, hqueue⟩ := pull_fields hpull
    obtain ⟨hcrud, -, -⟩ := pulled_worth hst hr.crud_le hpull
    obtain ⟨hlock', hcred⟩ := pulled_credit hst hr.crud_le hlock hpull
    have hold : r₁.settleTimestamp = r.settleTimestamp := by rw [hr₁]; simp
    have hnotR : addr ∉ R := fun haR => by
      have hrate' : r₁.netflowRate = r.netflowRate + c.rateChange := by rw [hr₁]; simp
      have := (hearn haR).rate'
      omega
    have h₁ : QueueBooks R ctx.blockTime s₁ := h.congr hrec hqueue
      (fun x _ => frame_hasActiveFlow hframe x) hframe.autoResumeRecords
    have hleft := hcredit hf hnotR hst
    obtain ⟨h₂, hframe₂, hqueue₂⟩ := hby s₁ s₂ _ (by omega) hrec hframe h₁ hbyeq
    set n := int64 (ctx.blockTime - s₁.params.forcedSettleTime + r₁.payDuration) with hn
    have hframe' := updateAutoSettleRecord_frame s₂ addr r₁.settleTimestamp n
    have hpos : 0 ≤ r₁.payDuration := Int.tdiv_nonneg (by omega) (abs_nonneg _)
    have hforced : (s₁.params.forcedSettleTime : ℤ) < ctx.blockTime := by
      rw [hframe.params]
      exact hclock.forced_lt
    have hpassed := settleTime_passed hforced hclock.lt_max hdur hpos
    refine h₂.put (fun x _ => by simp) (fun t x hx => ?_)
      (fun x _ => frame_hasActiveFlow hframe' x) (fun x _ => frame_queued hframe' x) ?_ hcrud.le
      (hlock' ▸ hr.lock_nonneg) fun haR => absurd haR hnotR
    · rw [find?_updateAutoSettleRecord, if_neg (fun h => hx h.1), if_neg (fun h => hx h.1)]
    · rw [hold]
      exact QueueOk.moved hr (fun t => by rw [hqueue₂, hqueue]) rfl (fun hact => by cases hact)
        (fun hact => by cases hact) (fun _ => hpassed) (fun haR => absurd haR hnotR)

/-- Crediting the governance account leaves the settle queue as it is. -/
theorem QueueBooks.credit_governance (hg : governanceAddress ∈ R) :
    ∀ (n : ℕ) {s s' : State} {x : ℤ}, 0 ≤ x → QueueBooks R ctx.blockTime s → ClockOk ctx s →
      0 ≤ (s.record governanceAddress).netflowRate →
      updateStreamRecordByAddrDepth n ctx s
        { addr := governanceAddress, staticBalanceChange := x } = .ok s' →
      QueueBooks R ctx.blockTime s' ∧ s.Frame s' ∧ s'.autoSettleRecords = s.autoSettleRecords
  | 0, _, _, _, _, _, _, _, h => by cases h
  | n + 1, s, s', x, hx, h, hclock, hrate, hs => by
    have hframe := updateStreamRecordByAddrDepth_frame _ hs
    obtain ⟨m, s₁, r, hm, -, rfl, hu⟩ := updateStreamRecordByAddrDepth_eq_ok hs
    obtain rfl : n = m := by omega
    have hget := getStreamRecord_eq ctx s governanceAddress
    have hrate' : 0 ≤ (getStreamRecord ctx s governanceAddress).netflowRate := by
      rw [hget]
      exact hrate
    have hact : (getStreamRecord ctx s governanceAddress).status = .active := by
      rw [hget]
      exact (h.ok _).receiver hg
    have hzero : (getStreamRecord ctx s governanceAddress).settleTimestamp = 0 := by
      rw [hget]
      exact (h.ok _).earning ((h.ok _).receiver hg) hrate
    refine ⟨h.updated hclock (h.settleable_get _)
      (fun _ => ⟨hact, hrate', by simpa using hrate', fun _ => hx⟩) rfl (fun _ hnR => absurd hg hnR)
      (fun s₁ s₂ x hx hrec hframe h₁ h₂ => ?_) hu, hframe, ?_⟩
    · refine QueueBooks.credit_governance hg n hx h₁ (hclock.of_params hframe.params) ?_ h₂
      rwa [record_eq hrec]
    · -- the account earns before and after: there is no entry to move
      cases hu with
      | frozen hfro _ => simp [hact] at hfro
      | @kept s₂ r₂ t _ hpull _ ht =>
        obtain ⟨hr₂, -, -, hqueue⟩ := pull_fields hpull
        have hold : r₂.settleTimestamp = 0 := by rw [hr₂]; simpa using hzero
        have hpos : 0 ≤ r₂.netflowRate := by rw [hr₂]; simpa using hrate'
        obtain ⟨-, rfl⟩ := ht.resolve_right fun hneg => absurd hneg.1 (not_lt.2 hpos)
        change (s₂.updateAutoSettleRecord governanceAddress _ 0).autoSettleRecords = _
        rw [hold, ← hqueue]
        rfl
      | @settled s₂ s₃ r₂ _ hpull _ hneg _ _ _ _ =>
        rw [(pull_fields hpull).1] at hneg
        simp at hneg
        omega

/-- What an update needs of the credit to the governance account. -/
theorem QueueBooks.credited (hg : governanceAddress ∈ R) (hclock : ClockOk ctx s)
    (hearnR : ReceiversEarn R s) (n : ℕ) (s₁ s₂ : State) (x : ℤ) (hx : 0 ≤ x)
    (hrec : s₁.streamRecords = s.streamRecords) (hframe : s.Frame s₁)
    (h : QueueBooks R ctx.blockTime s₁)
    (hs : updateStreamRecordByAddrDepth n ctx s₁
      { addr := governanceAddress, staticBalanceChange := x } = .ok s₂) :
    QueueBooks R ctx.blockTime s₂ ∧ s₁.Frame s₂ ∧ s₂.autoSettleRecords = s₁.autoSettleRecords := by
  refine h.credit_governance hg n hx (hclock.of_params hframe.params) ?_ hs
  rw [record_eq hrec]
  exact hearnR _ hg

/-- **`UpdateStreamRecord` keeps the queue coherent.** -/
theorem QueueBooks.updateStreamRecord (hg : governanceAddress ∈ R)
    (h : QueueBooks R ctx.blockTime s) (hclock : ClockOk ctx s) (hearnR : ReceiversEarn R s)
    (hr : Settleable R ctx.blockTime s addr r) (hearn : addr ∈ R → EarningChange ctx.forced r c)
    (hlock : c.lockBalanceChange = 0)
    (hcredit : ctx.forced = true → addr ∉ R → r.status = .active →
      0 ≤ r.credit ctx.blockTime + c.staticBalanceChange)
    (hu : Payment.updateStreamRecord ctx s addr r c = .ok (s', r')) :
    QueueBooks R ctx.blockTime (s'.putStreamRecord addr r') :=
  h.updated hclock hr hearn hlock hcredit (credited hg hclock hearnR ctx.stack)
    (updated_of_updateStreamRecord hu)

/-- **Updating a receiver keeps the queue coherent.** -/
theorem QueueBooks.updateReceiver (hg : governanceAddress ∈ R) (h : QueueBooks R ctx.blockTime s)
    (hclock : ClockOk ctx s) (hearnR : ReceiversEarn R s) (hcR : c.addr ∈ R)
    (hlock : c.lockBalanceChange = 0) (hstatic : c.staticBalanceChange = 0)
    (hself : 0 ≤ (s.record c.addr).netflowRate + c.rateChange)
    (hs : updateStreamRecordByAddr ctx s c = .ok s') : QueueBooks R ctx.blockTime s' := by
  obtain ⟨m, s₁, r, -, -, rfl, hu⟩ := updateStreamRecordByAddrDepth_eq_ok hs
  have hget := getStreamRecord_eq ctx s c.addr
  refine h.updated hclock (h.settleable_get c.addr) (fun _ => ?_) hlock
    (fun _ hnR => absurd hcR hnR) (credited hg hclock hearnR m) hu
  rw [hget]
  exact ⟨(h.ok _).receiver hcR, hearnR _ hcR, hself, fun _ => hstatic.ge⟩

/-- A record that an update settles by force is in the queue, at a time that has passed. -/
theorem Updated.settlesAt (hclock : ClockOk ctx s) (hcrud : r.crudTimestamp ≤ ctx.blockTime)
    (hc : c.lockBalanceChange = 0) (hst : r.status = .active)
    (hcredit : ctx.forced = true → 0 ≤ r.credit ctx.blockTime + c.staticBalanceChange)
    (hu : Updated byAddr ctx s addr r c s' r') (hst' : r'.status = .frozen) :
    ∃ t ≤ ctx.blockTime, s'.SettlesAt t addr := by
  cases hu with
  | frozen hfro _ => simp [hst] at hfro
  | kept _ hpull _ _ =>
    rw [(pull_fields hpull).1] at hst'
    simp [hst] at hst'
  | @settled s₁ s₂ r₁ _ hpull _ _ hdur _ hf _ =>
    obtain ⟨-, hcred⟩ := pulled_credit hst hcrud hc hpull
    have hpos : 0 ≤ r₁.payDuration := Int.tdiv_nonneg (by have := hcredit hf; omega) (abs_nonneg _)
    have hforced : (s₁.params.forcedSettleTime : ℤ) < ctx.blockTime := by
      rw [(pull_fields hpull).2.1.params]
      exact hclock.forced_lt
    obtain ⟨hne, hle⟩ := settleTime_passed hforced hclock.lt_max hdur hpos
    refine ⟨_, hle, ?_⟩
    rw [SettlesAt, find?_updateAutoSettleRecord, if_pos ⟨rfl, rfl, hne⟩]

/-- An update leaves a record that was not in debt out of debt. -/
theorem Updated.credit_nonneg (hcrud : r.crudTimestamp ≤ ctx.blockTime)
    (hc : c.lockBalanceChange = 0) (hst : r.status = .active)
    (hcredit : 0 ≤ r.credit ctx.blockTime + c.staticBalanceChange)
    (hu : Updated byAddr ctx s addr r c s' r') : 0 ≤ r'.credit ctx.blockTime := by
  -- the record is up to date afterwards, so that its credit is what it has
  have hnow : ∀ {s₁ : State} {r₁ : StreamRecord} {rt : ℕ}, pullFromBank ctx s addr
      (r.apply ctx.blockTime rt c) = (s₁, r₁) → ∀ t,
      0 ≤ ({ r₁ with settleTimestamp := t } : StreamRecord).credit ctx.blockTime := by
    intro s₁ r₁ rt hpull t
    obtain ⟨hcrud₁, -, -⟩ := pulled_worth hst hcrud hpull
    obtain ⟨-, hcred⟩ := pulled_credit hst hcrud hc hpull
    simp only [StreamRecord.credit, hcrud₁, sub_self, mul_zero, add_zero]
    omega
  cases hu with
  | frozen hfro _ => simp [hst] at hfro
  | kept _ hpull _ _ => exact hnow hpull _
  | settled _ hpull _ _ _ _ _ _ =>
    obtain ⟨hcrud₁, -, -⟩ := pulled_worth hst hcrud hpull
    simp [StreamRecord.credit, hcrud₁]

end QueueBooks

/-! ### The books of a step -/

/-- The books while a step runs.  In the forced context no payer that is active, or one of `W`,
is in debt. -/
structure StepBooks (R : Set Addr) (ctx : Ctx) (W : Set Addr) (s : State) : Prop where
  books : QueueBooks R ctx.blockTime s
  clock : ClockOk ctx s
  credit : ctx.forced = true → ∀ x ∉ R, ∀ r, s.streamRecords.find? x = some r →
    r.status = .active ∨ x ∈ W → 0 ≤ r.credit ctx.blockTime

section StepBooks

variable {ctx : Ctx} {W : Set Addr} {s s' : State} {addr : Addr} {r r' : StreamRecord} {sign : ℤ}
  {finished : Bool} {max : ℕ}

/-- Writing a record that fits, and that is not in debt, keeps the books of a step. -/
theorem StepBooks.put (h : StepBooks R ctx W s)
    (hrec : ∀ x ≠ addr, s'.streamRecords.find? x = s.streamRecords.find? x)
    (hbooks : QueueBooks R ctx.blockTime (s'.putStreamRecord addr r'))
    (hparams : s'.params = s.params)
    (hcredit : ctx.forced = true → addr ∉ R → r'.status = .active ∨ addr ∈ W →
      0 ≤ r'.credit ctx.blockTime) : StepBooks R ctx W (s'.putStreamRecord addr r') where
  books := hbooks
  clock := h.clock.of_params hparams
  credit hf x hxR r₁ hx := of_find?_putStreamRecord hx (fun hxa => hxa ▸ hcredit hf (hxa ▸ hxR))
    fun hxa hx => h.credit hf x hxR r₁ (hrec x hxa ▸ hx)

/-- The books of a step do not depend on the bank; active flows may leave the store, and come
into it for accounts that are being resumed. -/
theorem StepBooks.congr (h : StepBooks R ctx W s) (hrec : s'.streamRecords = s.streamRecords)
    (hq : s'.autoSettleRecords = s.autoSettleRecords)
    (hflow : ∀ x, ¬s'.Queued x → s'.HasActiveFlow x → s.HasActiveFlow x)
    (hres : s'.autoResumeRecords = s.autoResumeRecords) (hparams : s'.params = s.params) :
    StepBooks R ctx W s' where
  books := h.books.congr hrec hq hflow hres
  clock := h.clock.of_params hparams
  credit := by
    rw [hrec]
    exact h.credit

/-- **Updating the record of an active account keeps the books of a step.** -/
theorem StepBooks.updateStreamRecord (hg : governanceAddress ∈ R) (h : StepBooks R ctx W s)
    (hearnR : ReceiversEarn R s) (hr : Settleable R ctx.blockTime s addr r)
    (hearn : addr ∈ R → EarningChange ctx.forced r c) (hlock : c.lockBalanceChange = 0)
    (hst : r.status = .active)
    (hcredit : ctx.forced = true → addr ∉ R →
      0 ≤ r.credit ctx.blockTime + c.staticBalanceChange)
    (hu : Payment.updateStreamRecord ctx s addr r c = .ok (s', r')) :
    StepBooks R ctx W (s'.putStreamRecord addr r') where
  books := h.books.updateStreamRecord hg h.clock hearnR hr hearn hlock
    (fun hf hnR _ => hcredit hf hnR) hu
  clock := h.clock.of_params (updateStreamRecord_frame hu).params
  credit hf x hxR r₁ hx := by
    refine of_find?_putStreamRecord hx (fun hxa _ => ?_) fun _ hx => ?_
    · exact (updated_of_updateStreamRecord hu).credit_nonneg hr.crud_le hlock hst
        (hcredit hf (hxa ▸ hxR))
    · have hne : x ≠ governanceAddress := fun heq => hxR (heq ▸ hg)
      exact h.credit hf x hxR r₁ (find?_updateStreamRecord hu hne ▸ hx)

/-- Updating a receiver keeps the books of a step. -/
theorem StepBooks.updateReceiver (hg : governanceAddress ∈ R) (h : StepBooks R ctx W s)
    (hearnR : ReceiversEarn R s) (hcR : c.addr ∈ R) (hlock : c.lockBalanceChange = 0)
    (hstatic : c.staticBalanceChange = 0)
    (hself : 0 ≤ (s.record c.addr).netflowRate + c.rateChange)
    (hs : updateStreamRecordByAddr ctx s c = .ok s') : StepBooks R ctx W s' where
  books := h.books.updateReceiver hg h.clock hearnR hcR hlock hstatic hself hs
  clock := h.clock.of_params (updateStreamRecordByAddrDepth_frame _ hs).params
  credit hf x hxR r₁ hx hact := by
    have hne : x ≠ governanceAddress := fun heq => hxR (heq ▸ hg)
    have hnec : x ≠ c.addr := fun heq => hxR (heq ▸ hcR)
    rw [(spared_updateStreamRecordByAddrDepth hne _ hs hnec).record] at hx
    exact h.credit hf x hxR r₁ hx hact

/-! ### The loops over out-flows -/

/-- The books while a loop works on the flows of `addr`: its record, the parameters and the resume
queue stay as they are. -/
structure MoveStep (R : Set Addr) (ctx : Ctx) (W : Set Addr) (s₀ : State) (addr : Addr)
    (r : StreamRecord) (s : State) : Prop where
  step : StepBooks R ctx W s
  stored : s.streamRecords.find? addr = some r
  resume : s.autoResumeRecords = s₀.autoResumeRecords
  params : s.params = s₀.params

theorem moveRound_moveStep (s₀ : State) (hg : governanceAddress ∈ R) :
    MoveRound R ctx sign addr st (MoveStep R ctx W s₀ addr r) := by
  intro s s' f haddr hto hearn hearn' hs h
  have hne : addr ≠ governanceAddress := fun heq => haddr (heq ▸ hg)
  have hfa : addr ≠ f.toAddr := fun heq => haddr (heq ▸ hto)
  have hrate := (updateStreamRecordByAddrDepth_rates _ hs rfl f.toAddr).1
  rw [if_pos rfl] at hrate
  have hframe := updateStreamRecordByAddrDepth_frame _ hs
  have hfind := (spared_updateStreamRecordByAddrDepth hne _ hs hfa).record
  have hstep := h.step.updateReceiver hg hearn hto rfl rfl (hrate ▸ hearn' _ hto) hs
  refine ⟨hstep.congr rfl rfl (fun x _ => ?_) rfl rfl, hfind.trans h.stored,
    hframe.autoResumeRecords.trans h.resume, hframe.params.trans h.params⟩
  rintro ⟨y, v, hy⟩
  exact ⟨y, v, find?_of_erase hy⟩

/-- Storing the moved flows of `addr` brings no active flow to another account. -/
theorem store_hasActiveFlow {x : Addr} (hx : x ≠ addr ∨ st ≠ .active)
    (h : (acc.store addr st).HasActiveFlow x) : acc.state.HasActiveFlow x := by
  obtain ⟨y, v, hy⟩ := h
  have hkey : x ≠ addr ∨ OutFlowStatus.active ≠ st := hx.imp_right Ne.symm
  exact ⟨y, v, (find?_foldl_setOutFlow (k := ⟨x, .active, y⟩) hkey _ _).symm.trans hy⟩

/-- A record with the balances of `r` and the same total rate has the same credit while frozen. -/
theorem credit_move {d : ℤ} (hst : r.status = .frozen) (now : ℤ)
    (hr' : r' = { r with
      netflowRate := r.netflowRate + d
      frozenNetflowRate := r.frozenNetflowRate + -d }) :
    r'.credit now = r.credit now := by
  subst hr'
  simp only [StreamRecord.credit, hst]
  rw [if_neg (by simp), if_neg (by simp)]
  ring

/-- No frozen account is a receiver. -/
theorem QueueBooks.not_receiver {now : ℤ} (h : QueueBooks R now s)
    (hr : s.streamRecords.find? addr = some r) (hst : r.status = .frozen) : addr ∉ R := by
  intro haR
  have hact := (h.ok addr).receiver haR
  rw [record_of_find? hr, hst] at hact
  cases hact

/-- **Freezing flows keeps the queue coherent**: an account leaves the queue when none of its
flows is active any more. -/
theorem StepBooks.settleFlows (hg : governanceAddress ∈ R) (hc : FlowCoherent R s)
    (h : StepBooks R ctx W s) (hr : s.streamRecords.find? record.addr = some r)
    (hst : r.status = .frozen)
    (hs : Payment.settleFlows ctx max s record r count = .ok (s', count')) :
    StepBooks R ctx W s' := by
  rcases settleFlows_eq_ok hs with ⟨-, rfl, -⟩ | ⟨-, acc, finished, r', hm, hr', -, -, -, rfl⟩
  · exact h
  obtain ⟨-, hmove⟩ := hc.frozen_invariant hr hst hm _ (moveRound_moveStep s hg)
    ⟨h, hr, rfl, rfl⟩
  have hok := hmove.step.books.settleable hmove.stored |>.frozen hst
  have haR := h.books.not_receiver hr hst
  have hst' : r'.status = .frozen := by rw [hr']; exact hst
  have hset : r'.settleTimestamp = r.settleTimestamp := by rw [hr']
  set s₁ := if finished then
    (acc.store record.addr .frozen).removeAutoSettleRecord record.timestamp record.addr
    else acc.store record.addr .frozen with hs₁
  have hfields : s₁.streamRecords = acc.state.streamRecords ∧ s₁.params = acc.state.params ∧
      s₁.autoResumeRecords = acc.state.autoResumeRecords ∧
      s₁.outFlows = (acc.store record.addr .frozen).outFlows := by
    cases finished <;> exact ⟨rfl, rfl, rfl, rfl⟩
  obtain ⟨hrec, hparams, hres, hout⟩ := hfields
  have hentry : ∀ t x, s₁.SettlesAt t x → acc.state.SettlesAt t x := by
    intro t x ht
    cases finished with
    | false => exact ht
    | true => exact find?_of_erase ht
  have hflow : ∀ x, s₁.HasActiveFlow x → acc.state.HasActiveFlow x := by
    intro x hx
    rw [HasActiveFlow, hout] at hx
    exact store_hasActiveFlow (Or.inr (by simp)) hx
  refine hmove.step.put (fun x _ => by rw [hrec]) (hmove.step.books.put (fun x _ => by rw [hrec])
    (fun t x hx => ?_) (fun x _ => hflow x) (fun x _ hq => ?_) ?_ ?_ ?_ fun hR => absurd hR haR)
    hparams fun hf _ hact => ?_
  · cases finished with
    | false => rfl
    | true => exact find?_erase_of_ne _ fun hk => hx (congrArg QueueKey.addr hk)
  · rwa [Queued, hres]
  · refine .of_frozen hst' haR (fun t ht => hset ▸ hok.entry t (hentry t _ ht)) fun hnq hact => ?_
    cases finished with
    | true =>
      obtain ⟨x, v, hx⟩ := hact
      rw [hout, hm.none_left .frozen (by simp)] at hx
      cases hx
    | false => exact hok.settling hst hnq (hflow _ hact)
  · rw [hr']
    exact hmove.step.books.crud_le _ r hmove.stored
  · rw [hr']
    exact hmove.step.books.lock_nonneg _ r hmove.stored
  · rw [credit_move hst _ hr']
    refine hmove.step.credit hf _ haR r hmove.stored (Or.inr (hact.resolve_left ?_))
    simp [hst']

/-- An update without a change, of a receiver. -/
theorem FlowCoherent.earningChange {b : Bool} {x : ℤ} (hc : FlowCoherent R s)
    (hr : s.streamRecords.find? addr = some r) (hst : r.status = .active)
    (hx : b = true → 0 ≤ x) (haR : addr ∈ R) :
    EarningChange b r { addr := addr, staticBalanceChange := x } := by
  have hearn := hc.receiversEarn _ haR
  rw [record_of_find? hr] at hearn
  exact ⟨hst, hearn, by simpa using hearn, hx⟩

/-- **A round of `AutoSettle` keeps the queue coherent.** -/
theorem StepBooks.autoSettleRecord {stop : Bool} (hg : governanceAddress ∈ R)
    (hc : FlowCoherent R s) (h : StepBooks R ctx W s)
    (hr : s.streamRecords.find? record.addr = some r)
    (hs : Payment.autoSettleRecord ctx max s record r count = .ok (s', count', stop)) :
    StepBooks R ctx W s' := by
  have hupd : ∀ s₁ r₁, r.status = .active →
      Payment.updateStreamRecord ctx s record.addr r { addr := record.addr } = .ok (s₁, r₁) →
      StepBooks R ctx W (s₁.putStreamRecord record.addr r₁) := by
    intro s₁ r₁ hst hu
    refine h.updateStreamRecord hg hc.receiversEarn (h.books.settleable hr)
      (hc.earningChange hr hst fun _ => le_rfl) rfl hst (fun hf hnR => ?_) hu
    simpa using h.credit hf _ hnR r hr (Or.inl hst)
  rcases autoSettleRecord_eq_ok hs with ⟨hst, -, hset⟩ | ⟨-, rfl, -⟩ |
    ⟨hst, s₁, r₁, hu, -, ⟨rfl, -, -⟩ | ⟨hst₁, -, -, hset⟩⟩
  · exact h.settleFlows hg hc hr hst hset
  · exact h
  · exact hupd s₁ r₁ hst hu
  · exact (hupd s₁ r₁ hst hu).settleFlows hg (hc.updateStreamRecord hr rfl rfl hu)
      (find?_insert_self _ _ _) hst₁ hset

/-! ### `AutoResume` -/

/-- An account may leave the resume queue if it is not left frozen without an entry that is due. -/
theorem StepBooks.removeAutoResumeRecord {t : ℤ} (h : StepBooks R ctx W s)
    (hset : (s.record addr).status = .frozen → ∃ t ≤ ctx.blockTime, s.SettlesAt t addr) :
    StepBooks R ctx W (s.removeAutoResumeRecord t addr) where
  books := by
    refine ⟨fun a => ?_, h.books.crud_le, h.books.lock_nonneg, h.books.funded⟩
    have hok := h.books.ok a
    by_cases ha : a = addr
    · subst ha
      exact ⟨hok.entry, hok.paying, hok.earning, fun hst _ _ => hset hst, hok.receiver⟩
    · exact hok.congr (fun _ => rfl) (fun _ => id) (queued_removeAutoResumeRecord s ha).2
  clock := ⟨h.clock.forced_lt, h.clock.lt_max⟩
  credit := h.credit

/-- **A round of `AutoResume` keeps the queue coherent.**  While flows are missing the account
stays in the resume queue; at the end it is updated, from a record that is not in debt. -/
theorem StepBooks.autoResumeRecord (hg : governanceAddress ∈ R) (hc : FlowCoherent R s)
    (h : StepBooks R ctx W s) (hr : s.streamRecords.find? record.addr = some r)
    (hW : record.addr ∈ W) (hkey : s.autoResumeRecords.find? record = some ())
    (hs : Payment.autoResumeRecord ctx max s record r count = .ok (s', count')) :
    StepBooks R ctx W s' ∧
      ∀ k ≠ record, s'.autoResumeRecords.find? k = s.autoResumeRecords.find? k := by
  obtain ⟨acc, finished, r', hm, hr', -, hend⟩ := autoResumeRecord_eq_ok hs
  obtain ⟨-, hearn, hmove⟩ := hc.resumed_invariant hr hm _ (moveRound_moveStep s hg)
    ⟨h, hr, rfl, rfl⟩
  have hact := hc.resumed_active hr hm hr'
  -- the account is in the resume queue, so its resumed flows may be in the store
  have hqueued : (acc.store record.addr .active).Queued record.addr :=
    ⟨record.timestamp, (congrArg (·.find? record) hmove.resume).trans hkey⟩
  have hstore : StepBooks R ctx W (acc.store record.addr .active) := by
    refine hmove.step.congr rfl rfl (fun x hnq hx => ?_) rfl rfl
    exact store_hasActiveFlow (Or.inl fun hxa => hnq (hxa ▸ hqueued)) hx
  have hstored : (acc.store record.addr .active).streamRecords.find? record.addr = some r :=
    hmove.stored
  have hok := hstore.books.ok record.addr
  rw [record_of_find? hstored] at hok
  have hload := hstore.books.settleable hstored
  have hfields : r'.status = r.status ∧ r'.settleTimestamp = r.settleTimestamp ∧
      r'.crudTimestamp = r.crudTimestamp ∧ r'.lockBalance = r.lockBalance := by
    rw [hr']
    exact ⟨rfl, rfl, rfl, rfl⟩
  obtain ⟨hst', hset', hcrud', hlock'⟩ := hfields
  have hfund' : record.addr ∈ R → r'.Funded := fun haR => by
    rw [hr']
    exact ⟨(hload.funded haR).static, (hload.funded haR).buffer⟩
  have hcredit : ctx.forced = true → record.addr ∉ R → 0 ≤ r.credit ctx.blockTime :=
    fun hf hnR => hmove.step.credit hf _ hnR r hmove.stored (Or.inr hW)
  rcases hend with ⟨-, -, rfl⟩ | ⟨-, hzero, s₁, r₁, hu, -, rfl⟩
  · refine ⟨hstore.put (fun _ _ => rfl) (hstore.books.put_record ?_ (hcrud' ▸ hload.crud_le)
      (hlock' ▸ hload.lock_nonneg) hfund') rfl fun hf hnR _ => ?_,
      fun k _ => congrArg (·.find? k) hmove.resume⟩
    · cases hst : r.status with
      | active => exact hact hst ▸ hok
      | frozen =>
        exact .of_frozen (hst'.trans hst) (h.books.not_receiver hr hst) (hset' ▸ hok.entry)
          fun hnq => absurd hqueued hnq
    · cases hst : r.status with
      | active => exact hact hst ▸ hcredit hf hnR
      | frozen =>
        rw [credit_move (d := -acc.totalRate) hst _ (by rw [hr', neg_neg])]
        exact hcredit hf hnR
  · have hcred' : ({ r' with status := .active } : StreamRecord).credit ctx.blockTime =
        r.credit ctx.blockTime := by
      cases hst : r.status with
      | active => rw [hact hst, ← hst]
      | frozen =>
        rw [hr'] at hzero ⊢
        simp only [StreamRecord.credit, hst, reduceCtorEq, if_true, if_false] at hzero ⊢
        rw [show r.netflowRate + -acc.totalRate = r.netflowRate + r.frozenNetflowRate by omega]
    have hload' : Settleable R ctx.blockTime (acc.store record.addr .active) record.addr
        { r' with status := .active } :=
      ⟨hcrud' ▸ hload.crud_le, hlock' ▸ hload.lock_nonneg, hset' ▸ hload.entry, nofun,
        fun haR => ⟨(hfund' haR).static, (hfund' haR).buffer⟩⟩
    have hupd := hstore.updateStreamRecord hg hearn hload' (fun haR => ?_) rfl rfl
      (fun hf hnR => by rw [hcred', add_zero]; exact hcredit hf hnR) hu
    · refine ⟨hupd.removeAutoResumeRecord fun hfro => ?_, fun k hk => ?_⟩
      · have hnR : record.addr ∉ R := fun haR => by
          rw [(hupd.books.ok record.addr).receiver haR] at hfro
          cases hfro
        rw [record_putStreamRecord, if_pos rfl] at hfro
        change ∃ t ≤ ctx.blockTime, s₁.SettlesAt t record.addr
        refine (updated_of_updateStreamRecord hu).settlesAt hstore.clock hload'.crud_le
          rfl rfl (fun hf => ?_) hfro
        rw [hcred', add_zero]
        exact hcredit hf hnR
      · change (s₁.autoResumeRecords.erase record).find? k = _
        rw [find?_erase_of_ne _ hk, (updateStreamRecord_frame hu).autoResumeRecords]
        exact congrArg (·.find? k) hmove.resume
    · have hst : r.status = .active := by
        rw [← record_of_find? hr]
        exact (h.books.ok _).receiver haR
      have hchange := hc.earningChange (b := ctx.forced) hr hst (fun _ => le_rfl) haR
      rw [hact hst]
      exact ⟨rfl, hchange.rate, hchange.rate', hchange.static⟩

/-- **`EndBlock` keeps the queue coherent**, if no active account and no account of the resume
queue is in debt. -/
theorem StepBooks.endBlock (hg : governanceAddress ∈ R) (hc : FlowCoherent R s)
    (h : StepBooks R (ctx.withForced true) {x | s.Queued x} s)
    (hs : Payment.endBlock ctx s = .ok s') :
    StepBooks R (ctx.withForced true) {x | s.Queued x} s' := by
  obtain ⟨s₁, h₁, h₂⟩ := bind_eq_ok.1 hs
  -- the keys still to come are in the queue until their own round
  have hresume : FlowCoherent R s₁ ∧ StepBooks R (ctx.withForced true) {x | s.Queued x} s₁ := by
    have hend := autoResumeLoop_rule (fun l s' => (FlowCoherent R s' ∧
        StepBooks R (ctx.withForced true) {x | s.Queued x} s') ∧
        (l.Pairwise fun e e' => e.1 < e'.1) ∧ ∀ e ∈ l, s.autoResumeRecords.find? e.1 = some () ∧
          s'.autoResumeRecords.find? e.1 = some ())
      (fun e l s' hI => ⟨hI.1, hI.2.1.of_cons, fun e' he' => hI.2.2 e' (List.mem_cons_of_mem _ he')⟩)
      (fun e l s₂ r count s₃ count' hI hr hround => ?_)
      ⟨⟨hc, h⟩, s.autoResumeRecords.sorted, fun e he => ?_⟩ h₁
    · exact hend.1
    · obtain ⟨⟨hc₂, hb₂⟩, hsorted, hkeys⟩ := hI
      obtain ⟨hstart, hkey⟩ := hkeys e List.mem_cons_self
      obtain ⟨hb₃, hrest⟩ := hb₂.autoResumeRecord hg hc₂ hr ⟨e.1.timestamp, hstart⟩ hkey hround
      refine ⟨⟨hc₂.autoResumeRecord hr hround, hb₃⟩, hsorted.of_cons, fun e' he' => ?_⟩
      have hlt := List.rel_of_pairwise_cons hsorted he'
      obtain ⟨hstart', hkey'⟩ := hkeys e' (List.mem_cons_of_mem _ he')
      exact ⟨hstart', (hrest _ hlt.ne').trans hkey'⟩
    · have hfind : s.autoResumeRecords.find? e.1 = some () := find?_eq_some_iff.2 he
      exact ⟨hfind, hfind⟩
  refine (autoSettleLoop_invariant (fun s' => FlowCoherent R s' ∧
    StepBooks R (ctx.withForced true) {x | s.Queued x} s')
    (fun e _ s₂ r count s₃ count' stop hI hr _ hround => ?_) hresume h₂).2
  exact ⟨hI.1.autoSettleRecord hr hround, hI.2.autoSettleRecord hg hI.1 hr hround⟩

end StepBooks

end Moca.Payment
