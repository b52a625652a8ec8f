/-
# Stream ledger conservation

What the records are worth at a time `t`, together with the pending delayed
withdrawals, is the `ledger`; the `defect` is what the pool has more than that.
Every operation keeps the defect at its block time (`Accounted`): an update that
credits a record takes the coins from another record, from the bank or from what
has flowed.

Time alone changes the ledger by the sum of the rates of the active records.  All
rates add up to zero (`sum_netflowRate`), so the ledger stays as it is as long as
no frozen record has a rate.  A block that ends while the flows of a frozen payer
are only partly frozen lets time pass in such a state, and the receivers of the
remaining flows are credited what nobody pays.
-/

import Moca.Payment.FlowRun
import Mathlib.Tactic.Linarith

namespace Moca.Payment

open SortedMap State StreamRecord

variable {R : Set Addr}

/-! ### The ledger -/

/-- What a record is worth at time `t`. -/
def StreamRecord.worth (r : StreamRecord) (t : ℤ) : ℤ :=
  r.staticBalance + r.bufferBalance + r.lockBalance +
    if r.status = .active then r.netflowRate * (t - r.crudTimestamp) else 0

/-- The sum of all records at time `t` and of the pending delayed withdrawals. -/
def State.ledger (s : State) (t : ℤ) : ℤ :=
  (s.streamRecords.sum fun _ r => r.worth t) + s.delayedWithdrawals.sum fun _ d => d.amount

/-- What the pool has more than the ledger. -/
def State.defect (s : State) (t : ℤ) : ℤ := s.pool - s.ledger t

/-- What the stored record of an address is worth. -/
def State.worthAt (s : State) (addr : Addr) (t : ℤ) : ℤ :=
  (s.streamRecords.find? addr).elim 0 fun r => r.worth t

theorem defect_putStreamRecord (s : State) (addr : Addr) (r : StreamRecord) (t : ℤ) :
    (s.putStreamRecord addr r).defect t = s.defect t + s.worthAt addr t - r.worth t := by
  have hsum := s.streamRecords.sum_insert (fun _ r => worth r t) addr r
  unfold defect ledger worthAt putStreamRecord
  dsimp only at hsum ⊢
  linarith

theorem worthAt_of_find? {s : State} {addr : Addr} {r : StreamRecord}
    (h : s.streamRecords.find? addr = some r) (t : ℤ) : s.worthAt addr t = r.worth t := by
  rw [worthAt, h, Option.elim_some]

/-- A new record is worth nothing. -/
theorem worthAt_getStreamRecord (ctx : Ctx) (s : State) (addr : Addr) (t : ℤ) :
    s.worthAt addr t = (getStreamRecord ctx s addr).worth t := by
  unfold worthAt getStreamRecord
  cases s.streamRecords.find? addr with
  | none => simp [worth, newStreamRecord]
  | some r => rfl

/-! ### What an update does to the ledger -/

/-- **The books at time `now`**: the pool has `d` more than the ledger, no record is ahead of
time and those of `Q`, the accounts being resumed among them, are up to date, the governance
account is active, and a frozen record that is not being resumed has no buffer. -/
structure Accounted (now d : ℤ) (Q : Set Addr) (s : State) : Prop where
  defect : s.defect now = d
  crud_le : ∀ x r, s.streamRecords.find? x = some r → r.crudTimestamp ≤ now
  fresh : ∀ x ∈ Q, ∀ r, s.streamRecords.find? x = some r → r.crudTimestamp = now
  queued : ∀ x, s.Queued x → x ∈ Q
  gov_active : (s.record governanceAddress).status = .active
  frozen_buffer : ∀ x r, s.streamRecords.find? x = some r → r.status = .frozen → ¬s.Queued x →
    r.bufferBalance = 0

/-- A record that may be written at `addr` without breaking the books. -/
structure Writable (now : ℤ) (Q : Set Addr) (s : State) (addr : Addr) (r : StreamRecord) :
    Prop where
  crud_le : r.crudTimestamp ≤ now
  fresh : addr ∈ Q → r.crudTimestamp = now
  gov_active : addr = governanceAddress → r.status = .active
  frozen_buffer : r.status = .frozen → ¬s.Queued addr → r.bufferBalance = 0

variable {c : StreamRecordChange} {r' : StreamRecord} {count count' : ℕ} {record : QueueKey}
  {amount : ℤ} {byAddr : State → StreamRecordChange → Except Error State}

section Accounted

variable {now d : ℤ} {Q : Set Addr} {s s' : State} {addr : Addr} {r : StreamRecord} {ctx : Ctx}
  {r₁ : StreamRecord} {s₁ : State} {rt : ℕ}

/-- Writing a record lowers the defect by what it is worth more than the old one. -/
theorem Accounted.put {x : ℤ} (h : Accounted now d Q s) (hr : Writable now Q s addr r)
    (hx : r.worth now = s.worthAt addr now + x) :
    Accounted now (d - x) Q (s.putStreamRecord addr r) where
  defect := by
    rw [defect_putStreamRecord, h.defect, hx]
    ring
  crud_le x r' hx := of_find?_putStreamRecord hx (fun _ => hr.crud_le) fun _ => h.crud_le x r'
  fresh x hxQ r' hx :=
    of_find?_putStreamRecord hx (fun hxa => hr.fresh (hxa ▸ hxQ)) fun _ => h.fresh x hxQ r'
  queued := h.queued
  gov_active := by
    rw [record_putStreamRecord]
    split_ifs with hg
    · exact hr.gov_active hg.symm
    · exact h.gov_active
  frozen_buffer x r' hx := of_find?_putStreamRecord hx
    (fun hxa hst hq => hr.frozen_buffer hst (hxa ▸ hq)) fun _ => h.frozen_buffer x r'

theorem Accounted.put_same (h : Accounted now d Q s) (hr : Writable now Q s addr r)
    (hx : r.worth now = s.worthAt addr now) : Accounted now d Q (s.putStreamRecord addr r) := by
  have := h.put (x := 0) hr (by rw [hx, add_zero])
  rwa [sub_zero] at this

/-- A frozen record is not that of the governance account. -/
theorem Accounted.ne_governance (h : Accounted now d Q s)
    (hr : s.streamRecords.find? addr = some r) (hst : r.status = .frozen) :
    addr ≠ governanceAddress := fun hg => by
  have hact := h.gov_active
  rw [← hg, record_of_find? hr, hst] at hact
  cases hact

/-- The books do not depend on the flows, the settle queue or the bank accounts. -/
theorem Accounted.congr (h : Accounted now d Q s) (s' : State)
    (hrec : s'.streamRecords = s.streamRecords)
    (hdel : s'.delayedWithdrawals = s.delayedWithdrawals)
    (hq : s'.autoResumeRecords = s.autoResumeRecords) :
    Accounted now (d + (s'.pool - s.pool)) Q s' where
  defect := by
    have := h.defect
    unfold State.defect ledger at this ⊢
    rw [hrec, hdel]
    linarith
  crud_le x r hx := h.crud_le x r (hrec ▸ hx)
  fresh x hxQ r hx := h.fresh x hxQ r (hrec ▸ hx)
  queued x hx := h.queued x (by rwa [Queued, ← hq])
  gov_active := by
    rw [record_eq hrec]
    exact h.gov_active
  frozen_buffer x r hx hst hnq := by
    refine h.frozen_buffer x r (hrec ▸ hx) hst fun hqx => hnq ?_
    rwa [Queued, hq]

theorem Accounted.congr_pool (h : Accounted now d Q s) (hrec : s'.streamRecords = s.streamRecords)
    (hdel : s'.delayedWithdrawals = s.delayedWithdrawals)
    (hq : s'.autoResumeRecords = s.autoResumeRecords) (hpool : s'.pool = s.pool) :
    Accounted now d Q s' := by
  have := h.congr s' hrec hdel hq
  rwa [hpool, sub_self, add_zero] at this

theorem Accounted.updateAutoSettleRecord (h : Accounted now d Q s) (addr : Addr) (o n : ℤ) :
    Accounted now d Q (s.updateAutoSettleRecord addr o n) :=
  h.congr_pool (updateAutoSettleRecord_streamRecords s addr o n)
    (updateAutoSettleRecord_frame s addr o n).delayedWithdrawals
    (updateAutoSettleRecord_frame s addr o n).autoResumeRecords
    (updateAutoSettleRecord_pool s addr o n)

/-- An in-memory record that an update may start from: it is worth what the stored one is. -/
structure Loaded (now : ℤ) (Q : Set Addr) (s : State) (addr : Addr) (r : StreamRecord) : Prop where
  worth : s.worthAt addr now = r.worth now
  crud_le : r.crudTimestamp ≤ now
  fresh : r.status = .frozen → addr ∈ Q → r.crudTimestamp = now
  frozen_buffer : r.status = .frozen → ¬s.Queued addr → r.bufferBalance = 0

theorem Accounted.loaded (h : Accounted now d Q s) (hr : s.streamRecords.find? addr = some r) :
    Loaded now Q s addr r :=
  ⟨worthAt_of_find? hr now, h.crud_le addr r hr, fun _ hQ => h.fresh addr hQ r hr,
    fun hst => h.frozen_buffer addr r hr hst⟩

theorem Accounted.loaded_get (h : Accounted ctx.blockTime d Q s) (addr : Addr) :
    Loaded ctx.blockTime Q s addr (getStreamRecord ctx s addr) := by
  cases hr : s.streamRecords.find? addr with
  | some r =>
    rw [show getStreamRecord ctx s addr = r by rw [getStreamRecord, hr, Option.getD_some]]
    exact h.loaded hr
  | none =>
    refine ⟨worthAt_getStreamRecord ctx s addr _, ?_, ?_, ?_⟩
    all_goals rw [getStreamRecord, hr, Option.getD_none]
    · exact le_rfl
    · intro hst
      cases hst
    · intro hst
      cases hst

/-- After accrual, change and pull an active record is worth what it was, the change of its
static balance and what came in from the bank. -/
theorem pulled_worth (hst : r.status = .active) (hcrud : r.crudTimestamp ≤ ctx.blockTime)
    (hpull : pullFromBank ctx s addr (r.apply ctx.blockTime rt c) = (s₁, r₁)) :
    r₁.crudTimestamp = ctx.blockTime ∧ r₁.status = .active ∧
      r₁.staticBalance + r₁.bufferBalance + r₁.lockBalance =
        r.worth ctx.blockTime + c.staticBalanceChange + (s₁.pool - s.pool) := by
  obtain ⟨x, -, -, hx⟩ := pullFromBank_eq ctx s addr (r.apply ctx.blockTime rt c)
  rw [hx] at hpull
  cases hpull
  have hbal := apply_balances r ctx.blockTime rt c hcrud
  refine ⟨apply_crudTimestamp r ctx.blockTime rt c hcrud, by simpa using hst, ?_⟩
  unfold worth
  rw [if_pos hst]
  dsimp only
  linarith

/-- An update that does not settle by force keeps the books. -/
theorem Accounted.pulled (h : Accounted ctx.blockTime d Q s) (hr : Loaded ctx.blockTime Q s addr r)
    (hst : r.status = .active)
    (hpull : pullFromBank ctx s addr (r.apply ctx.blockTime rt c) = (s₁, r₁)) (o n t : ℤ) :
    Accounted ctx.blockTime (d - c.staticBalanceChange) Q
      ((s₁.updateAutoSettleRecord addr o n).putStreamRecord addr
        { r₁ with settleTimestamp := t }) := by
  obtain ⟨hcrud, hact, hworth⟩ := pulled_worth hst hr.crud_le hpull
  obtain ⟨-, hframe, hrec, -⟩ := pull_fields hpull
  have hbooks := (h.congr s₁ hrec hframe.delayedWithdrawals
    hframe.autoResumeRecords).updateAutoSettleRecord addr o n
  have hold : (s₁.updateAutoSettleRecord addr o n).worthAt addr ctx.blockTime =
      r.worth ctx.blockTime := by
    rw [← hr.worth]
    unfold worthAt
    simp [hrec]
  have hnew : ({ r₁ with settleTimestamp := t } : StreamRecord).worth ctx.blockTime =
      r.worth ctx.blockTime + (c.staticBalanceChange + (s₁.pool - s.pool)) := by
    rw [← add_assoc, ← hworth]
    unfold worth
    simp [hcrud]
  have hput := hbooks.put (r := { r₁ with settleTimestamp := t })
    ⟨hcrud.le, fun _ => hcrud, fun _ => hact, fun hfro => by simp [hact] at hfro⟩
    (by rw [hold, hnew])
  convert hput using 1
  ring

/-- **An update keeps the books**: the defect falls by the change of the static balance.  The
governance account must not come to be settled by force itself. -/
theorem Accounted.updated (h : Accounted ctx.blockTime d Q s) (hr : Loaded ctx.blockTime Q s addr r)
    (hgov : addr = governanceAddress → 0 ≤ r.netflowRate + c.rateChange ∧ r.status = .active)
    (hstat : r.status = .active ∨ c.staticBalanceChange = 0)
    (hby : ∀ s₁ s₂ x d, s₁.streamRecords = s.streamRecords → Accounted ctx.blockTime d Q s₁ →
      byAddr s₁ { addr := governanceAddress, staticBalanceChange := x } = .ok s₂ →
      Accounted ctx.blockTime (d - x) Q s₂ ∧
        ∀ y ≠ governanceAddress, s₂.streamRecords.find? y = s₁.streamRecords.find? y)
    (hu : Updated byAddr ctx s addr r c s' r') :
    Accounted ctx.blockTime (d - c.staticBalanceChange) Q (s'.putStreamRecord addr r') := by
  cases hu with
  | kept hst hpull _ _ => exact h.pulled hr hst hpull _ _ _
  | frozen hst _ =>
    have hlock := changeLock_conserves r c.lockBalanceChange
    have hstat := hstat.resolve_left (by rw [hst]; simp)
    have hwrite : Writable ctx.blockTime Q s addr (r.applyFrozen c) := by
      refine ⟨?_, fun hQ => ?_, fun hg => ?_, fun _ hq => ?_⟩
      · simpa [applyFrozen] using hr.crud_le
      · simpa [applyFrozen] using hr.fresh hst hQ
      · simp [(hgov hg).2] at hst
      · simpa [applyFrozen] using hr.frozen_buffer hst hq
    have hworth : (r.applyFrozen c).worth ctx.blockTime = r.worth ctx.blockTime := by
      simp only [worth, applyFrozen, changeLock_fields, hst,
        reduceCtorEq, if_false]
      omega
    rw [hstat, sub_zero]
    exact h.put_same hwrite (hworth.trans hr.worth.symm)
  | @settled s₁ s₂ r₁ hst hpull _ hrate _ _ _ hbyeq =>
    obtain ⟨hcrud, hact, hworth⟩ := pulled_worth hst hr.crud_le hpull
    obtain ⟨hr₁, hframe, hrec, -⟩ := pull_fields hpull
    have hne : addr ≠ governanceAddress := fun hg => by
      have hrate' : r₁.netflowRate = r.netflowRate + c.rateChange := by rw [hr₁]; simp
      have := (hgov hg).1
      omega
    obtain ⟨hbooks, hsame⟩ := hby s₁ s₂ _ _ hrec
      (h.congr s₁ hrec hframe.delayedWithdrawals hframe.autoResumeRecords) hbyeq
    set t := int64 (ctx.blockTime - s₁.params.forcedSettleTime + r₁.payDuration)
    have hold : (s₂.updateAutoSettleRecord addr r₁.settleTimestamp t).worthAt addr ctx.blockTime =
        r.worth ctx.blockTime := by
      rw [← hr.worth]
      unfold worthAt
      rw [updateAutoSettleRecord_streamRecords, hsame addr hne, hrec]
    -- What the record loses beyond the pull and the change is what the governance account got.
    have hput := (hbooks.updateAutoSettleRecord addr r₁.settleTimestamp t).put
      (x := r₁.lockBalance - r.worth ctx.blockTime)
      (r := { r₁ with
        staticBalance := 0, bufferBalance := 0, status := .frozen, settleTimestamp := t })
      ⟨hcrud.le, fun _ => hcrud, fun hg => absurd hg hne, fun _ _ => rfl⟩
      (by rw [hold]; simp [worth])
    convert hput using 1
    linarith

/-- Crediting the governance account keeps the books. -/
theorem Accounted.credit_governance :
    ∀ (n : ℕ) {d : ℤ} {s s' : State} {x : ℤ}, Accounted ctx.blockTime d Q s →
      0 ≤ (s.record governanceAddress).netflowRate →
      updateStreamRecordByAddrDepth n ctx s
        { addr := governanceAddress, staticBalanceChange := x } = .ok s' →
      Accounted ctx.blockTime (d - x) Q s'
  | 0, _, _, _, _, _, _, h => by cases h
  | n + 1, d, s, s', x, h, hrate, hs => by
    obtain ⟨m, s₁, r, hm, -, rfl, hu⟩ := updateStreamRecordByAddrDepth_eq_ok hs
    obtain rfl : n = m := by omega
    have hget := getStreamRecord_eq ctx s governanceAddress
    refine h.updated (h.loaded_get _) (fun _ => ?_) (Or.inl ?_) (fun s₁ s₂ x d hrec h₁ h₂ => ?_) hu
    · rw [hget]
      exact ⟨by simpa using hrate, h.gov_active⟩
    · rw [hget]
      exact h.gov_active
    · refine ⟨Accounted.credit_governance n h₁ ?_ h₂,
        fun y hy => (spared_updateStreamRecordByAddrDepth hy n h₂ hy).record⟩
      rwa [record_eq hrec]

/-- What an update needs of the credit to the governance account. -/
theorem Accounted.credited (n : ℕ) (hgov : 0 ≤ (s.record governanceAddress).netflowRate)
    (s₁ s₂ : State) (x d : ℤ) (hrec : s₁.streamRecords = s.streamRecords)
    (h : Accounted ctx.blockTime d Q s₁)
    (hs : updateStreamRecordByAddrDepth n ctx s₁
      { addr := governanceAddress, staticBalanceChange := x } = .ok s₂) :
    Accounted ctx.blockTime (d - x) Q s₂ ∧
      ∀ y ≠ governanceAddress, s₂.streamRecords.find? y = s₁.streamRecords.find? y :=
  ⟨h.credit_governance n (by rwa [record_eq hrec]) hs,
    fun _ hy => (spared_updateStreamRecordByAddrDepth hy n hs hy).record⟩

/-- **`UpdateStreamRecord` keeps the books.** -/
theorem Accounted.updateStreamRecord (h : Accounted ctx.blockTime d Q s)
    (hr : Loaded ctx.blockTime Q s addr r) (hgov : 0 ≤ (s.record governanceAddress).netflowRate)
    (hself : addr = governanceAddress → 0 ≤ r.netflowRate + c.rateChange ∧ r.status = .active)
    (hstat : r.status = .active ∨ c.staticBalanceChange = 0)
    (hu : Payment.updateStreamRecord ctx s addr r c = .ok (s', r')) :
    Accounted ctx.blockTime (d - c.staticBalanceChange) Q (s'.putStreamRecord addr r') :=
  h.updated hr hself hstat (credited ctx.stack hgov) (updated_of_updateStreamRecord hu)

/-- **`UpdateStreamRecordByAddr` keeps the books.** -/
theorem Accounted.updateStreamRecordByAddr (h : Accounted ctx.blockTime d Q s)
    (hgov : 0 ≤ (s.record governanceAddress).netflowRate)
    (hself : c.addr = governanceAddress →
      0 ≤ (s.record governanceAddress).netflowRate + c.rateChange)
    (hstat : c.staticBalanceChange = 0) (hs : Payment.updateStreamRecordByAddr ctx s c = .ok s') :
    Accounted ctx.blockTime d Q s' := by
  obtain ⟨m, s₁, r, -, -, rfl, hu⟩ := updateStreamRecordByAddrDepth_eq_ok hs
  have hget := getStreamRecord_eq ctx s c.addr
  have hupd := h.updated (h.loaded_get c.addr) (fun hg => ?_) (Or.inr hstat) (credited m hgov) hu
  · rwa [hstat, sub_zero] at hupd
  · rw [hget, hg]
    exact ⟨hself hg, h.gov_active⟩

end Accounted

/-! ### The queues -/

section Rounds

variable {ctx : Ctx} {d : ℤ} {Q : Set Addr} {s s' : State} {addr : Addr} {r : StreamRecord}
  {st : OutFlowStatus} {x now sign : ℤ} {max : ℕ}

/-- The books while a loop works on the flows of `addr`, whose record stays as it is. -/
structure MoveBooks (ctx : Ctx) (d : ℤ) (Q : Set Addr) (addr : Addr) (r : StreamRecord) (s : State) :
    Prop where
  books : Accounted ctx.blockTime d Q s
  stored : s.streamRecords.find? addr = some r

theorem moveRound_moveBooks (hg : governanceAddress ∈ R) :
    MoveRound R ctx sign addr st (MoveBooks ctx d Q addr r) := by
  intro s s' f haddr hto hearn hearn' hs h
  have hne : addr ≠ governanceAddress := fun heq => haddr (heq ▸ hg)
  have hrate := (updateStreamRecordByAddrDepth_rates _ hs rfl governanceAddress).1
  constructor
  · have hbooks := h.books.updateStreamRecordByAddr (hearn _ hg) (fun hf => ?_) rfl hs
    · exact hbooks.congr_pool rfl rfl rfl rfl
    · rw [if_pos hf.symm] at hrate
      exact hrate ▸ hearn' _ hg
  · have hfa : addr ≠ f.toAddr := fun heq => haddr (heq ▸ hto)
    have hfind := (spared_updateStreamRecordByAddrDepth hne _ hs hfa).record
    exact hfind.trans h.stored

/-- Writing a record that differs from the stored frozen one in its rates only. -/
theorem Accounted.put_frozen (h : Accounted ctx.blockTime d Q s)
    (hr : s.streamRecords.find? addr = some r) (hst : r.status = .frozen) (rate frozenRate : ℤ)
    (hr' : r' = { r with netflowRate := rate, frozenNetflowRate := frozenRate }) :
    Accounted ctx.blockTime d Q (s.putStreamRecord addr r') := by
  have hload := h.loaded hr
  have hwrite : Writable ctx.blockTime Q s addr r' := by
    subst hr'
    exact ⟨hload.crud_le, hload.fresh hst, fun hg => absurd hg (h.ne_governance hr hst),
      fun _ => hload.frozen_buffer hst⟩
  have hworth : r'.worth ctx.blockTime = r.worth ctx.blockTime := by
    subst hr'
    simp [worth, hst]
  exact h.put_same hwrite (hworth.trans hload.worth.symm)

/-- The flow count of a record is worth nothing. -/
theorem Accounted.put_count (h : Accounted ctx.blockTime d Q (s.putStreamRecord addr r)) (n : ℤ) :
    Accounted ctx.blockTime d Q (s.putStreamRecord addr { r with outFlowCount := n }) := by
  have hr : (s.putStreamRecord addr r).streamRecords.find? addr = some r :=
    find?_insert_self _ _ _
  have hload := h.loaded hr
  have hwrite : Writable ctx.blockTime Q (s.putStreamRecord addr r) addr
      { r with outFlowCount := n } := by
    refine ⟨hload.crud_le, fun hQ => h.fresh addr hQ r hr, fun hg => ?_, hload.frozen_buffer⟩
    have hact := h.gov_active
    rwa [← hg, record_of_find? hr] at hact
  refine (h.put_same hwrite hload.worth.symm).congr_pool ?_ rfl rfl rfl
  exact (insert_insert_self _ _ _ _).symm

/-- Updating a stored record without a rate change keeps the books. -/
theorem Accounted.update_stored {x : ℤ} (hg : governanceAddress ∈ R) (hc : FlowCoherent R s)
    (h : Accounted ctx.blockTime d Q s) (hr : s.streamRecords.find? addr = some r)
    (hst : r.status = .active)
    (hu : Payment.updateStreamRecord ctx s addr r { addr := addr, staticBalanceChange := x } =
      .ok (s', r')) : Accounted ctx.blockTime (d - x) Q (s'.putStreamRecord addr r') := by
  refine h.updateStreamRecord (h.loaded hr) (hc.receiversEarn _ hg) (fun hga => ⟨?_, hst⟩)
    (Or.inl hst) hu
  have hnonneg := hc.receiversEarn _ hg
  rw [← hga, record_of_find? hr] at hnonneg
  simpa using hnonneg

/-- **Freezing flows keeps the books.** -/
theorem Accounted.settleFlows (hg : governanceAddress ∈ R) (hc : FlowCoherent R s)
    (h : Accounted ctx.blockTime d Q s) (hr : s.streamRecords.find? record.addr = some r)
    (hst : r.status = .frozen)
    (hs : Payment.settleFlows ctx max s record r count = .ok (s', count')) :
    Accounted ctx.blockTime d Q s' := by
  rcases settleFlows_eq_ok hs with ⟨-, rfl, -⟩ | ⟨-, acc, finished, r', hm, hr', -, -, -, rfl⟩
  · exact h
  · obtain ⟨-, hbooks⟩ := hc.frozen_invariant hr hst hm _ (moveRound_moveBooks hg) ⟨h, hr⟩
    have hput := hbooks.books.put_frozen hbooks.stored hst _ _ hr'
    cases finished <;> exact hput.congr_pool rfl rfl rfl rfl

/-- **A round of `AutoSettle` keeps the books.** -/
theorem Accounted.autoSettleRecord {stop : Bool} (hg : governanceAddress ∈ R)
    (hc : FlowCoherent R s) (h : Accounted ctx.blockTime d Q s)
    (hr : s.streamRecords.find? record.addr = some r)
    (hs : Payment.autoSettleRecord ctx max s record r count = .ok (s', count', stop)) :
    Accounted ctx.blockTime d Q s' := by
  have hupd : ∀ s₁ r₁, r.status = .active →
      Payment.updateStreamRecord ctx s record.addr r { addr := record.addr } = .ok (s₁, r₁) →
      Accounted ctx.blockTime d Q (s₁.putStreamRecord record.addr r₁) := by
    intro s₁ r₁ hst hu
    have := h.update_stored hg hc hr hst hu
    rwa [sub_zero] at this
  rcases autoSettleRecord_eq_ok hs with ⟨hst, -, hset⟩ | ⟨-, rfl, -⟩ |
    ⟨hst, s₁, r₁, hu, -, ⟨rfl, -, -⟩ | ⟨hst₁, -, -, hset⟩⟩
  · exact h.settleFlows hg hc hr hst hset
  · exact h
  · exact hupd s₁ r₁ hst hu
  · exact (hupd s₁ r₁ hst hu).settleFlows hg (hc.updateStreamRecord hr rfl rfl hu)
      (find?_insert_self _ _ _) hst₁ hset

/-- Taking an account out of the resume queue keeps the books, if it is not left frozen with a
buffer. -/
theorem Accounted.removeAutoResumeRecord {t : ℤ} (h : Accounted now d Q s)
    (hr : s.streamRecords.find? addr = some r) (hbuf : r.status = .frozen → r.bufferBalance = 0) :
    Accounted now d Q (s.removeAutoResumeRecord t addr) where
  defect := h.defect
  crud_le := h.crud_le
  fresh := h.fresh
  queued x := fun ⟨t', ht'⟩ => h.queued x ⟨t', find?_of_erase ht'⟩
  gov_active := h.gov_active
  frozen_buffer x r' hx hst hq := by
    by_cases hxa : x = addr
    · subst hxa
      obtain rfl : r' = r := Option.some.inj (hx.symm.trans hr)
      exact hbuf hst
    · exact h.frozen_buffer x r' hx hst fun hqx => hq ((queued_removeAutoResumeRecord s hxa).2 hqx)

/-- An account whose record comes up to date may enter the resume queue, its buffer with it. -/
theorem Accounted.enqueue {t : ℤ} (h : Accounted now d Q s) (hgov : addr ≠ governanceAddress)
    (hcrud : r.crudTimestamp = now) (hx : r.worth now = s.worthAt addr now + x) :
    Accounted now (d - x) (insert addr Q)
      ((s.putStreamRecord addr r).setAutoResumeRecord t addr) where
  defect := by
    change (s.putStreamRecord addr r).defect now = d - x
    rw [defect_putStreamRecord, h.defect, hx]
    ring
  crud_le y r' hy := of_find?_putStreamRecord hy (fun _ => hcrud.le) fun _ => h.crud_le y r'
  fresh y hyQ r' hy := of_find?_putStreamRecord hy (fun _ => hcrud) fun hya =>
    h.fresh y (hyQ.resolve_left hya) r'
  queued y hy := by
    by_cases hya : y = addr
    · exact Or.inl hya
    · exact Or.inr (h.queued y ((queued_setAutoResumeRecord _ hya).1 hy))
  gov_active := by
    change ((s.putStreamRecord addr r).record governanceAddress).status = _
    rw [record_putStreamRecord, if_neg hgov.symm]
    exact h.gov_active
  frozen_buffer y r' hy := of_find?_putStreamRecord hy
    (fun hya _ hq => absurd ⟨t, hya ▸ find?_insert_self _ _ _⟩ hq)
    fun hya hy' hst hq => h.frozen_buffer y r' hy' hst fun hqy =>
      hq ((queued_setAutoResumeRecord (s.putStreamRecord addr r) hya).2 hqy)

/-- An update freezes a record only with an empty buffer. -/
theorem Updated.bufferBalance (h : Updated byAddr ctx s addr r c s' r') (hst : r.status = .active)
    (hst' : r'.status = .frozen) : r'.bufferBalance = 0 := by
  cases h with
  | frozen hfro _ => simp [hst] at hfro
  | kept _ hpull _ _ =>
    rw [(pull_fields hpull).1] at hst'
    simp [hst] at hst'
  | settled _ _ _ _ _ _ _ _ => rfl

section

variable (hg : governanceAddress ∈ R) (hc : FlowCoherent R s)
include hg hc

/-- **A round of `AutoResume` keeps the books**, if the record of the account is up to date. -/
theorem Accounted.autoResumeRecord (h : Accounted ctx.blockTime d Q s)
    (hr : s.streamRecords.find? record.addr = some r) (hQ : record.addr ∈ Q)
    (hs : Payment.autoResumeRecord ctx max s record r count = .ok (s', count')) :
    Accounted ctx.blockTime d Q s' := by
  obtain ⟨acc, finished, r', hm, hr', -, hend⟩ := autoResumeRecord_eq_ok hs
  have hcrud := h.fresh _ hQ r hr
  obtain ⟨-, hearn, hbooks⟩ := hc.resumed_invariant hr hm _ (moveRound_moveBooks hg) ⟨h, hr⟩
  have hact := hc.resumed_active hr hm hr'
  have hstore : Accounted ctx.blockTime d Q (acc.store record.addr .active) :=
    hbooks.books.congr_pool rfl rfl rfl rfl
  rcases hend with ⟨-, -, rfl⟩ | ⟨-, -, s₁, r₁, hu, -, rfl⟩
  · cases hst : r.status with
    | frozen => exact hstore.put_frozen hbooks.stored hst _ _ hr'
    | active =>
      have hload := hstore.loaded hbooks.stored
      rw [hact hst]
      exact hstore.put_same ⟨hload.crud_le, fun _ => hcrud, fun _ => hst,
        fun hfro => by simp [hst] at hfro⟩ hload.worth.symm
  · have hcrud' : r'.crudTimestamp = ctx.blockTime := by rw [hr']; exact hcrud
    have hload : Loaded ctx.blockTime Q (acc.store record.addr .active) record.addr
        { r' with status := .active } := by
      refine ⟨?_, hcrud'.le, fun hfro => by simp at hfro, fun hfro => by simp at hfro⟩
      rw [(hstore.loaded hbooks.stored).worth, hr']
      simp [worth, hcrud]
    have hupd := hstore.updateStreamRecord hload (hearn _ hg) (fun hga => ⟨?_, rfl⟩) (Or.inl rfl) hu
    · rw [sub_zero] at hupd
      exact hupd.removeAutoResumeRecord (find?_insert_self _ _ _)
        ((updated_of_updateStreamRecord hu).bufferBalance rfl)
    · have hst : r.status = .active := by
        rw [← record_of_find? hr, hga]
        exact h.gov_active
      have hrate := hc.receiversEarn _ hg
      rw [← hga, record_of_find? hr] at hrate
      rw [hact hst]
      simpa using hrate

/-- **`EndBlock` keeps the books.** -/
theorem Accounted.endBlock (h : Accounted ctx.blockTime d Q s)
    (hs : Payment.endBlock ctx s = .ok s') : Accounted ctx.blockTime d Q s' := by
  obtain ⟨s₁, h₁, h₂⟩ := bind_eq_ok.1 hs
  set c := ctx.withForced true
  change Accounted c.blockTime d Q s at h
  change Accounted c.blockTime d Q s'
  have hresume : FlowCoherent R s₁ ∧ Accounted c.blockTime d Q s₁ := by
    refine autoResumeLoop_invariant (fun s => FlowCoherent R s ∧ Accounted c.blockTime d Q s)
      (fun e he s r count s' count' hI hr hround => ?_) ⟨hc, h⟩ h₁
    have hQ : e.1.addr ∈ Q := h.queued _ ⟨e.1.timestamp, find?_eq_some_iff.2 he⟩
    exact ⟨hI.1.autoResumeRecord hr hround, hI.2.autoResumeRecord hg hI.1 hr hQ hround⟩
  refine (autoSettleLoop_invariant (fun s => FlowCoherent R s ∧ Accounted c.blockTime d Q s)
    (fun e _ s r count s' count' stop hI hr _ hround => ?_) hresume h₂).2
  exact ⟨hI.1.autoSettleRecord hr hround, hI.2.autoSettleRecord hg hI.1 hr hround⟩

/-- **`TryResumeStreamRecord` keeps the books**: the defect falls by the deposit. -/
theorem Accounted.tryResumeStreamRecord {deposit : ℤ} (h : Accounted ctx.blockTime d Q s)
    (hr : s.streamRecords.find? addr = some r)
    (hs : Payment.tryResumeStreamRecord ctx s addr r deposit = .ok s') :
    ∃ Q', Accounted ctx.blockTime (d - deposit) Q' s' := by
  obtain ⟨hst, hex, hres⟩ := resumed_of_eq_ok hs
  have hq : ¬s.Queued addr := by rw [← existsAutoResumeRecord_zero, hex]; simp
  have hload := h.loaded hr
  have hbuf := hload.frozen_buffer hst hq
  have hgov := h.ne_governance hr hst
  have hworth : r.worth ctx.blockTime = r.staticBalance + r.lockBalance := by
    simp [worth, hst, hbuf]
  cases hres with
  | idle _ _ =>
    refine ⟨Q, h.put ⟨le_rfl, fun _ => rfl, fun heq => absurd heq hgov,
      fun hfro => by simp at hfro⟩ ?_⟩
    rw [hload.worth, hworth]
    simp [worth, addStatic, hbuf]
    ring
  | short _ _ _ =>
    refine ⟨Q, h.put ⟨hload.crud_le, hload.fresh hst, fun heq => absurd heq hgov,
      fun _ _ => hbuf⟩ ?_⟩
    rw [hload.worth, hworth]
    simp [worth, addStatic, hbuf, hst]
    ring
  | @direct acc finished expected duration r' _ _ _ _ _ hm hr' _ =>
    obtain ⟨-, -, hbooks⟩ := hc.resumed_invariant hr hm _ (moveRound_moveBooks hg) ⟨h, hr⟩
    have hstore : Accounted ctx.blockTime d Q (acc.store addr .active) :=
      hbooks.books.congr_pool rfl rfl rfl rfl
    have hwrite : Writable ctx.blockTime Q (acc.store addr .active) addr r' := by
      subst hr'
      exact ⟨le_rfl, fun _ => rfl, fun heq => absurd heq hgov, fun hfro => by simp at hfro⟩
    refine ⟨Q, (hstore.put hwrite ?_).updateAutoSettleRecord _ _ _⟩
    rw [(hstore.loaded hbooks.stored).worth, hworth, hr']
    simp [worth, addStatic, StreamRecord.resumed]
    ring
  | @queued expected duration r' _ _ _ _ _ hr' _ =>
    refine ⟨insert addr Q, h.enqueue hgov (by rw [hr']; rfl) ?_⟩
    rw [hload.worth, hworth, hr']
    simp [worth, addStatic, StreamRecord.resumed, hst]
    ring

/-! ### `ApplyUserFlowsList` -/

/-- **A round of `ApplyUserFlowsList` keeps the books.** -/
theorem Accounted.applyUserFlows {u : UserFlows} (hfit : ChargeFits R s.outFlows u)
    (h : Accounted ctx.blockTime d Q s) (hs : Payment.applyUserFlows ctx s u = .ok s') :
    Accounted ctx.blockTime d Q s' := by
  refine hc.applyUserFlows_invariant hfit (Accounted ctx.blockTime d Q)
    (fun A F s₁ r₁ _ hu n _ => ?_) (fun s c s' _ hcz hearn hself hu hI => ?_) hs
  · have hne : u.fromAddr ≠ governanceAddress := fun heq => hfit.payer (heq ▸ hg)
    have hupd := h.updateStreamRecord (h.loaded_get u.fromAddr) (hc.receiversEarn _ hg)
      (fun heq => absurd heq hne) (Or.inr rfl) hu
    rw [sub_zero] at hupd
    exact (hupd.put_count n).congr_pool rfl rfl rfl rfl
  · refine hI.updateStreamRecordByAddr (hearn _ hg) (fun hga => ?_) (by rw [hcz]) hu
    rw [← hga]
    exact hself

/-- **`ApplyUserFlowsList` keeps the books.** -/
theorem Accounted.applyUserFlowsList {l : List UserFlows} (hfit : FlowsFit R s l)
    (h : Accounted ctx.blockTime d Q s) (hs : Payment.applyUserFlowsList ctx s l = .ok s') :
    Accounted ctx.blockTime d Q s' :=
  (hc.applyUserFlowsList_invariant hfit (Accounted ctx.blockTime d Q)
    (fun _ _ _ hc hfit hs hI => hI.applyUserFlows hg hc hfit hs) h hs).2

end

/-! ### Messages -/

theorem Accounted.bankMove (h : Accounted now d Q s) (hs : s.BankMove s' x) :
    Accounted now (d + x) Q s' := by
  have hdef := h.defect
  have hfunds := hs.unpromised
  rw [hs.eq] at hfunds ⊢
  refine ⟨?_, h.crud_le, h.fresh, h.queued, h.gov_active, h.frozen_buffer⟩
  unfold State.defect ledger at hdef ⊢
  unfold unpromised at hfunds
  dsimp only at hfunds ⊢
  omega

/-- Opening a record for a deposit keeps the books. -/
theorem Accounted.open_record (h : Accounted ctx.blockTime d Q s)
    (hnone : s.streamRecords.find? addr = none) : Accounted ctx.blockTime (d - x) Q
      (s.putStreamRecord addr { newStreamRecord ctx.blockTime with staticBalance := x }) := by
  have hwrite : Writable ctx.blockTime Q s addr
      { newStreamRecord ctx.blockTime with staticBalance := x } :=
    ⟨le_rfl, fun _ => rfl, fun _ => rfl, fun hfro => by cases hfro⟩
  refine h.put hwrite ?_
  rw [worthAt, hnone]
  simp [worth, newStreamRecord]

end Rounds

end Moca.Payment
