/-
# Auto-settle queue coherence over whole runs

`TryResumeStreamRecord` looks at the queue in one of its branches only: resuming
all flows at once moves the entry of the account, while activating an account
without flows, and putting one into the resume queue, leave the old entry where it
is although `SettleTimestamp` changes.  So the queue is coherent in every run in
which an account that is still in the settle queue takes neither of these two
branches; the run at the end of the module takes one, and ends with two entries of
one active account.
-/

import Moca.Payment.SettleQueue

namespace Moca.Payment

open SortedMap

variable {R : Set Addr} {ctx : Ctx} {W : Set Addr} {s s' : State} {addr : Addr} {r r' : StreamRecord}
  {p : Params} {A : List OutFlow} {x now time : ℤ} {op : Op}

/-! ### `TryResumeStreamRecord` -/

/-- A frozen account that is still in the settle queue has flows, and few enough to be resumed at
once. -/
def ResumesAtOnce (s : State) (addr : Addr) : Prop :=
  ∀ r t, s.streamRecords.find? addr = some r → r.status = .frozen → s.SettlesAt t addr →
    r.netflowRate + r.frozenNetflowRate ≠ 0 ∧ r.outFlowCount ≤ s.params.maxAutoResumeFlowCount

theorem putStreamRecord_updateAutoSettleRecord (s : State) (addr : Addr) (r : StreamRecord)
    (o n : ℤ) : (s.putStreamRecord addr r).updateAutoSettleRecord addr o n =
      (s.updateAutoSettleRecord addr o n).putStreamRecord addr r := by
  unfold State.updateAutoSettleRecord
  split_ifs <;> rfl

/-- The rates of a frozen account are not positive. -/
theorem FlowCoherent.rates_nonpos (h : FlowCoherent R s) (ha : addr ∉ R) :
    (s.record addr).netflowRate ≤ 0 ∧ (s.record addr).frozenNetflowRate ≤ 0 := by
  rw [h.payer_rate addr ha, h.payer_frozen addr ha]
  exact ⟨neg_nonpos.2 (flowSum_nonneg h.rate_pos _), neg_nonpos.2 (flowSum_nonneg h.rate_pos _)⟩

theorem forcedSettleTime_lt_reserveTime (h : p.validate = true) :
    p.forcedSettleTime < p.versionedParams.reserveTime := by
  simp only [Params.validate, Bool.and_eq_true, decide_eq_true_eq] at h
  exact h.2

/-- A balance that pays `n` seconds lasts at least `n` seconds. -/
theorem le_tdiv_of_mul_le {rate balance : ℤ} {n : ℕ} (hrate : rate < 0)
    (h : -rate * n ≤ balance) : n ≤ balance.tdiv |rate| := by
  have hpos : 0 < -rate := by omega
  have hbal : 0 ≤ balance := le_trans (mul_nonneg hpos.le (Int.natCast_nonneg n)) h
  rw [abs_of_neg hrate, Int.tdiv_eq_ediv_of_nonneg hbal, Int.le_ediv_iff_mul_le hpos]
  linarith

/-- **`TryResumeStreamRecord` keeps the queue coherent**, if an account that is still in the
settle queue is resumed at once. -/
theorem StepBooks.tryResumeStreamRecord {deposit : ℤ} (hg : governanceAddress ∈ R)
    (hp : s.params.validate = true) (hc : FlowCoherent R s) (h : StepBooks R ctx W s)
    (hr : s.streamRecords.find? addr = some r) (honce : ResumesAtOnce s addr)
    (hs : Payment.tryResumeStreamRecord ctx s addr r deposit = .ok s') :
    QueueBooks R ctx.blockTime s' := by
  obtain ⟨hst, hex, hres⟩ := resumed_of_eq_ok hs
  have hload := h.books.settleable hr
  have hok := hload.frozen hst
  have haR := h.books.not_receiver hr hst
  have hrates := hc.rates_nonpos haR
  rw [record_of_find? hr] at hrates
  cases hres with
  | idle hrate _ =>
    refine h.books.put_record ?_ le_rfl hload.lock_nonneg fun hR => absurd hR haR
    refine ⟨fun t ht => absurd hrate (honce r t hr hst ht).1, fun _ hneg => ?_, fun _ _ => rfl,
      fun hfro => (by cases hfro), fun hR => absurd hR haR⟩
    change r.netflowRate < 0 at hneg
    omega
  | short _ _ _ =>
    refine h.books.put_record ?_ hload.crud_le hload.lock_nonneg fun hR => absurd hR haR
    exact ⟨hok.entry, hok.paying, hok.earning, hok.settling, hok.receiver⟩
  | @direct acc finished expected duration r' hrate hexp hpay hdur _ hm hr' _ =>
    obtain ⟨-, -, hmove⟩ := hc.resumed_invariant hr hm _ (moveRound_moveStep s hg)
      ⟨h, hr, rfl, rfl⟩
    have hload' := hmove.step.books.settleable hmove.stored
    have hneg : r.netflowRate + r.frozenNetflowRate < 0 := by omega
    obtain ⟨-, hmax, rfl⟩ := toInt64_eq_ok.1 hdur
    set duration := (r.staticBalance + deposit).tdiv |r.netflowRate + r.frozenNetflowRate|
    have hlong : (s.params.forcedSettleTime : ℤ) < duration := by
      have h₁ := le_tdiv_of_mul_le hneg (hexp ▸ hpay)
      have h₂ := forcedSettleTime_lt_reserveTime hp
      omega
    have hset : r'.settleTimestamp ≠ 0 := by
      rw [hr']
      change int64 (ctx.blockTime + duration - s.params.forcedSettleTime) ≠ 0
      rw [show ctx.blockTime + duration - (s.params.forcedSettleTime : ℤ) =
        ctx.blockTime - s.params.forcedSettleTime + duration by ring]
      have := h.clock.forced_lt
      exact settleTime_ne_zero (by omega) h.clock.lt_max (by omega) hlong hmax
    have hframe := updateAutoSettleRecord_frame (acc.store addr .active) addr r.settleTimestamp
      r'.settleTimestamp
    rw [putStreamRecord_updateAutoSettleRecord]
    refine hmove.step.books.put (fun x _ => by simp [FlowMove.store]) (fun t x hx => ?_)
      (fun x hx hact => store_hasActiveFlow (Or.inl hx) (frame_hasActiveFlow hframe x hact))
      (fun x _ hq => frame_queued hframe x hq) ?_ ?_ ?_ fun hR => absurd hR haR
    · rw [find?_updateAutoSettleRecord, if_neg (fun hk => hx hk.1), if_neg (fun hk => hx hk.1)]
      rfl
    · refine QueueOk.moved hload' (fun _ => rfl) rfl (fun _ _ => hset) (fun _ hpos => ?_)
        (fun hfro => ?_) fun hR => absurd hR haR
      · rw [hr'] at hpos
        exact absurd hneg (not_lt.2 hpos)
      · rw [hr'] at hfro
        cases hfro
    · rw [hr']
      exact le_rfl
    · rw [hr']
      exact hload.lock_nonneg
  | @queued expected duration r' hrate _ _ _ hmany hr' _ =>
    have hst' : r'.status = .frozen := by rw [hr']; exact hst
    have hnone : ∀ t, ¬s.SettlesAt t addr := fun t ht =>
      absurd (honce r t hr hst ht).2 (not_le.2 hmany)
    have hput : QueueBooks R ctx.blockTime
        ((s.setAutoResumeRecord ctx.blockTime addr).putStreamRecord addr r') := by
      refine h.books.put (fun _ _ => rfl) (fun _ _ _ => rfl) (fun _ _ => id)
        (fun x hx => (queued_setAutoResumeRecord s hx).2)
        (.of_frozen hst' haR (fun t ht => absurd ht (hnone t))
          fun hnq => absurd ⟨ctx.blockTime, find?_insert_self _ _ _⟩ hnq) ?_ ?_
        fun hR => absurd hR haR
      · rw [hr']
        exact le_rfl
      · rw [hr']
        exact hload.lock_nonneg
    exact hput

/-! ### `ApplyUserFlowsList` -/

/-- A charge brings no active flow to another payer, and none to a frozen payer without one. -/
theorem mergeBoth_hasActiveFlow {F : List OutFlow} {x : Addr}
    (hA : x = addr → ∀ f ∈ A, hasActiveFlow s.outFlows addr f = true)
    (h : { s with outFlows := mergeBoth s.outFlows addr A F }.HasActiveFlow x) :
    s.HasActiveFlow x := by
  obtain ⟨y, v, hy⟩ := h
  by_cases hx : x = addr
  · subst hx
    cases A with
    | nil =>
      refine ⟨y, v, ?_⟩
      change (mergeBoth s.outFlows x [] F).find? _ = _ at hy
      rwa [mergeBoth, mergeOutFlows_find? _ _ _ _ (Or.inr (by simp))] at hy
    | cons f A =>
      have hf := hA rfl f List.mem_cons_self
      rw [hasActiveFlow, SortedMap.contains, Option.isSome_iff_exists] at hf
      obtain ⟨w, hw⟩ := hf
      exact ⟨f.toAddr, w, hw⟩
  · exact ⟨y, v, (mergeBoth_find? s.outFlows A F (k := ⟨x, .active, y⟩) hx).symm.trans hy⟩

/-- A payer whose record has been updated and whose flows have been changed fits the queue. -/
theorem StepBooks.applyPayer {u : UserFlows} {F : List OutFlow} {s₁ : State} {r₁ : StreamRecord}
    (hg : governanceAddress ∈ R) (hc : FlowCoherent R s) (hpayer : u.fromAddr ∉ R)
    (h : StepBooks R ctx ∅ s)
    (hA : (s.record u.fromAddr).status = .frozen →
      ∀ f ∈ A, hasActiveFlow s.outFlows u.fromAddr f = true)
    (hu : Payment.updateStreamRecord ctx s u.fromAddr (getStreamRecord ctx s u.fromAddr)
      { addr := u.fromAddr, rateChange := -totalRate A, frozenRateChange := -totalRate F } =
        .ok (s₁, r₁)) (n : ℤ) :
    StepBooks R ctx ∅ ({ s₁ with outFlows := mergeBoth s₁.outFlows u.fromAddr A F }.putStreamRecord
      u.fromAddr { r₁ with outFlowCount := n }) := by
  have hload := h.books.settleable_get u.fromAddr
  have hframe := updateStreamRecord_frame hu
  have hup := updated_of_updateStreamRecord hu
  have hstart : (getStreamRecord ctx s u.fromAddr).status = (s.record u.fromAddr).status := by
    rw [getStreamRecord_eq]
  have hcredit : ctx.forced = true → (getStreamRecord ctx s u.fromAddr).status = .active →
      0 ≤ (getStreamRecord ctx s u.fromAddr).credit ctx.blockTime + 0 := by
    intro hf hst
    rw [add_zero]
    unfold getStreamRecord at hst ⊢
    cases hr : s.streamRecords.find? u.fromAddr with
    | none => simp [StreamRecord.credit, newStreamRecord]
    | some r =>
      rw [hr, Option.getD_some] at hst
      exact h.credit hf _ hpayer r hr (Or.inl hst)
  have hbooks := h.books.updateStreamRecord hg h.clock hc.receiversEarn hload
    (fun haR => absurd haR hpayer) rfl (fun hf _ hst => hcredit hf hst) hu
  have hok := hbooks.ok u.fromAddr
  rw [record_putStreamRecord, if_pos rfl] at hok
  refine ⟨hbooks.put (fun x hx => ?_) (fun _ _ _ => rfl)
    (fun x hx => mergeBoth_hasActiveFlow fun heq => absurd heq hx) (fun _ _ => id) ?_ ?_ ?_
    fun haR => absurd haR hpayer,
    h.clock.of_params hframe.params, fun hf x hxR r₂ hx hact => ?_⟩
  · rw [find?_putStreamRecord, if_neg hx]
  · refine ⟨hok.entry, hok.paying, hok.earning, fun hfro hnq hact => ?_, hok.receiver⟩
    cases hst : (s.record u.fromAddr).status with
    | active =>
      rw [hst] at hstart
      have hdue := hup.settlesAt h.clock hload.crud_le rfl hstart
        (fun hf => hcredit hf hstart) hfro
      exact hdue
    | frozen =>
      refine hok.settling hfro hnq (mergeBoth_hasActiveFlow (fun _ f hf => ?_) hact)
      exact (congrArg (hasActiveFlow · u.fromAddr f) hframe.outFlows).trans (hA hst f hf)
  · exact hbooks.crud_le u.fromAddr r₁ (find?_insert_self _ _ _)
  · exact hbooks.lock_nonneg u.fromAddr r₁ (find?_insert_self _ _ _)
  · rw [find?_putStreamRecord] at hx
    split_ifs at hx with hxa
    · cases hx
      have hst : (getStreamRecord ctx s u.fromAddr).status = .active :=
        hup.rates.2.2.2 (hact.resolve_right (Set.notMem_empty x))
      have hpos := hup.credit_nonneg hload.crud_le rfl hst (hcredit hf hst)
      exact hpos
    · have hne : x ≠ governanceAddress := fun heq => hxR (heq ▸ hg)
      exact h.credit hf x hxR r₂ ((find?_updateStreamRecord hu hne).symm.trans hx) hact

/-- **`ApplyUserFlowsList` keeps the queue coherent**, if in the forced context no active payer is
in debt. -/
theorem StepBooks.applyUserFlowsList {l : List UserFlows} (hg : governanceAddress ∈ R)
    (hc : FlowCoherent R s) (hfit : FlowsFit R s l) (h : StepBooks R ctx ∅ s)
    (hs : Payment.applyUserFlowsList ctx s l = .ok s') : StepBooks R ctx ∅ s' := by
  refine (hc.applyUserFlowsList_invariant hfit (StepBooks R ctx ∅)
    (fun s u s' hc hfit hs hI => ?_) h hs).2
  exact hc.applyUserFlows_invariant hfit (StepBooks R ctx ∅)
    (fun A F s₁ r₁ hA hu n _ => hI.applyPayer hg hc hfit.payer hA hu n)
    (fun s c s' hcR hcz hearn hself hu hI => hI.updateReceiver hg hearn hcR (by rw [hcz])
      (by rw [hcz]) hself hu)
    hs

/-! ### Messages -/

theorem QueueBooks.bankMove (h : QueueBooks R now s) (hs : s.BankMove s' x) :
    QueueBooks R now s' := by
  rw [hs.eq]
  exact h.congr rfl rfl (fun _ _ => id) rfl

/-- The books do not depend on payment accounts and parameters. -/
theorem QueueBooks.same (h : QueueBooks R now s) (hs : s.SameStreams s') : QueueBooks R now s' := by
  refine h.congr hs.streamRecords hs.autoSettleRecords (fun x _ hx => ?_) hs.autoResumeRecords
  rwa [State.HasActiveFlow, ← hs.outFlows]

/-- Without the forced flag the books of a step are the books and the clock. -/
theorem QueueBooks.step (h : QueueBooks R ctx.blockTime s) (hclock : ClockOk ctx s)
    (hforced : ctx.forced = false) : StepBooks R ctx W s :=
  ⟨h, hclock, fun hf => by simp [hforced] at hf⟩

/-- Updating a stored active record without a rate change, in a message, keeps the queue
coherent. -/
theorem QueueBooks.update_stored {x : ℤ} (hg : governanceAddress ∈ R) (hclock : ClockOk ctx s)
    (hforced : ctx.forced = false) (hc : FlowCoherent R s) (h : QueueBooks R ctx.blockTime s)
    (hr : s.streamRecords.find? addr = some r) (hst : r.status = .active)
    (hu : Payment.updateStreamRecord ctx s addr r { addr := addr, staticBalanceChange := x } =
      .ok (s', r')) :
    QueueBooks R ctx.blockTime (s'.putStreamRecord addr r') := by
  exact h.updateStreamRecord hg hclock hc.receiversEarn (h.settleable hr)
    (hc.earningChange hr hst fun hf => by simp [hforced] at hf) rfl
    (fun hf => by simp [hforced] at hf) hu

/-- Opening a record for a deposit keeps the queue coherent. -/
theorem QueueBooks.open_record (h : QueueBooks R ctx.blockTime s) (hx : 0 ≤ x)
    (hnone : s.streamRecords.find? addr = none) : QueueBooks R ctx.blockTime
      (s.putStreamRecord addr { newStreamRecord ctx.blockTime with staticBalance := x }) := by
  have hok := h.ok addr
  rw [State.record, hnone, Option.getD_none] at hok
  exact h.put_record ⟨hok.entry, hok.paying, hok.earning, hok.settling, hok.receiver⟩ le_rfl le_rfl
    fun _ => ⟨hx, le_rfl⟩

/-! ### Runs -/

theorem QueueBooks.mono {t t' : ℤ} (h : QueueBooks R t s) (ht : t ≤ t') : QueueBooks R t' s where
  ok a := by
    refine ⟨(h.ok a).entry, (h.ok a).paying, (h.ok a).earning, fun hst hnq hact => ?_,
      (h.ok a).receiver⟩
    obtain ⟨t₁, hle, hs⟩ := (h.ok a).settling hst hnq hact
    exact ⟨t₁, hle.trans ht, hs⟩
  crud_le x r hx := (h.crud_le x r hx).trans ht
  lock_nonneg := h.lock_nonneg
  funded := h.funded

theorem queueBooks_empty (p : Params) (balance : Addr → ℤ) (t : ℤ) :
    QueueBooks R t (State.empty p balance) where
  ok a := by
    constructor
    · intro t ht
      cases ht
    · intro _ hneg
      exact absurd hneg (lt_irrefl 0)
    · exact fun _ _ => rfl
    · intro hfro
      cases hfro
    · exact fun _ => rfl
  crud_le x r hx := by cases hx
  lock_nonneg x r hx := by cases hx
  funded x _ r hx := by cases hx

/-- The accounts that an operation resumes if they are frozen. -/
def Op.Resumes : Op → Addr → Prop
  | .deposit _ toAddr _, a => a = toAddr
  | .tryResume addr _, a => a = addr
  | _, _ => False

/-- The accounts whose debt an operation settles by force: the active ones, and in `EndBlock`
those that are being resumed. -/
def Op.Settles (s : State) : Op → StreamRecord → Addr → Prop
  | .applyUserFlowsList true _, r, _ => r.status = .active
  | .endBlock, r, a => r.status = .active ∨ s.Queued a
  | _, _, _ => False

/-- The steps under which the settle queue stays coherent: the flow changes fit; the block time is
past `ForcedSettleTime` and fits an `int64`; no payer is in debt when it may be settled by force;
and a frozen account that is still in the settle queue is resumed at once or not at all. -/
structure QueueStep (R : Set Addr) (c : Chain) (l : Ctx × Op) : Prop where
  fits : l.2.FlowsFit R c.state
  clock : ClockOk l.1 c.state
  no_debt : ∀ x ∉ R, ∀ r, c.state.streamRecords.find? x = some r → l.2.Settles c.state r x →
    0 ≤ r.credit l.1.blockTime
  at_once : ∀ a, l.2.Resumes a → ResumesAtOnce c.state a

/-- The states that such steps lead to, from an empty store. -/
def QueueReachable (R : Set Addr) (p : Params) (balance : Addr → ℤ) (time : ℤ) (c : Chain) : Prop :=
  Reachable Chain.exec (QueueStep R) ⟨State.empty p balance, time⟩ c

/-- The parameters stay valid: only `MsgUpdateParams` changes them, and it checks them. -/
theorem Op.run_validate (hp : s.params.validate = true) (hs : op.run ctx s = .ok s') :
    s'.params.validate = true := by
  have hkeep : s'.params = s.params → s'.params.validate = true := fun h => h ▸ hp
  have hmoved {s₁ s₂ : State} {x : ℤ} (hbank : s₁.BankMove s₂ x) : s₂.params = s₁.params := by
    rw [hbank.eq]
  cases op.ran hs with
  | opened hbank _ _ =>
    have hsame := hmoved hbank
    exact hkeep hsame
  | updated hbank _ _ hu _ hpay =>
    have hupdated := (updateStreamRecord_frame hu).params.trans (hmoved hbank)
    exact hkeep ((hmoved hpay).trans hupdated)
  | claimed hbank => exact hkeep (hmoved hbank)
  | resumed hbank _ hres => exact hkeep ((tryResumeStreamRecord_params hres).trans (hmoved hbank))
  | tried _ hres => exact hkeep (tryResumeStreamRecord_params hres)
  | charged hs => exact hkeep (applyUserFlowsList_params hs)
  | configured _ hparams =>
    obtain ⟨hsame, -⟩ | ⟨-, hvalid⟩ := hparams
    · exact hkeep hsame
    · exact hvalid
  | ended hs => exact hkeep (endBlock_params hs)

/-- **Every operation keeps the queue coherent.** -/
theorem QueueBooks.run (hg : governanceAddress ∈ R) (hp : s.params.validate = true)
    (hc : FlowCoherent R s) (h : QueueBooks R ctx.blockTime s)
    (hstep : QueueStep R ⟨s, time⟩ (ctx, op)) (hs : op.run ctx s = .ok s') :
    QueueBooks R ctx.blockTime s' := by
  have hclock : ∀ b, ClockOk (ctx.withForced b) s := fun _ =>
    ⟨hstep.clock.forced_lt, hstep.clock.lt_max⟩
  have hforced : ∀ b, QueueBooks R (ctx.withForced b).blockTime s := fun _ => h
  cases op.ran hs with
  | opened hbank hnone hx => exact (h.bankMove hbank).open_record hx hnone
  | updated hbank hr hst hu _ hpay =>
    have hbooks := ((hforced false).bankMove hbank).update_stored hg
      ((hclock false).of_params (by rw [hbank.eq])) rfl (hc.bankMove hbank) hr hst hu
    exact hbooks.bankMove hpay
  | claimed hbank => exact h.bankMove hbank
  | @resumed _ toAddr _ _ s₁ _ _ hbank hr hres =>
    have hbooks : StepBooks R (ctx.withForced false) ∅ s₁ :=
      ((hforced false).bankMove hbank).step ((hclock false).of_params (by rw [hbank.eq])) rfl
    have honce : ResumesAtOnce s₁ toAddr := by
      rw [hbank.eq]
      exact hstep.at_once _ rfl
    have hvalid : s₁.params.validate = true := by
      rw [hbank.eq]
      exact hp
    exact (hbooks.tryResumeStreamRecord hg hvalid (hc.bankMove hbank) hr honce hres :)
  | tried hr hres =>
    have hbooks : StepBooks R (ctx.withForced false) ∅ s := (hforced false).step (hclock false) rfl
    exact (hbooks.tryResumeStreamRecord hg hp hc hr (hstep.at_once _ rfl) hres :)
  | @charged forced _ _ hs =>
    have hbooks : StepBooks R (ctx.withForced forced) ∅ s := by
      refine ⟨h, hclock forced, fun hf x hxR r hx hact => hstep.no_debt x hxR r hx ?_⟩
      obtain rfl : forced = true := hf
      exact hact.resolve_right (Set.notMem_empty x)
    exact (hbooks.applyUserFlowsList hg hc hstep.fits hs).books
  | configured hsame _ => exact h.same hsame
  | ended hs =>
    have hbooks : StepBooks R (ctx.withForced true) {x | s.Queued x} s :=
      ⟨h, hclock true, fun _ x hxR r hx hact => hstep.no_debt x hxR r hx hact⟩
    exact (hbooks.endBlock hg hc hs).books

theorem QueueReachable.books {balance : Addr → ℤ} {c : Chain} (hg : governanceAddress ∈ R)
    (hp : p.validate = true) (h : QueueReachable R p balance time c) :
    FlowCoherent R c.state ∧ QueueBooks R c.time c.state ∧ c.state.params.validate = true := by
  refine Reachable.invariant (fun c => FlowCoherent R c.state ∧ QueueBooks R c.time c.state ∧
    c.state.params.validate = true)
    ⟨flowCoherent_empty R p balance, queueBooks_empty p balance time, hp⟩
    (fun c l c' hc hl hstep => ?_) h
  obtain ⟨hcoh, hbooks, hvalid⟩ := hc
  obtain ⟨htime, htime', hrun | hsame⟩ := step_eq_some hstep
  · rw [htime']
    exact ⟨hcoh.run hl.fits hrun, (hbooks.mono htime).run hg hvalid hcoh hl hrun,
      Op.run_validate hvalid hrun⟩
  · rw [hsame, htime']
    exact ⟨hcoh, hbooks.mono htime, hvalid⟩

/-- **Auto-settle queue coherence.**  An active account that pays has exactly one entry in the
settle queue, at its `SettleTimestamp`; an active account that does not pay has none; and a frozen
account with an active flow that is not being resumed has one that is due. -/
theorem settle_queue_coherence (R : Set Addr) (hgov : governanceAddress ∈ R) (p : Params)
    (hp : p.validate = true) (balance : Addr → ℤ) (time : ℤ) (c : Chain)
    (h : QueueReachable R p balance time c) (a : Addr) :
    ((c.state.record a).status = .active → (c.state.record a).netflowRate < 0 →
        ∀ t, c.state.autoSettleRecords.find? ⟨t, a⟩ = some () ↔
          t = (c.state.record a).settleTimestamp) ∧
      ((c.state.record a).status = .active → 0 ≤ (c.state.record a).netflowRate →
        ∀ t, c.state.autoSettleRecords.find? ⟨t, a⟩ = none) ∧
      ((c.state.record a).status = .frozen →
        (∃ x v, c.state.outFlows.find? ⟨a, .active, x⟩ = some v) →
        (∀ t, c.state.autoResumeRecords.find? ⟨t, a⟩ = none) →
        ∃ t ≤ c.time, c.state.autoSettleRecords.find? ⟨t, a⟩ = some ()) := by
  obtain ⟨-, hbooks, -⟩ := h.books hgov hp
  have hok := hbooks.ok a
  refine ⟨fun hst hneg t => ⟨fun ht => (hok.entry t ht).1, fun ht => ht ▸ hok.paying hst hneg⟩,
    fun hst hpos t => ?_, fun hst hact hnone => ?_⟩
  · cases ht : c.state.autoSettleRecords.find? ⟨t, a⟩ with
    | none => rfl
    | some u =>
      obtain ⟨heq, hne⟩ := hok.entry t ht
      exact absurd (heq.trans (hok.earning hst hpos)) hne
  · refine hok.settling hst (fun hqa => ?_) hact
    obtain ⟨t, ht⟩ := hqa
    rw [hnone t] at ht
    cases ht

/-! ### A settlement, and a deposit before it is finished -/

/-- Accounts 1 and 2 have coins in the bank. -/
def donorChain : Chain where
  state := State.empty smallParams fun a => if a = 1 then 200 else if a = 2 then 400 else 0
  time := 0

/-- Account 1 is charged, and settled in part. -/
def settlingRun : List (Ctx × Op) :=
  [(smallCtx 1000, .applyUserFlowsList false twoFlows), (smallCtx 1090, .endBlock)]

theorem settlingRun_guarded :
    Guarded Chain.exec (QueueStep smallReceivers) donorChain
      settlingRun := by
  refine ⟨⟨.of_pos rfl (by decide), ⟨by decide, by decide⟩, fun x _ r hx => (by cases hx),
    fun a => False.elim⟩, fun c hc => ⟨?_, fun _ _ => trivial⟩⟩
  -- no payer is in debt at 1090
  have hall : (donorChain.step (smallCtx 1000) (.applyUserFlowsList false twoFlows)).all (fun c =>
      c.state.params.forcedSettleTime = 10 ∧
        ∀ e ∈ c.state.streamRecords.entries, e.1 < 10 → 0 ≤ e.2.credit 1090) = true := by decide
  rw [show donorChain.step (smallCtx 1000) (.applyUserFlowsList false twoFlows) = some c from hc,
    Option.all_some, decide_eq_true_eq] at hall
  refine ⟨trivial, ⟨by simp [hall.1, smallCtx], by decide⟩, fun x hx r hr _ => ?_,
    fun a => False.elim⟩
  exact hall.2 (x, r) (find?_eq_some_iff.1 hr) (not_le.1 hx)

/-- After the settlement has begun, account 1 is frozen with an active flow, and in the queue. -/
theorem settle_queue_coherence_settling :
    ∃ c, runSteps Chain.exec donorChain settlingRun = some c ∧
      (c.state.record 1).status = .frozen ∧
      c.state.outFlows.find? ⟨1, .active, 11⟩ = some 1 ∧
      ∃ t ≤ c.time, c.state.autoSettleRecords.find? ⟨t, 1⟩ = some () := by
  refine Option.exists_some_of (fun c => (c.state.record 1).status = .frozen ∧
    c.state.outFlows.find? ⟨1, .active, 11⟩ = some 1 ∧
    c.state.autoResumeRecords.entries.length = 0) (by decide) fun c hc ⟨hst, hflow, hqueue⟩ => ?_
  have hreach : QueueReachable smallReceivers smallParams donorChain.state.balance 0 c :=
    Reachable.of_runSteps .start settlingRun_guarded hc
  refine ⟨hst, hflow, (settle_queue_coherence smallReceivers (by decide) smallParams
    (by decide) _ _ c hreach 1).2.2 hst ⟨11, 1, hflow⟩ fun t => ?_⟩
  cases ht : c.state.autoResumeRecords.find? ⟨t, 1⟩ with
  | none => rfl
  | some u =>
    have hmem := find?_eq_some_iff.1 ht
    rw [List.length_eq_zero_iff.1 hqueue] at hmem
    cases hmem

/-- A deposit puts account 1 into the resume queue before its settlement is finished.  The old
entry stays, and after the next `EndBlock` the account is active with two entries. -/
theorem settle_queue_two_entries :
    ∃ c, FlowReachable smallReceivers smallParams donorChain.state.balance 0 c ∧
      (c.state.record 1).status = .active ∧ (c.state.record 1).netflowRate < 0 ∧
      (c.state.record 1).settleTimestamp = 1280 ∧
      c.state.autoSettleRecords.find? ⟨1280, 1⟩ = some () ∧
      c.state.autoSettleRecords.find? ⟨1090, 1⟩ = some () := by
  refine Option.exists_and_of_some (o := runSteps Chain.exec donorChain
    (settlingRun ++ [(smallCtx 1090, .deposit 2 1 400), (smallCtx 1090, .endBlock)]))
    (fun c hc => Reachable.of_runSteps .start ?_ hc) (by decide)
  exact ⟨.of_pos rfl (by decide), fun _ _ => ⟨trivial, fun _ _ => ⟨trivial, fun _ _ => ⟨trivial,
    fun _ _ => trivial⟩⟩⟩⟩

end Moca.Payment
