/-
# Stream ledger conservation over whole runs

All rates add up to zero, so the ledger does not change while time passes as long
as the active records account for all rates.  `Quiet` states this: no frozen
record has a rate, and no account is being resumed.  If time passes only in quiet
states and the governance account is no payer, the pool is the ledger in every
reachable state.  If moreover no payer is in debt, when it is settled by force and at
the time in question, the pool covers what all receivers together can withdraw.
-/

import Moca.Payment.SettleQueueRun
import Mathlib.Algebra.BigOperators.Group.Finset.Piecewise
import Mathlib.Algebra.BigOperators.Group.Finset.Sigma
import Mathlib.Algebra.BigOperators.Ring.Finset

namespace Moca.Payment

open SortedMap

variable {R : Set Addr} {s : State} {Q : Set Addr} {d t now : ℤ}

/-! ### The sum of all rates -/

theorem flowSum_eq_sum_keys (m : OutFlows) (P : OutFlowKey → Prop) [DecidablePred P] :
    flowSum m P = ∑ k ∈ m.keys, if P k then (m.find? k).getD 0 else 0 := by
  rw [flowSum, sum_eq_sum_keys]
  refine Finset.sum_congr rfl fun k hk => ?_
  obtain ⟨v, hv⟩ := SortedMap.mem_keys.1 hk
  rw [hv, Option.elim_some, Option.getD_some]

/-- The payer and the receiver of a stored active flow have stored records. -/
theorem FlowCoherent.mem_keys (h : FlowCoherent R s) {k : OutFlowKey} (hk : k ∈ s.outFlows.keys)
    (hst : k.status = .active) :
    k.addr ∈ s.streamRecords.keys ∧ k.toAddr ∈ s.streamRecords.keys := by
  obtain ⟨v, hv⟩ := SortedMap.mem_keys.1 hk
  obtain ⟨haddr, hto⟩ := h.domain k v hv
  -- a record that is not stored has no rate, so no active flow
  have hzero : ∀ x, x ∉ s.streamRecords.keys → (s.record x).netflowRate = 0 := by
    intro x hx
    cases hf : s.streamRecords.find? x with
    | some r => exact absurd (SortedMap.mem_keys.2 ⟨r, hf⟩) hx
    | none => rw [State.record, hf, Option.getD_none, newStreamRecord]
  constructor
  · by_contra hx
    have hsum := h.payer_rate _ haddr
    rw [hzero _ hx] at hsum
    have hnone := find?_eq_none_of_flowSum_eq_zero (P := ActiveOf k.addr) h.rate_pos (by omega)
      (k := k) ⟨rfl, hst⟩
    rw [hv] at hnone
    cases hnone
  · by_contra hx
    have hsum := h.receiver_rate _ hto
    rw [hzero _ hx] at hsum
    have hnone := find?_eq_none_of_flowSum_eq_zero (P := ActiveTo k.toAddr) h.rate_pos hsum.symm
      (k := k) ⟨rfl, hst⟩
    rw [hv] at hnone
    cases hnone

open Classical in
/-- **All rates add up to zero**: every active flow is paid by one record and earned by
another. -/
theorem FlowCoherent.sum_netflowRate (h : FlowCoherent R s) :
    (s.streamRecords.sum fun _ r => r.netflowRate) = 0 := by
  -- what one flow contributes to the rate of `x`
  set v : OutFlowKey → ℤ := fun k => if k.status = .active then (s.outFlows.find? k).getD 0 else 0
  have hrate : ∀ x ∈ s.streamRecords.keys, (s.streamRecords.find? x).elim 0 (·.netflowRate) =
      ∑ k ∈ s.outFlows.keys, ((if k.toAddr = x then v k else 0) - if k.addr = x then v k else 0) := by
    intro x hx
    obtain ⟨r, hr⟩ := SortedMap.mem_keys.1 hx
    rw [hr, Option.elim_some, ← record_of_find? hr]
    by_cases hxR : x ∈ R
    · rw [h.receiver_rate x hxR, flowSum_eq_sum_keys]
      refine Finset.sum_congr rfl fun k hk => ?_
      obtain ⟨w, hw⟩ := SortedMap.mem_keys.1 hk
      have hne : k.addr ≠ x := fun heq => (h.domain k w hw).1 (heq ▸ hxR)
      simp only [v, hne, if_false, sub_zero, ActiveTo]
      split_ifs <;> simp_all
    · rw [h.payer_rate x hxR, flowSum_eq_sum_keys, ← Finset.sum_neg_distrib]
      refine Finset.sum_congr rfl fun k hk => ?_
      obtain ⟨w, hw⟩ := SortedMap.mem_keys.1 hk
      have hne : k.toAddr ≠ x := fun heq => hxR (heq ▸ (h.domain k w hw).2)
      simp only [v, hne, if_false, zero_sub, ActiveOf]
      split_ifs <;> simp_all
  rw [sum_eq_sum_keys, Finset.sum_congr rfl hrate, Finset.sum_comm]
  refine Finset.sum_eq_zero fun k hk => ?_
  rw [Finset.sum_sub_distrib, Finset.sum_ite_eq, Finset.sum_ite_eq]
  by_cases hst : k.status = .active
  · obtain ⟨haddr, hto⟩ := h.mem_keys hk hst
    rw [if_pos hto, if_pos haddr, sub_self]
  · simp [v, hst]

/-! ### Time -/

/-- No frozen record has a rate, and no account is being resumed. -/
structure Quiet (s : State) : Prop where
  frozen : ∀ x r, s.streamRecords.find? x = some r → r.status = .frozen → r.netflowRate = 0
  no_resume : ∀ x, ¬s.Queued x

/-- **In a quiet state the ledger does not depend on the time.** -/
theorem FlowCoherent.ledger_eq (h : FlowCoherent R s) (hq : Quiet s) (t t' : ℤ) :
    s.ledger t = s.ledger t' := by
  have hworth : (s.streamRecords.sum fun _ r => r.worth t) =
      s.streamRecords.sum fun _ r => r.worth t' + r.netflowRate * (t - t') := by
    refine sum_congr fun x r hr => ?_
    unfold StreamRecord.worth
    cases hst : r.status with
    | active =>
      simp only [if_true]
      ring
    | frozen =>
      rw [hq.frozen x r hr hst]
      simp
  have hzero : (s.streamRecords.sum fun _ r => r.netflowRate * (t - t')) = 0 := by
    have hsum := h.sum_netflowRate
    unfold SortedMap.sum at hsum ⊢
    rw [List.sum_map_mul_right, hsum, zero_mul]
  rw [State.ledger, hworth, sum_add, hzero, add_zero, State.ledger]

/-- Time may pass in a quiet state. -/
theorem Accounted.advance {t' : ℤ} (h : Accounted t d Q s) (hc : FlowCoherent R s) (hq : Quiet s)
    (ht : t ≤ t') : Accounted t' d ∅ s where
  defect := by
    rw [State.defect, hc.ledger_eq hq t' t]
    exact h.defect
  crud_le x r hx := (h.crud_le x r hx).trans ht
  fresh x hx := absurd hx (Set.notMem_empty x)
  queued x hx := absurd hx (hq.no_resume x)
  gov_active := h.gov_active
  frozen_buffer := h.frozen_buffer

theorem accounted_empty (p : Params) (balance : Addr → ℤ) (t : ℤ) :
    Accounted t 0 ∅ (State.empty p balance) where
  defect := rfl
  crud_le x r hx := by cases hx
  fresh x hx := absurd hx (Set.notMem_empty x)
  queued x hx := by
    obtain ⟨t, ht⟩ := hx
    cases ht
  gov_active := rfl
  frozen_buffer x r hx := by cases hx

/-! ### Runs -/

/-- **Every operation keeps the books.** -/
theorem Accounted.run {ctx : Ctx} {s' : State} {op : Op} (hg : governanceAddress ∈ R)
    (hc : FlowCoherent R s) (hfit : op.FlowsFit R s) (hop : ∀ addr x, op ≠ .tryResume addr x)
    (h : Accounted ctx.blockTime d Q s) (hs : op.run ctx s = .ok s') :
    ∃ Q', Accounted ctx.blockTime d Q' s' := by
  have hforced : ∀ b, Accounted (ctx.withForced b).blockTime d Q s := fun _ => h
  cases op.ran hs with
  | @opened _ _ _ x _ hbank hnone _ =>
    have hput := (h.bankMove hbank).open_record (x := x) hnone
    exact ⟨Q, by rwa [add_sub_cancel_right] at hput⟩
  | updated hbank hr hst hu _ hpay =>
    have hpaid := (((hforced false).bankMove hbank).update_stored hg (hc.bankMove hbank) hr hst
      hu).bankMove hpay
    refine ⟨Q, ?_⟩
    convert hpaid using 1
    · rfl
    · omega
  | claimed hbank => exact ⟨Q, by simpa using h.bankMove hbank⟩
  | resumed hbank hr hres =>
    obtain ⟨Q', hQ'⟩ := ((hforced false).bankMove hbank).tryResumeStreamRecord hg (hc.bankMove hbank)
      hr hres
    exact ⟨Q', by rwa [add_sub_cancel_right] at hQ'⟩
  | tried _ _ => exact absurd rfl (hop _ _)
  | @charged forced _ _ hs =>
    have hbooks := (hforced forced).applyUserFlowsList hg hc hfit hs
    exact ⟨Q, hbooks⟩
  | configured hsame _ =>
    exact ⟨Q, h.congr_pool hsame.streamRecords hsame.delayedWithdrawals hsame.autoResumeRecords
      hsame.pool⟩
  | ended hs => exact ⟨Q, h.endBlock hg hc hs⟩

/-- The steps under which the ledger is conserved: the flow changes fit, accounts are resumed by
deposits only, and time passes in quiet states only. -/
structure LedgerStep (R : Set Addr) (c : Chain) (l : Ctx × Op) : Prop where
  fits : l.2.FlowsFit R c.state
  by_deposit : ∀ addr x, l.2 ≠ .tryResume addr x
  quiet : c.time < l.1.blockTime → Quiet c.state

/-- The states that such steps lead to, from an empty store. -/
def LedgerReachable (R : Set Addr) (p : Params) (balance : Addr → ℤ) (time : ℤ) (c : Chain) :
    Prop :=
  Reachable Chain.exec (LedgerStep R)
    ⟨State.empty p balance, time⟩ c

theorem LedgerReachable.accounted {p : Params} {balance : Addr → ℤ} {time : ℤ} {c : Chain}
    (hg : governanceAddress ∈ R) (h : LedgerReachable R p balance time c) :
    FlowCoherent R c.state ∧ ∃ Q, Accounted c.time 0 Q c.state := by
  refine Reachable.invariant (fun c => FlowCoherent R c.state ∧ ∃ Q, Accounted c.time 0 Q c.state)
    ⟨flowCoherent_empty R p balance, ∅, accounted_empty p balance time⟩
    (fun c l c' hc hl hstep => ?_) h
  obtain ⟨hcoh, Q, hbooks⟩ := hc
  obtain ⟨htime, htime', hrun⟩ := step_eq_some hstep
  -- first the time passes, then the operation is done
  have hnow : ∃ Q', Accounted l.1.blockTime 0 Q' c.state := by
    rcases htime.lt_or_eq with hlt | heq
    · exact ⟨∅, hbooks.advance hcoh (hl.quiet hlt) htime⟩
    · exact ⟨Q, heq ▸ hbooks⟩
  obtain ⟨Q', hbooks'⟩ := hnow
  rw [htime']
  rcases hrun with hrun | hsame
  · exact ⟨hcoh.run hl.fits hrun, hbooks'.run hg hcoh hl.fits hl.by_deposit hrun⟩
  · rw [hsame]
    exact ⟨hcoh, Q', hbooks'⟩

/-- What a receiver can withdraw at time `t` is not negative, and its record is worth it. -/
theorem QueueBooks.withdrawable {x : Addr} {r : StreamRecord} (h : QueueBooks R now s)
    (hc : FlowCoherent R s) (ht : now ≤ t) (hxR : x ∈ R) (hr : s.streamRecords.find? x = some r) :
    0 ≤ r.staticBalance + r.netflowRate * (t - r.crudTimestamp) ∧
      r.staticBalance + r.netflowRate * (t - r.crudTimestamp) ≤ r.worth t := by
  have hrate := hc.receiversEarn x hxR
  have hactive := (h.ok x).receiver hxR
  rw [record_of_find? hr] at hrate hactive
  have haccrual : 0 ≤ r.netflowRate * (t - r.crudTimestamp) :=
    mul_nonneg hrate (sub_nonneg.2 ((h.crud_le x r hr).trans ht))
  have hfunded := h.funded x hxR r hr
  have hstatic := hfunded.static
  have hbuffer := hfunded.buffer
  have hlock := h.lock_nonneg x r hr
  rw [StreamRecord.worth, if_pos hactive]
  constructor <;> omega

/-- **The records cover what the receivers can withdraw**, if no payer is in debt. -/
theorem QueueBooks.withdrawable_le (h : QueueBooks R now s) (hc : FlowCoherent R s) (ht : now ≤ t)
    (hpay : ∀ x ∉ R, ∀ r, s.streamRecords.find? x = some r → 0 ≤ r.worth t) (T : Finset Addr)
    (hT : ∀ x ∈ T, x ∈ R) : (∑ x ∈ T, ((s.record x).staticBalance +
      (s.record x).netflowRate * (t - (s.record x).crudTimestamp))) ≤
        s.streamRecords.sum fun _ r => r.worth t := by
  set w : Addr → ℤ := fun x => (s.streamRecords.find? x).elim 0 (·.worth t)
  have hsome : ∀ {x r}, s.streamRecords.find? x = some r → w x = r.worth t := fun hr => by
    simp only [w, hr, Option.elim_some]
  have hnone : ∀ {x}, s.streamRecords.find? x = none → w x = 0 := fun hr => by
    simp only [w, hr, Option.elim_none]
  have hnonneg : ∀ x, 0 ≤ w x := by
    intro x
    cases hr : s.streamRecords.find? x with
    | none => exact (hnone hr).ge
    | some r =>
      rw [hsome hr]
      by_cases hxR : x ∈ R
      · exact (h.withdrawable hc ht hxR hr).1.trans (h.withdrawable hc ht hxR hr).2
      · exact hpay x hxR r hr
  have hzero : ∀ x ∈ T ∪ s.streamRecords.keys, x ∉ s.streamRecords.keys → w x = 0 := by
    intro x _ hx
    cases hr : s.streamRecords.find? x with
    | none => exact hnone hr
    | some r => exact absurd (SortedMap.mem_keys.2 ⟨r, hr⟩) hx
  calc
    _ ≤ ∑ x ∈ T, w x := by
      refine Finset.sum_le_sum fun x hx => ?_
      cases hr : s.streamRecords.find? x with
      | none => simp [hnone hr, State.record, hr, newStreamRecord]
      | some r =>
        rw [record_of_find? hr, hsome hr]
        exact (h.withdrawable hc ht (hT x hx) hr).2
    _ ≤ ∑ x ∈ T ∪ s.streamRecords.keys, w x :=
      Finset.sum_le_sum_of_subset_of_nonneg Finset.subset_union_left fun x _ _ => hnonneg x
    _ = ∑ x ∈ s.streamRecords.keys, w x :=
      (Finset.sum_subset Finset.subset_union_right hzero).symm
    _ = _ := (sum_eq_sum_keys _ _).symm

/-- **Stream ledger conservation.**  If the governance account is no payer and time passes in
quiet states only, the pool is at every time the sum of what all records are worth and of the
pending delayed withdrawals.  If no payer was in debt when it was settled by force and none is
at that time, the pool covers what the receivers can withdraw together. -/
theorem stream_ledger_conservation (R : Set Addr) (hgov : governanceAddress ∈ R) (p : Params)
    (balance : Addr → ℤ) (time : ℤ) (c : Chain) (h : LedgerReachable R p balance time c) (t : ℤ)
    (ht : c.time ≤ t) (hquiet : c.time < t → Quiet c.state) :
    c.state.pool =
      (c.state.streamRecords.sum fun _ r =>
        r.staticBalance + r.bufferBalance + r.lockBalance +
          if r.status = .active then r.netflowRate * (t - r.crudTimestamp) else 0) +
      (c.state.delayedWithdrawals.sum fun _ d => d.amount) ∧
    (p.validate = true → QueueReachable R p balance time c →
      (∀ x ∉ R, ∀ r, c.state.streamRecords.find? x = some r → 0 ≤ r.worth t) →
      ∀ T : Finset Addr, (∀ x ∈ T, x ∈ R) →
        (∑ x ∈ T, ((c.state.record x).staticBalance +
          (c.state.record x).netflowRate * (t - (c.state.record x).crudTimestamp))) +
        (c.state.delayedWithdrawals.sum fun _ d => d.amount) ≤ c.state.pool) := by
  obtain ⟨hcoh, Q, hbooks⟩ := h.accounted hgov
  have hdef : c.state.defect t = 0 := by
    rcases ht.lt_or_eq with hlt | heq
    · exact (hbooks.advance hcoh (hquiet hlt) ht).defect
    · exact heq ▸ hbooks.defect
  have hpool : c.state.pool = c.state.ledger t := sub_eq_zero.1 hdef
  refine ⟨by rw [hpool]; rfl, fun hp hqueue hpay T hT => ?_⟩
  have hcover := (hqueue.books hgov hp).2.1.withdrawable_le hcoh ht hpay T hT
  rw [hpool]
  exact Int.add_le_add_right hcover _

theorem quiet_of_entries
    (hfrozen : ∀ e ∈ s.streamRecords.entries, e.2.status = .frozen → e.2.netflowRate = 0)
    (hqueue : s.autoResumeRecords.entries = []) : Quiet s where
  frozen x r hr := hfrozen (x, r) (find?_eq_some_iff.1 hr)
  no_resume x := by
    rintro ⟨t, ht⟩
    have hmem := find?_eq_some_iff.1 ht
    rw [hqueue] at hmem
    cases hmem

/-- Account 1 is charged, and time passes before it is settled. -/
theorem stream_ledger_conservation_charged :
    ∃ c, runSteps Chain.exec (smallChain 200)
        [(smallCtx 1000, .applyUserFlowsList false twoFlows)] = some c ∧
      c.state.pool =
        (c.state.streamRecords.sum fun _ r =>
          r.staticBalance + r.bufferBalance + r.lockBalance +
            if r.status = .active then r.netflowRate * (1050 - r.crudTimestamp) else 0) +
        (c.state.delayedWithdrawals.sum fun _ d => d.amount) ∧
      (∑ x ∈ {10, 11}, ((c.state.record x).staticBalance +
          (c.state.record x).netflowRate * (1050 - (c.state.record x).crudTimestamp))) +
        (c.state.delayedWithdrawals.sum fun _ d => d.amount) ≤ c.state.pool := by
  refine Option.exists_some_of (fun c => c.time = 1000 ∧
    (∀ e ∈ c.state.streamRecords.entries, e.2.status = .frozen → e.2.netflowRate = 0) ∧
    c.state.autoResumeRecords.entries.length = 0 ∧
    ∀ e ∈ c.state.streamRecords.entries, 0 ≤ e.2.worth 1050) (by decide)
    fun c hc ⟨htime, hfrozen, hqueue, hworth⟩ => ?_
  have hquiet : Quiet c.state := quiet_of_entries hfrozen (List.length_eq_zero_iff.1 hqueue)
  have hreach : LedgerReachable smallReceivers smallParams (smallChain 200).state.balance 0 c := by
    refine Reachable.of_runSteps .start ?_ hc
    exact ⟨⟨.of_pos rfl (by decide), by simp, fun _ => quiet_of_entries (by simp [State.empty,
      SortedMap.empty]) rfl⟩, fun _ _ => trivial⟩
  have hsteps : QueueReachable smallReceivers smallParams (smallChain 200).state.balance 0 c := by
    refine Reachable.of_runSteps .start ?_ hc
    exact ⟨⟨.of_pos rfl (by decide), ⟨by decide, by decide⟩, fun x _ r hx => (by cases hx),
      fun a => False.elim⟩,
      fun _ _ => trivial⟩
  obtain ⟨heq, hcover⟩ := stream_ledger_conservation smallReceivers (by decide) _ _ _ c hreach 1050
    (by omega) fun _ => hquiet
  exact ⟨heq, hcover (by decide) hsteps
    (fun x _ r hr => hworth (x, r) (find?_eq_some_iff.1 hr)) {10, 11} (by decide)⟩

/-- Account 1 is settled at 1090, but only one of its two flows is frozen in that block; at 1100
the receiver of the other has been credited ten coins that the pool does not have. -/
theorem stream_ledger_not_conserved :
    ∃ c, FlowReachable smallReceivers smallParams (smallChain 200).state.balance 0 c ∧
      c.time = 1100 ∧ c.state.pool = 200 ∧ c.state.ledger 1100 = 210 := by
  refine Option.exists_and_of_some (o := runSteps Chain.exec (smallChain 200)
    [(smallCtx 1000, .applyUserFlowsList false twoFlows), (smallCtx 1090, .endBlock),
      (smallCtx 1100, .endBlock)]) (fun c hc => Reachable.of_runSteps .start ?_ hc) (by decide)
  exact ⟨.of_pos rfl (by decide), fun _ _ => ⟨trivial, fun _ _ => ⟨trivial, fun _ _ => trivial⟩⟩⟩

end Moca.Payment
