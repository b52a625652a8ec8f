/-
# `EndBlock` of `x/payment` returns

`AutoSettle` and `AutoResume` turn every error into a panic, and `SetStreamRecord`
panics on a record that `CheckStreamRecord` refuses, so a broken invariant halts
the chain.  Besides flow ledger coherence two facts about the stored records are
needed: they pass `CheckStreamRecord`, since nothing else is ever written, and no
receiver is frozen, since only an account with a negative rate is settled by force
(`RecordsOk`).

With them each part of a block returns.  The update of a receiver succeeds, before
and after any of the loops has moved a flow; the update of a payer fails only where
the time that its balance lasts is no `int64`; and at the end of a loop the record
that is written has the rates that the flows of the store demand.
-/

import Moca.Payment.FlowRun

namespace Moca.Payment

open SortedMap

variable {R : Set Addr} {ctx : Ctx} {s s' : State} {addr : Addr} {r r' : StreamRecord}
  {c : StreamRecordChange}

/-! ### The stored records -/

/-- Every stored record passes `CheckStreamRecord`, and no receiver is frozen. -/
structure RecordsOk (R : Set Addr) (s : State) : Prop where
  check : ∀ x r, s.streamRecords.find? x = some r → checkStreamRecord r = true
  receiver : ∀ x ∈ R, (s.record x).status = .active

theorem recordsOk_empty (R : Set Addr) (p : Params) (b : Addr → ℤ) :
    RecordsOk R (State.empty p b) where
  check x r h := by cases h
  receiver x _ := rfl

theorem RecordsOk.of_eq (h : RecordsOk R s) (hrec : s'.streamRecords = s.streamRecords) :
    RecordsOk R s' where
  check x r hx := h.check x r (hrec ▸ hx)
  receiver x hx := by
    rw [record_eq hrec]
    exact h.receiver x hx

theorem RecordsOk.bankMove {x : ℤ} (h : RecordsOk R s) (hs : s.BankMove s' x) : RecordsOk R s' := by
  rw [hs.eq]
  exact h.of_eq rfl

/-- Writing a record that passes the check, and is active if it is that of a receiver. -/
theorem RecordsOk.put (h : RecordsOk R s) (hcheck : checkStreamRecord r = true)
    (hst : addr ∈ R → r.status = .active) : RecordsOk R (s.putStreamRecord addr r) where
  check x r' hx := of_find?_putStreamRecord hx (fun _ => hcheck) fun _ => h.check x r'
  receiver x hx := by
    rw [record_putStreamRecord]
    split_ifs with hxa
    · exact hst (hxa ▸ hx)
    · exact h.receiver x hx

theorem checkStreamRecord_iff : checkStreamRecord r = true ↔
    r.frozenNetflowRate ≤ 0 ∧ 0 ≤ r.lockBalance ∧ 0 ≤ r.bufferBalance ∧
      (r.netflowRate < 0 → r.outFlowCount ≠ 0) := by
  simp only [checkStreamRecord, Bool.and_eq_true, decide_eq_true_eq, Bool.not_eq_true',
    Bool.and_eq_false_iff, decide_eq_false_iff_not, and_assoc, or_iff_not_imp_left, not_not, ne_eq]

theorem checkStreamRecord_new (now x : ℤ) :
    checkStreamRecord { newStreamRecord now with staticBalance := x } = true := rfl

/-- A record as the store gives it passes the check. -/
theorem RecordsOk.check_get (h : RecordsOk R s) (addr : Addr) :
    checkStreamRecord (getStreamRecord ctx s addr) = true := by
  unfold getStreamRecord
  cases hr : s.streamRecords.find? addr with
  | none => rfl
  | some r => exact h.check addr r hr

theorem RecordsOk.active_get (h : RecordsOk R s) (haddr : addr ∈ R) :
    (getStreamRecord ctx s addr).status = .active := by
  rw [getStreamRecord_eq]
  exact h.receiver addr haddr

theorem RecordsOk.active_of_find? (h : RecordsOk R s) (hr : s.streamRecords.find? addr = some r)
    (haddr : addr ∈ R) : r.status = .active := by
  have hst := h.receiver addr haddr
  rwa [record_of_find? hr] at hst

/-! ### Updates keep the stored records in order -/

/-- The updates of the governance account that a forced settlement makes keep the records in
order. -/
def KeepsRecords (R : Set Addr) (byAddr : State → StreamRecordChange → Except Error State) : Prop :=
  ∀ s x s', RecordsOk R s → ReceiversEarn R s →
    byAddr s { addr := governanceAddress, staticBalanceChange := x } = .ok s' → RecordsOk R s'

variable {byAddr : State → StreamRecordChange → Except Error State} {record : QueueKey}
  {count count' : ℕ} {acc : FlowMove} {finished : Bool} {sign : ℤ} {st : OutFlowStatus}
  {max : Option ℕ} {x : ℤ} {st' : OutFlowStatus} {stop : OutFlowKey → Bool}

theorem RecordsOk.of_updated (hby : KeepsRecords R byAddr) (h : RecordsOk R s)
    (hearn : ReceiversEarn R s) (hu : Updated byAddr ctx s addr r c s' r') : RecordsOk R s' := by
  rcases hu.streamRecords with heq | ⟨s₁, s₂, x, h₁, h₂, hgov⟩
  · exact h.of_eq heq
  · have hearn₁ : ReceiversEarn R s₁ := fun y hy => by
      rw [record_eq h₁]
      exact hearn y hy
    exact (hby _ _ _ (h.of_eq h₁) hearn₁ hgov).of_eq h₂

/-- An update, with the updated record written, keeps the records in order. -/
theorem RecordsOk.updated (hby : KeepsRecords R byAddr) (h : RecordsOk R s)
    (hearn : ReceiversEarn R s)
    (hr : addr ∈ R → r.status = .active ∧ 0 ≤ r.netflowRate + c.rateChange)
    (hu : Updated byAddr ctx s addr r c s' r') (hcheck : checkStreamRecord r' = true) :
    RecordsOk R (s'.putStreamRecord addr r') := by
  refine (h.of_updated hby hearn hu).put hcheck fun haddr => ?_
  obtain ⟨hst, hrate⟩ := hr haddr
  cases hu with
  | frozen hfro _ =>
    rw [hst] at hfro
    cases hfro
  | kept _ hpull _ _ =>
    rw [(pull_fields hpull).1]
    simpa using hst
  | settled _ hpull _ hneg _ _ _ _ =>
    -- a receiver has no negative rate
    rw [(pull_fields hpull).1] at hneg
    simp only [apply_netflowRate] at hneg
    omega

theorem RecordsOk.updateStreamRecordByAddrDepth :
    ∀ (n : ℕ) {s s' : State} {c : StreamRecordChange}, RecordsOk R s → ReceiversEarn R s →
      (c.addr ∈ R → 0 ≤ (s.record c.addr).netflowRate + c.rateChange) →
      Payment.updateStreamRecordByAddrDepth n ctx s c = .ok s' → RecordsOk R s'
  | 0, _, _, _, _, _, _, h => by cases h
  | n + 1, s, s', c, hok, hearn, hc, h => by
    obtain ⟨m, s₁, r, hm, hcheck, rfl, hu⟩ := updateStreamRecordByAddrDepth_eq_ok h
    obtain rfl : n = m := by omega
    -- the governance account is a receiver, and it is updated one call deeper
    refine hok.updated (fun s₂ x s₃ hok₂ hearn₂ hgov => ?_) hearn (fun haddr => ?_) hu hcheck
    · refine RecordsOk.updateStreamRecordByAddrDepth n hok₂ hearn₂ (fun hR => ?_) hgov
      rw [add_zero]
      exact hearn₂ _ hR
    · refine ⟨hok.active_get haddr, ?_⟩
      rw [getStreamRecord_eq]
      exact hc haddr

theorem keepsRecords (n : ℕ) :
    KeepsRecords R (Payment.updateStreamRecordByAddrDepth n ctx) := by
  intro s x s' h hearn hgov
  refine h.updateStreamRecordByAddrDepth n hearn (fun hR => ?_) hgov
  rw [add_zero]
  exact hearn _ hR

/-- **An update keeps the records in order**: of the address of a receiver, with a rate that is
not negative afterwards, or of a payer. -/
theorem RecordsOk.updateStreamRecord (h : RecordsOk R s)
    (hearn : ReceiversEarn R s)
    (hr : addr ∈ R → r.status = .active ∧ 0 ≤ r.netflowRate + c.rateChange)
    (hu : Payment.updateStreamRecord ctx s addr r c = .ok (s', r'))
    (hcheck : checkStreamRecord r' = true) : RecordsOk R (s'.putStreamRecord addr r') :=
  h.updated (keepsRecords _) hearn hr (updated_of_eq_ok hu) hcheck

/-- The rounds of a loop over out-flows keep the records in order. -/
theorem RecordsOk.moveRound (sign : ℤ) (st : OutFlowStatus) :
    MoveRound R ctx sign addr st (RecordsOk R) := by
  intro s s' f _ hto hearn hearn' hu h
  have hrate := (updateStreamRecordByAddrDepth_rates _ hu rfl f.toAddr).1
  rw [if_pos rfl] at hrate
  refine (h.updateStreamRecordByAddrDepth _ hearn (fun _ => ?_) hu).of_eq rfl
  have hnonneg := hearn' f.toAddr hto
  rwa [hrate] at hnonneg

section Kept

variable (hc : FlowCoherent R s) (h : RecordsOk R s)
include hc h

/-- The record of a receiver that is loaded from the store. -/
theorem FlowCoherent.loaded (hr : s.streamRecords.find? addr = some r) (haddr : addr ∈ R) :
    r.status = .active ∧ 0 ≤ r.netflowRate := by
  refine ⟨h.active_of_find? hr haddr, ?_⟩
  have hrate := hc.receiversEarn addr haddr
  rwa [record_of_find? hr] at hrate

/-- An update of a stored record without a rate change keeps the records in order. -/
theorem RecordsOk.updateStored (hr : s.streamRecords.find? addr = some r) (hrate : c.rateChange = 0)
    (hu : Payment.updateStreamRecord ctx s addr r c = .ok (s', r'))
    (hcheck : checkStreamRecord r' = true) : RecordsOk R (s'.putStreamRecord addr r') := by
  refine h.updateStreamRecord hc.receiversEarn (fun haddr => ?_) hu hcheck
  rw [hrate, add_zero]
  exact hc.loaded h hr haddr

/-! ### Every operation keeps the stored records in order -/

theorem RecordsOk.settleFlows {max : ℕ} (hr : s.streamRecords.find? record.addr = some r)
    (hst : r.status = .frozen)
    (hs : Payment.settleFlows ctx max s record r count = .ok (s', count')) : RecordsOk R s' := by
  rcases settleFlows_eq_ok hs with ⟨-, rfl, -⟩ | ⟨-, acc, finished, r', hm, rfl, hcheck, -, -, rfl⟩
  · exact h
  · obtain ⟨-, hmoved⟩ := hc.frozen_invariant hr hst hm _ (RecordsOk.moveRound _ _) h
    refine RecordsOk.put (hmoved.of_eq ?_) hcheck fun haddr => ?_
    · cases finished <;> rfl
    · have hact : r.status = .active := h.active_of_find? hr haddr
      exact hact

theorem RecordsOk.autoSettleRecord {max : ℕ} {stop : Bool}
    (hr : s.streamRecords.find? record.addr = some r)
    (hs : Payment.autoSettleRecord ctx max s record r count = .ok (s', count', stop)) :
    RecordsOk R s' := by
  rcases autoSettleRecord_eq_ok hs with ⟨hst, -, hset⟩ | ⟨-, rfl, -⟩ |
    ⟨hst, s₁, r₁, hu, hcheck, ⟨rfl, -, -⟩ | ⟨hst₁, -, -, hset⟩⟩
  · exact h.settleFlows hc hr hst hset
  · exact h
  · exact h.updateStored hc hr rfl hu hcheck
  · refine (h.updateStored hc hr rfl hu hcheck).settleFlows
      (hc.updateStreamRecord hr rfl rfl hu) ?_ hst₁ hset
    exact find?_insert_self _ _ _

/-- The rates of the record that `AutoResume` has in memory when it has resumed all flows. -/
theorem FlowCoherent.resumed_rates (hr : s.streamRecords.find? addr = some r)
    (hm : Moved ctx max 1 s addr .frozen count acc finished) (haddr : addr ∈ R) :
    r.status = .active ∧ 0 ≤ r.netflowRate + -acc.totalRate := by
  obtain ⟨hst, hrate⟩ := hc.loaded h hr haddr
  rw [(hc.resumed_nil hr hst hm).2.2, neg_zero, add_zero]
  exact ⟨hst, hrate⟩

theorem RecordsOk.autoResumeRecord {max : ℕ} (hr : s.streamRecords.find? record.addr = some r)
    (hs : Payment.autoResumeRecord ctx max s record r count = .ok (s', count')) :
    RecordsOk R s' := by
  obtain ⟨acc, finished, r', hm, rfl, -, hend⟩ := autoResumeRecord_eq_ok hs
  obtain ⟨-, hearn, hmoved⟩ := hc.resumed_invariant hr hm _ (RecordsOk.moveRound _ _) h
  have hstore : RecordsOk R (acc.store record.addr .active) := hmoved.of_eq rfl
  rcases hend with ⟨-, hcheck, rfl⟩ | ⟨rfl, -, s₁, r₁, hu, hcheck, rfl⟩
  · refine hstore.put hcheck fun haddr => ?_
    have hact : r.status = .active := h.active_of_find? hr haddr
    exact hact
  · refine (hstore.updateStreamRecord hearn (fun haddr => ?_) hu hcheck).of_eq rfl
    rw [add_zero]
    exact ⟨rfl, (hc.resumed_rates h hr hm haddr).2⟩

theorem RecordsOk.autoResume (hs : Payment.autoResume ctx s = .ok s') :
    FlowCoherent R s' ∧ RecordsOk R s' :=
  autoResumeLoop_invariant (fun s => FlowCoherent R s ∧ RecordsOk R s)
    (fun _ _ _ _ _ _ _ hI hr hround =>
      ⟨hI.1.autoResumeRecord hr hround, hI.2.autoResumeRecord hI.1 hr hround⟩) ⟨hc, h⟩ hs

theorem RecordsOk.endBlock (hs : Payment.endBlock ctx s = .ok s') : RecordsOk R s' := by
  obtain ⟨s₁, h₁, h₂⟩ := bind_eq_ok.1 hs
  obtain ⟨hc₁, hok₁⟩ := h.autoResume hc h₁
  exact (autoSettleLoop_invariant (fun s => FlowCoherent R s ∧ RecordsOk R s)
    (fun e _ s r count s' count' stop hI hr _ hround =>
      ⟨hI.1.autoSettleRecord hr hround, hI.2.autoSettleRecord hI.1 hr hround⟩)
    ⟨hc₁, hok₁⟩ h₂).2

theorem RecordsOk.tryResumeStreamRecord {deposit : ℤ} (hr : s.streamRecords.find? addr = some r)
    (hs : Payment.tryResumeStreamRecord ctx s addr r deposit = .ok s') : RecordsOk R s' := by
  obtain ⟨hst, -, hres⟩ := resumed_of_eq_ok hs
  have hpayer : addr ∉ R := fun haddr => by
    have hact := h.active_of_find? hr haddr
    rw [hst] at hact
    cases hact
  cases hres with
  | idle _ hcheck => exact h.put hcheck fun haddr => absurd haddr hpayer
  | short _ _ hcheck => exact h.put hcheck fun haddr => absurd haddr hpayer
  | direct _ _ _ _ _ hm _ hcheck =>
    obtain ⟨-, -, hmoved⟩ := hc.resumed_invariant hr hm _ (RecordsOk.moveRound _ _) h
    refine (RecordsOk.put (hmoved.of_eq rfl) hcheck fun haddr => absurd haddr hpayer).of_eq ?_
    exact updateAutoSettleRecord_streamRecords _ _ _ _
  | queued _ _ _ _ _ _ hcheck =>
    exact (h.put hcheck fun haddr => absurd haddr hpayer).of_eq rfl

theorem RecordsOk.applyUserFlowsList {l : List UserFlows} (hl : FlowsFit R s l)
    (hs : Payment.applyUserFlowsList ctx s l = .ok s') : RecordsOk R s' := by
  refine (hc.applyUserFlowsList_invariant hl (RecordsOk R) (fun s u s' hc hu hround h => ?_) h hs).2
  refine hc.applyUserFlows_invariant hu (RecordsOk R) (fun A F s₁ r₁ _ hupd n hcheck => ?_)
    (fun s₁ c s₂ _ _ hearn hrate hupd h => ?_) hround
  · have h₁ := h.of_updated (keepsRecords _) hc.receiversEarn (updated_of_eq_ok hupd)
    exact RecordsOk.put (h₁.of_eq rfl) hcheck fun haddr => absurd haddr hu.payer
  · exact h.updateStreamRecordByAddrDepth _ hearn (fun _ => hrate) hupd

theorem RecordsOk.run {op : Op} (hop : op.FlowsFit R s) (hs : op.run ctx s = .ok s') :
    RecordsOk R s' := by
  cases op.ran hs with
  | opened hbank _ _ => exact (h.bankMove hbank).put (checkStreamRecord_new _ _) fun _ => rfl
  | updated hbank hr _ hu hcheck hpay =>
    exact ((h.bankMove hbank).updateStored (hc.bankMove hbank) hr rfl hu hcheck).bankMove hpay
  | claimed hbank => exact h.bankMove hbank
  | resumed hbank hr hres =>
    exact (h.bankMove hbank).tryResumeStreamRecord (hc.bankMove hbank) hr hres
  | tried hr hres => exact h.tryResumeStreamRecord hc hr hres
  | charged hs => exact h.applyUserFlowsList hc hop hs
  | configured hsame _ => exact h.of_eq hsame.streamRecords
  | ended hs => exact h.endBlock hc hs

end Kept

/-! ### Updates return -/

/-- A computation returns unless the time that a balance lasts is no `int64`. -/
abbrev Returns {α : Type} (x : Except Error α) : Prop :=
  x.FailsOnly fun e => e = .panic .int64OutOfBound

theorem returns_orPanic {α : Type} {x : Except Error α} (h : Returns x) : Returns (orPanic x) := by
  cases x with
  | ok a => exact .of_eq_ok rfl
  | error e =>
    obtain rfl := h e rfl
    exact h

theorem returns_toInt64 (x : ℤ) : Returns (toInt64 x) := by
  intro e he
  unfold toInt64 at he
  split_ifs at he
  cases he
  rfl

/-- A record that does not pay is updated without a forced settlement. -/
theorem exists_updateStreamRecordWith (hforced : ctx.forced = true) (hst : r.status = .active)
    (hrate : 0 ≤ r.netflowRate + c.rateChange) :
    ∃ p, updateStreamRecordWith byAddr ctx s addr r c = .ok p := by
  unfold updateStreamRecordWith
  rw [hst]
  dsimp only
  generalize hpull : pullFromBank ctx s addr
    (r.apply ctx.blockTime s.params.versionedParams.reserveTime c) = p
  obtain ⟨s₁, r₁⟩ := p
  have hnonneg : ¬r₁.netflowRate < 0 := by
    rw [(pull_fields hpull).1]
    simpa using hrate
  dsimp only
  rw [if_neg fun h => by simp [hforced] at h, settleTime, if_neg hnonneg]
  exact ⟨_, rfl⟩

/-- **An active record is updated** under the forced flag, if the governance account can be. -/
theorem returns_updateStreamRecordWith (hforced : ctx.forced = true) (hst : r.status = .active)
    (hby : ∀ s₁ x, s₁.streamRecords = s.streamRecords →
      ∃ s₂, byAddr s₁ { addr := governanceAddress, staticBalanceChange := x } = .ok s₂) :
    Returns (updateStreamRecordWith byAddr ctx s addr r c) := by
  unfold updateStreamRecordWith
  rw [hst]
  dsimp only
  generalize hpull : pullFromBank ctx s addr
    (r.apply ctx.blockTime s.params.versionedParams.reserveTime c) = p
  obtain ⟨s₁, r₁⟩ := p
  dsimp only
  rw [if_neg fun h => by simp [hforced] at h]
  refine .bind ?_ fun p _ => .of_eq_ok rfl
  unfold settleTime
  split_ifs
  · refine .bind ?_ fun p _ => .bind (returns_toInt64 _) fun d _ => .of_eq_ok rfl
    obtain ⟨s₂, hs₂⟩ := hby s₁ (r₁.staticBalance + r₁.bufferBalance) (pull_fields hpull).2.2.1
    exact .bind (.of_eq_ok hs₂) fun _ _ => .of_eq_ok rfl
  · exact .bind (.of_eq_ok rfl) fun p _ => .bind (returns_toInt64 _) fun d _ => .of_eq_ok rfl
  · exact .of_eq_ok rfl

theorem changeLock_nonneg (hr : 0 ≤ r.lockBalance) (l : ℤ) :
    0 ≤ (r.changeLock l).lockBalance := by
  unfold StreamRecord.changeLock
  split_ifs with h₀ h
  · exact hr
  · exact le_rfl
  · exact not_lt.1 h

theorem apply_lockBalance_nonneg (hr : 0 ≤ r.lockBalance) (now : ℤ) (reserveTime : ℕ)
    (c : StreamRecordChange) : 0 ≤ (r.apply now reserveTime c).lockBalance :=
  changeLock_nonneg (by simpa using hr) _

theorem bufferFor_nonneg (reserveTime : ℕ) (rate : ℤ) : 0 ≤ bufferFor reserveTime rate := by
  unfold bufferFor
  split_ifs
  · exact Int.mul_nonneg (abs_nonneg rate) (Int.natCast_nonneg reserveTime)
  · exact le_rfl

/-- **An updated record passes `CheckStreamRecord`**, if its rates do. -/
theorem Updated.check (hu : Updated byAddr ctx s addr r c s' r') (hst : r.status = .active)
    (hfrozen : r.frozenNetflowRate ≤ 0) (hnonneg : 0 ≤ r.lockBalance)
    (hcount : r.netflowRate + c.rateChange < 0 → r.outFlowCount ≠ 0) :
    checkStreamRecord r' = true := by
  have hlock : ∀ now n, 0 ≤ (r.apply now n c).lockBalance := fun now n =>
    apply_lockBalance_nonneg hnonneg now n c
  rw [checkStreamRecord_iff]
  cases hu with
  | frozen hfro _ =>
    rw [hst] at hfro
    cases hfro
  | kept _ hpull _ _ =>
    rw [(pull_fields hpull).1]
    simpa using ⟨hfrozen, hlock _ _, bufferFor_nonneg _ _, hcount⟩
  | settled _ hpull _ _ _ _ _ _ =>
    rw [(pull_fields hpull).1]
    simpa using ⟨hfrozen, hlock _ _, hcount⟩

/-- **The update of a receiver succeeds**, if its rate is not negative afterwards. -/
theorem RecordsOk.exists_updateStreamRecordByAddr (h : RecordsOk R s)
    (hforced : ctx.forced = true) (hstack : 0 < ctx.stack) (hto : c.addr ∈ R)
    (hrate : 0 ≤ (s.record c.addr).netflowRate + c.rateChange) :
    ∃ s', updateStreamRecordByAddr ctx s c = .ok s' := by
  obtain ⟨n, hn⟩ := Nat.exists_eq_add_of_lt hstack
  have hst : (getStreamRecord ctx s c.addr).status = .active := h.active_get hto
  have hrate' : 0 ≤ (getStreamRecord ctx s c.addr).netflowRate + c.rateChange := by
    rw [getStreamRecord_eq]
    exact hrate
  have hupd : ∃ p, updateStreamRecordWith (Payment.updateStreamRecordByAddrDepth n ctx) ctx s c.addr
      (getStreamRecord ctx s c.addr) c = .ok p := exists_updateStreamRecordWith hforced hst hrate'
  obtain ⟨⟨s₁, r₁⟩, hu⟩ := hupd
  obtain ⟨hfrozen, hlock, -, -⟩ := checkStreamRecord_iff.1 (@RecordsOk.check_get R ctx s h c.addr)
  have hcheck := (updated_of_eq_ok hu).check hst hfrozen hlock fun hneg =>
    absurd hrate' (not_le.2 hneg)
  refine ⟨s₁.putStreamRecord c.addr r₁, ?_⟩
  rw [updateStreamRecordByAddr, hn, zero_add, Payment.updateStreamRecordByAddrDepth, hu]
  exact setStreamRecord_eq_ok.2 ⟨hcheck, rfl⟩

/-- **The update of an active record returns**: if it settles the record by force, the governance
account takes what is left. -/
theorem RecordsOk.returns_updateStreamRecord (hg : governanceAddress ∈ R) (h : RecordsOk R s)
    (hearn : ReceiversEarn R s) (hforced : ctx.forced = true) (hstack : 0 < ctx.stack)
    (hst : r.status = .active) : Returns (Payment.updateStreamRecord ctx s addr r c) := by
  refine returns_updateStreamRecordWith hforced hst fun s₁ x h₁ => ?_
  refine (h.of_eq h₁).exists_updateStreamRecordByAddr hforced hstack hg ?_
  rw [record_eq h₁, add_zero]
  exact hearn _ hg

/-! ### The loops over out-flows return -/

/-- The rate of a receiver after one of the flows to it is moved. -/
theorem FlowCoherent.moved_rate {moved : List OutFlow} {f : OutFlow}
    (h : FlowCoherent R (pending sign addr st' r s moved)) (hne : st ≠ st')
    (hsign : sign = if st' = .active then 1 else -1)
    (hfind : s.outFlows.find? ⟨addr, st, f.toAddr⟩ = some f.rate) :
    f.toAddr ∈ R ∧ 0 ≤ (s.record f.toAddr).netflowRate + sign * f.rate := by
  have hpfind : (pending sign addr st' r s moved).outFlows.find? ⟨addr, st, f.toAddr⟩ =
      some f.rate := (pending_find? hne moved s).trans hfind
  obtain ⟨hpayer, hto⟩ := h.domain _ _ hpfind
  have hpos := h.rate_pos _ _ hpfind
  refine ⟨hto, ?_⟩
  have hrate := h.receiver_rate f.toAddr hto
  have hother : f.toAddr ≠ addr := fun heq => hpayer (heq ▸ hto)
  rw [record_pending, if_neg hother] at hrate
  rw [hrate]
  cases st' with
  | active =>
    have hd : sign * f.rate = f.rate := by rw [hsign, if_pos rfl, one_mul]
    have hnonneg := flowSum_nonneg h.rate_pos (ActiveTo f.toAddr)
    omega
  | frozen =>
    -- a flow that is frozen was active, so its rate is part of the sum
    have hst : st = .active := by
      cases st with
      | active => rfl
      | frozen => exact absurd rfl hne
    have hd : sign * f.rate = -f.rate := by rw [hsign, if_neg (by simp), neg_one_mul]
    have hle := le_flowSum (P := ActiveTo f.toAddr) h.rate_pos hpfind ⟨rfl, hst⟩
    omega

/-- **A loop over the flows of an account returns.**  In each round the store with the pending
writes is coherent, so the receiver can be updated. -/
theorem exists_moveFlows (hforced : ctx.forced = true) (hstack : 0 < ctx.stack) (hne : st ≠ st')
    (hsign : sign = if st' = .active then 1 else -1) :
    ∀ {l : List (OutFlowKey × ℤ)} {acc : FlowMove},
      (l.map Prod.fst).Nodup → (∀ e ∈ l, acc.state.outFlows.find? e.1 = some e.2) →
      (∀ e ∈ l, stop e.1 = false → e.1.addr = addr ∧ e.1.status = st ∧ r.status = .frozen) →
      FlowCoherent R (pending sign addr st' r acc.state acc.toUpdate) → RecordsOk R acc.state →
      ∃ p, moveFlows ctx max stop sign l acc = .ok p
  | [], acc, _, _, _, _, _ => ⟨_, rfl⟩
  | (k, rate) :: l, acc, hnodup, hstored, hkeys, h, hok => by
    unfold moveFlows
    split_ifs with hmax hstop
    · exact ⟨_, rfl⟩
    · exact ⟨_, rfl⟩
    · obtain ⟨hk, hrest⟩ := List.nodup_cons.1 hnodup
      obtain ⟨hka, hks, hst⟩ := hkeys _ List.mem_cons_self (by simpa using hstop)
      obtain ⟨a, st₁, x⟩ := k
      replace hka : addr = a := hka.symm
      replace hks : st = st₁ := hks.symm
      subst hka hks
      have hfind := hstored _ List.mem_cons_self
      have hpayer := (h.domain ⟨addr, st, x⟩ rate ((pending_find? hne acc.toUpdate acc.state).trans
        hfind)).1
      obtain ⟨hto, hrate⟩ := FlowCoherent.moved_rate (f := ⟨x, rate⟩) h hne hsign hfind
      obtain ⟨s₁, hs₁⟩ := hok.exists_updateStreamRecordByAddr (c := ⟨x, sign * rate, 0, 0, 0⟩)
        hforced hstack hto hrate
      have hmove : moveFlow ctx sign acc.state (⟨addr, st, x⟩, rate) =
          .ok { s₁ with outFlows := s₁.outFlows.erase ⟨addr, st, x⟩ } := by
        unfold moveFlow
        dsimp only
        rw [hs₁]
        rfl
      have hstep := h.moveFlow (f := ⟨x, rate⟩) hst hne hsign hfind hmove
      have hearn := h.receiversEarn_pending hpayer
      have hearn₁ := hstep.receiversEarn_pending hpayer
      have hok₁ := RecordsOk.moveRound sign st acc.state s₁ ⟨x, rate⟩ hpayer hto hearn hearn₁
        hs₁ hok
      rw [hmove]
      refine exists_moveFlows hforced hstack hne hsign hrest (fun e he => ?_)
        (fun e he => hkeys e (List.mem_cons_of_mem _ he)) hstep hok₁
      have hother : e.1 ≠ ⟨addr, st, x⟩ := fun heq => hk (List.mem_map.2 ⟨e, he, heq⟩)
      have hflows := (moveFlow_eq_ok hmove).1
      dsimp only at hflows ⊢
      rw [hflows, find?_erase_of_ne _ hother]
      exact hstored e (List.mem_cons_of_mem _ he)

/-- The entries an iterator visits, as `exists_moveFlows` asks for them. -/
theorem iterFrom_stored (m : OutFlows) (k : OutFlowKey) :
    ((m.iterFrom k).map Prod.fst).Nodup ∧
      ∀ e ∈ m.iterFrom k, m.find? e.1 = some e.2 ∧ k ≤ e.1 := by
  refine ⟨?_, fun e he => mem_iterFrom.1 he⟩
  exact List.pairwise_map.2 ((m.iterFrom_sorted k).imp fun h => h.ne)

/-- The rates of a moved flow are positive. -/
theorem Moved.totalRate_nonneg (hm : Moved ctx max sign s addr st count acc finished)
    (hc : FlowCoherent R s) : 0 ≤ acc.totalRate := by
  rw [hm.total, totalRate]
  refine List.sum_nonneg fun x hx => ?_
  obtain ⟨f, hf, rfl⟩ := List.mem_map.1 hx
  exact (hc.rate_pos _ _ (hm.stored f hf)).le

/-- A stored record that is updated without a rate change passes the check. -/
theorem RecordsOk.check_updated (h : RecordsOk R s) (hr : s.streamRecords.find? addr = some r)
    (hst : r.status = .active) (hrate : c.rateChange = 0)
    (hu : Payment.updateStreamRecord ctx s addr r c = .ok (s', r')) :
    checkStreamRecord r' = true := by
  obtain ⟨hfrozen, hlock, -, hcount⟩ := checkStreamRecord_iff.1 (h.check _ r hr)
  refine (updated_of_eq_ok hu).check hst hfrozen hlock fun hneg => hcount ?_
  rwa [hrate, add_zero] at hneg

/-- The record that a round of `AutoResume` writes passes the check, and it has no frozen rate
when all flows are resumed. -/
theorem FlowCoherent.check_resumed (hc : FlowCoherent R s) (h : RecordsOk R s)
    (hr : s.streamRecords.find? addr = some r)
    (hm : Moved ctx max 1 s addr .frozen count acc finished) : checkStreamRecord { r with
        netflowRate := r.netflowRate + -acc.totalRate
        frozenNetflowRate := r.frozenNetflowRate + acc.totalRate } = true ∧
      (finished = true → r.frozenNetflowRate + acc.totalRate = 0) := by
  obtain ⟨h₁, h₂, h₃, h₄⟩ := checkStreamRecord_iff.1 (h.check _ r hr)
  have hp := hc.resumed hr hm
  by_cases haddr : addr ∈ R
  · have hst := h.active_of_find? hr haddr
    have hfrozen := hc.receiver_frozen addr haddr
    rw [record_of_find? hr] at hfrozen
    rw [(hc.resumed_nil hr hst hm).2.2, neg_zero, add_zero, add_zero]
    exact ⟨h.check _ r hr, fun _ => hfrozen⟩
  · have hrate := hp.payer_rate addr haddr
    have hfrozen := hp.payer_frozen addr haddr
    have hcount := hp.payer_count addr haddr
    have hnonneg := flowSum_nonneg hp.rate_pos (FrozenOf addr)
    rw [record_pending, if_pos rfl] at hrate hfrozen hcount
    dsimp only at hrate hfrozen hcount
    rw [← hm.total, one_mul] at hrate hfrozen
    refine ⟨checkStreamRecord_iff.2 ⟨?_, h₂, h₃, fun hneg hzero => ?_⟩, ?_⟩
    · dsimp only
      omega
    · -- an account without flows has no rate
      dsimp only at hneg hzero
      rw [hzero] at hcount
      rw [flowSum_eq_zero fun k hk => find?_eq_none_of_flowCount_eq_zero hcount.symm hk.1] at hrate
      omega
    · rintro rfl
      rw [hfrozen, flowSum_eq_zero, neg_zero]
      rintro ⟨a, st, x⟩ ⟨rfl, rfl⟩
      exact hm.none_left .active (by simp) x

section Rounds

variable (hc : FlowCoherent R s) (h : RecordsOk R s) (hforced : ctx.forced = true)
  (hstack : 0 < ctx.stack)
include hc h hforced hstack

/-- A loop over all flows of an account with one status returns. -/
theorem FlowCoherent.exists_moveFlows (hr : s.streamRecords.find? addr = some r) (sign : ℤ)
    (st st' : OutFlowStatus) (hne : st ≠ st') (hsign : sign = if st' = .active then 1 else -1)
    (hstop : ∀ k : OutFlowKey, ⟨addr, st, 0⟩ ≤ k → (stop k = false ↔ k.addr = addr ∧ k.status = st))
    (hst : ∀ x v, s.outFlows.find? ⟨addr, st, x⟩ = some v → r.status = .frozen) :
    ∃ p, moveFlows ctx max stop sign (s.outFlows.iterFrom ⟨addr, st, 0⟩)
      { state := s, count := count } = .ok p := by
  obtain ⟨hnodup, hstored⟩ := iterFrom_stored s.outFlows ⟨addr, st, 0⟩
  have hstart : FlowCoherent R (pending sign addr st' r s []) :=
    hc.pending_nil sign st' (.of_find? hr) fun hact => by rw [record_of_find? hr, hact]
  refine Payment.exists_moveFlows hforced hstack hne hsign hnodup
    (fun e he => (hstored e he).1) (fun e he hgo => ?_) hstart h
  obtain ⟨⟨a, st₁, x⟩, v⟩ := e
  obtain ⟨rfl, rfl⟩ := (hstop _ (hstored _ he).2).1 hgo
  exact ⟨rfl, rfl, hst x v (hstored _ he).1⟩

/-! ### The rounds of the queues return -/

theorem FlowCoherent.returns_settleFlows {max : ℕ} (hr : s.streamRecords.find? record.addr = some r)
    (hst : r.status = .frozen) : Returns (Payment.settleFlows ctx max s record r count) := by
  unfold Payment.settleFlows
  split_ifs
  · exact .of_eq_ok rfl
  have hmoves : ∃ p, freezeFlows ctx max s record.addr count = .ok p := by
    have hstop : ∀ k : OutFlowKey, ⟨record.addr, .active, 0⟩ ≤ k →
        ((decide (k.addr ≠ record.addr) || decide (k.status = .frozen)) = false ↔
          k.addr = record.addr ∧ k.status = .active) := fun k _ => by cases k.status <;> simp
    obtain ⟨p, hp⟩ := hc.exists_moveFlows h hforced hstack hr (-1) .active .frozen (by simp)
      (by simp) hstop fun _ _ _ => hst
    exact ⟨p, orPanic_eq_ok.2 hp⟩
  obtain ⟨⟨acc, finished⟩, hfreeze⟩ := hmoves
  rw [hfreeze]
  have hm := moved_of_freezeFlows hfreeze
  have hpayer : record.addr ∉ R := fun haddr => by
    have hact := h.active_of_find? hr haddr
    rw [hst] at hact
    cases hact
  have hcheck : checkStreamRecord { r with
      netflowRate := r.netflowRate + acc.totalRate
      frozenNetflowRate := r.frozenNetflowRate + -acc.totalRate } = true := by
    obtain ⟨h₁, h₂, h₃, h₄⟩ := checkStreamRecord_iff.1 (h.check _ r hr)
    have htotal := hm.totalRate_nonneg hc
    refine checkStreamRecord_iff.2 ⟨?_, h₂, h₃, fun hneg => h₄ ?_⟩
    · dsimp only
      omega
    · dsimp only at hneg
      omega
  -- at the end of the flows the coherent store leaves no rate
  have hzero : finished = true → r.netflowRate + acc.totalRate = 0 := by
    rintro rfl
    have hp := hc.frozen hr hst hm
    have hrate := hp.payer_rate _ hpayer
    rw [record_pending, if_pos rfl, flowSum_eq_zero, neg_zero] at hrate
    · rw [hm.total]
      simpa using hrate
    · rintro ⟨a, st, x⟩ ⟨rfl, rfl⟩
      exact hm.none_left .frozen (by simp) x
  change Returns (if finished = true then _ else _)
  split_ifs with hfin hne
  · exact absurd (hzero hfin) hne
  · exact .bind (.of_eq_ok (setStreamRecord_eq_ok.2 ⟨hcheck, rfl⟩)) fun _ _ => .of_eq_ok rfl
  · exact .bind (.of_eq_ok (setStreamRecord_eq_ok.2 ⟨hcheck, rfl⟩)) fun _ _ => .of_eq_ok rfl

variable (hg : governanceAddress ∈ R)
include hg

/-- **A round of `AutoSettle` returns.** -/
theorem FlowCoherent.returns_autoSettleRecord {max : ℕ}
    (hr : s.streamRecords.find? record.addr = some r) :
    Returns (Payment.autoSettleRecord ctx max s record r count) := by
  unfold Payment.autoSettleRecord
  split
  · rename_i hst
    have hret : Returns (Payment.updateStreamRecord ctx s record.addr r { addr := record.addr }) :=
      h.returns_updateStreamRecord hg hc.receiversEarn hforced hstack hst
    split
    · rename_i p hu
      obtain rfl := Error.panic.inj (hret _ hu)
      exact fun e he => by cases he; rfl
    · exact .of_eq_ok rfl
    · rename_i s₁ r₁ hu
      have hcheck := h.check_updated hr hst rfl hu
      refine .bind (.of_eq_ok (setStreamRecord_eq_ok.2 ⟨hcheck, rfl⟩)) fun s₂ hs₂ => ?_
      obtain ⟨-, rfl⟩ := setStreamRecord_eq_ok.1 hs₂
      split_ifs with hact hmax
      · exact .of_eq_ok rfl
      · exact .of_eq_ok rfl
      · have hst₁ : r₁.status = .frozen := by
          cases hr₁ : r₁.status with
          | active => exact absurd hr₁ hact
          | frozen => rfl
        refine .bind ((hc.updateStreamRecord hr rfl rfl hu).returns_settleFlows
          (h.updateStored hc hr rfl hu hcheck) hforced hstack ?_ hst₁) fun _ _ => .of_eq_ok rfl
        exact find?_insert_self _ _ _
  · rename_i hst
    exact .bind (hc.returns_settleFlows h hforced hstack hr hst) fun _ _ => .of_eq_ok rfl

/-- **A round of `AutoResume` returns.** -/
theorem FlowCoherent.returns_autoResumeRecord {max : ℕ}
    (hr : s.streamRecords.find? record.addr = some r) :
    Returns (Payment.autoResumeRecord ctx max s record r count) := by
  have hfrozen : ∀ x v, s.outFlows.find? ⟨record.addr, .frozen, x⟩ = some v →
      r.status = .frozen := by
    intro x v hx
    cases hst : r.status with
    | frozen => rfl
    | active =>
      rw [hc.active_no_frozen record.addr (by rw [record_of_find? hr, hst])] at hx
      cases hx
  have hmoves : ∃ p, resumeFlows ctx max s record.addr count = .ok p := by
    obtain ⟨p, hp⟩ := hc.exists_moveFlows h hforced hstack hr 1 .frozen .active (by simp)
      (by simp) (fun k => resume_stop) hfrozen
    exact ⟨p, orPanic_eq_ok.2 hp⟩
  obtain ⟨⟨acc, finished⟩, hresume⟩ := hmoves
  have hm := moved_of_resumeFlows hresume
  obtain ⟨hcheck, hzero⟩ := hc.check_resumed h hr hm
  obtain ⟨-, hearn, hmoved⟩ := hc.resumed_invariant hr hm _ (RecordsOk.moveRound _ _) h
  have hstore : RecordsOk R (acc.store record.addr .active) := hmoved.of_eq rfl
  unfold Payment.autoResumeRecord
  rw [hresume]
  change Returns (if finished = true then _ else _)
  split_ifs with hfin hne
  · exact absurd (hzero hfin) hne
  · refine .bind (returns_orPanic (hstore.returns_updateStreamRecord hg hearn hforced hstack rfl))
      fun p hp => ?_
    obtain ⟨s₁, r₁⟩ := p
    obtain ⟨hfrozen, hlock, -, hcount⟩ := checkStreamRecord_iff.1 hcheck
    have hcheck₁ := (updated_of_eq_ok (orPanic_eq_ok.1 hp)).check rfl hfrozen hlock fun hneg =>
      hcount (by rwa [add_zero] at hneg)
    exact .bind (.of_eq_ok (setStreamRecord_eq_ok.2 ⟨hcheck₁, rfl⟩)) fun _ _ => .of_eq_ok rfl
  · exact .bind (.of_eq_ok (setStreamRecord_eq_ok.2 ⟨hcheck, rfl⟩)) fun _ _ => .of_eq_ok rfl

end Rounds

/-! ### `EndBlock` returns -/

theorem returns_autoResumeLoop {max : ℕ} (hg : governanceAddress ∈ R)
    (hforced : ctx.forced = true) (hstack : 0 < ctx.stack) :
    ∀ {l : List (QueueKey × Unit)} {s : State} {count : ℕ}, FlowCoherent R s → RecordsOk R s →
      Returns (autoResumeLoop ctx max l s count)
  | [], _, _, _, _ => .of_eq_ok rfl
  | (record, ()) :: l, s, count, hc, h => by
    unfold autoResumeLoop
    split
    · exact returns_autoResumeLoop hg hforced hstack hc h
    · rename_i r hr
      refine .bind (hc.returns_autoResumeRecord h hforced hstack hg hr) fun p hp => ?_
      obtain ⟨s₁, count₁⟩ := p
      exact returns_autoResumeLoop hg hforced hstack (hc.autoResumeRecord hr hp)
        (h.autoResumeRecord hc hr hp)

theorem returns_autoSettleLoop {max : ℕ} (hg : governanceAddress ∈ R)
    (hforced : ctx.forced = true) (hstack : 0 < ctx.stack) :
    ∀ {l : List (QueueKey × Unit)} {s : State} {count : ℕ}, FlowCoherent R s → RecordsOk R s →
      Returns (autoSettleLoop ctx max l s count)
  | [], _, _, _, _ => .of_eq_ok rfl
  | (record, ()) :: l, s, count, hc, h => by
    unfold autoSettleLoop
    split_ifs
    · exact .of_eq_ok rfl
    · exact .of_eq_ok rfl
    split
    · exact returns_autoSettleLoop hg hforced hstack hc h
    · rename_i r hr
      refine .bind (hc.returns_autoSettleRecord h hforced hstack hg hr) fun p hp => ?_
      obtain ⟨s₁, count₁, stop⟩ := p
      dsimp only
      split_ifs
      · exact .of_eq_ok rfl
      · exact returns_autoSettleLoop hg hforced hstack (hc.autoSettleRecord hr hp)
          (h.autoSettleRecord hc hr hp)

/-- **`EndBlock` returns** in a coherent state whose records are in order. -/
theorem FlowCoherent.returns_endBlock (hc : FlowCoherent R s) (h : RecordsOk R s)
    (hg : governanceAddress ∈ R) (hstack : 0 < ctx.stack) : Returns (Payment.endBlock ctx s) := by
  have hforced : (ctx.withForced true).forced = true := rfl
  have hdeep : 0 < (ctx.withForced true).stack := hstack
  refine .bind (returns_autoResumeLoop hg hforced hdeep hc h) fun s₁ hs₁ => ?_
  obtain ⟨hc₁, h₁⟩ := h.autoResume hc hs₁
  exact returns_autoSettleLoop hg hforced hdeep hc₁ h₁

/-! ### Runs -/

/-- The operations of the module together with what other modules ask of its keeper:
`UpdateStreamRecordByAddr` with a change of the static or the lock balance, by which `x/storage`
locks, unlocks and collects fees, also under the forced flag; and `QueryDynamicBalance`. -/
inductive KeeperOp
  | base (op : Op)
  | changeBalances (forced : Bool) (addr : Addr) (staticBalanceChange lockBalanceChange : ℤ)
  | queryDynamicBalance (addr : Addr)

/-- What an operation does. -/
def KeeperOp.run (ctx : Ctx) (s : State) : KeeperOp → Except Error State
  | .base op => op.run ctx s
  | .changeBalances forced addr staticBalanceChange lockBalanceChange =>
    updateStreamRecordByAddr (ctx.withForced forced) s
      { addr := addr
        staticBalanceChange := staticBalanceChange
        lockBalanceChange := lockBalanceChange }
  | .queryDynamicBalance addr => do
    let (s, _) ← Payment.queryDynamicBalance (ctx.withForced false) s addr
    return s

/-- A step of the chain, at a block time not before the last one: a failed operation is rolled
back, but a failed `EndBlock` has no next state. -/
def Chain.keeperStep (c : Chain) (ctx : Ctx) : KeeperOp → Option Chain
  | .base op => c.step ctx op
  | op =>
    if c.time ≤ ctx.blockTime then
      some { state := (op.run ctx c.state).toOption.getD c.state, time := ctx.blockTime }
    else none

/-- The flow changes of an operation fit the store. -/
def KeeperOp.FlowsFit (R : Set Addr) (s : State) : KeeperOp → Prop
  | .base op => op.FlowsFit R s
  | _ => True

/-- The states that operations with fitting flow changes lead to, from an empty store. -/
def KeeperReachable (R : Set Addr) (p : Params) (balance : Addr → ℤ) (time : ℤ) (c : Chain) :
    Prop :=
  Reachable (fun c (l : Ctx × KeeperOp) => c.keeperStep l.1 l.2) (fun c l => l.2.FlowsFit R c.state)
    ⟨State.empty p balance, time⟩ c

/-- A step of the chain: the operation succeeds, or it fails and changes nothing. -/
theorem keeperStep_eq_some {c c' : Chain} {op : KeeperOp} (h : c.keeperStep ctx op = some c') :
    op.run ctx c.state = .ok c'.state ∨ c'.state = c.state := by
  have hrest : ∀ x : Except Error State, (if c.time ≤ ctx.blockTime then
      some ⟨x.toOption.getD c.state, ctx.blockTime⟩ else none) = some c' →
      x = .ok c'.state ∨ c'.state = c.state := by
    intro x hx
    split_ifs at hx
    cases hx
    cases x with
    | error e => exact Or.inr rfl
    | ok s => exact Or.inl rfl
  cases op with
  | base op => exact (step_eq_some h).2.2
  | changeBalances forced addr x y => exact hrest _ h
  | queryDynamicBalance addr => exact hrest _ h

/-- `QueryDynamicBalance` writes no record. -/
theorem queryDynamicBalance_eq_ok (h : queryDynamicBalance ctx s addr = .ok (s', x)) :
    s' = s ∨ ∃ r r', Payment.updateStreamRecord ctx s addr r { addr := addr } = .ok (s', r') := by
  unfold queryDynamicBalance at h
  split at h
  · cases h
    exact Or.inl rfl
  · rename_i r _
    obtain ⟨⟨s₁, r₁⟩, hu, h⟩ := bind_eq_ok.1 h
    cases h
    exact Or.inr ⟨r, r₁, hu⟩

/-- **Every operation keeps the records coherent and in order.** -/
theorem FlowCoherent.run_keeper {op : KeeperOp}
    (hc : FlowCoherent R s) (h : RecordsOk R s) (hop : op.FlowsFit R s)
    (hs : op.run ctx s = .ok s') : FlowCoherent R s' ∧ RecordsOk R s' := by
  cases op with
  | base op => exact ⟨hc.run hop hs, h.run hc hop hs⟩
  | changeBalances forced addr x y =>
    have hu : updateStreamRecordByAddrDepth (ctx.withForced forced).stack (ctx.withForced forced) s
        ⟨addr, 0, x, y, 0⟩ = .ok s' := hs
    have hrates := updateStreamRecordByAddrDepth_rates _ hu rfl
    refine ⟨hc.congr (updateStreamRecordByAddrDepth_frame _ hu).outFlows (fun z => ?_)
      (fun z => (hrates z).2.1) (fun z => (hrates z).2.2.1) fun z hz => Or.inl ((hrates z).2.2.2 hz),
      h.updateStreamRecordByAddrDepth _ hc.receiversEarn (fun haddr => ?_) hu⟩
    · rw [(hrates z).1, ite_self, add_zero]
    · rw [add_zero]
      exact hc.receiversEarn _ haddr
  | queryDynamicBalance addr =>
    obtain ⟨⟨s₁, x⟩, hq, heq⟩ := bind_eq_ok.1 hs
    cases heq
    rcases queryDynamicBalance_eq_ok hq with rfl | ⟨r, r', hu⟩
    · exact ⟨hc, h⟩
    · exact ⟨hc.of_sameRates (updateStreamRecord_frame hu).outFlows (updateStreamRecord_sameRates hu),
        h.of_updated (keepsRecords _) hc.receiversEarn (updated_of_eq_ok hu)⟩

theorem KeeperReachable.records {p : Params} {balance : Addr → ℤ} {time : ℤ} {c : Chain}
    (h : KeeperReachable R p balance time c) : FlowCoherent R c.state ∧ RecordsOk R c.state := by
  refine Reachable.invariant (fun c => FlowCoherent R c.state ∧ RecordsOk R c.state)
    ⟨flowCoherent_empty R p balance, recordsOk_empty R p balance⟩
    (fun c l c' hI hfit hstep => ?_) h
  rcases keeperStep_eq_some hstep with hrun | hsame
  · exact hI.1.run_keeper hI.2 hfit hrun
  · rw [hsame]
    exact hI

/-- **`EndBlock` never halts the chain.**  In every reachable state and at every block time it
returns, unless the number of seconds that the balance of some account lasts is no `int64`. -/
theorem endBlock_returns (R : Set Addr) (hg : governanceAddress ∈ R) (p : Params)
    (balance : Addr → ℤ) (time : ℤ) (c : Chain) (h : KeeperReachable R p balance time c) (ctx : Ctx)
    (hstack : 0 < ctx.stack) (hint : endBlock ctx c.state ≠ .error (.panic .int64OutOfBound)) :
    ∃ s', endBlock ctx c.state = .ok s' := by
  obtain ⟨hc, hok⟩ := h.records
  have hret : Returns (endBlock ctx c.state) := hc.returns_endBlock hok hg hstack
  cases hend : endBlock ctx c.state with
  | ok s' => exact ⟨s', rfl⟩
  | error e =>
    obtain rfl := hret e hend
    exact absurd hend hint

/-- Account 1 is charged for two flows, and a fee of 5 is locked; the block in which its balance
runs out settles it. -/
theorem endBlock_returns_settling :
    ∃ c, runSteps (fun c (l : Ctx × KeeperOp) => c.keeperStep l.1 l.2) (smallChain 205)
        [(smallCtx 1000, .base (.applyUserFlowsList false twoFlows)),
          (smallCtx 1000, .changeBalances false 1 0 5)] = some c ∧
      (c.state.record 1).lockBalance = 5 ∧
      ∃ s', endBlock (smallCtx 1090) c.state = .ok s' := by
  refine Option.exists_some_of (fun c => (c.state.record 1).lockBalance = 5 ∧
    (endBlock (smallCtx 1090) c.state).error? = none) (by decide) fun c hc ⟨hlock, hnot⟩ => ?_
  have hreach : KeeperReachable smallReceivers smallParams (smallChain 205).state.balance 0 c := by
    refine Reachable.of_runSteps .start ?_ hc
    exact ⟨.of_pos rfl (by decide), fun _ _ => ⟨trivial, fun _ _ => trivial⟩⟩
  refine ⟨hlock, ?_⟩
  refine endBlock_returns smallReceivers (by decide) smallParams _ 0 c hreach (smallCtx 1090)
    (by decide) fun herr => ?_
  rw [herr] at hnot
  cases hnot

end Moca.Payment
