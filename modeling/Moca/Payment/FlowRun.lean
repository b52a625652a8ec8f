/-
# Flow ledger coherence over whole runs

Each operation of the module keeps `FlowCoherent`, so it holds in every reachable
state.  The loops that move out-flows keep the payer's record in memory and write
it at the end: between two rounds it is not the store that is coherent but the
store with the moved flows and the record written (`pending`).
-/

import Moca.Payment.FlowLedger
import Mathlib.Tactic.Ring

namespace Moca.Payment

open SortedMap

variable {R : Set Addr}

/-! ### The loops over out-flows -/

/-- The store as it will be when a loop that has moved the flows `moved` of `addr` to the status
`status` ends: the flows are written, and the rates of the record `r` follow. -/
def pending (sign : ℤ) (addr : Addr) (status : OutFlowStatus) (r : StreamRecord) (s : State)
    (moved : List OutFlow) : State :=
  { s with outFlows := moved.foldl (fun m o => setOutFlow m addr status o) s.outFlows }.putStreamRecord
    addr { r with
      netflowRate := r.netflowRate - sign * totalRate moved
      frozenNetflowRate := r.frozenNetflowRate + sign * totalRate moved }

theorem record_pending (sign : ℤ) (addr : Addr) (status : OutFlowStatus) (r : StreamRecord)
    (s : State) (moved : List OutFlow) (x : Addr) :
    (pending sign addr status r s moved).record x =
      if x = addr then { r with
        netflowRate := r.netflowRate - sign * totalRate moved
        frozenNetflowRate := r.frozenNetflowRate + sign * totalRate moved }
      else s.record x :=
  record_putStreamRecord _ addr _ x

theorem totalRate_append_singleton (l : List OutFlow) (f : OutFlow) :
    totalRate (l ++ [f]) = totalRate l + f.rate := by
  simp [totalRate]

variable {addr : Addr} {sign : ℤ} {st st' : OutFlowStatus} {r : StreamRecord} {ctx : Ctx}
  {s s' : State} {count count' : ℕ} {acc : FlowMove} {finished : Bool} {record : QueueKey}
  {u : UserFlows} {l : List UserFlows} {status : OutFlowStatus} {k : OutFlowKey}
  {max : Option ℕ}

/-- Writing flows under one status does not touch the others. -/
theorem find?_foldl_setOutFlow (hk : k.addr ≠ addr ∨ k.status ≠ status) (l : List OutFlow)
    (m : OutFlows) : (l.foldl (fun m o => setOutFlow m addr status o) m).find? k = m.find? k := by
  induction l generalizing m with
  | nil => rfl
  | cons o l ih =>
    rw [List.foldl_cons, ih]
    refine find?_insert_of_ne _ _ fun h => ?_
    subst h
    simp at hk

theorem pending_find? {x : Addr} (hne : st ≠ st') (moved : List OutFlow) (s : State) :
    (pending sign addr st' r s moved).outFlows.find? ⟨addr, st, x⟩ =
      s.outFlows.find? ⟨addr, st, x⟩ :=
  find?_foldl_setOutFlow (Or.inr hne) moved s.outFlows

theorem erase_foldl_setOutFlow (hk : k.status ≠ status) (l : List OutFlow) (m : OutFlows) :
    l.foldl (fun m o => setOutFlow m addr status o) (m.erase k) =
      (l.foldl (fun m o => setOutFlow m addr status o) m).erase k := by
  induction l generalizing m with
  | nil => rfl
  | cons o l ih =>
    have hne : k ≠ ⟨addr, status, o.toAddr⟩ := fun h => hk (by rw [h])
    rw [List.foldl_cons, List.foldl_cons, ← ih, setOutFlow, setOutFlow,
      erase_insert_comm _ _ hne.symm]

/-- What `moveFlow` does to the rates and the flows. -/
theorem moveFlow_eq_ok {e : OutFlowKey × ℤ} (h : moveFlow ctx sign s e = .ok s') :
    s'.outFlows = s.outFlows.erase e.1 ∧ ∀ x,
      (s'.record x).netflowRate =
          (s.record x).netflowRate + (if x = e.1.toAddr then sign * e.2 else 0) ∧
        (s'.record x).frozenNetflowRate = (s.record x).frozenNetflowRate ∧
        (s'.record x).outFlowCount = (s.record x).outFlowCount ∧
        ((s'.record x).status = .active → (s.record x).status = .active) := by
  obtain ⟨s₁, h₁, h₂⟩ := bind_eq_ok.1 h
  cases h₂
  exact ⟨by rw [(updateStreamRecordByAddrDepth_frame _ h₁).outFlows],
    fun x => updateStreamRecordByAddrDepth_rates _ h₁ rfl x⟩

/-- **One round keeps coherence** of the store with the pending writes. -/
theorem FlowCoherent.moveFlow {moved : List OutFlow} {f : OutFlow}
    (h : FlowCoherent R (pending sign addr st' r s moved)) (hst : r.status = .frozen)
    (hne : st ≠ st') (hsign : sign = if st' = .active then 1 else -1)
    (hfind : s.outFlows.find? ⟨addr, st, f.toAddr⟩ = some f.rate)
    (hmove : Payment.moveFlow ctx sign s (⟨addr, st, f.toAddr⟩, f.rate) = .ok s') :
    FlowCoherent R (pending sign addr st' r s' (moved ++ [f])) := by
  obtain ⟨hflows, hrates⟩ := moveFlow_eq_ok hmove
  dsimp only at hflows hrates
  have hpfind : (pending sign addr st' r s moved).outFlows.find? ⟨addr, st, f.toAddr⟩ =
      some f.rate := (pending_find? hne moved s).trans hfind
  have hto : f.toAddr ≠ addr := fun hto => (h.domain _ _ hpfind).1 (by
    have := (h.domain _ _ hpfind).2
    rwa [hto] at this)
  have hd : sign * f.rate = if st' = .active then f.rate else -f.rate := by
    rw [hsign]
    split_ifs <;> ring
  refine h.move hne hd hpfind ?_ (fun x => ?_) (fun x => ?_) (fun x => ?_) (fun x hx => ?_) ?_
  · change (moved ++ [f]).foldl (fun m o => setOutFlow m addr st' o) s'.outFlows = _
    rw [List.foldl_append, hflows, erase_foldl_setOutFlow hne]
    rfl
  all_goals simp only [record_pending, totalRate_append_singleton] at *
  · obtain ⟨hrate, -, -, -⟩ := hrates x
    by_cases hxa : x = addr
    · rw [if_pos hxa, if_pos hxa, if_pos hxa, if_neg fun hxf => hto (hxf.symm.trans hxa)]
      dsimp only
      ring
    · rw [if_neg hxa, if_neg hxa, if_neg hxa, sub_zero]
      exact hrate
  · split_ifs
    · dsimp only
      ring
    · rw [add_zero]
      exact (hrates x).2.1
  · split_ifs
    · rfl
    · exact (hrates x).2.2.1
  · split_ifs at hx ⊢
    · exact hx
    · exact (hrates x).2.2.2 hx
  · rw [if_pos trivial]
    exact hst

/-- No receiver pays. -/
def ReceiversEarn (R : Set Addr) (s : State) : Prop := ∀ x ∈ R, 0 ≤ (s.record x).netflowRate

theorem FlowCoherent.receiversEarn (h : FlowCoherent R s) : ReceiversEarn R s := by
  intro x hx
  rw [h.receiver_rate x hx]
  exact flowSum_nonneg h.rate_pos _

theorem FlowCoherent.receiversEarn_pending {moved : List OutFlow} (haddr : addr ∉ R)
    (h : FlowCoherent R (pending sign addr st r s moved)) : ReceiversEarn R s := by
  intro x hx
  have hne : x ≠ addr := fun heq => haddr (heq ▸ hx)
  have hnonneg := h.receiversEarn x hx
  rwa [record_pending, if_neg hne] at hnonneg

/-- What the rounds of a loop over the flows of `addr` keep: in each round the rate of a receiver
changes, no receiver pays before or after, and the flow leaves the store. -/
def MoveRound (R : Set Addr) (ctx : Ctx) (sign : ℤ) (addr : Addr) (st : OutFlowStatus)
    (I : State → Prop) : Prop :=
  ∀ (s s' : State) (f : OutFlow), addr ∉ R → f.toAddr ∈ R → ReceiversEarn R s → ReceiversEarn R s' →
    updateStreamRecordByAddr ctx s { addr := f.toAddr, rateChange := sign * f.rate } = .ok s' →
    I s → I { s' with outFlows := s'.outFlows.erase ⟨addr, st, f.toAddr⟩ }

/-- **The rounds keep coherence**, and whatever else they keep. -/
theorem FlowCoherent.foldlM_moveFlow (hst : r.status = .frozen) (hne : st ≠ st')
    (hsign : sign = if st' = .active then 1 else -1) (I : State → Prop)
    (hround : MoveRound R ctx sign addr st I) :
    ∀ {l moved : List OutFlow} {s s' : State}, FlowCoherent R (pending sign addr st' r s moved) →
      I s → (l.map OutFlow.toAddr).Nodup →
      (∀ f ∈ l, s.outFlows.find? ⟨addr, st, f.toAddr⟩ = some f.rate) →
      l.foldlM (fun s f => Payment.moveFlow ctx sign s (⟨addr, st, f.toAddr⟩, f.rate)) s = .ok s' →
      FlowCoherent R (pending sign addr st' r s' (moved ++ l)) ∧ I s'
  | [], moved, s, s', h, hI, _, _, hfold => by
    rw [List.foldlM_nil, pure_eq_ok] at hfold
    rw [List.append_nil, ← hfold]
    exact ⟨h, hI⟩
  | f :: l, moved, s, s', h, hI, hnodup, hstored, hfold => by
    rw [List.foldlM_cons, bind_eq_ok] at hfold
    obtain ⟨s₁, h₁, h₂⟩ := hfold
    obtain ⟨hf, hnodup⟩ := List.nodup_cons.1 hnodup
    have hfind := hstored f List.mem_cons_self
    have hstep := h.moveFlow hst hne hsign hfind h₁
    obtain ⟨haddr, hto⟩ :=
      h.domain ⟨addr, st, f.toAddr⟩ f.rate ((pending_find? hne moved s).trans hfind)
    have hI₁ : I s₁ := by
      have hearn := hstep.receiversEarn_pending haddr
      obtain ⟨s₂, hs₂, heq⟩ := bind_eq_ok.1 h₁
      cases heq
      exact hround s s₂ f haddr hto (h.receiversEarn_pending haddr) hearn hs₂ hI
    rw [show moved ++ f :: l = moved ++ [f] ++ l by simp]
    refine FlowCoherent.foldlM_moveFlow hst hne hsign I hround hstep hI₁ hnodup (fun g hg => ?_) h₂
    -- the flow that has been moved is not one of those still to come
    have hgf : (⟨addr, st, g.toAddr⟩ : OutFlowKey) ≠ ⟨addr, st, f.toAddr⟩ := fun heq => by
      have hto : g.toAddr = f.toAddr := congrArg OutFlowKey.toAddr heq
      exact hf (hto ▸ List.mem_map_of_mem hg)
    rw [(moveFlow_eq_ok h₁).1, find?_erase_of_ne _ hgf]
    exact hstored g (List.mem_cons_of_mem _ hg)

/-- The record a loop works on has the rates of the stored one. -/
structure SameFlows (r r' : StreamRecord) : Prop where
  netflowRate : r'.netflowRate = r.netflowRate
  frozenNetflowRate : r'.frozenNetflowRate = r.frozenNetflowRate
  outFlowCount : r'.outFlowCount = r.outFlowCount

/-- Before its first round a loop has nothing to write. -/
theorem FlowCoherent.pending_nil (h : FlowCoherent R s) (sign : ℤ) (status : OutFlowStatus)
    (hr : SameFlows (s.record addr) r)
    (hst : r.status = .active → (s.record addr).status = .active) :
    FlowCoherent R (pending sign addr status r s []) := by
  refine (h.put_self addr).put rfl (.refl s) ?_ ?_ hr.outFlowCount fun hact => Or.inl (hst hact)
  · simp [totalRate, hr.netflowRate]
  · simp [totalRate, hr.frozenNetflowRate]

/-- **A loop over the flows of a frozen account keeps coherence**, and whatever else its rounds
keep. -/
theorem FlowCoherent.moved_invariant (h : FlowCoherent R s) (st' : OutFlowStatus)
    (hr : SameFlows (s.record addr) r) (hst : r.status = .frozen) (hne : st ≠ st')
    (hsign : sign = if st' = .active then 1 else -1)
    (hm : Moved ctx max sign s addr st count acc finished) (I : State → Prop)
    (hround : MoveRound R ctx sign addr st I) (hI : I s) :
    FlowCoherent R (pending sign addr st' r acc.state acc.toUpdate) ∧ I acc.state := by
  have hstart : FlowCoherent R (pending sign addr st' r s []) := by
    refine h.pending_nil sign st' hr fun hact => ?_
    rw [hst] at hact
    cases hact
  exact FlowCoherent.foldlM_moveFlow hst hne hsign I hround hstart hI hm.nodup hm.stored hm.state

/-- A loop takes the flows it moves out of the store. -/
theorem find?_foldlM_moveFlow (k : OutFlowKey) :
    ∀ {l : List OutFlow} {s s' : State},
      l.foldlM (fun s f => moveFlow ctx sign s (⟨addr, st, f.toAddr⟩, f.rate)) s = .ok s' →
      s'.outFlows.find? k =
        if ∃ f ∈ l, k = ⟨addr, st, f.toAddr⟩ then none else s.outFlows.find? k
  | [], s, s', h => by
    rw [List.foldlM_nil, pure_eq_ok] at h
    simp [h]
  | f :: l, s, s', h => by
    rw [List.foldlM_cons, bind_eq_ok] at h
    obtain ⟨s₁, h₁, h₂⟩ := h
    rw [find?_foldlM_moveFlow k h₂, (moveFlow_eq_ok h₁).1, find?_erase]
    by_cases hf : k = ⟨addr, st, f.toAddr⟩
    · simp [hf]
    · simp [hf]

/-- A loop that ends before its bound leaves no flow of the old status. -/
theorem Moved.none_left (hm : Moved ctx max sign s addr st count acc true) (st' : OutFlowStatus)
    (hne : st ≠ st') (x : Addr) : (acc.store addr st').outFlows.find? ⟨addr, st, x⟩ = none := by
  have hstore : (acc.store addr st').outFlows.find? ⟨addr, st, x⟩ =
      acc.state.outFlows.find? ⟨addr, st, x⟩ := find?_foldl_setOutFlow (Or.inr hne) _ _
  rw [hstore, find?_foldlM_moveFlow _ hm.state]
  split_ifs with hmem
  · rfl
  · cases hs : s.outFlows.find? ⟨addr, st, x⟩ with
    | none => rfl
    | some v => exact absurd ⟨_, hm.all rfl x v hs, rfl⟩ hmem

/-- The frozen rate of an account that has been resumed altogether is zero. -/
theorem FlowCoherent.resumed_all (h : FlowCoherent R s)
    (hnone : ∀ x, s.outFlows.find? ⟨addr, .frozen, x⟩ = none) :
    (s.record addr).frozenNetflowRate = 0 := by
  by_cases ha : addr ∈ R
  · exact h.receiver_frozen addr ha
  · rw [h.payer_frozen addr ha, flowSum_eq_zero, neg_zero]
    rintro ⟨x, st, r⟩ ⟨rfl, rfl⟩
    exact hnone r

/-! ### The rounds of the queues -/

theorem record_of_find? (h : s.streamRecords.find? addr = some r) : s.record addr = r := by
  rw [State.record, h, Option.getD_some]

theorem SameFlows.of_find? (h : s.streamRecords.find? addr = some r) :
    SameFlows (s.record addr) r := by
  rw [record_of_find? h]
  exact ⟨rfl, rfl, rfl⟩

section Loops

variable (h : FlowCoherent R s) (hr : s.streamRecords.find? addr = some r)
include h hr

/-- **Freezing flows keeps coherence** and whatever else the rounds keep. -/
theorem FlowCoherent.frozen_invariant (hst : r.status = .frozen)
    (hm : Moved ctx max (-1) s addr .active count acc finished) (I : State → Prop)
    (hround : MoveRound R ctx (-1) addr .active I) (hI : I s) :
    FlowCoherent R (pending (-1) addr .frozen r acc.state acc.toUpdate) ∧ I acc.state :=
  h.moved_invariant .frozen (.of_find? hr) hst (by simp) (by simp) hm I hround hI

/-- An active account has nothing to resume. -/
theorem FlowCoherent.resumed_nil (hst : r.status = .active)
    (hm : Moved ctx max sign s addr .frozen count acc finished) :
    acc.toUpdate = [] ∧ acc.state = s ∧ acc.totalRate = 0 := by
  have hnil : acc.toUpdate = [] := by
    refine List.eq_nil_iff_forall_not_mem.2 fun f hf => ?_
    have hstored := hm.stored f hf
    rw [h.active_no_frozen addr (by rw [record_of_find? hr, hst])] at hstored
    cases hstored
  have hstate := hm.state
  rw [hnil, List.foldlM_nil, pure_eq_ok] at hstate
  exact ⟨hnil, hstate.symm, by rw [hm.total, hnil]; rfl⟩

/-- The record that `AutoResume` writes for an active account is the stored one. -/
theorem FlowCoherent.resumed_active {r' : StreamRecord}
    (hm : Moved ctx max sign s addr .frozen count acc finished)
    (hr' : r' = { r with
      netflowRate := r.netflowRate + -acc.totalRate
      frozenNetflowRate := r.frozenNetflowRate + acc.totalRate }) (hst : r.status = .active) :
    r' = r := by
  rw [hr', (h.resumed_nil hr hst hm).2.2, neg_zero, add_zero, add_zero]

/-- **Resuming flows keeps coherence** and whatever else the rounds keep, whatever the status of
the record. -/
theorem FlowCoherent.resumed_invariant (hm : Moved ctx max 1 s addr .frozen count acc finished)
    (I : State → Prop) (hround : MoveRound R ctx 1 addr .frozen I) (hI : I s) :
    FlowCoherent R (pending 1 addr .active r acc.state acc.toUpdate) ∧ ReceiversEarn R acc.state ∧
      I acc.state := by
  cases hst : r.status with
  | frozen =>
    exact h.moved_invariant .active (.of_find? hr) hst (by simp) (by simp) hm
      (fun s => ReceiversEarn R s ∧ I s)
      (fun s s' f haddr hto hearn hearn' hs hI => ⟨hearn', hround s s' f haddr hto hearn hearn' hs hI.2⟩)
      ⟨h.receiversEarn, hI⟩
  | active =>
    obtain ⟨hnil, hstate, -⟩ := h.resumed_nil hr hst hm
    rw [hnil, hstate]
    exact ⟨h.pending_nil 1 .active (.of_find? hr) fun _ => by rw [record_of_find? hr, hst],
      h.receiversEarn, hI⟩

theorem FlowCoherent.resumed (hm : Moved ctx max 1 s addr .frozen count acc finished) :
    FlowCoherent R (pending 1 addr .active r acc.state acc.toUpdate) :=
  (h.resumed_invariant hr hm (fun _ => True) (fun _ _ _ _ _ _ _ _ _ => trivial) trivial).1

theorem FlowCoherent.frozen (hst : r.status = .frozen)
    (hm : Moved ctx max (-1) s addr .active count acc finished) :
    FlowCoherent R (pending (-1) addr .frozen r acc.state acc.toUpdate) :=
  (h.frozen_invariant hr hst hm (fun _ => True) (fun _ _ _ _ _ _ _ _ _ => trivial) trivial).1

end Loops

/-- **Updating a stored record without a rate change keeps coherence.** -/
theorem FlowCoherent.updateStreamRecord {r' : StreamRecord} {c : StreamRecordChange}
    (h : FlowCoherent R s) (hr : s.streamRecords.find? addr = some r) (hc : c.rateChange = 0)
    (hcf : c.frozenRateChange = 0) (hu : Payment.updateStreamRecord ctx s addr r c = .ok (s', r')) :
    FlowCoherent R (s'.putStreamRecord addr r') := by
  obtain ⟨h₁, h₂, h₃, h₄⟩ := (updated_of_updateStreamRecord hu).rates
  refine h.update (updateStreamRecord_frame hu).outFlows (updateStreamRecord_sameRates hu) ?_ ?_ ?_
    fun hact => ?_
  all_goals rw [record_of_find? hr]
  · rw [h₁, hc, add_zero]
  · exact h₃ hcf
  · exact h₂
  · exact Or.inl (h₄ hact)

section

variable (h : FlowCoherent R s) (hr : s.streamRecords.find? record.addr = some r)
include h hr

/-- **Freezing flows keeps coherence.** -/
theorem FlowCoherent.settleFlows {max : ℕ} (hst : r.status = .frozen)
    (hs : Payment.settleFlows ctx max s record r count = .ok (s', count')) : FlowCoherent R s' := by
  rcases settleFlows_eq_ok hs with ⟨-, rfl, -⟩ | ⟨-, acc, finished, r', hm, rfl, -, -, -, rfl⟩
  · exact h
  · have hp := h.frozen hr hst hm
    refine FlowCoherent.put hp ?_ (.of_streamRecords ?_) ?_ ?_ rfl fun hact => ?_
    · cases finished <;> rfl
    · cases finished <;> rfl
    · simp [hm.total]
    · simp [hm.total]
    · rw [hst] at hact
      cases hact

/-- **A round of `AutoSettle` keeps coherence.** -/
theorem FlowCoherent.autoSettleRecord {max : ℕ} {stop : Bool}
    (hs : Payment.autoSettleRecord ctx max s record r count = .ok (s', count', stop)) :
    FlowCoherent R s' := by
  rcases autoSettleRecord_eq_ok hs with ⟨hst, -, hset⟩ | ⟨-, rfl, -⟩ |
    ⟨hst, s₁, r₁, hu, -, ⟨rfl, -, -⟩ | ⟨hst₁, -, -, hset⟩⟩
  · exact h.settleFlows hr hst hset
  · exact h
  · exact h.updateStreamRecord hr rfl rfl hu
  · refine (h.updateStreamRecord hr rfl rfl hu).settleFlows ?_ hst₁ hset
    exact find?_insert_self _ _ _

/-- **A round of `AutoResume` keeps coherence.** -/
theorem FlowCoherent.autoResumeRecord {max : ℕ}
    (hs : Payment.autoResumeRecord ctx max s record r count = .ok (s', count')) :
    FlowCoherent R s' := by
  obtain ⟨acc, finished, r', hm, rfl, -, hend⟩ := autoResumeRecord_eq_ok hs
  have hp := h.resumed hr hm
  rcases hend with ⟨-, -, rfl⟩ | ⟨rfl, -, s₁, r₁, hu, -, rfl⟩
  · refine FlowCoherent.put hp rfl (.of_streamRecords rfl) ?_ ?_ rfl fun hact => Or.inl hact
    · simp [hm.total, sub_eq_add_neg]
    · simp [hm.total]
  · obtain ⟨h₁, h₂, h₃, -⟩ := (updated_of_updateStreamRecord hu).rates
    refine FlowCoherent.put hp (updateStreamRecord_frame hu).outFlows
      ((updateStreamRecord_sameRates hu).trans (.of_streamRecords rfl)) ?_ ?_ h₂
      fun _ => Or.inr (hm.none_left .active (by simp))
    · rw [h₁]
      simp [hm.total, sub_eq_add_neg]
    · rw [h₃ rfl]
      simp [hm.total]

end

/-- **`EndBlock` keeps coherence.** -/
theorem FlowCoherent.endBlock (h : FlowCoherent R s) (hs : Payment.endBlock ctx s = .ok s') :
    FlowCoherent R s' := by
  obtain ⟨s₁, h₁, h₂⟩ := bind_eq_ok.1 hs
  have hresume : FlowCoherent R s₁ :=
    autoResumeLoop_invariant (FlowCoherent R) (fun e _ s r count s' count' h hr hround =>
      h.autoResumeRecord hr hround) h h₁
  exact autoSettleLoop_invariant (FlowCoherent R) (fun e _ s r count s' count' stop h hr _ hround =>
    h.autoSettleRecord hr hround) hresume h₂

/-! ### `TryResumeStreamRecord` -/

/-- An account without active or frozen rate has no flow. -/
theorem FlowCoherent.no_flow (h : FlowCoherent R s)
    (hrate : (s.record addr).netflowRate + (s.record addr).frozenNetflowRate = 0) (x : Addr) :
    s.outFlows.find? ⟨addr, .frozen, x⟩ = none := by
  by_cases ha : addr ∈ R
  · cases hf : s.outFlows.find? ⟨addr, .frozen, x⟩ with
    | none => rfl
    | some v => exact absurd ha (h.domain _ _ hf).1
  · rw [h.payer_rate addr ha, h.payer_frozen addr ha] at hrate
    have h₁ := flowSum_nonneg h.rate_pos (ActiveOf addr)
    have h₂ := flowSum_nonneg h.rate_pos (FrozenOf addr)
    exact find?_eq_none_of_flowSum_eq_zero (P := FrozenOf addr) h.rate_pos (by omega) ⟨rfl, rfl⟩

/-- **`TryResumeStreamRecord` keeps coherence.** -/
theorem FlowCoherent.tryResumeStreamRecord {deposit : ℤ} (h : FlowCoherent R s)
    (hr : s.streamRecords.find? addr = some r)
    (hs : Payment.tryResumeStreamRecord ctx s addr r deposit = .ok s') : FlowCoherent R s' := by
  obtain ⟨hst, -, hres⟩ := resumed_of_eq_ok hs
  have hrec := record_of_find? hr
  cases hres with
  | idle hrate _ =>
    refine h.update rfl (.refl s) ?_ ?_ ?_ fun _ => Or.inr (h.no_flow (by rw [hrec, hrate]))
    all_goals rw [hrec]; rfl
  | short _ _ _ =>
    refine h.update rfl (.refl s) ?_ ?_ ?_ fun hact => Or.inl ?_
    all_goals rw [hrec]
    · rfl
    · rfl
    · rfl
    · exact hact
  | @direct acc finished expected duration r' _ _ _ _ _ hm hr' _ =>
    have hp := h.resumed hr hm
    -- without a bound the loop comes to the end
    have hfin : finished = true := by
      cases finished with
      | true => rfl
      | false => simpa using hm.full rfl
    subst hfin
    have hnone : ∀ x, (acc.store addr .active).outFlows.find? ⟨addr, .frozen, x⟩ = none :=
      hm.none_left .active (by simp)
    have hzero := hp.resumed_all hnone
    rw [record_pending, if_pos rfl] at hzero
    dsimp only at hzero
    refine (FlowCoherent.put hp rfl (.refl _) ?_ ?_ ?_ fun _ => Or.inr hnone).of_eq
      (updateAutoSettleRecord_frame _ _ _ _).outFlows (updateAutoSettleRecord_streamRecords _ _ _ _)
    · rw [hr']
      dsimp only
      omega
    · rw [hr']
      exact hzero.symm
    · rw [hr']
      rfl
  | queued _ _ _ _ _ hr' _ =>
    rw [hr']
    refine FlowCoherent.of_eq (h.update rfl (.refl s) ?_ ?_ ?_ fun hact => Or.inl ?_) rfl rfl
    all_goals rw [hrec]
    · rfl
    · rfl
    · rfl
    · exact hact

/-! ### `ApplyUserFlowsList` -/

/-- Flow changes of one payer that a charge may ask for in the store `s`: from a payer to
receivers, not zero, and taking no rate below zero. -/
structure ChargeFits (R : Set Addr) (m : OutFlows) (u : UserFlows) : Prop where
  payer : u.fromAddr ∉ R
  receivers : ∀ f ∈ u.flows, f.toAddr ∈ R
  ne_zero : ∀ f ∈ u.flows, f.rate ≠ 0
  nonneg : ∀ r, 0 ≤ flowTotal m u.fromAddr r + deltaTo u.flows r

/-- **A round of `ApplyUserFlowsList` keeps coherence.** -/
theorem FlowCoherent.applyUserFlows (h : FlowCoherent R s) (hu : ChargeFits R s.outFlows u)
    (hs : Payment.applyUserFlows ctx s u = .ok s') : FlowCoherent R s' := by
  obtain ⟨A, F, s₁, r₁, happ, hsplit⟩ := applied_of_applyUserFlows hs
  have hmem : ∀ f ∈ A ++ F, f ∈ u.flows := by
    intro f hf
    rcases hsplit with ⟨-, rfl, rfl⟩ | ⟨-, -, rfl, rfl⟩
    · simpa using hf
    · rcases List.mem_append.1 hf with hf | hf <;> exact (List.mem_filter.1 hf).1
  have hchange : FlowChange s.outFlows u.fromAddr A F := by
    rcases hsplit with ⟨hst, rfl, rfl⟩ | ⟨-, -, rfl, rfl⟩
    · exact ⟨h.rate_pos, fun f hf => hu.ne_zero f (hmem f hf),
        fun f _ => h.active_no_frozen _ hst _, by simp, by simp, by simpa using hu.nonneg⟩
    · refine ⟨h.rate_pos, fun f hf => hu.ne_zero f (hmem f hf), fun f hf => ?_, fun f hf => ?_,
        fun f hf g hg hfg => ?_, fun r => ?_⟩
      · have hact := (List.mem_filter.1 hf).2
        have hexcl := h.exclusive u.fromAddr f.toAddr
        rw [hasActiveFlow, SortedMap.contains, Option.isSome_iff_ne_none] at hact
        exact hexcl.resolve_left hact
      · simpa [hasActiveFlow, SortedMap.contains] using (List.mem_filter.1 hf).2
      · have hf := (List.mem_filter.1 hf).2
        have hg := (List.mem_filter.1 hg).2
        rw [hasActiveFlow, hfg] at hf
        rw [hasActiveFlow, hf] at hg
        cases hg
      · rw [add_assoc, deltaTo_filter_add]
        exact hu.nonneg r
  obtain ⟨hr₁, hr₂, hr₃, hr₄⟩ := (updated_of_updateStreamRecord happ.updated).rates
  have hsame := updateStreamRecord_sameRates happ.updated
  have hflows := (updateStreamRecord_frame happ.updated).outFlows
  obtain ⟨hframe, hrates⟩ := applyStreamRecordChanges_rates happ.receivers
  rw [getStreamRecord_eq] at hr₁ hr₂ hr₃ hr₄
  dsimp only at hr₁ hr₂ hr₃ hr₄
  -- the frozen rate of the payer changes in its frozen record only
  have hfrozen : r₁.frozenNetflowRate = (s.record u.fromAddr).frozenNetflowRate - totalRate F := by
    rcases hsplit with ⟨-, -, rfl⟩ | ⟨hst, -, -, -⟩
    · rw [hr₃ (by simp [totalRate])]
      simp [totalRate]
    · have hst' : (getStreamRecord ctx s u.fromAddr).status = .frozen := by
        rw [getStreamRecord_eq]
        exact hst
      have hup := updated_of_updateStreamRecord happ.updated
      cases hup with
      | frozen _ _ =>
        rw [getStreamRecord_eq]
        simp [StreamRecord.applyFrozen, sub_eq_add_neg]
      | kept hact _ _ _ => simp [hst'] at hact
      | settled hact _ _ _ _ _ _ _ => simp [hst'] at hact
  refine h.merge hu.payer (fun f hf => hu.receivers f (hmem f hf)) hchange happ.outFlows
    (fun x => ?_) (fun x => ?_) (fun x => ?_) (fun x hx => ?_) ?_
  · rw [(hrates x).1, record_putStreamRecord]
    split_ifs with hx
    · rw [hr₁, hx]
      ring
    · rw [sub_zero, ← hsame.netflowRate x]
      rfl
  · rw [(hrates x).2.1, record_putStreamRecord]
    split_ifs with hx
    · rw [hx]
      exact hfrozen
    · rw [sub_zero, ← hsame.frozenNetflowRate x]
      rfl
  · rw [(hrates x).2.2.1, record_putStreamRecord]
    split_ifs with hx
    · rw [hx, ← hr₂, ← hflows, add_assoc]
    · rw [add_zero, ← hsame.outFlowCount x]
      rfl
  · have hx := (hrates x).2.2.2 hx
    rw [record_putStreamRecord] at hx
    split_ifs at hx with hxa
    · rw [hxa]
      exact hr₄ hx
    · exact hsame.status x hx
  · rcases hsplit with ⟨-, -, rfl⟩ | ⟨hst, -, -, -⟩
    · exact Or.inl rfl
    · right
      cases hs' : (s'.record u.fromAddr).status with
      | frozen => rfl
      | active =>
        have hx := (hrates u.fromAddr).2.2.2 hs'
        rw [record_putStreamRecord, if_pos rfl] at hx
        rw [hr₄ hx] at hst
        cases hst

/-- **Updating the receivers of a charge** keeps what each update keeps: every receiver is
updated once, and none pays before or after. -/
theorem foldlM_receivers_invariant (I : State → Prop)
    (hround : ∀ s c s', c.addr ∈ R → c = { addr := c.addr, rateChange := c.rateChange } →
      ReceiversEarn R s → 0 ≤ (s.record c.addr).netflowRate + c.rateChange →
      updateStreamRecordByAddr ctx s c = .ok s' → I s → I s') :
    ∀ {changes : List StreamRecordChange} {s s' : State},
      (changes.map StreamRecordChange.addr).Nodup →
      (∀ c ∈ changes, c.addr ∈ R ∧ c = { addr := c.addr, rateChange := c.rateChange }) →
      ReceiversEarn R s → ReceiversEarn R s' → I s →
      changes.foldlM (updateStreamRecordByAddr ctx) s = .ok s' → I s'
  | [], s, s', _, _, _, _, hI, hs => by
    rw [List.foldlM_nil, pure_eq_ok] at hs
    exact hs ▸ hI
  | c :: changes, s, s', hnodup, hchanges, hearn, hearn', hI, hs => by
    rw [List.foldlM_cons, bind_eq_ok] at hs
    obtain ⟨s₁, h₁, h₂⟩ := hs
    obtain ⟨hc, hnodup⟩ := List.nodup_cons.1 hnodup
    obtain ⟨hcR, hcz⟩ := hchanges c List.mem_cons_self
    have hrest := fun c' hc' => hchanges c' (List.mem_cons_of_mem _ hc')
    have hrates := updateStreamRecordByAddrDepth_rates _ h₁ (by rw [hcz])
    have hfinal := (foldlM_updateStreamRecordByAddr_rates
      (fun c' hc' => by rw [(hrest c' hc').2]) h₂).2
    -- the later changes leave the rate of this receiver as it is
    have hzero : rateChangeOf changes c.addr = 0 := by
      refine List.sum_eq_zero fun x hx => ?_
      obtain ⟨c', hc', rfl⟩ := List.mem_map.1 hx
      have hne : c'.addr ≠ c.addr := fun heq => hc (heq ▸ List.mem_map_of_mem hc')
      exact if_neg hne
    have hself : 0 ≤ (s.record c.addr).netflowRate + c.rateChange := by
      have h₃ := hearn' c.addr hcR
      have h₄ := (hrates c.addr).1
      rw [(hfinal c.addr).1, hzero, add_zero, h₄, if_pos rfl] at h₃
      exact h₃
    refine foldlM_receivers_invariant I hround hnodup hrest (fun x hx => ?_) hearn'
      (hround s c s₁ hcR hcz hearn hself h₁ hI) h₂
    rw [(hrates x).1]
    split_ifs with hxc
    · rw [hxc]
      exact hself
    · rw [add_zero]
      exact hearn x hx

/-- **A round of a charge** keeps what its updates keep: the payer's record is updated and
written, and then the receivers are updated. -/
theorem FlowCoherent.applyUserFlows_invariant (h : FlowCoherent R s)
    (hu : ChargeFits R s.outFlows u) (I : State → Prop)
    (hpayer : ∀ A F s₁ r₁, ((s.record u.fromAddr).status = .frozen →
        ∀ f ∈ A, hasActiveFlow s.outFlows u.fromAddr f = true) →
      Payment.updateStreamRecord ctx s u.fromAddr (getStreamRecord ctx s u.fromAddr)
        { addr := u.fromAddr, rateChange := -totalRate A, frozenRateChange := -totalRate F } =
          .ok (s₁, r₁) → ∀ n, checkStreamRecord { r₁ with outFlowCount := n } = true →
      I ({ s₁ with outFlows := mergeBoth s₁.outFlows u.fromAddr A F }.putStreamRecord u.fromAddr
        { r₁ with outFlowCount := n }))
    (hround : ∀ s c s', c.addr ∈ R → c = { addr := c.addr, rateChange := c.rateChange } →
      ReceiversEarn R s → 0 ≤ (s.record c.addr).netflowRate + c.rateChange →
      updateStreamRecordByAddr ctx s c = .ok s' → I s → I s')
    (hs : Payment.applyUserFlows ctx s u = .ok s') : I s' := by
  have h' := h.applyUserFlows hu hs
  obtain ⟨A, F, s₁, r₁, happ, hsplit⟩ := applied_of_applyUserFlows hs
  have hmem : ∀ f ∈ A ++ F, f ∈ u.flows := by
    intro f hf
    rcases hsplit with ⟨-, rfl, rfl⟩ | ⟨-, -, rfl, rfl⟩
    · simpa using hf
    · rcases List.mem_append.1 hf with hf | hf <;> exact (List.mem_filter.1 hf).1
  have hact : (s.record u.fromAddr).status = .frozen →
      ∀ f ∈ A, hasActiveFlow s.outFlows u.fromAddr f = true := by
    intro hst f hf
    rcases hsplit with ⟨hst', -, -⟩ | ⟨-, -, rfl, -⟩
    · rw [hst] at hst'
      cases hst'
    · exact (List.mem_filter.1 hf).2
  refine foldlM_receivers_invariant I hround (mergeStreamRecordChanges_nodup ctx _) (fun c hc => ?_)
    (fun x hx => ?_) h'.receiversEarn (hpayer A F s₁ r₁ hact happ.updated _ happ.check)
    happ.receivers
  · obtain ⟨hcz, f, hf, hfc⟩ := of_mem_mergeStreamRecordChanges hc
    exact ⟨hfc ▸ hu.receivers f (hmem f (List.mem_append_left _ hf)), hcz⟩
  · have hne : x ≠ u.fromAddr := fun heq => hu.payer (heq ▸ hx)
    have hsame := (updateStreamRecord_sameRates happ.updated).netflowRate x
    rw [record_putStreamRecord, if_neg hne]
    change 0 ≤ (s₁.record x).netflowRate
    rw [hsame]
    exact h.receiversEarn x hx

/-- The rounds of `ApplyUserFlowsList` keep coherence, and whatever else a round keeps: a round
leaves the flows of the payers still to come as they are. -/
theorem FlowCoherent.foldlM_applyUserFlows (I : State → Prop)
    (hround : ∀ s u s', FlowCoherent R s → ChargeFits R s.outFlows u →
      Payment.applyUserFlows ctx s u = .ok s' → I s → I s') :
    ∀ {l : List UserFlows} {s s' : State}, FlowCoherent R s → I s →
      (l.map UserFlows.fromAddr).Nodup → (∀ u ∈ l, ChargeFits R s.outFlows u) →
      l.foldlM (Payment.applyUserFlows ctx) s = .ok s' → FlowCoherent R s' ∧ I s'
  | [], s, s', h, hI, _, _, hs => by
    rw [List.foldlM_nil, pure_eq_ok] at hs
    exact hs ▸ ⟨h, hI⟩
  | u :: l, s, s', h, hI, hnodup, hfits, hs => by
    rw [List.foldlM_cons, bind_eq_ok] at hs
    obtain ⟨s₁, h₁, h₂⟩ := hs
    obtain ⟨hu, hnodup⟩ := List.nodup_cons.1 hnodup
    have hufit := hfits u List.mem_cons_self
    refine FlowCoherent.foldlM_applyUserFlows I hround (h.applyUserFlows hufit h₁)
      (hround s u s₁ h hufit h₁ hI) hnodup (fun v hv => ?_) h₂
    have hfit := hfits v (List.mem_cons_of_mem _ hv)
    have hne : u.fromAddr ≠ v.fromAddr := fun heq => hu (heq ▸ List.mem_map_of_mem hv)
    refine ⟨hfit.payer, hfit.receivers, hfit.ne_zero, fun r => ?_⟩
    rw [flowTotal_applyUserFlows h₁, if_neg hne, add_zero]
    exact hfit.nonneg r

/-- Flow changes that a call of `ApplyUserFlowsList` may ask for: they go from payers to
receivers, are not zero, and take no rate from a payer to a receiver below zero. -/
structure FlowsFit (R : Set Addr) (s : State) (l : List UserFlows) : Prop where
  payers : ∀ u ∈ l, u.fromAddr ∉ R
  receivers : ∀ u ∈ l, ∀ f ∈ u.flows, f.toAddr ∈ R
  ne_zero : ∀ u ∈ l, ∀ f ∈ u.flows, f.rate ≠ 0
  nonneg : ∀ a r, 0 ≤ flowTotal s.outFlows a r + userDelta l a r

theorem userDelta_of_mem (hnodup : (l.map UserFlows.fromAddr).Nodup) (hu : u ∈ l) (r : Addr) :
    userDelta l u.fromAddr r = deltaTo u.flows r := by
  induction l with
  | nil => cases hu
  | cons v l ih =>
    obtain ⟨hv, hnodup⟩ := List.nodup_cons.1 hnodup
    unfold userDelta at ih ⊢
    rw [List.map_cons, List.sum_cons]
    rcases List.mem_cons.1 hu with rfl | hu
    · rw [if_pos rfl, List.sum_eq_zero, add_zero]
      intro x hx
      obtain ⟨w, hw, rfl⟩ := List.mem_map.1 hx
      have hne : w.fromAddr ≠ u.fromAddr := fun heq => hv (heq ▸ List.mem_map_of_mem hw)
      exact if_neg hne
    · have hne : v.fromAddr ≠ u.fromAddr := fun heq => hv (heq ▸ List.mem_map_of_mem hu)
      rw [if_neg hne, zero_add, ih hnodup hu]

/-- **`ApplyUserFlowsList` keeps coherence**, and whatever else its rounds keep. -/
theorem FlowCoherent.applyUserFlowsList_invariant (h : FlowCoherent R s) (hl : FlowsFit R s l)
    (I : State → Prop)
    (hround : ∀ s u s', FlowCoherent R s → ChargeFits R s.outFlows u →
      Payment.applyUserFlows ctx s u = .ok s' → I s → I s') (hI : I s)
    (hs : Payment.applyUserFlowsList ctx s l = .ok s') : FlowCoherent R s' ∧ I s' := by
  have hnodup := mergeUserFlows_nodup ctx l
  refine h.foldlM_applyUserFlows I hround hI hnodup (fun u hu => ?_) hs
  obtain ⟨⟨v, hv, hfrom⟩, hto, hne⟩ := exists_of_mem_mergeUserFlows hu
  refine ⟨hfrom ▸ hl.payers v hv, fun f hf => ?_, hne hl.ne_zero, fun r => ?_⟩
  · obtain ⟨w, hw, -, g, hg, hgf⟩ := hto f hf
    exact hgf ▸ hl.receivers w hw g hg
  · rw [← userDelta_of_mem hnodup hu, userDelta_mergeUserFlows]
    exact hl.nonneg _ r

theorem FlowCoherent.applyUserFlowsList (h : FlowCoherent R s) (hl : FlowsFit R s l)
    (hs : Payment.applyUserFlowsList ctx s l = .ok s') : FlowCoherent R s' :=
  (h.applyUserFlowsList_invariant hl (fun _ => True) (fun _ _ _ _ _ _ _ => trivial) trivial hs).1

/-! ### Messages and runs -/

theorem FlowCoherent.bankMove {x : ℤ} (h : FlowCoherent R s) (hs : s.BankMove s' x) :
    FlowCoherent R s' := by
  rw [hs.eq]
  exact h.of_eq rfl rfl

/-- The flow changes of an operation fit the store. -/
def Op.FlowsFit (R : Set Addr) (s : State) : Op → Prop
  | .applyUserFlowsList _ l => Payment.FlowsFit R s l
  | _ => True

/-- **Every operation keeps coherence.** -/
theorem FlowCoherent.run {op : Op} (h : FlowCoherent R s) (hop : op.FlowsFit R s)
    (hs : op.run ctx s = .ok s') : FlowCoherent R s' := by
  cases op.ran hs with
  | @opened _ toAddr _ _ s₁ hbank hnone _ =>
    have hrec : s₁.record toAddr = newStreamRecord 0 := by rw [State.record, hnone, Option.getD_none]
    refine (h.bankMove hbank).update rfl (.refl s₁) ?_ ?_ ?_ fun _ => Or.inl ?_
    all_goals rw [hrec]; rfl
  | updated hbank hr _ hu _ hpay =>
    exact ((h.bankMove hbank).updateStreamRecord hr rfl rfl hu).bankMove hpay
  | claimed hbank => exact h.bankMove hbank
  | resumed hbank hr hres => exact (h.bankMove hbank).tryResumeStreamRecord hr hres
  | tried hr hres => exact h.tryResumeStreamRecord hr hres
  | charged hs => exact h.applyUserFlowsList hop hs
  | configured hsame _ => exact h.of_eq hsame.outFlows hsame.streamRecords
  | ended hs => exact h.endBlock hs

/-- The states that operations with fitting flow changes lead to, from an empty store. -/
def FlowReachable (R : Set Addr) (p : Params) (balance : Addr → ℤ) (time : ℤ) (c : Chain) : Prop :=
  Reachable Chain.exec (fun c l => l.2.FlowsFit R c.state)
    ⟨State.empty p balance, time⟩ c

theorem FlowReachable.coherent {p : Params} {balance : Addr → ℤ} {time : ℤ} {c : Chain}
    (h : FlowReachable R p balance time c) : FlowCoherent R c.state := by
  refine Reachable.invariant (fun c => FlowCoherent R c.state) (flowCoherent_empty R p balance)
    (fun c l c' hc hfit hstep => ?_) h
  obtain ⟨-, -, hrun | hsame⟩ := step_eq_some hstep
  · exact hc.run hfit hrun
  · rw [hsame]
    exact hc

/-- **Flow ledger coherence.**  In every reachable state the rate of a payer is minus the sum of
its active flows, its frozen rate minus the sum of its frozen flows, and its flow count their
number; no receiver is paid by one payer under both statuses, every stored rate is positive, and
the rate of a receiver is the sum of the active flows to it. -/
theorem flow_ledger_coherence (R : Set Addr) (p : Params) (balance : Addr → ℤ) (time : ℤ)
    (c : Chain) (h : FlowReachable R p balance time c) :
    (∀ a ∉ R,
      (c.state.record a).netflowRate =
          -flowSum c.state.outFlows (fun k => k.addr = a ∧ k.status = .active) ∧
        (c.state.record a).frozenNetflowRate =
          -flowSum c.state.outFlows (fun k => k.addr = a ∧ k.status = .frozen) ∧
        (c.state.record a).outFlowCount = flowCount c.state.outFlows (fun k => k.addr = a) ∧
        ∀ r, c.state.outFlows.find? ⟨a, .active, r⟩ = none ∨
          c.state.outFlows.find? ⟨a, .frozen, r⟩ = none) ∧
      (∀ k v, c.state.outFlows.find? k = some v → 0 < v ∧ k.addr ∉ R ∧ k.toAddr ∈ R) ∧
      ∀ r ∈ R, (c.state.record r).netflowRate =
        flowSum c.state.outFlows (fun k => k.toAddr = r ∧ k.status = .active) := by
  have hc := h.coherent
  refine ⟨fun a ha => ⟨hc.payer_rate a ha, hc.payer_frozen a ha, hc.payer_count a ha,
    hc.exclusive a⟩, fun k v hk => ⟨hc.rate_pos k v hk, hc.domain k v hk⟩, hc.receiver_rate⟩

/-! ### A settlement over two blocks -/

/-- Parameters under which a block settles one account and freezes one flow of it. -/
def smallParams : Params where
  versionedParams := { reserveTime := 100, validatorTaxRate := 0 }
  forcedSettleTime := 10
  paymentAccountCountLimit := 200
  maxAutoSettleFlowCount := 2
  maxAutoResumeFlowCount := 1
  withdrawTimeLockThreshold := 10 ^ 20
  withdrawTimeLockDuration := 86400

/-- A block in which account 1 exists. -/
def smallCtx (time : ℤ) : Ctx where
  blockTime := time
  hasAccount a := decide (a = 1)

/-- The start of a run: account 1 has some coins in the bank. -/
def smallChain (coins : ℤ) : Chain where
  state := State.empty smallParams fun a => if a = 1 then coins else 0
  time := 0

/-- Account 1 is charged for two flows of rate 1. -/
def twoFlows : List UserFlows := [⟨1, [⟨10, 1⟩, ⟨11, 1⟩]⟩]

/-- The addresses from 10 on receive flows. -/
abbrev smallReceivers : Set Addr := {r | 10 ≤ r}

/-- Flows of positive rates fit a store without flows. -/
theorem FlowsFit.of_pos (h : s.outFlows = .empty)
    (hl : ∀ u ∈ l, u.fromAddr ∉ R ∧ ∀ f ∈ u.flows, f.toAddr ∈ R ∧ 0 < f.rate) :
    FlowsFit R s l where
  payers u hu := (hl u hu).1
  receivers u hu f hf := ((hl u hu).2 f hf).1
  ne_zero u hu f hf := ((hl u hu).2 f hf).2.ne'
  nonneg a r := by
    have hzero : flowTotal s.outFlows a r = 0 := by
      rw [h]
      rfl
    rw [hzero, zero_add]
    refine List.sum_nonneg fun x hx => ?_
    obtain ⟨u, hu, rfl⟩ := List.mem_map.1 hx
    split_ifs
    · refine List.sum_nonneg fun y hy => ?_
      obtain ⟨f, hf, rfl⟩ := List.mem_map.1 hy
      split_ifs
      · exact ((hl u hu).2 f hf).2.le
      · exact le_rfl
    · exact le_rfl

theorem flow_ledger_coherence_settling :
    ∃ c, runSteps Chain.exec (smallChain 200)
        [(smallCtx 1000, .applyUserFlowsList false twoFlows), (smallCtx 1090, .endBlock)] = some c ∧
      (c.state.record 1).netflowRate =
        -flowSum c.state.outFlows (fun k => k.addr = 1 ∧ k.status = .active) := by
  refine Option.exists_some_of (fun _ => True) (by decide) fun c hc _ => ?_
  have hreach : FlowReachable smallReceivers smallParams (smallChain 200).state.balance 0 c := by
    refine Reachable.of_runSteps .start ?_ hc
    exact ⟨.of_pos rfl (by decide), fun _ _ => ⟨trivial, fun _ _ => trivial⟩⟩
  exact ((flow_ledger_coherence _ _ _ _ c hreach).1 1 (by simp [smallReceivers])).1

end Moca.Payment
