/-
# What `ApplyUserFlowsList` does

A round of `ApplyUserFlowsList` splits the flow changes of a payer into those for its
active flows and those for its frozen flows, updates the payer's record, merges both
parts into the stored flows, and updates the receivers of the first part.  Whatever the
split, the rate from the payer to a receiver, under both statuses, changes by the sum
of the changes to that receiver (`flowTotal_applyUserFlows`).
-/

import Moca.Payment.Merge

namespace Moca.Payment

/-! ### Merging both parts of a change -/

/-- The flows after the changes `A` went to the active and the changes `F` to the frozen flows
of `a`. -/
def mergeBoth (m : OutFlows) (a : Addr) (A F : List OutFlow) : OutFlows :=
  (mergeOutFlows a .frozen F (mergeOutFlows a .active A m).1).1

section MergeBoth

variable {a : Addr}

/-- The flows of other payers stay. -/
theorem mergeBoth_find? (m : OutFlows) (A F : List OutFlow) {k : OutFlowKey} (hk : k.addr ≠ a) :
    (mergeBoth m a A F).find? k = m.find? k := by
  unfold mergeBoth
  rw [mergeOutFlows_find? a .frozen F _ (Or.inl hk), mergeOutFlows_find? a .active A _ (Or.inl hk)]

theorem mergeBoth_active (m : OutFlows) (A F : List OutFlow) (r : Addr) :
    rateAt (mergeBoth m a A F) a .active r = rateAt m a .active r + deltaTo A r := by
  rw [← mergeOutFlows_rate]
  unfold rateAt mergeBoth
  rw [mergeOutFlows_find? a .frozen F _ (Or.inr (by simp))]

theorem mergeBoth_frozen (m : OutFlows) (A F : List OutFlow) (r : Addr) :
    rateAt (mergeBoth m a A F) a .frozen r = rateAt m a .frozen r + deltaTo F r := by
  unfold mergeBoth
  rw [mergeOutFlows_rate]
  unfold rateAt
  rw [mergeOutFlows_find? a .active A _ (Or.inr (by simp))]

theorem mergeBoth_flowSum (m : OutFlows) (A F : List OutFlow) (P : OutFlowKey → Prop)
    [DecidablePred P] : flowSum (mergeBoth m a A F) P =
      flowSum m P + changeSum a .active A P + changeSum a .frozen F P := by
  unfold mergeBoth
  rw [mergeOutFlows_flowSum, mergeOutFlows_flowSum]

/-- Together the rates change by both parts. -/
theorem flowTotal_mergeBoth (m : OutFlows) (A F : List OutFlow) (x r : Addr) :
    flowTotal (mergeBoth m a A F) x r =
      flowTotal m x r + if a = x then deltaTo A r + deltaTo F r else 0 := by
  unfold flowTotal
  split_ifs with hx
  · subst hx
    rw [mergeBoth_active, mergeBoth_frozen]
    omega
  · unfold rateAt
    rw [mergeBoth_find? m A F (Ne.symm hx), mergeBoth_find? m A F (Ne.symm hx), add_zero]

end MergeBoth

/-! ### The receivers -/

variable {ctx : Ctx} {s s' : State} {u : UserFlows}

/-- **Updating a list of addresses** adds to each rate its rate changes. -/
theorem foldlM_updateStreamRecordByAddr_rates :
    ∀ {changes : List StreamRecordChange} {s s' : State},
      (∀ c ∈ changes, c.frozenRateChange = 0) →
      changes.foldlM (updateStreamRecordByAddr ctx) s = .ok s' →
      s.Frame s' ∧ ∀ x,
        (s'.record x).netflowRate = (s.record x).netflowRate + rateChangeOf changes x ∧
          (s'.record x).frozenNetflowRate = (s.record x).frozenNetflowRate ∧
          (s'.record x).outFlowCount = (s.record x).outFlowCount ∧
          ((s'.record x).status = .active → (s.record x).status = .active)
  | [], s, s', _, h => by
    rw [List.foldlM_nil, pure_eq_ok] at h
    subst h
    exact ⟨.refl s, fun x => ⟨by simp [rateChangeOf], rfl, rfl, id⟩⟩
  | c :: changes, s, s', hz, h => by
    rw [List.foldlM_cons, bind_eq_ok] at h
    obtain ⟨s₁, h₁, h₂⟩ := h
    have hc := updateStreamRecordByAddrDepth_rates _ h₁ (hz c List.mem_cons_self)
    obtain ⟨hframe, hrest⟩ := foldlM_updateStreamRecordByAddr_rates
      (fun c hc => hz c (List.mem_cons_of_mem _ hc)) h₂
    refine ⟨(updateStreamRecordByAddrDepth_frame _ h₁).trans hframe, fun x => ?_⟩
    obtain ⟨r₁, r₂, r₃, r₄⟩ := hrest x
    obtain ⟨c₁, c₂, c₃, c₄⟩ := hc x
    refine ⟨?_, r₂.trans c₂, r₃.trans c₃, fun hx => c₄ (r₄ hx)⟩
    rw [r₁, c₁]
    unfold rateChangeOf
    rw [List.map_cons, List.sum_cons, add_assoc]
    simp only [eq_comm]

/-- The receivers of flows gain their rates. -/
theorem applyStreamRecordChanges_rates {flows : List OutFlow}
    (h : applyStreamRecordChanges ctx s (rateChanges flows) = .ok s') : s.Frame s' ∧ ∀ x,
      (s'.record x).netflowRate = (s.record x).netflowRate + deltaTo flows x ∧
        (s'.record x).frozenNetflowRate = (s.record x).frozenNetflowRate ∧
        (s'.record x).outFlowCount = (s.record x).outFlowCount ∧
        ((s'.record x).status = .active → (s.record x).status = .active) := by
  have hz : ∀ c ∈ mergeStreamRecordChanges ctx (rateChanges flows), c.frozenRateChange = 0 :=
    fun c hc => by rw [(of_mem_mergeStreamRecordChanges hc).1]
  obtain ⟨hframe, hrates⟩ := foldlM_updateStreamRecordByAddr_rates hz h
  refine ⟨hframe, fun x => ?_⟩
  rw [← rateChangeOf_rateChanges, ← rateChangeOf_mergeStreamRecordChanges ctx]
  exact hrates x

/-! ### A round -/

/-- What a round of `ApplyUserFlowsList` does with a change split into `A` and `F`. -/
structure Applied (ctx : Ctx) (s : State) (a : Addr) (A F : List OutFlow) (s₁ : State)
    (r₁ : StreamRecord) (s' : State) : Prop where
  updated : updateStreamRecord ctx s a (getStreamRecord ctx s a)
    { addr := a, rateChange := -totalRate A, frozenRateChange := -totalRate F } = .ok (s₁, r₁)
  check : checkStreamRecord { r₁ with
    outFlowCount := r₁.outFlowCount + (mergeOutFlows a .active A s₁.outFlows).2 +
      (mergeOutFlows a .frozen F (mergeOutFlows a .active A s₁.outFlows).1).2 } = true
  receivers : applyStreamRecordChanges ctx
    ({ s₁ with outFlows := mergeBoth s₁.outFlows a A F }.putStreamRecord a { r₁ with
      outFlowCount := r₁.outFlowCount + (mergeOutFlows a .active A s₁.outFlows).2 +
        (mergeOutFlows a .frozen F (mergeOutFlows a .active A s₁.outFlows).1).2 })
    (rateChanges A) = .ok s'

/-- **A round splits the changes by the flows the payer has.**  The changes of an active payer
all go to its active flows; those of a frozen payer go to its active flows where it has one to
that receiver. -/
theorem applied_of_applyUserFlows (h : applyUserFlows ctx s u = .ok s') :
    ∃ A F s₁ r₁, Applied ctx s u.fromAddr A F s₁ r₁ s' ∧
      (((s.record u.fromAddr).status = .active ∧ A = u.flows ∧ F = []) ∨
        ((s.record u.fromAddr).status = .frozen ∧ ctx.forced = true ∧
          A = u.flows.filter (fun f => hasActiveFlow s.outFlows u.fromAddr f) ∧
          F = u.flows.filter fun f => !hasActiveFlow s.outFlows u.fromAddr f)) := by
  have hst : (getStreamRecord ctx s u.fromAddr).status = (s.record u.fromAddr).status := by
    rw [getStreamRecord_eq]
  unfold applyUserFlows at h
  split at h
  · rename_i hact
    obtain ⟨⟨s₁, r₁⟩, hu, h⟩ := bind_eq_ok.1 h
    obtain ⟨s₂, hs₂, h⟩ := bind_eq_ok.1 h
    obtain ⟨hcheck, rfl⟩ := setStreamRecord_eq_ok.1 hs₂
    refine ⟨u.flows, [], s₁, r₁, ⟨hu, ?_, ?_⟩, Or.inl ⟨hst ▸ hact, rfl, rfl⟩⟩
    · simpa [mergeOutFlows] using hcheck
    · simpa [mergeOutFlows, mergeBoth] using h
  · rename_i hfro
    unfold applyFrozenUserFlows at h
    split_ifs at h with hforced
    obtain ⟨⟨s₁, r₁⟩, hu, h⟩ := bind_eq_ok.1 h
    obtain ⟨s₂, hs₂, h⟩ := bind_eq_ok.1 h
    obtain ⟨hcheck, rfl⟩ := setStreamRecord_eq_ok.1 hs₂
    exact ⟨_, _, s₁, r₁, ⟨hu, hcheck, h⟩, Or.inr ⟨hst ▸ hfro, hforced, rfl, rfl⟩⟩

theorem deltaTo_filter_add (p : OutFlow → Bool) (flows : List OutFlow) (r : Addr) :
    deltaTo (flows.filter p) r + deltaTo (flows.filter fun f => !p f) r = deltaTo flows r := by
  rw [← deltaTo_append]
  exact deltaTo_perm (List.filter_append_perm p flows) r

theorem Applied.outFlows {a : Addr} {A F : List OutFlow} {s₁ : State} {r₁ : StreamRecord}
    (h : Applied ctx s a A F s₁ r₁ s') : s'.outFlows = mergeBoth s.outFlows a A F := by
  rw [(applyStreamRecordChanges_rates h.receivers).1.outFlows]
  change mergeBoth s₁.outFlows a A F = _
  rw [(updateStreamRecord_frame h.updated).outFlows]

/-- **A round adds the changes of its payer to the rates.** -/
theorem flowTotal_applyUserFlows (h : applyUserFlows ctx s u = .ok s') (a r : Addr) :
    flowTotal s'.outFlows a r =
      flowTotal s.outFlows a r + if u.fromAddr = a then deltaTo u.flows r else 0 := by
  obtain ⟨A, F, s₁, r₁, happ, hsplit⟩ := applied_of_applyUserFlows h
  have hsum : deltaTo A r + deltaTo F r = deltaTo u.flows r := by
    rcases hsplit with ⟨-, rfl, rfl⟩ | ⟨-, -, rfl, rfl⟩
    · rw [deltaTo_nil, add_zero]
    · exact deltaTo_filter_add _ _ r
  rw [happ.outFlows, flowTotal_mergeBoth, hsum]

/-- `ApplyUserFlowsList` leaves the parameters alone. -/
theorem applyUserFlowsList_params {l : List UserFlows} (h : applyUserFlowsList ctx s l = .ok s') :
    s'.params = s.params := by
  refine foldlM_invariant (fun s' => s'.params = s.params) (fun s₁ u s₂ _ h₁ hround => ?_) rfl h
  obtain ⟨A, F, s₃, r₃, happ, -⟩ := applied_of_applyUserFlows hround
  rw [(applyStreamRecordChanges_rates happ.receivers).1.params, ← h₁]
  exact (updateStreamRecord_frame happ.updated).params

end Moca.Payment
