/-
# Flow ledger coherence

The rate of a payer is minus the sum of its stored active out-flows, its frozen rate
minus the sum of its frozen ones, its flow count their number, and the rate of a
receiver is the sum of the active flows to it.  `FlowCoherent` states this together
with what makes it inductive: rates are positive, no receiver is paid under both
statuses, and an active payer has no frozen flow.

It holds in every state that charging, deposits, withdrawals, resuming and the end
blocker lead to, as long as flows go from payers to receivers and no change takes a
rate below zero: moving a flow between the statuses keeps it
(`FlowCoherent.move`), and so does merging a change into the flows of a payer
(`FlowCoherent.merge`).
-/

import Moca.Payment.Charge
import Moca.Payment.Msg
import Mathlib.Data.Set.Defs

namespace Moca.Payment

open SortedMap

/-- The active out-flows of a payer. -/
abbrev ActiveOf (a : Addr) (k : OutFlowKey) : Prop := k.addr = a ∧ k.status = .active

/-- The frozen out-flows of a payer. -/
abbrev FrozenOf (a : Addr) (k : OutFlowKey) : Prop := k.addr = a ∧ k.status = .frozen

/-- The active out-flows to a receiver. -/
abbrev ActiveTo (r : Addr) (k : OutFlowKey) : Prop := k.toAddr = r ∧ k.status = .active

/-- **Flow ledger coherence**, for a set `R` of receivers. -/
structure FlowCoherent (R : Set Addr) (s : State) : Prop where
  payer_rate : ∀ a ∉ R, (s.record a).netflowRate = -flowSum s.outFlows (ActiveOf a)
  payer_frozen : ∀ a ∉ R, (s.record a).frozenNetflowRate = -flowSum s.outFlows (FrozenOf a)
  payer_count : ∀ a ∉ R, (s.record a).outFlowCount = flowCount s.outFlows (fun k => k.addr = a)
  receiver_rate : ∀ r ∈ R, (s.record r).netflowRate = flowSum s.outFlows (ActiveTo r)
  receiver_frozen : ∀ r ∈ R, (s.record r).frozenNetflowRate = 0
  rate_pos : ∀ k v, s.outFlows.find? k = some v → 0 < v
  domain : ∀ k v, s.outFlows.find? k = some v → k.addr ∉ R ∧ k.toAddr ∈ R
  exclusive : ∀ a r, s.outFlows.find? ⟨a, .active, r⟩ = none ∨
    s.outFlows.find? ⟨a, .frozen, r⟩ = none
  active_no_frozen : ∀ a, (s.record a).status = .active →
    ∀ r, s.outFlows.find? ⟨a, .frozen, r⟩ = none

variable {R : Set Addr} {s s' : State} {r' : StreamRecord} {r addr : Addr} {st : OutFlowStatus}
  {v : ℤ}

theorem flowCoherent_empty (R : Set Addr) (p : Params) (b : Addr → ℤ) :
    FlowCoherent R (State.empty p b) := by
  constructor <;> intros <;> first | rfl | exact Or.inl rfl | simp_all [State.empty]

/-! ### Steps that move no flow -/

section

variable (h : FlowCoherent R s) (hflows : s'.outFlows = s.outFlows)
include h hflows

/-- Coherence depends on the flows and the rates; a record may become active when it has no
frozen flow. -/
theorem FlowCoherent.congr (hrate : ∀ x, (s'.record x).netflowRate = (s.record x).netflowRate)
    (hfrozen : ∀ x, (s'.record x).frozenNetflowRate = (s.record x).frozenNetflowRate)
    (hcount : ∀ x, (s'.record x).outFlowCount = (s.record x).outFlowCount)
    (hstatus : ∀ x, (s'.record x).status = .active → (s.record x).status = .active ∨ ∀ r, s.outFlows.find? ⟨x, .frozen, r⟩ = none) :
    FlowCoherent R s' where
  payer_rate a ha := by rw [hrate, hflows, h.payer_rate a ha]
  payer_frozen a ha := by rw [hfrozen, hflows, h.payer_frozen a ha]
  payer_count a ha := by rw [hcount, hflows, h.payer_count a ha]
  receiver_rate r hr := by rw [hrate, hflows, h.receiver_rate r hr]
  receiver_frozen r hr := by rw [hfrozen, h.receiver_frozen r hr]
  rate_pos k v hk := h.rate_pos k v (hflows ▸ hk)
  domain k v hk := h.domain k v (hflows ▸ hk)
  exclusive a r := by rw [hflows]; exact h.exclusive a r
  active_no_frozen a ha r := by
    rw [hflows]
    rcases hstatus a ha with hs | hs
    · exact h.active_no_frozen a hs r
    · exact hs r

theorem FlowCoherent.of_sameRates (hs : s.SameRates s') : FlowCoherent R s' :=
  h.congr hflows hs.netflowRate hs.frozenNetflowRate hs.outFlowCount
    fun x hx => Or.inl (hs.status x hx)

/-- Coherence does not depend on the settle queue, the resume queue or the bank. -/
theorem FlowCoherent.of_eq (hrec : s'.streamRecords = s.streamRecords) : FlowCoherent R s' :=
  h.of_sameRates hflows (.of_streamRecords hrec)

end

/-- **Writing a record with the same rates keeps coherence.**  The record may be written with a
new status, if it has no frozen flow when it becomes active. -/
theorem FlowCoherent.put {r : StreamRecord} (h : FlowCoherent R (s.putStreamRecord addr r))
    (hflows : s'.outFlows = s.outFlows) (hs : s.SameRates s')
    (hrate : r'.netflowRate = r.netflowRate) (hfrozen : r'.frozenNetflowRate = r.frozenNetflowRate)
    (hcount : r'.outFlowCount = r.outFlowCount)
    (hstatus : r'.status = .active →
      r.status = .active ∨ ∀ x, s.outFlows.find? ⟨addr, .frozen, x⟩ = none) :
    FlowCoherent R (s'.putStreamRecord addr r') := by
  refine h.congr hflows (fun x => ?_) (fun x => ?_) (fun x => ?_) fun x hx => ?_
  all_goals simp only [record_putStreamRecord] at *
  · split_ifs
    · exact hrate
    · exact hs.netflowRate x
  · split_ifs
    · exact hfrozen
    · exact hs.frozenNetflowRate x
  · split_ifs
    · exact hcount
    · exact hs.outFlowCount x
  · split_ifs at hx ⊢ with hxa
    · rw [hxa]
      exact hstatus hx
    · exact Or.inl (hs.status x hx)

theorem FlowCoherent.put_self (h : FlowCoherent R s) (addr : Addr) :
    FlowCoherent R (s.putStreamRecord addr (s.record addr)) := by
  have hrec : ∀ x, (s.putStreamRecord addr (s.record addr)).record x = s.record x := by
    intro x
    rw [record_putStreamRecord]
    split_ifs with hx
    · rw [hx]
    · rfl
  exact h.of_sameRates rfl ⟨fun x => by rw [hrec], fun x => by rw [hrec], fun x => by rw [hrec],
    fun x hx => by rwa [hrec] at hx⟩

/-- **An update without rate change keeps coherence.** -/
theorem FlowCoherent.update (h : FlowCoherent R s) (hflows : s'.outFlows = s.outFlows)
    (hs : s.SameRates s') (hrate : r'.netflowRate = (s.record addr).netflowRate)
    (hfrozen : r'.frozenNetflowRate = (s.record addr).frozenNetflowRate)
    (hcount : r'.outFlowCount = (s.record addr).outFlowCount)
    (hstatus : r'.status = .active →
      (s.record addr).status = .active ∨ ∀ r, s.outFlows.find? ⟨addr, .frozen, r⟩ = none) :
    FlowCoherent R (s'.putStreamRecord addr r') :=
  (h.put_self addr).put hflows hs hrate hfrozen hcount hstatus

/-! ### Moving a flow between the statuses -/

/-- **Moving one flow keeps coherence.**  The flow `a → r` of rate `v` changes its status
from `st` to `st'`; the rate of `r` and the frozen rate of `a` change by `d`, the rate of `a`
by `-d`, where `d` is `v` when the flow is resumed and `-v` when it is frozen. -/
theorem FlowCoherent.move {a : Addr} {d : ℤ} {st' : OutFlowStatus} (h : FlowCoherent R s)
    (hne : st ≠ st') (hd : d = if st' = .active then v else -v)
    (hfind : s.outFlows.find? ⟨a, st, r⟩ = some v)
    (hflows : s'.outFlows = (s.outFlows.erase ⟨a, st, r⟩).insert ⟨a, st', r⟩ v)
    (hrate : ∀ x, (s'.record x).netflowRate =
      (s.record x).netflowRate + (if x = r then d else 0) - (if x = a then d else 0))
    (hfrozen : ∀ x, (s'.record x).frozenNetflowRate =
      (s.record x).frozenNetflowRate + (if x = a then d else 0))
    (hcount : ∀ x, (s'.record x).outFlowCount = (s.record x).outFlowCount)
    (hstatus : ∀ x, (s'.record x).status = .active → (s.record x).status = .active)
    (hnot : (s'.record a).status = .frozen) : FlowCoherent R s' := by
  obtain ⟨haR, hrR⟩ := h.domain _ _ hfind
  dsimp only at haR hrR
  -- the flow is frozen or resumed
  have hcases : (st = .active ∧ st' = .frozen ∧ d = -v) ∨ (st = .frozen ∧ st' = .active ∧ d = v) := by
    cases st <;> cases st' <;> simp at hne hd ⊢ <;> exact hd
  have hnone : s.outFlows.find? ⟨a, st', r⟩ = none := by
    have hexcl := h.exclusive a r
    rcases hcases with ⟨rfl, rfl, -⟩ | ⟨rfl, rfl, -⟩ <;> rw [hfind] at hexcl <;> simpa using hexcl
  have hkne : (⟨a, st', r⟩ : OutFlowKey) ≠ ⟨a, st, r⟩ := fun hk =>
    hne (congrArg OutFlowKey.status hk).symm
  have hsum : ∀ (P : OutFlowKey → Prop) [DecidablePred P], flowSum s'.outFlows P =
      flowSum s.outFlows P - (if P ⟨a, st, r⟩ then v else 0) + if P ⟨a, st', r⟩ then v else 0 := by
    intro P _
    rw [hflows, flowSum_insert _ P _ _ 0, flowSum_erase _ P _ v (by rw [hfind, Option.getD_some]),
      sub_zero]
    rw [find?_erase_of_ne _ hkne, hnone, Option.getD_none]
  have hfind' : ∀ k, s'.outFlows.find? k =
      if k = ⟨a, st', r⟩ then some v else if k = ⟨a, st, r⟩ then none else s.outFlows.find? k := by
    intro k
    rw [hflows, find?_insert, find?_erase]
  constructor
  · intro x hx
    have hxr : x ≠ r := fun hxr => hx (hxr ▸ hrR)
    rw [hrate, h.payer_rate x hx, hsum, if_neg hxr]
    by_cases hxa : a = x <;> rcases hcases with ⟨rfl, rfl, rfl⟩ | ⟨rfl, rfl, rfl⟩ <;>
      simp [ActiveOf, hxa, eq_comm] <;> omega
  · intro x hx
    rw [hfrozen, h.payer_frozen x hx, hsum]
    by_cases hxa : a = x <;> rcases hcases with ⟨rfl, rfl, rfl⟩ | ⟨rfl, rfl, rfl⟩ <;>
      simp [FrozenOf, hxa, eq_comm] <;> omega
  · intro x hx
    rw [hcount, h.payer_count x hx, hflows, flowCount_insert_new, flowCount_erase _ _ _ hfind,
      sub_add_cancel]
    rw [find?_erase_of_ne _ hkne, hnone]
  · intro x hx
    have hxa : x ≠ a := fun hxa => haR (hxa ▸ hx)
    rw [hrate, h.receiver_rate x hx, hsum, if_neg hxa]
    by_cases hxr : r = x <;> rcases hcases with ⟨rfl, rfl, rfl⟩ | ⟨rfl, rfl, rfl⟩ <;>
      simp [ActiveTo, hxr, eq_comm] ; omega
  · intro x hx
    have hxa : x ≠ a := fun hxa => haR (hxa ▸ hx)
    rw [hfrozen, h.receiver_frozen x hx, if_neg hxa, add_zero]
  · rw [hflows]
    exact forall_insert (h.rate_pos _ _ hfind) fun k x _ hk => h.rate_pos k x (find?_of_erase hk)
  · rw [hflows]
    exact forall_insert ⟨haR, hrR⟩ fun k x _ hk => h.domain k x (find?_of_erase hk)
  · intro x y
    rw [hfind', hfind']
    have hexcl := h.exclusive x y
    by_cases hxy : x = a ∧ y = r
    · obtain ⟨rfl, rfl⟩ := hxy
      rcases hcases with ⟨rfl, rfl, -⟩ | ⟨rfl, rfl, -⟩ <;> simp
    · have hk : ∀ t t', (⟨x, t, y⟩ : OutFlowKey) ≠ ⟨a, t', r⟩ := fun t t' hk =>
        hxy ⟨congrArg OutFlowKey.addr hk, congrArg OutFlowKey.toAddr hk⟩
      rw [if_neg (hk _ _), if_neg (hk _ _), if_neg (hk _ _), if_neg (hk _ _)]
      exact hexcl
  · intro x hx y
    have hxa : x ≠ a := fun hxa => by
      rw [hxa, hnot] at hx
      cases hx
    have hk : ∀ t', (⟨x, .frozen, y⟩ : OutFlowKey) ≠ ⟨a, t', r⟩ := fun t' hk =>
      hxa (congrArg OutFlowKey.addr hk)
    rw [hfind', if_neg (hk _), if_neg (hk _)]
    exact h.active_no_frozen x (hstatus x hx) y

/-! ### Merging changes into the flows of a payer -/

/-- Flow changes of a payer that fit the stored flows: they are not zero, take no rate below
zero, and no receiver of `A` is paid by a frozen flow and none of `F` by an active one. -/
structure FlowChange (m : OutFlows) (a : Addr) (A F : List OutFlow) : Prop where
  pos : ∀ k v, m.find? k = some v → 0 < v
  ne_zero : ∀ f ∈ A ++ F, f.rate ≠ 0
  active : ∀ f ∈ A, m.find? ⟨a, .frozen, f.toAddr⟩ = none
  frozen : ∀ f ∈ F, m.find? ⟨a, .active, f.toAddr⟩ = none
  disjoint : ∀ f ∈ A, ∀ g ∈ F, f.toAddr ≠ g.toAddr
  nonneg : ∀ r, 0 ≤ flowTotal m a r + deltaTo A r + deltaTo F r

section FlowChange

variable {m : OutFlows} {a : Addr} {A F : List OutFlow}

theorem exists_of_deltaTo_ne_zero {l : List OutFlow} (h : deltaTo l r ≠ 0) :
    ∃ f ∈ l, f.toAddr = r := by
  by_contra hr
  exact h (deltaTo_eq_zero fun f hf hfr => hr ⟨f, hf, hfr⟩)

namespace FlowChange

section

variable (h : FlowChange m a A F)
include h

theorem ne : ∀ k v, m.find? k = some v → v ≠ 0 :=
  fun k v hk => (h.pos k v hk).ne'

theorem merged_ne : ∀ k v, (mergeBoth m a A F).find? k = some v → v ≠ 0 := by
  refine mergeOutFlows_ne_zero a .frozen F
    (fun f hf => h.ne_zero f (List.mem_append_right _ hf)) ?_
  exact mergeOutFlows_ne_zero a .active A (fun f hf => h.ne_zero f (List.mem_append_left _ hf)) h.ne

theorem rateAt_nonneg (st : OutFlowStatus) (r : Addr) : 0 ≤ rateAt m a st r := by
  unfold rateAt
  cases hf : m.find? ⟨a, st, r⟩ with
  | none => exact le_rfl
  | some v => exact (h.pos _ _ hf).le

/-- A receiver with a change to active flows has nothing under the frozen status. -/
theorem no_frozen (hr : deltaTo A r ≠ 0) : rateAt m a .frozen r = 0 ∧ deltaTo F r = 0 := by
  obtain ⟨f, hf, rfl⟩ := exists_of_deltaTo_ne_zero hr
  exact ⟨(rateAt_eq_zero_iff h.ne).2 (h.active f hf),
    deltaTo_eq_zero fun g hg => (h.disjoint f hf g hg).symm⟩

/-- A receiver with a change to frozen flows has nothing under the active status. -/
theorem no_active (hr : deltaTo F r ≠ 0) : rateAt m a .active r = 0 ∧ deltaTo A r = 0 := by
  obtain ⟨g, hg, rfl⟩ := exists_of_deltaTo_ne_zero hr
  exact ⟨(rateAt_eq_zero_iff h.ne).2 (h.frozen g hg),
    deltaTo_eq_zero fun f hf => h.disjoint f hf g hg⟩

/-- The merged rates of the payer are not negative. -/
theorem merged_nonneg (st : OutFlowStatus) (r : Addr) : 0 ≤ rateAt (mergeBoth m a A F) a st r := by
  have htot := h.nonneg r
  have hact := h.rateAt_nonneg .active r
  have hfro := h.rateAt_nonneg .frozen r
  unfold flowTotal at htot
  cases st with
  | active =>
    rw [mergeBoth_active]
    by_cases hr : deltaTo A r = 0
    · omega
    · obtain ⟨h₁, h₂⟩ := h.no_frozen hr
      omega
  | frozen =>
    rw [mergeBoth_frozen]
    by_cases hr : deltaTo F r = 0
    · omega
    · obtain ⟨h₁, h₂⟩ := h.no_active hr
      omega

theorem merged_pos : ∀ k v, (mergeBoth m a A F).find? k = some v → 0 < v := by
  intro k v hk
  by_cases hka : k.addr = a
  · have hnn := h.merged_nonneg k.status k.toAddr
    unfold rateAt at hnn
    rw [← hka, hka, show (⟨a, k.status, k.toAddr⟩ : OutFlowKey) = k by rw [← hka], hk,
      Option.getD_some] at hnn
    exact lt_of_le_of_ne hnn (h.merged_ne k v hk).symm
  · rw [mergeBoth_find? m A F hka] at hk
    exact h.pos k v hk

/-- A merged flow of the payer goes to a receiver it already paid, or to one of a change. -/
theorem merged_domain (hk : (mergeBoth m a A F).find? ⟨a, st, r⟩ = some v) :
    (∃ v, m.find? ⟨a, st, r⟩ = some v) ∨ ∃ f ∈ A ++ F, f.toAddr = r := by
  cases hold : m.find? ⟨a, st, r⟩ with
  | some v => exact Or.inl ⟨v, rfl⟩
  | none =>
    right
    have hv : rateAt (mergeBoth m a A F) a st r ≠ 0 := by
      unfold rateAt
      rw [hk]
      exact h.merged_ne _ _ hk
    have hz : rateAt m a st r = 0 := by
      unfold rateAt
      rw [hold, Option.getD_none]
    cases st with
    | active =>
      rw [mergeBoth_active, hz, zero_add] at hv
      obtain ⟨f, hf, hfr⟩ := exists_of_deltaTo_ne_zero hv
      exact ⟨f, List.mem_append_left _ hf, hfr⟩
    | frozen =>
      rw [mergeBoth_frozen, hz, zero_add] at hv
      obtain ⟨f, hf, hfr⟩ := exists_of_deltaTo_ne_zero hv
      exact ⟨f, List.mem_append_right _ hf, hfr⟩

theorem merged_exclusive (r : Addr)
    (hex : m.find? ⟨a, .active, r⟩ = none ∨ m.find? ⟨a, .frozen, r⟩ = none) :
    (mergeBoth m a A F).find? ⟨a, .active, r⟩ = none ∨
      (mergeBoth m a A F).find? ⟨a, .frozen, r⟩ = none := by
  rw [← rateAt_eq_zero_iff h.merged_ne, ← rateAt_eq_zero_iff h.merged_ne, mergeBoth_active,
    mergeBoth_frozen]
  rw [← rateAt_eq_zero_iff h.ne, ← rateAt_eq_zero_iff h.ne] at hex
  by_cases hA : deltaTo A r = 0
  · by_cases hF : deltaTo F r = 0
    · rw [hA, hF, add_zero, add_zero]
      exact hex
    · left
      rw [hA, (h.no_active hF).1, add_zero]
  · right
    rw [(h.no_frozen hA).1, (h.no_frozen hA).2, add_zero]

end

end FlowChange

end FlowChange

/-- **Merging flow changes keeps coherence**, when the rates of the payer and of the receivers
of the active changes follow. -/
theorem FlowCoherent.merge {a : Addr} {A F : List OutFlow} (h : FlowCoherent R s) (ha : a ∉ R)
    (hto : ∀ f ∈ A ++ F, f.toAddr ∈ R) (hc : FlowChange s.outFlows a A F)
    (hflows : s'.outFlows = mergeBoth s.outFlows a A F)
    (hrate : ∀ x, (s'.record x).netflowRate =
      (s.record x).netflowRate + deltaTo A x - (if x = a then totalRate A else 0))
    (hfrozen : ∀ x, (s'.record x).frozenNetflowRate =
      (s.record x).frozenNetflowRate - (if x = a then totalRate F else 0))
    (hcount : ∀ x, (s'.record x).outFlowCount = (s.record x).outFlowCount +
      (if x = a then (mergeOutFlows a .active A s.outFlows).2 +
        (mergeOutFlows a .frozen F (mergeOutFlows a .active A s.outFlows).1).2 else 0))
    (hstatus : ∀ x, (s'.record x).status = .active → (s.record x).status = .active)
    (hstF : F = [] ∨ (s'.record a).status = .frozen) : FlowCoherent R s' := by
  have hAR : ∀ x ∉ R, deltaTo A x = 0 := fun x hx =>
    deltaTo_eq_zero fun f hf hfx => hx (hfx ▸ hto f (List.mem_append_left _ hf))
  constructor
  · intro x hx
    rw [hrate, h.payer_rate x hx, hAR x hx, hflows, mergeBoth_flowSum,
      changeSum_eq_zero a .frozen F (ActiveOf x) (by simp [ActiveOf])]
    by_cases hxa : a = x
    · rw [changeSum_eq_totalRate a .active A (ActiveOf x) (by simp [ActiveOf, hxa]),
        if_pos hxa.symm]
      omega
    · rw [changeSum_eq_zero a .active A (ActiveOf x) (by simp [ActiveOf, hxa]),
        if_neg (Ne.symm hxa)]
      omega
  · intro x hx
    rw [hfrozen, h.payer_frozen x hx, hflows, mergeBoth_flowSum,
      changeSum_eq_zero a .active A (FrozenOf x) (by simp [FrozenOf])]
    by_cases hxa : a = x
    · rw [changeSum_eq_totalRate a .frozen F (FrozenOf x) (by simp [FrozenOf, hxa]),
        if_pos hxa.symm]
      omega
    · rw [changeSum_eq_zero a .frozen F (FrozenOf x) (by simp [FrozenOf, hxa]),
        if_neg (Ne.symm hxa)]
      omega
  · intro x hx
    rw [hcount, h.payer_count x hx, hflows]
    unfold mergeBoth
    rw [mergeOutFlows_flowCount, mergeOutFlows_flowCount]
    by_cases hxa : a = x
    · rw [if_pos hxa.symm, if_pos hxa, if_pos hxa]
      omega
    · rw [if_neg (Ne.symm hxa), if_neg hxa, if_neg hxa]
      omega
  · intro x hx
    have hxa : x ≠ a := fun hxa => ha (hxa ▸ hx)
    rw [hrate, h.receiver_rate x hx, if_neg hxa, hflows, mergeBoth_flowSum,
      changeSum_eq_zero a .frozen F (ActiveTo x) (by simp [ActiveTo])]
    have hsum : changeSum a .active A (ActiveTo x) = deltaTo A x := by
      simp [changeSum, deltaTo, ActiveTo]
    omega
  · intro x hx
    have hxa : x ≠ a := fun hxa => ha (hxa ▸ hx)
    rw [hfrozen, h.receiver_frozen x hx, if_neg hxa, sub_zero]
  · rw [hflows]
    exact hc.merged_pos
  · rintro ⟨x, st, r⟩ v hk
    by_cases hxa : x = a
    · subst hxa
      rw [hflows] at hk
      rcases hc.merged_domain hk with ⟨w, hw⟩ | ⟨f, hf, rfl⟩
      · exact h.domain _ _ hw
      · exact ⟨ha, hto f hf⟩
    · rw [hflows, mergeBoth_find? _ A F hxa] at hk
      exact h.domain _ _ hk
  · intro x r
    by_cases hxa : x = a
    · subst hxa
      rw [hflows]
      exact hc.merged_exclusive r (h.exclusive x r)
    · rw [hflows, mergeBoth_find? _ A F hxa, mergeBoth_find? _ A F hxa]
      exact h.exclusive x r
  · intro x hx r
    have hold := h.active_no_frozen x (hstatus x hx) r
    by_cases hxa : x = a
    · subst hxa
      obtain rfl : F = [] := hstF.resolve_right (by rw [hx]; simp)
      rw [hflows, ← rateAt_eq_zero_iff hc.merged_ne, mergeBoth_frozen, deltaTo_nil, add_zero,
        rateAt_eq_zero_iff hc.ne, hold]
    · rw [hflows, mergeBoth_find? _ A F hxa, hold]

end Moca.Payment
