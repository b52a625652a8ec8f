/-
# What a resumption through the queue charges

`TryResumeStreamRecord` sets the `CrudTimestamp` of the account it enqueues, and
the next update of the record is the one with which `AutoResume` finishes the
resumption.  That update charges the whole rate for the whole time in between,
while each receiver earns only from the block on in which its flow was resumed.

`Waiting` is what stays the same of the account from one block to the next.  When
each flow became active is not in the store; `tracedStep` notes it beside the run.
-/

import Moca.Payment.Resume
import Mathlib.Algebra.BigOperators.Ring.List
import Mathlib.Tactic.Ring
import Mathlib.Tactic.Linarith

namespace Moca.Payment

open SortedMap

variable {R : Set Addr} {ctx : Ctx} {s s' : State} {a : Addr} {r r' : StreamRecord}
  {s₁ s₂ s₃ : State} {count count' : ℕ} {addr : Addr} {finished : Bool} {max : Option ℕ}
  {acc : FlowMove} {record : QueueKey} {now : ℤ}

/-! ### Rounds of `AutoResume` on other accounts -/

/-- Two states that agree on the record, the flows and the resume queue records of `a`. -/
structure State.Untouched (a : Addr) (s s' : State) : Prop where
  record : s'.streamRecords.find? a = s.streamRecords.find? a
  flows : ∀ st x, s'.outFlows.find? ⟨a, st, x⟩ = s.outFlows.find? ⟨a, st, x⟩
  resume : ∀ t, s'.autoResumeRecords.find? ⟨t, a⟩ = s.autoResumeRecords.find? ⟨t, a⟩

theorem State.SameAccount.untouched (h : s.SameAccount a s') : s.Untouched a s' :=
  ⟨h.record, h.flows, fun t => by rw [h.resume]⟩

theorem State.Untouched.trans (h : s₁.Untouched a s₂) (h' : s₂.Untouched a s₃) :
    s₁.Untouched a s₃ :=
  ⟨h'.record.trans h.record, fun st x => (h'.flows st x).trans (h.flows st x),
    fun t => (h'.resume t).trans (h.resume t)⟩

/-- A loop of `AutoResume`, over the flows of any account, leaves the record of a payer and its
coins as they are. -/
theorem Moved.payer_kept (hg : governanceAddress ∈ R) (ha : a ∉ R) (hc : FlowCoherent R s)
    (hr : s.streamRecords.find? addr = some r)
    (hm : Moved ctx max 1 s addr .frozen count acc finished) :
    s.SameRecord a acc.state ∧ acc.state.balance a = s.balance a := by
  have hgov : a ≠ governanceAddress := fun heq => ha (heq ▸ hg)
  constructor
  · cases hst : r.status with
    | active =>
      rw [(hc.resumed_nil hr hst hm).2.1]
      exact .refl a s
    | frozen => exact hm.sameRecord hg ha hc hr .active hst (by simp) (by simp)
  · refine (hc.resumed_invariant hr hm (fun s' => s'.balance a = s.balance a)
      (fun s₁ s₂ f _ hto _ _ hs hI => ?_) rfl).2.2
    have hfa : a ≠ f.toAddr := fun heq => ha (heq ▸ hto)
    exact (spared_updateStreamRecordByAddrDepth hgov _ hs hfa).balance.trans hI

/-- **A round of `AutoResume` on another account leaves this one as it is**, and its coins. -/
theorem untouched_autoResumeRecord {max : ℕ} (hg : governanceAddress ∈ R) (ha : a ∉ R)
    (hc : FlowCoherent R s) (hr : s.streamRecords.find? record.addr = some r)
    (hne : a ≠ record.addr) (hs : autoResumeRecord ctx max s record r count = .ok (s', count')) :
    s.Untouched a s' ∧ s'.balance a = s.balance a := by
  have hgov : a ≠ governanceAddress := fun heq => ha (heq ▸ hg)
  obtain ⟨acc, finished, r', hm, -, -, hend⟩ := autoResumeRecord_eq_ok hs
  obtain ⟨hrec, hbal⟩ := hm.payer_kept hg ha hc hr
  have hstore : s.Untouched a (acc.store record.addr .active) := by
    refine ⟨hrec.record, fun st x => ?_, fun t => by rw [← hrec.resume]; rfl⟩
    have hkey : ¬∃ f ∈ acc.toUpdate, (⟨a, st, x⟩ : OutFlowKey) = ⟨record.addr, .frozen, f.toAddr⟩ := by
      rintro ⟨f, -, hk⟩
      exact hne (congrArg OutFlowKey.addr hk)
    refine (find?_foldl_setOutFlow (Or.inl hne) _ _).trans ?_
    rw [find?_foldlM_moveFlow _ hm.state, if_neg hkey]
  rcases hend with ⟨-, -, rfl⟩ | ⟨-, -, s₁, r₁, hu, -, rfl⟩
  · refine ⟨hstore.trans ⟨?_, fun _ _ => rfl, fun _ => rfl⟩, hbal⟩
    rw [find?_putStreamRecord, if_neg hne]
  · have hframe := updateStreamRecord_frame hu
    refine ⟨hstore.trans ⟨?_, fun st x => ?_, fun t => ?_⟩,
      (spared_updateStreamRecord hu hgov hne).balance.trans hbal⟩
    · rw [find?_putStreamRecord, if_neg hne]
      exact (find?_updateStreamRecord hu hgov :)
    · change s₁.outFlows.find? _ = _
      rw [hframe.outFlows]
    · change (s₁.autoResumeRecords.erase _).find? _ = _
      rw [find?_erase_of_ne _ fun hk => hne (congrArg QueueKey.addr hk),
        hframe.autoResumeRecords]

/-! ### The flows that `AutoResume` leaves -/

/-- Writing flows back makes their receivers paid under the status, and no others. -/
theorem find?_foldl_setOutFlow_ne_none {st : OutFlowStatus} {x : Addr} (l : List OutFlow)
    (m : OutFlows) :
    (l.foldl (fun m o => setOutFlow m a st o) m).find? ⟨a, st, x⟩ ≠ none ↔
      m.find? ⟨a, st, x⟩ ≠ none ∨ ∃ f ∈ l, f.toAddr = x := by
  induction l generalizing m with
  | nil => simp
  | cons o l ih =>
    rw [List.foldl_cons, ih, setOutFlow, find?_insert]
    by_cases hx : o.toAddr = x
    · simp [hx]
    · simp [hx, Ne.symm hx]

/-- Flows of `a` have only been made active: it pays the same receivers, and those that it paid
under the active status are still paid under it. -/
structure State.FlowsResumed (a : Addr) (s s' : State) : Prop where
  active : ∀ x, s.outFlows.find? ⟨a, .active, x⟩ ≠ none → s'.outFlows.find? ⟨a, .active, x⟩ ≠ none
  receivers : ∀ x, (s'.outFlows.find? ⟨a, .active, x⟩ ≠ none ∨
      s'.outFlows.find? ⟨a, .frozen, x⟩ ≠ none) ↔
    (s.outFlows.find? ⟨a, .active, x⟩ ≠ none ∨ s.outFlows.find? ⟨a, .frozen, x⟩ ≠ none)

theorem State.FlowsResumed.refl (a : Addr) (s : State) : s.FlowsResumed a s :=
  ⟨fun _ h => h, fun _ => Iff.rfl⟩

theorem State.FlowsResumed.trans (h : s₁.FlowsResumed a s₂) (h' : s₂.FlowsResumed a s₃) :
    s₁.FlowsResumed a s₃ :=
  ⟨fun x hx => h'.active x (h.active x hx), fun x => (h'.receivers x).trans (h.receivers x)⟩

theorem Moved.flowsResumed {sign : ℤ} (hm : Moved ctx max sign s addr .frozen count acc finished) :
    s.FlowsResumed a (acc.store addr .active) := by
  by_cases ha : a = addr
  · subst ha
    have hactive : ∀ x, (acc.store a .active).outFlows.find? ⟨a, .active, x⟩ ≠ none ↔
        s.outFlows.find? ⟨a, .active, x⟩ ≠ none ∨ ∃ f ∈ acc.toUpdate, f.toAddr = x := by
      intro x
      refine (find?_foldl_setOutFlow_ne_none _ _).trans ?_
      rw [find?_foldlM_moveFlow _ hm.state, if_neg (by simp)]
    have hfrozen : ∀ x, (acc.store a .active).outFlows.find? ⟨a, .frozen, x⟩ =
        if ∃ f ∈ acc.toUpdate, f.toAddr = x then none else s.outFlows.find? ⟨a, .frozen, x⟩ := by
      intro x
      refine (find?_foldl_setOutFlow (Or.inr (by simp)) _ _).trans ?_
      rw [find?_foldlM_moveFlow _ hm.state]
      simp [eq_comm]
    refine ⟨fun x hx => (hactive x).2 (Or.inl hx), fun x => ?_⟩
    rw [hactive, hfrozen]
    split_ifs with hx
    · obtain ⟨f, hf, rfl⟩ := hx
      have hstored : s.outFlows.find? ⟨a, .frozen, f.toAddr⟩ ≠ none := by simp [hm.stored f hf]
      exact ⟨fun _ => Or.inr hstored, fun _ => Or.inl (Or.inr ⟨f, hf, rfl⟩)⟩
    · simp only [hx, or_false]
  · have hsame : ∀ st x, (acc.store addr .active).outFlows.find? ⟨a, st, x⟩ =
        s.outFlows.find? ⟨a, st, x⟩ := by
      intro st x
      refine (find?_foldl_setOutFlow (Or.inl ha) _ _).trans ?_
      rw [find?_foldlM_moveFlow _ hm.state, if_neg]
      rintro ⟨f, -, hk⟩
      exact ha (congrArg OutFlowKey.addr hk)
    exact ⟨fun x hx => by rwa [hsame], fun x => by rw [hsame, hsame]⟩

/-- **`AutoResume` only makes flows active.** -/
theorem flowsResumed_autoResume (h : autoResume ctx s = .ok s') : s.FlowsResumed a s' := by
  refine autoResumeLoop_invariant (s.FlowsResumed a) (fun e _ s₁ r count s₂ count' hI _ hround => ?_)
    (.refl a s) h
  obtain ⟨acc, finished, r', hm, -, -, hend⟩ := autoResumeRecord_eq_ok hround
  have hflows : s₂.outFlows = (acc.store e.1.addr .active).outFlows := by
    rcases hend with ⟨-, -, rfl⟩ | ⟨-, -, s₃, r₁, hu, -, rfl⟩
    · rfl
    · exact (updateStreamRecord_frame hu).outFlows
  have hmoved := hI.trans hm.flowsResumed
  exact ⟨fun x hx => by rw [hflows]; exact hmoved.active x hx,
    fun x => by rw [hflows]; exact hmoved.receivers x⟩

/-! ### The account while it waits -/

/-- The account `a` is in the resume queue since `t₀`: since then neither its balances nor its
total rate have changed, and nothing has been charged. -/
structure Waiting (R : Set Addr) (a : Addr) (t₀ total rate : ℤ) (s : State) (r : StreamRecord) :
    Prop where
  coherent : FlowCoherent R s
  stored : s.streamRecords.find? a = some r
  frozen : r.status = .frozen
  since : r.crudTimestamp = t₀
  balances : r.staticBalance + r.bufferBalance = total
  rates : r.netflowRate + r.frozenNetflowRate = rate
  keys : ∀ t, s.autoResumeRecords.find? ⟨t, a⟩ = some () ↔ t = t₀

/-- The resumption is over.  If the account has come out of it active, its balances and coins have
been charged with the total rate, for all the time since `t₀`. -/
structure Finished (R : Set Addr) (a : Addr) (t₀ total rate coins now : ℤ) (s : State) : Prop where
  coherent : FlowCoherent R s
  gone : s.autoResumeRecords.find? ⟨t₀, a⟩ = none
  charged : (s.record a).status = .active →
    total + (coins - s.balance a) - ((s.record a).staticBalance + (s.record a).bufferBalance) =
        -rate * (now - t₀) ∧
      (s.record a).netflowRate = rate

section Stages

variable {t₀ total rate coins : ℤ}

theorem Waiting.untouched (h : Waiting R a t₀ total rate s r) (hs : s.Untouched a s')
    (hc : FlowCoherent R s') : Waiting R a t₀ total rate s' r :=
  { h with
    coherent := hc
    stored := hs.record.trans h.stored
    keys := fun t => by
      rw [hs.resume]
      exact h.keys t }

/-- Rates that are moved between the two statuses. -/
theorem Waiting.put {x : ℤ} (h : Waiting R a t₀ total rate s r)
    (hr' : r' = { r with
      netflowRate := r.netflowRate + x
      frozenNetflowRate := r.frozenNetflowRate + -x })
    (hc : FlowCoherent R s') (hstored : s'.streamRecords.find? a = some r')
    (hqueue : s'.autoResumeRecords = s.autoResumeRecords) :
    Waiting R a t₀ total rate s' r' where
  coherent := hc
  stored := hstored
  frozen := by
    rw [hr']
    exact h.frozen
  since := by
    rw [hr']
    exact h.since
  balances := by
    rw [hr']
    exact h.balances
  rates := by
    have hrates := h.rates
    rw [hr']
    dsimp only
    omega
  keys t := by
    rw [hqueue]
    exact h.keys t

/-- **`AutoSettle` may freeze flows of the waiting account again**, and changes nothing else. -/
theorem Waiting.autoSettleRecord {max : ℕ} {r₁ : StreamRecord} {stop : Bool}
    (hg : governanceAddress ∈ R) (ha : a ∉ R) (h : Waiting R a t₀ total rate s r)
    (hr : s.streamRecords.find? record.addr = some r₁)
    (hs : Payment.autoSettleRecord ctx max s record r₁ count = .ok (s', count', stop)) :
    ∃ r', Waiting R a t₀ total rate s' r' := by
  have hc := h.coherent.autoSettleRecord hr hs
  by_cases hra : record.addr = a
  · subst hra
    obtain rfl : r₁ = r := Option.some.inj (hr.symm.trans h.stored)
    rcases autoSettleRecord_eq_ok hs with ⟨-, -, hset⟩ | ⟨hst, -, -⟩ | ⟨hst, -⟩
    · rcases settleFlows_eq_ok hset with ⟨-, rfl, -⟩ | ⟨-, acc, finished, r', hm, hr', -, -, -, rfl⟩
      · exact ⟨r₁, h⟩
      · refine ⟨r', h.put hr' hc (find?_insert_self _ _ _) ?_⟩
        cases finished <;> exact hm.kept.2
    · rw [h.frozen] at hst
      cases hst
    · rw [h.frozen] at hst
      cases hst
  · exact ⟨r, h.untouched (sameAccount_autoSettleRecord hg ha h.coherent hr (Ne.symm hra) hs).untouched
      hc⟩

/-- **The last update of a resumption charges the total rate since `t₀`.** -/
theorem Updated.charged {byAddr : State → StreamRecordChange → Except Error State}
    (hu : Updated byAddr ctx s addr r { addr := addr } s' r') (hst : r.status = .active)
    (hcrud : r.crudTimestamp ≤ ctx.blockTime) (hact : r'.status = .active) :
    r.staticBalance + r.bufferBalance + (s.balance addr - s'.balance addr) -
        (r'.staticBalance + r'.bufferBalance) =
      -r.netflowRate * (ctx.blockTime - r.crudTimestamp) := by
  have hpulled : ∀ {s₁ : State} {r₁ : StreamRecord}, changed ctx s addr r { addr := addr } = (s₁, r₁) →
      r.staticBalance + r.bufferBalance + (s.balance addr - s₁.balance addr) -
          (r₁.staticBalance + r₁.bufferBalance) =
        -r.netflowRate * (ctx.blockTime - r.crudTimestamp) := by
    intro s₁ r₁ hpull
    have hkeep := (pulled_credit hst hcrud rfl hpull).1
    have hbal := apply_balances r ctx.blockTime s.params.versionedParams.reserveTime
      { addr := addr } hcrud
    obtain ⟨x, -, -, hx⟩ := pullFromBank_eq ctx s addr
      (r.apply ctx.blockTime s.params.versionedParams.reserveTime { addr := addr })
    rw [changed, hx] at hpull
    cases hpull
    dsimp only at hkeep hbal ⊢
    rw [Function.update_self]
    rw [hkeep] at hbal
    linarith
  cases hu with
  | frozen hfro _ => simp [hst] at hfro
  | kept _ hpull _ _ => simpa using hpulled hpull
  | settled _ _ _ _ _ _ _ _ => cases hact

/-- **A round of `AutoResume` on the waiting account** leaves it waiting or finishes. -/
theorem Waiting.autoResumeRecord {max : ℕ} (hg : governanceAddress ∈ R) (ha : a ∉ R)
    (h : Waiting R a t₀ total rate s r) (hnow : t₀ ≤ ctx.blockTime)
    (hs : Payment.autoResumeRecord ctx max s ⟨t₀, a⟩ r count = .ok (s', count')) :
    (∃ r', Waiting R a t₀ total rate s' r' ∧ s'.balance a = s.balance a) ∨
      Finished R a t₀ total rate (s.balance a) ctx.blockTime s' := by
  have hc := h.coherent.autoResumeRecord h.stored hs
  obtain ⟨acc, finished, r', hm, hr', -, hend⟩ := autoResumeRecord_eq_ok hs
  dsimp only at hm hend
  obtain ⟨hkeep, hbal⟩ := hm.payer_kept hg ha h.coherent h.stored
  rcases hend with ⟨-, -, rfl⟩ | ⟨-, hzero, s₁, r₁, hu, -, rfl⟩
  · refine Or.inl ⟨r', h.put (x := -acc.totalRate) ?_ hc (find?_insert_self _ _ _)
      hkeep.resume, hbal⟩
    rw [neg_neg]
    exact hr'
  · right
    refine ⟨hc, ?_, fun hact => ?_⟩
    · exact find?_erase_self _ _
    · have hrec : ((s₁.removeAutoResumeRecord t₀ a).putStreamRecord a r₁).record a = r₁ :=
        (record_putStreamRecord _ a r₁ a).trans (if_pos rfl)
      rw [hrec] at hact ⊢
      have hupd := updated_of_updateStreamRecord hu
      have hcharged := hupd.charged rfl
        (by rw [hr']; exact h.since.trans_le hnow) hact
      have hrate : r'.netflowRate = rate := by
        have hrates := h.rates
        rw [hr'] at hzero ⊢
        dsimp only at hzero ⊢
        omega
      refine ⟨?_, hupd.rates.1.trans ((add_zero _).trans hrate)⟩
      have hbalances := h.balances
      have hcoins : (acc.store a .active).balance a = s.balance a := hbal
      rw [hcoins] at hcharged
      dsimp only at hcharged
      rw [hrate, hr'] at hcharged
      dsimp only at hcharged
      rw [h.since, hbalances] at hcharged
      exact hcharged

theorem Finished.untouched (h : Finished R a t₀ total rate coins now s) (hs : s.Untouched a s')
    (hbal : s'.balance a = s.balance a) (hc : FlowCoherent R s') :
    Finished R a t₀ total rate coins now s' := by
  refine ⟨hc, (hs.resume t₀).trans h.gone, fun hact => ?_⟩
  rw [record_congr hs.record] at hact ⊢
  rw [hbal]
  exact h.charged hact

/-- **`AutoResume` leaves the account waiting or finishes its resumption.** -/
theorem Waiting.autoResume (hg : governanceAddress ∈ R) (ha : a ∉ R)
    (h : Waiting R a t₀ total rate s r) (hnow : t₀ ≤ ctx.blockTime)
    (hs : Payment.autoResume ctx s = .ok s') :
    (∃ r', Waiting R a t₀ total rate s' r') ∨
      Finished R a t₀ total rate (s.balance a) ctx.blockTime s' := by
  -- the keys still to come are different, and the account has no other key than that of `t₀`
  have hloop := autoResumeLoop_rule (fun l s' =>
    (l.map Prod.fst).Nodup ∧ (∀ e ∈ l, e.1.addr = a → e.1 = ⟨t₀, a⟩) ∧
      ((∃ r', Waiting R a t₀ total rate s' r' ∧ s'.balance a = s.balance a) ∨
        Finished R a t₀ total rate (s.balance a) ctx.blockTime s' ∧ ∀ e ∈ l, e.1.addr ≠ a))
    (fun e l s' hI => ?_) (fun e l s₁ r₁ count s₂ count' hI hr hround => ?_) ?_ hs
  · rcases hloop.2.2 with ⟨r', h', -⟩ | ⟨h', -⟩
    · exact Or.inl ⟨r', h'⟩
    · exact Or.inr h'
  · obtain ⟨hnodup, hkeys, hstage⟩ := hI
    refine ⟨(List.nodup_cons.1 hnodup).2, fun e' he' => hkeys e' (List.mem_cons_of_mem _ he'), ?_⟩
    rcases hstage with hwait | ⟨hfin, hother⟩
    · exact Or.inl hwait
    · exact Or.inr ⟨hfin, fun e' he' => hother e' (List.mem_cons_of_mem _ he')⟩
  · obtain ⟨hnodup, hkeys, hstage⟩ := hI
    obtain ⟨hfresh, hnodup⟩ := List.nodup_cons.1 hnodup
    have hrest : ∀ e' ∈ l, e'.1.addr = a → e'.1 = ⟨t₀, a⟩ := fun e' he' =>
      hkeys e' (List.mem_cons_of_mem _ he')
    refine ⟨hnodup, hrest, ?_⟩
    rcases hstage with ⟨r', hwait, hbal⟩ | ⟨hfin, hother⟩
    · by_cases hea : e.1.addr = a
      · have hkey := hkeys e List.mem_cons_self hea
        rw [hkey] at hround hr hfresh
        obtain rfl : r₁ = r' := Option.some.inj (hr.symm.trans hwait.stored)
        rcases hwait.autoResumeRecord hg ha hnow hround with ⟨r₂, hwait₂, hbal₂⟩ | hfin
        · exact Or.inl ⟨r₂, hwait₂, hbal₂.trans hbal⟩
        · refine Or.inr ⟨hbal ▸ hfin, fun e' he' hea' => hfresh ?_⟩
          rw [← hrest e' he' hea']
          exact List.mem_map_of_mem he'
      · obtain ⟨hsame, hbal₂⟩ := untouched_autoResumeRecord hg ha hwait.coherent hr (Ne.symm hea) hround
        exact Or.inl ⟨r', hwait.untouched hsame (hwait.coherent.autoResumeRecord hr hround),
          hbal₂.trans hbal⟩
    · have hea := hother e List.mem_cons_self
      obtain ⟨hsame, hbal₂⟩ := untouched_autoResumeRecord hg ha hfin.coherent hr (Ne.symm hea) hround
      exact Or.inr ⟨hfin.untouched hsame hbal₂ (hfin.coherent.autoResumeRecord hr hround),
        fun e' he' => hother e' (List.mem_cons_of_mem _ he')⟩
  · refine ⟨List.pairwise_map.2 (s.autoResumeRecords.sorted.imp fun hlt => ne_of_lt hlt),
      fun e he hea => ?_, Or.inl ⟨r, h, rfl⟩⟩
    obtain ⟨⟨t, x⟩, u⟩ := e
    obtain rfl : x = a := hea
    rw [(h.keys t).1 (find?_eq_some_iff.2 he)]

/-- **An `EndBlock` leaves the account waiting or takes it out of the resume queue.** -/
theorem Waiting.endBlock (hg : governanceAddress ∈ R) (ha : a ∉ R)
    (h : Waiting R a t₀ total rate s r) (hnow : t₀ ≤ ctx.blockTime)
    (hs : Payment.endBlock ctx s = .ok s') :
    (∃ r', Waiting R a t₀ total rate s' r') ∨ s'.autoResumeRecords.find? ⟨t₀, a⟩ = none := by
  obtain ⟨s₁, hresume, hsettle⟩ := bind_eq_ok.1 hs
  have hnow' : t₀ ≤ (ctx.withForced true).blockTime := hnow
  rcases h.autoResume hg ha hnow' hresume with hwait | hfin
  · left
    exact autoSettleLoop_invariant (fun s' => ∃ r', Waiting R a t₀ total rate s' r')
      (fun e he s₂ r₂ count s₃ count' stop hI hr _ hround => by
        obtain ⟨r', h'⟩ := hI
        exact h'.autoSettleRecord hg ha hr hround) hwait hsettle
  · right
    rw [(autoSettle_kept hsettle).2]
    exact hfin.gone

/-- **An operation that enqueues the account makes it wait.** -/
theorem Waiting.of_run {op : Op} (hc : FlowCoherent R s) (hop : op.Resumes a)
    (hs : op.run ctx s = .ok s') (hold : s.autoResumeRecords.find? ⟨ctx.blockTime, a⟩ = none)
    (hnew : s'.autoResumeRecords.find? ⟨ctx.blockTime, a⟩ = some ()) :
    Waiting R a ctx.blockTime ((s'.record a).staticBalance + (s'.record a).bufferBalance)
      ((s'.record a).netflowRate + (s'.record a).frozenNetflowRate) s' (s'.record a) := by
  obtain ⟨s₁, r, x, amount, hbank, hr, hres⟩ := hop.enqueued hs fun heq => by
    rw [heq, hold] at hnew
    cases hnew
  have hcoh := (hc.bankMove hbank).tryResumeStreamRecord hr hres
  obtain ⟨hst, hnq, expected, duration, r', -, -, -, -, hr', rfl⟩ :=
    enqueued_of_tryResume hres hnew
  have hrec : ((s₁.putStreamRecord a r').setAutoResumeRecord (ctx.withForced false).blockTime
      a).record a = r' := (record_putStreamRecord s₁ a r' a).trans (if_pos rfl)
  rw [hrec]
  refine ⟨hcoh, find?_insert_self _ _ _, ?_, ?_, rfl, rfl, fun t => ?_⟩
  · rw [hr']
    exact hst
  · rw [hr']
    rfl
  · change (s₁.autoResumeRecords.insert _ _).find? _ = _ ↔ _
    rw [find?_insert]
    split_ifs with ht
    · exact ⟨fun _ => congrArg QueueKey.timestamp ht, fun _ => rfl⟩
    · refine ⟨fun hfind => absurd ⟨t, hfind⟩ hnq, fun heq => ?_⟩
      rw [heq] at ht
      exact absurd rfl ht

end Stages

/-! ### Runs that note when a flow became active -/

/-- After a step to `s'` at `time`: the time of the last step that made the flow to a receiver
active. -/
def noteActive (a : Addr) (s s' : State) (time : ℤ) (start : Addr → ℤ) (x : Addr) : ℤ :=
  if s.outFlows.find? ⟨a, .active, x⟩ = none ∧ s'.outFlows.find? ⟨a, .active, x⟩ ≠ none then time
  else start x

/-- A step of the chain, with the times at which the flows of `a` became active beside it. -/
def tracedStep (a : Addr) (q : Chain × (Addr → ℤ)) (l : Ctx × Op) : Option (Chain × (Addr → ℤ)) :=
  (q.1.step l.1 l.2).map fun c => (c, noteActive a q.1.state c.state c.time q.2)

/-- The steps while `a` is in the resume queue since `t₀`: `EndBlock`, and operations that do not
touch the account. -/
structure WaitStep (R : Set Addr) (a : Addr) (t₀ : ℤ) (q : Chain × (Addr → ℤ)) (l : Ctx × Op) :
    Prop where
  fits : l.2.FlowsFit R q.1.state
  waits : q.1.state.autoResumeRecords.find? ⟨t₀, a⟩ = some ()
  only : l.2 = .endBlock ∨ ∀ c', q.1.step l.1 l.2 = some c' → q.1.state.Untouched a c'.state

/-- What the active flows of `a` carry from the times `start` to `now`. -/
def State.creditedSince (s : State) (a : Addr) (start : Addr → ℤ) (now : ℤ) : ℤ :=
  s.outFlows.sum fun k v => if ActiveOf a k then v * (now - start k.toAddr) else 0

/-- Flows that started at `t₀` or later carry what the rate of the payer makes of the time since
`t₀` exactly if none started later. -/
theorem creditedSince_eq_iff {start : Addr → ℤ} {t₀ : ℤ} (hc : FlowCoherent R s) (ha : a ∉ R)
    (hstart : ∀ x, t₀ ≤ start x) :
    -(s.record a).netflowRate * (now - t₀) = s.creditedSince a start now ↔
      ∀ x, s.outFlows.find? ⟨a, .active, x⟩ ≠ none → start x = t₀ := by
  have hsplit : -(s.record a).netflowRate * (now - t₀) = s.creditedSince a start now +
      s.outFlows.sum (fun k v => if ActiveOf a k then v * (start k.toAddr - t₀) else 0) := by
    rw [hc.payer_rate a ha, neg_neg, State.creditedSince, ← sum_add, flowSum, SortedMap.sum,
      ← List.sum_map_mul_right]
    refine congrArg List.sum (List.map_congr_left fun e _ => ?_)
    by_cases he : ActiveOf a e.1
    · simp only [if_pos he]
      ring
    · simp only [if_neg he, zero_mul, add_zero]
  have hzero := sum_eq_zero_iff_of_nonneg (m := s.outFlows)
    (f := fun k v => if ActiveOf a k then v * (start k.toAddr - t₀) else 0) fun k v hk => by
      have hpos := hc.rate_pos k v hk
      have hle := hstart k.toAddr
      split_ifs
      · exact mul_nonneg hpos.le (by omega)
      · exact le_rfl
  rw [hsplit, add_eq_left, hzero]
  constructor
  · intro h x hx
    obtain ⟨v, hv⟩ := Option.ne_none_iff_exists'.1 hx
    have hpos := hc.rate_pos _ v hv
    have hmul := h _ v hv
    rw [if_pos ⟨rfl, rfl⟩] at hmul
    rcases mul_eq_zero.1 hmul with hv₀ | hx₀
    · omega
    · dsimp only at hx₀
      omega
  · rintro h ⟨y, st, x⟩ v hk
    split_ifs with hact
    · obtain ⟨rfl, rfl⟩ := hact
      rw [h x (by simp [hk]), sub_self, mul_zero]
    · rfl

/-- What holds along a run on which `a` waits: the noted times are not before `t₀`. -/
structure TracedWait (R : Set Addr) (a : Addr) (t₀ total rate : ℤ) (q : Chain × (Addr → ℤ)) : Prop where
  coherent : FlowCoherent R q.1.state
  time : t₀ ≤ q.1.time
  start : ∀ x, t₀ ≤ q.2 x
  waiting : q.1.state.autoResumeRecords.find? ⟨t₀, a⟩ = some () →
    ∃ r, Waiting R a t₀ total rate q.1.state r

theorem TracedWait.step {t₀ total rate : ℤ} {q q' : Chain × (Addr → ℤ)} {l : Ctx × Op}
    (hg : governanceAddress ∈ R) (ha : a ∉ R) (h : TracedWait R a t₀ total rate q)
    (hl : WaitStep R a t₀ q l) (hs : tracedStep a q l = some q') :
    TracedWait R a t₀ total rate q' := by
  obtain ⟨c', hstep, rfl⟩ := Option.map_eq_some_iff.1 hs
  obtain ⟨r, hwait⟩ := h.waiting hl.waits
  obtain ⟨htime, htime', hrun⟩ := step_eq_some hstep
  have hnow : t₀ ≤ l.1.blockTime := h.time.trans htime
  have hcoh : FlowCoherent R c'.state := by
    rcases hrun with hrun | heq
    · exact h.coherent.run hl.fits hrun
    · rw [heq]
      exact h.coherent
  refine ⟨hcoh, htime'.symm ▸ hnow, fun x => ?_, fun hkey => ?_⟩
  · change t₀ ≤ noteActive a q.1.state c'.state c'.time q.2 x
    unfold noteActive
    split_ifs
    · rw [htime']
      exact hnow
    · exact h.start x
  · obtain ⟨ctx, op⟩ := l
    rcases hl.only with hop | hsame
    · obtain rfl : op = .endBlock := hop
      obtain ⟨-, -, hend⟩ := step_endBlock hstep
      refine (hwait.endBlock hg ha hnow hend).resolve_right fun hnone => ?_
      rw [hnone] at hkey
      cases hkey
    · exact ⟨r, hwait.untouched (hsame c' hstep) hcoh⟩

/-- **An account that is put into the resume queue waits in it** until `AutoResume` finishes. -/
theorem TracedWait.of_enqueued {c c₁ : Chain} {ctx₀ : Ctx} {op : Op} {q : Chain × (Addr → ℤ)}
    (hg : governanceAddress ∈ R) (ha : a ∉ R) (hc : FlowCoherent R c.state) (hop : op.Resumes a)
    (henq : c.step ctx₀ op = some c₁)
    (hold : c.state.autoResumeRecords.find? ⟨ctx₀.blockTime, a⟩ = none)
    (hnew : c₁.state.autoResumeRecords.find? ⟨ctx₀.blockTime, a⟩ = some ())
    (hq : Reachable (tracedStep a) (WaitStep R a ctx₀.blockTime) (c₁, fun _ => ctx₀.blockTime) q) :
    TracedWait R a ctx₀.blockTime
      ((c₁.state.record a).staticBalance + (c₁.state.record a).bufferBalance)
      ((c₁.state.record a).netflowRate + (c₁.state.record a).frozenNetflowRate) q := by
  obtain ⟨-, htime, hrun⟩ := step_eq_some henq
  have hrun : op.run ctx₀ c.state = .ok c₁.state := by
    refine hrun.resolve_right fun heq => ?_
    rw [heq, hold] at hnew
    cases hnew
  have hwait := Waiting.of_run hc hop hrun hold hnew
  exact hq.invariant _ ⟨hwait.coherent, htime.ge, fun _ => le_rfl, fun _ => ⟨_, hwait⟩⟩
    fun _ _ _ h hstep hs => h.step hg ha hstep hs

/-- The record of an active receiver grows by what `a` pays it, while that flow is active, and by
what the others pay it. -/
theorem FlowCoherent.receiver_earns {x : Addr} (hc : FlowCoherent R s) (hx : x ∈ R)
    (hr : s.streamRecords.find? x = some r) (hst : r.status = .active) (a : Addr) (t t' : ℤ) :
    s.worthAt x t' - s.worthAt x t = ((s.outFlows.find? ⟨a, .active, x⟩).getD 0 +
      flowSum (s.outFlows.erase ⟨a, .active, x⟩) (ActiveTo x)) * (t' - t) := by
  have hrate := hc.receiver_rate x hx
  rw [record_of_find? hr] at hrate
  have hothers := flowSum_erase s.outFlows (ActiveTo x) ⟨a, .active, x⟩ _ rfl
  rw [if_pos ⟨rfl, rfl⟩, ← hrate] at hothers
  rw [worthAt_of_find? hr, worthAt_of_find? hr, hothers]
  simp only [StreamRecord.worth, if_pos hst]
  ring

/-- **What a resumption through the queue credits.**  In every state of the run the own record of a
receiver earns the flow of the account from the step on that has made it active. -/
theorem resume_credit {p : Params} {balance : Addr → ℤ} {time : ℤ} {c c₁ : Chain} {ctx₀ : Ctx}
    {op : Op} {q : Chain × (Addr → ℤ)} {x : Addr} (hg : governanceAddress ∈ R) (ha : a ∉ R)
    (h : FlowReachable R p balance time c) (hop : op.Resumes a) (henq : c.step ctx₀ op = some c₁)
    (hold : c.state.autoResumeRecords.find? ⟨ctx₀.blockTime, a⟩ = none)
    (hnew : c₁.state.autoResumeRecords.find? ⟨ctx₀.blockTime, a⟩ = some ())
    (hq : Reachable (tracedStep a) (WaitStep R a ctx₀.blockTime) (c₁, fun _ => ctx₀.blockTime) q)
    (hx : x ∈ R) (hr : q.1.state.streamRecords.find? x = some r) (hst : r.status = .active)
    (t t' : ℤ) : q.1.state.worthAt x t' - q.1.state.worthAt x t =
      ((q.1.state.outFlows.find? ⟨a, .active, x⟩).getD 0 +
        flowSum (q.1.state.outFlows.erase ⟨a, .active, x⟩) (ActiveTo x)) * (t' - t) :=
  (TracedWait.of_enqueued hg ha h.coherent hop henq hold hnew hq).coherent.receiver_earns hx hr hst a
    t t'

/-- **What a resumption through the queue charges.**  An account is put into the resume queue at
`t₀`, and `AutoResume` finishes the resumption at a later `t₁`.  What the account is charged, from
its static and buffer balance and from its coins, is what its flows have carried since they became
active exactly if all of them became active at `t₀`: then before the last `AutoResume` no flow of
the account is frozen any more, and none became active after `t₀`. -/
theorem resume_debit (R : Set Addr) (hgov : governanceAddress ∈ R) (p : Params)
    (balance : Addr → ℤ) (time : ℤ) (c : Chain) (h : FlowReachable R p balance time c) (ctx₀ : Ctx)
    (op : Op) (a : Addr) (ha : a ∉ R) (hop : op.Resumes a) (c₁ : Chain)
    (henq : c.step ctx₀ op = some c₁)
    (hold : c.state.autoResumeRecords.find? ⟨ctx₀.blockTime, a⟩ = none)
    (hnew : c₁.state.autoResumeRecords.find? ⟨ctx₀.blockTime, a⟩ = some ())
    (l : List (Ctx × Op))
    (hl : Guarded (tracedStep a) (WaitStep R a ctx₀.blockTime) (c₁, fun _ => ctx₀.blockTime) l)
    (c₂ : Chain) (start : Addr → ℤ)
    (hrun : runSteps (tracedStep a) (c₁, fun _ => ctx₀.blockTime) l = some (c₂, start))
    (hwaits : c₂.state.autoResumeRecords.find? ⟨ctx₀.blockTime, a⟩ = some ())
    (ctx₁ : Ctx) (hlater : ctx₀.blockTime < ctx₁.blockTime)
    (w : State) (hfin : autoResume (ctx₁.withForced true) c₂.state = .ok w)
    (hactive : (w.record a).status = .active) :
    (c₁.state.record a).staticBalance + (c₁.state.record a).bufferBalance +
          (c₂.state.balance a - w.balance a) -
          ((w.record a).staticBalance + (w.record a).bufferBalance) =
        w.creditedSince a (noteActive a c₂.state w ctx₁.blockTime start) ctx₁.blockTime ↔
      (∀ x, c₂.state.outFlows.find? ⟨a, .frozen, x⟩ = none) ∧
        ∀ x, c₂.state.outFlows.find? ⟨a, .active, x⟩ ≠ none → start x = ctx₀.blockTime := by
  -- the run leaves the account waiting
  have htraced := TracedWait.of_enqueued hgov ha h.coherent hop henq hold hnew
    (.of_runSteps .start hl hrun)
  obtain ⟨r, hwait₂⟩ := htraced.waiting hwaits
  have hnow : ctx₀.blockTime ≤ (ctx₁.withForced true).blockTime := hlater.le
  have hdone := (hwait₂.autoResume hgov ha hnow hfin).resolve_left fun hwait₃ => by
    obtain ⟨r₃, hwait₃⟩ := hwait₃
    rw [record_of_find? hwait₃.stored, hwait₃.frozen] at hactive
    cases hactive
  obtain ⟨hcharged, hrate⟩ := hdone.charged hactive
  dsimp only [Ctx.withForced] at hcharged
  have hflows := flowsResumed_autoResume (a := a) hfin
  have hnofrozen := hdone.coherent.active_no_frozen a hactive
  have hnoted : ∀ x, ctx₀.blockTime ≤ noteActive a c₂.state w ctx₁.blockTime start x := by
    intro x
    unfold noteActive
    split_ifs
    · exact hlater.le
    · exact htraced.start x
  rw [hcharged, ← hrate, creditedSince_eq_iff hdone.coherent ha hnoted]
  constructor
  · intro hall
    have hactive₂ : ∀ x, c₂.state.outFlows.find? ⟨a, .active, x⟩ ≠ none →
        start x = ctx₀.blockTime := by
      intro x hx
      have hat := hall x (hflows.active x hx)
      rwa [noteActive, if_neg fun hnew => hx hnew.1] at hat
    refine ⟨fun x => ?_, hactive₂⟩
    by_contra hx
    -- a frozen flow becomes active in the last `AutoResume`
    have hnone := (hwait₂.coherent.exclusive a x).resolve_right hx
    have hbecomes : w.outFlows.find? ⟨a, .active, x⟩ ≠ none :=
      ((hflows.receivers x).2 (Or.inr hx)).resolve_right (not_not.2 (hnofrozen x))
    have hat := hall x hbecomes
    rw [noteActive, if_pos ⟨hnone, hbecomes⟩] at hat
    omega
  · rintro ⟨hnone, hall⟩ x hx
    have hold : c₂.state.outFlows.find? ⟨a, .active, x⟩ ≠ none :=
      ((hflows.receivers x).1 (Or.inl hx)).resolve_right (not_not.2 (hnone x))
    rw [noteActive, if_neg fun hnew => hold hnew.1]
    exact hall x hold

/-! ### Three flows resumed within one second, and over three -/

/-- Account 1 is charged for three flows and account 2 for one, all of rate 1. -/
def fourFlows : List UserFlows := [⟨1, [⟨10, 1⟩, ⟨11, 1⟩, ⟨12, 1⟩]⟩, ⟨2, [⟨10, 1⟩]⟩]

/-- All flows of both accounts are frozen. -/
def frozenPair : List (Ctx × Op) :=
  [(smallCtx 1000, .applyUserFlowsList true fourFlows), (smallCtx 1090, .endBlock),
    (smallCtx 1091, .endBlock), (smallCtx 1092, .endBlock)]

theorem frozenPair_reachable {c : Chain}
    (hc : runSteps Chain.exec (smallChain 300) frozenPair = some c) :
    FlowReachable smallReceivers smallParams (smallChain 300).state.balance 0 c := by
  refine Reachable.of_runSteps .start ?_ hc
  exact ⟨.of_pos rfl (by decide), fun _ _ => ⟨trivial, fun _ _ => ⟨trivial, fun _ _ => ⟨trivial,
    fun _ _ => trivial⟩⟩⟩⟩

/-- Account 1 is in the resume queue since 1093. -/
abbrev Waits (c : Chain) : Prop := c.state.autoResumeRecords.find? ⟨1093, 1⟩ = some ()

/-- Three blocks within the second in which account 1 was enqueued resume all its flows; the next
block finds nothing left to resume and charges each flow for one second. -/
theorem resume_debit_same_second :
    ∃ c c₁ c₂ start w,
      runSteps Chain.exec (smallChain 300) frozenPair = some c ∧
      c.step (smallCtx 1093) (.tryResume 1 600) = some c₁ ∧
      runSteps (tracedStep 1) (c₁, fun _ => 1093) (List.replicate 3 (smallCtx 1093, .endBlock)) =
        some (c₂, start) ∧
      autoResume ((smallCtx 1094).withForced true) c₂.state = .ok w ∧
      (c₁.state.record 1).staticBalance + (c₁.state.record 1).bufferBalance +
            (c₂.state.balance 1 - w.balance 1) -
            ((w.record 1).staticBalance + (w.record 1).bufferBalance) =
          w.creditedSince 1 (noteActive 1 c₂.state w 1094 start) 1094 := by
  obtain ⟨c, hc, hold, c₁, hc₁, hnew, q₁, hq₁, hw₁, q₂, hq₂, hw₂, q₃, hq₃, hw₃, hflows, w, hw,
      hactive⟩ : ∃ c,
      runSteps Chain.exec (smallChain 300) frozenPair = some c ∧
      c.state.autoResumeRecords.find? ⟨1093, 1⟩ = none ∧
      ∃ c₁, c.step (smallCtx 1093) (.tryResume 1 600) = some c₁ ∧ Waits c₁ ∧
      ∃ q₁, tracedStep 1 (c₁, fun _ => 1093) (smallCtx 1093, .endBlock) = some q₁ ∧ Waits q₁.1 ∧
      ∃ q₂, tracedStep 1 q₁ (smallCtx 1093, .endBlock) = some q₂ ∧ Waits q₂.1 ∧
      ∃ q₃, tracedStep 1 q₂ (smallCtx 1093, .endBlock) = some q₃ ∧ Waits q₃.1 ∧
        (∀ e ∈ q₃.1.state.outFlows.entries, e.1.addr = 1 →
          e.1.status = .active ∧ q₃.2 e.1.toAddr = 1093) ∧
        ∃ w, autoResume ((smallCtx 1094).withForced true) q₃.1.state = .ok w ∧
          (w.record 1).status = .active := by decide
  have hsteps : runSteps (tracedStep 1) (c₁, fun _ => 1093)
      (List.replicate 3 (smallCtx 1093, .endBlock)) = some (q₃.1, q₃.2) := by
    simp only [List.replicate, runSteps, hq₁, hq₂, hq₃, Option.bind_some]
  have hguard : Guarded (tracedStep 1) (WaitStep smallReceivers 1 1093) (c₁, fun _ => 1093)
      (List.replicate 3 (smallCtx 1093, .endBlock)) := by
    refine ⟨⟨trivial, hnew, Or.inl rfl⟩, fun q hq => ?_⟩
    obtain rfl := Option.some.inj (hq₁.symm.trans hq)
    refine ⟨⟨trivial, hw₁, Or.inl rfl⟩, fun q hq => ?_⟩
    obtain rfl := Option.some.inj (hq₂.symm.trans hq)
    exact ⟨⟨trivial, hw₂, Or.inl rfl⟩, fun _ _ => trivial⟩
  refine ⟨c, c₁, q₃.1, q₃.2, w, hc, hc₁, hsteps, hw, ?_⟩
  refine (resume_debit smallReceivers (by decide) smallParams _ _ c (frozenPair_reachable hc)
    (smallCtx 1093) (.tryResume 1 600) 1 (by simp [smallReceivers]) rfl c₁ hc₁ hold hnew _ hguard q₃.1
    q₃.2 hsteps hw₃ (smallCtx 1094) (by decide) w hw hactive).2 ⟨fun x => ?_, fun x hx => ?_⟩
  · cases hfind : q₃.1.state.outFlows.find? ⟨1, .frozen, x⟩ with
    | none => rfl
    | some v => cases (hflows _ (find?_eq_some_iff.1 hfind) rfl).1
  · obtain ⟨v, hv⟩ := Option.ne_none_iff_exists'.1 hx
    exact (hflows _ (find?_eq_some_iff.1 hv) rfl).2

/-- The flows of account 1 are resumed at 1093, 1094 and 1095.  They have carried 2, 1 and 0 when
`AutoResume` finishes at 1095, and the account is charged 6. -/
theorem resume_debit_too_much :
    ∃ c, FlowReachable smallReceivers smallParams (smallChain 300).state.balance 0 c ∧
      ∃ c₁, c.step (smallCtx 1093) (.tryResume 1 600) = some c₁ ∧ Waits c₁ ∧
        (c₁.state.record 1).staticBalance + (c₁.state.record 1).bufferBalance = 600 ∧
      ∃ q, runSteps (tracedStep 1) (c₁, fun _ => 1093)
          [(smallCtx 1093, .endBlock), (smallCtx 1094, .endBlock)] = some q ∧ Waits q.1 ∧
      ∃ w, autoResume ((smallCtx 1095).withForced true) q.1.state = .ok w ∧
        (w.record 1).status = .active ∧ q.1.state.balance 1 = w.balance 1 ∧
        (w.record 1).staticBalance + (w.record 1).bufferBalance = 594 ∧
        w.creditedSince 1 (noteActive 1 q.1.state w 1095 q.2) 1095 = 3 :=
  Option.exists_and_of_some (fun _ hc => frozenRun_reachable hc) (by decide)

end Moca.Payment
