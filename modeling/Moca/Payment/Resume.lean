/-
# Resuming an account over several blocks

An account with many out-flows is put into the resume queue, and each `EndBlock`
resumes some of its flows.  Nothing else in `EndBlock` gets in the way: `AutoSettle`
works on other accounts, which leaves this one as it is (`State.SameAccount`), and
it skips an account that it finds in the resume queue.

`ExistsAutoResumeRecord` gives up at the first record after the time it is asked
about, and `AutoSettle` asks with the time of the settle queue entry.  So it does
not find an account that was enqueued after that time: an entry left over from the
settlement that froze the account has its flows frozen again.  Without such an
entry every `EndBlock` makes progress (`Resuming.endBlock`).
-/

import Moca.Payment.SettleQueueRun

namespace Moca.Payment

open SortedMap

variable {R : Set Addr} {ctx : Ctx} {s s' : State} {a : Addr} {r r' : StreamRecord}
  {s₁ s₂ s₃ : State}

/-! ### What is kept of one account -/

/-- Two states that agree on the record and the settle queue entries of `a`, on the resume queue
and on the parameters. -/
structure State.SameRecord (a : Addr) (s s' : State) : Prop where
  record : s'.streamRecords.find? a = s.streamRecords.find? a
  entries : ∀ t, s'.autoSettleRecords.find? ⟨t, a⟩ = s.autoSettleRecords.find? ⟨t, a⟩
  resume : s'.autoResumeRecords = s.autoResumeRecords
  params : s'.params = s.params

/-- Two states that also agree on the flows of `a`. -/
structure State.SameAccount (a : Addr) (s s' : State) : Prop extends s.SameRecord a s' where
  flows : ∀ st x, s'.outFlows.find? ⟨a, st, x⟩ = s.outFlows.find? ⟨a, st, x⟩

theorem State.SameRecord.refl (a : Addr) (s : State) : s.SameRecord a s :=
  ⟨rfl, fun _ => rfl, rfl, rfl⟩

theorem State.SameRecord.trans (h : s₁.SameRecord a s₂) (h' : s₂.SameRecord a s₃) :
    s₁.SameRecord a s₃ where
  record := h'.record.trans h.record
  entries t := (h'.entries t).trans (h.entries t)
  resume := h'.resume.trans h.resume
  params := h'.params.trans h.params

theorem State.SameAccount.refl (a : Addr) (s : State) : s.SameAccount a s :=
  ⟨.refl a s, fun _ _ => rfl⟩

theorem State.SameAccount.trans (h : s₁.SameAccount a s₂) (h' : s₂.SameAccount a s₃) :
    s₁.SameAccount a s₃ :=
  ⟨h.toSameRecord.trans h'.toSameRecord, fun st x => (h'.flows st x).trans (h.flows st x)⟩

/-- Updating another account leaves this one as it is. -/
theorem sameRecord_updateStreamRecordByAddr {c : StreamRecordChange} (hg : a ≠ governanceAddress)
    (hc : a ≠ c.addr) (h : updateStreamRecordByAddr ctx s c = .ok s') : s.SameRecord a s' := by
  have hframe := updateStreamRecordByAddrDepth_frame _ h
  have hsame := spared_updateStreamRecordByAddrDepth hg _ h hc
  exact ⟨hsame.record, hsame.entries, hframe.autoResumeRecords, hframe.params⟩

variable {c c' : Chain} {addr : Addr} {f n now' sign : ℤ} {st : OutFlowStatus} {count count' : ℕ}
  {acc : FlowMove} {finished stop : Bool} {record : QueueKey} {r₁ : StreamRecord} {k max : ℕ}
  {op : Op} {p : Params}

theorem sameAccount_updateStreamRecord {c : StreamRecordChange} (hg : a ≠ governanceAddress)
    (ha : a ≠ addr) (h : updateStreamRecord ctx s addr r c = .ok (s', r')) :
    s.SameAccount a (s'.putStreamRecord addr r') := by
  have hframe := updateStreamRecord_frame h
  have hset := (spared_updateStreamRecord h hg ha).entries
  refine ⟨⟨?_, hset, hframe.autoResumeRecords, hframe.params⟩, fun st x => ?_⟩
  · rw [find?_putStreamRecord, if_neg ha, find?_updateStreamRecord h hg]
  · change s'.outFlows.find? _ = _
    rw [hframe.outFlows]

section Others

variable (hg : governanceAddress ∈ R) (ha : a ∉ R) (hc : FlowCoherent R s)
include hg ha hc

/-- A loop over the flows of any account leaves the record of a payer as it is. -/
theorem Moved.sameRecord {max : Option ℕ} (hr : s.streamRecords.find? addr = some r)
    (st' : OutFlowStatus) (hst : r.status = .frozen) (hne : st ≠ st')
    (hsign : sign = if st' = .active then 1 else -1)
    (hm : Moved ctx max sign s addr st count acc finished) : s.SameRecord a acc.state := by
  have hgov : a ≠ governanceAddress := fun heq => ha (heq ▸ hg)
  refine (hc.moved_invariant st' (.of_find? hr) hst hne hsign hm (s.SameRecord a)
    (fun s₁ s₂ f _ hto _ _ hs hI => ?_) (.refl a s)).2
  have hfa : a ≠ f.toAddr := fun heq => ha (heq ▸ hto)
  have hsame := sameRecord_updateStreamRecordByAddr hgov hfa hs
  exact hI.trans ⟨hsame.record, hsame.entries, hsame.resume, hsame.params⟩

/-- A loop over the flows of another account leaves this one as it is. -/
theorem Moved.sameAccount {max : Option ℕ} (hr : s.streamRecords.find? addr = some r)
    (st' : OutFlowStatus) (hst : r.status = .frozen) (hne : st ≠ st')
    (hsign : sign = if st' = .active then 1 else -1)
    (hm : Moved ctx max sign s addr st count acc finished) (haddr : a ≠ addr) :
    s.SameAccount a acc.state := by
  refine ⟨hm.sameRecord hg ha hc hr st' hst hne hsign, fun st₁ x => ?_⟩
  rw [find?_foldlM_moveFlow _ hm.state, if_neg]
  rintro ⟨f, -, hk⟩
  exact haddr (congrArg OutFlowKey.addr hk)

/-- **A round of `AutoSettle` on another account leaves this one as it is.** -/
theorem sameAccount_settleFlows (hr : s.streamRecords.find? record.addr = some r)
    (hst : r.status = .frozen) (hne : a ≠ record.addr)
    (hs : settleFlows ctx max s record r count = .ok (s', count')) : s.SameAccount a s' := by
  rcases settleFlows_eq_ok hs with ⟨-, rfl, -⟩ | ⟨-, acc, finished, r', hm, -, -, -, -, rfl⟩
  · exact .refl a s'
  · have hmove := hm.sameAccount hg ha hc hr .frozen hst (by simp) (by simp) hne
    have hflows : ∀ st x, (acc.store record.addr .frozen).outFlows.find? ⟨a, st, x⟩ =
        acc.state.outFlows.find? ⟨a, st, x⟩ := fun st x =>
      find?_foldl_setOutFlow (Or.inl hne) _ _
    refine hmove.trans ⟨⟨?_, fun t => ?_, ?_, ?_⟩, fun st x => ?_⟩
    · rw [find?_putStreamRecord, if_neg hne]
      cases finished <;> rfl
    · cases finished with
      | false => rfl
      | true => exact find?_erase_of_ne _ fun hk => hne (congrArg QueueKey.addr hk)
    · cases finished <;> rfl
    · cases finished <;> rfl
    · rw [← hflows]
      cases finished <;> rfl

theorem sameAccount_autoSettleRecord (hr : s.streamRecords.find? record.addr = some r)
    (hne : a ≠ record.addr)
    (hs : autoSettleRecord ctx max s record r count = .ok (s', count', stop)) :
    s.SameAccount a s' := by
  have hgov : a ≠ governanceAddress := fun heq => ha (heq ▸ hg)
  rcases autoSettleRecord_eq_ok hs with ⟨hst, -, hset⟩ | ⟨-, rfl, -⟩ |
    ⟨-, s₁, r₁, hu, -, ⟨rfl, -, -⟩ | ⟨hst₁, -, -, hset⟩⟩
  · exact sameAccount_settleFlows hg ha hc hr hst hne hset
  · exact .refl a s'
  · exact sameAccount_updateStreamRecord hgov hne hu
  · exact (sameAccount_updateStreamRecord hgov hne hu).trans
      (sameAccount_settleFlows hg ha (hc.updateStreamRecord hr rfl rfl hu)
        (find?_insert_self _ _ _) hst₁ hne hset)

end Others

/-! ### Counting flows -/

/-- The number of active flows of an account. -/
def State.activeFlowCount (s : State) (a : Addr) : ℤ := flowCount s.outFlows (ActiveOf a)

/-- The number of frozen flows of an account. -/
def State.frozenFlowCount (s : State) (a : Addr) : ℤ := flowCount s.outFlows (FrozenOf a)

/-- As many frozen flows of the account are active again as `MaxAutoResumeFlowCount` allows. -/
structure State.ResumesMany (s : State) (a : Addr) (s' : State) : Prop where
  active : s'.activeFlowCount a = s.activeFlowCount a +
    min (s.params.maxAutoResumeFlowCount : ℤ) (s.frozenFlowCount a)
  frozen : s'.frozenFlowCount a = s.frozenFlowCount a -
    min (s.params.maxAutoResumeFlowCount : ℤ) (s.frozenFlowCount a)

/-- Two states with the same flows of an account. -/
theorem flowCounts_congr
    (h : ∀ st x, s'.outFlows.find? ⟨a, st, x⟩ = s.outFlows.find? ⟨a, st, x⟩) :
    s'.activeFlowCount a = s.activeFlowCount a ∧ s'.frozenFlowCount a = s.frozenFlowCount a := by
  have hkeys : ∀ k : OutFlowKey, k.addr = a → s'.outFlows.find? k = s.outFlows.find? k := by
    rintro ⟨x, st, y⟩ rfl
    exact h st y
  exact ⟨flowCount_congr fun k hk => hkeys k hk.1, flowCount_congr fun k hk => hkeys k hk.1⟩

theorem frozenFlowCount_eq_zero (h : ∀ x, s.outFlows.find? ⟨a, .frozen, x⟩ = none) :
    s.frozenFlowCount a = 0 := by
  refine flowCount_eq_zero fun k hk => ?_
  obtain ⟨x, st, y⟩ := k
  obtain ⟨rfl, rfl⟩ := hk
  exact h y

/-- The receivers of a list without repetitions have other keys than one that is not in it. -/
theorem outFlowKey_ne {l : List OutFlow} {f g : OutFlow} (hf : f.toAddr ∉ l.map OutFlow.toAddr)
    (hg : g ∈ l) : (⟨a, st, g.toAddr⟩ : OutFlowKey) ≠ ⟨a, st, f.toAddr⟩ := fun heq => by
  have hto : g.toAddr = f.toAddr := congrArg OutFlowKey.toAddr heq
  exact hf (hto ▸ List.mem_map_of_mem hg)

/-- A loop takes one flow of the old status out of the store in each round. -/
theorem flowCount_foldlM_moveFlow (P : OutFlowKey → Prop) [DecidablePred P] :
    ∀ {l : List OutFlow} {s s' : State}, (l.map OutFlow.toAddr).Nodup →
      (∀ f ∈ l, s.outFlows.find? ⟨a, st, f.toAddr⟩ = some f.rate) →
      l.foldlM (fun s f => moveFlow ctx sign s (⟨a, st, f.toAddr⟩, f.rate)) s = .ok s' →
      flowCount s'.outFlows P = flowCount s.outFlows P -
        (l.map fun f => if P ⟨a, st, f.toAddr⟩ then (1 : ℤ) else 0).sum
  | [], s, s', _, _, h => by
    rw [List.foldlM_nil, pure_eq_ok] at h
    simp [h]
  | f :: l, s, s', hnodup, hstored, h => by
    rw [List.foldlM_cons, bind_eq_ok] at h
    obtain ⟨s₁, h₁, h₂⟩ := h
    obtain ⟨hf, hnodup⟩ := List.nodup_cons.1 hnodup
    have hflows : s₁.outFlows = s.outFlows.erase ⟨a, st, f.toAddr⟩ := (moveFlow_eq_ok h₁).1
    have hstored₁ : ∀ g ∈ l, s₁.outFlows.find? ⟨a, st, g.toAddr⟩ = some g.rate := by
      intro g hg
      rw [hflows, find?_erase_of_ne _ (outFlowKey_ne hf hg)]
      exact hstored g (List.mem_cons_of_mem _ hg)
    rw [flowCount_foldlM_moveFlow P hnodup hstored₁ h₂, hflows,
      flowCount_erase _ _ _ (hstored f List.mem_cons_self), List.map_cons, List.sum_cons]
    omega

/-- Writing flows back adds one flow of the new status for each of them. -/
theorem flowCount_foldl_setOutFlow (P : OutFlowKey → Prop) [DecidablePred P] :
    ∀ {l : List OutFlow} {m : OutFlows}, (l.map OutFlow.toAddr).Nodup →
      (∀ f ∈ l, m.find? ⟨a, st, f.toAddr⟩ = none) →
      flowCount (l.foldl (fun m o => setOutFlow m a st o) m) P = flowCount m P +
        (l.map fun f => if P ⟨a, st, f.toAddr⟩ then (1 : ℤ) else 0).sum
  | [], m, _, _ => by simp
  | f :: l, m, hnodup, hnone => by
    obtain ⟨hf, hnodup⟩ := List.nodup_cons.1 hnodup
    have hnone₁ : ∀ g ∈ l, (setOutFlow m a st f).find? ⟨a, st, g.toAddr⟩ = none := by
      intro g hg
      rw [setOutFlow, find?_insert_of_ne _ _ (outFlowKey_ne hf hg)]
      exact hnone g (List.mem_cons_of_mem _ hg)
    rw [List.foldl_cons, flowCount_foldl_setOutFlow P hnodup hnone₁, setOutFlow,
      flowCount_insert_new _ _ _ _ (hnone f List.mem_cons_self), List.map_cons, List.sum_cons]
    omega

/-- **A loop of `AutoResume` turns frozen flows into active ones**, one for one. -/
theorem Moved.flowCounts {max : Option ℕ} (hc : FlowCoherent R s)
    (hm : Moved ctx max sign s a .frozen count acc finished) :
    (acc.store a .active).activeFlowCount a = s.activeFlowCount a + acc.toUpdate.length ∧
      (acc.store a .active).frozenFlowCount a = s.frozenFlowCount a - acc.toUpdate.length := by
  have hnone : ∀ f ∈ acc.toUpdate, acc.state.outFlows.find? ⟨a, .active, f.toAddr⟩ = none := by
    intro f hf
    rw [find?_foldlM_moveFlow _ hm.state, if_neg (by simp)]
    refine (hc.exclusive a f.toAddr).resolve_right fun hfro => ?_
    rw [hm.stored f hf] at hfro
    cases hfro
  have hstore : ∀ (P : OutFlowKey → Prop) [DecidablePred P],
      flowCount (acc.store a .active).outFlows P = flowCount s.outFlows P -
        (acc.toUpdate.map fun f => if P ⟨a, .frozen, f.toAddr⟩ then (1 : ℤ) else 0).sum +
        (acc.toUpdate.map fun f => if P ⟨a, .active, f.toAddr⟩ then (1 : ℤ) else 0).sum := by
    intro P _
    rw [← flowCount_foldlM_moveFlow P hm.nodup hm.stored hm.state]
    exact flowCount_foldl_setOutFlow P hm.nodup hnone
  unfold State.activeFlowCount State.frozenFlowCount
  rw [hstore, hstore]
  simp [ActiveOf, FrozenOf]

/-! ### An account that can pay until its settle time -/

/-- The account pays, and its balances last until `S` and `forced` seconds more. -/
structure StreamRecord.Lasts (forced : ℕ) (S : ℤ) (r : StreamRecord) : Prop where
  pays : r.netflowRate + r.frozenNetflowRate < 0
  covers : -(r.netflowRate + r.frozenNetflowRate) * (S + forced - r.crudTimestamp) ≤
    r.staticBalance + r.bufferBalance

/-- A settle time that is computed from more than `ForcedSettleTime` seconds is in the future, or
negative. -/
theorem settleTime_future {now forced duration : ℤ} (hmax : now < 2 ^ 63) (hforced : 0 ≤ forced)
    (hnow : 0 ≤ now) (hlt : forced < duration) (hdur : duration < 2 ^ 63) :
    int64 (now - forced + duration) ≤ 0 ∨ now ≤ int64 (now - forced + duration) := by
  unfold int64
  omega

/-- **Before its settle time an active account is not settled**: an update leaves it active, with
balances that last as long. -/
theorem Updated.lasts {byAddr : State → StreamRecordChange → Except Error State} {S : ℤ}
    (hu : Updated byAddr ctx s addr r { addr := addr } s' r') (hst : r.status = .active)
    (hcrud : r.crudTimestamp ≤ ctx.blockTime) (hfrozen : r.frozenNetflowRate = 0)
    (h : r.Lasts s.params.forcedSettleTime S) (hS : ctx.blockTime < S) (hnow : 0 ≤ ctx.blockTime)
    (hmax : ctx.blockTime < 2 ^ 63) :
    r'.status = .active ∧ r'.Lasts s.params.forcedSettleTime S ∧
      r'.crudTimestamp = ctx.blockTime ∧
      ∀ t, s'.SettlesAt t addr → s.SettlesAt t addr ∨ t ≤ 0 ∨ ctx.blockTime ≤ t := by
  have hneg : r.netflowRate < 0 := by have := h.pays; omega
  -- what the record has after accrual and pull
  have hpulled : ∀ {s₁ : State} {r₁ : StreamRecord}, changed ctx s addr r { addr := addr } = (s₁, r₁) →
      r₁.netflowRate = r.netflowRate ∧ r₁.frozenNetflowRate = 0 ∧
        r₁.crudTimestamp = ctx.blockTime ∧
        -r.netflowRate * (S + s.params.forcedSettleTime - ctx.blockTime) ≤
          r₁.staticBalance + r₁.bufferBalance := by
    intro s₁ r₁ hpull
    obtain ⟨hcrud₁, -, -⟩ := pulled_worth hst hcrud hpull
    have hcred := (pulled_credit hst hcrud rfl hpull).2
    obtain ⟨hr₁, -⟩ := pull_fields hpull
    refine ⟨by rw [hr₁]; simp, by rw [hr₁]; simpa using hfrozen, hcrud₁, ?_⟩
    have hcov := h.covers
    rw [hfrozen, add_zero] at hcov
    rw [StreamRecord.credit, if_pos hst] at hcred
    linarith
  cases hu with
  | frozen hfro _ => simp [hst] at hfro
  | @kept s₁ r₁ t _ hpull _ ht =>
    obtain ⟨hrate, hfro, hcrud₁, hcov⟩ := hpulled hpull
    obtain ⟨hr₁, -, -, hqueue⟩ := pull_fields hpull
    obtain ⟨-, hdur, hdmax, rfl⟩ := ht.resolve_left fun hpos => by have := hpos.1; omega
    refine ⟨by rw [hr₁]; simpa using hst, ⟨?_, ?_⟩, hcrud₁, fun t ht => ?_⟩
    · simp only [hrate, hfro]
      omega
    · simp only [hrate, hfro, hcrud₁, add_zero]
      exact hcov
    · rw [State.SettlesAt, find?_updateAutoSettleRecord] at ht
      split_ifs at ht with hnew
      · right
        rw [hnew.2.1]
        exact settleTime_future hmax (by omega) hnow hdur hdmax
      · left
        rw [State.SettlesAt, ← hqueue]
        exact ht
  | @settled s₁ s₂ r₁ _ hpull _ _ hdur _ _ _ =>
    -- the balances last longer than `ForcedSettleTime`
    obtain ⟨hrate, -, -, hcov⟩ := hpulled hpull
    have hpos : 0 < -r.netflowRate := by omega
    have hlong : S + s.params.forcedSettleTime - ctx.blockTime ≤ r₁.payDuration := by
      have hbal : 0 ≤ r₁.staticBalance + r₁.bufferBalance :=
        le_trans (mul_nonneg hpos.le (by omega)) hcov
      rw [StreamRecord.payDuration, hrate, abs_of_neg hneg, Int.tdiv_eq_ediv_of_nonneg hbal,
        Int.le_ediv_iff_mul_le hpos]
      linarith
    have hparams : s₁.params.forcedSettleTime = s.params.forcedSettleTime := by
      rw [(pull_fields hpull).2.1.params]
    omega

/-! ### The stages of a resumption -/

/-- A payer `a` that was put into the resume queue at the time `t₀`, with a new settle time `S`. -/
structure Enqueued (R : Set Addr) (a : Addr) (t₀ S : ℤ) : Prop where
  gov : governanceAddress ∈ R
  payer : a ∉ R
  nonneg : 0 ≤ t₀
  bounded : S < 2 ^ 63

/-- What holds of the account from the time `t₀` on, before `S`.  The settle queue has no entry of
it from before `t₀`. -/
structure Covered (R : Set Addr) (a : Addr) (t₀ S now : ℤ) (s : State) (r : StreamRecord) : Prop
    extends Enqueued R a t₀ S where
  coherent : FlowCoherent R s
  stored : s.streamRecords.find? a = some r
  lasts : r.Lasts s.params.forcedSettleTime S
  crud_le : r.crudTimestamp ≤ now
  clean : ∀ t, s.SettlesAt t a → t ≤ 0 ∨ t₀ ≤ t

/-- The account is frozen, and the only one in the resume queue. -/
structure Resuming (R : Set Addr) (a : Addr) (t₀ S now : ℤ) (s : State) (r : StreamRecord) : Prop
    extends Covered R a t₀ S now s r where
  frozen : r.status = .frozen
  queue : s.autoResumeRecords = SortedMap.empty.insert ⟨t₀, a⟩ ()

/-- The account is active again, and the resume queue is empty. -/
structure Restored (R : Set Addr) (a : Addr) (t₀ S now : ℤ) (s : State) (r : StreamRecord) : Prop
    extends Covered R a t₀ S now s r where
  active : r.status = .active
  queue : s.autoResumeRecords = SortedMap.empty

section Stages

variable {t₀ S now : ℤ} {deposit : ℤ}

/-- Steps that leave the account as it is keep its stage. -/
theorem Covered.same (h : Covered R a t₀ S now s r) (hs : s.SameAccount a s')
    (hc : FlowCoherent R s') (hnow : now ≤ now') : Covered R a t₀ S now' s' r where
  toEnqueued := h.toEnqueued
  coherent := hc
  stored := hs.record.trans h.stored
  lasts := by
    rw [hs.params]
    exact h.lasts
  crud_le := h.crud_le.trans hnow
  clean t ht := h.clean t (by rwa [State.SettlesAt, hs.entries] at ht)

theorem Resuming.same (h : Resuming R a t₀ S now s r) (hs : s.SameAccount a s')
    (hc : FlowCoherent R s') (hnow : now ≤ now') : Resuming R a t₀ S now' s' r :=
  ⟨h.toCovered.same hs hc hnow, h.frozen, hs.resume.trans h.queue⟩

theorem Restored.same (h : Restored R a t₀ S now s r) (hs : s.SameAccount a s')
    (hc : FlowCoherent R s') (hnow : now ≤ now') : Restored R a t₀ S now' s' r :=
  ⟨h.toCovered.same hs hc hnow, h.active, hs.resume.trans h.queue⟩

/-- `AutoSettle` finds the account in the resume queue, if the entry it looks at is not from before
the account was put there. -/
theorem Resuming.exists (h : Resuming R a t₀ S now s r) {t : ℤ} (ht : t ≤ 0 ∨ t₀ ≤ t) :
    existsAutoResumeRecord s t a = true := by
  rw [existsAutoResumeRecord, h.queue]
  change existsResumeKey t a [(⟨t₀, a⟩, ())] = true
  rw [existsResumeKey, if_neg (by dsimp only; omega), if_pos rfl]

/-- **A round of `AutoSettle` does nothing to an account that is being resumed.** -/
theorem Resuming.autoSettleRecord (h : Resuming R a t₀ S now s r)
    (hkey : record.addr = a → record.timestamp ≤ 0 ∨ t₀ ≤ record.timestamp)
    (hr : s.streamRecords.find? record.addr = some r₁)
    (hs : Payment.autoSettleRecord ctx max s record r₁ count = .ok (s', count', stop)) :
    s.SameAccount a s' := by
  by_cases hra : record.addr = a
  · obtain rfl : r₁ = r := by
      rw [hra, h.stored] at hr
      exact (Option.some.inj hr).symm
    rcases autoSettleRecord_eq_ok hs with ⟨-, -, hset⟩ | ⟨hst, -, -⟩ | ⟨hst, -⟩
    · rcases settleFlows_eq_ok hset with ⟨-, rfl, -⟩ | ⟨hex, -⟩
      · exact .refl a s'
      · rw [hra, h.exists (hkey hra)] at hex
        cases hex
    · rw [h.frozen] at hst
      cases hst
    · rw [h.frozen] at hst
      cases hst
  · exact sameAccount_autoSettleRecord h.gov h.payer h.coherent hr (Ne.symm hra) hs

/-- Updating the restored account keeps it restored. -/
theorem Restored.updated (h : Restored R a t₀ S ctx.blockTime s r) (hS : ctx.blockTime < S)
    (ht : t₀ ≤ ctx.blockTime)
    (hu : Payment.updateStreamRecord ctx s a r { addr := a } = .ok (s', r₁)) :
    Restored R a t₀ S ctx.blockTime (s'.putStreamRecord a r₁) r₁ ∧
      (s'.putStreamRecord a r₁).outFlows = s.outFlows := by
  have hframe := updateStreamRecord_frame hu
  have hfro : r.frozenNetflowRate = 0 := by
    have hzero := h.coherent.resumed_all (h.coherent.active_no_frozen a
      (by rw [record_of_find? h.stored, h.active]))
    rwa [record_of_find? h.stored] at hzero
  obtain ⟨hst, hlasts, hcrud, hclean⟩ := (updated_of_updateStreamRecord hu).lasts h.active
    h.crud_le hfro h.lasts hS (h.nonneg.trans ht) (hS.trans h.bounded)
  refine ⟨⟨⟨h.toEnqueued, h.coherent.updateStreamRecord h.stored rfl rfl hu, find?_insert_self _ _ _,
    ?_, hcrud.le, fun t hs => ?_⟩, hst, hframe.autoResumeRecords.trans h.queue⟩, hframe.outFlows⟩
  · change r₁.Lasts s'.params.forcedSettleTime S
    rw [hframe.params]
    exact hlasts
  · rcases hclean t hs with hold | hnew
    · exact h.clean t hold
    · omega

/-- **A round of `AutoSettle` keeps a restored account restored**, and its flows. -/
theorem Restored.autoSettleRecord (h : Restored R a t₀ S ctx.blockTime s r) (hS : ctx.blockTime < S)
    (ht : t₀ ≤ ctx.blockTime) (hr : s.streamRecords.find? record.addr = some r₁)
    (hs : Payment.autoSettleRecord ctx max s record r₁ count = .ok (s', count', stop)) :
    (∃ r', Restored R a t₀ S ctx.blockTime s' r') ∧
      ∀ st x, s'.outFlows.find? ⟨a, st, x⟩ = s.outFlows.find? ⟨a, st, x⟩ := by
  by_cases hra : record.addr = a
  · subst hra
    obtain rfl : r₁ = r := Option.some.inj (hr.symm.trans h.stored)
    rcases autoSettleRecord_eq_ok hs with ⟨hst, -⟩ | ⟨-, rfl, -⟩ | ⟨-, s₁, r₂, hu, -, hend⟩
    · rw [h.active] at hst
      cases hst
    · exact ⟨⟨_, h⟩, fun _ _ => rfl⟩
    · obtain ⟨hres, hflows⟩ := h.updated hS ht hu
      rcases hend with ⟨rfl, -, -⟩ | ⟨hst₂, -⟩
      · exact ⟨⟨_, hres⟩, fun _ _ => by rw [hflows]⟩
      · rw [hres.active] at hst₂
        cases hst₂
  · have hsame := sameAccount_autoSettleRecord h.gov h.payer h.coherent hr (Ne.symm hra) hs
    exact ⟨⟨r, h.same hsame (h.coherent.autoSettleRecord hr hs) le_rfl⟩, hsame.flows⟩

/-- **`AutoSettle` does not touch the flows of an account that is being resumed or restored.** -/
theorem Resuming.autoSettle (h : Resuming R a t₀ S now s r) (hs : Payment.autoSettle ctx s = .ok s') :
    Resuming R a t₀ S now s' r ∧ s.SameAccount a s' := by
  refine autoSettleLoop_invariant (fun s' => Resuming R a t₀ S now s' r ∧ s.SameAccount a s')
    (fun e he s₁ r₁ count s₂ count' stop hI hr _ hround => ?_) ⟨h, .refl a s⟩ hs
  have hsame := hI.1.autoSettleRecord (fun hea => ?_) hr hround
  · exact ⟨hI.1.same hsame (hI.1.coherent.autoSettleRecord hr hround) le_rfl, hI.2.trans hsame⟩
  · refine h.clean _ ?_
    rw [State.SettlesAt, ← hea]
    exact find?_eq_some_iff.2 he

theorem Restored.autoSettle (h : Restored R a t₀ S ctx.blockTime s r) (hS : ctx.blockTime < S)
    (ht : t₀ ≤ ctx.blockTime) (hs : Payment.autoSettle ctx s = .ok s') :
    (∃ r', Restored R a t₀ S ctx.blockTime s' r') ∧
      ∀ st x, s'.outFlows.find? ⟨a, st, x⟩ = s.outFlows.find? ⟨a, st, x⟩ := by
  refine autoSettleLoop_invariant (fun s' => (∃ r', Restored R a t₀ S ctx.blockTime s' r') ∧
    ∀ st x, s'.outFlows.find? ⟨a, st, x⟩ = s.outFlows.find? ⟨a, st, x⟩)
    (fun e he s₁ r₁ count s₂ count' stop hI hr _ hround => ?_) ⟨⟨r, h⟩, fun _ _ => rfl⟩ hs
  obtain ⟨⟨r', h'⟩, hflows⟩ := hI
  obtain ⟨hres, hkeep⟩ := h'.autoSettleRecord hS ht hr hround
  exact ⟨hres, fun st x => (hkeep st x).trans (hflows st x)⟩

/-- **`AutoResume` makes progress**: it resumes as many frozen flows as the bound allows, and an
account that it does not restore had at least that many. -/
theorem Resuming.autoResume (h : Resuming R a t₀ S ctx.blockTime s r) (hS : ctx.blockTime < S)
    (ht : t₀ ≤ ctx.blockTime) (hs : Payment.autoResume ctx s = .ok s') :
    s.ResumesMany a s' ∧
      s'.params = s.params ∧
      (((s.params.maxAutoResumeFlowCount : ℤ) ≤ s.frozenFlowCount a ∧
          ∃ r', Resuming R a t₀ S ctx.blockTime s' r') ∨
        ∃ r', Restored R a t₀ S ctx.blockTime s' r') := by
  have hround : ∃ count', Payment.autoResumeRecord ctx s.params.maxAutoResumeFlowCount s ⟨t₀, a⟩ r 0 =
      .ok (s', count') := by
    unfold Payment.autoResume at hs
    rw [h.queue] at hs
    change autoResumeLoop ctx _ [(⟨t₀, a⟩, ())] s 0 = .ok s' at hs
    unfold autoResumeLoop at hs
    simp only [h.stored] at hs
    obtain ⟨⟨s₁, count₁⟩, h₁, h₂⟩ := bind_eq_ok.1 hs
    cases h₂
    exact ⟨count₁, h₁⟩
  obtain ⟨count', hround⟩ := hround
  have hcoh := h.coherent.autoResumeRecord h.stored hround
  have hparams := autoResumeRecord_params hround
  obtain ⟨acc, finished, r', hm, hr', -, hend⟩ := autoResumeRecord_eq_ok hround
  dsimp only at hm hend
  have hkeep := hm.sameRecord h.gov h.payer h.coherent h.stored .active h.frozen (by simp) (by simp)
  obtain ⟨hactive, hfrozen⟩ := hm.flowCounts h.coherent
  -- the loop moves as many flows as there are, up to the bound
  have hlength : (acc.toUpdate.length : ℤ) =
      min (s.params.maxAutoResumeFlowCount : ℤ) (s.frozenFlowCount a) := by
    have hnonneg : 0 ≤ (acc.store a .active).frozenFlowCount a := flowCount_nonneg _ _
    have hcount := hm.count_eq
    have hbound := hm.bound _ rfl
    cases finished with
    | true =>
      have hzero := frozenFlowCount_eq_zero (hm.none_left .active (by simp))
      omega
    | false =>
      obtain ⟨m, hmax', hfull⟩ := hm.full rfl
      cases hmax'
      omega
  have hflows : s'.outFlows = (acc.store a .active).outFlows := by
    rcases hend with ⟨-, -, rfl⟩ | ⟨-, -, s₁, r₁, hu, -, rfl⟩
    · rfl
    · exact (updateStreamRecord_frame hu).outFlows
  have hlasts : r'.Lasts s.params.forcedSettleTime S := by
    have hpays := h.lasts.pays
    have hcov := h.lasts.covers
    rw [hr']
    constructor
    · dsimp only
      omega
    · dsimp only
      rwa [show r.netflowRate + -acc.totalRate + (r.frozenNetflowRate + acc.totalRate) =
        r.netflowRate + r.frozenNetflowRate by omega]
  refine ⟨⟨?_, ?_⟩, hparams, ?_⟩
  · rw [← hlength, ← hactive, State.activeFlowCount, hflows, State.activeFlowCount]
  · rw [← hlength, ← hfrozen, State.frozenFlowCount, hflows, State.frozenFlowCount]
  rcases hend with ⟨rfl, -, rfl⟩ | ⟨-, hzero, s₁, r₁, hu, -, rfl⟩
  · left
    obtain ⟨m, hmax', hfull⟩ := hm.full rfl
    cases hmax'
    refine ⟨?_, r', ⟨h.toEnqueued, hcoh, find?_insert_self _ _ _, ?_, ?_, fun t hset => ?_⟩, ?_,
      hkeep.resume.trans h.queue⟩
    · have hcount := hm.count_eq
      omega
    · rw [hparams]
      exact hlasts
    · rw [hr']
      exact h.crud_le
    · exact h.clean t ((hkeep.entries t).symm.trans hset)
    · rw [hr']
      exact h.frozen
  · right
    have hsame : (acc.store a .active).params = s.params := hkeep.params
    have hlasts' : ({ r' with status := .active } : StreamRecord).Lasts
        (acc.store a .active).params.forcedSettleTime S := by
      rw [hsame]
      exact ⟨hlasts.pays, hlasts.covers⟩
    obtain ⟨hst, hlasts₁, hcrud, hclean⟩ := (updated_of_updateStreamRecord hu).lasts rfl
      (by rw [hr']; exact h.crud_le) hzero hlasts' hS (h.nonneg.trans ht) (hS.trans h.bounded)
    refine ⟨r₁, ⟨h.toEnqueued, hcoh, find?_insert_self _ _ _, ?_, hcrud.le, fun t hset => ?_⟩, hst, ?_⟩
    · rw [hparams, ← hsame]
      exact hlasts₁
    · rcases hclean t hset with hold | hnew
      · exact h.clean t ((hkeep.entries t).symm.trans hold)
      · omega
    · have hqueue : s₁.autoResumeRecords = SortedMap.empty.insert ⟨t₀, a⟩ () :=
        ((updateStreamRecord_frame hu).autoResumeRecords.trans hkeep.resume).trans h.queue
      change s₁.autoResumeRecords.erase ⟨t₀, a⟩ = _
      refine ext_find? fun k => ?_
      rw [hqueue, find?_erase, find?_insert]
      split_ifs <;> rfl

/-- The account is being resumed, or has been. -/
def InStage (R : Set Addr) (a : Addr) (t₀ S now : ℤ) (s : State) : Prop :=
  (∃ r, Resuming R a t₀ S now s r) ∨ ∃ r, Restored R a t₀ S now s r

theorem InStage.same (h : InStage R a t₀ S now s) (hs : s.SameAccount a s')
    (hc : FlowCoherent R s') (hnow : now ≤ now') : InStage R a t₀ S now' s' :=
  h.imp (fun ⟨r, hr⟩ => ⟨r, hr.same hs hc hnow⟩) fun ⟨r, hr⟩ => ⟨r, hr.same hs hc hnow⟩

theorem InStage.coherent (h : InStage R a t₀ S now s) : FlowCoherent R s :=
  h.elim (fun ⟨_, hr⟩ => hr.coherent) fun ⟨_, hr⟩ => hr.coherent

theorem Restored.not_resuming (h : Restored R a t₀ S now s r) :
    ¬Resuming R a t₀ S now s r' := fun h' => by
  have hst := h'.frozen
  rw [Option.some.inj (h'.stored.symm.trans h.stored), h.active] at hst
  cases hst

theorem Restored.frozenFlowCount (h : Restored R a t₀ S now s r) : s.frozenFlowCount a = 0 :=
  frozenFlowCount_eq_zero (h.coherent.active_no_frozen a (by rw [record_of_find? h.stored, h.active]))

/-- **Every `EndBlock` makes progress** on an account that is being resumed: `AutoResume` resumes
as many flows as the bound allows, and `AutoSettle` leaves the flows as they are. -/
theorem InStage.endBlock (h : InStage R a t₀ S ctx.blockTime s) (hS : ctx.blockTime < S)
    (ht : t₀ ≤ ctx.blockTime) (hs : Payment.endBlock ctx s = .ok s') : s.ResumesMany a s' ∧
      InStage R a t₀ S ctx.blockTime s' ∧
      ((∃ r, Resuming R a t₀ S ctx.blockTime s' r) → (∃ r, Resuming R a t₀ S ctx.blockTime s r) ∧
        (s.params.maxAutoResumeFlowCount : ℤ) ≤ s.frozenFlowCount a) ∧
      ∀ w, Payment.autoResume (ctx.withForced true) s = .ok w →
        ∀ st x, s'.outFlows.find? ⟨a, st, x⟩ = w.outFlows.find? ⟨a, st, x⟩ := by
  obtain ⟨w, hresume, hsettle⟩ := bind_eq_ok.1 hs
  have hS' : (ctx.withForced true).blockTime < S := hS
  have ht' : t₀ ≤ (ctx.withForced true).blockTime := ht
  -- the flows after `AutoResume` are those after `EndBlock`
  suffices hw : s.ResumesMany a w ∧
      InStage R a t₀ S ctx.blockTime s' ∧
      ((∃ r, Resuming R a t₀ S ctx.blockTime s' r) → (∃ r, Resuming R a t₀ S ctx.blockTime s r) ∧
        (s.params.maxAutoResumeFlowCount : ℤ) ≤ s.frozenFlowCount a) ∧
      ∀ st x, s'.outFlows.find? ⟨a, st, x⟩ = w.outFlows.find? ⟨a, st, x⟩ by
    obtain ⟨hcounts, hstage, hfull, hflows⟩ := hw
    obtain ⟨hactive, hfrozen⟩ := flowCounts_congr hflows
    refine ⟨⟨hactive.trans hcounts.active, hfrozen.trans hcounts.frozen⟩, hstage, hfull,
      fun w' hw' => ?_⟩
    obtain rfl : w = w' := Except.ok.inj (hresume.symm.trans hw')
    exact hflows
  rcases h with ⟨r, h⟩ | ⟨r, h⟩
  · have hstart : Resuming R a t₀ S (ctx.withForced true).blockTime s r := h
    obtain ⟨hmany, -, hend⟩ := hstart.autoResume hS' ht' hresume
    rcases hend with ⟨hfull, r', h'⟩ | ⟨r', h'⟩
    · obtain ⟨h'', hsame⟩ := h'.autoSettle hsettle
      exact ⟨hmany, Or.inl ⟨r', h''⟩, fun _ => ⟨⟨r, h⟩, hfull⟩, hsame.flows⟩
    · obtain ⟨⟨r'', h''⟩, hflows⟩ := h'.autoSettle hS' ht' hsettle
      exact ⟨hmany, Or.inr ⟨r'', h''⟩, fun ⟨_, h₁⟩ => (h''.not_resuming h₁).elim, hflows⟩
  · have hw : w = s := by
      unfold Payment.autoResume at hresume
      rw [h.queue] at hresume
      exact (Except.ok.inj hresume).symm
    subst hw
    have hstart : Restored R a t₀ S (ctx.withForced true).blockTime w r := h
    obtain ⟨⟨r'', h''⟩, hflows⟩ := hstart.autoSettle hS' ht' hsettle
    have hzero := h.frozenFlowCount
    exact ⟨⟨by omega, by omega⟩, Or.inr ⟨r'', h''⟩, fun ⟨_, h₁⟩ => (h''.not_resuming h₁).elim, hflows⟩

/-- **A resumption that enqueues the account.**  It was frozen and not in the resume queue, and its
record is written with a buffer for `ReserveTime` seconds. -/
theorem enqueued_of_tryResume (h : Payment.tryResumeStreamRecord ctx s a r deposit = .ok s')
    (hqueued : s'.autoResumeRecords.find? ⟨ctx.blockTime, a⟩ = some ()) :
    r.status = .frozen ∧ ¬s.Queued a ∧ ∃ expected duration r',
      r.netflowRate + r.frozenNetflowRate ≠ 0 ∧
      expected = -(r.netflowRate + r.frozenNetflowRate) * s.params.versionedParams.reserveTime ∧
      expected ≤ r.staticBalance + deposit ∧
      toInt64 ((r.staticBalance + deposit).tdiv |r.netflowRate + r.frozenNetflowRate|) =
        .ok duration ∧
      r' = (r.addStatic deposit).resumed ctx.blockTime
        (int64 (ctx.blockTime + duration - s.params.forcedSettleTime)) expected ∧
      s' = (s.putStreamRecord a r').setAutoResumeRecord ctx.blockTime a := by
  obtain ⟨hst, hex, hres⟩ := resumed_of_eq_ok h
  have hnq : ¬s.Queued a := by
    rw [← existsAutoResumeRecord_zero, hex]
    simp
  refine ⟨hst, hnq, ?_⟩
  cases hres with
  | idle _ _ => exact absurd ⟨_, hqueued⟩ hnq
  | short _ _ _ => exact absurd ⟨_, hqueued⟩ hnq
  | direct _ _ _ _ _ hm _ _ =>
    rw [(updateAutoSettleRecord_frame _ _ _ _).autoResumeRecords] at hqueued
    have hold : s.autoResumeRecords.find? ⟨ctx.blockTime, a⟩ = some () := hm.kept.2 ▸ hqueued
    exact absurd ⟨_, hold⟩ hnq
  | queued hrate hexp hpay hdur _ hr' _ => exact ⟨_, _, _, hrate, hexp, hpay, hdur, hr', rfl⟩

/-- An operation that enqueues an account does so through `TryResumeStreamRecord`, after at most a
transfer in the bank. -/
theorem Op.Resumes.enqueued (hop : op.Resumes a) (hs : op.run ctx s = .ok s')
    (hne : s'.autoResumeRecords ≠ s.autoResumeRecords) :
    ∃ s₁ r x amount, s.BankMove s₁ amount ∧ s₁.streamRecords.find? a = some r ∧
      Payment.tryResumeStreamRecord (ctx.withForced false) s₁ a r x = .ok s' := by
  have hmoved {s₁ s₂ : State} {x : ℤ} (hbank : s₁.BankMove s₂ x) :
      s₂.autoResumeRecords = s₁.autoResumeRecords := by
    rw [hbank.eq]
  cases op.ran hs with
  | opened hbank _ _ =>
    have hsame := hmoved hbank
    exact absurd hsame hne
  | updated hbank _ _ hu _ hpay =>
    have hupdated := (updateStreamRecord_frame hu).autoResumeRecords.trans (hmoved hbank)
    exact absurd ((hmoved hpay).trans hupdated) hne
  | @resumed _ toAddr _ x s₁ _ r hbank hr hres =>
    obtain rfl : a = toAddr := hop
    exact ⟨s₁, r, x, x, hbank, hr, hres⟩
  | @tried addr x _ r hr hres =>
    obtain rfl : a = addr := hop
    exact ⟨s, r, x, 0, .refl s, hr, hres⟩
  | claimed _ => exact hop.elim
  | charged _ => exact hop.elim
  | configured hsame _ => exact absurd hsame.autoResumeRecords hne
  | ended _ => exact hop.elim

/-- **An account that is put into the resume queue starts to be resumed**, if the settle queue has
no entry of it from before. -/
theorem Resuming.of_tryResume (hg : governanceAddress ∈ R) (ha : a ∉ R) (hc : FlowCoherent R s) (hp : s.params.validate = true)
    (hr : s.streamRecords.find? a = some r) (hnow : 0 ≤ ctx.blockTime)
    (hmax : ctx.blockTime < 2 ^ 63) (hs : Payment.tryResumeStreamRecord ctx s a r deposit = .ok s')
    (hqueued : s'.autoResumeRecords.find? ⟨ctx.blockTime, a⟩ = some ())
    (honly : ∀ k, s'.autoResumeRecords.find? k = some () → k.addr = a)
    (hclean : ∀ t, s.SettlesAt t a → t ≤ 0 ∨ ctx.blockTime ≤ t) :
    Resuming R a ctx.blockTime (s'.record a).settleTimestamp ctx.blockTime s' (s'.record a) := by
  have hcoh := hc.tryResumeStreamRecord hr hs
  obtain ⟨hst, hnq, expected, duration, r', hrate, hexp, hpay, hdur, hr', rfl⟩ :=
    enqueued_of_tryResume hs hqueued
  have hrates := hc.rates_nonpos ha
  rw [record_of_find? hr] at hrates
  have hrec : ((s.putStreamRecord a r').setAutoResumeRecord ctx.blockTime a).record a = r' :=
    (record_putStreamRecord s a r' a).trans (if_pos rfl)
  rw [hrec]
  have hneg : r.netflowRate + r.frozenNetflowRate < 0 := by omega
  obtain ⟨-, hdmax, rfl⟩ := toInt64_eq_ok.1 hdur
  set duration := (r.staticBalance + deposit).tdiv |r.netflowRate + r.frozenNetflowRate|
  have hlong := le_tdiv_of_mul_le hneg (hexp ▸ hpay)
  have hforced := forcedSettleTime_lt_reserveTime hp
  -- the balance pays for `duration` seconds, and the settle time is not later
  have hpaid : -(r.netflowRate + r.frozenNetflowRate) * duration ≤ r.staticBalance + deposit := by
    have hbal : 0 ≤ r.staticBalance + deposit :=
      le_trans (mul_nonneg (by omega) (Int.natCast_nonneg _)) (hexp ▸ hpay)
    rw [show duration = (r.staticBalance + deposit) / -(r.netflowRate + r.frozenNetflowRate) by
      simp only [duration, abs_of_neg hneg, Int.tdiv_eq_ediv_of_nonneg hbal]]
    exact Int.mul_ediv_self_le (by omega)
  have hS : r'.settleTimestamp ≤ ctx.blockTime + duration - s.params.forcedSettleTime ∧
      r'.settleTimestamp < 2 ^ 63 := by
    rw [hr']
    change int64 (ctx.blockTime + duration - s.params.forcedSettleTime) ≤ _ ∧
      int64 (ctx.blockTime + duration - s.params.forcedSettleTime) < _
    unfold int64
    omega
  refine ⟨⟨⟨hg, ha, hnow, hS.2⟩, hcoh, find?_insert_self _ _ _, ⟨?_, ?_⟩, ?_, hclean⟩, ?_, ?_⟩
  · rw [hr']
    exact hneg
  · have hcov : -(r.netflowRate + r.frozenNetflowRate) *
        (r'.settleTimestamp + s.params.forcedSettleTime - ctx.blockTime) ≤
        -(r.netflowRate + r.frozenNetflowRate) * duration :=
      mul_le_mul_of_nonneg_left (by omega) (by omega)
    rw [hr'] at hcov ⊢
    simp only [StreamRecord.resumed, StreamRecord.addStatic] at hcov ⊢
    change _ * (_ + (s.params.forcedSettleTime : ℤ) - _) ≤ _
    linarith
  · rw [hr']
    exact le_rfl
  · rw [hr']
    exact hst
  · refine ext_find? fun k => ?_
    rw [find?_insert, find?_empty]
    split_ifs with hk
    · rw [hk]
      exact hqueued
    · cases hfind : ((s.putStreamRecord a r').setAutoResumeRecord ctx.blockTime
        a).autoResumeRecords.find? k with
      | none => rfl
      | some u =>
        -- another key of the account would have been there before
        have hka := honly k hfind
        rw [State.setAutoResumeRecord, find?_insert_of_ne _ _ hk] at hfind
        exact absurd ⟨k.timestamp, hka ▸ hfind⟩ hnq

end Stages

/-! ### Runs -/

theorem FlowReachable.validate {balance : Addr → ℤ} {time : ℤ}
    (h : FlowReachable R p balance time c) (hp : p.validate = true) :
    c.state.params.validate = true := by
  refine Reachable.invariant (fun c => c.state.params.validate = true) hp
    (fun c l c' hc _ hstep => ?_) h
  obtain ⟨-, -, hrun | hsame⟩ := step_eq_some hstep
  · exact Op.run_validate hc hrun
  · rw [hsame]
    exact hc

/-- A deposit or a resumption that enqueues an account starts to resume it. -/
theorem Resuming.of_run (hg : governanceAddress ∈ R) (ha : a ∉ R) (hc : FlowCoherent R s) (hp : s.params.validate = true)
    (hop : op.Resumes a) (hnow : 0 ≤ ctx.blockTime) (hmax : ctx.blockTime < 2 ^ 63)
    (hs : op.run ctx s = .ok s') (hold : s.autoResumeRecords.find? ⟨ctx.blockTime, a⟩ = none)
    (hnew : s'.autoResumeRecords.find? ⟨ctx.blockTime, a⟩ = some ())
    (honly : ∀ k, s'.autoResumeRecords.find? k = some () → k.addr = a)
    (hclean : ∀ t, s.SettlesAt t a → t ≤ 0 ∨ ctx.blockTime ≤ t) :
    Resuming R a ctx.blockTime (s'.record a).settleTimestamp ctx.blockTime s' (s'.record a) := by
  have hnow' : 0 ≤ (ctx.withForced false).blockTime := hnow
  have hmax' : (ctx.withForced false).blockTime < 2 ^ 63 := hmax
  obtain ⟨s₁, r, x, amount, hbank, hr, hres⟩ := hop.enqueued hs fun heq => by
    rw [heq, hold] at hnew
    cases hnew
  have hstart := Resuming.of_tryResume hg ha (hc.bankMove hbank) (by rw [hbank.eq]; exact hp) hr hnow'
    hmax' hres hnew honly fun t ht => hclean t (by rw [hbank.eq] at ht; exact ht)
  exact hstart

/-- Whether an operation is `EndBlock`. -/
def Op.isEndBlock : Op → Bool
  | .endBlock => true
  | _ => false

/-- How often a run takes `EndBlock`. -/
def endBlocks (l : List (Ctx × Op)) : ℕ := l.countP fun e => e.2.isEndBlock

/-- The steps while `a` is being resumed: `EndBlock`, and operations that do not touch the account,
before the settle time `S`. -/
structure ResumeStep (R : Set Addr) (a : Addr) (S : ℤ) (c : Chain) (l : Ctx × Op) : Prop where
  fits : l.2.FlowsFit R c.state
  before : l.1.blockTime < S
  only : l.2 = .endBlock ∨ l.2.isEndBlock = false ∧
    ∀ c', c.step l.1 l.2 = some c' → c.state.SameAccount a c'.state

theorem step_endBlock (h : c.step ctx .endBlock = some c') :
    c.time ≤ ctx.blockTime ∧ c'.time = ctx.blockTime ∧
      Payment.endBlock ctx c.state = .ok c'.state := by
  unfold Chain.step at h
  split_ifs at h with htime
  obtain ⟨s, hs, rfl⟩ := Option.map_eq_some_iff.1 h
  refine ⟨htime, rfl, ?_⟩
  unfold stepState at hs
  split at hs
  · rename_i s₁ hrun
    cases hs
    exact hrun
  · cases hs

/-- What `k` blocks have done to an account that had `n` flows, `f` of them frozen. -/
structure Progress (R : Set Addr) (a : Addr) (t₀ S : ℤ) (max : ℕ) (n f : ℤ) (k : ℕ) (c : Chain) :
    Prop where
  stage : InStage R a t₀ S c.time c.state
  since : t₀ ≤ c.time
  bound : c.state.params.maxAutoResumeFlowCount = max
  total : c.state.activeFlowCount a + c.state.frozenFlowCount a = n
  frozen : c.state.frozenFlowCount a ≤ f
  unfinished : (∃ r, Resuming R a t₀ S c.time c.state r) →
    c.state.frozenFlowCount a + max * k ≤ f

theorem Progress.endBlock {t₀ S : ℤ} (h : Progress R a t₀ S max n f k c) (hS : ctx.blockTime < S)
    (hs : c.step ctx .endBlock = some c') : Progress R a t₀ S max n f (k + 1) c' := by
  obtain ⟨htime, htime', hend⟩ := step_endBlock hs
  have hstage := h.stage.same (.refl a _) h.stage.coherent htime
  obtain ⟨⟨hactive, hfrozen⟩, hstage', hfull, -⟩ := hstage.endBlock hS (h.since.trans htime) hend
  rw [h.bound] at hactive hfrozen hfull
  have hnonneg : 0 ≤ c.state.frozenFlowCount a := flowCount_nonneg _ _
  have htotal := h.total
  have hle := h.frozen
  refine ⟨htime' ▸ hstage', by rw [htime']; exact h.since.trans htime, ?_, by omega, by omega,
    fun hres => ?_⟩
  · rw [endBlock_params hend]
    exact h.bound
  · rw [htime'] at hres
    obtain ⟨⟨r, hbefore⟩, hmany⟩ := hfull hres
    have hunf := h.unfinished ?_
    · push_cast
      rw [mul_add, mul_one]
      omega
    · -- the account was frozen before, so it was being resumed
      refine h.stage.resolve_right fun ⟨r₁, hr⟩ => ?_
      exact (hr.same (.refl a _) hr.coherent htime).not_resuming hbefore

/-- Operations that do not touch the account keep its progress. -/
theorem Progress.same {t₀ S : ℤ} (h : Progress R a t₀ S max n f k c)
    (hs : c.state.SameAccount a c'.state) (hc : FlowCoherent R c'.state)
    (htime : c.time ≤ c'.time) :
    Progress R a t₀ S max n f k c' := by
  obtain ⟨hactive, hfrozen⟩ := flowCounts_congr hs.flows
  refine ⟨h.stage.same hs hc htime, h.since.trans htime, hs.params ▸ h.bound, ?_, ?_, fun hres => ?_⟩
  · rw [hactive, hfrozen]
    exact h.total
  · rw [hfrozen]
    exact h.frozen
  · obtain ⟨r, hr⟩ := hres
    rw [hfrozen]
    refine h.unfinished (h.stage.resolve_right fun ⟨r₁, hr'⟩ => ?_)
    exact (hr'.same hs hc htime).not_resuming hr

/-- **A whole run makes the progress of its blocks.** -/
theorem Progress.run {t₀ S : ℤ} :
    ∀ {l : List (Ctx × Op)} {k : ℕ} {c c' : Chain}, Progress R a t₀ S max n f k c →
      Guarded Chain.exec (ResumeStep R a S) c l →
      runSteps Chain.exec c l = some c' →
      Progress R a t₀ S max n f (k + endBlocks l) c'
  | [], k, c, c', h, _, hrun => by
    cases hrun
    exact h
  | (ctx, op) :: l, k, c, c', h, hl, hrun => by
    obtain ⟨c₁, h₁, h₂⟩ := Option.bind_eq_some_iff.1 hrun
    obtain ⟨hstep, hrest⟩ := hl
    have hcount : endBlocks ((ctx, op) :: l) = endBlocks l + if op.isEndBlock then 1 else 0 :=
      List.countP_cons
    rcases hstep.only with hop | ⟨hop, hsame⟩
    · obtain rfl : op = .endBlock := hop
      have hprog := (h.endBlock hstep.before h₁).run (hrest c₁ h₁) h₂
      rw [hcount, show Op.endBlock.isEndBlock = true from rfl, if_pos rfl,
        show k + (endBlocks l + 1) = k + 1 + endBlocks l by omega]
      exact hprog
    · have hcoh := h.stage.coherent
      obtain ⟨htime, htime', hrun'⟩ := step_eq_some h₁
      have hcoh₁ : FlowCoherent R c₁.state := by
        rcases hrun' with hrun' | heq
        · exact hcoh.run hstep.fits hrun'
        · rw [heq]
          exact hcoh
      have hprog := (h.same (hsame c₁ h₁) hcoh₁ (htime'.symm ▸ htime)).run (hrest c₁ h₁) h₂
      rw [hcount, show op.isEndBlock = false from hop, if_neg (by simp), add_zero]
      exact hprog

theorem maxAutoResumeFlowCount_pos (h : p.validate = true) : 0 < p.maxAutoResumeFlowCount := by
  simp only [Params.validate, Bool.and_eq_true, decide_eq_true_eq] at h
  omega

/-- One block more than needed for `n` flows resumes more than `n` flows. -/
theorem blocks_cover {max k : ℤ} (hpos : 0 < max) (h : (n + max - 1) / max + 1 ≤ k) :
    n < max * k := by
  have hdiv := Int.emod_add_mul_ediv (n + max - 1) max
  have hmod := Int.emod_lt_of_pos (n + max - 1) hpos
  have hmul : max * ((n + max - 1) / max + 1) ≤ max * k := mul_le_mul_of_nonneg_left h hpos.le
  rw [mul_add, mul_one] at hmul
  omega

/-- **Resume makes progress.**  An account is put into the resume queue at a time from before which
the settle queue has no entry of it.  Then every later `EndBlock` before its new settle time
resumes as many of its frozen flows as `MaxAutoResumeFlowCount` allows, `AutoSettle` leaves its
flows as `AutoResume` left them, and after one block more than the bound needs for all flows the
account is active, without a frozen flow and out of the resume queue. -/
theorem resume_progress (R : Set Addr) (hgov : governanceAddress ∈ R) (p : Params)
    (hp : p.validate = true) (balance : Addr → ℤ) (time : ℤ) (c : Chain)
    (h : FlowReachable R p balance time c) (ctx₀ : Ctx) (op : Op) (a : Addr) (ha : a ∉ R)
    (hop : op.Resumes a) (hnow : 0 ≤ ctx₀.blockTime) (hmax : ctx₀.blockTime < 2 ^ 63) (c₁ : Chain)
    (henq : c.step ctx₀ op = some c₁)
    (hold : c.state.autoResumeRecords.find? ⟨ctx₀.blockTime, a⟩ = none)
    (hnew : c₁.state.autoResumeRecords.find? ⟨ctx₀.blockTime, a⟩ = some ())
    (honly : ∀ k, c₁.state.autoResumeRecords.find? k = some () → k.addr = a)
    (hclean : ∀ t, c.state.autoSettleRecords.find? ⟨t, a⟩ = some () → t ≤ 0 ∨ ctx₀.blockTime ≤ t)
    (l : List (Ctx × Op))
    (hl : Guarded Chain.exec
      (ResumeStep R a (c₁.state.record a).settleTimestamp) c₁ l)
    (c' : Chain) (hrun : runSteps Chain.exec c₁ l = some c') :
    (∀ ctx s', c'.time ≤ ctx.blockTime → ctx.blockTime < (c₁.state.record a).settleTimestamp →
        endBlock ctx c'.state = .ok s' →
        s'.activeFlowCount a = c'.state.activeFlowCount a +
            min (c₁.state.params.maxAutoResumeFlowCount : ℤ) (c'.state.frozenFlowCount a) ∧
          ∀ w, autoResume (ctx.withForced true) c'.state = .ok w →
            ∀ st x, s'.outFlows.find? ⟨a, st, x⟩ = w.outFlows.find? ⟨a, st, x⟩) ∧
      ((flowCount c₁.state.outFlows (fun k => k.addr = a) +
            c₁.state.params.maxAutoResumeFlowCount - 1) / c₁.state.params.maxAutoResumeFlowCount + 1 ≤
          (endBlocks l : ℤ) →
        (c'.state.record a).status = .active ∧ c'.state.frozenFlowCount a = 0 ∧
          ∀ t, c'.state.autoResumeRecords.find? ⟨t, a⟩ = none) := by
  obtain ⟨-, htime, hrun₁⟩ := step_eq_some henq
  have hrun₁ : op.run ctx₀ c.state = .ok c₁.state := by
    refine hrun₁.resolve_right fun heq => ?_
    rw [heq, hold] at hnew
    cases hnew
  have hvalid := h.validate hp
  have hstart := Resuming.of_run hgov ha h.coherent hvalid hop hnow hmax hrun₁ hold hnew honly hclean
  have htotal : flowCount c₁.state.outFlows (fun k => k.addr = a) =
      c₁.state.activeFlowCount a + c₁.state.frozenFlowCount a := flowCount_status _ a
  have hactive : 0 ≤ c₁.state.activeFlowCount a := flowCount_nonneg _ _
  have hbegin : Progress R a ctx₀.blockTime (c₁.state.record a).settleTimestamp
      c₁.state.params.maxAutoResumeFlowCount
      (c₁.state.activeFlowCount a + c₁.state.frozenFlowCount a) (c₁.state.frozenFlowCount a) 0 c₁ := by
    refine ⟨Or.inl ⟨c₁.state.record a, ?_⟩, htime.ge, rfl, rfl, le_rfl, fun _ => by simp⟩
    rw [htime]
    exact hstart
  have hend := hbegin.run hl hrun
  rw [zero_add] at hend
  refine ⟨fun ctx s' htime' hbefore hs' => ?_, fun hblocks => ?_⟩
  · have hstage := hend.stage.same (.refl a _) hend.stage.coherent htime'
    obtain ⟨⟨hact, -⟩, -, -, hflows⟩ := hstage.endBlock hbefore (hend.since.trans htime') hs'
    rw [hend.bound] at hact
    exact ⟨hact, hflows⟩
  · have hpos : 0 < c₁.state.params.maxAutoResumeFlowCount :=
      maxAutoResumeFlowCount_pos (Op.run_validate hvalid hrun₁)
    rcases hend.stage with hres | ⟨r, hr⟩
    · -- so many blocks would have resumed more flows than there are
      have hunf := hend.unfinished hres
      have hnonneg : 0 ≤ c'.state.frozenFlowCount a := flowCount_nonneg _ _
      have hceil := blocks_cover (Nat.cast_pos.2 hpos) hblocks
      rw [htotal] at hceil
      omega
    · refine ⟨by rw [record_of_find? hr.stored, hr.active], hr.frozenFlowCount, fun t => ?_⟩
      rw [hr.queue, find?_empty]

/-! ### A resumption with and without an old entry -/

/-- Account 1 is charged for three flows of rate 1. -/
def threeFlows : List UserFlows := [⟨1, [⟨10, 1⟩, ⟨11, 1⟩, ⟨12, 1⟩]⟩]

/-- Account 1 is charged, and all its flows are frozen; `EndBlock` at 1092 finishes the
settlement. -/
def frozenRun : List (Ctx × Op) :=
  [(smallCtx 1000, .applyUserFlowsList false threeFlows), (smallCtx 1090, .endBlock),
    (smallCtx 1091, .endBlock), (smallCtx 1092, .endBlock)]

theorem frozenRun_reachable
    (hc : runSteps Chain.exec (smallChain 300) frozenRun = some c) :
    FlowReachable smallReceivers smallParams (smallChain 300).state.balance 0 c := by
  refine Reachable.of_runSteps .start ?_ hc
  exact ⟨.of_pos rfl (by decide), fun _ _ => ⟨trivial, fun _ _ => ⟨trivial, fun _ _ => ⟨trivial,
    fun _ _ => trivial⟩⟩⟩⟩

/-- The four blocks after account 1 has been put into the resume queue. -/
def resumeRun : List (Ctx × Op) :=
  [(smallCtx 1093, .endBlock), (smallCtx 1094, .endBlock), (smallCtx 1095, .endBlock),
    (smallCtx 1096, .endBlock)]

/-- Without an old entry account 1 is active after the four blocks. -/
theorem resume_progress_four_blocks :
    ∃ c c₁ c', runSteps Chain.exec (smallChain 300) frozenRun = some c ∧
      c.step (smallCtx 1093) (.tryResume 1 600) = some c₁ ∧
      runSteps Chain.exec c₁ resumeRun = some c' ∧
      (c'.state.record 1).status = .active ∧ c'.state.frozenFlowCount 1 = 0 := by
  obtain ⟨c, hc, hempty, hold, c₁, hc₁, hnew, honly, hS, hcount, hmax, c', hc', -⟩ : ∃ c,
      runSteps Chain.exec (smallChain 300) frozenRun = some c ∧
      c.state.autoSettleRecords.entries.length = 0 ∧
      c.state.autoResumeRecords.find? ⟨1093, 1⟩ = none ∧
      ∃ c₁, c.step (smallCtx 1093) (.tryResume 1 600) = some c₁ ∧
        c₁.state.autoResumeRecords.find? ⟨1093, 1⟩ = some () ∧
        (∀ e ∈ c₁.state.autoResumeRecords.entries, e.1.addr = 1) ∧
        (c₁.state.record 1).settleTimestamp = 1283 ∧
        flowCount c₁.state.outFlows (fun k => k.addr = 1) = 3 ∧
        c₁.state.params.maxAutoResumeFlowCount = 1 ∧
        ∃ c', runSteps Chain.exec c₁ resumeRun = some c' ∧ True := by
    decide
  have hreach := frozenRun_reachable hc
  have hguard : ∀ t, t < 1283 → ∀ c₂, ResumeStep smallReceivers 1 (c₁.state.record 1).settleTimestamp
      c₂ (smallCtx t, .endBlock) := fun t ht c₂ =>
    ⟨trivial, by rw [hS]; exact ht, Or.inl rfl⟩
  have hend := (resume_progress smallReceivers (by decide) smallParams (by decide) _ _ c hreach
    (smallCtx 1093) (.tryResume 1 600) 1 (by simp [smallReceivers]) rfl (by decide) (by decide) c₁ hc₁
    hold hnew (fun k hk => honly (k, ()) (find?_eq_some_iff.1 hk)) (fun t ht => ?_)
    resumeRun ?_ c' hc').2 ?_
  · exact ⟨c, c₁, c', hc, hc₁, hc', hend.1, hend.2.1⟩
  · have hmem := find?_eq_some_iff.1 ht
    rw [List.length_eq_zero_iff.1 hempty] at hmem
    cases hmem
  · exact ⟨hguard _ (by decide) _, fun _ _ => ⟨hguard _ (by decide) _, fun _ _ =>
      ⟨hguard _ (by decide) _, fun _ _ => ⟨hguard _ (by decide) _, fun _ _ => trivial⟩⟩⟩⟩
  · rw [hcount, hmax]
    decide

/-- Account 1 is put into the resume queue at 1092, when the settle queue still has its entry of
1090.  In the next `EndBlock` `AutoResume` resumes one flow and `AutoSettle` freezes it again. -/
theorem resume_frozen_again :
    ∃ c, FlowReachable smallReceivers smallParams (smallChain 300).state.balance 0 c ∧
      ∃ c₁, c.step (smallCtx 1092) (.tryResume 1 600) = some c₁ ∧
        c₁.state.autoResumeRecords.find? ⟨1092, 1⟩ = some () ∧
        (c₁.state.record 1).settleTimestamp = 1282 ∧
        c₁.state.frozenFlowCount 1 = 3 ∧ c₁.state.activeFlowCount 1 = 0 ∧
        (∃ w, autoResume ((smallCtx 1092).withForced true) c₁.state = .ok w ∧
          w.activeFlowCount 1 = 1) ∧
        ∃ s', endBlock (smallCtx 1092) c₁.state = .ok s' ∧ s'.activeFlowCount 1 = 0 := by
  refine Option.exists_and_of_some (o := runSteps Chain.exec (smallChain 300) (frozenRun.take 3))
    (fun c hc => Reachable.of_runSteps .start ?_ hc) (by decide)
  exact ⟨.of_pos rfl (by decide), fun _ _ => ⟨trivial, fun _ _ => ⟨trivial, fun _ _ => trivial⟩⟩⟩

end Moca.Payment
