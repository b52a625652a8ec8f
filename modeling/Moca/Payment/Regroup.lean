/-
# The same flows in another order and grouping

`ApplyUserFlowsList` of `keeper/storage_fee_charge.go` merges a list of two or more
`UserFlows` before it applies it, and applies a list of one as it is.  Two lists with
the same flows per payer and two entries or more are merged to the same list.  A list of
one leads through different intermediate stores: `mergeOutFlows` adds the flows one at
a time, and `ApplyStreamRecordChanges` sums them again by receiver.

Both are functions of the total per receiver (`rateMap`), so the way the flows are
listed does not matter for them, with one exception.  A receiver whose flows cancel is
dropped by `MergeOutFlows`, but not by `ApplyStreamRecordChanges`: in a list of one its
stream record is still written, with a rate change of zero.  `ChargeViaObjectChange`
passes such lists: the flows before and after a change of the charged size, in one entry,
while `ApplyBillChanges` passes the two sides of a change as two entries.
-/

import Moca.Payment.Charge
import Moca.Payment.Accrual

namespace Moca.Payment

open SortedMap StreamRecord

/-! ### The total per receiver -/

/-- The `flowMap` of `MergeOutFlows`: the total rate of each receiver. -/
def rateMap (flows : List OutFlow) : SortedMap Addr ℤ :=
  group OutFlow.toAddr (fun rate f => rate.getD 0 + f.rate) flows

theorem foldl_add_rate (l : List OutFlow) (o : Option ℤ) :
    l.foldl (fun rate f => some (rate.getD 0 + f.rate)) o =
      if l = [] then o else some (o.getD 0 + totalRate l) := by
  induction l generalizing o with
  | nil => rfl
  | cons f l ih =>
    rw [List.foldl_cons, ih, if_neg (List.cons_ne_nil f l)]
    split_ifs with hl
    · simp [hl, totalRate]
    · simp [totalRate, add_assoc]

theorem totalRate_filter (flows : List OutFlow) (r : Addr) :
    totalRate (flows.filter fun f => decide (f.toAddr = r)) = deltaTo flows r := by
  unfold totalRate deltaTo
  induction flows with
  | nil => rfl
  | cons f flows ih =>
    rw [List.filter_cons, List.map_cons, List.sum_cons, ← ih]
    by_cases hr : f.toAddr = r <;> simp [hr]

/-- **The total of a receiver** is its `deltaTo`, and only receivers of a flow have one. -/
theorem find?_rateMap (flows : List OutFlow) (r : Addr) :
    (rateMap flows).find? r =
      if r ∈ flows.map OutFlow.toAddr then some (deltaTo flows r) else none := by
  unfold rateMap
  rw [find?_group, foldl_add_rate, totalRate_filter, Option.getD_none, zero_add]
  have hmem : r ∈ flows.map OutFlow.toAddr ↔ ¬flows.filter (fun f => decide (f.toAddr = r)) = [] := by
    simp [List.filter_eq_nil_iff]
  by_cases h : r ∈ flows.map OutFlow.toAddr
  · rw [if_pos h, if_neg (hmem.1 h)]
  · rw [if_neg h, if_pos (not_not.1 (mt hmem.2 h))]

variable {flows flows' : List OutFlow} {ctx : Ctx} {l l' : List UserFlows} {a : Addr} {s : State}
  {f : OutFlow}

/-- Flows with the same receivers and the same total for each have one rate map. -/
theorem rateMap_congr (hmem : ∀ r, r ∈ flows.map OutFlow.toAddr ↔ r ∈ flows'.map OutFlow.toAddr)
    (hdelta : ∀ r, deltaTo flows r = deltaTo flows' r) : rateMap flows = rateMap flows' := by
  refine ext_find? fun r => ?_
  rw [find?_rateMap, find?_rateMap, hdelta r, if_congr (hmem r) rfl rfl]

theorem rateMap_perm (h : flows.Perm flows') : rateMap flows = rateMap flows' :=
  rateMap_congr (fun _ => (h.map _).mem_iff) (deltaTo_perm h)

theorem totalRate_eq_sum (flows : List OutFlow) :
    totalRate flows = (rateMap flows).sum fun _ rate => rate :=
  (sum_group OutFlow.toAddr (fun (rate : Option ℤ) f => rate.getD 0 + f.rate)
    (fun _ rate => rate) (fun f => f.rate) (fun o f => by cases o <;> simp) flows).symm

theorem totalRate_congr (hdelta : ∀ r, deltaTo flows r = deltaTo flows' r) :
    totalRate flows = totalRate flows' := by
  have helim : ∀ (flows : List OutFlow) r,
      ((rateMap flows).find? r).elim 0 (fun rate => rate) = deltaTo flows r := by
    intro flows r
    rw [find?_rateMap]
    split_ifs with hr
    · rfl
    · exact (deltaTo_eq_zero fun f hf hto => hr (List.mem_map.2 ⟨f, hf, hto⟩)).symm
  rw [totalRate_eq_sum, totalRate_eq_sum]
  refine sum_eq_of_summands fun r => ?_
  rw [helim, helim, hdelta r]

/-- **`MergeOutFlows` does not see the order of its flows.** -/
theorem mergeOutFlowList_perm (ctx : Ctx) (h : flows.Perm flows') :
    mergeOutFlowList ctx flows = mergeOutFlowList ctx flows' := by
  have hmap := rateMap_perm h
  unfold rateMap at hmap
  unfold mergeOutFlowList
  by_cases hlen : flows.length ≤ 1
  · rw [if_pos hlen, if_pos (h.length_eq ▸ hlen)]
    match flows, hlen with
    | [], _ => rw [h.nil_eq]
    | [f], _ => rw [List.singleton_perm.1 h]
  · rw [if_neg hlen, if_neg (h.length_eq ▸ hlen), hmap]

/-- The receivers that are left are those whose flows do not cancel. -/
theorem mem_toAddr_mergeOutFlowList (hne : ∀ f ∈ flows, f.rate ≠ 0) (r : Addr) :
    r ∈ (mergeOutFlowList ctx flows).map OutFlow.toAddr ↔
      r ∈ flows.map OutFlow.toAddr ∧ deltaTo flows r ≠ 0 := by
  unfold mergeOutFlowList
  split_ifs with hlen
  · match flows, hlen with
    | [], _ => simp
    | [f], _ =>
      have hf := hne f List.mem_cons_self
      constructor
      · intro h
        rw [List.map_singleton, List.mem_singleton] at h
        subst h
        exact ⟨List.mem_cons_self, by simpa [deltaTo] using hf⟩
      · exact And.left
  · have hentry : ∀ v, (r, v) ∈ (rateMap flows).entries ↔
        r ∈ flows.map OutFlow.toAddr ∧ deltaTo flows r = v := by
      intro v
      rw [← find?_eq_some_iff, find?_rateMap]
      split_ifs with h <;> simp [h]
    unfold rateMap at hentry
    simp only [List.mem_map, List.mem_insertionSort, List.mem_filter, decide_eq_true_eq]
    constructor
    · rintro ⟨f, ⟨⟨k, v⟩, ⟨he, hv⟩, rfl⟩, rfl⟩
      obtain ⟨hmem, hdelta⟩ := (hentry v).1 he
      exact ⟨List.mem_map.1 hmem, hdelta ▸ hv⟩
    · rintro ⟨hmem, hdelta⟩
      exact ⟨⟨r, deltaTo flows r⟩, ⟨(r, deltaTo flows r),
        ⟨(hentry _).2 ⟨List.mem_map.2 hmem, rfl⟩, hdelta⟩, rfl⟩, rfl⟩

/-! ### The stores after a list of flows -/

/-- **The merged out-flows, receiver by receiver**: the flow to a receiver of the list is the
stored rate plus its total, and is not stored if that is zero. -/
theorem find?_mergeOutFlows_toAddr (addr : Addr) (status : OutFlowStatus) (r : Addr)
    (flows : List OutFlow) (hne : ∀ f ∈ flows, f.rate ≠ 0) (m : OutFlows) :
    (mergeOutFlows addr status flows m).1.find? ⟨addr, status, r⟩ =
      if r ∈ flows.map OutFlow.toAddr then
        if rateAt m addr status r + deltaTo flows r = 0 then none
        else some (rateAt m addr status r + deltaTo flows r)
      else m.find? ⟨addr, status, r⟩ := by
  induction flows generalizing m with
  | nil => rfl
  | cons f flows ih =>
    have hf := hne f List.mem_cons_self
    rw [(mergeOutFlows_cons addr status f flows m).1,
      ih (fun g hg => hne g (List.mem_cons_of_mem _ hg)), deltaTo_cons, List.map_cons]
    by_cases hr : f.toAddr = r
    · subst hr
      rw [mergeOutFlow_rate, if_pos (List.mem_cons_self (a := f.toAddr)), if_pos rfl,
        add_assoc]
      by_cases hmem : f.toAddr ∈ flows.map OutFlow.toAddr
      · rw [if_pos hmem]
      · -- the last flow to this receiver: what it leaves behind is read off the store
        have hzero : deltaTo flows f.toAddr = 0 :=
          deltaTo_eq_zero fun g hg hto => hmem (List.mem_map.2 ⟨g, hg, hto⟩)
        rw [if_neg hmem, hzero, add_zero]
        unfold rateAt mergeOutFlow
        cases hfind : m.find? ⟨addr, status, f.toAddr⟩ with
        | none => simp [setOutFlow, hf]
        | some rate =>
          dsimp only [Option.getD_some]
          split_ifs with hsum
          · simp
          · simp [setOutFlow]
    · have hkey : (⟨addr, status, r⟩ : OutFlowKey) ≠ ⟨addr, status, f.toAddr⟩ := by
        intro h
        exact hr (congrArg OutFlowKey.toAddr h).symm
      have hrate : rateAt (mergeOutFlow m addr status f).1 addr status r = rateAt m addr status r := by
        unfold rateAt
        rw [mergeOutFlow_find? addr status m f hkey]
      rw [hrate, mergeOutFlow_find? addr status m f hkey, if_neg hr, zero_add,
        if_congr (show r ∈ f.toAddr :: flows.map OutFlow.toAddr ↔ r ∈ flows.map OutFlow.toAddr from
          List.mem_cons.trans (or_iff_right (Ne.symm hr))) rfl rfl]

/-- **The merged out-flows and the change of the count depend on the rate map only.** -/
theorem mergeOutFlows_congr (addr : Addr) (status : OutFlowStatus) (hne : ∀ f ∈ flows, f.rate ≠ 0)
    (hne' : ∀ f ∈ flows', f.rate ≠ 0)
    (hmem : ∀ r, r ∈ flows.map OutFlow.toAddr ↔ r ∈ flows'.map OutFlow.toAddr)
    (hdelta : ∀ r, deltaTo flows r = deltaTo flows' r) (m : OutFlows) :
    mergeOutFlows addr status flows m = mergeOutFlows addr status flows' m := by
  have hstore : (mergeOutFlows addr status flows m).1 = (mergeOutFlows addr status flows' m).1 := by
    refine ext_find? fun k => ?_
    by_cases hk : k.addr ≠ addr ∨ k.status ≠ status
    · rw [mergeOutFlows_find? addr status flows m hk, mergeOutFlows_find? addr status flows' m hk]
    · obtain ⟨a, st, r⟩ := k
      obtain ⟨rfl, rfl⟩ : a = addr ∧ st = status := by simpa [not_or] using hk
      rw [find?_mergeOutFlows_toAddr a st r flows hne, find?_mergeOutFlows_toAddr a st r flows' hne',
        hdelta r, if_congr (hmem r) rfl rfl]
  -- the count is the number of flows of the payer before and after
  have hcount := mergeOutFlows_flowCount addr status flows m addr
  have hcount' := mergeOutFlows_flowCount addr status flows' m addr
  rw [← hstore, hcount, if_pos rfl, if_pos rfl] at hcount'
  exact Prod.ext hstore (add_left_cancel hcount')

/-- The changes of the receivers of a rate map, in the order of their addresses. -/
def receiverChanges (ctx : Ctx) (m : SortedMap Addr ℤ) : List StreamRecordChange :=
  (m.entries.map fun e => { addr := e.1, rateChange := e.2 }).insertionSort
    fun a b => ctx.stringLe a.addr b.addr = true

/-- **`MergeStreamRecordChanges` of the receivers' rates** is read off the rate map, for a list
of any length. -/
theorem mergeStreamRecordChanges_rateChanges (ctx : Ctx) (flows : List OutFlow) :
    mergeStreamRecordChanges ctx (rateChanges flows) = receiverChanges ctx (rateMap flows) := by
  unfold mergeStreamRecordChanges receiverChanges
  split_ifs with hlen
  · match flows, hlen with
    | [], _ => rfl
    | [f], _ =>
      have hentries : (rateMap [f]).entries = [(f.toAddr, 0 + f.rate)] := rfl
      rw [hentries, zero_add]
      rfl
  · have hmap : group StreamRecordChange.addr
        (fun (current : Option StreamRecordChange) c => (current.getD { addr := c.addr }).merge c)
        (rateChanges flows) =
        (rateMap flows).mapWithKey fun k v => { addr := k, rateChange := v } := by
      refine ext_find? fun r => ?_
      have hfold : ∀ (l : List OutFlow) (o : Option ℤ), (∀ f ∈ l, f.toAddr = r) →
          (rateChanges l).foldl (fun current c => some ((current.getD { addr := c.addr }).merge c))
            (o.map fun v => ({ addr := r, rateChange := v } : StreamRecordChange)) =
          (l.foldl (fun rate f => some (rate.getD 0 + f.rate)) o).map
            fun v => ({ addr := r, rateChange := v } : StreamRecordChange) := by
        intro l
        induction l with
        | nil => intro o _; rfl
        | cons f l ih =>
          intro o hto
          have hf := hto f List.mem_cons_self
          rw [List.foldl_cons, ← ih _ fun g hg => hto g (List.mem_cons_of_mem _ hg)]
          cases o <;> simp [rateChanges, StreamRecordChange.merge, hf]
      unfold rateMap
      rw [find?_mapWithKey, find?_group, find?_group,
        ← hfold _ none fun f hf => by simpa using (List.mem_filter.1 hf).2]
      unfold rateChanges
      rw [List.filter_map]
      rfl
    rw [hmap]
    unfold mapWithKey
    dsimp only
    rw [List.map_map]
    rfl

/-- **A round for an active payer depends on the rate map of its flows only.** -/
theorem applyActiveUserFlows_congr (ctx : Ctx) (s : State) (a : Addr) (r : StreamRecord)
    (hne : ∀ f ∈ flows, f.rate ≠ 0) (hne' : ∀ f ∈ flows', f.rate ≠ 0)
    (hmem : ∀ r, r ∈ flows.map OutFlow.toAddr ↔ r ∈ flows'.map OutFlow.toAddr)
    (hdelta : ∀ r, deltaTo flows r = deltaTo flows' r) :
    applyActiveUserFlows ctx s ⟨a, flows⟩ r = applyActiveUserFlows ctx s ⟨a, flows'⟩ r := by
  have hmap := rateMap_congr hmem hdelta
  unfold applyActiveUserFlows applyStreamRecordChanges
  dsimp only
  rw [totalRate_congr hdelta, mergeStreamRecordChanges_rateChanges, mergeStreamRecordChanges_rateChanges, hmap]
  simp only [mergeOutFlows_congr a .active hne hne' hmem hdelta]

/-! ### Regrouped lists -/

/-- The flows of a list of user flows, each with its payer. -/
def allFlows (l : List UserFlows) : List (Addr × OutFlow) :=
  l.flatMap fun u => u.flows.map fun f => (u.fromAddr, f)

/-- The flows of one payer, of all its entries. -/
def flowsOf (l : List UserFlows) (a : Addr) : List OutFlow :=
  ((allFlows l).filter fun p => decide (p.1 = a)).map Prod.snd

/-- **The same flows, listed otherwise**: the entries and the flows in them permuted, the flows
of a payer split over entries or joined.  Every payer of one list is one of the other. -/
structure Regrouped (l l' : List UserFlows) : Prop where
  flows : (allFlows l).Perm (allFlows l')
  payers : ∀ a, a ∈ l.map UserFlows.fromAddr ↔ a ∈ l'.map UserFlows.fromAddr

theorem Regrouped.flowsOf (h : Regrouped l l') (a : Addr) : (flowsOf l a).Perm (flowsOf l' a) :=
  (h.flows.filter _).map _

@[simp] theorem flowsOf_nil (a : Addr) : flowsOf [] a = [] := rfl

theorem flowsOf_cons (u : UserFlows) (l : List UserFlows) (a : Addr) :
    flowsOf (u :: l) a = (if u.fromAddr = a then u.flows else []) ++ flowsOf l a := by
  unfold flowsOf allFlows
  rw [List.flatMap_cons, List.filter_append, List.map_append]
  congr 1
  rw [List.filter_map, List.map_map]
  by_cases ha : u.fromAddr = a
  · simp [ha, Function.comp_def]
  · simp [ha, Function.comp_def]

/-- The sum of the changes of a payer to a receiver is that of its flows. -/
theorem deltaTo_flowsOf (l : List UserFlows) (a r : Addr) :
    deltaTo (flowsOf l a) r = userDelta l a r := by
  induction l with
  | nil => rfl
  | cons u l ih =>
    rw [flowsOf_cons, deltaTo_append, ih]
    unfold userDelta
    rw [List.map_cons, List.sum_cons]
    split_ifs <;> rfl

/-- The `userFlowsMap` of `MergeUserFlows`. -/
def userFlowsMap (l : List UserFlows) : SortedMap Addr (List OutFlow) :=
  group UserFlows.fromAddr (fun flows u => flows.getD [] ++ u.flows) l

/-- It has the flows of each payer. -/
theorem find?_userFlowsMap (l : List UserFlows) (a : Addr) :
    (userFlowsMap l).find? a =
      if a ∈ l.map UserFlows.fromAddr then some (flowsOf l a) else none := by
  have hfold : ∀ (l : List UserFlows) (o : Option (List OutFlow)),
      (l.filter fun u => decide (u.fromAddr = a)).foldl
        (fun flows u => some (flows.getD [] ++ u.flows)) o =
      if a ∈ l.map UserFlows.fromAddr then some (o.getD [] ++ flowsOf l a) else o := by
    intro l
    induction l with
    | nil => intro o; rfl
    | cons u l ih =>
      intro o
      rw [List.filter_cons, flowsOf_cons, List.map_cons]
      by_cases ha : u.fromAddr = a
      · rw [if_pos (by simpa using ha), List.foldl_cons, ih, if_pos ha, ← ha,
          if_pos (List.mem_cons_self (a := u.fromAddr))]
        split_ifs with hmem
        · simp
        · -- the payer has no other entry
          have hnil : flowsOf l u.fromAddr = [] := by
            unfold flowsOf allFlows
            rw [List.map_eq_nil_iff, List.filter_eq_nil_iff]
            rintro ⟨b, f⟩ hp
            obtain ⟨v, hv, hf⟩ := List.mem_flatMap.1 hp
            obtain ⟨g, -, hg⟩ := List.mem_map.1 hf
            rw [decide_eq_true_eq]
            rintro rfl
            exact hmem (List.mem_map.2 ⟨v, hv, congrArg Prod.fst hg⟩)
          simp [hnil]
      · rw [if_neg (by simpa using ha), ih, if_neg ha, List.nil_append,
          if_congr (show a ∈ u.fromAddr :: l.map UserFlows.fromAddr ↔ a ∈ l.map UserFlows.fromAddr
            from List.mem_cons.trans (or_iff_right (Ne.symm ha))) rfl rfl]
  unfold userFlowsMap
  rw [find?_group, hfold, Option.getD_none, List.nil_append]

/-- **`MergeUserFlows` of two entries or more does not see the grouping.** -/
theorem mergeUserFlows_regrouped (ctx : Ctx) (h : Regrouped l l') (hlen : 1 < l.length)
    (hlen' : 1 < l'.length) : mergeUserFlows ctx l = mergeUserFlows ctx l' := by
  have hmap : (userFlowsMap l).mapWithKey (fun _ flows => mergeOutFlowList ctx flows) =
      (userFlowsMap l').mapWithKey (fun _ flows => mergeOutFlowList ctx flows) := by
    refine ext_find? fun a => ?_
    rw [find?_mapWithKey, find?_mapWithKey, find?_userFlowsMap,
      find?_userFlowsMap, if_congr (h.payers a) rfl rfl]
    split_ifs
    · exact congrArg some (mergeOutFlowList_perm ctx (h.flowsOf a))
    · rfl
  have hentries := congrArg (fun m => m.entries.map fun e => UserFlows.mk e.1 e.2) hmap
  unfold mapWithKey at hentries
  simp only [List.map_map] at hentries
  unfold mergeUserFlows
  rw [if_neg (by omega), if_neg (by omega)]
  dsimp only
  exact congrArg _ hentries

/-! ### Lists with one payer -/

/-- All entries have the same payer. -/
def OnePayer (l : List UserFlows) : Prop := ∀ u ∈ l, ∀ v ∈ l, u.fromAddr = v.fromAddr

/-- No payer has flows to a receiver that add up to nothing. -/
def NothingCancels (l : List UserFlows) : Prop :=
  ∀ p ∈ allFlows l, userDelta l p.1 p.2.toAddr ≠ 0

instance (l : List UserFlows) : Decidable (OnePayer l) :=
  inferInstanceAs (Decidable (∀ u ∈ l, ∀ v ∈ l, u.fromAddr = v.fromAddr))

instance (l : List UserFlows) : Decidable (NothingCancels l) :=
  inferInstanceAs (Decidable (∀ p ∈ allFlows l, userDelta l p.1 p.2.toAddr ≠ 0))

theorem one_lt_length_of_not_onePayer (h : ¬OnePayer l) : 1 < l.length := by
  refine not_le.1 fun hlen => h ?_
  match l, hlen with
  | [], _ => exact fun u hu => absurd hu List.not_mem_nil
  | [w], _ =>
    intro u hu v hv
    rw [List.mem_singleton.1 hu, List.mem_singleton.1 hv]

theorem Regrouped.onePayer (h : Regrouped l l') (hone : OnePayer l') : OnePayer l := by
  have hpayer : ∀ u ∈ l, ∃ u' ∈ l', u'.fromAddr = u.fromAddr := fun u hu =>
    List.mem_map.1 ((h.payers _).1 (List.mem_map.2 ⟨u, hu, rfl⟩))
  intro u hu v hv
  obtain ⟨u', hu', hu⟩ := hpayer u hu
  obtain ⟨v', hv', hv⟩ := hpayer v hv
  rw [← hu, ← hv, hone u' hu' v' hv']

theorem mem_flowsOf : f ∈ flowsOf l a ↔ (a, f) ∈ allFlows l := by
  unfold flowsOf
  constructor
  · intro h
    obtain ⟨⟨b, g⟩, hp, rfl⟩ := List.mem_map.1 h
    obtain ⟨hmem, hb⟩ := List.mem_filter.1 hp
    rw [← of_decide_eq_true hb]
    exact hmem
  · intro h
    exact List.mem_map.2 ⟨(a, f), List.mem_filter.2 ⟨h, decide_eq_true rfl⟩, rfl⟩

theorem allFlows_onePayer (h : ∀ u ∈ l, u.fromAddr = a) :
    allFlows l = (flowsOf l a).map fun f => (a, f) := by
  have hpayer : ∀ p ∈ allFlows l, p.1 = a := by
    rintro ⟨b, f⟩ hp
    obtain ⟨u, hu, hf⟩ := List.mem_flatMap.1 hp
    obtain ⟨g, -, hg⟩ := List.mem_map.1 hf
    exact (congrArg Prod.fst hg).symm.trans (h u hu)
  unfold flowsOf
  rw [List.filter_eq_self.2 fun p hp => decide_eq_true (hpayer p hp), List.map_map]
  conv_lhs => rw [← List.map_id (allFlows l)]
  refine List.map_congr_left fun p hp => ?_
  rw [id, Function.comp_apply, ← hpayer p hp]

/-- **What is applied for a list with one payer**: its flows as they are if the list has one
entry, the merged flows otherwise. -/
theorem mergeUserFlows_onePayer (ctx : Ctx) (hl : l ≠ []) (h : ∀ u ∈ l, u.fromAddr = a) :
    mergeUserFlows ctx l =
      [⟨a, if l.length ≤ 1 then flowsOf l a else mergeOutFlowList ctx (flowsOf l a)⟩] := by
  unfold mergeUserFlows
  split_ifs with hlen
  · match l, hlen with
    | [], _ => exact absurd rfl hl
    | [u], _ =>
      obtain rfl : u.fromAddr = a := h u List.mem_cons_self
      have hflows : flowsOf [u] u.fromAddr = u.flows := by
        rw [flowsOf_cons, if_pos rfl, flowsOf_nil, List.append_nil]
      rw [hflows]
  · have hmap : userFlowsMap l = SortedMap.empty.insert a (flowsOf l a) := by
      refine ext_find? fun b => ?_
      rw [find?_userFlowsMap, find?_insert, find?_empty]
      have hmem : b ∈ l.map UserFlows.fromAddr ↔ b = a := by
        constructor
        · intro hb
          obtain ⟨u, hu, rfl⟩ := List.mem_map.1 hb
          exact h u hu
        · rintro rfl
          obtain ⟨u, hu⟩ := List.exists_mem_of_ne_nil l hl
          exact List.mem_map.2 ⟨u, hu, h u hu⟩
      rw [if_congr hmem rfl rfl]
      split_ifs with hb
      · rw [hb]
      · rfl
    unfold userFlowsMap at hmap
    rw [hmap]
    rfl

theorem applyUserFlowsList_onePayer (hl : l ≠ []) (h : ∀ u ∈ l, u.fromAddr = a)
    (hact : (getStreamRecord ctx s a).status = .active) :
    applyUserFlowsList ctx s l = applyActiveUserFlows ctx s
      ⟨a, if l.length ≤ 1 then flowsOf l a else mergeOutFlowList ctx (flowsOf l a)⟩
      (getStreamRecord ctx s a) := by
  unfold applyUserFlowsList
  rw [mergeUserFlows_onePayer ctx hl h, List.foldlM_cons]
  simp only [List.foldlM_nil, bind_pure]
  unfold applyUserFlows
  rw [hact]

/-- Where nothing cancels it does not matter whether the flows of one payer are merged. -/
theorem applyUserFlowsList_flowsOf (hl : l ≠ []) (h : ∀ u ∈ l, u.fromAddr = a)
    (hact : (getStreamRecord ctx s a).status = .active) (hne : ∀ f ∈ flowsOf l a, f.rate ≠ 0)
    (hcancel : ∀ r ∈ (flowsOf l a).map OutFlow.toAddr, deltaTo (flowsOf l a) r ≠ 0) :
    applyUserFlowsList ctx s l =
      applyActiveUserFlows ctx s ⟨a, flowsOf l a⟩ (getStreamRecord ctx s a) := by
  rw [applyUserFlowsList_onePayer hl h hact]
  split_ifs with hlen
  · rfl
  · refine applyActiveUserFlows_congr ctx s a _ (mergeOutFlowList_ne_zero hne) hne (fun r => ?_)
      (deltaTo_mergeOutFlowList ctx _)
    rw [mem_toAddr_mergeOutFlowList hne]
    exact and_iff_left_of_imp (hcancel r)

/-- **Regrouped lists are applied alike**, if they have several payers or nothing in them
cancels. -/
theorem applyUserFlowsList_regrouped (hne : ∀ p ∈ allFlows l, p.2.rate ≠ 0)
    (hcond : ¬OnePayer l ∨ NothingCancels l) (h : Regrouped l l')
    (hact : ∀ u ∈ l, (getStreamRecord ctx s u.fromAddr).status = .active) :
    applyUserFlowsList ctx s l = applyUserFlowsList ctx s l' := by
  by_cases hone : OnePayer l
  · have hcancels := hcond.resolve_left (not_not.2 hone)
    match l, h with
    | [], h =>
      have hl' : l' = [] := by
        rw [List.eq_nil_iff_forall_not_mem]
        intro u hu
        exact absurd ((h.payers _).2 (List.mem_map.2 ⟨u, hu, rfl⟩)) List.not_mem_nil
      rw [hl']
    | v :: l, h =>
      have hl : ∀ u ∈ v :: l, u.fromAddr = v.fromAddr := fun u hu => hone u hu v List.mem_cons_self
      have hl' : ∀ u ∈ l', u.fromAddr = v.fromAddr := by
        intro u hu
        obtain ⟨w, hw, hwu⟩ := List.mem_map.1 ((h.payers _).2 (List.mem_map.2 ⟨u, hu, rfl⟩))
        exact hwu.symm.trans (hl w hw)
      have hnil : l' ≠ [] := by
        rintro rfl
        exact absurd ((h.payers _).1 (List.mem_map.2 ⟨v, List.mem_cons_self, rfl⟩)) List.not_mem_nil
      have hperm := h.flowsOf v.fromAddr
      have hne₁ : ∀ f ∈ flowsOf (v :: l) v.fromAddr, f.rate ≠ 0 := fun f hf =>
        hne _ (mem_flowsOf.1 hf)
      have hcancel₁ : ∀ r ∈ (flowsOf (v :: l) v.fromAddr).map OutFlow.toAddr,
          deltaTo (flowsOf (v :: l) v.fromAddr) r ≠ 0 := by
        intro r hr
        obtain ⟨f, hf, rfl⟩ := List.mem_map.1 hr
        rw [deltaTo_flowsOf]
        exact hcancels _ (mem_flowsOf.1 hf)
      have hne₂ : ∀ f ∈ flowsOf l' v.fromAddr, f.rate ≠ 0 := fun f hf =>
        hne₁ f (hperm.mem_iff.2 hf)
      have hcancel₂ : ∀ r ∈ (flowsOf l' v.fromAddr).map OutFlow.toAddr,
          deltaTo (flowsOf l' v.fromAddr) r ≠ 0 := by
        intro r hr
        rw [← deltaTo_perm hperm]
        exact hcancel₁ r ((hperm.map _).mem_iff.2 hr)
      have hv := hact v List.mem_cons_self
      rw [applyUserFlowsList_flowsOf (List.cons_ne_nil v l) hl hv hne₁ hcancel₁,
        applyUserFlowsList_flowsOf hnil hl' hv hne₂ hcancel₂]
      exact applyActiveUserFlows_congr ctx s _ _ hne₁ hne₂ (fun r => (hperm.map _).mem_iff)
        (deltaTo_perm hperm)
  · unfold applyUserFlowsList
    rw [mergeUserFlows_regrouped ctx h (one_lt_length_of_not_onePayer hone)
      (one_lt_length_of_not_onePayer fun hone' => hone (h.onePayer hone'))]

/-! ### Flows that cancel -/

/-- The record of an account that earns `rate`. -/
def earningRecord (rate : ℤ) : StreamRecord := { newStreamRecord 0 with netflowRate := rate }

/-- A state with one account, which earns `rate`. -/
def earningState (a : Addr) (rate : ℤ) : State :=
  (State.empty defaultParams fun _ => 0).putStreamRecord a (earningRecord rate)

theorem getStreamRecord_earningState (a : Addr) (rate : ℤ) :
    getStreamRecord { blockTime := 0 } (earningState a rate) a = earningRecord rate := by
  unfold getStreamRecord earningState State.putStreamRecord
  rw [find?_insert_self, Option.getD_some]

/-- The first update of an address without a record, by a rate it is to receive. -/
theorem updateStreamRecordByAddr_new {x : Addr} {rate : ℤ} (hnone : s.streamRecords.find? x = none)
    (hrate : 0 ≤ rate) :
    updateStreamRecordByAddr { blockTime := 0 } s { addr := x, rateChange := rate } =
      .ok (s.putStreamRecord x (earningRecord rate)) := by
  have hget : getStreamRecord { blockTime := 0 } s x = newStreamRecord 0 := by
    unfold getStreamRecord
    rw [hnone, Option.getD_none]
  have hneg : ¬rate < 0 := not_lt.2 hrate
  unfold updateStreamRecordByAddr
  simp only [updateStreamRecordByAddrDepth, hget]
  simp [updateStreamRecordWith, earningRecord, newStreamRecord, StreamRecord.apply, accrue,
    changeLock, changeRate, addStatic, bufferFor, hneg,
    pullFromBank, settleTime, State.updateAutoSettleRecord, State.setStreamRecord,
    checkStreamRecord]

theorem foldlM_updateStreamRecordByAddr_new :
    ∀ (changes : List StreamRecordChange) (s : State),
      (∀ c ∈ changes, c = { addr := c.addr, rateChange := c.rateChange } ∧ 0 ≤ c.rateChange ∧
        s.streamRecords.find? c.addr = none) →
      (changes.map StreamRecordChange.addr).Nodup →
      ∃ s', changes.foldlM (updateStreamRecordByAddr { blockTime := 0 }) s = .ok s' ∧
        ∀ x, (s'.streamRecords.find? x).isSome ↔
          (s.streamRecords.find? x).isSome ∨ x ∈ changes.map StreamRecordChange.addr
  | [], s, _, _ => ⟨s, rfl, fun x => by simp⟩
  | c :: changes, s, hnew, hnodup => by
    obtain ⟨hc, hrate, hnone⟩ := hnew c List.mem_cons_self
    obtain ⟨hfresh, hnodup⟩ := List.nodup_cons.1 hnodup
    have hstep := updateStreamRecordByAddr_new hnone hrate
    rw [← hc] at hstep
    obtain ⟨s', hfold, hsome⟩ := foldlM_updateStreamRecordByAddr_new changes
      (s.putStreamRecord c.addr (earningRecord c.rateChange)) (fun d hd => by
        obtain ⟨hd₁, hd₂, hd₃⟩ := hnew d (List.mem_cons_of_mem _ hd)
        refine ⟨hd₁, hd₂, ?_⟩
        rw [find?_putStreamRecord, if_neg, hd₃]
        intro heq
        exact hfresh (heq ▸ List.mem_map.2 ⟨d, hd, rfl⟩)) hnodup
    refine ⟨s', ?_, fun x => ?_⟩
    · rw [List.foldlM_cons, hstep]
      exact hfold
    · rw [hsome x, find?_putStreamRecord, List.map_cons, List.mem_cons]
      split_ifs with hx
      · simp [hx]
      · simp [hx]

theorem mem_receiverChanges {c : StreamRecordChange} :
    c ∈ receiverChanges ctx (rateMap flows) ↔ c.addr ∈ flows.map OutFlow.toAddr ∧
      c = { addr := c.addr, rateChange := deltaTo flows c.addr } := by
  unfold receiverChanges
  rw [List.mem_insertionSort, List.mem_map]
  constructor
  · rintro ⟨⟨r, v⟩, he, rfl⟩
    have hfind := find?_eq_some_iff.2 he
    rw [find?_rateMap] at hfind
    split_ifs at hfind with hr
    exact ⟨hr, by rw [Option.some.inj hfind]⟩
  · rintro ⟨hr, hc⟩
    refine ⟨(c.addr, deltaTo flows c.addr), ?_, hc.symm⟩
    rw [← find?_eq_some_iff, find?_rateMap, if_pos hr]

/-- **Every receiver of the applied flows gets a record**, with or without a rate. -/
theorem applyActiveUserFlows_earning (hto : ∀ f ∈ flows, f.toAddr ≠ a)
    (hpos : ∀ r, 0 ≤ deltaTo flows r) :
    ∃ s', applyActiveUserFlows { blockTime := 0 } (earningState a (totalRate flows)) ⟨a, flows⟩
        (getStreamRecord { blockTime := 0 } (earningState a (totalRate flows)) a) = .ok s' ∧
      ∀ x, (s'.streamRecords.find? x).isSome ↔ x = a ∨ x ∈ flows.map OutFlow.toAddr := by
  have hupdate : updateStreamRecord { blockTime := 0 } (earningState a (totalRate flows)) a
      (earningRecord (totalRate flows)) { addr := a, rateChange := -totalRate flows } =
      .ok (earningState a (totalRate flows), newStreamRecord 0) := by
    simp [updateStreamRecord, updateStreamRecordWith, earningRecord, newStreamRecord, StreamRecord.apply,
      accrue, changeLock, changeRate,
      addStatic, bufferFor, pullFromBank, settleTime, State.updateAutoSettleRecord]
    rfl
  unfold applyActiveUserFlows
  rw [getStreamRecord_earningState]
  dsimp only
  rw [hupdate]
  generalize hmerge : mergeOutFlows a .active flows (earningState a (totalRate flows)).outFlows = p
  obtain ⟨outFlows, deltaFlowCount⟩ := p
  -- the payer neither earns nor pays now, and its record passes the check with any count
  obtain ⟨s₁, hset, hrecords⟩ : ∃ s₁, ({ earningState a (totalRate flows) with
        outFlows := outFlows }).setStreamRecord a { newStreamRecord 0 with
          outFlowCount := (newStreamRecord 0).outFlowCount + deltaFlowCount } = .ok s₁ ∧
      ∀ x, (s₁.streamRecords.find? x).isSome ↔ x = a := by
    refine ⟨_, if_pos (by simp [checkStreamRecord, newStreamRecord]), fun x => ?_⟩
    unfold earningState State.putStreamRecord State.empty
    simp only [find?_insert, find?_empty]
    split_ifs with hx <;> simp [hx]
  obtain ⟨s', hfold, hsome⟩ := foldlM_updateStreamRecordByAddr_new
    (mergeStreamRecordChanges { blockTime := 0 } (rateChanges flows)) s₁ (fun c hc => by
      rw [mergeStreamRecordChanges_rateChanges] at hc
      obtain ⟨hmem, hc⟩ := mem_receiverChanges.1 hc
      obtain ⟨f, hf, hfc⟩ := List.mem_map.1 hmem
      refine ⟨by rw [hc], by rw [hc]; exact hpos _, ?_⟩
      rw [← Option.not_isSome_iff_eq_none, hrecords]
      exact fun hca => hto f hf (hfc.trans hca)) (mergeStreamRecordChanges_nodup _ _)
  refine ⟨s', ?_, fun x => ?_⟩
  · show (Except.bind _ _ : Except Error State) = _
    simp only [Except.bind, hmerge, hset]
    exact hfold
  · rw [hsome x, hrecords, mergeStreamRecordChanges_rateChanges]
    refine or_congr_right ⟨fun hx => ?_, fun hx => ?_⟩
    · obtain ⟨c, hc, rfl⟩ := List.mem_map.1 hx
      exact (mem_receiverChanges.1 hc).1
    · exact List.mem_map.2 ⟨{ addr := x, rateChange := deltaTo flows x },
        mem_receiverChanges.2 ⟨hx, rfl⟩, rfl⟩

theorem regrouped_onePayer (hl : l ≠ []) (h : ∀ u ∈ l, u.fromAddr = a) (rest : List UserFlows)
    (hrest : ∀ u ∈ rest, u.fromAddr = a ∧ u.flows = []) :
    Regrouped l (⟨a, flowsOf l a⟩ :: rest) := by
  constructor
  · have hnil : allFlows rest = [] := by
      refine List.flatMap_eq_nil_iff.2 fun u hu => ?_
      rw [(hrest u hu).2, List.map_nil]
    have hcons : allFlows (⟨a, flowsOf l a⟩ :: rest) =
        ((flowsOf l a).map fun f => (a, f)) ++ allFlows rest := List.flatMap_cons
    rw [hcons, hnil, List.append_nil, ← allFlows_onePayer h]
  · intro b
    obtain ⟨u, hu⟩ := List.exists_mem_of_ne_nil l hl
    constructor
    · intro hb
      obtain ⟨v, hv, rfl⟩ := List.mem_map.1 hb
      rw [h v hv]
      exact List.mem_cons_self
    · intro hb
      rw [List.map_cons, List.mem_cons] at hb
      rcases hb with rfl | hb
      · exact List.mem_map.2 ⟨u, hu, h u hu⟩
      · obtain ⟨v, hv, rfl⟩ := List.mem_map.1 hb
        exact List.mem_map.2 ⟨u, hu, (h u hu).trans (hrest v hv).1.symm⟩

/-- **Merging matters for flows that cancel.**  The flows as they are, and merged, both apply to
a state where the payer earns what they cost, with different records. -/
theorem exists_applied_apart (hne : ∀ p ∈ allFlows l, p.2.rate ≠ 0)
    (hpos : ∀ a r, 0 ≤ userDelta l a r) (hself : ∀ p ∈ allFlows l, p.2.toAddr ≠ p.1)
    (hf : f ∈ flowsOf l a) (hzero : userDelta l a f.toAddr = 0) : ∃ s r s₁ s₂,
      getStreamRecord { blockTime := 0 } s a = r ∧ r.status = .active ∧
      applyActiveUserFlows { blockTime := 0 } s ⟨a, flowsOf l a⟩ r = .ok s₁ ∧
      applyActiveUserFlows { blockTime := 0 } s
        ⟨a, mergeOutFlowList { blockTime := 0 } (flowsOf l a)⟩ r = .ok s₂ ∧
      s₁.streamRecords ≠ s₂.streamRecords := by
  have hne' : ∀ g ∈ flowsOf l a, g.rate ≠ 0 := fun g hg => hne _ (mem_flowsOf.1 hg)
  have hto : ∀ g ∈ flowsOf l a, g.toAddr ≠ a := fun g hg => hself _ (mem_flowsOf.1 hg)
  have hto' : ∀ g ∈ mergeOutFlowList { blockTime := 0 } (flowsOf l a), g.toAddr ≠ a := by
    intro g hg
    obtain ⟨g', hg', hgg'⟩ := exists_of_mem_mergeOutFlowList hg
    exact hgg' ▸ hto g' hg'
  have hdelta : ∀ r, 0 ≤ deltaTo (flowsOf l a) r := by
    intro r
    rw [deltaTo_flowsOf]
    exact hpos a r
  have hmerge := deltaTo_mergeOutFlowList { blockTime := 0 } (flowsOf l a)
  obtain ⟨s₁, h₁, hsome₁⟩ := applyActiveUserFlows_earning hto hdelta
  obtain ⟨s₂, h₂, hsome₂⟩ := applyActiveUserFlows_earning hto' fun r => (hmerge r).symm ▸ hdelta r
  rw [totalRate_congr hmerge] at h₂
  refine ⟨_, _, s₁, s₂, rfl, by rw [getStreamRecord_earningState]; rfl, h₁, h₂, fun heq => ?_⟩
  -- the receiver whose flows cancel has a record only if they were not merged
  have hrecord := (hsome₁ f.toAddr).2 (Or.inr (List.mem_map.2 ⟨f, hf, rfl⟩))
  rw [heq, hsome₂, mem_toAddr_mergeOutFlowList hne', deltaTo_flowsOf] at hrecord
  rcases hrecord with ha | ⟨-, hnz⟩
  · exact hto f hf ha
  · exact hnz hzero

/-- **The order and the grouping of a list do not matter**: whatever the state, where the payers
are active, every list with the same flows leaves the same stream records, with their counts,
and the same out-flows. -/
def GroupingIndependent (l : List UserFlows) : Prop :=
  ∀ (ctx : Ctx) (s s' : State) (l' : List UserFlows), Regrouped l l' →
    (∀ u ∈ l, (getStreamRecord ctx s u.fromAddr).status = .active) →
    applyUserFlowsList ctx s l = .ok s' →
    ∃ s'', applyUserFlowsList ctx s l' = .ok s'' ∧ s''.streamRecords = s'.streamRecords ∧
      s''.outFlows = s'.outFlows

/-- **When the grouping of user flows does not matter.**  It does not for flows that are not
zero if they have two payers or more, or if no payer has flows to a receiver that cancel.  In
every other list whose payer is not a receiver, the receiver whose flows cancel gets a stream
record when the flows are listed in one entry and none when they are split. -/
theorem grouping_independent_iff (l : List UserFlows) (hne : ∀ p ∈ allFlows l, p.2.rate ≠ 0)
    (hpos : ∀ a r, 0 ≤ userDelta l a r) :
    (¬OnePayer l ∨ NothingCancels l → GroupingIndependent l) ∧
      ((∀ p ∈ allFlows l, p.2.toAddr ≠ p.1) → GroupingIndependent l →
        ¬OnePayer l ∨ NothingCancels l) := by
  constructor
  · intro hcond ctx s s' l' hl' hact h
    rw [applyUserFlowsList_regrouped hne hcond hl' hact] at h
    exact ⟨s', h, rfl, rfl⟩
  · intro hself hind
    by_contra hcond
    obtain ⟨hone, hcancels⟩ := not_or.1 hcond
    rw [not_not] at hone
    unfold NothingCancels at hcancels
    push Not at hcancels
    obtain ⟨⟨a, f⟩, hf, hzero⟩ := hcancels
    obtain ⟨v, hv, hvf⟩ := List.mem_flatMap.1 hf
    obtain ⟨g, -, hva⟩ := List.mem_map.1 hvf
    obtain rfl : v.fromAddr = a := congrArg Prod.fst hva
    have hl : ∀ u ∈ l, u.fromAddr = v.fromAddr := fun u hu => hone u hu v hv
    have hnil := List.ne_nil_of_mem hv
    obtain ⟨s, -, s₁, s₂, rfl, hactive, h₁, h₂, hdiff⟩ :=
      exists_applied_apart hne hpos hself (mem_flowsOf.2 hf) hzero
    -- all flows in one entry are applied as they are, with a second entry they are merged
    have hsingle : applyUserFlowsList { blockTime := 0 } s
        [⟨v.fromAddr, flowsOf l v.fromAddr⟩] = .ok s₁ := by
      rw [applyUserFlowsList_onePayer (List.cons_ne_nil _ _) (by simp) hactive, ← h₁]
      simp [flowsOf_cons]
    have hsplit : applyUserFlowsList { blockTime := 0 } s
        [⟨v.fromAddr, flowsOf l v.fromAddr⟩, ⟨v.fromAddr, []⟩] = .ok s₂ := by
      rw [applyUserFlowsList_onePayer (List.cons_ne_nil _ _) (by simp) hactive, ← h₂]
      simp [flowsOf_cons]
    have hact : ∀ u ∈ l, (getStreamRecord { blockTime := 0 } s u.fromAddr).status = .active :=
      fun u hu => (hl u hu).symm ▸ hactive
    have hlist := applyUserFlowsList_onePayer hnil hl hactive
    split_ifs at hlist with hlen
    · obtain ⟨s', h', hrec, -⟩ := hind _ _ s₁ _
        (regrouped_onePayer hnil hl [⟨v.fromAddr, []⟩] (by simp)) hact (hlist.trans h₁)
      cases hsplit.symm.trans h'
      exact hdiff hrec.symm
    · obtain ⟨s', h', hrec, -⟩ := hind _ _ s₂ _
        (regrouped_onePayer hnil hl [] (by simp)) hact (hlist.trans h₂)
      cases hsingle.symm.trans h'
      exact hdiff hrec

/-- The bill of a bucket: a storage flow to each of two addresses, one of them twice. -/
def sampleBill : List UserFlows := [⟨7, [⟨20, 5⟩, ⟨30, 3⟩, ⟨20, 1⟩]⟩]

/-- The bill is independent of its grouping, also where it names a receiver twice. -/
theorem grouping_independent_bill :
    (∀ p ∈ allFlows sampleBill, p.2.rate ≠ 0) ∧ (∀ a r, 0 ≤ userDelta sampleBill a r) ∧
      OnePayer sampleBill ∧ GroupingIndependent sampleBill := by
  have hne : ∀ p ∈ allFlows sampleBill, p.2.rate ≠ 0 := by decide
  have hpos : ∀ a r, 0 ≤ userDelta sampleBill a r := by
    intro a r
    simp only [userDelta, sampleBill, deltaTo, List.map_cons, List.map_nil, List.sum_cons,
      List.sum_nil]
    split_ifs <;> omega
  exact ⟨hne, hpos, by decide, (grouping_independent_iff sampleBill hne hpos).1 (Or.inr (by decide))⟩

/-- The account 7 with enough coins for the bills below. -/
def richState : State :=
  (State.empty defaultParams fun _ => 0).putStreamRecord 7
    { newStreamRecord 0 with staticBalance := 10 ^ 12 }

/-- The flows of `ChargeViaObjectChange` for an object that raises the storage rate by one and
leaves the truncated tax as it is: those before the change, negated, and those after it. -/
def sealedObject : List UserFlows :=
  [⟨7, [⟨20, -5⟩, ⟨validatorTaxPoolAddress, -3⟩, ⟨20, 6⟩, ⟨validatorTaxPoolAddress, 3⟩]⟩]

/-- The same flows as `ApplyBillChanges` passes them. -/
def sealedObjectSplit : List UserFlows :=
  [⟨7, [⟨20, -5⟩, ⟨validatorTaxPoolAddress, -3⟩]⟩, ⟨7, [⟨20, 6⟩, ⟨validatorTaxPoolAddress, 3⟩]⟩]

/-- **The tax pool is settled or not, by the grouping of the flows.**  After ten seconds with a
tax rate of 3, one entry writes the record of the tax pool, with the 30 it has earned; two
entries leave it as it was. -/
theorem cancelled_tax_written_once :
    Regrouped sealedObject sealedObjectSplit ∧
      (∀ p ∈ allFlows sealedObject, p.2.rate ≠ 0) ∧ (∀ a r, 0 ≤ userDelta sealedObject a r) ∧
      ∃ s, applyUserFlowsList { blockTime := 0 } richState
          [⟨7, [⟨20, 5⟩, ⟨validatorTaxPoolAddress, 3⟩]⟩] = .ok s ∧
        (getStreamRecord { blockTime := 10 } s 7).status = .active ∧
        (∃ s₁, applyUserFlowsList { blockTime := 10 } s sealedObject = .ok s₁ ∧
          (s₁.record validatorTaxPoolAddress).staticBalance = 30) ∧
        ∃ s₂, applyUserFlowsList { blockTime := 10 } s sealedObjectSplit = .ok s₂ ∧
          (s₂.record validatorTaxPoolAddress).staticBalance = 0 := by
  refine ⟨⟨List.Perm.refl _, fun a => by simp [sealedObject, sealedObjectSplit]⟩, by decide,
    fun a r => ?_, by decide +kernel⟩
  simp only [userDelta, sealedObject, deltaTo, List.map_cons, List.map_nil, List.sum_cons,
    List.sum_nil]
  split_ifs <;> omega

end Moca.Payment
