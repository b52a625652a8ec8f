/-
# Merging changes of one address

`MergeOutFlows`, `MergeUserFlows` and `MergeStreamRecordChanges` of
`keeper/storage_fee_charge.go` group a list by an address and sort the groups by the
text of the address.  The sums per address are kept, the groups have distinct
addresses, and no address appears that was not there before.
-/

import Moca.Payment.FlowSums

namespace Moca.Payment

open SortedMap

theorem deltaTo_append (l l' : List OutFlow) (r : Addr) :
    deltaTo (l ++ l') r = deltaTo l r + deltaTo l' r := by
  simp [deltaTo]

theorem deltaTo_perm {l l' : List OutFlow} (h : l.Perm l') (r : Addr) :
    deltaTo l r = deltaTo l' r :=
  (h.map _).sum_eq

/-! ### `MergeOutFlows` -/

/-- **`MergeOutFlows` keeps the sum per receiver.** -/
theorem deltaTo_mergeOutFlowList (ctx : Ctx) (flows : List OutFlow) (r : Addr) :
    deltaTo (mergeOutFlowList ctx flows) r = deltaTo flows r := by
  unfold mergeOutFlowList
  split_ifs with hlen
  · rfl
  · rw [deltaTo_perm (List.perm_insertionSort _ _)]
    generalize hm : group OutFlow.toAddr
      (fun (rate : Option ℤ) f => rate.getD 0 + f.rate) flows = flowMap
    have hsum := sum_group OutFlow.toAddr
      (fun (rate : Option ℤ) f => rate.getD 0 + f.rate)
      (fun k v => if k = r then v else 0) (fun f => if f.toAddr = r then f.rate else 0)
      (fun o f => by cases o <;> simp only [Option.elim, Option.getD] <;> split_ifs <;> omega) flows
    rw [hm] at hsum
    refine Eq.trans ?_ hsum
    -- the zero rates that are dropped add nothing
    unfold deltaTo SortedMap.sum
    generalize flowMap.entries = l
    induction l with
    | nil => rfl
    | cons e l ih =>
      rw [List.map_cons, List.sum_cons, ← ih, List.filter_cons]
      by_cases hz : e.2 = 0
      · rw [if_neg (by simp [hz])]
        simp [hz]
      · rw [if_pos (by simp [hz])]
        rfl

variable {flows : List OutFlow} {ctx : Ctx}

theorem mergeOutFlowList_ne_zero (h : ∀ f ∈ flows, f.rate ≠ 0) :
    ∀ f ∈ mergeOutFlowList ctx flows, f.rate ≠ 0 := by
  unfold mergeOutFlowList
  split_ifs with hlen
  · exact h
  · intro f hf
    rw [List.mem_insertionSort, List.mem_map] at hf
    obtain ⟨e, he, rfl⟩ := hf
    simpa using (List.mem_filter.1 he).2

theorem exists_of_mem_mergeOutFlowList {f : OutFlow} (h : f ∈ mergeOutFlowList ctx flows) :
    ∃ f' ∈ flows, f'.toAddr = f.toAddr := by
  unfold mergeOutFlowList at h
  split_ifs at h with hlen
  · exact ⟨f, h, rfl⟩
  · rw [List.mem_insertionSort, List.mem_map] at h
    obtain ⟨e, he, rfl⟩ := h
    exact group_invariant OutFlow.toAddr (fun (rate : Option ℤ) f => rate.getD 0 + f.rate)
      (fun k _ => ∃ f' ∈ flows, f'.toAddr = k) flows (fun f hf _ _ => ⟨f, hf, rfl⟩)
      (find?_eq_some_iff.2 (List.mem_filter.1 he).1)

/-! ### `MergeUserFlows` -/

/-- The sum of the flow changes of one payer to one receiver. -/
def userDelta (l : List UserFlows) (a r : Addr) : ℤ :=
  (l.map fun u => if u.fromAddr = a then deltaTo u.flows r else 0).sum

/-- **`MergeUserFlows` keeps the sum per payer and receiver.** -/
theorem userDelta_mergeUserFlows (ctx : Ctx) (l : List UserFlows) (a r : Addr) :
    userDelta (mergeUserFlows ctx l) a r = userDelta l a r := by
  unfold mergeUserFlows
  split_ifs with hlen
  · rfl
  · unfold userDelta
    rw [((List.perm_insertionSort _ _).map _).sum_eq, List.map_map]
    have hsum := sum_group UserFlows.fromAddr
      (fun (flows : Option (List OutFlow)) u => flows.getD [] ++ u.flows)
      (fun k flows => if k = a then deltaTo flows r else 0)
      (fun u => if u.fromAddr = a then deltaTo u.flows r else 0)
      (fun o u => by
        cases o <;> simp only [Option.elim, Option.getD, deltaTo_append, deltaTo_nil] <;>
          split_ifs <;> omega) l
    refine Eq.trans ?_ hsum
    unfold SortedMap.sum
    refine congrArg List.sum (List.map_congr_left fun e _ => ?_)
    simp only [Function.comp_apply, deltaTo_mergeOutFlowList]

/-- The payers of merged user flows are distinct. -/
theorem mergeUserFlows_nodup (ctx : Ctx) (l : List UserFlows) :
    ((mergeUserFlows ctx l).map UserFlows.fromAddr).Nodup := by
  unfold mergeUserFlows
  split_ifs with hlen
  · match l, hlen with
    | [], _ => exact List.nodup_nil
    | [u], _ => exact List.nodup_singleton _
  · rw [((List.perm_insertionSort _ _).map _).nodup_iff, List.map_map]
    generalize group UserFlows.fromAddr _ l = m
    refine List.Nodup.of_map id ?_
    rw [List.map_map]
    exact List.pairwise_map.2 (m.sorted.imp fun h => h.ne)

/-- Every merged flow has the payer and the receiver of one of the flows, and is not zero if
none of them is. -/
theorem exists_of_mem_mergeUserFlows {l : List UserFlows} {u : UserFlows}
    (h : u ∈ mergeUserFlows ctx l) : (∃ u' ∈ l, u'.fromAddr = u.fromAddr) ∧
      (∀ f ∈ u.flows, ∃ u' ∈ l, u'.fromAddr = u.fromAddr ∧ ∃ f' ∈ u'.flows, f'.toAddr = f.toAddr) ∧
      ((∀ u' ∈ l, ∀ f ∈ u'.flows, f.rate ≠ 0) → ∀ f ∈ u.flows, f.rate ≠ 0) := by
  unfold mergeUserFlows at h
  split_ifs at h with hlen
  · exact ⟨⟨u, h, rfl⟩, fun f hf => ⟨u, h, rfl, f, hf, rfl⟩, fun hl => hl u h⟩
  · rw [List.mem_insertionSort, List.mem_map] at h
    obtain ⟨e, he, rfl⟩ := h
    have hfind := find?_eq_some_iff.2 he
    have hinv := group_invariant UserFlows.fromAddr
      (fun (flows : Option (List OutFlow)) u => flows.getD [] ++ u.flows)
      (fun k flows => (∃ u' ∈ l, u'.fromAddr = k) ∧
        (∀ f ∈ flows, ∃ u' ∈ l, u'.fromAddr = k ∧ f ∈ u'.flows)) l
      (fun u hu o ho => ⟨⟨u, hu, rfl⟩, fun f hf => by
        rcases List.mem_append.1 hf with hf | hf
        · cases o with
          | none => simp at hf
          | some flows => exact (ho flows rfl).2 f hf
        · exact ⟨u, hu, rfl, hf⟩⟩) hfind
    refine ⟨hinv.1, fun f hf => ?_, fun hl => mergeOutFlowList_ne_zero fun f hf => ?_⟩
    · obtain ⟨f', hf', hto⟩ := exists_of_mem_mergeOutFlowList hf
      obtain ⟨u', hu', hfrom, hmem⟩ := hinv.2 f' hf'
      exact ⟨u', hu', hfrom, f', hmem, hto⟩
    · obtain ⟨u', hu', -, hmem⟩ := hinv.2 f hf
      exact hl u' hu' f hmem

/-! ### `MergeStreamRecordChanges` -/

/-- The sum of the rate changes of one address. -/
def rateChangeOf (changes : List StreamRecordChange) (x : Addr) : ℤ :=
  (changes.map fun c => if c.addr = x then c.rateChange else 0).sum

theorem rateChangeOf_rateChanges (flows : List OutFlow) (x : Addr) :
    rateChangeOf (rateChanges flows) x = deltaTo flows x := by
  unfold rateChangeOf rateChanges deltaTo
  rw [List.map_map]
  rfl

/-- **`MergeStreamRecordChanges` keeps the rate change per address.** -/
theorem rateChangeOf_mergeStreamRecordChanges (ctx : Ctx) (changes : List StreamRecordChange)
    (x : Addr) : rateChangeOf (mergeStreamRecordChanges ctx changes) x = rateChangeOf changes x := by
  unfold mergeStreamRecordChanges
  split_ifs with hlen
  · rfl
  · unfold rateChangeOf
    rw [((List.perm_insertionSort _ _).map _).sum_eq, List.map_map]
    generalize hm : group StreamRecordChange.addr
      (fun (current : Option StreamRecordChange) c =>
        (current.getD { addr := c.addr }).merge c) changes = changeMap
    have haddr : ∀ k c, changeMap.find? k = some c → c.addr = k := by
      intro k c hc
      rw [← hm] at hc
      refine group_invariant StreamRecordChange.addr _ (fun k c => c.addr = k) changes
        (fun c _ o ho => ?_) hc
      cases o with
      | none => rfl
      | some current => exact ho current rfl
    have hsum := sum_group StreamRecordChange.addr
      (fun (current : Option StreamRecordChange) c => (current.getD { addr := c.addr }).merge c)
      (fun k c => if k = x then c.rateChange else 0)
      (fun c => if c.addr = x then c.rateChange else 0)
      (fun o c => by
        cases o <;> simp only [Option.elim, Option.getD, StreamRecordChange.merge] <;>
          split_ifs <;> omega) changes
    rw [hm] at hsum
    refine Eq.trans ?_ hsum
    unfold SortedMap.sum
    refine congrArg List.sum (List.map_congr_left fun e he => ?_)
    simp only [Function.comp_apply, haddr e.1 e.2 (find?_eq_some_iff.2 he)]

/-- The addresses of merged changes are distinct. -/
theorem mergeStreamRecordChanges_nodup (ctx : Ctx) (changes : List StreamRecordChange) :
    ((mergeStreamRecordChanges ctx changes).map StreamRecordChange.addr).Nodup := by
  unfold mergeStreamRecordChanges
  split_ifs with hlen
  · match changes, hlen with
    | [], _ => exact List.nodup_nil
    | [c], _ => exact List.nodup_singleton _
  · rw [((List.perm_insertionSort _ _).map _).nodup_iff, List.map_map]
    have haddr := fun k c => group_invariant StreamRecordChange.addr
      (fun (current : Option StreamRecordChange) c => (current.getD { addr := c.addr }).merge c)
      (fun k c => c.addr = k) changes (k := k) (v := c) (fun c _ o ho => by
        cases o with
        | none => rfl
        | some current => exact ho current rfl)
    generalize group StreamRecordChange.addr _ changes = m at haddr
    have hkeys : (m.entries.map fun e => e.1).Nodup := List.pairwise_map.2 (m.sorted.imp fun h => h.ne)
    convert hkeys using 1
    exact List.map_congr_left fun e he => haddr e.1 e.2 (find?_eq_some_iff.2 he)

/-- Merged changes of a list that only changes rates only change rates, of addresses of the
list. -/
theorem of_mem_mergeStreamRecordChanges {c : StreamRecordChange}
    (h : c ∈ mergeStreamRecordChanges ctx (rateChanges flows)) :
    c = { addr := c.addr, rateChange := c.rateChange } ∧ ∃ f ∈ flows, f.toAddr = c.addr := by
  unfold mergeStreamRecordChanges at h
  split_ifs at h with hlen
  · obtain ⟨f, hf, rfl⟩ := List.mem_map.1 h
    exact ⟨rfl, f, hf, rfl⟩
  · rw [List.mem_insertionSort, List.mem_map] at h
    obtain ⟨e, he, rfl⟩ := h
    have hfind := find?_eq_some_iff.2 he
    refine group_invariant StreamRecordChange.addr
      (fun (current : Option StreamRecordChange) c => (current.getD { addr := c.addr }).merge c)
      (fun _ c => c = { addr := c.addr, rateChange := c.rateChange } ∧
        ∃ f ∈ flows, f.toAddr = c.addr) (rateChanges flows) (fun c hc o ho => ?_) hfind
    obtain ⟨f, hf, rfl⟩ := List.mem_map.1 hc
    cases o with
    | none => exact ⟨by simp [StreamRecordChange.merge], f, hf, rfl⟩
    | some current =>
      obtain ⟨heq, hex⟩ := ho current rfl
      rw [heq] at hex ⊢
      exact ⟨by simp [StreamRecordChange.merge], hex⟩

end Moca.Payment
