/-
# Sums over the stored out-flows

The rate of a payer is compared with the sum of its stored out-flows, and the rate of
a receiver with the sum of the flows to it.  `flowSum` and `flowCount` are these sums,
over the out-flows a predicate selects; the lemmas say how the writes of
`keeper/out_flow.go` change them.

`flowTotal` is what one payer pays one receiver under both statuses: the quantity that
the flow changes of a user are changes of.
-/

import Moca.Payment.OutFlow
import Mathlib.Algebra.Order.BigOperators.Group.List

namespace Moca.Payment

open SortedMap

/-- The total rate of the out-flows whose key satisfies `P`. -/
def flowSum (m : OutFlows) (P : OutFlowKey → Prop) [DecidablePred P] : ℤ :=
  m.sum fun k v => if P k then v else 0

/-- The number of out-flows whose key satisfies `P`. -/
def flowCount (m : OutFlows) (P : OutFlowKey → Prop) [DecidablePred P] : ℤ :=
  m.sum fun k _ => if P k then 1 else 0

/-- The rate from a payer to a receiver, under one status. -/
def rateAt (m : OutFlows) (addr : Addr) (status : OutFlowStatus) (toAddr : Addr) : ℤ :=
  (m.find? ⟨addr, status, toAddr⟩).getD 0

/-- The rate from a payer to a receiver, under both statuses. -/
def flowTotal (m : OutFlows) (addr toAddr : Addr) : ℤ :=
  rateAt m addr .active toAddr + rateAt m addr .frozen toAddr

/-- The sum of the flow changes to one receiver. -/
def deltaTo (flows : List OutFlow) (toAddr : Addr) : ℤ :=
  (flows.map fun f => if f.toAddr = toAddr then f.rate else 0).sum

@[simp] theorem deltaTo_nil (toAddr : Addr) : deltaTo [] toAddr = 0 := rfl

@[simp] theorem deltaTo_cons (f : OutFlow) (flows : List OutFlow) (toAddr : Addr) :
    deltaTo (f :: flows) toAddr = (if f.toAddr = toAddr then f.rate else 0) + deltaTo flows toAddr :=
  rfl

theorem deltaTo_eq_zero {flows : List OutFlow} {r : Addr} (h : ∀ f ∈ flows, f.toAddr ≠ r) :
    deltaTo flows r = 0 := by
  refine List.sum_eq_zero fun x hx => ?_
  obtain ⟨f, hf, rfl⟩ := List.mem_map.1 hx
  exact if_neg (h f hf)

theorem rateAt_eq_zero_iff {m : OutFlows} (h : ∀ k v, m.find? k = some v → v ≠ 0) {a r : Addr}
    {st : OutFlowStatus} : rateAt m a st r = 0 ↔ m.find? ⟨a, st, r⟩ = none := by
  unfold rateAt
  cases hf : m.find? ⟨a, st, r⟩ with
  | none => simp
  | some v => simpa using h _ _ hf

section Writes

variable (m : OutFlows) (P : OutFlowKey → Prop) [DecidablePred P] (k : OutFlowKey) (v : ℤ)

theorem flowSum_insert (old : ℤ) (h : (m.find? k).getD 0 = old) :
    flowSum (m.insert k v) P = flowSum m P + if P k then v - old else 0 := by
  have hs := m.sum_insert (fun k v => if P k then v else 0) k v
  unfold flowSum
  cases hf : m.find? k with
  | none =>
    rw [hf] at h hs
    simp only [Option.elim, Option.getD_none, add_zero] at h hs
    rw [hs, ← h, sub_zero]
  | some x =>
    rw [hf] at h hs
    simp only [Option.elim, Option.getD_some] at h hs
    subst h
    split_ifs at hs ⊢ <;> omega

theorem flowSum_erase (old : ℤ) (h : (m.find? k).getD 0 = old) :
    flowSum (m.erase k) P = flowSum m P - if P k then old else 0 := by
  have hs := m.sum_erase (fun k v => if P k then v else 0) k
  unfold flowSum
  cases hf : m.find? k with
  | none =>
    rw [hf] at h hs
    simp only [Option.elim, Option.getD_none, add_zero] at h hs
    rw [hs, ← h, ite_self, sub_zero]
  | some x =>
    rw [hf] at h hs
    simp only [Option.elim, Option.getD_some] at h hs
    subst h
    omega

theorem flowCount_insert_new (h : m.find? k = none) :
    flowCount (m.insert k v) P = flowCount m P + if P k then 1 else 0 := by
  have hs := m.sum_insert (fun k _ => if P k then (1 : ℤ) else 0) k v
  rw [h] at hs
  simpa [flowCount] using hs

theorem flowCount_insert_old {x : ℤ} (h : m.find? k = some x) :
    flowCount (m.insert k v) P = flowCount m P := by
  have hs := m.sum_insert (fun k _ => if P k then (1 : ℤ) else 0) k v
  rw [h] at hs
  simpa [flowCount] using hs

theorem flowCount_erase {x : ℤ} (h : m.find? k = some x) :
    flowCount (m.erase k) P = flowCount m P - if P k then 1 else 0 := by
  have hs := m.sum_erase (fun k _ => if P k then (1 : ℤ) else 0) k
  rw [h] at hs
  simp only [Option.elim] at hs
  unfold flowCount
  omega

end Writes

/-! ### Sums of positive rates -/

theorem flowSum_nonneg {m : OutFlows} (hpos : ∀ k v, m.find? k = some v → 0 < v)
    (P : OutFlowKey → Prop) [DecidablePred P] : 0 ≤ flowSum m P := by
  refine List.sum_nonneg fun x hx => ?_
  obtain ⟨e, he, rfl⟩ := List.mem_map.1 hx
  have := hpos e.1 e.2 (find?_eq_some_iff.2 he)
  dsimp only
  split_ifs <;> omega

/-- A positive rate is at most any sum it is part of. -/
theorem le_flowSum {m : OutFlows} {P : OutFlowKey → Prop} [DecidablePred P]
    (hpos : ∀ k v, m.find? k = some v → 0 < v) {k : OutFlowKey} {v : ℤ} (hf : m.find? k = some v)
    (hk : P k) : v ≤ flowSum m P := by
  -- without the flow at `k` the sum is still at least zero
  have herase := flowSum_erase m P k v (by rw [hf, Option.getD_some])
  have hnn : 0 ≤ flowSum (m.erase k) P :=
    flowSum_nonneg (fun k' v' h' => hpos k' v' (find?_of_erase h')) P
  rw [if_pos hk] at herase
  omega

/-- **A sum of positive rates is zero only without flows.** -/
theorem find?_eq_none_of_flowSum_eq_zero {m : OutFlows} {P : OutFlowKey → Prop} [DecidablePred P]
    (hpos : ∀ k v, m.find? k = some v → 0 < v) (h : flowSum m P = 0) {k : OutFlowKey} (hk : P k) :
    m.find? k = none := by
  cases hf : m.find? k with
  | none => rfl
  | some v =>
    have hv : 0 < v := hpos k v hf
    have hle := le_flowSum hpos hf hk
    omega

theorem flowSum_eq_zero {m : OutFlows} {P : OutFlowKey → Prop} [DecidablePred P]
    (h : ∀ k, P k → m.find? k = none) : flowSum m P = 0 := by
  refine sum_eq_zero fun k v hk => ?_
  rw [if_neg]
  intro hP
  rw [h k hP] at hk
  cases hk

theorem flowCount_eq_zero {m : OutFlows} {P : OutFlowKey → Prop} [DecidablePred P]
    (h : ∀ k, P k → m.find? k = none) : flowCount m P = 0 := by
  refine sum_eq_zero fun k v hk => ?_
  rw [if_neg]
  intro hP
  rw [h k hP] at hk
  cases hk

theorem flowCount_nonneg (m : OutFlows) (P : OutFlowKey → Prop) [DecidablePred P] :
    0 ≤ flowCount m P := by
  refine List.sum_nonneg fun x hx => ?_
  obtain ⟨e, he, rfl⟩ := List.mem_map.1 hx
  dsimp only
  split_ifs <;> omega

theorem find?_eq_none_of_flowCount_eq_zero {m : OutFlows} {P : OutFlowKey → Prop} [DecidablePred P]
    (h : flowCount m P = 0) {k : OutFlowKey} (hk : P k) : m.find? k = none := by
  cases hf : m.find? k with
  | none => rfl
  | some v =>
    have herase := flowCount_erase m P k hf
    have hnn := flowCount_nonneg (m.erase k) P
    rw [if_pos hk] at herase
    omega

/-- A count depends only on the flows it counts. -/
theorem flowCount_congr {m m' : OutFlows} {P : OutFlowKey → Prop} [DecidablePred P]
    (h : ∀ k, P k → m'.find? k = m.find? k) : flowCount m' P = flowCount m P := by
  refine sum_eq_of_summands fun k => ?_
  by_cases hP : P k
  · rw [h k hP]
  · have hzero : ∀ o : Option ℤ, o.elim 0 (fun _ => if P k then (1 : ℤ) else 0) = 0 := by
      intro o
      cases o <;> simp [hP]
    rw [hzero, hzero]

/-- The flows of a payer are its active and its frozen ones. -/
theorem flowCount_status (m : OutFlows) (a : Addr) :
    flowCount m (fun k => k.addr = a) = flowCount m (fun k => k.addr = a ∧ k.status = .active) +
      flowCount m (fun k => k.addr = a ∧ k.status = .frozen) := by
  unfold flowCount
  rw [← sum_add]
  refine sum_congr fun k v _ => ?_
  cases hst : k.status <;> by_cases hk : k.addr = a <;> simp [hk, hst]

/-! ### `mergeOutFlows` -/

section Merge

variable (addr : Addr) (status : OutFlowStatus)

variable (flows : List OutFlow) (m : OutFlows) (o : OutFlow) (toAddr : Addr)

theorem mergeOutFlow_find? {k : OutFlowKey} (hk : k ≠ ⟨addr, status, o.toAddr⟩) :
    (mergeOutFlow m addr status o).1.find? k = m.find? k := by
  unfold mergeOutFlow
  split
  · exact find?_insert_of_ne _ _ hk
  · split_ifs
    · exact find?_erase_of_ne _ hk
    · exact find?_insert_of_ne _ _ hk

/-- A merge adds to the rate at its key. -/
theorem mergeOutFlow_rate : rateAt (mergeOutFlow m addr status o).1 addr status o.toAddr =
      rateAt m addr status o.toAddr + o.rate := by
  unfold rateAt mergeOutFlow
  split
  · rename_i h
    rw [h]
    simp [setOutFlow]
  · rename_i v h
    rw [h]
    split_ifs with hz
    · rw [find?_erase_self, Option.getD_none, Option.getD_some, hz]
    · simp [setOutFlow]

/-- A merge of a nonzero change stores no zero rate. -/
theorem mergeOutFlow_ne_zero {m : OutFlows} {o : OutFlow} (ho : o.rate ≠ 0)
    (hm : ∀ k v, m.find? k = some v → v ≠ 0) {k : OutFlowKey} {v : ℤ}
    (h : (mergeOutFlow m addr status o).1.find? k = some v) : v ≠ 0 := by
  by_cases hk : k = ⟨addr, status, o.toAddr⟩
  · subst hk
    unfold mergeOutFlow at h
    split at h
    · rw [setOutFlow, find?_insert_self] at h
      cases h
      exact ho
    · split_ifs at h with hz
      · rw [find?_erase_self] at h
        cases h
      · rw [setOutFlow, find?_insert_self] at h
        cases h
        exact hz
  · rw [mergeOutFlow_find? addr status m o hk] at h
    exact hm k v h

theorem mergeOutFlow_flowSum (P : OutFlowKey → Prop) [DecidablePred P] :
    flowSum (mergeOutFlow m addr status o).1 P =
      flowSum m P + if P ⟨addr, status, o.toAddr⟩ then o.rate else 0 := by
  unfold mergeOutFlow
  split
  · rename_i h
    rw [setOutFlow, flowSum_insert m P _ _ 0 (by rw [h, Option.getD_none]), sub_zero]
  · rename_i v h
    split_ifs with hz hP hP
    · rw [flowSum_erase m P _ v (by rw [h, Option.getD_some]), if_pos hP]
      omega
    · rw [flowSum_erase m P _ v (by rw [h, Option.getD_some]), if_neg hP]
      omega
    · rw [setOutFlow, flowSum_insert m P _ _ v (by rw [h, Option.getD_some]), if_pos hP]
      dsimp only
      omega
    · rw [setOutFlow, flowSum_insert m P _ _ v (by rw [h, Option.getD_some]), if_neg hP]

theorem mergeOutFlow_flowCount (P : OutFlowKey → Prop) [DecidablePred P] :
    flowCount (mergeOutFlow m addr status o).1 P =
      flowCount m P + if P ⟨addr, status, o.toAddr⟩ then (mergeOutFlow m addr status o).2 else 0 := by
  unfold mergeOutFlow
  split
  · rename_i h
    rw [setOutFlow, flowCount_insert_new m P _ _ h]
  · rename_i v h
    split_ifs with hz hP hP
    · rw [flowCount_erase m P _ h, if_pos hP]
      rfl
    · rw [flowCount_erase m P _ h, if_neg hP]
      omega
    · rw [setOutFlow, flowCount_insert_old m P _ _ h, add_zero]
    · rw [setOutFlow, flowCount_insert_old m P _ _ h, add_zero]

/-- The sum over some flow changes of those whose key satisfies `P`. -/
def changeSum (P : OutFlowKey → Prop) [DecidablePred P] : ℤ :=
  (flows.map fun o => if P ⟨addr, status, o.toAddr⟩ then o.rate else 0).sum

theorem changeSum_eq_totalRate (P : OutFlowKey → Prop) [DecidablePred P]
    (h : ∀ r, P ⟨addr, status, r⟩) : changeSum addr status flows P = totalRate flows := by
  unfold changeSum totalRate
  exact congrArg List.sum (List.map_congr_left fun o _ => if_pos (h _))

theorem changeSum_eq_zero (P : OutFlowKey → Prop) [DecidablePred P] (h : ∀ r, ¬P ⟨addr, status, r⟩) :
    changeSum addr status flows P = 0 := by
  refine List.sum_eq_zero fun x hx => ?_
  obtain ⟨o, -, rfl⟩ := List.mem_map.1 hx
  exact if_neg (h _)

theorem mergeOutFlows_cons (rest : List OutFlow) (m : OutFlows) :
    (mergeOutFlows addr status (o :: rest) m).1 =
        (mergeOutFlows addr status rest (mergeOutFlow m addr status o).1).1 ∧
      (mergeOutFlows addr status (o :: rest) m).2 =
        (mergeOutFlow m addr status o).2 +
          (mergeOutFlows addr status rest (mergeOutFlow m addr status o).1).2 :=
  ⟨rfl, rfl⟩

theorem mergeOutFlows_find? {k : OutFlowKey} (hk : k.addr ≠ addr ∨ k.status ≠ status) :
    (mergeOutFlows addr status flows m).1.find? k = m.find? k := by
  induction flows generalizing m with
  | nil => rfl
  | cons o rest ih =>
    rw [(mergeOutFlows_cons addr status o rest m).1, ih, mergeOutFlow_find? addr status m o]
    rintro rfl
    simp at hk

/-- **A merged list adds its changes to the rates.** -/
theorem mergeOutFlows_rate : rateAt (mergeOutFlows addr status flows m).1 addr status toAddr =
      rateAt m addr status toAddr + deltaTo flows toAddr := by
  induction flows generalizing m with
  | nil => simp [mergeOutFlows]
  | cons o rest ih =>
    rw [(mergeOutFlows_cons addr status o rest m).1, ih, deltaTo_cons]
    split_ifs with ho
    · subst ho
      rw [mergeOutFlow_rate]
      omega
    · have hk : (⟨addr, status, toAddr⟩ : OutFlowKey) ≠ ⟨addr, status, o.toAddr⟩ := by
        intro h
        exact ho (congrArg OutFlowKey.toAddr h).symm
      unfold rateAt
      rw [mergeOutFlow_find? addr status m o hk, zero_add]

theorem mergeOutFlows_ne_zero (hflows : ∀ o ∈ flows, o.rate ≠ 0) {m : OutFlows}
    (hm : ∀ k v, m.find? k = some v → v ≠ 0) :
    ∀ k v, (mergeOutFlows addr status flows m).1.find? k = some v → v ≠ 0 := by
  induction flows generalizing m with
  | nil => exact hm
  | cons o rest ih =>
    rw [(mergeOutFlows_cons addr status o rest m).1]
    refine ih (fun o' ho' => hflows o' (List.mem_cons_of_mem _ ho')) fun k v h => ?_
    exact mergeOutFlow_ne_zero addr status (hflows o List.mem_cons_self) hm h

theorem mergeOutFlows_flowSum (P : OutFlowKey → Prop) [DecidablePred P] :
    flowSum (mergeOutFlows addr status flows m).1 P =
      flowSum m P + changeSum addr status flows P := by
  induction flows generalizing m with
  | nil => simp [mergeOutFlows, changeSum]
  | cons o rest ih =>
    rw [(mergeOutFlows_cons addr status o rest m).1, ih, mergeOutFlow_flowSum, add_assoc]
    rfl

/-- **The count of a merged list is exact**, for a selection that depends on the payer only. -/
theorem mergeOutFlows_flowCount (a : Addr) :
    flowCount (mergeOutFlows addr status flows m).1 (fun k => k.addr = a) =
      flowCount m (fun k => k.addr = a) +
        if addr = a then (mergeOutFlows addr status flows m).2 else 0 := by
  induction flows generalizing m with
  | nil => simp [mergeOutFlows]
  | cons o rest ih =>
    rw [(mergeOutFlows_cons addr status o rest m).1, (mergeOutFlows_cons addr status o rest m).2, ih,
      mergeOutFlow_flowCount, add_assoc]
    split_ifs <;> rfl

end Merge

end Moca.Payment
