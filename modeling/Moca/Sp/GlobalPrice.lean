/-
# The global price

`UpdateGlobalSpStorePrice` writes the median of the read prices and the median of the store prices
of the providers that are in service or in maintenance.  The order in which it meets them does not
matter, and a majority whose prices lie in an interval keeps the median there; an even number of
prices has two in the middle, whose mean is rounded toward zero.
-/

import Moca.Lib.Median
import Moca.Sp.Keeper

namespace Moca.Sp

variable {a b : ℤ} {ctx : Ctx} {s : State}

/-! ### Medians -/

theorem calculateMedian_perm {l l' : List ℤ} (h : l.Perm l') :
    calculateMedian l = calculateMedian l' := by
  have hsorted : l.insertionSort (· ≤ ·) = l'.insertionSort (· ≤ ·) := by
    refine List.Perm.eq_of_sortedLE List.sortedLE_insertionSort List.sortedLE_insertionSort ?_
    exact ((List.perm_insertionSort _ l).trans h).trans (List.perm_insertionSort _ l').symm
  unfold calculateMedian
  rw [hsorted]

/-- The mean of two prices, rounded toward zero, is between them. -/
theorem mean_mem {x y : ℤ} (hx : a ≤ x ∧ x ≤ b) (hy : a ≤ y ∧ y ≤ b) :
    a ≤ (x + y).tdiv 2 ∧ (x + y).tdiv 2 ≤ b := by
  have hlow : (a * 2).tdiv 2 ≤ (x + y).tdiv 2 := Int.tdiv_le_tdiv two_pos (by omega)
  have hhigh : (x + y).tdiv 2 ≤ (b * 2).tdiv 2 := Int.tdiv_le_tdiv two_pos (by omega)
  rw [Int.mul_tdiv_cancel _ two_ne_zero] at hlow hhigh
  exact ⟨hlow, hhigh⟩

/-- **A majority of the prices in an interval keeps the median there.** -/
theorem calculateMedian_mem {l : List ℤ}
    (h : l.length < 2 * l.countP fun x => decide (a ≤ x ∧ x ≤ b)) :
    a ≤ calculateMedian l ∧ calculateMedian l ≤ b := by
  have hperm := List.perm_insertionSort (· ≤ ·) l
  have hlen := hperm.length_eq
  rw [← hperm.countP_eq, ← hlen] at h
  have hmem : ∀ i, (l.insertionSort (· ≤ ·)).length ≤ 2 * (i + 1) →
      2 * i ≤ (l.insertionSort (· ≤ ·)).length →
      a ≤ (l.insertionSort (· ≤ ·)).getD i 0 ∧ (l.insertionSort (· ≤ ·)).getD i 0 ≤ b := by
    intro i hlow hhigh
    have hcount : (l.insertionSort (· ≤ ·)).countP (fun x => decide (a ≤ x ∧ x ≤ b)) ≤
        (l.insertionSort (· ≤ ·)).length := List.countP_le_length
    have hi : i < (l.insertionSort (· ≤ ·)).length := by omega
    rw [List.getD_eq_getElem?_getD, List.getElem?_eq_getElem hi, Option.getD_some]
    exact getElem_mem_of_majority List.sortedLE_insertionSort h hi hlow hhigh
  unfold calculateMedian
  dsimp only
  split_ifs with heven
  · exact mean_mem (hmem _ (by omega) (by omega)) (hmem _ (by omega) (by omega))
  · exact hmem _ (by omega) (by omega)

/-! ### Prices of providers -/

/-- The providers whose prices are counted. -/
def counted (sps : List Provider) : List Provider :=
  sps.filter fun sp => sp.isInService || sp.isInMaintenance

/-- How many of the counted providers have a price in an interval. -/
def State.pricedIn (s : State) (price : SpStoragePrice → ℤ) (a b : ℤ) : ℕ :=
  (counted s.getAllStorageProviders).countP fun sp =>
    (s.spStoragePrices.find? sp.id).any fun p => decide (a ≤ price p ∧ price p ≤ b)

/-- The global price of a list of prices. -/
def State.globalPriceOf (s : State) (prices : List SpStoragePrice) : GlobalSpStorePrice where
  readPrice := calculateMedian (prices.map SpStoragePrice.readPrice)
  primaryStorePrice := calculateMedian (prices.map SpStoragePrice.storePrice)
  secondaryStorePrice := chopPrecisionAndRound
    (s.params.secondarySpStorePriceRatio * calculateMedian (prices.map SpStoragePrice.storePrice))

/-- `UpdateGlobalSpStorePrice`, with the providers in some order. -/
def State.updateGlobalSpStorePriceFrom (ctx : Ctx) (s : State) (sps : List Provider) : State :=
  match (counted sps).mapM fun sp => s.spStoragePrices.find? sp.id with
  | none => s
  | some [] => s
  | some prices =>
    { s with
      globalSpStorePrices := s.globalSpStorePrices.insert ctx.blockTime (s.globalPriceOf prices) }

theorem updateGlobalSpStorePrice_eq (ctx : Ctx) (s : State) : s.updateGlobalSpStorePrice ctx =
    s.updateGlobalSpStorePriceFrom ctx s.getAllStorageProviders := rfl

theorem mapM_eq_filterMap {α β : Type} (f : α → Option β) (l : List α) :
    l.mapM f = if ∀ x ∈ l, (f x).isSome then some (l.filterMap f) else none := by
  induction l with
  | nil => simp
  | cons x l ih =>
    rw [List.mapM_cons, ih]
    rcases hx : f x with _ | y
    · simp [hx]
    · by_cases hl : ∀ x ∈ l, (f x).isSome
      · rw [if_pos hl, if_pos (List.forall_mem_cons.2 ⟨by simp [hx], hl⟩)]
        simp [hx]
      · rw [if_neg hl, if_neg fun h => hl (List.forall_mem_cons.1 h).2]
        rfl

theorem State.globalPriceOf_perm {l l' : List SpStoragePrice} (h : l.Perm l') :
    s.globalPriceOf l = s.globalPriceOf l' := by
  unfold State.globalPriceOf
  rw [calculateMedian_perm (h.map SpStoragePrice.readPrice),
    calculateMedian_perm (h.map SpStoragePrice.storePrice)]

/-- **The order of the providers does not matter.** -/
theorem updateGlobalSpStorePriceFrom_perm {sps sps' : List Provider} (h : sps.Perm sps') :
    s.updateGlobalSpStorePriceFrom ctx sps = s.updateGlobalSpStorePriceFrom ctx sps' := by
  have hcounted : (counted sps).Perm (counted sps') := h.filter _
  have hprices := hcounted.filterMap fun sp => s.spStoragePrices.find? sp.id
  unfold State.updateGlobalSpStorePriceFrom
  rw [mapM_eq_filterMap, mapM_eq_filterMap]
  simp only [hcounted.mem_iff]
  split_ifs
  · generalize (counted sps).filterMap (fun sp => s.spStoragePrices.find? sp.id) = l at hprices ⊢
    generalize (counted sps').filterMap (fun sp => s.spStoragePrices.find? sp.id) = l' at hprices ⊢
    rcases l with _ | ⟨p, l⟩
    · rw [hprices.nil_eq]
    · rcases l' with _ | ⟨p', l'⟩
      · cases hprices.eq_nil
      · dsimp only
        rw [State.globalPriceOf_perm hprices]
  · rfl

/-- **The global price is robust.**  It does not depend on the order in which the providers are
met, and where more than half of the counted providers have their price in an interval, so has
the global price.  No price is computed where a counted provider has none or none is counted. -/
theorem updateGlobalSpStorePrice_robust (ctx : Ctx) (s : State) :
    (∀ sps, sps.Perm s.getAllStorageProviders →
      s.updateGlobalSpStorePriceFrom ctx sps = s.updateGlobalSpStorePrice ctx) ∧
    ((∀ sp ∈ counted s.getAllStorageProviders, (s.spStoragePrices.find? sp.id).isSome) →
      counted s.getAllStorageProviders ≠ [] →
      ∃ price, (s.updateGlobalSpStorePrice ctx).globalSpStorePrices.find? ctx.blockTime =
          some price ∧
        ∀ a b,
          ((counted s.getAllStorageProviders).length < 2 * s.pricedIn SpStoragePrice.readPrice a b →
            a ≤ price.readPrice ∧ price.readPrice ≤ b) ∧
          ((counted s.getAllStorageProviders).length < 2 * s.pricedIn SpStoragePrice.storePrice a b →
            a ≤ price.primaryStorePrice ∧ price.primaryStorePrice ≤ b)) := by
  refine ⟨fun sps hsps => updateGlobalSpStorePriceFrom_perm hsps, fun hpriced hne => ?_⟩
  obtain ⟨l, hl⟩ : ∃ l, l = (counted s.getAllStorageProviders).filterMap
    fun sp => s.spStoragePrices.find? sp.id := ⟨_, rfl⟩
  have hlen : l.length = (counted s.getAllStorageProviders).length := by
    rw [hl, List.length_filterMap_eq_countP, List.countP_eq_length]
    exact hpriced
  have hcount : ∀ (price : SpStoragePrice → ℤ) (a b : ℤ),
      (l.map price).countP (fun x => decide (a ≤ x ∧ x ≤ b)) = s.pricedIn price a b := by
    intro price a b
    rw [hl, List.countP_map, List.countP_filterMap, State.pricedIn]
    congr 1
    funext sp
    rcases s.spStoragePrices.find? sp.id with _ | p <;> rfl
  have hupdate : s.updateGlobalSpStorePrice ctx =
      { s with
        globalSpStorePrices :=
          s.globalSpStorePrices.insert ctx.blockTime (s.globalPriceOf l) } := by
    rw [updateGlobalSpStorePrice_eq, State.updateGlobalSpStorePriceFrom, mapM_eq_filterMap,
      if_pos hpriced, ← hl]
    rcases l with _ | ⟨p, l⟩
    · exact absurd (List.length_eq_zero_iff.1 hlen.symm) hne
    · rfl
  refine ⟨s.globalPriceOf l, ?_, fun a b => ⟨fun hmajority => ?_, fun hmajority => ?_⟩⟩
  · rw [hupdate]
    exact SortedMap.find?_insert_self _ _ _
  · refine calculateMedian_mem ?_
    rw [hcount, List.length_map, hlen]
    exact hmajority
  · refine calculateMedian_mem ?_
    rw [hcount, List.length_map, hlen]
    exact hmajority

/-- A provider and its prices. -/
def State.priced (s : State) (id : ℕ) (status : Status) (readPrice storePrice : ℤ) : State :=
  { s.setStorageProvider
      { id, status, operatorAddress := id, fundingAddress := id, approvalAddress := id,
        totalDeposit := 0, sealAddress := id, gcAddress := id, maintenanceAddress := id,
        endpoint := "", description := ⟨"", "", "", ""⟩, blsKey := [] } with
    spStoragePrices := s.spStoragePrices.insert id
      { updateTimeSec := 0, readPrice, freeReadQuota := 0, storePrice } }

/-- Four counted providers, one of which asks for much more than the others, and one that is
leaving. -/
def pricedState : State :=
  State.empty defaultParams (fun _ => 0)
    |>.priced 1 .inService 10 100
    |>.priced 2 .inMaintenance 13 104
    |>.priced 3 .inService 1000000 1000000
    |>.priced 4 .inService 12 102
    |>.priced 5 .gracefulExiting 1 1

theorem updateGlobalSpStorePrice_robust_sample : ∃ price,
    (pricedState.updateGlobalSpStorePrice
      { blockTime := 10, blockHeight := 1 }).globalSpStorePrices.find? 10 = some price ∧
    (10 ≤ price.readPrice ∧ price.readPrice ≤ 13) ∧
    (100 ≤ price.primaryStorePrice ∧ price.primaryStorePrice ≤ 104) := by
  obtain ⟨-, hprice⟩ :=
    updateGlobalSpStorePrice_robust { blockTime := 10, blockHeight := 1 } pricedState
  obtain ⟨price, hwritten, hmajority⟩ := hprice (by decide +kernel) (by decide +kernel)
  exact ⟨price, hwritten, (hmajority 10 13).1 (by decide +kernel),
    (hmajority 100 104).2 (by decide +kernel)⟩

end Moca.Sp
