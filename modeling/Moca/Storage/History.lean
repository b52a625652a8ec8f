/-
# The history of prices and parameters

`x/payment` and `x/storage` store their versioned parameters, and `x/sp` the global
price, under the time of the block that sets them.  The key is the time as eight
big-endian bytes, behind a byte for the parameters:

| module      | key                                 | lookup                         |
|-------------|-------------------------------------|--------------------------------|
| `x/payment` | `0x07`, `uint64` of the time        | `GetVersionedParamsWithTs`     |
| `x/storage` | `0x01`, `uint64` of the time        | `GetVersionedParamsWithTS`     |
| `x/sp`      | `uint64` of the time                | `GetGlobalSpStorePriceByTime`  |

A lookup for a time takes the first entry that a reverse iterator meets which ends before
the key of that time.  The models of the modules keep these entries by time; `HistoryStores`
are the stores with the keys in bytes.  For times that are not negative the bytes compare
as the times do, so the two agree, and what is set at a time or later does not change what
was the price and what were the parameters at that time (`historical_prices_fixed`).
-/

import Mathlib.Data.Int.ConditionallyCompleteOrder
import Mathlib.Tactic.NormNum
import Moca.Lib.Bytes
import Moca.Sp.Ledger
import Moca.Storage.ObjectIndex

namespace Moca.Storage

open SortedMap

/-! ### Keys -/

/-- `GlobalSpStorePriceKey`. -/
def globalSpStorePriceKey (timestamp : ℤ) : Bytes := Bytes.fixed 8 (uint64 timestamp)

/-- `ParseGlobalSpStorePriceKey`. -/
def parseGlobalSpStorePriceKey (key : Bytes) : ℤ := int64 (Bytes.ofBigEndian key)

/-- `VersionedParamsKey` of `x/payment`. -/
def versionedParamsKey (timestamp : ℤ) : Bytes := Bytes.low 0x07 :: Bytes.fixed 8 (uint64 timestamp)

/-- `GetParamsKeyWithTimestamp` of `x/storage`. -/
def getParamsKeyWithTimestamp (timestamp : ℤ) : Bytes :=
  Bytes.low 0x01 :: Bytes.fixed 8 (uint64 timestamp)

/-- The times of blocks: seconds since 1970 in an `int64`. -/
def blockTimes : Set ℤ := {t | 0 ≤ t ∧ t < 2 ^ 63}

theorem uint64_of_mem {t : ℤ} (h : t ∈ blockTimes) : (uint64 t : ℤ) = t ∧ uint64 t < 256 ^ 8 := by
  obtain ⟨h₀, h₁⟩ := h
  unfold uint64
  rw [Int.emod_eq_of_lt h₀ (by omega)]
  omega

/-- **The keys compare as the times of blocks do.** -/
theorem globalSpStorePriceKey_strictMonoOn : StrictMonoOn globalSpStorePriceKey blockTimes := by
  intro a ha b hb hab
  obtain ⟨ha, ha'⟩ := uint64_of_mem ha
  obtain ⟨hb, hb'⟩ := uint64_of_mem hb
  exact Bytes.fixed_strictMonoOn 8 ha' hb' (by omega)

theorem versionedParamsKey_strictMonoOn : StrictMonoOn versionedParamsKey blockTimes :=
  fun _ ha _ hb hab =>
    List.cons_lt_cons_iff.2 (Or.inr ⟨rfl, globalSpStorePriceKey_strictMonoOn ha hb hab⟩)

theorem getParamsKeyWithTimestamp_strictMonoOn : StrictMonoOn getParamsKeyWithTimestamp blockTimes :=
  fun _ ha _ hb hab =>
    List.cons_lt_cons_iff.2 (Or.inr ⟨rfl, globalSpStorePriceKey_strictMonoOn ha hb hab⟩)

theorem parseGlobalSpStorePriceKey_key {t : ℤ} (h : t ∈ blockTimes) :
    parseGlobalSpStorePriceKey (globalSpStorePriceKey t) = t := by
  obtain ⟨hval, hlt⟩ := uint64_of_mem h
  unfold parseGlobalSpStorePriceKey globalSpStorePriceKey
  rw [Bytes.ofBigEndian_fixed hlt, hval]
  obtain ⟨h₀, h₁⟩ := h
  unfold int64
  omega

/-! ### The stores -/

/-- The entries of the three modules, by the bytes of their keys. -/
structure HistoryStores where
  paymentParams : SortedMap Bytes Payment.VersionedParams
  storageParams : SortedMap Bytes VersionedParams
  prices : SortedMap Bytes GlobalSpStorePrice

/-- `GetVersionedParamsWithTs` of `x/payment`. -/
def HistoryStores.getVersionedParamsWithTs (st : HistoryStores) (ts : ℤ) :
    Option Payment.VersionedParams :=
  st.paymentParams.latestBefore (versionedParamsKey ts)

/-- `GetVersionedParamsWithTS` of `x/storage`. -/
def HistoryStores.getVersionedParamsWithTS (st : HistoryStores) (ts : ℤ) : Option VersionedParams :=
  st.storageParams.latestBefore (getParamsKeyWithTimestamp ts)

/-- `GetGlobalSpStorePriceByTime` of `x/sp`: the price, with the time it was set at. -/
def HistoryStores.getGlobalSpStorePriceByTime (st : HistoryStores) (time : ℤ) :
    Option (ℤ × GlobalSpStorePrice) :=
  (st.prices.entryBefore (globalSpStorePriceKey time)).map fun e =>
    (parseGlobalSpStorePriceKey e.1, e.2)

/-- The stores hold what the state has, under the bytes of the times. -/
structure HistoryStores.Encodes (st : HistoryStores) (s : State) : Prop where
  paymentParams : SortedMap.Encodes versionedParamsKey blockTimes st.paymentParams
    s.payment.versionedParams
  storageParams : SortedMap.Encodes getParamsKeyWithTimestamp blockTimes st.storageParams
    s.versionedParams
  prices : SortedMap.Encodes globalSpStorePriceKey blockTimes st.prices s.globalSpStorePrices

section Encodes

variable {st : HistoryStores} {s : State} {ts : ℤ}

/-- **The lookups by bytes are the lookups by time**, for the times of blocks. -/
theorem history_lookups (h : st.Encodes s) (hts : ts ∈ blockTimes) :
    st.getVersionedParamsWithTs ts = (s.getPaymentParamsWithTs ts).toOption ∧
      st.getVersionedParamsWithTS ts = (s.getVersionedParamsWithTS ts).toOption ∧
      (st.getGlobalSpStorePriceByTime ts).map Prod.snd =
        (s.getGlobalSpStorePriceByTime ts).toOption ∧
      (st.getGlobalSpStorePriceByTime ts).map Prod.fst =
        (s.globalSpStorePrices.entryBefore ts).map Prod.fst := by
  have hpayment : st.getVersionedParamsWithTs ts =
      s.virtualGroup.payment.versionedParams.latestBefore ts :=
    h.paymentParams.latestBefore versionedParamsKey_strictMonoOn hts
  have hstorage : st.getVersionedParamsWithTS ts = s.versionedParams.latestBefore ts :=
    h.storageParams.latestBefore getParamsKeyWithTimestamp_strictMonoOn hts
  have hprice : st.getGlobalSpStorePriceByTime ts = s.globalSpStorePrices.entryBefore ts := by
    unfold HistoryStores.getGlobalSpStorePriceByTime
    rw [h.prices.entryBefore globalSpStorePriceKey_strictMonoOn hts, Option.map_map]
    cases he : s.globalSpStorePrices.entryBefore ts with
    | none => rfl
    | some e =>
      have hmem : e ∈ s.globalSpStorePrices.entries :=
        (List.takeWhile_sublist _).subset (List.mem_of_getLast? he)
      show some (parseGlobalSpStorePriceKey (globalSpStorePriceKey e.1), e.2) = some e
      rw [parseGlobalSpStorePriceKey_key (h.prices.mem e hmem)]
  unfold State.getPaymentParamsWithTs State.getVersionedParamsWithTS
    State.getGlobalSpStorePriceByTime
  rw [hpayment, hstorage, hprice, latestBefore_eq s.globalSpStorePrices]
  refine ⟨?_, ?_, ?_, rfl⟩
  · split <;> simp_all [Except.toOption]
  · split <;> simp_all [Except.toOption]
  · split <;> simp_all [Except.toOption]

end Encodes

/-! ### Prices of the past -/

section Past

variable {s s' : State} {T : Set ℤ} {ts : ℤ}

section

variable (h : s.RecordedAt T s') (hT : ∀ t ∈ T, ts ≤ t)
include h hT

/-- The lookups for a time, for the states before and after writes at later times. -/
theorem State.RecordedAt.lookups : s'.getPaymentParamsWithTs ts = s.getPaymentParamsWithTs ts ∧
      s'.getVersionedParamsWithTS ts = s.getVersionedParamsWithTS ts ∧
      s'.getGlobalSpStorePriceByTime ts = s.getGlobalSpStorePriceByTime ts ∧
      s'.getExpectSecondarySPNumForECObject ts = s.getExpectSecondarySPNumForECObject ts := by
  have hpayment : s'.virtualGroup.payment.versionedParams.latestBefore ts =
      s.virtualGroup.payment.versionedParams.latestBefore ts := h.paymentParams.latestBefore hT
  unfold State.getPaymentParamsWithTs State.getVersionedParamsWithTS
    State.getGlobalSpStorePriceByTime State.getExpectSecondarySPNumForECObject
  rw [hpayment, h.storageParams.latestBefore hT, h.prices.latestBefore hT]
  exact ⟨rfl, rfl, rfl, rfl⟩

theorem State.RecordedAt.getObjectChargeSize (size : ℕ) :
    s'.getObjectChargeSize size ts = s.getObjectChargeSize size ts := by
  unfold State.getObjectChargeSize
  rw [(h.lookups hT).2.1]

theorem State.RecordedAt.getObjectLockFee (size : ℕ) :
    s'.getObjectLockFee ts size = s.getObjectLockFee ts size := by
  obtain ⟨hpayment, -, hprice, hnum⟩ := h.lookups hT
  unfold State.getObjectLockFee
  rw [hprice, h.getObjectChargeSize hT, hnum, hpayment]

end

/-- An encoded history after writes at block times not before `ts`. -/
theorem encodes_later {ν : Type} {key : ℤ → Bytes} (hkey : StrictMonoOn key blockTimes)
    {st : SortedMap Bytes ν} {m m' : SortedMap ℤ ν} (hst : SortedMap.Encodes key blockTimes st m)
    (hts : 0 ≤ ts) (h : WrittenAt {t | ts ≤ t ∧ t < 2 ^ 63} m m') :
    ∃ st', SortedMap.Encodes key blockTimes st' m' ∧
      st'.entryBefore (key ts) = st.entryBefore (key ts) := by
  have hsub : {t | ts ≤ t ∧ t < 2 ^ 63} ⊆ blockTimes := fun t ht => ⟨hts.trans ht.1, ht.2⟩
  obtain ⟨st', hwritten, hst'⟩ := hst.writtenAt hkey hsub h
  refine ⟨st', hst', hwritten.entryBefore ?_⟩
  rintro _ ⟨t, ht, rfl⟩
  exact hkey.monotoneOn ⟨hts, lt_of_le_of_lt ht.1 ht.2⟩ (hsub ht) ht.1

end Past

/-- **Prices and parameters of the past do not change.**  After any run of the chain at block times
not before `ts`, whether it sets parameters and prices or does anything else, the three stores give
for the time `ts` what they gave before, and so the fee that is locked for an object and the size it
is charged for at the prices of that time are what they were.  The same holds of the global prices
of `x/sp`, which it computes from those of the providers. -/
theorem historical_prices_fixed {ts : ℤ} (hts : 0 ≤ ts) :
    (∀ (c₀ c c' : Chain) (st : HistoryStores), c₀.Starts →
      Reachable Chain.step (fun _ _ => True) c₀ c → st.Encodes c.state →
      Reachable Chain.step (fun _ l => ts ≤ l.1.blockTime ∧ l.1.blockTime < 2 ^ 63) c c' →
        (∃ st' : HistoryStores, st'.Encodes c'.state ∧
          st'.getVersionedParamsWithTs ts = st.getVersionedParamsWithTs ts ∧
          st'.getVersionedParamsWithTS ts = st.getVersionedParamsWithTS ts ∧
          st'.getGlobalSpStorePriceByTime ts = st.getGlobalSpStorePriceByTime ts) ∧
        (c'.state.getPaymentParamsWithTs ts = c.state.getPaymentParamsWithTs ts ∧
          c'.state.getVersionedParamsWithTS ts = c.state.getVersionedParamsWithTS ts ∧
          c'.state.getGlobalSpStorePriceByTime ts = c.state.getGlobalSpStorePriceByTime ts) ∧
        ∀ size, c'.state.getObjectLockFee ts size = c.state.getObjectLockFee ts size ∧
          c'.state.getObjectChargeSize size ts = c.state.getObjectChargeSize size ts) ∧
    (∀ (s s' : Sp.State) (st : SortedMap Bytes Sp.GlobalSpStorePrice),
      SortedMap.Encodes globalSpStorePriceKey blockTimes st s.globalSpStorePrices →
      Reachable Sp.State.step (fun _ l => ts ≤ l.1.blockTime ∧ l.1.blockTime < 2 ^ 63) s s' →
        ∃ st', SortedMap.Encodes globalSpStorePriceKey blockTimes st' s'.globalSpStorePrices ∧
          st'.entryBefore (globalSpStorePriceKey ts) =
            st.entryBefore (globalSpStorePriceKey ts)) := by
  constructor
  · intro c₀ c c' st h₀ hpast hst hrun
    have hok := Chain.names_ok h₀.names.1 hpast
    have hrec := Chain.recordedAt (T := {t | ts ≤ t ∧ t < 2 ^ 63}) hok (fun _ _ hl => hl) hrun
    have hlater : ∀ t ∈ {t : ℤ | ts ≤ t ∧ t < 2 ^ 63}, ts ≤ t := fun t ht => ht.1
    obtain ⟨pay, hpay, hpay'⟩ :=
      encodes_later versionedParamsKey_strictMonoOn hst.paymentParams hts hrec.paymentParams
    obtain ⟨sto, hsto, hsto'⟩ :=
      encodes_later getParamsKeyWithTimestamp_strictMonoOn hst.storageParams hts hrec.storageParams
    obtain ⟨pri, hpri, hpri'⟩ :=
      encodes_later globalSpStorePriceKey_strictMonoOn hst.prices hts hrec.prices
    refine ⟨⟨⟨pay, sto, pri⟩, ⟨hpay, hsto, hpri⟩, ?_, ?_, ?_⟩, ?_,
      fun size => ⟨?_, ?_⟩⟩
    · show pay.latestBefore (versionedParamsKey ts) = st.paymentParams.latestBefore _
      rw [latestBefore_eq, hpay', latestBefore_eq]
    · show sto.latestBefore (getParamsKeyWithTimestamp ts) = st.storageParams.latestBefore _
      rw [latestBefore_eq, hsto', latestBefore_eq]
    · unfold HistoryStores.getGlobalSpStorePriceByTime
      rw [hpri']
    · obtain ⟨hpayment, hstorage, hprice, -⟩ := hrec.lookups hlater
      exact ⟨hpayment, hstorage, hprice⟩
    · exact hrec.getObjectLockFee hlater size
    · exact hrec.getObjectChargeSize hlater size
  · intro s s' st hst hrun
    have hwritten : WrittenAt {t | ts ≤ t ∧ t < 2 ^ 63} s.globalSpStorePrices
        s'.globalSpStorePrices := by
      refine hrun.invariant (fun s₁ => WrittenAt {t | ts ≤ t ∧ t < 2 ^ 63} s.globalSpStorePrices
        s₁.globalSpStorePrices) (.refl _ _) fun s₁ l s₂ hs₁ hl hstep => ?_
      unfold Sp.State.step at hstep
      split at hstep
      · rename_i s₃ hop
        cases hstep
        exact hs₁.trans ((Sp.run_prices hop).mono (Set.singleton_subset_iff.2 hl))
      · cases hstep
        exact hs₁
    exact encodes_later globalSpStorePriceKey_strictMonoOn hst hts hwritten

/-- The stores of the sample start. -/
def sampleHistory : HistoryStores where
  paymentParams := SortedMap.empty.insert (versionedParamsKey 0) Payment.defaultParams.versionedParams
  storageParams := SortedMap.empty.insert (getParamsKeyWithTimestamp 0) ⟨1, 1, 1⟩
  prices := SortedMap.empty.insert (globalSpStorePriceKey 0) ⟨0, 0, 0⟩

theorem sampleHistory_encodes : sampleHistory.Encodes (sampleStart 1).state := by
  have hzero : (0 : ℤ) ∈ blockTimes := ⟨le_rfl, by norm_num⟩
  exact ⟨(SortedMap.Encodes.empty _ _).insert versionedParamsKey_strictMonoOn hzero _,
    (SortedMap.Encodes.empty _ _).insert getParamsKeyWithTimestamp_strictMonoOn hzero _,
    (SortedMap.Encodes.empty _ _).insert globalSpStorePriceKey_strictMonoOn hzero _⟩

/-- Three values, set at times whose keys differ in the last two bytes. -/
def threeTimes {κ ν : Type} [LinearOrder κ] (key : ℤ → κ) (a b c : ν) : SortedMap κ ν :=
  ((SortedMap.empty.insert (key 0) a).insert (key 255) b).insert (key 256) c

theorem threeTimes_encodes {ν : Type} {key : ℤ → Bytes} (hkey : StrictMonoOn key blockTimes)
    (a b c : ν) : SortedMap.Encodes key blockTimes (threeTimes key a b c) (threeTimes id a b c) := by
  have htimes : ∀ t ∈ [(0 : ℤ), 255, 256], t ∈ blockTimes := by simp [blockTimes]
  exact (((SortedMap.Encodes.empty _ _).insert hkey (htimes 0 (by simp)) _).insert hkey
    (htimes 255 (by simp)) _).insert hkey (htimes 256 (by simp)) _

/-- Parameters of both modules and prices that change at 255 and at 256. -/
def changedHistory : HistoryStores where
  paymentParams := threeTimes versionedParamsKey ⟨100, 0⟩ ⟨200, 0⟩ ⟨300, 0⟩
  storageParams := threeTimes getParamsKeyWithTimestamp ⟨1, 1, 1⟩ ⟨2, 1, 1⟩ ⟨3, 1, 1⟩
  prices := threeTimes globalSpStorePriceKey ⟨0, 0, 0⟩ ⟨1, 1, 1⟩ ⟨2, 2, 2⟩

def changedState : State :=
  .empty defaultParams (threeTimes id ⟨1, 1, 1⟩ ⟨2, 1, 1⟩ ⟨3, 1, 1⟩)
    (threeTimes id ⟨0, 0, 0⟩ ⟨1, 1, 1⟩ ⟨2, 2, 2⟩)
    (.empty VirtualGroup.defaultParams .empty
      { Payment.State.empty Payment.defaultParams fun _ => 0 with
        versionedParams := threeTimes id ⟨100, 0⟩ ⟨200, 0⟩ ⟨300, 0⟩ })

/-- The lookups for 256 give what was set at 255. -/
theorem history_lookups_changed :
    changedHistory.getGlobalSpStorePriceByTime 256 = some (255, ⟨1, 1, 1⟩) ∧
      changedHistory.getVersionedParamsWithTs 256 =
        (changedState.getPaymentParamsWithTs 256).toOption ∧
      changedHistory.getVersionedParamsWithTS 256 =
        (changedState.getVersionedParamsWithTS 256).toOption ∧
      (changedHistory.getGlobalSpStorePriceByTime 256).map Prod.snd =
        (changedState.getGlobalSpStorePriceByTime 256).toOption ∧
      (changedHistory.getGlobalSpStorePriceByTime 256).map Prod.fst =
        (changedState.globalSpStorePrices.entryBefore 256).map Prod.fst := by
  have hencodes : changedHistory.Encodes changedState :=
    ⟨threeTimes_encodes versionedParamsKey_strictMonoOn _ _ _,
      threeTimes_encodes getParamsKeyWithTimestamp_strictMonoOn _ _ _,
      threeTimes_encodes globalSpStorePriceKey_strictMonoOn _ _ _⟩
  exact ⟨by decide, history_lookups hencodes ⟨by norm_num, by norm_num⟩⟩

/-- A price and parameters of both modules, set in the second of the sample start. -/
def laterUpdates : List (Ctx × Op) :=
  [(sampleCtx, .setGlobalSpStorePrice ⟨7, 7, 7⟩),
    (sampleCtx, .updateParams { defaultParams with
      versionedParams :=
        { redundantDataChunkNum := 1, redundantParityChunkNum := 1, minChargeSize := 9 } }),
    (sampleCtx, .payment (.updateParams { Payment.defaultParams with
      versionedParams := { reserveTime := 10 ^ 6, validatorTaxRate := 0 } }))]

/-- The new price is there, and the fee at the prices of that second is the old one. -/
theorem historical_prices_same_second :
    ∃ c', runSteps Chain.step (sampleStart 1) laterUpdates = some c' ∧
      c'.state.globalSpStorePrices.find? 1 = some ⟨7, 7, 7⟩ ∧
      c'.state.getObjectLockFee 1 5 = (sampleStart 1).state.getObjectLockFee 1 5 := by
  refine Option.exists_some_of (fun c' => c'.state.globalSpStorePrices.find? 1 = some ⟨7, 7, 7⟩)
    (by decide +kernel) fun c' hc' hprice => ?_
  have hreach : Reachable Chain.step (fun _ l => 1 ≤ l.1.blockTime ∧ l.1.blockTime < 2 ^ 63)
      (sampleStart 1) c' := by
    refine Reachable.of_runSteps .start ?_ hc'
    refine ⟨⟨le_rfl, by decide⟩, fun c₁ _ => ⟨⟨le_rfl, by decide⟩, fun c₂ _ => ?_⟩⟩
    exact ⟨⟨le_rfl, by decide⟩, fun _ _ => trivial⟩
  exact ⟨hprice, ((historical_prices_fixed (by norm_num)).1 _ _ _ _
    (sampleStart_starts (by norm_num)) .start sampleHistory_encodes hreach).2.2 5 |>.1⟩

end Moca.Storage
