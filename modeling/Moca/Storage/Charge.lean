/-
# Charges and virtual groups leave the names alone

Charging, locking, sealing into a local virtual group and rebinding write to `x/payment`, to
`x/virtualgroup` and to the records of a bucket.  None of them writes a price, a parameter, or a
store that buckets and objects are found in.
-/

import Moca.Storage.Effect

namespace Moca.Storage

open State

open Payment (OutFlow UserFlows)

variable {ctx : Ctx} {s s' : State} {b b' b₁ : BucketInfo} {ibi ibi' ibi₁ : InternalBucketInfo}
  {o o' : ObjectInfo} {bucketID gvgID lvgID : ℕ} {addr : Addr} {now timeToPay : ℤ}
  {flows : List OutFlow} {l : List UserFlows} {payloadSize : ℕ} {timestamp : ℤ} {c : Payment.Ctx}
  {mappings : List GVGMapping}

/-! ### Flows and locks -/

theorem applyUserFlowsList_eq_ok (h : s.applyUserFlowsList ctx l = .ok s') :
    ∃ p, p.versionedParams = s.payment.versionedParams ∧ s' = s.setPayment p := by
  obtain ⟨p, hp, h⟩ := bind_eq_ok.1 h
  cases h
  exact ⟨p, Payment.applyUserFlowsList_versions (ofPayment_eq_ok.1 hp), rfl⟩

theorem applyUserFlowsList_quiet (h : s.applyUserFlowsList ctx l = .ok s') : Quiet now s s' := by
  obtain ⟨p, hp, rfl⟩ := applyUserFlowsList_eq_ok h
  exact .of_eq hp rfl

theorem changeLockBalance_quiet {amount : ℤ} (h : s.changeLockBalance ctx addr amount = .ok s') :
    Quiet now s s' := by
  obtain ⟨p, hp, h⟩ := bind_eq_ok.1 h
  cases h
  have hframe := Payment.updateStreamRecordByAddrDepth_frame _ (ofPayment_eq_ok.1 hp)
  exact .of_eq hframe.versionedParams rfl

theorem lockObjectStoreFee_quiet
    (h : s.lockObjectStoreFee ctx bucketID b timestamp payloadSize = .ok s') : Quiet now s s' := by
  obtain ⟨⟨amount, rate⟩, -, h⟩ := bind_eq_ok.1 h
  obtain ⟨-, -, h⟩ := bind_eq_ok.1 h
  obtain ⟨s₁, hlock, h⟩ := bind_eq_ok.1 h
  dsimp only at h
  split_ifs at h
  cases h
  exact changeLockBalance_quiet hlock

theorem unlockStoreFee_quiet (h : s.unlockStoreFee ctx b timestamp payloadSize = .ok s') :
    Quiet now s s' := by
  obtain ⟨⟨amount, rate⟩, -, h⟩ := bind_eq_ok.1 h
  exact changeLockBalance_quiet h

/-! ### The read quota -/

theorem chargeBucketReadFee_eq_ok (h : s.chargeBucketReadFee ctx b ibi = .ok (s', ibi')) :
    ∃ p, p.versionedParams = s.payment.versionedParams ∧ s' = s.setPayment p := by
  unfold chargeBucketReadFee at h
  split_ifs at h
  · cases h
    exact ⟨s.payment, rfl, rfl⟩
  · obtain ⟨bill, -, h⟩ := bind_eq_ok.1 h
    obtain ⟨-, -, h⟩ := bind_eq_ok.1 h
    obtain ⟨s₁, hflows, h⟩ := bind_eq_ok.1 h
    cases h
    exact applyUserFlowsList_eq_ok hflows

theorem unChargeBucketReadFee_quiet (h : s.unChargeBucketReadFee ctx b ibi = .ok s') :
    Quiet now s s' := by
  unfold unChargeBucketReadFee at h
  split_ifs at h
  · cases h
    exact .refl now s
  · obtain ⟨bill, -, h⟩ := bind_eq_ok.1 h
    split_ifs at h
    · cases h
      exact .refl now s
    · exact applyUserFlowsList_quiet h

/-! ### The store fee -/

/-- `ChargeViaBucketChange` returns the new record of the bucket as it was given. -/
theorem chargeViaBucketChange_quiet
    (h : s.chargeViaBucketChange ctx b ibi b' ibi' = .ok (s', b₁, ibi₁)) :
    Quiet now s s' ∧ b₁ = b' := by
  obtain ⟨prevBill, -, h⟩ := bind_eq_ok.1 h
  obtain ⟨newBill, -, h⟩ := bind_eq_ok.1 h
  dsimp only at h
  split_ifs at h
  · obtain ⟨-, -, h⟩ := bind_eq_ok.1 h
    obtain ⟨s₁, hflows, h⟩ := bind_eq_ok.1 h
    cases h
    exact ⟨(applyUserFlowsList_quiet hflows).trans (.of_eq rfl rfl), rfl⟩
  · obtain ⟨-, -, h⟩ := bind_eq_ok.1 h
    obtain ⟨s₁, hflows, h⟩ := bind_eq_ok.1 h
    cases h
    exact ⟨applyUserFlowsList_quiet hflows, rfl⟩

theorem updateBucketInfoAndCharge_quiet {payer : Addr} {quota : ℕ}
    (h : s.updateBucketInfoAndCharge ctx b ibi payer quota = .ok (s', b₁, ibi₁)) :
    Quiet now s s' ∧ b₁.bucketName = b.bucketName := by
  unfold updateBucketInfoAndCharge at h
  split_ifs at h
  obtain ⟨hquiet, hb⟩ : Quiet now s s' ∧ _ := chargeViaBucketChange_quiet h
  rw [hb]
  exact ⟨hquiet, rfl⟩

theorem chargeViaObjectChange_quiet {chargeSize : ℕ} {delete : Bool}
    (h : s.chargeViaObjectChange ctx b ibi lvgID chargeSize delete = .ok (s', ibi', flows)) :
    Quiet now s s' := by
  obtain ⟨family, -, h⟩ := bind_eq_ok.1 h
  obtain ⟨price, -, h⟩ := bind_eq_ok.1 h
  dsimp only at h
  split at h
  · cases h
  · obtain ⟨gvg, -, h⟩ := bind_eq_ok.1 h
    obtain ⟨params, -, h⟩ := bind_eq_ok.1 h
    obtain ⟨apply, -, h⟩ := bind_eq_ok.1 h
    cases apply with
    | true =>
      obtain ⟨s₁, hflows, h⟩ := bind_eq_ok.1 h
      cases h
      exact applyUserFlowsList_quiet hflows
    | false =>
      cases h
      exact .refl now s

theorem chargeObjectStoreFee_quiet (h : s.chargeObjectStoreFee ctx b ibi o = .ok (s', ibi')) :
    Quiet now s s' := by
  obtain ⟨chargeSize, -, h⟩ := bind_eq_ok.1 h
  obtain ⟨priceChanged, -, h⟩ := bind_eq_ok.1 h
  split_ifs at h
  · obtain ⟨⟨s₁, b₁, ibi₁⟩, hcharge, h⟩ := bind_eq_ok.1 h
    cases h
    exact (chargeViaBucketChange_quiet hcharge).1
  · obtain ⟨⟨s₁, ibi₁, flows⟩, hcharge, h⟩ := bind_eq_ok.1 h
    cases h
    exact chargeViaObjectChange_quiet hcharge

theorem unlockAndChargeObjectStoreFee_quiet
    (h : s.unlockAndChargeObjectStoreFee ctx b ibi o = .ok (s', ibi')) : Quiet now s s' := by
  obtain ⟨s₁, hunlock, h⟩ := bind_eq_ok.1 h
  exact (unlockStoreFee_quiet hunlock).trans (chargeObjectStoreFee_quiet h)

/-! ### The fee for an early deletion -/

/-- The receivers that were paid before an error are counted. -/
theorem payReceivers_versions : ∀ {flows : List OutFlow} {p : Payment.State} {total : ℤ},
      (payReceivers c timeToPay flows p total).1.versionedParams = p.versionedParams
  | [], _, _ => rfl
  | f :: flows, p, total => by
    unfold payReceivers
    split
    · rfl
    · rename_i p₁ hpaid
      exact payReceivers_versions.trans
        (Payment.updateStreamRecordByAddrDepth_frame _ hpaid).versionedParams

theorem chargeObjectStoreFeeForEarlyDeletion_versions {p : Payment.State} :
    (chargeObjectStoreFeeForEarlyDeletion c p flows addr timeToPay).1.versionedParams =
      p.versionedParams := by
  have hreceivers : (payReceivers c timeToPay flows p 0).1.versionedParams = p.versionedParams :=
    payReceivers_versions
  unfold chargeObjectStoreFeeForEarlyDeletion
  split
  · rename_i p₁ e hpay
    rw [hpay] at hreceivers
    exact hreceivers
  · rename_i p₁ total hpay
    rw [hpay] at hreceivers
    split
    · exact hreceivers
    · rename_i p₂ hpaid
      exact (Payment.updateStreamRecordByAddrDepth_frame _ hpaid).versionedParams.trans hreceivers

theorem payEarlyDeletion_quiet (h : s.payEarlyDeletion ctx flows addr timeToPay = .ok s') :
    Quiet now s s' := by
  have hversions : (chargeObjectStoreFeeForEarlyDeletion ctx.payment s.payment flows addr
      timeToPay).1.versionedParams = s.payment.versionedParams :=
    chargeObjectStoreFeeForEarlyDeletion_versions
  unfold payEarlyDeletion at h
  split at h
  · split at h
    · rename_i p hcharge
      cases h
      rw [hcharge] at hversions
      exact .of_eq hversions rfl
    · cases h
    · rename_i p e _ hcharge
      split_ifs at h
      cases h
      rw [hcharge] at hversions
      exact .of_eq hversions rfl
  · cases h
    exact .refl now s

theorem unChargeObjectStoreFee_quiet (h : s.unChargeObjectStoreFee ctx b ibi o = .ok (s', ibi')) :
    Quiet now s s' := by
  obtain ⟨chargeSize, -, h⟩ := bind_eq_ok.1 h
  obtain ⟨⟨s₁, ibi₁, flows⟩, hcharge, h⟩ := bind_eq_ok.1 h
  obtain ⟨params, -, h⟩ := bind_eq_ok.1 h
  obtain ⟨s₂, hpay, h⟩ := bind_eq_ok.1 h
  cases h
  exact (chargeViaObjectChange_quiet hcharge).trans (payEarlyDeletion_quiet hpay)

/-! ### Whole buckets -/

theorem unChargeBucketBill_quiet (h : s.unChargeBucketBill ctx b ibi = .ok s') :
    Quiet now s s' := by
  obtain ⟨bill, -, h⟩ := bind_eq_ok.1 h
  exact applyUserFlowsList_quiet h

theorem unChargeBucketReadStoreFee_quiet (h : s.unChargeBucketReadStoreFee ctx b ibi = .ok s') :
    Quiet now s s' := by
  unfold unChargeBucketReadStoreFee at h
  split_ifs at h
  · cases h
    exact .refl now s
  · exact unChargeBucketBill_quiet h

theorem chargeBucketReadStoreFee_quiet
    (h : s.chargeBucketReadStoreFee ctx b ibi = .ok (s', ibi')) : Quiet now s s' := by
  obtain ⟨bill, -, h⟩ := bind_eq_ok.1 h
  split_ifs at h
  obtain ⟨-, -, h⟩ := bind_eq_ok.1 h
  obtain ⟨s₁, hflows, h⟩ := bind_eq_ok.1 h
  cases h
  exact applyUserFlowsList_quiet hflows

theorem resumeBucketBill_quiet (h : s.resumeBucketBill ctx bucketID b ibi = .ok s') :
    Quiet now s s' := by
  obtain ⟨bill, -, h⟩ := bind_eq_ok.1 h
  obtain ⟨s₁, hflows, h⟩ := bind_eq_ok.1 h
  cases h
  exact (applyUserFlowsList_quiet hflows).trans (.of_eq rfl rfl)

theorem setFlowRateLimit_quiet {rateLimit : ℤ}
    (h : s.setFlowRateLimit ctx bucketID b rateLimit = .ok s') : Quiet now s s' := by
  unfold setFlowRateLimit at h
  dsimp only at h
  split at h
  · cases h
    exact .refl now s
  · obtain ⟨ibi, -, h⟩ := bind_eq_ok.1 h
    split at h
    · obtain ⟨bill, -, h⟩ := bind_eq_ok.1 h
      split_ifs at h
      · obtain ⟨s₁, hresume, h⟩ := bind_eq_ok.1 h
        cases h
        exact (resumeBucketBill_quiet hresume).trans (.of_eq rfl rfl)
      · cases h
        exact .refl now s
    · obtain ⟨bill, -, h⟩ := bind_eq_ok.1 h
      split_ifs at h
      · obtain ⟨ibi₁, -, h⟩ := bind_eq_ok.1 h
        have hlimited : Quiet now s (s.setBucketFlowRateLimitStatus b.bucketName) := .of_eq rfl rfl
        exact hlimited.trans (unChargeBucketBill_quiet h)
      · cases h
        exact .refl now s

/-! ### Virtual groups -/

/-- An object is sealed under its own names. -/
theorem sealObjectOnVirtualGroup_quiet
    (h : s.sealObjectOnVirtualGroup ctx bucketID b gvgID o = .ok (s', o')) :
    Quiet now s s' ∧ o'.key = o.key := by
  obtain ⟨gvg, -, h⟩ := bind_eq_ok.1 h
  obtain ⟨ibi, -, h⟩ := bind_eq_ok.1 h
  obtain ⟨⟨lvgID, lvg⟩, -, h⟩ := bind_eq_ok.1 h
  dsimp only at h
  split_ifs at h
  · obtain ⟨⟨s₁, ibi₁⟩, hcharge, h⟩ := bind_eq_ok.1 h
    cases h
    exact ⟨(chargeObjectStoreFee_quiet hcharge).trans (.of_eq rfl rfl), rfl⟩
  · obtain ⟨⟨s₁, ibi₁⟩, hcharge, h⟩ := bind_eq_ok.1 h
    cases h
    exact ⟨(unlockAndChargeObjectStoreFee_quiet hcharge).trans (.of_eq rfl rfl), rfl⟩

theorem sealEmptyObjectOnVirtualGroup_quiet
    (h : s.sealEmptyObjectOnVirtualGroup ctx bucketID b o = .ok (s', o')) :
    Quiet now s s' ∧ o'.key = o.key := by
  unfold sealEmptyObjectOnVirtualGroup at h
  split at h
  · cases h
  · split at h
    · cases h
    · exact sealObjectOnVirtualGroup_quiet h

theorem deleteObjectFromVirtualGroup_quiet
    (h : s.deleteObjectFromVirtualGroup bucketID o = .ok s') : Quiet now s s' := by
  obtain ⟨ibi, -, h⟩ := bind_eq_ok.1 h
  obtain ⟨lvg, -, h⟩ := bind_eq_ok.1 h
  split at h
  · cases h
  · obtain ⟨ibi₁, -, h⟩ := bind_eq_ok.1 h
    cases h
    exact .of_eq rfl rfl

theorem rebindLVG_quiet {acc acc' : State × InternalBucketInfo} {e : ℕ × LocalVirtualGroup}
    (h : rebindLVG ctx mappings acc e = .ok acc') : Quiet now acc.1 acc'.1 := by
  unfold rebindLVG at h
  split at h
  · cases h
  · split at h
    · cases h
    · split at h
      · cases h
      · rename_i src hsrc
        obtain ⟨vg, hvg, h⟩ := bind_eq_ok.1 h
        cases h
        have hmove := VirtualGroup.settleAndDistributeGVG_move (ofVirtualGroup_eq_ok.1 hvg)
          fun hf => hf.group _ _ hsrc
        exact .of_eq hmove.versions rfl

theorem rebindingVirtualGroup_quiet
    (h : s.rebindingVirtualGroup ctx bucketID b ibi mappings = .ok s') : Quiet now s s' := by
  obtain ⟨⟨s₁, ibi₁⟩, hrebind, h⟩ := bind_eq_ok.1 h
  obtain ⟨⟨s₂, ibi₂⟩, hcharge, h⟩ := bind_eq_ok.1 h
  cases h
  have hloop : Quiet now s s₁ := foldlM_invariant (fun acc => Quiet now s acc.1)
    (fun _ _ _ _ hI hround => hI.trans (rebindLVG_quiet hround)) (.refl now s) hrebind
  exact (hloop.trans (chargeBucketReadStoreFee_quiet hcharge)).trans (.of_eq rfl rfl)

end Moca.Storage
