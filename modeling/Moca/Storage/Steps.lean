/-
# What messages and blocks write to the names

Every message on a bucket or an object, and the forced deletions of the end blocker, is a sequence
of quiet writes and of steps on the names (`Writes`), one lemma for each function of the code.

`CopyObject` and the deletions take the bucket name from the record of the bucket and not from the
message.  Both are the same because a name key leads to a bucket of that name, which is why these
lemmas ask for `Names.Ok`.
-/

import Moca.Storage.Charge

namespace Moca.Storage

open SortedMap State

variable {ctx : Ctx} {s s' : State} {b b' : BucketInfo} {o o' : ObjectInfo} {bucketID id : ℕ}
  {bucketName objectName : Name} {operator : Addr} {unused : Prop} {now : ℤ} {key : ObjectKey}
  {approval : Approval} {sp : Sp.StorageProvider} {delegator paymentAddress : Option Addr}
  {owner primarySpAcc : Addr} {quota : Option ℕ} {cap max checksums payloadSize : ℕ}
  {st : ObjectStatus}

/-! ### Lookups -/

theorem getBucketInfo_eq_some (h : s.getBucketInfo bucketName = some (id, b)) :
    s.bucketIds.find? bucketName = some id ∧ s.buckets.find? id = some b := by
  obtain ⟨id₁, hid, h⟩ := Option.bind_eq_some_iff.1 h
  obtain ⟨b₁, hb, h⟩ := Option.map_eq_some_iff.1 h
  cases h
  exact ⟨hid, hb⟩

theorem findBucket_eq_ok {e : ℕ × BucketInfo} (h : s.findBucket bucketName = .ok e) :
    s.getBucketInfo bucketName = some e := by
  unfold State.findBucket at h
  split at h
  · cases h
  · rename_i e' he
    rw [he, Except.ok.inj h]

theorem Names.Ok.findBucket (hs : s.names.Ok) (h : s.findBucket bucketName = .ok (id, b)) :
    s.buckets.find? id = some b ∧ b.bucketName = bucketName := by
  obtain ⟨hid, hb⟩ := getBucketInfo_eq_some (findBucket_eq_ok h)
  exact ⟨hb, hs.buckets bucketName id b hid hb⟩

theorem buckets_of_findBucket (h : s.findBucket bucketName = .ok (id, b)) :
    s.buckets.find? id = some b :=
  (getBucketInfo_eq_some (findBucket_eq_ok h)).2

theorem Names.Ok.findObject (hs : s.names.Ok) (h : s.findObject bucketName objectName = .ok (id, o)) :
    s.objects.find? id = some o ∧ o.key = ⟨bucketName, objectName⟩ := by
  unfold State.findObject at h
  split at h
  · cases h
  · rename_i e he
    cases h
    obtain ⟨id₁, hid, he⟩ := Option.bind_eq_some_iff.1 he
    obtain ⟨o₁, ho, he⟩ := Option.map_eq_some_iff.1 he
    cases he
    obtain ⟨o₂, ho₂, hkey⟩ := hs.objects _ _ hid
    cases ho.symm.trans ho₂
    exact ⟨ho, hkey⟩

/-! ### Single writes -/

theorem setBucketInfo_writes (hb : s.buckets.find? id = some b)
    (hname : b'.bucketName = b.bucketName) : Writes unused now s (s.setBucketInfo id b') :=
  NameStep.writes (.editBucket hb hname) rfl

theorem storeObject_writes (hkey : o.key = key) (hunused : unused → s.objectIds.find? key = none) :
    Writes unused now s (s.storeObject key o) := by
  subst hkey
  exact NameStep.writes (.storeObject hunused) rfl

theorem setObjectInfo_writes (ho : s.objects.find? id = some o) (hkey : o'.key = o.key) :
    Writes unused now s (s.setObjectInfo id o') :=
  NameStep.writes (.editObject ho hkey) rfl

theorem removeObject_writes (ho : s.objects.find? id = some o)
    (hkey : o.key = ⟨bucketName, objectName⟩) :
    Writes unused now s (s.removeObject id bucketName objectName) := by
  have hstep : NameStep unused s.names (s.removeObject id bucketName objectName).names := by
    show NameStep unused s.names { s.names with
      objectIds := s.objectIds.erase ⟨bucketName, objectName⟩
      objects := s.objects.erase id }
    rw [← hkey]
    exact .removeObject ho
  exact hstep.writes rfl

theorem mintObject_quiet (h : s.mintObject ctx id = .ok s') : Quiet now s s' := by
  obtain ⟨-, -, h⟩ := bind_eq_ok.1 h
  split_ifs at h
  cases h
  exact .of_eq rfl rfl

theorem burnObject_quiet (h : s.burnObject ctx id = .ok s') : Quiet now s s' := by
  obtain ⟨-, -, h⟩ := bind_eq_ok.1 h
  split_ifs at h
  cases h
  exact .of_eq rfl rfl

/-! ### Buckets -/

theorem verifyApproval_eq_ok {u : Unit} (h : verifyApproval ctx sp approval operator = .ok u) :
    approval.verified = true := by
  obtain ⟨-, h⟩ := ite_error_eq_ok.1 h
  obtain ⟨-, -, h⟩ := bind_eq_ok.1 h
  split_ifs at h with hverified
  exact hverified

/-- **`CreateBucket`** puts the bucket into the family that the approval names; what it asks of the
provider is the signature. -/
theorem createBucket_eq_ok {quota : ℕ}
    (h : createBucket ctx s owner bucketName primarySpAcc paymentAddress quota approval = .ok s') :
    ∃ sp family b ibi p, s.virtualGroup.sp.getStorageProviderByOperatorAddr primarySpAcc = some sp ∧
      approval.verified = true ∧
      b.globalVirtualGroupFamilyId = approval.globalVirtualGroupFamilyId ∧
      s.virtualGroup.families.find? b.globalVirtualGroupFamilyId = some family ∧
      p.versionedParams = s.payment.versionedParams ∧
      s' = (s.setPayment p).storeBucket b ibi := by
  obtain ⟨-, h⟩ := ite_error_eq_ok.1 h
  obtain ⟨-, h⟩ := ite_error_eq_ok.1 h
  split at h
  · cases h
  · rename_i sp hsp
    obtain ⟨-, h⟩ := ite_error_eq_ok.1 h
    obtain ⟨_, happroval, h⟩ := bind_eq_ok.1 h
    obtain ⟨family, hfamily, h⟩ := bind_eq_ok.1 h
    obtain ⟨⟨s₁, ibi⟩, hcharge, h⟩ := bind_eq_ok.1 h
    obtain ⟨_, -, h⟩ := bind_eq_ok.1 h
    cases h
    obtain ⟨p, hversions, rfl⟩ := chargeBucketReadFee_eq_ok hcharge
    unfold getAndCheckGVGFamilyAvailableForNewBucket at hfamily
    split at hfamily
    · cases hfamily
    · rename_i family' hfind
      exact ⟨sp, family', _, ibi, p, hsp, verifyApproval_eq_ok happroval, rfl, hfind, hversions, rfl⟩

theorem createBucket_writes {quota : ℕ}
    (h : createBucket ctx s owner bucketName primarySpAcc paymentAddress quota approval = .ok s') :
    Writes unused now s s' := by
  obtain ⟨_, _, b, ibi, p, -, -, -, -, hversions, rfl⟩ := createBucket_eq_ok h
  have hcharged : Quiet now s (s.setPayment p) := .of_eq hversions rfl
  exact hcharged.writes.trans (NameStep.writes (.storeBucket b) rfl)

theorem doDeleteBucket_writes (h : s.doDeleteBucket ctx bucketID b = .ok s') :
    Writes unused now s s' := by
  obtain ⟨-, -, h⟩ := bind_eq_ok.1 h
  cases h
  exact NameStep.writes (.removeBucket bucketID b.bucketName) rfl

theorem deleteBucket_writes (h : deleteBucket ctx s bucketName = .ok s') :
    Writes unused now s s' := by
  obtain ⟨⟨bucketID, b⟩, -, h⟩ := bind_eq_ok.1 h
  obtain ⟨-, -, h⟩ := bind_eq_ok.1 h
  split_ifs at h
  obtain ⟨ibi, -, h⟩ := bind_eq_ok.1 h
  split_ifs at h
  obtain ⟨s₁, hcharge, h⟩ := bind_eq_ok.1 h
  exact (unChargeBucketReadFee_quiet hcharge).writes.trans (doDeleteBucket_writes h)

theorem updateQuota_quiet {q : ℕ} (h : s.updateQuota ctx bucketID b quota = .ok (s', q)) :
    Quiet now s s' := by
  unfold updateQuota at h
  split at h
  · cases h
    exact .refl now s
  · split_ifs at h
    · cases h
      exact .refl now s
    · cases h
      exact .of_eq rfl rfl

theorem updateBucketInfo_writes
    (h : updateBucketInfo ctx s bucketName quota paymentAddress = .ok s') :
    Writes unused now s s' := by
  obtain ⟨⟨bucketID, b⟩, hfind, h⟩ := bind_eq_ok.1 h
  obtain ⟨sp, -, h⟩ := bind_eq_ok.1 h
  dsimp only at h
  split_ifs at h
  obtain ⟨-, -, h⟩ := bind_eq_ok.1 h
  obtain ⟨⟨s₁, q⟩, hquota, h⟩ := bind_eq_ok.1 h
  obtain ⟨payer, -, h⟩ := bind_eq_ok.1 h
  obtain ⟨ibi, -, h⟩ := bind_eq_ok.1 h
  obtain ⟨⟨s₂, b₁, ibi₁⟩, hcharge, h⟩ := bind_eq_ok.1 h
  cases h
  obtain ⟨hcharged, hname⟩ : Quiet now s₁ s₂ ∧ _ := updateBucketInfoAndCharge_quiet hcharge
  have hquiet : Quiet now s s₂ := (updateQuota_quiet hquota).trans hcharged
  have hb := hquiet.find_bucket (buckets_of_findBucket hfind)
  exact hquiet.writes.trans (NameStep.writes (.editBucket hb hname) rfl)

theorem toggleSPAsDelegatedAgent_writes
    (h : toggleSPAsDelegatedAgent s operator bucketName = .ok s') : Writes unused now s s' := by
  obtain ⟨⟨bucketID, b⟩, hfind, h⟩ := bind_eq_ok.1 h
  dsimp only at h
  split_ifs at h
  cases h
  exact setBucketInfo_writes (buckets_of_findBucket hfind) rfl

theorem discontinueBucket_writes (h : discontinueBucket ctx s operator bucketName = .ok s') :
    Writes unused now s s' := by
  obtain ⟨sp, -, h⟩ := bind_eq_ok.1 h
  obtain ⟨⟨bucketID, b⟩, hfind, h⟩ := bind_eq_ok.1 h
  obtain ⟨-, h⟩ := ite_error_eq_ok.1 h
  obtain ⟨spInState, -, h⟩ := bind_eq_ok.1 h
  obtain ⟨-, h⟩ := ite_error_eq_ok.1 h
  obtain ⟨-, h⟩ := ite_error_eq_ok.1 h
  cases h
  exact NameStep.writes (.editBucket (buckets_of_findBucket hfind) rfl) rfl

theorem migrateBucket_writes {dstSpID : ℕ}
    (h : migrateBucket ctx s operator bucketName dstSpID approval = .ok s') :
    Writes unused now s s' := by
  obtain ⟨⟨bucketID, b⟩, hfind, h⟩ := bind_eq_ok.1 h
  obtain ⟨-, h⟩ := ite_error_eq_ok.1 h
  obtain ⟨-, h⟩ := ite_error_eq_ok.1 h
  obtain ⟨srcSP, -, h⟩ := bind_eq_ok.1 h
  split at h
  · cases h
  · obtain ⟨-, h⟩ := ite_error_eq_ok.1 h
    obtain ⟨-, h⟩ := ite_error_eq_ok.1 h
    obtain ⟨-, -, h⟩ := bind_eq_ok.1 h
    obtain ⟨-, -, h⟩ := bind_eq_ok.1 h
    obtain ⟨-, h⟩ := ite_error_eq_ok.1 h
    obtain ⟨-, h⟩ := ite_error_eq_ok.1 h
    cases h
    exact NameStep.writes (.editBucket (buckets_of_findBucket hfind) rfl) rfl

theorem stopMigration_writes (hb : s.buckets.find? id = some b)
    (hname : b'.bucketName = b.bucketName) : Writes unused now s (s.stopMigration id b') :=
  NameStep.writes (.editBucket hb hname) rfl

theorem cancelBucketMigration_writes (h : cancelBucketMigration s operator bucketName = .ok s') :
    Writes unused now s s' := by
  obtain ⟨⟨bucketID, b⟩, hfind, h⟩ := bind_eq_ok.1 h
  dsimp only at h
  split_ifs at h
  cases h
  exact stopMigration_writes (buckets_of_findBucket hfind) rfl

theorem rejectBucketMigration_writes (h : rejectBucketMigration s operator bucketName = .ok s') :
    Writes unused now s s' := by
  obtain ⟨⟨bucketID, b⟩, hfind, h⟩ := bind_eq_ok.1 h
  dsimp only at h
  split_ifs at h
  split at h
  · cases h
  · obtain ⟨sp, -, h⟩ := bind_eq_ok.1 h
    split_ifs at h
    cases h
    exact stopMigration_writes (buckets_of_findBucket hfind) rfl

theorem mustGetPrimarySPForBucket_eq_ok (h : s.mustGetPrimarySPForBucket b = .ok sp) :
    ∃ id, s.virtualGroup.sp.getStorageProvider id = some sp := by
  unfold mustGetPrimarySPForBucket mustGetStorageProvider at h
  split at h
  · cases h
  · split at h
    · cases h
    · rename_i sp' hsp
      exact ⟨_, Except.ok.inj h ▸ hsp⟩

theorem findFamily_eq_ok {family : VirtualGroup.GlobalVirtualGroupFamily}
    (h : s.findFamily id = .ok family) : s.virtualGroup.families.find? id = some family := by
  unfold findFamily at h
  split at h
  · cases h
  · rename_i family' hfind
    rw [hfind, Except.ok.inj h]

theorem completeMigrateBucket_writes {gvgFamilyID : ℕ} {mappings : List GVGMapping}
    (h : completeMigrateBucket ctx s operator bucketName gvgFamilyID mappings = .ok s') :
    Writes unused now s s' := by
  obtain ⟨⟨bucketID, b⟩, hfind, h⟩ := bind_eq_ok.1 h
  obtain ⟨-, -, h⟩ := bind_eq_ok.1 h
  obtain ⟨-, -, h⟩ := bind_eq_ok.1 h
  obtain ⟨srcFamily, hfamily, h⟩ := bind_eq_ok.1 h
  obtain ⟨-, -, h⟩ := bind_eq_ok.1 h
  obtain ⟨sp, hsp, h⟩ := bind_eq_ok.1 h
  obtain ⟨vg, hvg, h⟩ := bind_eq_ok.1 h
  obtain ⟨ibi, -, h⟩ := bind_eq_ok.1 h
  obtain ⟨s₁, huncharge, h⟩ := bind_eq_ok.1 h
  obtain ⟨-, -, h⟩ := bind_eq_ok.1 h
  obtain ⟨s₂, hrebind, h⟩ := bind_eq_ok.1 h
  cases h
  obtain ⟨spID, hsp⟩ := mustGetPrimarySPForBucket_eq_ok hsp
  have hsettle := VirtualGroup.settleAndDistributeGVGFamily_move (ofVirtualGroup_eq_ok.1 hvg)
    fun hf => ⟨hf.funding spID sp hsp, hf.family _ _ (findFamily_eq_ok hfamily)⟩
  have hsettled : Quiet now s { s with virtualGroup := vg } := .of_eq hsettle.versions rfl
  have hquiet : Quiet now s s₂ := (hsettled.trans (unChargeBucketReadStoreFee_quiet huncharge)).trans
    (rebindingVirtualGroup_quiet hrebind)
  have hb := hquiet.find_bucket (buckets_of_findBucket hfind)
  exact hquiet.writes.trans (stopMigration_writes hb rfl)

theorem setBucketFlowRateLimit_writes {bucketOwner paymentAccount : Addr} {rateLimit : ℤ}
    (h : setBucketFlowRateLimit ctx s operator bucketOwner paymentAccount bucketName rateLimit =
      .ok s') : Writes unused now s s' := by
  obtain ⟨-, h⟩ := ite_error_eq_ok.1 h
  obtain ⟨-, h⟩ := ite_error_eq_ok.1 h
  dsimp only at h
  split at h
  · cases h
    exact .of_eq rfl rfl
  · split at h
    · cases h
      exact .of_eq rfl rfl
    · obtain ⟨s₁, hlimit, h⟩ := bind_eq_ok.1 h
      cases h
      exact (setFlowRateLimit_quiet hlimit).writes.trans (.of_eq rfl rfl)

/-! ### New objects -/

theorem addObject_writes (hkey : o.key = key) (hunused : unused → s.objectIds.find? key = none)
    (h : s.addObject ctx bucketID b key o = .ok s') : Writes unused now s s' := by
  unfold addObject at h
  split at h
  · obtain ⟨⟨s₁, o₁⟩, hseal, h⟩ := bind_eq_ok.1 h
    cases h
    obtain ⟨hquiet, hkey₁⟩ : Quiet now s s₁ ∧ _ := sealEmptyObjectOnVirtualGroup_quiet hseal
    exact hquiet.writes.trans
      (storeObject_writes (hkey₁.trans hkey) fun hu => hquiet.objectIds ▸ hunused hu)
  · obtain ⟨s₁, hlock, h⟩ := bind_eq_ok.1 h
    cases h
    have hquiet : Quiet now s (s₁.increaseLockedObjectCount bucketID) :=
      (lockObjectStoreFee_quiet hlock).trans (.of_eq rfl rfl)
    exact hquiet.writes.trans (storeObject_writes hkey fun hu => hquiet.objectIds ▸ hunused hu)

/-- `CreateObject` looks at the name itself. -/
theorem createObject_writes
    (h : createObject ctx s operator bucketName objectName payloadSize checksums delegator =
      .ok s') :
    Writes unused now s s' := by
  obtain ⟨-, h⟩ := ite_error_eq_ok.1 h
  obtain ⟨⟨bucketID, b⟩, -, h⟩ := bind_eq_ok.1 h
  obtain ⟨-, -, h⟩ := bind_eq_ok.1 h
  obtain ⟨sp, -, h⟩ := bind_eq_ok.1 h
  obtain ⟨-, -, h⟩ := bind_eq_ok.1 h
  obtain ⟨-, -, h⟩ := bind_eq_ok.1 h
  obtain ⟨-, -, h⟩ := bind_eq_ok.1 h
  obtain ⟨hfree, h⟩ := ite_error_eq_ok.1 h
  have hfree : s.objectIds.find? ⟨bucketName, objectName⟩ = none := by
    simpa [SortedMap.contains] using hfree
  refine addObject_writes ?_ (fun _ => hfree) h
  rfl

/-- **`CopyObject` does not look at the destination name**, so that it is unused is asked for. -/
theorem copyObject_writes (hs : s.names.Ok) {dstBucketName dstObjectName : Name}
    (hunused : unused → s.objectIds.find? ⟨dstBucketName, dstObjectName⟩ = none)
    (h : copyObject ctx s operator bucketName objectName dstBucketName dstObjectName approval =
      .ok s') :
    Writes unused now s s' := by
  obtain ⟨-, -, h⟩ := bind_eq_ok.1 h
  obtain ⟨⟨dstID, dst⟩, hdst, h⟩ := bind_eq_ok.1 h
  obtain ⟨sp, -, h⟩ := bind_eq_ok.1 h
  obtain ⟨-, -, h⟩ := bind_eq_ok.1 h
  obtain ⟨⟨srcID, src⟩, -, h⟩ := bind_eq_ok.1 h
  obtain ⟨-, h⟩ := ite_error_eq_ok.1 h
  obtain ⟨-, -, h⟩ := bind_eq_ok.1 h
  obtain ⟨-, -, h⟩ := bind_eq_ok.1 h
  refine addObject_writes ?_ hunused h
  rw [← (hs.findBucket hdst).2]
  rfl

/-! ### Seal -/

theorem unChargeStored_quiet (h : s.unChargeStored ctx bucketID b o = .ok s') :
    Quiet now s s' := by
  obtain ⟨ibi, -, h⟩ := bind_eq_ok.1 h
  obtain ⟨⟨s₁, ibi₁⟩, huncharge, h⟩ := bind_eq_ok.1 h
  cases h
  exact (unChargeObjectStoreFee_quiet huncharge).trans (.of_eq rfl rfl)

/-- New content comes under the old names. -/
theorem takeOverShadow_quiet
    (h : s.takeOverShadow ctx bucketID b bucketName objectName o checksums = .ok (s', o')) :
    Quiet now s s' ∧ o'.key = o.key := by
  obtain ⟨s₁, huncharge, h⟩ := bind_eq_ok.1 h
  obtain ⟨s₂, hdelete, h⟩ := bind_eq_ok.1 h
  obtain ⟨sh, -, h⟩ := bind_eq_ok.1 h
  obtain ⟨-, h⟩ := ite_error_eq_ok.1 h
  cases h
  have hquiet : Quiet now s s₂ :=
    (unChargeStored_quiet huncharge).trans (deleteObjectFromVirtualGroup_quiet hdelete)
  exact ⟨hquiet.trans (.of_eq rfl rfl), rfl⟩

theorem sealObject_writes (hs : s.names.Ok) {gvgID : ℕ}
    (h : sealObject ctx s operator bucketName objectName gvgID checksums = .ok s') :
    Writes unused now s s' := by
  obtain ⟨⟨bucketID, b⟩, -, h⟩ := bind_eq_ok.1 h
  obtain ⟨sp, -, h⟩ := bind_eq_ok.1 h
  obtain ⟨spInState, -, h⟩ := bind_eq_ok.1 h
  obtain ⟨-, h⟩ := ite_error_eq_ok.1 h
  obtain ⟨⟨id, o⟩, hfind, h⟩ := bind_eq_ok.1 h
  obtain ⟨-, h⟩ := ite_error_eq_ok.1 h
  have hseal : ∀ {s₁ : State} {o₁ : ObjectInfo}, Quiet now s s₁ → o₁.key = o.key →
      (do
        s₁.checkSealGVG ctx b spInState.id gvgID o₁
        let r ← s₁.sealObjectOnVirtualGroup ctx bucketID b gvgID o₁
        ((r.1.decreaseLockedObjectCount bucketID).setObjectInfo id
          { r.2 with objectStatus := .sealed }).mintObject ctx id) = .ok s' →
      Writes unused now s s' := by
    intro s₁ o₁ hquiet hkey h
    obtain ⟨-, -, h⟩ := bind_eq_ok.1 h
    obtain ⟨⟨s₂, o₂⟩, hsealed, h⟩ := bind_eq_ok.1 h
    obtain ⟨hquiet₂, hkey₂⟩ : Quiet now s₁ s₂ ∧ _ := sealObjectOnVirtualGroup_quiet hsealed
    have hbefore : Quiet now s (s₂.decreaseLockedObjectCount bucketID) :=
      (hquiet.trans hquiet₂).trans (.of_eq rfl rfl)
    have ho := hbefore.find_object (hs.findObject hfind).1
    refine (hbefore.writes.trans (setObjectInfo_writes ho ?_)).trans (mintObject_quiet h).writes
    exact hkey₂.trans hkey
  dsimp only at h
  split at h
  · obtain ⟨⟨s₁, o₁⟩, hshadow, h⟩ := bind_eq_ok.1 h
    obtain ⟨hquiet, hkey⟩ : Quiet now s s₁ ∧ _ := takeOverShadow_quiet hshadow
    exact hseal hquiet hkey h
  · split at h
    · cases h
    · refine hseal (.refl now s) ?_ h
      rfl

/-! ### Delete -/

theorem cancelCreateObject_writes (hs : s.names.Ok)
    (h : cancelCreateObject ctx s operator bucketName objectName = .ok s') :
    Writes unused now s s' := by
  obtain ⟨⟨bucketID, b⟩, -, h⟩ := bind_eq_ok.1 h
  obtain ⟨⟨id, o⟩, hfind, h⟩ := bind_eq_ok.1 h
  obtain ⟨sp, -, h⟩ := bind_eq_ok.1 h
  obtain ⟨-, h⟩ := ite_error_eq_ok.1 h
  obtain ⟨-, h⟩ := ite_error_eq_ok.1 h
  obtain ⟨s₁, hunlock, h⟩ := bind_eq_ok.1 h
  cases h
  obtain ⟨ho, hkey⟩ := hs.findObject hfind
  have hquiet : Quiet now s (s₁.decreaseLockedObjectCount bucketID) :=
    (unlockStoreFee_quiet hunlock).trans (.of_eq rfl rfl)
  exact hquiet.writes.trans (removeObject_writes (hquiet.find_object ho) hkey)

theorem dropShadow_quiet (h : s.dropShadow ctx bucketID b bucketName objectName = .ok s') :
    Quiet now s s' := by
  obtain ⟨sh, -, h⟩ := bind_eq_ok.1 h
  obtain ⟨s₁, hunlock, h⟩ := bind_eq_ok.1 h
  cases h
  exact (unlockStoreFee_quiet hunlock).trans (.of_eq rfl rfl)

/-- After the removal of the name and the object the rest is quiet. -/
theorem doDeleteObject_writes (ho : s.objects.find? id = some o)
    (hname : o.bucketName = b.bucketName) (h : s.doDeleteObject ctx bucketID b id o st = .ok s') :
    Writes unused now s s' ∧ s'.objects = s.objects.erase id := by
  have hremove : Writes unused now s (s.removeObject id b.bucketName o.objectName) :=
    removeObject_writes ho (by rw [← hname]; rfl)
  have hburn : ∀ {s₁ : State}, Quiet now (s.removeObject id b.bucketName o.objectName) s₁ →
      (if st = .sealed ∧ 0 < o.payloadSize then s₁.burnObject ctx id else return s₁) = .ok s' →
      Quiet now (s.removeObject id b.bucketName o.objectName) s' := by
    intro s₁ hquiet h
    split_ifs at h
    · exact hquiet.trans (burnObject_quiet h)
    · cases h
      exact hquiet
  have hrest : Quiet now (s.removeObject id b.bucketName o.objectName) s' := by
    unfold doDeleteObject at h
    dsimp only at h
    split at h
    · obtain ⟨s₁, hdelete, h⟩ := bind_eq_ok.1 h
      exact hburn (deleteObjectFromVirtualGroup_quiet hdelete) h
    · exact hburn (.refl now _) h
  exact ⟨hremove.trans hrest.writes, hrest.objects⟩

theorem deleteObject_writes (hs : s.names.Ok)
    (h : deleteObject ctx s operator bucketName objectName = .ok s') : Writes unused now s s' := by
  obtain ⟨⟨bucketID, b⟩, hfindBucket, h⟩ := bind_eq_ok.1 h
  obtain ⟨⟨id, o⟩, hfind, h⟩ := bind_eq_ok.1 h
  obtain ⟨-, h⟩ := ite_error_eq_ok.1 h
  obtain ⟨ho, hkey⟩ := hs.findObject hfind
  have hname : o.bucketName = b.bucketName :=
    (congrArg ObjectKey.bucketName hkey).trans (hs.findBucket hfindBucket).2.symm
  have hdelete : ∀ {s₁ : State}, Quiet now s s₁ → (do
      let s₂ ← s₁.unChargeStored ctx bucketID b o
      s₂.doDeleteObject ctx bucketID b id o o.objectStatus) = .ok s' → Writes unused now s s' := by
    intro s₁ hquiet h
    obtain ⟨s₂, huncharge, h⟩ := bind_eq_ok.1 h
    have hquiet₂ : Quiet now s s₂ := hquiet.trans (unChargeStored_quiet huncharge)
    exact hquiet₂.writes.trans (doDeleteObject_writes (hquiet₂.find_object ho) hname h).1
  dsimp only at h
  split at h
  · exact cancelCreateObject_writes hs h
  · obtain ⟨-, -, h⟩ := bind_eq_ok.1 h
    split at h
    · obtain ⟨s₁, hshadow, h⟩ := bind_eq_ok.1 h
      exact hdelete (dropShadow_quiet hshadow) h
    · exact hdelete (.refl now s) h

theorem rejectSealObject_writes (hs : s.names.Ok)
    (h : rejectSealObject ctx s operator bucketName objectName = .ok s') :
    Writes unused now s s' := by
  obtain ⟨⟨bucketID, b⟩, -, h⟩ := bind_eq_ok.1 h
  obtain ⟨⟨id, o⟩, hfind, h⟩ := bind_eq_ok.1 h
  obtain ⟨spInState, -, h⟩ := bind_eq_ok.1 h
  obtain ⟨-, h⟩ := ite_error_eq_ok.1 h
  obtain ⟨sp, -, h⟩ := bind_eq_ok.1 h
  obtain ⟨-, h⟩ := ite_error_eq_ok.1 h
  obtain ⟨-, h⟩ := ite_error_eq_ok.1 h
  obtain ⟨ho, hkey⟩ := hs.findObject hfind
  split at h
  · obtain ⟨s₁, hshadow, h⟩ := bind_eq_ok.1 h
    cases h
    have hquiet : Quiet now s s₁ := dropShadow_quiet hshadow
    exact hquiet.writes.trans (setObjectInfo_writes (hquiet.find_object ho) rfl)
  · obtain ⟨s₁, hunlock, h⟩ := bind_eq_ok.1 h
    cases h
    have hquiet : Quiet now s s₁ := unlockStoreFee_quiet hunlock
    exact (hquiet.writes.trans (removeObject_writes (hquiet.find_object ho) hkey)).trans
      (.of_eq rfl rfl)

/-! ### Discontinue -/

theorem discontinueOne_writes (h : discontinueOne bucketName s id = .ok s') :
    Writes unused now s s' := by
  unfold discontinueOne at h
  split at h
  · cases h
  · rename_i o ho
    obtain ⟨-, h⟩ := ite_error_eq_ok.1 h
    obtain ⟨-, h⟩ := ite_error_eq_ok.1 h
    cases h
    exact NameStep.writes (.editObject ho rfl) rfl

theorem discontinueObject_writes {objectIDs : List ℕ}
    (h : discontinueObject ctx s operator bucketName objectIDs = .ok s') :
    Writes unused now s s' := by
  obtain ⟨-, h⟩ := ite_error_eq_ok.1 h
  obtain ⟨sp, -, h⟩ := bind_eq_ok.1 h
  obtain ⟨⟨bucketID, b⟩, -, h⟩ := bind_eq_ok.1 h
  obtain ⟨-, h⟩ := ite_error_eq_ok.1 h
  obtain ⟨spInState, -, h⟩ := bind_eq_ok.1 h
  obtain ⟨-, -, h⟩ := bind_eq_ok.1 h
  obtain ⟨-, h⟩ := ite_error_eq_ok.1 h
  obtain ⟨s₁, hloop, h⟩ := bind_eq_ok.1 h
  cases h
  have hwrites : Writes unused now s s₁ := foldlM_invariant (Writes unused now s)
    (fun _ _ _ _ hI hround => hI.trans (discontinueOne_writes hround)) (.refl s) hloop
  exact hwrites.trans (.of_eq rfl rfl)

/-! ### Forced deletion -/

theorem getAndDeleteDiscontinueObjectStatus_quiet
    (h : s.getAndDeleteDiscontinueObjectStatus id = .ok (s', st)) : Quiet now s s' := by
  unfold getAndDeleteDiscontinueObjectStatus at h
  split at h
  · cases h
  · cases h
    exact .of_eq rfl rfl

theorem releaseObject_quiet (h : s.releaseObject ctx bucketID b o st = .ok s') :
    Quiet now s s' := by
  cases st with
  | created =>
    obtain ⟨s₁, hunlock, h⟩ := bind_eq_ok.1 h
    cases h
    exact (unlockStoreFee_quiet hunlock).trans (.of_eq rfl rfl)
  | «sealed» =>
    obtain ⟨s₁, huncharge, h⟩ := bind_eq_ok.1 h
    have hquiet : Quiet now s s₁ := unChargeStored_quiet huncharge
    split_ifs at h
    · exact hquiet.trans (dropShadow_quiet h)
    · cases h
      exact hquiet
  | discontinued =>
    cases h
    exact .refl now s

theorem forceDeleteObject_writes (hs : s.names.Ok) (h : s.forceDeleteObject ctx id = .ok s') :
    Writes unused now s s' := by
  unfold forceDeleteObject at h
  split at h
  · cases h
    exact .refl s
  · rename_i o ho
    obtain ⟨⟨bucketID, b⟩, hfind, h⟩ := bind_eq_ok.1 h
    obtain ⟨⟨s₁, st⟩, hstatus, h⟩ := bind_eq_ok.1 h
    obtain ⟨sp, -, h⟩ := bind_eq_ok.1 h
    obtain ⟨s₂, hrelease, h⟩ := bind_eq_ok.1 h
    have hquiet : Quiet now s s₂ :=
      (getAndDeleteDiscontinueObjectStatus_quiet hstatus).trans (releaseObject_quiet hrelease)
    exact hquiet.writes.trans
      (doDeleteObject_writes (hquiet.find_object ho) (hs.findBucket hfind).2.symm h).1

/-- One object of `ForceDeleteBucket`, which is an object of that bucket. -/
theorem forceDeleteEntry_writes
    (hname : ∀ o, s.objects.find? id = some o → o.bucketName = b.bucketName)
    (h : forceDeleteEntry ctx bucketID b s id = .ok s') :
    Writes unused now s s' ∧ s'.objects = s.objects.erase id := by
  unfold forceDeleteEntry at h
  split at h
  · cases h
  · rename_i o ho
    have hdelete : ∀ {s₁ : State} {st : ObjectStatus}, Quiet now s s₁ → (do
        let s₂ ← s₁.releaseObject ctx bucketID b o st
        s₂.doDeleteObject ctx bucketID b id o st) = .ok s' →
        Writes unused now s s' ∧ s'.objects = s.objects.erase id := by
      intro s₁ st hquiet h
      obtain ⟨s₂, hrelease, h⟩ := bind_eq_ok.1 h
      have hquiet₂ : Quiet now s s₂ := hquiet.trans (releaseObject_quiet hrelease)
      obtain ⟨hwrites, hobjects⟩ : Writes unused now s₂ s' ∧ _ :=
        doDeleteObject_writes (hquiet₂.find_object ho) (hname o ho) h
      exact ⟨hquiet₂.writes.trans hwrites, hquiet₂.objects ▸ hobjects⟩
    split at h
    · obtain ⟨⟨s₁, st⟩, hstatus, h⟩ := bind_eq_ok.1 h
      exact hdelete (getAndDeleteDiscontinueObjectStatus_quiet hstatus) h
    · exact hdelete (.refl now s) h

/-- The loop of `ForceDeleteBucket`: the objects that are left are still those of the bucket. -/
theorem forceDeleteEntries_writes :
    ∀ {entries : List (ObjectKey × ℕ)} {s s' : State} {deleted deleted' : ℕ} {finished : Bool},
      (∀ e ∈ entries, ∀ o, s.objects.find? e.2 = some o → o.bucketName = b.bucketName) →
      forceDeleteEntries ctx bucketID b cap entries s deleted =
        .ok (s', deleted', finished) → Writes unused now s s'
  | [], s, s', _, _, _, _, h => by
    cases h
    exact .refl s
  | e :: entries, s, s', deleted, _, _, hnames, h => by
    unfold forceDeleteEntries at h
    split at h
    · cases h
      exact .refl s
    · obtain ⟨s₁, hentry, h⟩ := bind_eq_ok.1 h
      obtain ⟨hwrites, hobjects⟩ : Writes unused now s s₁ ∧ _ :=
        forceDeleteEntry_writes (hnames e List.mem_cons_self) hentry
      refine hwrites.trans (forceDeleteEntries_writes (fun e' he' o ho => ?_) h)
      rw [hobjects, find?_erase] at ho
      split_ifs at ho
      exact hnames e' (List.mem_cons_of_mem _ he') o ho

theorem forceDeleteBucket_writes (hs : s.names.Ok) {deleted : ℕ} {finished : Bool}
    (h : s.forceDeleteBucket ctx bucketID cap = .ok (s', finished, deleted)) :
    Writes unused now s s' := by
  unfold forceDeleteBucket at h
  split at h
  · cases h
    exact .refl s
  · rename_i b hb
    obtain ⟨sp, -, h⟩ := bind_eq_ok.1 h
    obtain ⟨⟨s₁, deleted₁, finished₁⟩, hentries, h⟩ := bind_eq_ok.1 h
    have hloop : Writes unused now s s₁ := by
      refine forceDeleteEntries_writes (fun e he o ho => ?_) hentries
      obtain ⟨hmem, hname⟩ := List.mem_filter.1 he
      obtain ⟨o₁, ho₁, hkey⟩ := hs.objects e.1 e.2 (find?_eq_some_iff.2 hmem)
      cases ho.symm.trans ho₁
      exact (congrArg ObjectKey.bucketName hkey).trans (of_decide_eq_true hname)
    dsimp only at h
    split_ifs at h
    · obtain ⟨ibi, -, h⟩ := bind_eq_ok.1 h
      obtain ⟨s₂, huncharge, h⟩ := bind_eq_ok.1 h
      obtain ⟨s₃, hdelete, h⟩ := bind_eq_ok.1 h
      cases h
      have hquiet : Quiet now s₁ s₂ := unChargeBucketReadFee_quiet huncharge
      exact hloop.trans (hquiet.writes.trans (doDeleteBucket_writes hdelete))
    · cases h
      exact hloop

/-! ### Update -/

theorem updateToEmpty_writes (ho : s.objects.find? id = some o)
    (h : s.updateToEmpty ctx bucketID b id o checksums = .ok s') : Writes unused now s s' := by
  obtain ⟨s₁, huncharge, h⟩ := bind_eq_ok.1 h
  obtain ⟨s₂, hdelete, h⟩ := bind_eq_ok.1 h
  obtain ⟨⟨s₃, o₃⟩, hseal, h⟩ := bind_eq_ok.1 h
  cases h
  obtain ⟨hsealed, hkey⟩ : Quiet now s₂ s₃ ∧ _ := sealEmptyObjectOnVirtualGroup_quiet hseal
  have hquiet : Quiet now s s₃ :=
    ((unChargeStored_quiet huncharge).trans (deleteObjectFromVirtualGroup_quiet hdelete)).trans
      hsealed
  exact hquiet.writes.trans (setObjectInfo_writes (hquiet.find_object ho) hkey)

theorem startUpdate_writes {updater : Addr} (ho : s.objects.find? id = some o)
    (h : s.startUpdate ctx bucketID b key id o updater payloadSize checksums = .ok s') :
    Writes unused now s s' := by
  obtain ⟨s₁, hlock, h⟩ := bind_eq_ok.1 h
  cases h
  have hshadow : ∀ shadows, Quiet now s { s with shadowObjects := shadows } :=
    fun _ => .of_eq rfl rfl
  have hquiet : Quiet now s (s₁.increaseLockedObjectCount bucketID) :=
    ((hshadow _).trans (lockObjectStoreFee_quiet hlock)).trans (.of_eq rfl rfl)
  exact hquiet.writes.trans (setObjectInfo_writes (hquiet.find_object ho) rfl)

theorem updateObjectContent_writes (hs : s.names.Ok)
    (h : updateObjectContent ctx s operator bucketName objectName payloadSize checksums delegator = .ok s') :
    Writes unused now s s' := by
  obtain ⟨⟨bucketID, b⟩, -, h⟩ := bind_eq_ok.1 h
  obtain ⟨-, -, h⟩ := bind_eq_ok.1 h
  obtain ⟨⟨id, o⟩, hfind, h⟩ := bind_eq_ok.1 h
  obtain ⟨-, h⟩ := ite_error_eq_ok.1 h
  obtain ⟨-, h⟩ := ite_error_eq_ok.1 h
  obtain ⟨-, -, h⟩ := bind_eq_ok.1 h
  obtain ⟨-, h⟩ := ite_error_eq_ok.1 h
  obtain ⟨sp, -, h⟩ := bind_eq_ok.1 h
  obtain ⟨-, h⟩ := ite_error_eq_ok.1 h
  obtain ⟨-, -, h⟩ := bind_eq_ok.1 h
  have ho := (hs.findObject hfind).1
  dsimp only at h
  split_ifs at h
  · exact updateToEmpty_writes ho h
  · exact startUpdate_writes ho h

theorem cancelUpdateObjectContent_writes (hs : s.names.Ok)
    (h : cancelUpdateObjectContent ctx s operator bucketName objectName = .ok s') :
    Writes unused now s s' := by
  obtain ⟨⟨bucketID, b⟩, -, h⟩ := bind_eq_ok.1 h
  obtain ⟨⟨id, o⟩, hfind, h⟩ := bind_eq_ok.1 h
  obtain ⟨-, h⟩ := ite_error_eq_ok.1 h
  obtain ⟨sh, -, h⟩ := bind_eq_ok.1 h
  obtain ⟨s₁, hshadow, h⟩ := bind_eq_ok.1 h
  obtain ⟨-, h⟩ := ite_error_eq_ok.1 h
  cases h
  have hquiet : Quiet now s s₁ := dropShadow_quiet hshadow
  exact hquiet.writes.trans
    (setObjectInfo_writes (hquiet.find_object (hs.findObject hfind).1) rfl)

/-! ### The end blocker -/

theorem forceDeleteObjects_writes :
    ∀ {ids : List ℕ} {s s' : State} {deleted deleted' : ℕ} {left : List ℕ}, s.names.Ok →
      forceDeleteObjects ctx max ids s deleted = .ok (s', deleted', left) →
        Writes unused now s s'
  | [], s, s', _, _, _, _, h => by
    cases h
    exact .refl s
  | id :: ids, s, s', _, _, _, hs, h => by
    unfold forceDeleteObjects at h
    split at h
    · cases h
      exact .refl s
    · obtain ⟨s₁, hdelete, h⟩ := bind_eq_ok.1 h
      have hwrites : Writes unused now s s₁ := forceDeleteObject_writes hs hdelete
      exact hwrites.trans (forceDeleteObjects_writes (hs.steps hwrites.names) h)

theorem deleteDiscontinueObjects_writes :
    ∀ {entries : List (ℕ × List ℕ)} {s s' : State} {deleted deleted' : ℕ}, s.names.Ok →
      deleteDiscontinueObjects ctx max entries s deleted = .ok (s', deleted') →
        Writes unused now s s'
  | [], s, s', _, _, _, h => by
    cases h
    exact .refl s
  | e :: entries, s, s', _, _, hs, h => by
    unfold deleteDiscontinueObjects at h
    split at h
    · cases h
      exact .refl s
    · obtain ⟨⟨s₁, deleted₁, left⟩, hdelete, h⟩ := bind_eq_ok.1 h
      have hwrites : Writes unused now s { s₁ with
          discontinueObjectIds := writeBack s₁.discontinueObjectIds e.1 left } :=
        (forceDeleteObjects_writes hs hdelete).trans (.of_eq rfl rfl)
      exact hwrites.trans (deleteDiscontinueObjects_writes (hs.steps hwrites.names) h)

theorem forceDeleteBuckets_writes :
    ∀ {ids : List ℕ} {s s' : State} {deleted deleted' : ℕ} {left left' : List ℕ}, s.names.Ok →
      forceDeleteBuckets ctx max ids s deleted left = .ok (s', deleted', left') →
        Writes unused now s s'
  | [], s, s', _, _, _, _, _, h => by
    cases h
    exact .refl s
  | id :: ids, s, s', _, _, _, _, hs, h => by
    unfold forceDeleteBuckets at h
    split at h
    · exact forceDeleteBuckets_writes hs h
    · obtain ⟨⟨s₁, gone, count⟩, hdelete, h⟩ := bind_eq_ok.1 h
      have hwrites : Writes unused now s s₁ := forceDeleteBucket_writes hs hdelete
      have hs₁ := hs.steps hwrites.names
      dsimp only at h
      split at h
      · exact hwrites.trans (forceDeleteBuckets_writes hs₁ h)
      · exact hwrites.trans (forceDeleteBuckets_writes hs₁ h)

theorem deleteDiscontinueBuckets_writes :
    ∀ {entries : List (ℕ × List ℕ)} {s s' : State} {deleted deleted' : ℕ}, s.names.Ok →
      deleteDiscontinueBuckets ctx max entries s deleted = .ok (s', deleted') →
        Writes unused now s s'
  | [], s, s', _, _, _, h => by
    cases h
    exact .refl s
  | e :: entries, s, s', _, _, hs, h => by
    unfold deleteDiscontinueBuckets at h
    split at h
    · cases h
      exact .refl s
    · obtain ⟨⟨s₁, deleted₁, left⟩, hdelete, h⟩ := bind_eq_ok.1 h
      have hwrites : Writes unused now s { s₁ with
          discontinueBucketIds := writeBack s₁.discontinueBucketIds e.1 left } :=
        (forceDeleteBuckets_writes hs hdelete).trans (.of_eq rfl rfl)
      exact hwrites.trans (deleteDiscontinueBuckets_writes (hs.steps hwrites.names) h)

theorem endBlocker_writes (hs : s.names.Ok) (h : endBlocker ctx s = .ok s') :
    Writes unused now s s' := by
  unfold endBlocker at h
  dsimp only at h
  split at h
  · cases h
    exact .refl s
  · obtain ⟨⟨s₁, deleted⟩, hobjects, h⟩ := bind_eq_ok.1 h
    have hwrites : Writes unused now s s₁ := deleteDiscontinueObjects_writes hs hobjects
    dsimp only at h
    split at h
    · cases h
      exact hwrites
    · split at h
      · cases h
        exact hwrites
      · obtain ⟨⟨s₂, deleted₂⟩, hbuckets, h⟩ := bind_eq_ok.1 h
        cases h
        exact hwrites.trans (deleteDiscontinueBuckets_writes (hs.steps hwrites.names) hbuckets)

end Moca.Storage
