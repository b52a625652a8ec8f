/-
# Who puts what where

Two lookups tie a message of `x/storage` to an authority.  A bucket is put into a
family of groups, whose primary provider then serves it; `CreateBucket` takes the
family from the approval, and compares the provider of the message with the signature
on the approval but not with the family.  An object is put into a bucket;
`CreateObject` asks `VerifyBucketPermission` for the bucket, and `CopyObject` asks
`VerifyObjectPermission` for the source only.

The decisions on permissions are those of `Moca.Permission.Verify`, in a store of
policies beside the state of the module (`Access`).
-/

import Moca.Permission.Verify
import Moca.Storage.ObjectIndex

namespace Moca.Storage

variable {ctx : Ctx} {s s' : State} {operator : Addr} {u : Unit}

/-! ### Approvals -/

/-- `common.Approval` with the address whose key has signed it, if there is one. -/
structure SignedApproval where
  expiredHeight : ℕ
  globalVirtualGroupFamilyId : ℕ := 0
  signer : Option Addr

/-- `types.VerifySignature` recovers the key from the signature, and compares its address with the
approval address of the provider. -/
def SignedApproval.checked (approval : SignedApproval) (sp : Option Sp.StorageProvider) : Approval where
  expiredHeight := approval.expiredHeight
  globalVirtualGroupFamilyId := approval.globalVirtualGroupFamilyId
  verified := sp.any fun sp => decide (approval.signer = some sp.approvalAddress)

/-- `CreateBucket` with a signed approval. -/
def createBucketSigned (ctx : Ctx) (s : State) (owner : Addr) (bucketName : Name)
    (primarySpAcc : Addr) (paymentAddress : Option Addr) (quota : ℕ) (approval : SignedApproval) :
    Except Error State :=
  createBucket ctx s owner bucketName primarySpAcc paymentAddress quota
    (approval.checked (s.virtualGroup.sp.getStorageProviderByOperatorAddr primarySpAcc))

/-- **A bucket is created under the provider that approved it** exactly if the family that the
approval names was one of its own.  The signature is that of the provider in any case. -/
theorem bucket_created_by_approver (owner : Addr) (bucketName : Name) (primarySpAcc : Addr)
    (paymentAddress : Option Addr) (quota : ℕ) (approval : SignedApproval)
    (h : createBucketSigned ctx s owner bucketName primarySpAcc paymentAddress quota approval =
      .ok s') :
    ∃ sp b family, s.virtualGroup.sp.getStorageProviderByOperatorAddr primarySpAcc = some sp ∧
      approval.signer = some sp.approvalAddress ∧
      s'.buckets.find? (s.bucketSequence + 1) = some b ∧
      s'.virtualGroup.families.find? b.globalVirtualGroupFamilyId = some family ∧
      (family.primarySpId = sp.id ↔
        ∃ owned, s.virtualGroup.families.find? approval.globalVirtualGroupFamilyId = some owned ∧
          owned.primarySpId = sp.id) := by
  obtain ⟨sp, family, b, _, p, hsp, hverified, hid, hfamily, -, rfl⟩ := createBucket_eq_ok h
  have hsigner : approval.signer = some sp.approvalAddress := by
    unfold SignedApproval.checked at hverified
    rw [hsp] at hverified
    exact of_decide_eq_true hverified
  refine ⟨sp, b, family, hsp, hsigner, SortedMap.find?_insert_self _ _ _, hfamily, ?_⟩
  have hnamed : s.virtualGroup.families.find? approval.globalVirtualGroupFamilyId = some family := by
    rw [← hfamily, hid]
    rfl
  constructor
  · intro hprimary
    exact ⟨family, hnamed, hprimary⟩
  · rintro ⟨owned, howned, hprimary⟩
    obtain rfl := Option.some.inj (hnamed.symm.trans howned)
    exact hprimary

/-- The first provider has a family with a group. -/
def sampleFamily : List (Ctx × Op) :=
  [(sampleCtx, .virtualGroup (.createGlobalVirtualGroup 101 0 [2, 3] ⟨"amoca", 500⟩))]

theorem bucket_created_by_owner : ∃ c s', runSteps Chain.step (sampleStart 1) sampleFamily = some c ∧
    createBucketSigned sampleCtx c.state 7 1 101 none 0 ⟨0, 1, some 301⟩ = .ok s' ∧
    ∃ b family, s'.buckets.find? 1 = some b ∧
      s'.virtualGroup.families.find? b.globalVirtualGroupFamilyId = some family ∧
      family.primarySpId = 1 := by
  obtain ⟨c, hc, ⟨s', hs', -⟩, hseq, hids, owned, howned, hprimary⟩ : ∃ c,
      runSteps Chain.step (sampleStart 1) sampleFamily = some c ∧
      (∃ s', createBucketSigned sampleCtx c.state 7 1 101 none 0 ⟨0, 1, some 301⟩ = .ok s' ∧ True) ∧
      c.state.bucketSequence = 0 ∧
      (∃ sp, c.state.virtualGroup.sp.getStorageProviderByOperatorAddr 101 = some sp ∧ sp.id = 1) ∧
      ∃ f, c.state.virtualGroup.families.find? 1 = some f ∧ f.primarySpId = 1 := by
    decide +kernel
  obtain ⟨sp, b, family, hsp, -, hb, hfind, hiff⟩ := bucket_created_by_approver _ _ _ _ _ _ hs'
  obtain ⟨approver, happrover, hid⟩ := hids
  obtain rfl := Option.some.inj (hsp.symm.trans happrover)
  rw [hseq] at hb
  exact ⟨c, s', hc, hs', b, family, hb, hfind,
    hid ▸ hiff.2 ⟨owned, howned, hprimary.trans hid.symm⟩⟩

/-- The second provider signs an approval that names the family of the first one, and the bucket is
created there. -/
theorem bucket_created_under_other :
    (sampleStart 1).Starts ∧ ∃ c, runSteps Chain.step (sampleStart 1) sampleFamily = some c ∧
      (c.state.virtualGroup.sp.getStorageProviderByOperatorAddr 102).map (fun sp => sp.id) = some 2 ∧
      ∃ s', createBucketSigned sampleCtx c.state 7 1 102 none 0 ⟨0, 1, some 302⟩ = .ok s' ∧
      ∃ b, s'.buckets.find? 1 = some b ∧
      ∃ family, s'.virtualGroup.families.find? b.globalVirtualGroupFamilyId = some family ∧
        family.primarySpId = 1 :=
  ⟨sampleStart_starts (by decide), by decide +kernel⟩

/-! ### Permissions -/

/-- What a decision reads besides the records of the module: the store of policies, and the account,
the id, the visibility and the resource name that stand behind the numbers of the records. -/
structure Access where
  permission : Permission.State
  ctx : Permission.Ctx
  account : Addr → Permission.AccAddress
  uint : ℕ → Permission.Uint
  bucketVisibility : ℕ → Permission.Visibility := fun _ => .privateType
  objectVisibility : ℕ → Permission.Visibility := fun _ => .inherit
  grn : Name → Name → String := fun _ _ => ""

/-- The record of a bucket, as far as a decision reads it. -/
def Access.bucket (a : Access) (bucketID : ℕ) (b : BucketInfo) : Permission.Bucket where
  id := a.uint bucketID
  owner := a.account b.owner
  visibility := a.bucketVisibility bucketID

/-- The record of an object, as far as a decision reads it. -/
def Access.object (a : Access) (id : ℕ) (o : ObjectInfo) : Permission.Object where
  id := a.uint id
  owner := a.account o.owner
  visibility := a.objectVisibility id
  grn := a.grn o.bucketName o.objectName

/-- A decision allows; one that panics fails the message as one that denies does. -/
def allows (decision : Except Permission.Error (Permission.State × Permission.Effect)) : Bool :=
  decision.toOption.any fun d => decide (d.2 = .allow)

/-- `VerifyBucketPermission` answers `EFFECT_ALLOW` to `ACTION_CREATE_OBJECT`. -/
def Access.mayCreate (a : Access) (bucketID : ℕ) (b : BucketInfo) (operator : Addr)
    (payloadSize : ℕ) : Bool :=
  allows (a.permission.verifyBucketPermission a.ctx (a.bucket bucketID b) (some (a.account operator))
    .createObject (some { wantedSize := some payloadSize }))

/-- `VerifyObjectPermission` answers `EFFECT_ALLOW` to `ACTION_COPY_OBJECT`. -/
def Access.mayCopy (a : Access) (bucketID : ℕ) (b : BucketInfo) (id : ℕ) (o : ObjectInfo)
    (operator : Addr) : Bool :=
  allows (a.permission.verifyObjectPermission a.ctx (a.bucket bucketID b) (a.object id o)
    (some (a.account operator)) .copyObject)

/-- What a message that adds an object asks for, as far as it gets there. -/
def Op.decision (a : Access) (s : State) : Op → Option Bool
  | .createObject creator bucketName _ payloadSize _
  | .delegateCreateObject _ creator bucketName _ payloadSize _ =>
    (s.getBucketInfo bucketName).map fun e => a.mayCreate e.1 e.2 creator payloadSize
  | .copyObject operator srcBucketName srcObjectName _ _ _ =>
    (s.getBucketInfo srcBucketName).bind fun e =>
      (s.findObject srcBucketName srcObjectName).toOption.map fun o =>
        a.mayCopy e.1 e.2 o.1 o.2 operator
  | _ => none

/-- A message whose decision is that of the policies. -/
def Op.runAs (a : Access) (ctx : Ctx) (s : State) (op : Op) : Except Error State :=
  op.run { ctx with allowed := (op.decision a s).getD ctx.allowed } s

/-- The operator of a message that adds an object, its bucket and its size. -/
def Op.adds (s : State) : Op → Option (Addr × Name × ℕ)
  | .createObject creator bucketName _ payloadSize _ => some (creator, bucketName, payloadSize)
  | .delegateCreateObject operator _ bucketName _ payloadSize _ =>
    some (operator, bucketName, payloadSize)
  | .copyObject operator srcBucketName srcObjectName dstBucketName _ _ =>
    (s.findObject srcBucketName srcObjectName).toOption.map fun o =>
      (operator, dstBucketName, o.2.payloadSize)
  | _ => none

/-- The account for which an agent creates an object. -/
def Op.delegator : Op → Option Addr
  | .delegateCreateObject _ creator _ _ _ _ => some creator
  | _ => none

/-- `CreateObject` by the account itself. -/
def Op.isCreateObject : Op → Bool
  | .createObject _ _ _ _ _ => true
  | _ => false

/-- A copy of an object that the operator owns. -/
def Op.CopiesOwn (a : Access) (s : State) : Op → Prop
  | .copyObject operator srcBucketName srcObjectName _ _ _ =>
    ∃ o, s.findObject srcBucketName srcObjectName = .ok o ∧
      a.account operator = a.account o.2.owner
  | _ => False

/-- The owner of an object may copy it, whatever the policies are. -/
theorem Access.mayCopy_of_owner (a : Access) (bucketID : ℕ) (b : BucketInfo) (id : ℕ)
    {o : ObjectInfo} (howner : a.account operator = a.account o.owner) :
    a.mayCopy bucketID b id o operator = true := by
  unfold Access.mayCopy Permission.State.verifyObjectPermission
  split_ifs with hpublic
  · rfl
  · dsimp only
    rw [if_pos (show a.account operator = (a.object id o).owner from howner)]
    rfl

/-- **What a copy does does not depend on the policies**, if the operator owns the object. -/
theorem Op.CopiesOwn.runAs_eq {a : Access} {op : Op} (h : op.CopiesOwn a s)
    (permission : Permission.State) :
    op.runAs { a with permission := permission } ctx s = op.runAs a ctx s := by
  have hdecision : op.decision { a with permission := permission } s = op.decision a s := by
    cases op with
    | copyObject operator srcBucketName srcObjectName _ _ _ =>
      obtain ⟨o, ho, howner⟩ := h
      have hmay := fun (a' : Access) (e : ℕ × BucketInfo)
        (ha : a'.account operator = a'.account o.2.owner) => a'.mayCopy_of_owner e.1 e.2 o.1 ha
      simp only [Op.decision, ho, Except.toOption, Option.map_some, hmay a _ howner,
        hmay { a with permission := permission } _ howner]
    | _ => exact h.elim
  unfold Op.runAs
  rw [hdecision]

theorem checkBucketStatus_eq_ok {b : BucketInfo} (h : b.checkBucketStatus = .ok u) :
    b.bucketStatus = .created := by
  unfold BucketInfo.checkBucketStatus at h
  split at h
  · simp at h
  · simp at h
  · assumption

theorem checkAllowed_eq_ok (h : checkAllowed ctx = .ok u) : ctx.allowed = true := by
  unfold checkAllowed at h
  split_ifs at h with hallowed
  exact hallowed

/-- What `CreateObject` checks of the bucket and of the operator. -/
theorem createObject_checks {bucketName objectName : Name} {payloadSize checksums : ℕ}
    {delegator : Option Addr}
    (h : createObject ctx s operator bucketName objectName payloadSize checksums delegator =
      .ok s') :
    ∃ e, s.getBucketInfo bucketName = some e ∧ e.2.bucketStatus = .created ∧
        ctx.allowed = true := by
  unfold createObject at h
  split at h
  · simp at h
  obtain ⟨e, hb, h⟩ := bind_eq_ok.1 h
  obtain ⟨_, hstatus, h⟩ := bind_eq_ok.1 h
  obtain ⟨sp, -, h⟩ := bind_eq_ok.1 h
  obtain ⟨_, -, h⟩ := bind_eq_ok.1 h
  obtain ⟨_, hallowed, h⟩ := bind_eq_ok.1 h
  exact ⟨e, findBucket_eq_ok hb, checkBucketStatus_eq_ok hstatus, checkAllowed_eq_ok hallowed⟩

/-- **Writing into a bucket needs permission on it**: what a message adds goes to a bucket that
takes new objects, and `CreateObject` has asked for the permission of its operator, or for that of
the account whose agent the operator is.  A copy of the operator's own object asks for nothing: it
is the same under all policies, those on the bucket it goes to among them. -/
theorem object_added_with_permission (a : Access) (op : Op) (operator : Addr) (bucketName : Name)
    (payloadSize : ℕ) (hadds : op.adds s = some (operator, bucketName, payloadSize))
    (h : op.runAs a ctx s = .ok s') :
    ∃ bucketID b, s.getBucketInfo bucketName = some (bucketID, b) ∧ b.bucketStatus = .created ∧
      (op.isCreateObject = true → a.mayCreate bucketID b operator payloadSize = true) ∧
      (∀ creator, op.delegator = some creator →
        a.mayCreate bucketID b creator payloadSize = true) ∧
      (op.CopiesOwn a s → ∀ permission,
        op.runAs { a with permission := permission } ctx s = .ok s') := by
  have hcopies : op.CopiesOwn a s → ∀ permission,
      op.runAs { a with permission := permission } ctx s = .ok s' :=
    fun hown permission => (hown.runAs_eq permission).trans h
  unfold Op.runAs Op.run at h
  cases op with
  | createObject creator name objectName size checksums =>
    obtain ⟨rfl, rfl, rfl⟩ := Prod.mk.inj (Option.some.inj hadds) |>.imp id Prod.mk.inj
    obtain ⟨_, -, h⟩ := bind_eq_ok.1 h
    obtain ⟨⟨bucketID, b⟩, hb, hstatus, hallowed⟩ := createObject_checks h
    refine ⟨bucketID, b, hb, hstatus, fun _ => ?_, fun _ => nofun, hcopies⟩
    simpa [Op.decision, hb, Ctx.withForced] using hallowed
  | delegateCreateObject agent creator name objectName size checksums =>
    obtain ⟨rfl, rfl, rfl⟩ := Prod.mk.inj (Option.some.inj hadds) |>.imp id Prod.mk.inj
    obtain ⟨⟨bucketID, b⟩, hb, hstatus, hallowed⟩ := createObject_checks h
    refine ⟨bucketID, b, hb, hstatus, nofun, ?_, hcopies⟩
    rintro creator' ⟨⟩
    simpa [Op.decision, hb, Ctx.withForced] using hallowed
  | copyObject copier srcBucket srcObject dstBucket dstObject approval =>
    obtain ⟨o, -, ho⟩ := Option.map_eq_some_iff.1 hadds
    obtain ⟨rfl, rfl, rfl⟩ := Prod.mk.inj ho |>.imp id Prod.mk.inj
    obtain ⟨_, -, h⟩ := bind_eq_ok.1 h
    obtain ⟨⟨bucketID, b⟩, hb, h⟩ := bind_eq_ok.1 h
    obtain ⟨sp, -, h⟩ := bind_eq_ok.1 h
    obtain ⟨_, hstatus, h⟩ := bind_eq_ok.1 h
    exact ⟨bucketID, b, findBucket_eq_ok hb, checkBucketStatus_eq_ok hstatus,
      nofun, fun _ => nofun, hcopies⟩
  | _ => cases hadds

/-- No policies, and an address for each of the numbers below 256. -/
def sampleAccess : Access where
  permission := .empty {}
  ctx := { blockTime := 1 }
  account addr := List.Vector.replicate 20 (Bytes.low addr)
  uint n := ⟨n % 2 ^ 256, Nat.mod_lt n (Nat.two_pow_pos 256)⟩

/-- The account `8` has a bucket with an empty object, beside the bucket of the account `7`. -/
def sampleTwoBuckets : List (Ctx × Op) :=
  sampleBucket ++
    [(sampleCtx, .createBucket 8 2 101 none 0 { expiredHeight := 0, globalVirtualGroupFamilyId := 1 }),
      (sampleCtx, .createObject 8 2 1 0 3)]

/-- The account `8` creates an object in its own bucket. -/
theorem object_added_by_owner : ∃ c s',
    runSteps Chain.step (sampleStart 1) sampleTwoBuckets = some c ∧
    (Op.createObject 8 2 2 0 3).runAs sampleAccess sampleCtx c.state = .ok s' ∧
    ∃ bucketID b, c.state.getBucketInfo 2 = some (bucketID, b) ∧ b.bucketStatus = .created ∧
      sampleAccess.mayCreate bucketID b 8 0 = true := by
  obtain ⟨c, hc, s', hs', -⟩ : ∃ c, runSteps Chain.step (sampleStart 1) sampleTwoBuckets = some c ∧
      ∃ s', (Op.createObject 8 2 2 0 3).runAs sampleAccess sampleCtx c.state = .ok s' ∧ True := by
    decide +kernel
  obtain ⟨bucketID, b, hb, hstatus, hmay, -⟩ :=
    object_added_with_permission sampleAccess (.createObject 8 2 2 0 3) 8 2 0 rfl hs'
  exact ⟨c, s', hc, hs', bucketID, b, hb, hstatus, hmay rfl⟩

/-- The account `8` copies its object into the bucket of the account `7`, on which it has no
permission at all. -/
theorem object_copied_without_permission : (sampleStart 1).Starts ∧
    ∃ c, runSteps Chain.step (sampleStart 1) sampleTwoBuckets = some c ∧
      (Op.copyObject 8 2 1 1 1 { expiredHeight := 0 }).adds c.state = some (8, 1, 0) ∧
      (∃ e, c.state.getBucketInfo 1 = some e ∧ sampleAccess.mayCreate e.1 e.2 8 0 = false) ∧
      ∃ s', (Op.copyObject 8 2 1 1 1 { expiredHeight := 0 }).runAs sampleAccess sampleCtx c.state =
        .ok s' ∧ s'.objectIds.contains ⟨1, 1⟩ = true :=
  ⟨sampleStart_starts (by decide), by decide +kernel⟩

end Moca.Storage
