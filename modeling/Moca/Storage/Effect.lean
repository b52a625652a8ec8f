/-
# What the operations of `x/storage` write

Two things are followed through every operation.

* The history: prices and parameters are written at the time of the block, and nowhere else
  (`State.RecordedAt`).
* The names: of the stores of buckets and objects, those that names and ids are looked up in
  (`Names`).  They change by the six kinds of `NameStep`; all other writes, those of charges, locks
  and counters among them, leave them alone (`Quiet`).

The invariants of the names are proved for the steps: a name key leads to a bucket or an object of
that name (`Names.Ok`), and an object is found under its own name if no new object takes a name that
is in use (`Names.Indexed`).
-/

import Mathlib.Logic.Relation
import Moca.Lib.KeyCodec
import Moca.VirtualGroup.Moves
import Moca.Storage.Msg

namespace Moca.Storage

open Relation (ReflTransGen)
open SortedMap

/-- The payment part of the state. -/
abbrev State.payment (s : State) : Payment.State := s.virtualGroup.payment

/-! ### The history -/

/-- A later state differs in the history at most by entries at times in `T`. -/
structure State.RecordedAt (T : Set ℤ) (s s' : State) : Prop where
  paymentParams : WrittenAt T s.payment.versionedParams s'.payment.versionedParams
  storageParams : WrittenAt T s.versionedParams s'.versionedParams
  prices : WrittenAt T s.globalSpStorePrices s'.globalSpStorePrices

section Recorded

variable {s s' s₁ : State} {T : Set ℤ}

theorem State.RecordedAt.refl (T : Set ℤ) (s : State) : s.RecordedAt T s :=
  ⟨.refl T _, .refl T _, .refl T _⟩

theorem State.RecordedAt.trans (h : s.RecordedAt T s₁) (h' : s₁.RecordedAt T s') :
    s.RecordedAt T s' :=
  ⟨h.paymentParams.trans h'.paymentParams, h.storageParams.trans h'.storageParams,
    h.prices.trans h'.prices⟩

theorem State.RecordedAt.mono {T' : Set ℤ} (h : s.RecordedAt T s') (hT : T ⊆ T') :
    s.RecordedAt T' s' :=
  ⟨h.paymentParams.mono hT, h.storageParams.mono hT, h.prices.mono hT⟩

end Recorded

/-! ### The names -/

/-- The stores that buckets and objects are found in. -/
structure Names where
  bucketSequence : ℕ
  bucketIds : SortedMap Name ℕ
  buckets : SortedMap ℕ BucketInfo
  objectSequence : ℕ
  objectIds : SortedMap ObjectKey ℕ
  objects : SortedMap ℕ ObjectInfo

/-- The names of a state. -/
def State.names (s : State) : Names where
  bucketSequence := s.bucketSequence
  bucketIds := s.bucketIds
  buckets := s.buckets
  objectSequence := s.objectSequence
  objectIds := s.objectIds
  objects := s.objects

/-- **The writes to the names.**  `unused` says that new objects take names that are not in use. -/
inductive NameStep (unused : Prop) (n : Names) : Names → Prop
  | storeBucket (b : BucketInfo) : NameStep unused n { n with
      bucketSequence := n.bucketSequence + 1
      bucketIds := n.bucketIds.insert b.bucketName (n.bucketSequence + 1)
      buckets := n.buckets.insert (n.bucketSequence + 1) b }
  | editBucket {id : ℕ} {b b' : BucketInfo} (hb : n.buckets.find? id = some b)
      (hname : b'.bucketName = b.bucketName) :
      NameStep unused n { n with buckets := n.buckets.insert id b' }
  | removeBucket (id : ℕ) (bucketName : Name) : NameStep unused n { n with
      bucketIds := n.bucketIds.erase bucketName
      buckets := n.buckets.erase id }
  | storeObject {o : ObjectInfo} (hunused : unused → n.objectIds.find? o.key = none) :
      NameStep unused n { n with
        objectSequence := n.objectSequence + 1
        objectIds := n.objectIds.insert o.key (n.objectSequence + 1)
        objects := n.objects.insert (n.objectSequence + 1) o }
  | editObject {id : ℕ} {o o' : ObjectInfo} (ho : n.objects.find? id = some o)
      (hkey : o'.key = o.key) : NameStep unused n { n with objects := n.objects.insert id o' }
  | removeObject {id : ℕ} {o : ObjectInfo} (ho : n.objects.find? id = some o) :
      NameStep unused n { n with
        objectIds := n.objectIds.erase o.key
        objects := n.objects.erase id }

variable {unused : Prop} {n n' : Names} {id : ℕ} {b : BucketInfo} {o : ObjectInfo}

/-- **A name key leads to what has that name**, and the ids in use are those given out. -/
structure Names.Ok (n : Names) : Prop where
  buckets : ∀ name id b, n.bucketIds.find? name = some id → n.buckets.find? id = some b →
    b.bucketName = name
  bucketIds : ∀ name id, n.bucketIds.find? name = some id → id ≤ n.bucketSequence
  objects : ∀ k id, n.objectIds.find? k = some id → ∃ o, n.objects.find? id = some o ∧ o.key = k
  objectIds : ∀ id o, n.objects.find? id = some o → id ≤ n.objectSequence

/-- **Every object is found under its name.** -/
def Names.Indexed (n : Names) : Prop :=
  ∀ id o, n.objects.find? id = some o → n.objectIds.find? o.key = some id

theorem Names.Ok.storeBucket (h : n.Ok) (b : BucketInfo) : Names.Ok { n with
    bucketSequence := n.bucketSequence + 1
    bucketIds := n.bucketIds.insert b.bucketName (n.bucketSequence + 1)
    buckets := n.buckets.insert (n.bucketSequence + 1) b } where
  buckets name id b₁ hid hb₁ := by
    rw [find?_insert] at hid hb₁
    split_ifs at hid with hname
    · cases hid
      rw [if_pos rfl] at hb₁
      cases hb₁
      exact hname.symm
    · have hle := h.bucketIds name id hid
      rw [if_neg (by omega)] at hb₁
      exact h.buckets name id b₁ hid hb₁
  bucketIds := forall_insert le_rfl fun name id _ hid =>
    (h.bucketIds name id hid).trans (Nat.le_succ _)
  objects := h.objects
  objectIds := h.objectIds

theorem Names.Ok.editBucket (h : n.Ok) {b' : BucketInfo} (hb : n.buckets.find? id = some b)
    (hname : b'.bucketName = b.bucketName) :
    Names.Ok { n with buckets := n.buckets.insert id b' } where
  buckets name id₁ b₁ hid hb₁ := by
    rw [find?_insert] at hb₁
    split_ifs at hb₁ with heq
    · cases hb₁
      exact hname.trans (h.buckets name id b (heq ▸ hid) hb)
    · exact h.buckets name id₁ b₁ hid hb₁
  bucketIds := h.bucketIds
  objects := h.objects
  objectIds := h.objectIds

theorem Names.Ok.removeBucket (h : n.Ok) (id : ℕ) (bucketName : Name) :
    Names.Ok { n with
      bucketIds := n.bucketIds.erase bucketName
      buckets := n.buckets.erase id } where
  buckets name id₁ b₁ hid hb₁ := by
    exact h.buckets name id₁ b₁ (find?_of_erase hid) (find?_of_erase hb₁)
  bucketIds name id₁ hid := h.bucketIds name id₁ (find?_of_erase hid)
  objects := h.objects
  objectIds := h.objectIds

theorem Names.Ok.storeObject (h : n.Ok) (o : ObjectInfo) : Names.Ok { n with
    objectSequence := n.objectSequence + 1
    objectIds := n.objectIds.insert o.key (n.objectSequence + 1)
    objects := n.objects.insert (n.objectSequence + 1) o } where
  buckets := h.buckets
  bucketIds := h.bucketIds
  objects k id hid := by
    rw [find?_insert] at hid
    split_ifs at hid with hkey
    · cases hid
      exact ⟨o, find?_insert_self .., hkey.symm⟩
    · obtain ⟨o₁, ho₁, hkey₁⟩ := h.objects k id hid
      have hle := h.objectIds id o₁ ho₁
      exact ⟨o₁, (find?_insert_of_ne _ _ (by omega)).trans ho₁, hkey₁⟩
  objectIds := forall_insert le_rfl fun id o₁ _ ho₁ =>
    (h.objectIds id o₁ ho₁).trans (Nat.le_succ _)

theorem Names.Ok.editObject (h : n.Ok) {o' : ObjectInfo} (ho : n.objects.find? id = some o)
    (hkey : o'.key = o.key) : Names.Ok { n with objects := n.objects.insert id o' } where
  buckets := h.buckets
  bucketIds := h.bucketIds
  objects k id₁ hid := by
    obtain ⟨o₁, ho₁, hkey₁⟩ := h.objects k id₁ hid
    by_cases heq : id₁ = id
    · subst heq
      cases ho₁.symm.trans ho
      exact ⟨o', find?_insert_self .., hkey.trans hkey₁⟩
    · exact ⟨o₁, (find?_insert_of_ne _ _ heq).trans ho₁, hkey₁⟩
  objectIds := forall_insert (h.objectIds id o ho) fun id₁ o₁ _ => h.objectIds id₁ o₁

/-- The key that goes with an object is the only one that led to it. -/
theorem Names.Ok.removeObject (h : n.Ok) (ho : n.objects.find? id = some o) : Names.Ok { n with
      objectIds := n.objectIds.erase o.key
      objects := n.objects.erase id } where
  buckets := h.buckets
  bucketIds := h.bucketIds
  objects k id₁ hid := by
    rw [find?_erase] at hid
    split_ifs at hid with hne
    obtain ⟨o₁, ho₁, hkey₁⟩ := h.objects k id₁ hid
    refine ⟨o₁, (find?_erase_of_ne _ fun heq => hne ?_).trans ho₁, hkey₁⟩
    subst heq
    cases ho₁.symm.trans ho
    exact hkey₁.symm
  objectIds id₁ o₁ ho₁ := by
    exact h.objectIds id₁ o₁ (find?_of_erase ho₁)

theorem Names.Ok.step (h : n.Ok) (hstep : NameStep unused n n') : n'.Ok := by
  cases hstep with
  | storeBucket b => exact h.storeBucket b
  | editBucket hb hname => exact h.editBucket hb hname
  | removeBucket id name => exact h.removeBucket id name
  | storeObject _ => exact h.storeObject _
  | editObject ho hkey => exact h.editObject ho hkey
  | removeObject ho => exact h.removeObject ho

/-- A new object takes a name that is not in use, an object keeps its name, and it goes with it. -/
theorem Names.Indexed.step (h : n.Indexed) (hunused : unused) (hstep : NameStep unused n n') :
    n'.Indexed := by
  cases hstep with
  | storeBucket _ => exact h
  | editBucket _ _ => exact h
  | removeBucket _ _ => exact h
  | @storeObject o hfree =>
    intro id o₁ ho₁
    rw [find?_insert] at ho₁
    split_ifs at ho₁ with heq
    · cases ho₁
      exact heq ▸ find?_insert_self ..
    · have hold := h id o₁ ho₁
      refine (find?_insert_of_ne _ _ fun hkey => ?_).trans hold
      rw [hkey, hfree hunused] at hold
      cases hold
  | @editObject id o o' ho hkey =>
    intro id₁ o₁ ho₁
    rw [find?_insert] at ho₁
    split_ifs at ho₁ with heq
    · cases ho₁
      rw [hkey, heq]
      exact h id o ho
    · exact h id₁ o₁ ho₁
  | @removeObject id o ho =>
    intro id₁ o₁ ho₁
    rw [find?_erase] at ho₁
    split_ifs at ho₁ with heq
    have hold := h id₁ o₁ ho₁
    refine (find?_erase_of_ne _ fun hkey => heq ?_).trans hold
    rw [hkey, h id o ho] at hold
    exact (Option.some.inj hold).symm

/-- A sequence of writes keeps the names in order. -/
theorem Names.Ok.steps (h : n.Ok) (hsteps : ReflTransGen (NameStep unused) n n') : n'.Ok := by
  induction hsteps with
  | refl => exact h
  | tail _ hstep ih => exact ih.step hstep

theorem Names.Indexed.steps (h : n.Indexed) (hunused : unused)
    (hsteps : ReflTransGen (NameStep unused) n n') : n'.Indexed := by
  induction hsteps with
  | refl => exact h
  | tail _ hstep ih => exact ih.step hunused hstep

/-! ### Writes -/

/-- Nothing is written to the names, and to the history only at the time of the block. -/
structure Quiet (now : ℤ) (s s' : State) : Prop where
  recorded : s.RecordedAt {now} s'
  names : s'.names = s.names

/-- A sequence of writes at the time of the block. -/
structure Writes (unused : Prop) (now : ℤ) (s s' : State) : Prop where
  recorded : s.RecordedAt {now} s'
  names : ReflTransGen (NameStep unused) s.names s'.names

section Writes

variable {s s' s₁ : State} {now : ℤ}

theorem Quiet.refl (now : ℤ) (s : State) : Quiet now s s := ⟨.refl _ s, rfl⟩

theorem Quiet.trans (h : Quiet now s s₁) (h' : Quiet now s₁ s') : Quiet now s s' :=
  ⟨h.recorded.trans h'.recorded, h'.names.trans h.names⟩

/-- A write that leaves the history and the names alone. -/
theorem Quiet.of_eq (hpay : s'.payment.versionedParams = s.payment.versionedParams)
    (hnames : (s'.versionedParams, s'.globalSpStorePrices, s'.names) =
      (s.versionedParams, s.globalSpStorePrices, s.names)) : Quiet now s s' := by
  simp only [Prod.mk.injEq] at hnames
  exact ⟨⟨.of_eq hpay, .of_eq hnames.1, .of_eq hnames.2.1⟩, hnames.2.2⟩

section

variable (h : Quiet now s s')
include h

theorem Quiet.objects : s'.objects = s.objects :=
  congrArg Names.objects h.names

theorem Quiet.objectIds : s'.objectIds = s.objectIds :=
  congrArg Names.objectIds h.names

theorem Quiet.buckets : s'.buckets = s.buckets :=
  congrArg Names.buckets h.names

/-- A bucket is still there after quiet writes. -/
theorem Quiet.find_bucket (hb : s.buckets.find? id = some b) : s'.buckets.find? id = some b :=
  h.buckets ▸ hb

/-- An object is still there after quiet writes. -/
theorem Quiet.find_object (ho : s.objects.find? id = some o) : s'.objects.find? id = some o :=
  h.objects ▸ ho

theorem Quiet.writes : Writes unused now s s' :=
  ⟨h.recorded, h.names ▸ .refl⟩

end

theorem Writes.of_eq (hpay : s'.payment.versionedParams = s.payment.versionedParams)
    (hnames : (s'.versionedParams, s'.globalSpStorePrices, s'.names) =
      (s.versionedParams, s.globalSpStorePrices, s.names)) : Writes unused now s s' :=
  (Quiet.of_eq hpay hnames).writes

theorem Writes.refl (s : State) : Writes unused now s s := (Quiet.refl now s).writes

theorem Writes.trans (h : Writes unused now s s₁) (h' : Writes unused now s₁ s') :
    Writes unused now s s' :=
  ⟨h.recorded.trans h'.recorded, h.names.trans h'.names⟩

/-- One write to the names, which leaves the history alone. -/
theorem NameStep.writes (h : NameStep unused s.names s'.names)
    (hhistory : (s'.payment.versionedParams, s'.versionedParams, s'.globalSpStorePrices) =
      (s.payment.versionedParams, s.versionedParams, s.globalSpStorePrices)) :
    Writes unused now s s' := by
  simp only [Prod.mk.injEq] at hhistory
  exact ⟨⟨.of_eq hhistory.1, .of_eq hhistory.2.1, .of_eq hhistory.2.2⟩, .single h⟩

end Writes

end Moca.Storage
