/-
# The index of objects by name

The map from names to ids and the map from ids to objects are inverse to each other,
as long as `CopyObject` is only used with destination names that are not in use
(`object_index_bijection`).  `CopyObject` does not look at the destination name: where
it is in use, the name key is written over, and the object it led to stays stored and
billed without a name (`object_index_overwritten`).  An id is never used again
(`ids_permanent`).
-/

import Moca.Lib.Index
import Moca.Storage.Run

namespace Moca.Storage

open SortedMap

/-! ### Every run -/

/-- **The two maps are inverse to each other.** -/
structure IndexBijection (s : State) : Prop where
  /-- A name key leads to an object with these names. -/
  named : ∀ k id, s.objectIds.find? k = some id →
    ∃ o, s.objects.find? id = some o ∧ o.bucketName = k.bucketName ∧ o.objectName = k.objectName
  /-- Exactly one name key leads to an object. -/
  pointed : ∀ id o, s.objects.find? id = some o → ∃! k, s.objectIds.find? k = some id

/-- A copy is made under a name that is not in use. -/
def Op.CopiesToUnused (s : State) (op : Op) : Prop :=
  ∀ k ∈ op.copyTarget, s.objectIds.find? k = none

instance (s : State) (op : Op) : Decidable (op.CopiesToUnused s) :=
  inferInstanceAs (Decidable (∀ k ∈ op.copyTarget, s.objectIds.find? k = none))

/-- **Object index bijection.**  In every run that copies objects to unused names only, every name
key leads to an object with exactly these names, and every object is led to by exactly one key. -/
theorem object_index_bijection (c₀ c : Chain) (h₀ : c₀.Starts)
    (hreach : Reachable Chain.step (fun c l => l.2.CopiesToUnused c.state) c₀ c) :
    IndexBijection c.state := by
  obtain ⟨hok, hindexed⟩ : c.state.names.Ok ∧ c.state.names.Indexed := by
    refine hreach.invariant (fun c => c.state.names.Ok ∧ c.state.names.Indexed) h₀.names ?_
    intro c₁ l c₂ ⟨hok, hindexed⟩ hunused hstep
    have hsteps := (step_writes hok (fun _ : True => hunused) hstep).names
    exact ⟨hok.steps hsteps, hindexed.steps trivial hsteps⟩
  constructor
  · intro k id hk
    obtain ⟨o, ho, hkey⟩ := hok.objects k id hk
    rw [← hkey]
    exact ⟨o, ho, rfl, rfl⟩
  · intro id o ho
    refine ⟨o.key, hindexed id o ho, fun k hk => ?_⟩
    obtain ⟨o₁, ho₁, hkey⟩ := hok.objects k id hk
    cases ho₁.symm.trans ho
    exact hkey.symm

/-! ### Ids are for ever -/

/-- The ids given out stand for the buckets and objects they stood for, under their names. -/
structure Names.Continued (n n' : Names) : Prop where
  buckets : Continues BucketInfo.bucketName n.bucketSequence n.buckets n'.bucketSequence n'.buckets
  objects : Continues ObjectInfo.key n.objectSequence n.objects n'.objectSequence n'.objects

variable {unused : Prop} {n n₁ n' : Names}

theorem NameStep.continued (h : NameStep unused n n') : n.Continued n' := by
  cases h with
  | storeBucket b => exact ⟨.append b, .refl⟩
  | editBucket hb hname => exact ⟨.edit hb hname, .refl⟩
  | removeBucket _ _ => exact ⟨.erase, .refl⟩
  | @storeObject o _ => exact ⟨.refl, .append o⟩
  | editObject ho hkey => exact ⟨.refl, .edit ho hkey⟩
  | removeObject _ => exact ⟨.refl, .erase⟩

theorem Names.Continued.steps (h : n.Continued n₁)
    (hsteps : Relation.ReflTransGen (NameStep unused) n₁ n') : n.Continued n' := by
  induction hsteps with
  | refl => exact h
  | tail _ hstep ih =>
    have hlast := hstep.continued
    exact ⟨ih.buckets.trans hlast.buckets, ih.objects.trans hlast.objects⟩

/-- **Ids of buckets and objects are for ever.**  From every state of a run on, an id that was given
out leads to the bucket or object it led to, under the same name, or to none for good. -/
theorem ids_permanent (c₀ c c' : Chain) (h₀ : c₀.Starts)
    (hreach : Reachable Chain.step (fun _ _ => True) c₀ c)
    (hlater : Reachable Chain.step (fun _ _ => True) c c') :
    c.state.names.Continued c'.state.names := by
  have hok := Chain.names_ok h₀.names.1 hreach
  refine (hlater.invariant (fun c₁ => c₁.state.names.Ok ∧ c.state.names.Continued c₁.state.names)
    ⟨hok, .refl, .refl⟩ fun c₁ l c₂ ⟨hok₁, hcontinued⟩ _ hstep => ?_).2
  have hwrites : Writes False l.1.blockTime c₁.state c₂.state := step_writes hok₁ False.elim hstep
  exact ⟨hok₁.steps hwrites.names, hcontinued.steps hwrites.names⟩

/-! ### Sample runs -/

/-- A start with three providers, free storage and two secondary providers in a group. -/
def sampleStart (minChargeSize : ℕ) : Chain where
  state :=
    let versionedParams : VersionedParams :=
      { redundantDataChunkNum := 1, redundantParityChunkNum := 1, minChargeSize := minChargeSize }
    .empty { defaultParams with versionedParams := versionedParams }
      (SortedMap.empty.insert 0 versionedParams) (SortedMap.empty.insert 0 ⟨0, 0, 0⟩)
      (.empty { VirtualGroup.defaultParams with gvgStakingPerBytes := 1 } (Sp.numberedProviders [1, 2, 3])
        { Payment.State.empty Payment.defaultParams fun _ => 10 ^ 6 with
          versionedParams := SortedMap.empty.insert 0 Payment.defaultParams.versionedParams })
  time := 1

theorem sampleStart_starts {minChargeSize : ℕ} (h : 0 < minChargeSize ∧ minChargeSize < 2 ^ 64) :
    (sampleStart minChargeSize).Starts where
  empty := ⟨_, _, _, _, rfl⟩
  versions t v hv := by
    have hv' : (SortedMap.empty.insert (0 : ℤ) (⟨1, 1, minChargeSize⟩ : VersionedParams)).find? t =
      some v := hv
    rw [find?_insert] at hv'
    split_ifs at hv'
    · rw [← Option.some.inj hv']
      have := h.2
      simp [VersionedParams.validate, h.1]
      omega
    · simp at hv'
  time := (zero_le_one : (0 : ℤ) ≤ 1)

/-- The block of the sample runs; the first provider seals. -/
def sampleCtx : Ctx where
  blockTime := 1
  expectSecondarySPNum := 0
  spBySealAddr addr := if addr = 401 then some 1 else none

/-- The first provider has a group, and the owner `7` a bucket in its family. -/
def sampleBucket : List (Ctx × Op) :=
  [(sampleCtx, .virtualGroup (.createGlobalVirtualGroup 101 0 [2, 3] ⟨"amoca", 500⟩)),
    (sampleCtx, .createBucket 7 1 101 (some 7) 0
      { expiredHeight := 0, globalVirtualGroupFamilyId := 1 })]

/-- An object is copied to a name that is not in use. -/
theorem object_index_copied :
    ∃ c, runSteps Chain.step (sampleStart 1) (sampleBucket ++
        [(sampleCtx, .createObject 7 1 1 0 3),
          (sampleCtx, .copyObject 7 1 1 1 2 { expiredHeight := 0 })]) = some c ∧
      IndexBijection c.state ∧ c.state.objectIds.find? ⟨1, 2⟩ = some 2 :=
  Option.exists_some_and (by decide) fun c hc _ =>
    object_index_bijection _ c (sampleStart_starts (by decide))
      (Reachable.of_runSteps .start (by decide) hc)

/-- A deleted object is not found again under its id, though its name is used again. -/
theorem ids_permanent_deleted : ∃ c c', runSteps Chain.step (sampleStart 1) (sampleBucket ++
      [(sampleCtx, .createObject 7 1 1 0 3), (sampleCtx, .deleteObject 7 1 1)]) = some c ∧
    c.step (sampleCtx, .createObject 7 1 1 0 3) = some c' ∧
    c'.state.objectIds.find? ⟨1, 1⟩ = some 2 ∧ c.state.names.Continued c'.state.names := by
  obtain ⟨c, hc, c', hc', hid⟩ : ∃ c, runSteps Chain.step (sampleStart 1) (sampleBucket ++
      [(sampleCtx, .createObject 7 1 1 0 3), (sampleCtx, .deleteObject 7 1 1)]) = some c ∧
    ∃ c', c.step (sampleCtx, .createObject 7 1 1 0 3) = some c' ∧
      c'.state.objectIds.find? ⟨1, 1⟩ = some 2 := by decide
  exact ⟨c, c', hc, hc', hid, ids_permanent _ c c' (sampleStart_starts (by decide))
    (.of_runSteps .start (.of_forall fun _ _ => trivial) hc) (.next .start trivial hc')⟩

/-- **A copy over a name that is in use** leaves an object that no name key leads to; it is still
counted in the charge size of its bucket. -/
theorem object_index_overwritten :
    (sampleStart 1).Starts ∧ ∃ c, runSteps Chain.step (sampleStart 1) (sampleBucket ++
        [(sampleCtx, .createObject 7 1 1 0 3), (sampleCtx, .createObject 7 1 2 0 3),
          (sampleCtx, .copyObject 7 1 1 1 2 { expiredHeight := 0 })]) = some c ∧
      c.state.objects.contains 2 = true ∧ (∀ e ∈ c.state.objectIds.entries, e.2 ≠ 2) ∧
      ∃ ibi, c.state.internalBuckets.find? 1 = some ibi ∧ ibi.totalChargeSize = 3 :=
  ⟨sampleStart_starts (by decide), by decide⟩

end Moca.Storage
