/-
# The names and the history in the runs of `x/storage`

Every operation that succeeds is a sequence of writes at the time of its block (`exec_writes`), in
which new objects take unused names if the operation copies to none that is in use.  So the names
are in order in every state of a run (`Chain.names_ok`), and a run writes prices and parameters at
the times of its blocks only (`Chain.recordedAt`).
-/

import Moca.Storage.Steps

namespace Moca.Storage

open SortedMap

variable {ctx : Ctx} {s s' : State} {unused : Prop} {T : Set ℤ} {op : VirtualGroup.Op}
  {c c' : Chain} {guard : Chain → Ctx × Op → Prop}

/-- The name that `CopyObject` writes to. -/
def Op.copyTarget : Op → Option ObjectKey
  | .copyObject _ _ _ dstBucketName dstObjectName _ => some ⟨dstBucketName, dstObjectName⟩
  | _ => none

/-! ### The other modules -/

/-- The messages of `x/payment` write parameters at the time of the block. -/
theorem payment_recordedAt {op : Payment.Op} {pctx : Payment.Ctx} {p p' : Payment.State}
    (ht : pctx.blockTime ∈ T) (h : op.run pctx p = .ok p') :
    WrittenAt T p.versionedParams p'.versionedParams := by
  by_cases hop : ∃ params, op = .updateParams params
  · obtain ⟨params, rfl⟩ := hop
    have h' : Payment.updateParams pctx p params = .ok p' := h
    unfold Payment.updateParams at h'
    split_ifs at h'
    cases h'
    exact .insert _ _ ht
  · exact .of_eq (Payment.run_versions h fun params heq => hop ⟨params, heq⟩)

/-- The messages of `x/virtualgroup` write no parameters of `x/payment`. -/
theorem virtualGroup_versions {vctx : VirtualGroup.Ctx} {vg vg' : VirtualGroup.State}
    (hop : isVirtualGroupMessage op = true) (h : op.run vctx vg = .ok vg') :
    vg'.payment.versionedParams = vg.payment.versionedParams := by
  refine VirtualGroup.run_versions h ?_ ?_ ?_
  · rintro store rfl
    simp [isVirtualGroupMessage] at hop
  · rintro o rfl
    simp [isVirtualGroupMessage] at hop
  · rintro gvgID size rfl
    simp [isVirtualGroupMessage] at hop

theorem runVirtualGroup_quiet {now : ℤ} (hop : isVirtualGroupMessage op = true)
    (h : s.runVirtualGroup ctx op = .ok s') : Quiet now s s' := by
  unfold State.runVirtualGroup at h
  split at h
  · simp at h
  · obtain ⟨vg, hvg, h⟩ := bind_eq_ok.1 h
    cases h
    exact .of_eq (virtualGroup_versions hop (ofVirtualGroup_eq_ok.1 hvg)) rfl

/-! ### Operations -/

/-- **Every operation that succeeds is a sequence of writes.** -/
theorem exec_writes {op : Op} (hs : s.names.Ok)
    (hunused : unused → ∀ k ∈ op.copyTarget, s.objectIds.find? k = none)
    (h : op.exec ctx s = .ok s') : Writes unused ctx.blockTime s s' := by
  cases op with
  | createBucket => exact createBucket_writes h
  | deleteBucket => exact deleteBucket_writes h
  | updateBucketInfo => exact updateBucketInfo_writes h
  | toggleSPAsDelegatedAgent => exact toggleSPAsDelegatedAgent_writes h
  | discontinueBucket => exact discontinueBucket_writes h
  | migrateBucket => exact migrateBucket_writes h
  | cancelMigrateBucket => exact cancelBucketMigration_writes h
  | rejectMigrateBucket => exact rejectBucketMigration_writes h
  | completeMigrateBucket => exact completeMigrateBucket_writes h
  | setBucketFlowRateLimit => exact setBucketFlowRateLimit_writes h
  | createObject =>
    obtain ⟨_, -, h⟩ := bind_eq_ok.1 h
    exact createObject_writes h
  | delegateCreateObject => exact createObject_writes h
  | copyObject => exact copyObject_writes hs (fun hu => hunused hu _ rfl) h
  | sealObject => exact sealObject_writes hs h
  | sealObjectV2 => exact sealObject_writes hs h
  | cancelCreateObject => exact cancelCreateObject_writes hs h
  | deleteObject => exact deleteObject_writes hs h
  | rejectSealObject => exact rejectSealObject_writes hs h
  | discontinueObject => exact discontinueObject_writes h
  | updateObjectInfo =>
    obtain ⟨_, -, h⟩ := bind_eq_ok.1 h
    obtain ⟨_, -, h⟩ := bind_eq_ok.1 h
    obtain ⟨_, -, h⟩ := bind_eq_ok.1 h
    cases h
    exact .refl s
  | updateObjectContent =>
    obtain ⟨_, -, h⟩ := bind_eq_ok.1 h
    exact updateObjectContent_writes hs h
  | delegateUpdateObjectContent => exact updateObjectContent_writes hs h
  | cancelUpdateObjectContent => exact cancelUpdateObjectContent_writes hs h
  | updateParams p =>
    have h' : updateParams ctx s p = .ok s' := h
    unfold updateParams at h'
    split_ifs at h'
    cases h'
    exact Quiet.writes ⟨⟨.refl _ _, .insert _ _ rfl, .refl _ _⟩, rfl⟩
  | beginBlock =>
    cases h
    unfold beginBlocker
    split_ifs
    · exact .of_eq rfl rfl
    · exact .refl s
  | endBlock => exact endBlocker_writes hs h
  | setGlobalSpStorePrice price =>
    cases h
    exact Quiet.writes ⟨⟨.refl _ _, .refl _ _, .insert _ _ rfl⟩, rfl⟩
  | sp store =>
    simp only [Op.exec] at h
    split_ifs at h
    cases h
    exact .of_eq rfl rfl
  | payment op =>
    simp only [Op.exec] at h
    split_ifs at h
    obtain ⟨p, hp, h⟩ := bind_eq_ok.1 h
    cases h
    exact Quiet.writes
      ⟨⟨payment_recordedAt rfl (ofPayment_eq_ok.1 hp), .refl _ _, .refl _ _⟩, rfl⟩
  | virtualGroup op =>
    simp only [Op.exec] at h
    split_ifs at h with hop
    exact (runVirtualGroup_quiet hop h).writes

/-- A step of the chain is a sequence of writes, whether its operation succeeds or not. -/
theorem step_writes {l : Ctx × Op} (hs : c.state.names.Ok)
    (hunused : unused → ∀ k ∈ l.2.copyTarget, c.state.objectIds.find? k = none)
    (h : c.step l = some c') : Writes unused l.1.blockTime c.state c'.state := by
  obtain ⟨-, -, hrun | heq⟩ := step_eq_some h
  · have hwrites : Writes unused (l.1.withForced false).blockTime c.state c'.state :=
      exec_writes hs hunused hrun
    exact hwrites
  · rw [heq]
    exact .refl _

/-! ### Runs -/

/-- The chain at its start: there are no buckets and objects, and the parameters are validated. -/
structure Chain.Starts (c : Chain) : Prop where
  empty : ∃ p versionedParams prices vg, c.state = State.empty p versionedParams prices vg
  versions : ∀ t v, c.state.versionedParams.find? t = some v → v.validate = true
  time : 0 ≤ c.time

/-- There is nothing to be found at the start. -/
theorem Chain.Starts.names (h : c.Starts) : c.state.names.Ok ∧ c.state.names.Indexed := by
  obtain ⟨p, versionedParams, prices, vg, heq⟩ := h.empty
  rw [heq]
  refine ⟨⟨?_, ?_, ?_, ?_⟩, ?_⟩
  · intro _ _ _ hid
    cases hid
  · intro _ _ hid
    cases hid
  · intro _ _ hid
    cases hid
  · intro _ _ ho
    cases ho
  · intro _ _ ho
    cases ho

/-- **The names are in order in every state of a run.** -/
theorem Chain.names_ok (hc : c.state.names.Ok) (h : Reachable Chain.step guard c c') :
    c'.state.names.Ok := by
  refine h.invariant (fun c => c.state.names.Ok) hc fun c₁ l c₂ hok _ hstep => ?_
  have hwrites : Writes False l.1.blockTime c₁.state c₂.state :=
    step_writes hok False.elim hstep
  exact hok.steps hwrites.names

/-- **A run of the chain records prices and parameters at the times of its blocks.** -/
theorem Chain.recordedAt (hc : c.state.names.Ok) (hguard : ∀ c l, guard c l → l.1.blockTime ∈ T)
    (h : Reachable Chain.step guard c c') : c.state.RecordedAt T c'.state := by
  refine (h.invariant (fun c₁ => c₁.state.names.Ok ∧ c.state.RecordedAt T c₁.state)
    ⟨hc, .refl T _⟩ fun c₁ l c₂ ⟨hok, hrec⟩ hl hstep => ?_).2
  have hwrites : Writes False l.1.blockTime c₁.state c₂.state :=
    step_writes hok False.elim hstep
  exact ⟨hok.steps hwrites.names,
    hrec.trans (hwrites.recorded.mono (Set.singleton_subset_iff.2 (hguard c₁ l hl)))⟩

end Moca.Storage
