/-
# Garbage collection over whole runs

As long as the end of every block gets as far as `PersistDeleteInfo`, and no object with
policies is cancelled or rejected before it is sealed, a deleted resource with entries in the
permission store is always noted, and once there are no new deletions, every end of a block
takes entries until none is left.  `EndBlocker` returns before that if it may not delete
anything, or has deleted as many discontinued objects as it may: the notes of such a block are
lost.
-/

import Moca.Garbage.Collect

namespace Moca.Garbage

open State SortedMap

open Permission (Uint ResourceType Resource)
open Permission.State (NoNew)

variable {s s' : State} {r : Resource} {b : Block} {op : Op}

/-! ### Notes -/

/-- A resource is noted in the block or in an earlier one. -/
def State.Noted (s : State) (r : Resource) : Prop :=
  (∃ info, s.current = some info ∧ info.Notes r) ∨ s.Persisted r

/-- Every deleted resource with entries is noted, and only deleted resources are. -/
structure State.Ok (s : State) : Prop where
  nonzero : ∀ r ∈ s.deleted, r.id ≠ .zero
  noted : ∀ r ∈ s.deleted, 0 < s.permission.entriesOf r → s.Noted r
  deleted : ∀ r, s.Noted r → r ∈ s.deleted
  heights : ∀ height info, s.deleteInfos.find? height = some info → height < s.height

theorem State.empty_ok (params : Permission.Params) : (empty params).Ok := by
  refine ⟨by simp [empty], by simp [empty], ?_, by simp [empty]⟩
  rintro r (⟨info, hinfo, -⟩ | ⟨height, info, hinfo, -⟩)
  · cases hinfo
  · simp [empty] at hinfo

/-- **A resource with entries is found by the checks.** -/
theorem State.hasEntries_of_pos (h : 0 < s.permission.entriesOf r) : s.hasEntries r = true := by
  unfold Permission.State.entriesOf at h
  have hcases : 0 < s.permission.accountEntries r ∨ 0 < s.permission.groupEntries r ∨
      0 < s.permission.memberEntries r := by omega
  unfold hasEntries
  rcases hcases with h | h | h
  · simp [Permission.State.existAccountPolicyForResource_of_pos h]
  · simp [Permission.State.existGroupPolicyForResource_of_pos h]
  · obtain ⟨ht, hmember⟩ := Permission.State.existGroupMemberForGroup_of_pos h
    simp [ht, hmember]

theorem State.ne_unspecified_of_hasEntries (h : s.hasEntries r = true) :
    r.resourceType ≠ .unspecified := by
  intro ht
  simp [hasEntries, Permission.State.existAccountPolicyForResource,
    Permission.State.existGroupPolicyForResource, Permission.policyForAccountPrefix,
    Permission.getPolicyForGroupKey, Permission.accountPolicyPrefix,
    Permission.groupPolicyPrefix, ht] at h

theorem DeleteInfo.append_notes (info : DeleteInfo) (ht : r.resourceType ≠ .unspecified)
    (r' : Resource) : (info.append r).Notes r' ↔ r' = r ∨ info.Notes r' := by
  obtain ⟨t, id⟩ := r
  obtain ⟨t', id'⟩ := r'
  rw [DeleteInfo.Notes, DeleteInfo.append, info.ids_setIds ht]
  dsimp only
  split_ifs with htt
  · subst htt
    simp [DeleteInfo.Notes, or_comm]
  · simp [DeleteInfo.Notes, htt]

/-- **A resource that is deleted while it has entries is noted.** -/
theorem State.noted_appendResourceID (h : s.hasEntries r = true) (r' : Resource) :
    (∃ info, (s.appendResourceID r).current = some info ∧ info.Notes r') ↔
      r' = r ∨ ∃ info, s.current = some info ∧ info.Notes r' := by
  have ht := ne_unspecified_of_hasEntries h
  unfold appendResourceID
  rw [if_pos h]
  rcases hcurrent : s.current with _ | info
  · simp only [Option.getD_none, Option.some.injEq, exists_eq_left', reduceCtorEq, false_and,
      exists_false, or_false, DeleteInfo.append_notes _ ht]
    refine or_iff_left_of_imp fun hnote => ?_
    rcases r' with ⟨_ | _ | _ | _, id⟩ <;> cases hnote
  · simp only [Option.getD_some, Option.some.injEq, exists_eq_left', DeleteInfo.append_notes _ ht]

/-! ### Steps -/

theorem State.nonzero_remove (h : s.Ok) (hexist : s.mayExist r = true) :
    ∀ r' ∈ r :: s.deleted, r'.id ≠ .zero := by
  intro r' hr'
  rcases List.mem_cons.1 hr' with rfl | hr'
  · exact of_decide_eq_true (Bool.and_eq_true_iff.1 hexist).1
  · exact h.nonzero r' hr'

/-- A resource without entries may be removed without a note. -/
theorem State.Ok.remove (h : s.Ok) (hexist : s.mayExist r = true)
    (hzero : s.permission.entriesOf r = 0) : (s.remove r).Ok := by
  refine ⟨nonzero_remove h hexist, fun r' hr' hpos => ?_, fun r' hr' => ?_, h.heights⟩
  · rcases List.mem_cons.1 hr' with rfl | hr'
    · exact absurd hzero hpos.ne'
    · exact h.noted r' hr' hpos
  · exact List.mem_cons_of_mem _ (h.deleted r' hr')

theorem State.Ok.deleteResource (h : s.Ok) (r : Resource) : (s.deleteResource r).Ok := by
  unfold State.deleteResource
  split_ifs with hexist
  · by_cases hentries : s.hasEntries r = true
    · have hnoted := noted_appendResourceID hentries
      have hnonzero := nonzero_remove h hexist
      rw [appendResourceID, if_pos hentries] at hnoted ⊢
      refine ⟨hnonzero, fun r' hr' hpos => ?_, fun r' hr' => ?_, h.heights⟩
      · rcases List.mem_cons.1 hr' with rfl | hr'
        · exact .inl ((hnoted r').2 (.inl rfl))
        · rcases h.noted r' hr' hpos with hcurrent | hpersisted
          · exact .inl ((hnoted r').2 (.inr hcurrent))
          · exact .inr hpersisted
      · rcases hr' with hcurrent | hpersisted
        · rcases (hnoted r').1 hcurrent with rfl | hcurrent
          · exact List.mem_cons_self
          · exact List.mem_cons_of_mem _ (h.deleted r' (.inl hcurrent))
        · exact List.mem_cons_of_mem _ (h.deleted r' (.inr hpersisted))
    · rw [appendResourceID, if_neg hentries]
      refine h.remove hexist (Nat.eq_zero_of_not_pos fun hpos => ?_)
      exact hentries (hasEntries_of_pos hpos)
  · exact h

theorem State.Ok.foldl_deleteResource (h : s.Ok) (l : List Resource) :
    (l.foldl State.deleteResource s).Ok := by
  induction l generalizing s with
  | nil => exact h
  | cons r l ih => exact ih (h.deleteResource r)

theorem State.Ok.permission (h : s.Ok) {op : Permission.Op}
    (hs : s.step (.permission op) = some s') :
    s'.Ok ∧ s'.deleted = s.deleted ∧ ∀ r ∈ s.deleted, NoNew r s.permission s'.permission := by
  simp only [State.step] at hs
  split_ifs at hs with htarget
  obtain ⟨p, hp, rfl⟩ := Option.map_eq_some_iff.1 hs
  have hexec := Except.toOption_eq_some hp
  have hnew : ∀ r ∈ s.deleted, NoNew r s.permission p := by
    intro r hr
    refine Permission.State.exec_noNew (h.nonzero r hr) (fun r' hr' => ?_) hexec
    rw [hr', Option.all_some] at htarget
    obtain ⟨hid, hdeleted⟩ := Bool.and_eq_true_iff.1 htarget
    refine ⟨of_decide_eq_true hid, ?_⟩
    rintro rfl
    exact of_decide_eq_true hdeleted hr
  refine ⟨⟨h.nonzero, fun r hr hpos => ?_, h.deleted, h.heights⟩, rfl, hnew⟩
  exact h.noted r hr (hpos.trans_le (hnew r hr).entriesOf)

/-- **`PersistDeleteInfo` keeps all notes.** -/
theorem State.Ok.persistDeleteInfo (h : s.Ok) (r : Resource) :
    s.persistDeleteInfo.Persisted r ↔ s.Noted r := by
  unfold State.persistDeleteInfo
  rcases hcurrent : s.current with _ | info
  · constructor
    · exact .inr
    · rintro (⟨info, hinfo, -⟩ | hpersisted)
      · rw [hcurrent] at hinfo
        cases hinfo
      · exact hpersisted
  · dsimp only
    split_ifs with hempty
    · constructor
      · exact .inr
      · rintro (⟨info', hinfo, hnote⟩ | hpersisted)
        · obtain rfl := Option.some.inj (hcurrent.symm.trans hinfo)
          simp only [DeleteInfo.isEmpty, Bool.and_eq_true, List.isEmpty_iff] at hempty
          obtain ⟨⟨hb, ho⟩, hg⟩ := hempty
          rcases r with ⟨_ | _ | _ | _, id⟩ <;>
            simp [DeleteInfo.Notes, DeleteInfo.ids, hb, ho, hg] at hnote
        · exact hpersisted
    · -- no earlier note has the height of the block
      have hfresh : s.deleteInfos.find? s.height = none := by
        rcases hfind : s.deleteInfos.find? s.height with _ | info'
        · rfl
        · exact absurd (h.heights _ _ hfind) (lt_irrefl _)
      constructor
      · rintro ⟨height, info', hfind, hnote⟩
        dsimp only at hfind
        rw [find?_insert] at hfind
        split_ifs at hfind
        · cases hfind
          exact .inl ⟨info, hcurrent, hnote⟩
        · exact .inr ⟨height, info', hfind, hnote⟩
      · rintro (⟨info', hinfo, hnote⟩ | ⟨height, info', hfind, hnote⟩)
        · obtain rfl := Option.some.inj (hcurrent.symm.trans hinfo)
          exact ⟨s.height, info, find?_insert_self _ _ _, hnote⟩
        · refine ⟨height, info', (find?_insert_of_ne _ _ ?_).trans hfind, hnote⟩
          rintro rfl
          rw [hfresh] at hfind
          cases hfind

theorem State.persistDeleteInfo_same (s : State) :
    s.persistDeleteInfo.permission = s.permission ∧ s.persistDeleteInfo.deleted = s.deleted ∧
      s.persistDeleteInfo.height = s.height := by
  unfold State.persistDeleteInfo
  split
  · exact ⟨rfl, rfl, rfl⟩
  · split_ifs <;> exact ⟨rfl, rfl, rfl⟩

theorem State.Ok.persistDeleteInfo_heights (h : s.Ok) (height : ℕ) (info : DeleteInfo)
    (hfind : s.persistDeleteInfo.deleteInfos.find? height = some info) : height < s.height + 1 := by
  unfold State.persistDeleteInfo at hfind
  split at hfind
  · exact Nat.lt_succ_of_lt (h.heights _ _ hfind)
  · split_ifs at hfind
    · exact Nat.lt_succ_of_lt (h.heights _ _ hfind)
    · dsimp only at hfind
      rw [find?_insert] at hfind
      split_ifs at hfind with heq
      · omega
      · exact Nat.lt_succ_of_lt (h.heights _ _ hfind)

/-- The deletions of a block, before its notes are persisted. -/
def State.deletions (s : State) (b : Block) : State :=
  (b.dueObjects.map (Resource.mk .object) ++ b.bucketDeletions).foldl State.deleteResource s

theorem State.deleteResource_same (s : State) (r : Resource) :
    (s.deleteResource r).height = s.height ∧ (s.deleteResource r).deleteInfos = s.deleteInfos := by
  unfold State.deleteResource appendResourceID
  split_ifs <;> exact ⟨rfl, rfl⟩

theorem State.deletions_height (s : State) (b : Block) : (s.deletions b).height = s.height := by
  unfold deletions
  induction b.dueObjects.map (Resource.mk .object) ++ b.bucketDeletions generalizing s with
  | nil => rfl
  | cons r l ih => exact (ih _).trans (s.deleteResource_same r).1

theorem State.endBlocker_of_lt (hb : b.dueObjects.length < b.discontinueDeletionMax) :
    s.endBlocker b =
      (s.deletions b).persistDeleteInfo.garbageCollectResourcesStalePolicy
        b.stalePolicyCleanupMax := by
  have htake : b.dueObjects.take b.discontinueDeletionMax = b.dueObjects :=
    List.take_of_length_le hb.le
  unfold endBlocker deletions
  rw [if_neg (by omega), htake, if_neg (by omega), List.foldl_append, List.foldl_map]

/-- **The end of a block that collects.** -/
theorem State.Ok.endBlock (h : s.Ok) (hb : b.dueObjects.length < b.discontinueDeletionMax) :
    (s.endBlock b).Ok ∧ (s.endBlock b).deleted = (s.deletions b).deleted ∧
      ((∀ r ∈ (s.endBlock b).deleted, (s.endBlock b).permission.entriesOf r = 0) ∨
        total (s.deletions b).deleted (s.endBlock b).permission + b.stalePolicyCleanupMax ≤
          total (s.deletions b).deleted (s.deletions b).permission) := by
  have hok : (s.deletions b).Ok := h.foldl_deleteResource _
  obtain ⟨hpermission, hdeleted, hheight⟩ := (s.deletions b).persistDeleteInfo_same
  obtain ⟨hcollected, htotal⟩ := garbageCollect_spec b.stalePolicyCleanupMax
    (D := (s.deletions b).deleted)
    fun r hr => hok.deleted r ((hok.persistDeleteInfo r).1 hr)
  have hnew := hcollected.noNew
  rw [hpermission] at hnew htotal
  -- a resource that still has entries had some before, and was noted
  have hpersisted : ∀ r ∈ (s.deletions b).deleted,
      0 < ((s.deletions b).persistDeleteInfo.garbageCollectResourcesStalePolicy
        b.stalePolicyCleanupMax).permission.entriesOf r →
      (s.deletions b).persistDeleteInfo.Persisted r := fun r hr hpos =>
    (hok.persistDeleteInfo r).2 (hok.noted r hr (hpos.trans_le (hnew r).entriesOf))
  have hkeep := hcollected.deleted.trans hdeleted
  unfold State.endBlock
  rw [endBlocker_of_lt hb]
  refine ⟨⟨?_, ?_, ?_, ?_⟩, hkeep, ?_⟩
  · dsimp only
    rw [hkeep]
    exact hok.nonzero
  · dsimp only
    rw [hkeep]
    intro r hr hpos
    rcases hcollected.covers r (hpersisted r hr hpos) with hp | hzero
    · exact .inr hp
    · exact absurd hpos (by rw [hzero]; exact lt_irrefl 0)
  · rintro r (⟨info, hinfo, -⟩ | hp)
    · cases hinfo
    · dsimp only
      rw [hkeep]
      exact hok.deleted r ((hok.persistDeleteInfo r).1 (hcollected.subset r hp))
  · intro height info hfind
    obtain ⟨info₂, hfind₂⟩ := Option.ne_none_iff_exists'.1 (hcollected.heights height info hfind)
    have hlt := hok.persistDeleteInfo_heights height info₂ hfind₂
    rwa [s.deletions_height b] at hlt
  · dsimp only
    rw [hkeep]
    rcases htotal with hzero | htotal
    · refine .inl fun r hr => ?_
      by_contra hpos
      exact hpos (hzero r (hpersisted r hr (Nat.pos_of_ne_zero hpos)))
    · exact .inr htotal

/-! ### Runs -/

/-- The end of a block gets as far as `PersistDeleteInfo`, and an object that is cancelled or
rejected has no policies. -/
def Op.Collects (s : State) : Op → Prop
  | .cancel id => s.permission.entriesOf ⟨.object, id⟩ = 0
  | .endBlock b => b.dueObjects.length < b.discontinueDeletionMax
  | _ => True

instance Op.collectsDecidable (s : State) : ∀ op : Op, Decidable (op.Collects s)
  | .cancel id => inferInstanceAs (Decidable (s.permission.entriesOf ⟨.object, id⟩ = 0))
  | .endBlock b => inferInstanceAs (Decidable (b.dueObjects.length < b.discontinueDeletionMax))
  | .permission _ => isTrue trivial
  | .delete _ => isTrue trivial

theorem State.Ok.step (h : s.Ok) (hop : op.Collects s) (hs : s.step op = some s') : s'.Ok := by
  rcases op with op | r | id | b
  · exact (h.permission hs).1
  · simp only [State.step] at hs
    split_ifs at hs
    cases hs
    exact h.deleteResource r
  · simp only [State.step] at hs
    split_ifs at hs with hexist
    cases hs
    exact h.remove hexist hop
  · cases hs
    exact (h.endBlock hop).1

/-- The states of runs in which the end of every block gets as far as `PersistDeleteInfo`, and
no object with policies is cancelled or rejected. -/
def State.Reached (params : Permission.Params) (s : State) : Prop :=
  Reachable State.step (fun s op => op.Collects s) (empty params) s

theorem State.Reached.ok {params : Permission.Params} (h : s.Reached params) : s.Ok :=
  Reachable.invariant Ok (empty_ok params) (fun _ _ _ hs hop hstep => hs.step hop hstep)
    h

/-- Nothing new is deleted, and the limits allow at least one deletion each. -/
def Op.Quiet : Op → Prop
  | .permission _ => True
  | .delete _ => False
  | .cancel _ => False
  | .endBlock b => b.dueObjects = [] ∧ b.bucketDeletions = [] ∧ 1 ≤ b.discontinueDeletionMax ∧
    1 ≤ b.stalePolicyCleanupMax

/-- The number of blocks that end. -/
def blocks : List Op → ℕ
  | [] => 0
  | .endBlock _ :: l => blocks l + 1
  | _ :: l => blocks l

/-- **A quiet step adds no entries, and the end of a block takes some or there are none.** -/
theorem State.Ok.quiet_step (h : s.Ok) (hop : op.Quiet) (hs : s.step op = some s') :
    s'.Ok ∧ s'.deleted = s.deleted ∧
      (total s.deleted s'.permission = 0 ∨
        total s.deleted s'.permission + blocks [op] ≤ total s.deleted s.permission) := by
  rcases op with op | r | id | b
  · obtain ⟨hok, hdeleted, hnew⟩ := h.permission hs
    exact ⟨hok, hdeleted, .inr (List.sum_le_sum fun r hr => (hnew r hr).entriesOf)⟩
  · exact hop.elim
  · exact hop.elim
  · obtain ⟨hdue, hbuckets, hmax, hclean⟩ := hop
    cases hs
    have hsame : s.deletions b = s := by simp [deletions, hdue, hbuckets]
    obtain ⟨hok, hdeleted, htotal⟩ := h.endBlock (b := b) (by simp [hdue]; omega)
    rw [hsame] at hdeleted htotal
    refine ⟨hok, hdeleted, ?_⟩
    rcases htotal with hzero | htotal
    · refine .inl (List.sum_eq_zero fun n hn => ?_)
      obtain ⟨r, hr, rfl⟩ := List.mem_map.1 hn
      exact hzero r (hdeleted ▸ hr)
    · refine .inr ?_
      show _ + 1 ≤ _
      omega

theorem State.Ok.quiet_run (h : s.Ok) {l : List Op} (hl : ∀ op ∈ l, op.Quiet)
    (hs : runSteps State.step s l = some s') :
    total s.deleted s'.permission = 0 ∨
      total s.deleted s'.permission + blocks l ≤ total s.deleted s.permission := by
  induction l generalizing s with
  | nil =>
    cases hs
    exact .inr le_rfl
  | cons op l ih =>
    obtain ⟨s₁, hs₁, hrun⟩ := Option.bind_eq_some_iff.1 hs
    obtain ⟨hok, hdeleted, hstep⟩ := h.quiet_step (hl op List.mem_cons_self) hs₁
    have htail := ih hok (fun op' hop' => hl op' (List.mem_cons_of_mem _ hop')) hrun
    rw [hdeleted] at htail
    have hblocks : blocks (op :: l) = blocks [op] + blocks l := by
      rcases op with op | r | id | b <;> simp [blocks, Nat.add_comm]
    omega

theorem State.foldl_deleteResource_deleteInfos (l : List Uint) (s : State) :
    (l.foldl (fun s id => s.deleteResource ⟨.object, id⟩) s).deleteInfos = s.deleteInfos := by
  induction l generalizing s with
  | nil => rfl
  | cons id l ih =>
    exact (ih _).trans (s.deleteResource_same ⟨.object, id⟩).2

/-- **The end of a block that returns early persists nothing.** -/
theorem State.endBlock_of_le (hb : b.discontinueDeletionMax ≤ b.dueObjects.length) :
    (s.endBlock b).deleteInfos = s.deleteInfos ∧ (s.endBlock b).current = none := by
  refine ⟨?_, rfl⟩
  unfold State.endBlock endBlocker
  dsimp only
  split_ifs with hzero htake
  · rfl
  · exact foldl_deleteResource_deleteInfos _ s
  · rw [List.length_take, min_eq_left hb] at htake
    exact absurd le_rfl htake

/-- **Garbage collection is complete as long as the end of every block gets to it.**  In the runs
in which fewer discontinued objects are due at the end of a block than may be deleted, and no
object with policies is cancelled or rejected:

* a resource that is passed to `appendResourceIDForGarbageCollection` while it has an entry is
  noted in the block, and `PersistDeleteInfo` persists every note of the block;
* after the end of a block, every deleted resource is noted in the persistent store or has no
  entry left, as the collector runs in the same `EndBlocker`;
* after as many further blocks without new deletions as there are entries left, and one more,
  no deleted resource has an entry, whatever else happens to the permission store.

At the end of any other block the persistent notes stay as they are and those of the block are
dropped. -/
theorem garbage_collection_complete {params : Permission.Params} {s : State}
    (h : s.Reached params) :
    (∀ r, 0 < s.permission.entriesOf r →
      ∃ info, (s.appendResourceID r).current = some info ∧ info.Notes r) ∧
    (∀ r, s.Noted r → s.persistDeleteInfo.Persisted r) ∧
    (∀ b : Block, b.dueObjects.length < b.discontinueDeletionMax →
      ∀ r ∈ (s.endBlock b).deleted,
        (s.endBlock b).Persisted r ∨ (s.endBlock b).permission.entriesOf r = 0) ∧
    (∀ b : Block, b.discontinueDeletionMax ≤ b.dueObjects.length →
      (s.endBlock b).deleteInfos = s.deleteInfos ∧ (s.endBlock b).current = none) ∧
    (∀ l s', (∀ op ∈ l, op.Quiet) → runSteps State.step s l = some s' →
      total s.deleted s.permission < blocks l → ∀ r ∈ s.deleted, s'.permission.entriesOf r = 0) := by
  have hok := h.ok
  refine ⟨fun r hpos => ?_, fun r hr => (hok.persistDeleteInfo r).2 hr, fun b hb r hr => ?_,
    fun b hb => endBlock_of_le hb, fun l s' hl hs hlen r hr => ?_⟩
  · exact (noted_appendResourceID (hasEntries_of_pos hpos) r).2 (.inl rfl)
  · by_cases hzero : (s.endBlock b).permission.entriesOf r = 0
    · exact .inr hzero
    · have hend := (hok.endBlock hb).1
      rcases hend.noted r hr (Nat.pos_of_ne_zero hzero) with ⟨info, hinfo, -⟩ | hpersisted
      · cases hinfo
      · exact .inl hpersisted
  · have htotal : total s.deleted s'.permission = 0 := by
      rcases hok.quiet_run hl hs with hzero | hle
      · exact hzero
      · omega
    exact (List.sum_eq_zero_iff.1 htotal) _ (List.mem_map_of_mem hr)

/-- An object with a policy of an account. -/
def sampleObject : Resource := ⟨.object, ⟨1, by decide⟩⟩

/-- The policy of the sample object. -/
def samplePut : Op :=
  .permission (.putPolicy
    { principal := .account Permission.zeroAddress
      resourceType := .object, resourceId := sampleObject.id })

/-- The end of a block with limits of one and nothing to delete. -/
def quietBlock : Block := { discontinueDeletionMax := 1, stalePolicyCleanupMax := 1 }

theorem garbage_collection_complete_sample : ∃ s s' : State, s.Reached {} ∧
    0 < s.permission.entriesOf sampleObject ∧ sampleObject ∈ s.deleted ∧
    runSteps State.step s [.endBlock quietBlock, .endBlock quietBlock] = some s' ∧
    s'.permission.entriesOf sampleObject = 0 := by
  obtain ⟨s, hs, hpos, hdeleted, htotal, s', hs', -⟩ : ∃ s,
      runSteps State.step (empty {})
        [samplePut, .cancel ⟨2, by decide⟩, .delete sampleObject] = some s ∧
      0 < s.permission.entriesOf sampleObject ∧ sampleObject ∈ s.deleted ∧
      total s.deleted s.permission < 2 ∧
      ∃ s', runSteps State.step s [.endBlock quietBlock, .endBlock quietBlock] = some s' ∧ True := by
    decide +kernel
  have hreached : s.Reached {} := Reachable.of_runSteps .start (by decide +kernel) hs
  obtain ⟨-, -, -, -, hquiet⟩ := garbage_collection_complete hreached
  refine ⟨s, s', hreached, hpos, hdeleted, hs', hquiet _ s' ?_ hs' htotal _ hdeleted⟩
  intro op hop
  rcases List.mem_cons.1 hop with rfl | hop
  · exact ⟨rfl, rfl, le_rfl, le_rfl⟩
  · obtain rfl := List.mem_singleton.1 hop
    exact ⟨rfl, rfl, le_rfl, le_rfl⟩

/-- The sample object was deleted and has a policy, which nothing is left to collect. -/
def State.LeftBehind (s : State) : Prop :=
  sampleObject ∈ s.deleted ∧ 0 < s.permission.entriesOf sampleObject ∧ s.current = none ∧
    s.deleteInfos.entries = []

instance (s : State) : Decidable s.LeftBehind := inferInstanceAs (Decidable (_ ∧ _))

/-- **A block that deletes as many discontinued objects as it may loses its notes**, and an object
that is cancelled before it is sealed is not noted.  The object has a policy, and is due at the
end of the block or cancelled in it; the policy is still there after two more blocks. -/
theorem garbage_notes_lost :
    (∃ s : State, runSteps State.step (empty {})
      [samplePut, .endBlock { quietBlock with dueObjects := [⟨1, by decide⟩] },
        .endBlock quietBlock, .endBlock quietBlock] = some s ∧ s.LeftBehind) ∧
    ∃ s : State, runSteps State.step (empty {})
      [samplePut, .cancel ⟨1, by decide⟩, .endBlock quietBlock, .endBlock quietBlock] = some s ∧
        s.LeftBehind := by
  decide +kernel

end Moca.Garbage
