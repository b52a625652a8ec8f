/-
# The calls that were not reverted

`History` keeps the calls of a run that no revert has undone.  What is kept by every call, and
passes to a state that has what the state before has (`StateDB.Le`), holds of the state and its
history along every run, with snapshots and reverts to them (`History.Along.run`): a revert
comes back to a state that has what the state at the snapshot had, and to the history of then.
-/

import Moca.Evm.Revert

namespace Moca.Evm

/-- The calls that were not reverted, and how many of them there were at each snapshot. -/
structure History where
  calls : List Call
  marks : List (ℕ × ℕ)
  next : ℕ

namespace History

def new : History := ⟨[], [], 0⟩

/-- A snapshot is numbered in order; reverting to it forgets the calls since. -/
def step (h : History) : Call → History
  | .snapshot => { h with marks := h.marks ++ [(h.next, h.calls.length)], next := h.next + 1 }
  | .revertToSnapshot revid =>
    match h.marks.span fun m => decide (m.1 ≠ revid) with
    | (before, (_, n) :: _) => { h with calls := h.calls.take n, marks := before }
    | (_, []) => h
  | c => { h with calls := h.calls ++ [c] }

/-- The history of a sequence of calls. -/
def of (calls : List Call) : History := calls.foldl step new

end History

open StateDB

/-- **What holds along a run**: the property holds of the history and the state, the snapshots of
the history are the revisions, and the entries made since each of them lead back to a state that
had the property with the history then. -/
structure History.Along (env : Env) (P : List Call → StateDB → Prop) (h : History) (s : StateDB) :
    Prop where
  ok : Ok env s
  ids : s.validRevisions.map Revision.id = h.marks.map Prod.fst
  next : s.nextRevisionID = h.next
  sorted : h.marks.Pairwise fun m m' => m.1 < m'.1 ∧ m.2 ≤ m'.2
  below : ∀ m ∈ h.marks, m.1 < h.next ∧ m.2 ≤ h.calls.length
  holds : P h.calls s
  since : ∀ m ∈ h.marks, ∃ b, Ok env b ∧ b.Numbered ∧ b.snapshot.2 = m.1 ∧
    Traces env b.snapshot.1 s ∧ P (h.calls.take m.2) b

namespace History

/-- A state that has what another has keeps its property. -/
def Stable (env : Env) (P : List Call → StateDB → Prop) : Prop :=
  ∀ ⦃calls s t⦄, P calls s → StateDB.Le env s t → P calls t

variable {env : Env} {P : List Call → StateDB → Prop} {h : History} {s t : StateDB}

theorem Along.numbered (ha : Along env P h s) : s.Numbered := by
  intro r hr
  have hmem : r.id ∈ h.marks.map Prod.fst := ha.ids ▸ List.mem_map_of_mem hr
  obtain ⟨m, hm, hid⟩ := List.mem_map.1 hmem
  rw [← hid, ha.next]
  exact (ha.below m hm).1

theorem Along.snapshot (hP : Stable env P) (ha : Along env P h s) :
    Along env P (h.step .snapshot) s.snapshot.1 := by
  have hok : Ok env s.snapshot.1 := ha.ok.of_le (le_snapshot s) ha.ok.objects
  refine ⟨hok, ?_, ?_, ?_, ?_, ?_, ?_⟩
  · simp [StateDB.snapshot, step, ha.ids, ha.next]
  · simp [StateDB.snapshot, step, ha.next]
  · refine List.pairwise_append.2 ⟨ha.sorted, List.pairwise_singleton _ _, fun m hm m' hm' => ?_⟩
    rw [List.mem_singleton.1 hm']
    exact ha.below m hm
  · intro m hm
    rcases List.mem_append.1 hm with hm | hm
    · exact ⟨(ha.below m hm).1.trans (Nat.lt_succ_self _), (ha.below m hm).2⟩
    · rw [List.mem_singleton.1 hm]
      exact ⟨Nat.lt_succ_self _, le_rfl⟩
  · exact hP ha.holds (le_snapshot s)
  · intro m hm
    rcases List.mem_append.1 hm with hm | hm
    · obtain ⟨b, hb, hids, hid, htrace, hheld⟩ := ha.since m hm
      exact ⟨b, hb, hids, hid, htrace.snapshot, hheld⟩
    · rw [List.mem_singleton.1 hm]
      refine ⟨s, ha.ok, ha.numbered, ha.next, .refl hok, ?_⟩
      show P (h.calls.take h.calls.length) s
      rw [List.take_length]
      exact ha.holds

theorem Along.call (ha : Along env P h s) {c : Call} (hsnap : c ≠ .snapshot)
    (hrev : ∀ revid, c ≠ .revertToSnapshot revid) (hexec : c.exec env s = .ok t)
    (hcall : P (h.calls ++ [c]) t) : Along env P (h.step c) t := by
  have hfollows := follows_exec ha.ok hsnap hrev hexec
  have hstep : h.step c = { h with calls := h.calls ++ [c] } := by
    cases c <;> first | rfl | exact absurd rfl hsnap | exact absurd rfl (hrev _)
  rw [hstep]
  refine ⟨hfollows.ok, ?_, ?_, ha.sorted, ?_, hcall, ?_⟩
  · rw [hfollows.validRevisions]
    exact ha.ids
  · rw [hfollows.nextRevisionID]
    exact ha.next
  · intro m hm
    have hbelow := ha.below m hm
    rw [List.length_append]
    exact ⟨hbelow.1, hbelow.2.trans (Nat.le_add_right _ _)⟩
  · intro m hm
    obtain ⟨b, hb, hids, hid, htrace, hheld⟩ := ha.since m hm
    refine ⟨b, hb, hids, hid, htrace.follows hfollows, ?_⟩
    rw [List.take_append_of_le_length (ha.below m hm).2]
    exact hheld

theorem Along.revertToSnapshot (hP : Stable env P) (ha : Along env P h s) {revid : ℕ}
    (hexec : s.revertToSnapshot env revid = .ok t) :
    Along env P (h.step (.revertToSnapshot revid)) t := by
  obtain ⟨rs, r, rs', s₁, hv, rfl, hjournal, ht⟩ := revertToSnapshot_eq_ok hexec
  -- the mark of the revision, and those before it, which are kept
  have hids := ha.ids
  rw [hv, List.map_append, List.map_cons] at hids
  obtain ⟨ms, ms₁, hmarks, hms, hms₁⟩ := List.map_eq_append_iff.1 hids.symm
  obtain ⟨m, ms', rfl, hm, -⟩ := List.map_eq_cons_iff.1 hms₁
  have hmem : m ∈ h.marks := by simp [hmarks]
  have hsorted := ha.sorted
  rw [hmarks] at hsorted
  obtain ⟨hsorted, -, hcross⟩ := List.pairwise_append.1 hsorted
  have hbefore : ∀ m' ∈ ms, m' ∈ h.marks ∧ m'.1 < m.1 ∧ m'.2 ≤ m.2 := fun m' hm' =>
    ⟨by simp [hmarks, hm'], hcross m' hm' m List.mem_cons_self⟩
  have hstep : h.step (.revertToSnapshot r.id) =
      { h with calls := h.calls.take m.2, marks := ms } := by
    have hspan : h.marks.span (fun m => decide (m.1 ≠ r.id)) = (ms, m :: ms') := by
      have hne : ∀ m' ∈ ms, decide (m'.1 ≠ r.id) = true := fun m' hm' =>
        decide_eq_true (hm ▸ (hbefore m' hm').2.1.ne)
      rw [List.span_eq_takeWhile_dropWhile, hmarks, List.takeWhile_append_of_pos hne,
        List.dropWhile_append_of_pos hne]
      simp [hm]
    simp only [step, hspan]
  -- what the revert leads to has the answers of the state the snapshot was taken in
  obtain ⟨b, hb, hnumbered, hid, htrace, hheld⟩ := ha.since m hmem
  obtain ⟨t', ht', hok, hle⟩ := htrace.restores hb hnumbered
  rw [hid, hm] at ht'
  obtain rfl := Except.ok.inj (ht'.symm.trans hexec)
  obtain ⟨s₂, hrewind, hs₁⟩ := bind_eq_ok.1 hjournal
  obtain ⟨-, hvalid, hnext⟩ := rewind_frame hrewind
  cases hs₁
  rw [hstep]
  refine ⟨hok, ?_, ?_, hsorted, ?_, hP hheld hle, ?_⟩
  · rw [ht, hms]
    show (s₂.validRevisions.take rs.length).map _ = _
    rw [hvalid, hv, List.take_left]
  · rw [ht]
    exact hnext.trans ha.next
  · intro m' hm'
    obtain ⟨hmem', -, hlen⟩ := hbefore m' hm'
    rw [List.length_take]
    exact ⟨(ha.below m' hmem').1, le_min hlen (ha.below m' hmem').2⟩
  · intro m' hm'
    obtain ⟨hmem', hlt, hlen⟩ := hbefore m' hm'
    obtain ⟨b', hb', hnumbered', hid', htrace', hheld'⟩ := ha.since m' hmem'
    have hrevid : b'.snapshot.1.nextRevisionID ≤ r.id := by
      show b'.snapshot.2 + 1 ≤ r.id
      omega
    refine ⟨b', hb', hnumbered', hid',
      htrace'.revertToSnapshot hnumbered'.snapshot hrevid hexec, ?_⟩
    rw [List.take_take, min_eq_left hlen]
    exact hheld'

/-- A call keeps the history along. -/
theorem Along.exec (hP : Stable env P) (ha : Along env P h s) {c : Call}
    (hcall : c ≠ .snapshot → (∀ revid, c ≠ .revertToSnapshot revid) → P (h.calls ++ [c]) t)
    (hexec : c.exec env s = .ok t) : Along env P (h.step c) t := by
  by_cases hsnap : c = .snapshot
  · subst hsnap
    cases hexec
    exact ha.snapshot hP
  · by_cases hrev : ∃ revid, c = .revertToSnapshot revid
    · obtain ⟨revid, rfl⟩ := hrev
      exact ha.revertToSnapshot hP hexec
    · have hrev' : ∀ revid, c ≠ .revertToSnapshot revid := fun revid heq => hrev ⟨revid, heq⟩
      exact ha.call hsnap hrev' hexec (hcall hsnap hrev')

/-- **What every allowed call keeps holds along every run of allowed calls.** -/
theorem Along.run (guard : StateDB → Call → Prop) (hP : Stable env P)
    (hcall : ∀ ⦃calls s t c⦄, P calls s → Ok env s → guard s c → c ≠ .snapshot →
      (∀ revid, c ≠ .revertToSnapshot revid) → c.exec env s = .ok t → P (calls ++ [c]) t)
    (ha : Along env P h s) {calls : List Call}
    (hguard : Guarded (fun s c => (c.exec env s).toOption) guard s calls)
    (hrun : Evm.run env calls s = .ok t) : Along env P (calls.foldl step h) t := by
  induction calls generalizing h s with
  | nil =>
    cases hrun
    exact ha
  | cons c calls ih =>
    obtain ⟨s₁, hexec, hrun⟩ := bind_eq_ok.1 hrun
    obtain ⟨hc, hrest⟩ := hguard
    exact ih (ha.exec hP (fun hsnap hrev => hcall ha.holds ha.ok hc hsnap hrev hexec) hexec)
      (hrest s₁ (congrArg Except.toOption hexec)) hrun

theorem along_new {k : Keeper} {txConfig : TxConfig} (h : P [] (StateDB.new k txConfig)) :
    Along env P new (StateDB.new k txConfig) :=
  ⟨new_stateOk env k txConfig, rfl, rfl, .nil, fun _ h => absurd h List.not_mem_nil, h,
    fun _ h => absurd h List.not_mem_nil⟩

end History
end Moca.Evm
