/-
# Reverting to a snapshot

Along every sequence of calls the entries of the journal made since a state lead back to
it (`Traces`), with snapshots taken and reverted on the way: a revert undoes the newest of
the entries, and the rest still lead back.

A snapshot is reverted to with the entries made since it was taken.  What comes back has
the answers of the state then, and committing it writes the same.
-/

import Moca.Evm.Changes
import Moca.Evm.Commit

namespace Moca.Evm

open SortedMap
namespace StateDB

variable {env : Env} {s t : StateDB} {e : JournalEntry}

/-! ### Snapshots -/

/-- **What holds along the calls made since `b`**: the entries made since lead back to it, and
the revisions taken since point into these entries, in order. -/
structure Traces (env : Env) (b t : StateDB) : Prop where
  ok : Ok env t
  undoable : ∃ es, t.entries = b.entries ++ es ∧
    Undoable (undo env) (Ok env) (Le env) b es.reverse t
  revisions : ∃ rs, t.validRevisions = b.validRevisions ++ rs ∧
    (∀ r ∈ rs, b.nextRevisionID ≤ r.id ∧ r.id < t.nextRevisionID ∧
      b.entries.length ≤ r.journalIndex ∧ r.journalIndex ≤ t.entries.length) ∧
    rs.Pairwise fun r r' => r.id < r'.id ∧ r.journalIndex ≤ r'.journalIndex
  nextRevisionID : b.nextRevisionID ≤ t.nextRevisionID

theorem Traces.refl (hs : Ok env s) : Traces env s s :=
  ⟨hs, ⟨[], (List.append_nil _).symm, .nil (Le.refl s)⟩,
    ⟨[], (List.append_nil _).symm, fun _ h => absurd h List.not_mem_nil, .nil⟩, le_rfl⟩

variable {b : StateDB} {revid : ℕ}

theorem Traces.follows (h : Traces env b s) (h' : Follows env s t) : Traces env b t := by
  obtain ⟨es, hes, hback⟩ := h.undoable
  obtain ⟨es', hes', hback'⟩ := h'.undoable
  obtain ⟨rs, hrs, hbound, hsorted⟩ := h.revisions
  refine ⟨h'.ok, ⟨es ++ es', ?_, ?_⟩, ⟨rs, ?_, fun r hr => ?_, hsorted⟩, ?_⟩
  · rw [hes', hes, List.append_assoc]
  · rw [List.reverse_append]
    exact hback.trans (respects env) hback' h'.ok
  · rw [h'.validRevisions, hrs]
  · obtain ⟨h₁, h₂, h₃, h₄⟩ := hbound r hr
    have hlen : s.entries.length ≤ t.entries.length := by
      rw [hes', List.length_append]
      omega
    rw [h'.nextRevisionID]
    exact ⟨h₁, h₂, h₃, h₄.trans hlen⟩
  · rw [h'.nextRevisionID]
    exact h.nextRevisionID

theorem le_snapshot (s : StateDB) : Le env s s.snapshot.1 := by
  have hrefl : Le env s s := Le.refl s
  exact ⟨rfl, rfl, rfl, rfl, rfl, hrefl.transient, hrefl.objects, hrefl.loaded⟩

theorem Traces.snapshot (h : Traces env b s) : Traces env b s.snapshot.1 := by
  obtain ⟨es, hes, u, hu, hle⟩ := h.undoable
  obtain ⟨rs, hrs, hbound, hsorted⟩ := h.revisions
  have hnext := h.nextRevisionID
  have hlen : b.entries.length ≤ s.entries.length := by
    rw [hes, List.length_append]
    omega
  have hle' : Le env s s.snapshot.1 := le_snapshot s
  have hok : Ok env s.snapshot.1 := h.ok.of_le hle' h.ok.objects
  have hback : Undoable (undo env) (Ok env) (Le env) b es.reverse s := ⟨u, hu, hle⟩
  refine ⟨hok, ⟨es, hes, hback.le (respects env) hle' hok⟩,
    ⟨rs ++ [⟨s.nextRevisionID, s.entries.length⟩], ?_, fun r hr => ?_, ?_⟩, ?_⟩
  · show s.validRevisions ++ [_] = _
    rw [hrs, List.append_assoc]
  · rcases List.mem_append.1 hr with hr | hr
    · obtain ⟨h₁, h₂, h₃, h₄⟩ := hbound r hr
      exact ⟨h₁, h₂.trans (Nat.lt_succ_self _), h₃, h₄⟩
    · rw [List.mem_singleton.1 hr]
      exact ⟨hnext, Nat.lt_succ_self _, hlen, le_rfl⟩
  · refine List.pairwise_append.2 ⟨hsorted, List.pairwise_singleton _ _, fun r hr r' hr' => ?_⟩
    rw [List.mem_singleton.1 hr']
    obtain ⟨-, h₂, -, h₄⟩ := hbound r hr
    exact ⟨h₂, h₄⟩
  · exact hnext.trans (Nat.le_succ _)

/-- Undoing leaves the journal and the revisions to the caller. -/
theorem undo_frame (h : undo env e s = .ok t) : t.entries = s.entries ∧
    t.validRevisions = s.validRevisions ∧ t.nextRevisionID = s.nextRevisionID := by
  obtain ⟨s₁, h₁, h⟩ := bind_eq_ok.1 h
  cases h
  cases hrestore : restore e with
  | some p =>
    obtain ⟨addr, f⟩ := p
    cases ho : s.lookup env addr with
    | none =>
      obtain ⟨rfl, -⟩ := revertEntry_of_lookup_eq_none hrestore ho h₁
      exact ⟨rfl, rfl, rfl⟩
    | some obj =>
      rw [revertEntry_of_restore hrestore ho] at h₁
      cases h₁
      exact ⟨rfl, rfl, rfl⟩
  | none =>
    cases e with
    | addLog =>
      simp only [revertEntry] at h₁
      split_ifs at h₁
      cases h₁
      exact ⟨rfl, rfl, rfl⟩
    | accessListAddSlot address slot =>
      obtain ⟨al, -, h₁⟩ := bind_eq_ok.1 h₁
      cases h₁
      exact ⟨rfl, rfl, rfl⟩
    | createObject _ => cases h₁; exact ⟨rfl, rfl, rfl⟩
    | resetObject _ _ => cases h₁; exact ⟨rfl, rfl, rfl⟩
    | refund _ => cases h₁; exact ⟨rfl, rfl, rfl⟩
    | accessListAddAccount _ => cases h₁; exact ⟨rfl, rfl, rfl⟩
    | transientStorage _ _ _ => cases h₁; exact ⟨rfl, rfl, rfl⟩
    | _ => cases hrestore

theorem rewind_frame : ∀ {es : List JournalEntry} {s t : StateDB}, rewind (undo env) es s = .ok t →
    t.entries = s.entries ∧ t.validRevisions = s.validRevisions ∧
      t.nextRevisionID = s.nextRevisionID
  | [], s, t, h => by
    cases h
    exact ⟨rfl, rfl, rfl⟩
  | e :: es, s, t, h => by
    obtain ⟨s₁, h₁, h₂⟩ := bind_eq_ok.1 h
    obtain ⟨he, hv, hn⟩ := undo_frame h₁
    obtain ⟨he', hv', hn'⟩ := rewind_frame h₂
    exact ⟨he'.trans he, hv'.trans hv, hn'.trans hn⟩

/-- **Undoing the entries past a position** of those made since `b`. -/
theorem Traces.revertJournal (h : Traces env b s) {n : ℕ} (hn : b.entries.length ≤ n)
    (hlen : n ≤ s.entries.length) :
    ∃ t es, s.revertJournal env n = .ok t ∧ Ok env t ∧ t.entries = b.entries ++ es ∧
      t.entries.length = n ∧ Undoable (undo env) (Ok env) (Le env) b es.reverse t ∧
      t.validRevisions = s.validRevisions ∧ t.nextRevisionID = s.nextRevisionID := by
  obtain ⟨es, hes, hback⟩ := h.undoable
  have hdrop : s.entries.drop n = es.drop (n - b.entries.length) := by
    rw [hes, List.drop_append, List.drop_eq_nil_of_le hn, List.nil_append]
  have htake : s.entries.take n = b.entries ++ es.take (n - b.entries.length) := by
    rw [hes, List.take_append, List.take_of_length_le hn]
  have hsplit : es.reverse = (s.entries.drop n).reverse ++
      (es.take (n - b.entries.length)).reverse := by
    rw [hdrop, ← List.reverse_append, List.take_append_drop]
  rw [hsplit] at hback
  obtain ⟨s₁, hrewind, hok, hback⟩ := hback.rewind h.ok
  obtain ⟨he, hv, hnext⟩ := rewind_frame hrewind
  have hle : Le env s₁ { s₁ with entries := s₁.entries.take n } := by
    have hrefl : Le env s₁ s₁ := Le.refl s₁
    exact ⟨rfl, rfl, rfl, rfl, rfl, hrefl.transient, hrefl.objects, hrefl.loaded⟩
  have hok' := hok.of_le hle hok.objects
  refine ⟨{ s₁ with entries := s₁.entries.take n }, es.take (n - b.entries.length), ?_, hok', ?_, ?_,
    hback.le (respects env) hle hok', hv, hnext⟩
  · unfold StateDB.revertJournal
    rw [hrewind]
    rfl
  · rw [← htake, ← he]
  · dsimp only
    rw [List.length_take, he]
    omega

/-- **Which revision is reverted to**: one with the id, and those before it have smaller ids. -/
theorem revertToSnapshot_eq_ok (h : s.revertToSnapshot env revid = .ok t) :
    ∃ rs r rs' s₁, s.validRevisions = rs ++ r :: rs' ∧ r.id = revid ∧
      s.revertJournal env r.journalIndex = .ok s₁ ∧
      t = { s₁ with validRevisions := s₁.validRevisions.take rs.length } := by
  unfold revertToSnapshot at h
  dsimp only at h
  generalize s.validRevisions.findIdx (fun r => decide (revid ≤ r.id)) = idx at h
  split at h
  · cases h
  · rename_i r hr
    obtain ⟨hlt, hget⟩ := List.getElem?_eq_some_iff.1 hr
    split_ifs at h with hid
    obtain ⟨s₁, h₁, h⟩ := bind_eq_ok.1 h
    cases h
    refine ⟨s.validRevisions.take idx, r, s.validRevisions.drop (idx + 1), s₁, ?_, not_not.1 hid,
      h₁, ?_⟩
    · rw [← hget, ← List.drop_eq_getElem_cons hlt, List.take_append_drop]
    · rw [List.length_take, min_eq_left hlt.le]

/-- A revision is found by its id if those before it have smaller ids. -/
theorem revertToSnapshot_of_revision {rs rs' : List Revision} {r : Revision}
    (hv : s.validRevisions = rs ++ r :: rs') (hlt : ∀ r' ∈ rs, r'.id < r.id) :
    s.revertToSnapshot env r.id = (do
      let s ← s.revertJournal env r.journalIndex
      return { s with validRevisions := s.validRevisions.take rs.length }) := by
  have hidx : s.validRevisions.findIdx (fun r' => decide (r.id ≤ r'.id)) = rs.length := by
    have hnone : ¬rs.findIdx (fun r' => decide (r.id ≤ r'.id)) < rs.length := by
      rw [List.findIdx_lt_length]
      rintro ⟨r', hr', hle⟩
      have := hlt r' hr'
      have := of_decide_eq_true hle
      omega
    rw [hv, List.findIdx_append, if_neg hnone, List.findIdx_cons]
    simp
  unfold revertToSnapshot
  dsimp only
  rw [hidx, hv, List.getElem?_append_right (Nat.le_refl _), Nat.sub_self]
  dsimp only [List.getElem?_cons_zero]
  rw [if_neg (not_not.2 rfl)]

section

variable (h : Traces env b s) (hb : ∀ r ∈ b.validRevisions, r.id < b.nextRevisionID)
include h hb

theorem Traces.revertToSnapshot (hid : b.nextRevisionID ≤ revid)
    (hr : s.revertToSnapshot env revid = .ok t) : Traces env b t := by
  obtain ⟨rs₁, r, rs₂, s₁, hv, rfl, hjournal, rfl⟩ := revertToSnapshot_eq_ok hr
  obtain ⟨rs, hrs, hbound, hsorted⟩ := h.revisions
  -- the revision is one of those taken since `b`
  obtain ⟨cs, hrs₁, hrs₂⟩ : ∃ cs, rs₁ = b.validRevisions ++ cs ∧ rs = cs ++ r :: rs₂ := by
    rcases List.append_eq_append_iff.1 (hrs.symm.trans hv) with ⟨cs, h₁, h₂⟩ | ⟨cs, h₁, h₂⟩
    · exact ⟨cs, h₁, h₂⟩
    · cases cs with
      | nil => exact ⟨[], by simpa using h₁.symm, by simpa using h₂.symm⟩
      | cons r' cs =>
        have hmem : r ∈ b.validRevisions := by
          rw [h₁, (List.cons.inj h₂).1]
          exact List.mem_append_right _ List.mem_cons_self
        exact absurd (hb r hmem) (not_lt.2 hid)
  obtain ⟨-, hlt, hlow, hhigh⟩ := hbound r (by rw [hrs₂]; simp)
  obtain ⟨s₂, es, h₂, hok, hes, hlen, hback, hvalid, hnext⟩ := h.revertJournal hlow hhigh
  cases hjournal.symm.trans h₂
  have hle : Le env s₁ { s₁ with validRevisions := s₁.validRevisions.take rs₁.length } := by
    have hrefl : Le env s₁ s₁ := Le.refl s₁
    exact ⟨rfl, rfl, rfl, rfl, rfl, hrefl.transient, hrefl.objects, hrefl.loaded⟩
  have hok' := hok.of_le hle hok.objects
  rw [hrs₂] at hsorted hbound
  obtain ⟨hcs, -, hcross⟩ := List.pairwise_append.1 hsorted
  refine ⟨hok', ⟨es, hes, hback.le (respects env) hle hok'⟩, ⟨cs, ?_, fun r' hr' => ?_, hcs⟩, ?_⟩
  · dsimp only
    rw [hvalid, hv, List.take_left, hrs₁]
  · obtain ⟨h₁, h₂, h₃, -⟩ := hbound r' (List.mem_append_left _ hr')
    dsimp only
    rw [hnext, hlen]
    exact ⟨h₁, h₂, h₃, (hcross r' hr' r List.mem_cons_self).2⟩
  · exact hnext.symm ▸ h.nextRevisionID

/-- **A call keeps the trace**, if it does not revert to a snapshot taken before. -/
theorem Traces.exec {c : Call}
    (hc : ∀ revid, c = .revertToSnapshot revid → b.nextRevisionID ≤ revid)
    (hexec : c.exec env s = .ok t) : Traces env b t := by
  by_cases hsnap : c = .snapshot
  · subst hsnap
    cases hexec
    exact h.snapshot
  · by_cases hrev : ∃ revid, c = .revertToSnapshot revid
    · obtain ⟨revid, rfl⟩ := hrev
      exact h.revertToSnapshot hb (hc revid rfl) hexec
    · exact h.follows (follows_exec h.ok hsnap (fun revid heq => hrev ⟨revid, heq⟩) hexec)

/-- **A sequence of calls keeps the trace.** -/
theorem Traces.run {calls : List Call}
    (hc : ∀ revid, .revertToSnapshot revid ∈ calls → b.nextRevisionID ≤ revid)
    (hrun : Evm.run env calls s = .ok t) : Traces env b t :=
  foldlM_invariant (Traces env b) (fun _ _ _ hmem h hexec =>
    h.exec hb (fun revid heq => hc revid (heq ▸ hmem)) hexec) h hrun

end

theorem new_stateOk (env : Env) (k : Keeper) (txConfig : TxConfig) : Ok env (new k txConfig) where
  objects addr obj ho := by
    obtain ⟨acct, -, rfl⟩ := Option.map_eq_some_iff.1 ho
    exact StateObject.ok_mk acct false
  accessList a idx h := by
    rw [show (new k txConfig).accessList.addresses = .empty from rfl, find?_empty] at h
    cases h
  dirties a n h := by
    rw [show (new k txConfig).dirties = .empty from rfl, find?_empty] at h
    cases h
  loaded a n h := by
    rw [show (new k txConfig).dirties = .empty from rfl, find?_empty] at h
    cases h

/-- A state that calls on a new `StateDB` lead to. -/
def Reached (env : Env) (s : StateDB) : Prop :=
  ∃ k txConfig calls, run env calls (new k txConfig) = .ok s

theorem Reached.traces (h : Reached env s) : ∃ k txConfig, Traces env (new k txConfig) s := by
  obtain ⟨k, txConfig, calls, hrun⟩ := h
  exact ⟨k, txConfig, (Traces.refl (new_stateOk env k txConfig)).run
    (fun r hr => absurd hr List.not_mem_nil) (fun _ _ => Nat.zero_le _) hrun⟩

/-! ### The theorem -/

/-- The ids of the revisions are those that were given out. -/
def Numbered (s : StateDB) : Prop := ∀ r ∈ s.validRevisions, r.id < s.nextRevisionID

theorem Numbered.snapshot (h : s.Numbered) : s.snapshot.1.Numbered := by
  intro r hr
  rcases List.mem_append.1 hr with hr | hr
  · exact (h r hr).trans (Nat.lt_succ_self _)
  · rw [List.mem_singleton.1 hr]
    exact Nat.lt_succ_self _

/-- **The entries made since a snapshot lead back to the state it was taken in.** -/
theorem Traces.restores {s₂ : StateDB} (hok : Ok env s) (hids : s.Numbered)
    (htrace : Traces env s.snapshot.1 s₂) :
    ∃ s₃, s₂.revertToSnapshot env s.snapshot.2 = .ok s₃ ∧ Ok env s₃ ∧ Le env s s₃ := by
  obtain ⟨es₂, hes₂, -⟩ := htrace.undoable
  obtain ⟨rs₂, hrs₂, -⟩ := htrace.revisions
  obtain ⟨s₃, es, h₃, hok₃, hes, hlen, ⟨u, hu, hback⟩, -⟩ :=
    htrace.revertJournal (n := s.entries.length) (Nat.le_refl _)
      (by rw [hes₂, List.length_append]; exact Nat.le_add_right _ _)
  have hnil : es = [] := by
    have := congrArg List.length hes
    rw [List.length_append, hlen] at this
    exact List.eq_nil_of_length_eq_zero (by simpa [StateDB.snapshot] using this)
  subst hnil
  cases hu
  have hv : s₂.validRevisions = s.validRevisions ++ ⟨s.nextRevisionID, s.entries.length⟩ :: rs₂ := by
    rw [hrs₂]
    simp [StateDB.snapshot]
  have hle₃ : Le env s { s₃ with
      validRevisions := s₃.validRevisions.take s.validRevisions.length } := by
    have h := (le_snapshot s).trans hback
    exact ⟨h.keeper, h.dirties, h.refund, h.logs, h.accessList, h.transient, h.objects, h.loaded⟩
  refine ⟨_, ?_, hok.of_le hle₃ hok₃.objects, hle₃⟩
  show s₂.revertToSnapshot env s.nextRevisionID = _
  rw [revertToSnapshot_of_revision hv hids, h₃]
  rfl

/-- **Reverting to a snapshot restores the state.**  From every state that a `StateDB` can be in,
take a snapshot and make any calls, with snapshots of their own and reverts to these: if no call
panics, the snapshot can be reverted to, every getter answers as before the calls, for all
addresses and slots, and `Commit` leaves the same keeper. -/
theorem revertToSnapshot_restores (env : Env) (s s₂ : StateDB) (calls : List Call)
    (hs : Reached env s) (hcode : s.NoCollision) (hrun : run env calls s.snapshot.1 = .ok s₂)
    (hnested : ∀ revid, .revertToSnapshot revid ∈ calls → s.snapshot.2 < revid) :
    ∃ s₃, s₂.revertToSnapshot env s.snapshot.2 = .ok s₃ ∧ SameAnswers env s s₃ ∧
      s₃.commit env = s.commit env := by
  obtain ⟨k, txConfig, htrace⟩ := hs.traces
  obtain ⟨rs, hrs, hbound, -⟩ := htrace.revisions
  have hids : s.Numbered := by
    intro r hr
    rw [hrs] at hr
    exact (hbound r (by simpa [new] using hr)).2.1
  have hok := htrace.ok
  -- the entries made by the calls lead back to the state the snapshot was taken in
  have htrace₂ : Traces env s.snapshot.1 s₂ :=
    (Traces.refl (hok.of_le (le_snapshot s) hok.objects)).run hids.snapshot hnested hrun
  obtain ⟨s₃, hrevert, hok₃, hle₃⟩ := htrace₂.restores hok hids
  exact ⟨s₃, hrevert, hle₃.sameAnswers hok hok₃, commit_eq hle₃ hok hok₃ hcode⟩

/-- A hash for the samples below. -/
def sampleEnv : Env := { keccak256 := fun code => code.length + 1 }

/-- A keeper with a user and a contract with a code of three bytes and one slot. -/
def sampleKeeper : Keeper where
  accounts := (SortedMap.empty.insert 1 ⟨5, some 1⟩).insert 2 ⟨1, some 4⟩
  balance := fun a => if a = 1 then 100 else 0
  supply := 100
  codes := SortedMap.empty.insert 4 ⟨[0, 0, 0], by decide⟩
  storage := fun a => if a = 2 then SortedMap.empty.insert 9 7 else .empty

/-- A state in the middle of a transaction: a transfer to a new contract. -/
def sampleCalls : List Call :=
  [.setNonce 1 6, .createAccount 3, .subBalance 1 40, .addBalance 3 40, .setCode 3 (some [0]),
    .setState 2 9 8]

/-- Calls that are reverted: a second contract replaces the first and destroys itself, the code
of the stored contract is changed, and a nested snapshot is taken and reverted to. -/
def revertedCalls : List Call :=
  [.setState 2 9 11, .setCode 2 (some []), .createAccount 3, .setTransientState 3 0 1, .snapshot,
    .suicide 3, .addSlotToAccessList 2 9, .revertToSnapshot 1, .addRefund 3, .selfdestruct6780 3,
    .addLog { address := 2, topics := [], data := [] }]

/-- The hypotheses hold of a sample transaction, and it is restored. -/
theorem revertToSnapshot_restores_sample :
    ∃ s s₂, Reached sampleEnv s ∧ s.NoCollision ∧
      run sampleEnv revertedCalls s.snapshot.1 = .ok s₂ ∧
      (s₂.getState sampleEnv 2 9).2 = 11 ∧ (s.getState sampleEnv 2 9).2 = 8 ∧
      ∃ s₃, s₂.revertToSnapshot sampleEnv s.snapshot.2 = .ok s₃ ∧ SameAnswers sampleEnv s s₃ ∧
        s₃.commit sampleEnv = s.commit sampleEnv := by
  obtain ⟨s, hs, hcodes, hid, hbefore, s₂, hok, hafter⟩ : ∃ s,
      run sampleEnv sampleCalls (new sampleKeeper ⟨0, 0, 0, 0⟩) = .ok s ∧
      (∀ e ∈ s.stateObjects.entries,
        e.2.dirtyCode = true → s.keeper.getCode e.2.account.codeHash = none) ∧
      s.snapshot.2 = 0 ∧ (s.getState sampleEnv 2 9).2 = 8 ∧
      ∃ s₂, run sampleEnv revertedCalls s.snapshot.1 = .ok s₂ ∧
        (s₂.getState sampleEnv 2 9).2 = 11 := by
    decide +kernel
  have hreached : Reached sampleEnv s := ⟨_, _, _, hs⟩
  have hcode : s.NoCollision := by
    intro addr obj hfind hdirty code stored _ hstored
    have hnone := hcodes (addr, obj) (find?_eq_some_iff.1 hfind) hdirty
    rw [hnone] at hstored
    cases hstored
  have hnested : ∀ revid, .revertToSnapshot revid ∈ revertedCalls → s.snapshot.2 < revid := by
    intro revid hmem
    rw [hid]
    obtain rfl : revid = 1 := by simpa [revertedCalls] using hmem
    exact Nat.one_pos
  exact ⟨s, s₂, hreached, hcode, hok, hafter, hbefore,
    revertToSnapshot_restores sampleEnv s s₂ revertedCalls hreached hcode hok hnested⟩

end StateDB
end Moca.Evm
