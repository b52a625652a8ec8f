/-
# The secondary providers of a group

The providers that keep the pieces of an object should be different ones.
`CreateGlobalVirtualGroup` compares the secondaries with each other but not with the
sender, `SwapOutAsSecondarySP` looks for the successor among the secondaries when the
swap completes, and `SwapIn` does so when the swap is reserved: `completeSwapInGVG` does
not look again.  A family swap may make a secondary the primary; such a group is
counted in `BreakRedundancyReqmtGvgCount` of that provider.

The secondaries of a group stay distinct where no creation names its sender as a
secondary and where no swap in completes after its successor has become a secondary
in another way.  The number of secondaries of a group never changes.
-/

import Moca.VirtualGroup.Moves

namespace Moca.VirtualGroup

open SortedMap Function

variable {ctx : Ctx} {s s' : State} {g : Limits} {op : Op}

/-! ### A group and the sequence after a move -/

/-- **Where the secondaries of a group come from**: they are those it had, or the group is new, or
one of them has been replaced. -/
theorem Move.exists_gvg (h : Move g op s s') {id : ℕ} {gvg' : GlobalVirtualGroup}
    (hfind : s'.gvgs.find? id = some gvg') :
    (∃ gvg, s.gvgs.find? id = some gvg ∧ gvg'.secondarySpIds = gvg.secondarySpIds) ∨
    (∃ sp familyID ids, g.create s sp familyID ids ∧ id = inc32 s.gvgSequence ∧
      s'.gvgSequence = id ∧ gvg'.secondarySpIds = ids ∧ ids.Nodup) ∨
    ∃ gvg i origin successor swapIn, s.gvgs.find? id = some gvg ∧
      g.secondary s id origin successor swapIn ∧
      (swapIn = false → successor ∉ gvg.secondarySpIds) ∧
      gvg'.secondarySpIds = gvg.secondarySpIds.set i successor := by
  cases h with
  | quiet hunmoved => exact .inl ⟨gvg', by rw [← hunmoved.gvgs, hfind], rfl⟩
  | resize gvgID gvg gvg₁ hgvg _ hsecondaries _ hgvgs =>
    rw [hgvgs, find?_insert] at hfind
    split_ifs at hfind with hid
    · cases hfind
      exact .inl ⟨gvg, by rw [hid, hgvg], hsecondaries⟩
    · exact .inl ⟨gvg', hfind, rfl⟩
  | create ctx sp reqFamilyID ids familyID family gvg hallowed hcreated =>
    rw [hcreated.gvgs, find?_insert] at hfind
    split_ifs at hfind with hid
    · cases hfind
      exact .inr (.inl ⟨sp, reqFamilyID, ids, hallowed, hid.trans hcreated.gvgSequence, hid.symm,
        hcreated.secondaries, hcreated.nodup⟩)
    · exact .inl ⟨gvg', hfind, rfl⟩
  | delete gvgID gvg family _ hdeleted =>
    rw [hdeleted.gvgs] at hfind
    exact .inl ⟨gvg', find?_of_erase hfind, rfl⟩
  | secondary gvgID origin successor swapIn gvg i hallowed _ hswapped =>
    rw [hswapped.gvgs, find?_insert] at hfind
    split_ifs at hfind with hid
    · cases hfind
      subst hid
      exact .inr (.inr ⟨gvg, i, origin, successor, swapIn, hswapped.find, hallowed,
        hswapped.notSecondary, rfl⟩)
    · exact .inl ⟨gvg', hfind, rfl⟩
  | primary primary successor familyID swapIn family l _ _ hswapped =>
    by_cases hid : id ∈ family.globalVirtualGroupIds
    · obtain ⟨gvg, hgvg, -, hnew⟩ := hswapped.find_listed hid
      rw [hfind] at hnew
      exact .inl ⟨gvg, hgvg, by rw [Option.some.inj hnew]⟩
    · exact .inl ⟨gvg', by rw [← hswapped.find_other hid, hfind], rfl⟩

theorem Move.gvgSequence_eq (h : Move g op s s') : s'.gvgSequence = s.gvgSequence ∨
    s'.gvgSequence = inc32 s.gvgSequence ∧ ∃ sp familyID ids, g.create s sp familyID ids := by
  cases h with
  | quiet hunmoved => exact .inl hunmoved.gvgSequence
  | resize _ _ _ _ _ _ _ _ _ _ _ hframe => exact .inl hframe.gvgSequence
  | create ctx sp reqFamilyID ids _ _ _ hallowed hcreated =>
    exact .inr ⟨hcreated.gvgSequence, sp, reqFamilyID, ids, hallowed⟩
  | delete _ _ _ _ hdeleted => exact .inl hdeleted.frame.gvgSequence
  | secondary _ _ _ _ _ _ _ _ hswapped => exact .inl hswapped.frame.gvgSequence
  | primary _ _ _ _ _ _ _ _ hswapped => exact .inl hswapped.frame.gvgSequence

/-- The ids of the stored groups are those that the sequence has given out. -/
structure State.GroupsNumbered (s : State) : Prop where
  bound : s.gvgSequence < 2 ^ 32
  le : ∀ id gvg, s.gvgs.find? id = some gvg → 0 < id ∧ id ≤ s.gvgSequence

variable {i n successor : ℕ} {gvg : GlobalVirtualGroup}

theorem inc32_eq_succ (h : n + 1 < 2 ^ 32) : inc32 n = n + 1 := Nat.mod_eq_of_lt h

theorem State.GroupsNumbered.fresh (h : s.GroupsNumbered) (hbound : s.gvgSequence + 1 < 2 ^ 32) :
    s.gvgs.find? (inc32 s.gvgSequence) = none := by
  rw [inc32_eq_succ hbound]
  cases hfind : s.gvgs.find? (s.gvgSequence + 1) with
  | none => rfl
  | some gvg =>
    have := (h.le _ _ hfind).2
    omega

/-- **The sequence never gives out an id twice**, as long as it does not wrap around. -/
theorem Move.gvgSequence_le (h : Move g op s s')
    (hg : ∀ sp familyID ids, g.create s sp familyID ids → s.gvgSequence + 1 < 2 ^ 32) :
    s.gvgSequence ≤ s'.gvgSequence ∧ (s.gvgSequence < 2 ^ 32 → s'.gvgSequence < 2 ^ 32) := by
  rcases h.gvgSequence_eq with heq | ⟨heq, sp, familyID, ids, hallowed⟩
  · rw [heq]
    exact ⟨le_rfl, id⟩
  · have hbound := hg sp familyID ids hallowed
    rw [heq, inc32_eq_succ hbound]
    exact ⟨Nat.le_succ _, fun _ => hbound⟩

theorem State.GroupsNumbered.move (h : s.GroupsNumbered) (hmove : Move g op s s')
    (hg : ∀ sp familyID ids, g.create s sp familyID ids → s.gvgSequence + 1 < 2 ^ 32) :
    s'.GroupsNumbered := by
  have hle := hmove.gvgSequence_le hg
  refine ⟨hle.2 h.bound, fun id gvg' hfind => ?_⟩
  rcases hmove.exists_gvg hfind with ⟨gvg, hgvg, -⟩ | ⟨sp, familyID, ids, hallowed, hid, hseq, -⟩ |
    ⟨gvg, _, _, _, _, hgvg, -⟩
  · have := h.le id gvg hgvg
    omega
  · rw [inc32_eq_succ (hg sp familyID ids hallowed)] at hid
    omega
  · have := h.le id gvg hgvg
    omega

/-! ### Counting on `uint32` -/

theorem dec32_eq_pred (hpos : 0 < n) (hlt : n < 2 ^ 32) : dec32 n = n - 1 := by
  unfold dec32
  omega

/-- Increments that do not wrap around. -/
theorem iterate_inc32 : ∀ {k : ℕ}, n + k < 2 ^ 32 → inc32^[k] n = n + k
  | 0, _ => by rw [iterate_zero, id, add_zero]
  | k + 1, h => by
    rw [iterate_succ_apply', iterate_inc32 (by omega), inc32_eq_succ (by omega), add_assoc]

/-- Decrements that do not wrap around. -/
theorem iterate_dec32 (hlt : n < 2 ^ 32) : ∀ {k : ℕ}, k ≤ n → dec32^[k] n = n - k
  | 0, _ => by rw [iterate_zero, id, Nat.sub_zero]
  | k + 1, h => by
    rw [iterate_succ_apply', iterate_dec32 hlt (by omega), dec32_eq_pred (by omega) (by omega)]
    omega

/-- One place of a list is written over. -/
theorem count_set_add {l : List ℕ} {a : ℕ} (h : l[i]? = some a) (b x : ℕ) :
    (l.set i b).count x + (if a = x then 1 else 0) = l.count x + (if b = x then 1 else 0) := by
  obtain ⟨hi, ha⟩ := List.getElem?_eq_some_iff.1 h
  have hpos : a = x → 0 < l.count x := by
    rintro rfl
    exact List.count_pos_iff.2 (ha ▸ List.getElem_mem hi)
  rw [List.count_set hi, ha]
  simp only [beq_iff_eq]
  by_cases hax : a = x
  · have := hpos hax
    rw [if_pos hax]
    omega
  · rw [if_neg hax]
    omega

/-! ### Distinct secondaries -/

/-- **The secondaries of every group are distinct.** -/
def State.Distinct (s : State) : Prop :=
  ∀ id gvg, s.gvgs.find? id = some gvg → gvg.secondarySpIds.Nodup

theorem State.Distinct.move (h : s.Distinct) (hmove : Move g op s s')
    (hg : ∀ gvgID origin successor gvg, g.secondary s gvgID origin successor true →
      s.gvgs.find? gvgID = some gvg → successor ∉ gvg.secondarySpIds) : s'.Distinct := by
  intro id gvg' hfind
  rcases hmove.exists_gvg hfind with ⟨gvg, hgvg, heq⟩ | ⟨_, _, ids, -, -, -, heq, hnodup⟩ |
    ⟨gvg, i, origin, successor, swapIn, hgvg, hallowed, hnot, heq⟩
  · rw [heq]
    exact h id gvg hgvg
  · rw [heq]
    exact hnodup
  · rw [heq]
    refine (h id gvg hgvg).set ?_
    cases swapIn with
    | false => exact hnot rfl
    | true => exact hg id origin successor gvg hallowed hgvg

/-! ### Groups that break the redundancy -/

/-- Whether a group has a provider both as primary and as a secondary, as a number. -/
def GlobalVirtualGroup.broken (gvg : GlobalVirtualGroup) (spID : ℕ) : ℕ :=
  if gvg.primarySpId = spID ∧ spID ∈ gvg.secondarySpIds then 1 else 0

/-- The number of groups that have a provider both as primary and as a secondary. -/
def State.brokenTotal (s : State) (spID : ℕ) : ℕ := s.gvgs.sum fun _ gvg => gvg.broken spID

/-- **Every group that breaks the redundancy is counted.** -/
def State.BrokenCounted (s : State) : Prop :=
  ∀ spID, s.brokenTotal spID ≤ (s.stat spID).breakRedundancyReqmtGvgCount ∧
    (s.stat spID).breakRedundancyReqmtGvgCount < 2 ^ 32

theorem broken_eq_zero {spID : ℕ} (h : gvg.primarySpId = spID → spID ∉ gvg.secondarySpIds) :
    gvg.broken spID = 0 :=
  if_neg fun hboth => h hboth.1 hboth.2

/-- A secondary is replaced by a provider that is not the primary. -/
theorem broken_set_le (hne : successor ≠ gvg.primarySpId) (i spID : ℕ) :
    { gvg with secondarySpIds := gvg.secondarySpIds.set i successor }.broken spID
      ≤ gvg.broken spID := by
  unfold GlobalVirtualGroup.broken
  dsimp only
  by_cases hnew : gvg.primarySpId = spID ∧ spID ∈ gvg.secondarySpIds.set i successor
  · rcases List.mem_or_eq_of_mem_set hnew.2 with hold | heq
    · rw [if_pos hnew, if_pos ⟨hnew.1, hold⟩]
    · exact absurd (heq.symm.trans hnew.1.symm) hne
  · rw [if_neg hnew]
    exact Nat.zero_le _

/-- The primary leaves the secondaries. -/
theorem broken_set_primary (hne : successor ≠ gvg.primarySpId) (hnodup : gvg.secondarySpIds.Nodup)
    (hplace : gvg.secondarySpIds[i]? = some gvg.primarySpId) :
    { gvg with secondarySpIds := gvg.secondarySpIds.set i successor }.broken gvg.primarySpId = 0 ∧
      gvg.broken gvg.primarySpId = 1 := by
  have hmem : gvg.primarySpId ∈ gvg.secondarySpIds := List.mem_of_getElem? hplace
  refine ⟨broken_eq_zero fun _ hnew => ?_, if_pos ⟨rfl, hmem⟩⟩
  have hcount := count_set_add hplace successor gvg.primarySpId
  rw [if_pos rfl, if_neg hne, List.count_eq_one_of_mem hnodup hmem] at hcount
  have hpos : 0 < (gvg.secondarySpIds.set i successor).count gvg.primarySpId :=
    List.count_pos_iff.2 hnew
  omega

/-- Groups that all have the successor as primary. -/
theorem sum_map_broken (spID : ℕ) {l : List (ℕ × GlobalVirtualGroup)}
    (hl : ∀ e ∈ l, e.2.primarySpId = successor) : (l.map fun e => e.2.broken spID).sum =
      if spID = successor then l.countP fun e => decide (successor ∈ e.2.secondarySpIds) else 0 := by
  induction l with
  | nil => simp
  | cons e l ih =>
    have hbroken : e.2.broken spID =
        if spID = successor ∧ successor ∈ e.2.secondarySpIds then 1 else 0 := by
      unfold GlobalVirtualGroup.broken
      rw [hl e List.mem_cons_self]
      exact if_congr ⟨fun h => ⟨h.1.symm, h.1 ▸ h.2⟩, fun h => ⟨h.1.symm, h.1 ▸ h.2⟩⟩ rfl rfl
    rw [List.map_cons, List.sum_cons, ih fun e' he' => hl e' (List.mem_cons_of_mem _ he'), hbroken,
      List.countP_cons]
    simp only [decide_eq_true_eq]
    by_cases hsucc : spID = successor
    · simp only [hsucc, true_and, if_true]
      omega
    · simp only [hsucc, false_and, if_false]

/-- Where no counter changes, no group may break the redundancy anew. -/
theorem State.BrokenCounted.of_le (h : s.BrokenCounted)
    (htotal : ∀ spID, s'.brokenTotal spID ≤ s.brokenTotal spID)
    (hstat : ∀ spID, (s'.stat spID).breakRedundancyReqmtGvgCount =
      (s.stat spID).breakRedundancyReqmtGvgCount) : s'.BrokenCounted := by
  intro spID
  rw [hstat spID]
  exact ⟨(htotal spID).trans (h spID).1, (h spID).2⟩

theorem State.BrokenCounted.secondary (h : s.BrokenCounted) (hdistinct : s.Distinct)
    {gvgID origin : ℕ} {swapIn : Bool}
    (hswapped : SwappedSecondary s s' gvgID origin successor swapIn gvg i) : s'.BrokenCounted := by
  have hne := hswapped.notPrimary
  have htotal : ∀ spID, s'.brokenTotal spID + gvg.broken spID = s.brokenTotal spID +
      { gvg with secondarySpIds := gvg.secondarySpIds.set i successor }.broken spID := by
    intro spID
    unfold State.brokenTotal
    rw [hswapped.gvgs]
    exact sum_insert_of_some hswapped.find (fun _ gvg => gvg.broken spID) _
  intro spID
  have hstat := hswapped.stat spID
  have hcounted := h spID
  have hspID := htotal spID
  have hle := broken_set_le hne i spID
  by_cases hrepaired : swapIn = true ∧ origin = gvg.primarySpId ∧ spID = origin
  · -- the counter goes down with the number of groups that break the redundancy
    obtain ⟨rfl, rfl, rfl⟩ := hrepaired
    obtain ⟨hafter, hbefore⟩ := broken_set_primary hne (hdistinct gvgID gvg hswapped.find)
      hswapped.place
    rw [if_neg (Ne.symm hne), if_pos rfl] at hstat
    rw [hstat]
    simp only [GVGStatisticsWithinSP.removeSecondary, decide_true, Bool.and_self, if_true]
    rw [dec32_eq_pred (by omega) hcounted.2]
    omega
  · have hsame : (s'.stat spID).breakRedundancyReqmtGvgCount =
        (s.stat spID).breakRedundancyReqmtGvgCount := by
      rw [hstat]
      split_ifs with hsucc horigin
      · rfl
      · have hnot : (swapIn && decide (origin = gvg.primarySpId)) = false := by
          simpa using fun hin heq => hrepaired ⟨hin, heq, horigin⟩
        simp only [hnot, GVGStatisticsWithinSP.removeSecondary, Bool.false_eq_true, if_false]
      · rfl
    rw [hsame]
    omega

theorem State.BrokenCounted.move (h : s.BrokenCounted) (hdistinct : s.Distinct)
    (hmove : Move g op s s')
    (hcreate : ∀ sp familyID ids, g.create s sp familyID ids → sp.id ∉ ids)
    (hprimary : ∀ primary successor familyID family, g.primary s primary successor familyID →
      s.families.find? familyID = some family →
      (s.stat successor).breakRedundancyReqmtGvgCount + family.globalVirtualGroupIds.length < 2 ^ 32) :
    s'.BrokenCounted := by
  cases hmove with
  | quiet hunmoved =>
    refine h.of_le (fun spID => ?_) fun spID => ?_
    · unfold State.brokenTotal
      rw [hunmoved.gvgs]
    · rw [stat_of_gvgStatistics_eq hunmoved.stats]
  | resize gvgID gvg gvg' hgvg hsame hsecondaries _ hgvgs _ hstats =>
    refine h.of_le (fun spID => ?_) fun spID => ?_
    · have hsum := sum_insert_of_some hgvg (fun _ gvg => gvg.broken spID) gvg'
      have hbroken : gvg'.broken spID = gvg.broken spID := by
        unfold GlobalVirtualGroup.broken
        rw [hsame, hsecondaries]
      unfold State.brokenTotal
      rw [hgvgs]
      omega
    · rw [stat_of_gvgStatistics_eq hstats]
  | create ctx sp reqFamilyID ids familyID family gvg hallowed hcreated =>
    have hnot := hcreate sp reqFamilyID ids hallowed
    refine h.of_le (fun spID => ?_) fun spID => ?_
    · have hsum := s.gvgs.sum_insert (fun _ gvg => gvg.broken spID) s'.gvgSequence gvg
      have hbroken : gvg.broken spID = 0 := broken_eq_zero fun heq => by
        rw [hcreated.secondaries, ← heq, hcreated.primary]
        exact hnot
      unfold State.brokenTotal
      rw [hcreated.gvgs]
      omega
    · rw [hcreated.stat hnot]
  | delete gvgID gvg family _ hdeleted =>
    refine h.of_le (fun spID => ?_) fun spID => ?_
    · have hsum := sum_erase_of_some hdeleted.find (fun _ gvg => gvg.broken spID)
      unfold State.brokenTotal
      rw [hdeleted.gvgs]
      omega
    · rw [hdeleted.stats]
  | secondary gvgID origin successor swapIn gvg i _ _ hswapped => exact h.secondary hdistinct hswapped
  | primary primary successor familyID swapIn family l hallowed _ hswapped =>
    have hroom := hprimary primary successor familyID family hallowed hswapped.find
    rw [← hswapped.ids, List.length_map] at hroom
    have hcountP := List.countP_le_length (p := fun e : ℕ × GlobalVirtualGroup =>
      decide (successor ∈ e.2.secondarySpIds)) (l := l)
    intro spID
    have hcounted := h spID
    have hle : s'.brokenTotal spID ≤ s.brokenTotal spID +
        if spID = successor then l.countP fun e => decide (successor ∈ e.2.secondarySpIds) else 0 := by
      have hnew : ∀ e ∈ l, e.2.primarySpId = successor := by
        intro e he
        obtain ⟨gvg, -, -, heq⟩ := hswapped.groups e he
        rw [heq]
      unfold State.brokenTotal
      rw [hswapped.gvgs, ← sum_map_broken spID hnew]
      exact sum_foldl_insert_le (fun _ gvg => gvg.broken spID) l s.gvgs
    rw [hswapped.stat]
    split_ifs at hle ⊢ with hsucc hold
    · subst hsucc
      dsimp only
      rw [iterate_inc32 (by omega)]
      omega
    · exact ⟨hle.trans hcounted.1, hcounted.2⟩
    · exact ⟨hle.trans hcounted.1, hcounted.2⟩

/-! ### Runs -/

/-- The conditions: a creation does not name its sender as a secondary and does not wrap the
sequence around, a counter has room for the groups of a swapped family, and a swap in completes
only while its successor is not a secondary of the group. -/
def redundancyLimits : Limits where
  create s sp _ ids := s.gvgSequence + 1 < 2 ^ 32 ∧ sp.id ∉ ids
  delete _ := True
  primary s _ successor familyID := ∀ family ∈ s.families.find? familyID,
    (s.stat successor).breakRedundancyReqmtGvgCount + family.globalVirtualGroupIds.length < 2 ^ 32
  secondary s gvgID _ successor swapIn := swapIn = true → ∀ gvg ∈ s.gvgs.find? gvgID,
    successor ∉ gvg.secondarySpIds

theorem redundant_reachable {p : Params} {sp : Sp.Store} {payment : Payment.State}
    (hreach : Reachable State.step (fun s l => l.2.Allowed redundancyLimits l.1 s)
      (State.empty p sp payment) s) : s.GroupsNumbered ∧ s.Distinct ∧ s.BrokenCounted := by
  refine Reachable.moves_invariant (fun s => s.GroupsNumbered ∧ s.Distinct ∧ s.BrokenCounted)
    ?_ ⟨⟨Nat.two_pow_pos 32, ?_⟩, ?_, ?_⟩ hreach
  · rintro op s s' hmove ⟨hnumbered, hdistinct, hbroken⟩
    exact ⟨hnumbered.move hmove fun _ _ _ hcreate => hcreate.1,
      hdistinct.move hmove fun _ _ _ gvg hallowed hgvg => hallowed rfl gvg hgvg,
      hbroken.move hdistinct hmove (fun _ _ _ hcreate => hcreate.2)
        fun _ _ _ family hallowed hfamily => hallowed family hfamily⟩
  · simp [State.empty]
  · simp [State.Distinct, State.empty]
  · intro spID
    exact ⟨le_rfl, Nat.two_pow_pos 32⟩

/-- **The number of secondaries of a group does not change**, from any state on. -/
theorem length_secondaries_reachable {s₀ : State} (hnumbered : s₀.GroupsNumbered)
    (hreach : Reachable State.step (fun s l => l.2.Allowed redundancyLimits l.1 s) s₀ s) {id : ℕ}
    {gvg₀ : GlobalVirtualGroup} (h₀ : s₀.gvgs.find? id = some gvg₀)
    (h : s.gvgs.find? id = some gvg) :
    gvg.secondarySpIds.length = gvg₀.secondarySpIds.length := by
  have hle := (hnumbered.le id gvg₀ h₀).2
  -- a group that is created later has an id above those given out before
  have hinv : s₀.gvgSequence ≤ s.gvgSequence ∧ ∀ gvg, s.gvgs.find? id = some gvg →
      gvg.secondarySpIds.length = gvg₀.secondarySpIds.length := by
    refine Reachable.moves_invariant (fun s => s₀.gvgSequence ≤ s.gvgSequence ∧
      ∀ gvg, s.gvgs.find? id = some gvg →
        gvg.secondarySpIds.length = gvg₀.secondarySpIds.length) ?_ ⟨le_rfl, ?_⟩ hreach
    · rintro op s₁ s₂ hmove ⟨hseq, hlength⟩
      refine ⟨hseq.trans (hmove.gvgSequence_le fun _ _ _ hcreate => hcreate.1).1, fun gvg₂ h₂ => ?_⟩
      rcases hmove.exists_gvg h₂ with ⟨gvg₁, h₁, heq⟩ | ⟨_, _, _, hcreate, hid, -⟩ |
        ⟨gvg₁, _, _, _, _, h₁, -, -, heq⟩
      · rw [heq]
        exact hlength gvg₁ h₁
      · rw [inc32_eq_succ hcreate.1] at hid
        omega
      · rw [heq, List.length_set]
        exact hlength gvg₁ h₁
    · intro gvg hgvg
      rw [h₀] at hgvg
      rw [Option.some.inj hgvg]
  exact hinv.2 gvg h

/-- **Redundancy.**  In every run under the conditions the secondaries of a group are distinct, all
groups whose primary is among its secondaries are counted for that provider, and a group keeps
the number of its secondaries for as long as it is stored. -/
theorem gvg_redundancy (p : Params) (sp : Sp.Store) (payment : Payment.State) (s : State)
    (hreach : Reachable State.step (fun s l => l.2.Allowed redundancyLimits l.1 s)
      (State.empty p sp payment) s) :
    (∀ id gvg, s.gvgs.find? id = some gvg → gvg.secondarySpIds.Nodup) ∧
    (∀ spID, s.brokenTotal spID ≤ (s.stat spID).breakRedundancyReqmtGvgCount) ∧
    ∀ s', Reachable State.step (fun s l => l.2.Allowed redundancyLimits l.1 s) s s' →
      ∀ id gvg gvg', s.gvgs.find? id = some gvg → s'.gvgs.find? id = some gvg' →
        gvg'.secondarySpIds.length = gvg.secondarySpIds.length := by
  obtain ⟨hnumbered, hdistinct, hbroken⟩ := redundant_reachable hreach
  refine ⟨hdistinct, fun spID => (hbroken spID).1, fun s' hlater id gvg gvg' hgvg hgvg' => ?_⟩
  exact length_secondaries_reachable hnumbered hlater hgvg hgvg'

instance (s : State) (sp : Sp.StorageProvider) (familyID : ℕ) (ids : List ℕ) :
    Decidable (redundancyLimits.create s sp familyID ids) :=
  inferInstanceAs (Decidable (_ ∧ _))

instance (gvg : GlobalVirtualGroup) : Decidable (redundancyLimits.delete gvg) := isTrue trivial

instance (s : State) (primary successor familyID : ℕ) :
    Decidable (redundancyLimits.primary s primary successor familyID) :=
  inferInstanceAs (Decidable (∀ _ ∈ _, _ < _))

instance (s : State) (gvgID origin successor : ℕ) (swapIn : Bool) :
    Decidable (redundancyLimits.secondary s gvgID origin successor swapIn) :=
  inferInstanceAs (Decidable (swapIn = true → ∀ _ ∈ _, _ ∉ _))

/-- Four providers in service. -/
def fourProviders : Sp.Store := Sp.numberedProviders [1, 2, 3, 4]

def fourProvidersState : State :=
  State.empty defaultParams fourProviders (Payment.State.empty Payment.defaultParams fun _ => 10000)

/-- Groups of one primary and two secondary providers. -/
def twoSecondariesCtx : Ctx where
  blockTime := 1000
  expectSecondarySPNum := 2

/-- The family of the first provider, which exits, goes to a secondary of its group. -/
def familySwappedIn : List (Ctx × Op) :=
  [(twoSecondariesCtx, .createGlobalVirtualGroup 101 0 [2, 3] ⟨"amoca", 500⟩),
    (twoSecondariesCtx, .storageProviderExit 101),
    (twoSecondariesCtx, .reserveSwapIn 102 1 1 0),
    (twoSecondariesCtx, .completeSwapIn 102 1 0)]

/-- The group whose primary is now one of its secondaries is counted. -/
theorem gvg_redundancy_swapped : ∃ s,
    runSteps State.step fourProvidersState familySwappedIn = some s ∧
      1 ≤ (s.stat 2).breakRedundancyReqmtGvgCount ∧ s.brokenTotal 2 = 1 ∧
      ∃ gvg, s.gvgs.find? 1 = some gvg ∧ gvg.primarySpId = 2 ∧ gvg.secondarySpIds = [2, 3] := by
  refine Option.exists_some_and (by decide +kernel) fun s hs hend => ?_
  rw [← hend.1]
  exact (gvg_redundancy defaultParams fourProviders _ s
    (.of_runSteps .start (by decide +kernel) hs)).2.1 2

/-- The fourth provider reserves the place of the second one, which exits; before it completes
the swap, it takes over the place of the third one. -/
def swappedInTwice : List (Ctx × Op) :=
  [(twoSecondariesCtx, .createGlobalVirtualGroup 101 0 [2, 3] ⟨"amoca", 500⟩),
    (twoSecondariesCtx, .storageProviderExit 102),
    (twoSecondariesCtx, .reserveSwapIn 104 2 0 1),
    (twoSecondariesCtx, .swapOut 103 0 [1] 4 true),
    (twoSecondariesCtx, .completeSwapOut 104 0 [1]),
    (twoSecondariesCtx, .completeSwapIn 104 0 1)]

/-- **A provider that is a secondary of a group twice.** -/
theorem secondaries_repeated :
    ∃ s, runSteps State.step fourProvidersState swappedInTwice = some s ∧
      ∃ gvg, s.gvgs.find? 1 = some gvg ∧ gvg.secondarySpIds = [4, 4] ∧
        ¬gvg.secondarySpIds.Nodup := by
  decide +kernel

end Moca.VirtualGroup
