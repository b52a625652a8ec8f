/-
# The statistics of the providers

For each provider the module counts the groups of which it is the primary, the places
that it has among the secondaries, and the groups in which it is both; a list has the
families it owns.  `StorageProviderExitable` lets a provider go by these numbers.

The counters are `uint32` and are written from copies: a creation loads the statistics
of all its providers before it writes any, `DeleteGVG` goes by the owner of the family,
a family swap moves the primary counts but leaves the other counter of the old primary,
and a swap out of a secondary does not ask whether it is the primary.  So the numbers
are exact only where a provider does not play two roles in these messages; the
conditions are `exactLimits`.
-/

import Mathlib.Order.Interval.Finset.Nat
import Moca.VirtualGroup.Families
import Moca.VirtualGroup.Redundancy

namespace Moca.VirtualGroup

open SortedMap State

open Relation (ReflTransGen)

variable {ctx : Ctx} {s s' : State} {g : Limits} {op : Op}

/-! ### What is counted -/

/-- The number of groups of which a provider is the primary. -/
def State.primaryTotal (s : State) (spID : ℕ) : ℕ :=
  s.gvgs.sum fun _ gvg => if gvg.primarySpId = spID then 1 else 0

/-- The number of places of a provider among the secondaries of the groups. -/
def State.secondaryTotal (s : State) (spID : ℕ) : ℕ :=
  s.gvgs.sum fun _ gvg => gvg.secondarySpIds.count spID

/-- **The counters are exact.** -/
def State.CountsExact (s : State) : Prop :=
  ∀ spID, s.stat spID = ⟨s.primaryTotal spID, s.secondaryTotal spID, s.brokenTotal spID⟩

/-- **The lists of families are exact.** -/
structure State.FamiliesExact (s : State) : Prop where
  nodup : ∀ spID, (s.familyStat spID).Nodup
  mem : ∀ spID id, id ∈ s.familyStat spID ↔
    ∃ family, s.families.find? id = some family ∧ family.primarySpId = spID

/-! ### No counter reaches the end of its type -/

theorem State.GroupsNumbered.card_le (h : s.GroupsNumbered) :
    (s.gvgs.sum fun _ _ => 1) ≤ s.gvgSequence := by
  rw [sum_one]
  have hsub : s.gvgs.keys ⊆ Finset.Icc 1 s.gvgSequence := by
    intro id hid
    obtain ⟨gvg, hgvg⟩ := mem_keys.1 hid
    exact Finset.mem_Icc.2 (h.le id gvg hgvg)
  have hcard := Finset.card_le_card hsub
  rw [Nat.card_Icc] at hcard
  omega

theorem State.GroupsNumbered.primaryTotal_le (h : s.GroupsNumbered) (spID : ℕ) :
    s.primaryTotal spID ≤ s.gvgSequence := by
  refine (sum_le_sum fun _ gvg _ => ?_).trans h.card_le
  split_ifs <;> omega

theorem State.GroupsNumbered.secondaryTotal_le (h : s.GroupsNumbered) (hdistinct : s.Distinct)
    (spID : ℕ) : s.secondaryTotal spID ≤ s.gvgSequence :=
  (sum_le_sum fun id gvg hgvg =>
    List.nodup_iff_count_le_one.1 (hdistinct id gvg hgvg) spID).trans h.card_le

theorem State.GroupsNumbered.brokenTotal_le (h : s.GroupsNumbered) (spID : ℕ) :
    s.brokenTotal spID ≤ s.gvgSequence := by
  refine (sum_le_sum fun _ gvg _ => ?_).trans h.card_le
  unfold GlobalVirtualGroup.broken
  split_ifs <;> omega

/-! ### The counters -/

/-- Nothing that is counted changes. -/
theorem State.CountsExact.of_eq (h : s.CountsExact)
    (hprimary : ∀ x, s'.primaryTotal x = s.primaryTotal x)
    (hsecondary : ∀ x, s'.secondaryTotal x = s.secondaryTotal x)
    (hbroken : ∀ x, s'.brokenTotal x = s.brokenTotal x) (hstat : ∀ x, s'.stat x = s.stat x) :
    s'.CountsExact := by
  intro x
  rw [hstat, hprimary, hsecondary, hbroken]
  exact h x

variable {familyID gvgID id spID successor : ℕ} {gvg : GlobalVirtualGroup} {ids : List ℕ}
  {family : GlobalVirtualGroupFamily} {swapIn : Bool} {sp : Sp.StorageProvider}
  {i origin : ℕ} {l : List (ℕ × GlobalVirtualGroup)}

theorem State.CountsExact.resize (h : s.CountsExact) {gvg' : GlobalVirtualGroup}
    (hgvg : s.gvgs.find? gvgID = some gvg) (hprimary : gvg'.primarySpId = gvg.primarySpId)
    (hsecondaries : gvg'.secondarySpIds = gvg.secondarySpIds)
    (hgvgs : s'.gvgs = s.gvgs.insert gvgID gvg') (hstats : s'.gvgStatistics = s.gvgStatistics) :
    s'.CountsExact := by
  have hsame : ∀ f : GlobalVirtualGroup → ℕ, f gvg' = f gvg →
      (s'.gvgs.sum fun _ => f) = s.gvgs.sum fun _ => f := by
    intro f hf
    have hsum := sum_insert_of_some hgvg (fun _ => f) gvg'
    rw [hgvgs]
    omega
  refine h.of_eq (fun x => hsame _ ?_) (fun x => hsame _ ?_) (fun x => hsame _ ?_)
    (stat_of_gvgStatistics_eq hstats)
  · rw [hprimary]
  · rw [hsecondaries]
  · unfold GlobalVirtualGroup.broken
    rw [hprimary, hsecondaries]

theorem State.CountsExact.create (h : s.CountsExact) {reqFamilyID : ℕ}
    (hcreated : Created ctx s s' sp reqFamilyID ids familyID family gvg)
    (hfresh : s.gvgs.find? s'.gvgSequence = none) (hnot : sp.id ∉ ids)
    (hnumbered : s'.GroupsNumbered) (hdistinct : s'.Distinct) : s'.CountsExact := by
  intro x
  have hprimary : s'.primaryTotal x = s.primaryTotal x + if x = sp.id then 1 else 0 := by
    unfold primaryTotal
    rw [hcreated.gvgs, sum_insert_of_none hfresh, hcreated.primary]
    simp only [eq_comm]
  have hsecondary : s'.secondaryTotal x = s.secondaryTotal x + if x ∈ ids then 1 else 0 := by
    unfold secondaryTotal
    rw [hcreated.gvgs, sum_insert_of_none hfresh, hcreated.secondaries,
      hcreated.nodup.count]
  have hbroken : s'.brokenTotal x = s.brokenTotal x := by
    unfold brokenTotal
    rw [hcreated.gvgs, sum_insert_of_none hfresh, broken_eq_zero, add_zero]
    rintro rfl
    rw [hcreated.secondaries, hcreated.primary]
    exact hnot
  have hle := hnumbered.primaryTotal_le x
  have hle' := hnumbered.secondaryTotal_le hdistinct x
  have hbound := hnumbered.bound
  rw [hcreated.stat hnot, h x, hbroken, hprimary, hsecondary, GVGStatisticsWithinSP.mk.injEq]
  dsimp only
  refine ⟨?_, ?_, rfl⟩
  · split_ifs at hprimary ⊢
    · exact inc32_eq_succ (by omega)
    · rfl
  · split_ifs at hsecondary ⊢
    · exact inc32_eq_succ (by omega)
    · rfl

theorem State.CountsExact.delete (h : s.CountsExact) (hdeleted : Deleted s s' gvgID gvg family)
    (hown : FamiliesOwn s) (hnot : gvg.primarySpId ∉ gvg.secondarySpIds)
    (hnumbered : s.GroupsNumbered) (hdistinct : s.Distinct) : s'.CountsExact := by
  intro x
  have howner : family.primarySpId = gvg.primarySpId := hown.owner_eq hdeleted.find hdeleted.findFamily
  have hprimary : s'.primaryTotal x + (if gvg.primarySpId = x then 1 else 0) = s.primaryTotal x := by
    unfold primaryTotal
    rw [hdeleted.gvgs]
    exact sum_erase_of_some hdeleted.find fun _ gvg => if gvg.primarySpId = x then 1 else 0
  have hsecondary : s'.secondaryTotal x + gvg.secondarySpIds.count x = s.secondaryTotal x := by
    unfold secondaryTotal
    rw [hdeleted.gvgs]
    exact sum_erase_of_some hdeleted.find fun _ gvg => gvg.secondarySpIds.count x
  have hbroken : s'.brokenTotal x = s.brokenTotal x := by
    unfold brokenTotal
    rw [hdeleted.gvgs, ← sum_erase_of_some hdeleted.find, broken_eq_zero, add_zero]
    rintro rfl
    exact hnot
  have hle := hnumbered.primaryTotal_le x
  have hle' := hnumbered.secondaryTotal_le hdistinct x
  have hbound := hnumbered.bound
  rw [hdeleted.stats, h x, howner, hbroken, GVGStatisticsWithinSP.mk.injEq]
  dsimp only
  refine ⟨?_, ?_, rfl⟩
  · by_cases hx : x = gvg.primarySpId
    · rw [if_pos hx.symm] at hprimary
      rw [if_pos hx, dec32_eq_pred (by omega) (by omega)]
      omega
    · rw [if_neg (Ne.symm hx)] at hprimary
      rw [if_neg hx]
      omega
  · rw [iterate_dec32 (by omega) (by omega)]
    omega

/-- A provider that neither leaves nor enters the secondaries. -/
theorem broken_set_of_ne {x : ℕ} (hplace : gvg.secondarySpIds[i]? = some origin)
    (horigin : x ≠ origin) (hsucc : x ≠ successor) :
    { gvg with secondarySpIds := gvg.secondarySpIds.set i successor }.broken x = gvg.broken x := by
  have hcount := count_set_add hplace successor x
  rw [if_neg (Ne.symm horigin), if_neg (Ne.symm hsucc)] at hcount
  have hmem : x ∈ gvg.secondarySpIds.set i successor ↔ x ∈ gvg.secondarySpIds := by
    rw [← List.count_pos_iff, ← List.count_pos_iff]
    omega
  unfold GlobalVirtualGroup.broken
  simp only [hmem]

theorem State.CountsExact.secondary (h : s.CountsExact)
    (hswapped : SwappedSecondary s s' gvgID origin successor swapIn gvg i)
    (hne : successor ≠ origin) (hin : swapIn = false → gvg.primarySpId ≠ origin)
    (hnumbered : s.GroupsNumbered) (hdistinct : s.Distinct) (hnumbered' : s'.GroupsNumbered)
    (hdistinct' : s'.Distinct) : s'.CountsExact := by
  intro x
  have hprimary : s'.primaryTotal x = s.primaryTotal x := by
    have hsum := sum_insert_of_some hswapped.find
      (fun _ gvg => if gvg.primarySpId = x then 1 else 0)
      { gvg with secondarySpIds := gvg.secondarySpIds.set i successor }
    unfold primaryTotal
    rw [hswapped.gvgs]
    exact Nat.add_right_cancel hsum
  have hsecondary : s'.secondaryTotal x + (if origin = x then 1 else 0) =
      s.secondaryTotal x + if successor = x then 1 else 0 := by
    have hsum := sum_insert_of_some hswapped.find
      (fun _ gvg => gvg.secondarySpIds.count x)
      { gvg with secondarySpIds := gvg.secondarySpIds.set i successor }
    have hcount := count_set_add hswapped.place successor x
    unfold secondaryTotal
    rw [hswapped.gvgs]
    dsimp only at hsum
    omega
  have hbroken : s'.brokenTotal x + gvg.broken x = s.brokenTotal x +
      { gvg with secondarySpIds := gvg.secondarySpIds.set i successor }.broken x := by
    unfold brokenTotal
    rw [hswapped.gvgs]
    exact sum_insert_of_some hswapped.find (fun _ gvg => gvg.broken x) _
  have hnotPrimary : gvg.primarySpId ≠ x →
      gvg.broken x = 0 ∧
        { gvg with secondarySpIds := gvg.secondarySpIds.set i successor }.broken x = 0 :=
    fun hx => ⟨broken_eq_zero fun heq => absurd heq hx, broken_eq_zero fun heq => absurd heq hx⟩
  have hle := hnumbered.secondaryTotal_le hdistinct x
  have hle' := hnumbered'.secondaryTotal_le hdistinct' x
  have hle'' := hnumbered.brokenTotal_le x
  have hbound := hnumbered.bound
  have hbound' := hnumbered'.bound
  rw [hswapped.stat, h x]
  by_cases hsucc : x = successor
  · subst hsucc
    rw [if_neg (Ne.symm hne), if_pos rfl] at hsecondary
    obtain ⟨hold, hnew⟩ := hnotPrimary (Ne.symm hswapped.notPrimary)
    rw [hold, hnew] at hbroken
    rw [if_pos rfl, GVGStatisticsWithinSP.mk.injEq]
    dsimp only
    refine ⟨hprimary.symm, ?_, by omega⟩
    rw [inc32_eq_succ (by omega)]
    omega
  rw [if_neg (Ne.symm hsucc)] at hsecondary
  rw [if_neg hsucc]
  by_cases horigin : x = origin
  · subst horigin
    rw [if_pos rfl] at hsecondary
    rw [if_pos rfl, GVGStatisticsWithinSP.removeSecondary, GVGStatisticsWithinSP.mk.injEq]
    dsimp only
    refine ⟨hprimary.symm, ?_, ?_⟩
    · rw [dec32_eq_pred (by omega) (by omega)]
      omega
    · by_cases hown : x = gvg.primarySpId
      · -- the primary leaves the secondaries, which only a swap in counts
        have hswap : swapIn = true := by
          cases swapIn with
          | false => exact absurd hown.symm (hin rfl)
          | true => rfl
        subst hown
        obtain ⟨hafter, hbefore⟩ := broken_set_primary hswapped.notPrimary
          (hdistinct gvgID gvg hswapped.find) hswapped.place
        rw [hafter, hbefore] at hbroken
        rw [hswap, decide_eq_true rfl, Bool.and_self, if_pos rfl,
          dec32_eq_pred (by omega) (by omega)]
        omega
      · obtain ⟨hold, hnew⟩ := hnotPrimary (Ne.symm hown)
        rw [hold, hnew] at hbroken
        rw [decide_eq_false hown, Bool.and_false, if_neg Bool.false_ne_true]
        omega
  · rw [if_neg (Ne.symm horigin)] at hsecondary
    rw [broken_set_of_ne hswapped.place horigin hsucc] at hbroken
    rw [if_neg horigin, GVGStatisticsWithinSP.mk.injEq]
    exact ⟨hprimary.symm, by omega, by omega⟩

/-- **What a family swap does to a sum over the groups**: the groups of the family change their
summands. -/
theorem SwappedPrimary.sum_add {primary : ℕ}
    (hswapped : SwappedPrimary s s' primary successor familyID swapIn family l)
    (hown : FamiliesOwn s) (f old : GlobalVirtualGroup → ℕ)
    (hold : ∀ id gvg, id ∈ family.globalVirtualGroupIds → s.gvgs.find? id = some gvg →
      gvg.primarySpId = primary → f gvg = old { gvg with primarySpId := successor }) :
    (s'.gvgs.sum fun _ => f) + (l.map fun e => old e.2).sum =
      (s.gvgs.sum fun _ => f) + (l.map fun e => f e.2).sum := by
  have hnodup : (l.map Prod.fst).Nodup := by
    rw [hswapped.ids]
    exact hown.nodup hswapped.find
  have hsum := sum_foldl_insert (fun _ => f) (m := s.gvgs) hnodup
  have hsummands : (l.map fun e => (s.gvgs.find? e.1).elim 0 f) = l.map fun e => old e.2 := by
    refine List.map_congr_left fun e he => ?_
    obtain ⟨gvg, hgvg, hprimary, heq⟩ := hswapped.groups e he
    have hid : e.1 ∈ family.globalVirtualGroupIds := by
      rw [← hswapped.ids]
      exact List.mem_map_of_mem he
    rw [hgvg, heq]
    exact hold e.1 gvg hid hgvg hprimary
  rw [hsummands] at hsum
  rw [hswapped.gvgs]
  exact hsum

theorem State.CountsExact.primary (h : s.CountsExact) {primary : ℕ}
    (hswapped : SwappedPrimary s s' primary successor familyID swapIn family l)
    (hown : FamiliesOwn s) (hne : successor ≠ primary)
    (hnot : ∀ id gvg, id ∈ family.globalVirtualGroupIds → s.gvgs.find? id = some gvg →
      primary ∉ gvg.secondarySpIds) (hnumbered : s.GroupsNumbered) (hnumbered' : s'.GroupsNumbered) :
    s'.CountsExact := by
  intro x
  have hnew : ∀ e ∈ l, e.2.primarySpId = successor := by
    intro e he
    obtain ⟨gvg, -, -, heq⟩ := hswapped.groups e he
    rw [heq]
  have hprimary : s'.primaryTotal x + (if primary = x then l.length else 0) =
      s.primaryTotal x + if successor = x then l.length else 0 := by
    have hsum := hswapped.sum_add hown (fun gvg => if gvg.primarySpId = x then 1 else 0)
      (fun _ => if primary = x then 1 else 0) fun _ gvg _ _ hgvg => by rw [hgvg]
    have hmap : (l.map fun e => if e.2.primarySpId = x then 1 else 0) =
        l.map fun _ => if successor = x then 1 else 0 :=
      List.map_congr_left fun e he => by rw [hnew e he]
    rw [hmap, List.map_const', List.map_const', List.sum_replicate, List.sum_replicate] at hsum
    simpa [primaryTotal] using hsum
  have hsecondary : s'.secondaryTotal x = s.secondaryTotal x :=
    Nat.add_right_cancel (hswapped.sum_add hown (fun gvg => gvg.secondarySpIds.count x)
      (fun gvg => gvg.secondarySpIds.count x) fun _ _ _ _ _ => rfl)
  have hbroken : s'.brokenTotal x = s.brokenTotal x + if x = successor then
      l.countP fun e => decide (successor ∈ e.2.secondarySpIds) else 0 := by
    have hsum := hswapped.sum_add hown (fun gvg => gvg.broken x) (fun _ => 0)
      fun id gvg hid hgvg hgp => broken_eq_zero fun hx => by
        rw [← hx, hgp]
        exact hnot id gvg hid hgvg
    rw [sum_map_broken x hnew, List.map_const', List.sum_replicate] at hsum
    simpa [brokenTotal] using hsum
  have hle := hnumbered.primaryTotal_le x
  have hle' := hnumbered'.primaryTotal_le x
  have hle'' := hnumbered'.brokenTotal_le x
  have hbound := hnumbered.bound
  have hbound' := hnumbered'.bound
  rw [hswapped.stat, h x]
  by_cases hsucc : x = successor
  · subst hsucc
    rw [if_neg (Ne.symm hne), if_pos rfl] at hprimary
    rw [if_pos rfl] at hbroken
    rw [if_pos rfl, GVGStatisticsWithinSP.mk.injEq]
    dsimp only
    refine ⟨?_, hsecondary.symm, ?_⟩
    · rw [iterate_inc32 (by omega)]
      omega
    · rw [iterate_inc32 (by omega)]
      omega
  rw [if_neg (Ne.symm hsucc)] at hprimary
  rw [if_neg hsucc] at hbroken
  rw [if_neg hsucc]
  by_cases hold : x = primary
  · subst hold
    rw [if_pos rfl] at hprimary
    rw [if_pos rfl, GVGStatisticsWithinSP.mk.injEq]
    dsimp only
    refine ⟨?_, hsecondary.symm, hbroken.symm⟩
    rw [iterate_dec32 (by omega) (by omega)]
    omega
  · rw [if_neg (Ne.symm hold)] at hprimary
    rw [if_neg hold, GVGStatisticsWithinSP.mk.injEq]
    exact ⟨by omega, hsecondary.symm, hbroken.symm⟩

/-! ### The families -/

/-- The ids of the stored families are those that the sequence has given out. -/
structure State.FamiliesNumbered (s : State) : Prop where
  bound : s.gvgFamilySequence < 2 ^ 32
  le : ∀ id family, s.families.find? id = some family → 0 < id ∧ id ≤ s.gvgFamilySequence

/-- The owner of a family. -/
def State.familyOwner (s : State) (id : ℕ) : Option ℕ :=
  (s.families.find? id).map fun family => family.primarySpId

theorem familyOwner_eq_some : s.familyOwner id = some spID ↔
    ∃ family, s.families.find? id = some family ∧ family.primarySpId = spID :=
  Option.map_eq_some_iff

theorem familyOwner_insert (h : s'.families = s.families.insert familyID family) (id : ℕ) :
    s'.familyOwner id = if id = familyID then some family.primarySpId else s.familyOwner id := by
  unfold familyOwner
  rw [h, find?_insert]
  split_ifs <;> rfl

/-- **What a move does to the owners of the families**: none changes, or a new family is made, or
a family is swapped. -/
inductive OwnerMove (g : Limits) (s s' : State) : Prop
  | same (howner : ∀ id, s'.familyOwner id = s.familyOwner id)
    (hseq : s'.gvgFamilySequence = s.gvgFamilySequence)
    (hstats : s'.gvgFamilyStatistics = s.gvgFamilyStatistics)
  | new (sp : Sp.StorageProvider) (reqFamilyID : ℕ) (ids : List ℕ)
    (hallowed : g.create s sp reqFamilyID ids)
    (hseq : s'.gvgFamilySequence = inc32 s.gvgFamilySequence)
    (howner : ∀ id, s'.familyOwner id =
      if id = s'.gvgFamilySequence then some sp.id else s.familyOwner id)
    (hstats : s'.gvgFamilyStatistics = s.gvgFamilyStatistics.insert sp.id
      (s.familyStat sp.id ++ [s'.gvgFamilySequence]))
  | swap (primary successor familyID : ℕ) (hallowed : g.primary s primary successor familyID)
    (hold : s.familyOwner familyID = some primary)
    (hseq : s'.gvgFamilySequence = s.gvgFamilySequence)
    (howner : ∀ id, s'.familyOwner id = if id = familyID then some successor else s.familyOwner id)
    (hstats : s'.gvgFamilyStatistics = (if familyID ∈ s.familyStat primary then
        s.gvgFamilyStatistics.insert primary ((s.familyStat primary).erase familyID)
      else s.gvgFamilyStatistics).insert successor (s.familyStat successor ++ [familyID]))

/-- A family is written with the owner it had. -/
theorem familyOwner_same {family' : GlobalVirtualGroupFamily}
    (hfamily : s.families.find? familyID = some family)
    (h : s'.families = s.families.insert familyID family')
    (hprimary : family'.primarySpId = family.primarySpId) (id : ℕ) :
    s'.familyOwner id = s.familyOwner id := by
  rw [familyOwner_insert h]
  split_ifs with hid
  · rw [hid, hprimary]
    exact (familyOwner_eq_some.2 ⟨family, hfamily, rfl⟩).symm
  · rfl

theorem Move.owners (h : Move g op s s') : OwnerMove g s s' := by
  have hsame : s'.families = s.families → ∀ id, s'.familyOwner id = s.familyOwner id := by
    intro heq id
    unfold familyOwner
    rw [heq]
  cases h with
  | quiet hunmoved =>
    exact .same (hsame hunmoved.families) hunmoved.familySequence hunmoved.familyStats
  | resize _ _ _ _ _ _ _ _ hfamilies _ hfamilyStats hframe =>
    exact .same (hsame hfamilies) hframe.familySequence hfamilyStats
  | create ctx sp reqFamilyID ids familyID family gvg hallowed hcreated =>
    have hstats := hcreated.familyStats
    rcases hcreated.join with ⟨hzero, hid, hseq, rfl⟩ | ⟨hne, -, hseq, hfind⟩
    · rw [if_pos hzero] at hstats
      refine .new sp reqFamilyID ids hallowed (hseq.trans hid) ?_ (hseq ▸ hstats)
      rw [hseq]
      exact familyOwner_insert hcreated.families
    · rw [if_neg hne] at hstats
      exact .same (familyOwner_same hfind hcreated.families rfl) hseq hstats
  | delete gvgID gvg family _ hdeleted =>
    exact .same (familyOwner_same hdeleted.findFamily hdeleted.families rfl)
      hdeleted.frame.familySequence hdeleted.familyStats
  | secondary _ _ _ _ _ _ _ _ hswapped =>
    exact .same (hsame hswapped.families) hswapped.frame.familySequence hswapped.familyStats
  | primary primary successor familyID _ family l hallowed _ hswapped =>
    exact .swap primary successor familyID hallowed
      (familyOwner_eq_some.2 ⟨family, hswapped.find, hswapped.owner⟩) hswapped.frame.familySequence
      (familyOwner_insert hswapped.families) hswapped.familyStats

/-- A family is stored exactly if it has an owner. -/
theorem isSome_familyOwner (h : s.families.find? id = some family) :
    s.familyOwner id = some family.primarySpId :=
  familyOwner_eq_some.2 ⟨family, h, rfl⟩

theorem State.FamiliesNumbered.le_of_owner (h : s.FamiliesNumbered)
    (howner : s.familyOwner id = some spID) : 0 < id ∧ id ≤ s.gvgFamilySequence := by
  obtain ⟨family, hfamily, -⟩ := familyOwner_eq_some.1 howner
  exact h.le id family hfamily

theorem State.FamiliesNumbered.move (h : s.FamiliesNumbered) (hmove : OwnerMove g s s')
    (hg : ∀ sp familyID ids, g.create s sp familyID ids → s.gvgFamilySequence + 1 < 2 ^ 32) :
    s'.FamiliesNumbered := by
  cases hmove with
  | same howner hseq =>
    refine ⟨hseq ▸ h.bound, fun id family hfamily => ?_⟩
    have hid := isSome_familyOwner hfamily
    rw [howner] at hid
    rw [hseq]
    exact h.le_of_owner hid
  | new sp reqFamilyID ids hallowed hseq howner =>
    have hbound := hg sp reqFamilyID ids hallowed
    rw [inc32_eq_succ hbound] at hseq
    refine ⟨hseq ▸ hbound, fun id family hfamily => ?_⟩
    have hid := isSome_familyOwner hfamily
    rw [howner] at hid
    split_ifs at hid with hnew
    · omega
    · have := h.le_of_owner hid
      omega
  | swap primary successor familyID _ hold hseq howner =>
    refine ⟨hseq ▸ h.bound, fun id family hfamily => ?_⟩
    have hid := isSome_familyOwner hfamily
    rw [howner] at hid
    rw [hseq]
    split_ifs at hid with hsame
    · exact hsame ▸ h.le_of_owner hold
    · exact h.le_of_owner hid

theorem familyStat_insert {m : SortedMap ℕ (List ℕ)}
    (h : s'.gvgFamilyStatistics = m.insert spID ids) (x : ℕ) :
    s'.familyStat x = if x = spID then ids else (m.find? x).getD [] := by
  unfold familyStat getOrCreateGVGFamilyStatisticsWithinSP
  rw [h, find?_insert]
  split_ifs <;> rfl

theorem State.FamiliesExact.mem_iff (h : s.FamiliesExact) :
    id ∈ s.familyStat spID ↔ s.familyOwner id = some spID :=
  (h.mem spID id).trans familyOwner_eq_some.symm

/-- The lists are exact if they list the families of each owner once. -/
theorem State.FamiliesExact.of_mem_iff (hnodup : ∀ spID, (s.familyStat spID).Nodup)
    (h : ∀ spID id, id ∈ s.familyStat spID ↔ s.familyOwner id = some spID) : s.FamiliesExact :=
  ⟨hnodup, fun spID id => (h spID id).trans familyOwner_eq_some⟩

theorem State.FamiliesExact.move (h : s.FamiliesExact) (hmove : OwnerMove g s s')
    (hnumbered : s.FamiliesNumbered)
    (hcreate : ∀ sp familyID ids, g.create s sp familyID ids → s.gvgFamilySequence + 1 < 2 ^ 32)
    (hprimary : ∀ primary successor familyID, g.primary s primary successor familyID →
      successor ≠ primary) : s'.FamiliesExact := by
  cases hmove with
  | same howner _ hstats =>
    have hstat : ∀ spID, s'.familyStat spID = s.familyStat spID := by
      intro spID
      unfold familyStat getOrCreateGVGFamilyStatisticsWithinSP
      rw [hstats]
    refine .of_mem_iff (fun spID => ?_) fun spID id => ?_
    · rw [hstat]
      exact h.nodup spID
    · rw [hstat, howner]
      exact h.mem_iff
  | new sp reqFamilyID ids hallowed hseq howner hstats =>
    -- no list has the new id yet
    have hfresh : s.familyOwner s'.gvgFamilySequence = none := by
      rw [hseq, inc32_eq_succ (hcreate sp reqFamilyID ids hallowed)]
      cases hfind : s.familyOwner (s.gvgFamilySequence + 1) with
      | none => rfl
      | some spID =>
        have := hnumbered.le_of_owner hfind
        omega
    have hnot : ∀ spID, s'.gvgFamilySequence ∉ s.familyStat spID := by
      intro spID hmem
      rw [h.mem_iff, hfresh] at hmem
      simp at hmem
    have hstat := familyStat_insert hstats
    refine .of_mem_iff (fun spID => ?_) fun spID id => ?_
    · rw [hstat]
      split_ifs with hsp
      · exact (h.nodup sp.id).append (List.nodup_singleton _)
          (List.disjoint_singleton.2 (hnot sp.id))
      · exact h.nodup spID
    · rw [hstat, howner]
      by_cases hid : id = s'.gvgFamilySequence
      · rw [if_pos hid]
        by_cases hsp : spID = sp.id
        · simp [hsp, hid]
        · rw [if_neg hsp]
          constructor
          · intro hmem
            exact absurd (hid ▸ hmem) (hnot spID)
          · intro heq
            exact absurd (Option.some.inj heq).symm hsp
      · rw [if_neg hid]
        by_cases hsp : spID = sp.id
        · rw [if_pos hsp, List.mem_append, List.mem_singleton, hsp, h.mem_iff]
          simp [hid]
        · rw [if_neg hsp]
          exact h.mem_iff
  | swap primary successor familyID hallowed hold _ howner hstats =>
    have hne := hprimary primary successor familyID hallowed
    have hstat : ∀ x, s'.familyStat x = if x = successor then s.familyStat successor ++ [familyID]
        else if x = primary then (s.familyStat primary).erase familyID else s.familyStat x := by
      intro x
      rw [familyStat_insert hstats, if_pos (h.mem_iff.2 hold), find?_insert]
      split_ifs <;> rfl
    have hnot : familyID ∉ s.familyStat successor := by
      intro hmem
      rw [h.mem_iff, hold] at hmem
      exact hne (Option.some.inj hmem).symm
    refine .of_mem_iff (fun spID => ?_) fun spID id => ?_
    · rw [hstat]
      split_ifs with hsucc hprim
      · exact (h.nodup successor).append (List.nodup_singleton _) (List.disjoint_singleton.2 hnot)
      · exact (h.nodup primary).erase familyID
      · exact h.nodup spID
    · rw [hstat, howner]
      by_cases hid : id = familyID
      · subst hid
        rw [if_pos rfl]
        by_cases hsucc : spID = successor
        · simp [hsucc]
        rw [if_neg hsucc]
        refine iff_of_false (fun hmem => ?_) fun heq => hsucc (Option.some.inj heq).symm
        split_ifs at hmem with hprim
        · exact absurd hmem (h.nodup primary).not_mem_erase
        · rw [h.mem_iff, hold] at hmem
          exact hprim (Option.some.inj hmem).symm
      · rw [if_neg hid]
        by_cases hsucc : spID = successor
        · rw [if_pos hsucc, List.mem_append, List.mem_singleton, hsucc, h.mem_iff]
          simp [hid]
        rw [if_neg hsucc]
        by_cases hprim : spID = primary
        · rw [if_pos hprim, List.mem_erase_of_ne hid, h.mem_iff, hprim]
        · rw [if_neg hprim]
          exact h.mem_iff

/-! ### Runs -/

/-- The conditions.  A creation joins a family of its sender, does not name the sender as a
secondary and does not wrap a sequence around.  A group is deleted while its primary is not one of
its secondaries.  A family goes to another provider, from one that is not a secondary of its
groups.  A swap in completes only while its successor is not a secondary of the group, and a
swap out of a secondary is not for the primary. -/
def exactLimits : Limits where
  create s sp familyID ids := s.gvgSequence + 1 < 2 ^ 32 ∧ s.gvgFamilySequence + 1 < 2 ^ 32 ∧
    sp.id ∉ ids ∧ ∀ family ∈ s.families.find? familyID, family.primarySpId = sp.id
  delete gvg := gvg.primarySpId ∉ gvg.secondarySpIds
  primary s primary successor familyID := successor ≠ primary ∧
    ∀ family ∈ s.families.find? familyID, ∀ id ∈ family.globalVirtualGroupIds,
      ∀ gvg ∈ s.gvgs.find? id, primary ∉ gvg.secondarySpIds
  secondary s gvgID origin successor swapIn := ∀ gvg ∈ s.gvgs.find? gvgID,
    if swapIn then successor ∉ gvg.secondarySpIds else gvg.primarySpId ≠ origin

/-- All that the exactness of the statistics rests on. -/
structure State.Exact (s : State) : Prop where
  groups : s.GroupsNumbered
  families : s.FamiliesNumbered
  own : FamiliesOwn s
  apart : s.SwapsApart
  distinct : s.Distinct
  counts : s.CountsExact
  lists : s.FamiliesExact

theorem Move.swapsApart (hmove : Move g op s s') (h : s.SwapsApart) : s'.SwapsApart := by
  have hframe : Framed s s' → s'.SwapsApart := fun hf =>
    ⟨hf.swapInGVGs ▸ h.group, hf.swapInFamilies ▸ h.family⟩
  cases hmove with
  | quiet _ _ _ hswaps => exact hswaps h
  | resize _ _ _ _ _ _ _ _ _ _ _ hf => exact hframe hf
  | create _ _ _ _ _ _ _ _ hcreated =>
    exact ⟨hcreated.swapInGVGs ▸ h.group, hcreated.swapInFamilies ▸ h.family⟩
  | delete _ _ _ _ hdeleted => exact hframe hdeleted.frame
  | secondary _ _ _ _ _ _ _ _ hswapped => exact hframe hswapped.frame
  | primary _ _ _ _ _ _ _ _ hswapped => exact hframe hswapped.frame

/-- A creation under the conditions takes fresh ids and a family of the sender. -/
theorem State.Exact.joins (h : s.Exact) (hallowed : exactLimits.create s sp familyID ids) :
    s.Joins sp familyID := by
  obtain ⟨hgvg, hfamily, -, howner⟩ := hallowed
  refine ⟨h.groups.fresh hgvg, ?_⟩
  split_ifs
  · intro family hfind
    rw [inc32_eq_succ hfamily] at hfind
    have := h.families.le _ _ hfind
    omega
  · exact howner

theorem State.Exact.counts_move (h : s.Exact) (hmove : Move exactLimits op s s')
    (hgroups : s'.GroupsNumbered) (hdistinct : s'.Distinct) : s'.CountsExact := by
  cases hmove with
  | quiet hunmoved =>
    have hsum : ∀ f : GlobalVirtualGroup → ℕ, (s'.gvgs.sum fun _ => f) = s.gvgs.sum fun _ => f := by
      intro f
      rw [hunmoved.gvgs]
    exact h.counts.of_eq (fun x => hsum _) (fun x => hsum _) (fun x => hsum _)
      (stat_of_gvgStatistics_eq hunmoved.stats)
  | resize gvgID gvg gvg' hgvg hprimary hsecondaries _ hgvgs _ hstats =>
    exact h.counts.resize hgvg hprimary hsecondaries hgvgs hstats
  | create ctx sp reqFamilyID ids familyID family gvg hallowed hcreated =>
    refine h.counts.create hcreated ?_ hallowed.2.2.1 hgroups hdistinct
    rw [hcreated.gvgSequence]
    exact h.groups.fresh hallowed.1
  | delete gvgID gvg family hallowed hdeleted =>
    exact h.counts.delete hdeleted h.own hallowed h.groups h.distinct
  | secondary gvgID origin successor swapIn gvg i hallowed happart hswapped =>
    have hgvg := hallowed gvg hswapped.find
    refine h.counts.secondary hswapped ?_ ?_ h.groups h.distinct hgroups hdistinct
    · cases swapIn with
      | false =>
        rintro rfl
        exact hswapped.notSecondary rfl (List.mem_of_getElem? hswapped.place)
      | true => exact happart rfl h.apart
    · rintro rfl
      exact hgvg
  | primary primary successor familyID swapIn family l hallowed _ hswapped =>
    exact h.counts.primary hswapped h.own hallowed.1
      (fun id gvg hid hgvg => hallowed.2 family hswapped.find id hid gvg hgvg) h.groups hgroups

/-- **Every move keeps the statistics exact.** -/
theorem State.Exact.move (h : s.Exact) (hmove : Move exactLimits op s s') : s'.Exact := by
  have hgroups := h.groups.move hmove fun _ _ _ hcreate => hcreate.1
  have hdistinct := h.distinct.move hmove fun gvgID _ successor gvg hallowed hgvg =>
    hallowed gvg hgvg
  exact {
    groups := hgroups
    families := h.families.move hmove.owners fun _ _ _ hcreate => hcreate.2.1
    own := h.own.move (fun _ _ _ hcreate => h.joins hcreate) hmove
    apart := hmove.swapsApart h.apart
    distinct := hdistinct
    counts := h.counts_move hmove hgroups hdistinct
    lists := h.lists.move hmove.owners h.families (fun _ _ _ hcreate => hcreate.2.1)
      fun _ _ _ hprimary => hprimary.1 }

theorem State.Exact.empty (p : Params) (sp : Sp.Store) (payment : Payment.State) :
    (State.empty p sp payment).Exact where
  groups := ⟨Nat.two_pow_pos 32, by simp [State.empty]⟩
  families := ⟨Nat.two_pow_pos 32, by simp [State.empty]⟩
  own := .empty p sp payment
  apart := by constructor <;> simp [State.empty]
  distinct := by simp [Distinct, State.empty]
  counts _ := rfl
  lists := by
    constructor
    · exact fun _ => List.nodup_nil
    · simp [State.empty, familyStat, getOrCreateGVGFamilyStatisticsWithinSP]

/-- **What the decrements take away is there.**  `DeleteGVG` takes one from the primary count of
the owner of the family and one from the secondary count for each place, a swap of a secondary
takes one for its place and maybe one from the third counter, and a family swap takes one from
the primary count for each group. -/
structure State.Covered (s : State) : Prop where
  primary : ∀ id gvg family, s.gvgs.find? id = some gvg →
    s.families.find? gvg.familyId = some family → 0 < (s.stat family.primarySpId).primaryCount
  secondary : ∀ id gvg, s.gvgs.find? id = some gvg → ∀ spID,
    gvg.secondarySpIds.count spID ≤ (s.stat spID).secondaryCount
  broken : ∀ id gvg, s.gvgs.find? id = some gvg → gvg.primarySpId ∈ gvg.secondarySpIds →
    0 < (s.stat gvg.primarySpId).breakRedundancyReqmtGvgCount
  family : ∀ id family, s.families.find? id = some family →
    family.globalVirtualGroupIds.length ≤ (s.stat family.primarySpId).primaryCount

theorem State.Exact.covered (h : s.Exact) : s.Covered where
  primary id gvg family hgvg hfamily := by
    rw [h.own.owner_eq hgvg hfamily, h.counts]
    have hle := le_sum hgvg
      fun _ gvg' => if gvg'.primarySpId = gvg.primarySpId then 1 else 0
    rw [if_pos rfl] at hle
    exact hle
  secondary id gvg hgvg spID := by
    rw [h.counts]
    exact le_sum hgvg fun _ gvg => gvg.secondarySpIds.count spID
  broken id gvg hgvg hmem := by
    rw [h.counts]
    have hle := le_sum hgvg fun _ gvg' => gvg'.broken gvg.primarySpId
    unfold GlobalVirtualGroup.broken at hle
    rw [if_pos ⟨rfl, hmem⟩] at hle
    exact hle
  family id family hfamily := by
    rw [h.counts]
    show _ ≤ s.gvgs.sum fun _ gvg => if gvg.primarySpId = family.primarySpId then 1 else 0
    refine length_le_sum (h.own.nodup hfamily) fun gvgID hid => ?_
    obtain ⟨gvg, hgvg, -, hprimary⟩ := h.own.listed id family hfamily gvgID hid
    exact ⟨gvg, hgvg, by rw [if_pos hprimary]⟩

theorem exact_reachable {p : Params} {sp : Sp.Store} {payment : Payment.State}
    (hreach : Reachable State.step (fun s l => l.2.Allowed exactLimits l.1 s)
      (State.empty p sp payment) s) : s.Exact :=
  Reachable.moves_invariant Exact (fun _ _ _ hmove h => h.move hmove)
    (.empty p sp payment) hreach

/-- The first groups of `CompleteSwapOut`. -/
theorem AllowedSwapOuts.take {successorSP : Sp.StorageProvider} {gvgIDs : List ℕ}
    (h : AllowedSwapOuts g ctx successorSP s gvgIDs) (k : ℕ) :
    AllowedSwapOuts g ctx successorSP s (gvgIDs.take k) := by
  induction gvgIDs generalizing s k with
  | nil =>
    rw [List.take_nil]
    trivial
  | cons gvgID rest ih =>
    cases k with
    | zero => trivial
    | succ k => exact ⟨h.1, fun s' hs' => ih (h.2 s' hs') k⟩

/-- **The statistics are exact.**  In every run under the conditions the counters of every provider
are the numbers of its groups, of its places and of the groups in which it is both, and its list
has exactly the families it owns.  What a message takes from a counter is there, also between
two groups of a `CompleteSwapOut`. -/
theorem gvg_statistics_exact (p : Params) (sp : Sp.Store) (payment : Payment.State) (s : State)
    (hreach : Reachable State.step (fun s l => l.2.Allowed exactLimits l.1 s)
      (State.empty p sp payment) s) :
    (∀ spID, s.stat spID = ⟨s.primaryTotal spID, s.secondaryTotal spID, s.brokenTotal spID⟩) ∧
    (∀ spID, (s.familyStat spID).Nodup ∧ ∀ id, id ∈ s.familyStat spID ↔
      ∃ family, s.families.find? id = some family ∧ family.primarySpId = spID) ∧
    s.Covered ∧
    ∀ ctx successorSP gvgIDs k s₁, AllowedSwapOuts exactLimits ctx successorSP s gvgIDs →
      (gvgIDs.take k).foldlM (completeSwapOutGVG ctx successorSP) s = .ok s₁ → s₁.Covered := by
  have h := exact_reachable hreach
  refine ⟨h.counts, fun spID => ⟨h.lists.nodup spID, h.lists.mem spID⟩, h.covered, ?_⟩
  intro ctx successorSP gvgIDs k s₁ hallowed hrun
  have hsteps : ReflTransGen (Step exactLimits (.settle 0 [])) s s₁ :=
    foldlM_completeSwapOutGVG_steps (hallowed.take k) hrun
  refine Exact.covered ?_
  clear hrun
  induction hsteps with
  | refl => exact h
  | tail _ hstep ih => exact ih.move hstep.1

instance (s : State) (sp : Sp.StorageProvider) (familyID : ℕ) (ids : List ℕ) :
    Decidable (exactLimits.create s sp familyID ids) :=
  inferInstanceAs (Decidable (_ ∧ _ ∧ _ ∧ ∀ _ ∈ _, _ = _))

instance (gvg : GlobalVirtualGroup) : Decidable (exactLimits.delete gvg) :=
  inferInstanceAs (Decidable (_ ∉ _))

instance (s : State) (primary successor familyID : ℕ) :
    Decidable (exactLimits.primary s primary successor familyID) :=
  inferInstanceAs (Decidable (_ ≠ _ ∧ ∀ _ ∈ _, ∀ _ ∈ _, ∀ _ ∈ _, _ ∉ _))

instance (s : State) (gvgID origin successor : ℕ) (swapIn : Bool) :
    Decidable (exactLimits.secondary s gvgID origin successor swapIn) :=
  inferInstanceAs (Decidable (∀ _ ∈ _, ite _ _ _))

/-- After a family swap and the swap in that repairs its group. -/
theorem gvg_statistics_repaired : ∃ s, runSteps State.step fourProvidersState
      (familySwappedIn ++ [(twoSecondariesCtx, .reserveSwapIn 104 2 0 1),
        (twoSecondariesCtx, .completeSwapIn 104 0 1)]) = some s ∧
    s.stat 2 = ⟨1, 0, 0⟩ ∧ s.primaryTotal 2 = 1 ∧ s.secondaryTotal 2 = 0 ∧ s.brokenTotal 2 = 0 ∧
    (s.gvgs.find? 1).map (fun gvg => gvg.secondarySpIds) = some [4, 3] := by
  refine Option.exists_some_and (by decide +kernel) fun s hs hend => ?_
  rw [(gvg_statistics_exact defaultParams fourProviders _ s
    (.of_runSteps .start (by decide +kernel) hs)).1 2, hend.1, hend.2.1, hend.2.2.1]

/-- The first provider creates a group with itself as a secondary. -/
def createdWithItself : List (Ctx × Op) :=
  [(twoSecondariesCtx, .createGlobalVirtualGroup 101 0 [1, 2] ⟨"amoca", 500⟩)]

/-- **A count of primaries that is lost**: the provider could leave its group behind.  When the
group is deleted the decrement wraps around. -/
theorem statistics_lost :
    ∃ s, runSteps State.step fourProvidersState createdWithItself = some s ∧ ¬s.CountsExact ∧
      s.stat 1 = ⟨0, 1, 0⟩ ∧ s.primaryTotal 1 = 1 ∧ s.brokenTotal 1 = 1 ∧
      ∃ s', s.step (twoSecondariesCtx, .deleteGlobalVirtualGroup 101 1) = some s' ∧
        s'.stat 1 = ⟨2 ^ 32 - 1, 0, 0⟩ ∧ s'.primaryTotal 1 = 0 := by
  refine Option.exists_some_and (by decide +kernel) fun s _ hend hexact => ?_
  have heq := hexact 1
  rw [hend.1, hend.2.1, hend.2.2.1] at heq
  simp at heq

end Moca.VirtualGroup
