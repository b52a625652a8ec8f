/-
# Families own their groups

A family lists the ids of its groups, a group names its family, and both name the
primary provider.  The two sides are written by different code: a swap of the
primary rewrites the family and the groups it lists, `DeleteGVG` removes a group
from the list, and `CreateGlobalVirtualGroup` puts a new group into a family that
the sender names.  The last does not ask whether the family is the sender's own.
-/

import Moca.VirtualGroup.DepositReturn
import Moca.VirtualGroup.Moves

namespace Moca.VirtualGroup

open SortedMap

variable {ctx : Ctx} {s s' : State}

/-- **Families and groups agree.** -/
structure FamiliesOwn (s : State) : Prop where
  /-- What a family lists is stored, in this family and with its primary. -/
  listed : ∀ familyID family, s.families.find? familyID = some family →
    ∀ id ∈ family.globalVirtualGroupIds, ∃ gvg, s.gvgs.find? id = some gvg ∧
      gvg.familyId = familyID ∧ gvg.primarySpId = family.primarySpId
  /-- What is stored is listed once in the family it names. -/
  stored : ∀ id gvg, s.gvgs.find? id = some gvg → ∃ family,
    s.families.find? gvg.familyId = some family ∧ family.globalVirtualGroupIds.count id = 1

/-! ### The kinds of writes -/

variable {familyID id : ℕ} {gvg : GlobalVirtualGroup} {family : GlobalVirtualGroupFamily}

section

variable (h : FamiliesOwn s)
include h

/-- A group is written with the family and the primary it had. -/
theorem FamiliesOwn.insert {gvg' : GlobalVirtualGroup} (hgvg : s.gvgs.find? id = some gvg)
    (hgvgs : s'.gvgs = s.gvgs.insert id gvg') (hfamilies : s'.families = s.families)
    (hfamily : gvg'.familyId = gvg.familyId) (hprimary : gvg'.primarySpId = gvg.primarySpId) :
    FamiliesOwn s' where
  listed familyID family hfind i hi := by
    rw [hfamilies] at hfind
    obtain ⟨g, hg, hgf, hgp⟩ := h.listed familyID family hfind i hi
    rw [hgvgs, find?_insert]
    split_ifs with hid
    · rw [hid, hgvg] at hg
      cases hg
      exact ⟨gvg', rfl, hfamily.trans hgf, hprimary.trans hgp⟩
    · exact ⟨g, hg, hgf, hgp⟩
  stored i g hg := by
    rw [hfamilies]
    rw [hgvgs, find?_insert] at hg
    split_ifs at hg with hid
    · cases hg
      rw [hfamily, hid]
      exact h.stored id gvg hgvg
    · exact h.stored i g hg

/-- A group that a family lists names that family. -/
theorem FamiliesOwn.familyId_eq (hfamily : s.families.find? familyID = some family)
    (hid : id ∈ family.globalVirtualGroupIds) (hgvg : s.gvgs.find? id = some gvg) :
    gvg.familyId = familyID := by
  obtain ⟨g, hg, hgf, -⟩ := h.listed familyID family hfamily id hid
  rw [hgvg] at hg
  exact Option.some.inj hg ▸ hgf

/-- A stored group has the primary of its family. -/
theorem FamiliesOwn.owner_eq (hgvg : s.gvgs.find? id = some gvg)
    (hfamily : s.families.find? gvg.familyId = some family) :
    family.primarySpId = gvg.primarySpId := by
  obtain ⟨f, hf, hcount⟩ := h.stored id gvg hgvg
  rw [hfamily] at hf
  cases hf
  have hmem : id ∈ family.globalVirtualGroupIds := List.count_pos_iff.1 (by omega)
  obtain ⟨g, hg, -, hgp⟩ := h.listed _ family hfamily id hmem
  rw [hgvg] at hg
  rw [Option.some.inj hg, hgp]

/-- A family lists no group twice. -/
theorem FamiliesOwn.nodup (hfamily : s.families.find? familyID = some family) :
    family.globalVirtualGroupIds.Nodup := by
  rw [List.nodup_iff_count_le_one]
  intro id
  by_cases hid : id ∈ family.globalVirtualGroupIds
  · obtain ⟨g, hg, hgf, -⟩ := h.listed familyID family hfamily id hid
    obtain ⟨f, hf, hcount⟩ := h.stored id g hg
    rw [hgf, hfamily] at hf
    cases hf
    omega
  · rw [List.count_eq_zero_of_not_mem hid]
    omega

theorem FamiliesOwn.primary {primary successor : ℕ} {swapIn : Bool}
    {l : List (ℕ × GlobalVirtualGroup)}
    (hswap : SwappedPrimary s s' primary successor familyID swapIn family l) : FamiliesOwn s' := by
  have hfamily := hswap.find
  have hfamilies := hswap.families
  constructor
  · intro fid f hf id hid
    rw [hfamilies, find?_insert] at hf
    split_ifs at hf with hfid
    · cases hf
      obtain ⟨gvg, hold, -, hnew⟩ := hswap.find_listed hid
      have hgf : gvg.familyId = familyID := h.familyId_eq hfamily hid hold
      exact ⟨_, hnew, hgf.trans hfid.symm, rfl⟩
    · -- the groups of another family are not touched
      obtain ⟨g, hg, hgf, hgp⟩ := h.listed fid f hf id hid
      have hother : id ∉ family.globalVirtualGroupIds := fun hmem =>
        hfid (hgf.symm.trans (h.familyId_eq hfamily hmem hg))
      exact ⟨g, (hswap.find_other hother).trans hg, hgf, hgp⟩
  · intro id g hg
    have hold : ∃ gvg, s.gvgs.find? id = some gvg ∧ g.familyId = gvg.familyId := by
      by_cases hid : id ∈ family.globalVirtualGroupIds
      · obtain ⟨gvg, hold, -, hnew⟩ := hswap.find_listed hid
        rw [hg] at hnew
        exact ⟨gvg, hold, by rw [Option.some.inj hnew]⟩
      · exact ⟨g, (hswap.find_other hid).symm.trans hg, rfl⟩
    obtain ⟨gvg, hold, hfid⟩ := hold
    obtain ⟨f, hf, hcount⟩ := h.stored id gvg hold
    rw [hfid, hfamilies, find?_insert]
    split_ifs with hsame
    · rw [hsame, hfamily] at hf
      cases hf
      exact ⟨_, rfl, hcount⟩
    · exact ⟨f, hf, hcount⟩

theorem FamiliesOwn.delete {gvgID : ℕ} (hdel : Deleted s s' gvgID gvg family) : FamiliesOwn s' := by
  have hgvg := hdel.find
  have hfamily := hdel.findFamily
  have hgvgs := hdel.gvgs
  have hfamilies := hdel.families
  constructor
  · intro fid f hf id hid
    -- no list has the deleted id any more
    have hold : ∃ f', s.families.find? fid = some f' ∧ id ∈ f'.globalVirtualGroupIds ∧
        f'.primarySpId = f.primarySpId ∧ id ≠ gvgID := by
      rw [hfamilies, find?_insert] at hf
      split_ifs at hf with hfid
      · cases hf
        refine ⟨family, hfid ▸ hfamily, List.mem_of_mem_erase hid, rfl, fun hid' => ?_⟩
        obtain ⟨f', hf', hcount⟩ := h.stored gvgID gvg hgvg
        rw [hfamily] at hf'
        cases hf'
        rw [hid', ← List.count_pos_iff, List.count_erase_self] at hid
        omega
      · refine ⟨f, hf, hid, rfl, fun hid' => hfid ?_⟩
        exact (h.familyId_eq hf (hid' ▸ hid) hgvg).symm
    obtain ⟨f', hf', hmem, hprimary, hne⟩ := hold
    obtain ⟨g, hg, hgf, hgp⟩ := h.listed fid f' hf' id hmem
    refine ⟨g, ?_, hgf, hgp.trans hprimary⟩
    rw [hgvgs, find?_erase_of_ne _ hne, hg]
  · intro id g hg
    rw [hgvgs, find?_erase] at hg
    split_ifs at hg with hne
    obtain ⟨f, hf, hcount⟩ := h.stored id g hg
    rw [hfamilies, find?_insert]
    split_ifs with hfid
    · rw [hfid, hfamily] at hf
      cases hf
      exact ⟨_, rfl, by rw [List.count_erase_of_ne hne, hcount]⟩
    · exact ⟨f, hf, hcount⟩

end

/-- A creation joins a family of the provider, or a new family does not take the id of one that
has groups; and the new group does not take the id of a stored one. -/
def State.Joins (s : State) (sp : Sp.StorageProvider) (familyID : ℕ) : Prop :=
  s.gvgs.find? (inc32 s.gvgSequence) = none ∧
  if familyID = noSpecifiedFamilyID then
    ∀ family, s.families.find? (inc32 s.gvgFamilySequence) = some family →
      family.globalVirtualGroupIds = []
  else ∀ family, s.families.find? familyID = some family → family.primarySpId = sp.id

theorem FamiliesOwn.create (h : FamiliesOwn s) {sp : Sp.StorageProvider} {reqFamilyID fid : ℕ}
    {ids : List ℕ} (hcreated : Created ctx s s' sp reqFamilyID ids fid family gvg)
    (hjoin : s.Joins sp reqFamilyID) : FamiliesOwn s' := by
  obtain ⟨hfresh, hown⟩ := hjoin
  have hfamily := hcreated.join
  have hgf := hcreated.inFamily
  have hgp := hcreated.primary
  have hgvgs := hcreated.gvgs
  have hfamilies := hcreated.families
  rw [← hcreated.gvgSequence] at hfresh
  have hlisted : ∀ f, s.families.find? fid = some f → f.globalVirtualGroupIds = [] ∨ f = family := by
    intro f hf
    rcases hfamily with ⟨hzero, rfl, -, -⟩ | ⟨-, -, -, hfind⟩
    · rw [if_pos hzero] at hown
      exact .inl (hown f hf)
    · rw [hf] at hfind
      exact .inr (Option.some.inj hfind)
  have hprimary : family.primarySpId = sp.id := by
    rcases hfamily with ⟨-, -, -, rfl⟩ | ⟨hne, rfl, -, hfind⟩
    · rfl
    · rw [if_neg hne] at hown
      exact hown family hfind
  -- what the family listed before is what was listed under its id
  have hids : ∀ id ∈ family.globalVirtualGroupIds,
      ∃ g, s.gvgs.find? id = some g ∧ g.familyId = fid ∧ g.primarySpId = family.primarySpId := by
    intro id hid
    rcases hfamily with ⟨-, -, -, rfl⟩ | ⟨-, -, -, hfind⟩
    · exact absurd hid List.not_mem_nil
    · exact h.listed fid family hfind id hid
  have hnew : ∀ f fid', s.families.find? fid' = some f → s'.gvgSequence ∉ f.globalVirtualGroupIds := by
    intro f fid' hf hmem
    obtain ⟨g, hg, -⟩ := h.listed fid' f hf _ hmem
    rw [hfresh] at hg
    cases hg
  constructor
  · intro fid' f hf id hid
    rw [hfamilies, find?_insert] at hf
    split_ifs at hf with hfid
    · cases hf
      rcases List.mem_append.1 hid with hold | hlast
      · obtain ⟨g, hg, hgf', hgp'⟩ := hids id hold
        have hne : id ≠ s'.gvgSequence := fun heq => by
          rw [heq, hfresh] at hg
          cases hg
        refine ⟨g, ?_, hgf'.trans hfid.symm, hgp'⟩
        rw [hgvgs, find?_insert_of_ne _ _ hne, hg]
      · rw [List.mem_singleton.1 hlast, hgvgs, find?_insert_self]
        exact ⟨gvg, rfl, hgf.trans hfid.symm, hgp.trans hprimary.symm⟩
    · obtain ⟨g, hg, hgf', hgp'⟩ := h.listed fid' f hf id hid
      have hne : id ≠ s'.gvgSequence := fun heq => hnew f fid' hf (heq ▸ hid)
      exact ⟨g, by rw [hgvgs, find?_insert_of_ne _ _ hne, hg], hgf', hgp'⟩
  · intro id g hg
    rw [hgvgs, find?_insert] at hg
    split_ifs at hg with hid
    · cases hg
      rw [hgf, hfamilies, find?_insert_self]
      have hnot : s'.gvgSequence ∉ family.globalVirtualGroupIds := fun hmem => by
        obtain ⟨g, hg, -⟩ := hids _ hmem
        rw [hfresh] at hg
        cases hg
      refine ⟨_, rfl, ?_⟩
      rw [hid, List.count_append, List.count_eq_zero_of_not_mem hnot, List.count_singleton_self]
    · obtain ⟨f, hf, hcount⟩ := h.stored id g hg
      rw [hfamilies, find?_insert]
      split_ifs with hfid
      · rw [hfid] at hf
        rcases hlisted f hf with hempty | rfl
        · rw [hempty] at hcount
          cases hcount
        · refine ⟨_, rfl, ?_⟩
          rw [List.count_append, hcount, List.count_eq_zero_of_not_mem]
          rwa [List.mem_singleton]
      · exact ⟨f, hf, hcount⟩

/-- **Every move keeps families and groups in agreement.** -/
theorem FamiliesOwn.move (h : FamiliesOwn s) {g : Limits} {op : Op}
    (hjoin : ∀ sp familyID ids, g.create s sp familyID ids → s.Joins sp familyID)
    (hmove : Move g op s s') : FamiliesOwn s' := by
  cases hmove with
  | quiet hunmoved =>
    exact ⟨hunmoved.families ▸ hunmoved.gvgs ▸ h.listed, hunmoved.gvgs ▸ hunmoved.families ▸ h.stored⟩
  | resize gvgID gvg gvg' hgvg hprimary _ hfamily hgvgs hfamilies =>
    exact h.insert hgvg hgvgs hfamilies hfamily hprimary
  | create ctx sp familyID ids _ _ _ hallowed hcreated =>
    exact h.create hcreated (hjoin sp familyID ids hallowed)
  | delete _ _ _ _ hdeleted => exact h.delete hdeleted
  | secondary _ _ _ _ _ _ _ _ hswapped =>
    exact h.insert hswapped.find hswapped.gvgs hswapped.families rfl rfl
  | primary _ _ _ _ _ _ _ _ hswapped => exact h.primary hswapped

/-! ### Runs -/

/-- The condition on a creation: the sender names a family of its own, or a new family does not
take the id of one that has groups; and the new group does not take the id of a stored one. -/
def Op.JoinsOwn (s : State) : Op → Prop
  | .createGlobalVirtualGroup storageProvider familyID _ _ =>
    s.gvgs.find? (inc32 s.gvgSequence) = none ∧
    if familyID = noSpecifiedFamilyID then
      ∀ family, s.families.find? (inc32 s.gvgFamilySequence) = some family →
        family.globalVirtualGroupIds = []
    else
      ∀ sp family, s.sp.getStorageProviderByOperatorAddr storageProvider = some sp →
        s.families.find? familyID = some family → family.primarySpId = sp.id
  | _ => True

/-- The limits under which only the creations are looked at. -/
def joinLimits : Limits where
  create s sp familyID _ := s.Joins sp familyID
  delete _ := True
  primary _ _ _ _ := True
  secondary _ _ _ _ _ := True

theorem Op.JoinsOwn.allowed {op : Op} (h : op.JoinsOwn s) : op.Allowed joinLimits ctx s := by
  refine op.allowed_of_create ?_ (fun _ => trivial) (fun _ _ _ => trivial) fun _ _ _ _ _ => trivial
  rintro storageProvider familyID ids coin rfl sp hsp
  obtain ⟨hfresh, hown⟩ := h
  refine ⟨hfresh, ?_⟩
  split_ifs at hown ⊢
  · exact hown
  · exact fun family hfamily => hown sp family hsp hfamily

theorem FamiliesOwn.reachable {s₀ : State} (h₀ : FamiliesOwn s₀)
    (hreach : Reachable State.step (fun s l => l.2.JoinsOwn s) s₀ s) : FamiliesOwn s :=
  Reachable.moves_invariant FamiliesOwn
    (fun _ _ _ hmove h => h.move (fun _ _ _ hjoin => hjoin) hmove) h₀
    (hreach.mono fun _ _ hjoin => hjoin.allowed)

theorem FamiliesOwn.empty (p : Params) (sp : Sp.Store) (payment : Payment.State) :
    FamiliesOwn (State.empty p sp payment) := by
  constructor <;> simp [State.empty]

/-- **Family ownership.**  In every run whose creations join the sender's own families, what a
family lists is stored in this family with its primary, and what is stored is listed in exactly one
family, exactly once. -/
theorem family_ownership (p : Params) (sp : Sp.Store) (payment : Payment.State) (s : State)
    (hreach : Reachable State.step (fun s l => l.2.JoinsOwn s) (State.empty p sp payment) s) :
    (∀ familyID family, s.families.find? familyID = some family →
      ∀ id ∈ family.globalVirtualGroupIds, ∃ gvg, s.gvgs.find? id = some gvg ∧
        gvg.familyId = familyID ∧ gvg.primarySpId = family.primarySpId) ∧
    ∀ id gvg, s.gvgs.find? id = some gvg →
      (∃ family, s.families.find? gvg.familyId = some family ∧
        family.globalVirtualGroupIds.count id = 1) ∧
      ∀ familyID family, s.families.find? familyID = some family →
        id ∈ family.globalVirtualGroupIds → familyID = gvg.familyId := by
  have h := (FamiliesOwn.empty p sp payment).reachable hreach
  refine ⟨h.listed, fun id gvg hgvg => ⟨h.stored id gvg hgvg, fun familyID family hf hid => ?_⟩⟩
  exact (h.familyId_eq hf hid hgvg).symm

/-- Three providers in service. -/
def threeProvidersState : State :=
  State.empty defaultParams (Sp.numberedProviders [1, 2, 3]) twoProvidersState.payment

/-- The first provider creates a group in a new family, and then another one in that family. -/
def createdTwoGroups : List (Ctx × Op) :=
  createdGroup ++ [(oneSecondaryCtx, .createGlobalVirtualGroup 101 1 [3] ⟨"amoca", 500⟩)]

theorem family_ownership_created :
    ∃ s family, runSteps State.step threeProvidersState createdTwoGroups = some s ∧
      s.families.find? 1 = some family ∧ family.globalVirtualGroupIds = [1, 2] ∧
      ∀ id ∈ [1, 2], ∃ gvg, s.gvgs.find? id = some gvg ∧ gvg.familyId = 1 ∧
        gvg.primarySpId = family.primarySpId := by
  obtain ⟨s, hs, family, hfamily, hids⟩ : ∃ s,
      runSteps State.step threeProvidersState createdTwoGroups = some s ∧
      ∃ family, s.families.find? 1 = some family ∧ family.globalVirtualGroupIds = [1, 2] := by
    decide
  have hguard : Guarded State.step (fun s l => l.2.JoinsOwn s) threeProvidersState
      createdTwoGroups := by
    have hown : ∀ s ∈ runSteps State.step threeProvidersState createdGroup,
        s.gvgs.find? (inc32 s.gvgSequence) = none ∧
        ∀ sp ∈ s.sp.getStorageProviderByOperatorAddr 101, ∀ family ∈ s.families.find? 1,
          family.primarySpId = sp.id := by decide
    refine ⟨⟨rfl, ?_⟩, fun s₁ hs₁ => ⟨?_, fun _ _ => trivial⟩⟩
    · rw [if_pos (show 0 = noSpecifiedFamilyID from rfl)]
      intro f hf
      cases hf
    · obtain ⟨hfresh, hprimary⟩ := hown s₁ (by simp [createdGroup, runSteps, hs₁])
      refine ⟨hfresh, ?_⟩
      rw [if_neg (by decide)]
      exact fun sp family hsp => hprimary sp hsp family
  refine ⟨s, family, hs, hfamily, hids, fun id hid => ?_⟩
  exact (family_ownership _ _ _ s (.of_runSteps .start hguard hs)).1 1 family hfamily id (hids ▸ hid)

/-- The second provider puts a group of its own into the family of the first one. -/
theorem family_ownership_joined :
    ∃ s, runSteps State.step twoProvidersState
        (createdGroup ++ [(oneSecondaryCtx, .createGlobalVirtualGroup 102 1 [1] ⟨"amoca", 500⟩)]) =
          some s ∧
      ∃ family, s.families.find? 1 = some family ∧ 2 ∈ family.globalVirtualGroupIds ∧
      ∃ gvg, s.gvgs.find? 2 = some gvg ∧ gvg.familyId = 1 ∧
        family.primarySpId = 1 ∧ gvg.primarySpId = 2 := by
  decide

end Moca.VirtualGroup
