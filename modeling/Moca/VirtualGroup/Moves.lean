/-
# What the messages of `x/virtualgroup` do to groups and statistics

Each message is taken apart once.  `CreateGlobalVirtualGroup`, `DeleteGVG`, a swap of
a secondary provider and a swap of a primary provider are described with all the
counters they write, each from the copies that the code has loaded.  A message is a
sequence of these (`Move`).  The messages that do not change a deposit keep, move by
move, the books of the deposits as well (`Step`).

`Limits` are the assumptions on a creation, a deletion and a swap in the state in which
it happens; the invariants proved from the moves choose them.
-/

import Moca.VirtualGroup.Effect

namespace Moca.VirtualGroup

open SortedMap State Function

variable {ctx : Ctx} {s s' s₁ : State}

/-- The statistics of a provider; what is not stored reads as zero. -/
def State.stat (s : State) (spID : ℕ) : GVGStatisticsWithinSP :=
  s.getOrCreateGVGStatisticsWithinSP spID

/-- The ids of the families of a provider; what is not stored reads as empty. -/
def State.familyStat (s : State) (spID : ℕ) : List ℕ :=
  s.getOrCreateGVGFamilyStatisticsWithinSP spID

variable {familyID gvgID id primary reqFamilyID spID successor successorSPID : ℕ} {swapIn : Bool}
  {family : GlobalVirtualGroupFamily} {l : List (ℕ × GlobalVirtualGroup)}
  {primarySP sp successorSP : Sp.StorageProvider} {gvgIDs ids : List ℕ} {gvg : GlobalVirtualGroup}
  {storageProvider : Addr} {i x : ℕ}

theorem mustGetGVGStatisticsWithinSP_eq_ok {stat : GVGStatisticsWithinSP}
    (h : s.mustGetGVGStatisticsWithinSP spID = .ok stat) : stat = s.stat spID := by
  unfold mustGetGVGStatisticsWithinSP at h
  split at h
  · simp at h
  rename_i stat' hfind
  cases h
  unfold State.stat getOrCreateGVGStatisticsWithinSP
  rw [hfind]
  rfl

/-- Write the entries of a list one after the other. -/
abbrev writeAll {ν : Type} (l : List (ℕ × ν)) (m : SortedMap ℕ ν) : SortedMap ℕ ν :=
  l.foldl (fun m e => m.insert e.1 e.2) m

theorem find?_writeAll {ν : Type} (l : List (ℕ × ν)) (m : SortedMap ℕ ν) (k : ℕ) :
    (k ∈ l.map Prod.fst → ∃ e ∈ l, e.1 = k ∧ (writeAll l m).find? k = some e.2) ∧
      (k ∉ l.map Prod.fst → (writeAll l m).find? k = m.find? k) :=
  find?_foldl_insert k l m

/-! ### The kinds of moves -/

/-- A reservation of a swap in is not for the provider itself. -/
structure State.SwapsApart (s : State) : Prop where
  group : ∀ id info, s.swapInGVGs.find? id = some info → info.successorSpId ≠ info.targetSpId
  family : ∀ id info, s.swapInFamilies.find? id = some info → info.successorSpId ≠ info.targetSpId

/-- The sequences, the providers and the reservations are not touched. -/
structure Framed (s s' : State) : Prop where
  gvgSequence : s'.gvgSequence = s.gvgSequence
  familySequence : s'.gvgFamilySequence = s.gvgFamilySequence
  sp : s'.sp = s.sp
  swapInGVGs : s'.swapInGVGs = s.swapInGVGs
  swapInFamilies : s'.swapInFamilies = s.swapInFamilies

/-- Groups, families, their sequences and all statistics are not touched. -/
structure Unmoved (s s' : State) : Prop where
  gvgs : s'.gvgs = s.gvgs
  families : s'.families = s.families
  gvgSequence : s'.gvgSequence = s.gvgSequence
  familySequence : s'.gvgFamilySequence = s.gvgFamilySequence
  stats : s'.gvgStatistics = s.gvgStatistics
  familyStats : s'.gvgFamilyStatistics = s.gvgFamilyStatistics

/-- What a new group is put into: a new family of the provider, or a stored one. -/
def JoinedFamily (ctx : Ctx) (s : State) (sp : Sp.StorageProvider) (reqFamilyID familyID : ℕ)
    (family : GlobalVirtualGroupFamily) (gvgFamilySequence : ℕ) : Prop :=
  (reqFamilyID = noSpecifiedFamilyID ∧ familyID = inc32 s.gvgFamilySequence ∧
    gvgFamilySequence = familyID ∧
    family = { primarySpId := sp.id, virtualPaymentAddress := ctx.deriveFamily familyID }) ∨
  (reqFamilyID ≠ noSpecifiedFamilyID ∧ familyID = reqFamilyID ∧
    gvgFamilySequence = s.gvgFamilySequence ∧ s.families.find? familyID = some family)

/-- `CreateGlobalVirtualGroup`: the statistics are written from copies that were loaded before
any of them. -/
structure Created (ctx : Ctx) (s s' : State) (sp : Sp.StorageProvider) (reqFamilyID : ℕ)
    (ids : List ℕ) (familyID : ℕ) (family : GlobalVirtualGroupFamily) (gvg : GlobalVirtualGroup) :
    Prop where
  nodup : ids.Nodup
  join : JoinedFamily ctx s sp reqFamilyID familyID family s'.gvgFamilySequence
  inFamily : gvg.familyId = familyID
  primary : gvg.primarySpId = sp.id
  secondaries : gvg.secondarySpIds = ids
  gvgSequence : s'.gvgSequence = inc32 s.gvgSequence
  gvgs : s'.gvgs = s.gvgs.insert s'.gvgSequence gvg
  families : s'.families = s.families.insert familyID
    { family with globalVirtualGroupIds := family.globalVirtualGroupIds ++ [s'.gvgSequence] }
  stats : s'.gvgStatistics = writeAll
    ((sp.id, { s.stat sp.id with primaryCount := inc32 (s.stat sp.id).primaryCount }) ::
      ids.map fun id => (id, { s.stat id with secondaryCount := inc32 (s.stat id).secondaryCount }))
    s.gvgStatistics
  familyStats : s'.gvgFamilyStatistics = if reqFamilyID = noSpecifiedFamilyID then
    s.gvgFamilyStatistics.insert sp.id (s.familyStat sp.id ++ [familyID]) else s.gvgFamilyStatistics
  sp : s'.sp = s.sp
  swapInGVGs : s'.swapInGVGs = s.swapInGVGs
  swapInFamilies : s'.swapInFamilies = s.swapInFamilies

/-- The deposit of a new group, which comes from its primary. -/
structure Funded (ctx : Ctx) (s s' : State) (sp : Sp.StorageProvider) (gvg : GlobalVirtualGroup)
    (amount : ℤ) : Prop where
  pos : 0 < amount
  size : gvg.storedSize = 0
  address : gvg.virtualPaymentAddress = ctx.deriveGVG s'.gvgSequence
  deposit : gvg.totalDeposit = amount
  params : s'.params = s.params
  payouts : s'.payouts = s.payouts
  versions : SameVersions s s'
  pool : sp.fundingAddress ≠ moduleAddress → s'.depositPool = s.depositPool + amount

/-- `DeleteGVG`: the primary count of the owner of the family goes down, and the secondary count
of a provider once for each of its places. -/
structure Deleted (s s' : State) (gvgID : ℕ) (gvg : GlobalVirtualGroup)
    (family : GlobalVirtualGroupFamily) : Prop where
  find : s.gvgs.find? gvgID = some gvg
  findFamily : s.families.find? gvg.familyId = some family
  gvgs : s'.gvgs = s.gvgs.erase gvgID
  families : s'.families = s.families.insert gvg.familyId
    { family with globalVirtualGroupIds := family.globalVirtualGroupIds.erase gvgID }
  stats : ∀ spID, s'.stat spID = { s.stat spID with
    primaryCount := if spID = family.primarySpId then dec32 (s.stat spID).primaryCount
      else (s.stat spID).primaryCount
    secondaryCount := dec32^[gvg.secondarySpIds.count spID] (s.stat spID).secondaryCount }
  familyStats : s'.gvgFamilyStatistics = s.gvgFamilyStatistics
  frame : Framed s s'

/-- `SwapOutAsSecondarySP` and `completeSwapInGVG`: only the second looks whether the provider
that leaves is the primary of the group, only the first whether the successor is one of its
secondaries already. -/
structure SwappedSecondary (s s' : State) (gvgID origin successor : ℕ) (swapIn : Bool)
    (gvg : GlobalVirtualGroup) (i : ℕ) : Prop where
  find : s.gvgs.find? gvgID = some gvg
  place : gvg.secondarySpIds[i]? = some origin
  notPrimary : successor ≠ gvg.primarySpId
  notSecondary : swapIn = false → successor ∉ gvg.secondarySpIds
  gvgs : s'.gvgs = s.gvgs.insert gvgID
    { gvg with secondarySpIds := gvg.secondarySpIds.set i successor }
  families : s'.families = s.families
  stat : ∀ x, s'.stat x =
    if x = successor then { s.stat x with secondaryCount := inc32 (s.stat x).secondaryCount }
    else if x = origin then (s.stat x).removeSecondary (swapIn && decide (origin = gvg.primarySpId))
    else s.stat x
  familyStats : s'.gvgFamilyStatistics = s.gvgFamilyStatistics
  frame : Framed s s'

/-- `SwapAsPrimarySP`: `l` are the groups of the family with their new primary. -/
structure SwappedPrimary (s s' : State) (primary successor familyID : ℕ) (swapIn : Bool)
    (family : GlobalVirtualGroupFamily) (l : List (ℕ × GlobalVirtualGroup)) : Prop where
  find : s.families.find? familyID = some family
  owner : family.primarySpId = primary
  ids : l.map Prod.fst = family.globalVirtualGroupIds
  groups : ∀ e ∈ l, ∃ gvg, s.gvgs.find? e.1 = some gvg ∧ gvg.primarySpId = primary ∧
    e.2 = { gvg with primarySpId := successor }
  gvgs : s'.gvgs = writeAll l s.gvgs
  families : s'.families = s.families.insert familyID { family with primarySpId := successor }
  stat : ∀ x, s'.stat x =
    if x = successor then
      { s.stat x with
        primaryCount := inc32^[l.length] (s.stat x).primaryCount
        breakRedundancyReqmtGvgCount :=
          inc32^[l.countP fun e => decide (successor ∈ e.2.secondarySpIds)]
            (s.stat x).breakRedundancyReqmtGvgCount }
    else if x = primary then
      { s.stat x with primaryCount := dec32^[l.length] (s.stat x).primaryCount }
    else s.stat x
  familyStats : s'.gvgFamilyStatistics = (if familyID ∈ s.familyStat primary then
      s.gvgFamilyStatistics.insert primary ((s.familyStat primary).erase familyID)
    else s.gvgFamilyStatistics).insert successor (s.familyStat successor ++ [familyID])
  frame : Framed s s'

theorem SwappedPrimary.find_listed
    (h : SwappedPrimary s s' primary successor familyID swapIn family l)
    (hid : id ∈ family.globalVirtualGroupIds) : ∃ gvg, s.gvgs.find? id = some gvg ∧
      gvg.primarySpId = primary ∧ s'.gvgs.find? id = some { gvg with primarySpId := successor } := by
  rw [← h.ids] at hid
  obtain ⟨e, he, rfl, hfind⟩ := (find?_writeAll l s.gvgs id).1 hid
  obtain ⟨gvg, hgvg, hprimary, heq⟩ := h.groups e he
  exact ⟨gvg, hgvg, hprimary, by rw [h.gvgs, hfind, heq]⟩

theorem SwappedPrimary.find_other
    (h : SwappedPrimary s s' primary successor familyID swapIn family l)
    (hid : id ∉ family.globalVirtualGroupIds) : s'.gvgs.find? id = s.gvgs.find? id := by
  rw [← h.ids] at hid
  rw [h.gvgs, (find?_writeAll l s.gvgs id).2 hid]

/-! ### The statistics after a move -/

/-- The statistics of a provider after its entry has been written. -/
theorem stat_eq_of_find {stat : GVGStatisticsWithinSP}
    (h : s.gvgStatistics.find? x = some stat) : s.stat x = stat := by
  unfold State.stat getOrCreateGVGStatisticsWithinSP
  rw [h, Option.getD_some]

theorem stat_congr (h : s'.gvgStatistics.find? x = s.gvgStatistics.find? x) :
    s'.stat x = s.stat x := by
  unfold State.stat getOrCreateGVGStatisticsWithinSP
  rw [h]

theorem stat_of_gvgStatistics_eq (h : s'.gvgStatistics = s.gvgStatistics) (x : ℕ) :
    s'.stat x = s.stat x := stat_congr (by rw [h])

/-- The statistics after those of two providers have been written, each from its old ones. -/
theorem stat_of_insert_insert {a b : ℕ} (f g : GVGStatisticsWithinSP → GVGStatisticsWithinSP)
    (h : s'.gvgStatistics =
      (s.gvgStatistics.insert a (f (s.stat a))).insert b (g (s.stat b))) (x : ℕ) :
    s'.stat x = if x = b then g (s.stat x) else if x = a then f (s.stat x) else s.stat x := by
  unfold State.stat getOrCreateGVGStatisticsWithinSP at h ⊢
  rw [h, find?_insert, find?_insert]
  split_ifs with hb ha
  · rw [hb]
    rfl
  · rw [ha]
    rfl
  · rfl

theorem Created.stat (h : Created ctx s s' sp reqFamilyID ids familyID family gvg)
    (hnot : sp.id ∉ ids) (x : ℕ) :
    s'.stat x = { s.stat x with
      primaryCount := if x = sp.id then inc32 (s.stat x).primaryCount else (s.stat x).primaryCount
      secondaryCount :=
        if x ∈ ids then inc32 (s.stat x).secondaryCount else (s.stat x).secondaryCount } := by
  have hkeys := find?_writeAll ((sp.id,
    { s.stat sp.id with primaryCount := inc32 (s.stat sp.id).primaryCount }) ::
      ids.map fun id => (id, { s.stat id with secondaryCount := inc32 (s.stat id).secondaryCount }))
    s.gvgStatistics x
  rw [← h.stats] at hkeys
  by_cases hx : x = sp.id
  · obtain ⟨e, he, hkey, hfind⟩ := hkeys.1 (by simp [hx])
    rcases List.mem_cons.1 he with rfl | he
    · rw [stat_eq_of_find hfind, hx, if_pos rfl, if_neg hnot]
    · obtain ⟨id, hid, rfl⟩ := List.mem_map.1 he
      exact absurd (hkey.trans hx ▸ hid) hnot
  · rw [if_neg hx]
    by_cases hmem : x ∈ ids
    · obtain ⟨e, he, hkey, hfind⟩ := hkeys.1 (by simp [hmem])
      rcases List.mem_cons.1 he with rfl | he
      · exact absurd hkey.symm hx
      · obtain ⟨id, hid, rfl⟩ := List.mem_map.1 he
        obtain rfl : id = x := hkey
        rw [stat_eq_of_find hfind, if_pos hmem]
    · rw [stat_congr (hkeys.2 (by simp [hx, hmem])), if_neg hmem]

/-! ### Limits -/

/-- The assumptions on a creation, a deletion and a swap. -/
structure Limits where
  create : State → Sp.StorageProvider → ℕ → List ℕ → Prop
  delete : GlobalVirtualGroup → Prop
  primary : State → (primary successor familyID : ℕ) → Prop
  secondary : State → (gvgID origin successor : ℕ) → (swapIn : Bool) → Prop

/-- The steps that write the store of the providers. -/
def Op.touchesProviders : Op → Bool
  | .storageProviderExit _ | .storageProviderForcedExit _ | .completeStorageProviderExit _ | .sp _ =>
    true
  | _ => false

/-- The messages that write the reservations of swaps in. -/
def Op.reserves : Op → Bool
  | .reserveSwapIn _ _ _ _ | .cancelSwapIn _ _ _ | .completeSwapIn _ _ _ => true
  | _ => false

/-- **The moves** of a message. -/
inductive Move (g : Limits) (op : Op) (s s' : State) : Prop
  | quiet (h : Unmoved s s') (hsp : s'.sp = s.sp ∨ op.touchesProviders = true)
    (hin : s'.swapInGVGs = s.swapInGVGs ∧ s'.swapInFamilies = s.swapInFamilies ∨ op.reserves = true)
    (hswaps : s.SwapsApart → s'.SwapsApart)
  /-- The deposit or the stored size of a group changes. -/
  | resize (gvgID : ℕ) (gvg gvg' : GlobalVirtualGroup) (hgvg : s.gvgs.find? gvgID = some gvg)
    (hprimary : gvg'.primarySpId = gvg.primarySpId)
    (hsecondaries : gvg'.secondarySpIds = gvg.secondarySpIds) (hfamily : gvg'.familyId = gvg.familyId)
    (hgvgs : s'.gvgs = s.gvgs.insert gvgID gvg') (hfamilies : s'.families = s.families)
    (hstats : s'.gvgStatistics = s.gvgStatistics)
    (hfamilyStats : s'.gvgFamilyStatistics = s.gvgFamilyStatistics) (hframe : Framed s s')
  | create (ctx : Ctx) (sp : Sp.StorageProvider) (reqFamilyID : ℕ) (ids : List ℕ) (familyID : ℕ)
    (family : GlobalVirtualGroupFamily) (gvg : GlobalVirtualGroup)
    (hallowed : g.create s sp reqFamilyID ids)
    (h : Created ctx s s' sp reqFamilyID ids familyID family gvg)
  | delete (gvgID : ℕ) (gvg : GlobalVirtualGroup) (family : GlobalVirtualGroupFamily)
    (hallowed : g.delete gvg) (h : Deleted s s' gvgID gvg family)
  | secondary (gvgID origin successor : ℕ) (swapIn : Bool) (gvg : GlobalVirtualGroup) (i : ℕ)
    (hallowed : g.secondary s gvgID origin successor swapIn) (happart : swapIn = true → s.SwapsApart →
      successor ≠ origin) (h : SwappedSecondary s s' gvgID origin successor swapIn gvg i)
  | primary (primary successor familyID : ℕ) (swapIn : Bool) (family : GlobalVirtualGroupFamily)
    (l : List (ℕ × GlobalVirtualGroup)) (hallowed : g.primary s primary successor familyID)
    (happart : swapIn = true → s.SwapsApart → successor ≠ primary)
    (h : SwappedPrimary s s' primary successor familyID swapIn family l)

/-- A move that keeps the books of the deposits. -/
def Step (g : Limits) (op : Op) (s s' : State) : Prop := Move g op s s' ∧ Kept s s'

open Relation (ReflTransGen)

variable {g : Limits} {op : Op} {target targetSpId : ℕ} {acc acc' : FamilySwap} {info : SwapInInfo}
  {m : SortedMap ℕ SwapInInfo}

/-! ### Creation and deletion -/

theorem checkDuplicates_eq_ok : ∀ {l seen : List ℕ} {u : Unit}, checkDuplicates l seen = .ok u →
    l.Nodup ∧ ∀ id ∈ l, id ∉ seen
  | [], _, _, _ => by simp
  | id :: rest, seen, u, h => by
    unfold checkDuplicates at h
    split_ifs at h with hseen
    obtain ⟨hnodup, hnot⟩ := checkDuplicates_eq_ok h
    rw [List.nodup_cons]
    refine ⟨⟨fun hmem => hnot id hmem List.mem_cons_self, hnodup⟩, ?_⟩
    intro id' hid'
    rcases List.mem_cons.1 hid' with rfl | hmem
    · exact hseen
    · exact fun h => hnot id' hmem (List.mem_cons_of_mem _ h)

theorem mapM_secondaryStat_eq_ok :
    ∀ {ids : List ℕ} {stats : List (ℕ × GVGStatisticsWithinSP)},
      ids.mapM (s.secondaryStat sp) = .ok stats → stats = ids.map fun id =>
        (id, { s.stat id with secondaryCount := inc32 (s.stat id).secondaryCount })
  | [], stats, h => by
    rw [List.mapM_nil, pure_eq_ok] at h
    exact h.symm
  | id :: ids, stats, h => by
    rw [List.mapM_cons, bind_eq_ok] at h
    obtain ⟨e, hfirst, h⟩ := h
    obtain ⟨rest, hrest, h⟩ := bind_eq_ok.1 h
    rw [pure_eq_ok] at h
    unfold secondaryStat at hfirst
    split at hfirst
    · simp at hfirst
    rename_i ssp hssp
    split_ifs at hfirst
    cases hfirst
    obtain rfl : ssp.id = id := s.sp.id_key _ _ hssp
    rw [← h, mapM_secondaryStat_eq_ok hrest]
    rfl

theorem getOrCreateEmptyGVGFamily_eq_ok
    (h : s.getOrCreateEmptyGVGFamily ctx reqFamilyID sp.id = .ok (s', familyID, family)) :
    JoinedFamily ctx s sp reqFamilyID familyID family s'.gvgFamilySequence ∧
      s' = { s with
        gvgFamilySequence := s'.gvgFamilySequence
        gvgFamilyStatistics := if reqFamilyID = noSpecifiedFamilyID then
          s.gvgFamilyStatistics.insert sp.id (s.familyStat sp.id ++ [familyID])
          else s.gvgFamilyStatistics } := by
  unfold getOrCreateEmptyGVGFamily at h
  split_ifs at h ⊢ with hzero
  · cases h
    exact ⟨.inl ⟨hzero, rfl, rfl, rfl⟩, rfl⟩
  · split at h
    · cases h
    · rename_i f hf
      cases h
      exact ⟨.inr ⟨hzero, rfl, rfl, hf⟩, rfl⟩

theorem batchSetGVGStatisticsWithinSP_eq (l : List (ℕ × GVGStatisticsWithinSP)) (s : State) :
    s.batchSetGVGStatisticsWithinSP l =
      { s with gvgStatistics := l.foldl (fun m e => m.insert e.1 e.2) s.gvgStatistics } := by
  unfold batchSetGVGStatisticsWithinSP
  induction l generalizing s with
  | nil => rfl
  | cons e l ih =>
    rw [List.foldl_cons, ih]
    rfl

/-- **`CreateGlobalVirtualGroup`.** -/
theorem createGlobalVirtualGroup_eq_ok {coin : Coin}
    (h : createGlobalVirtualGroup ctx s storageProvider reqFamilyID ids coin = .ok s') :
    ∃ sp familyID family gvg, s.operator storageProvider = .ok sp ∧
      Created ctx s s' sp reqFamilyID ids familyID family gvg ∧
      Funded ctx s s' sp gvg coin.amount := by
  unfold createGlobalVirtualGroup at h
  split at h
  · simp at h
  rename_i hpos
  split at h
  · simp at h
  obtain ⟨_, hdup, h⟩ := bind_eq_ok.1 h
  obtain ⟨sp, hsp, h⟩ := bind_eq_ok.1 h
  split at h
  · simp at h
  obtain ⟨stats, hstats, h⟩ := bind_eq_ok.1 h
  obtain ⟨⟨s₁, familyID, family⟩, hfamily, h⟩ := bind_eq_ok.1 h
  obtain ⟨_, -, h⟩ := bind_eq_ok.1 h
  dsimp only at h
  split at h
  · simp at h
  obtain ⟨s₂, hsend, h⟩ := bind_eq_ok.1 h
  cases h
  obtain rfl := mapM_secondaryStat_eq_ok hstats
  obtain ⟨hjoin, hs₁⟩ := getOrCreateEmptyGVGFamily_eq_ok hfamily
  obtain ⟨hs₂, hversions, hpool⟩ := sendCoinsFromAccountToModule_eq_ok hsend
  have hids : (ids.map fun id => (id, { s.stat id with
      secondaryCount := inc32 (s.stat id).secondaryCount })).map (fun e => e.1) = ids := by
    rw [List.map_map]
    exact List.map_id' ids
  -- the states in between differ from the first one in the sequence, the list and the coins only
  generalize s₁.gvgFamilySequence = seq at hs₁ hjoin
  subst hs₁
  generalize s₂.payment = payment at hs₂
  subst hs₂
  rw [hids, batchSetGVGStatisticsWithinSP_eq]
  refine ⟨sp, familyID, family,
    ⟨familyID, sp.id, ids, 0, ctx.deriveGVG (inc32 s.gvgSequence), coin.amount⟩, hsp, ?_, ?_⟩
  · exact ⟨(checkDuplicates_eq_ok hdup).1, hjoin, rfl, rfl, rfl, rfl, rfl, rfl, rfl, rfl, rfl, rfl,
      rfl⟩
  · exact ⟨not_le.1 hpos, rfl, rfl, rfl, rfl, rfl, hversions, hpool⟩

theorem decSecondary_eq_ok (h : s.decSecondary spID = .ok s') :
    s' = { s with gvgStatistics := s'.gvgStatistics } := by
  unfold decSecondary at h
  obtain ⟨stat, -, h⟩ := bind_eq_ok.1 h
  cases h
  rfl

theorem stat_setGVGStatisticsWithSP (s : State) (spID : ℕ) (stat : GVGStatisticsWithinSP) (x : ℕ) :
    (s.setGVGStatisticsWithSP spID stat).stat x = if x = spID then stat else s.stat x := by
  unfold State.stat getOrCreateGVGStatisticsWithinSP setGVGStatisticsWithSP
  dsimp only
  rw [find?_insert]
  split_ifs <;> rfl

/-- The loop of `DeleteGVG` reads the statistics of a provider again for each of its places. -/
theorem foldlM_decSecondary_stat {l : List ℕ} (h : l.foldlM decSecondary s = .ok s') (x : ℕ) :
    s'.stat x =
      { s.stat x with secondaryCount := dec32^[l.count x] (s.stat x).secondaryCount } := by
  induction l generalizing s with
  | nil =>
    rw [List.foldlM_nil, pure_eq_ok] at h
    rw [h, List.count_nil, iterate_zero, id]
  | cons spID l ih =>
    rw [List.foldlM_cons, bind_eq_ok] at h
    obtain ⟨s₁, hdec, hrest⟩ := h
    unfold decSecondary at hdec
    obtain ⟨stat, hstat, hdec⟩ := bind_eq_ok.1 hdec
    obtain rfl := mustGetGVGStatisticsWithinSP_eq_ok hstat
    obtain rfl := Except.ok.inj hdec
    rw [ih hrest, stat_setGVGStatisticsWithSP, List.count_cons]
    by_cases hx : x = spID
    · subst hx
      simp only [if_true, beq_self_eq_true]
      rw [iterate_succ_apply]
    · simp only [hx, if_false, beq_iff_eq, Ne.symm hx, add_zero]

/-- **`DeleteGVG`** removes an empty group from its family, and pays its deposit to the provider it
is handed. -/
theorem deleteGVG_eq_ok (h : s.deleteGVG ctx sp gvgID = .ok s') :
    ∃ gvg family,
      Deleted s s' gvgID gvg family ∧ gvg.storedSize = 0 ∧
      s.isEmptyNetFlow gvg.virtualPaymentAddress = true ∧ gvgID ∈ family.globalVirtualGroupIds ∧
      s' = { s with
        payment := s'.payment
        payouts := s.payouts ++
          if gvg.totalDeposit = 0 then [] else [⟨sp.fundingAddress, gvg.totalDeposit⟩]
        gvgStatistics := s'.gvgStatistics
        gvgs := s.gvgs.erase gvgID
        families := s.families.insert gvg.familyId
          { family with globalVirtualGroupIds := family.globalVirtualGroupIds.erase gvgID } } ∧
      SameVersions s s' ∧
      (sp.fundingAddress ≠ moduleAddress → s'.depositPool = s.depositPool - gvg.totalDeposit) := by
  unfold deleteGVG at h
  split at h
  · simp at h
  rename_i gvg hgvg
  split at h
  · simp at h
  rename_i hsize
  split at h
  · simp at h
  rename_i hflow
  obtain ⟨s₁, hsend, h⟩ := bind_eq_ok.1 h
  obtain ⟨hs₁, hversions, hpool⟩ := sendBackDeposit_eq_ok hsend
  generalize s₁.payment = payment at hs₁
  subst hs₁
  split at h
  · simp at h
  rename_i family hfamily
  obtain ⟨family', hremove, h⟩ := bind_eq_ok.1 h
  obtain ⟨stat, hstat, h⟩ := bind_eq_ok.1 h
  obtain rfl := mustGetGVGStatisticsWithinSP_eq_ok hstat
  obtain ⟨s₂, hloop, h⟩ := bind_eq_ok.1 h
  cases h
  unfold GlobalVirtualGroupFamily.mustRemoveGVG at hremove
  split_ifs at hremove with hmem
  cases hremove
  have hstats := foldlM_decSecondary_stat hloop
  have hs₂ : s₂ = { s with
      payment := payment
      payouts := s.payouts ++
        if gvg.totalDeposit = 0 then [] else [⟨sp.fundingAddress, gvg.totalDeposit⟩]
      gvgStatistics := s₂.gvgStatistics } := by
    refine foldlM_invariant (fun s₂ => s₂ = { s with
        payment := payment
        payouts := s.payouts ++
          if gvg.totalDeposit = 0 then [] else [⟨sp.fundingAddress, gvg.totalDeposit⟩]
        gvgStatistics := s₂.gvgStatistics }) (fun s₃ _ s₄ _ hI hdec => ?_) rfl hloop
    rw [decSecondary_eq_ok hdec, hI]
  generalize s₂.gvgStatistics = stats at hs₂
  subst hs₂
  refine ⟨gvg, family, ⟨hgvg, hfamily, rfl, rfl, fun x => ?_, rfl, ⟨rfl, rfl, rfl, rfl, rfl⟩⟩,
    not_not.1 hsize, Bool.not_eq_false _ ▸ hflow, hmem, rfl, hversions, hpool⟩
  refine (hstats x).trans ?_
  rw [stat_setGVGStatisticsWithSP]
  by_cases hx : x = family.primarySpId
  · rw [if_pos hx, if_pos hx, hx]
    rfl
  · rw [if_neg hx, if_neg hx]
    rfl

/-! ### Swaps of a secondary provider -/

theorem lastIndexOf_eq_some : ∀ {l : List ℕ} {i j : ℕ} {found : Option ℕ},
    lastIndexOf target l i found = some j →
    found = some j ∨ ∃ k, j = i + k ∧ l[k]? = some target
  | [], i, j, found, h => Or.inl h
  | spID :: l, i, j, found, h => by
    unfold lastIndexOf at h
    rcases lastIndexOf_eq_some h with hfound | ⟨k, rfl, hk⟩
    · split_ifs at hfound with heq
      · exact Or.inr ⟨0, (Option.some.inj hfound).symm, by simp [heq]⟩
      · exact Or.inl hfound
    · exact Or.inr ⟨k + 1, by omega, by simpa using hk⟩

theorem getElem?_lastIndexOf (h : lastIndexOf target ids 0 none = some i) :
    ids[i]? = some target := by
  rcases lastIndexOf_eq_some h with hnone | ⟨k, hk, hplace⟩
  · cases hnone
  · rwa [hk, zero_add]

/-- The search of `SwapOutAsSecondarySP` finds the last place, in a list without the successor. -/
theorem searchSecondary_eq_ok {secondary : ℕ} :
    ∀ {l : List ℕ} {i : ℕ} {found found' : Option ℕ},
      searchSecondary successor secondary l i found = .ok found' →
      successor ∉ l ∧ lastIndexOf secondary l i found = found'
  | [], i, found, found', h => ⟨List.not_mem_nil, Except.ok.inj h⟩
  | spID :: l, i, found, found', h => by
    obtain ⟨hsucc, h⟩ := ite_error_eq_ok.1 h
    obtain ⟨hnot, hfound⟩ := searchSecondary_eq_ok h
    exact ⟨by simp [hnot, Ne.symm hsucc], hfound⟩

/-- The writes of both, after the settlement of the group. -/
theorem swappedSecondary_of_settled {origin : ℕ} (hgvg : s.gvgs.find? gvgID = some gvg)
    (hplace : gvg.secondarySpIds[i]? = some origin) (hprimary : successor ≠ gvg.primarySpId)
    (hnot : swapIn = false → successor ∉ gvg.secondarySpIds) (hmove : PaymentMove s s₁)
    (hs' : s' = { s₁ with
      gvgStatistics := (s₁.gvgStatistics.insert origin
        ((s₁.stat origin).removeSecondary (swapIn && decide (origin = gvg.primarySpId)))).insert
        successor { s₁.stat successor with secondaryCount := inc32 (s₁.stat successor).secondaryCount }
      gvgs := s₁.gvgs.insert gvgID
        { gvg with secondarySpIds := gvg.secondarySpIds.set i successor } }) :
    SwappedSecondary s s' gvgID origin successor swapIn gvg i ∧ Kept s s' := by
  obtain ⟨heq, hversions, hpool⟩ := hmove
  generalize s₁.payment = payment at heq
  subst heq hs'
  refine ⟨⟨hgvg, hplace, hprimary, hnot, rfl, rfl, stat_of_insert_insert (·.removeSecondary _)
      (fun stat => { stat with secondaryCount := inc32 stat.secondaryCount }) rfl, rfl,
      ⟨rfl, rfl, rfl, rfl, rfl⟩⟩, fun id => ?_, fun _ => rfl, rfl, .of_eq rfl, rfl, hversions, hpool⟩
  dsimp only
  rw [find?_insert]
  split_ifs with hid
  · rw [hid, hgvg]
    rfl
  · rfl

/-- **`SwapOutAsSecondarySP`.** -/
theorem swapOutAsSecondarySP_swapped {secondarySP : Sp.StorageProvider}
    (h : s.swapOutAsSecondarySP ctx secondarySP successorSP gvgID = .ok s') :
    ∃ gvg i, SwappedSecondary s s' gvgID secondarySP.id successorSP.id false gvg i ∧
      Kept s s' := by
  unfold swapOutAsSecondarySP at h
  split at h
  · simp at h
  rename_i gvg hgvg
  split at h
  · simp at h
  rename_i hprimary
  obtain ⟨found, hsearch, h⟩ := bind_eq_ok.1 h
  split at h
  · simp at h
  rename_i i
  obtain ⟨s₁, hsettle, h⟩ := bind_eq_ok.1 h
  obtain ⟨origin, horigin, h⟩ := bind_eq_ok.1 h
  obtain rfl := mustGetGVGStatisticsWithinSP_eq_ok horigin
  obtain ⟨hnot, hfound⟩ := searchSecondary_eq_ok hsearch
  exact ⟨gvg, i, swappedSecondary_of_settled hgvg (getElem?_lastIndexOf hfound) (Ne.symm hprimary) (fun _ => hnot)
    (settleAndDistributeGVG_move hsettle fun hf => hf.group gvgID gvg hgvg) (Except.ok.inj h).symm⟩

/-- **`completeSwapInGVG`.** -/
theorem completeSwapInGVG_swapped (h : s.completeSwapInGVG ctx successorSPID target gvgID = .ok s') :
    ∃ gvg i, SwappedSecondary s s' gvgID target successorSPID true gvg i ∧ Kept s s' := by
  unfold completeSwapInGVG at h
  split at h
  · simp at h
  rename_i gvg hgvg
  split at h
  · simp at h
  rename_i hprimary
  obtain ⟨s₁, hsettle, h⟩ := bind_eq_ok.1 h
  split at h
  · simp at h
  rename_i i hindex
  obtain ⟨origin, horigin, h⟩ := bind_eq_ok.1 h
  obtain rfl := mustGetGVGStatisticsWithinSP_eq_ok horigin
  exact ⟨gvg, i, swappedSecondary_of_settled hgvg (getElem?_lastIndexOf hindex) hprimary (by simp)
    (settleAndDistributeGVG_move hsettle fun hf => hf.group gvgID gvg hgvg) (Except.ok.inj h).symm⟩

/-! ### Swaps of a primary provider -/

/-- What the loop of `SwapAsPrimarySP` has added: the groups `l`, and their counts in the two
statistics. -/
structure LoopSwapped (s : State) (primary successor : ℕ) (swapIn : Bool)
    (acc acc' : FamilySwap) (ids : List ℕ) (l : List (ℕ × GlobalVirtualGroup)) : Prop where
  state : PaymentMove s acc'.state
  gvgs : acc'.gvgs = acc.gvgs ++ l
  ids : l.map Prod.fst = ids
  groups : ∀ e ∈ l, ∃ gvg, s.gvgs.find? e.1 = some gvg ∧ gvg.primarySpId = primary ∧
    e.2 = { gvg with primarySpId := successor }
  src : acc'.srcStat =
    { acc.srcStat with primaryCount := dec32^[l.length] acc.srcStat.primaryCount }
  dst : acc'.dstStat = { acc.dstStat with
    primaryCount := inc32^[l.length] acc.dstStat.primaryCount
    breakRedundancyReqmtGvgCount :=
      inc32^[l.countP fun e => decide (successor ∈ e.2.secondarySpIds)]
        acc.dstStat.breakRedundancyReqmtGvgCount }

theorem swapGVG_eq_ok (h : swapGVG primarySP successorSP swapIn acc id = .ok acc')
    (hs : acc.state.Foreign → successorSP.fundingAddress ≠ moduleAddress ∧
      primarySP.fundingAddress ≠ moduleAddress) :
    ∃ gvg, acc.state.gvgs.find? id = some gvg ∧ gvg.primarySpId = primarySP.id ∧
      PaymentMove acc.state acc'.state ∧
      acc'.gvgs = acc.gvgs ++ [(id, { gvg with primarySpId := successorSP.id })] ∧
      acc'.srcStat = { acc.srcStat with primaryCount := dec32 acc.srcStat.primaryCount } ∧
      acc'.dstStat = acc.dstStat.addPrimary (decide (successorSP.id ∈ gvg.secondarySpIds)) := by
  unfold swapGVG at h
  split at h
  · simp at h
  rename_i gvg hgvg
  split_ifs at h with hprimary
  obtain ⟨s₁, hpay, h⟩ := bind_eq_ok.1 h
  cases h
  exact ⟨gvg, hgvg, not_not.1 hprimary, swapDeposit_move hpay hs, rfl, rfl, rfl⟩

theorem foldlM_swapGVG_swapped (hstate : PaymentMove s acc.state)
    (hs : s.Foreign → successorSP.fundingAddress ≠ moduleAddress ∧
      primarySP.fundingAddress ≠ moduleAddress)
    (h : ids.foldlM (swapGVG primarySP successorSP swapIn) acc = .ok acc') :
    ∃ l, LoopSwapped s primarySP.id successorSP.id swapIn acc acc' ids l := by
  induction ids generalizing acc with
  | nil =>
    rw [List.foldlM_nil, pure_eq_ok] at h
    subst h
    exact ⟨[], hstate, (List.append_nil _).symm, rfl, by simp, by simp, by simp⟩
  | cons id ids ih =>
    rw [List.foldlM_cons, bind_eq_ok] at h
    obtain ⟨acc₁, hfirst, hrest⟩ := h
    obtain ⟨gvg, hgvg, hprimary, hstate₁, hgvgs₁, hsrc₁, hdst₁⟩ :=
      swapGVG_eq_ok hfirst fun hf => hs (hstate.foreign_iff.1 hf)
    obtain ⟨l, hl⟩ := ih (hstate.trans hstate₁) hrest
    rw [hstate.eq] at hgvg
    refine ⟨(id, { gvg with primarySpId := successorSP.id }) :: l, hl.state, ?_, ?_, ?_, ?_, ?_⟩
    · rw [hl.gvgs, hgvgs₁, List.append_assoc, List.singleton_append]
    · rw [List.map_cons, hl.ids]
    · rintro e (_ | ⟨_, he⟩)
      · exact ⟨gvg, hgvg, hprimary, rfl⟩
      · exact hl.groups e he
    · rw [hl.src, hsrc₁, List.length_cons, iterate_succ_apply]
    · rw [hl.dst, hdst₁, List.length_cons, List.countP_cons]
      unfold GVGStatisticsWithinSP.addPrimary
      by_cases hmem : successorSP.id ∈ gvg.secondarySpIds
      · simp only [hmem, decide_true, if_true]
        rw [iterate_succ_apply, iterate_succ_apply]
      · simp only [hmem, decide_false, if_false, Bool.false_eq_true, add_zero]
        rw [iterate_succ_apply]

theorem foldl_setGVG_eq (l : List (ℕ × GlobalVirtualGroup)) (s : State) :
    l.foldl (fun s e => s.setGVG e.1 e.2) s =
      { s with gvgs := l.foldl (fun m e => m.insert e.1 e.2) s.gvgs } := by
  induction l generalizing s with
  | nil => rfl
  | cons e l ih =>
    rw [List.foldl_cons, ih]
    rfl

theorem deleteSpecificGVGFamilyStatisticsFromSP_eq_ok
    (h : s.deleteSpecificGVGFamilyStatisticsFromSP spID familyID = .ok s') :
    s' = { s with gvgFamilyStatistics := if familyID ∈ s.familyStat spID then
      s.gvgFamilyStatistics.insert spID ((s.familyStat spID).erase familyID)
    else s.gvgFamilyStatistics } := by
  unfold deleteSpecificGVGFamilyStatisticsFromSP at h
  obtain ⟨ids, hids, h⟩ := bind_eq_ok.1 h
  have hstat : s.familyStat spID = ids := by
    unfold mustGetGVGFamilyStatisticsWithinSP at hids
    unfold familyStat getOrCreateGVGFamilyStatisticsWithinSP
    split at hids
    · simp at hids
    · rename_i ids' hfind
      cases hids
      rw [hfind, Option.getD_some]
  rw [hstat]
  split_ifs at h ⊢
  all_goals
    cases h
    rfl

/-- The groups of the family keep their deposits. -/
theorem SwappedPrimary.kept (h : SwappedPrimary s s' primary successor familyID swapIn family l)
    (hparams : s'.params = s.params) (hpayouts : s'.payouts = s.payouts) (hversions : SameVersions s s')
    (hpool : s.Foreign → s'.depositPool = s.depositPool) : Kept s s' := by
  refine ⟨fun id => ?_, fun id => ?_, congrArg _ hparams, .of_eq h.frame.sp, hpayouts, hversions, hpool⟩
  · by_cases hid : id ∈ family.globalVirtualGroupIds
    · obtain ⟨gvg, hold, -, hnew⟩ := h.find_listed hid
      rw [hold, hnew]
      rfl
    · rw [h.find_other hid]
  · rw [h.families, find?_insert]
    split_ifs with hid
    · rw [hid, h.find]
      rfl
    · rfl

/-- **`SwapAsPrimarySP`.** -/
theorem swapAsPrimarySP_swapped
    (h : s.swapAsPrimarySP ctx primarySP successorSP familyID swapIn = .ok s')
    (hs : s.Foreign → successorSP.fundingAddress ≠ moduleAddress ∧
      primarySP.fundingAddress ≠ moduleAddress) :
    ∃ family l, SwappedPrimary s s' primarySP.id successorSP.id familyID swapIn family l ∧
      Kept s s' := by
  unfold swapAsPrimarySP at h
  split at h
  · simp at h
  rename_i family hfamily
  split_ifs at h with howner
  obtain ⟨srcStat, hsrc, h⟩ := bind_eq_ok.1 h
  obtain ⟨_, -, h⟩ := bind_eq_ok.1 h
  obtain ⟨acc, hloop, h⟩ := bind_eq_ok.1 h
  obtain ⟨s₁, hsettle, h⟩ := bind_eq_ok.1 h
  obtain ⟨s₂, hdel, h⟩ := bind_eq_ok.1 h
  have hs' := (Except.ok.inj h).symm
  obtain rfl := mustGetGVGStatisticsWithinSP_eq_ok hsrc
  obtain ⟨l, hl⟩ := foldlM_swapGVG_swapped (.refl s) hs hloop
  obtain ⟨hs₁, hversions, hpool⟩ : PaymentMove s s₁ := by
    refine hl.state.trans (settleAndDistributeGVGFamily_move hsettle fun hf => ?_)
    have hf' := hl.state.foreign_iff.1 hf
    exact ⟨(hs hf').2, hf'.family familyID family hfamily⟩
  generalize s₁.payment = payment at hs₁
  subst hs₁
  have hs₂ := deleteSpecificGVGFamilyStatisticsFromSP_eq_ok hdel
  rw [foldl_setGVG_eq, hl.gvgs, hl.src, hl.dst, List.nil_append] at hs₂
  subst hs₂
  have hswapped : SwappedPrimary s s' primarySP.id successorSP.id familyID swapIn family l := by
    subst hs'
    exact ⟨hfamily, not_not.1 howner, hl.ids, hl.groups, rfl, rfl,
      stat_of_insert_insert (fun stat => { stat with primaryCount := dec32^[_] stat.primaryCount })
        (fun stat => { stat with
          primaryCount := inc32^[_] stat.primaryCount
          breakRedundancyReqmtGvgCount := inc32^[_] stat.breakRedundancyReqmtGvgCount }) rfl,
      rfl, ⟨rfl, rfl, rfl, rfl, rfl⟩⟩
  refine ⟨family, l, hswapped, ?_⟩
  subst hs'
  exact hswapped.kept rfl rfl hversions hpool

/-! ### The messages -/

/-- A write of the payment state only. -/
theorem Step.ofPayment (h : PaymentMove s s') : Step g op s s' := by
  refine ⟨.quiet ?_ (.inl ?_) (.inl ⟨?_, ?_⟩) fun hswaps => ?_, h.kept⟩
  · constructor <;> rw [h.eq]
  · rw [h.eq]
  · rw [h.eq]
  · rw [h.eq]
  · rw [h.eq]
    exact ⟨hswaps.group, hswaps.family⟩

/-- A write of the entries for swaps out only. -/
theorem Step.ofSwapOut
    (h : s' = { s with swapOutFamilies := s'.swapOutFamilies, swapOutGVGs := s'.swapOutGVGs }) :
    Step g op s s' := by
  generalize s'.swapOutFamilies = families, s'.swapOutGVGs = gvgs at h
  subst h
  exact ⟨.quiet ⟨rfl, rfl, rfl, rfl, rfl, rfl⟩ (.inl rfl) (.inl ⟨rfl, rfl⟩)
    fun hswaps => ⟨hswaps.group, hswaps.family⟩, .of_eq rfl rfl rfl (.of_eq rfl) rfl rfl⟩

/-- A write of the entries for swaps in only. -/
theorem Step.ofSwapIn
    (h : s' = { s with swapInFamilies := s'.swapInFamilies, swapInGVGs := s'.swapInGVGs })
    (hop : op.reserves = true) (hswaps : s.SwapsApart → s'.SwapsApart) : Step g op s s' := by
  generalize s'.swapInFamilies = families, s'.swapInGVGs = gvgs at h
  subst h
  exact ⟨.quiet ⟨rfl, rfl, rfl, rfl, rfl, rfl⟩ (.inl rfl) (.inr hop) hswaps,
    .of_eq rfl rfl rfl (.of_eq rfl) rfl rfl⟩

/-- A write of the store of the providers only. -/
theorem Move.ofProviders (store : Sp.Store) (htouched : op.touchesProviders = true) :
    Move g op s { s with sp := store } :=
  .quiet ⟨rfl, rfl, rfl, rfl, rfl, rfl⟩ (.inr htouched) (.inl ⟨rfl, rfl⟩)
    fun hswaps => ⟨hswaps.group, hswaps.family⟩

/-- A provider changes its status. -/
theorem Step.ofStatus {status : Sp.Status} (hsp : s.sp.getStorageProvider sp.id = some sp)
    (htouched : op.touchesProviders = true) :
    Step g op s { s with sp := s.sp.setStorageProvider { sp with status := status } } := by
  refine ⟨.ofProviders _ htouched, .of_eq rfl rfl rfl (fun id sp' h => ?_) rfl rfl⟩
  unfold Sp.Store.getStorageProvider Sp.Store.setStorageProvider at h
  rw [find?_insert] at h
  split_ifs at h with hid
  · cases h
    exact ⟨sp, hid ▸ hsp, rfl⟩
  · exact ⟨sp', h, rfl⟩

theorem setSwapOutInfo_steps {info : SwapOutInfo}
    (h : s.setSwapOutInfo familyID gvgIDs info = .ok s') : ReflTransGen (Step g op) s s' := by
  unfold setSwapOutInfo at h
  split_ifs at h
  · cases h
    exact .single (.ofSwapOut rfl)
  · refine foldlM_invariant (ReflTransGen (Step g op) s) (fun s₁ id s₂ _ hI hset => ?_) .refl h
    unfold setSwapOutGVG at hset
    split_ifs at hset
    cases hset
    exact hI.tail (.ofSwapOut rfl)

theorem deleteSwapOutInfo_steps (h : s.deleteSwapOutInfo familyID gvgIDs spID = .ok s') :
    ReflTransGen (Step g op) s s' := by
  unfold deleteSwapOutInfo at h
  split_ifs at h
  · cases h
    exact .single (.ofSwapOut rfl)
  · refine foldlM_invariant (ReflTransGen (Step g op) s) (fun s₁ id s₂ _ hI hset => ?_) .refl h
    unfold deleteSwapOutGVG at hset
    split_ifs at hset
    cases hset
    exact hI.tail (.ofSwapOut rfl)

/-- An entry is written over one that has expired. -/
theorem overwriteSwapIn_eq_ok {old : Option SwapInInfo} {info' : SwapInInfo}
    (h : overwriteSwapIn ctx old info = .ok info') :
    (∀ cur ∈ old, cur.expirationTime ≤ uint64 ctx.blockTime) ∧ info' = info := by
  unfold overwriteSwapIn at h
  split at h
  · exact ⟨fun _ hcur => (Option.not_mem_none _ hcur).elim, (Except.ok.inj h).symm⟩
  · split_ifs at h with hlive
    refine ⟨fun _ hcur => ?_, (Except.ok.inj h).symm⟩
    cases hcur
    exact not_lt.1 hlive

/-- What a reservation writes. -/
theorem swapIn_eq_ok {targetSP : Sp.StorageProvider} {expirationTime : ℤ}
    (h : s.swapIn ctx familyID gvgID successorSPID targetSP expirationTime = .ok s') :
    (familyID ≠ noSpecifiedFamilyID ∧
        (∀ cur ∈ s.swapInFamilies.find? familyID, cur.expirationTime ≤ uint64 ctx.blockTime) ∧
        s' = { s with
          swapInFamilies := s.swapInFamilies.insert familyID
            ⟨successorSPID, targetSP.id, uint64 expirationTime⟩ }) ∨
      (familyID = noSpecifiedFamilyID ∧
        (∀ cur ∈ s.swapInGVGs.find? gvgID, cur.expirationTime ≤ uint64 ctx.blockTime) ∧
        s' = { s with
          swapInGVGs := s.swapInGVGs.insert gvgID
            ⟨successorSPID, targetSP.id, uint64 expirationTime⟩ }) := by
  unfold swapIn at h
  dsimp only at h
  split at h
  · rename_i hfamily
    split at h
    · simp at h
    split at h
    · simp at h
    split_ifs at h
    obtain ⟨info, hinfo, hset⟩ := bind_eq_ok.1 h
    obtain ⟨hfree, rfl⟩ := overwriteSwapIn_eq_ok hinfo
    exact .inl ⟨hfamily, hfree, (Except.ok.inj hset).symm⟩
  · rename_i hfamily
    split at h
    · simp at h
    split at h
    · simp at h
    obtain ⟨found, -, h⟩ := bind_eq_ok.1 h
    split_ifs at h
    all_goals
      obtain ⟨info, hinfo, hset⟩ := bind_eq_ok.1 h
      obtain ⟨hfree, rfl⟩ := overwriteSwapIn_eq_ok hinfo
      exact .inr ⟨not_not.1 hfamily, hfree, (Except.ok.inj hset).symm⟩

theorem reserveSwapIn_eq_ok
    (h : reserveSwapIn ctx s storageProvider targetSpId familyID gvgID = .ok s') :
    ∃ successorSP targetSP period, s.operator storageProvider = .ok successorSP ∧
      targetSP.id = targetSpId ∧ successorSP.id ≠ targetSpId ∧ s.params.swapInPeriod = .ok period ∧
      s.swapIn ctx familyID gvgID successorSP.id targetSP (int64 (ctx.blockTime + period)) =
        .ok s' := by
  obtain ⟨_, -, h⟩ := bind_eq_ok.1 h
  split at h
  · simp at h
  obtain ⟨successorSP, hsucc, h⟩ := bind_eq_ok.1 h
  split at h
  · simp at h
  rename_i hself
  split at h
  · simp at h
  rename_i targetSP htarget
  obtain ⟨period, hperiod, h⟩ := bind_eq_ok.1 h
  exact ⟨successorSP, targetSP, period, hsucc, s.sp.id_key _ _ htarget, hself, hperiod, h⟩

theorem reserveSwapIn_step (hop : op.reserves = true)
    (h : reserveSwapIn ctx s storageProvider targetSpId familyID gvgID = .ok s') :
    Step g op s s' := by
  obtain ⟨successorSP, targetSP, period, -, rfl, hself, -, h⟩ := reserveSwapIn_eq_ok h
  obtain ⟨-, -, rfl⟩ | ⟨-, -, rfl⟩ := swapIn_eq_ok h
  · exact .ofSwapIn rfl hop fun hswaps =>
      ⟨hswaps.group, forall_insert hself fun i info _ => hswaps.family i info⟩
  · exact .ofSwapIn rfl hop fun hswaps =>
      ⟨forall_insert hself fun i info _ => hswaps.group i info, hswaps.family⟩

theorem deleteSwapInInfo_eq_ok (h : s.deleteSwapInInfo familyID gvgID successorSPID = .ok s') :
    (familyID ≠ noSpecifiedFamilyID ∧
        s' = { s with swapInFamilies := s.swapInFamilies.erase familyID }) ∨
      (familyID = noSpecifiedFamilyID ∧
        s' = { s with swapInGVGs := s.swapInGVGs.erase gvgID }) := by
  unfold deleteSwapInInfo at h
  split_ifs at h with hfamily
  all_goals obtain ⟨_, -, h⟩ := bind_eq_ok.1 h
  · exact .inl ⟨hfamily, (Except.ok.inj h).symm⟩
  · exact .inr ⟨not_not.1 hfamily, (Except.ok.inj h).symm⟩

theorem deleteSwapInInfo_step (hop : op.reserves = true)
    (h : s.deleteSwapInInfo familyID gvgID successorSPID = .ok s') : Step g op s s' := by
  obtain ⟨-, rfl⟩ | ⟨-, rfl⟩ := deleteSwapInInfo_eq_ok h
  · exact .ofSwapIn rfl hop fun hswaps =>
      ⟨hswaps.group, fun _ _ h => hswaps.family _ _ (find?_of_erase h)⟩
  · exact .ofSwapIn rfl hop fun hswaps =>
      ⟨fun _ _ h => hswaps.group _ _ (find?_of_erase h), hswaps.family⟩

theorem settle_steps (h : settle ctx s familyID gvgIDs = .ok s') :
    ReflTransGen (Step g op) s s' := by
  unfold settle at h
  split_ifs at h
  · split at h
    · simp at h
    rename_i family hfamily
    split at h
    · simp at h
    rename_i sp hsp
    exact .single (.ofPayment (settleAndDistributeGVGFamily_move h fun hf =>
      ⟨hf.funding _ _ hsp, hf.family _ _ hfamily⟩))
  · refine foldlM_invariant (ReflTransGen (Step g op) s) (fun s₁ id s₂ _ hI hone => ?_) .refl h
    unfold settleGVG at hone
    split at hone
    · simp at hone
    rename_i gvg hgvg
    exact hI.tail (.ofPayment (settleAndDistributeGVG_move hone fun hf => hf.group _ _ hgvg))

/-- What the checks of `CompleteSwapOut` give. -/
theorem checkSwapOut_info {info : Option SwapOutInfo}
    (h : s.checkSwapOut info successorSP = .ok sp) :
    ∃ i, info = some i ∧ sp.id = i.spId ∧ s.sp.getStorageProvider sp.id = some sp := by
  unfold checkSwapOut at h
  split at h
  · simp at h
  rename_i i
  split_ifs at h
  split at h
  · simp at h
  rename_i sp' hsp
  cases h
  have hid := s.sp.id_key _ _ hsp
  exact ⟨i, rfl, hid, hid ▸ hsp⟩

/-- What the checks of `CompleteSwapIn` give. -/
theorem checkSwapIn_info {info : Option SwapInInfo} (h : s.checkSwapIn info successorSP = .ok sp) :
    ∃ i, info = some i ∧ successorSP.id = i.successorSpId ∧ sp.id = i.targetSpId ∧
      s.sp.getStorageProvider sp.id = some sp := by
  unfold checkSwapIn at h
  split at h
  · simp at h
  rename_i i
  split_ifs at h with hsucc
  split at h
  · simp at h
  rename_i sp' hsp
  cases h
  have hid := s.sp.id_key _ _ hsp
  exact ⟨i, rfl, not_not.1 hsucc, hid, hid ▸ hsp⟩

/-- The assumptions on the groups of `CompleteSwapOut`, each in the state in which its turn
comes. -/
def AllowedSwapOuts (g : Limits) (ctx : Ctx) (successorSP : Sp.StorageProvider) :
    State → List ℕ → Prop
  | _, [] => True
  | s, gvgID :: rest =>
    (∀ info ∈ s.swapOutGVGs.find? gvgID, g.secondary s gvgID info.spId successorSP.id false) ∧
    ∀ s' ∈ (s.completeSwapOutGVG ctx successorSP gvgID).toOption,
      AllowedSwapOuts g ctx successorSP s' rest

theorem AllowedSwapOuts.of_secondary
    (hg : ∀ s gvgID origin successor swapIn, g.secondary s gvgID origin successor swapIn)
    (s : State) (gvgIDs : List ℕ) : AllowedSwapOuts g ctx successorSP s gvgIDs := by
  induction gvgIDs generalizing s with
  | nil => trivial
  | cons gvgID rest ih => exact ⟨fun _ _ => hg _ _ _ _ _, fun s' _ => ih s'⟩

theorem foldlM_completeSwapOutGVG_steps (hallowed : AllowedSwapOuts g ctx successorSP s gvgIDs)
    (h : gvgIDs.foldlM (completeSwapOutGVG ctx successorSP) s = .ok s') :
    ReflTransGen (Step g op) s s' := by
  induction gvgIDs generalizing s with
  | nil =>
    rw [List.foldlM_nil, pure_eq_ok] at h
    exact h ▸ .refl
  | cons gvgID rest ih =>
    rw [List.foldlM_cons, bind_eq_ok] at h
    obtain ⟨s₁, hone, hrest⟩ := h
    obtain ⟨hfirst, hlater⟩ := hallowed
    have htail := ih (hlater s₁ (by rw [hone]; rfl)) hrest
    unfold completeSwapOutGVG at hone
    obtain ⟨sp, hcheck, hone⟩ := bind_eq_ok.1 hone
    obtain ⟨s₂, hswap, hone⟩ := bind_eq_ok.1 hone
    obtain rfl := Except.ok.inj hone
    obtain ⟨info, hinfo, hid, -⟩ := checkSwapOut_info hcheck
    obtain ⟨gvg, i, hswapped, hkept⟩ := swapOutAsSecondarySP_swapped hswap
    have hsecondary := hfirst info hinfo
    rw [← hid] at hsecondary
    exact .head ⟨.secondary gvgID _ _ false gvg i hsecondary (by simp) hswapped, hkept⟩
      (.head (.ofSwapOut rfl) htail)

/-- The assumptions on a message. -/
def Op.Allowed (g : Limits) (ctx : Ctx) (s : State) : Op → Prop
  | .createGlobalVirtualGroup storageProvider familyID secondarySpIds _ =>
    ∀ sp ∈ s.sp.getStorageProviderByOperatorAddr storageProvider,
      g.create s sp familyID secondarySpIds
  | .deleteGlobalVirtualGroup _ gvgID => ∀ gvg ∈ s.gvgs.find? gvgID, g.delete gvg
  | .completeSwapOut storageProvider familyID gvgIDs =>
    ∀ sp ∈ s.sp.getStorageProviderByOperatorAddr storageProvider,
      if familyID = noSpecifiedFamilyID then AllowedSwapOuts g ctx sp s gvgIDs
      else ∀ info ∈ s.swapOutFamilies.find? familyID, g.primary s info.spId sp.id familyID
  | .completeSwapIn storageProvider familyID gvgID =>
    ∀ sp ∈ s.sp.getStorageProviderByOperatorAddr storageProvider,
      if familyID = noSpecifiedFamilyID then
        ∀ info ∈ s.swapInGVGs.find? gvgID, g.secondary s gvgID info.targetSpId sp.id true
      else ∀ info ∈ s.swapInFamilies.find? familyID, g.primary s info.targetSpId sp.id familyID
  | _ => True

section Decidable

variable [∀ s gvgID origin successor swapIn,
  Decidable (g.secondary s gvgID origin successor swapIn)]

instance AllowedSwapOuts.decidable {successorSP : Sp.StorageProvider} : ∀ s gvgIDs,
    Decidable (AllowedSwapOuts g ctx successorSP s gvgIDs)
  | _, [] => isTrue trivial
  | _, _ :: rest =>
    have : ∀ s', Decidable (AllowedSwapOuts g ctx successorSP s' rest) :=
      fun s' => AllowedSwapOuts.decidable s' rest
    inferInstanceAs (Decidable (_ ∧ _))

instance Op.Allowed.decidable [∀ s sp familyID ids, Decidable (g.create s sp familyID ids)]
    [∀ gvg, Decidable (g.delete gvg)]
    [∀ s primary successor familyID, Decidable (g.primary s primary successor familyID)]
    (ctx : Ctx) (s : State) : (op : Op) → Decidable (op.Allowed g ctx s)
  | .createGlobalVirtualGroup _ _ _ _ => inferInstanceAs (Decidable (∀ _ ∈ _, _))
  | .deleteGlobalVirtualGroup _ _ => inferInstanceAs (Decidable (∀ _ ∈ _, _))
  | .completeSwapOut _ _ _ => inferInstanceAs (Decidable (∀ _ ∈ _, ite _ _ _))
  | .completeSwapIn _ _ _ => inferInstanceAs (Decidable (∀ _ ∈ _, ite _ _ _))
  | .deposit _ _ _ | .withdraw _ _ _ | .swapOut _ _ _ _ _ | .cancelSwapOut _ _ _
  | .reserveSwapIn _ _ _ _ | .cancelSwapIn _ _ _ | .settle _ _ | .storageProviderExit _
  | .storageProviderForcedExit _ | .completeStorageProviderExit _ | .updateParams _ | .sp _
  | .payment _ | .storedSize _ _ => isTrue trivial

end Decidable

theorem completeSwapOut_steps
    (hop : (Op.completeSwapOut storageProvider familyID gvgIDs).Allowed g ctx s)
    (h : completeSwapOut ctx s storageProvider familyID gvgIDs = .ok s') :
    ReflTransGen (Step g op) s s' := by
  obtain ⟨_, -, h⟩ := bind_eq_ok.1 h
  obtain ⟨successorSP, hsucc, h⟩ := bind_eq_ok.1 h
  have hop := hop successorSP (operator_eq_ok.1 hsucc)
  unfold State.completeSwapOut at h
  by_cases hfamily : familyID = noSpecifiedFamilyID
  · rw [if_pos hfamily] at hop
    rw [if_neg (not_not.2 hfamily)] at h
    exact foldlM_completeSwapOutGVG_steps hop h
  · rw [if_neg hfamily] at hop
    rw [if_pos hfamily] at h
    obtain ⟨sp, hcheck, h⟩ := bind_eq_ok.1 h
    obtain ⟨s₁, hswap, h⟩ := bind_eq_ok.1 h
    cases h
    obtain ⟨info, hinfo, hid, hsp⟩ := checkSwapOut_info hcheck
    obtain ⟨family, l, hswapped, hkept⟩ := swapAsPrimarySP_swapped hswap fun hf =>
      ⟨hf.funding _ _ (getStorageProvider_of_operator hsucc), hf.funding _ _ hsp⟩
    have hprimary := hop info hinfo
    rw [← hid] at hprimary
    exact .head ⟨.primary _ _ familyID false family l hprimary (by simp) hswapped, hkept⟩
      (.single (.ofSwapOut rfl))

/-- **A completed swap in:** the entry names the successor and the provider that it replaces. -/
theorem completeSwapIn_eq_ok (h : completeSwapIn ctx s storageProvider familyID gvgID = .ok s') :
    ∃ successorSP info, s.operator storageProvider = .ok successorSP ∧
      successorSP.id = info.successorSpId ∧
      ((familyID = noSpecifiedFamilyID ∧ s.swapInGVGs.find? gvgID = some info ∧
          ∃ s₁ gvg i, SwappedSecondary s s₁ gvgID info.targetSpId successorSP.id true gvg i ∧
            Kept s s₁ ∧ s' = { s₁ with swapInGVGs := s₁.swapInGVGs.erase gvgID }) ∨
        (familyID ≠ noSpecifiedFamilyID ∧ s.swapInFamilies.find? familyID = some info ∧
          ∃ s₁ family l, SwappedPrimary s s₁ info.targetSpId successorSP.id familyID true family l ∧
            Kept s s₁ ∧ s' = { s₁ with swapInFamilies := s₁.swapInFamilies.erase familyID })) := by
  obtain ⟨_, -, h⟩ := bind_eq_ok.1 h
  obtain ⟨successorSP, hsucc, h⟩ := bind_eq_ok.1 h
  unfold State.completeSwapIn at h
  by_cases hfamily : familyID = noSpecifiedFamilyID
  · rw [if_neg (not_not.2 hfamily)] at h
    obtain ⟨target, hcheck, h⟩ := bind_eq_ok.1 h
    obtain ⟨s₁, hswap, h⟩ := bind_eq_ok.1 h
    obtain ⟨info, hinfo, hsuccessor, hid, -⟩ := checkSwapIn_info hcheck
    obtain ⟨gvg, i, hswapped, hkept⟩ := completeSwapInGVG_swapped hswap
    rw [hid] at hswapped
    exact ⟨successorSP, info, hsucc, hsuccessor, .inl ⟨hfamily, hinfo, s₁, gvg, i, hswapped, hkept,
      (Except.ok.inj h).symm⟩⟩
  · rw [if_pos hfamily] at h
    obtain ⟨target, hcheck, h⟩ := bind_eq_ok.1 h
    obtain ⟨s₁, hswap, h⟩ := bind_eq_ok.1 h
    obtain ⟨info, hinfo, hsuccessor, hid, hsp⟩ := checkSwapIn_info hcheck
    obtain ⟨family, l, hswapped, hkept⟩ := swapAsPrimarySP_swapped hswap fun hf =>
      ⟨hf.funding _ _ (getStorageProvider_of_operator hsucc), hf.funding _ _ hsp⟩
    rw [hid] at hswapped
    exact ⟨successorSP, info, hsucc, hsuccessor, .inr ⟨hfamily, hinfo, s₁, family, l, hswapped,
      hkept, (Except.ok.inj h).symm⟩⟩

theorem completeSwapIn_steps
    (hop : (Op.completeSwapIn storageProvider familyID gvgID).Allowed g ctx s)
    (h : completeSwapIn ctx s storageProvider familyID gvgID = .ok s') :
    ReflTransGen (Step g (.completeSwapIn storageProvider familyID gvgID)) s s' := by
  obtain ⟨successorSP, info, hsucc, hsuccessor, hswap⟩ := completeSwapIn_eq_ok h
  have hop := hop successorSP (operator_eq_ok.1 hsucc)
  obtain ⟨hfamily, hinfo, s₁, gvg, i, hswapped, hkept, rfl⟩ |
    ⟨hfamily, hinfo, s₁, family, l, hswapped, hkept, rfl⟩ := hswap
  · rw [if_pos hfamily] at hop
    refine .head ⟨.secondary gvgID _ _ true gvg i (hop info hinfo) (fun _ hswaps => ?_) hswapped,
      hkept⟩
      (.single (.ofSwapIn rfl rfl fun hswaps =>
        ⟨fun _ _ h => hswaps.group _ _ (find?_of_erase h), hswaps.family⟩))
    rw [hsuccessor]
    exact hswaps.group gvgID info hinfo
  · rw [if_neg hfamily] at hop
    refine .head ⟨.primary _ _ familyID true family l (hop info hinfo) (fun _ hswaps => ?_)
      hswapped, hkept⟩
      (.single (.ofSwapIn rfl rfl fun hswaps =>
        ⟨hswaps.group, fun _ _ h => hswaps.family _ _ (find?_of_erase h)⟩))
    rw [hsuccessor]
    exact hswaps.family familyID info hinfo

theorem spModuleAddress_ne : Sp.moduleAddress ≠ moduleAddress := by decide

theorem completeStorageProviderExit_steps
    (h : completeStorageProviderExit ctx s storageProvider = .ok s')
    (htouched : op.touchesProviders = true) : ReflTransGen (Step g op) s s' := by
  obtain ⟨sp, hsp, h⟩ := bind_eq_ok.1 h
  split at h
  · simp at h
  obtain ⟨_, -, h⟩ := bind_eq_ok.1 h
  have hrecipient : s.Foreign → (if sp.status = .gracefulExiting then sp.fundingAddress
      else Payment.governanceAddress) ≠ moduleAddress := by
    intro hf
    split_ifs
    · exact hf.funding _ _ (getStorageProvider_of_operator hsp)
    · exact moduleAddress_ne_governance.symm
  generalize (if sp.status = .gracefulExiting then sp.fundingAddress
    else Payment.governanceAddress) = recipient at h hrecipient
  dsimp only at h
  split at h
  · simp at h
  obtain ⟨s₁, hsend, h⟩ := bind_eq_ok.1 h
  cases h
  have hmove : PaymentMove s s₁ :=
    sendCoins_move hsend fun hf => ⟨spModuleAddress_ne, hrecipient hf⟩
  refine .head (.ofPayment hmove) (.single ⟨.ofProviders _ htouched, ?_⟩)
  refine .of_eq rfl rfl rfl (fun id sp' hid => ?_) rfl rfl
  exact ⟨sp', find?_of_erase hid, rfl⟩

/-- The messages that only rearrange groups and families. -/
def Op.rearranges : Op → Bool
  | .createGlobalVirtualGroup _ _ _ _ | .deleteGlobalVirtualGroup _ _ | .deposit _ _ _
  | .withdraw _ _ _ | .sp _ | .payment _ | .storedSize _ _ => false
  | _ => true

/-- **All messages but the four on deposits keep the books**, in every move. -/
theorem run_steps (hrearranges : op.rearranges = true) (hop : op.Allowed g ctx s)
    (h : op.run ctx s = .ok s') : ReflTransGen (Step g op) s s' := by
  cases op with
  | createGlobalVirtualGroup _ _ _ _ => cases hrearranges
  | deleteGlobalVirtualGroup _ _ => cases hrearranges
  | deposit _ _ _ => cases hrearranges
  | withdraw _ _ _ => cases hrearranges
  | sp _ => cases hrearranges
  | payment _ => cases hrearranges
  | storedSize _ _ => cases hrearranges
  | swapOut storageProvider familyID gvgIDs successorSpId approved =>
    obtain ⟨_, -, h⟩ := bind_eq_ok.1 h
    split at h
    · simp at h
    obtain ⟨sp, -, h⟩ := bind_eq_ok.1 h
    split at h
    · simp at h
    split_ifs at h
    exact setSwapOutInfo_steps h
  | cancelSwapOut storageProvider familyID gvgIDs =>
    obtain ⟨_, -, h⟩ := bind_eq_ok.1 h
    obtain ⟨sp, -, h⟩ := bind_eq_ok.1 h
    exact deleteSwapOutInfo_steps h
  | completeSwapOut storageProvider familyID gvgIDs => exact completeSwapOut_steps hop h
  | reserveSwapIn storageProvider targetSpId familyID gvgID =>
    exact .single (reserveSwapIn_step rfl h)
  | cancelSwapIn storageProvider familyID gvgID =>
    obtain ⟨_, -, h⟩ := bind_eq_ok.1 h
    obtain ⟨sp, -, h⟩ := bind_eq_ok.1 h
    exact .single (deleteSwapInInfo_step rfl h)
  | completeSwapIn storageProvider familyID gvgID => exact completeSwapIn_steps hop h
  | settle familyID gvgIDs => exact settle_steps h
  | storageProviderExit storageProvider =>
    obtain ⟨sp, hsp, h⟩ := bind_eq_ok.1 h
    split_ifs at h
    obtain ⟨max, -, h⟩ := bind_eq_ok.1 h
    obtain ⟨_, -, h⟩ := bind_eq_ok.1 h
    cases h
    exact .single (.ofStatus (getStorageProvider_of_operator hsp) rfl)
  | storageProviderForcedExit storageProvider =>
    obtain ⟨sp, hsp, h⟩ := bind_eq_ok.1 h
    obtain ⟨max, -, h⟩ := bind_eq_ok.1 h
    obtain ⟨_, -, h⟩ := bind_eq_ok.1 h
    cases h
    exact .single (.ofStatus (getStorageProvider_of_operator hsp) rfl)
  | completeStorageProviderExit storageProvider => exact completeStorageProviderExit_steps h rfl
  | updateParams p =>
    have h' : updateParams s p = .ok s' := h
    unfold updateParams at h'
    split_ifs at h' with hkept hvalid
    cases h'
    exact .single ⟨.quiet ⟨rfl, rfl, rfl, rfl, rfl, rfl⟩ (.inl rfl) (.inl ⟨rfl, rfl⟩)
      fun hswaps => ⟨hswaps.group, hswaps.family⟩,
      .of_eq rfl rfl (not_not.1 (not_or.1 hkept).1) (.of_eq rfl) rfl rfl⟩

/-- The limits that allow everything. -/
def Limits.any : Limits where
  create _ _ _ _ := True
  delete _ := True
  primary _ _ _ _ := True
  secondary _ _ _ _ _ := True

/-- Limits that only look at the creations allow every other message. -/
theorem Op.allowed_of_create (op : Op)
    (hcreate : ∀ storageProvider familyID ids coin,
      op = .createGlobalVirtualGroup storageProvider familyID ids coin →
        ∀ sp ∈ s.sp.getStorageProviderByOperatorAddr storageProvider, g.create s sp familyID ids)
    (hdelete : ∀ gvg, g.delete gvg)
    (hprimary : ∀ primary successor familyID, g.primary s primary successor familyID)
    (hsecondary : ∀ s gvgID origin successor swapIn, g.secondary s gvgID origin successor swapIn) :
    op.Allowed g ctx s := by
  cases op with
  | completeSwapOut storageProvider familyID gvgIDs =>
    intro sp _
    split_ifs
    · exact .of_secondary hsecondary s gvgIDs
    · exact fun _ _ => hprimary _ _ _
  | completeSwapIn storageProvider familyID gvgID =>
    intro sp _
    split_ifs
    · exact fun _ _ => hsecondary _ _ _ _ _
    · exact fun _ _ => hprimary _ _ _
  | createGlobalVirtualGroup _ _ _ _ => exact hcreate _ _ _ _ rfl
  | deleteGlobalVirtualGroup _ _ => exact fun _ _ => hdelete _
  | _ => trivial

theorem Op.allowed_any (op : Op) : op.Allowed .any ctx s :=
  op.allowed_of_create (fun _ _ _ _ _ _ _ => trivial) (fun _ => trivial) (fun _ _ _ => trivial)
    fun _ _ _ _ _ => trivial

/-- **What all messages but the four on deposits keep.** -/
theorem run_kept (hrearranges : op.rearranges = true) (h : op.run ctx s = .ok s') :
    Kept s s' := by
  refine Relation.ReflTransGen.head_induction_on (motive := fun s₁ _ => Kept s₁ s')
    (run_steps hrearranges op.allowed_any h) (.refl s') ?_
  intro s₁ s₂ hstep _ ih
  exact hstep.2.trans ih

/-- **No message writes a version of the parameters of `x/payment`.** -/
theorem run_versions (h : op.run ctx s = .ok s') (hsp : ∀ store, op ≠ .sp store)
    (hpay : ∀ o, op ≠ .payment o) (hsize : ∀ gvgID size, op ≠ .storedSize gvgID size) :
    SameVersions s s' := by
  by_cases hop : op.rearranges = true
  · exact (run_kept hop h).versions
  · cases op with
    | createGlobalVirtualGroup _ _ _ _ =>
      obtain ⟨_, _, _, _, -, -, hfunded⟩ := createGlobalVirtualGroup_eq_ok h
      exact hfunded.versions
    | deleteGlobalVirtualGroup _ _ =>
      obtain ⟨sp, -, h⟩ := bind_eq_ok.1 h
      obtain ⟨_, _, -, -, -, -, -, hversions, -⟩ := deleteGVG_eq_ok h
      exact hversions
    | deposit _ _ _ =>
      obtain ⟨_, _, -, -, -, -, hversions, -⟩ := deposit_eq_ok h
      exact hversions
    | withdraw _ _ _ =>
      obtain ⟨_, _, -, -, -, -, -, hversions, -⟩ := withdraw_eq_ok h
      exact hversions
    | sp store => exact absurd rfl (hsp store)
    | payment o => exact absurd rfl (hpay o)
    | storedSize gvgID size => exact absurd rfl (hsize gvgID size)
    | _ => exact absurd rfl hop

/-- **Every message is a sequence of moves.** -/
theorem run_moves (hop : op.Allowed g ctx s) (h : op.run ctx s = .ok s') :
    ReflTransGen (Move g op) s s' := by
  by_cases hrearranges : op.rearranges = true
  · have hmoves : Step g op ≤ Move g op := fun _ _ hstep => hstep.1
    exact ReflTransGen.mono hmoves _ _ (run_steps hrearranges hop h)
  · cases op with
    | createGlobalVirtualGroup storageProvider familyID ids coin =>
      obtain ⟨sp, fid, family, gvg, hsp, hcreated, -⟩ := createGlobalVirtualGroup_eq_ok h
      exact .single (.create ctx sp familyID ids fid family gvg (hop sp (operator_eq_ok.1 hsp))
        hcreated)
    | deleteGlobalVirtualGroup storageProvider gvgID =>
      obtain ⟨sp, -, hdel⟩ := bind_eq_ok.1 h
      obtain ⟨gvg, family, hdeleted, -⟩ := deleteGVG_eq_ok hdel
      exact .single (.delete gvgID gvg family (hop gvg hdeleted.find) hdeleted)
    | deposit storageProvider gvgID coin =>
      obtain ⟨gvg, sp, hgvg, -, -, heq, -⟩ := deposit_eq_ok h
      generalize s'.payment = payment at heq
      subst heq
      exact .single (.resize gvgID gvg { gvg with totalDeposit := gvg.totalDeposit + coin.amount }
        hgvg rfl rfl rfl rfl rfl rfl rfl ⟨rfl, rfl, rfl, rfl, rfl⟩)
    | withdraw storageProvider gvgID coin =>
      obtain ⟨gvg, sp, hgvg, -, -, -, heq, -⟩ := withdraw_eq_ok h
      generalize s'.payment = payment at heq
      subst heq
      exact .single (.resize gvgID gvg { gvg with totalDeposit := gvg.totalDeposit - coin.amount }
        hgvg rfl rfl rfl rfl rfl rfl rfl ⟨rfl, rfl, rfl, rfl, rfl⟩)
    | sp store =>
      cases h
      exact .single (.ofProviders store rfl)
    | payment o =>
      simp only [Op.run] at h
      split at h
      all_goals
        cases h
        exact .single (.quiet ⟨rfl, rfl, rfl, rfl, rfl, rfl⟩ (.inl rfl) (.inl ⟨rfl, rfl⟩)
          fun hswaps => ⟨hswaps.group, hswaps.family⟩)
    | storedSize gvgID size =>
      simp only [Op.run] at h
      split at h
      · cases h
        exact .refl
      · rename_i gvg hgvg
        cases h
        exact .single (.resize gvgID gvg { gvg with storedSize := size } hgvg rfl rfl rfl rfl rfl rfl
          rfl ⟨rfl, rfl, rfl, rfl, rfl⟩)
    | _ => exact absurd rfl hrearranges

/-- **An invariant of the moves holds in every reachable state.** -/
theorem Reachable.moves_invariant {s₀ : State} (I : State → Prop)
    (hI : ∀ op s s', Move g op s s' → I s → I s') (h₀ : I s₀)
    (hreach : Reachable State.step (fun s l => l.2.Allowed g l.1 s) s₀ s) : I s := by
  refine hreach.invariant I h₀ fun s₁ l s₂ h hallowed hstep => ?_
  unfold State.step at hstep
  split at hstep
  · rename_i s₃ hrun
    obtain rfl := Option.some.inj hstep
    refine Relation.ReflTransGen.head_induction_on (motive := fun s _ => I s → I s₃)
      (run_moves hallowed hrun) id ?_ h
    intro s₄ s₅ hmove _ ih h₄
    exact ih (hI _ _ _ hmove h₄)
  · obtain rfl := Option.some.inj hstep
    exact h

end Moca.VirtualGroup
