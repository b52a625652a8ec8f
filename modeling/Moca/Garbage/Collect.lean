/-
# What the garbage collector deletes

Every round pays for what it counts with entries of a noted resource.  A run of the collector
either takes all entries of the resources it was given, or it stops at its limit and keeps, of
the notes, at least the resources that still have entries.
-/

import Moca.Garbage.Types

namespace Moca.Garbage

open SortedMap

open Permission (Uint ResourceType Resource)
open Permission.State (NoNew)

/-- The number of entries of some resources. -/
def total (D : List Resource) (p : Permission.State) : ℕ := (D.map p.entriesOf).sum

variable {D : List Resource} {p p₁ p' : Permission.State} {r : Resource} {n n' : ℕ}
  {info : DeleteInfo}

theorem total_le (h : ∀ r, NoNew r p p') : total D p' ≤ total D p :=
  List.sum_le_sum fun r _ => (h r).entriesOf

/-- What is taken from one resource is taken from the sum. -/
theorem total_add_le (h : ∀ r, NoNew r p p') (hr : r ∈ D)
    (hpaid : p'.entriesOf r + n' ≤ p.entriesOf r + n) : total D p' + n' ≤ total D p + n := by
  unfold total
  induction D with
  | nil => cases hr
  | cons r' D ih =>
    have hhead := (h r').entriesOf
    have htail : (D.map p'.entriesOf).sum ≤ (D.map p.entriesOf).sum := total_le h
    rw [List.map_cons, List.map_cons, List.sum_cons, List.sum_cons]
    rcases List.mem_cons.1 hr with rfl | hr
    · omega
    · have := ih hr
      omega

/-- The outcome of a round or of several: no new entries, and what is counted is paid for. -/
structure Paid (D : List Resource) (p : Permission.State) (n : ℕ) (p' : Permission.State) (n' : ℕ) :
    Prop where
  noNew : ∀ r, NoNew r p p'
  paid : total D p' + n' ≤ total D p + n

theorem Paid.refl (D : List Resource) (p : Permission.State) (n : ℕ) : Paid D p n p n :=
  ⟨fun r => .refl r p, le_rfl⟩

theorem Paid.of_entries (hr : r ∈ D) (h : ∀ r, NoNew r p p')
    (hpaid : p'.entriesOf r + n' ≤ p.entriesOf r + n) : Paid D p n p' n' :=
  ⟨h, total_add_le h hr hpaid⟩

theorem Paid.trans {n₁ : ℕ} (h : Paid D p n p₁ n₁) (h' : Paid D p₁ n₁ p' n') : Paid D p n p' n' :=
  ⟨fun r => (h.noNew r).trans (h'.noNew r), h'.paid.trans h.paid⟩

/-! ### One resource -/

theorem memberEntries_eq_zero (p : Permission.State) (h : r.resourceType ≠ .group) :
    p.memberEntries r = 0 :=
  sum_eq_zero fun k v _ => by
    simp [Permission.mark, Resource.ownsMemberKey, h]

theorem groupEntries_eq_zero (p : Permission.State) (h : r.resourceType = .group) :
    p.groupEntries r = 0 :=
  sum_eq_zero fun k v _ => by
    simp [Permission.mark, Resource.ownsGroupKey, Permission.getPolicyForGroupKey, h,
      Permission.groupPolicyPrefix]

/-- **A round deletes entries of its resource**, all of them if it is done. -/
theorem collectId_spec (maxCleanup : ℕ) (r : Resource) (p : Permission.State) (n : ℕ)
    (hr : r ∈ D) :
    let o := collectId r.resourceType maxCleanup r.id p n
    Paid D p n o.1 o.2.1 ∧ (o.2.2 = true → o.1.entriesOf r = 0) ∧
      (o.2.2 = false → maxCleanup ≤ o.2.1) := by
  have hdel := p.forceDeleteAccountPolicyForResource_deletes maxCleanup n r
  have hnew := (p.forceDeleteAccountPolicyForResource_within maxCleanup n r.resourceType r.id).noNew
  have hpaid := Paid.of_entries hr hnew ((hnew r).account_paid hdel)
  unfold collectId
  generalize p.forceDeleteAccountPolicyForResource maxCleanup n r.resourceType r.id = o at *
  obtain ⟨p₁, n₁, d₁⟩ := o
  dsimp only at hdel hpaid ⊢
  rcases d₁ with _ | _
  · exact ⟨hpaid, by rintro ⟨⟩, fun _ => hdel.limit rfl⟩
  · have haccount : p₁.accountEntries r = 0 := hdel.all rfl
    obtain ⟨t, id⟩ := r
    rw [if_neg (by decide)]
    split_ifs with ht
    · obtain rfl : t = .group := ht
      have hdel₂ := p₁.forceDeleteGroupMembers_deletes maxCleanup n₁ id
      have hnew₂ := (p₁.forceDeleteGroupMembers_within maxCleanup n₁ id).noNew
      refine ⟨hpaid.trans (.of_entries hr hnew₂ ((hnew₂ _).member_paid hdel₂)),
        fun hdone => ?_, hdel₂.limit⟩
      have h₁ := (hnew₂ ⟨.group, id⟩).account
      have h₂ := hdel₂.all hdone
      have h₃ := groupEntries_eq_zero (r := ⟨.group, id⟩)
        (p₁.forceDeleteGroupMembers maxCleanup n₁ id).1 rfl
      unfold Permission.State.entriesOf
      dsimp only at h₁ h₂ ⊢
      omega
    · have hdel₂ := p₁.forceDeleteGroupPolicyForResource_deletes maxCleanup n₁ ⟨t, id⟩
      have hnew₂ := (p₁.forceDeleteGroupPolicyForResource_within maxCleanup n₁ t id).noNew
      refine ⟨hpaid.trans (.of_entries hr hnew₂ ((hnew₂ _).group_paid hdel₂)),
        fun hdone => ?_, hdel₂.limit⟩
      have h₁ := (hnew₂ ⟨t, id⟩).account
      have h₂ := hdel₂.all hdone
      have h₃ := memberEntries_eq_zero (r := ⟨t, id⟩)
        (p₁.forceDeleteGroupPolicyForResource maxCleanup n₁ t id).1 ht
      unfold Permission.State.entriesOf
      dsimp only at h₁ h₂ ⊢
      omega

/-! ### The ids of a note -/

/-- What is left of some ids, and which of them may still have entries. -/
structure Left (maxCleanup n' : ℕ) (t : ResourceType) (ids temp left : List Uint)
    (p' : Permission.State) : Prop where
  limit : maxCleanup ≤ n'
  subset : ∀ id ∈ left, id ∈ temp
  covers : ∀ id ∈ ids, id ∈ left ∨ p'.entriesOf ⟨t, id⟩ = 0

/-- **The loop over the ids of one type.** -/
theorem collectIds_spec (t : ResourceType) (maxCleanup : ℕ) {ids temp : List Uint}
    {p p' : Permission.State} {o : Option (List Uint)} (hD : ∀ id ∈ ids, (⟨t, id⟩ : Resource) ∈ D)
    (htemp : ∀ id ∈ ids, id ∈ temp) (h : collectIds t maxCleanup ids temp p n = (p', n', o)) :
    Paid D p n p' n' ∧ (o = none → ∀ id ∈ ids, p'.entriesOf ⟨t, id⟩ = 0) ∧
      ∀ left, o = some left → Left maxCleanup n' t ids temp left p' := by
  induction ids generalizing temp p n with
  | nil =>
    obtain ⟨rfl, rfl, rfl⟩ : p = p' ∧ n = n' ∧ none = o := by simpa [collectIds] using h
    exact ⟨.refl D p n, by simp, by rintro left ⟨⟩⟩
  | cons id ids ih =>
    obtain ⟨hpaid, hall, hlimit⟩ :=
      collectId_spec maxCleanup ⟨t, id⟩ p n (hD id List.mem_cons_self)
    unfold collectIds at h
    generalize collectId t maxCleanup id p n = o₁ at *
    obtain ⟨p₁, n₁, d₁⟩ := o₁
    dsimp only at hpaid hall hlimit h
    split_ifs at h with hd
    · -- the limit is reached at this id
      obtain ⟨rfl, rfl, rfl⟩ : p₁ = p' ∧ n₁ = n' ∧ some temp = o := by simpa using h
      refine ⟨hpaid, by rintro ⟨⟩, ?_⟩
      rintro left ⟨⟩
      exact ⟨hlimit hd, fun i hi => hi, fun i hi => .inl (htemp i hi)⟩
    all_goals
      -- this id is done, and no later round gives it entries again
      have hzero : p₁.entriesOf ⟨t, id⟩ = 0 := hall (Bool.eq_true_of_not_eq_false hd)
      obtain ⟨hpaid₂, hnone, hsome⟩ := ih (fun i hi => hD i (List.mem_cons_of_mem _ hi))
        (fun i hi => by first | exact htemp i (List.mem_cons_of_mem _ hi) | exact hi) h
      have hkeep : p'.entriesOf ⟨t, id⟩ = 0 :=
        Nat.eq_zero_of_le_zero (hzero ▸ (hpaid₂.noNew ⟨t, id⟩).entriesOf)
      refine ⟨hpaid.trans hpaid₂, fun ho i hi => ?_, fun left hleft => ?_⟩
      · rcases List.mem_cons.1 hi with rfl | hi
        · exact hkeep
        · exact hnone ho i hi
      · obtain ⟨hmax, hsub, hcov⟩ := hsome left hleft
        refine ⟨hmax, fun i hi => ?_, fun i hi => ?_⟩
        · first
          | exact hsub i hi
          | exact htemp i (List.mem_cons_of_mem _ (hsub i hi))
        · rcases List.mem_cons.1 hi with rfl | hi
          · exact .inr hkeep
          · exact hcov i hi

/-! ### One note -/

/-- The resources of a note are taken care of: each is still noted, or has no entries left. -/
structure Kept (info info' : DeleteInfo) (p' : Permission.State) : Prop where
  subset : ∀ r, info'.Notes r → info.Notes r
  covers : ∀ r, info.Notes r → info'.Notes r ∨ p'.entriesOf r = 0

/-- **The loops of one note**, over the types that are left in it. -/
theorem collectTypes_spec (maxCleanup : ℕ) {types : List ResourceType} {p p' : Permission.State}
    {o : Option DeleteInfo} (htypes : ∀ t ∈ types, t ≠ .unspecified)
    (hleft : ∀ r, info.Notes r → r ∈ D ∧ r.resourceType ∈ types)
    (h : collectTypes maxCleanup types info p n = (p', n', o)) :
    Paid D p n p' n' ∧ (o = none → ∀ r, info.Notes r → p'.entriesOf r = 0) ∧
      ∀ info', o = some info' → maxCleanup ≤ n' ∧ Kept info info' p' := by
  induction types generalizing info p n with
  | nil =>
    obtain ⟨rfl, rfl, rfl⟩ : p = p' ∧ n = n' ∧ none = o := by simpa [collectTypes] using h
    exact ⟨.refl D p n, fun _ r hr => absurd (hleft r hr).2 (by simp), by rintro info' ⟨⟩⟩
  | cons t types ih =>
    have ht : t ≠ .unspecified := htypes t List.mem_cons_self
    have hids : ∀ id ∈ info.ids t, (⟨t, id⟩ : Resource) ∈ D := fun id hid =>
      (hleft ⟨t, id⟩ hid).1
    unfold collectTypes at h
    rcases hc : collectIds t maxCleanup (info.ids t) (info.ids t) p n with ⟨p₁, n₁, o₁⟩
    obtain ⟨hpaid, hnone, hsome⟩ :=
      collectIds_spec t maxCleanup hids (fun id hid => hid) hc
    rw [hc] at h
    rcases o₁ with _ | temp
    · -- this type is done; its ids are dropped from the note
      have hrest : ∀ r, (info.setIds t []).Notes r → info.Notes r ∧ r.resourceType ≠ t := by
        intro r hr
        rw [DeleteInfo.Notes, info.ids_setIds ht] at hr
        split_ifs at hr with hrt
        · cases hr
        · exact ⟨hr, hrt⟩
      obtain ⟨hpaid₂, hnone₂, hsome₂⟩ := ih (fun t' ht' => htypes t' (List.mem_cons_of_mem _ ht'))
        (fun r hr => by
          obtain ⟨hnote, hne⟩ := hrest r hr
          obtain ⟨hD, hmem⟩ := hleft r hnote
          exact ⟨hD, (List.mem_cons.1 hmem).resolve_left hne⟩) h
      have hsplit : ∀ r, info.Notes r → (info.setIds t []).Notes r ∨ p'.entriesOf r = 0 := by
        rintro ⟨t', id⟩ hr
        by_cases hrt : t' = t
        · subst hrt
          have hle := (hpaid₂.noNew ⟨t', id⟩).entriesOf
          rw [hnone rfl id hr] at hle
          exact .inr (Nat.eq_zero_of_le_zero hle)
        · refine .inl ?_
          rw [DeleteInfo.Notes, info.ids_setIds ht, if_neg hrt]
          exact hr
      refine ⟨hpaid.trans hpaid₂, fun ho r hr => ?_, fun info' ho => ?_⟩
      · rcases hsplit r hr with hr | hr
        · exact hnone₂ ho r hr
        · exact hr
      · obtain ⟨hmax, hsub, hcov⟩ := hsome₂ info' ho
        refine ⟨hmax, fun r hr => (hrest r (hsub r hr)).1, fun r hr => ?_⟩
        rcases hsplit r hr with hr | hr
        · exact hcov r hr
        · exact .inr hr
    · -- the limit is reached in this type
      obtain ⟨rfl, rfl, rfl⟩ : p₁ = p' ∧ n₁ = n' ∧ some (info.setIds t temp) = o := by
        simpa using h
      obtain ⟨hmax, hsub, hcov⟩ := hsome temp rfl
      refine ⟨hpaid, by rintro ⟨⟩, ?_⟩
      rintro info' ⟨⟩
      refine ⟨hmax, ?_, ?_⟩
      · rintro ⟨t', id⟩ hr
        rw [DeleteInfo.Notes, info.ids_setIds ht] at hr
        split_ifs at hr with hrt
        · obtain rfl : t' = t := hrt
          exact hsub id hr
        · exact hr
      · rintro ⟨t', id⟩ hr
        by_cases hrt : t' = t
        · subst hrt
          rcases hcov id hr with hmem | hzero
          · refine .inl ?_
            rw [DeleteInfo.Notes, info.ids_setIds ht, if_pos rfl]
            exact hmem
          · exact .inr hzero
        · refine .inl ?_
          rw [DeleteInfo.Notes, info.ids_setIds ht, if_neg hrt]
          exact hr

/-! ### All notes -/

/-- A resource is noted in the persistent store. -/
def State.Persisted (s : State) (r : Resource) : Prop :=
  ∃ height info, s.deleteInfos.find? height = some info ∧ info.Notes r

/-- The outcome of the collector. -/
structure State.Collected (s s' : State) : Prop where
  deleted : s'.deleted = s.deleted
  noNew : ∀ r, NoNew r s.permission s'.permission
  heights : ∀ height info, s'.deleteInfos.find? height = some info →
    s.deleteInfos.find? height ≠ none
  subset : ∀ r, s'.Persisted r → s.Persisted r
  covers : ∀ r, s.Persisted r → s'.Persisted r ∨ s'.permission.entriesOf r = 0

theorem State.Collected.refl (s : State) : s.Collected s where
  deleted := rfl
  noNew r := .refl r s.permission
  heights _ _ h := by simp [h]
  subset _ h := h
  covers _ h := .inl h

theorem State.Collected.trans {s s₁ s' : State} (h : s.Collected s₁) (h' : s₁.Collected s') :
    s.Collected s' where
  deleted := h'.deleted.trans h.deleted
  noNew r := (h.noNew r).trans (h'.noNew r)
  heights height info hfind := by
    obtain ⟨info₁, hfind₁⟩ := Option.ne_none_iff_exists'.1 (h'.heights height info hfind)
    exact h.heights height info₁ hfind₁
  subset r hr := h.subset r (h'.subset r hr)
  covers r hr := by
    rcases h.covers r hr with hr | hzero
    · exact h'.covers r hr
    · have hle := (h'.noNew r).entriesOf
      rw [hzero] at hle
      exact .inr (Nat.eq_zero_of_le_zero hle)

variable {s : State} {height : ℕ}

/-- A note is written back with what is left of it. -/
theorem State.Collected.insert {info' : DeleteInfo} {p' : Permission.State}
    (hfind : s.deleteInfos.find? height = some info) (hnew : ∀ r, NoNew r s.permission p')
    (hkept : Kept info info' p') :
    s.Collected { s with permission := p', deleteInfos := s.deleteInfos.insert height info' } where
  deleted := rfl
  noNew := hnew
  heights k i hk := by
    dsimp only at hk
    rw [find?_insert] at hk
    split_ifs at hk with hkh
    · simp [hkh, hfind]
    · simp [hk]
  subset := by
    rintro r ⟨k, i, hk, hr⟩
    dsimp only at hk
    rw [find?_insert] at hk
    split_ifs at hk with hkh
    · cases hk
      exact ⟨height, info, hfind, hkept.subset r hr⟩
    · exact ⟨k, i, hk, hr⟩
  covers := by
    rintro r ⟨k, i, hk, hr⟩
    by_cases hkh : k = height
    · subst hkh
      obtain rfl := Option.some.inj (hfind.symm.trans hk)
      rcases hkept.covers r hr with hr | hzero
      · exact .inl ⟨k, info', find?_insert_self _ _ _, hr⟩
      · exact .inr hzero
    · exact .inl ⟨k, i, (find?_insert_of_ne _ _ hkh).trans hk, hr⟩

/-- A note is purged once its resources have no entries. -/
theorem State.Collected.erase {p' : Permission.State}
    (hfind : s.deleteInfos.find? height = some info) (hnew : ∀ r, NoNew r s.permission p')
    (hzero : ∀ r, info.Notes r → p'.entriesOf r = 0) :
    s.Collected { s with permission := p', deleteInfos := s.deleteInfos.erase height } where
  deleted := rfl
  noNew := hnew
  heights k i hk := by simp [find?_of_erase hk]
  subset := by
    rintro r ⟨k, i, hk, hr⟩
    exact ⟨k, i, find?_of_erase hk, hr⟩
  covers := by
    rintro r ⟨k, i, hk, hr⟩
    by_cases hkh : k = height
    · subst hkh
      obtain rfl := Option.some.inj (hfind.symm.trans hk)
      exact .inr (hzero r hr)
    · exact .inl ⟨k, i, (find?_erase_of_ne _ hkh).trans hk, hr⟩

/-- **The collector over some of the notes**: it takes all entries of their resources, or as many
as its limit allows. -/
theorem State.collect_spec (maxCleanup : ℕ) {l : List (ℕ × DeleteInfo)}
    (hD : ∀ r, s.Persisted r → r ∈ D) (hdistinct : l.Pairwise fun e e' => e.1 ≠ e'.1)
    (hl : ∀ e ∈ l, s.deleteInfos.find? e.1 = some e.2) :
    s.Collected (State.collect maxCleanup l s n) ∧
      ((∀ e ∈ l, ∀ r, e.2.Notes r → (State.collect maxCleanup l s n).permission.entriesOf r = 0) ∨
        total D (State.collect maxCleanup l s n).permission + maxCleanup ≤
          total D s.permission + n) := by
  induction l generalizing s n with
  | nil => exact ⟨.refl s, .inl (by simp)⟩
  | cons e l ih =>
    obtain ⟨height, info⟩ := e
    obtain ⟨hne, hrest⟩ := List.pairwise_cons.1 hdistinct
    have hfind : s.deleteInfos.find? height = some info := hl (height, info) List.mem_cons_self
    have hleft : ∀ r, info.Notes r → r ∈ D ∧ r.resourceType ∈ collectedTypes := by
      rintro ⟨t, id⟩ hr
      refine ⟨hD _ ⟨height, info, hfind, hr⟩, ?_⟩
      rcases t with _ | _ | _ | _
      · cases hr
      all_goals simp [collectedTypes]
    unfold State.collect
    rcases hc : collectTypes maxCleanup collectedTypes info s.permission n with ⟨p', n', o⟩
    obtain ⟨hpaid, hnone, hsome⟩ :=
      collectTypes_spec maxCleanup (by decide) hleft hc
    rcases o with _ | info'
    · -- the note is purged, and the others are still there
      have hstep := State.Collected.erase hfind hpaid.noNew (hnone rfl)
      obtain ⟨hcollected, htotal⟩ := ih (n := n')
        (s := { s with permission := p', deleteInfos := s.deleteInfos.erase height })
        (fun r hr => hD r (hstep.subset r hr)) hrest (fun e he =>
          (find?_erase_of_ne _ (hne e he).symm).trans (hl e (List.mem_cons_of_mem _ he)))
      refine ⟨hstep.trans hcollected, ?_⟩
      rcases htotal with hzero | htotal
      · refine .inl fun e he r hr => ?_
        rcases List.mem_cons.1 he with rfl | he
        · have hle := (hcollected.noNew r).entriesOf
          rw [hnone rfl r hr] at hle
          exact Nat.eq_zero_of_le_zero hle
        · exact hzero e he r hr
      · exact .inr (htotal.trans hpaid.paid)
    · obtain ⟨hmax, hkept⟩ := hsome info' rfl
      refine ⟨State.Collected.insert hfind hpaid.noNew hkept, .inr ?_⟩
      have := hpaid.paid
      dsimp only
      omega

/-- **`GarbageCollectResourcesStalePolicy`.** -/
theorem State.garbageCollect_spec (maxCleanup : ℕ) (hD : ∀ r, s.Persisted r → r ∈ D) :
    s.Collected (s.garbageCollectResourcesStalePolicy maxCleanup) ∧
      ((∀ r, s.Persisted r →
          (s.garbageCollectResourcesStalePolicy maxCleanup).permission.entriesOf r = 0) ∨
        total D (s.garbageCollectResourcesStalePolicy maxCleanup).permission + maxCleanup ≤
          total D s.permission) := by
  obtain ⟨hcollected, htotal⟩ := State.collect_spec maxCleanup (n := 0) hD
    (s.deleteInfos.sorted.imp fun hlt => hlt.ne)
    (fun e he => find?_eq_some_iff.2 he)
  refine ⟨hcollected, ?_⟩
  rcases htotal with hzero | htotal
  · refine .inl ?_
    rintro r ⟨height, info, hfind, hr⟩
    exact hzero (height, info) (find?_eq_some_iff.1 hfind) r hr
  · exact .inr htotal

end Moca.Garbage
