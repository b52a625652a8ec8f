/-
# The entries of a resource in the permission store

The account policies, the items of the policy group and the group members that are kept for one
resource, as a number.  An operation of the keeper adds entries only to the resource it is
about, and a forced deletion takes from the entries of its resource as many as it counts.

Ids are given out from one on: the prefix of the id zero is the prefix of every key.
-/

import Moca.Permission.Within

namespace Moca.Permission

open SortedMap State

/-- A bucket, an object or a group. -/
structure Resource where
  resourceType : ResourceType
  id : Uint
  deriving DecidableEq

/-- The keys an iterator over the account policies of a resource visits. -/
def Resource.ownsAccountKey (r : Resource) (key : Bytes) : Bool :=
  match policyForAccountPrefix r.id r.resourceType with
  | none => false
  | some k => k.isPrefixOf key

/-- The key of the policy group of a resource. -/
def Resource.ownsGroupKey (r : Resource) (key : Bytes) : Bool :=
  decide (getPolicyForGroupKey r.id r.resourceType = some key)

/-- The keys an iterator over the members of a group visits. -/
def Resource.ownsMemberKey (r : Resource) (key : Bytes) : Bool :=
  decide (r.resourceType = .group) && (groupMembersPrefix r.id).isPrefixOf key

/-- One for a key that is counted. -/
def mark (b : Bool) (n : ℕ) : ℕ := if b then n else 0

/-- The number of account policies of a resource. -/
def State.accountEntries (s : State) (r : Resource) : ℕ :=
  s.accountPolicies.sum fun k _ => mark (r.ownsAccountKey k) 1

/-- The number of group policies of a resource. -/
def State.groupEntries (s : State) (r : Resource) : ℕ :=
  s.policyGroups.sum fun k items => mark (r.ownsGroupKey k) items.length

/-- The number of members of a group. -/
def State.memberEntries (s : State) (r : Resource) : ℕ :=
  s.groupMembers.sum fun k _ => mark (r.ownsMemberKey k) 1

/-- The number of entries of a resource. -/
def State.entriesOf (s : State) (r : Resource) : ℕ :=
  s.accountEntries r + s.groupEntries r + s.memberEntries r

/-! ### Keys of different resources -/

theorem Uint.bytes_ne_nil {u : Uint} (h : u ≠ .zero) : u.bytes ≠ [] := fun hb =>
  h (Uint.toNat_injective (Bytes.bigEndian_eq_nil hb))

theorem Uint.length_bytes_lt (u : Uint) : u.bytes.length < 256 := by
  have h : u.bytes.length ≤ 32 := Bytes.length_bigEndian_le (by
    have := u.lt_two_pow
    rw [show (256 : ℕ) ^ 32 = 2 ^ 256 by norm_num]
    exact this)
  omega

variable {i id : Uint} {t : ResourceType} {key : Bytes} {policy : Policy}

theorem lengthPrefix_prefix {j : Uint} {c : Bytes} (hi : i ≠ .zero) (hj : j ≠ .zero)
    (h : lengthPrefix i <+: lengthPrefix j ++ c) : i = j :=
  Uint.bytes_injective (Bytes.eq_of_lengthPrefixed_prefix (Uint.bytes_ne_nil hi)
    (Uint.bytes_ne_nil hj) i.length_bytes_lt j.length_bytes_lt h)

/-- **The account policies of a resource are found by its prefix alone.** -/
theorem Resource.eq_of_ownsAccountKey {r : Resource} {addr : AccAddress} (hr : r.id ≠ .zero)
    (hi : i ≠ .zero) (hkey : getPolicyForAccountKey i t addr = some key)
    (h : r.ownsAccountKey key = true) : r = ⟨t, i⟩ := by
  simp only [getPolicyForAccountKey, policyForAccountPrefix, Option.map_map, Option.map_eq_some_iff,
    Function.comp_apply, List.cons_append] at hkey
  obtain ⟨b, hb, rfl⟩ := hkey
  unfold Resource.ownsAccountKey policyForAccountPrefix at h
  rcases hb' : accountPolicyPrefix r.resourceType with _ | b'
  · simp [hb'] at h
  · rw [hb', Option.map_some] at h
    obtain ⟨rfl, hprefix⟩ := List.cons_prefix_cons.1 (List.isPrefixOf_iff_prefix.1 h)
    obtain ⟨rt, ri⟩ := r
    obtain rfl := lengthPrefix_prefix hr hi hprefix
    obtain rfl := accountPolicyPrefix_inj hb' hb
    rfl

theorem Resource.eq_of_ownsMemberKey {r : Resource} {g : Uint} {member : AccAddress}
    (hr : r.id ≠ .zero) (hg : g ≠ .zero)
    (h : r.ownsMemberKey (getGroupMemberKey g member) = true) : r = ⟨.group, g⟩ := by
  obtain ⟨ht, hprefix⟩ := Bool.and_eq_true_iff.1 h
  obtain ⟨rt, ri⟩ := r
  obtain rfl : rt = .group := of_decide_eq_true ht
  obtain rfl := lengthPrefix_prefix hr hg (List.isPrefixOf_iff_prefix.1 hprefix)
  rfl

theorem Resource.eq_of_ownsGroupKey {r : Resource} (hkey : getPolicyForGroupKey i t = some key)
    (h : r.ownsGroupKey key = true) : r = ⟨t, i⟩ := by
  obtain ⟨rt, ri⟩ := r
  obtain ⟨rfl, rfl⟩ := getPolicyForGroupKey_inj (of_decide_eq_true h) hkey
  rfl

/-! ### No new entries -/

/-- No entry of a resource is added. -/
structure State.NoNew (r : Resource) (s s' : State) : Prop where
  account : s'.accountEntries r ≤ s.accountEntries r
  group : s'.groupEntries r ≤ s.groupEntries r
  member : s'.memberEntries r ≤ s.memberEntries r

variable {r : Resource} {s s₁ s' : State}

theorem State.NoNew.refl (r : Resource) (s : State) : NoNew r s s := ⟨le_rfl, le_rfl, le_rfl⟩

theorem State.NoNew.trans (h : NoNew r s s₁) (h' : NoNew r s₁ s') :
    NoNew r s s' :=
  ⟨h'.account.trans h.account, h'.group.trans h.group, h'.member.trans h.member⟩

theorem State.NoNew.entriesOf (h : NoNew r s s') : s'.entriesOf r ≤ s.entriesOf r :=
  Nat.add_le_add (Nat.add_le_add h.account h.group) h.member

theorem State.SameEntries.noNew (h : s.SameEntries s') (r : Resource) : NoNew r s s' := by
  refine ⟨?_, ?_, ?_⟩
  · rw [accountEntries, accountEntries, h.accountPolicies]
  · rw [groupEntries, groupEntries, h.policyGroups]
  · rw [memberEntries, memberEntries, h.groupMembers]

theorem sum_mark_le {m m' : SortedMap Bytes Uint} (q : Bytes → Bool)
    (h : ∀ k, m'.find? k = none ∨ m'.find? k = m.find? k) :
    (m'.sum fun k _ => mark (q k) 1) ≤ m.sum fun k _ => mark (q k) 1 := by
  refine sum_le_of_summands fun k => ?_
  rcases h k with hk | hk <;> simp [hk]

/-- **What was there before is not new.** -/
theorem State.Within.noNew (h : s.Within s') (r : Resource) : NoNew r s s' where
  account := sum_mark_le _ h.accounts
  group := by
    have hsummand : ∀ (s : State) k, (s.policyGroups.find? k).elim 0
        (fun items => mark (r.ownsGroupKey k) items.length) =
        mark (r.ownsGroupKey k) (s.items k).length := by
      intro s k
      rcases hk : s.policyGroups.find? k with _ | items <;> simp [State.items, hk, mark]
    refine sum_le_of_summands fun k => ?_
    rw [hsummand, hsummand]
    unfold mark
    split_ifs
    · exact (h.items k).length_le
    · exact le_rfl
  member := sum_mark_le _ h.members

/-! ### Operations -/

/-- **A policy adds an entry to its own resource only.** -/
theorem State.putPolicy_noNew (hr : r.id ≠ .zero) (hid : policy.resourceId ≠ .zero)
    (hne : r ≠ ⟨policy.resourceType, policy.resourceId⟩) (h : s.putPolicy policy = .ok (s', id)) :
    NoNew r s s' := by
  cases put_of_putPolicy h with
  | @account _ _ old _ _ _ => exact (s.updatePolicy_sameEntries old policy).noNew r
  | @newAccount key i s₁ hplace _ hnew =>
    obtain ⟨addr, -, hkey⟩ := Policy.place_eq_account.1 hplace
    have howns : r.ownsAccountKey key = false := Bool.eq_false_iff.2 fun howns =>
      hne (Resource.eq_of_ownsAccountKey hr hid hkey howns)
    refine ((storeNew_sameEntries hnew).noNew r).trans ⟨?_, le_rfl, le_rfl⟩
    exact sum_insert_le (by simp [mark, howns])
  | items _ hloop =>
    refine overridePolicy_invariant (NoNew r s) (fun s₁ _ _ old hs₁ _ => ?_)
      (.refl r s) hloop
    exact hs₁.trans ((s₁.updatePolicy_sameEntries old policy).noNew r)
  | @newItem key g i s₁ hplace _ hnew =>
    have howns : r.ownsGroupKey key = false := Bool.eq_false_iff.2 fun howns =>
      hne (Resource.eq_of_ownsGroupKey (Policy.place_eq_group.1 hplace).2 howns)
    refine ((storeNew_sameEntries hnew).noNew r).trans ⟨le_rfl, ?_, le_rfl⟩
    exact sum_insert_le (by simp [mark, howns])

/-! ### Forced deletions -/

theorem sum_mark {ν : Type} (m : SortedMap Bytes ν) (q : Bytes → Bool) :
    (m.sum fun k _ => mark (q k) 1) = (m.entries.filter fun e => q e.1).length := by
  unfold SortedMap.sum
  induction m.entries with
  | nil => rfl
  | cons e l ih =>
    rw [List.map_cons, List.sum_cons, ih, List.filter_cons]
    dsimp only [mark]
    split_ifs
    · rw [List.length_cons]
      omega
    · omega

/-- The outcome of a forced deletion, which deletes entries one by one: as many as it counts, all
of them if it is done, and up to the limit if it is not. -/
structure Deletes (maxDelete before deleted after deleted' : ℕ) (done : Bool) : Prop where
  counted : after + deleted' = before + deleted
  all : done = true → after = 0
  limit : done = false → maxDelete ≤ deleted'

section Paid

variable {maxDelete n n' : ℕ} {done : Bool}

theorem State.NoNew.account_paid (h : NoNew r s s')
    (hdel : Deletes maxDelete (s.accountEntries r) n (s'.accountEntries r) n' done) :
    s'.entriesOf r + n' ≤ s.entriesOf r + n := by
  obtain ⟨-, hgroup, hmember⟩ := h
  have := hdel.counted
  unfold State.entriesOf
  omega

theorem State.NoNew.group_paid (h : NoNew r s s')
    (hdel : Deletes maxDelete (s.groupEntries r) n (s'.groupEntries r) n' done) :
    s'.entriesOf r + n' ≤ s.entriesOf r + n := by
  obtain ⟨haccount, -, hmember⟩ := h
  have := hdel.counted
  unfold State.entriesOf
  omega

theorem State.NoNew.member_paid (h : NoNew r s s')
    (hdel : Deletes maxDelete (s.memberEntries r) n (s'.memberEntries r) n' done) :
    s'.entriesOf r + n' ≤ s.entriesOf r + n := by
  obtain ⟨haccount, hgroup, -⟩ := h
  have := hdel.counted
  unfold State.entriesOf
  omega

end Paid

/-- **A loop that deletes one entry in each round**, over a list of all there are. -/
theorem deleteUpTo_deletes {α : Type} {maxDelete : ℕ} {delete : State → α → State}
    (entries : State → ℕ) (I : List α → State → Prop) (hnil : ∀ s, I [] s → entries s = 0)
    (hcons : ∀ e l s, I (e :: l) s → I l (delete s e) ∧ entries (delete s e) + 1 = entries s)
    {l : List α} {deletedTotal : ℕ} (hs : I l s) :
    let o := deleteUpTo maxDelete delete l s deletedTotal
    Deletes maxDelete (entries s) deletedTotal (entries o.1) o.2.1 o.2.2 := by
  induction l generalizing s deletedTotal with
  | nil => exact ⟨rfl, fun _ => hnil s hs, by rintro ⟨⟩⟩
  | cons e l ih =>
    unfold deleteUpTo
    split_ifs with hmax
    · exact ⟨rfl, by rintro ⟨⟩, fun _ => hmax⟩
    · obtain ⟨hl, hone⟩ := hcons e l s hs
      obtain ⟨hcounted, hall, hlimit⟩ := @ih (delete s e) (deletedTotal + 1) hl
      refine ⟨?_, hall, hlimit⟩
      omega

/-- The entries a loop still has to delete: all of the resource that are left in a map. -/
structure Remaining (q : Bytes → Bool) (l : List (Bytes × Uint)) (m : SortedMap Bytes Uint) :
    Prop where
  distinct : l.Pairwise fun e e' => e.1 ≠ e'.1
  counted : ∀ e ∈ l, q e.1 = true
  stored : ∀ e ∈ l, m.find? e.1 = some e.2
  all : (m.sum fun k _ => mark (q k) 1) = l.length

theorem Remaining.start (q : Bytes → Bool) (m : SortedMap Bytes Uint) :
    Remaining q (m.entries.filter fun e => q e.1) m where
  distinct := (m.sorted.filter _).imp fun hlt => hlt.ne
  counted _ he := (List.mem_filter.1 he).2
  stored _ he := find?_eq_some_iff.2 (List.mem_of_mem_filter he)
  all := sum_mark m q

theorem Remaining.erase {q : Bytes → Bool} {e : Bytes × Uint} {l : List (Bytes × Uint)}
    {m : SortedMap Bytes Uint} (h : Remaining q (e :: l) m) : Remaining q l (m.erase e.1) ∧
      ((m.erase e.1).sum fun k _ => mark (q k) 1) + 1 = m.sum fun k _ => mark (q k) 1 := by
  obtain ⟨hne, hrest⟩ := List.pairwise_cons.1 h.distinct
  have hsum := sum_erase_of_some (h.stored e List.mem_cons_self)
    fun k _ => mark (q k) 1
  have hmark : mark (q e.1) 1 = 1 := by
    rw [h.counted e List.mem_cons_self]
    rfl
  rw [hmark] at hsum
  refine ⟨⟨hrest, fun e' he' => h.counted e' (List.mem_cons_of_mem _ he'), fun e' he' => ?_, ?_⟩,
    hsum⟩
  · rw [find?_erase_of_ne _ (hne e' he').symm]
    exact h.stored e' (List.mem_cons_of_mem _ he')
  · have hall := h.all
    rw [List.length_cons] at hall
    omega

theorem State.deleteAccountPolicy_accountPolicies (s : State) (e : Bytes × Uint) :
    (s.deleteAccountPolicy e).accountPolicies = s.accountPolicies.erase e.1 :=
  congrArg (fun m => SortedMap.erase m e.1) (s.deletePolicyByID_sameEntries e.2).accountPolicies

/-- **`ForceDeleteAccountPolicyForResource` deletes from the account policies of its resource.** -/
theorem State.forceDeleteAccountPolicyForResource_deletes (s : State)
    (maxDelete deletedTotal : ℕ) (r : Resource) :
    let o := s.forceDeleteAccountPolicyForResource maxDelete deletedTotal r.resourceType r.id
    Deletes maxDelete (s.accountEntries r) deletedTotal (o.1.accountEntries r) o.2.1 o.2.2 := by
  unfold State.forceDeleteAccountPolicyForResource
  split
  · next hnone =>
    have hzero : s.accountEntries r = 0 :=
      sum_eq_zero fun k v _ => by simp [mark, Resource.ownsAccountKey, hnone]
    exact ⟨rfl, fun _ => hzero, by rintro ⟨⟩⟩
  · next key hkey =>
    have howns : r.ownsAccountKey = fun k => key.isPrefixOf k := by
      funext k
      rw [Resource.ownsAccountKey, hkey]
    refine deleteUpTo_deletes (fun s => s.accountEntries r)
      (fun l s => Remaining r.ownsAccountKey l s.accountPolicies) (fun s hs => hs.all)
      (fun e l s hs => ?_) ?_
    · obtain ⟨hl, hone⟩ := hs.erase
      unfold accountEntries
      rw [s.deleteAccountPolicy_accountPolicies e]
      exact ⟨hl, hone⟩
    · rw [howns]
      exact .start _ s.accountPolicies

/-- **`ForceDeleteGroupMembers` deletes from the members of its group.** -/
theorem State.forceDeleteGroupMembers_deletes (s : State) (maxDelete deletedTotal : ℕ)
    (g : Uint) :
    let o := s.forceDeleteGroupMembers maxDelete deletedTotal g
    Deletes maxDelete (s.memberEntries ⟨.group, g⟩) deletedTotal (o.1.memberEntries ⟨.group, g⟩)
      o.2.1 o.2.2 := by
  refine deleteUpTo_deletes (fun s => s.memberEntries ⟨.group, g⟩)
    (fun l s => Remaining (Resource.ownsMemberKey ⟨.group, g⟩) l s.groupMembers)
    (fun s hs => hs.all) (fun e l s hs => hs.erase) ?_
  exact .start _ s.groupMembers

/-- The loop over the items of a policy group, which is written back at its end. -/
theorem State.deleteGroupPolicies_deletes (maxDelete : ℕ) (key : Bytes) (l : List PolicyGroupItem)
    (s : State) (deletedTotal : ℕ) :
    let o := State.deleteGroupPolicies maxDelete key l s deletedTotal
    Deletes maxDelete l.length deletedTotal (o.1.items key).length o.2.1 o.2.2 := by
  induction l generalizing s deletedTotal with
  | nil =>
    have hnil : (State.deleteGroupPolicies maxDelete key [] s deletedTotal).1.items key = [] := by
      simp [State.deleteGroupPolicies, State.items]
    dsimp only
    rw [hnil]
    exact ⟨rfl, fun _ => rfl, by rintro ⟨⟩⟩
  | cons item l ih =>
    unfold State.deleteGroupPolicies
    split_ifs with hmax
    · exact ⟨by simp [State.items], by rintro ⟨⟩, fun _ => hmax⟩
    · obtain ⟨hcounted, hall, hlimit⟩ := ih (s.deletePolicyByID item.policyId) (deletedTotal + 1)
      refine ⟨?_, hall, hlimit⟩
      rw [hcounted, List.length_cons]
      omega

/-- The group policies of a resource are the items of its policy group. -/
theorem State.groupEntries_eq (hkey : getPolicyForGroupKey r.id r.resourceType = some key)
    (s : State) : s.groupEntries r = (s.items key).length := by
  have hother : ∀ k v, (s.policyGroups.erase key).find? k = some v →
      mark (r.ownsGroupKey k) v.length = 0 := by
    intro k v hk
    have hne : r.ownsGroupKey k = false := by
      refine Bool.eq_false_iff.2 fun howns => ?_
      obtain rfl := Option.some.inj (hkey.symm.trans (of_decide_eq_true howns))
      simp at hk
    rw [hne]
    rfl
  have hsum := s.policyGroups.sum_erase (fun k items => mark (r.ownsGroupKey k) items.length) key
  rw [sum_eq_zero hother, zero_add] at hsum
  rw [groupEntries, ← hsum, State.items]
  rcases s.policyGroups.find? key with _ | items
  · rfl
  · simp [mark, Resource.ownsGroupKey, hkey]

theorem State.groupEntries_eq_zero (hkey : getPolicyForGroupKey r.id r.resourceType = none)
    (s : State) : s.groupEntries r = 0 :=
  sum_eq_zero fun k v _ => by simp [mark, Resource.ownsGroupKey, hkey]

/-- **`ForceDeleteGroupPolicyForResource` deletes from the group policies of its resource.** -/
theorem State.forceDeleteGroupPolicyForResource_deletes (s : State)
    (maxDelete deletedTotal : ℕ) (r : Resource) :
    let o := s.forceDeleteGroupPolicyForResource maxDelete deletedTotal r.resourceType r.id
    Deletes maxDelete (s.groupEntries r) deletedTotal (o.1.groupEntries r) o.2.1 o.2.2 := by
  unfold State.forceDeleteGroupPolicyForResource
  split
  · next hnone => exact ⟨rfl, fun _ => s.groupEntries_eq_zero hnone, by rintro ⟨⟩⟩
  · next key hkey =>
    dsimp only
    rw [groupEntries_eq hkey, groupEntries_eq hkey]
    split
    · next hitems => exact ⟨rfl, fun _ => by simp [State.items, hitems], by rintro ⟨⟩⟩
    · next items hitems =>
      have hl : s.items key = items := by simp [State.items, hitems]
      rw [hl]
      exact s.deleteGroupPolicies_deletes maxDelete key items deletedTotal

/-! ### Whether there are entries -/

theorem State.existAccountPolicyForResource_of_pos (h : 0 < s.accountEntries r) :
    s.existAccountPolicyForResource r.resourceType r.id = true := by
  by_contra hn
  refine h.ne' (sum_eq_zero fun k v hk => ?_)
  have hmem := find?_eq_some_iff.1 hk
  unfold existAccountPolicyForResource at hn
  unfold mark Resource.ownsAccountKey
  split at hn
  · simp [*]
  · simp only [List.any_eq_true, not_exists, not_and] at hn
    simp [*, hn (k, v) hmem]

theorem State.existGroupPolicyForResource_of_pos (h : 0 < s.groupEntries r) :
    s.existGroupPolicyForResource r.resourceType r.id = true := by
  unfold existGroupPolicyForResource
  rcases hkey : getPolicyForGroupKey r.id r.resourceType with _ | key
  · rw [s.groupEntries_eq_zero hkey] at h
    omega
  · rw [groupEntries_eq hkey, State.items] at h
    rcases hitems : s.policyGroups.find? key with _ | items
    · simp [hitems] at h
    · simp [SortedMap.contains, hitems]

theorem State.existGroupMemberForGroup_of_pos (h : 0 < s.memberEntries r) :
    r.resourceType = .group ∧ s.existGroupMemberForGroup r.id = true := by
  by_contra hn
  refine h.ne' (sum_eq_zero fun k v hk => ?_)
  have hmem := find?_eq_some_iff.1 hk
  unfold existGroupMemberForGroup at hn
  unfold mark Resource.ownsMemberKey
  split_ifs with howns
  · obtain ⟨ht, hprefix⟩ := Bool.and_eq_true_iff.1 howns
    exact absurd ⟨of_decide_eq_true ht, List.any_eq_true.2 ⟨(k, v), hmem, hprefix⟩⟩ hn
  · rfl

/-! ### Every operation -/

/-- The resource an operation may add an entry to. -/
def Op.target : Op → Option Resource
  | .putPolicy policy => some ⟨policy.resourceType, policy.resourceId⟩
  | .addGroupMember groupId _ _ => some ⟨.group, groupId⟩
  | _ => none

/-- **An operation adds entries to its target only.** -/
theorem State.exec_noNew {op : Op} (hr : r.id ≠ .zero)
    (htarget : ∀ r', op.target = some r' → r'.id ≠ .zero ∧ r ≠ r') (h : s.exec op = .ok s') :
    NoNew r s s' := by
  rcases exec_cases h with ⟨policy, id, rfl, hput⟩ | ⟨g, member, expiration, rfl, hadd⟩ | hw
  · obtain ⟨hid, hne⟩ := htarget _ rfl
    exact putPolicy_noNew hr hid hne hput
  · obtain ⟨hg, hne⟩ := htarget _ rfl
    obtain ⟨id, -, rfl⟩ := addGroupMember_eq_ok hadd
    have howns : r.ownsMemberKey (getGroupMemberKey g member) = false :=
      Bool.eq_false_iff.2 fun howns => hne (Resource.eq_of_ownsMemberKey hr hg howns)
    exact ⟨le_rfl, le_rfl, sum_insert_le (by simp [mark, howns])⟩
  · exact hw.noNew r

end Moca.Permission
