/-
# Overriding a policy

`PutPolicy` finds the policy that it overrides in the account index or among the items of a policy
group.  A group has at most one item there in every run (`State.Reached.groupsOnce`), since an item
is only added when there is none for its group.  So `PutPolicy` for a resource and a principal that
have a policy comes down to one `updatePolicy` (`State.putPolicy_of_policyFor`); for a group that
is so only while the policy group is not full, which is checked before the item is looked for.
-/

import Moca.Permission.Within

namespace Moca.Permission

open State

variable {s s' : State}

/-! ### One item for each group -/

/-- No group has two items in a policy group. -/
def State.GroupsOnce (s : State) : Prop :=
  ∀ k, ((s.items k).map PolicyGroupItem.groupId).Nodup

theorem State.GroupsOnce.within (h : s.GroupsOnce) (hw : s.Within s') : s'.GroupsOnce :=
  fun k => (h k).sublist ((hw.items k).map _)

theorem State.GroupsOnce.of_policyGroups_eq (h : s.GroupsOnce)
    (hgroups : s'.policyGroups = s.policyGroups) : s'.GroupsOnce := by
  intro k
  rw [items_congr hgroups]
  exact h k

variable {key : Bytes} {g i id : Uint} {p policy : Policy} {item : PolicyGroupItem}
  {t : ResourceType} {addr : AccAddress} {s₁ : State} {old : Policy}

theorem State.GroupsOnce.insert (h : s.GroupsOnce) (hgroups : s₁.policyGroups = s.policyGroups)
    (hnew : ∀ item ∈ s.items key, item.groupId ≠ g) : GroupsOnce
      { s₁ with policyGroups := s₁.policyGroups.insert key (s.items key ++ [⟨i, g⟩]) } := by
  intro k
  rw [items_insert, Function.update_apply]
  split_ifs with hk
  · subst hk
    rw [List.map_append, List.nodup_append']
    refine ⟨h k, List.nodup_singleton _, ?_⟩
    intro x hx hx'
    obtain ⟨item, hitem, rfl⟩ := List.mem_map.1 hx
    exact hnew item hitem (List.mem_singleton.1 hx')
  · rw [items_congr hgroups]
    exact h k

theorem State.GroupsOnce.putPolicy (h : s.GroupsOnce) (hs : s.putPolicy policy = .ok (s', id)) :
    s'.GroupsOnce := by
  have hupdate : ∀ (s₁ : State) old, s₁.GroupsOnce → (s₁.updatePolicy old policy).GroupsOnce :=
    fun s₁ old hs₁ => hs₁.of_policyGroups_eq (s₁.updatePolicy_sameEntries old policy).policyGroups
  cases put_of_putPolicy hs with
  | @account _ _ old _ _ _ => exact hupdate s old h
  | newAccount _ _ hnew => exact h.of_policyGroups_eq (storeNew_sameEntries hnew).policyGroups
  | items _ hloop =>
    exact overridePolicy_invariant GroupsOnce (fun s₁ _ _ old hs₁ _ => hupdate s₁ old hs₁)
      h hloop
  | newItem _ hfree hnew => exact h.insert (storeNew_sameEntries hnew).policyGroups hfree

theorem State.GroupsOnce.step (h : s.GroupsOnce) {op : Op} (hs : s.step op = some s') :
    s'.GroupsOnce := by
  rcases exec_cases (Except.toOption_eq_some hs) with ⟨policy, id, -, hput⟩ |
    ⟨g, member, expiration, -, hadd⟩ | hw
  · exact h.putPolicy hput
  · obtain ⟨id, -, rfl⟩ := addGroupMember_eq_ok hadd
    exact h.of_policyGroups_eq rfl
  · exact h.within hw

/-- **A group has at most one item in a policy group**, in every run. -/
theorem State.Reached.groupsOnce {params : Params} (h : s.Reached params) : s.GroupsOnce :=
  Reachable.invariant GroupsOnce (fun k => by simp [State.empty, State.items])
    (fun _ _ _ hs _ hstep => hs.step hstep) h

/-! ### The policy for a resource and a principal -/

/-- The policy that is stored for a resource and a principal. -/
def State.policyFor (s : State) (resourceType : ResourceType) (resourceId : Uint) :
    Principal → Option Policy
  | .account addr => s.getPolicyForAccount resourceId resourceType addr
  | .group groupId => s.getPolicyForGroup resourceId resourceType groupId
  | .unspecified => none

/-- The policy group of a resource is full: `PutPolicy` refuses every policy for a group. -/
def State.isFull (s : State) (resourceType : ResourceType) (resourceId : Uint) : Principal → Bool
  | .group _ => (s.getPolicyGroupForResource resourceId resourceType).any fun items =>
    decide (s.params.maximumGroupNum ≤ items.length)
  | _ => false

/-- A policy with the statements and the expiration time of another one. -/
def Policy.overriddenBy (old new : Policy) : Policy :=
  { old with statements := new.statements, expirationTime := new.expirationTime }

theorem State.getPolicyForAccount_eq_some : s.getPolicyForAccount i t addr = some p ↔
      ∃ key id, getPolicyForAccountKey i t addr = some key ∧
        s.accountPolicies.find? key = some id ∧ s.getPolicyByID id = some p := by
  simp only [getPolicyForAccount, Option.bind_eq_some_iff]
  constructor
  · rintro ⟨id, ⟨key, hkey, hid⟩, hp⟩
    exact ⟨key, id, hkey, hid, hp⟩
  · rintro ⟨key, id, hkey, hid, hp⟩
    exact ⟨id, ⟨key, hkey, hid⟩, hp⟩

theorem State.getPolicyForGroup_eq_some :
    s.getPolicyForGroup i t g = some p ↔
      ∃ key items item, getPolicyForGroupKey i t = some key ∧
        s.policyGroups.find? key = some items ∧
        (items.find? fun item => decide (item.groupId = g)) = some item ∧
        s.getPolicyByID item.policyId = some p := by
  unfold getPolicyForGroup getPolicyGroupForResource
  rcases getPolicyForGroupKey i t with _ | key
  · simp
  rcases hitems : s.policyGroups.find? key with _ | items
  · simp [hitems]
  · simp only [Option.bind_some, hitems, Option.bind_eq_some_iff]
    constructor
    · rintro ⟨item, hitem, hp⟩
      exact ⟨key, items, item, rfl, hitems, hitem, hp⟩
    · rintro ⟨_, _, item, ⟨⟩, hitems', hitem, hp⟩
      obtain rfl := Option.some.inj (hitems.symm.trans hitems')
      exact ⟨item, hitem, hp⟩

/-- The items of a group are the first one that is found. -/
theorem filter_groupId_eq {items : List PolicyGroupItem}
    (hnodup : (items.map PolicyGroupItem.groupId).Nodup)
    (hitem : (items.find? fun item => decide (item.groupId = g)) = some item) :
    (items.filter fun item => decide (item.groupId = g)) = [item] := by
  induction items with
  | nil => cases hitem
  | cons x l ih =>
    obtain ⟨hx, hl⟩ := List.nodup_cons.1 hnodup
    rw [List.find?_cons] at hitem
    rw [List.filter_cons]
    split at hitem
    · next hg =>
      cases hitem
      rw [if_pos hg, List.filter_eq_nil_iff.2]
      intro y hy hyg
      exact hx (List.mem_map.2 ⟨y, hy, (of_decide_eq_true hyg).trans (of_decide_eq_true hg).symm⟩)
    · next hg =>
      rw [if_neg (by simp [hg])]
      exact ih hl hitem

/-- **`PutPolicy` over a policy that is there is one update**, unless the policy group is full. -/
theorem State.putPolicy_of_policyFor (honce : s.GroupsOnce)
    (h : s.policyFor policy.resourceType policy.resourceId policy.principal = some old)
    (hfull : s.isFull policy.resourceType policy.resourceId policy.principal = false) :
    s.putPolicy policy = .ok (s.updatePolicy old policy, policy.id) := by
  unfold State.putPolicy
  rcases hprincipal : policy.principal with _ | addr | g
  · rw [hprincipal] at h
    cases h
  · rw [hprincipal] at h
    obtain ⟨key, id, hkey, hid, hold⟩ := getPolicyForAccount_eq_some.1 h
    simp only [hkey]
    unfold putAccountPolicy
    rw [hid]
    dsimp only
    rw [mustGetPolicyByID_eq_ok.2 hold]
    rfl
  · rw [hprincipal] at h hfull
    obtain ⟨key, items, item, hkey, hitems, hitem, hold⟩ := getPolicyForGroup_eq_some.1 h
    simp only [isFull, getPolicyGroupForResource, hkey, Option.bind_some, hitems,
      Option.any_some, decide_eq_false_iff_not] at hfull
    have hnodup := honce key
    rw [State.items, hitems, Option.getD_some] at hnodup
    simp only [hkey, hitems]
    unfold putGroupPolicy
    dsimp only
    rw [if_neg hfull, filter_groupId_eq hnodup hitem]
    dsimp only
    rw [List.foldlM_cons, overridePolicy, mustGetPolicyByID_eq_ok.2 hold]
    rfl

theorem State.putPolicy_of_isFull
    (hfull : s.isFull policy.resourceType policy.resourceId policy.principal = true) :
    ∃ e, s.putPolicy policy = .error e := by
  unfold State.putPolicy
  rcases hprincipal : policy.principal with _ | addr | g
  · exact ⟨_, rfl⟩
  · rw [hprincipal] at hfull
    cases hfull
  · rw [hprincipal] at hfull
    obtain ⟨items, hitems, hle⟩ := (Option.any_eq_true _ _).1 hfull
    obtain ⟨key, hkey, hfind⟩ := Option.bind_eq_some_iff.1 hitems
    refine ⟨.limitExceeded s.params.maximumGroupNum items.length, ?_⟩
    simp only [hkey, hfind]
    unfold putGroupPolicy
    exact if_pos (of_decide_eq_true hle)

/-! ### The policies for other principals -/

/-- Every item of a policy group has its policy. -/
theorem State.Coherent.item_policy (hc : s.Coherent) (h : item ∈ s.items key) :
    ∃ p, s.getPolicyByID item.policyId = some p ∧ p.principal = .group item.groupId ∧
      getPolicyForGroupKey p.resourceId p.resourceType = some key := by
  obtain ⟨p, hp, hplace⟩ := Option.bind_eq_some_iff.1 ((hc.items.mem_iff key item).1 h)
  exact ⟨p, hp, Policy.place_eq_group.1 hplace⟩

/-- The policy of an account has its address. -/
theorem State.Coherent.principal_of_account (hc : s.Coherent)
    (h : s.policyFor t i (.account addr) = some p) :
    p.resourceType = t ∧ p.resourceId = i ∧ p.principal = .account addr := by
  obtain ⟨key, id, hkey, hid, hp⟩ := getPolicyForAccount_eq_some.1 h
  have hplace : p.place = some (.account key) :=
    (hc.placeOf_eq hp).1.symm.trans ((hc.accounts key id).1 hid)
  obtain ⟨addr', hprincipal, hkey'⟩ := Policy.place_eq_account.1 hplace
  obtain ⟨hi, ht, rfl⟩ := getPolicyForAccountKey_inj hkey' hkey
  exact ⟨ht, hi, hprincipal⟩

theorem State.Within.policyFor_account (h : s.Within s') (t : ResourceType) (i : Uint)
    (addr : AccAddress) : s'.policyFor t i (.account addr) = none ∨
      s'.policyFor t i (.account addr) = s.policyFor t i (.account addr) := by
  show s'.getPolicyForAccount i t addr = none ∨
    s'.getPolicyForAccount i t addr = s.getPolicyForAccount i t addr
  unfold getPolicyForAccount
  rcases getPolicyForAccountKey i t addr with _ | key
  · exact .inr rfl
  rw [Option.bind_some, Option.bind_some]
  rcases h.accounts key with hkey | hkey
  · exact .inl (by rw [hkey, Option.bind_none])
  rw [hkey]
  rcases s.accountPolicies.find? key with _ | id
  · exact .inr rfl
  · exact h.policies id

/-- The lookup for an account reads one entry of the index and one record. -/
theorem State.policyFor_account_congr
    (haccounts : ∀ key, getPolicyForAccountKey i t addr = some key →
      s'.accountPolicies.find? key = s.accountPolicies.find? key)
    (hrecords : ∀ key id, getPolicyForAccountKey i t addr = some key →
      s.accountPolicies.find? key = some id → s'.getPolicyByID id = s.getPolicyByID id) :
    s'.policyFor t i (.account addr) = s.policyFor t i (.account addr) := by
  show s'.getPolicyForAccount i t addr = s.getPolicyForAccount i t addr
  unfold getPolicyForAccount
  rcases hkey : getPolicyForAccountKey i t addr with _ | key
  · rfl
  rw [Option.bind_some, Option.bind_some, haccounts key hkey]
  rcases hid : s.accountPolicies.find? key with _ | id
  · rfl
  · exact hrecords key id hkey hid

theorem State.storeNew_getPolicyByID (hs : s.storeNew policy = .ok (s', id)) :
    s'.getPolicyByID = Function.update s.getPolicyByID id (some { policy with id }) := by
  obtain ⟨-, rfl⟩ := storeNew_eq_ok hs
  show (State.enqueue _ _ _).policies.find? = _
  rw [(enqueue_sameIndexes _ _ _).policies]
  exact SortedMap.find?_insert_eq_update s.policies _ _

/-- A new policy does not take the id of one with a place. -/
theorem State.Coherent.storeNew_other (hc : s.Coherent) {id' : Uint} {place : Place}
    (hs : s.storeNew policy = .ok (s', id)) (hplace : s.placeOf id' = some place) :
    s'.getPolicyByID id' = s.getPolicyByID id' := by
  rw [storeNew_getPolicyByID hs, Function.update_of_ne]
  rintro rfl
  rw [hc.placeOf_eq_none hs] at hplace
  cases hplace

/-- A new policy is stored, and its place is not the one of an account that is looked for. -/
theorem State.Coherent.storeNew_policyFor (hc : s.Coherent) {s₂ : State}
    (hnew : s.storeNew policy = .ok (s₁, id)) (hpolicies : s₂.policies = s₁.policies)
    (haccounts : ∀ key, getPolicyForAccountKey i t addr = some key →
      s₂.accountPolicies.find? key = s₁.accountPolicies.find? key) :
    s₂.policyFor t i (.account addr) = s.policyFor t i (.account addr) := by
  refine policyFor_account_congr (fun key hkey => ?_) fun key id hkey hid => ?_
  · rw [haccounts key hkey, (storeNew_sameEntries hnew).accountPolicies]
  · rw [← hc.storeNew_other hnew ((hc.accounts key id).1 hid), State.getPolicyByID, hpolicies]
    rfl

/-- The update of a policy with another place. -/
theorem State.Coherent.updatePolicy_policyFor (hc : s.Coherent)
    (hold : s.getPolicyByID id = some old)
    (hne : ∀ key, getPolicyForAccountKey i t addr = some key →
      s.accountPolicies.find? key ≠ some id) :
    (s.updatePolicy old policy).policyFor t i (.account addr) = s.policyFor t i (.account addr) := by
  obtain rfl := hc.recorded.id_key id old hold
  refine policyFor_account_congr (fun key _ => ?_) fun key id hkey hid => ?_
  · rw [(s.updatePolicy_sameEntries old policy).accountPolicies]
  · rw [s.updatePolicy_getPolicyByID, Function.update_of_ne]
    rintro rfl
    exact hne key hkey hid

/-- **A policy for another resource or principal leaves the policy of an account alone.** -/
theorem State.Coherent.putPolicy_policyFor (hc : s.Coherent)
    (hs : s.putPolicy policy = .ok (s', id))
    (hne : ¬(policy.resourceType = t ∧ policy.resourceId = i ∧
      policy.principal = .account addr)) :
    s'.policyFor t i (.account addr) = s.policyFor t i (.account addr) := by
  have hother : ∀ {key}, policy.place = some (.account key) →
      getPolicyForAccountKey i t addr ≠ some key := by
    intro key hplace hkey
    obtain ⟨addr', haddr', hkey'⟩ := Policy.place_eq_account.1 hplace
    obtain ⟨hi, ht, ha⟩ := getPolicyForAccountKey_inj hkey' hkey
    exact hne ⟨ht, hi, haddr'.trans (congrArg _ ha)⟩
  cases put_of_putPolicy hs with
  | @account key' id' old hplace hid' hold =>
    refine hc.updatePolicy_policyFor hold fun key hkey hid => ?_
    -- the two keys are the place of one policy
    have hplaces := ((hc.accounts key id').1 hid).symm.trans ((hc.accounts key' id').1 hid')
    obtain rfl := Place.account.inj (Option.some.inj hplaces)
    exact hother hplace hkey
  | newAccount hplace _ hnew =>
    refine hc.storeNew_policyFor hnew rfl fun key hkey => SortedMap.find?_insert_of_ne _ _ ?_
    rintro rfl
    exact hother hplace hkey
  | @items key' l _ hl hloop =>
    refine (overridePolicy_invariant (fun s₁ => s₁.Coherent ∧
      s₁.accountPolicies = s.accountPolicies ∧
      s₁.policyFor t i (.account addr) = s.policyFor t i (.account addr))
      (fun s₁ item hitem old hs₁ hold => ?_) ⟨hc, rfl, rfl⟩ hloop).2.2
    obtain ⟨hc₁, haccounts, hsame⟩ := hs₁
    refine ⟨hc₁.updatePolicy hold policy,
      (s₁.updatePolicy_sameEntries old policy).accountPolicies.trans haccounts, ?_⟩
    rw [hc₁.updatePolicy_policyFor hold fun key _ hid => ?_, hsame]
    -- the place of an item is not one of an account
    rw [haccounts] at hid
    cases ((hc.accounts key _).1 hid).symm.trans ((hc.items.mem_iff key' item).1 (hl item hitem))
  | newItem _ _ hnew => exact hc.storeNew_policyFor hnew rfl fun _ _ => rfl

end Moca.Permission
