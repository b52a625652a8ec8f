/-
# Each policy has one reference, and each reference a policy

What coherence of the permission store means for its readers: a key of the account index and an
item of a policy group refer to a policy of exactly that resource and principal, no policy has
two references, and none is left without one.
-/

import Moca.Permission.Steps

namespace Moca.Permission

open State Policy

/-- A key of the account index, or an item of a policy group by its position. -/
inductive Reference
  | account (resourceType : ResourceType) (resourceId : Uint) (addr : AccAddress)
  | item (resourceType : ResourceType) (resourceId : Uint) (position : ℕ)
  deriving DecidableEq

/-- The item at a position of the policy group of a resource. -/
def State.itemAt (s : State) (resourceType : ResourceType) (resourceId : Uint) (position : ℕ) :
    Option PolicyGroupItem :=
  (s.getPolicyGroupForResource resourceId resourceType).bind fun items => items[position]?

/-- The id a reference holds. -/
def State.refersTo (s : State) : Reference → Option Uint
  | .account resourceType resourceId addr =>
    (getPolicyForAccountKey resourceId resourceType addr).bind s.accountPolicies.find?
  | .item resourceType resourceId position =>
    (s.itemAt resourceType resourceId position).map PolicyGroupItem.policyId

/-- A policy is about the resource and the principal of a reference. -/
def State.Names (s : State) (p : Policy) : Reference → Prop
  | .account resourceType resourceId addr =>
    p.resourceType = resourceType ∧ p.resourceId = resourceId ∧ p.principal = .account addr
  | .item resourceType resourceId position =>
    p.resourceType = resourceType ∧ p.resourceId = resourceId ∧
      ∃ item, s.itemAt resourceType resourceId position = some item ∧
        p.principal = .group item.groupId

variable {s : State} {i id : Uint} {addr : AccAddress} {t : ResourceType} {p : Policy}

theorem State.refersTo_account : s.refersTo (.account t i addr) = some id ↔
      ∃ key, getPolicyForAccountKey i t addr = some key ∧
        s.accountPolicies.find? key = some id := Option.bind_eq_some_iff

theorem State.itemAt_eq_some {n : ℕ} {item : PolicyGroupItem} : s.itemAt t i n = some item ↔
      ∃ key, getPolicyForGroupKey i t = some key ∧ (s.items key)[n]? = some item := by
  simp only [itemAt, getPolicyGroupForResource, State.items, Option.bind_eq_some_iff]
  constructor
  · rintro ⟨items, ⟨key, hkey, hitems⟩, hitem⟩
    exact ⟨key, hkey, by simpa [hitems] using hitem⟩
  · rintro ⟨key, hkey, hitem⟩
    rcases hitems : s.policyGroups.find? key with _ | items
    · simp [hitems] at hitem
    · exact ⟨items, ⟨key, hkey, hitems⟩, by simpa [hitems] using hitem⟩

/-- **A reference leads to the policy of its resource and principal.** -/
theorem State.Coherent.exists_policy (h : s.Coherent) {r : Reference} (hr : s.refersTo r = some id) :
    ∃ p, s.getPolicyByID id = some p ∧ s.Names p r := by
  rcases r with ⟨t, i, addr⟩ | ⟨t, i, n⟩
  · obtain ⟨key, hkey, hid⟩ := refersTo_account.1 hr
    obtain ⟨p, hp, hplace⟩ := Option.bind_eq_some_iff.1 ((h.accounts key id).1 hid)
    obtain ⟨addr', hprincipal, hkey'⟩ := place_eq_account.1 hplace
    obtain ⟨hi, ht, ha⟩ := getPolicyForAccountKey_inj hkey' hkey
    exact ⟨p, hp, ht, hi, ha ▸ hprincipal⟩
  · obtain ⟨item, hitem, rfl⟩ := Option.map_eq_some_iff.1 hr
    obtain ⟨key, hkey, hn⟩ := itemAt_eq_some.1 hitem
    obtain ⟨p, hp, hplace⟩ :=
      Option.bind_eq_some_iff.1 ((h.items.mem_iff key item).1 (List.mem_of_getElem? hn))
    obtain ⟨hprincipal, hkey'⟩ := place_eq_group.1 hplace
    obtain ⟨hi, ht⟩ := getPolicyForGroupKey_inj hkey' hkey
    exact ⟨p, hp, ht, hi, item, hitem, hprincipal⟩

section

variable (h : s.Coherent) (hp : s.getPolicyByID id = some p)
include h hp

/-- An account policy is referred to by its key. -/
theorem State.Coherent.existsUnique_account (haddr : p.principal = .account addr) :
    ∃! r, s.refersTo r = some id := by
  obtain ⟨hplaced, hsome⟩ := h.placeOf_eq hp
  obtain ⟨key, hkey⟩ : ∃ key, getPolicyForAccountKey p.resourceId p.resourceType addr = some key := by
    rw [← Option.ne_none_iff_exists']
    intro hnone
    exact hsome (by simp [place, haddr, hnone])
  have hplace := place_eq_account.2 ⟨addr, haddr, hkey⟩
  have hid := (h.accounts key id).2 (hplaced.trans hplace)
  refine ⟨.account p.resourceType p.resourceId addr,
    refersTo_account.2 ⟨key, hkey, hid⟩, fun r hr => ?_⟩
  obtain ⟨p', hp', hnames⟩ := h.exists_policy hr
  obtain rfl := Option.some.inj (hp.symm.trans hp')
  rcases r with ⟨t, i, addr'⟩ | ⟨t, i, n⟩
  · obtain ⟨rfl, rfl, hprincipal⟩ := hnames
    rw [Principal.account.inj (haddr.symm.trans hprincipal)]
  · obtain ⟨-, -, item, -, hprincipal⟩ := hnames
    cases haddr.symm.trans hprincipal

/-- A group policy is referred to by its item. -/
theorem State.Coherent.existsUnique_group {g : Uint} (hg : p.principal = .group g) :
    ∃! r, s.refersTo r = some id := by
  obtain ⟨hplaced, hsome⟩ := h.placeOf_eq hp
  obtain ⟨key, hkey⟩ : ∃ key, getPolicyForGroupKey p.resourceId p.resourceType = some key := by
    rw [← Option.ne_none_iff_exists']
    intro hnone
    exact hsome (by simp [place, hg, hnone])
  have hplace := place_eq_group.2 ⟨hg, hkey⟩
  have hmem := (h.items.mem_iff key ⟨id, g⟩).2 (hplaced.trans hplace)
  obtain ⟨n, hn⟩ := List.mem_iff_getElem?.1 hmem
  have hitem : s.itemAt p.resourceType p.resourceId n = some ⟨id, g⟩ :=
    itemAt_eq_some.2 ⟨key, hkey, hn⟩
  refine ⟨.item p.resourceType p.resourceId n, Option.map_eq_some_iff.2 ⟨_, hitem, rfl⟩,
    fun r hr => ?_⟩
  obtain ⟨p', hp', hnames⟩ := h.exists_policy hr
  obtain rfl := Option.some.inj (hp.symm.trans hp')
  rcases r with ⟨t, i, addr'⟩ | ⟨t, i, m⟩
  · cases hg.symm.trans hnames.2.2
  · obtain ⟨rfl, rfl, -⟩ := hnames
    obtain ⟨item', hitem', hid'⟩ := Option.map_eq_some_iff.1 hr
    obtain ⟨key', hkey', hm⟩ := itemAt_eq_some.1 hitem'
    obtain rfl := Option.some.inj (hkey.symm.trans hkey')
    -- the ids of the items of a policy group are all different
    have hids : ((s.items key).map PolicyGroupItem.policyId)[m]? =
        ((s.items key).map PolicyGroupItem.policyId)[n]? := by
      rw [List.getElem?_map, List.getElem?_map, hm, hn, Option.map_some, Option.map_some, hid']
    have hlt : m < ((s.items key).map PolicyGroupItem.policyId).length := by
      rw [List.length_map]
      exact (List.getElem?_eq_some_iff.1 hm).1
    rw [(List.getElem?_inj hlt (h.items.nodup key)).1 hids]

/-- **Exactly one reference leads to a policy.** -/
theorem State.Coherent.existsUnique_reference : ∃! r, s.refersTo r = some id := by
  rcases hprincipal : p.principal with _ | addr | g
  · exact absurd (by simp [place, hprincipal]) (h.recorded.placed id p hp)
  · exact h.existsUnique_account hp hprincipal
  · exact h.existsUnique_group hp hprincipal

end

/-- Every key of an index is the key of a resource. -/
theorem State.Coherent.keys (h : s.Coherent) :
    (∀ key id, s.accountPolicies.find? key = some id →
      ∃ t i addr, getPolicyForAccountKey i t addr = some key) ∧
    ∀ key item, item ∈ s.items key → ∃ t i, getPolicyForGroupKey i t = some key := by
  constructor
  · intro key id hid
    obtain ⟨p, -, hplace⟩ := Option.bind_eq_some_iff.1 ((h.accounts key id).1 hid)
    obtain ⟨addr, -, hkey⟩ := place_eq_account.1 hplace
    exact ⟨_, _, addr, hkey⟩
  · intro key item hitem
    obtain ⟨p, -, hplace⟩ := Option.bind_eq_some_iff.1 ((h.items.mem_iff key item).1 hitem)
    exact ⟨_, _, (place_eq_group.1 hplace).2⟩

/-! ### No panic -/

theorem State.updatePolicy_getPolicyByID_ne_none {old new : Policy} (h : s.getPolicyByID i ≠ none) :
    (s.updatePolicy old new).getPolicyByID i ≠ none := by
  have hsame := s.updateQueue_sameIndexes old.id old.expirationTime new.expirationTime
  show ((s.updateQueue _ _ _).policies.insert _ _).find? i ≠ none
  rw [hsame.policies, SortedMap.find?_insert]
  split_ifs
  · exact Option.some_ne_none _
  · exact h

/-- The policies of the items are there, also after some of them have been updated. -/
theorem State.overridePolicy_foldlM (policy : Policy) {l : List PolicyGroupItem}
    (h : ∀ item ∈ l, s.getPolicyByID item.policyId ≠ none) :
    ∃ s', l.foldlM (overridePolicy policy) s = .ok s' := by
  induction l generalizing s with
  | nil => exact ⟨s, rfl⟩
  | cons item l ih =>
    obtain ⟨old, hold⟩ := Option.ne_none_iff_exists'.1 (h item List.mem_cons_self)
    have hfirst : overridePolicy policy s item = .ok (s.updatePolicy old policy) := by
      rw [overridePolicy, mustGetPolicyByID_eq_ok.2 hold]
      rfl
    rw [List.foldlM_cons, hfirst]
    exact ih fun x hx => updatePolicy_getPolicyByID_ne_none (h x (List.mem_cons_of_mem _ hx))

/-- Not the panic of `MustGetPolicyByID`. -/
def Error.IsOther (e : Error) : Prop := ∀ id, e ≠ .policyNotFound id

theorem State.storeNew_failsOnly (policy : Policy) : (s.storeNew policy).FailsOnly Error.IsOther := by
  unfold State.storeNew
  split
  · rintro _ ⟨⟩ id ⟨⟩
  · rintro _ ⟨⟩

/-- A new policy with its place fails only as the sequence does. -/
theorem State.storeNew_bind_failsOnly (policy : Policy) (f : State × Uint → State × Uint) :
    (s.storeNew policy >>= fun r => pure (f r)).FailsOnly Error.IsOther :=
  (s.storeNew_failsOnly policy).bind fun _ _ => .of_eq_ok rfl

/-- **`MustGetPolicyByID` finds the policy that `PutPolicy` overrides.** -/
theorem State.Coherent.putPolicy_failsOnly (h : s.Coherent) (policy : Policy) :
    (s.putPolicy policy).FailsOnly Error.IsOther := by
  unfold State.putPolicy
  split
  · split
    · rintro _ ⟨⟩ id ⟨⟩
    next key hkey =>
    unfold putAccountPolicy
    split
    · next i hi =>
      obtain ⟨old, hold, -⟩ := Option.bind_eq_some_iff.1 ((h.accounts key i).1 hi)
      rw [mustGetPolicyByID_eq_ok.2 hold]
      exact .of_eq_ok rfl
    · exact s.storeNew_bind_failsOnly policy _
  · next g hg =>
    split
    · rintro _ ⟨⟩ id ⟨⟩
    next key hkey =>
    unfold putGroupPolicy
    split
    · next items hitems =>
      have hl : s.items key = items := by simp [State.items, hitems]
      split_ifs
      · rintro _ ⟨⟩ id ⟨⟩
      · split
        · exact s.storeNew_bind_failsOnly policy _
        · have hfound : ∀ item ∈ items.filter fun item => decide (item.groupId = g),
              s.getPolicyByID item.policyId ≠ none := fun item hitem => by
            have hmem := hl ▸ List.mem_of_mem_filter hitem
            obtain ⟨p, hp, -⟩ := Option.bind_eq_some_iff.1 ((h.items.mem_iff key item).1 hmem)
            exact hp ▸ Option.some_ne_none p
          obtain ⟨s', hs'⟩ := overridePolicy_foldlM policy hfound
          rw [hs']
          exact .of_eq_ok rfl
    · exact s.storeNew_bind_failsOnly policy _
  · rintro _ ⟨⟩ id ⟨⟩

/-! ### The store of every run -/

/-- **The permission store is coherent in every run.**  Every key of the two indexes is that of a
resource, each reference leads to a policy of exactly that resource and principal, and each
policy has exactly one reference.  The queue holds the policies that expire, under their times.
So `PutPolicy` and the readers of a reference never miss a policy, and `RemoveExpiredPolicies`
does not panic and removes only policies that expired before the block. -/
theorem permission_store_coherent {params : Params} {s : State} (h : s.Reached params) :
    (∀ key id, s.accountPolicies.find? key = some id →
      ∃ t i addr, getPolicyForAccountKey i t addr = some key) ∧
    (∀ key item, item ∈ s.items key → ∃ t i, getPolicyForGroupKey i t = some key) ∧
    (∀ r id, s.refersTo r = some id → ∃ p, s.getPolicyByID id = some p ∧ s.Names p r) ∧
    (∀ id p, s.getPolicyByID id = some p → ∃! r, s.refersTo r = some id) ∧
    (∀ key, s.policyQueue.contains key = true ↔ ∃ t id p, key = policyPrefixQueue t (Uint.bytes id) ∧
      s.getPolicyByID id = some p ∧ p.expirationTime = some t) ∧
    (∀ policy id, s.putPolicy policy ≠ .error (.policyNotFound id)) ∧
    (∀ r id, s.refersTo r = some id → ∃ p, s.mustGetPolicyByID id = .ok p) ∧
    (∀ blockTime, ∃ s', s.removeExpiredPolicies blockTime = .ok s' ∧
      ∀ id, s'.getPolicyByID id = s.getPolicyByID id ∨ s'.getPolicyByID id = none ∧
        ∃ p t, s.getPolicyByID id = some p ∧ p.expirationTime = some t ∧ t < blockTime) := by
  have hc := h.coherent
  refine ⟨hc.keys.1, hc.keys.2, fun r id hr => hc.exists_policy hr,
    fun id p hp => hc.existsUnique_reference hp, fun key => ?_,
    fun policy id he => hc.putPolicy_failsOnly policy _ he id rfl, fun r id hr => ?_,
    fun blockTime => ?_⟩
  · constructor
    · intro hkey
      obtain ⟨u, hu⟩ := Option.isSome_iff_exists.1 hkey
      obtain ⟨t, id, rfl⟩ := hc.queueKeys key u hu
      obtain ⟨p, hp, ht⟩ := (hc.recorded.queued_iff t id).1 hu
      exact ⟨t, id, p, rfl, hp, ht⟩
    · rintro ⟨t, id, p, rfl, hp, ht⟩
      have hq : s.queued t id := (hc.recorded.queued_iff t id).2 ⟨p, hp, ht⟩
      exact Option.isSome_iff_exists.2 ⟨(), hq⟩
  · obtain ⟨p, hp, -⟩ := hc.exists_policy hr
    exact ⟨p, mustGetPolicyByID_eq_ok.2 hp⟩
  · obtain ⟨s', hs', -, hexpired⟩ := hc.removeExpiredPolicies blockTime
    exact ⟨s', hs', hexpired⟩

/-- A policy of an account that expires, a policy of a group on the same bucket, and an update of
the first. -/
def sampleOps : List Op :=
  let bucketId : Uint := ⟨300, by decide⟩
  [.putPolicy
    { principal := .account zeroAddress, resourceType := .bucket, resourceId := bucketId,
      expirationTime := some 5 },
   .putPolicy
    { principal := .group ⟨7, by decide⟩, resourceType := .bucket, resourceId := bucketId },
   .putPolicy
    { principal := .account zeroAddress, resourceType := .bucket, resourceId := bucketId,
      expirationTime := some 9 }]

theorem permission_store_coherent_sample : ∃ s : State, s.Reached {} ∧
    s.policyQueue.contains (policyPrefixQueue 9 (Uint.bytes ⟨1, by decide⟩)) = true ∧
    (∃! r, s.refersTo r = some ⟨2, by decide⟩) ∧
    ∃ s', s.removeExpiredPolicies 10 = .ok s' := by
  obtain ⟨s, hs, hqueue, p, hp, -⟩ : ∃ s, runSteps State.step (State.empty {}) sampleOps = some s ∧
      s.policyQueue.contains (policyPrefixQueue 9 (Uint.bytes ⟨1, by decide⟩)) = true ∧
      ∃ p, s.getPolicyByID ⟨2, by decide⟩ = some p ∧ True := by decide +kernel
  have hreached : s.Reached {} := Reachable.of_runSteps .start (by decide +kernel) hs
  obtain ⟨-, -, -, hunique, -, -, -, hexpired⟩ := permission_store_coherent hreached
  obtain ⟨s', hs', -⟩ := hexpired 10
  exact ⟨s, hreached, hqueue, hunique _ p hp, s', hs'⟩

end Moca.Permission
