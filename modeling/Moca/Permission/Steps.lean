/-
# Every operation of the permission keeper keeps the store coherent

One lemma for each way the keeper writes a policy: an update in place, a new policy, the
deletion of a policy with its key or its item.  The loops of the forced deletions and of
`RemoveExpiredPolicies` are chains of such deletions.
-/

import Moca.Permission.Coherence

namespace Moca.Permission

open SortedMap State Function Policy

variable {s : State}

/-! ### Updates -/

variable {s' : State} {id : Uint} {p policy : Policy} {key : Bytes} {g : Uint}
  {a b l : List PolicyGroupItem} {item : PolicyGroupItem} {maxDelete deletedTotal : ℕ}
  {t blockTime : ℤ}

theorem State.items_congr (h : s'.policyGroups = s.policyGroups) : s'.items = s.items := by
  funext k
  exact congrArg (fun m => (SortedMap.find? m k).getD []) h

theorem State.updateQueue_sameIndexes (s : State) (id : Uint) (old new : Option ℤ) :
    s.SameIndexes (s.updateQueue id old new) := by
  unfold State.updateQueue
  split
  · exact s.enqueue_sameIndexes _ _
  · exact s.dequeue_sameIndexes _ _
  · split_ifs
    · exact .refl s
    · exact ⟨⟨rfl, rfl, rfl⟩, rfl, rfl⟩
  · exact .refl s

theorem State.updatePolicy_sameEntries (s : State) (old new : Policy) :
    s.SameEntries (s.updatePolicy old new) := by
  have h := s.updateQueue_sameIndexes old.id old.expirationTime new.expirationTime
  exact ⟨h.accountPolicies, h.policyGroups, h.groupMembers⟩

theorem State.QueueKeys.updateQueue (h : s.QueueKeys) (id : Uint) (old new : Option ℤ) :
    (s.updateQueue id old new).QueueKeys := by
  unfold State.updateQueue
  split
  · exact h.enqueue _ _
  · exact h.dequeue _ _
  · split_ifs
    · exact h
    · exact (h.dequeue _ _).enqueue _ _
  · exact h

/-- The entry of a policy is moved to its new time. -/
theorem State.queued_updateQueue {old : Option ℤ} (new : Option ℤ)
    (hold : ∀ t, s.queued t id ↔ old = some t) (t : ℤ) (i : Uint) :
    (s.updateQueue id old new).queued t i ↔ requeue s.queued id new t i := by
  have hid : i = id → (s.queued t i ↔ old = some t) := fun hi => hi ▸ hold t
  unfold State.updateQueue requeue
  split
  · rw [queued_enqueue]
    split_ifs with hi <;> simp_all
  · rw [queued_dequeue]
    split_ifs with hi <;> simp_all
  · split_ifs with ht hi hi
    · simp_all
    · rfl
    · rw [queued_enqueue, queued_dequeue]
      simp_all
    · rw [queued_enqueue, queued_dequeue]
      simp_all
  · split_ifs with hi <;> simp_all

theorem State.Coherent.queued_iff_of_find (h : s.Coherent) (hp : s.getPolicyByID id = some p)
    (t : ℤ) : s.queued t id ↔ p.expirationTime = some t := by
  rw [h.recorded.queued_iff t id, hp]
  simp

theorem State.updatePolicy_getPolicyByID (s : State) (old new : Policy) :
    (s.updatePolicy old new).getPolicyByID = Function.update s.getPolicyByID old.id
      (some { old with statements := new.statements, expirationTime := new.expirationTime }) := by
  show ((s.updateQueue _ _ _).policies.insert _ _).find? = _
  rw [(s.updateQueue_sameIndexes old.id old.expirationTime new.expirationTime).policies]
  exact find?_insert_eq_update s.policies _ _

/-- **An update keeps the place of a policy.** -/
theorem State.Coherent.updatePolicy (h : s.Coherent) {old : Policy}
    (hold : s.getPolicyByID id = some old) (new : Policy) : (s.updatePolicy old new).Coherent := by
  obtain rfl : old.id = id := h.recorded.id_key id old hold
  obtain ⟨hplace, hsome⟩ := h.placeOf_eq hold
  have hsame := s.updateQueue_sameIndexes old.id old.expirationTime new.expirationTime
  have hseq : (s.updatePolicy old new).policySequence = s.policySequence := hsame.policySequence
  -- the place does not depend on the statements and the time
  have hkeep : Function.update s.placeOf old.id old.place = s.placeOf := by
    rw [← hplace]
    exact update_eq_self _ _
  refine h.write (s.updatePolicy_getPolicyByID old new) ?_ hseq.ge ?_ ?_ ?_ ?_
  · rintro p ⟨⟩
    exact ⟨rfl, hseq ▸ h.recorded.id_le _ _ hold, hsome⟩
  · exact queued_updateQueue new.expirationTime (h.queued_iff_of_find hold)
  · exact h.queueKeys.updateQueue _ _ _
  · show AccountsIndexed (Function.update s.placeOf old.id old.place) _
    rw [hkeep]
    exact hsame.accountPolicies ▸ h.accounts
  · show ItemsIndexed (Function.update s.placeOf old.id old.place) _
    rw [hkeep]
    have : (s.updatePolicy old new).items = s.items := items_congr hsame.policyGroups
    exact this ▸ h.items

/-! ### New policies -/

theorem State.storeNew_eq_ok (h : s.storeNew policy = .ok (s', id)) : s.policySequence < id ∧
      s' = { s with
        policySequence := id
        policies := s.policies.insert id { policy with id } }.enqueue policy.expirationTime id := by
  unfold State.storeNew at h
  split at h
  · cases h
  · next i hi =>
    cases h
    exact ⟨Uint.lt_of_incr hi, rfl⟩

/-- **A new policy gets an id of its own.**  It stays to be said how the indexes change. -/
theorem State.Coherent.storeNew (h : s.Coherent) {s'' : State}
    (hs : s.storeNew policy = .ok (s', id)) (hplace : policy.place ≠ none)
    (hpolicies : s''.policies = s'.policies) (hsequence : s''.policySequence = s'.policySequence)
    (hqueue : s''.policyQueue = s'.policyQueue)
    (haccounts : AccountsIndexed (Function.update s.placeOf id policy.place)
      s''.accountPolicies.find?)
    (hitems : ItemsIndexed (Function.update s.placeOf id policy.place) s''.items) :
    s''.Coherent := by
  obtain ⟨hid, rfl⟩ := storeNew_eq_ok hs
  have hsame := enqueue_sameIndexes
    { s with policySequence := id, policies := s.policies.insert id { policy with id } }
    policy.expirationTime id
  have hnone : s.getPolicyByID id = none := h.recorded.find_eq_none hid
  rw [hsame.policies] at hpolicies
  rw [hsame.policySequence] at hsequence
  have hpolicy : s''.getPolicyByID =
      Function.update s.getPolicyByID id (some { policy with id }) := by
    show s''.policies.find? = _
    rw [hpolicies]
    exact find?_insert_eq_update s.policies _ _
  refine h.write hpolicy ?_ (hsequence ▸ hid.le) ?_ ?_ haccounts hitems
  · rintro p ⟨⟩
    have hzero : Uint.zero ≤ s.policySequence := Nat.zero_le _
    exact ⟨rfl, ⟨hzero.trans_lt hid, hsequence.ge⟩, hplace⟩
  · intro t i
    have hfree : ¬s.queued t id := fun hq => by
      obtain ⟨p, hp, -⟩ := (h.recorded.queued_iff t id).1 hq
      rw [hnone] at hp
      cases hp
    have hq : s''.queued t i ↔ (i = id ∧ policy.expirationTime = some t) ∨ s.queued t i := by
      unfold queued
      rw [hqueue]
      exact queued_enqueue
    rw [hq, requeue]
    split_ifs with hi
    · subst hi
      simp [hfree]
    · simp [hi]
  · have hkeys : QueueKeys
        { s with policySequence := id, policies := s.policies.insert id { policy with id } } :=
      h.queueKeys
    unfold QueueKeys
    rw [hqueue]
    exact hkeys.enqueue _ _

theorem State.Coherent.placeOf_eq_none (h : s.Coherent) (hs : s.storeNew policy = .ok (s', id)) :
    s.placeOf id = none := by
  rw [placeOf, h.recorded.find_eq_none (storeNew_eq_ok hs).1]
  rfl

theorem State.storeNew_sameEntries (hs : s.storeNew policy = .ok (s', id)) : s.SameEntries s' := by
  obtain ⟨-, rfl⟩ := storeNew_eq_ok hs
  have h := enqueue_sameIndexes
    { s with policySequence := id, policies := s.policies.insert id { policy with id } }
    policy.expirationTime id
  exact ⟨h.accountPolicies, h.policyGroups, h.groupMembers⟩

theorem State.items_insert (s : State) (k : Bytes) (l : List PolicyGroupItem) :
    State.items { s with policyGroups := s.policyGroups.insert k l } =
      Function.update s.items k l := by
  funext k'
  simp only [State.items, find?_insert, update_apply]
  split_ifs <;> rfl

theorem State.mustGetPolicyByID_eq_ok :
    s.mustGetPolicyByID id = .ok p ↔ s.getPolicyByID id = some p := by
  unfold mustGetPolicyByID
  split <;> simp [*]

/-- What `PutPolicy` does: it overrides the policy of an account or those of some items of a policy
group, or it stores a new policy with its place. -/
inductive State.Put (s : State) (policy : Policy) : State → Prop
  | account {key : Bytes} {id : Uint} {old : Policy} (hplace : policy.place = some (.account key))
      (hid : s.accountPolicies.find? key = some id) (hold : s.getPolicyByID id = some old) :
      s.Put policy (s.updatePolicy old policy)
  | newAccount {key : Bytes} {id : Uint} {s₁ : State} (hplace : policy.place = some (.account key))
      (hnone : s.accountPolicies.find? key = none) (hnew : s.storeNew policy = .ok (s₁, id)) :
      s.Put policy { s₁ with accountPolicies := s₁.accountPolicies.insert key id }
  | items {key : Bytes} {l : List PolicyGroupItem} {s' : State}
      (hl : ∀ item ∈ l, item ∈ s.items key)
      (hloop : l.foldlM (overridePolicy policy) s = .ok s') : s.Put policy s'
  | newItem {key : Bytes} {g id : Uint} {s₁ : State} (hplace : policy.place = some (.group key g))
      (hfree : ∀ item ∈ s.items key, item.groupId ≠ g) (hnew : s.storeNew policy = .ok (s₁, id)) :
      s.Put policy
        { s₁ with policyGroups := s₁.policyGroups.insert key (s.items key ++ [⟨id, g⟩]) }

theorem State.put_of_putAccountPolicy (hplace : policy.place = some (.account key))
    (h : s.putAccountPolicy policy key = .ok (s', id)) : s.Put policy s' := by
  unfold putAccountPolicy at h
  split at h
  · next i hi =>
    simp only [bind_eq_ok, pure_eq_ok] at h
    obtain ⟨old, hold, h⟩ := h
    obtain ⟨rfl, -⟩ := Prod.mk.inj h
    exact .account hplace hi (mustGetPolicyByID_eq_ok.1 hold)
  · next hnone =>
    simp only [bind_eq_ok, pure_eq_ok] at h
    obtain ⟨⟨s₁, i⟩, hnew, h⟩ := h
    obtain ⟨rfl, -⟩ := Prod.mk.inj h
    exact .newAccount hplace hnone hnew

theorem State.put_of_putGroupPolicy (hplace : policy.place = some (.group key g))
    (h : s.putGroupPolicy policy g key (s.policyGroups.find? key) = .ok (s', id)) :
    s.Put policy s' := by
  unfold putGroupPolicy at h
  split at h
  · next items hitems =>
    obtain rfl : s.items key = items := by simp [State.items, hitems]
    split_ifs at h
    split at h
    · next hnone =>
      simp only [bind_eq_ok, pure_eq_ok] at h
      obtain ⟨⟨s₁, i⟩, hnew, h⟩ := h
      obtain ⟨rfl, -⟩ := Prod.mk.inj h
      exact .newItem hplace (by simpa using List.filter_eq_nil_iff.1 hnone) hnew
    · simp only [bind_eq_ok, pure_eq_ok] at h
      obtain ⟨s₁, hloop, h⟩ := h
      obtain ⟨rfl, -⟩ := Prod.mk.inj h
      exact .items (fun item hitem => List.mem_of_mem_filter hitem) hloop
  · next hitems =>
    have hl : s.items key = [] := by simp [State.items, hitems]
    simp only [bind_eq_ok, pure_eq_ok] at h
    obtain ⟨⟨s₁, i⟩, hnew, h⟩ := h
    obtain ⟨rfl, -⟩ := Prod.mk.inj h
    have hput := Put.newItem hplace (by simp [hl]) hnew
    rwa [hl] at hput

/-- **`PutPolicy` does one of these.** -/
theorem State.put_of_putPolicy (h : s.putPolicy policy = .ok (s', id)) : s.Put policy s' := by
  unfold State.putPolicy at h
  split at h
  · next addr haddr =>
    split at h
    · cases h
    next key hkey =>
    exact put_of_putAccountPolicy (place_eq_account.2 ⟨addr, haddr, hkey⟩) h
  · next g hg =>
    split at h
    · cases h
    next key hkey => exact put_of_putGroupPolicy (place_eq_group.2 ⟨hg, hkey⟩) h
  · cases h

/-- What an update of the policy of an item keeps, the override of all of them keeps. -/
theorem State.overridePolicy_invariant (P : State → Prop)
    (hP : ∀ s, ∀ item ∈ l, ∀ old, P s → s.getPolicyByID item.policyId = some old →
      P (s.updatePolicy old policy))
    (hs : P s) (hloop : l.foldlM (overridePolicy policy) s = .ok s') : P s' := by
  refine foldlM_invariant P (fun s₁ item s₂ hitem hs₁ hstep => ?_) hs hloop
  simp only [overridePolicy, bind_eq_ok, pure_eq_ok] at hstep
  obtain ⟨old, hold, rfl⟩ := hstep
  exact hP s₁ item hitem old hs₁ (mustGetPolicyByID_eq_ok.1 hold)

theorem State.Coherent.putPolicy (h : s.Coherent) (hs : s.putPolicy policy = .ok (s', id)) :
    s'.Coherent := by
  cases put_of_putPolicy hs with
  | account _ _ hold => exact h.updatePolicy hold policy
  | @newAccount key i s₁ hplace hnone hnew =>
    have hfree := h.placeOf_eq_none hnew
    have hsame := storeNew_sameEntries hnew
    refine h.storeNew hnew (by simp [hplace]) rfl rfl rfl ?_ ?_
    · show AccountsIndexed _ (s₁.accountPolicies.insert key i).find?
      rw [hplace, find?_insert_eq_update, hsame.accountPolicies]
      exact h.accounts.insert hfree hnone
    · show ItemsIndexed _ s₁.items
      rw [hplace, items_congr hsame.policyGroups]
      exact h.items.update (by simp [hfree]) (by simp)
  | items _ hloop =>
    exact overridePolicy_invariant Coherent
      (fun s₁ item _ old hs₁ hold => hs₁.updatePolicy hold policy) h hloop
  | @newItem key g i s₁ hplace _ hnew =>
    have hfree := h.placeOf_eq_none hnew
    have hsame := storeNew_sameEntries hnew
    refine h.storeNew hnew (by simp [hplace]) rfl rfl rfl ?_ ?_
    · show AccountsIndexed _ s₁.accountPolicies.find?
      rw [hplace, hsame.accountPolicies]
      exact h.accounts.update (by simp [hfree]) (by simp)
    · rw [items_insert, items_congr hsame.policyGroups, hplace]
      exact h.items.insert hfree

/-! ### Deletions -/

/-- The records without a policy, and the queue without its entry. -/
structure State.Drops (s : State) (id : Uint) (p : Policy) (s' : State) : Prop where
  policies : s'.policies = s.policies.erase id
  policySequence : s'.policySequence = s.policySequence
  policyQueue : s'.policyQueue = (s.dequeue p.expirationTime id).policyQueue

theorem State.Drops.getPolicyByID (h : s.Drops id p s') :
    s'.getPolicyByID = Function.update s.getPolicyByID id none := by
  show s'.policies.find? = _
  rw [h.policies]
  exact find?_erase_eq_update s.policies _

theorem State.Coherent.queued_of_drops (h : s.Coherent) (hp : s.getPolicyByID id = some p)
    (hdrops : s.Drops id p s') (t : ℤ) (i : Uint) : s'.queued t i ↔ i ≠ id ∧ s.queued t i := by
  have hq : s'.queued t i ↔ ¬(i = id ∧ p.expirationTime = some t) ∧ s.queued t i := by
    unfold queued
    rw [hdrops.policyQueue]
    exact queued_dequeue
  rw [hq]
  by_cases hi : i = id
  · subst hi
    simp [h.queued_iff_of_find hp t]
  · simp [hi]

/-- **A policy is deleted with its entry of the queue.**  It stays to be said how the indexes
change. -/
theorem State.Coherent.delete (h : s.Coherent) (hp : s.getPolicyByID id = some p)
    (hdrops : s.Drops id p s')
    (haccounts : AccountsIndexed (Function.update s.placeOf id none) s'.accountPolicies.find?)
    (hitems : ItemsIndexed (Function.update s.placeOf id none) s'.items) : s'.Coherent := by
  refine h.write hdrops.getPolicyByID (by simp) hdrops.policySequence.ge ?_ ?_ haccounts hitems
  · intro t i
    rw [h.queued_of_drops hp hdrops, requeue]
    split_ifs with hi <;> simp [hi]
  · unfold QueueKeys
    rw [hdrops.policyQueue]
    exact h.queueKeys.dequeue _ _

/-- A policy is deleted with its key of the account index. -/
theorem State.Coherent.delete_account (h : s.Coherent)
    (hkey : s.accountPolicies.find? key = some id) (hp : s.getPolicyByID id = some p)
    (hdrops : s.Drops id p s') (haccounts : s'.accountPolicies = s.accountPolicies.erase key)
    (hgroups : s'.policyGroups = s.policyGroups) : s'.Coherent := by
  have hplace := (h.accounts key id).1 hkey
  refine h.delete hp hdrops ?_ ?_
  · rw [haccounts, find?_erase_eq_update]
    exact h.accounts.erase hkey
  · rw [items_congr hgroups]
    exact h.items.update (by simp [hplace]) (by simp)

/-- A policy is deleted with its item of a policy group. -/
theorem State.Coherent.delete_item (h : s.Coherent) (hl : s.items key = a ++ item :: b)
    (hp : s.getPolicyByID item.policyId = some p) (hdrops : s.Drops item.policyId p s')
    (haccounts : s'.accountPolicies = s.accountPolicies)
    (hitems : s'.items = Function.update s.items key (a ++ b)) : s'.Coherent := by
  have hplace := (h.items.mem_iff key item).1 (hl ▸ by simp)
  refine h.delete hp hdrops ?_ ?_
  · rw [haccounts]
    exact h.accounts.update (by simp [hplace]) (by simp)
  · rw [hitems]
    exact h.items.erase hl

theorem State.setPolicyGroup_items (s : State) (k : Bytes) (l : List PolicyGroupItem) :
    (s.setPolicyGroup k l).items = Function.update s.items k l := by
  rcases l with _ | ⟨x, l⟩
  · funext k'
    simp only [State.setPolicyGroup, State.items, find?_erase, update_apply]
    split_ifs <;> rfl
  · exact s.items_insert k (x :: l)

/-- Only the policy groups change. -/
theorem State.setPolicyGroup_same (s : State) (k : Bytes) (l : List PolicyGroupItem) :
    (s.setPolicyGroup k l).policies = s.policies ∧
    (s.setPolicyGroup k l).policySequence = s.policySequence ∧
    (s.setPolicyGroup k l).policyQueue = s.policyQueue ∧
    (s.setPolicyGroup k l).accountPolicies = s.accountPolicies := by
  rcases l with _ | ⟨x, l⟩ <;> exact ⟨rfl, rfl, rfl, rfl⟩

/-- What `deletePolicyByID` does to a policy that is there. -/
theorem State.deletePolicyByID_drops (hp : s.getPolicyByID id = some p) (hid : p.id = id) :
    s.Drops id p (s.deletePolicyByID id) ∧
      (s.deletePolicyByID id).accountPolicies = s.accountPolicies ∧
      (s.deletePolicyByID id).policyGroups = s.policyGroups := by
  have hsame := s.dequeue_sameIndexes p.expirationTime id
  subst hid
  unfold deletePolicyByID
  rw [hp]
  refine ⟨⟨?_, hsame.policySequence, rfl⟩, hsame.accountPolicies, hsame.policyGroups⟩
  exact congrArg (fun m => SortedMap.erase m p.id) hsame.policies

/-- The queue and the records do not depend on the policy groups. -/
theorem State.Drops.setPolicyGroup (h : s.Drops id p s') (k : Bytes) (l l' : List PolicyGroupItem) :
    (s.setPolicyGroup k l).Drops id p (s'.setPolicyGroup k l') := by
  obtain ⟨hpolicies, hsequence, hqueue, -⟩ := s.setPolicyGroup_same k l
  obtain ⟨hpolicies', hsequence', hqueue', -⟩ := s'.setPolicyGroup_same k l'
  refine ⟨?_, ?_, ?_⟩
  · rw [hpolicies', hpolicies, h.policies]
  · rw [hsequence', hsequence, h.policySequence]
  · rw [hqueue', h.policyQueue]
    unfold State.dequeue
    rcases p.expirationTime with _ | t
    · exact hqueue.symm
    · exact congrArg (fun q => SortedMap.erase q _) hqueue.symm

/-- Delete the policy of an item, where the policy group is written back later. -/
theorem State.Coherent.deletePolicyByID_item (h : (s.setPolicyGroup key (a ++ item :: b)).Coherent) :
    ((s.deletePolicyByID item.policyId).setPolicyGroup key (a ++ b)).Coherent := by
  obtain ⟨hpolicies, -, -, haccounts⟩ := s.setPolicyGroup_same key (a ++ item :: b)
  have hl : (s.setPolicyGroup key (a ++ item :: b)).items key = a ++ item :: b := by
    rw [setPolicyGroup_items, update_self]
  have hmem : item ∈ (s.setPolicyGroup key (a ++ item :: b)).items key := by
    rw [hl]
    simp
  have hplace := (h.items.mem_iff key item).1 hmem
  obtain ⟨p, hp, -⟩ := Option.bind_eq_some_iff.1 hplace
  have hp' : s.getPolicyByID item.policyId = some p := by
    rw [State.getPolicyByID, ← hpolicies]
    exact hp
  obtain ⟨hdrops, hacc, hgroups⟩ := deletePolicyByID_drops hp' (h.recorded.id_key _ _ hp)
  obtain ⟨-, -, -, haccounts'⟩ :=
    (s.deletePolicyByID item.policyId).setPolicyGroup_same key (a ++ b)
  refine h.delete_item hl hp (hdrops.setPolicyGroup key _ _) ?_ ?_
  · rw [haccounts', hacc, haccounts]
  · rw [setPolicyGroup_items, setPolicyGroup_items, update_idem,
      items_congr hgroups]

/-- Coherence is about the policies, the indexes and the queue. -/
theorem State.Coherent.congr (h : s.Coherent) (hpolicies : s'.policies = s.policies)
    (hsequence : s'.policySequence = s.policySequence) (hqueue : s'.policyQueue = s.policyQueue)
    (haccounts : s'.accountPolicies = s.accountPolicies) (hitems : s'.items = s.items) :
    s'.Coherent := by
  have hplace : s'.placeOf = s.placeOf := by
    funext i
    exact congrArg (fun m => (SortedMap.find? m i).bind place) hpolicies
  have hget : s'.getPolicyByID = s.getPolicyByID := congrArg SortedMap.find? hpolicies
  have hqueued : s'.queued = s.queued := by
    funext t i
    exact congrArg (fun q => SortedMap.find? q _ = some ()) hqueue
  refine ⟨?_, ?_, ?_, ?_⟩
  · rw [hget, hsequence, hqueued]
    exact h.recorded
  · rw [hplace, haccounts]
    exact h.accounts
  · rw [hplace, hitems]
    exact h.items
  · unfold QueueKeys
    rw [hqueue]
    exact h.queueKeys

/-- Writing back the items a policy group has changes nothing. -/
theorem State.Coherent.setPolicyGroup_self (h : s.Coherent) (hl : s.items key = l) :
    (s.setPolicyGroup key l).Coherent := by
  obtain ⟨hpolicies, hsequence, hqueue, haccounts⟩ := s.setPolicyGroup_same key l
  refine h.congr hpolicies hsequence hqueue haccounts ?_
  rw [setPolicyGroup_items, ← hl]
  exact update_eq_self _ _

theorem State.Coherent.deletePolicy (h : s.Coherent) {principal : Principal} {t : ResourceType}
    {i : Uint} {r : Option Uint} (hs : s.deletePolicy principal t i = .ok (s', r)) :
    s'.Coherent := by
  unfold State.deletePolicy at hs
  split at hs
  · next addr =>
    split at hs
    · cases hs
    next key hkey =>
    split at hs
    · cases hs
      exact h
    next p hp =>
    cases hs
    rw [getPolicyForAccount, hkey, Option.bind_some, Option.bind_eq_some_iff] at hp
    obtain ⟨id, hid, hp⟩ := hp
    obtain rfl := h.recorded.id_key id p hp
    have hsame := dequeue_sameIndexes
      { s with
        accountPolicies := s.accountPolicies.erase key
        policies := s.policies.erase p.id } p.expirationTime p.id
    refine h.delete_account hid hp ⟨hsame.policies, hsame.policySequence, ?_⟩
      hsame.accountPolicies hsame.policyGroups
    unfold State.dequeue
    rcases p.expirationTime with _ | t <;> rfl
  · next g =>
    split at hs
    · cases hs
    next key hkey =>
    split at hs
    · cases hs
      exact h
    next items hitems =>
    split at hs
    · cases hs
      exact h
    next item hitem =>
    cases hs
    have hl : s.items key = items := by simp [State.items, hitems]
    -- the item that is found is the one that is erased
    obtain ⟨hg, a, b, hab, ha⟩ := List.find?_eq_some_iff_append.1 hitem
    have herase : items.eraseP (fun item => decide (item.groupId = g)) = a ++ b := by
      rw [hab, List.eraseP_append_right _ (by simpa using ha), List.eraseP_cons, hg]
      rfl
    rw [herase]
    exact Coherent.deletePolicyByID_item (h.setPolicyGroup_self (hl.trans hab))
  · cases hs

/-! ### Forced deletions -/

/-- What each round keeps, the loop keeps. -/
theorem deleteUpTo_invariant {α : Type} {delete : State → α → State} (P : State → Prop) {l : List α}
    (hP : ∀ s, ∀ e ∈ l, P s → P (delete s e)) (hs : P s) :
    P (deleteUpTo maxDelete delete l s deletedTotal).1 := by
  induction l generalizing s deletedTotal with
  | nil => exact hs
  | cons e l ih =>
    unfold deleteUpTo
    split_ifs
    · exact hs
    · exact ih (fun s₁ e' he' => hP s₁ e' (List.mem_cons_of_mem e he'))
        (hP s e List.mem_cons_self hs)

/-- The loop over keys of the account index, all different. -/
theorem State.Coherent.deleteAccountPolicies {l : List (Bytes × Uint)}
    (hdistinct : l.Pairwise fun e e' => e.1 ≠ e'.1) (h : s.Coherent)
    (hl : ∀ e ∈ l, s.accountPolicies.find? e.1 = some e.2) :
    (deleteUpTo maxDelete deleteAccountPolicy l s deletedTotal).1.Coherent := by
  induction l generalizing s deletedTotal with
  | nil => exact h
  | cons e l ih =>
    obtain ⟨hne, hrest⟩ := List.pairwise_cons.1 hdistinct
    have hkey : s.accountPolicies.find? e.1 = some e.2 := hl e List.mem_cons_self
    obtain ⟨p, hp, -⟩ := Option.bind_eq_some_iff.1 ((h.accounts e.1 e.2).1 hkey)
    obtain ⟨hdrops, hacc, hgroups⟩ :=
      deletePolicyByID_drops hp (h.recorded.id_key e.2 p hp)
    have haccounts : (s.deleteAccountPolicy e).accountPolicies = s.accountPolicies.erase e.1 :=
      congrArg (fun m => SortedMap.erase m e.1) hacc
    unfold deleteUpTo
    split_ifs
    · exact h
    · refine ih hrest ?_ fun e' he' => ?_
      · exact h.delete_account hkey hp
          ⟨hdrops.policies, hdrops.policySequence, hdrops.policyQueue⟩ haccounts hgroups
      · rw [haccounts, find?_erase_of_ne _ (hne e' he').symm]
        exact hl e' (List.mem_cons_of_mem _ he')

theorem State.Coherent.forceDeleteAccountPolicyForResource (h : s.Coherent)
    (maxDelete deletedTotal : ℕ) (t : ResourceType) (i : Uint) :
    (s.forceDeleteAccountPolicyForResource maxDelete deletedTotal t i).1.Coherent := by
  unfold State.forceDeleteAccountPolicyForResource
  split
  · exact h
  · refine Coherent.deleteAccountPolicies ?_ h fun e he => ?_
    · exact (s.accountPolicies.sorted.filter _).imp fun hlt => hlt.ne
    · exact find?_eq_some_iff.2 (List.mem_of_mem_filter he)

/-- The loop over the items of a policy group, which is written back at its end. -/
theorem State.Coherent.deleteGroupPolicies (h : (s.setPolicyGroup key l).Coherent) :
    (State.deleteGroupPolicies maxDelete key l s deletedTotal).1.Coherent := by
  induction l generalizing s deletedTotal with
  | nil => exact h
  | cons item l ih =>
    unfold State.deleteGroupPolicies
    split_ifs
    · exact h
    · exact ih (Coherent.deletePolicyByID_item (a := []) h)

theorem State.Coherent.forceDeleteGroupPolicyForResource (h : s.Coherent)
    (maxDelete deletedTotal : ℕ) (t : ResourceType) (i : Uint) :
    (s.forceDeleteGroupPolicyForResource maxDelete deletedTotal t i).1.Coherent := by
  unfold State.forceDeleteGroupPolicyForResource
  split
  · exact h
  · split
    · exact h
    · next items hitems =>
      exact Coherent.deleteGroupPolicies
        (h.setPolicyGroup_self (by simp [State.items, hitems]))

/-! ### Expired policies -/

/-- The keys a loop of `RemoveExpiredPolicies` still has to visit: each is in the queue, before
the block time, and none comes twice. -/
structure State.Due (s : State) (blockTime : ℤ) (l : List QueueKey) : Prop where
  queued : ∀ key ∈ l, ∃ t id, key = policyPrefixQueue t (Uint.bytes id) ∧ s.queued t id ∧
    t < blockTime
  nodup : l.Nodup

theorem policyPrefixQueue_lt (hid : Uint.zero < id)
    (h : policyPrefixQueue t id.bytes < policyPrefixQueue blockTime [Bytes.zero]) :
    t < blockTime := by
  rcases Prod.Lex.toLex_lt_toLex.1 h with ht | ⟨-, hb⟩
  · exact ht
  · exfalso
    rcases hbytes : id.bytes with _ | ⟨b, rest⟩
    · have hzero : Bytes.ofBigEndian id.bytes = id.toNat := Bytes.ofBigEndian_bigEndian id.toNat
      rw [hbytes] at hzero
      exact (Uint.lt_def.1 hid).ne hzero
    · rw [hbytes] at hb
      rcases List.cons_lt_cons_iff.1 hb with hlt | ⟨-, hlt⟩
      · exact absurd hlt (Nat.not_lt_zero _)
      · exact absurd hlt (by simp)

theorem State.Coherent.expiredKeys_due (h : s.Coherent) (blockTime : ℤ) :
    s.Due blockTime (s.expiredKeys blockTime) := by
  constructor
  · intro key hkey
    obtain ⟨hmem, hlt⟩ := List.mem_filter.1 (List.mem_of_mem_take hkey)
    obtain ⟨⟨key', u⟩, hentry, rfl⟩ := List.mem_map.1 hmem
    have hfind := find?_eq_some_iff.2 hentry
    obtain ⟨t, id, hk⟩ := h.queueKeys key' u hfind
    dsimp only at hlt ⊢
    subst hk
    have hq : s.queued t id := hfind
    obtain ⟨p, hp, -⟩ := (h.recorded.queued_iff t id).1 hq
    exact ⟨t, id, rfl, hq, policyPrefixQueue_lt (h.recorded.id_le id p hp).1 (of_decide_eq_true hlt)⟩
  · refine List.Nodup.sublist (List.take_sublist _ _) (List.Nodup.filter _ ?_)
    exact (List.pairwise_map.2 s.policyQueue.sorted).imp fun hlt => hlt.ne

/-- **One expired policy is removed**, with its place, and the others stay. -/
theorem State.Coherent.removeExpiredPolicy (h : s.Coherent) (hq : s.queued t id) :
    ∃ s' p, s.removeExpiredPolicy (policyPrefixQueue t id.bytes) = .ok s' ∧
      s'.Coherent ∧ s.getPolicyByID id = some p ∧ s.Drops id p s' := by
  obtain ⟨p, hp, hexp⟩ := (h.recorded.queued_iff t id).1 hq
  have hparse : parsePolicyIDFromQueueKey (policyPrefixQueue t id.bytes) = some id :=
    Uint.ofBytes_bytes id
  have hdrops : s.Drops id p { s with
      policyQueue := s.policyQueue.erase (policyPrefixQueue t id.bytes)
      policies := s.policies.erase id } := by
    refine ⟨rfl, rfl, ?_⟩
    rw [hexp]
    rfl
  have hplaced := h.placeOf_eq hp
  have hfind : s.policies.find? id = some p := hp
  unfold State.removeExpiredPolicy
  simp only [hparse, hfind]
  rcases hprincipal : p.principal with _ | addr | g
  · exact absurd (by simp [place, hprincipal]) hplaced.2
  · rcases hkey : getPolicyForAccountKey p.resourceId p.resourceType addr with _ | key
    · exact absurd (by simp [place, hprincipal, hkey]) hplaced.2
    · have hplace := place_eq_account.2 ⟨addr, hprincipal, hkey⟩
      have hacc := (h.accounts key id).2 (hplaced.1.trans hplace)
      simp only [hkey]
      refine ⟨_, p, rfl, ?_, hp, ?_⟩
      · exact h.delete_account hacc hp ⟨rfl, rfl, hdrops.policyQueue⟩ rfl rfl
      · exact ⟨rfl, rfl, hdrops.policyQueue⟩
  · rcases hkey : getPolicyForGroupKey p.resourceId p.resourceType with _ | key
    · exact absurd (by simp [place, hprincipal, hkey]) hplaced.2
    · have hplace := place_eq_group.2 ⟨hprincipal, hkey⟩
      have hmem : (⟨id, g⟩ : PolicyGroupItem) ∈ s.items key :=
        (h.items.mem_iff key ⟨id, g⟩).2 (hplaced.1.trans hplace)
      rcases hgroup : s.policyGroups.find? key with _ | items
      · simp [State.items, hgroup] at hmem
      · have hl : s.items key = items := by simp [State.items, hgroup]
        rw [hl] at hmem
        obtain ⟨item, a, b, -, hitem, hab, herase⟩ := List.exists_of_eraseP
          (p := fun item : PolicyGroupItem => decide (item.policyId = id)) hmem (by simp)
        obtain rfl : item.policyId = id := of_decide_eq_true hitem
        obtain ⟨hpolicies, hsequence, hqueue, haccounts⟩ := setPolicyGroup_same
          { s with
            policyQueue := s.policyQueue.erase (policyPrefixQueue t item.policyId.bytes)
            policies := s.policies.erase item.policyId } key (a ++ b)
        have hdrops' := Drops.mk (s := s) (p := p) hpolicies hsequence
          (hqueue.trans hdrops.policyQueue)
        simp only [hgroup, herase]
        refine ⟨_, p, rfl, ?_, hp, hdrops'⟩
        refine h.delete_item (hl.trans hab) hp hdrops' haccounts ?_
        rw [setPolicyGroup_items]
        rfl

/-- The policies of `s'` are those of `s`, but for some that expired before the block. -/
def State.ExpiredOnly (blockTime : ℤ) (s s' : State) : Prop :=
  ∀ id, s'.getPolicyByID id = s.getPolicyByID id ∨ s'.getPolicyByID id = none ∧
    ∃ p t, s.getPolicyByID id = some p ∧ p.expirationTime = some t ∧ t < blockTime

/-- **The loop visits only policies that are there.** -/
theorem State.Coherent.removeExpired_foldlM {l : List QueueKey} (h : s.Coherent)
    (hl : s.Due blockTime l) : ∃ s', l.foldlM State.removeExpiredPolicy s = .ok s' ∧ s'.Coherent ∧
      ExpiredOnly blockTime s s' := by
  induction l generalizing s with
  | nil => exact ⟨s, rfl, h, fun id => .inl rfl⟩
  | cons key l ih =>
    obtain ⟨hfirst, hnodup⟩ := List.nodup_cons.1 hl.nodup
    obtain ⟨t, id, rfl, hq, ht⟩ := hl.queued key List.mem_cons_self
    obtain ⟨s₁, p, hs₁, hcoherent, hp, hdrops⟩ := h.removeExpiredPolicy hq
    have hdue : s₁.Due blockTime l := by
      refine ⟨fun key' hkey' => ?_, hnodup⟩
      obtain ⟨t', i, rfl, hq', ht'⟩ := hl.queued key' (List.mem_cons_of_mem _ hkey')
      refine ⟨t', i, rfl, (h.queued_of_drops hp hdrops t' i).2 ⟨?_, hq'⟩, ht'⟩
      -- a policy is in the queue at one time only
      rintro rfl
      have htt := ((h.queued_iff_of_find hp t').1 hq').symm.trans ((h.queued_iff_of_find hp t).1 hq)
      exact hfirst (Option.some.inj htt ▸ hkey')
    obtain ⟨s', hs', hcoherent', hexpired⟩ := ih hcoherent hdue
    refine ⟨s', ?_, hcoherent', fun i => ?_⟩
    · rw [List.foldlM_cons, hs₁]
      exact hs'
    · have hi := hexpired i
      rw [hdrops.getPolicyByID, update_apply] at hi
      split_ifs at hi with hid
      · subst hid
        refine .inr ⟨?_, p, t, hp, (h.queued_iff_of_find hp t).1 hq, ht⟩
        rcases hi with hi | ⟨hi, -⟩
        · exact hi
        · exact hi
      · exact hi

theorem State.Coherent.removeExpiredPolicies (h : s.Coherent) (blockTime : ℤ) :
    ∃ s', s.removeExpiredPolicies blockTime = .ok s' ∧ s'.Coherent ∧
      ExpiredOnly blockTime s s' :=
  h.removeExpired_foldlM (h.expiredKeys_due blockTime)

/-! ### Runs -/

theorem State.addGroupMember_eq_ok {member : AccAddress} {expiration : Option ℤ}
    (h : s.addGroupMember g member expiration = .ok s') :
    ∃ id, s.groupMemberSequence < id ∧ s' = { s with
      groupMemberSequence := id
      groupMembers := s.groupMembers.insert (getGroupMemberKey g member) id
      groupMembersById := s.groupMembersById.insert id ⟨g, member, expiration⟩ } := by
  simp only [addGroupMember] at h
  split_ifs at h
  split at h
  · cases h
  next id hid =>
  cases h
  exact ⟨id, Uint.lt_of_incr hid, rfl⟩

/-- **Every operation keeps the store coherent.** -/
theorem State.Coherent.step (h : s.Coherent) {op : Op} (hs : s.step op = some s') :
    s'.Coherent := by
  have hs := Except.toOption_eq_some hs
  cases op with
  | putPolicy policy =>
    simp only [exec, bind_eq_ok, pure_eq_ok] at hs
    obtain ⟨⟨s₁, id⟩, hput, rfl⟩ := hs
    exact h.putPolicy hput
  | deletePolicy principal t i =>
    simp only [exec, bind_eq_ok, pure_eq_ok] at hs
    obtain ⟨⟨s₁, id⟩, hdelete, rfl⟩ := hs
    exact h.deletePolicy hdelete
  | forceDeleteAccountPolicyForResource maxDelete deletedTotal t i =>
    cases hs
    exact h.forceDeleteAccountPolicyForResource maxDelete deletedTotal t i
  | forceDeleteGroupPolicyForResource maxDelete deletedTotal t i =>
    cases hs
    exact h.forceDeleteGroupPolicyForResource maxDelete deletedTotal t i
  | forceDeleteGroupMembers maxDelete deletedTotal g =>
    cases hs
    -- group members are not part of the policies
    refine deleteUpTo_invariant Coherent (fun s₁ e _ hs₁ => ?_) h
    exact hs₁.congr rfl rfl rfl rfl rfl
  | removeExpiredPolicies blockTime =>
    obtain ⟨s₁, hs₁, hcoherent, -⟩ := h.removeExpiredPolicies blockTime
    obtain rfl := Except.ok.inj (hs₁.symm.trans hs)
    exact hcoherent
  | addGroupMember g member expiration =>
    obtain ⟨id, -, rfl⟩ := addGroupMember_eq_ok hs
    exact h.congr rfl rfl rfl rfl rfl
  | updateGroupMember g member memberId expiration =>
    cases hs
    exact h.congr rfl rfl rfl rfl rfl
  | removeGroupMember g member =>
    simp only [exec, removeGroupMember] at hs
    split at hs
    · cases hs
    · cases hs
      exact h.congr rfl rfl rfl rfl rfl
  | setParams params =>
    simp only [exec, setParams] at hs
    split_ifs at hs
    cases hs
    exact h.congr rfl rfl rfl rfl rfl

/-- The states the keeper reaches from an empty store. -/
def State.Reached (params : Params) (s : State) : Prop :=
  Reachable State.step (fun _ _ => True) (State.empty params) s

theorem State.Reached.coherent {params : Params} (h : s.Reached params) : s.Coherent :=
  Reachable.invariant Coherent (empty_coherent params)
    (fun _ _ _ hs _ hstep => hs.step hstep) h

end Moca.Permission
