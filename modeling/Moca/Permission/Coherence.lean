/-
# The indexes of the permission store agree with its policies

A policy has one place: the key of the account index or, in the policy group of its resource,
the item of its group.  The relations below say that each index holds exactly the policies
whose place it is, in terms of the policies' places alone; every operation of the keeper
changes the place of one policy at a time, together with its index.
-/

import Moca.Permission.Keeper
import Mathlib.Data.List.Nodup
import Mathlib.Logic.Function.Basic

namespace Moca.Permission

open State SortedMap Function Policy

/-! ### Places -/

/-- Where the store refers to a policy. -/
inductive Place
  | account (policyKey : Bytes)
  | group (policyGroupKey : Bytes) (groupId : Uint)
  deriving DecidableEq

/-- The place of a policy, if its resource type has one for its principal. -/
def Policy.place (p : Policy) : Option Place :=
  match p.principal with
  | .account addr => (getPolicyForAccountKey p.resourceId p.resourceType addr).map .account
  | .group groupId =>
    (getPolicyForGroupKey p.resourceId p.resourceType).map fun key => .group key groupId
  | .unspecified => none

variable {p : Policy} {t : ℤ} {s s' : State} {exp : Option ℤ} {i : Uint} {r : Option Policy}

theorem Policy.place_eq_account {k : Bytes} : p.place = some (.account k) ↔
    ∃ addr, p.principal = .account addr ∧
      getPolicyForAccountKey p.resourceId p.resourceType addr = some k := by
  unfold place
  split <;> simp [*]

theorem Policy.place_eq_group {k : Bytes} {g : Uint} : p.place = some (.group k g) ↔
    p.principal = .group g ∧ getPolicyForGroupKey p.resourceId p.resourceType = some k := by
  unfold place
  split <;> simp [*, and_comm]

/-- The records: the id of a policy is its key, was given out before, and it has a place.  The
queue holds the policies that expire, each under its time. -/
structure Recorded (policy : Uint → Option Policy) (sequence : Uint)
    (queued : ℤ → Uint → Prop) : Prop where
  id_key : ∀ id p, policy id = some p → p.id = id
  id_le : ∀ id p, policy id = some p → Uint.zero < id ∧ id ≤ sequence
  placed : ∀ id p, policy id = some p → p.place ≠ none
  queued_iff : ∀ t id, queued t id ↔ ∃ p, policy id = some p ∧ p.expirationTime = some t

/-- The account index holds the policies with a place in it. -/
def AccountsIndexed (place : Uint → Option Place) (account : Bytes → Option Uint) : Prop :=
  ∀ k id, account k = some id ↔ place id = some (.account k)

/-- The policy groups hold the policies with a place in them, each once. -/
structure ItemsIndexed (place : Uint → Option Place) (items : Bytes → List PolicyGroupItem) :
    Prop where
  mem_iff : ∀ k item, item ∈ items k ↔ place item.policyId = some (.group k item.groupId)
  nodup : ∀ k, ((items k).map PolicyGroupItem.policyId).Nodup

/-- The queue after the expiration time of one policy has changed. -/
def requeue (queued : ℤ → Uint → Prop) (id : Uint) (exp : Option ℤ) (t : ℤ) (i : Uint) : Prop :=
  if i = id then exp = some t else queued t i

section Relations

variable {policy : Uint → Option Policy} {sequence sequence' : Uint} {queued : ℤ → Uint → Prop}
variable {place : Uint → Option Place} {account : Bytes → Option Uint}
variable {items : Bytes → List PolicyGroupItem} {id : Uint} {k : Bytes} {g : Uint}

theorem Recorded.find_eq_none (h : Recorded policy sequence queued) (hid : sequence < id) :
    policy id = none := by
  rcases hp : policy id with _ | p
  · rfl
  · exact absurd (h.id_le id p hp).2 (not_le.2 hid)

/-- Write or delete one record. -/
theorem Recorded.update (h : Recorded policy sequence queued) (r : Option Policy)
    (hr : ∀ p, r = some p → p.id = id ∧ (Uint.zero < id ∧ id ≤ sequence') ∧ p.place ≠ none)
    (hseq : sequence ≤ sequence') :
    Recorded (Function.update policy id r) sequence'
      (requeue queued id (r.bind expirationTime)) := by
  constructor
  · intro i p hp
    rw [update_apply] at hp
    split_ifs at hp with hi
    · exact hi ▸ (hr p hp).1
    · exact h.id_key i p hp
  · intro i p hp
    rw [update_apply] at hp
    split_ifs at hp with hi
    · exact hi ▸ (hr p hp).2.1
    · exact ⟨(h.id_le i p hp).1, (h.id_le i p hp).2.trans hseq⟩
  · intro i p hp
    rw [update_apply] at hp
    split_ifs at hp
    · exact (hr p hp).2.2
    · exact h.placed i p hp
  · intro t i
    rw [requeue, update_apply]
    split_ifs
    · exact Option.bind_eq_some_iff
    · exact h.queued_iff t i

/-- A policy gets a place in the account index. -/
theorem AccountsIndexed.insert (h : AccountsIndexed place account) (hid : place id = none)
    (hk : account k = none) :
    AccountsIndexed (Function.update place id (some (.account k)))
      (Function.update account k (some id)) := by
  intro k' i
  have hfree : place i ≠ some (.account k) := fun hi => by simp [(h k i).2 hi] at hk
  simp only [update_apply]
  split_ifs with hk' hi hi
  · simp [hk', hi]
  · subst hk'
    simpa [hfree] using Ne.symm hi
  · subst hi
    simp [h k' i, hid, Ne.symm hk']
  · exact h k' i

/-- A policy loses its place in the account index. -/
theorem AccountsIndexed.erase (h : AccountsIndexed place account) (hid : account k = some id) :
    AccountsIndexed (Function.update place id none) (Function.update account k none) := by
  intro k' i
  have hplace := (h k id).1 hid
  simp only [update_apply]
  split_ifs with hk' hi hi
  · simp
  · subst hk'
    have : place i ≠ some (.account k') := fun hi' => by
      rw [(h k' i).2 hi'] at hid
      exact hi (Option.some.inj hid)
    simpa using this
  · subst hi
    have : account k' ≠ some i := fun hk => by
      rw [(h k' i).1 hk] at hplace
      exact hk' (Place.account.inj (Option.some.inj hplace))
    simpa using this
  · exact h k' i

/-- The place of a policy changes elsewhere. -/
theorem AccountsIndexed.update (h : AccountsIndexed place account) {r : Option Place}
    (hid : ∀ k, place id ≠ some (.account k)) (hr : ∀ k, r ≠ some (.account k)) :
    AccountsIndexed (Function.update place id r) account := by
  intro k i
  rw [update_apply]
  split_ifs with hi
  · subst hi
    simp [h k i, hid k, hr k]
  · exact h k i

/-- A policy gets an item of a policy group. -/
theorem ItemsIndexed.insert (h : ItemsIndexed place items) (hid : place id = none) :
    ItemsIndexed (Function.update place id (some (.group k g)))
      (Function.update items k (items k ++ [⟨id, g⟩])) := by
  have hfresh : ∀ k' item, item ∈ items k' → item.policyId ≠ id := by
    rintro k' item hitem rfl
    rw [(h.mem_iff k' item).1 hitem] at hid
    cases hid
  constructor
  · rintro k' ⟨i, g'⟩
    simp only [update_apply]
    split_ifs with hk' hi hi
    · subst hk' hi
      have : (⟨i, g'⟩ : PolicyGroupItem) ∉ items k' := fun hm => hfresh k' _ hm rfl
      simp [this, eq_comm]
    · subst hk'
      simp [hi, h.mem_iff k' ⟨i, g'⟩]
    · subst hi
      have : (⟨i, g'⟩ : PolicyGroupItem) ∉ items k' := fun hm => hfresh k' _ hm rfl
      simp [this, Ne.symm hk']
    · exact h.mem_iff k' ⟨i, g'⟩
  · intro k'
    rw [update_apply]
    split_ifs with hk'
    · subst hk'
      rw [List.map_append, List.nodup_append]
      refine ⟨h.nodup k', by simp, ?_⟩
      intro a ha b hb
      obtain ⟨item, hitem, rfl⟩ := List.mem_map.1 ha
      rw [List.map_singleton, List.mem_singleton] at hb
      exact hb ▸ hfresh k' item hitem
    · exact h.nodup k'

/-- A policy loses its item of a policy group. -/
theorem ItemsIndexed.erase (h : ItemsIndexed place items) {a b : List PolicyGroupItem}
    {item : PolicyGroupItem} (hk : items k = a ++ item :: b) :
    ItemsIndexed (Function.update place item.policyId none)
      (Function.update items k (a ++ b)) := by
  have hnodup := h.nodup k
  rw [hk, List.map_append, List.map_cons, List.nodup_middle, List.nodup_cons,
    ← List.map_append] at hnodup
  have hplace := (h.mem_iff k item).1 (hk ▸ by simp)
  constructor
  · intro k' x
    simp only [update_apply]
    split_ifs with hk' hx hx
    · have : x ∉ a ++ b := fun hm => hnodup.1 (hx ▸ List.mem_map_of_mem hm)
      simpa using this
    · subst hk'
      have hne : x ≠ item := fun hx' => hx (hx' ▸ rfl)
      rw [← h.mem_iff k' x, hk]
      simp [hne]
    · have : x ∉ items k' := fun hm => by
        rw [← hx, (h.mem_iff k' x).1 hm] at hplace
        exact hk' (Place.group.inj (Option.some.inj hplace)).1
      simpa using this
    · exact h.mem_iff k' x
  · intro k'
    rw [update_apply]
    split_ifs
    · exact hnodup.2
    · exact h.nodup k'

/-- The place of a policy changes elsewhere. -/
theorem ItemsIndexed.update (h : ItemsIndexed place items) {r : Option Place}
    (hid : ∀ k g, place id ≠ some (.group k g)) (hr : ∀ k g, r ≠ some (.group k g)) :
    ItemsIndexed (Function.update place id r) items := by
  refine ⟨fun k item => ?_, h.nodup⟩
  rw [update_apply]
  split_ifs with hi
  · simp [h.mem_iff k item, hi, hid, hr]
  · exact h.mem_iff k item

end Relations

/-! ### The store -/

/-- The items of a policy group. -/
def State.items (s : State) (k : Bytes) : List PolicyGroupItem := (s.policyGroups.find? k).getD []

/-- The place of the policy with an id. -/
def State.placeOf (s : State) (id : Uint) : Option Place := (s.getPolicyByID id).bind place

/-- The queue has an entry for an id at a time. -/
def State.queued (s : State) (t : ℤ) (id : Uint) : Prop :=
  s.policyQueue.find? (policyPrefixQueue t id.bytes) = some ()

/-- Every key of the queue is that of a time and an id. -/
def State.QueueKeys (s : State) : Prop :=
  ∀ key u, s.policyQueue.find? key = some u → ∃ t id, key = policyPrefixQueue t (Uint.bytes id)

/-- The indexes and the queue agree with the policies. -/
structure State.Coherent (s : State) : Prop where
  recorded : Recorded s.getPolicyByID s.policySequence s.queued
  accounts : AccountsIndexed s.placeOf s.accountPolicies.find?
  items : ItemsIndexed s.placeOf s.items
  queueKeys : s.QueueKeys

theorem State.empty_coherent (params : Params) : (empty params).Coherent := by
  refine ⟨⟨?_, ?_, ?_, ?_⟩, ?_, ⟨?_, ?_⟩, ?_⟩ <;>
    simp [empty, State.getPolicyByID, queued, placeOf, items,
      QueueKeys, AccountsIndexed]

theorem policyPrefixQueue_inj {t' : ℤ} {id id' : Uint} :
    policyPrefixQueue t id.bytes = policyPrefixQueue t' id'.bytes ↔ id = id' ∧ t = t' := by
  constructor
  · intro h
    obtain ⟨ht, hid⟩ := Prod.mk.inj (toLex.injective h)
    exact ⟨Uint.bytes_injective hid, ht⟩
  · rintro ⟨rfl, rfl⟩
    rfl

/-! ### Entries of the queue -/

/-- The indexes and the group members stay as they are. -/
structure State.SameEntries (s s' : State) : Prop where
  accountPolicies : s'.accountPolicies = s.accountPolicies
  policyGroups : s'.policyGroups = s.policyGroups
  groupMembers : s'.groupMembers = s.groupMembers

/-- Only the queue changes. -/
structure State.SameIndexes (s s' : State) : Prop extends s.SameEntries s' where
  policies : s'.policies = s.policies
  policySequence : s'.policySequence = s.policySequence

theorem State.SameIndexes.refl (s : State) : s.SameIndexes s :=
  ⟨⟨rfl, rfl, rfl⟩, rfl, rfl⟩

theorem State.enqueue_sameIndexes (s : State) (exp : Option ℤ) (id : Uint) :
    s.SameIndexes (s.enqueue exp id) := by
  rcases exp with _ | t <;> exact ⟨⟨rfl, rfl, rfl⟩, rfl, rfl⟩

theorem State.dequeue_sameIndexes (s : State) (exp : Option ℤ) (id : Uint) :
    s.SameIndexes (s.dequeue exp id) := by
  rcases exp with _ | t <;> exact ⟨⟨rfl, rfl, rfl⟩, rfl, rfl⟩

theorem State.queued_enqueue {id : Uint} :
    (s.enqueue exp id).queued t i ↔ (i = id ∧ exp = some t) ∨ s.queued t i := by
  rcases exp with _ | t'
  · simp [State.enqueue]
  · simp only [State.enqueue, queued, find?_insert, policyPrefixQueue_inj,
      Option.some.injEq, eq_comm]
    split_ifs with h <;> simp [h]

theorem State.queued_dequeue {id : Uint} :
    (s.dequeue exp id).queued t i ↔ ¬(i = id ∧ exp = some t) ∧ s.queued t i := by
  rcases exp with _ | t'
  · simp [State.dequeue]
  · simp only [State.dequeue, queued, find?_erase, policyPrefixQueue_inj,
      Option.some.injEq, eq_comm]
    split_ifs with h <;> simp [h]

theorem State.QueueKeys.enqueue (h : s.QueueKeys) (exp : Option ℤ) (id : Uint) :
    (s.enqueue exp id).QueueKeys := by
  rcases exp with _ | t
  · exact h
  · intro key u hkey
    simp only [State.enqueue, find?_insert] at hkey
    split_ifs at hkey with hk
    · exact ⟨t, id, hk⟩
    · exact h key u hkey

theorem State.QueueKeys.dequeue (h : s.QueueKeys) (exp : Option ℤ) (id : Uint) :
    (s.dequeue exp id).QueueKeys := by
  rcases exp with _ | t
  · exact h
  · intro key u hkey
    exact h key u (find?_of_erase hkey)

/-! ### Writing one record -/

theorem State.placeOf_update {id : Uint}
    (h : s'.getPolicyByID = Function.update s.getPolicyByID id r) :
    s'.placeOf = Function.update s.placeOf id (r.bind place) := by
  funext i
  rw [placeOf, h, update_apply, update_apply, placeOf]
  split_ifs <;> rfl

/-- **One record is written or deleted**, and its place, its entry of the queue and the two
indexes change with it. -/
theorem State.Coherent.write (h : s.Coherent) {id : Uint}
    (hpolicy : s'.getPolicyByID = Function.update s.getPolicyByID id r)
    (hr : ∀ p, r = some p → p.id = id ∧ (Uint.zero < id ∧ id ≤ s'.policySequence) ∧ p.place ≠ none)
    (hseq : s.policySequence ≤ s'.policySequence)
    (hqueue : ∀ t i, s'.queued t i ↔ requeue s.queued id (r.bind expirationTime) t i)
    (hkeys : s'.QueueKeys)
    (haccounts : AccountsIndexed (Function.update s.placeOf id (r.bind place)) s'.accountPolicies.find?)
    (hitems : ItemsIndexed (Function.update s.placeOf id (r.bind place)) s'.items) :
    s'.Coherent := by
  have hrec := h.recorded.update r hr hseq
  rw [← hpolicy] at hrec
  rw [← placeOf_update hpolicy] at haccounts hitems
  refine ⟨⟨hrec.id_key, hrec.id_le, hrec.placed, fun t i => ?_⟩, haccounts, hitems, hkeys⟩
  rw [hqueue t i]
  exact hrec.queued_iff t i

theorem State.Coherent.placeOf_eq (h : s.Coherent) {id : Uint} (hp : s.getPolicyByID id = some p) :
    s.placeOf id = p.place ∧ p.place ≠ none := by
  rw [placeOf, hp]
  exact ⟨rfl, h.recorded.placed id p hp⟩

end Moca.Permission
