/-
# Granting again

`PutPolicy` for a resource and a principal that have a policy already.  The policy keeps its id and
its place, and takes over the statements and the expiration time (`State.updatePolicy_regrants`).
Two things go wrong.  The id that is returned is the one of the argument, which a message leaves
unset, not the one of the stored policy.  And for a group the limit on the items of a policy group
is checked before the item of the group is looked for, so that nothing can be granted again once the
policy group is full; there `VerifyPolicy` panics, which writes a policy back with `PutPolicy`.
-/

import Moca.Permission.Decision

namespace Moca.Permission

open State Function

variable {s : State} {principal : Principal} {old : Policy} {t : ResourceType} {i : Uint}

/-- The policy `old` takes over the statements and the expiration time of `policy`: no policy and no
item comes or goes, no other policy changes, and the queue has the new time. -/
structure State.Replaced (s : State) (old policy : Policy) (s' : State) : Prop where
  keys : s'.policies.keys = s.policies.keys
  accounts : s'.accountPolicies = s.accountPolicies
  groups : s'.policyGroups = s.policyGroups
  others : ∀ id, id ≠ old.id → s'.getPolicyByID id = s.getPolicyByID id
  stored : s'.policyFor policy.resourceType policy.resourceId policy.principal =
    some (old.overriddenBy policy)
  queued : ∀ t id, s'.queued t id ↔ requeue s.queued old.id policy.expirationTime t id

/-- `PutPolicy` replaces the policy `old` and returns an id under which the new one is found. -/
def State.Regrants (s : State) (old policy : Policy) : Prop :=
  ∃ s' id, s.putPolicy policy = .ok (s', id) ∧ s.Replaced old policy s' ∧
    s'.getPolicyByID id = some (old.overriddenBy policy)

/-- The lookup by place reads the indexes and then the policy. -/
theorem State.policyFor_update {s' : State} (haccounts : s'.accountPolicies = s.accountPolicies)
    (hgroups : s'.policyGroups = s.policyGroups) {new : Policy} (hc : s.Coherent)
    (hpolicies : s'.getPolicyByID = Function.update s.getPolicyByID old.id (some new))
    (h : s.policyFor t i principal = some old) : s'.policyFor t i principal = some new := by
  have hupdated : ∀ id, s.getPolicyByID id = some old → s'.getPolicyByID id = some new := by
    intro id hid
    rw [hpolicies, ← hc.recorded.id_key id old hid, update_self]
  cases principal with
  | unspecified => cases h
  | account addr =>
    obtain ⟨key, id, hkey, hid, hold⟩ := getPolicyForAccount_eq_some.1 h
    exact getPolicyForAccount_eq_some.2 ⟨key, id, hkey, haccounts ▸ hid, hupdated id hold⟩
  | group g =>
    obtain ⟨key, items, item, hkey, hitems, hitem, hold⟩ := getPolicyForGroup_eq_some.1 h
    exact getPolicyForGroup_eq_some.2
      ⟨key, items, item, hkey, hgroups ▸ hitems, hitem, hupdated _ hold⟩

/-- The policy for a place is stored under its id. -/
theorem State.Coherent.getPolicyByID_of_policyFor (hc : s.Coherent)
    (h : s.policyFor t i principal = some old) : s.getPolicyByID old.id = some old := by
  cases principal with
  | unspecified => cases h
  | account addr =>
    obtain ⟨key, id, -, -, hold⟩ := getPolicyForAccount_eq_some.1 h
    rwa [hc.recorded.id_key id old hold]
  | group g =>
    obtain ⟨key, items, item, -, -, -, hold⟩ := getPolicyForGroup_eq_some.1 h
    rwa [hc.recorded.id_key _ old hold]

/-- **`updatePolicy` replaces one policy.** -/
theorem State.updatePolicy_regrants (hc : s.Coherent) {policy : Policy}
    (h : s.policyFor policy.resourceType policy.resourceId policy.principal = some old) :
    s.Replaced old policy (s.updatePolicy old policy) := by
  have hsame := s.updateQueue_sameIndexes old.id old.expirationTime policy.expirationTime
  have hpolicies := s.updatePolicy_getPolicyByID old policy
  have hold := hc.getPolicyByID_of_policyFor h
  refine ⟨?_, hsame.accountPolicies, hsame.policyGroups, ?_, ?_, ?_⟩
  · ext id
    simp only [SortedMap.mem_keys]
    show (∃ p, (s.updatePolicy old policy).getPolicyByID id = some p) ↔
      ∃ p, s.getPolicyByID id = some p
    rw [hpolicies, update_apply]
    split_ifs with hid
    · simp [hid, hold]
    · rfl
  · intro id hid
    rw [hpolicies, update_of_ne hid]
  · have haccounts : (s.updatePolicy old policy).accountPolicies = s.accountPolicies :=
      hsame.accountPolicies
    exact policyFor_update haccounts (s.updatePolicy_sameEntries old policy).policyGroups hc hpolicies h
  · exact queued_updateQueue policy.expirationTime (hc.queued_iff_of_find hold)

/-- **Granting again works exactly if** the policy comes with the id of the one it replaces and the
policy group, where the principal is a group, is not full.  The write-back of `VerifyPolicy` comes
with the id, so that only a full policy group stops it. -/
theorem putPolicy_regrants {params : Params} (h : s.Reached params) {policy old : Policy}
    (hold : s.policyFor policy.resourceType policy.resourceId policy.principal = some old) :
    (s.Regrants old policy ↔ policy.id = old.id ∧
      s.isFull policy.resourceType policy.resourceId policy.principal = false) ∧
    ∀ ctx action opts, old.effectFor ctx action opts = .allow →
      ((∃ s', s.writeBack ctx action (old.eval ctx action opts).2 = .ok s') ↔
        ¬(action = .createObject ∧ ctx.inTx = true ∧
          s.isFull old.resourceType old.resourceId old.principal = true ∧
          old.Limits ctx action opts)) := by
  have hc := h.coherent
  have hget := hc.getPolicyByID_of_policyFor hold
  refine ⟨?_, fun ctx action opts heffect => ?_⟩
  · rcases hfull : s.isFull policy.resourceType policy.resourceId policy.principal with _ | _
    · have hput := putPolicy_of_policyFor h.groupsOnce hold hfull
      have hpolicies := s.updatePolicy_getPolicyByID old policy
      simp only [and_true]
      constructor
      · rintro ⟨s', id, hs, hreplaced, hread⟩
        rw [hput] at hs
        cases hs
        by_contra hne
        -- a record that is not the updated one would have another id
        rw [hpolicies, update_of_ne hne] at hread
        exact hne (hc.recorded.id_key _ _ hread).symm
      · intro hid
        refine ⟨_, _, hput, updatePolicy_regrants hc hold, ?_⟩
        rw [hpolicies, hid, update_self]
        rfl
    · obtain ⟨e, he⟩ := putPolicy_of_isFull hfull
      simp only [Bool.true_eq_false, and_false, iff_false]
      rintro ⟨s', id, hs, -⟩
      rw [he] at hs
      cases hs
  · rcases writeBack_cases hc h.groupsOnce hget heffect with
      ⟨hrefused, e, he⟩ | ⟨hnot, s', hs', -⟩
    · refine iff_of_false ?_ (not_not.2 hrefused)
      rintro ⟨s', hs'⟩
      rw [he] at hs'
      cases hs'
    · exact iff_of_true ⟨s', hs'⟩ hnot

theorem sampleBucketId_lt : 300 < 2 ^ 256 := by norm_num

theorem sampleGroupId_lt : 7 < 2 ^ 256 := by norm_num

theorem samplePolicyId_lt : 1 < 2 ^ 256 := by norm_num

/-- The bucket of the samples. -/
def sampleBucketId : Uint := ⟨300, sampleBucketId_lt⟩

/-- The policy that `sampleOps` put for the account, with other statements. -/
def sampleGrant (id : Uint) : Policy :=
  { id, principal := .account zeroAddress, resourceType := .bucket, resourceId := sampleBucketId
    statements := [{ effect := .allow, actions := [.getObject] }] }

theorem putPolicy_regrants_sample : ∃ (s : State) (old : Policy), s.Reached {} ∧
    s.policyFor .bucket sampleBucketId (.account zeroAddress) = some old ∧
    s.Regrants old (sampleGrant old.id) := by
  obtain ⟨s, hs, old, hold, -⟩ : ∃ s, runSteps State.step (empty {}) sampleOps = some s ∧
      ∃ old, s.policyFor .bucket sampleBucketId (.account zeroAddress) = some old ∧ True := by
    decide +kernel
  have hreached : s.Reached {} := Reachable.of_runSteps .start (by decide +kernel) hs
  have hfor : s.policyFor (sampleGrant old.id).resourceType (sampleGrant old.id).resourceId
    (sampleGrant old.id).principal = some old := hold
  exact ⟨s, old, hreached, hold, (putPolicy_regrants hreached hfor).1.2 ⟨rfl, rfl⟩⟩

/-- A group may create objects of ten bytes in all, and the account is a member of it. -/
def sampleGroupGrant : Policy :=
  { principal := .group ⟨7, sampleGroupId_lt⟩, resourceType := .bucket
    resourceId := sampleBucketId
    statements := [{ effect := .allow, actions := [.createObject], limitSize := some 10 }] }

/-- Two grants that cannot be made again.  The id that comes back for the account is not that of a
policy.  And where a policy group has one item at most, the group is refused its own item, and
`VerifyPolicy` panics at the creation of an object of one byte. -/
theorem putPolicy_again_fails :
    (∃ s : State, s.Reached {} ∧
      (s.policyFor .bucket sampleBucketId (.account zeroAddress)).isSome = true ∧
      ∃ r, s.putPolicy (sampleGrant .zero) = .ok r ∧ r.2 = .zero ∧ r.1.getPolicyByID .zero = none) ∧
    ∃ s : State, s.Reached { maximumGroupNum := 1 } ∧
      (s.policyFor .bucket sampleBucketId sampleGroupGrant.principal).isSome = true ∧
      (s.putPolicy sampleGroupGrant).error? = some (.limitExceeded 1 1) ∧
      (s.verifyPolicy { blockTime := 0 } sampleBucketId .bucket zeroAddress .createObject
        (some { wantedSize := some 1 })).error? = some (.limitExceeded 1 1) := by
  constructor
  · exact Option.exists_and_of_some (o := runSteps State.step (empty {}) sampleOps)
      (fun s hs => Reachable.of_runSteps .start (by decide +kernel) hs) (by decide +kernel)
  · exact Option.exists_and_of_some (o := runSteps State.step (empty { maximumGroupNum := 1 })
        [.putPolicy sampleGroupGrant, .addGroupMember ⟨7, by decide⟩ zeroAddress none])
      (fun s hs => Reachable.of_runSteps .start (by decide +kernel) hs) (by decide +kernel)

end Moca.Permission
