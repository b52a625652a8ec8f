/-
# What the permission store held before

Only `PutPolicy` and `AddGroupMember` add something to the store: what it holds of policies, of
items, of keys and of group members after another operation was there before (`State.Within`).
The deletions of the keeper are chains of a few removals, each of them within the store.
-/

import Moca.Permission.Steps

namespace Moca.Permission

open SortedMap State

variable {s s₁ s' : State} {key : Bytes}

/-- What a state holds was there before. -/
structure State.Within (s s' : State) : Prop where
  items : ∀ k, (s'.items k).Sublist (s.items k)
  policies : ∀ id, s'.getPolicyByID id = none ∨ s'.getPolicyByID id = s.getPolicyByID id
  accounts : ∀ key, s'.accountPolicies.find? key = none ∨
    s'.accountPolicies.find? key = s.accountPolicies.find? key
  members : ∀ key, s'.groupMembers.find? key = none ∨
    s'.groupMembers.find? key = s.groupMembers.find? key

theorem find?_within_trans {α β : Type} {f f₁ f' : α → Option β}
    (h : ∀ k, f₁ k = none ∨ f₁ k = f k) (h' : ∀ k, f' k = none ∨ f' k = f₁ k) (k : α) :
    f' k = none ∨ f' k = f k := by
  rcases h' k with hk | hk
  · exact .inl hk
  · exact hk ▸ h k

theorem find?_erase_within {κ ν : Type} [LinearOrder κ] (m : SortedMap κ ν) (k k' : κ) :
    (m.erase k).find? k' = none ∨ (m.erase k).find? k' = m.find? k' := by
  rw [find?_erase]
  split_ifs
  · exact .inl rfl
  · exact .inr rfl

theorem State.Within.of_sameIndexes (h : s.SameIndexes s') : s.Within s' where
  items k := by rw [items_congr h.policyGroups]
  policies id := .inr (congrArg (fun m => SortedMap.find? m id) h.policies)
  accounts key := .inr (by rw [h.accountPolicies])
  members key := .inr (by rw [h.groupMembers])

theorem State.Within.refl (s : State) : s.Within s := .of_sameIndexes (.refl s)

theorem State.Within.trans (h : s.Within s₁) (h' : s₁.Within s') : s.Within s' where
  items k := (h'.items k).trans (h.items k)
  policies := find?_within_trans h.policies h'.policies
  accounts := find?_within_trans h.accounts h'.accounts
  members := find?_within_trans h.members h'.members

/-! ### Removals -/

theorem State.Within.erasePolicy (s : State) (id : Uint) :
    s.Within { s with policies := s.policies.erase id } :=
  ⟨fun _ => .refl _, find?_erase_within _ id, fun _ => .inr rfl, fun _ => .inr rfl⟩

theorem State.Within.eraseAccount (s : State) (key : Bytes) :
    s.Within { s with accountPolicies := s.accountPolicies.erase key } :=
  ⟨fun _ => .refl _, fun _ => .inr rfl, find?_erase_within _ key, fun _ => .inr rfl⟩

theorem State.Within.eraseMember (s : State) (key : Bytes) (byId : SortedMap Uint GroupMember) :
    s.Within { s with groupMembers := s.groupMembers.erase key, groupMembersById := byId } :=
  ⟨fun _ => .refl _, fun _ => .inr rfl, fun _ => .inr rfl, find?_erase_within _ key⟩

/-- The items of one policy group are cut down. -/
theorem State.Within.setPolicyGroup (key : Bytes) {l : List PolicyGroupItem}
    (h : l.Sublist (s.items key)) : s.Within (s.setPolicyGroup key l) := by
  refine ⟨fun k => ?_, fun id => .inr ?_, fun key' => .inr ?_, fun key' => .inr ?_⟩
  · rw [setPolicyGroup_items, Function.update_apply]
    split_ifs with hk
    · exact hk ▸ h
    · exact .refl _
  all_goals rcases l with _ | ⟨x, l⟩ <;> rfl

theorem State.deletePolicyByID_sameEntries (s : State) (id : Uint) :
    s.SameEntries (s.deletePolicyByID id) := by
  unfold deletePolicyByID
  split
  · exact ⟨rfl, rfl, rfl⟩
  next p _ =>
  have h := s.dequeue_sameIndexes p.expirationTime p.id
  exact ⟨h.accountPolicies, h.policyGroups, h.groupMembers⟩

theorem State.deletePolicyByID_within (s : State) (id : Uint) :
    s.Within (s.deletePolicyByID id) := by
  unfold deletePolicyByID
  split
  · exact .erasePolicy s id
  · exact (State.Within.of_sameIndexes (s.dequeue_sameIndexes _ _)).trans (.erasePolicy _ id)

/-! ### Operations -/

theorem State.deletePolicy_within {principal : Principal} {t : ResourceType} {i : Uint}
    {id : Option Uint} (hs : s.deletePolicy principal t i = .ok (s', id)) : s.Within s' := by
  unfold State.deletePolicy at hs
  split at hs
  · split at hs
    · cases hs
    next key _ =>
    split at hs
    · cases hs
      exact .refl s
    · cases hs
      exact ((State.Within.eraseAccount s key).trans (.erasePolicy _ _)).trans
        (.of_sameIndexes (dequeue_sameIndexes _ _ _))
  · split at hs
    · cases hs
    next key _ =>
    split at hs
    · cases hs
      exact .refl s
    next items hitems =>
    have hl : s.items key = items := by simp [State.items, hitems]
    split at hs
    · cases hs
      exact .refl s
    next item _ =>
    cases hs
    refine (s.deletePolicyByID_within item.policyId).trans (.setPolicyGroup key ?_)
    rw [items_congr (s.deletePolicyByID_sameEntries item.policyId).policyGroups, hl]
    exact List.eraseP_sublist
  · cases hs

theorem State.forceDeleteAccountPolicyForResource_within (s : State) (maxDelete deletedTotal : ℕ)
    (t : ResourceType) (i : Uint) :
    s.Within (s.forceDeleteAccountPolicyForResource maxDelete deletedTotal t i).1 := by
  unfold State.forceDeleteAccountPolicyForResource
  split
  · exact .refl s
  · refine deleteUpTo_invariant s.Within (fun s₁ e _ h => h.trans ?_) (.refl s)
    exact (s₁.deletePolicyByID_within e.2).trans (.eraseAccount _ e.1)

theorem State.forceDeleteGroupMembers_within (s : State) (maxDelete deletedTotal : ℕ) (g : Uint) :
    s.Within (s.forceDeleteGroupMembers maxDelete deletedTotal g).1 :=
  deleteUpTo_invariant s.Within (fun s₁ e _ h => h.trans (.eraseMember s₁ e.1 _)) (.refl s)

theorem State.deleteGroupPolicies_within (maxDelete : ℕ) (key : Bytes)
    (l : List PolicyGroupItem) (s : State) (deletedTotal : ℕ) (h : l.Sublist (s.items key)) :
    s.Within (State.deleteGroupPolicies maxDelete key l s deletedTotal).1 := by
  induction l generalizing s deletedTotal with
  | nil => exact State.Within.setPolicyGroup key (List.nil_sublist _)
  | cons item l ih =>
    unfold State.deleteGroupPolicies
    split_ifs
    · exact State.Within.setPolicyGroup key h
    · refine (s.deletePolicyByID_within item.policyId).trans (ih _ _ ?_)
      rw [items_congr (s.deletePolicyByID_sameEntries item.policyId).policyGroups]
      exact (List.sublist_cons_self item l).trans h

theorem State.forceDeleteGroupPolicyForResource_within (s : State) (maxDelete deletedTotal : ℕ)
    (t : ResourceType) (i : Uint) :
    s.Within (s.forceDeleteGroupPolicyForResource maxDelete deletedTotal t i).1 := by
  unfold State.forceDeleteGroupPolicyForResource
  split
  · exact .refl s
  · split
    · exact .refl s
    next items hitems =>
    refine deleteGroupPolicies_within _ _ _ _ _ ?_
    simp [State.items, hitems]

theorem State.removeExpiredPolicy_within {key : QueueKey}
    (hs : s.removeExpiredPolicy key = .ok s') : s.Within s' := by
  unfold State.removeExpiredPolicy at hs
  split at hs
  · cases hs
  next id _ =>
  split at hs
  · cases hs
  have hrecord : s.Within
      { s with policyQueue := s.policyQueue.erase key, policies := s.policies.erase id } :=
    (State.Within.erasePolicy s id).trans (.of_sameIndexes ⟨⟨rfl, rfl, rfl⟩, rfl, rfl⟩)
  dsimp only at hs
  split at hs
  · split at hs
    · cases hs
    · cases hs
      exact hrecord.trans (.eraseAccount _ _)
  · split at hs
    · cases hs
    next key _ =>
    split at hs
    · cases hs
      exact hrecord
    next items hitems =>
    cases hs
    refine hrecord.trans (.setPolicyGroup key ?_)
    simp [State.items, hitems, List.eraseP_sublist]
  · cases hs
    exact hrecord

/-- **An operation does nothing but put a policy, add a group member, or remove things.** -/
theorem State.exec_cases {op : Op} (hs : s.exec op = .ok s') :
    (∃ policy id, op = .putPolicy policy ∧ s.putPolicy policy = .ok (s', id)) ∨
    (∃ g member expiration, op = .addGroupMember g member expiration ∧
      s.addGroupMember g member expiration = .ok s') ∨ s.Within s' := by
  cases op with
  | putPolicy policy =>
    simp only [exec, bind_eq_ok, pure_eq_ok] at hs
    obtain ⟨⟨s₁, id⟩, hput, rfl⟩ := hs
    exact .inl ⟨policy, id, rfl, hput⟩
  | addGroupMember g member expiration => exact .inr (.inl ⟨g, member, expiration, rfl, hs⟩)
  | deletePolicy principal t i =>
    simp only [exec, bind_eq_ok, pure_eq_ok] at hs
    obtain ⟨⟨s₁, id⟩, hdelete, rfl⟩ := hs
    exact .inr (.inr (deletePolicy_within hdelete))
  | forceDeleteAccountPolicyForResource maxDelete deletedTotal t i =>
    cases hs
    exact .inr (.inr (s.forceDeleteAccountPolicyForResource_within _ _ _ _))
  | forceDeleteGroupPolicyForResource maxDelete deletedTotal t i =>
    cases hs
    exact .inr (.inr (s.forceDeleteGroupPolicyForResource_within _ _ _ _))
  | forceDeleteGroupMembers maxDelete deletedTotal g =>
    cases hs
    exact .inr (.inr (s.forceDeleteGroupMembers_within _ _ _))
  | removeExpiredPolicies blockTime =>
    exact .inr (.inr (foldlM_invariant s.Within
      (fun _ _ _ _ h hstep => h.trans (removeExpiredPolicy_within hstep)) (.refl s) hs))
  | updateGroupMember g member memberId expiration =>
    cases hs
    exact .inr (.inr (.of_sameIndexes ⟨⟨rfl, rfl, rfl⟩, rfl, rfl⟩))
  | removeGroupMember g member =>
    simp only [exec, removeGroupMember] at hs
    split at hs
    · cases hs
    · cases hs
      exact .inr (.inr (.eraseMember s _ _))
  | setParams params =>
    simp only [exec, setParams] at hs
    split_ifs at hs
    cases hs
    exact .inr (.inr (.of_sameIndexes ⟨⟨rfl, rfl, rfl⟩, rfl, rfl⟩))

end Moca.Permission
