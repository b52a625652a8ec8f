/-
# The keeper of `x/permission`

`keeper/keeper.go` and the end of a block.  Iterators run over a snapshot of the store, so that
what a loop deletes does not change what it visits.  A failed operation is rolled back.
-/

import Moca.Permission.Types

namespace Moca.Permission

/-! ### Group members -/

variable (s : State)

/-- `AddGroupMember`. -/
def State.addGroupMember (groupId : Uint) (member : AccAddress) (expiration : Option ℤ) :
    Except Error State :=
  let memberKey := getGroupMemberKey groupId member
  if s.groupMembers.contains memberKey then .error .groupMemberAlreadyExists
  else
    match s.groupMemberSequence.incr with
    | none => .error .uintOverflow
    | some id =>
      .ok { s with
        groupMemberSequence := id
        groupMembers := s.groupMembers.insert memberKey id
        groupMembersById := s.groupMembersById.insert id ⟨groupId, member, expiration⟩ }

/-- `UpdateGroupMember`. -/
def State.updateGroupMember (groupId : Uint) (member : AccAddress) (memberId : Uint)
    (expiration : Option ℤ) : State :=
  { s with groupMembersById := s.groupMembersById.insert memberId ⟨groupId, member, expiration⟩ }

/-- `RemoveGroupMember`. -/
def State.removeGroupMember (groupId : Uint) (member : AccAddress) : Except Error State :=
  let memberKey := getGroupMemberKey groupId member
  match s.groupMembers.find? memberKey with
  | none => .error .noSuchGroupMember
  | some id =>
    .ok { s with
      groupMembers := s.groupMembers.erase memberKey
      groupMembersById := s.groupMembersById.erase id }

/-- `GetGroupMemberByID`. -/
def State.getGroupMemberByID (groupMemberId : Uint) : Option GroupMember :=
  s.groupMembersById.find? groupMemberId

/-- `GetGroupMember`. -/
def State.getGroupMember (groupId : Uint) (member : AccAddress) : Option GroupMember :=
  (s.groupMembers.find? (getGroupMemberKey groupId member)).bind s.getGroupMemberByID

/-! ### Lookups -/

/-- `GetPolicyByID`. -/
def State.getPolicyByID (policyId : Uint) : Option Policy := s.policies.find? policyId

/-- `MustGetPolicyByID`. -/
def State.mustGetPolicyByID (policyId : Uint) : Except Error Policy :=
  match s.getPolicyByID policyId with
  | none => .error (.policyNotFound policyId)
  | some policy => .ok policy

/-- `GetPolicyForAccount`. -/
def State.getPolicyForAccount (resourceId : Uint) (resourceType : ResourceType) (addr : AccAddress) :
    Option Policy :=
  ((getPolicyForAccountKey resourceId resourceType addr).bind s.accountPolicies.find?).bind
    s.getPolicyByID

/-- `GetPolicyGroupForResource`. -/
def State.getPolicyGroupForResource (resourceId : Uint) (resourceType : ResourceType) :
    Option (List PolicyGroupItem) :=
  (getPolicyForGroupKey resourceId resourceType).bind s.policyGroups.find?

/-- `GetPolicyForGroup`. -/
def State.getPolicyForGroup (resourceId : Uint) (resourceType : ResourceType) (groupId : Uint) :
    Option Policy :=
  match s.getPolicyGroupForResource resourceId resourceType with
  | none => none
  | some items =>
    (items.find? fun item => decide (item.groupId = groupId)).bind fun item =>
      s.getPolicyByID item.policyId

/-! ### Writing policies -/

/-- The entry of the queue for a policy that expires. -/
def State.enqueue (exp : Option ℤ) (policyId : Uint) : State :=
  match exp with
  | none => s
  | some t =>
    { s with policyQueue := s.policyQueue.insert (policyPrefixQueue t policyId.bytes) () }

/-- Without the entry of the queue for a policy that expires. -/
def State.dequeue (exp : Option ℤ) (policyId : Uint) : State :=
  match exp with
  | none => s
  | some t => { s with policyQueue := s.policyQueue.erase (policyPrefixQueue t policyId.bytes) }

/-- The switch of `updatePolicy` over the old and the new expiration time. -/
def State.updateQueue (policyId : Uint) : Option ℤ → Option ℤ → State
  | none, some t => s.enqueue (some t) policyId
  | some t, none => s.dequeue (some t) policyId
  | some t, some t' =>
    if t = t' then s else (s.dequeue (some t) policyId).enqueue (some t') policyId
  | none, none => s

/-- `updatePolicy`. -/
def State.updatePolicy (policy newPolicy : Policy) : State :=
  let s := s.updateQueue policy.id policy.expirationTime newPolicy.expirationTime
  let policy :=
    { policy with
      statements := newPolicy.statements
      expirationTime := newPolicy.expirationTime }
  { s with policies := s.policies.insert policy.id policy }

/-- The next id of `policySeq`, and the record of a new policy with its entry of the queue. -/
def State.storeNew (policy : Policy) : Except Error (State × Uint) :=
  match s.policySequence.incr with
  | none => .error .uintOverflow
  | some id =>
    let s := { s with policySequence := id, policies := s.policies.insert id { policy with id } }
    .ok (s.enqueue policy.expirationTime id, id)

/-- `PutPolicy` for an account. -/
def State.putAccountPolicy (policy : Policy) (policyKey : Bytes) : Except Error (State × Uint) :=
  match s.accountPolicies.find? policyKey with
  | some id => do
    -- override write
    let old ← s.mustGetPolicyByID id
    return (s.updatePolicy old policy, policy.id)
  | none => do
    let (s, id) ← s.storeNew policy
    return ({ s with accountPolicies := s.accountPolicies.insert policyKey id }, id)

/-- The override write of `PutPolicy` for an item of a policy group. -/
def State.overridePolicy (policy : Policy) (s : State) (item : PolicyGroupItem) :
    Except Error State := do
  let old ← s.mustGetPolicyByID item.policyId
  return s.updatePolicy old policy

/-- `PutPolicy` for a group: the items of the resource's policy group, if it has one. -/
def State.putGroupPolicy (policy : Policy) (groupId : Uint) (policyGroupKey : Bytes) :
    Option (List PolicyGroupItem) → Except Error (State × Uint)
  | some items =>
    if s.params.maximumGroupNum ≤ items.length then
      .error (.limitExceeded s.params.maximumGroupNum items.length)
    else
      match items.filter fun item => decide (item.groupId = groupId) with
      | [] => do
        let (s, id) ← s.storeNew policy
        return ({ s with
          policyGroups := s.policyGroups.insert policyGroupKey (items ++ [⟨id, groupId⟩]) }, id)
      | found => do
        let s ← found.foldlM (State.overridePolicy policy) s
        return (s, policy.id)
  | none => do
    let (s, id) ← s.storeNew policy
    return ({ s with policyGroups := s.policyGroups.insert policyGroupKey [⟨id, groupId⟩] }, id)

/-- `PutPolicy`. -/
def State.putPolicy (policy : Policy) : Except Error (State × Uint) :=
  match policy.principal with
  | .account addr =>
    match getPolicyForAccountKey policy.resourceId policy.resourceType addr with
    | none => .error .invalidResourceType
    | some policyKey => s.putAccountPolicy policy policyKey
  | .group groupId =>
    match getPolicyForGroupKey policy.resourceId policy.resourceType with
    | none => .error .invalidResourceType
    | some policyGroupKey =>
      s.putGroupPolicy policy groupId policyGroupKey (s.policyGroups.find? policyGroupKey)
  | .unspecified => .error .invalidPrincipal

/-! ### Deleting policies -/

/-- Write back the items of a policy group; a group without items is deleted. -/
def State.setPolicyGroup (policyGroupKey : Bytes) (items : List PolicyGroupItem) : State :=
  match items with
  | [] => { s with policyGroups := s.policyGroups.erase policyGroupKey }
  | items => { s with policyGroups := s.policyGroups.insert policyGroupKey items }

/-- Delete the policy with an id, and its entry of the queue. -/
def State.deletePolicyByID (policyId : Uint) : State :=
  let s :=
    match s.getPolicyByID policyId with
    | none => s
    | some policy => s.dequeue policy.expirationTime policy.id
  { s with policies := s.policies.erase policyId }

/-- `DeletePolicy`, with the id of the deleted policy. -/
def State.deletePolicy (principal : Principal) (resourceType : ResourceType) (resourceId : Uint) :
    Except Error (State × Option Uint) :=
  match principal with
  | .account addr =>
    match getPolicyForAccountKey resourceId resourceType addr with
    | none => .error .invalidResourceType
    | some policyKey =>
      match s.getPolicyForAccount resourceId resourceType addr with
      | none => .ok (s, none)
      | some policy =>
        let s :=
          { s with
            accountPolicies := s.accountPolicies.erase policyKey
            policies := s.policies.erase policy.id }
        .ok (s.dequeue policy.expirationTime policy.id, some policy.id)
  | .group groupId =>
    match getPolicyForGroupKey resourceId resourceType with
    | none => .error .invalidResourceType
    | some policyGroupKey =>
      match s.policyGroups.find? policyGroupKey with
      | none => .ok (s, none)
      | some items =>
        match items.find? fun item => decide (item.groupId = groupId) with
        | none => .ok (s, none)
        | some item =>
          -- only one should be deleted
          let items := items.eraseP fun item => decide (item.groupId = groupId)
          .ok ((s.deletePolicyByID item.policyId).setPolicyGroup policyGroupKey items,
            some item.policyId)
  | .unspecified => .error .invalidPrincipal

/-- The loop of `ForceDeleteAccountPolicyForResource` and `ForceDeleteGroupMembers` over the
entries with a prefix: the number deleted, and whether all are. -/
def deleteUpTo {α : Type} (maxDelete : ℕ) (delete : State → α → State) :
    List α → State → ℕ → State × ℕ × Bool
  | [], s, deletedTotal => (s, deletedTotal, true)
  | e :: rest, s, deletedTotal =>
    -- if exceeding the limit, the deletion for the resource is not complete yet
    if maxDelete ≤ deletedTotal then (s, deletedTotal, false)
    else deleteUpTo maxDelete delete rest (delete s e) (deletedTotal + 1)

/-- Delete a policy and its key of the account index. -/
def State.deleteAccountPolicy (e : Bytes × Uint) : State :=
  let s := s.deletePolicyByID e.2
  { s with accountPolicies := s.accountPolicies.erase e.1 }

/-- `ForceDeleteAccountPolicyForResource`. -/
def State.forceDeleteAccountPolicyForResource (maxDelete deletedTotal : ℕ)
    (resourceType : ResourceType) (resourceId : Uint) : State × ℕ × Bool :=
  match policyForAccountPrefix resourceId resourceType with
  -- `RESOURCE_TYPE_UNSPECIFIED`
  | none => (s, deletedTotal, true)
  | some key =>
    deleteUpTo maxDelete State.deleteAccountPolicy
      (s.accountPolicies.entries.filter fun e => key.isPrefixOf e.1) s deletedTotal

/-- The loop of `ForceDeleteGroupPolicyForResource` over the items of a policy group. -/
def State.deleteGroupPolicies (maxDelete : ℕ) (policyForGroupKey : Bytes) :
    List PolicyGroupItem → State → ℕ → State × ℕ × Bool
  | [], s, deletedTotal =>
    ({ s with policyGroups := s.policyGroups.erase policyForGroupKey }, deletedTotal, true)
  | item :: rest, s, deletedTotal =>
    if maxDelete ≤ deletedTotal then
      ({ s with policyGroups := s.policyGroups.insert policyForGroupKey (item :: rest) },
        deletedTotal, false)
    else
      State.deleteGroupPolicies maxDelete policyForGroupKey rest (s.deletePolicyByID item.policyId)
        (deletedTotal + 1)

/-- `ForceDeleteGroupPolicyForResource`. -/
def State.forceDeleteGroupPolicyForResource (maxDelete deletedTotal : ℕ)
    (resourceType : ResourceType) (resourceId : Uint) : State × ℕ × Bool :=
  match getPolicyForGroupKey resourceId resourceType with
  -- `RESOURCE_TYPE_UNSPECIFIED` and `RESOURCE_TYPE_GROUP`
  | none => (s, deletedTotal, true)
  | some policyForGroupKey =>
    match s.policyGroups.find? policyForGroupKey with
    | none => (s, deletedTotal, true)
    | some items => State.deleteGroupPolicies maxDelete policyForGroupKey items s deletedTotal

/-- Delete a group member by both of its keys. -/
def State.deleteGroupMember (e : Bytes × Uint) : State :=
  { s with
    groupMembersById := s.groupMembersById.erase e.2
    groupMembers := s.groupMembers.erase e.1 }

/-- `ForceDeleteGroupMembers`. -/
def State.forceDeleteGroupMembers (maxDelete deletedTotal : ℕ) (groupId : Uint) :
    State × ℕ × Bool :=
  deleteUpTo maxDelete State.deleteGroupMember
    (s.groupMembers.entries.filter fun e => (groupMembersPrefix groupId).isPrefixOf e.1)
    s deletedTotal

/-- `ExistAccountPolicyForResource`. -/
def State.existAccountPolicyForResource (resourceType : ResourceType) (resourceId : Uint) : Bool :=
  match policyForAccountPrefix resourceId resourceType with
  | none => false
  | some key => s.accountPolicies.entries.any fun e => key.isPrefixOf e.1

/-- `ExistGroupPolicyForResource`. -/
def State.existGroupPolicyForResource (resourceType : ResourceType) (resourceId : Uint) : Bool :=
  match getPolicyForGroupKey resourceId resourceType with
  | none => false
  | some key => s.policyGroups.contains key

/-- `ExistGroupMemberForGroup`. -/
def State.existGroupMemberForGroup (groupId : Uint) : Bool :=
  s.groupMembers.entries.any fun e => (groupMembersPrefix groupId).isPrefixOf e.1

/-! ### Expired policies -/

/-- One round of the loop of `RemoveExpiredPolicies`. -/
def State.removeExpiredPolicy (key : QueueKey) : Except Error State :=
  match parsePolicyIDFromQueueKey key with
  | none => .error .uintOverflow
  | some policyId =>
    match s.policies.find? policyId with
    | none => .error (.policyNotFound policyId)
    | some policy =>
      let s :=
        { s with
          policyQueue := s.policyQueue.erase key
          policies := s.policies.erase policyId }
      match policy.principal with
      | .account addr =>
        match getPolicyForAccountKey policy.resourceId policy.resourceType addr with
        | none => .error .invalidResourceType
        | some policyKey => .ok { s with accountPolicies := s.accountPolicies.erase policyKey }
      | .group _ =>
        match getPolicyForGroupKey policy.resourceId policy.resourceType with
        | none => .error .invalidResourceType
        | some policyGroupKey =>
          match s.policyGroups.find? policyGroupKey with
          | none => .ok s
          | some items =>
            .ok (s.setPolicyGroup policyGroupKey
              (items.eraseP fun item => decide (item.policyId = policyId)))
      | .unspecified => .ok s

/-- The keys `RemoveExpiredPolicies` visits.  The end of the range is the key of the block time
with one zero byte, which is before the bytes of every id but zero. -/
def State.expiredKeys (blockTime : ℤ) : List QueueKey :=
  ((s.policyQueue.entries.map Prod.fst).filter fun key =>
    decide (key < policyPrefixQueue blockTime [Bytes.zero])).take
      s.params.maximumRemoveExpiredPoliciesIteration

/-- `RemoveExpiredPolicies`. -/
def State.removeExpiredPolicies (blockTime : ℤ) : Except Error State :=
  (s.expiredKeys blockTime).foldlM State.removeExpiredPolicy s

/-! ### Runs -/

/-- `SetParams`. -/
def State.setParams (params : Params) : Except Error State :=
  if params.validate then .ok { s with params } else .error .invalidParams

/-- The operations of the keeper. -/
inductive Op
  | putPolicy (policy : Policy)
  | deletePolicy (principal : Principal) (resourceType : ResourceType) (resourceId : Uint)
  | forceDeleteAccountPolicyForResource (maxDelete deletedTotal : ℕ) (resourceType : ResourceType)
      (resourceId : Uint)
  | forceDeleteGroupPolicyForResource (maxDelete deletedTotal : ℕ) (resourceType : ResourceType)
      (resourceId : Uint)
  | forceDeleteGroupMembers (maxDelete deletedTotal : ℕ) (groupId : Uint)
  | removeExpiredPolicies (blockTime : ℤ)
  | addGroupMember (groupId : Uint) (member : AccAddress) (expiration : Option ℤ)
  | updateGroupMember (groupId : Uint) (member : AccAddress) (memberId : Uint)
      (expiration : Option ℤ)
  | removeGroupMember (groupId : Uint) (member : AccAddress)
  | setParams (params : Params)

/-- What an operation does. -/
def State.exec : Op → Except Error State
  | .putPolicy policy => do
    let (s, _) ← s.putPolicy policy
    return s
  | .deletePolicy principal resourceType resourceId => do
    let (s, _) ← s.deletePolicy principal resourceType resourceId
    return s
  | .forceDeleteAccountPolicyForResource maxDelete deletedTotal resourceType resourceId =>
    .ok (s.forceDeleteAccountPolicyForResource maxDelete deletedTotal resourceType resourceId).1
  | .forceDeleteGroupPolicyForResource maxDelete deletedTotal resourceType resourceId =>
    .ok (s.forceDeleteGroupPolicyForResource maxDelete deletedTotal resourceType resourceId).1
  | .forceDeleteGroupMembers maxDelete deletedTotal groupId =>
    .ok (s.forceDeleteGroupMembers maxDelete deletedTotal groupId).1
  | .removeExpiredPolicies blockTime => s.removeExpiredPolicies blockTime
  | .addGroupMember groupId member expiration => s.addGroupMember groupId member expiration
  | .updateGroupMember groupId member memberId expiration =>
    .ok (s.updateGroupMember groupId member memberId expiration)
  | .removeGroupMember groupId member => s.removeGroupMember groupId member
  | .setParams params => s.setParams params

/-- An operation as a step of a run. -/
def State.step (op : Op) : Option State := (s.exec op).toOption

end Moca.Permission
