/-
# Permission decisions

`types/types.go` (`Policy.Eval`, `Statement.Eval`) and `x/storage/keeper/permission.go`.  An
operation on a resource is allowed to its owner, to everyone where the resource is public and the
operation only reads, and otherwise by the policies on the resource: first the one for the account,
then those for its groups.

A statement may limit the bytes of the objects that are created under it.  What is left of the
limit is part of the statement, so that a decision to allow a creation writes the policy back,
unless it is only a query.  An error of a decision stands for a panic.
-/

import Moca.Lib.RegexpSyntax
import Moca.Permission.Keeper

namespace Moca.Permission

/-! ### Statements and policies -/

/-- `VerifyOptions`. -/
structure VerifyOptions where
  resource : String := ""
  wantedSize : Option ℕ := none
  deriving DecidableEq, Repr

/-- What a decision reads from its `sdk.Context` and from `x/storage`. -/
structure Ctx where
  blockTime : ℤ
  /-- `ctx.TxBytes() != nil`: the context of a transaction. -/
  inTx : Bool := true
  /-- `hasGroup`. -/
  hasGroup : Uint → Bool := fun _ => true
  /-- The tables of Unicode that a regular expression refers to. -/
  unicode : Regexp.Unicode := {}

variable (ctx : Ctx) (s : State) (resourceId : Uint) (resourceType : ResourceType)
  (operator : AccAddress) (action : ActionType) (opts : Option VerifyOptions)

/-- An expiration time is set and before the block time. -/
def isExpired (blockTime : ℤ) (exp : Option ℤ) : Bool := exp.any fun t => decide (t < blockTime)

/-- The checks of `Statement.Eval` on the resources of a statement: they matter where the options
name a sub-resource.  A resource is a regular expression, which was compiled when the policy was
put. -/
def Statement.coversResource (st : Statement) (opts : Option VerifyOptions) : Bool :=
  match opts with
  | none => true
  | some o =>
    decide (o.resource = "") || st.resources.any fun pattern =>
      Regexp.matchString ctx.unicode pattern.toList o.resource.toList

/-- An action of the statement is the action asked for, or stands for all of them. -/
def Statement.coversAction (st : Statement) (action : ActionType) : Bool :=
  st.actions.any fun act => decide (act = action ∨ act = .typeAll)

/-- The limit of a statement and the size asked for, where the statement limits the action. -/
def Statement.limitOn (st : Statement) (action : ActionType) (opts : Option VerifyOptions) :
    Option (ℕ × ℕ) :=
  if action = .createObject then
    st.limitSize.bind fun limit => (opts.bind VerifyOptions.wantedSize).map fun wanted =>
      (limit, wanted)
  else none

/-- `Statement.Eval`: the effect, and the statement with what is left of its limit. -/
def Statement.eval (st : Statement) (action : ActionType) (opts : Option VerifyOptions) :
    Effect × Option Statement :=
  if st.coversResource ctx opts = false ∨ st.coversAction action = false then (.unspecified, none)
  else if st.effect = .deny then (.deny, none)
  else
    match st.limitOn action opts with
    | some (limit, wanted) =>
      if wanted ≤ limit then (.allow, some { st with limitSize := some (limit - wanted) })
      else (.deny, none)
    | none => (st.effect, none)

/-- The loop of `Policy.Eval`: whether a statement allows, whether one is updated, and the
statements; none where one denies. -/
def evalStatements (ctx : Ctx) (action : ActionType) (opts : Option VerifyOptions) :
    List Statement → Bool → Bool → List Statement → Option (Bool × Bool × List Statement)
  | [], allowed, updated, done => some (allowed, updated, done)
  | st :: rest, allowed, updated, done =>
    if isExpired ctx.blockTime st.expirationTime then
      evalStatements ctx action opts rest allowed updated (done ++ [st])
    else
      match st.eval ctx action opts with
      | (.deny, _) => none
      | (.allow, st') =>
        evalStatements ctx action opts rest true (updated || st'.isSome) (done ++ [st'.getD st])
      | (.unspecified, st') =>
        evalStatements ctx action opts rest allowed (updated || st'.isSome) (done ++ [st'.getD st])

/-- `Policy.Eval`: the effect, and the policy if its statements were updated. -/
def Policy.eval (p : Policy) (action : ActionType) (opts : Option VerifyOptions) :
    Effect × Option Policy :=
  if isExpired ctx.blockTime p.expirationTime then (.unspecified, none)
  else
    match evalStatements ctx action opts p.statements false false [] with
    | none => (.deny, none)
    | some (false, _, _) => (.unspecified, none)
    | some (true, updated, statements) =>
      (.allow, if updated then some { p with statements } else none)

/-! ### Policies on a resource -/

/-- The operator is a member of the group, and the membership has not expired. -/
def State.isMember (groupId : Uint) (operator : AccAddress) : Bool :=
  (s.getGroupMember groupId operator).any fun member =>
    member.expirationTime.all fun t => decide (ctx.blockTime < t)

/-- The loop of `VerifyPolicy` over the groups that have a policy on the resource.  The policy to
write back is that of the last group that allows. -/
def State.evalGroups (ctx : Ctx) (s : State) (operator : AccAddress) (action : ActionType)
    (opts : Option VerifyOptions) :
    List PolicyGroupItem → Effect × Option Policy → Except Error (Effect × Option Policy)
  | [], acc => .ok acc
  | item :: rest, acc =>
    if ctx.hasGroup item.groupId then do
      let p ← s.mustGetPolicyByID item.policyId
      match p.eval ctx action opts, s.isMember ctx item.groupId operator with
      | (.deny, _), true => return (.deny, none)
      | (.allow, newPolicy), true =>
        State.evalGroups ctx s operator action opts rest (.allow, newPolicy)
      | _, _ => State.evalGroups ctx s operator action opts rest acc
    else State.evalGroups ctx s operator action opts rest acc

/-- The write-back of a policy whose limits were used: `PutPolicy` must not fail. -/
def State.writeBack (newPolicy : Option Policy) : Except Error State :=
  match newPolicy with
  | none => .ok s
  | some p =>
    if action = .createObject ∧ ctx.inTx then do
      let (s, _) ← s.putPolicy p
      return s
    else .ok s

/-- The part of `VerifyPolicy` after the policy for the account. -/
def State.verifyGroupPolicies : Except Error (State × Effect) :=
  match getPolicyForGroupKey resourceId resourceType with
  | none => .error .invalidResourceType
  | some policyGroupKey =>
    match s.policyGroups.find? policyGroupKey with
    | none => .ok (s, .unspecified)
    | some items => do
      let (effect, newPolicy) ← s.evalGroups ctx operator action opts items (.unspecified, none)
      let s ← s.writeBack ctx action newPolicy
      return (s, effect)

/-- The policy for the account, as far as it decides. -/
def State.evalAccount : Effect × Option Policy :=
  match s.getPolicyForAccount resourceId resourceType operator with
  | none => (.unspecified, none)
  | some p => p.eval ctx action opts

/-- `VerifyPolicy`. -/
def State.verifyPolicy : Except Error (State × Effect) :=
  if getPolicyForAccountKey resourceId resourceType operator = none then
    .error .invalidResourceType
  else
    match s.evalAccount ctx resourceId resourceType operator action opts with
    | (.allow, newPolicy) => do
      let s ← s.writeBack ctx action newPolicy
      return (s, .allow)
    | (.deny, _) => .ok (s, .deny)
    | (.unspecified, _) => s.verifyGroupPolicies ctx resourceId resourceType operator action opts

/-! ### Resources -/

/-- `VisibilityType`. -/
inductive Visibility
  | unspecified
  | publicRead
  | privateType
  | inherit
  deriving DecidableEq, Repr

/-- `PublicReadBucketAllowedActions`. -/
def publicReadBucketAllowedActions : Bool :=
  decide (action ∈ [.getObject, .copyObject, .executeObject, .listObject])

/-- `PublicReadObjectAllowedActions`. -/
def publicReadObjectAllowedActions : Bool :=
  decide (action ∈ [.getObject, .copyObject, .executeObject])

/-- What a decision reads from the record of a bucket. -/
structure Bucket where
  id : Uint
  owner : AccAddress
  visibility : Visibility := .privateType
  deriving DecidableEq

/-- What a decision reads from the record of an object; `grn` is its resource name. -/
structure Object where
  id : Uint
  owner : AccAddress
  visibility : Visibility := .inherit
  grn : String
  deriving DecidableEq

/-- `VerifyBucketPermission`; an operator that is none is anonymous. -/
def State.verifyBucketPermission (bucket : Bucket) (operator : Option AccAddress)
    (action : ActionType) (options : Option VerifyOptions) : Except Error (State × Effect) :=
  if bucket.visibility = .publicRead ∧ publicReadBucketAllowedActions action then .ok (s, .allow)
  else
    match operator with
    | none => .ok (s, .deny)
    | some operator =>
      if operator = bucket.owner then .ok (s, .allow)
      else do
        let (s, effect) ← s.verifyPolicy ctx bucket.id .bucket operator action options
        return (s, if effect = .allow then .allow else .deny)

/-- The visibility of an object opens it to everyone. -/
def Object.isPublic (object : Object) (bucket : Bucket) : Bool :=
  decide (object.visibility = .publicRead ∨
    (object.visibility = .inherit ∧ bucket.visibility = .publicRead))

/-- `VerifyObjectPermission`. -/
def State.verifyObjectPermission (bucket : Bucket) (object : Object) (operator : Option AccAddress)
    (action : ActionType) : Except Error (State × Effect) :=
  if object.isPublic bucket ∧ publicReadObjectAllowedActions action then .ok (s, .allow)
  else
    match operator with
    | none => .ok (s, .deny)
    | some operator =>
      if operator = object.owner then .ok (s, .allow)
      else do
        let opts : VerifyOptions := { resource := object.grn }
        let (s, bucketEffect) ← s.verifyPolicy ctx bucket.id .bucket operator action (some opts)
        if bucketEffect = .deny then return (s, .deny)
        else do
          let (s, objectEffect) ← s.verifyPolicy ctx object.id .object operator action none
          if objectEffect = .deny then return (s, .deny)
          else return (s, if bucketEffect = .allow ∨ objectEffect = .allow then .allow else .deny)

end Moca.Permission
