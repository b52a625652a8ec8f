/-
# Permissions: the data of `x/permission`

`types/types.pb.go`, `types/common.go`, `types/keys.go`, `types/params.go` and
`internal/sequence`.  A policy grants one principal, an account or a group, something on one
resource.  It is stored under its id and found by one of two indexes:

    accounts  | type | length | resource id | address |  ->  policy id
    groups    | type | resource id |                     ->  the items of a policy group

The type is one byte that stands for the resource type and the kind of the principal, the
resource id is in big-endian bytes without leading zeros, and its length is one byte that is
left out, with the id, where the id is zero.  A policy with an expiration time is also in a
queue, under the time and the bytes of its id.

A principal is what its text stands for: a text that is no address and no number makes the
functions below panic before they write anything.
-/

import Moca.Lib.Bytes
import Moca.Lib.SortedMap
import Moca.Lib.Run
import Mathlib.Data.Prod.Lex
import Mathlib.Data.Vector.Basic

namespace Moca.Permission

/-! ### Numbers and addresses -/

/-- `math.Uint`. -/
structure Uint where
  toNat : ℕ
  lt_two_pow : toNat < 2 ^ 256
  deriving DecidableEq, Repr

theorem Uint.toNat_injective : Function.Injective Uint.toNat := by
  rintro ⟨a, ha⟩ ⟨b, hb⟩ rfl
  rfl

instance : LinearOrder Uint := LinearOrder.lift' Uint.toNat Uint.toNat_injective

theorem Uint.lt_def {a b : Uint} : a < b ↔ a.toNat < b.toNat := Iff.rfl

/-- `ZeroUint`. -/
def Uint.zero : Uint := ⟨0, by decide⟩

/-- `Incr`; none where it overflows. -/
def Uint.incr (u : Uint) : Option Uint :=
  if h : u.toNat + 1 < 2 ^ 256 then some ⟨u.toNat + 1, h⟩ else none

theorem Uint.lt_of_incr {u v : Uint} (h : u.incr = some v) : u < v := by
  unfold Uint.incr at h
  split_ifs at h
  cases h
  rw [Uint.lt_def]
  exact Nat.lt_succ_self _

/-- `BigInt().Bytes()`. -/
def Uint.bytes (u : Uint) : Bytes := Bytes.bigEndian u.toNat

theorem Uint.bytes_injective : Function.Injective Uint.bytes := fun _ _ h =>
  Uint.toNat_injective (Bytes.bigEndian_injective h)

/-- `NewUintFromBigInt` of `SetBytes`; none where the number is too large. -/
def Uint.ofBytes (b : Bytes) : Option Uint :=
  if h : Bytes.ofBigEndian b < 2 ^ 256 then some ⟨Bytes.ofBigEndian b, h⟩ else none

@[simp] theorem Uint.ofBytes_bytes (u : Uint) : Uint.ofBytes u.bytes = some u := by
  have h : Bytes.ofBigEndian u.bytes = u.toNat := Bytes.ofBigEndian_bigEndian u.toNat
  unfold Uint.ofBytes
  rw [dif_pos (h ▸ u.lt_two_pow)]
  exact congrArg some (Uint.toNat_injective h)

/-- `sdk.AccAddress`, of `EthAddressLength` bytes. -/
abbrev AccAddress := List.Vector (Fin 256) 20

/-- The address whose bytes are all zero. -/
def zeroAddress : AccAddress := List.Vector.replicate 20 Bytes.zero

/-! ### Records -/

/-- `ResourceType`. -/
inductive ResourceType
  | unspecified
  | bucket
  | object
  | group
  deriving DecidableEq, Repr

/-- `Principal`. -/
inductive Principal
  | unspecified
  | account (addr : AccAddress)
  | group (groupId : Uint)
  deriving DecidableEq

/-- `ActionType`. -/
inductive ActionType
  | unspecified
  | updateBucketInfo
  | deleteBucket
  | createObject
  | deleteObject
  | copyObject
  | getObject
  | executeObject
  | listObject
  | updateGroupMember
  | deleteGroup
  | updateObjectInfo
  | updateGroupExtra
  | updateGroupInfo
  | updateObjectContent
  | typeAll
  deriving DecidableEq, Repr

/-- `Effect`. -/
inductive Effect
  | unspecified
  | allow
  | deny
  deriving DecidableEq, Repr

/-- `Statement`; times are in nanoseconds. -/
structure Statement where
  effect : Effect
  actions : List ActionType
  resources : List String := []
  expirationTime : Option ℤ := none
  limitSize : Option ℕ := none
  deriving DecidableEq, Repr

/-- `Policy`. -/
structure Policy where
  id : Uint := .zero
  principal : Principal
  resourceType : ResourceType
  resourceId : Uint
  statements : List Statement := []
  expirationTime : Option ℤ := none
  deriving DecidableEq

/-- `PolicyGroup_Item`. -/
structure PolicyGroupItem where
  policyId : Uint
  groupId : Uint
  deriving DecidableEq

/-- `GroupMember`, without its id, which is the key. -/
structure GroupMember where
  groupId : Uint
  member : AccAddress
  expirationTime : Option ℤ := none
  deriving DecidableEq

/-- `Params`; the defaults are those of `DefaultParams`. -/
structure Params where
  maximumStatementsNum : ℕ := 10
  maximumGroupNum : ℕ := 10
  maximumRemoveExpiredPoliciesIteration : ℕ := 100
  deriving DecidableEq, Repr

/-- `Params.Validate`. -/
def Params.validate (p : Params) : Bool :=
  decide (p.maximumStatementsNum ≠ 0)
  && decide (p.maximumGroupNum ≠ 0)
  && decide (p.maximumRemoveExpiredPoliciesIteration ≠ 0)

/-! ### Keys -/

/-- The first byte of the key of an account policy. -/
def accountPolicyPrefix : ResourceType → Option (Fin 256)
  | .bucket => some ⟨0x11, by decide⟩
  | .object => some ⟨0x12, by decide⟩
  | .group => some ⟨0x13, by decide⟩
  | .unspecified => none

/-- The first byte of the key of a policy group. -/
def groupPolicyPrefix : ResourceType → Option (Fin 256)
  | .bucket => some ⟨0x21, by decide⟩
  | .object => some ⟨0x22, by decide⟩
  | .group => none
  | .unspecified => none

/-- `LengthPrefix`. -/
def lengthPrefix (id : Uint) : Bytes := Bytes.lengthPrefixed id.bytes

/-- `PolicyForAccountPrefix`; none where it panics. -/
def policyForAccountPrefix (resourceId : Uint) (resourceType : ResourceType) : Option Bytes :=
  (accountPolicyPrefix resourceType).map fun b => b :: lengthPrefix resourceId

/-- `GetPolicyForAccountKey`; none where it panics. -/
def getPolicyForAccountKey (resourceId : Uint) (resourceType : ResourceType) (addr : AccAddress) :
    Option Bytes :=
  (policyForAccountPrefix resourceId resourceType).map fun key => key ++ addr.toList

/-- `GetPolicyForGroupKey`; none where it panics. -/
def getPolicyForGroupKey (resourceId : Uint) (resourceType : ResourceType) : Option Bytes :=
  (groupPolicyPrefix resourceType).map fun b => b :: resourceId.bytes

/-- `GroupMembersPrefix`, after `GroupMemberPrefix`. -/
def groupMembersPrefix (groupId : Uint) : Bytes := lengthPrefix groupId

/-- `GetGroupMemberKey`, after `GroupMemberPrefix`. -/
def getGroupMemberKey (groupId : Uint) (member : AccAddress) : Bytes :=
  lengthPrefix groupId ++ member.toList

/-- The keys of the queue, in their order in the store: the bytes of a time have a fixed length
and are ordered as the times are. -/
abbrev QueueKey := ℤ ×ₗ Bytes

/-- `PolicyPrefixQueue`. -/
def policyPrefixQueue (exp : ℤ) (key : Bytes) : QueueKey := toLex (exp, key)

/-- `ParsePolicyIDFromQueueKey`; none where it panics. -/
def parsePolicyIDFromQueueKey (key : QueueKey) : Option Uint := Uint.ofBytes (ofLex key).2

variable {t t' : ResourceType} {b : Fin 256} {i i' : Uint} {k : Bytes}

theorem accountPolicyPrefix_inj (h : accountPolicyPrefix t = some b)
    (h' : accountPolicyPrefix t' = some b) : t = t' := by
  rcases t <;> rcases t' <;> simp [accountPolicyPrefix, Fin.ext_iff] at h h' ⊢ <;> omega

theorem groupPolicyPrefix_inj (h : groupPolicyPrefix t = some b)
    (h' : groupPolicyPrefix t' = some b) : t = t' := by
  rcases t <;> rcases t' <;> simp [groupPolicyPrefix, Fin.ext_iff] at h h' ⊢ <;> omega

/-- **A key of the account index is that of one resource and one address.** -/
theorem getPolicyForAccountKey_inj {a a' : AccAddress} (h : getPolicyForAccountKey i t a = some k)
    (h' : getPolicyForAccountKey i' t' a' = some k) : i = i' ∧ t = t' ∧ a = a' := by
  simp only [getPolicyForAccountKey, policyForAccountPrefix, Option.map_map, Option.map_eq_some_iff,
    Function.comp_apply, List.cons_append] at h h'
  obtain ⟨b, hb, rfl⟩ := h
  obtain ⟨b', hb', hkeys⟩ := h'
  obtain ⟨rfl, hk⟩ := List.cons.inj hkeys
  have hlen : a'.toList.length = a.toList.length := by simp
  obtain ⟨hi, ha⟩ := Bytes.lengthPrefixed_append_inj hlen hk
  exact ⟨(Uint.bytes_injective hi).symm, accountPolicyPrefix_inj hb hb', (Subtype.ext ha).symm⟩

/-- **A key of the group index is that of one resource.** -/
theorem getPolicyForGroupKey_inj (h : getPolicyForGroupKey i t = some k)
    (h' : getPolicyForGroupKey i' t' = some k) : i = i' ∧ t = t' := by
  simp only [getPolicyForGroupKey, Option.map_eq_some_iff] at h h'
  obtain ⟨b, hb, rfl⟩ := h
  obtain ⟨b', hb', hkeys⟩ := h'
  obtain ⟨rfl, hi⟩ := List.cons.inj hkeys
  exact ⟨(Uint.bytes_injective hi).symm, groupPolicyPrefix_inj hb hb'⟩

/-! ### State and errors -/

/-- The store of `x/permission`. -/
structure State where
  params : Params
  /-- `PolicyByIDPrefix`. -/
  policies : SortedMap Uint Policy
  /-- `BucketPolicyForAccountPrefix`, `ObjectPolicyForAccountPrefix` and
  `GroupPolicyForAccountPrefix`. -/
  accountPolicies : SortedMap Bytes Uint
  /-- `BucketPolicyForGroupPrefix` and `ObjectPolicyForGroupPrefix`. -/
  policyGroups : SortedMap Bytes (List PolicyGroupItem)
  /-- `PolicyQueueKeyPrefix`. -/
  policyQueue : SortedMap QueueKey Unit
  /-- `GroupMemberPrefix`. -/
  groupMembers : SortedMap Bytes Uint
  /-- `GroupMemberByIDPrefix`. -/
  groupMembersById : SortedMap Uint GroupMember
  policySequence : Uint
  groupMemberSequence : Uint

/-- The store before the first policy. -/
def State.empty (params : Params) : State where
  params := params
  policies := .empty
  accountPolicies := .empty
  policyGroups := .empty
  policyQueue := .empty
  groupMembers := .empty
  groupMembersById := .empty
  policySequence := .zero
  groupMemberSequence := .zero

/-- The errors and panics of the keeper. -/
inductive Error
  | groupMemberAlreadyExists
  | noSuchGroupMember
  /-- "group number limit to %d, actual %d" -/
  | limitExceeded (limit actual : ℕ)
  /-- "Unknown principal type." -/
  | invalidPrincipal
  | invalidParams
  /-- `GetPolicyForAccountKey` and `GetPolicyForGroupKey` panic: "Invalid Resource Type". -/
  | invalidResourceType
  /-- `MustGetPolicyByID` panics, and so does `RemoveExpiredPolicies` at the principal of a
  policy that is not there. -/
  | policyNotFound (policyId : Uint)
  /-- A number of more than 256 bits. -/
  | uintOverflow
  deriving DecidableEq, Repr

end Moca.Permission
