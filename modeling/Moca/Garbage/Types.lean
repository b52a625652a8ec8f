/-
# Stale permissions: the garbage collector of `x/storage`

`keeper/abci.go` and, of `keeper/keeper.go`, `appendResourceIDForGarbageCollection`,
`PersistDeleteInfo`, `GarbageCollectResourcesStalePolicy` and
`garbageCollectionForResource`.

A resource that is deleted while the permission store has entries for it is noted in the
transient store, unless it is an object that was not sealed: `CancelCreateObject`, which
`DeleteObject` calls for such an object, and `RejectSealObject` note nothing.  The end of a block deletes discontinued objects and buckets, which are noted
too, moves the notes of the block to the persistent store, under its height, and then collects
the entries of the resources noted there, up to a limit.  The transient store is dropped when
the block is committed.

Which objects are due, and what the deletion of discontinued buckets deletes, is given with the
block.  A resource is found by its name, so a deleted one is not found again, and ids are given
out from one on.
-/

import Moca.Permission.Entries

namespace Moca.Garbage

open Permission (Uint ResourceType Resource)

/-! ### Records -/

/-- `DeleteInfo`; a list that is `nil` is empty. -/
structure DeleteInfo where
  bucketIds : List Uint := []
  objectIds : List Uint := []
  groupIds : List Uint := []
  deriving DecidableEq

variable (info : DeleteInfo)

/-- The ids of one type. -/
def DeleteInfo.ids : ResourceType → List Uint
  | .bucket => info.bucketIds
  | .object => info.objectIds
  | .group => info.groupIds
  | .unspecified => []

/-- With other ids of one type. -/
def DeleteInfo.setIds (t : ResourceType) (ids : List Uint) : DeleteInfo :=
  match t with
  | .bucket => { info with bucketIds := ids }
  | .object => { info with objectIds := ids }
  | .group => { info with groupIds := ids }
  | .unspecified => info

/-- A resource is noted. -/
def DeleteInfo.Notes (r : Resource) : Prop := r.id ∈ info.ids r.resourceType

instance (info : DeleteInfo) (r : Resource) : Decidable (info.Notes r) :=
  inferInstanceAs (Decidable (r.id ∈ info.ids r.resourceType))

/-- `IsEmpty`. -/
def DeleteInfo.isEmpty (info : DeleteInfo) : Bool :=
  info.bucketIds.isEmpty && info.objectIds.isEmpty && info.groupIds.isEmpty

/-- Note a resource. -/
def DeleteInfo.append (r : Resource) : DeleteInfo :=
  info.setIds r.resourceType (info.ids r.resourceType ++ [r.id])

/-- The permission store, the notes of the block and those of earlier blocks. -/
structure State where
  permission : Permission.State
  /-- `CurrentBlockDeleteStalePoliciesKey` of the transient store. -/
  current : Option DeleteInfo
  /-- `DeleteStalePoliciesPrefix`, by height. -/
  deleteInfos : SortedMap ℕ DeleteInfo
  height : ℕ
  /-- The resources that were deleted. -/
  deleted : List Resource

/-- The state before the first block. -/
def State.empty (params : Permission.Params) : State where
  permission := .empty params
  current := none
  deleteInfos := .empty
  height := 1
  deleted := []

variable (s : State) (r : Resource)

/-- A resource may be there: it has an id and was not deleted. -/
def State.mayExist : Bool :=
  decide (r.id ≠ .zero) && decide (r ∉ s.deleted)

theorem DeleteInfo.ids_setIds {t : ResourceType} (ht : t ≠ .unspecified) (ids : List Uint)
    (t' : ResourceType) : (info.setIds t ids).ids t' = if t' = t then ids else info.ids t' := by
  rcases t with _ | _ | _ | _ <;> rcases t' with _ | _ | _ | _ <;> first | rfl | exact absurd rfl ht

/-! ### Deleting a resource -/

/-- The checks of `appendResourceIDForGarbageCollection`. -/
def State.hasEntries : Bool :=
  s.permission.existAccountPolicyForResource r.resourceType r.id
  || s.permission.existGroupPolicyForResource r.resourceType r.id
  || (decide (r.resourceType = .group) && s.permission.existGroupMemberForGroup r.id)

/-- `appendResourceIDForGarbageCollection`. -/
def State.appendResourceID : State :=
  if s.hasEntries r then { s with current := some ((s.current.getD {}).append r) } else s

/-- The resource is not found any more. -/
def State.remove : State := { s with deleted := r :: s.deleted }

/-- `doDeleteBucket`, `doDeleteObject` or `DeleteGroup` of a resource, if it is there. -/
def State.deleteResource : State :=
  if s.mayExist r then (s.appendResourceID r).remove r else s

/-! ### Collecting -/

/-- One round of `garbageCollectionForResource`: the policies of accounts, then the members of a
group or the policies of groups. -/
def collectId (resourceType : ResourceType) (maxCleanup : ℕ) (id : Uint) (p : Permission.State)
    (deletedTotal : ℕ) : Permission.State × ℕ × Bool :=
  let (p, deletedTotal, done) :=
    p.forceDeleteAccountPolicyForResource maxCleanup deletedTotal resourceType id
  if done = false then (p, deletedTotal, false)
  else if resourceType = .group then p.forceDeleteGroupMembers maxCleanup deletedTotal id
  else p.forceDeleteGroupPolicyForResource maxCleanup deletedTotal resourceType id

/-- The loop of `garbageCollectionForResource`: the ids that are left if it is not done.  An id
that is done is removed from them, but for groups, where the loop continues before it does. -/
def collectIds (resourceType : ResourceType) (maxCleanup : ℕ) :
    List Uint → List Uint → Permission.State → ℕ → Permission.State × ℕ × Option (List Uint)
  | [], _, p, deletedTotal => (p, deletedTotal, none)
  | id :: ids, temp, p, deletedTotal =>
    let (p, deletedTotal, done) := collectId resourceType maxCleanup id p deletedTotal
    if done = false then (p, deletedTotal, some temp)
    else
      collectIds resourceType maxCleanup ids (if resourceType = .group then temp else ids) p
        deletedTotal

/-- The calls of `garbageCollectionForResource` for one `DeleteInfo`, type by type: what is left
of it if they are not done.  Once all are done, it is empty. -/
def collectTypes (maxCleanup : ℕ) : List ResourceType → DeleteInfo → Permission.State → ℕ →
    Permission.State × ℕ × Option DeleteInfo
  | [], _, p, deletedTotal => (p, deletedTotal, none)
  | t :: types, info, p, deletedTotal =>
    match collectIds t maxCleanup (info.ids t) (info.ids t) p deletedTotal with
    | (p, deletedTotal, some temp) => (p, deletedTotal, some (info.setIds t temp))
    | (p, deletedTotal, none) => collectTypes maxCleanup types (info.setIds t []) p deletedTotal

/-- The types in the order in which `GarbageCollectResourcesStalePolicy` takes them. -/
def collectedTypes : List ResourceType := [.object, .bucket, .group]

/-- The loop of `GarbageCollectResourcesStalePolicy`. -/
def State.collect (maxCleanup : ℕ) : List (ℕ × DeleteInfo) → State → ℕ → State
  | [], s, _ => s
  | (height, info) :: rest, s, deletedTotal =>
    match collectTypes maxCleanup collectedTypes info s.permission deletedTotal with
    | (p, _, some info) =>
      { s with permission := p, deleteInfos := s.deleteInfos.insert height info }
    | (p, deletedTotal, none) =>
      -- the metadata of the block is purged
      State.collect maxCleanup rest
        { s with permission := p, deleteInfos := s.deleteInfos.erase height } deletedTotal

/-- `GarbageCollectResourcesStalePolicy`. -/
def State.garbageCollectResourcesStalePolicy (stalePolicyCleanupMax : ℕ) : State :=
  State.collect stalePolicyCleanupMax s.deleteInfos.entries s 0

/-- `PersistDeleteInfo`. -/
def State.persistDeleteInfo : State :=
  match s.current with
  | none => s
  | some info =>
    if info.isEmpty then s else { s with deleteInfos := s.deleteInfos.insert s.height info }

/-! ### Blocks -/

/-- What the end of a block reads. -/
structure Block where
  discontinueDeletionMax : ℕ
  stalePolicyCleanupMax : ℕ
  /-- The discontinued objects that are due. -/
  dueObjects : List Uint := []
  /-- What the deletion of discontinued buckets deletes, objects of the buckets included. -/
  bucketDeletions : List Resource := []

/-- `EndBlocker` of `x/storage`, as far as it deletes and collects. -/
def State.endBlocker (b : Block) : State :=
  if b.discontinueDeletionMax = 0 then s
  else
    let due := b.dueObjects.take b.discontinueDeletionMax
    let s := due.foldl (fun s id => s.deleteResource ⟨.object, id⟩) s
    if b.discontinueDeletionMax ≤ due.length then s
    else
      let s := b.bucketDeletions.foldl State.deleteResource s
      s.persistDeleteInfo.garbageCollectResourcesStalePolicy b.stalePolicyCleanupMax

/-- The end of a block, and the commit that drops the transient store. -/
def State.endBlock (b : Block) : State :=
  { s.endBlocker b with current := none, height := s.height + 1 }

/-- What happens in a block. -/
inductive Op
  /-- A message of a user, or the end of a block of `x/permission`. -/
  | permission (op : Permission.Op)
  /-- The deletion of a bucket, a sealed object or a group. -/
  | delete (r : Resource)
  /-- `CancelCreateObject` or `RejectSealObject`. -/
  | cancel (id : Uint)
  | endBlock (b : Block)

/-- One step.  A policy or a member needs a resource that is there. -/
def State.step (s : State) : Op → Option State
  | .permission op =>
    if op.target.all s.mayExist then
      (s.permission.exec op).toOption.map fun p => { s with permission := p }
    else none
  | .delete r => if s.mayExist r then some (s.deleteResource r) else none
  | .cancel id => if s.mayExist ⟨.object, id⟩ then some (s.remove ⟨.object, id⟩) else none
  | .endBlock b => some (s.endBlock b)

end Moca.Garbage
