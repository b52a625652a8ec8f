/-
# The `StateDB`

`x/evm/statedb`: the cache of accounts that the EVM works on in a transaction.  Accounts
are loaded from the keeper when first asked for and kept as state objects; every change
appends an entry to the journal that can undo it, and counts the address as dirty.
`Snapshot` remembers the length of the journal, `RevertToSnapshot` undoes the entries
past it, and `Commit` writes the objects of the dirty addresses to the keeper.

The methods are modelled as functions on the state; the getters return the state as well,
since they fill the caches.  A `nil` byte slice is `none`.  Pointers do not matter: an
object is only ever changed through `stateObjects`, big integers are replaced and not
changed, and each log is a new one.
-/

import Moca.Evm.Keeper
import Moca.Lib.Journal

namespace Moca.Evm

/-- The `panic`s of the package, and the run-time panics its invariants rule out. -/
inductive Panic
  | refundBelowZero
  | revisionCannotBeReverted (id : ℕ)
  | nilStateObject (addr : Address)
  | addressNotInAccessList (addr : Address)
  | indexOutOfRange
  deriving DecidableEq

/-! ### State objects -/

/-- `stateObject`. -/
structure StateObject where
  account : Account
  code : Option Bytes := none
  originStorage : Storage := .empty
  dirtyStorage : Storage := .empty
  dirtyCode : Bool := false
  suicided : Bool := false
  selfDestructed : Bool := false
  created : Bool := false

namespace StateObject

variable (env : Env) (k : Keeper) (addr : Address) (o : StateObject)

/-- `newObject` of `Account{}`. -/
def new : StateObject :=
  { account := { nonce := 0, balance := 0, codeHash := env.emptyCodeHash } }

/-- `empty`. -/
def empty : Bool :=
  o.account.nonce = 0 ∧ o.account.balance = 0 ∧ o.account.codeHash = env.emptyCodeHash

/-- The result of `Code`. -/
def getCode : Option Bytes :=
  match o.code with
  | some code => some code
  | none => if o.account.codeHash = env.emptyCodeHash then none else k.getCode o.account.codeHash

/-- The object after `Code`, which keeps what it has read. -/
def cacheCode : StateObject := { o with code := o.getCode env k }

/-- The result of `GetCommittedState`. -/
def getCommittedState (key : Hash) : Hash :=
  match o.originStorage.find? key with
  | some value => value
  | none => k.getState addr key

/-- The object after `GetCommittedState`. -/
def cacheCommittedState (key : Hash) : StateObject :=
  match o.originStorage.find? key with
  | some _ => o
  | none => { o with originStorage := o.originStorage.insert key (k.getState addr key) }

/-- The result of `GetState`. -/
def getState (key : Hash) : Hash :=
  match o.dirtyStorage.find? key with
  | some value => value
  | none => o.getCommittedState k addr key

/-- The object after `GetState`. -/
def cacheState (key : Hash) : StateObject :=
  match o.dirtyStorage.find? key with
  | some _ => o
  | none => o.cacheCommittedState k addr key

/-- `setBalance`. -/
def setBalance (amount : ℤ) : StateObject := { o with account.balance := amount }

/-- `setNonce`. -/
def setNonce (nonce : ℕ) : StateObject := { o with account.nonce := nonce }

/-- `setCode`. -/
def setCode (codeHash : Hash) (code : Option Bytes) : StateObject :=
  { o with code := code, account.codeHash := codeHash, dirtyCode := true }

/-- `setState`. -/
def setState (key value : Hash) : StateObject :=
  { o with dirtyStorage := o.dirtyStorage.insert key value }

end StateObject

/-! ### The access list -/

/-- `accessList`: the position in `slots` of the slots of each address, or none (`-1`). -/
structure AccessList where
  addresses : SortedMap Address (Option ℕ)
  slots : List (SortedMap Hash Unit)

namespace AccessList

/-- `newAccessList`. -/
def new : AccessList := ⟨.empty, []⟩

variable (al : AccessList) (address : Address) (slot : Hash)

/-- `ContainsAddress`. -/
def containsAddress : Bool := al.addresses.contains address

/-- `Contains`. -/
def contains : Bool × Bool :=
  match al.addresses.find? address with
  | none => (false, false)
  | some none => (true, false)
  | some (some idx) => (true, ((al.slots[idx]?).bind fun slotmap => slotmap.find? slot).isSome)

/-- `AddAddress`. -/
def addAddress : AccessList × Bool :=
  if al.addresses.contains address then (al, false)
  else ({ al with addresses := al.addresses.insert address none }, true)

/-- `AddSlot`. -/
def addSlot : Except Panic (AccessList × Bool × Bool) :=
  match al.addresses.find? address with
  | some (some idx) =>
    match al.slots[idx]? with
    | none => .error .indexOutOfRange
    | some slotmap =>
      if slotmap.contains slot then .ok (al, false, false)
      else .ok ({ al with slots := al.slots.set idx (slotmap.insert slot ()) }, false, true)
  | found =>
    .ok ({ addresses := al.addresses.insert address (some al.slots.length)
           slots := al.slots ++ [SortedMap.empty.insert slot ()] }, found.isNone, true)

/-- `DeleteSlot`. -/
def deleteSlot : Except Panic AccessList :=
  match al.addresses.find? address with
  | none => .error (.addressNotInAccessList address)
  | some none => .error .indexOutOfRange
  | some (some idx) =>
    match al.slots[idx]? with
    | none => .error .indexOutOfRange
    | some slotmap =>
      if (slotmap.erase slot).entries = [] then
        .ok { addresses := al.addresses.insert address none, slots := al.slots.take idx }
      else .ok { al with slots := al.slots.set idx (slotmap.erase slot) }

/-- `DeleteAddress`. -/
def deleteAddress : AccessList := { al with addresses := al.addresses.erase address }

end AccessList

/-! ### The journal -/

/-- `ethtypes.Log`. -/
structure Log where
  address : Address
  topics : List Hash
  data : Bytes
  txHash : Hash := 0
  blockHash : Hash := 0
  txIndex : ℕ := 0
  index : ℕ := 0
  deriving DecidableEq

/-- The journal entries.  `ResetObject` has the address of the object it keeps. -/
inductive JournalEntry
  | createObject (account : Address)
  | resetObject (account : Address) (prev : StateObject)
  | suicide (account : Address) (prev : Bool) (prevbalance : ℤ)
  | selfDestruct (account : Address) (prev : Bool) (prevbalance : ℤ)
  | balance (account : Address) (prev : ℤ)
  | nonce (account : Address) (prev : ℕ)
  | storage (account : Address) (key prevalue : Hash)
  | code (account : Address) (prevcode : Option Bytes) (prevhash : Hash)
  | refund (prev : ℕ)
  | addLog
  | accessListAddAccount (address : Address)
  | accessListAddSlot (address : Address) (slot : Hash)
  | transientStorage (account : Address) (key prevalue : Hash)

/-- `Dirtied`. -/
def JournalEntry.dirtied : JournalEntry → Option Address
  | .createObject account => some account
  | .suicide account _ _ => some account
  | .selfDestruct account _ _ => some account
  | .balance account _ => some account
  | .nonce account _ => some account
  | .storage account _ _ => some account
  | .code account _ _ => some account
  | .resetObject .. | .refund _ | .addLog | .accessListAddAccount _ | .accessListAddSlot _ _
  | .transientStorage .. => none

/-- The dirty addresses and the number of changes of each. -/
abbrev Dirties := SortedMap Address ℤ

/-- What `append` does to the dirty addresses. -/
def Dirties.mark (dirties : Dirties) : Option Address → Dirties
  | none => dirties
  | some addr => SortedMap.insert dirties addr ((SortedMap.find? dirties addr).getD 0 + 1)

/-- What `Revert` does to them. -/
def Dirties.unmark (dirties : Dirties) : Option Address → Dirties
  | none => dirties
  | some addr =>
    if (SortedMap.find? dirties addr).getD 0 - 1 = 0 then SortedMap.erase dirties addr
    else SortedMap.insert dirties addr ((SortedMap.find? dirties addr).getD 0 - 1)

/-! ### The state -/

/-- `revision`. -/
structure Revision where
  id : ℕ
  journalIndex : ℕ

/-- `TxConfig`. -/
structure TxConfig where
  blockHash : Hash
  txHash : Hash
  txIndex : ℕ
  logIndex : ℕ

/-- `StateDB`. -/
structure StateDB where
  keeper : Keeper
  txConfig : TxConfig
  entries : List JournalEntry
  dirties : Dirties
  validRevisions : List Revision
  nextRevisionID : ℕ
  stateObjects : SortedMap Address StateObject
  refund : ℕ
  logs : List Log
  accessList : AccessList
  transientStorage : SortedMap Address Storage

namespace StateDB

/-- `New`. -/
def new (keeper : Keeper) (txConfig : TxConfig) : StateDB where
  keeper := keeper
  txConfig := txConfig
  entries := []
  dirties := .empty
  validRevisions := []
  nextRevisionID := 0
  stateObjects := .empty
  refund := 0
  logs := []
  accessList := .new
  transientStorage := .empty

variable (env : Env) (s : StateDB)

/-- `journal.append`. -/
def append (entry : JournalEntry) : StateDB :=
  { s with entries := s.entries ++ [entry], dirties := s.dirties.mark entry.dirtied }

variable (addr : Address) (key value : Hash) (amount : ℤ)

/-- `setStateObject`. -/
def setStateObject (object : StateObject) : StateDB :=
  { s with stateObjects := s.stateObjects.insert addr object }

/-- `getStateObject`. -/
def getStateObject : StateDB × Option StateObject :=
  match s.stateObjects.find? addr with
  | some obj => (s, some obj)
  | none =>
    match s.keeper.getAccount env addr with
    | none => (s, none)
    | some account => (s.setStateObject addr { account := account }, some { account := account })

/-- `createObject`: the new object and the one before. -/
def createObject : StateDB × StateObject × Option StateObject :=
  match s.getStateObject env addr with
  | (s, none) =>
    let newobj := { StateObject.new env with created := true }
    ((s.append (.createObject addr)).setStateObject addr newobj, newobj, none)
  | (s, some prev) =>
    ((s.append (.resetObject addr prev)).setStateObject addr (StateObject.new env),
      StateObject.new env, some prev)

/-- `getOrNewStateObject`. -/
def getOrNewStateObject : StateDB × StateObject :=
  match s.getStateObject env addr with
  | (s, some obj) => (s, obj)
  | (s, none) => let (s, obj, _) := s.createObject env addr; (s, obj)

/-- The change of an object that has been looked up, with its journal entry. -/
def change (entry : JournalEntry) (object : StateObject) : StateDB :=
  (s.append entry).setStateObject addr object

/-! ### Getters -/

/-- `GetBalance`. -/
def getBalance : StateDB × ℤ :=
  let (s, obj) := s.getStateObject env addr
  (s, (obj.map fun o => o.account.balance).getD 0)

/-- `GetNonce`. -/
def getNonce : StateDB × ℕ :=
  let (s, obj) := s.getStateObject env addr
  (s, (obj.map fun o => o.account.nonce).getD 0)

/-- `GetCode`. -/
def getCode : StateDB × Option Bytes :=
  match s.getStateObject env addr with
  | (s, none) => (s, none)
  | (s, some obj) => (s.setStateObject addr (obj.cacheCode env s.keeper), obj.getCode env s.keeper)

/-- `GetCodeSize`. -/
def getCodeSize : StateDB × ℕ :=
  let (s, code) := s.getCode env addr
  (s, (code.map List.length).getD 0)

/-- `GetCodeHash`. -/
def getCodeHash : StateDB × Hash :=
  let (s, obj) := s.getStateObject env addr
  (s, (obj.map fun o => o.account.codeHash).getD 0)

/-- `GetState`. -/
def getState : StateDB × Hash :=
  match s.getStateObject env addr with
  | (s, none) => (s, 0)
  | (s, some obj) =>
    (s.setStateObject addr (obj.cacheState s.keeper addr key), obj.getState s.keeper addr key)

/-- `GetCommittedState`. -/
def getCommittedState : StateDB × Hash :=
  match s.getStateObject env addr with
  | (s, none) => (s, 0)
  | (s, some obj) =>
    (s.setStateObject addr (obj.cacheCommittedState s.keeper addr key),
      obj.getCommittedState s.keeper addr key)

/-- `GetTransientState`. -/
def getTransientState : Hash :=
  ((s.transientStorage.find? addr).bind fun storage => storage.find? key).getD 0

/-- `Exist`. -/
def exist : StateDB × Bool :=
  let (s, obj) := s.getStateObject env addr
  (s, obj.isSome)

/-- `Empty`. -/
def empty : StateDB × Bool :=
  let (s, obj) := s.getStateObject env addr
  (s, obj.all fun o => o.empty env)

/-- `HasSuicided`. -/
def hasSuicided : StateDB × Bool :=
  let (s, obj) := s.getStateObject env addr
  (s, obj.any fun o => o.suicided)

/-- `AddressInAccessList`. -/
def addressInAccessList : Bool := s.accessList.containsAddress addr

/-- `SlotInAccessList`. -/
def slotInAccessList (slot : Hash) : Bool × Bool := s.accessList.contains addr slot

/-! ### Setters -/

/-- `AddLog`. -/
def addLog (log : Log) : StateDB :=
  let s := s.append .addLog
  { s with
    logs := s.logs ++ [{ log with
      txHash := s.txConfig.txHash
      blockHash := s.txConfig.blockHash
      txIndex := s.txConfig.txIndex
      index := s.txConfig.logIndex + s.logs.length }] }

/-- `AddRefund`. -/
def addRefund (gas : ℕ) : StateDB :=
  { s.append (.refund s.refund) with refund := (s.refund + gas) % 2 ^ 64 }

/-- `SubRefund`. -/
def subRefund (gas : ℕ) : Except Panic StateDB :=
  if s.refund < gas then .error .refundBelowZero
  else .ok { s.append (.refund s.refund) with refund := s.refund - gas }

/-- `SetBalance` of an object. -/
def setObjectBalance (obj : StateObject) (amount : ℤ) : StateDB :=
  s.change addr (.balance addr obj.account.balance) (obj.setBalance amount)

/-- `AddBalance`. -/
def addBalance : StateDB :=
  let (s, obj) := s.getOrNewStateObject env addr
  if amount = 0 then s else s.setObjectBalance addr obj (obj.account.balance + amount)

/-- `SubBalance`. -/
def subBalance : StateDB :=
  let (s, obj) := s.getOrNewStateObject env addr
  if amount = 0 then s else s.setObjectBalance addr obj (obj.account.balance - amount)

/-- `SetNonce`. -/
def setNonce (nonce : ℕ) : StateDB :=
  let (s, obj) := s.getOrNewStateObject env addr
  s.change addr (.nonce addr obj.account.nonce) (obj.setNonce nonce)

/-- `SetCode`. -/
def setCode (code : Option Bytes) : StateDB :=
  let (s, obj) := s.getOrNewStateObject env addr
  s.change addr (.code addr (obj.getCode env s.keeper) obj.account.codeHash)
    ((obj.cacheCode env s.keeper).setCode (env.keccak256 (code.getD [])) code)

/-- `SetState`. -/
def setState : StateDB :=
  let (s, obj) := s.getOrNewStateObject env addr
  let prev := obj.getState s.keeper addr key
  let obj := obj.cacheState s.keeper addr key
  if prev = value then s.setStateObject addr obj
  else s.change addr (.storage addr key prev) (obj.setState key value)

/-- `setTransientState`. -/
def putTransientState : StateDB :=
  { s with
    transientStorage := s.transientStorage.insert addr
      (((s.transientStorage.find? addr).getD .empty).insert key value) }

/-- `SetTransientState`. -/
def setTransientState : StateDB :=
  let prev := s.getTransientState addr key
  if prev = value then s
  else (s.append (.transientStorage addr key prev)).putTransientState addr key value

/-- `CreateAccount`. -/
def createAccount : StateDB :=
  match s.createObject env addr with
  | (s, _, none) => s
  | (s, newObj, some prev) => s.setStateObject addr (newObj.setBalance prev.account.balance)

/-- `Suicide`. -/
def suicide : StateDB :=
  match s.getStateObject env addr with
  | (s, none) => s
  | (s, some obj) =>
    s.change addr (.suicide addr obj.suicided obj.account.balance)
      ({ obj with suicided := true }.setBalance 0)

/-- `SelfDestruct`. -/
def selfDestruct : StateDB :=
  match s.getStateObject env addr with
  | (s, none) => s
  | (s, some obj) =>
    s.change addr (.selfDestruct addr obj.selfDestructed obj.account.balance)
      ({ obj with selfDestructed := true }.setBalance 0)

/-- `Selfdestruct6780`. -/
def selfdestruct6780 : StateDB :=
  match s.getStateObject env addr with
  | (s, none) => s
  | (s, some obj) => if obj.created then s.selfDestruct env addr else s

/-- `AddAddressToAccessList`. -/
def addAddressToAccessList : StateDB :=
  let (al, added) := s.accessList.addAddress addr
  let s := { s with accessList := al }
  if added then s.append (.accessListAddAccount addr) else s

/-- `AddSlotToAccessList`. -/
def addSlotToAccessList (slot : Hash) : Except Panic StateDB := do
  let (al, addrMod, slotMod) ← s.accessList.addSlot addr slot
  let s := { s with accessList := al }
  let s := if addrMod then s.append (.accessListAddAccount addr) else s
  return if slotMod then s.append (.accessListAddSlot addr slot) else s

/-- `PrepareAccessList`. -/
def prepareAccessList (sender : Address) (dst : Option Address) (precompiles : List Address)
    (list : List (Address × List Hash)) : Except Panic StateDB :=
  let s := s.addAddressToAccessList sender
  let s := dst.elim s s.addAddressToAccessList
  let s := precompiles.foldl addAddressToAccessList s
  list.foldlM (fun s el =>
    el.2.foldlM (fun s key => s.addSlotToAccessList el.1 key) (s.addAddressToAccessList el.1)) s

/-! ### Snapshots -/

/-- `Snapshot`. -/
def snapshot : StateDB × ℕ :=
  ({ s with
      nextRevisionID := s.nextRevisionID + 1
      validRevisions := s.validRevisions ++ [⟨s.nextRevisionID, s.entries.length⟩] },
    s.nextRevisionID)

/-- Change the object of an address; it is a run-time panic if there is none. -/
def modifyObject (addr : Address) (f : StateObject → StateObject) : Except Panic StateDB :=
  match s.getStateObject env addr with
  | (_, none) => .error (.nilStateObject addr)
  | (s, some obj) => .ok (s.setStateObject addr (f obj))

/-- `Revert` of the journal entries. -/
def revertEntry (s : StateDB) : JournalEntry → Except Panic StateDB
  | .createObject account => .ok { s with stateObjects := s.stateObjects.erase account }
  | .resetObject account prev => .ok (s.setStateObject account prev)
  | .suicide account prev prevbalance =>
    match s.getStateObject env account with
    | (s, none) => .ok s
    | (s, some obj) =>
      .ok (s.setStateObject account ({ obj with suicided := prev }.setBalance prevbalance))
  | .selfDestruct account prev prevbalance =>
    match s.getStateObject env account with
    | (s, none) => .ok s
    | (s, some obj) =>
      .ok (s.setStateObject account ({ obj with selfDestructed := prev }.setBalance prevbalance))
  | .balance account prev => s.modifyObject env account fun o => o.setBalance prev
  | .nonce account prev => s.modifyObject env account fun o => o.setNonce prev
  | .code account prevcode prevhash => s.modifyObject env account fun o => o.setCode prevhash prevcode
  | .storage account key prevalue => s.modifyObject env account fun o => o.setState key prevalue
  | .refund prev => .ok { s with refund := prev }
  | .transientStorage account key prevalue => .ok (s.putTransientState account key prevalue)
  | .addLog =>
    if s.logs = [] then .error .indexOutOfRange else .ok { s with logs := s.logs.dropLast }
  | .accessListAddAccount address =>
    .ok { s with accessList := s.accessList.deleteAddress address }
  | .accessListAddSlot address slot => do
    let al ← s.accessList.deleteSlot address slot
    return { s with accessList := al }

/-- One round of the loop of `journal.Revert`. -/
def undo (entry : JournalEntry) (s : StateDB) : Except Panic StateDB := do
  let s ← s.revertEntry env entry
  return { s with dirties := s.dirties.unmark entry.dirtied }

/-- `journal.Revert`. -/
def revertJournal (snapshot : ℕ) : Except Panic StateDB := do
  let s ← rewind (undo env) (s.entries.drop snapshot).reverse s
  return { s with entries := s.entries.take snapshot }

/-- `RevertToSnapshot`.  The ids of the revisions increase, so `sort.Search` finds the first one
that is not below `revid`. -/
def revertToSnapshot (revid : ℕ) : Except Panic StateDB :=
  let idx := s.validRevisions.findIdx fun r => decide (revid ≤ r.id)
  match s.validRevisions[idx]? with
  | none => .error (.revisionCannotBeReverted revid)
  | some r =>
    if r.id ≠ revid then .error (.revisionCannotBeReverted revid)
    else do
      let s ← s.revertJournal env r.journalIndex
      return { s with validRevisions := s.validRevisions.take idx }

/-! ### Commit -/

inductive CommitError
  | keeper (e : KeeperError)
  | nilStateObject (addr : Address)
  deriving DecidableEq

/-- What `Commit` does with the object of a dirty address. -/
def commitObject (k : Keeper) (addr : Address) (obj : StateObject) : Except KeeperError Keeper :=
  if obj.suicided ∨ obj.selfDestructed then k.deleteAccount env addr
  else do
    let k := match obj.code, obj.dirtyCode with
      | some code, true => k.setCode obj.account.codeHash code
      | _, _ => k
    let k ← k.setAccount env addr obj.account
    return obj.dirtyStorage.entries.foldl (fun k e =>
      if e.2 = (obj.originStorage.find? e.1).getD 0 then k
      else k.setState addr e.1 (some e.2)) k

/-- One round of the loop of `Commit`. -/
def commitDirty (k : Keeper) (addr : Address) : Except CommitError Keeper :=
  match s.stateObjects.find? addr with
  | none => .error (.nilStateObject addr)
  | some obj =>
    match commitObject env k addr obj with
    | .error err => .error (.keeper err)
    | .ok k => .ok k

/-- `Commit`: the keeper after it. -/
def commit : Except CommitError Keeper :=
  s.dirties.entries.foldlM (fun k e => s.commitDirty env k e.1) s.keeper

end StateDB

/-! ### Sequences of calls -/

/-- The calls on a `StateDB`, the getters that fill caches among them. -/
inductive Call
  | getBalance (addr : Address)
  | getNonce (addr : Address)
  | getCode (addr : Address)
  | getCodeSize (addr : Address)
  | getCodeHash (addr : Address)
  | getState (addr : Address) (key : Hash)
  | getCommittedState (addr : Address) (key : Hash)
  | exist (addr : Address)
  | empty (addr : Address)
  | hasSuicided (addr : Address)
  | addLog (log : Log)
  | addRefund (gas : ℕ)
  | subRefund (gas : ℕ)
  | addBalance (addr : Address) (amount : ℤ)
  | subBalance (addr : Address) (amount : ℤ)
  | setNonce (addr : Address) (nonce : ℕ)
  | setCode (addr : Address) (code : Option Bytes)
  | setState (addr : Address) (key value : Hash)
  | setTransientState (addr : Address) (key value : Hash)
  | createAccount (addr : Address)
  | suicide (addr : Address)
  | selfDestruct (addr : Address)
  | selfdestruct6780 (addr : Address)
  | addAddressToAccessList (addr : Address)
  | addSlotToAccessList (addr : Address) (slot : Hash)
  | prepareAccessList (sender : Address) (dst : Option Address) (precompiles : List Address)
      (list : List (Address × List Hash))
  | snapshot
  | revertToSnapshot (revid : ℕ)

/-- The state after a call. -/
def Call.exec (env : Env) (s : StateDB) : Call → Except Panic StateDB
  | .getBalance addr => .ok (s.getBalance env addr).1
  | .getNonce addr => .ok (s.getNonce env addr).1
  | .getCode addr => .ok (s.getCode env addr).1
  | .getCodeSize addr => .ok (s.getCodeSize env addr).1
  | .getCodeHash addr => .ok (s.getCodeHash env addr).1
  | .getState addr key => .ok (s.getState env addr key).1
  | .getCommittedState addr key => .ok (s.getCommittedState env addr key).1
  | .exist addr => .ok (s.exist env addr).1
  | .empty addr => .ok (s.empty env addr).1
  | .hasSuicided addr => .ok (s.hasSuicided env addr).1
  | .addLog log => .ok (s.addLog log)
  | .addRefund gas => .ok (s.addRefund gas)
  | .subRefund gas => s.subRefund gas
  | .addBalance addr amount => .ok (s.addBalance env addr amount)
  | .subBalance addr amount => .ok (s.subBalance env addr amount)
  | .setNonce addr nonce => .ok (s.setNonce env addr nonce)
  | .setCode addr code => .ok (s.setCode env addr code)
  | .setState addr key value => .ok (s.setState env addr key value)
  | .setTransientState addr key value => .ok (s.setTransientState addr key value)
  | .createAccount addr => .ok (s.createAccount env addr)
  | .suicide addr => .ok (s.suicide env addr)
  | .selfDestruct addr => .ok (s.selfDestruct env addr)
  | .selfdestruct6780 addr => .ok (s.selfdestruct6780 env addr)
  | .addAddressToAccessList addr => .ok (s.addAddressToAccessList addr)
  | .addSlotToAccessList addr slot => s.addSlotToAccessList addr slot
  | .prepareAccessList sender dst precompiles list =>
    s.prepareAccessList sender dst precompiles list
  | .snapshot => .ok s.snapshot.1
  | .revertToSnapshot revid => s.revertToSnapshot env revid

/-- The state after some calls. -/
def run (env : Env) (calls : List Call) (s : StateDB) : Except Panic StateDB :=
  calls.foldlM (Call.exec env) s

end Moca.Evm
