/-
# The keeper behind the `StateDB`

`x/evm/keeper/statedb.go`: accounts of the auth module, the bank balance of the EVM
coin, the codes under their hashes and the contract storage, with the reads and writes
the `StateDB` makes.

A balance is set by minting or burning the difference, so setting it fails where the
bank refuses to pay the address or the account cannot spend the difference.  A code is
removed by writing an empty one, so no stored code is empty.  The value of a storage slot
is removed by writing no bytes; a zero word has 32 of them and is stored.
-/

import Moca.Lib.Bytes
import Moca.Lib.Run
import Moca.Lib.SortedMap

namespace Moca.Evm

/-- `common.Address`. -/
abbrev Address := ℕ

/-- `common.Hash`: a 32-byte word. -/
abbrev Hash := ℕ

/-- `Storage`. -/
abbrev Storage := SortedMap Hash Hash

/-- What the module takes from elsewhere. -/
structure Env where
  /-- `crypto.Keccak256`. -/
  keccak256 : Bytes → Hash
  /-- The addresses the bank refuses to pay from a module account. -/
  blockedAddr : Address → Bool := fun _ => false
  /-- The coins of an account that are locked by vesting. -/
  lockedCoins : Address → ℤ := fun _ => 0

/-- `emptyCodeHash`. -/
def Env.emptyCodeHash (env : Env) : Hash := env.keccak256 []

/-- An account of the auth module.  Only an `EthAccountI` has a code hash. -/
structure AuthAccount where
  sequence : ℕ
  codeHash : Option Hash
  deriving DecidableEq

/-- `Account`: what the `StateDB` knows of an account. -/
structure Account where
  nonce : ℕ
  balance : ℤ
  codeHash : Hash
  deriving DecidableEq

/-- The stores the `StateDB` reads and writes. -/
structure Keeper where
  accounts : SortedMap Address AuthAccount
  /-- The bank balances of the EVM coin. -/
  balance : Address → ℤ
  /-- The supply of the EVM coin. -/
  supply : ℤ
  codes : SortedMap Hash {code : Bytes // code ≠ []}
  storage : Address → Storage

inductive KeeperError
  | blockedAddr (addr : Address)
  | insufficientFunds (addr : Address)
  | invalidAccount (addr : Address)
  deriving DecidableEq

namespace Keeper

variable (env : Env) (k : Keeper) {codeHash : Hash} {addr : Address} {k' : Keeper}

/-- `GetAccount`. -/
def getAccount (addr : Address) : Option Account :=
  (k.accounts.find? addr).map fun acct =>
    { nonce := acct.sequence
      balance := k.balance addr
      codeHash := acct.codeHash.getD env.emptyCodeHash }

/-- `GetState`: the zero word if nothing is stored. -/
def getState (addr : Address) (key : Hash) : Hash := ((k.storage addr).find? key).getD 0

/-- `GetCode`. -/
def getCode (codeHash : Hash) : Option Bytes := (k.codes.find? codeHash).map Subtype.val

/-- `SetBalance`: mint or burn the difference. -/
def setBalance (addr : Address) (amount : ℤ) : Except KeeperError Keeper :=
  let delta := amount - k.balance addr
  if 0 < delta then
    if env.blockedAddr addr then .error (.blockedAddr addr)
    else .ok { k with
      balance := Function.update k.balance addr amount
      supply := k.supply + delta }
  else if delta < 0 then
    if k.balance addr - env.lockedCoins addr < -delta then .error (.insufficientFunds addr)
    else .ok { k with
      balance := Function.update k.balance addr amount
      supply := k.supply + delta }
  else .ok k

/-- `SetAccount`. -/
def setAccount (addr : Address) (account : Account) : Except KeeperError Keeper :=
  let codeHash := match k.accounts.find? addr with
    | none => some account.codeHash
    | some acct => acct.codeHash.map fun _ => account.codeHash
  { k with accounts := k.accounts.insert addr ⟨account.nonce, codeHash⟩ }.setBalance env addr
    account.balance

/-- `SetState`; no value stands for no bytes, which delete the slot. -/
def setState (addr : Address) (key : Hash) (value : Option Hash) : Keeper :=
  { k with
    storage := Function.update k.storage addr (match value with
      | none => (k.storage addr).erase key
      | some v => (k.storage addr).insert key v) }

/-- `SetCode`: an empty code is deleted. -/
def setCode (codeHash : Hash) (code : Bytes) : Keeper :=
  { k with
    codes := if h : code = [] then k.codes.erase codeHash else k.codes.insert codeHash ⟨code, h⟩ }

/-- `DeleteAccount`. -/
def deleteAccount (addr : Address) : Except KeeperError Keeper :=
  match k.accounts.find? addr with
  | none => .ok k
  | some acct =>
    match acct.codeHash with
    | none => .error (.invalidAccount addr)
    | some _ => do
      let k ← k.setBalance env addr 0
      let k := (k.storage addr).entries.foldl (fun k e => k.setState addr e.1 none) k
      return { k with accounts := k.accounts.erase addr }

/-! ### Codes -/

/-- Writing a code that is stored already changes nothing. -/
theorem setCode_eq_self {k : Keeper} {code : Bytes} (h : k.getCode codeHash = some code) :
    k.setCode codeHash code = k := by
  unfold getCode at h
  obtain ⟨stored, hfind, rfl⟩ := Option.map_eq_some_iff.1 h
  unfold setCode
  rw [dif_neg stored.2, SortedMap.insert_eq_self hfind]

theorem getCode_setCode_of_ne {k : Keeper} {h : Hash} (code : Bytes) (hne : h ≠ codeHash) :
    (k.setCode codeHash code).getCode h = k.getCode h := by
  unfold getCode setCode
  dsimp only
  split_ifs
  · rw [SortedMap.find?_erase_of_ne _ hne]
  · rw [SortedMap.find?_insert_of_ne _ _ hne]

theorem setBalance_codes {k : Keeper} {amount : ℤ} (h : k.setBalance env addr amount = .ok k') :
    k'.codes = k.codes := by
  unfold setBalance at h
  dsimp only at h
  split_ifs at h <;> cases h <;> rfl

theorem setAccount_codes {k : Keeper} {account : Account}
    (h : k.setAccount env addr account = .ok k') : k'.codes = k.codes := by
  unfold setAccount at h
  exact (setBalance_codes env h).trans rfl

theorem deleteAccount_codes {k : Keeper} (h : k.deleteAccount env addr = .ok k') :
    k'.codes = k.codes := by
  have hclear : ∀ (l : List (Hash × Hash)) (k : Keeper),
      (l.foldl (fun k e => k.setState addr e.1 none) k).codes = k.codes := by
    intro l
    induction l with
    | nil => intro k; rfl
    | cons e l ih => intro k; exact ih _
  unfold deleteAccount at h
  split at h
  · cases h
    rfl
  · split at h
    · cases h
    · obtain ⟨k₁, h₁, h⟩ := bind_eq_ok.1 h
      cases h
      exact (hclear _ k₁).trans (setBalance_codes env h₁)

end Keeper

end Moca.Evm
