/-
# The storage providers

`x/sp/types/types.go` and `x/sp/keeper/sp.go`, as far as the other modules read
them: the records by id and the indexes by operator and by funding address.  A
record is always written under its own id, so the store carries that as a proof.
-/

import Moca.Payment.Types

namespace Moca.Sp

/-- The address of the module account that holds the deposits of the storage providers. -/
def moduleAddress : Addr := 0xbe18b85f77fc024db379acf19e8a1ce62307ab7b

/-- `Status`. -/
inductive Status
  | inService
  | inJailed
  | gracefulExiting
  | inMaintenance
  | forcedExiting
  deriving DecidableEq, Repr

/-- `STATUS_GRACEFUL_EXITING` or `STATUS_FORCED_EXITING`. -/
def Status.isExiting (st : Status) : Bool := decide (st = .gracefulExiting ∨ st = .forcedExiting)

/-- `StorageProvider`. -/
structure StorageProvider where
  id : ℕ
  operatorAddress : Addr
  fundingAddress : Addr
  approvalAddress : Addr
  totalDeposit : ℤ
  status : Status
  deriving DecidableEq, Repr

/-- `IsInService`. -/
def StorageProvider.isInService (sp : StorageProvider) : Bool := decide (sp.status = .inService)

/-- `IsInMaintenance`. -/
def StorageProvider.isInMaintenance (sp : StorageProvider) : Bool :=
  decide (sp.status = .inMaintenance)

/-- The records and their indexes. -/
structure Store where
  providers : SortedMap ℕ StorageProvider
  byOperatorAddr : SortedMap Addr ℕ
  byFundingAddr : SortedMap Addr ℕ
  id_key : ∀ i sp, providers.find? i = some sp → sp.id = i

/-- The store before the first storage provider. -/
def Store.empty : Store where
  providers := .empty
  byOperatorAddr := .empty
  byFundingAddr := .empty
  id_key := by simp

/-- `GetStorageProvider`. -/
def Store.getStorageProvider (s : Store) (id : ℕ) : Option StorageProvider := s.providers.find? id

/-- `GetStorageProviderByOperatorAddr`. -/
def Store.getStorageProviderByOperatorAddr (s : Store) (addr : Addr) : Option StorageProvider :=
  (s.byOperatorAddr.find? addr).bind s.getStorageProvider

/-- `GetStorageProviderByFundingAddr`. -/
def Store.getStorageProviderByFundingAddr (s : Store) (addr : Addr) : Option StorageProvider :=
  (s.byFundingAddr.find? addr).bind s.getStorageProvider

/-- `SetStorageProvider`. -/
def Store.setStorageProvider (s : Store) (sp : StorageProvider) : Store where
  providers := s.providers.insert sp.id sp
  byOperatorAddr := s.byOperatorAddr
  byFundingAddr := s.byFundingAddr
  id_key := SortedMap.forall_insert rfl fun i sp' _ => s.id_key i sp'

/-- `SetStorageProviderByOperatorAddr`. -/
def Store.setStorageProviderByOperatorAddr (s : Store) (sp : StorageProvider) : Store :=
  { s with byOperatorAddr := s.byOperatorAddr.insert sp.operatorAddress sp.id }

/-- `SetStorageProviderByFundingAddr`. -/
def Store.setStorageProviderByFundingAddr (s : Store) (sp : StorageProvider) : Store :=
  { s with byFundingAddr := s.byFundingAddr.insert sp.fundingAddress sp.id }

/-- `GetAllStorageProviders`. -/
def Store.getAllStorageProviders (s : Store) : List StorageProvider :=
  s.providers.entries.map fun e => e.2

/-- `Exit`. -/
def Store.exit (s : Store) (sp : StorageProvider) : Store where
  providers := s.providers.erase sp.id
  byOperatorAddr := s.byOperatorAddr.erase sp.operatorAddress
  byFundingAddr := s.byFundingAddr.erase sp.fundingAddress
  id_key i sp' h := s.id_key i sp' (SortedMap.find?_of_erase h)

variable {sp : StorageProvider} {addr : Addr} {s : Store}

/-- The record found by operator address is the one stored under its id. -/
theorem getStorageProvider_of_byOperatorAddr (h : s.getStorageProviderByOperatorAddr addr = some sp) :
    s.getStorageProvider sp.id = some sp := by
  obtain ⟨i, -, hi⟩ := Option.bind_eq_some_iff.1 h
  rw [s.id_key i sp hi]
  exact hi

theorem getStorageProvider_of_byFundingAddr (h : s.getStorageProviderByFundingAddr addr = some sp) :
    s.getStorageProvider sp.id = some sp := by
  obtain ⟨i, -, hi⟩ := Option.bind_eq_some_iff.1 h
  rw [s.id_key i sp hi]
  exact hi

/-- A provider in service; its addresses are numbered like the provider. -/
def numberedProvider (id : ℕ) : StorageProvider :=
  ⟨id, 100 + id, 200 + id, 300 + id, 0, .inService⟩

/-- Providers with the given ids. -/
def numberedProviders (ids : List ℕ) : Store :=
  ids.foldl (fun store id =>
    ((store.setStorageProvider (numberedProvider id)).setStorageProviderByOperatorAddr
      (numberedProvider id)).setStorageProviderByFundingAddr (numberedProvider id)) .empty

end Moca.Sp
