/-
# Deposits, the bank and the global prices

What the steps of `x/sp` do to the deposits of the providers, to the bank and to the
history of global prices.  A provider that joins and a deposit move coins from a funding
account to the module account and a slash moves coins out of it; all other steps leave
the deposits and the bank alone (`run_sameLedger`).  A global price is written at the time
of the block, at the end of a block (`run_prices`).
-/

import Moca.Lib.KeyCodec
import Moca.Sp.Effect

namespace Moca.Sp

open SortedMap

variable {ctx : Ctx} {s s' s₁ : State} {sp : Provider} {op : Op}

/-! ### Deposits -/

/-- The funding address of a provider and its deposit. -/
def Provider.account (sp : Provider) : Addr × ℤ := (sp.fundingAddress, sp.totalDeposit)

/-- The accounts of the providers. -/
def State.accounts (s : State) : SortedMap ℕ (Addr × ℤ) :=
  s.providers.mapWithKey fun _ sp => sp.account

theorem find?_accounts (s : State) (id : ℕ) :
    s.accounts.find? id = (s.providers.find? id).map Provider.account :=
  find?_mapWithKey _ _ _

theorem accounts_of_find? {id : ℕ} (h : s.providers.find? id = some sp) :
    s.accounts.find? id = some sp.account := by
  rw [find?_accounts, h]
  rfl

theorem accounts_setStorageProvider (s : State) (sp : Provider) :
    (s.setStorageProvider sp).accounts = s.accounts.insert sp.id sp.account :=
  mapWithKey_insert s.providers (fun _ sp => sp.account) sp.id sp

theorem accounts_exit (s : State) (sp : Provider) : (s.exit sp).accounts = s.accounts.erase sp.id :=
  mapWithKey_erase s.providers (fun _ sp => sp.account) sp.id

/-- A record that is written over with the same account. -/
theorem accounts_rewrite {sp' : Provider} (hsp : s.providers.find? sp.id = some sp)
    (hid : sp'.id = sp.id) (haccount : sp'.account = sp.account) :
    (s.setStorageProvider sp').accounts = s.accounts := by
  rw [accounts_setStorageProvider, hid, haccount]
  exact insert_eq_self (accounts_of_find? hsp)

/-! ### Steps that move no coins -/

/-- Two states with the same accounts of providers and the same bank. -/
structure SameLedger (s s' : State) : Prop where
  accounts : s'.accounts = s.accounts
  balance : s'.balance = s.balance

theorem SameLedger.refl (s : State) : SameLedger s s := ⟨rfl, rfl⟩

theorem SameLedger.trans (h : SameLedger s s₁) (h' : SameLedger s₁ s') : SameLedger s s' :=
  ⟨h'.accounts.trans h.accounts, h'.balance.trans h.balance⟩

theorem forceUpdateRecords_sameLedger (hsp : s.providers.find? sp.id = some sp) :
    SameLedger s (s.forceUpdateRecords ctx sp) := by
  unfold State.forceUpdateRecords
  split
  · exact .refl s
  · dsimp only
    split_ifs
    · exact ⟨accounts_rewrite hsp rfl rfl, rfl⟩
    · exact ⟨rfl, rfl⟩

theorem updateGlobalSpStorePrice_sameLedger : SameLedger s (s.updateGlobalSpStorePrice ctx) := by
  unfold State.updateGlobalSpStorePrice
  split
  · exact .refl s
  · exact .refl s
  · exact ⟨rfl, rfl⟩

theorem endBlocker_sameLedger : SameLedger s (s.endBlocker ctx) := by
  have hprice : ∀ s₁ : State, SameLedger s s₁ →
      SameLedger s (if s₁.needUpdate ctx then s₁.updateGlobalSpStorePrice ctx else s₁) := by
    intro s₁ h
    split_ifs
    · exact h.trans updateGlobalSpStorePrice_sameLedger
    · exact h
  apply hprice
  split_ifs
  · exact forceUpdateMaintenanceRecords_invariant (SameLedger s)
      (fun _ _ hsp h => h.trans (forceUpdateRecords_sameLedger hsp)) (.refl s)
  · exact .refl s

/-- A step that has nothing to do with deposits. -/
def Op.isQuiet : Op → Bool
  | .createStorageProvider _ | .deposit _ _ _ | .slash _ _ | .exit _ => false
  | _ => true

/-- **The other steps move no coins** and change no deposit. -/
theorem run_sameLedger (hop : op.isQuiet = true) (h : op.run ctx s = .ok s') : SameLedger s s' := by
  cases op with
  | createStorageProvider msg => simp [Op.isQuiet] at hop
  | deposit creator spAddress coin => simp [Op.isQuiet] at hop
  | slash spID rewardInfos => simp [Op.isQuiet] at hop
  | exit operatorAddr => simp [Op.isQuiet] at hop
  | editStorageProvider msg =>
    obtain ⟨sp, sp', hsp, hedit, hdeposit, rfl⟩ := editStorageProvider_eq_ok h
    exact ⟨accounts_rewrite (s := s.dropOldKeys sp sp') hsp hedit.id
      (Prod.ext hedit.funding hdeposit), rfl⟩
  | updateSpStoragePrice spAddress readPrice freeReadQuota storePrice =>
    rw [updateSpStoragePrice_eq_ok h]
    exact ⟨rfl, rfl⟩
  | updateSpStatus spAddress newStatus duration =>
    obtain ⟨sp, status, stats, hsp, -, -, -, rfl⟩ := updateSpStatus_eq_ok h
    exact ⟨accounts_rewrite (s := { s with maintenanceStats := stats }) hsp rfl rfl, rfl⟩
  | updateParams p =>
    obtain ⟨-, rfl⟩ := updateParams_eq_ok h
    exact ⟨rfl, rfl⟩
  | setStatus operatorAddr status =>
    obtain ⟨sp, -, hsp, rfl⟩ := setStatus_eq_ok h
    exact ⟨accounts_rewrite hsp rfl rfl, rfl⟩
  | endBlock =>
    cases h
    exact endBlocker_sameLedger

/-! ### Global prices -/

theorem endBlocker_prices : WrittenAt {ctx.blockTime} s.globalSpStorePrices
    (s.endBlocker ctx).globalSpStorePrices := by
  have hprice : ∀ s₁ : State, s₁.globalSpStorePrices = s.globalSpStorePrices →
      WrittenAt {ctx.blockTime} s.globalSpStorePrices (if s₁.needUpdate ctx then
        s₁.updateGlobalSpStorePrice ctx else s₁).globalSpStorePrices := by
    intro s₁ h
    split_ifs
    · unfold State.updateGlobalSpStorePrice
      split
      · exact .of_eq h
      · exact .of_eq h
      · rw [← h]
        exact .insert _ _ rfl
    · exact .of_eq h
  apply hprice
  split_ifs
  · refine forceUpdateMaintenanceRecords_invariant
      (fun s₁ => s₁.globalSpStorePrices = s.globalSpStorePrices) (fun s₁ sp _ h => ?_) rfl
    unfold State.forceUpdateRecords
    split
    · exact h
    · dsimp only
      split_ifs
      · exact h
      · exact h
  · rfl

/-- **A global price is written at the time of the block.** -/
theorem run_prices (h : op.run ctx s = .ok s') :
    WrittenAt {ctx.blockTime} s.globalSpStorePrices s'.globalSpStorePrices := by
  cases op with
  | createStorageProvider msg =>
    obtain ⟨maintenanceAddress, s₁, -, -, hsend, rfl⟩ := createStorageProvider_eq_ok h
    rw [sendCoins_eq_ok hsend]
    exact .refl _ _
  | editStorageProvider msg =>
    obtain ⟨sp, sp', -, -, -, rfl⟩ := editStorageProvider_eq_ok h
    exact .refl _ _
  | deposit creator spAddress coin =>
    obtain ⟨sp, s₁, -, -, hsend, rfl⟩ := deposit_eq_ok h
    rw [sendCoins_eq_ok hsend]
    exact .refl _ _
  | updateSpStoragePrice spAddress readPrice freeReadQuota storePrice =>
    rw [updateSpStoragePrice_eq_ok h]
    exact .refl _ _
  | updateSpStatus spAddress newStatus duration =>
    obtain ⟨sp, status, stats, -, -, -, -, rfl⟩ := updateSpStatus_eq_ok h
    exact .refl _ _
  | updateParams p =>
    obtain ⟨-, rfl⟩ := updateParams_eq_ok h
    exact .refl _ _
  | slash spID rewardInfos =>
    obtain ⟨sp, total, s₁, -, -, -, -, hpaid, rfl⟩ := slash_eq_ok h
    rw [rewards_eq_ok hpaid]
    exact .refl _ _
  | setStatus operatorAddr status =>
    obtain ⟨sp, -, -, rfl⟩ := setStatus_eq_ok h
    exact .refl _ _
  | exit operatorAddr =>
    obtain ⟨sp, -, -, rfl⟩ := exit_eq_ok h
    exact .refl _ _
  | endBlock =>
    cases h
    exact endBlocker_prices

end Moca.Sp
