/-
# What the steps of `x/sp` write

Each message is taken apart once.  What a step does to the records, the indexes and the
maintenance records is one of a few kinds of writes (`Effect`), or several of them in a
row at the end of a block; the invariants of the module are proved from these alone.

`Limits` are the assumptions about what `x/virtualgroup` asks for: on which providers it
sets a status, and whether it removes one.
-/

import Mathlib.Logic.Relation
import Moca.Sp.Msg

namespace Moca.Sp

open SortedMap State

variable {ctx : Ctx} {s s' : State}

/-- What the other modules may ask for. -/
structure Limits where
  setStatus : State → Provider → Status → Prop
  exit : Prop

/-- Two records of one provider have the same six keys. -/
structure SameKeys (sp sp' : Provider) : Prop where
  operator : sp'.operatorAddress = sp.operatorAddress
  funding : sp'.fundingAddress = sp.fundingAddress
  sealing : sp'.sealAddress = sp.sealAddress
  approval : sp'.approvalAddress = sp.approvalAddress
  gc : sp'.gcAddress = sp.gcAddress
  bls : sp'.blsKey = sp.blsKey

theorem SameKeys.withStatus (sp : Provider) (status : Status) :
    SameKeys sp { sp with status := status } := ⟨rfl, rfl, rfl, rfl, rfl, rfl⟩

/-- The indexes and the sequence are those of another state. -/
structure SameIndexes (s s' : State) : Prop where
  operator : s'.byOperatorAddr = s.byOperatorAddr
  funding : s'.byFundingAddr = s.byFundingAddr
  sealing : s'.bySealAddr = s.bySealAddr
  approval : s'.byApprovalAddr = s.byApprovalAddr
  gc : s'.byGcAddr = s.byGcAddr
  bls : s'.byBlsKey = s.byBlsKey
  sequence : s'.spSequence = s.spSequence

theorem SameIndexes.refl (s : State) : SameIndexes s s := ⟨rfl, rfl, rfl, rfl, rfl, rfl, rfl⟩

/-- No provider is found under one of the keys of a new one. -/
structure State.Unused (s : State) (sp : Provider) : Prop where
  operator : s.lookup s.byOperatorAddr sp.operatorAddress = none
  funding : s.lookup s.byFundingAddr sp.fundingAddress = none
  sealing : s.lookup s.bySealAddr sp.sealAddress = none
  approval : s.lookup s.byApprovalAddr sp.approvalAddress = none
  gc : s.lookup s.byGcAddr sp.gcAddress = none
  bls : s.lookup s.byBlsKey sp.blsKey = none

/-- The key of an edited record is its old one, or leads to no other provider. -/
def State.NotOthers {κ : Type} [LinearOrder κ] (s : State) (index : SortedMap κ ℕ)
    (id : ℕ) (old new : κ) : Prop :=
  new = old ∨ ∀ other, s.lookup index new = some other → other.id = id

/-- What an edit may change in a record. -/
structure State.Edited (s : State) (sp sp' : Provider) : Prop where
  id : sp'.id = sp.id
  status : sp'.status = sp.status
  operator : sp'.operatorAddress = sp.operatorAddress
  funding : sp'.fundingAddress = sp.fundingAddress
  sealing : s.NotOthers s.bySealAddr sp.id sp.sealAddress sp'.sealAddress
  approval : s.NotOthers s.byApprovalAddr sp.id sp.approvalAddress sp'.approvalAddress
  gc : s.NotOthers s.byGcAddr sp.id sp.gcAddress sp'.gcAddress
  bls : s.NotOthers s.byBlsKey sp.id sp.blsKey sp'.blsKey

/-- All maintenance records under an address are closed. -/
def State.Closed (s : State) (addr : Addr) : Prop :=
  ∀ records, s.maintenanceStats.find? addr = some records →
    ∀ record ∈ records, record.actualDuration ≠ 0

/-- **The kinds of writes.** -/
inductive Effect (g : Limits) (s s' : State) : Prop
  /-- Parameters, prices or the bank. -/
  | note (hrecords : s'.providers = s.providers) (hindexes : SameIndexes s s')
    (hstats : s'.maintenanceStats = s.maintenanceStats)
  /-- A new provider. -/
  | register (sp : Provider) (hseq : s.spSequence + 1 < 2 ^ 32) (hid : sp.id = s.spSequence + 1)
    (hunused : s.Unused sp) (hstatus : sp.status.isExiting = false)
    (hrecords : s'.providers = s.providers.insert sp.id sp)
    (hoperator : s'.byOperatorAddr = s.byOperatorAddr.insert sp.operatorAddress sp.id)
    (hfunding : s'.byFundingAddr = s.byFundingAddr.insert sp.fundingAddress sp.id)
    (hseal : s'.bySealAddr = s.bySealAddr.insert sp.sealAddress sp.id)
    (happroval : s'.byApprovalAddr = s.byApprovalAddr.insert sp.approvalAddress sp.id)
    (hgc : s'.byGcAddr = s.byGcAddr.insert sp.gcAddress sp.id)
    (hbls : s'.byBlsKey = s.byBlsKey.insert sp.blsKey sp.id)
    (hsequence : s'.spSequence = s.spSequence + 1)
    (hstats : s'.maintenanceStats = s.maintenanceStats)
  /-- `EditStorageProvider`. -/
  | edit (sp sp' : Provider) (hsp : s.providers.find? sp.id = some sp) (hedit : s.Edited sp sp')
    (heq : s' = s.rewrite sp sp')
  /-- A record with the same keys.  The status is the old one, unless the sweep at the end of a
  block has closed an open maintenance record; or it is set by `x/virtualgroup`; or it is that of
  the start or the end of a maintenance. -/
  | write (sp sp' : Provider) (hsp : s.providers.find? sp.id = some sp) (hkeys : SameKeys sp sp')
    (hstatus : (s.Closed sp.operatorAddress ∨ sp'.status.isExiting = true →
        sp'.status = sp.status) ∨ g.setStatus s sp sp'.status ∨
      (sp.status.isExiting = false ∧ sp'.status.isExiting = false))
    (hrecords : s'.providers = s.providers.insert sp.id sp') (hindexes : SameIndexes s s')
    (hstats : ∀ addr, addr ≠ sp.operatorAddress →
      s'.maintenanceStats.find? addr = s.maintenanceStats.find? addr)
    (hclosed : sp'.status.isExiting = true → s.Closed sp.operatorAddress →
      s'.Closed sp.operatorAddress)
  /-- A provider removed by `x/virtualgroup`. -/
  | exit (sp : Provider) (hsp : s.providers.find? sp.id = some sp) (hallowed : g.exit)
    (heq : s' = s.exit sp)

/-- Writes one after the other. -/
def Writes (g : Limits) : State → State → Prop := Relation.ReflTransGen (Effect g)

/-- **An invariant of every kind of write is one of a row of them.** -/
theorem Writes.invariant {g : Limits} {I : State → Prop}
    (hI : ∀ s s', Effect g s s' → I s → I s') (h : Writes g s s') (hs : I s) : I s' := by
  induction h with
  | refl => exact hs
  | tail _ he ih => exact hI _ _ he ih

variable {g : Limits}

/-! ### Lookups -/

variable {κ : Type} [LinearOrder κ] {sp sp' : Provider} {spAddress : Addr}
  {rewardInfos : List RewardInfo} {duration amount : ℤ} {index : SortedMap κ ℕ} {k : κ} {e : Error}
  {u : Unit} {id spID : ℕ} {addr creator recipient operatorAddr : Addr}
  {msg : MsgCreateStorageProvider} {coin : VirtualGroup.Coin} {newStatus : Status}
  {records : List MaintenanceRecord}

theorem lookup_eq_some (h : s.lookup index k = some sp) :
    index.find? k = some sp.id ∧ s.providers.find? sp.id = some sp := by
  obtain ⟨i, hi, hsp⟩ := Option.bind_eq_some_iff.1 h
  obtain rfl : sp.id = i := s.id_key i sp hsp
  exact ⟨hi, hsp⟩

theorem checkUnused_eq_ok (h : s.checkUnused index k e = .ok u) :
    s.lookup index k = none := by
  unfold checkUnused at h
  split at h
  · simp at h
  · assumption

theorem checkNotOthers_eq_ok {new : Option κ}
    (h : s.checkNotOthers index id e new = .ok u) (old : κ) :
    s.NotOthers index id old (new.getD old) := by
  unfold checkNotOthers at h
  split at h
  · exact Or.inl rfl
  · right
    intro other hother
    rw [Option.getD_some] at hother
    rw [hother] at h
    dsimp only at h
    split_ifs at h with hid
    exact not_not.1 hid

/-- Only the bank changes. -/
theorem sendCoins_eq_ok {sender : Addr} (h : s.sendCoins sender recipient amount = .ok s') :
    s' = { s with balance := s'.balance } := by
  unfold sendCoins at h
  split_ifs at h
  cases h
  rfl

theorem sendCoinsFromModuleToAccount_eq_ok
    (h : s.sendCoinsFromModuleToAccount ctx recipient amount = .ok s') :
    s' = { s with balance := s'.balance } := by
  unfold sendCoinsFromModuleToAccount at h
  split_ifs at h
  exact sendCoins_eq_ok h

/-! ### The messages -/

/-- **A new provider** has the next id, keys that lead to no other provider, and a deposit that its
funding account has paid. -/
theorem createStorageProvider_eq_ok (h : createStorageProvider ctx s msg = .ok s') :
    ∃ maintenanceAddress s₁,
      s.Unused (newStorageProvider ctx (inc32 s₁.spSequence) maintenanceAddress msg) ∧
      s.params.minDeposit ≤ msg.deposit.amount ∧
      s.sendCoins msg.fundingAddress moduleAddress msg.deposit.amount = .ok s₁ ∧
      s' = register ctx { s₁ with spSequence := inc32 s₁.spSequence }
        (newStorageProvider ctx (inc32 s₁.spSequence) maintenanceAddress msg) msg := by
  unfold createStorageProvider at h
  obtain ⟨-, h⟩ := ite_error_eq_ok.1 h
  obtain ⟨-, h⟩ := ite_error_eq_ok.1 h
  split at h
  · simp at h
  rename_i maintenanceAddress _
  obtain ⟨-, h⟩ := ite_error_eq_ok.1 h
  obtain ⟨-, h⟩ := ite_error_eq_ok.1 h
  obtain ⟨_, hoperator, h⟩ := bind_eq_ok.1 h
  obtain ⟨_, hfunding, h⟩ := bind_eq_ok.1 h
  obtain ⟨_, hseal, h⟩ := bind_eq_ok.1 h
  obtain ⟨_, happroval, h⟩ := bind_eq_ok.1 h
  obtain ⟨_, hgc, h⟩ := bind_eq_ok.1 h
  obtain ⟨-, h⟩ := ite_error_eq_ok.1 h
  obtain ⟨_, hbls, h⟩ := bind_eq_ok.1 h
  obtain ⟨-, h⟩ := ite_error_eq_ok.1 h
  obtain ⟨_, -, h⟩ := bind_eq_ok.1 h
  obtain ⟨hmin, h⟩ := ite_error_eq_ok.1 h
  obtain ⟨-, h⟩ := ite_error_eq_ok.1 h
  obtain ⟨-, h⟩ := ite_error_eq_ok.1 h
  obtain ⟨s₁, hsend, h⟩ := bind_eq_ok.1 h
  exact ⟨maintenanceAddress, s₁,
    ⟨checkUnused_eq_ok hoperator, checkUnused_eq_ok hfunding, checkUnused_eq_ok hseal,
      checkUnused_eq_ok happroval, checkUnused_eq_ok hgc, checkUnused_eq_ok hbls⟩,
    not_lt.1 hmin, hsend, (Except.ok.inj h).symm⟩

theorem createStorageProvider_effect (h : createStorageProvider ctx s msg = .ok s')
    (hseq : s.spSequence + 1 < 2 ^ 32) : Effect g s s' := by
  obtain ⟨maintenanceAddress, s₁, hunused, -, hsend, rfl⟩ := createStorageProvider_eq_ok h
  have hs₁ := sendCoins_eq_ok hsend
  have hinc : inc32 s₁.spSequence = s.spSequence + 1 := by
    rw [hs₁]
    exact Nat.mod_eq_of_lt hseq
  refine .register (newStorageProvider ctx (inc32 s₁.spSequence) maintenanceAddress msg) hseq hinc
    hunused ?_ ?_ ?_ ?_ ?_ ?_ ?_ ?_ hinc ?_
  · -- a new provider is in service or in maintenance
    show (if ctx.blockHeight = 0 then Status.inService else .inMaintenance).isExiting = false
    split_ifs <;> rfl
  all_goals
    rw [hs₁]
    rfl

theorem edited_eq_ok {msg : MsgEditStorageProvider} (h : s.edited ctx sp msg = .ok sp') :
    s.Edited sp sp' ∧ sp'.totalDeposit = sp.totalDeposit := by
  unfold State.edited at h
  obtain ⟨description, -, h⟩ := bind_eq_ok.1 h
  obtain ⟨_, hseal, h⟩ := bind_eq_ok.1 h
  obtain ⟨_, happroval, h⟩ := bind_eq_ok.1 h
  obtain ⟨_, hgc, h⟩ := bind_eq_ok.1 h
  split at h
  · simp at h
  obtain ⟨_, hbls, h⟩ := bind_eq_ok.1 h
  split at h
  · simp at h
  cases h
  exact ⟨⟨rfl, rfl, rfl, rfl, checkNotOthers_eq_ok hseal _, checkNotOthers_eq_ok happroval _,
    checkNotOthers_eq_ok hgc _, checkNotOthers_eq_ok hbls _⟩, rfl⟩

theorem editStorageProvider_eq_ok {msg : MsgEditStorageProvider}
    (h : editStorageProvider ctx s msg = .ok s') :
    ∃ sp sp', s.providers.find? sp.id = some sp ∧ s.Edited sp sp' ∧
      sp'.totalDeposit = sp.totalDeposit ∧ s' = s.rewrite sp sp' := by
  unfold editStorageProvider at h
  split at h
  · simp at h
  split at h
  · simp at h
  rename_i sp hsp
  obtain ⟨sp', hedit, h⟩ := bind_eq_ok.1 h
  split at h
  · simp at h
  obtain ⟨hedited, hdeposit⟩ := edited_eq_ok hedit
  exact ⟨sp, sp', (lookup_eq_some hsp).2, hedited, hdeposit, (Except.ok.inj h).symm⟩

/-- **A deposit** goes from the funding account of a provider to the module account. -/
theorem deposit_eq_ok (h : deposit s creator spAddress coin = .ok s') :
    ∃ sp s₁, s.providers.find? sp.id = some sp ∧ 0 < coin.amount ∧
      s.sendCoins sp.fundingAddress moduleAddress coin.amount = .ok s₁ ∧
      s' = s₁.setStorageProvider { sp with totalDeposit := sp.totalDeposit + coin.amount } := by
  unfold deposit at h
  split at h
  · simp at h
  rename_i hpos
  split at h
  · simp at h
  rename_i sp hsp
  split at h
  · simp at h
  split at h
  · simp at h
  obtain ⟨s₁, hsend, h⟩ := bind_eq_ok.1 h
  exact ⟨sp, s₁, (lookup_eq_some hsp).2, not_le.1 hpos, hsend, (Except.ok.inj h).symm⟩

theorem deposit_effect (h : deposit s creator spAddress coin = .ok s') : Effect g s s' := by
  obtain ⟨sp, s₁, hsp, -, hsend, rfl⟩ := deposit_eq_ok h
  rw [sendCoins_eq_ok hsend]
  exact .write sp { sp with totalDeposit := sp.totalDeposit + coin.amount } hsp
    ⟨rfl, rfl, rfl, rfl, rfl, rfl⟩ (.inl fun _ => rfl) rfl
    ⟨rfl, rfl, rfl, rfl, rfl, rfl, rfl⟩ (fun _ _ => rfl) fun _ hclosed => hclosed

/-- **A slash** pays the rewards, which the deposit of the provider covers. -/
theorem slash_eq_ok (h : s.slash ctx spID rewardInfos = .ok s') :
    ∃ sp total s₁, sp.id = spID ∧ s.providers.find? sp.id = some sp ∧
      totalReward s.params.depositDenom rewardInfos 0 = .ok total ∧ total ≤ sp.totalDeposit ∧
      rewardInfos.foldlM (fun s info =>
        s.sendCoinsFromModuleToAccount ctx info.address info.amount.amount) s = .ok s₁ ∧
      s' = s₁.setStorageProvider { sp with totalDeposit := sp.totalDeposit - total } := by
  unfold State.slash at h
  split at h
  · simp at h
  rename_i sp hsp
  obtain ⟨total, htotal, h⟩ := bind_eq_ok.1 h
  split at h
  · simp at h
  rename_i hcovered
  obtain ⟨s₁, hpaid, h⟩ := bind_eq_ok.1 h
  obtain rfl : sp.id = spID := s.id_key _ _ hsp
  exact ⟨sp, total, s₁, rfl, hsp, htotal, not_lt.1 hcovered, hpaid, (Except.ok.inj h).symm⟩

/-- The payments of a slash only concern the bank. -/
theorem rewards_eq_ok {s₁ : State}
    (h : rewardInfos.foldlM (fun s info =>
      s.sendCoinsFromModuleToAccount ctx info.address info.amount.amount) s = .ok s₁) :
    s₁ = { s with balance := s₁.balance } := by
  refine foldlM_invariant (fun s₁ => s₁ = { s with balance := s₁.balance }) ?_ rfl h
  intro s₁ info s₂ _ hs₁ hsend
  rw [sendCoinsFromModuleToAccount_eq_ok hsend, hs₁]

theorem slash_effect (h : s.slash ctx spID rewardInfos = .ok s') : Effect g s s' := by
  obtain ⟨sp, total, s₁, -, hsp, -, -, hpaid, rfl⟩ := slash_eq_ok h
  rw [rewards_eq_ok hpaid]
  exact .write sp { sp with totalDeposit := sp.totalDeposit - total } hsp
    ⟨rfl, rfl, rfl, rfl, rfl, rfl⟩ (.inl fun _ => rfl) rfl
    ⟨rfl, rfl, rfl, rfl, rfl, rfl, rfl⟩ (fun _ _ => rfl) fun _ hclosed => hclosed

theorem updateToInMaintenance_eq_ok (h : s.updateToInMaintenance ctx sp duration = .ok (sp', s')) :
    sp' = { sp with status := .inMaintenance } ∧ ∃ records,
      s' = { s with maintenanceStats := s.maintenanceStats.insert sp.operatorAddress records } := by
  unfold updateToInMaintenance at h
  split at h
  · simp at h
  dsimp only at h
  split at h
  · cases h
    exact ⟨rfl, _, rfl⟩
  · split at h
    · simp at h
    split at h
    · simp at h
    cases h
    exact ⟨rfl, _, rfl⟩

theorem updateToInService_eq (ctx : Ctx) (s : State) (sp : Provider) :
    (s.updateToInService ctx sp).1 = { sp with status := .inService } ∧
    ((s.updateToInService ctx sp).2 = s ∨ ∃ records, (s.updateToInService ctx sp).2 =
      { s with maintenanceStats := s.maintenanceStats.insert sp.operatorAddress records }) := by
  unfold updateToInService
  dsimp only
  split
  · exact ⟨rfl, Or.inl rfl⟩
  · exact ⟨rfl, Or.inr ⟨_, rfl⟩⟩

/-- **`UpdateSpStatus`** moves a provider between service and maintenance. -/
theorem updateSpStatus_eq_ok (h : updateSpStatus ctx s spAddress newStatus duration = .ok s') :
    ∃ sp status stats, s.providers.find? sp.id = some sp ∧ sp.status.isExiting = false ∧
      status.isExiting = false ∧
      (∀ addr, addr ≠ sp.operatorAddress → stats.find? addr = s.maintenanceStats.find? addr) ∧
      s' = State.setStorageProvider { s with maintenanceStats := stats }
        { sp with status := status } := by
  unfold updateSpStatus at h
  split at h
  · simp at h
  split at h
  · simp at h
  rename_i sp hfound
  obtain ⟨-, hsp⟩ := lookup_eq_some hfound
  split at h
  · simp at h
  split at h
  · rename_i hstatus
    split at h
    · simp at h
    obtain ⟨⟨sp₁, s₁⟩, hup, h⟩ := bind_eq_ok.1 h
    cases h
    obtain ⟨rfl, records, rfl⟩ := updateToInMaintenance_eq_ok hup
    exact ⟨sp, .inMaintenance, _, hsp, by rw [hstatus]; rfl, rfl,
      fun addr haddr => find?_insert_of_ne _ _ haddr, rfl⟩
  · rename_i hstatus
    split at h
    · simp at h
    cases h
    obtain ⟨hsp₁, hs₁⟩ := updateToInService_eq ctx s sp
    rw [hsp₁]
    rcases hs₁ with hs₁ | ⟨records, hs₁⟩
    · rw [hs₁]
      exact ⟨sp, .inService, s.maintenanceStats, hsp, by rw [hstatus]; rfl, rfl, fun _ _ => rfl, rfl⟩
    · rw [hs₁]
      exact ⟨sp, .inService, _, hsp, by rw [hstatus]; rfl, rfl,
        fun addr haddr => find?_insert_of_ne _ _ haddr, rfl⟩
  all_goals simp at h

theorem updateSpStatus_effect (h : updateSpStatus ctx s spAddress newStatus duration = .ok s') :
    Effect g s s' := by
  obtain ⟨sp, status, stats, hsp, hold, hnew, hstats, rfl⟩ := updateSpStatus_eq_ok h
  refine .write sp { sp with status := status } hsp (.withStatus sp status) (.inr (.inr ⟨hold, hnew⟩))
    rfl ⟨rfl, rfl, rfl, rfl, rfl, rfl, rfl⟩ hstats fun hexit => ?_
  rw [hnew] at hexit
  cases hexit

/-! ### The end of a block -/

/-- A closed record is not overdue. -/
theorem isOverdue_eq_false {curTime : ℤ} (h : ∀ record ∈ records, record.actualDuration ≠ 0)
    (sp : Provider) : sp.isOverdue curTime records = false := by
  unfold Provider.isOverdue
  rw [Bool.and_eq_false_iff]
  right
  rw [List.any_eq_false]
  intro record hrecord hoverdue
  unfold MaintenanceRecord.isOverdue at hoverdue
  exact h record hrecord (of_decide_eq_true hoverdue).1

/-- The records under the other addresses stay, and those that are left are among the new ones. -/
theorem setRecords_closed (h : ∀ record ∈ records, record.actualDuration ≠ 0) :
    (s.setRecords addr records).Closed addr := by
  intro kept hkept
  unfold setRecords at hkept
  dsimp only at hkept
  split_ifs at hkept
  · simp at hkept
  · rw [find?_insert_self] at hkept
    cases hkept
    exact h

theorem setRecords_find?_of_ne {addr' : Addr} (records : List MaintenanceRecord) (h : addr' ≠ addr) :
    (s.setRecords addr records).maintenanceStats.find? addr' = s.maintenanceStats.find? addr' := by
  unfold setRecords
  dsimp only
  split_ifs
  · exact find?_erase_of_ne _ h
  · exact find?_insert_of_ne _ _ h

/-- **One round of the sweep.** -/
theorem forceUpdateRecords_effect (hsp : s.providers.find? sp.id = some sp) :
    Effect g s (s.forceUpdateRecords ctx sp) := by
  unfold forceUpdateRecords
  split
  · exact .note rfl (.refl s) rfl
  rename_i records hrecords
  dsimp only
  by_cases hover : sp.isOverdue ctx.blockTime records = true
  · -- an overdue record is an open one
    have hopen : ¬s.Closed sp.operatorAddress := by
      intro hclosed
      rw [isOverdue_eq_false (hclosed records hrecords)] at hover
      simp at hover
    rw [if_pos hover]
    refine .write sp { sp with status := .inService } hsp (.withStatus sp _) (.inl ?_) rfl
      ⟨rfl, rfl, rfl, rfl, rfl, rfl, rfl⟩ (fun _ h => setRecords_find?_of_ne _ h)
      (fun _ h => absurd h hopen)
    rintro (hclosed | hexit)
    · exact absurd hclosed hopen
    · simp [Status.isExiting] at hexit
  · rw [if_neg hover]
    refine .write sp sp hsp ⟨rfl, rfl, rfl, rfl, rfl, rfl⟩ (.inl fun _ => rfl)
      (insert_eq_self hsp).symm ⟨rfl, rfl, rfl, rfl, rfl, rfl, rfl⟩
      (fun _ h => setRecords_find?_of_ne _ h) ?_
    intro _ hclosed
    apply setRecords_closed
    unfold Provider.closeOverdue
    rw [if_neg hover]
    exact fun record h => hclosed records hrecords record ((List.rtakeWhile_suffix _ _).subset h)

/-- A round writes no other record than that of its provider. -/
theorem forceUpdateRecords_find?_of_ne (h : id ≠ sp.id) :
    (s.forceUpdateRecords ctx sp).providers.find? id = s.providers.find? id := by
  unfold forceUpdateRecords
  split
  · rfl
  dsimp only
  split_ifs
  · exact find?_insert_of_ne _ _ h
  · rfl

/-- The rounds for a list of providers, each with its record in the store. -/
theorem forceUpdate_invariant (I : State → Prop)
    (hround : ∀ s sp, s.providers.find? sp.id = some sp → I s → I (s.forceUpdateRecords ctx sp)) :
    ∀ (l : List Provider) {s : State}, (l.map fun sp => sp.id).Nodup →
      (∀ sp ∈ l, s.providers.find? sp.id = some sp) → I s →
      I (l.foldl (forceUpdateRecords ctx) s)
  | [], _, _, _, hs => hs
  | sp :: l, s, hnodup, hfound, hs => by
    rw [List.map_cons, List.nodup_cons] at hnodup
    refine forceUpdate_invariant I hround l hnodup.2 ?_
      (hround s sp (hfound sp List.mem_cons_self) hs)
    intro sp₂ hsp₂
    rw [forceUpdateRecords_find?_of_ne]
    · exact hfound sp₂ (List.mem_cons_of_mem _ hsp₂)
    · intro heq
      exact hnodup.1 (heq ▸ List.mem_map_of_mem hsp₂)

/-- **The sweep looks at every provider once**, so it keeps what its rounds keep. -/
theorem forceUpdateMaintenanceRecords_invariant (I : State → Prop)
    (hround : ∀ s sp, s.providers.find? sp.id = some sp → I s → I (s.forceUpdateRecords ctx sp))
    (hs : I s) : I (s.forceUpdateMaintenanceRecords ctx) := by
  have hentry : ∀ e ∈ s.providers.entries, e.2.id = e.1 ∧ s.providers.find? e.1 = some e.2 := by
    intro e he
    have hfind : s.providers.find? e.1 = some e.2 := find?_eq_some_iff.2 he
    exact ⟨s.id_key _ _ hfind, hfind⟩
  refine forceUpdate_invariant I hround _ ?_ ?_ hs
  · unfold State.getAllStorageProviders
    have hids : ((s.providers.entries.map fun e => e.2).map fun sp => sp.id) =
        s.providers.entries.map Prod.fst := by
      rw [List.map_map]
      exact List.map_congr_left fun e he => (hentry e he).1
    rw [hids]
    exact List.Pairwise.map _ (fun _ _ h => h.ne) s.providers.sorted
  · intro sp hsp
    obtain ⟨e, he, rfl⟩ := List.mem_map.1 hsp
    rw [(hentry e he).1]
    exact (hentry e he).2

theorem forceUpdateMaintenanceRecords_writes :
    Writes g s (s.forceUpdateMaintenanceRecords ctx) :=
  forceUpdateMaintenanceRecords_invariant (Writes g s)
    (fun _ _ hsp hw => hw.tail (forceUpdateRecords_effect hsp)) .refl

theorem updateGlobalSpStorePrice_effect : Effect g s (s.updateGlobalSpStorePrice ctx) := by
  unfold updateGlobalSpStorePrice
  split
  · exact .note rfl (.refl s) rfl
  · exact .note rfl (.refl s) rfl
  · exact .note rfl ⟨rfl, rfl, rfl, rfl, rfl, rfl, rfl⟩ rfl

/-- **The end of a block.** -/
theorem endBlocker_writes : Writes g s (s.endBlocker ctx) := by
  have hprice : ∀ s₁ : State, Writes g s s₁ →
      Writes g s (if s₁.needUpdate ctx then s₁.updateGlobalSpStorePrice ctx else s₁) := by
    intro s₁ h
    split_ifs
    · exact h.tail updateGlobalSpStorePrice_effect
    · exact h
  apply hprice
  split_ifs
  · exact forceUpdateMaintenanceRecords_writes
  · exact .refl

/-! ### Prices, parameters and the calls of other modules -/

theorem updateSpStoragePrice_eq_ok {readPrice storePrice : ℤ} {freeReadQuota : ℕ}
    (h : updateSpStoragePrice ctx s spAddress readPrice freeReadQuota storePrice = .ok s') :
    s' = { s with spStoragePrices := s'.spStoragePrices } := by
  unfold updateSpStoragePrice at h
  split at h
  · simp at h
  split at h
  · simp at h
  split at h
  · simp at h
  split at h
  · simp at h
  cases h
  rfl

theorem updateParams_eq_ok {p : Params} (h : updateParams s p = .ok s') :
    p.validate = true ∧ s' = { s with params := p } := by
  unfold updateParams at h
  split at h
  · simp at h
  rename_i hvalid
  exact ⟨Bool.not_eq_false _ ▸ hvalid, (Except.ok.inj h).symm⟩

theorem setStatus_eq_ok {status : Status}
    (h : (Op.setStatus operatorAddr status).run ctx s = .ok s') :
    ∃ sp, s.getStorageProviderByOperatorAddr operatorAddr = some sp ∧
      s.providers.find? sp.id = some sp ∧ s' = s.setStorageProvider { sp with status := status } := by
  simp only [Op.run] at h
  split at h
  · simp at h
  rename_i sp hsp
  exact ⟨sp, hsp, (lookup_eq_some hsp).2, (Except.ok.inj h).symm⟩

theorem exit_eq_ok (h : (Op.exit operatorAddr).run ctx s = .ok s') :
    ∃ sp, s.getStorageProviderByOperatorAddr operatorAddr = some sp ∧
      s.providers.find? sp.id = some sp ∧ s' = s.exit sp := by
  simp only [Op.run] at h
  split at h
  · simp at h
  rename_i sp hsp
  exact ⟨sp, hsp, (lookup_eq_some hsp).2, (Except.ok.inj h).symm⟩

/-! ### The steps of a run -/

/-- The id of a new provider is new, and what `x/virtualgroup` asks for is allowed. -/
def Op.Allowed (g : Limits) (s : State) : Op → Prop
  | .createStorageProvider _ => s.spSequence + 1 < 2 ^ 32
  | .setStatus operatorAddr status =>
    ∀ sp, s.getStorageProviderByOperatorAddr operatorAddr = some sp → g.setStatus s sp status
  | .exit _ => g.exit
  | _ => True

instance [∀ s sp status, Decidable (g.setStatus s sp status)] [Decidable g.exit] (s : State) :
    (op : Op) → Decidable (op.Allowed g s)
  | .createStorageProvider _ => inferInstanceAs (Decidable (s.spSequence + 1 < 2 ^ 32))
  | .setStatus operatorAddr status =>
    inferInstanceAs (Decidable (∀ sp ∈ s.getStorageProviderByOperatorAddr operatorAddr,
      g.setStatus s sp status))
  | .exit _ => inferInstanceAs (Decidable g.exit)
  | .editStorageProvider _ | .deposit _ _ _ | .updateSpStoragePrice _ _ _ _
  | .updateSpStatus _ _ _ | .updateParams _ | .slash _ _ | .endBlock => isTrue trivial

/-- **Every step is a row of writes.** -/
theorem run_writes {op : Op} (hop : op.Allowed g s) (h : op.run ctx s = .ok s') :
    Writes g s s' := by
  cases op with
  | createStorageProvider msg => exact .single (createStorageProvider_effect h hop)
  | editStorageProvider msg =>
    obtain ⟨sp, sp', hsp, hedit, -, heq⟩ := editStorageProvider_eq_ok h
    exact .single (.edit sp sp' hsp hedit heq)
  | deposit creator spAddress coin => exact .single (deposit_effect h)
  | updateSpStoragePrice spAddress readPrice freeReadQuota storePrice =>
    rw [updateSpStoragePrice_eq_ok h]
    exact .single (.note rfl ⟨rfl, rfl, rfl, rfl, rfl, rfl, rfl⟩ rfl)
  | updateSpStatus spAddress newStatus duration => exact .single (updateSpStatus_effect h)
  | updateParams p =>
    obtain ⟨-, rfl⟩ := updateParams_eq_ok h
    exact .single (.note rfl ⟨rfl, rfl, rfl, rfl, rfl, rfl, rfl⟩ rfl)
  | slash spID rewardInfos => exact .single (slash_effect h)
  | setStatus operatorAddr status =>
    obtain ⟨sp, hsp, hfound, rfl⟩ := setStatus_eq_ok h
    exact .single (.write sp { sp with status := status } hfound (.withStatus sp status)
      (.inr (.inl (hop sp hsp))) rfl ⟨rfl, rfl, rfl, rfl, rfl, rfl, rfl⟩ (fun _ _ => rfl)
      fun _ hclosed => hclosed)
  | exit operatorAddr =>
    obtain ⟨sp, -, hfound, rfl⟩ := exit_eq_ok h
    exact .single (.exit sp hfound hop rfl)
  | endBlock =>
    cases h
    exact endBlocker_writes

/-- **A step of a run** is a row of writes, or none. -/
theorem step_writes {l : Ctx × Op} (hop : l.2.Allowed g s) (h : s.step l = some s') :
    Writes g s s' := by
  unfold State.step at h
  split at h
  · rename_i s₁ hrun
    cases h
    exact run_writes hop hrun
  · cases h
    exact .refl

end Moca.Sp
