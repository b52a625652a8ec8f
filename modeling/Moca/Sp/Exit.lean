/-
# Exiting storage providers

`x/sp` and `x/virtualgroup` run over one store of providers: `x/virtualgroup` marks a
provider as exiting and removes it, `x/sp` lets it go into maintenance and back.  A
provider that is exiting is refused by `UpdateSpStatus`.  The sweep at the end of a block,
however, looks at every provider that is not in service: one with an open maintenance
record whose time is over is put back in service, also while it exits.

A provider that has no open maintenance record when its exit starts stays exiting until it is
removed (`exit_absorbing`).
-/

import Moca.Sp.Indexes
import Moca.VirtualGroup.Moves

namespace Moca.Sp

open SortedMap State

/-! ### The two modules together -/

/-- The contexts of a block for the two modules. -/
structure BlockCtx where
  sp : Ctx
  virtualGroup : VirtualGroup.Ctx

/-- The stores of the two modules; the providers and the bank are those of `x/sp`. -/
structure System where
  sp : State
  virtualGroup : VirtualGroup.State

/-- What `x/virtualgroup` sees: the providers and the bank of `x/sp`. -/
def System.view (s : System) : VirtualGroup.State :=
  { s.virtualGroup with
    sp := s.sp.store
    payment := { s.virtualGroup.payment with balance := s.sp.balance } }

/-- The messages of the two modules, and the steps of the others. -/
inductive SystemOp
  | sp (op : Op)
  | virtualGroup (op : VirtualGroup.Op)

/-- What a message of `x/virtualgroup` asks of `x/sp`. -/
def providerCall : VirtualGroup.Op → Option Op
  | .storageProviderExit storageProvider => some (.setStatus storageProvider .gracefulExiting)
  | .storageProviderForcedExit storageProvider => some (.setStatus storageProvider .forcedExiting)
  | .completeStorageProviderExit storageProvider => some (.exit storageProvider)
  | _ => none

/-- The store of `x/sp` after a message of `x/virtualgroup`. -/
def State.afterCall (ctx : Ctx) (s : State) (op : VirtualGroup.Op) : State :=
  match providerCall op with
  | none => s
  | some call => (call.run ctx s).toOption.getD s

/-- The steps that `x/sp` takes by itself. -/
def Op.isOwn : Op → Bool
  | .setStatus _ _ | .exit _ => false
  | _ => true

/-- The steps that `x/virtualgroup` takes while the store of the providers stands still. -/
def leavesProviders : VirtualGroup.Op → Bool
  | .sp _ => false
  | _ => true

/-- A step of the chain: a message that fails is rolled back. -/
def System.step (s : System) (l : BlockCtx × SystemOp) : Option System :=
  match l.2 with
  | .sp op =>
    if op.isOwn then
      match op.run l.1.sp s.sp with
      | .ok sp => some { s with sp := sp }
      | .error _ => some s
    else none
  | .virtualGroup op =>
    if leavesProviders op then
      match op.run l.1.virtualGroup s.view with
      | .ok virtualGroup => some
        { sp := { s.sp.afterCall l.1.sp op with balance := virtualGroup.payment.balance }
          virtualGroup := virtualGroup }
      | .error _ => some s
    else none

/-! ### The two views of the providers agree -/

variable {ctx : BlockCtx} {s s' : System} {addr : Addr} {g : Limits}

theorem store_getStorageProviderByOperatorAddr (s : State) (addr : Addr) :
    s.store.getStorageProviderByOperatorAddr addr =
      (s.getStorageProviderByOperatorAddr addr).map Provider.toStorageProvider := by
  unfold Store.getStorageProviderByOperatorAddr State.getStorageProviderByOperatorAddr lookup
  show (s.byOperatorAddr.find? addr).bind s.store.getStorageProvider = _
  cases s.byOperatorAddr.find? addr with
  | none => rfl
  | some id => exact find?_mapWithKey _ _ _

/-- A provider that `x/virtualgroup` finds is one of `x/sp`. -/
theorem operator_view {sp : StorageProvider} (h : s.view.operator addr = .ok sp) :
    ∃ sp', s.sp.getStorageProviderByOperatorAddr addr = some sp' ∧ sp = sp'.toStorageProvider := by
  have hfind := VirtualGroup.operator_eq_ok.1 h
  change s.sp.store.getStorageProviderByOperatorAddr addr = some sp at hfind
  rw [store_getStorageProviderByOperatorAddr] at hfind
  obtain ⟨sp', hsp', heq⟩ := Option.map_eq_some_iff.1 hfind
  exact ⟨sp', hsp', heq.symm⟩

/-! ### Once exiting, always exiting -/

/-- `x/virtualgroup` starts an exit only of a provider all of whose maintenance records are
closed. -/
def exitLimits : Limits where
  setStatus s sp status := status.isExiting = true ∧ s.Closed sp.operatorAddress
  exit := True

/-- The records of a provider that exits are closed. -/
def State.ExitingClosed (s : State) : Prop :=
  ∀ id sp, s.providers.find? id = some sp → sp.status.isExiting = true → s.Closed sp.operatorAddress

section Effect

variable {s s' : State}

/-- The maintenance records under an address have not changed. -/
theorem State.Closed.congr (h : s.Closed addr)
    (heq : s'.maintenanceStats.find? addr = s.maintenanceStats.find? addr) : s'.Closed addr := by
  intro records hfind
  rw [heq] at hfind
  exact h records hfind

/-- Another provider has another operator address. -/
theorem State.AddressIndexes.operator_ne (h : s.AddressIndexes) {sp sp' : Provider} {id : ℕ}
    (hsp : s.providers.find? sp.id = some sp) (hsp' : s.providers.find? id = some sp')
    (hne : id ≠ sp.id) : sp'.operatorAddress ≠ sp.operatorAddress := fun heq =>
  hne (h.operator.eq_of_key_eq hsp' hsp heq)

theorem State.ExitingClosed.effect (h : s.ExitingClosed) (hindexes : s.AddressIndexes)
    (he : Effect exitLimits s s') : s'.ExitingClosed := by
  cases he with
  | note hrecords _ hstats =>
    intro id sp hfind hexit
    rw [hrecords] at hfind
    exact (h id sp hfind hexit).congr (by rw [hstats])
  | register sp _ _ _ hstatus hrecords _ _ _ _ _ _ _ hstats =>
    unfold ExitingClosed
    rw [hrecords]
    refine forall_insert ?_ fun id sp' _ hfind hexit => ?_
    · intro hexit
      rw [hstatus] at hexit
      simp at hexit
    · exact (h id sp' hfind hexit).congr (by rw [hstats])
  | edit sp sp' hsp hedit heq =>
    rw [heq]
    refine forall_insert ?_ fun id sp' _ hfind hexit => ?_
    · intro hexit
      rw [hedit.status] at hexit
      rw [hedit.operator]
      exact h sp.id sp hsp hexit
    · exact h id sp' hfind hexit
  | write sp sp' hsp hkeys hstatus hrecords _ hstats hclosed =>
    unfold ExitingClosed
    rw [hrecords]
    refine forall_insert ?_ fun id sp' hne hfind hexit => ?_
    · intro hexit
      rw [hkeys.operator]
      refine hclosed hexit ?_
      rcases hstatus with hsame | hallowed | hnot
      · rw [hsame (.inr hexit)] at hexit
        exact h sp.id sp hsp hexit
      · exact hallowed.2
      · rw [hnot.2] at hexit
        cases hexit
    · exact (h id sp' hfind hexit).congr (hstats _ (hindexes.operator_ne hsp hfind hne))
  | exit sp hsp _ heq =>
    rw [heq]
    exact fun id sp' hfind => h id sp' (find?_of_erase hfind)

/-- **A write does not bring a provider back from its exit.** -/
theorem Effect.isExiting (he : Effect exitLimits s s') (hclosed : s.ExitingClosed)
    {id : ℕ} (hid : id ≤ s.spSequence)
    (h : ∀ sp, s.providers.find? id = some sp → sp.status.isExiting = true) :
    ∀ sp, s'.providers.find? id = some sp → sp.status.isExiting = true := by
  -- a record written over that of an exiting provider
  have hinsert : ∀ {sp sp' : Provider}, s.providers.find? sp.id = some sp →
      s'.providers = s.providers.insert sp.id sp' →
      (sp.status.isExiting = true → sp'.status.isExiting = true) →
      ∀ sp₁, s'.providers.find? id = some sp₁ → sp₁.status.isExiting = true := by
    intro sp sp' hsp hrecords hstatus sp₁ hfind
    rw [hrecords, find?_insert] at hfind
    split_ifs at hfind with heq
    · cases hfind
      exact hstatus (h sp (heq ▸ hsp))
    · exact h sp₁ hfind
  cases he with
  | note hrecords => rwa [hrecords]
  | register sp _ hnew _ _ hrecords =>
    intro sp₁ hfind
    rw [hrecords, find?_insert] at hfind
    split_ifs at hfind with heq
    · omega
    · exact h sp₁ hfind
  | edit sp sp' hsp hedit heq =>
    have hrecords : s'.providers = s.providers.insert sp.id sp' := by
      rw [heq, ← hedit.id]
      rfl
    exact hinsert hsp hrecords fun hexit => by rw [hedit.status, hexit]
  | write sp sp' hsp _ hstatus hrecords =>
    refine hinsert hsp hrecords fun hexit => ?_
    rcases hstatus with hsame | hallowed | hnot
    · rw [hsame (.inl (hclosed sp.id sp hsp hexit)), hexit]
    · exact hallowed.1
    · rw [hnot.1] at hexit
      cases hexit
  | exit sp hsp _ heq =>
    rw [heq]
    exact fun sp₁ hfind => h sp₁ (find?_of_erase hfind)

theorem Effect.spSequence_le (he : Effect g s s') : s.spSequence ≤ s'.spSequence := by
  cases he with
  | note _ hindexes => exact hindexes.sequence.ge
  | register _ _ _ _ _ _ _ _ _ _ _ _ hsequence =>
    rw [hsequence]
    exact Nat.le_succ _
  | edit _ _ _ _ heq =>
    rw [heq]
    exact le_rfl
  | write _ _ _ _ _ _ hindexes => exact hindexes.sequence.ge
  | exit _ _ _ heq =>
    rw [heq]
    exact le_rfl

end Effect

/-! ### Runs -/

/-- The conditions on a step. -/
def SystemOp.Allowed (g : Limits) (s : System) : SystemOp → Prop
  | .sp op => op.Allowed g s.sp
  | .virtualGroup op => ∀ call ∈ providerCall op, call.Allowed g s.sp

/-- **Every step is a row of writes to the store of `x/sp`.** -/
theorem System.step_writes {l : BlockCtx × SystemOp} (hop : l.2.Allowed g s)
    (h : s.step l = some s') : Writes g s.sp s'.sp := by
  unfold System.step at h
  split at h
  · rename_i op heq
    rw [heq] at hop
    split_ifs at h
    split at h
    · rename_i sp hrun
      cases h
      exact run_writes hop hrun
    · cases h
      exact .refl
  · rename_i op heq
    rw [heq] at hop
    split_ifs at h
    split at h
    · rename_i vg hrun
      cases h
      have hcall : Writes g s.sp (s.sp.afterCall l.1.sp op) := by
        unfold afterCall
        split
        · exact .refl
        · rename_i call hcall
          cases hrun : call.run l.1.sp s.sp with
          | error e => exact .refl
          | ok sp => exact run_writes (hop call hcall) hrun
      exact hcall.tail (.note rfl ⟨rfl, rfl, rfl, rfl, rfl, rfl, rfl⟩ rfl)
    · cases h
      exact .refl

/-- What holds in every state of a run. -/
structure State.ExitSafe (s : State) : Prop where
  ids : s.FreshIds
  indexes : s.AddressIndexes
  closed : s.ExitingClosed

theorem State.ExitSafe.effect {s s' : State} (he : Effect exitLimits s s') (h : s.ExitSafe) :
    s'.ExitSafe :=
  ⟨h.ids.effect he, h.indexes.effect he h.ids, h.closed.effect h.indexes he⟩

theorem State.ExitSafe.empty (p : Params) (balance : Addr → ℤ) : (State.empty p balance).ExitSafe where
  ids := by
    intro id sp hfind
    simp [State.empty] at hfind
  indexes := ⟨.empty _, .empty _, .empty _, .empty _, .empty _⟩
  closed := by
    intro id sp hfind
    simp [State.empty] at hfind

/-- **Exit states are absorbing.**  In every run in which an exit starts only with closed
maintenance records, a provider that is exiting is exiting in every later state, until it is
removed; its id never comes back. -/
theorem exit_absorbing (p : Params) (b : Addr → ℤ) (vg : VirtualGroup.State) (s s' : System)
    (id : ℕ) (sp : Provider)
    (hreach : Reachable System.step (fun s l => l.2.Allowed exitLimits s) ⟨State.empty p b, vg⟩ s)
    (hsp : s.sp.providers.find? id = some sp) (hexit : sp.status.isExiting = true)
    (hlater : Reachable System.step (fun s l => l.2.Allowed exitLimits s) s s') :
    ∀ sp', s'.sp.providers.find? id = some sp' → sp'.status.isExiting = true := by
  have hsafe : s.sp.ExitSafe := by
    refine Reachable.invariant (fun s : System => s.sp.ExitSafe) (.empty p b) ?_ hreach
    intro s₁ l s₂ h hop hstep
    exact (System.step_writes hop hstep).invariant (I := ExitSafe)
      (fun _ _ he h => h.effect he) h
  have hinv : s'.sp.ExitSafe ∧ id ≤ s'.sp.spSequence ∧
      ∀ sp', s'.sp.providers.find? id = some sp' → sp'.status.isExiting = true := by
    refine Reachable.invariant (fun s : System => s.sp.ExitSafe ∧ id ≤ s.sp.spSequence ∧
      ∀ sp', s.sp.providers.find? id = some sp' → sp'.status.isExiting = true) ?_ ?_ hlater
    · refine ⟨hsafe, hsafe.ids id sp hsp, fun sp' hsp' => ?_⟩
      rw [hsp] at hsp'
      rw [← Option.some.inj hsp']
      exact hexit
    · intro s₁ l s₂ h hop hstep
      refine (System.step_writes hop hstep).invariant (I := fun s : State => s.ExitSafe ∧
        id ≤ s.spSequence ∧ ∀ sp', s.providers.find? id = some sp' → sp'.status.isExiting = true)
        ?_ h
      rintro s₃ s₄ he ⟨hsafe₃, hid, hexiting⟩
      exact ⟨hsafe₃.effect he, hid.trans he.spSequence_le,
        he.isExiting hsafe₃.closed hid hexiting⟩
  exact hinv.2.2

/-! ### A provider that exits after a maintenance -/

instance (s : State) (addr : Addr) : Decidable (s.Closed addr) :=
  inferInstanceAs (Decidable (∀ records ∈ s.maintenanceStats.find? addr,
    ∀ record ∈ records, record.actualDuration ≠ 0))

instance (s : State) (sp : Provider) (status : Status) :
    Decidable (exitLimits.setStatus s sp status) :=
  inferInstanceAs (Decidable (_ = true ∧ s.Closed sp.operatorAddress))

instance : Decidable exitLimits.exit := isTrue trivial

instance (s : System) : (op : SystemOp) → Decidable (op.Allowed exitLimits s)
  | .sp op => inferInstanceAs (Decidable (op.Allowed exitLimits s.sp))
  | .virtualGroup op =>
    inferInstanceAs (Decidable (∀ call ∈ providerCall op, call.Allowed exitLimits s.sp))

/-- A block at a height and a time. -/
def blockAt (height time : ℤ) : BlockCtx where
  sp := { blockTime := time, blockHeight := height, hasAccount := fun _ => true }
  virtualGroup := { blockTime := time, expectSecondarySPNum := 1 }

/-- The stores before the first provider. -/
def systemStart : System where
  sp := sampleStart
  virtualGroup := VirtualGroup.State.empty VirtualGroup.defaultParams sampleStart.store
    (Payment.State.empty Payment.defaultParams sampleStart.balance)

/-- A provider is in maintenance for five seconds, and then it exits. -/
def exitAfterMaintenance : List (BlockCtx × SystemOp) :=
  [(blockAt 0 10, .sp (.createStorageProvider sampleMsg)),
    (blockAt 1 100, .sp (.updateSpStatus 101 .inMaintenance 10)),
    (blockAt 2 105, .sp (.updateSpStatus 101 .inService 0)),
    (blockAt 3 110, .virtualGroup (.storageProviderExit 101))]

/-- The sweep at the end of a later block leaves it exiting. -/
theorem exit_absorbing_swept : ∃ s s' sp', runSteps System.step systemStart exitAfterMaintenance =
      some s ∧ s.step (blockAt 100 1000, .sp .endBlock) = some s' ∧
    s'.sp.providers.find? 1 = some sp' ∧ sp'.status.isExiting = true := by
  obtain ⟨s, hs, ⟨sp, hsp, hexit⟩, s', hs', sp', hsp', -⟩ : ∃ s,
      runSteps System.step systemStart exitAfterMaintenance = some s ∧
      (∃ sp, s.sp.providers.find? 1 = some sp ∧ sp.status.isExiting = true) ∧
      ∃ s', s.step (blockAt 100 1000, .sp .endBlock) = some s' ∧
        ∃ sp', s'.sp.providers.find? 1 = some sp' ∧ True := by decide +kernel
  have hlater : Reachable System.step (fun s l => l.2.Allowed exitLimits s) s s' :=
    Reachable.start.next (a := (blockAt 100 1000, .sp .endBlock)) trivial hs'
  refine ⟨s, s', sp', hs, hs', hsp', ?_⟩
  exact exit_absorbing defaultParams (fun _ => 10 ^ 30) _ s s' 1 sp
    (.of_runSteps .start (by decide +kernel) hs) hsp hexit hlater sp' hsp'

/-- The authority forces a provider to exit that is in maintenance. -/
def forcedExitInMaintenance : List (BlockCtx × SystemOp) :=
  [(blockAt 0 10, .sp (.createStorageProvider sampleMsg)),
    (blockAt 1 100, .sp (.updateSpStatus 101 .inMaintenance 10)),
    (blockAt 2 105, .virtualGroup (.storageProviderForcedExit 101))]

/-- **The sweep puts an exiting provider back in service.** -/
theorem exit_revoked :
    ∃ s, runSteps System.step systemStart forcedExitInMaintenance = some s ∧
      (∃ sp, s.sp.providers.find? 1 = some sp ∧ sp.status = .forcedExiting) ∧
      ∃ s', s.step (blockAt 100 1000, .sp .endBlock) = some s' ∧
        ∃ sp, s'.sp.providers.find? 1 = some sp ∧ sp.status = .inService := by
  decide +kernel

end Moca.Sp
