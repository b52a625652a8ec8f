/-
# Export and import of the module's state

`x/payment/genesis.go`.  `ExportGenesis` writes the parameters, the stream records,
the payment accounts with their counts and the settle queue into a genesis state;
`InitGenesis` writes a genesis state into the store.  `GenesisState` has no field for
the out-flows, the resume queue, the delayed withdrawals and the parameters of
earlier times, so that these are lost on the way: `initGenesis_exportGenesis` says
what comes out, and `genesis_round_trip_iff` for which states nothing is missing.

The balances of the module account and of the other accounts belong to the genesis
of the bank, and are the same before and after.
-/

import Moca.Payment.Msg

namespace Moca.Payment

open State

/-- `GenesisState`. -/
structure GenesisState where
  params : Params
  streamRecordList : List (Addr × StreamRecord)
  paymentAccountCountList : List (Addr × ℕ)
  paymentAccountList : List (Addr × PaymentAccount)
  autoSettleRecordList : List (QueueKey × Unit)

/-- `ExportGenesis`. -/
def exportGenesis (s : State) : GenesisState where
  params := s.params
  streamRecordList := s.streamRecords.entries
  paymentAccountCountList := s.paymentAccountCounts.entries
  paymentAccountList := s.paymentAccounts.entries
  autoSettleRecordList := s.autoSettleRecords.entries

/-- `SetPaymentAccountCount`. -/
def State.setPaymentAccountCount (s : State) (owner : Addr) (count : ℕ) : State :=
  { s with paymentAccountCounts := s.paymentAccountCounts.insert owner count }

/-- `SetPaymentAccount`. -/
def State.setPaymentAccount (s : State) (addr : Addr) (p : PaymentAccount) : State :=
  { s with paymentAccounts := s.paymentAccounts.insert addr p }

/-- `InitGenesis`; invalid parameters and records make it panic. -/
def initGenesis (ctx : Ctx) (s : State) (g : GenesisState) : Except Error State := do
  let s ← g.streamRecordList.foldlM (fun s e => s.setStreamRecord e.1 e.2) s
  let s := g.paymentAccountCountList.foldl (fun s e => s.setPaymentAccountCount e.1 e.2) s
  let s := g.paymentAccountList.foldl (fun s e => s.setPaymentAccount e.1 e.2) s
  let s := g.autoSettleRecordList.foldl
    (fun s e => s.setAutoSettleRecord e.1.timestamp e.1.addr) s
  updateParams ctx s g.params

/-- An empty store, next to the bank of `s`. -/
def State.emptyStore (s : State) (p : Params) : State :=
  { empty p s.balance with pool := s.pool }

/-! ### The loops of `InitGenesis` -/

/-- The records are written if all of them pass the check. -/
theorem foldlM_setStreamRecord_eq_ok {s' : State} :
    ∀ {l : List (Addr × StreamRecord)} {s : State},
      l.foldlM (fun s e => s.setStreamRecord e.1 e.2) s = .ok s' ↔
        (∀ e ∈ l, checkStreamRecord e.2 = true) ∧ s' = { s with
          streamRecords := l.foldl (fun m e => m.insert e.1 e.2) s.streamRecords }
  | [], s => by
    rw [List.foldlM_nil, pure_eq_ok, eq_comm]
    exact ⟨fun h => ⟨fun e he => absurd he List.not_mem_nil, h⟩, fun h => h.2⟩
  | e :: l, s => by
    rw [List.foldlM_cons, bind_eq_ok, List.forall_mem_cons, List.foldl_cons]
    constructor
    · rintro ⟨s₁, h₁, h⟩
      obtain ⟨hcheck, rfl⟩ := setStreamRecord_eq_ok.1 h₁
      obtain ⟨hall, rfl⟩ := foldlM_setStreamRecord_eq_ok.1 h
      exact ⟨⟨hcheck, hall⟩, rfl⟩
    · rintro ⟨⟨hcheck, hall⟩, rfl⟩
      exact ⟨_, setStreamRecord_eq_ok.2 ⟨hcheck, rfl⟩,
        foldlM_setStreamRecord_eq_ok.2 ⟨hall, rfl⟩⟩

theorem foldl_setPaymentAccountCount :
    ∀ (l : List (Addr × ℕ)) (s : State),
      l.foldl (fun s e => s.setPaymentAccountCount e.1 e.2) s = { s with
        paymentAccountCounts := l.foldl (fun m e => m.insert e.1 e.2) s.paymentAccountCounts }
  | [], _ => rfl
  | e :: l, s => by
    rw [List.foldl_cons, foldl_setPaymentAccountCount l, List.foldl_cons]
    rfl

theorem foldl_setPaymentAccount :
    ∀ (l : List (Addr × PaymentAccount)) (s : State),
      l.foldl (fun s e => s.setPaymentAccount e.1 e.2) s = { s with
        paymentAccounts := l.foldl (fun m e => m.insert e.1 e.2) s.paymentAccounts }
  | [], _ => rfl
  | e :: l, s => by
    rw [List.foldl_cons, foldl_setPaymentAccount l, List.foldl_cons]
    rfl

theorem foldl_setAutoSettleRecord :
    ∀ (l : List (QueueKey × Unit)) (s : State),
      l.foldl (fun s e => s.setAutoSettleRecord e.1.timestamp e.1.addr) s = { s with
        autoSettleRecords := l.foldl (fun m e => m.insert e.1 e.2) s.autoSettleRecords }
  | [], _ => rfl
  | e :: l, s => by
    rw [List.foldl_cons, foldl_setAutoSettleRecord l, List.foldl_cons]
    rfl

/-! ### The round trip -/

/-- What the import of an export leaves of a state: the records `GenesisState` has a field for, and
the parameters in force, from the time of the import on. -/
def State.reimported (ctx : Ctx) (s : State) : State :=
  { s with
    versionedParams := SortedMap.empty.insert ctx.blockTime s.params.versionedParams
    outFlows := .empty
    autoResumeRecords := .empty
    delayedWithdrawals := .empty }

/-- **Import after export.**  It succeeds exactly if all records pass `CheckStreamRecord` and the
parameters are valid, and then gives the reimported state. -/
theorem initGenesis_exportGenesis (ctx : Ctx) (p : Params) (s s' : State) :
    initGenesis ctx (s.emptyStore p) (exportGenesis s) = .ok s' ↔
      (∀ a r, s.streamRecords.find? a = some r → checkStreamRecord r = true) ∧
        s.params.validate = true ∧ s' = s.reimported ctx := by
  have hcheck : (∀ e ∈ s.streamRecords.entries, checkStreamRecord e.2 = true) ↔
      ∀ a r, s.streamRecords.find? a = some r → checkStreamRecord r = true := by
    constructor
    · intro h a r hr
      exact h _ (SortedMap.find?_eq_some_iff.1 hr)
    · rintro h ⟨a, r⟩ he
      exact h a r (SortedMap.find?_eq_some_iff.2 he)
  unfold initGenesis exportGenesis
  rw [bind_eq_ok]
  simp only [foldlM_setStreamRecord_eq_ok, foldl_setPaymentAccountCount, foldl_setPaymentAccount,
    foldl_setAutoSettleRecord, updateParams, hcheck]
  constructor
  · rintro ⟨s₁, ⟨hall, rfl⟩, h⟩
    dsimp only [emptyStore, empty] at h
    simp only [SortedMap.foldl_insert_entries] at h
    split_ifs at h with hvalid
    cases h
    exact ⟨hall, hvalid, rfl⟩
  · rintro ⟨hall, hvalid, rfl⟩
    refine ⟨_, ⟨hall, rfl⟩, ?_⟩
    dsimp only [emptyStore, empty]
    simp only [SortedMap.foldl_insert_entries]
    exact if_pos hvalid

/-- **When the round trip is the identity.**  Exporting a state and importing it into an empty
store at some time gives the state again if and only if it has no out-flows, no account in the
resume queue, no delayed withdrawal, and no parameters of another time than that of the import; its
records have to pass `CheckStreamRecord` and its parameters to be valid. -/
theorem genesis_round_trip_iff (ctx : Ctx) (p : Params) (s : State) :
    initGenesis ctx (s.emptyStore p) (exportGenesis s) = .ok s ↔
      (s.outFlows = .empty ∧ s.autoResumeRecords = .empty ∧ s.delayedWithdrawals = .empty ∧
        s.versionedParams = SortedMap.empty.insert ctx.blockTime s.params.versionedParams) ∧
      (∀ a r, s.streamRecords.find? a = some r → checkStreamRecord r = true) ∧
        s.params.validate = true := by
  rw [initGenesis_exportGenesis]
  constructor
  · rintro ⟨hcheck, hvalid, h⟩
    exact ⟨⟨congrArg State.outFlows h, congrArg autoResumeRecords h,
      congrArg delayedWithdrawals h, congrArg versionedParams h⟩, hcheck, hvalid⟩
  · rintro ⟨⟨hflows, hresume, hdelayed, hversions⟩, hcheck, hvalid⟩
    refine ⟨hcheck, hvalid, ?_⟩
    unfold reimported
    rw [← hflows, ← hresume, ← hdelayed, ← hversions]

/-- The bank account of `1` has coins to deposit. -/
def payerChain : Chain where
  state := empty defaultParams fun a => if a = 1 then 10 ^ 12 else 0
  time := 0

/-- Account `1` deposits and then pays `5` in a second to account `2`. -/
def payerRun : List (Ctx × Op) :=
  [({ blockTime := 1000, hasAccount := fun _ => true }, .deposit 1 1 (10 ^ 12)),
    ({ blockTime := 1000, hasAccount := fun _ => true },
      .applyUserFlowsList false [{ fromAddr := 1, flows := [{ toAddr := 2, rate := 5 }] }])]

/-- **A flow is lost.**  After a deposit and a flow the imported state has no flow, while the record
of the payer still counts one. -/
theorem genesis_loses_flows :
    ∃ c, runSteps Chain.exec payerChain payerRun = some c ∧
      c.state.outFlows.find? ⟨1, .active, 2⟩ = some 5 ∧
      ∀ s', initGenesis { blockTime := 2000 } (c.state.emptyStore defaultParams)
          (exportGenesis c.state) = .ok s' →
        s' ≠ c.state ∧ s'.outFlows.find? ⟨1, .active, 2⟩ = none ∧
          (s'.record 1).outFlowCount = 1 := by
  obtain ⟨c, hc, hflow, hcount⟩ : ∃ c,
      runSteps Chain.exec payerChain payerRun = some c ∧
      c.state.outFlows.find? ⟨1, .active, 2⟩ = some 5 ∧ (c.state.record 1).outFlowCount = 1 := by
    decide +kernel
  refine ⟨c, hc, hflow, fun s' hs' => ?_⟩
  obtain ⟨-, -, rfl⟩ := (initGenesis_exportGenesis _ _ _ _).1 hs'
  refine ⟨fun heq => ?_, rfl, hcount⟩
  have hnone : c.state.outFlows = .empty := (congrArg State.outFlows heq).symm
  rw [hnone] at hflow
  cases hflow

end Moca.Payment
