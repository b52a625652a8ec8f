/-
# Out-flows and `ApplyUserFlowsList`

`keeper/out_flow.go` and `keeper/storage_fee_charge.go`.  A list of user flows
changes the rate of its payers and of the receivers, and is merged into the
stored out-flows: under the status `ACTIVE` for an active payer, and for a frozen
payer under the status the flow to that receiver already has.
-/

import Moca.Payment.StreamRecord
import Mathlib.Data.List.Sort

namespace Moca.Payment

variable (ctx : Ctx) (s : State) (u : UserFlows)

/-- The stored out-flows. -/
abbrev OutFlows := SortedMap OutFlowKey ℤ

/-! ### The out-flow store -/

/-- `SetOutFlow`. -/
def setOutFlow (m : OutFlows) (addr : Addr) (status : OutFlowStatus) (o : OutFlow) : OutFlows :=
  m.insert ⟨addr, status, o.toAddr⟩ o.rate

/-- One round of the loop of `mergeOutFlows`: the store and the change of the count. -/
def mergeOutFlow (m : OutFlows) (addr : Addr) (status : OutFlowStatus) (o : OutFlow) :
    OutFlows × ℤ :=
  match m.find? ⟨addr, status, o.toAddr⟩ with
  | none => (setOutFlow m addr status o, 1)
  | some rate =>
    if rate + o.rate = 0 then (m.erase ⟨addr, status, o.toAddr⟩, -1)
    else (setOutFlow m addr status ⟨o.toAddr, rate + o.rate⟩, 0)

/-- `mergeOutFlows`, of which `MergeActiveOutFlows` and `MergeFrozenOutFlows` are the two
cases of `status`. -/
def mergeOutFlows (addr : Addr) (status : OutFlowStatus) : List OutFlow → OutFlows → OutFlows × ℤ
  | [], m => (m, 0)
  | o :: rest, m =>
    let (m, d) := mergeOutFlow m addr status o
    let (m, deltaCount) := mergeOutFlows addr status rest m
    (m, d + deltaCount)

/-! ### Merging changes of one address -/

/-- `MergeOutFlows`: one flow per receiver, without the zero ones. -/
def mergeOutFlowList (flows : List OutFlow) : List OutFlow :=
  if flows.length ≤ 1 then flows
  else
    let flowMap : SortedMap Addr ℤ :=
      SortedMap.group OutFlow.toAddr (fun rate f => rate.getD 0 + f.rate) flows
    ((flowMap.entries.filter fun e => decide (e.2 ≠ 0)).map fun e => ⟨e.1, e.2⟩).insertionSort
      fun a b => ctx.stringLe a.toAddr b.toAddr = true

/-- `MergeUserFlows`: one list of flows per payer. -/
def mergeUserFlows (userFlowsList : List UserFlows) : List UserFlows :=
  if userFlowsList.length ≤ 1 then userFlowsList
  else
    let userFlowsMap : SortedMap Addr (List OutFlow) :=
      SortedMap.group UserFlows.fromAddr (fun flows u => flows.getD [] ++ u.flows) userFlowsList
    (userFlowsMap.entries.map fun e => ⟨e.1, mergeOutFlowList ctx e.2⟩).insertionSort
      fun a b => ctx.stringLe a.fromAddr b.fromAddr = true

/-- The sum of two changes of one address, as `MergeStreamRecordChanges` takes it: the
frozen rate is not merged. -/
def StreamRecordChange.merge (current change : StreamRecordChange) : StreamRecordChange :=
  { current with
    rateChange := current.rateChange + change.rateChange
    staticBalanceChange := current.staticBalanceChange + change.staticBalanceChange
    lockBalanceChange := current.lockBalanceChange + change.lockBalanceChange }

/-- `MergeStreamRecordChanges`. -/
def mergeStreamRecordChanges (changes : List StreamRecordChange) : List StreamRecordChange :=
  if changes.length ≤ 1 then changes
  else
    let changeMap : SortedMap Addr StreamRecordChange :=
      SortedMap.group StreamRecordChange.addr
        (fun current c => (current.getD { addr := c.addr }).merge c) changes
    (changeMap.entries.map fun e => e.2).insertionSort
      fun a b => ctx.stringLe a.addr b.addr = true

/-! ### Applying user flows -/

/-- `ApplyStreamRecordChanges`. -/
def applyStreamRecordChanges (changes : List StreamRecordChange) : Except Error State :=
  (mergeStreamRecordChanges ctx changes).foldlM (updateStreamRecordByAddr ctx) s

/-- The rate changes of the receivers of some flows. -/
def rateChanges (flows : List OutFlow) : List StreamRecordChange :=
  flows.map fun f => { addr := f.toAddr, rateChange := f.rate }

/-- The total rate of some flows. -/
def totalRate (flows : List OutFlow) : ℤ := (flows.map fun f => f.rate).sum

/-- `applyActiveUserFlows`. -/
def applyActiveUserFlows (r : StreamRecord) : Except Error State := do
  let (s, r) ← updateStreamRecord ctx s u.fromAddr r
    { addr := u.fromAddr, rateChange := -totalRate u.flows }
  let (outFlows, deltaFlowCount) := mergeOutFlows u.fromAddr .active u.flows s.outFlows
  let s ← { s with outFlows := outFlows }.setStreamRecord u.fromAddr
    { r with outFlowCount := r.outFlowCount + deltaFlowCount }
  applyStreamRecordChanges ctx s (rateChanges u.flows)

/-- Whether a flow change of a frozen payer goes to its active flows. -/
def hasActiveFlow (m : OutFlows) (addr : Addr) (f : OutFlow) : Bool :=
  m.contains ⟨addr, .active, f.toAddr⟩

/-- `applyFrozenUserFlows`. -/
def applyFrozenUserFlows (r : StreamRecord) : Except Error State :=
  if ctx.forced then do
    let activeOutFlows := u.flows.filter fun f => hasActiveFlow s.outFlows u.fromAddr f
    let frozenOutFlows := u.flows.filter fun f => !hasActiveFlow s.outFlows u.fromAddr f
    let (s, r) ← updateStreamRecord ctx s u.fromAddr r
      { addr := u.fromAddr
        rateChange := -totalRate activeOutFlows
        frozenRateChange := -totalRate frozenOutFlows }
    let (outFlows, deltaActiveFlowCount) :=
      mergeOutFlows u.fromAddr .active activeOutFlows s.outFlows
    let (outFlows, deltaFrozenFlowCount) :=
      mergeOutFlows u.fromAddr .frozen frozenOutFlows outFlows
    let s ← { s with outFlows := outFlows }.setStreamRecord u.fromAddr
      { r with outFlowCount := r.outFlowCount + deltaActiveFlowCount + deltaFrozenFlowCount }
    applyStreamRecordChanges ctx s (rateChanges activeOutFlows)
  else .error (.frozen u.fromAddr)

/-- One round of the loop of `ApplyUserFlowsList`. -/
def applyUserFlows : Except Error State :=
  match (getStreamRecord ctx s u.fromAddr).status with
  | .active => applyActiveUserFlows ctx s u (getStreamRecord ctx s u.fromAddr)
  | .frozen => applyFrozenUserFlows ctx s u (getStreamRecord ctx s u.fromAddr)

/-- `ApplyUserFlowsList`. -/
def applyUserFlowsList (userFlowsList : List UserFlows) : Except Error State :=
  (mergeUserFlows ctx userFlowsList).foldlM (applyUserFlows ctx) s

end Moca.Payment
