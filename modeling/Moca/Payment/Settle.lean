/-
# `AutoSettle`, `TryResumeStreamRecord` and `AutoResume`

`keeper/stream_record.go` from `AutoSettle` on and `keeper/auto_resume_record.go`.
An account that cannot pay any more is frozen, and then its active out-flows are
frozen one by one, over several blocks if there are many; a deposit resumes it,
directly if it has few out-flows and through the resume queue otherwise.

The three loops over out-flows (freeze, resume in the message, resume in the
queue) differ in where they stop, in the sign of the receiver's rate change and
in whether they are bounded; they are the instances of `moveFlows`.
-/

import Moca.Payment.OutFlow

namespace Moca.Payment

open SortedMap

/-! ### Moving out-flows between the two statuses -/

/-- What a loop over out-flows has done so far. -/
structure FlowMove where
  state : State
  /-- The flows handled in this block. -/
  count : ℕ
  totalRate : ℤ := 0
  /-- The flows taken out of the store, to be written back with the other status. -/
  toUpdate : List OutFlow := []

/-- The receiver's rate changes by `sign` times the rate of the flow, which leaves the store. -/
def moveFlow (ctx : Ctx) (sign : ℤ) (s : State) (e : OutFlowKey × ℤ) : Except Error State := do
  let s ← updateStreamRecordByAddr ctx s { addr := e.1.toAddr, rateChange := sign * e.2 }
  return { s with outFlows := s.outFlows.erase e.1 }

/-- A loop over the out-flows that an iterator visits.  It stops when `max` flows have been
handled in this block, or at the first key of which `stop` holds; the result says whether it
came to the end of the account's flows. -/
def moveFlows (ctx : Ctx) (max : Option ℕ) (stop : OutFlowKey → Bool) (sign : ℤ) :
    List (OutFlowKey × ℤ) → FlowMove → Except Error (FlowMove × Bool)
  | [], acc => .ok (acc, true)
  | (k, rate) :: rest, acc =>
    if max.any fun m => decide (m ≤ acc.count) then .ok (acc, false)
    else if stop k then .ok (acc, true)
    else do
      let s ← moveFlow ctx sign acc.state (k, rate)
      moveFlows ctx max stop sign rest
        { state := s
          count := acc.count + 1
          totalRate := acc.totalRate + rate
          toUpdate := acc.toUpdate ++ [⟨k.toAddr, rate⟩] }

/-- Write the moved flows back under their new status. -/
def FlowMove.store (acc : FlowMove) (addr : Addr) (status : OutFlowStatus) : State :=
  { acc.state with
    outFlows := acc.toUpdate.foldl (fun m o => setOutFlow m addr status o) acc.state.outFlows }

/-- An error that the code turns into `panic("should not happen")`. -/
def orPanic {α : Type} : Except Error α → Except Error α
  | .ok a => .ok a
  | .error (.panic p) => .error (.panic p)
  | .error _ => .error (.panic .shouldNotHappen)

variable (ctx : Ctx) (max : ℕ) (s : State) (addr : Addr) (timestamp : ℤ) (record : QueueKey)
  (r : StreamRecord) (count : ℕ)

/-- The loop of `AutoSettle` over the active out-flows of `addr`. -/
def freezeFlows : Except Error (FlowMove × Bool) :=
  orPanic (moveFlows ctx (some max) (fun k => decide (k.addr ≠ addr) || decide (k.status = .frozen))
    (-1) (s.outFlows.iterFrom ⟨addr, .active, 0⟩) { state := s, count := count })

/-- The loop of `AutoResume` over the frozen out-flows of `addr`. -/
def resumeFlows : Except Error (FlowMove × Bool) :=
  orPanic (moveFlows ctx (some max) (fun k => decide (k.addr ≠ addr))
    1 (s.outFlows.iterFrom ⟨addr, .frozen, 0⟩) { state := s, count := count })

/-- The loop of `TryResumeStreamRecord` over the frozen out-flows of `addr`. -/
def resumeAllFlows : Except Error (FlowMove × Bool) :=
  moveFlows ctx none (fun k => decide (k.addr ≠ addr))
    1 (s.outFlows.iterFrom ⟨addr, .frozen, 0⟩) { state := s, count := 0 }

/-! ### The resume queue -/

/-- `SetAutoResumeRecord`. -/
def State.setAutoResumeRecord (addr : Addr) : State :=
  { s with autoResumeRecords := s.autoResumeRecords.insert ⟨timestamp, addr⟩ () }

/-- `RemoveAutoResumeRecord`. -/
def State.removeAutoResumeRecord (addr : Addr) : State :=
  { s with autoResumeRecords := s.autoResumeRecords.erase ⟨timestamp, addr⟩ }

/-- The loop of `ExistsAutoResumeRecord`: with a positive `timestamp` it gives up at the
first record after it. -/
def existsResumeKey (timestamp : ℤ) (addr : Addr) : List (QueueKey × Unit) → Bool
  | [] => false
  | (k, _) :: rest =>
    if timestamp > 0 ∧ k.timestamp > timestamp then false
    else if k.addr = addr then true
    else existsResumeKey timestamp addr rest

/-- `ExistsAutoResumeRecord`. -/
def existsAutoResumeRecord (addr : Addr) : Bool :=
  existsResumeKey timestamp addr s.autoResumeRecords.entries

/-- The resume queue has a record of this address. -/
def State.Queued : Prop :=
  ∃ t, s.autoResumeRecords.find? ⟨t, addr⟩ = some ()

/-! ### `AutoSettle` -/

/-- The second half of a round of `AutoSettle`, on a frozen account: freeze active out-flows
and, at the end of them, take the account out of the queue. -/
def settleFlows : Except Error (State × ℕ) :=
  if existsAutoResumeRecord s record.timestamp record.addr then .ok (s, count)
  else do
    let (acc, finished) ← freezeFlows ctx max s record.addr count
    let s := acc.store record.addr .frozen
    let r : StreamRecord := { r with
      netflowRate := r.netflowRate + acc.totalRate
      frozenNetflowRate := r.frozenNetflowRate + -acc.totalRate }
    if finished then
      if r.netflowRate ≠ 0 then .error (.panic .shouldNotHappen)
      else do
        let s ← (s.removeAutoSettleRecord record.timestamp record.addr).setStreamRecord
          record.addr r
        return (s, acc.count)
    else do
      let s ← s.setStreamRecord record.addr r
      return (s, acc.count)

/-- A round of the loop of `AutoSettle` on a stored record; the flag says that the loop
returns. -/
def autoSettleRecord : Except Error (State × ℕ × Bool) :=
  match r.status with
  | .active =>
    match updateStreamRecord ctx s record.addr r { addr := record.addr } with
    | .error (.panic p) => .error (.panic p)
    | .error _ => .ok (s, count + 1, false)
    | .ok (s, r) => do
      let s ← s.setStreamRecord record.addr r
      if r.status = .active then return (s, count + 1, false)
      else if count + 1 ≥ max then return (s, count + 1, true)
      else do
        let (s, count) ← settleFlows ctx max s record r (count + 1)
        return (s, count, false)
  | .frozen => do
    let (s, count) ← settleFlows ctx max s record r count
    return (s, count, false)

/-- The loop of `AutoSettle` over the settle queue. -/
def autoSettleLoop (ctx : Ctx) (max : ℕ) :
    List (QueueKey × Unit) → State → ℕ → Except Error State
  | [], s, _ => .ok s
  | (record, _) :: rest, s, count =>
    if count ≥ max then .ok s
    else if record.timestamp > ctx.blockTime then .ok s
    else
      match s.streamRecords.find? record.addr with
      | none => autoSettleLoop ctx max rest s count
      | some r => do
        let (s, count, stop) ← autoSettleRecord ctx max s record r count
        if stop then return s else autoSettleLoop ctx max rest s count

/-- `AutoSettle`. -/
def autoSettle : Except Error State :=
  autoSettleLoop ctx s.params.maxAutoSettleFlowCount s.autoSettleRecords.entries s 0

/-! ### `TryResumeStreamRecord` -/

/-- The record of an account that is resumed: the balance pays `ReserveTime` seconds into
the buffer, and the settle time is that of the whole balance. -/
def StreamRecord.resumed (now settleTimestamp expected : ℤ) : StreamRecord :=
  { r with
    settleTimestamp := settleTimestamp
    bufferBalance := expected
    staticBalance := r.staticBalance - expected
    crudTimestamp := now }

/-- `TryResumeStreamRecord`. -/
def tryResumeStreamRecord (depositBalance : ℤ) : Except Error State :=
  if r.status ≠ .frozen then .error (.notFrozen addr)
  else if existsAutoResumeRecord s 0 addr then .error (.resuming addr)
  else
    let now := ctx.blockTime
    let totalRate := r.netflowRate + r.frozenNetflowRate
    let r := { r with staticBalance := r.staticBalance + depositBalance }
    if totalRate = 0 then
      s.setStreamRecord addr { r with status := .active, crudTimestamp := now, settleTimestamp := 0 }
    else
      let expected := -totalRate * s.params.versionedParams.reserveTime
      if r.staticBalance < expected then s.setStreamRecord addr r
      else do
        let payDuration ← toInt64 (r.staticBalance.tdiv |totalRate|)
        let prevSettleTime := r.settleTimestamp
        let r := r.resumed now (int64 (now + payDuration - s.params.forcedSettleTime)) expected
        if r.outFlowCount ≤ s.params.maxAutoResumeFlowCount then do
          let r := { r with status := .active, netflowRate := totalRate, frozenNetflowRate := 0 }
          let (acc, _) ← resumeAllFlows ctx s addr
          let s ← (acc.store addr .active).setStreamRecord addr r
          return s.updateAutoSettleRecord addr prevSettleTime r.settleTimestamp
        else do
          let s ← s.setStreamRecord addr r
          return s.setAutoResumeRecord now addr

/-! ### `AutoResume` -/

/-- A round of the loop of `AutoResume` on a stored record. -/
def autoResumeRecord : Except Error (State × ℕ) := do
  let (acc, finished) ← resumeFlows ctx max s record.addr count
  let s := acc.store record.addr .active
  let r : StreamRecord := { r with
    netflowRate := r.netflowRate + -acc.totalRate
    frozenNetflowRate := r.frozenNetflowRate + acc.totalRate }
  if finished then
    if r.frozenNetflowRate ≠ 0 then .error (.panic .shouldNotHappen)
    else do
      let (s, r) ← orPanic (updateStreamRecord ctx s record.addr { r with status := .active }
        { addr := record.addr })
      let s ← (s.removeAutoResumeRecord record.timestamp record.addr).setStreamRecord
        record.addr r
      return (s, acc.count)
  else do
    let s ← s.setStreamRecord record.addr r
    return (s, acc.count)

/-- The loop of `AutoResume` over the resume queue. -/
def autoResumeLoop (ctx : Ctx) (max : ℕ) :
    List (QueueKey × Unit) → State → ℕ → Except Error State
  | [], s, _ => .ok s
  | (record, _) :: rest, s, count =>
    match s.streamRecords.find? record.addr with
    | none => autoResumeLoop ctx max rest s count
    | some r => do
      let (s, count) ← autoResumeRecord ctx max s record r count
      autoResumeLoop ctx max rest s count

/-- `AutoResume`. -/
def autoResume : Except Error State :=
  autoResumeLoop ctx s.params.maxAutoResumeFlowCount s.autoResumeRecords.entries s 0

/-- `EndBlock` of `module.go`: both queues, under the forced context. -/
def endBlock : Except Error State := do
  let s ← autoResume (ctx.withForced true) s
  autoSettle (ctx.withForced true) s

variable {addr : Addr} {s s' : State} {ctx : Ctx} {sign : ℤ} {count count' : ℕ} {acc : FlowMove}
  {finished : Bool} {record : QueueKey} {r : StreamRecord} {l : List (QueueKey × Unit)}
  {stop : OutFlowKey → Bool} {status : OutFlowStatus} {deposit : ℤ}

theorem existsResumeKey_zero : existsResumeKey 0 addr l = true ↔ ∃ e ∈ l, e.1.addr = addr := by
  induction l with
  | nil => simp [existsResumeKey]
  | cons e l ih =>
    unfold existsResumeKey
    by_cases he : e.1.addr = addr
    · simp [he]
    · simp [he, ih]

/-- With a zero timestamp `ExistsAutoResumeRecord` looks through the whole queue. -/
theorem existsAutoResumeRecord_zero : existsAutoResumeRecord s 0 addr = true ↔ s.Queued addr := by
  rw [existsAutoResumeRecord, existsResumeKey_zero]
  constructor
  · rintro ⟨⟨⟨t, x⟩, _⟩, he, rfl⟩
    exact ⟨t, find?_eq_some_iff.2 he⟩
  · rintro ⟨t, ht⟩
    exact ⟨_, find?_eq_some_iff.1 ht, rfl⟩

/-- The record of another account in the resume queue does not matter. -/
theorem queued_setAutoResumeRecord (s : State) {t : ℤ} {x : Addr} (hx : x ≠ addr) :
    (s.setAutoResumeRecord t addr).Queued x ↔ s.Queued x :=
  exists_congr fun _ => by
    rw [State.setAutoResumeRecord, find?_insert_of_ne _ _ fun hk => hx (congrArg QueueKey.addr hk)]

theorem queued_removeAutoResumeRecord (s : State) {t : ℤ} {x : Addr} (hx : x ≠ addr) :
    (s.removeAutoResumeRecord t addr).Queued x ↔ s.Queued x :=
  exists_congr fun _ => by
    rw [State.removeAutoResumeRecord, find?_erase_of_ne _ fun hk => hx (congrArg QueueKey.addr hk)]

/-! ### What a loop over out-flows does -/

theorem orPanic_eq_ok {α : Type} {x : Except Error α} {a : α} : orPanic x = .ok a ↔ x = .ok a := by
  cases x with
  | ok b => exact Iff.rfl
  | error e => cases e <;> simp [orPanic]

/-- **A loop over out-flows handles a prefix of what the iterator visits.**  It handles
flows of which `stop` does not hold, one after the other; it ends with `true` at the end of
the store or at a key of which `stop` holds, and with `false` only when the bound on the
number of flows is reached. -/
theorem moveFlows_eq_ok {max : Option ℕ} :
    ∀ {l : List (OutFlowKey × ℤ)} {acc acc' : FlowMove} {finished : Bool},
      moveFlows ctx max stop sign l acc = .ok (acc', finished) →
      ∃ moved rest, l = moved ++ rest ∧ (∀ e ∈ moved, stop e.1 = false) ∧
        moved.foldlM (moveFlow ctx sign) acc.state = .ok acc'.state ∧
        acc'.count = acc.count + moved.length ∧
        acc'.totalRate = acc.totalRate + (moved.map fun e => e.2).sum ∧
        acc'.toUpdate = acc.toUpdate ++ moved.map (fun e => ⟨e.1.toAddr, e.2⟩) ∧
        (finished = true → ∀ e ∈ rest.head?, stop e.1 = true) ∧
        (finished = false → rest ≠ [] ∧ ∃ m, max = some m ∧ m ≤ acc'.count) ∧
        (∀ m, max = some m → acc'.count ≤ acc.count ∨ acc'.count ≤ m)
  | [], acc, acc', finished, h => by
    cases h
    exact ⟨[], [], rfl, by simp, rfl, rfl, by simp, by simp, by simp, by simp, by simp⟩
  | (k, rate) :: l, acc, acc', finished, h => by
    unfold moveFlows at h
    split_ifs at h with hmax hstop
    · cases h
      refine ⟨[], _, rfl, by simp, rfl, rfl, by simp, by simp, by simp, fun _ => ?_, by simp⟩
      cases max with
      | none => simp at hmax
      | some m => exact ⟨by simp, m, rfl, by simpa using hmax⟩
    · cases h
      exact ⟨[], _, rfl, by simp, rfl, rfl, by simp, by simp, fun _ => by simpa using hstop,
        by simp, by simp⟩
    · obtain ⟨s, hs, h⟩ := bind_eq_ok.1 h
      obtain ⟨moved, rest, rfl, hmoved, hfold, hcount, hrate, hupd, hfin, hnfin, hle⟩ :=
        moveFlows_eq_ok h
      dsimp only at hcount hrate
      refine ⟨(k, rate) :: moved, rest, rfl, ?_, ?_, ?_, ?_, ?_, hfin, hnfin, ?_⟩
      · intro e he
        rcases List.mem_cons.1 he with rfl | he
        · simpa using hstop
        · exact hmoved e he
      · rw [List.foldlM_cons, bind_eq_ok]
        exact ⟨s, hs, hfold⟩
      · simp only [List.length_cons]
        omega
      · simp only [List.map_cons, List.sum_cons]
        omega
      · simp [hupd]
      · intro m hm
        subst hm
        simp only [Option.any_some, decide_eq_true_eq, not_le] at hmax
        rcases hle m rfl with hle | hle
        · simp only at hle
          exact Or.inr (by omega)
        · exact Or.inr hle

/-- What a loop over the flows of `addr` with one status has moved. -/
structure Moved (ctx : Ctx) (max : Option ℕ) (sign : ℤ) (s : State) (addr : Addr)
    (status : OutFlowStatus) (count : ℕ) (acc : FlowMove) (finished : Bool) : Prop where
  nodup : (acc.toUpdate.map OutFlow.toAddr).Nodup
  stored : ∀ f ∈ acc.toUpdate, s.outFlows.find? ⟨addr, status, f.toAddr⟩ = some f.rate
  state : acc.toUpdate.foldlM (fun s f => moveFlow ctx sign s (⟨addr, status, f.toAddr⟩, f.rate)) s =
    .ok acc.state
  count_eq : acc.count = count + acc.toUpdate.length
  total : acc.totalRate = totalRate acc.toUpdate
  all : finished = true → ∀ r v, s.outFlows.find? ⟨addr, status, r⟩ = some v →
    ⟨r, v⟩ ∈ acc.toUpdate
  full : finished = false → ∃ m, max = some m ∧ m ≤ acc.count
  bound : ∀ m, max = some m → acc.count ≤ count ∨ acc.count ≤ m

/-- **What a loop moves.**  When `stop` ends it exactly outside the flows of `addr` with the
status `status`, the loop moves different stored flows of that status, and all of them when
it ends before the bound. -/
theorem moved_of_moveFlows {max : Option ℕ}
    (hstop : ∀ k : OutFlowKey, ⟨addr, status, 0⟩ ≤ k →
      (stop k = false ↔ k.addr = addr ∧ k.status = status))
    (h : moveFlows ctx max stop sign (s.outFlows.iterFrom ⟨addr, status, 0⟩)
      { state := s, count := count } = .ok (acc, finished)) :
    Moved ctx max sign s addr status count acc finished := by
  obtain ⟨moved, rest, hl, hmoved, hfold, hcount, hrate, hupd, hfin, hnfin, hle⟩ :=
    moveFlows_eq_ok h
  have hmem : ∀ e ∈ moved ++ rest, s.outFlows.find? e.1 = some e.2 ∧ ⟨addr, status, 0⟩ ≤ e.1 :=
    fun e he => mem_iterFrom.1 (hl ▸ he)
  have hsorted := s.outFlows.iterFrom_sorted ⟨addr, status, 0⟩
  rw [hl] at hsorted
  -- the moved entries are the flows `toUpdate` of `addr` with the status
  have hkey : ∀ e ∈ moved, e = (⟨addr, status, e.1.toAddr⟩, e.2) := by
    rintro ⟨⟨x, st, r⟩, v⟩ he
    obtain ⟨rfl, rfl⟩ := (hstop _ (hmem _ (List.mem_append_left _ he)).2).1 (hmoved _ he)
    rfl
  have hentries : moved = acc.toUpdate.map fun f => (⟨addr, status, f.toAddr⟩, f.rate) := by
    rw [hupd, List.nil_append, List.map_map]
    exact (List.map_id moved).symm.trans (List.map_congr_left hkey)
  rw [hentries] at hsorted hmem hfold hcount hrate
  constructor
  · have hlt := List.pairwise_map.1 (List.pairwise_append.1 hsorted).1
    refine List.pairwise_map.2 (hlt.imp fun hab heq => ?_)
    rw [heq] at hab
    exact lt_irrefl _ hab
  · intro f hf
    exact (hmem _ (List.mem_append_left _ (List.mem_map_of_mem hf))).1
  · rw [List.foldlM_map] at hfold
    exact hfold
  · rw [hcount, List.length_map]
  · rw [hrate, List.map_map, zero_add]
    rfl
  · intro hf r v hr
    have hin : ((⟨addr, status, r⟩, v) : OutFlowKey × ℤ) ∈ s.outFlows.iterFrom ⟨addr, status, 0⟩ := by
      refine mem_iterFrom.2 ⟨hr, not_lt.1 fun hlt => ?_⟩
      rw [OutFlowKey.lt_iff] at hlt
      simp at hlt
    rw [hl, hentries] at hin
    rcases List.mem_append.1 hin with hin | hin
    · obtain ⟨f, hf, heq⟩ := List.mem_map.1 hin
      cases heq
      exact hf
    · -- a later entry is past the key that stopped the loop
      cases hrest : rest with
      | nil => simp [hrest] at hin
      | cons e rest' =>
        have hstopped := hfin hf e (by simp [hrest])
        have he := (hmem e (List.mem_append_right _ (by simp [hrest]))).2
        have hout : ¬(e.1.addr = addr ∧ e.1.status = status) := fun hk => by
          rw [(hstop _ he).2 hk] at hstopped
          cases hstopped
        have hlt := OutFlowKey.lt_of_outside he hout r
        rw [hrest] at hin hsorted
        rcases List.mem_cons.1 hin with rfl | hin
        · exact absurd hlt (lt_irrefl _)
        · have hpair := (List.pairwise_append.1 hsorted).2.1
          exact absurd (hlt.trans (List.rel_of_pairwise_cons hpair hin)) (lt_irrefl _)
  · exact fun hf => (hnfin hf).2
  · exact hle

theorem moved_of_freezeFlows {max : ℕ}
    (h : freezeFlows ctx max s addr count = .ok (acc, finished)) :
    Moved ctx (some max) (-1) s addr .active count acc finished := by
  refine moved_of_moveFlows (fun k _ => ?_) (orPanic_eq_ok.1 h)
  cases k.status <;> simp

/-- From the first frozen flow of `addr` on, all flows of `addr` are frozen. -/
theorem resume_stop {k : OutFlowKey} (h : ⟨addr, .frozen, 0⟩ ≤ k) :
    decide (k.addr ≠ addr) = false ↔ k.addr = addr ∧ k.status = .frozen := by
  cases hst : k.status with
  | frozen => simp
  | active =>
    simp only [ne_eq, decide_eq_false_iff_not, not_not, reduceCtorEq, and_false, iff_false]
    intro hk
    refine absurd (OutFlowKey.lt_iff.2 (Or.inr ⟨hk, Or.inl ?_⟩)) (not_lt.2 h)
    simp [hst, OutFlowStatus.byte]

theorem moved_of_resumeFlows {max : ℕ}
    (h : resumeFlows ctx max s addr count = .ok (acc, finished)) :
    Moved ctx (some max) 1 s addr .frozen count acc finished :=
  moved_of_moveFlows (fun _ => resume_stop) (orPanic_eq_ok.1 h)

theorem moved_of_resumeAllFlows (h : resumeAllFlows ctx s addr = .ok (acc, finished)) :
    Moved ctx none 1 s addr .frozen 0 acc finished :=
  moved_of_moveFlows (fun _ => resume_stop) h

/-! ### What a successful round does -/

/-- **A round over the flows of a frozen account** does nothing if the account is found in the
resume queue; otherwise it freezes flows and writes the record, and takes the account out of the
settle queue if it has frozen all of them. -/
theorem settleFlows_eq_ok {max : ℕ} (h : settleFlows ctx max s record r count = .ok (s', count')) :
    (existsAutoResumeRecord s record.timestamp record.addr = true ∧ s' = s ∧ count' = count) ∨
      (existsAutoResumeRecord s record.timestamp record.addr = false ∧
        ∃ acc finished r', Moved ctx (some max) (-1) s record.addr .active count acc finished ∧
          r' = { r with
            netflowRate := r.netflowRate + acc.totalRate
            frozenNetflowRate := r.frozenNetflowRate + -acc.totalRate } ∧
          checkStreamRecord r' = true ∧ count' = acc.count ∧
          (finished = true → r'.netflowRate = 0) ∧
          s' = (if finished then
              (acc.store record.addr .frozen).removeAutoSettleRecord record.timestamp record.addr
            else acc.store record.addr .frozen).putStreamRecord record.addr r') := by
  unfold settleFlows at h
  split_ifs at h with hex
  · cases h
    exact Or.inl ⟨hex, rfl, rfl⟩
  · obtain ⟨⟨acc, finished⟩, hfreeze, h⟩ := bind_eq_ok.1 h
    refine Or.inr ⟨by simpa using hex, acc, finished, _, moved_of_freezeFlows hfreeze, rfl, ?_⟩
    simp only at h
    split_ifs at h with hfin hzero
    · obtain ⟨s₁, hs₁, h⟩ := bind_eq_ok.1 h
      obtain ⟨hcheck, rfl⟩ := setStreamRecord_eq_ok.1 hs₁
      cases h
      exact ⟨hcheck, rfl, fun _ => not_not.1 hzero, by rw [if_pos hfin]⟩
    · obtain ⟨s₁, hs₁, h⟩ := bind_eq_ok.1 h
      obtain ⟨hcheck, rfl⟩ := setStreamRecord_eq_ok.1 hs₁
      cases h
      exact ⟨hcheck, rfl, fun hf => absurd hf hfin, by rw [if_neg hfin]⟩

/-- **A round of `AutoSettle`.**  A frozen record has its flows frozen.  An active record is
updated; if that settles it by force, its flows follow in the same round unless the bound on the
number of flows is reached. -/
theorem autoSettleRecord_eq_ok {max : ℕ} {stop : Bool}
    (h : autoSettleRecord ctx max s record r count = .ok (s', count', stop)) :
    (r.status = .frozen ∧ stop = false ∧ settleFlows ctx max s record r count = .ok (s', count')) ∨
      (r.status = .active ∧ s' = s ∧ count' = count + 1) ∨
      (r.status = .active ∧ ∃ s₁ r₁,
        updateStreamRecord ctx s record.addr r { addr := record.addr } = .ok (s₁, r₁) ∧
        checkStreamRecord r₁ = true ∧
        ((s' = s₁.putStreamRecord record.addr r₁ ∧ count' = count + 1 ∧
            (r₁.status = .active ∨ stop = true)) ∨
          (r₁.status = .frozen ∧ count + 1 < max ∧ stop = false ∧
            settleFlows ctx max (s₁.putStreamRecord record.addr r₁) record r₁ (count + 1) =
              .ok (s', count')))) := by
  unfold autoSettleRecord at h
  split at h
  · rename_i hst
    split at h
    · cases h
    · cases h
      exact Or.inr (Or.inl ⟨hst, rfl, rfl⟩)
    · rename_i s₁ r₁ hu
      obtain ⟨s₂, hs₂, h⟩ := bind_eq_ok.1 h
      obtain ⟨hcheck, rfl⟩ := setStreamRecord_eq_ok.1 hs₂
      refine Or.inr (Or.inr ⟨hst, s₁, r₁, hu, hcheck, ?_⟩)
      split_ifs at h with hact hmax
      · cases h
        exact Or.inl ⟨rfl, rfl, Or.inl hact⟩
      · cases h
        exact Or.inl ⟨rfl, rfl, Or.inr rfl⟩
      · obtain ⟨⟨s₃, count₃⟩, hset, h⟩ := bind_eq_ok.1 h
        cases h
        refine Or.inr ⟨?_, by omega, rfl, hset⟩
        cases hr : r₁.status with
        | active => exact absurd hr hact
        | frozen => rfl
  · rename_i hst
    obtain ⟨⟨s₃, count₃⟩, hset, h⟩ := bind_eq_ok.1 h
    cases h
    exact Or.inl ⟨hst, rfl, hset⟩

/-- **What every round keeps, `AutoSettle` keeps.**  A round is on a key of the queue that is
due, whose record is stored. -/
theorem autoSettleLoop_invariant {max : ℕ} (I : State → Prop) :
    ∀ {l : List (QueueKey × Unit)} {s s' : State} {count : ℕ},
      (∀ e ∈ l, ∀ s r count s' count' stop, I s → s.streamRecords.find? e.1.addr = some r →
        e.1.timestamp ≤ ctx.blockTime →
        autoSettleRecord ctx max s e.1 r count = .ok (s', count', stop) → I s') →
      I s → autoSettleLoop ctx max l s count = .ok s' → I s'
  | [], s, s', count, _, hs, h => by
    cases h
    exact hs
  | (record, ()) :: l, s, s', count, hround, hs, h => by
    have hrest : ∀ {s s' : State} {count : ℕ}, I s → autoSettleLoop ctx max l s count = .ok s' →
        I s' := autoSettleLoop_invariant I fun e he => hround e (List.mem_cons_of_mem _ he)
    unfold autoSettleLoop at h
    split_ifs at h with hmax hdue
    · cases h
      exact hs
    · cases h
      exact hs
    · split at h
      · exact hrest hs h
      · rename_i r hr
        obtain ⟨⟨s₁, count₁, stop⟩, h₁, h⟩ := bind_eq_ok.1 h
        have hs₁ := hround _ List.mem_cons_self s r count s₁ count₁ stop hs hr (not_lt.1 hdue) h₁
        simp only at h
        split_ifs at h with hstop
        · cases h
          exact hs₁
        · exact hrest hs₁ h

/-- **The ways `TryResumeStreamRecord` succeeds**, for a frozen account that is not in the
resume queue: it has no flows (`idle`); the balance does not cover the buffer and only the
deposit is booked (`short`); all flows are resumed (`direct`); or the account is put into the
resume queue (`queued`). -/
inductive Resumed (ctx : Ctx) (s : State) (addr : Addr) (r : StreamRecord) (deposit : ℤ) :
    State → Prop
  | idle (hrate : r.netflowRate + r.frozenNetflowRate = 0)
    (hcheck : checkStreamRecord { r.addStatic deposit with
      status := .active, crudTimestamp := ctx.blockTime, settleTimestamp := 0 } = true) :
    Resumed ctx s addr r deposit (s.putStreamRecord addr { r.addStatic deposit with
      status := .active, crudTimestamp := ctx.blockTime, settleTimestamp := 0 })
  | short (hrate : r.netflowRate + r.frozenNetflowRate ≠ 0)
    (hlack : r.staticBalance + deposit <
      -(r.netflowRate + r.frozenNetflowRate) * s.params.versionedParams.reserveTime)
    (hcheck : checkStreamRecord (r.addStatic deposit) = true) :
    Resumed ctx s addr r deposit (s.putStreamRecord addr (r.addStatic deposit))
  | direct {acc : FlowMove} {finished : Bool} {expected duration : ℤ} {r' : StreamRecord}
    (hrate : r.netflowRate + r.frozenNetflowRate ≠ 0)
    (hexp : expected =
      -(r.netflowRate + r.frozenNetflowRate) * s.params.versionedParams.reserveTime)
    (hpay : expected ≤ r.staticBalance + deposit)
    (hdur : toInt64 ((r.staticBalance + deposit).tdiv |r.netflowRate + r.frozenNetflowRate|) =
      .ok duration)
    (hfew : r.outFlowCount ≤ s.params.maxAutoResumeFlowCount)
    (hmove : Moved ctx none 1 s addr .frozen 0 acc finished)
    (hr : r' = { (r.addStatic deposit).resumed ctx.blockTime
        (int64 (ctx.blockTime + duration - s.params.forcedSettleTime)) expected with
      status := .active
      netflowRate := r.netflowRate + r.frozenNetflowRate
      frozenNetflowRate := 0 })
    (hcheck : checkStreamRecord r' = true) :
    Resumed ctx s addr r deposit
      (((acc.store addr .active).putStreamRecord addr r').updateAutoSettleRecord addr
        r.settleTimestamp r'.settleTimestamp)
  | queued {expected duration : ℤ} {r' : StreamRecord}
    (hrate : r.netflowRate + r.frozenNetflowRate ≠ 0)
    (hexp : expected =
      -(r.netflowRate + r.frozenNetflowRate) * s.params.versionedParams.reserveTime)
    (hpay : expected ≤ r.staticBalance + deposit)
    (hdur : toInt64 ((r.staticBalance + deposit).tdiv |r.netflowRate + r.frozenNetflowRate|) =
      .ok duration)
    (hmany : (s.params.maxAutoResumeFlowCount : ℤ) < r.outFlowCount)
    (hr : r' = (r.addStatic deposit).resumed ctx.blockTime
      (int64 (ctx.blockTime + duration - s.params.forcedSettleTime)) expected)
    (hcheck : checkStreamRecord r' = true) :
    Resumed ctx s addr r deposit
      ((s.putStreamRecord addr r').setAutoResumeRecord ctx.blockTime addr)

theorem resumed_of_eq_ok (h : tryResumeStreamRecord ctx s addr r deposit = .ok s') :
    r.status = .frozen ∧ existsAutoResumeRecord s 0 addr = false ∧
      Resumed ctx s addr r deposit s' := by
  unfold tryResumeStreamRecord at h
  split_ifs at h with hst hex
  refine ⟨not_not.1 hst, by simpa using hex, ?_⟩
  simp only at h
  split_ifs at h with hzero hlack
  · obtain ⟨hcheck, rfl⟩ := setStreamRecord_eq_ok.1 h
    exact .idle hzero hcheck
  · obtain ⟨hcheck, rfl⟩ := setStreamRecord_eq_ok.1 h
    exact .short hzero hlack hcheck
  · obtain ⟨duration, hdur, h⟩ := bind_eq_ok.1 h
    split_ifs at h with hfew
    · obtain ⟨⟨acc, finished⟩, hall, h⟩ := bind_eq_ok.1 h
      obtain ⟨s₁, hs₁, h⟩ := bind_eq_ok.1 h
      obtain ⟨hcheck, rfl⟩ := setStreamRecord_eq_ok.1 hs₁
      cases h
      exact .direct hzero rfl (not_lt.1 hlack) hdur hfew (moved_of_resumeAllFlows hall) rfl hcheck
    · obtain ⟨s₁, hs₁, h⟩ := bind_eq_ok.1 h
      obtain ⟨hcheck, rfl⟩ := setStreamRecord_eq_ok.1 hs₁
      cases h
      exact .queued hzero rfl (not_lt.1 hlack) hdur (not_le.1 hfew) rfl hcheck

/-- **A round of `AutoResume`** resumes flows and writes the record; when it has resumed all of
them the account becomes active and is updated, and leaves the resume queue. -/
theorem autoResumeRecord_eq_ok {max : ℕ}
    (h : autoResumeRecord ctx max s record r count = .ok (s', count')) :
    ∃ acc finished r', Moved ctx (some max) 1 s record.addr .frozen count acc finished ∧
      r' = { r with
        netflowRate := r.netflowRate + -acc.totalRate
        frozenNetflowRate := r.frozenNetflowRate + acc.totalRate } ∧
      count' = acc.count ∧
      ((finished = false ∧ checkStreamRecord r' = true ∧
          s' = (acc.store record.addr .active).putStreamRecord record.addr r') ∨
        (finished = true ∧ r'.frozenNetflowRate = 0 ∧ ∃ s₁ r₁,
          updateStreamRecord ctx (acc.store record.addr .active) record.addr
            { r' with status := .active } { addr := record.addr } = .ok (s₁, r₁) ∧
          checkStreamRecord r₁ = true ∧
          s' = (s₁.removeAutoResumeRecord record.timestamp record.addr).putStreamRecord
            record.addr r₁)) := by
  unfold autoResumeRecord at h
  obtain ⟨⟨acc, finished⟩, hresume, h⟩ := bind_eq_ok.1 h
  refine ⟨acc, finished, _, moved_of_resumeFlows hresume, rfl, ?_⟩
  simp only at h
  split_ifs at h with hfin hzero
  · obtain ⟨⟨s₁, r₁⟩, hu, h⟩ := bind_eq_ok.1 h
    obtain ⟨s₂, hs₂, h⟩ := bind_eq_ok.1 h
    obtain ⟨hcheck, rfl⟩ := setStreamRecord_eq_ok.1 hs₂
    cases h
    exact ⟨rfl, Or.inr ⟨hfin, not_not.1 hzero, s₁, r₁, orPanic_eq_ok.1 hu, hcheck, rfl⟩⟩
  · obtain ⟨s₁, hs₁, h⟩ := bind_eq_ok.1 h
    obtain ⟨hcheck, rfl⟩ := setStreamRecord_eq_ok.1 hs₁
    cases h
    exact ⟨rfl, Or.inl ⟨by simpa using hfin, hcheck, rfl⟩⟩

/-- **What every round keeps, `AutoResume` keeps.**  The invariant may speak of the keys still
to come. -/
theorem autoResumeLoop_rule {max : ℕ} (I : List (QueueKey × Unit) → State → Prop)
    (hskip : ∀ e l s, I (e :: l) s → I l s)
    (hround : ∀ e l s r count s' count', I (e :: l) s →
      s.streamRecords.find? e.1.addr = some r →
      autoResumeRecord ctx max s e.1 r count = .ok (s', count') → I l s') :
    ∀ {l : List (QueueKey × Unit)} {s s' : State} {count : ℕ},
      I l s → autoResumeLoop ctx max l s count = .ok s' → I [] s'
  | [], s, s', count, hs, h => by
    cases h
    exact hs
  | (record, ()) :: l, s, s', count, hs, h => by
    unfold autoResumeLoop at h
    split at h
    · exact autoResumeLoop_rule I hskip hround (hskip _ l s hs) h
    · rename_i r hr
      obtain ⟨⟨s₁, count₁⟩, h₁, h⟩ := bind_eq_ok.1 h
      exact autoResumeLoop_rule I hskip hround (hround _ l s r count s₁ count₁ hs hr h₁) h

theorem autoResumeLoop_invariant {max : ℕ} (I : State → Prop)
    (hround : ∀ e ∈ l, ∀ s r count s' count', I s → s.streamRecords.find? e.1.addr = some r →
      autoResumeRecord ctx max s e.1 r count = .ok (s', count') → I s')
    (hs : I s) (h : autoResumeLoop ctx max l s count = .ok s') : I s' := by
  refine (autoResumeLoop_rule (fun l' s => (∀ e ∈ l', e ∈ l) ∧ I s)
    (fun e l' s hI => ⟨fun e' he' => hI.1 e' (List.mem_cons_of_mem _ he'), hI.2⟩)
    (fun e l' s r count s' count' hI hr hrun => ?_) ⟨fun _ he => he, hs⟩ h).2
  exact ⟨fun e' he' => hI.1 e' (List.mem_cons_of_mem _ he'),
    hround e (hI.1 e List.mem_cons_self) s r count s' count' hI.2 hr hrun⟩

/-! ### The parameters and the resume queue -/

theorem Moved.kept {max : Option ℕ} (hm : Moved ctx max sign s addr status count acc finished) :
    acc.state.params = s.params ∧ acc.state.autoResumeRecords = s.autoResumeRecords := by
  refine foldlM_invariant (fun s' => s'.params = s.params ∧
    s'.autoResumeRecords = s.autoResumeRecords) (fun s₁ f s₂ _ h₁ hmove => ?_) ⟨rfl, rfl⟩ hm.state
  obtain ⟨s₃, h₃, h₂⟩ := bind_eq_ok.1 hmove
  cases h₂
  have hframe := updateStreamRecordByAddrDepth_frame _ h₃
  exact ⟨hframe.params.trans h₁.1, hframe.autoResumeRecords.trans h₁.2⟩

theorem settleFlows_kept {max : ℕ} (h : settleFlows ctx max s record r count = .ok (s', count')) :
    s'.params = s.params ∧ s'.autoResumeRecords = s.autoResumeRecords := by
  rcases settleFlows_eq_ok h with ⟨-, rfl, -⟩ | ⟨-, acc, finished, r', hm, -, -, -, -, rfl⟩
  · exact ⟨rfl, rfl⟩
  · cases finished <;> exact hm.kept

theorem autoSettleRecord_kept {max : ℕ} {stop : Bool}
    (h : autoSettleRecord ctx max s record r count = .ok (s', count', stop)) :
    s'.params = s.params ∧ s'.autoResumeRecords = s.autoResumeRecords := by
  rcases autoSettleRecord_eq_ok h with ⟨-, -, hset⟩ | ⟨-, rfl, -⟩ |
    ⟨-, s₁, r₁, hu, -, ⟨rfl, -, -⟩ | ⟨-, -, -, hset⟩⟩
  · exact settleFlows_kept hset
  · exact ⟨rfl, rfl⟩
  · have hframe := updateStreamRecord_frame hu
    exact ⟨hframe.params, hframe.autoResumeRecords⟩
  · have hframe := updateStreamRecord_frame hu
    obtain ⟨hp, hq⟩ := settleFlows_kept hset
    exact ⟨hp.trans hframe.params, hq.trans hframe.autoResumeRecords⟩

/-- `AutoSettle` leaves the parameters and the resume queue alone. -/
theorem autoSettle_kept (h : autoSettle ctx s = .ok s') :
    s'.params = s.params ∧ s'.autoResumeRecords = s.autoResumeRecords := by
  refine autoSettleLoop_invariant (fun s' => s'.params = s.params ∧
    s'.autoResumeRecords = s.autoResumeRecords) (fun _ _ _ _ _ _ _ _ hI _ _ hround => ?_) ⟨rfl, rfl⟩ h
  obtain ⟨hp, hq⟩ := autoSettleRecord_kept hround
  exact ⟨hp.trans hI.1, hq.trans hI.2⟩

theorem autoResumeRecord_params {max : ℕ}
    (h : autoResumeRecord ctx max s record r count = .ok (s', count')) : s'.params = s.params := by
  obtain ⟨acc, finished, r', hm, -, -, ⟨-, -, rfl⟩ | ⟨-, -, s₁, r₁, hu, -, rfl⟩⟩ :=
    autoResumeRecord_eq_ok h
  · exact hm.kept.1
  · exact (updateStreamRecord_frame hu).params.trans hm.kept.1

/-- `EndBlock` leaves the parameters alone. -/
theorem endBlock_params (h : endBlock ctx s = .ok s') : s'.params = s.params := by
  obtain ⟨s₁, h₁, h₂⟩ := bind_eq_ok.1 h
  have hresume : s₁.params = s.params :=
    autoResumeLoop_invariant (fun s' => s'.params = s.params)
      (fun _ _ _ _ _ _ _ hI _ hround => (autoResumeRecord_params hround).trans hI) rfl h₁
  exact (autoSettle_kept h₂).1.trans hresume

theorem tryResumeStreamRecord_params (h : tryResumeStreamRecord ctx s addr r deposit = .ok s') :
    s'.params = s.params := by
  obtain ⟨-, -, hres⟩ := resumed_of_eq_ok h
  cases hres with
  | idle _ _ => rfl
  | short _ _ _ => rfl
  | direct _ _ _ _ _ hm _ _ =>
    exact (updateAutoSettleRecord_frame _ _ _ _).params.trans hm.kept.1
  | queued _ _ _ _ _ _ _ => rfl

end Moca.Payment
