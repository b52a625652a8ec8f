/-
# Swaps in need a reservation

A provider reserves the place of another one in a family or a group (`ReserveSwapIn`), and then
cancels the reservation or completes the swap.  A `Book` keeps, beside the state, every reservation
that a run has made, the newest first, with a mark for those that were cancelled or completed.

The store has one entry for each family and group.  It is the newest reservation while that one has
no mark (`BookOk.stored`), and all older ones have a mark or had expired when they were written over
(`BookOk.older`): so at most one reservation is unexpired at any time.  `CompleteSwapIn` looks at the
successor and the target of the entry.  It does not look at `ExpirationTime`, which the test of
`setSwapInInfo` on the same entry does: a reservation that has expired is as good as a live one
until somebody else reserves the place.
-/

import Moca.VirtualGroup.Redundancy

namespace Moca.VirtualGroup

/-- What is swapped into: a family, or a group. -/
inductive SwapKey
  | family (id : ℕ)
  | gvg (id : ℕ)
  deriving DecidableEq

/-- The key of a message: the family, where one is given. -/
def swapKey (familyID gvgID : ℕ) : SwapKey :=
  if familyID ≠ noSpecifiedFamilyID then .family familyID else .gvg gvgID

/-- The entry of a family or a group. -/
def State.swapInInfo (s : State) : SwapKey → Option SwapInInfo
  | .family id => s.swapInFamilies.find? id
  | .gvg id => s.swapInGVGs.find? id

/-- The provider is the primary of the family, or a secondary of the group. -/
def State.Serves (s : State) (spID : ℕ) : SwapKey → Prop
  | .family id => ∃ family, s.families.find? id = some family ∧ family.primarySpId = spID
  | .gvg id => ∃ gvg, s.gvgs.find? id = some gvg ∧ spID ∈ gvg.secondarySpIds

/-- A reservation that was made, and whether it was cancelled or completed. -/
structure Reservation where
  info : SwapInInfo
  ended : Bool
  deriving DecidableEq

/-- Neither cancelled nor completed, nor expired. -/
def Reservation.isLive (time : ℤ) (r : Reservation) : Bool :=
  !r.ended && decide (uint64 time < r.info.expirationTime)

/-- The newest reservation, if it was neither cancelled nor completed. -/
def openNewest : List Reservation → Option SwapInInfo
  | [] => none
  | r :: _ => if r.ended then none else some r.info

/-- The newest reservation is cancelled or completed. -/
def endNewest : List Reservation → List Reservation
  | [] => []
  | r :: older => { r with ended := true } :: older

theorem tail_endNewest (l : List Reservation) : (endNewest l).tail = l.tail := by cases l <;> rfl

/-- A state with the reservations that have led to it, the newest first. -/
structure Book where
  state : State
  time : ℤ
  made : SwapKey → List Reservation

/-- What a successful message does to the reservations. -/
def Book.record (b : Book) (ctx : Ctx) : Op → SwapKey → List Reservation
  | .reserveSwapIn storageProvider targetSpId familyID gvgID =>
    match b.state.operator storageProvider, b.state.params.swapInPeriod with
    | .ok sp, .ok period => Function.update b.made (swapKey familyID gvgID)
        (⟨⟨sp.id, targetSpId, uint64 (int64 (ctx.blockTime + period))⟩, false⟩ ::
          b.made (swapKey familyID gvgID))
    | _, _ => b.made
  | .cancelSwapIn _ familyID gvgID | .completeSwapIn _ familyID gvgID =>
    Function.update b.made (swapKey familyID gvgID) (endNewest (b.made (swapKey familyID gvgID)))
  | _ => b.made

/-- A step of the chain, at a time that is not before the last one. -/
def Book.step (b : Book) (l : Ctx × Op) : Option Book :=
  if b.time ≤ l.1.blockTime ∧ l.1.blockTime < 2 ^ 63 then
    match l.2.run l.1 b.state with
    | .ok s => some ⟨s, l.1.blockTime, b.record l.1 l.2⟩
    | .error _ => some { b with time := l.1.blockTime }
  else none

variable {ctx : Ctx} {s s' : State} {b b' : Book} {storageProvider : Addr} {familyID gvgID : ℕ}
  {info : SwapInInfo}

/-! ### The entries -/

theorem swapInInfo_congr
    (h : s'.swapInGVGs = s.swapInGVGs ∧ s'.swapInFamilies = s.swapInFamilies) :
    s'.swapInInfo = s.swapInInfo := by
  funext k
  cases k with
  | family id => exact congrArg (·.find? id) h.2
  | gvg id => exact congrArg (·.find? id) h.1

/-- Only the messages on reservations change the entries. -/
theorem swapInInfo_run {op : Op} (hop : op.reserves = false) (h : op.run ctx s = .ok s') :
    s'.swapInInfo = s.swapInInfo := by
  refine Relation.ReflTransGen.head_induction_on (motive := fun s₁ _ => s'.swapInInfo = s₁.swapInInfo)
    (run_moves op.allowed_any h) rfl fun hmove _ ih => ih.trans ?_
  cases hmove with
  | quiet _ _ hin _ => exact swapInInfo_congr (hin.resolve_right (by simp [hop]))
  | resize _ _ _ _ _ _ _ _ _ _ _ hframe =>
    exact swapInInfo_congr ⟨hframe.swapInGVGs, hframe.swapInFamilies⟩
  | create _ _ _ _ _ _ _ _ h => exact swapInInfo_congr ⟨h.swapInGVGs, h.swapInFamilies⟩
  | delete _ _ _ _ h => exact swapInInfo_congr ⟨h.frame.swapInGVGs, h.frame.swapInFamilies⟩
  | secondary _ _ _ _ _ _ _ _ h =>
    exact swapInInfo_congr ⟨h.frame.swapInGVGs, h.frame.swapInFamilies⟩
  | primary _ _ _ _ _ _ _ _ h => exact swapInInfo_congr ⟨h.frame.swapInGVGs, h.frame.swapInFamilies⟩

/-- An entry is written. -/
theorem swapInInfo_insert
    (h : familyID ≠ noSpecifiedFamilyID ∧
        s' = { s with swapInFamilies := s.swapInFamilies.insert familyID info } ∨
      familyID = noSpecifiedFamilyID ∧
        s' = { s with swapInGVGs := s.swapInGVGs.insert gvgID info }) :
    s'.swapInInfo = Function.update s.swapInInfo (swapKey familyID gvgID) (some info) := by
  funext k
  obtain ⟨hfamily, rfl⟩ | ⟨hfamily, rfl⟩ := h <;> cases k <;>
    simp [swapKey, hfamily, State.swapInInfo, Function.update_apply, SortedMap.find?_insert]

/-- An entry is deleted. -/
theorem swapInInfo_erase
    (h : familyID ≠ noSpecifiedFamilyID ∧ s'.swapInFamilies = s.swapInFamilies.erase familyID ∧
        s'.swapInGVGs = s.swapInGVGs ∨
      familyID = noSpecifiedFamilyID ∧ s'.swapInGVGs = s.swapInGVGs.erase gvgID ∧
        s'.swapInFamilies = s.swapInFamilies) :
    s'.swapInInfo = Function.update s.swapInInfo (swapKey familyID gvgID) none := by
  funext k
  obtain ⟨hfamily, h₁, h₂⟩ | ⟨hfamily, h₁, h₂⟩ := h <;> cases k <;>
    simp [swapKey, hfamily, State.swapInInfo, Function.update_apply, SortedMap.find?_erase, h₁, h₂]

/-- **A reservation is written where none is, or an expired one.** -/
theorem swapInInfo_reserve {targetSpId : ℕ}
    (h : reserveSwapIn ctx s storageProvider targetSpId familyID gvgID = .ok s') :
    ∃ sp period, s.operator storageProvider = .ok sp ∧ s.params.swapInPeriod = .ok period ∧
      (∀ cur ∈ s.swapInInfo (swapKey familyID gvgID), cur.expirationTime ≤ uint64 ctx.blockTime) ∧
      s'.swapInInfo = Function.update s.swapInInfo (swapKey familyID gvgID)
        (some ⟨sp.id, targetSpId, uint64 (int64 (ctx.blockTime + period))⟩) := by
  obtain ⟨sp, target, period, hsp, rfl, -, hperiod, h⟩ := reserveSwapIn_eq_ok h
  refine ⟨sp, period, hsp, hperiod, ?_⟩
  obtain ⟨hfamily, hfree, hs⟩ | ⟨hfamily, hfree, hs⟩ := swapIn_eq_ok h
  · exact ⟨by rwa [swapKey, if_pos hfamily], swapInInfo_insert (.inl ⟨hfamily, hs⟩)⟩
  · exact ⟨by rwa [swapKey, if_neg (not_not.2 hfamily)], swapInInfo_insert (.inr ⟨hfamily, hs⟩)⟩

theorem swapInInfo_cancel (h : cancelSwapIn s storageProvider familyID gvgID = .ok s') :
    s'.swapInInfo = Function.update s.swapInInfo (swapKey familyID gvgID) none := by
  obtain ⟨_, -, h⟩ := bind_eq_ok.1 h
  obtain ⟨sp, -, h⟩ := bind_eq_ok.1 h
  obtain ⟨hfamily, rfl⟩ | ⟨hfamily, rfl⟩ := deleteSwapInInfo_eq_ok h
  · exact swapInInfo_erase (.inl ⟨hfamily, rfl, rfl⟩)
  · exact swapInInfo_erase (.inr ⟨hfamily, rfl, rfl⟩)

/-- **A swap in is completed by the provider of the entry**, which replaces the target of the
entry. -/
theorem swapInInfo_complete (h : completeSwapIn ctx s storageProvider familyID gvgID = .ok s') :
    (∃ sp info, s.operator storageProvider = .ok sp ∧
      s.swapInInfo (swapKey familyID gvgID) = some info ∧ info.successorSpId = sp.id ∧
      s.Serves info.targetSpId (swapKey familyID gvgID)) ∧
    s'.swapInInfo = Function.update s.swapInInfo (swapKey familyID gvgID) none := by
  obtain ⟨sp, info, hsp, hsucc, ⟨hfamily, hinfo, s₁, gvg, i, hswap, -, rfl⟩ |
    ⟨hfamily, hinfo, s₁, family, l, hswap, -, rfl⟩⟩ := completeSwapIn_eq_ok h
  · refine ⟨⟨sp, info, hsp, ?_, hsucc.symm, ?_⟩, swapInInfo_erase (.inr ⟨hfamily, ?_, ?_⟩)⟩
    · rwa [swapKey, if_neg (not_not.2 hfamily)]
    · rw [swapKey, if_neg (not_not.2 hfamily)]
      exact ⟨gvg, hswap.find, List.mem_of_getElem? hswap.place⟩
    · exact congrArg (·.erase gvgID) hswap.frame.swapInGVGs
    · exact hswap.frame.swapInFamilies
  · refine ⟨⟨sp, info, hsp, ?_, hsucc.symm, ?_⟩, swapInInfo_erase (.inl ⟨hfamily, ?_, ?_⟩)⟩
    · rwa [swapKey, if_pos hfamily]
    · rw [swapKey, if_pos hfamily]
      exact ⟨family, hswap.find, hswap.owner⟩
    · exact congrArg (·.erase familyID) hswap.frame.swapInFamilies
    · exact hswap.frame.swapInGVGs

/-! ### The reservations of a run -/

/-- The entries are the newest reservations, if these are open; all older ones are closed or have
expired. -/
structure BookOk (b : Book) : Prop where
  nonneg : 0 ≤ b.time
  stored : ∀ k, b.state.swapInInfo k = openNewest (b.made k)
  older : ∀ k, ∀ r ∈ (b.made k).tail, r.ended = true ∨ r.info.expirationTime ≤ uint64 b.time

theorem uint64_mono {x y : ℤ} (hx : 0 ≤ x) (hxy : x ≤ y) (hy : y < 2 ^ 63) : uint64 x ≤ uint64 y := by
  unfold uint64
  omega

/-- Time passes. -/
theorem BookOk.wait (h : BookOk b) {t : ℤ} (ht : b.time ≤ t) (hmax : t < 2 ^ 63) :
    BookOk { b with time := t } where
  nonneg := h.nonneg.trans ht
  stored := h.stored
  older k r hr := (h.older k r hr).imp_right fun hle => hle.trans (uint64_mono h.nonneg ht hmax)

/-- The newest reservation of a family or group is closed, and its entry deleted. -/
theorem BookOk.close (h : BookOk b) (k : SwapKey)
    (hs : s'.swapInInfo = Function.update b.state.swapInInfo k none) :
    BookOk ⟨s', b.time, Function.update b.made k (endNewest (b.made k))⟩ := by
  refine ⟨h.nonneg, fun k' => ?_, fun k' r hr => ?_⟩
  · rw [hs]
    by_cases hk : k' = k
    · subst hk
      cases b.made k' <;> simp [endNewest, openNewest]
    · simpa [hk] using h.stored k'
  · by_cases hk : k' = k
    · subst hk
      exact h.older k' r (by simpa [tail_endNewest] using hr)
    · exact h.older k' r (by simpa [hk] using hr)

/-- A reservation is made, where the entry has expired. -/
theorem BookOk.reserve (h : BookOk b) (k : SwapKey) (info : SwapInInfo)
    (hfree : ∀ cur ∈ b.state.swapInInfo k, cur.expirationTime ≤ uint64 b.time)
    (hs : s'.swapInInfo = Function.update b.state.swapInInfo k (some info)) :
    BookOk ⟨s', b.time, Function.update b.made k (⟨info, false⟩ :: b.made k)⟩ := by
  refine ⟨h.nonneg, fun k' => ?_, fun k' r hr => ?_⟩
  · rw [hs]
    by_cases hk : k' = k
    · subst hk
      simp [openNewest]
    · simpa [hk] using h.stored k'
  · by_cases hk : k' = k
    · subst hk
      have hr : r ∈ b.made k' := by simpa using hr
      -- The one that was the newest is the entry, if it is open.
      cases hmade : b.made k' with
      | nil => simp [hmade] at hr
      | cons newest older =>
        obtain rfl | hr := List.mem_cons.1 (hmade ▸ hr)
        · cases hend : r.ended with
          | true => exact .inl rfl
          | false =>
            refine .inr (hfree r.info ?_)
            rw [h.stored, hmade]
            simp [openNewest, hend]
        · exact h.older k' r (by rw [hmade]; exact hr)
    · exact h.older k' r (by simpa [hk] using hr)

theorem BookOk.step {l : Ctx × Op} (h : BookOk b) (hstep : b.step l = some b') : BookOk b' := by
  obtain ⟨ctx, op⟩ := l
  unfold Book.step at hstep
  split_ifs at hstep with htime
  have hwait := h.wait htime.1 htime.2
  split at hstep
  · rename_i s' hrun
    cases hstep
    cases op with
    | reserveSwapIn storageProvider targetSpId familyID gvgID =>
      obtain ⟨sp, period, hsp, hperiod, hfree, hs⟩ := swapInInfo_reserve hrun
      have hreserve := hwait.reserve (swapKey familyID gvgID) _ hfree hs
      simpa only [Book.record, hsp, hperiod] using hreserve
    | cancelSwapIn storageProvider familyID gvgID => exact hwait.close _ (swapInInfo_cancel hrun)
    | completeSwapIn storageProvider familyID gvgID =>
      exact hwait.close _ (swapInInfo_complete hrun).2
    | _ => exact ⟨hwait.nonneg, by rw [swapInInfo_run rfl hrun]; exact hwait.stored, hwait.older⟩
  · cases hstep
    exact hwait

/-- The books that the messages lead to from an empty store. -/
def Book.Reached (p : Params) (sp : Sp.Store) (payment : Payment.State) (time : ℤ) (b : Book) :
    Prop :=
  Reachable Book.step (fun _ _ => True) ⟨State.empty p sp payment, time, fun _ => []⟩ b

theorem Book.Reached.ok {p : Params} {sp : Sp.Store} {payment : Payment.State} {time : ℤ}
    (h : b.Reached p sp payment time) (htime : 0 ≤ time) : BookOk b := by
  refine Reachable.invariant BookOk ⟨htime, fun k => ?_, fun k r hr => ?_⟩
    (fun b l b' hb _ hstep => hb.step hstep) h
  · cases k <;> rfl
  · cases hr

/-- At most one reservation is live. -/
theorem BookOk.countP_le (h : BookOk b) (k : SwapKey) :
    (b.made k).countP (·.isLive b.time) ≤ 1 := by
  have hdead : ∀ r ∈ (b.made k).tail, ¬r.isLive b.time = true := by
    intro r hr
    obtain hend | hle := h.older k r hr
    · simp [Reservation.isLive, hend]
    · simp [Reservation.isLive, hle]
  cases hmade : b.made k with
  | nil => simp
  | cons newest older =>
    rw [hmade] at hdead
    have hzero : older.countP (·.isLive b.time) = 0 := List.countP_eq_zero.2 hdead
    rw [List.countP_cons, hzero]
    split_ifs <;> omega

/-- The newest reservation for the family or group was made by the provider for one that it can
replace, and is live. -/
def Book.LiveReservation (b : Book) (time : ℤ) (spID : ℕ) (k : SwapKey) : Prop :=
  ∃ r older, b.made k = r :: older ∧ r.info.successorSpId = spID ∧
    b.state.Serves r.info.targetSpId k ∧ r.isLive time = true

/-- The first provider exits, and the second one reserves its family. -/
def familyReserved : List (Ctx × Op) := familySwappedIn.take 3

/-- A book without reservations. -/
def fourProvidersBook : Book := ⟨fourProvidersState, 0, fun _ => []⟩

end Moca.VirtualGroup
