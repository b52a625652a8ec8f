/-
# The versions of the parameters

Only `UpdateParams` writes the history of the parameters.  The updates of stream records keep it
with everything else that is not their own (`State.Frame`); here are the operations that change
flows and queues as well.
-/

import Moca.Payment.EndBlockTotal

namespace Moca.Payment

variable {ctx : Ctx} {s s' : State} {record : QueueKey} {r : StreamRecord} {count count' : ℕ}
  {addr : Addr} {max : ℕ}

theorem applyUserFlowsList_versions {l : List UserFlows}
    (h : applyUserFlowsList ctx s l = .ok s') : s'.versionedParams = s.versionedParams := by
  refine foldlM_invariant (fun s' => s'.versionedParams = s.versionedParams)
    (fun s₁ u s₂ _ hI hround => ?_) rfl h
  obtain ⟨A, F, s₃, r₁, happ, -⟩ := applied_of_applyUserFlows hround
  have hupdated := (updateStreamRecord_frame happ.updated).versionedParams
  have hreceivers := (applyStreamRecordChanges_rates happ.receivers).1.versionedParams
  exact hreceivers.trans (hupdated.trans hI)

theorem Moved.versions {max : Option ℕ} {sign : ℤ} {status : OutFlowStatus} {acc : FlowMove}
    {finished : Bool} (hm : Moved ctx max sign s addr status count acc finished) :
    acc.state.versionedParams = s.versionedParams := by
  refine foldlM_invariant (fun s' => s'.versionedParams = s.versionedParams)
    (fun s₁ f s₂ _ hI hmove => ?_) rfl hm.state
  obtain ⟨s₃, h₃, h₂⟩ := bind_eq_ok.1 hmove
  cases h₂
  exact (updateStreamRecordByAddrDepth_frame _ h₃).versionedParams.trans hI

theorem settleFlows_versions (h : settleFlows ctx max s record r count = .ok (s', count')) :
    s'.versionedParams = s.versionedParams := by
  rcases settleFlows_eq_ok h with ⟨-, rfl, -⟩ | ⟨-, acc, finished, r', hm, -, -, -, -, rfl⟩
  · rfl
  · cases finished <;> exact hm.versions

theorem autoSettleRecord_versions {stop : Bool}
    (h : autoSettleRecord ctx max s record r count = .ok (s', count', stop)) :
    s'.versionedParams = s.versionedParams := by
  rcases autoSettleRecord_eq_ok h with ⟨-, -, hset⟩ | ⟨-, rfl, -⟩ |
    ⟨-, s₁, r₁, hu, -, ⟨rfl, -, -⟩ | ⟨-, -, -, hset⟩⟩
  · exact settleFlows_versions hset
  · rfl
  · exact (updateStreamRecord_frame hu).versionedParams
  · exact (settleFlows_versions hset).trans (updateStreamRecord_frame hu).versionedParams

theorem autoResumeRecord_versions (h : autoResumeRecord ctx max s record r count = .ok (s', count')) :
    s'.versionedParams = s.versionedParams := by
  obtain ⟨acc, finished, r', hm, -, -, ⟨-, -, rfl⟩ | ⟨-, -, s₁, r₁, hu, -, rfl⟩⟩ :=
    autoResumeRecord_eq_ok h
  · exact hm.versions
  · exact (updateStreamRecord_frame hu).versionedParams.trans hm.versions

theorem endBlock_versions (h : endBlock ctx s = .ok s') :
    s'.versionedParams = s.versionedParams := by
  obtain ⟨s₁, h₁, h₂⟩ := bind_eq_ok.1 h
  have hresume : s₁.versionedParams = s.versionedParams :=
    autoResumeLoop_invariant (fun s' => s'.versionedParams = s.versionedParams)
      (fun _ _ _ _ _ _ _ hI _ hround => (autoResumeRecord_versions hround).trans hI) rfl h₁
  exact autoSettleLoop_invariant (fun s' => s'.versionedParams = s.versionedParams)
    (fun _ _ _ _ _ _ _ _ hI _ _ hround => (autoSettleRecord_versions hround).trans hI) hresume h₂

theorem tryResumeStreamRecord_versions {deposit : ℤ}
    (h : tryResumeStreamRecord ctx s addr r deposit = .ok s') :
    s'.versionedParams = s.versionedParams := by
  obtain ⟨-, -, hres⟩ := resumed_of_eq_ok h
  cases hres with
  | idle _ _ => rfl
  | short _ _ _ => rfl
  | direct _ _ _ _ _ hm _ _ =>
    exact (updateAutoSettleRecord_frame _ _ _ _).versionedParams.trans hm.versions
  | queued _ _ _ _ _ _ _ => rfl

theorem State.BankMove.versions {x : ℤ} (h : s.BankMove s' x) :
    s'.versionedParams = s.versionedParams := by rw [h.eq]

/-- **No operation but `UpdateParams` writes a version of the parameters.** -/
theorem run_versions {op : Op} (h : op.run ctx s = .ok s') (hop : ∀ p, op ≠ .updateParams p) :
    s'.versionedParams = s.versionedParams := by
  cases op.ran h with
  | opened hbank _ _ => exact hbank.versions
  | updated hbank _ _ hu _ hpay =>
    exact hpay.versions.trans ((updateStreamRecord_frame hu).versionedParams.trans hbank.versions)
  | claimed hbank => exact hbank.versions
  | resumed hbank _ hres => exact (tryResumeStreamRecord_versions hres).trans hbank.versions
  | tried _ hres => exact tryResumeStreamRecord_versions hres
  | charged hs => exact applyUserFlowsList_versions hs
  | configured _ hparams =>
    rcases hparams with ⟨-, hv⟩ | ⟨rfl, -⟩
    · exact hv
    · exact absurd rfl (hop _)
  | ended hs => exact endBlock_versions hs

end Moca.Payment
