/-
# The indexes of the storage providers

Six indexes lead to a provider: by operator, funding, seal, approval and gc address, and
by BLS public key.  The first five are exact in every reachable state: a new provider
has keys that lead nowhere, an edit drops the keys it replaces, an exit drops all five.

The sixth is exact as long as no provider exits.  `Exit` deletes another key than the
one that was set, so the BLS key of a provider that is gone still leads to its id.
-/

import Moca.Lib.Index
import Moca.Sp.Effect

namespace Moca.Sp

open SortedMap

open SortedMap (IndexOf)

variable {ctx : Ctx} {s s' : State} {g : Limits} {balance : Addr → ℤ} {p : Params}

/-- The five indexes by address are exact. -/
structure State.AddressIndexes (s : State) : Prop where
  operator : IndexOf s.providers (fun sp => sp.operatorAddress) s.byOperatorAddr
  funding : IndexOf s.providers (fun sp => sp.fundingAddress) s.byFundingAddr
  sealing : IndexOf s.providers (fun sp => sp.sealAddress) s.bySealAddr
  approval : IndexOf s.providers (fun sp => sp.approvalAddress) s.byApprovalAddr
  gc : IndexOf s.providers (fun sp => sp.gcAddress) s.byGcAddr

/-- The index by BLS public key is exact. -/
def State.BlsIndex (s : State) : Prop := IndexOf s.providers Provider.blsKey s.byBlsKey

/-- The next id is above all ids. -/
def State.FreshIds (s : State) : Prop :=
  ∀ id sp, s.providers.find? id = some sp → id ≤ s.spSequence

/-! ### One index -/

section OneIndex

variable {κ : Type} [LinearOrder κ] {index : SortedMap κ ℕ} {key : Provider → κ} {sp sp' : Provider}

theorem State.FreshIds.find?_eq_none (h : s.FreshIds) (hid : sp.id = s.spSequence + 1) :
    s.providers.find? sp.id = none := by
  cases hfind : s.providers.find? sp.id with
  | none => rfl
  | some sp' =>
    have hle := h _ _ hfind
    omega

/-- A new provider whose key leads nowhere. -/
theorem index_register (h : IndexOf s.providers key index) (hids : s.FreshIds)
    (hid : sp.id = s.spSequence + 1) (hunused : s.lookup index (key sp) = none) :
    IndexOf (s.providers.insert sp.id sp) key (index.insert (key sp) sp.id) :=
  h.insert (hids.find?_eq_none hid) (h.find?_eq_none hunused)

/-- An edited key leads at most to the provider itself. -/
theorem State.NotOthers.eq_id (h : IndexOf s.providers key index)
    (hsp : s.providers.find? sp.id = some sp)
    (hnew : s.NotOthers index sp.id (key sp) (key sp')) {j : ℕ}
    (hj : index.find? (key sp') = some j) : j = sp.id := by
  rcases hnew with heq | hothers
  · rw [heq, h.find?_key hsp] at hj
    exact (Option.some.inj hj).symm
  · obtain ⟨other, hother, -⟩ := (h _ _).1 hj
    have hfound : s.lookup index (key sp') = some other := by
      unfold State.lookup State.getStorageProvider
      rw [hj]
      exact hother
    rw [← s.id_key _ _ hother]
    exact hothers other hfound

theorem insert_dropOldKey (index : SortedMap κ ℕ) (old new : κ) (id : ℕ) :
    (dropOldKey index old new).insert new id = (index.erase old).insert new id := by
  unfold dropOldKey
  split_ifs with h
  · rfl
  · rw [not_not.1 h, insert_erase_self]

/-- An edit that drops the old key. -/
theorem index_edit (h : IndexOf s.providers key index) (hsp : s.providers.find? sp.id = some sp)
    (hnew : s.NotOthers index sp.id (key sp) (key sp')) :
    IndexOf (s.providers.insert sp.id sp') key
      ((dropOldKey index (key sp) (key sp')).insert (key sp') sp.id) := by
  rw [insert_dropOldKey]
  exact h.replace hsp fun _ hj => hnew.eq_id h hsp hj

end OneIndex

/-! ### All of them -/

theorem State.FreshIds.effect (he : Effect g s s') (h : s.FreshIds) : s'.FreshIds := by
  have hinsert : ∀ {sp sp' : Provider}, s.providers.find? sp.id = some sp →
      s'.providers = s.providers.insert sp.id sp' → s'.spSequence = s.spSequence → s'.FreshIds := by
    intro sp sp' hsp hrecords hseq id sp₂ hfind
    rw [hrecords, find?_insert] at hfind
    rw [hseq]
    split_ifs at hfind with hid
    · rw [hid]
      exact h _ _ hsp
    · exact h _ _ hfind
  cases he with
  | note hrecords hindexes _ =>
    intro id sp hfind
    rw [hrecords] at hfind
    rw [hindexes.sequence]
    exact h _ _ hfind
  | register sp _ hid _ _ hrecords _ _ _ _ _ _ hsequence _ =>
    intro id sp' hfind
    rw [hrecords, find?_insert] at hfind
    rw [hsequence]
    split_ifs at hfind with hnew
    · omega
    · have hle := h _ _ hfind
      omega
  | edit sp sp' hsp hedit heq =>
    have hrecords : s'.providers = s.providers.insert sp.id sp' := by
      rw [heq, ← hedit.id]
      rfl
    have hseq : s'.spSequence = s.spSequence := by
      rw [heq]
      rfl
    exact hinsert hsp hrecords hseq
  | write sp sp' hsp _ _ hrecords hindexes _ _ => exact hinsert hsp hrecords hindexes.sequence
  | exit sp hsp _ heq =>
    rw [heq]
    intro id sp' hfind
    change (s.providers.erase sp.id).find? id = some sp' at hfind
    rw [find?_erase] at hfind
    split_ifs at hfind
    exact h _ _ hfind

/-- A record replaced by one with the same keys. -/
theorem State.AddressIndexes.replace (h : s.AddressIndexes) {sp sp' : Provider}
    (hsp : s.providers.find? sp.id = some sp) (hkeys : SameKeys sp sp')
    (hrecords : s'.providers = s.providers.insert sp.id sp') (hindexes : SameIndexes s s') :
    s'.AddressIndexes where
  operator := by
    rw [hrecords, hindexes.operator]
    exact h.operator.replace_same hsp hkeys.operator
  funding := by
    rw [hrecords, hindexes.funding]
    exact h.funding.replace_same hsp hkeys.funding
  sealing := by
    rw [hrecords, hindexes.sealing]
    exact h.sealing.replace_same hsp hkeys.sealing
  approval := by
    rw [hrecords, hindexes.approval]
    exact h.approval.replace_same hsp hkeys.approval
  gc := by
    rw [hrecords, hindexes.gc]
    exact h.gc.replace_same hsp hkeys.gc

/-- The records and indexes of an edit. -/
theorem State.AddressIndexes.edit (h : s.AddressIndexes) {sp sp' : Provider}
    (hsp : s.providers.find? sp.id = some sp) (hedit : s.Edited sp sp') :
    (s.rewrite sp sp').AddressIndexes := by
  have hid := hedit.id
  constructor
  · show IndexOf (s.providers.insert sp'.id sp') _ s.byOperatorAddr
    rw [hid]
    exact h.operator.replace_same hsp hedit.operator
  · show IndexOf (s.providers.insert sp'.id sp') _ (s.byFundingAddr.insert sp'.fundingAddress sp'.id)
    rw [hid, hedit.funding, insert_eq_self (h.funding.find?_key hsp)]
    exact h.funding.replace_same hsp hedit.funding
  · show IndexOf (s.providers.insert sp'.id sp') _
      ((dropOldKey s.bySealAddr _ _).insert sp'.sealAddress sp'.id)
    rw [hid]
    exact index_edit h.sealing hsp hedit.sealing
  · show IndexOf (s.providers.insert sp'.id sp') _
      ((dropOldKey s.byApprovalAddr _ _).insert sp'.approvalAddress sp'.id)
    rw [hid]
    exact index_edit h.approval hsp hedit.approval
  · show IndexOf (s.providers.insert sp'.id sp') _
      ((dropOldKey s.byGcAddr _ _).insert sp'.gcAddress sp'.id)
    rw [hid]
    exact index_edit h.gc hsp hedit.gc

/-- **The indexes by address stay exact**, whatever the write. -/
theorem State.AddressIndexes.effect (he : Effect g s s') (hids : s.FreshIds)
    (h : s.AddressIndexes) : s'.AddressIndexes := by
  cases he with
  | note hrecords hindexes _ =>
    constructor
    · rw [hrecords, hindexes.operator]
      exact h.operator
    · rw [hrecords, hindexes.funding]
      exact h.funding
    · rw [hrecords, hindexes.sealing]
      exact h.sealing
    · rw [hrecords, hindexes.approval]
      exact h.approval
    · rw [hrecords, hindexes.gc]
      exact h.gc
  | register sp _ hid hunused _ hrecords hoperator hfunding hseal happroval hgc _ _ _ =>
    constructor
    · rw [hrecords, hoperator]
      exact index_register h.operator hids hid hunused.operator
    · rw [hrecords, hfunding]
      exact index_register h.funding hids hid hunused.funding
    · rw [hrecords, hseal]
      exact index_register h.sealing hids hid hunused.sealing
    · rw [hrecords, happroval]
      exact index_register h.approval hids hid hunused.approval
    · rw [hrecords, hgc]
      exact index_register h.gc hids hid hunused.gc
  | edit sp sp' hsp hedit heq =>
    rw [heq]
    exact h.edit hsp hedit
  | write sp sp' hsp hkeys _ hrecords hindexes _ _ => exact h.replace hsp hkeys hrecords hindexes
  | exit sp hsp _ heq =>
    rw [heq]
    exact ⟨h.operator.erase hsp, h.funding.erase hsp, h.sealing.erase hsp, h.approval.erase hsp,
      h.gc.erase hsp⟩

/-- **The index by BLS key stays exact** as long as no provider exits. -/
theorem State.BlsIndex.effect (he : Effect g s s') (hexit : ¬g.exit) (hids : s.FreshIds)
    (h : s.BlsIndex) : s'.BlsIndex := by
  cases he with
  | note hrecords hindexes _ =>
    unfold State.BlsIndex
    rw [hrecords, hindexes.bls]
    exact h
  | register sp _ hid hunused _ hrecords _ _ _ _ _ hbls _ _ =>
    unfold State.BlsIndex
    rw [hrecords, hbls]
    exact index_register h hids hid hunused.bls
  | edit sp sp' hsp hedit heq =>
    rw [heq]
    show IndexOf (s.providers.insert sp'.id sp') _
      ((dropOldKey s.byBlsKey _ _).insert sp'.blsKey sp'.id)
    rw [hedit.id]
    exact index_edit h hsp hedit.bls
  | write sp sp' hsp hkeys _ hrecords hindexes _ _ =>
    unfold State.BlsIndex
    rw [hrecords, hindexes.bls]
    exact IndexOf.replace_same h hsp hkeys.bls
  | exit sp _ hallowed _ => exact absurd hallowed hexit

/-- **An exit leaves its BLS key behind**: the index is exact no longer. -/
theorem not_blsIndex_exit {sp : Provider} (hsp : s.providers.find? sp.id = some sp)
    (h : s.BlsIndex) : ¬(s.exit sp).BlsIndex := by
  intro h'
  have hkey : sp.blsKey ≠ blsPubKeyPrefix :: sp.blsKey := by
    intro heq
    have hlength := congrArg List.length heq
    simp at hlength
  have hfind : (s.exit sp).byBlsKey.find? sp.blsKey = some sp.id := by
    show (s.byBlsKey.erase _).find? sp.blsKey = some sp.id
    rw [find?_erase_of_ne _ hkey]
    exact IndexOf.find?_key h hsp
  obtain ⟨sp', hsp', -⟩ := (h' _ _).1 hfind
  change (s.providers.erase sp.id).find? sp.id = some sp' at hsp'
  simp at hsp'

/-! ### Runs -/

/-- No assumption about what `x/virtualgroup` asks for. -/
def anyCalls : Limits := ⟨fun _ _ _ => True, True⟩

/-- `x/virtualgroup` removes no provider. -/
def noExit : Limits := ⟨fun _ _ _ => True, False⟩

/-- **The indexes by address are exact** in every state that is reached while new ids are new. -/
theorem reachable_addressIndexes
    (h : Reachable State.step (fun s l => l.2.Allowed anyCalls s) (State.empty p balance) s) :
    s.FreshIds ∧ s.AddressIndexes := by
  refine Reachable.invariant (fun s => s.FreshIds ∧ s.AddressIndexes) ⟨?_, ?_⟩ ?_ h
  · intro id sp hfind
    simp [State.empty] at hfind
  · exact ⟨.empty _, .empty _, .empty _, .empty _, .empty _⟩
  · intro s l s' hs hop hstep
    exact (step_writes hop hstep).invariant (I := fun s => s.FreshIds ∧ s.AddressIndexes)
      (fun _ _ he h => ⟨h.1.effect he, h.2.effect he h.1⟩) hs

theorem reachable_blsIndex
    (h : Reachable State.step (fun s l => l.2.Allowed noExit s) (State.empty p balance) s) :
    s.FreshIds ∧ s.BlsIndex := by
  refine Reachable.invariant (fun s => s.FreshIds ∧ s.BlsIndex) ⟨?_, ?_⟩ ?_ h
  · intro id sp hfind
    simp [State.empty] at hfind
  · exact .empty _
  · intro s l s' hs hop hstep
    exact (step_writes hop hstep).invariant (I := fun s => s.FreshIds ∧ s.BlsIndex)
      (fun _ _ he h => ⟨h.1.effect he, h.2.effect he not_false h.1⟩) hs

instance (s : State) (sp : Provider) (status : Status) :
    Decidable (anyCalls.setStatus s sp status) := isTrue trivial

instance : Decidable anyCalls.exit := isTrue trivial

instance (s : State) (sp : Provider) (status : Status) :
    Decidable (noExit.setStatus s sp status) := isTrue trivial

instance : Decidable noExit.exit := isFalse not_false

/-- **The indexes of the providers.**  The five indexes by address are exact in every reachable
state; the index by BLS key is, as long as no provider exits, and every exit makes it inexact. -/
theorem provider_indexes_exact {p : Params} {b : Addr → ℤ} :
    (∀ s, Reachable State.step (fun s l => l.2.Allowed anyCalls s) (State.empty p b) s →
      s.AddressIndexes) ∧
    (∀ s, Reachable State.step (fun s l => l.2.Allowed noExit s) (State.empty p b) s →
      s.BlsIndex) ∧
    ∀ (ctx : Ctx) (s s' : State) (addr : Addr), s.BlsIndex →
      (Op.exit addr).run ctx s = .ok s' → ¬s'.BlsIndex := by
  refine ⟨fun s h => (reachable_addressIndexes h).2, fun s h => (reachable_blsIndex h).2, ?_⟩
  intro ctx s s' addr hbls hexit
  simp only [Op.run] at hexit
  split at hexit
  · simp at hexit
  rename_i sp hsp
  cases hexit
  exact not_blsIndex_exit (lookup_eq_some hsp).2 hbls

/-! ### A provider that comes, changes and goes -/

/-- The context of the genesis block. -/
def sampleCtx : Ctx where
  blockTime := 10
  blockHeight := 0
  hasAccount := fun _ => true

/-- A BLS public key: one byte over and over. -/
def sampleKey (byte : Fin 256) : Bytes := List.replicate 128 byte

/-- A provider with operator address `101`, which registers itself. -/
def sampleMsg : MsgCreateStorageProvider where
  creator := 101
  spAddress := 101
  fundingAddress := 201
  sealAddress := 301
  approvalAddress := 401
  gcAddress := 501
  maintenanceAddress := some 601
  description := ⟨"sp", "", "", ""⟩
  endpoint := "sp.io"
  deposit := ⟨"amoca", 10000 * 10 ^ 18⟩
  readPrice := 1
  freeReadQuota := 0
  storePrice := 1
  blsKey := sampleKey ⟨1, by decide⟩
  blsProof := [⟨1, by decide⟩]

/-- The store before the first provider; every account is rich. -/
def sampleStart : State := State.empty defaultParams fun _ => 10 ^ 30

/-- The provider registers, and gets another seal address and another BLS key. -/
def sampleEdit : List (Ctx × Op) :=
  [(sampleCtx, .createStorageProvider sampleMsg),
    (sampleCtx, .editStorageProvider
      { spAddress := 101, sealAddress := some 302, blsKey := some (sampleKey ⟨2, by decide⟩),
        blsProof := [⟨1, by decide⟩] })]

/-- The provider registers and exits. -/
def sampleExit : List (Ctx × Op) :=
  [(sampleCtx, .createStorageProvider sampleMsg), (sampleCtx, .setStatus 101 .gracefulExiting),
    (sampleCtx, .exit 101)]

theorem provider_indexes_edited : ∃ s, runSteps State.step sampleStart sampleEdit = some s ∧
    s.bySealAddr.find? 302 = some 1 ∧ s.AddressIndexes ∧ s.BlsIndex ∧
    ∃ s', (Op.exit 101).run sampleCtx s = .ok s' ∧ ¬s'.BlsIndex := by
  refine Option.exists_some_of (fun s => s.bySealAddr.find? 302 = some 1 ∧
    ∃ sp, s.getStorageProviderByOperatorAddr 101 = some sp ∧ True) (by decide +kernel)
    fun s hs ⟨hseal, sp, hsp, _⟩ => ?_
  have hrun : (Op.exit 101).run sampleCtx s = .ok (s.exit sp) := by
    simp only [Op.run, hsp]
  obtain ⟨haddresses, hbls, hexit⟩ :=
    provider_indexes_exact (p := defaultParams) (b := fun _ => 10 ^ 30)
  have hindex := hbls s (.of_runSteps .start (by decide +kernel) hs)
  exact ⟨hseal, haddresses s (.of_runSteps .start (by decide +kernel) hs), hindex, _, hrun,
    hexit _ _ _ _ hindex hrun⟩

/-- **After an exit the BLS key leads to an id that no provider has.** -/
theorem bls_index_stale : ∃ s, Reachable State.step (fun s l => l.2.Allowed anyCalls s) sampleStart s ∧
    s.byBlsKey.find? (sampleKey ⟨1, by decide⟩) = some 1 ∧ s.providers.find? 1 = none ∧
    ¬s.BlsIndex := by
  obtain ⟨s, hs, hstale, hnone⟩ : ∃ s, runSteps State.step sampleStart sampleExit = some s ∧
      s.byBlsKey.find? (sampleKey ⟨1, by decide⟩) = some 1 ∧ s.providers.find? 1 = none := by
    decide +kernel
  refine ⟨s, .of_runSteps .start (by decide +kernel) hs, hstale, hnone, ?_⟩
  intro hbls
  obtain ⟨sp, hsp, -⟩ := (hbls _ _).1 hstale
  rw [hnone] at hsp
  simp at hsp

end Moca.Sp
