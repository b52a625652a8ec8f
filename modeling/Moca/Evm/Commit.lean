/-
# What a `StateDB` answers and commits

Both depend on a state only up to the order `Le`: a state that has what `s` has gives the
answers of `s` (`Le.sameAnswers`) and writes what `s` writes (`commit_eq`).  The objects of
the dirty addresses agree; a slot that was written back equals the committed value and is
skipped; a code that was set and set back is written again under its hash, where the keeper
has it already.  Nothing else is stored under that hash meanwhile unless two codes of the
transaction collide (`NoCollision`).
-/

import Moca.Evm.Undo

namespace Moca.Evm
namespace StateDB

variable {env : Env} {s t : StateDB} {addr : Address} {obj obj' : StateObject} {k k₀ : Keeper}

/-! ### The answers -/

/-- Two states answer every getter alike. -/
structure SameAnswers (env : Env) (s t : StateDB) : Prop where
  getBalance : ∀ addr, (t.getBalance env addr).2 = (s.getBalance env addr).2
  getNonce : ∀ addr, (t.getNonce env addr).2 = (s.getNonce env addr).2
  getCode : ∀ addr, (t.getCode env addr).2 = (s.getCode env addr).2
  getCodeSize : ∀ addr, (t.getCodeSize env addr).2 = (s.getCodeSize env addr).2
  getCodeHash : ∀ addr, (t.getCodeHash env addr).2 = (s.getCodeHash env addr).2
  getState : ∀ addr key, (t.getState env addr key).2 = (s.getState env addr key).2
  getCommittedState : ∀ addr key,
    (t.getCommittedState env addr key).2 = (s.getCommittedState env addr key).2
  getTransientState : ∀ addr key, t.getTransientState addr key = s.getTransientState addr key
  exist : ∀ addr, (t.exist env addr).2 = (s.exist env addr).2
  empty : ∀ addr, (t.empty env addr).2 = (s.empty env addr).2
  hasSuicided : ∀ addr, (t.hasSuicided env addr).2 = (s.hasSuicided env addr).2
  refund : t.refund = s.refund
  logs : t.logs = s.logs
  addressInAccessList : ∀ addr, t.addressInAccessList addr = s.addressInAccessList addr
  slotInAccessList : ∀ addr slot, t.slotInAccessList addr slot = s.slotInAccessList addr slot

/-- Objects that correspond give the same value to what only depends on their answers. -/
theorem Le.lookup_map {α : Type} (h : Le env s t) (addr : Address) {g g' : StateObject → α}
    (hg : ∀ obj obj', s.lookup env addr = some obj → t.lookup env addr = some obj' →
      StateObject.Le env s.keeper addr obj obj' → g' obj' = g obj) :
    (t.lookup env addr).map g' = (s.lookup env addr).map g := by
  cases ho : s.lookup env addr with
  | none => rw [h.lookup_eq_none ho, Option.map_none, Option.map_none]
  | some obj =>
    obtain ⟨obj', ho', hle⟩ := h.exists_lookup ho
    rw [ho', Option.map_some, Option.map_some, hg obj obj' ho ho' hle]

theorem getStateObject_snd (s : StateDB) (addr : Address) :
    (s.getStateObject env addr).2 = s.lookup env addr := by
  rw [getStateObject_eq]
  cases s.lookup env addr <;> rfl

theorem getCode_snd (s : StateDB) (addr : Address) :
    (s.getCode env addr).2 =
      ((s.lookup env addr).map fun o => o.getCode env s.keeper).getD none := by
  unfold getCode
  rw [getStateObject_eq]
  cases s.lookup env addr <;> rfl

theorem getState_snd (s : StateDB) (addr : Address) (key : Hash) :
    (s.getState env addr key).2 =
      ((s.lookup env addr).map fun o => o.getState s.keeper addr key).getD 0 := by
  unfold getState
  rw [getStateObject_eq]
  cases s.lookup env addr <;> rfl

theorem getCommittedState_snd (s : StateDB) (addr : Address) (key : Hash) :
    (s.getCommittedState env addr key).2 =
      ((s.lookup env addr).map fun o => o.getCommittedState s.keeper addr key).getD 0 := by
  unfold getCommittedState
  rw [getStateObject_eq]
  cases s.lookup env addr <;> rfl

/-- **A state that has what `s` has answers as `s` does.** -/
theorem Le.sameAnswers (h : Le env s t) (hs : Ok env s) (ht : Ok env t) :
    SameAnswers env s t where
  getBalance addr := by
    simp only [StateDB.getBalance, getStateObject_snd]
    rw [h.lookup_map addr fun _ _ _ _ hle => congrArg Account.balance hle.account]
  getNonce addr := by
    simp only [StateDB.getNonce, getStateObject_snd]
    rw [h.lookup_map addr fun _ _ _ _ hle => congrArg Account.nonce hle.account]
  getCode addr := by
    rw [getCode_snd, getCode_snd, h.keeper, h.lookup_map addr fun _ _ _ _ hle => hle.code]
  getCodeSize addr := by
    simp only [StateDB.getCodeSize, getCode_snd]
    rw [h.keeper, h.lookup_map addr fun _ _ _ _ hle => hle.code]
  getCodeHash addr := by
    simp only [StateDB.getCodeHash, getStateObject_snd]
    rw [h.lookup_map addr fun _ _ _ _ hle => congrArg Account.codeHash hle.account]
  getState addr key := by
    rw [getState_snd, getState_snd, h.keeper, h.lookup_map addr fun _ _ _ _ hle => hle.state key]
  getCommittedState addr key := by
    -- the committed value is the one of the keeper, cached or not
    have hmap : ((t.lookup env addr).map fun o => o.getCommittedState t.keeper addr key) =
        (s.lookup env addr).map fun o => o.getCommittedState s.keeper addr key :=
      h.lookup_map addr fun o o' ho ho' _ => by
        rw [(ht.objects addr o' ho').getCommittedState, (hs.objects addr o ho).getCommittedState,
          h.keeper]
    rw [getCommittedState_snd, getCommittedState_snd, hmap]
  getTransientState := h.transient
  exist addr := by
    simp only [StateDB.exist, getStateObject_snd]
    cases ho : s.lookup env addr with
    | none => rw [h.lookup_eq_none ho]
    | some obj =>
      obtain ⟨obj', ho', -⟩ := h.exists_lookup ho
      rw [ho']
      rfl
  empty addr := by
    simp only [StateDB.empty, getStateObject_snd]
    cases ho : s.lookup env addr with
    | none => rw [h.lookup_eq_none ho]
    | some obj =>
      obtain ⟨obj', ho', hle⟩ := h.exists_lookup ho
      rw [ho']
      simp only [Option.all_some, StateObject.empty, hle.account]
  hasSuicided addr := by
    simp only [StateDB.hasSuicided, getStateObject_snd]
    cases ho : s.lookup env addr with
    | none => rw [h.lookup_eq_none ho]
    | some obj =>
      obtain ⟨obj', ho', hle⟩ := h.exists_lookup ho
      rw [ho']
      exact hle.suicided
  refund := h.refund
  logs := h.logs
  addressInAccessList addr := by
    unfold StateDB.addressInAccessList
    rw [h.accessList]
  slotInAccessList addr slot := by
    unfold StateDB.slotInAccessList
    rw [h.accessList]

/-! ### Committing -/

/-- The codes of `k` are those of `k₀`, and more. -/
def KeepsCodes (k₀ k : Keeper) : Prop :=
  ∀ codeHash code, k₀.getCode codeHash = some code → k.getCode codeHash = some code

/-- **No code of the state collides with a stored one**: a code that was set has the hash of no
other code the keeper has. -/
def NoCollision (s : StateDB) : Prop :=
  ∀ addr obj, s.stateObjects.find? addr = some obj → obj.dirtyCode = true →
    ∀ code stored, obj.code = some code → s.keeper.getCode obj.account.codeHash = some stored →
      stored = code

/-- The keeper after the code of an object has been written. -/
def commitCode (k : Keeper) (obj : StateObject) : Keeper :=
  match obj.code, obj.dirtyCode with
  | some code, true => k.setCode obj.account.codeHash code
  | _, _ => k

/-- The slots of an object that `Commit` writes. -/
def written (obj : StateObject) : List (Hash × Hash) :=
  obj.dirtyStorage.entries.filter fun e => decide (e.2 ≠ (obj.originStorage.find? e.1).getD 0)

theorem commitObject_eq (k : Keeper) (addr : Address) (obj : StateObject) :
    commitObject env k addr obj =
      if obj.suicided ∨ obj.selfDestructed then k.deleteAccount env addr
      else do
        let k ← (commitCode k obj).setAccount env addr obj.account
        return (written obj).foldl (fun k e => k.setState addr e.1 (some e.2)) k := by
  have hfold : ∀ (l : List (Hash × Hash)) (k : Keeper),
      l.foldl (fun k e => if e.2 = (obj.originStorage.find? e.1).getD 0 then k
        else k.setState addr e.1 (some e.2)) k =
      (l.filter fun e => decide (e.2 ≠ (obj.originStorage.find? e.1).getD 0)).foldl
        (fun k e => k.setState addr e.1 (some e.2)) k := by
    intro l
    induction l with
    | nil => intro k; rfl
    | cons e l ih =>
      intro k
      rw [List.foldl_cons, List.filter_cons, ih]
      by_cases he : e.2 = (obj.originStorage.find? e.1).getD 0 <;> simp [he]
  have hwrite : (fun k : Keeper => obj.dirtyStorage.entries.foldl (fun k e =>
        if e.2 = (obj.originStorage.find? e.1).getD 0 then k
        else k.setState addr e.1 (some e.2)) k) =
      fun k => (written obj).foldl (fun k e => k.setState addr e.1 (some e.2)) k :=
    funext (hfold _)
  exact congrArg (fun f : Keeper → Keeper =>
    if obj.suicided ∨ obj.selfDestructed then k.deleteAccount env addr
    else do
      let k ← (commitCode k obj).setAccount env addr obj.account
      return f k) hwrite

/-- **The slots that are written are those that answer otherwise than the keeper.** -/
theorem mem_written (h : obj.Ok env k addr) (e : Hash × Hash) :
    e ∈ written obj ↔ obj.getState k addr e.1 = e.2 ∧ e.2 ≠ k.getState addr e.1 := by
  have horigin : ∀ key, (obj.dirtyStorage.find? key).isSome →
      (obj.originStorage.find? key).getD 0 = k.getState addr key := by
    intro key hd
    obtain ⟨v, hv⟩ := Option.isSome_iff_exists.1 (h.dirty key hd)
    rw [hv, Option.getD_some]
    exact h.origin key v hv
  unfold written
  rw [List.mem_filter, ← SortedMap.find?_eq_some_iff (k := e.1) (v := e.2), decide_eq_true_eq,
    StateObject.getState_eq, h.getCommittedState]
  cases hd : obj.dirtyStorage.find? e.1 with
  | none =>
    constructor
    · rintro ⟨hnone, -⟩
      cases hnone
    · rintro ⟨heq, hne⟩
      exact absurd heq.symm hne
  | some v =>
    rw [horigin e.1 (by rw [hd]; rfl), Option.some.injEq, Option.getD_some]

theorem written_eq (hle : StateObject.Le env k addr obj obj') (ho : obj.Ok env k addr)
    (ho' : obj'.Ok env k addr) : written obj' = written obj := by
  refine SortedMap.filter_entries_congr fun e => ?_
  have hmem : e ∈ written obj' ↔ e ∈ written obj := by
    rw [mem_written ho', mem_written ho, hle.state]
  unfold written at hmem
  rwa [List.mem_filter, List.mem_filter] at hmem

/-- What an object that is not dirty, or has no code, answers is what the keeper has. -/
theorem getCode_of_commitCode_eq_self (h : obj.Ok env k addr) {code : Bytes}
    (hcode : obj.getCode env k = some code) (hno : obj.code = none ∨ obj.dirtyCode = false) :
    k.getCode obj.account.codeHash = some code := by
  unfold StateObject.getCode at hcode
  split at hcode
  · rename_i c hc
    cases hcode
    rcases hno with hnone | hclean
    · rw [hnone] at hc
      cases hc
    · exact (h.code hclean _ hc).2
  · split_ifs at hcode
    exact hcode

/-- **Writing the codes of objects that correspond** leaves the same keeper, if it has the codes
of `k₀`. -/
theorem commitCode_eq (hle : StateObject.Le env k₀ addr obj obj') (ho : obj.Ok env k₀ addr)
    (ho' : obj'.Ok env k₀ addr) (hk : KeepsCodes k₀ k) : commitCode k obj' = commitCode k obj := by
  -- an object that writes a code the other does not write has it from the keeper
  have hself : ∀ {o o' : StateObject}, o'.account = o.account →
      o'.getCode env k₀ = o.getCode env k₀ → o.Ok env k₀ addr →
      (o.code = none ∨ o.dirtyCode = false) → commitCode k o' = k := by
    intro o o' hacc hcode hok hno
    unfold commitCode
    split
    · rename_i code hc hd
      have hget : o.getCode env k₀ = some code := by
        rw [← hcode]
        unfold StateObject.getCode
        rw [hc]
      rw [hacc]
      exact Keeper.setCode_eq_self (hk _ _ (getCode_of_commitCode_eq_self hok hget hno))
    · rfl
  by_cases hno : obj.code = none ∨ obj.dirtyCode = false
  · rw [hself hle.account hle.code ho hno, hself rfl rfl ho hno]
  · by_cases hno' : obj'.code = none ∨ obj'.dirtyCode = false
    · rw [hself rfl rfl ho' hno', hself hle.account.symm hle.code.symm ho' hno']
    · obtain ⟨hc, hd⟩ := not_or.1 hno
      obtain ⟨hc', hd'⟩ := not_or.1 hno'
      obtain ⟨c, hc⟩ := Option.ne_none_iff_exists'.1 hc
      obtain ⟨c', hc'⟩ := Option.ne_none_iff_exists'.1 hc'
      have hcode := hle.code
      unfold StateObject.getCode at hcode
      rw [hc, hc'] at hcode
      cases hcode
      unfold commitCode
      rw [hc, hc', hle.account, eq_true_of_ne_false hd, eq_true_of_ne_false hd']

theorem KeepsCodes.commitCode (hk : KeepsCodes k₀ k)
    (h : obj.dirtyCode = true → ∀ code stored, obj.code = some code →
      k₀.getCode obj.account.codeHash = some stored → stored = code) :
    KeepsCodes k₀ (commitCode k obj) := by
  intro codeHash code hcode
  unfold StateDB.commitCode
  split
  · rename_i c hc hd
    by_cases heq : codeHash = obj.account.codeHash
    · subst heq
      obtain rfl := h hd c code hc hcode
      rw [Keeper.setCode_eq_self (hk _ _ hcode)]
      exact hk _ _ hcode
    · rw [Keeper.getCode_setCode_of_ne c heq]
      exact hk _ _ hcode
  · exact hk _ _ hcode

theorem foldl_setState_codes (addr : Address) :
    ∀ (l : List (Hash × Hash)) (k : Keeper),
      (l.foldl (fun k e => k.setState addr e.1 (some e.2)) k).codes = k.codes
  | [], _ => rfl
  | e :: l, k => foldl_setState_codes addr l (k.setState addr e.1 (some e.2))

/-- Committing an object keeps the codes the keeper had at the start. -/
theorem KeepsCodes.commitObject {k' : Keeper} (hk : KeepsCodes k₀ k)
    (h : obj.dirtyCode = true → ∀ code stored, obj.code = some code →
      k₀.getCode obj.account.codeHash = some stored → stored = code)
    (hc : commitObject env k addr obj = .ok k') : KeepsCodes k₀ k' := by
  have hcodes : ∀ {k k' : Keeper}, k'.codes = k.codes → KeepsCodes k₀ k → KeepsCodes k₀ k' := by
    intro k k' heq hk codeHash code hcode
    unfold Keeper.getCode
    rw [heq]
    exact hk codeHash code hcode
  rw [commitObject_eq] at hc
  split_ifs at hc
  · exact hcodes (Keeper.deleteAccount_codes env hc) hk
  · obtain ⟨k₁, h₁, hc⟩ := bind_eq_ok.1 hc
    cases hc
    refine hcodes (foldl_setState_codes addr _ k₁) ?_
    exact hcodes (Keeper.setAccount_codes env h₁) (hk.commitCode h)

/-- The object of a dirty address is committed alike. -/
theorem commitDirty_eq (h : Le env s t) (hs : Ok env s) (ht : Ok env t)
    (hobj : s.stateObjects.find? addr = some obj) (hk : KeepsCodes s.keeper k) :
    t.commitDirty env k addr = s.commitDirty env k addr := by
  obtain ⟨obj', hobj'⟩ := Option.isSome_iff_exists.1 (h.loaded addr (by rw [hobj]; rfl))
  have hok := hs.objects addr obj (lookup_of_find? env hobj)
  have hok' := ht.objects addr obj' (lookup_of_find? env hobj')
  rw [h.keeper] at hok'
  obtain ⟨obj'', hlook, hle⟩ := h.exists_lookup (lookup_of_find? env hobj)
  cases hlook.symm.trans (lookup_of_find? env hobj')
  have hsame : commitObject env k addr obj' = commitObject env k addr obj := by
    rw [commitObject_eq, commitObject_eq, commitCode_eq hle hok hok' hk,
      written_eq hle hok hok', hle.account, hle.suicided, hle.selfDestructed]
  unfold commitDirty
  rw [hobj, hobj']
  dsimp only
  rw [hsame]

/-- **Committing a state that has what `s` has writes what committing `s` writes.** -/
theorem commit_eq (h : Le env s t) (hs : Ok env s) (ht : Ok env t) (hcode : s.NoCollision) :
    t.commit env = s.commit env := by
  have hloop : ∀ (l : List (Address × ℤ)) (k : Keeper), (∀ e ∈ l, e ∈ s.dirties.entries) →
      KeepsCodes s.keeper k →
      l.foldlM (fun k e => t.commitDirty env k e.1) k =
        l.foldlM (fun k e => s.commitDirty env k e.1) k := by
    intro l
    induction l with
    | nil => intro k _ _; rfl
    | cons e l ih =>
      intro k hl hk
      obtain ⟨obj, hobj⟩ := Option.isSome_iff_exists.1 (hs.loaded e.1 e.2
        (SortedMap.find?_eq_some_iff.2 (hl e List.mem_cons_self)))
      have hsame := commitDirty_eq h hs ht hobj hk
      rw [List.foldlM_cons, List.foldlM_cons, hsame]
      cases hc : s.commitDirty env k e.1 with
      | error err => rfl
      | ok k' =>
        refine ih k' (fun e' he' => hl e' (List.mem_cons_of_mem _ he')) ?_
        unfold commitDirty at hc
        rw [hobj] at hc
        dsimp only at hc
        split at hc
        · cases hc
        · rename_i k₁ hk₁
          cases hc
          exact hk.commitObject (hcode e.1 obj hobj) hk₁
  unfold commit
  rw [h.dirties, h.keeper]
  exact hloop _ _ (fun _ => id) fun _ _ => id

end StateDB
end Moca.Evm
