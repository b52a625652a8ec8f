/-
# The calls that change a `StateDB`

Every call other than `Snapshot` and `RevertToSnapshot` is made of few edits (`Edit`).
Getters fill caches and append nothing to the journal.  A setter looks the object up or makes
a new one, and then makes one change with one entry; an access list entry may come with one
for its address.

What the calls have in common follows from the edits: the entries undo what was done, and the
invariants of the caches are kept (`Follows`).
-/

import Moca.Evm.Undo

namespace Moca.Evm

open SortedMap

/-- What a call makes of the address: true if it creates the account, false if it only makes an
object where there is none. -/
def Call.makes (addr : Address) : Call → Option Bool
  | .createAccount a => if a = addr then some true else none
  | .addBalance a _ | .subBalance a _ | .setNonce a _ | .setCode a _ | .setState a _ _ =>
    if a = addr then some false else none
  | _ => none

/-- The address whose account or storage a call may change. -/
def Call.writes : Call → Option Address
  | .addBalance a _ | .subBalance a _ | .setNonce a _ | .setCode a _ | .setState a _ _
  | .createAccount a | .suicide a | .selfDestruct a | .selfdestruct6780 a => some a
  | _ => none

theorem Call.writes_of_makes {c : Call} {addr : Address} (h : c.makes addr ≠ none) :
    c.writes = some addr := by
  cases c <;> simp_all [Call.makes, Call.writes]

namespace StateObject

/-- The code of an object has its code hash. -/
def Coded (env : Env) (k : Keeper) (o : StateObject) : Prop :=
  env.keccak256 ((o.getCode env k).getD []) = o.account.codeHash

variable {o : StateObject} {k : Keeper} {env : Env}

theorem Le.coded {addr : Address} {o' : StateObject} (h : Le env k addr o o') (ho : o.Coded env k) :
    o'.Coded env k := by
  unfold Coded
  rw [h.code, h.account]
  exact ho

/-- An object of an address without code. -/
theorem coded_of_empty (hcode : o.code = none) (hhash : o.account.codeHash = env.emptyCodeHash) :
    o.Coded env k := by
  unfold Coded StateObject.getCode
  rw [hcode, hhash, if_pos rfl]
  rfl

theorem coded_setCode (env : Env) (k : Keeper) (o : StateObject) (code : Option Bytes) :
    (o.setCode (env.keccak256 (code.getD [])) code).Coded env k := by
  cases code with
  | none => exact coded_of_empty rfl rfl
  | some code => rfl

end StateObject

namespace StateDB

variable {env : Env} {s t u : StateDB} {addr : Address} {obj obj' : StateObject}
  {e : JournalEntry} {f : StateObject → StateObject} {c : Call}

/-- **`t` comes from `s` by changes that can be undone.** -/
structure Follows (env : Env) (s t : StateDB) : Prop where
  ok : Ok env t
  undoable : ∃ es, t.entries = s.entries ++ es ∧
    Undoable (undo env) (Ok env) (Le env) s es.reverse t
  validRevisions : t.validRevisions = s.validRevisions
  nextRevisionID : t.nextRevisionID = s.nextRevisionID

theorem Follows.refl (hs : Ok env s) : Follows env s s :=
  ⟨hs, ⟨[], (List.append_nil _).symm, .nil (Le.refl s)⟩, rfl, rfl⟩

theorem Follows.trans (h : Follows env s t) (h' : Follows env t u) : Follows env s u := by
  obtain ⟨es, hes, hback⟩ := h.undoable
  obtain ⟨es', hes', hback'⟩ := h'.undoable
  refine ⟨h'.ok, ⟨es ++ es', ?_, ?_⟩, h'.validRevisions.trans h.validRevisions,
    h'.nextRevisionID.trans h.nextRevisionID⟩
  · rw [hes', hes, List.append_assoc]
  · rw [List.reverse_append]
    exact hback.trans (respects env) hback' h'.ok

/-- One entry that undoes the change it was made for. -/
theorem Follows.of_undo (hs : Ok env s) (ht : Ok env t) (hentries : t.entries = s.entries ++ [e])
    (hv : t.validRevisions = s.validRevisions) (hn : t.nextRevisionID = s.nextRevisionID)
    (hundo : undo env e t = .ok u) (hle : Le env s u) (hobj : ObjectsOk env u) :
    Follows env s t :=
  ⟨ht, ⟨[e], hentries,
    (Undoable.nil (Le.refl s)).cons (respects env) hundo (hs.of_le hle hobj) hle⟩, hv, hn⟩

/-! ### Changes that can be undone -/

/-- Keeping an object that has cached more. -/
theorem Follows.cache (hs : Ok env s) (ho : s.lookup env addr = some obj)
    (hle : StateObject.Le env s.keeper addr obj obj') (ho' : obj'.Ok env s.keeper addr) :
    Follows env s (s.setStateObject addr obj') :=
  ⟨hs.setStateObject ho',
    ⟨[], (List.append_nil _).symm, .nil (Le.setStateObject_right ho hle)⟩, rfl, rfl⟩

theorem lookup_append (s : StateDB) (e : JournalEntry) (a : Address) :
    (s.append e).lookup env a = s.lookup env a := rfl

theorem lookup_change_self (s : StateDB) (addr : Address) (e : JournalEntry) (obj : StateObject) :
    (s.change addr e obj).lookup env addr = some obj := by
  unfold StateDB.change
  rw [lookup_setStateObject, if_pos rfl]

/-- The invariants after an entry and a new object for the address it counts. -/
theorem Ok.change (hs : Ok env s) (hd : e.dirtied = some addr ∨ e.dirtied = none)
    (ho : obj.Ok env s.keeper addr) : Ok env (s.change addr e obj) where
  objects a o ha := by
    unfold StateDB.change at ha
    rw [lookup_setStateObject, lookup_append] at ha
    split_ifs at ha with heq
    · cases ha
      rw [heq]
      exact ho
    · exact hs.objects a o ha
  accessList := hs.accessList
  dirties := hs.dirties.mark e.dirtied
  loaded a n hn := by
    unfold StateDB.change StateDB.setStateObject
    dsimp only
    rw [find?_insert]
    split_ifs with heq
    · rfl
    · refine hs.loaded a n ?_
      change SortedMap.find? (s.dirties.mark e.dirtied) a = some n at hn
      rcases hd with hd | hd
      · rw [hd] at hn
        unfold Dirties.mark at hn
        rwa [find?_insert_of_ne _ _ heq] at hn
      · rw [hd] at hn
        exact hn

/-- **A change of an object is undone by its entry**, if the entry restores it. -/
theorem Follows.change (hs : Ok env s) (ho : s.lookup env addr = some obj)
    (h : restore e = some (addr, f)) (ho' : obj'.Ok env s.keeper addr)
    (hle : StateObject.Le env s.keeper addr obj (f obj'))
    (hback : (f obj').Ok env s.keeper addr) : Follows env s (s.change addr e obj') := by
  have hdirties : (s.dirties.mark e.dirtied).unmark e.dirtied = s.dirties :=
    hs.dirties.unmark_mark e.dirtied
  have hundo : undo env e (s.change addr e obj') =
      .ok { (s.setStateObject addr (f obj')) with entries := s.entries ++ [e] } := by
    unfold undo
    rw [revertEntry_of_restore h (lookup_change_self s addr e obj')]
    unfold StateDB.change
    rw [setStateObject_setStateObject]
    show Except.ok { (s.append e).setStateObject addr (f obj') with
      dirties := (s.dirties.mark e.dirtied).unmark e.dirtied } = _
    rw [hdirties]
    rfl
  refine Follows.of_undo hs (hs.change (Or.inl (dirtied_of_restore h)) ho') rfl rfl rfl hundo ?_ ?_
  · have hright := Le.setStateObject_right ho hle
    exact ⟨hright.keeper, hright.dirties, hright.refund, hright.logs, hright.accessList,
      hright.transient, hright.objects, hright.loaded⟩
  · exact (hs.setStateObject hback).objects

/-- **A new object in place of another** is undone by putting back the other. -/
theorem Follows.reset (hs : Ok env s) (ho : s.lookup env addr = some obj)
    (ho' : obj'.Ok env s.keeper addr) :
    Follows env s (s.change addr (.resetObject addr obj) obj') := by
  have hundo : undo env (.resetObject addr obj) (s.change addr (.resetObject addr obj) obj') =
      .ok { s.setStateObject addr obj with entries := s.entries ++ [.resetObject addr obj] } := by
    unfold StateDB.change
    show Except.ok { (((s.append (.resetObject addr obj)).setStateObject addr obj').setStateObject
      addr obj) with dirties := s.dirties } = _
    rw [setStateObject_setStateObject]
    rfl
  have hright := Le.setStateObject_right ho (StateObject.Le.refl obj)
  exact Follows.of_undo hs (hs.change (Or.inr rfl) ho') rfl rfl rfl hundo
    ⟨hright.keeper, hright.dirties, hright.refund, hright.logs, hright.accessList,
      hright.transient, hright.objects, hright.loaded⟩
    (hs.setStateObject (hs.objects addr obj ho)).objects

/-- **A new object where there was none** is undone by removing it. -/
theorem Follows.create (hs : Ok env s) (ho : s.lookup env addr = none)
    (ho' : obj'.Ok env s.keeper addr) :
    Follows env s (s.change addr (.createObject addr) obj') := by
  have hnone : s.stateObjects.find? addr = none := by
    unfold lookup at ho
    split at ho
    · cases ho
    · assumption
  have hundo : undo env (.createObject addr) (s.change addr (.createObject addr) obj') =
      .ok { s with entries := s.entries ++ [.createObject addr] } := by
    show Except.ok { s.append (.createObject addr) with
      stateObjects := (s.stateObjects.insert addr obj').erase addr
      dirties := (s.dirties.mark (some addr)).unmark (some addr) } = _
    rw [erase_insert_self, erase_eq_self hnone, hs.dirties.unmark_mark]
    rfl
  have hrefl : Le env s s := Le.refl s
  exact Follows.of_undo hs (hs.change (Or.inl rfl) ho') rfl rfl rfl hundo
    ⟨rfl, rfl, rfl, rfl, rfl, hrefl.transient, hrefl.objects, hrefl.loaded⟩ hs.objects

theorem new_ok (k : Keeper) : (StateObject.new env).Ok env k addr := StateObject.ok_mk _ false

/-- **What `createObject` does.** -/
theorem createObject_eq (s : StateDB) (addr : Address) :
    s.createObject env addr = match s.lookup env addr with
      | none => (s.change addr (.createObject addr) { StateObject.new env with created := true },
          { StateObject.new env with created := true }, none)
      | some prev => (s.change addr (.resetObject addr prev) (StateObject.new env),
          StateObject.new env, some prev) := by
  unfold createObject
  rw [getStateObject_eq]
  cases s.lookup env addr with
  | none => rfl
  | some prev =>
    dsimp only
    rw [← setStateObject_change s addr prev]
    rfl

/-- **A change outside the objects** is undone by its entry. -/
theorem Follows.outside (hs : Ok env s) (hd : e.dirtied = none) {refund : ℕ} {logs : List Log}
    {al : AccessList} {ts : SortedMap Address Storage} (ts' : SortedMap Address Storage) (hal : al.Ok)
    (hrevert : ({ s.append e with
        refund := refund, logs := logs, accessList := al, transientStorage := ts } :
          StateDB).revertEntry env e = .ok { s.append e with transientStorage := ts' })
    (hts : ∀ a k, ({ s with transientStorage := ts' } : StateDB).getTransientState a k =
      s.getTransientState a k) :
    Follows env s { s.append e with
      refund := refund, logs := logs, accessList := al, transientStorage := ts } := by
  have hdirties : (s.append e).dirties = s.dirties := by
    unfold append
    rw [hd]
    rfl
  have hok : Ok env { s.append e with
      refund := refund, logs := logs, accessList := al, transientStorage := ts } := by
    refine ⟨hs.objects, hal, ?_, fun a n hn => ?_⟩
    · dsimp only
      rw [hdirties]
      exact hs.dirties
    · dsimp only at hn
      rw [hdirties] at hn
      exact hs.loaded a n hn
  have hundo : undo env e { s.append e with
      refund := refund, logs := logs, accessList := al, transientStorage := ts } =
      .ok { s.append e with transientStorage := ts', dirties := s.dirties } := by
    unfold undo
    rw [hrevert]
    show Except.ok { s.append e with
      transientStorage := ts', dirties := (s.dirties.mark e.dirtied).unmark e.dirtied } = _
    rw [hs.dirties.unmark_mark]
  have hrefl : Le env s s := Le.refl s
  exact Follows.of_undo hs hok rfl rfl rfl hundo
    ⟨rfl, rfl, rfl, rfl, rfl, hts, hrefl.objects, hrefl.loaded⟩ hs.objects

/-! ### Edits -/

/-- **One thing a call does to the state**: it keeps an object that has read more, changes an
object with an entry that restores it, makes or replaces an object, or changes something outside
the objects. -/
inductive Edit (env : Env) (c : Call) (s : StateDB) : StateDB → Prop
  | cache {addr : Address} {obj obj' : StateObject} (ho : s.lookup env addr = some obj)
      (hle : StateObject.Le env s.keeper addr obj obj') (hok : obj'.Ok env s.keeper addr) :
      Edit env c s (s.setStateObject addr obj')
  | change {addr : Address} {obj obj' : StateObject} {e : JournalEntry}
      {f : StateObject → StateObject} (hc : c.writes = some addr)
      (ho : s.lookup env addr = some obj) (hrestore : restore e = some (addr, f))
      (hok : obj'.Ok env s.keeper addr) (hle : StateObject.Le env s.keeper addr obj (f obj'))
      (hback : (f obj').Ok env s.keeper addr)
      (hcoded : obj.Coded env s.keeper → obj'.Coded env s.keeper) :
      Edit env c s (s.change addr e obj')
  | create {addr : Address} (hc : c.makes addr ≠ none) (ho : s.lookup env addr = none) :
      Edit env c s (s.change addr (.createObject addr)
        { StateObject.new env with created := true })
  | reset {addr : Address} {prev : StateObject} (hc : c = .createAccount addr)
      (ho : s.lookup env addr = some prev) :
      Edit env c s (s.change addr (.resetObject addr prev)
        ((StateObject.new env).setBalance prev.account.balance))
  | outside {e : JournalEntry} {refund : ℕ} {logs : List Log} {al : AccessList}
      {ts : SortedMap Address Storage} (ts' : SortedMap Address Storage) (hd : e.dirtied = none)
      (hal : al.Ok)
      (hrevert : ({ s.append e with
          refund := refund, logs := logs, accessList := al, transientStorage := ts } :
            StateDB).revertEntry env e = .ok { s.append e with transientStorage := ts' })
      (hts : ∀ a k, ({ s with transientStorage := ts' } : StateDB).getTransientState a k =
        s.getTransientState a k) :
      Edit env c s { s.append e with
        refund := refund, logs := logs, accessList := al, transientStorage := ts }

/-- What a call does, edit by edit. -/
abbrev Edits (env : Env) (c : Call) : StateDB → StateDB → Prop := Relation.ReflTransGen (Edit env c)

theorem Edit.follows (h : Edit env c s t) (hs : Ok env s) : Follows env s t := by
  cases h with
  | cache ho hle hok => exact .cache hs ho hle hok
  | change _ ho hrestore hok hle hback _ => exact .change hs ho hrestore hok hle hback
  | create _ ho => exact .create hs ho (StateObject.ok_mk _ true)
  | reset _ ho => exact .reset hs ho ((new_ok s.keeper).setBalance _)
  | outside ts' hd hal hrevert hts => exact .outside hs hd ts' hal hrevert hts

theorem Edits.follows (h : Edits env c s t) (hs : Ok env s) : Follows env s t := by
  induction h with
  | refl => exact .refl hs
  | tail _ hedit ih => exact ih.trans (hedit.follows ih.ok)

/-! ### The getters -/

@[simp] theorem setStateObject_keeper (s : StateDB) (addr : Address) (obj : StateObject) :
    (s.setStateObject addr obj).keeper = s.keeper := rfl

section

variable (hs : Ok env s)
include hs

/-- Loading the object of an address and keeping what it reads. -/
theorem edits_load {g : StateObject → StateObject} (addr : Address)
    (hle : ∀ o, StateObject.Le env s.keeper addr o (g o))
    (hok : ∀ o, o.Ok env s.keeper addr → (g o).Ok env s.keeper addr) :
    Edits env c s ((s.lookup env addr).elim s fun obj => s.setStateObject addr (g obj)) := by
  cases ho : s.lookup env addr with
  | none => exact .refl
  | some obj => exact .single (.cache ho (hle obj) (hok obj (hs.objects addr obj ho)))

theorem edits_getStateObject (addr : Address) : Edits env c s (s.getStateObject env addr).1 := by
  have h := edits_load (c := c) (g := id) hs addr (fun o => .refl o) (fun _ => id)
  rw [getStateObject_eq]
  cases ho : s.lookup env addr <;> simpa [ho] using h

theorem edits_getCode (addr : Address) : Edits env c s (s.getCode env addr).1 := by
  have h := edits_load (c := c) hs addr (fun o => StateObject.cacheCode_le o)
    (fun _ ho => ho.cacheCode)
  unfold getCode
  rw [getStateObject_eq]
  cases ho : s.lookup env addr <;> simpa [ho] using h

theorem edits_getState (addr : Address) (key : Hash) :
    Edits env c s (s.getState env addr key).1 := by
  have h := edits_load (c := c) hs addr (fun o => StateObject.cacheState_le o key)
    (fun _ ho => ho.cacheState key)
  unfold getState
  rw [getStateObject_eq]
  cases ho : s.lookup env addr <;> simpa [ho] using h

theorem edits_getCommittedState (addr : Address) (key : Hash) :
    Edits env c s (s.getCommittedState env addr key).1 := by
  have h := edits_load (c := c) hs addr (fun o => StateObject.cacheCommittedState_le o key)
    (fun _ ho => ho.cacheCommittedState key)
  unfold getCommittedState
  rw [getStateObject_eq]
  cases ho : s.lookup env addr <;> simpa [ho] using h

/-! ### The setters -/

/-- **The object to change**: the one of the address, or a new one. -/
theorem edits_getOrNewStateObject (addr : Address) (hc : c.makes addr ≠ none) :
    Edits env c s (s.getOrNewStateObject env addr).1 ∧
      Ok env (s.getOrNewStateObject env addr).1 ∧
      (s.getOrNewStateObject env addr).1.lookup env addr =
        some (s.getOrNewStateObject env addr).2 := by
  have hedits : Edits env c s (s.getOrNewStateObject env addr).1 ∧
      (s.getOrNewStateObject env addr).1.lookup env addr =
        some (s.getOrNewStateObject env addr).2 := by
    unfold getOrNewStateObject
    rw [getStateObject_eq]
    cases ho : s.lookup env addr with
    | none =>
      dsimp only
      rw [createObject_eq, ho]
      exact ⟨.single (.create hc ho), lookup_change_self s addr _ _⟩
    | some obj =>
      refine ⟨.single (.cache ho (StateObject.Le.refl obj) (hs.objects addr obj ho)), ?_⟩
      dsimp only
      rw [lookup_setStateObject, if_pos rfl]
  exact ⟨hedits.1, (hedits.1.follows hs).ok, hedits.2⟩

theorem edits_setObjectBalance (hc : c.writes = some addr) (ho : s.lookup env addr = some obj)
    (amount : ℤ) : Edit env c s (s.setObjectBalance addr obj amount) := by
  have hok := hs.objects addr obj ho
  exact .change hc ho rfl (hok.setBalance amount) (StateObject.Le.refl obj)
    ((hok.setBalance amount).setBalance _) id

theorem edits_addBalance (addr : Address) (amount : ℤ) :
    Edits env (.addBalance addr amount) s (s.addBalance env addr amount) := by
  obtain ⟨hnew, hok, ho⟩ := edits_getOrNewStateObject (c := .addBalance addr amount) hs addr
    (by simp [Call.makes])
  unfold addBalance
  dsimp only
  split_ifs
  · exact hnew
  · exact hnew.tail (edits_setObjectBalance hok rfl ho _)

theorem edits_subBalance (addr : Address) (amount : ℤ) :
    Edits env (.subBalance addr amount) s (s.subBalance env addr amount) := by
  obtain ⟨hnew, hok, ho⟩ := edits_getOrNewStateObject (c := .subBalance addr amount) hs addr
    (by simp [Call.makes])
  unfold subBalance
  dsimp only
  split_ifs
  · exact hnew
  · exact hnew.tail (edits_setObjectBalance hok rfl ho _)

theorem edits_setNonce (addr : Address) (nonce : ℕ) :
    Edits env (.setNonce addr nonce) s (s.setNonce env addr nonce) := by
  obtain ⟨hnew, hok, ho⟩ := edits_getOrNewStateObject (c := .setNonce addr nonce) hs addr
    (by simp [Call.makes])
  have hobj := hok.objects addr _ ho
  exact hnew.tail (.change rfl ho rfl (hobj.setNonce nonce) (StateObject.Le.refl _)
    ((hobj.setNonce nonce).setNonce _) id)

end

/-- The code that `SetCode` keeps in the journal is put back under its hash. -/
theorem le_setCode_setCode (env : Env) (k : Keeper) (addr : Address) (obj : StateObject)
    (codeHash : Hash) (code : Option Bytes) :
    StateObject.Le env k addr obj (((obj.cacheCode env k).setCode codeHash code).setCode
      obj.account.codeHash (obj.getCode env k)) := by
  have hcache : StateObject.Le env k addr obj (obj.cacheCode env k) := StateObject.cacheCode_le obj
  exact ⟨rfl, rfl, rfl, rfl, hcache.code, fun _ => rfl, fun _ => id⟩

theorem edits_setCode (hs : Ok env s) (addr : Address) (code : Option Bytes) :
    Edits env (.setCode addr code) s (s.setCode env addr code) := by
  obtain ⟨hnew, hok, ho⟩ := edits_getOrNewStateObject (c := .setCode addr code) hs addr
    (by simp [Call.makes])
  have hobj := (hok.objects addr _ ho).cacheCode
  exact hnew.tail (.change rfl ho rfl (hobj.setCode _ code) (le_setCode_setCode env _ addr _ _ code)
    ((hobj.setCode _ code).setCode _ _) fun _ => StateObject.coded_setCode env _ _ code)

/-- A slot is read before it is written, and its value written back. -/
theorem le_setState_setState (env : Env) (k : Keeper) (addr : Address) (obj : StateObject)
    (key value : Hash) :
    StateObject.Le env k addr obj (((obj.cacheState k addr key).setState key value).setState key
      (obj.getState k addr key)) := by
  have hcache : StateObject.Le env k addr obj (obj.cacheState k addr key) :=
    StateObject.cacheState_le obj key
  refine ⟨hcache.account, hcache.suicided, hcache.selfDestructed, hcache.created, hcache.code,
    fun key' => ?_, hcache.origin⟩
  rw [StateObject.getState_setState, StateObject.getState_setState]
  split_ifs with h
  · rw [h]
  · exact hcache.state key'

theorem edits_setState (hs : Ok env s) (addr : Address) (key value : Hash) :
    Edits env (.setState addr key value) s (s.setState env addr key value) := by
  obtain ⟨hnew, hok, ho⟩ := edits_getOrNewStateObject (c := .setState addr key value) hs
    addr (by simp [Call.makes])
  have hobj := hok.objects addr _ ho
  have hcached := hobj.isSome_origin_cacheState key
  unfold setState
  dsimp only
  split_ifs
  · exact hnew.tail (.cache ho (StateObject.cacheState_le _ key) (hobj.cacheState key))
  · exact hnew.tail (.change rfl ho rfl ((hobj.cacheState key).setState hcached value)
      (le_setState_setState env _ addr _ key value)
      (((hobj.cacheState key).setState hcached value).setState hcached _)
      (StateObject.cacheState_le _ key).coded)

/-- `CreateAccount` is one edit. -/
theorem edit_createAccount (s : StateDB) (addr : Address) :
    Edit env (.createAccount addr) s (s.createAccount env addr) := by
  unfold createAccount
  rw [createObject_eq]
  cases ho : s.lookup env addr with
  | none => exact .create (by simp [Call.makes]) ho
  | some prev =>
    dsimp only
    unfold StateDB.change
    rw [setStateObject_setStateObject]
    exact .reset rfl ho

section

variable (hs : Ok env s)
include hs

theorem edits_suicide (addr : Address) : Edits env (.suicide addr) s (s.suicide env addr) := by
  unfold suicide
  rw [getStateObject_eq]
  cases ho : s.lookup env addr with
  | none => exact .refl
  | some obj =>
    have hok := hs.objects addr obj ho
    dsimp only
    rw [setStateObject_change]
    exact .single (.change rfl ho rfl ⟨hok.origin, hok.dirty, hok.code⟩ (StateObject.Le.refl obj)
      ⟨hok.origin, hok.dirty, hok.code⟩ id)

theorem edits_selfDestruct (hc : c.writes = some addr) :
    Edits env c s (s.selfDestruct env addr) := by
  unfold selfDestruct
  rw [getStateObject_eq]
  cases ho : s.lookup env addr with
  | none => exact .refl
  | some obj =>
    have hok := hs.objects addr obj ho
    dsimp only
    rw [setStateObject_change]
    exact .single (.change hc ho rfl ⟨hok.origin, hok.dirty, hok.code⟩ (StateObject.Le.refl obj)
      ⟨hok.origin, hok.dirty, hok.code⟩ id)

theorem edits_selfdestruct6780 (addr : Address) :
    Edits env (.selfdestruct6780 addr) s (s.selfdestruct6780 env addr) := by
  have hload : Edits env (.selfdestruct6780 addr) s (s.getStateObject env addr).1 :=
    edits_getStateObject hs addr
  unfold selfdestruct6780
  rcases hget : s.getStateObject env addr with ⟨s₁, _ | obj⟩
  · rw [hget] at hload
    exact hload
  · rw [hget] at hload
    dsimp only
    split_ifs
    · exact hload.trans (edits_selfDestruct (hload.follows hs).ok rfl)
    · exact hload

theorem edits_addLog (log : Log) : Edit env c s (s.addLog log) := by
  refine .outside s.transientStorage rfl hs.accessList ?_ fun _ _ => rfl
  simp only [revertEntry]
  rw [if_neg (List.append_ne_nil_of_right_ne_nil _ (List.cons_ne_nil _ _)), List.dropLast_concat]
  rfl

theorem edits_subRefund {gas : ℕ} (h : s.subRefund gas = .ok t) : Edit env c s t := by
  unfold subRefund at h
  split_ifs at h
  cases h
  exact .outside s.transientStorage rfl hs.accessList rfl fun _ _ => rfl

theorem edits_setTransientState (addr : Address) (key value : Hash) :
    Edits env c s (s.setTransientState addr key value) := by
  unfold setTransientState
  dsimp only
  split_ifs
  · exact .refl
  · refine .single (.outside _ rfl hs.accessList rfl fun a k => ?_)
    show (((s.putTransientState addr key value).putTransientState addr key
      (s.getTransientState addr key)).getTransientState a k) = _
    rw [getTransientState_putTransientState, getTransientState_putTransientState]
    split_ifs with h
    · rw [h.1, h.2]
    · rfl

theorem edits_addAddressToAccessList (addr : Address) :
    Edits env c s (s.addAddressToAccessList addr) := by
  unfold addAddressToAccessList
  rcases AccessList.addAddress_cases hs.accessList addr with h | ⟨al, h, hal, hback⟩
  · rw [h]
    exact .refl
  · rw [h]
    refine .single (.outside s.transientStorage rfl hal ?_ fun _ _ => rfl)
    simp only [revertEntry, hback]
    rfl

theorem edits_addSlotToAccessList {slot : Hash} (h : s.addSlotToAccessList addr slot = .ok t) :
    Edits env c s t := by
  have hslot : ∀ {s : StateDB} {al : AccessList}, al.Ok →
      al.deleteSlot addr slot = .ok s.accessList →
      Edit env c s ({ s with accessList := al }.append (.accessListAddSlot addr slot)) := by
    intro s al hal hback
    refine .outside s.transientStorage rfl hal ?_ fun _ _ => rfl
    simp only [revertEntry, hback]
    rfl
  unfold addSlotToAccessList at h
  rcases AccessList.addSlot_cases hs.accessList addr slot with hadd | ⟨al, hadd, hal, hback⟩ |
    ⟨al₁, al, hadd, hal₁, hback₁, hal, hback⟩
  · rw [hadd] at h
    cases h
    exact .refl
  · rw [hadd] at h
    cases h
    exact .single (hslot hal hback)
  · rw [hadd] at h
    cases h
    have hfirst : Edit env c s
        ({ s with accessList := al₁ }.append (.accessListAddAccount addr)) := by
      refine .outside s.transientStorage rfl hal₁ ?_ fun _ _ => rfl
      simp only [revertEntry, hback₁]
      rfl
    exact (Relation.ReflTransGen.single hfirst).tail (hslot hal hback)

theorem edits_prepareAccessList {sender : Address} {dst : Option Address}
    {precompiles : List Address} {list : List (Address × List Hash)}
    (h : s.prepareAccessList sender dst precompiles list = .ok t) : Edits env c s t := by
  have hadd : ∀ {s₁ : StateDB} (a : Address), Edits env c s s₁ →
      Edits env c s (s₁.addAddressToAccessList a) := fun a h₁ =>
    h₁.trans (edits_addAddressToAccessList (h₁.follows hs).ok a)
  have hdst : Edits env c s (dst.elim (s.addAddressToAccessList sender)
      (s.addAddressToAccessList sender).addAddressToAccessList) := by
    cases dst with
    | none => exact hadd sender .refl
    | some dst => exact hadd dst (hadd sender .refl)
  have hfold : ∀ (l : List Address) (s₁ : StateDB), Edits env c s s₁ →
      Edits env c s (l.foldl addAddressToAccessList s₁) := by
    intro l
    induction l with
    | nil => intro s₁ h₁; exact h₁
    | cons a l ih => intro s₁ h₁; exact ih _ (hadd a h₁)
  refine foldlM_invariant (Edits env c s) (fun s₁ el s₂ _ h₁ h₂ => ?_) (hfold _ _ hdst) h
  exact foldlM_invariant (Edits env c s)
    (fun s₁ key s₂ _ h₁ h₂ => h₁.trans (edits_addSlotToAccessList (h₁.follows hs).ok h₂))
    (hadd el.1 h₁) h₂

/-- **What every call but those on snapshots does.** -/
theorem edits_exec (hsnap : c ≠ .snapshot) (hrev : ∀ revid, c ≠ .revertToSnapshot revid)
    (h : c.exec env s = .ok t) : Edits env c s t := by
  cases c with
  | getBalance addr => cases h; exact edits_getStateObject hs addr
  | getNonce addr => cases h; exact edits_getStateObject hs addr
  | getCode addr => cases h; exact edits_getCode hs addr
  | getCodeSize addr => cases h; exact edits_getCode hs addr
  | getCodeHash addr => cases h; exact edits_getStateObject hs addr
  | getState addr key => cases h; exact edits_getState hs addr key
  | getCommittedState addr key => cases h; exact edits_getCommittedState hs addr key
  | exist addr => cases h; exact edits_getStateObject hs addr
  | empty addr => cases h; exact edits_getStateObject hs addr
  | hasSuicided addr => cases h; exact edits_getStateObject hs addr
  | addLog log => cases h; exact .single (edits_addLog hs log)
  | addRefund gas =>
    cases h
    exact .single (.outside s.transientStorage rfl hs.accessList rfl fun _ _ => rfl)
  | subRefund gas => exact .single (edits_subRefund hs h)
  | addBalance addr amount => cases h; exact edits_addBalance hs addr amount
  | subBalance addr amount => cases h; exact edits_subBalance hs addr amount
  | setNonce addr nonce => cases h; exact edits_setNonce hs addr nonce
  | setCode addr code => cases h; exact edits_setCode hs addr code
  | setState addr key value => cases h; exact edits_setState hs addr key value
  | setTransientState addr key value => cases h; exact edits_setTransientState hs addr key value
  | createAccount addr => cases h; exact .single (edit_createAccount s addr)
  | suicide addr => cases h; exact edits_suicide hs addr
  | selfDestruct addr => cases h; exact edits_selfDestruct hs rfl
  | selfdestruct6780 addr => cases h; exact edits_selfdestruct6780 hs addr
  | addAddressToAccessList addr => cases h; exact edits_addAddressToAccessList hs addr
  | addSlotToAccessList addr slot => exact edits_addSlotToAccessList hs h
  | prepareAccessList sender dst precompiles list => exact edits_prepareAccessList hs h
  | snapshot => exact absurd rfl hsnap
  | revertToSnapshot revid => exact absurd rfl (hrev revid)

/-- **Every call but those on snapshots can be undone.** -/
theorem follows_exec (hsnap : c ≠ .snapshot) (hrev : ∀ revid, c ≠ .revertToSnapshot revid)
    (h : c.exec env s = .ok t) : Follows env s t :=
  (edits_exec hs hsnap hrev h).follows hs

end

end StateDB
end Moca.Evm
