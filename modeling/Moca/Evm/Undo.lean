/-
# Undoing a change of the `StateDB`

Undoing an entry of the journal does not bring back the state before it bit by bit:
objects and slots that were read stay in the caches, a slot that was written keeps its
old value in `dirtyStorage`, a code that was set leaves `dirtyCode` behind.  `StateDB.Le s t`
says what is brought back: `t` holds the objects of `s` with the same account, flags,
code and storage, and everything outside the objects is equal; `t` may have read more.

`StateDB.Ok` are the invariants of the caches: a cached slot has the value of the keeper,
a written slot has been read before, a code that is not dirty is the one of the keeper, every
dirty address has an object, and every list of slots of the access list is there and not
empty.  Undoing an entry respects the order between such states (`respects`).
-/

import Moca.Evm.StateDB

namespace Moca.Evm

open SortedMap

/-! ### Objects -/

namespace StateObject

variable (env : Env) (k : Keeper) (addr : Address)

/-- `o'` answers as `o` does, and has cached at least as much. -/
structure Le (o o' : StateObject) : Prop where
  account : o'.account = o.account
  suicided : o'.suicided = o.suicided
  selfDestructed : o'.selfDestructed = o.selfDestructed
  created : o'.created = o.created
  code : o'.getCode env k = o.getCode env k
  state : ∀ key, o'.getState k addr key = o.getState k addr key
  origin : ∀ key, (o.originStorage.find? key).isSome → (o'.originStorage.find? key).isSome

/-- The caches of an object agree with the keeper. -/
structure Ok (o : StateObject) : Prop where
  origin : ∀ key v, o.originStorage.find? key = some v → v = k.getState addr key
  dirty : ∀ key, (o.dirtyStorage.find? key).isSome → (o.originStorage.find? key).isSome
  code : o.dirtyCode = false → ∀ c, o.code = some c →
    o.account.codeHash ≠ env.emptyCodeHash ∧ k.getCode o.account.codeHash = some c

variable {env k addr} {o o' o'' : StateObject}

theorem Le.refl (o : StateObject) : Le env k addr o o :=
  ⟨rfl, rfl, rfl, rfl, rfl, fun _ => rfl, fun _ => id⟩

theorem Le.trans (h : Le env k addr o o') (h' : Le env k addr o' o'') : Le env k addr o o'' where
  account := h'.account.trans h.account
  suicided := h'.suicided.trans h.suicided
  selfDestructed := h'.selfDestructed.trans h.selfDestructed
  created := h'.created.trans h.created
  code := h'.code.trans h.code
  state key := (h'.state key).trans (h.state key)
  origin key hkey := h'.origin key (h.origin key hkey)

/-- An object that was just made has no caches. -/
theorem ok_mk (account : Account) (created : Bool) :
    Ok env k addr { account := account, created := created } where
  origin key v h := by rw [find?_empty] at h; cases h
  dirty key h := by rw [find?_empty] at h; cases h
  code _ c h := by cases h

/-- What an object of the keeper answers for a slot is what it has committed. -/
theorem Ok.getCommittedState (h : Ok env k addr o) (key : Hash) :
    o.getCommittedState k addr key = k.getState addr key := by
  unfold StateObject.getCommittedState
  split
  · exact h.origin key _ ‹_›
  · rfl

/-! #### Filling the caches -/

theorem cacheCode_le (o : StateObject) : Le env k addr o (o.cacheCode env k) := by
  refine ⟨rfl, rfl, rfl, rfl, ?_, fun _ => rfl, fun _ => id⟩
  unfold cacheCode StateObject.getCode
  dsimp only
  cases o.code with
  | some c => rfl
  | none =>
    dsimp only
    split_ifs with h
    · rfl
    · cases k.getCode o.account.codeHash <;> rfl

theorem Ok.cacheCode (h : Ok env k addr o) : Ok env k addr (o.cacheCode env k) where
  origin := h.origin
  dirty := h.dirty
  code hd c hc := by
    change o.getCode env k = some c at hc
    unfold StateObject.getCode at hc
    split at hc
    · rename_i code hcode
      cases hc
      exact h.code hd _ hcode
    · split_ifs at hc with hempty
      exact ⟨hempty, hc⟩

theorem getState_eq (o : StateObject) (key : Hash) :
    o.getState k addr key = (o.dirtyStorage.find? key).getD (o.getCommittedState k addr key) := by
  unfold getState
  split <;> rename_i h <;> rw [h] <;> rfl

theorem getCommittedState_eq (o : StateObject) (key : Hash) :
    o.getCommittedState k addr key = (o.originStorage.find? key).getD (k.getState addr key) := by
  unfold StateObject.getCommittedState
  split <;> rename_i h <;> rw [h] <;> rfl

theorem cacheCommittedState_le (o : StateObject) (key : Hash) :
    Le env k addr o (o.cacheCommittedState k addr key) := by
  unfold cacheCommittedState
  split
  · exact Le.refl o
  · rename_i hnone
    refine ⟨rfl, rfl, rfl, rfl, rfl, fun key' => ?_, fun key' hkey' => ?_⟩
    · simp only [getState_eq, getCommittedState_eq, find?_insert]
      split_ifs with hkey
      · rw [hkey, hnone]
        rfl
      · rfl
    · rw [find?_insert]
      split_ifs with hkey
      · rfl
      · exact hkey'

theorem Ok.cacheCommittedState (h : Ok env k addr o) (key : Hash) :
    Ok env k addr (o.cacheCommittedState k addr key) := by
  unfold StateObject.cacheCommittedState
  split
  · exact h
  · refine ⟨fun key' v hv => ?_, fun key' hd => ?_, h.code⟩
    · rw [find?_insert] at hv
      split_ifs at hv with hkey
      · cases hv
        rw [hkey]
      · exact h.origin key' v hv
    · rw [find?_insert]
      split_ifs with hkey
      · rfl
      · exact h.dirty key' hd

theorem cacheState_le (o : StateObject) (key : Hash) :
    Le env k addr o (o.cacheState k addr key) := by
  unfold cacheState
  split
  · exact Le.refl o
  · exact cacheCommittedState_le o key

theorem Ok.cacheState (h : Ok env k addr o) (key : Hash) :
    Ok env k addr (o.cacheState k addr key) := by
  unfold StateObject.cacheState
  split
  · exact h
  · exact h.cacheCommittedState key

/-- After `GetState` the committed value of the slot is cached. -/
theorem Ok.isSome_origin_cacheState (h : Ok env k addr o) (key : Hash) :
    ((o.cacheState k addr key).originStorage.find? key).isSome := by
  unfold StateObject.cacheState
  split
  · rename_i hd
    exact h.dirty key (by rw [hd]; rfl)
  · unfold StateObject.cacheCommittedState
    split
    · rename_i ho
      rw [ho]
      rfl
    · rw [find?_insert_self]
      rfl

/-! #### Changes of an object -/

theorem Le.setBalance (h : Le env k addr o o') (amount : ℤ) :
    Le env k addr (o.setBalance amount) (o'.setBalance amount) where
  account := by simp only [StateObject.setBalance, h.account]
  suicided := h.suicided
  selfDestructed := h.selfDestructed
  created := h.created
  code := h.code
  state := h.state
  origin := h.origin

theorem Ok.setBalance (h : Ok env k addr o) (amount : ℤ) : Ok env k addr (o.setBalance amount) :=
  ⟨h.origin, h.dirty, h.code⟩

theorem Le.setNonce (h : Le env k addr o o') (nonce : ℕ) :
    Le env k addr (o.setNonce nonce) (o'.setNonce nonce) where
  account := by simp only [StateObject.setNonce, h.account]
  suicided := h.suicided
  selfDestructed := h.selfDestructed
  created := h.created
  code := h.code
  state := h.state
  origin := h.origin

theorem Ok.setNonce (h : Ok env k addr o) (nonce : ℕ) : Ok env k addr (o.setNonce nonce) :=
  ⟨h.origin, h.dirty, h.code⟩

theorem Le.setCode (h : Le env k addr o o') (codeHash : Hash) (code : Option Bytes) :
    Le env k addr (o.setCode codeHash code) (o'.setCode codeHash code) where
  account := by simp only [StateObject.setCode, h.account]
  suicided := h.suicided
  selfDestructed := h.selfDestructed
  created := h.created
  code := rfl
  state := h.state
  origin := h.origin

theorem Ok.setCode (h : Ok env k addr o) (codeHash : Hash) (code : Option Bytes) :
    Ok env k addr (o.setCode codeHash code) :=
  ⟨h.origin, h.dirty, fun hd => by cases hd⟩

theorem getState_setState (o : StateObject) (key value key' : Hash) :
    (o.setState key value).getState k addr key' =
      if key' = key then value else o.getState k addr key' := by
  simp only [getState_eq, StateObject.setState, find?_insert]
  split_ifs <;> rfl

theorem Le.setState (h : Le env k addr o o') (key value : Hash) :
    Le env k addr (o.setState key value) (o'.setState key value) where
  account := h.account
  suicided := h.suicided
  selfDestructed := h.selfDestructed
  created := h.created
  code := h.code
  state key' := by rw [getState_setState, getState_setState, h.state]
  origin := h.origin

/-- A slot may be written once it has been read. -/
theorem Ok.setState (h : Ok env k addr o) {key : Hash} (hkey : (o.originStorage.find? key).isSome)
    (value : Hash) : Ok env k addr (o.setState key value) where
  origin := h.origin
  dirty key' hd := by
    unfold StateObject.setState at hd ⊢
    rw [find?_insert] at hd
    split_ifs at hd with heq
    · rw [heq]
      exact hkey
    · exact h.dirty key' hd
  code := h.code

theorem Le.destroyed (h : Le env k addr o o') (prev : Bool) (amount : ℤ) :
    Le env k addr ({ o with suicided := prev }.setBalance amount)
        ({ o' with suicided := prev }.setBalance amount) ∧
      Le env k addr ({ o with selfDestructed := prev }.setBalance amount)
        ({ o' with selfDestructed := prev }.setBalance amount) :=
  ⟨⟨by simp only [StateObject.setBalance, h.account], rfl, h.selfDestructed, h.created, h.code,
      h.state, h.origin⟩,
    ⟨by simp only [StateObject.setBalance, h.account], h.suicided, rfl, h.created, h.code,
      h.state, h.origin⟩⟩

end StateObject

/-! ### The access list -/

namespace AccessList

/-- Every address points to a list of slots that is not empty. -/
def Ok (al : AccessList) : Prop :=
  ∀ address idx, al.addresses.find? address = some (some idx) →
    ∃ slotmap, al.slots[idx]? = some slotmap ∧ slotmap.entries ≠ []

variable {al : AccessList} {address : Address} {slot : Hash}

theorem Ok.withoutSlots (h : al.Ok) (address : Address) :
    Ok { al with addresses := al.addresses.insert address none } := by
  intro a idx hidx
  rw [find?_insert] at hidx
  split_ifs at hidx with ha
  · cases hidx
  · exact h a idx hidx

/-- **Adding an address** either changes nothing or is undone by `DeleteAddress`. -/
theorem addAddress_cases (h : al.Ok) (address : Address) :
    al.addAddress address = (al, false) ∨
      ∃ al', al.addAddress address = (al', true) ∧ al'.Ok ∧ al'.deleteAddress address = al := by
  unfold addAddress
  split_ifs with hmem
  · exact Or.inl rfl
  · have hnone : al.addresses.find? address = none := by
      simpa [SortedMap.contains] using hmem
    refine Or.inr ⟨_, rfl, h.withoutSlots address, ?_⟩
    unfold deleteAddress
    dsimp only
    rw [erase_insert_self, erase_eq_self hnone]

/-- A new list of slots for an address, with one slot. -/
theorem Ok.newSlots (h : al.Ok) (address : Address) (slot : Hash) :
    Ok { addresses := al.addresses.insert address (some al.slots.length)
         slots := al.slots ++ [SortedMap.empty.insert slot ()] } := by
  intro a idx hidx
  rw [find?_insert] at hidx
  split_ifs at hidx with ha
  · cases hidx
    exact ⟨_, List.getElem?_concat_length, List.cons_ne_nil _ _⟩
  · obtain ⟨slotmap, hget, hne⟩ := h a idx hidx
    obtain ⟨hlt, -⟩ := List.getElem?_eq_some_iff.1 hget
    exact ⟨slotmap, (List.getElem?_append_left hlt).trans hget, hne⟩

/-- The first slot of an address is deleted together with its list. -/
theorem deleteSlot_newSlots (al : AccessList) (address : Address) (slot : Hash) :
    deleteSlot { addresses := al.addresses.insert address (some al.slots.length)
                 slots := al.slots ++ [SortedMap.empty.insert slot ()] } address slot =
      .ok { al with addresses := al.addresses.insert address none } := by
  unfold deleteSlot
  dsimp only
  rw [find?_insert_self]
  dsimp only
  rw [List.getElem?_concat_length]
  have hempty : ((SortedMap.empty.insert slot () : SortedMap Hash Unit).erase slot).entries = [] := by
    rw [erase_insert_self, erase_eq_self (find?_empty slot)]
    rfl
  dsimp only
  rw [if_pos hempty, insert_insert_self, List.take_left]

/-- **Adding a slot** changes nothing, or is undone by `DeleteSlot`, or adds the address first and
is undone by `DeleteSlot` and `DeleteAddress`. -/
theorem addSlot_cases (h : al.Ok) (address : Address) (slot : Hash) :
    al.addSlot address slot = .ok (al, false, false) ∨
      (∃ al', al.addSlot address slot = .ok (al', false, true) ∧ al'.Ok ∧
        al'.deleteSlot address slot = .ok al) ∨
      ∃ al₁ al', al.addSlot address slot = .ok (al', true, true) ∧ al₁.Ok ∧
        al₁.deleteAddress address = al ∧ al'.Ok ∧ al'.deleteSlot address slot = .ok al₁ := by
  unfold addSlot
  rcases hfind : al.addresses.find? address with _ | (_ | idx)
  · refine Or.inr (Or.inr ⟨{ al with addresses := al.addresses.insert address none }, _, rfl,
      h.withoutSlots address, ?_, h.newSlots address slot, deleteSlot_newSlots al address slot⟩)
    unfold deleteAddress
    dsimp only
    rw [erase_insert_self, erase_eq_self hfind]
  · refine Or.inr (Or.inl ⟨_, rfl, h.newSlots address slot, ?_⟩)
    rw [deleteSlot_newSlots, insert_eq_self hfind]
  · obtain ⟨slotmap, hget, hne⟩ := h address idx hfind
    obtain ⟨hlt, hval⟩ := List.getElem?_eq_some_iff.1 hget
    have hset : al.slots.set idx slotmap = al.slots := by
      rw [← hval]
      exact List.set_getElem_self hlt
    dsimp only
    rw [hget]
    dsimp only
    split_ifs with hmem
    · exact Or.inl rfl
    · have hnone : slotmap.find? slot = none := by
        simpa [SortedMap.contains] using hmem
      have hback : (slotmap.insert slot ()).erase slot = slotmap := by
        rw [erase_insert_self, erase_eq_self hnone]
      refine Or.inr (Or.inl ⟨_, rfl, fun a i hi => ?_, ?_⟩)
      · obtain ⟨slotmap', hget', hne'⟩ := h a i hi
        dsimp only
        rw [List.getElem?_set]
        split_ifs with heq
        · refine ⟨_, rfl, fun hnil => ?_⟩
          have hself := find?_eq_some_iff.1 (find?_insert_self slotmap slot ())
          rw [hnil] at hself
          cases hself
        · exact ⟨slotmap', hget', hne'⟩
      · unfold deleteSlot
        dsimp only
        rw [hfind]
        dsimp only
        rw [List.getElem?_set_self hlt]
        dsimp only
        rw [hback, if_neg hne, List.set_set, hset]

end AccessList

/-! ### Dirty addresses -/

/-- Every counted address has a change. -/
def Dirties.Ok (dirties : Dirties) : Prop :=
  ∀ addr n, SortedMap.find? dirties addr = some n → 0 < n

theorem Dirties.Ok.mark {dirties : Dirties} (h : dirties.Ok) (addr : Option Address) :
    (dirties.mark addr).Ok := by
  cases addr with
  | none => exact h
  | some addr =>
    intro a n hn
    unfold Dirties.mark at hn
    rw [find?_insert] at hn
    split_ifs at hn with ha
    · cases hn
      cases hfind : SortedMap.find? dirties addr with
      | none => simp
      | some m =>
        have := h addr m hfind
        rw [Option.getD_some]
        omega
    · exact h a n hn

/-- Dropping a change that was counted. -/
theorem Dirties.Ok.unmark_mark {dirties : Dirties} (h : dirties.Ok) (addr : Option Address) :
    (dirties.mark addr).unmark addr = dirties := by
  cases addr with
  | none => rfl
  | some addr =>
    unfold Dirties.mark Dirties.unmark
    dsimp only
    rw [find?_insert_self, Option.getD_some, add_sub_cancel_right]
    cases hfind : SortedMap.find? dirties addr with
    | none =>
      rw [Option.getD_none, if_pos rfl, erase_insert_self, erase_eq_self hfind]
    | some n =>
      have hn := h addr n hfind
      rw [Option.getD_some, if_neg (by omega), insert_insert_self,
        insert_eq_self hfind]

/-! ### States -/

namespace StateDB

variable (env : Env)

/-- The object of an address, loaded or not. -/
def lookup (s : StateDB) (addr : Address) : Option StateObject :=
  match s.stateObjects.find? addr with
  | some obj => some obj
  | none => (s.keeper.getAccount env addr).map fun account => { account := account }

/-- **What `getStateObject` does**: it returns the object of the address and keeps it. -/
theorem getStateObject_eq (s : StateDB) (addr : Address) :
    s.getStateObject env addr = match s.lookup env addr with
      | none => (s, none)
      | some obj => (s.setStateObject addr obj, some obj) := by
  unfold getStateObject lookup
  cases hfind : s.stateObjects.find? addr with
  | some obj =>
    dsimp only
    unfold setStateObject
    rw [insert_eq_self hfind]
  | none => cases s.keeper.getAccount env addr <;> rfl

theorem lookup_setStateObject (s : StateDB) (addr a : Address) (obj : StateObject) :
    (s.setStateObject addr obj).lookup env a =
      if a = addr then some obj else s.lookup env a := by
  unfold lookup setStateObject
  dsimp only
  rw [find?_insert]
  split_ifs <;> rfl

theorem lookup_of_find? {s : StateDB} {addr : Address} {obj : StateObject}
    (h : s.stateObjects.find? addr = some obj) : s.lookup env addr = some obj := by
  unfold lookup
  rw [h]

@[simp] theorem setStateObject_setStateObject (s : StateDB) (addr : Address)
    (obj obj' : StateObject) :
    (s.setStateObject addr obj).setStateObject addr obj' = s.setStateObject addr obj' := by
  unfold setStateObject
  dsimp only
  rw [insert_insert_self]

@[simp] theorem setStateObject_change (s : StateDB) (addr : Address) (obj obj' : StateObject)
    (entry : JournalEntry) :
    (s.setStateObject addr obj).change addr entry obj' = s.change addr entry obj' :=
  setStateObject_setStateObject (s.append entry) addr obj obj'

/-- **`t` has what `s` has**: its answers are those of `s`, and it has loaded at least as much. -/
structure Le (s t : StateDB) : Prop where
  keeper : t.keeper = s.keeper
  dirties : t.dirties = s.dirties
  refund : t.refund = s.refund
  logs : t.logs = s.logs
  accessList : t.accessList = s.accessList
  transient : ∀ addr key, t.getTransientState addr key = s.getTransientState addr key
  objects : ∀ addr, Option.Rel (StateObject.Le env s.keeper addr) (s.lookup env addr)
    (t.lookup env addr)
  loaded : ∀ addr, (s.stateObjects.find? addr).isSome → (t.stateObjects.find? addr).isSome

/-- **The invariants of the caches.** -/
structure Ok (s : StateDB) : Prop where
  objects : ∀ addr obj, s.lookup env addr = some obj → obj.Ok env s.keeper addr
  accessList : s.accessList.Ok
  dirties : s.dirties.Ok
  loaded : ∀ addr n, SortedMap.find? s.dirties addr = some n →
    (s.stateObjects.find? addr).isSome

variable {env} {s t u : StateDB} {addr : Address} {obj obj' : StateObject}

theorem Le.refl (s : StateDB) : Le env s s where
  keeper := rfl
  dirties := rfl
  refund := rfl
  logs := rfl
  accessList := rfl
  transient _ _ := rfl
  objects addr := by
    cases s.lookup env addr with
    | none => exact .none
    | some obj => exact .some (StateObject.Le.refl obj)
  loaded _ := id

theorem Le.trans (h : Le env s t) (h' : Le env t u) : Le env s u where
  keeper := h'.keeper.trans h.keeper
  dirties := h'.dirties.trans h.dirties
  refund := h'.refund.trans h.refund
  logs := h'.logs.trans h.logs
  accessList := h'.accessList.trans h.accessList
  transient addr key := (h'.transient addr key).trans (h.transient addr key)
  objects addr := by
    have h₁ := h.objects addr
    have h₂ := h'.objects addr
    rw [h.keeper] at h₂
    generalize s.lookup env addr = x, t.lookup env addr = y, u.lookup env addr = z at *
    cases h₁ with
    | none =>
      cases h₂
      exact .none
    | some hxy =>
      cases h₂ with
      | some hyz => exact .some (hxy.trans hyz)
  loaded addr hs := h'.loaded addr (h.loaded addr hs)

/-- What has the same fields outside the objects and good objects is good. -/
theorem Ok.of_le (hs : Ok env s) (h : Le env s t)
    (hobj : ∀ addr obj, t.lookup env addr = some obj → obj.Ok env t.keeper addr) : Ok env t where
  objects := hobj
  accessList := by rw [h.accessList]; exact hs.accessList
  dirties := by rw [h.dirties]; exact hs.dirties
  loaded addr n hn := by
    rw [h.dirties] at hn
    exact h.loaded addr (hs.loaded addr n hn)

theorem Le.setStateObject (h : Le env s t) (ho : StateObject.Le env s.keeper addr obj obj') :
    Le env (s.setStateObject addr obj) (t.setStateObject addr obj') where
  keeper := h.keeper
  dirties := h.dirties
  refund := h.refund
  logs := h.logs
  accessList := h.accessList
  transient := h.transient
  objects a := by
    rw [lookup_setStateObject, lookup_setStateObject]
    split_ifs with ha
    · subst ha
      exact .some ho
    · exact h.objects a
  loaded a ha := by
    unfold StateDB.setStateObject at ha ⊢
    rw [find?_insert] at ha ⊢
    split_ifs at ha ⊢
    · rfl
    · exact h.loaded a ha

/-- Keeping an object that answers as the one before. -/
theorem Le.setStateObject_right (ho : s.lookup env addr = some obj)
    (hle : StateObject.Le env s.keeper addr obj obj') : Le env s (s.setStateObject addr obj') where
  keeper := rfl
  dirties := rfl
  refund := rfl
  logs := rfl
  accessList := rfl
  transient _ _ := rfl
  objects a := by
    rw [lookup_setStateObject]
    split_ifs with ha
    · rw [ha, ho]
      exact .some hle
    · exact (Le.refl s).objects a
  loaded a ha := by
    unfold StateDB.setStateObject
    rw [find?_insert]
    split_ifs
    · rfl
    · exact ha

theorem Ok.setStateObject (h : Ok env s) (ho : obj.Ok env s.keeper addr) :
    Ok env (s.setStateObject addr obj) where
  objects a o ha := by
    rw [lookup_setStateObject] at ha
    split_ifs at ha with heq
    · cases ha
      rw [heq]
      exact ho
    · exact h.objects a o ha
  accessList := h.accessList
  dirties := h.dirties
  loaded a n hn := by
    unfold StateDB.setStateObject
    rw [find?_insert]
    split_ifs
    · rfl
    · exact h.loaded a n hn

theorem Le.exists_lookup (h : Le env s t) (ho : s.lookup env addr = some obj) :
    ∃ obj', t.lookup env addr = some obj' ∧ StateObject.Le env s.keeper addr obj obj' := by
  have hrel := h.objects addr
  rw [ho] at hrel
  generalize t.lookup env addr = x at hrel
  cases hrel with
  | some hle => exact ⟨_, rfl, hle⟩

theorem Le.lookup_eq_none (h : Le env s t) (ho : s.lookup env addr = none) :
    t.lookup env addr = none := by
  have hrel := h.objects addr
  rw [ho] at hrel
  generalize t.lookup env addr = x at hrel
  cases hrel
  rfl

/-! ### Undoing an entry -/

/-- The address and the effect of the entries that restore a part of an object. -/
def restore : JournalEntry → Option (Address × (StateObject → StateObject))
  | .suicide account prev prevbalance =>
    some (account, fun o => { o with suicided := prev }.setBalance prevbalance)
  | .selfDestruct account prev prevbalance =>
    some (account, fun o => { o with selfDestructed := prev }.setBalance prevbalance)
  | .balance account prev => some (account, fun o => o.setBalance prev)
  | .nonce account prev => some (account, fun o => o.setNonce prev)
  | .code account prevcode prevhash => some (account, fun o => o.setCode prevhash prevcode)
  | .storage account key prevalue => some (account, fun o => o.setState key prevalue)
  | _ => none

variable {e : JournalEntry} {f : StateObject → StateObject} {k : Keeper}

section

variable (h : restore e = some (addr, f))
include h

theorem dirtied_of_restore : e.dirtied = some addr := by
  cases e <;> cases h <;> rfl

theorem revertEntry_of_restore (ho : s.lookup env addr = some obj) :
    s.revertEntry env e = .ok (s.setStateObject addr (f obj)) := by
  cases e <;> cases h <;>
    simp only [revertEntry, modifyObject, getStateObject_eq, ho, setStateObject_setStateObject]

/-- Without an object there is nothing to restore, or the entry cannot be undone. -/
theorem revertEntry_of_lookup_eq_none (ho : s.lookup env addr = none)
    (hr : s.revertEntry env e = .ok t) :
    t = s ∧ ∀ s' : StateDB, s'.lookup env addr = none → s'.revertEntry env e = .ok s' := by
  cases e <;> cases h <;> simp only [revertEntry, modifyObject, getStateObject_eq, ho] at hr <;>
    cases hr
  all_goals
    refine ⟨rfl, fun s' ho' => ?_⟩
    simp only [revertEntry, getStateObject_eq, ho']

theorem restore_le (hle : StateObject.Le env k addr obj obj') :
    StateObject.Le env k addr (f obj) (f obj') := by
  cases e with
  | suicide _ prev prevbalance => cases h; exact (hle.destroyed prev prevbalance).1
  | selfDestruct _ prev prevbalance => cases h; exact (hle.destroyed prev prevbalance).2
  | balance _ prev => cases h; exact hle.setBalance prev
  | nonce _ prev => cases h; exact hle.setNonce prev
  | code _ prevcode prevhash => cases h; exact hle.setCode prevhash prevcode
  | storage _ key prevalue => cases h; exact hle.setState key prevalue
  | _ => cases h

/-- A slot that can be restored in an object can be restored in one that has cached more. -/
theorem restore_ok (hle : StateObject.Le env k addr obj obj') (ho' : obj'.Ok env k addr)
    (hf : (f obj).Ok env k addr) : (f obj').Ok env k addr := by
  cases e with
  | storage _ key prevalue =>
    cases h
    refine ho'.setState (hle.origin key (hf.dirty key ?_)) prevalue
    unfold StateObject.setState
    rw [find?_insert_self]
    rfl
  | suicide _ _ _ => cases h; exact ⟨ho'.origin, ho'.dirty, ho'.code⟩
  | selfDestruct _ _ _ => cases h; exact ⟨ho'.origin, ho'.dirty, ho'.code⟩
  | balance _ prev => cases h; exact ho'.setBalance prev
  | nonce _ prev => cases h; exact ho'.setNonce prev
  | code _ prevcode prevhash => cases h; exact ho'.setCode prevhash prevcode
  | _ => cases h

end

theorem lookup_erase (s : StateDB) (addr a : Address) :
    ({ s with stateObjects := s.stateObjects.erase addr } : StateDB).lookup env a =
      if a = addr then (s.keeper.getAccount env a).map fun account => { account := account }
      else s.lookup env a := by
  unfold lookup
  dsimp only
  rw [find?_erase]
  split_ifs <;> rfl

theorem getTransientState_putTransientState (s : StateDB) (addr a : Address) (key value k : Hash) :
    (s.putTransientState addr key value).getTransientState a k =
      if a = addr ∧ k = key then value else s.getTransientState a k := by
  unfold putTransientState getTransientState
  dsimp only
  rw [find?_insert]
  by_cases ha : a = addr
  · subst ha
    rw [if_pos rfl, Option.bind_some, find?_insert]
    by_cases hk : k = key
    · rw [if_pos hk, if_pos ⟨rfl, hk⟩]
      rfl
    · rw [if_neg hk, if_neg fun h => hk h.2]
      cases s.transientStorage.find? a with
      | none => rw [Option.getD_none, find?_empty]; rfl
      | some storage => rfl
  · rw [if_neg ha, if_neg fun h => ha h.1]

/-- The invariant of the objects alone. -/
def ObjectsOk (env : Env) (s : StateDB) : Prop :=
  ∀ addr obj, s.lookup env addr = some obj → obj.Ok env s.keeper addr

/-- **Undoing an entry in a state that has more.** -/
theorem revertEntry_le (hle : Le env s t) (ht : Ok env t) {s' : StateDB}
    (hr : s.revertEntry env e = .ok s') (hs' : ObjectsOk env s') :
    ∃ t', t.revertEntry env e = .ok t' ∧ Le env s' t' ∧ ObjectsOk env t' := by
  cases hrestore : restore e with
  | some p =>
    obtain ⟨addr, f⟩ := p
    cases ho : s.lookup env addr with
    | none =>
      obtain ⟨rfl, hback⟩ := revertEntry_of_lookup_eq_none hrestore ho hr
      exact ⟨t, hback t (hle.lookup_eq_none ho), hle, ht.objects⟩
    | some obj =>
      obtain ⟨obj', ho', hobj⟩ := hle.exists_lookup ho
      rw [revertEntry_of_restore hrestore ho] at hr
      cases hr
      have hok : (f obj).Ok env s.keeper addr := by
        refine hs' addr _ ?_
        rw [lookup_setStateObject, if_pos rfl]
      have hok' : (f obj').Ok env t.keeper addr := by
        have hobj' := ht.objects addr obj' ho'
        rw [hle.keeper] at hobj' ⊢
        exact restore_ok hrestore hobj hobj' hok
      exact ⟨_, revertEntry_of_restore hrestore ho', hle.setStateObject (restore_le hrestore hobj),
        (ht.setStateObject hok').objects⟩
  | none =>
    cases e with
    | createObject account =>
      cases hr
      refine ⟨_, rfl, ⟨hle.keeper, hle.dirties, hle.refund, hle.logs, hle.accessList, hle.transient,
        fun a => ?_, fun a ha => ?_⟩, fun a obj ha => ?_⟩
      · rw [lookup_erase, lookup_erase, hle.keeper]
        split_ifs
        · cases s.keeper.getAccount env a with
          | none => exact .none
          | some acct => exact .some (StateObject.Le.refl _)
        · exact hle.objects a
      · dsimp only at ha ⊢
        rw [find?_erase] at ha ⊢
        split_ifs at ha ⊢
        · cases ha
        · exact hle.loaded a ha
      · rw [lookup_erase] at ha
        split_ifs at ha
        · obtain ⟨acct, -, rfl⟩ := Option.map_eq_some_iff.1 ha
          exact StateObject.ok_mk acct false
        · exact ht.objects a obj ha
    | resetObject account prev =>
      cases hr
      have hprev : prev.Ok env t.keeper account := by
        rw [hle.keeper]
        refine hs' account prev ?_
        rw [lookup_setStateObject, if_pos rfl]
      exact ⟨_, rfl, hle.setStateObject (StateObject.Le.refl prev),
        (ht.setStateObject hprev).objects⟩
    | refund prev =>
      cases hr
      exact ⟨_, rfl, ⟨hle.keeper, hle.dirties, rfl, hle.logs, hle.accessList, hle.transient,
        hle.objects, hle.loaded⟩, ht.objects⟩
    | addLog =>
      unfold revertEntry at hr ⊢
      rw [hle.logs]
      split_ifs at hr ⊢
      cases hr
      exact ⟨_, rfl, ⟨hle.keeper, hle.dirties, hle.refund, rfl, hle.accessList, hle.transient,
        hle.objects, hle.loaded⟩, ht.objects⟩
    | accessListAddAccount address =>
      cases hr
      refine ⟨_, rfl, ⟨hle.keeper, hle.dirties, hle.refund, hle.logs, ?_, hle.transient,
        hle.objects, hle.loaded⟩, ht.objects⟩
      dsimp only
      rw [hle.accessList]
    | accessListAddSlot address slot =>
      obtain ⟨al, hal, hr⟩ := bind_eq_ok.1 hr
      cases hr
      refine ⟨{ t with accessList := al }, ?_, ⟨hle.keeper, hle.dirties, hle.refund, hle.logs, rfl,
        hle.transient, hle.objects, hle.loaded⟩, ht.objects⟩
      simp only [revertEntry, hle.accessList, hal]
      rfl
    | transientStorage account key prevalue =>
      cases hr
      refine ⟨_, rfl, ⟨hle.keeper, hle.dirties, hle.refund, hle.logs, hle.accessList,
        fun a k => ?_, hle.objects, hle.loaded⟩, ht.objects⟩
      rw [getTransientState_putTransientState, getTransientState_putTransientState, hle.transient]
    | _ => cases hrestore

/-- **Undoing respects the order of states.** -/
theorem respects (env : Env) : Respects (undo env) (Ok env) (Le env) where
  trans := Le.trans
  undo {e s s' t} hle hs' hundo ht := by
    obtain ⟨s₁, h₁, h⟩ := bind_eq_ok.1 hundo
    cases h
    obtain ⟨s₁', h₁', hle₁, hobj⟩ := revertEntry_le hle hs' h₁ ht.objects
    have hle' : Le env { s₁ with dirties := s₁.dirties.unmark e.dirtied }
        { s₁' with dirties := s₁'.dirties.unmark e.dirtied } :=
      ⟨hle₁.keeper, by rw [hle₁.dirties], hle₁.refund, hle₁.logs, hle₁.accessList, hle₁.transient,
        hle₁.objects, hle₁.loaded⟩
    refine ⟨{ s₁' with dirties := s₁'.dirties.unmark e.dirtied }, ?_, ht.of_le hle' hobj, hle'⟩
    unfold undo
    rw [h₁']
    rfl

end StateDB

end Moca.Evm
