/-
# Who is destroyed by `Selfdestruct6780`

EIP-6780 lets a contract destroy itself only in the transaction that created it.
`Selfdestruct6780` asks the `created` flag of the state object, which `createObject` sets on
an object that has none before it, and only then.  So the flag is not about `CreateAccount`:
it is also set where a first payment makes the object, and it is not set, or lost, where
`CreateAccount` replaces an object (`created_by_payment`).

Along every run the flag of an address is what the calls that were not reverted make of it
(`flags_run`), and `selfdestruct6780_exact` says for which histories it tells whether
`CreateAccount` is among them.
-/

import Moca.Evm.History

namespace Moca.Evm

/-! ### The flag of an address -/

/-- The flag of the object of an address, if there is one, after a call. -/
def Call.mark (addr : Address) (flag : Option Bool) (c : Call) : Option Bool :=
  match c.makes addr with
  | none => flag
  | some true => some flag.isNone
  | some false => some (flag.getD true)

variable {c : Call} {calls : List Call}

theorem makes_eq_some_true {addr : Address} :
    c.makes addr = some true ↔ c = .createAccount addr := by
  cases c <;> simp only [Call.makes] <;> (try split_ifs) <;> simp_all

namespace StateDB

variable {env : Env} {s t : StateDB} {addr a : Address} {obj obj' : StateObject}

/-- The `created` flag of the object of an address, if there is one. -/
def flag (env : Env) (s : StateDB) (addr : Address) : Option Bool :=
  (s.lookup env addr).map StateObject.created

theorem flag_setStateObject (s : StateDB) (addr a : Address) (obj : StateObject) :
    (s.setStateObject addr obj).flag env a =
      if addr = a then some obj.created else s.flag env a := by
  unfold flag
  rw [lookup_setStateObject]
  split_ifs <;> simp_all

theorem flag_change (s : StateDB) (addr a : Address) (e : JournalEntry) (obj : StateObject) :
    (s.change addr e obj).flag env a = if addr = a then some obj.created else s.flag env a :=
  flag_setStateObject (s.append e) addr a obj

/-- An object that takes the place of another with the same flag. -/
theorem flag_replace (ho : s.lookup env addr = some obj) (hflag : obj'.created = obj.created) :
    (if addr = a then some obj'.created else s.flag env a) = s.flag env a := by
  split_ifs with heq
  · subst heq
    unfold flag
    rw [ho, Option.map_some, hflag]
  · rfl

/-- Objects that are restored keep the flag. -/
theorem created_of_restore {e : JournalEntry} {f : StateObject → StateObject}
    (h : restore e = some (addr, f)) (o : StateObject) : (f o).created = o.created := by
  cases e <;> cases h <;> rfl

/-- **What an edit does to the flags**: only making an object sets one. -/
theorem Edit.flag (h : Edit env c s t) (a : Address) (hc : c ≠ .createAccount a) :
    t.flag env a = s.flag env a ∨
      c.makes a ≠ none ∧ s.flag env a = none ∧ t.flag env a = some true := by
  cases h with
  | cache ho hle hok =>
    rw [flag_setStateObject]
    exact .inl (flag_replace ho hle.created)
  | change _ ho hrestore hok hle hback _ =>
    rw [flag_change]
    exact .inl (flag_replace ho ((created_of_restore hrestore _).symm.trans hle.created))
  | @create addr hmakes ho =>
    rw [flag_change]
    split_ifs with heq
    · subst heq
      exact .inr ⟨hmakes, by rw [StateDB.flag, ho, Option.map_none], rfl⟩
    · exact .inl rfl
  | @reset addr prev hreset ho =>
    have hne : addr ≠ a := fun heq => hc (heq ▸ hreset)
    rw [flag_change, if_neg hne]
    exact .inl rfl
  | outside ts' hd hal hrevert hts => exact .inl rfl

theorem Edits.flag (h : Edits env c s t) (a : Address) (hc : c ≠ .createAccount a) :
    t.flag env a = s.flag env a ∨
      c.makes a ≠ none ∧ s.flag env a = none ∧ t.flag env a = some true := by
  induction h with
  | refl => exact .inl rfl
  | tail _ hedit ih =>
    rcases hedit.flag a hc with heq | ⟨hmakes, hnone, hset⟩
    · rw [heq]
      exact ih
    · rcases ih with heq | ⟨-, -, hset'⟩
      · exact .inr ⟨hmakes, heq ▸ hnone, hset⟩
      · rw [hset'] at hnone
        cases hnone

/-- A setter leaves an object behind. -/
theorem flag_ne_none_of_makes (hs : Ok env s) (hmakes : c.makes a = some false)
    (h : c.exec env s = .ok t) : t.flag env a ≠ none := by
  have hflag : ∀ {u : StateDB} {obj : StateObject}, u.lookup env a = some obj →
      u.flag env a ≠ none := by
    intro u obj ho
    rw [flag, ho]
    exact Option.some_ne_none _
  have hc : c.makes a ≠ none := by rw [hmakes]; exact Option.some_ne_none _
  obtain ⟨-, -, ho⟩ := edits_getOrNewStateObject hs a hc
  have hwrites := Call.writes_of_makes hc
  cases c with
  | addBalance b amount =>
    obtain rfl := Option.some.inj hwrites
    cases h
    unfold addBalance
    dsimp only
    split_ifs
    · exact hflag ho
    · exact hflag (lookup_change_self _ _ _ _)
  | subBalance b amount =>
    obtain rfl := Option.some.inj hwrites
    cases h
    unfold subBalance
    dsimp only
    split_ifs
    · exact hflag ho
    · exact hflag (lookup_change_self _ _ _ _)
  | setNonce b nonce =>
    obtain rfl := Option.some.inj hwrites
    cases h
    exact hflag (lookup_change_self _ _ _ _)
  | setCode b code =>
    obtain rfl := Option.some.inj hwrites
    cases h
    exact hflag (lookup_change_self _ _ _ _)
  | setState b key value =>
    obtain rfl := Option.some.inj hwrites
    cases h
    unfold setState
    dsimp only
    split_ifs
    · exact hflag ((lookup_setStateObject env _ _ _ _).trans (if_pos rfl))
    · exact hflag (lookup_change_self _ _ _ _)
  | createAccount b =>
    rw [Call.makes] at hmakes
    split_ifs at hmakes
    cases hmakes
  | _ => exact absurd rfl hc

/-- **What `Selfdestruct6780` does**, by the flag. -/
theorem selfdestruct6780_eq (s : StateDB) (addr : Address) :
    s.selfdestruct6780 env addr =
      if s.flag env addr = some true then (s.getStateObject env addr).1.selfDestruct env addr
      else (s.getStateObject env addr).1 := by
  unfold selfdestruct6780 flag
  rw [getStateObject_eq]
  cases s.lookup env addr with
  | none => simp
  | some obj => simp

theorem flag_createAccount (s : StateDB) (addr a : Address) :
    (s.createAccount env addr).flag env a =
      if addr = a then some (s.flag env a).isNone else s.flag env a := by
  unfold createAccount
  rw [createObject_eq]
  cases ho : s.lookup env addr with
  | none =>
    refine (flag_change s addr a _ _).trans ?_
    split_ifs with heq
    · subst heq
      simp [flag, ho]
    · rfl
  | some prev =>
    dsimp only
    unfold StateDB.change
    rw [setStateObject_setStateObject, flag_setStateObject]
    split_ifs with heq
    · subst heq
      simp [flag, ho, StateObject.new, StateObject.setBalance]
    · rfl

/-- **What a call does to the flags.** -/
theorem flag_exec (hs : Ok env s) (hsnap : c ≠ .snapshot)
    (hrev : ∀ revid, c ≠ .revertToSnapshot revid) (h : c.exec env s = .ok t) (a : Address) :
    t.flag env a = c.mark a (s.flag env a) := by
  have hedits := edits_exec hs hsnap hrev h
  unfold Call.mark
  rcases hmakes : c.makes a with _ | _ | _
  · have hne : c ≠ .createAccount a := fun heq => by simp [makes_eq_some_true.2 heq] at hmakes
    exact (hedits.flag a hne).resolve_right fun hmade => hmade.1 hmakes
  · have hne : c ≠ .createAccount a := fun heq => by simp [makes_eq_some_true.2 heq] at hmakes
    have hthere := flag_ne_none_of_makes hs hmakes h
    rcases hedits.flag a hne with heq | ⟨-, hnone, hset⟩
    · rw [heq] at hthere ⊢
      obtain ⟨b, hb⟩ := Option.ne_none_iff_exists'.1 hthere
      simp [hb]
    · simp [hnone, hset]
  · obtain rfl := makes_eq_some_true.1 hmakes
    cases h
    exact (flag_createAccount s a a).trans (if_pos rfl)

theorem Le.flag (h : Le env s t) (a : Address) : t.flag env a = s.flag env a := by
  unfold StateDB.flag
  have hobjects := h.objects a
  generalize s.lookup env a = x, t.lookup env a = y at hobjects
  cases hobjects with
  | none => rfl
  | some hle => exact congrArg some hle.created

end StateDB

/-! ### The flags along a run -/

open StateDB

/-- The flag of an address after some calls, none of them reverted. -/
def flagAfter (env : Env) (k : Keeper) (calls : List Call) (a : Address) : Option Bool :=
  calls.foldl (Call.mark a) ((k.getAccount env a).map fun _ => false)

/-- **Along every run the flags are those of the history.** -/
theorem flags_run {env : Env} {k : Keeper} {txConfig : TxConfig} {s : StateDB}
    (hrun : run env calls (new k txConfig) = .ok s) (a : Address) :
    s.flag env a = flagAfter env k (History.of calls).calls a := by
  let P : List Call → StateDB → Prop := fun calls s => s.flag env a = flagAfter env k calls a
  have hnew : P [] (new k txConfig) := by
    show ((k.getAccount env a).map _).map _ = _
    rw [Option.map_map]
    rfl
  have hstable : History.Stable env P := fun calls s t h hle => (hle.flag a).trans h
  refine ((History.along_new hnew).run (fun _ _ => True) hstable ?_
    (Guarded.of_forall fun _ _ => trivial) hrun).holds
  intro calls s t c h hok _ hsnap hrev hexec
  show t.flag env a = (calls ++ [c]).foldl _ _
  rw [flag_exec hok hsnap hrev hexec, h, List.foldl_append]
  rfl

/-! ### The theorem -/

/-- What the calls make of an address, in order. -/
def makings (calls : List Call) (addr : Address) : List Bool := calls.filterMap (Call.makes addr)

theorem createAccount_mem_iff {addr : Address} :
    .createAccount addr ∈ calls ↔ true ∈ makings calls addr := by
  simp [makings, makes_eq_some_true]

theorem makings_cons (c : Call) (calls : List Call) (addr : Address) :
    makings (c :: calls) addr = (c.makes addr).toList ++ makings calls addr := by
  unfold makings
  rw [List.filterMap_cons]
  cases c.makes addr <;> rfl

/-- The flag stays until the account is created again. -/
theorem foldl_mark_some (addr : Address) (calls : List Call) (b : Bool) :
    calls.foldl (Call.mark addr) (some b) = some (b && !(makings calls addr).contains true) := by
  induction calls generalizing b with
  | nil => simp [makings]
  | cons c calls ih =>
    rw [List.foldl_cons, makings_cons]
    rcases hmakes : c.makes addr with _ | _ | _
    · rw [show c.mark addr (some b) = some b by simp [Call.mark, hmakes], ih]
      rfl
    · rw [show c.mark addr (some b) = some b by simp [Call.mark, hmakes], ih]
      simp
    · rw [show c.mark addr (some b) = some false by simp [Call.mark, hmakes], ih]
      simp

/-- The flag is set on an address that had no account, was made, and was not created after that. -/
theorem flagAfter_eq_some_true (env : Env) (k : Keeper) (calls : List Call) (addr : Address) :
    flagAfter env k calls addr = some true ↔ k.getAccount env addr = none ∧
      ∃ first rest, makings calls addr = first :: rest ∧ true ∉ rest := by
  unfold flagAfter
  rcases haccount : k.getAccount env addr with _ | account
  · rw [Option.map_none]
    induction calls with
    | nil => simp [makings]
    | cons c calls ih =>
      rw [List.foldl_cons, makings_cons]
      rcases hmakes : c.makes addr with _ | first
      · rw [show c.mark addr none = none by simp [Call.mark, hmakes]]
        exact ih
      · rw [show c.mark addr none = some true by cases first <;> simp [Call.mark, hmakes],
          foldl_mark_some]
        simp
  · simp [foldl_mark_some]

namespace StateDB

/-- The address was marked destroyed and has no balance left. -/
structure Destroyed (env : Env) (s t : StateDB) (addr : Address) : Prop where
  entry : ∃ prev prevbalance, t.entries = s.entries ++ [.selfDestruct addr prev prevbalance]
  object : ∃ obj, t.lookup env addr = some obj ∧ obj.selfDestructed = true ∧ obj.account.balance = 0

/-- Nothing was recorded, and everything is answered as before. -/
structure Unchanged (env : Env) (s t : StateDB) : Prop where
  entries : t.entries = s.entries
  lookup : ∀ a, t.lookup env a = s.lookup env a

theorem Destroyed.not_unchanged {env : Env} {s t : StateDB} {addr : Address}
    (h : Destroyed env s t addr) : ¬Unchanged env s t := by
  intro hsame
  obtain ⟨prev, prevbalance, hentries⟩ := h.entry
  have hlength := congrArg List.length (hsame.entries.symm.trans hentries)
  simp at hlength

theorem unchanged_getStateObject (env : Env) (s : StateDB) (addr : Address) :
    Unchanged env s (s.getStateObject env addr).1 := by
  rw [getStateObject_eq]
  cases ho : s.lookup env addr with
  | none => exact ⟨rfl, fun _ => rfl⟩
  | some obj =>
    refine ⟨rfl, fun a => ?_⟩
    rw [lookup_setStateObject]
    split_ifs with heq
    · rw [heq, ho]
    · rfl

/-- What the flag decides. -/
theorem selfdestruct6780_cases (env : Env) (s : StateDB) (addr : Address) :
    (s.flag env addr = some true ∧ Destroyed env s (s.selfdestruct6780 env addr) addr) ∨
      (s.flag env addr ≠ some true ∧ Unchanged env s (s.selfdestruct6780 env addr)) := by
  rw [selfdestruct6780_eq]
  split_ifs with hflag
  · refine .inl ⟨hflag, ?_⟩
    obtain ⟨obj, ho, -⟩ := Option.map_eq_some_iff.1 hflag
    have hsame := unchanged_getStateObject env s addr
    unfold selfDestruct
    rw [getStateObject_eq _ (s.getStateObject env addr).1, hsame.lookup, ho]
    refine ⟨⟨obj.selfDestructed, obj.account.balance, ?_⟩, _,
      (lookup_setStateObject env _ addr addr _).trans (if_pos rfl), rfl, rfl⟩
    show (s.getStateObject env addr).1.entries ++ [_] = _
    rw [hsame.entries]
  · exact .inr ⟨hflag, unchanged_getStateObject env s addr⟩

end StateDB

/-- No account was created where the keeper has one; elsewhere the first call that makes the
object creates the account, and none does so again. -/
def CreatedFirst (env : Env) (k : Keeper) (calls : List Call) (addr : Address) : Prop :=
  (k.getAccount env addr ≠ none → .createAccount addr ∉ calls) ∧
    (k.getAccount env addr = none → ∀ first rest, makings calls addr = first :: rest →
      first = true ∧ true ∉ rest)

/-- **`Selfdestruct6780` in the creating transaction**: after every run it destroys the address
if `CreateAccount` of it was made and not reverted, and changes nothing otherwise, exactly if the
account is created first and once, on an address without account. -/
theorem selfdestruct6780_exact {env : Env} {k : Keeper} {txConfig : TxConfig} {calls : List Call}
    {s : StateDB} (hrun : run env calls (new k txConfig) = .ok s) (addr : Address) :
    ((.createAccount addr ∈ (History.of calls).calls →
        Destroyed env s (s.selfdestruct6780 env addr) addr) ∧
      (.createAccount addr ∉ (History.of calls).calls →
        Unchanged env s (s.selfdestruct6780 env addr))) ↔
      CreatedFirst env k (History.of calls).calls addr := by
  have hflag := flags_run hrun addr
  have hset := flagAfter_eq_some_true env k (History.of calls).calls addr
  rw [show flagAfter env k (History.of calls).calls addr = s.flag env addr from hflag.symm] at hset
  generalize (History.of calls).calls = kept at hset
  unfold CreatedFirst
  rw [createAccount_mem_iff]
  have hiff : ((true ∈ makings kept addr → Destroyed env s (s.selfdestruct6780 env addr) addr) ∧
      (true ∉ makings kept addr → Unchanged env s (s.selfdestruct6780 env addr))) ↔
      (true ∈ makings kept addr ↔ s.flag env addr = some true) := by
    rcases selfdestruct6780_cases env s addr with ⟨h, hd⟩ | ⟨h, hu⟩
    · have := hd.not_unchanged
      tauto
    · have : ¬Destroyed env s (s.selfdestruct6780 env addr) addr := fun hd => hd.not_unchanged hu
      tauto
  rw [hiff, hset]
  rcases k.getAccount env addr with _ | account
  · cases makings kept addr with
    | nil => simp
    | cons first rest => cases first <;> simp
  · simp

/-- A contract is created, paid and reverted, and created again. -/
def recreated : List Call :=
  [.snapshot, .createAccount 3, .addBalance 3 40, .revertToSnapshot 0, .createAccount 3,
    .addBalance 3 7]

theorem selfdestruct6780_exact_recreated :
    ∃ s, run sampleEnv recreated (new sampleKeeper ⟨0, 0, 0, 0⟩) = .ok s ∧
      Destroyed sampleEnv s (s.selfdestruct6780 sampleEnv 3) 3 := by
  obtain ⟨s, hrun, -⟩ : ∃ s, run sampleEnv recreated (new sampleKeeper ⟨0, 0, 0, 0⟩) = .ok s ∧
      True := by decide +kernel
  have hkept : (History.of recreated).calls = [.createAccount 3, .addBalance 3 7] := rfl
  have hfirst : CreatedFirst sampleEnv sampleKeeper (History.of recreated).calls 3 := by
    rw [hkept]
    refine ⟨fun haccount => absurd (by decide +kernel) haccount, fun _ first rest hmakings => ?_⟩
    obtain ⟨rfl, rfl⟩ := List.cons.inj (hmakings.symm.trans
      (by decide : makings [.createAccount 3, .addBalance 3 7] 3 = [true, false]))
    decide
  exact ⟨s, hrun, ((selfdestruct6780_exact hrun 3).2 hfirst).1 (by simp [hkept])⟩

/-- A payment makes an object with the flag, which `Selfdestruct6780` then destroys although no
account was created; an account that was created over a balance is left alone. -/
theorem created_by_payment :
    (.createAccount 3 ∉ (History.of [.addBalance 3 40]).calls ∧
      ∃ s, run sampleEnv [.addBalance 3 40] (new sampleKeeper ⟨0, 0, 0, 0⟩) = .ok s ∧
        ((s.selfdestruct6780 sampleEnv 3).lookup sampleEnv 3).map
          (fun obj => (obj.selfDestructed, obj.account.balance)) = some (true, 0)) ∧
    .createAccount 1 ∈ (History.of [.createAccount 1]).calls ∧
      ∃ s, run sampleEnv [.createAccount 1] (new sampleKeeper ⟨0, 0, 0, 0⟩) = .ok s ∧
        ((s.selfdestruct6780 sampleEnv 1).lookup sampleEnv 1).map
          (fun obj => (obj.selfDestructed, obj.account.balance)) = some (false, 100) :=
  ⟨⟨by simp [History.of, History.step, History.new], by decide +kernel⟩,
    by simp [History.of, History.step, History.new], by decide +kernel⟩

end Moca.Evm
