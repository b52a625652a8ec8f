/-
# The authz limiter of the ante handler

`AuthzLimiterDecorator` (`app/ante/cosmos/authz.go`) refuses a transaction that
grants a disabled message type or carries one inside a `MsgExec`, and bounds how
deep `MsgExec` may nest.  Messages are trees, since a `MsgExec` holds messages.

The level that bounds the nesting is a variable of the loop over one list of
messages, and it is raised there for every `MsgExec` met, never lowered again: a
sibling counts like an enclosing message.  `reach` is what the code counts and
`depth` what the cap is about.  The type of a `MsgExec` or `MsgGrant` itself is not
looked at, wherever it stands.  `anteHandle_eq_ok` says what passes, and
`limiter_exact` when that is what should.
-/

import Moca.Lib.Run
import Mathlib.Data.Nat.Basic
import Mathlib.Tactic.Tauto

namespace Moca.Ante

/-- A message of a transaction: a `MsgExec` with the messages it executes, a
`MsgGrant` with the type its authorization is for, or any other message with its
type. -/
inductive Msg
  | exec (msgs : List Msg)
  | grant (url : String)
  | other (url : String)

inductive Error
  /-- found more nested msgs than permited -/
  | nested
  /-- found disabled msg type -/
  | disabled (url : String)
deriving DecidableEq

def Msg.typeURL : Msg → String
  | .exec _ => "/cosmos.authz.v1beta1.MsgExec"
  | .grant _ => "/cosmos.authz.v1beta1.MsgGrant"
  | .other url => url

def maxNestedMsgs : ℕ := 7

structure AuthzLimiterDecorator where
  disabledMsgTypes : List String

namespace AuthzLimiterDecorator

variable (ald : AuthzLimiterDecorator)

def isDisabledMsg (msgTypeURL : String) : Bool :=
  ald.disabledMsgTypes.any fun disabledType => msgTypeURL == disabledType

mutual

/-- One round of the loop; it returns the level the next round starts with. -/
def checkMsg : Msg → Bool → ℕ → Except Error ℕ
  | .exec innerMsgs, _, nestedLvl => do
    -- the check that the recursive call starts with
    if nestedLvl + 1 ≥ maxNestedMsgs then throw .nested
    checkMsgs innerMsgs true (nestedLvl + 1)
    return nestedLvl + 1
  | .grant url, _, nestedLvl =>
    if ald.isDisabledMsg url then throw (.disabled url) else return nestedLvl
  | .other url, isAuthzInnerMsg, nestedLvl =>
    if isAuthzInnerMsg && ald.isDisabledMsg url then throw (.disabled url) else return nestedLvl

def checkMsgs : List Msg → Bool → ℕ → Except Error Unit
  | [], _, _ => return ()
  | msg :: msgs, isAuthzInnerMsg, nestedLvl => do
    let nestedLvl ← checkMsg msg isAuthzInnerMsg nestedLvl
    checkMsgs msgs isAuthzInnerMsg nestedLvl

end

def checkDisabledMsgs (msgs : List Msg) (isAuthzInnerMsg : Bool) (nestedLvl : ℕ) :
    Except Error Unit := do
  if nestedLvl ≥ maxNestedMsgs then throw .nested
  ald.checkMsgs msgs isAuthzInnerMsg nestedLvl

def anteHandle (msgs : List Msg) : Except Error Unit :=
  ald.checkDisabledMsgs msgs false 1

end AuthzLimiterDecorator

/-- The decorator of both Cosmos ante handlers of the application. -/
def cosmosAuthzLimiter : AuthzLimiterDecorator :=
  ⟨["/ethermint.evm.v1.MsgEthereumTx", "/cosmos.vesting.v1beta1.MsgCreateVestingAccount"]⟩

/-! ### What the limiter is for -/

mutual

/-- The messages strictly inside one message, at any depth. -/
def Msg.inside : Msg → List Msg
  | .exec msgs => msgs ++ nested msgs
  | .grant _ => []
  | .other _ => []

/-- The messages strictly inside a `MsgExec` of the list, at any depth. -/
def nested : List Msg → List Msg
  | [] => []
  | msg :: msgs => msg.inside ++ nested msgs

end

mutual

def Msg.depth : Msg → ℕ
  | .exec msgs => depth msgs + 1
  | .grant _ => 0
  | .other _ => 0

/-- The length of the longest chain of nested `MsgExec`. -/
def depth : List Msg → ℕ
  | [] => 0
  | msg :: msgs => max msg.depth (depth msgs)

end

/-- The type a message grants, if it is a `MsgGrant`. -/
def Msg.granted : Msg → Option String
  | .grant url => some url
  | _ => none

/-- What the limiter should let pass. -/
structure AuthzLimiterDecorator.Permits (ald : AuthzLimiterDecorator) (msgs : List Msg) : Prop where
  grants : ∀ msg ∈ msgs ++ nested msgs, ∀ url ∈ msg.granted, ald.isDisabledMsg url = false
  inner : ∀ msg ∈ nested msgs, ald.isDisabledMsg msg.typeURL = false
  chain : depth msgs + 1 < maxNestedMsgs

/-- The messages of the authz module that the limiter knows. -/
def Msg.isAuthz : Msg → Bool
  | .exec _ => true
  | .grant _ => true
  | .other _ => false

/-- The types are in order, but for those of the authz messages inside a `MsgExec`. -/
structure AuthzLimiterDecorator.Tolerates (ald : AuthzLimiterDecorator) (msgs : List Msg) :
    Prop where
  grants : ∀ msg ∈ msgs ++ nested msgs, ∀ url ∈ msg.granted, ald.isDisabledMsg url = false
  others : ∀ msg ∈ nested msgs, msg.isAuthz = false → ald.isDisabledMsg msg.typeURL = false

/-- No authz message inside a `MsgExec` is of a disabled type. -/
def AuthzLimiterDecorator.AuthzEnabled (ald : AuthzLimiterDecorator) (msgs : List Msg) : Prop :=
  ∀ msg ∈ nested msgs, msg.isAuthz = true → ald.isDisabledMsg msg.typeURL = false

/-! ### What it lets pass -/

mutual

/-- What is counted from one message on, where `n` is counted from the rest on. -/
def Msg.reach : Msg → ℕ → ℕ
  | .exec msgs, n => max (reach msgs) n + 1
  | .grant _, n => n
  | .other _, n => n

/-- How far the level rises over a list: a `MsgExec` raises it for the messages
inside and for those that follow. -/
def reach : List Msg → ℕ
  | [] => 0
  | msg :: msgs => msg.reach (reach msgs)

end

namespace AuthzLimiterDecorator

variable (ald : AuthzLimiterDecorator) {msgs : List Msg} {isInner : Bool} {lvl : ℕ} {url : String}

/-- The code's view of one message: what it grants is allowed, and so is its own type
if it stands inside a `MsgExec` and is no authz message. -/
def passes (isAuthzInnerMsg : Bool) : Msg → Bool
  | .exec _ => true
  | .grant url => !ald.isDisabledMsg url
  | .other url => !(isAuthzInnerMsg && ald.isDisabledMsg url)

theorem checkMsgs_exec {inner : List Msg} :
    ald.checkMsgs (.exec inner :: msgs) isInner lvl = .ok () ↔
      lvl + 1 < maxNestedMsgs ∧ ald.checkMsgs inner true (lvl + 1) = .ok () ∧
        ald.checkMsgs msgs isInner (lvl + 1) = .ok () := by
  simp only [checkMsgs, checkMsg]
  split_ifs with hcap
  · exact iff_of_false (fun h => nomatch h) fun h => by omega
  · rw [bind_assoc, bind_eq_ok]
    constructor
    · rintro ⟨⟨⟩, hinner, hrest⟩
      exact ⟨not_le.1 hcap, hinner, hrest⟩
    · rintro ⟨-, hinner, hrest⟩
      exact ⟨(), hinner, hrest⟩

theorem checkMsgs_grant : ald.checkMsgs (.grant url :: msgs) isInner lvl = .ok () ↔
      ald.passes isInner (.grant url) = true ∧ ald.checkMsgs msgs isInner lvl = .ok () := by
  simp only [checkMsgs, checkMsg, passes]
  cases ald.isDisabledMsg url
  · simp
  · exact iff_of_false (fun h => nomatch h) fun h => nomatch h.1

theorem checkMsgs_other : ald.checkMsgs (.other url :: msgs) isInner lvl = .ok () ↔
      ald.passes isInner (.other url) = true ∧ ald.checkMsgs msgs isInner lvl = .ok () := by
  simp only [checkMsgs, checkMsg, passes]
  cases isInner && ald.isDisabledMsg url
  · simp
  · exact iff_of_false (fun h => nomatch h) fun h => nomatch h.1

/-- **What the loop accepts.**  Induction over the tree: the level at which the loop
stands is part of the statement, since each `MsgExec` hands a raised one on. -/
theorem checkMsgs_eq_ok : ∀ (msgs : List Msg) (isInner : Bool) (lvl : ℕ), lvl < maxNestedMsgs →
    (ald.checkMsgs msgs isInner lvl = .ok () ↔
      (∀ m ∈ msgs, ald.passes isInner m = true) ∧ (∀ m ∈ nested msgs, ald.passes true m = true) ∧
        lvl + reach msgs < maxNestedMsgs)
  | [], _, lvl, hlvl => by simp [checkMsgs, nested, reach, hlvl, pure_eq_ok]
  | .exec inner :: msgs, isInner, lvl, hlvl => by
    have hself : ald.passes isInner (.exec inner) = true := rfl
    rw [checkMsgs_exec, nested, Msg.inside, reach, Msg.reach]
    simp only [List.forall_mem_cons, List.forall_mem_append, hself, true_and]
    by_cases hcap : lvl + 1 < maxNestedMsgs
    · rw [checkMsgs_eq_ok inner true (lvl + 1) hcap, checkMsgs_eq_ok msgs isInner (lvl + 1) hcap]
      have hmax : lvl + (max (reach inner) (reach msgs) + 1) < maxNestedMsgs ↔
          lvl + 1 + reach inner < maxNestedMsgs ∧ lvl + 1 + reach msgs < maxNestedMsgs := by omega
      rw [hmax]
      tauto
    · exact iff_of_false (fun h => hcap h.1) fun h => by omega
  | .grant url :: msgs, isInner, lvl, hlvl => by
    rw [checkMsgs_grant, checkMsgs_eq_ok msgs isInner lvl hlvl, List.forall_mem_cons, and_assoc]
    rfl
  | .other url :: msgs, isInner, lvl, hlvl => by
    rw [checkMsgs_other, checkMsgs_eq_ok msgs isInner lvl hlvl, List.forall_mem_cons, and_assoc]
    rfl

/-- The types the code lets pass are those it should, the authz messages inside a `MsgExec`
apart: their own type is never looked at. -/
theorem passes_iff (msgs : List Msg) :
    (∀ m ∈ msgs, ald.passes false m = true) ∧ (∀ m ∈ nested msgs, ald.passes true m = true) ↔
      ald.Tolerates msgs := by
  have houter : ∀ m, ald.passes false m = true ↔
      ∀ url ∈ m.granted, ald.isDisabledMsg url = false := by
    intro m
    cases m <;> simp [passes, Msg.granted]
  have hinner : ∀ m, ald.passes true m = true ↔
      (∀ url ∈ m.granted, ald.isDisabledMsg url = false) ∧
        (m.isAuthz = false → ald.isDisabledMsg m.typeURL = false) := by
    intro m
    cases m <;> simp [passes, Msg.granted, Msg.isAuthz, Msg.typeURL]
  simp only [houter, hinner]
  constructor
  · rintro ⟨houts, hins⟩
    exact ⟨List.forall_mem_append.2 ⟨houts, fun m hm => (hins m hm).1⟩,
      fun m hm => (hins m hm).2⟩
  · rintro ⟨hgrants, hothers⟩
    obtain ⟨houts, hins⟩ := List.forall_mem_append.1 hgrants
    exact ⟨houts, fun m hm => ⟨hins m hm, hothers m hm⟩⟩

/-- What should pass, with the authz messages inside a `MsgExec` taken apart. -/
theorem permits_iff (msgs : List Msg) : ald.Permits msgs ↔
    ald.Tolerates msgs ∧ ald.AuthzEnabled msgs ∧ depth msgs + 1 < maxNestedMsgs := by
  constructor
  · rintro ⟨hgrants, hinner, hchain⟩
    exact ⟨⟨hgrants, fun m hm _ => hinner m hm⟩, fun m hm _ => hinner m hm, hchain⟩
  · rintro ⟨⟨hgrants, hothers⟩, hauthz, hchain⟩
    refine ⟨hgrants, fun m hm => ?_, hchain⟩
    cases hm' : m.isAuthz
    · exact hothers m hm hm'
    · exact hauthz m hm hm'

theorem anteHandle_eq_ok : ald.anteHandle msgs = .ok () ↔
    (∀ m ∈ msgs, ald.passes false m = true) ∧ (∀ m ∈ nested msgs, ald.passes true m = true) ∧
      1 + reach msgs < maxNestedMsgs :=
  ald.checkMsgs_eq_ok msgs false 1 (by decide)

/-- **The limiter against its purpose.**  It decides what it should exactly when, for a
transaction whose other types are in order, the count stays under the cap if and only if the
longest chain does and no authz message inside a `MsgExec` is of a disabled type. -/
theorem limiter_exact (msgs : List Msg) :
    (ald.anteHandle msgs = .ok () ↔ ald.Permits msgs) ↔
      (ald.Tolerates msgs → (reach msgs + 1 < maxNestedMsgs ↔
        ald.AuthzEnabled msgs ∧ depth msgs + 1 < maxNestedMsgs)) := by
  rw [ald.anteHandle_eq_ok, ← and_assoc, ald.passes_iff, ald.permits_iff, Nat.add_comm 1]
  exact and_congr_right_iff

/-- The decorator of the application, for a `MsgExec` in a `MsgExec`. -/
theorem limiter_exact_nested :
    cosmosAuthzLimiter.anteHandle [.exec [.exec [.other "/cosmos.bank.v1beta1.MsgSend"]]] = .ok () ↔
      cosmosAuthzLimiter.Permits [.exec [.exec [.other "/cosmos.bank.v1beta1.MsgSend"]]] := by
  refine (limiter_exact cosmosAuthzLimiter _).2 fun _ => ?_
  exact iff_of_true (by decide) ⟨by unfold AuthzEnabled; decide, by decide⟩

/-- A list of `MsgExec` none of which is inside another. -/
def siblings (n : ℕ) : List Msg :=
  List.replicate n (.exec [.other "/cosmos.bank.v1beta1.MsgSend"])

/-- **Siblings are counted as levels.**  Six `MsgExec` side by side, each with one
message that may be executed, are refused for their nesting.  And a decorator that disables
`MsgGrant` lets a `MsgExec` carry one. -/
theorem siblings_refused :
    cosmosAuthzLimiter.anteHandle (siblings 6) = .error .nested ∧
      cosmosAuthzLimiter.anteHandle (siblings 5) = .ok () ∧
      cosmosAuthzLimiter.Permits (siblings 6) ∧
      ∃ ald : AuthzLimiterDecorator, ald.isDisabledMsg (Msg.grant "").typeURL = true ∧
        ald.anteHandle [.exec [.grant "/cosmos.bank.v1beta1.MsgSend"]] = .ok () ∧
        ¬ald.Permits [.exec [.grant "/cosmos.bank.v1beta1.MsgSend"]] := by
  refine ⟨by decide, by decide, ⟨by decide, by decide, by decide⟩,
    ⟨["/cosmos.authz.v1beta1.MsgGrant"]⟩, by decide, by decide, fun h => ?_⟩
  exact absurd (h.inner (.grant "/cosmos.bank.v1beta1.MsgSend") (by simp [nested, Msg.inside]))
    (by decide)

end AuthzLimiterDecorator
end Moca.Ante
