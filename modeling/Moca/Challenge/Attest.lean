/-
# How often a challenge is attested

Nothing in the store says that a challenge has been attested: `Attest` asks only
whether the challenge is still alive.  A second vote for a slash is refused by the
record of the first slash, which `BeginBlocker` drops after `SlashCoolingOffPeriod`
blocks; a heartbeat is refused by nothing.  So a challenge is attested once if every
vote is for a slash and the record outlives the challenge (`attested_once`);
`attested_twice` shows what happens otherwise.

A run keeps the list of its successful attestations beside the state.
-/

import Moca.Challenge.Submit

namespace Moca.Challenge

open SortedMap State

/-- A successful attestation. -/
structure Attestation where
  challengeId : ℕ
  spId : ℕ
  objectId : ℕ
  height : ℕ
  deriving DecidableEq

/-- The store of the module in a block, and the attestations so far, in their order. -/
structure Chain where
  state : State
  height : ℕ
  log : List Attestation

def Chain.start (params : Params) (height : ℕ) : Chain := ⟨.empty params, height, []⟩

inductive Op
  | beginBlock
  | submit (msg : MsgSubmit)
  | attest (msg : MsgAttest)
  | endBlock (seeds : ℕ → ℕ × (ℕ → ℤ))
  | updateParams (params : Params)

/-- The id that the operator address of an attestation stands for. -/
def Ctx.spOf (ctx : Ctx) (msg : MsgAttest) : ℕ :=
  ((ctx.storage.virtualGroup.sp.getStorageProviderByOperatorAddr msg.spOperatorAddress).map
    fun sp => sp.id).getD 0

/-- One step, in the block that the chain is in. -/
def Chain.step (c : Chain) (l : Ctx × Op) : Option Chain :=
  let ctx := { l.1 with blockHeight := c.height }
  match l.2 with
  | .beginBlock =>
    some { c with state := c.state.beginBlocker (c.height + 1), height := c.height + 1 }
  | .submit msg => (c.state.submit ctx msg).toOption.map fun r => { c with state := r.1 }
  | .attest msg => (c.state.attest ctx msg).toOption.map fun s =>
    { c with state := s
             log := c.log ++ [⟨msg.challengeId, ctx.spOf msg, msg.objectId, c.height⟩] }
  | .endBlock seeds => some { c with state := c.state.endBlocker ctx seeds }
  | .updateParams params => some { c with state := { c.state with params } }

/-! ### What the operations do -/

variable {ctx : Ctx} {s s' : State} {msg : MsgAttest}

/-- A submission that goes through starts a challenge. -/
theorem submit_eq_ok {msg : MsgSubmit} {event : EventStartChallenge}
    (h : s.submit ctx msg = .ok (s', event)) :
    ∃ count, s' = { s with challengeCountCurrentBlock := count }.saveChallenge
      (add64 s.challengeId 1) (s.expiredHeight ctx) := by
  unfold submit submitIn at h
  split at h
  · cases h
  obtain ⟨sp, -, h⟩ := bind_eq_ok.1 h
  split_ifs at h
  obtain ⟨e, -, h⟩ := bind_eq_ok.1 h
  obtain ⟨r, -, h⟩ := bind_eq_ok.1 h
  split_ifs at h
  obtain ⟨i, -, h⟩ := bind_eq_ok.1 h
  cases h
  exact ⟨_, rfl⟩

theorem attested_eq_ok {r : Sp.StorageProvider × Storage.ObjectInfo}
    (h : s.attested ctx msg = .ok r) :
    r.1.id = ctx.spOf msg ∧ ctx.storage.objects.find? msg.objectId = some r.2 ∧
      ∃ expiry, s.challenges.find? msg.challengeId = some expiry := by
  unfold attested at h
  unfold Ctx.spOf
  cases hsp : ctx.storage.virtualGroup.sp.getStorageProviderByOperatorAddr msg.spOperatorAddress with
  | none =>
    rw [hsp] at h
    cases h
  | some sp =>
    rw [hsp] at h
    dsimp only at h
    split_ifs at h with halive
    split at h
    · cases h
    next o ho =>
    split at h
    · cases h
    obtain ⟨primary, -, h⟩ := bind_eq_ok.1 h
    split_ifs at h
    cases h
    exact ⟨rfl, ho, Option.ne_none_iff_exists'.1 (by simpa [SortedMap.contains] using halive)⟩

/-- Votes that are verified have been cast by someone. -/
theorem attested_validators {r : Sp.StorageProvider × Storage.ObjectInfo}
    (h : s.attested ctx msg = .ok r) : 0 < ctx.validators.length := by
  unfold attested at h
  split at h
  · cases h
  split_ifs at h with _ _ hvalidators
  exact List.length_pos_iff.2 hvalidators

/-- What a vote for a slash needs and writes. -/
theorem attest_eq_ok (hvote : msg.voteResult = .challengeSucceed) (h : s.attest ctx msg = .ok s') :
    ∃ expiry o, s.challenges.find? msg.challengeId = some expiry ∧
      ctx.storage.objects.find? msg.objectId = some o ∧
      s.existsSlash (ctx.spOf msg) msg.objectId = false ∧
      s' = (s.saveSlash ctx (ctx.spOf msg) msg.objectId o).appendAttestedChallenge
        ⟨msg.challengeId, .challengeSucceed⟩ := by
  obtain ⟨⟨sp, o⟩, hattested, h⟩ := bind_eq_ok.1 h
  obtain ⟨hid, ho, expiry, hexpiry⟩ := attested_eq_ok hattested
  rw [hvote] at h
  dsimp only at h hid
  rw [hid] at h
  split_ifs at h with hslash
  obtain ⟨-, -, h⟩ := bind_eq_ok.1 h
  cases h
  exact ⟨expiry, o, hexpiry, ho, by simpa using hslash, rfl⟩

theorem foldl_push_sublist : ∀ (l : List AttestedChallenge) (buffer : RingBuffer AttestedChallenge),
    (l.foldl .push buffer).toList.Sublist (buffer.toList ++ l)
  | [], buffer => by simp
  | a :: l, buffer => by
    have hrest := foldl_push_sublist l (buffer.push a)
    have hpush := (buffer.toList_push_sublist a).append (List.Sublist.refl l)
    rw [List.append_assoc] at hpush
    exact hrest.trans hpush

/-- The list of attested challenges grows at its end, and may lose entries. -/
theorem getAttestedChallenges_append (challenge : AttestedChallenge) :
    (s.appendAttestedChallenge challenge).getAttestedChallenges.Sublist
      (s.getAttestedChallenges ++ [challenge]) := by
  unfold appendAttestedChallenge getAttestedChallenges
  cases s.attestedChallenges with
  | none => exact RingBuffer.toList_push_sublist _ _
  | some buffer =>
    refine (RingBuffer.toList_push_sublist _ _).trans (List.Sublist.append ?_ (List.Sublist.refl _))
    dsimp only
    split_ifs
    · exact foldl_push_sublist _ _
    · exact List.Sublist.refl _

/-- Attested challenges that are appended one after the other, each under its own params. -/
def State.appendAll (s : State) (calls : List (Params × AttestedChallenge)) : State :=
  calls.foldl (fun s e => { s with params := e.1 }.appendAttestedChallenge e.2) s

/-- The buffer, if there is one, is packed. -/
def State.BufferPacked (s : State) : Prop := ∀ buffer ∈ s.attestedChallenges, buffer.Packed

/-- What is read after an append, and that the buffer stays packed. -/
theorem State.BufferPacked.append (h : s.BufferPacked) (challenge : AttestedChallenge) :
    (s.appendAttestedChallenge challenge).BufferPacked ∧
      (s.appendAttestedChallenge challenge).getAttestedChallenges =
        (s.getAttestedChallenges ++ [challenge]).rtake s.params.attestationKeptCount := by
  have hfresh := RingBuffer.packed_empty (α := AttestedChallenge) s.params.attestationKeptCount
    s.params.kept_pos
  unfold BufferPacked at h ⊢
  unfold appendAttestedChallenge getAttestedChallenges
  cases hbuffer : s.attestedChallenges with
  | none =>
    refine ⟨?_, hfresh.toList_push challenge⟩
    rintro buffer ⟨⟩
    exact hfresh.push challenge
  | some buffer =>
    have hpacked := h buffer hbuffer
    dsimp only
    split_ifs with hsize
    · -- the entries are written anew, and the new one after them
      obtain ⟨hanew, hkept, hlist⟩ := hfresh.foldl_push (l := buffer.toList)
      refine ⟨?_, ?_⟩
      · rintro buffer' ⟨⟩
        exact hanew.push challenge
      · refine (hanew.toList_push challenge).trans ?_
        rw [hlist, hkept]
        exact RingBuffer.rtake_append_rtake _ _ _
    · refine ⟨?_, ?_⟩
      · rintro buffer' ⟨⟩
        exact hpacked.push challenge
      · refine (hpacked.toList_push challenge).trans ?_
        rw [not_not.1 hsize]
        rfl

/-- **After each append the last entries are read**, as many as the params then keep, of the list
read before and the new entry; the number to keep may change between the appends. -/
theorem appendAttestedChallenge_keeps_last (s : State) (hs : s.attestedChallenges = none)
    (calls : List (Params × AttestedChallenge)) (params : Params) (challenge : AttestedChallenge) :
    ({ s.appendAll calls with params := params }.appendAttestedChallenge
        challenge).getAttestedChallenges =
      ((s.appendAll calls).getAttestedChallenges ++ [challenge]).rtake
        params.attestationKeptCount := by
  have hpacked : ∀ (calls : List (Params × AttestedChallenge)) (s : State), s.BufferPacked →
      (s.appendAll calls).BufferPacked := by
    intro calls
    induction calls with
    | nil => exact fun s h => h
    | cons e calls ih =>
      intro s h
      have h' : BufferPacked { s with params := e.1 } := h
      exact ih _ (h'.append e.2).1
  have hstart : s.BufferPacked := by
    intro buffer hbuffer
    rw [hs] at hbuffer
    cases hbuffer
  have hbefore : BufferPacked { s.appendAll calls with params := params } :=
    hpacked calls s hstart
  exact (hbefore.append challenge).2

/-- The default params with another number of attested challenges to keep. -/
def keeping (n : ℕ) (h : 0 < n) : Params :=
  { defaultParams with attestationKeptCount := n, kept_pos := h }

/-- Three challenges are kept, then one, then two. -/
theorem appendAttestedChallenge_keeps_last_resized :
    (State.empty defaultParams).attestedChallenges = none ∧
      ({ (State.empty defaultParams).appendAll
          [(keeping 3 (by decide), ⟨1, .challengeFailed⟩),
            (keeping 3 (by decide), ⟨2, .challengeSucceed⟩),
            (keeping 1 (by decide), ⟨3, .challengeSucceed⟩)] with
        params := keeping 2 (by decide) }.appendAttestedChallenge
          ⟨4, .challengeFailed⟩).getAttestedChallenges =
        [⟨3, .challengeSucceed⟩, ⟨4, .challengeFailed⟩] :=
  ⟨rfl, (appendAttestedChallenge_keeps_last (State.empty defaultParams) rfl _ _ _).trans
    (by decide)⟩

/-- `BeginBlocker` keeps what it does not drop. -/
theorem beginBlocker_eq (height : ℕ) (s : State) : ∃ slashes amounts,
    s.beginBlocker height = { s with
      challenges := s.challenges.filter fun _ expiry => !decide (expiry ≤ height)
      slashes := slashes
      spSlashAmounts := amounts
      challengeCountCurrentBlock := 0 } ∧
    amounts = (if s.params.spSlashCountingWindow > 0 ∧ height > 0 ∧
      height % s.params.spSlashCountingWindow = 0 then .empty else s.spSlashAmounts) ∧
    ∀ k a, s.slashes.find? k = some a →
      slashes.find? k = some a ∨ a + s.params.slashCoolingOffPeriod ≤ height := by
  have hdrop : ∀ k a, s.slashes.find? k = some a →
      (s.slashes.filter fun _ slashHeight =>
        !decide (slashHeight ≤ height - s.params.slashCoolingOffPeriod)).find? k = some a ∨
      a ≤ height - s.params.slashCoolingOffPeriod := by
    intro k a ha
    by_cases hold : a ≤ height - s.params.slashCoolingOffPeriod
    · exact .inr hold
    · exact .inl (find?_filter_eq_some.2 ⟨ha, by simpa using hold⟩)
  unfold beginBlocker
  dsimp only [removeChallengeUntil, removeSlashUntil]
  split_ifs with hcool
  · exact ⟨_, _, rfl, rfl, fun k a ha => (hdrop k a ha).imp id fun hle => by omega⟩
  · exact ⟨_, _, rfl, rfl, fun k a ha => (hdrop k a ha).imp id fun hle => by omega⟩
  · exact ⟨_, _, rfl, rfl, fun k a ha => .inl ha⟩
  · exact ⟨_, _, rfl, rfl, fun k a ha => .inl ha⟩

/-! ### The invariant of a run -/

/-- `n` blocks that a challenge does not outlive and a slash does. -/
structure Params.Separated (p : Params) (n : ℕ) : Prop where
  keepAlive : p.challengeKeepAlivePeriod ≤ n
  coolingOff : n ≤ p.slashCoolingOffPeriod

/-- What holds of a run: an attested challenge that is still alive has its slash on record. -/
structure Chain.Books (n : ℕ) (c : Chain) : Prop where
  params : c.state.params.Separated n
  ids : ∀ e ∈ c.log, e.challengeId ≤ c.state.challengeId
  alive : ∀ id expiry, c.state.challenges.find? id = some expiry → id ≤ c.state.challengeId ∧
    expiry ≤ c.height + n ∧ (c.height < expiry ∨ ∀ e ∈ c.log, e.challengeId = id → e.height = c.height)
  lapses : ∀ e ∈ c.log, e.height ≤ c.height ∧ ∀ expiry,
    c.state.challenges.find? e.challengeId = some expiry → expiry ≤ e.height + n
  recorded : ∀ e ∈ c.log, (∃ height, c.state.slashes.find? (slashKey e.spId e.objectId) = some height ∧
    e.height ≤ height) ∨ e.height + n ≤ c.height
  once : (c.log.map fun e => e.challengeId).Nodup
  listed : (c.state.getAttestedChallenges.map fun a => a.id).Sublist
    (c.log.map fun e => e.challengeId)

namespace Chain.Books

variable {n : ℕ} {c : Chain} (h : c.Books n)

include h

theorem beginBlock :
    Books n { c with state := c.state.beginBlocker (c.height + 1), height := c.height + 1 } := by
  obtain ⟨slashes, amounts, heq, -, hslashes⟩ := beginBlocker_eq (c.height + 1) c.state
  have hcool := h.params.coolingOff
  rw [heq]
  refine ⟨h.params, h.ids, fun id expiry hexpiry => ?_, fun e he => ⟨?_, fun expiry hexpiry => ?_⟩,
    fun e he => ?_, h.once, h.listed⟩
  · obtain ⟨hfind, hlate⟩ := find?_filter_eq_some.1 hexpiry
    obtain ⟨hid, hbound, -⟩ := h.alive id expiry hfind
    exact ⟨hid, by dsimp only; omega, .inl (by simpa using hlate)⟩
  · exact (h.lapses e he).1.trans (Nat.le_succ _)
  · exact (h.lapses e he).2 expiry (find?_filter_eq_some.1 hexpiry).1
  · -- the record is dropped only after the cooling off period
    dsimp only
    rcases h.recorded e he with ⟨height, hfind, hle⟩ | hlong
    · rcases hslashes _ _ hfind with hkept | hdropped
      · exact .inl ⟨height, hkept, hle⟩
      · exact .inr (by omega)
    · exact .inr (by omega)

theorem saveChallenge (hctx : ctx.blockHeight = c.height) (hwrap : c.state.challengeId + 1 < 2 ^ 64) :
    Books n ⟨c.state.saveChallenge (add64 c.state.challengeId 1) (c.state.expiredHeight ctx), c.height,
      c.log⟩ := by
  rw [add64, Nat.mod_eq_of_lt hwrap]
  have hfresh : ∀ e ∈ c.log, e.challengeId ≠ c.state.challengeId + 1 := by
    intro e he
    have := h.ids e he
    omega
  have hexpired : c.state.expiredHeight ctx ≤ c.height + n := by
    have hmod := Nat.mod_le (c.state.params.challengeKeepAlivePeriod + ctx.blockHeight) (2 ^ 64)
    have halive := h.params.keepAlive
    unfold expiredHeight add64
    omega
  refine ⟨h.params, fun e he => (h.ids e he).trans (Nat.le_succ _), fun id expiry hexpiry => ?_,
    fun e he => ⟨(h.lapses e he).1, fun expiry hexpiry => ?_⟩, h.recorded, h.once, h.listed⟩
  · dsimp only [State.saveChallenge] at hexpiry ⊢
    rw [find?_insert] at hexpiry
    split_ifs at hexpiry with hid
    · subst hid
      cases hexpiry
      exact ⟨le_rfl, hexpired, .inr fun e he heq => absurd heq (hfresh e he)⟩
    · obtain ⟨hle, hrest⟩ := h.alive id expiry hexpiry
      exact ⟨by omega, hrest⟩
  · refine (h.lapses e he).2 expiry ?_
    rwa [State.saveChallenge, find?_insert_of_ne _ _ (hfresh e he)] at hexpiry

/-- A vote for a slash goes through only for a challenge that has not been attested. -/
theorem not_attested {expiry : ℕ} {id spID objectID : ℕ}
    (halive : c.state.challenges.find? id = some expiry)
    (hslash : c.state.existsSlash spID objectID = false)
    (hsame : ∀ e ∈ c.log, e.challengeId = id → e.spId = spID ∧ e.objectId = objectID) :
    id ∉ c.log.map fun e => e.challengeId := by
  intro hmem
  obtain ⟨e, he, rfl⟩ := List.mem_map.1 hmem
  obtain ⟨rfl, rfl⟩ := hsame e he rfl
  have hpos := c.state.params.keepAlive_pos
  have hkeep := h.params.keepAlive
  have hbound := (h.lapses e he).2 expiry halive
  have hlong : e.height + n ≤ c.height := by
    rcases h.recorded e he with ⟨height, hfind, -⟩ | hlong
    · simp [existsSlash, SortedMap.contains, hfind] at hslash
    · exact hlong
  rcases (h.alive _ _ halive).2.2 with hlt | hnow
  · omega
  · have := hnow e he rfl
    omega

theorem attest (hctx : ctx.blockHeight = c.height) (hvote : msg.voteResult = .challengeSucceed)
    (hsame : ∀ e ∈ c.log, e.challengeId = msg.challengeId →
      e.spId = ctx.spOf msg ∧ e.objectId = msg.objectId)
    (hattest : c.state.attest ctx msg = .ok s') :
    Books n ⟨s', c.height, c.log ++ [⟨msg.challengeId, ctx.spOf msg, msg.objectId, c.height⟩]⟩ := by
  obtain ⟨expiry, o, halive, -, hslash, rfl⟩ := attest_eq_ok hvote hattest
  have hnew := h.not_attested halive hslash hsame
  obtain ⟨hid, hbound, -⟩ := h.alive _ _ halive
  refine ⟨h.params, ?_, fun id expiry' hexpiry => ?_, ?_, ?_, ?_, ?_⟩
  · simpa [or_imp, forall_and] using ⟨h.ids, hid⟩
  · obtain ⟨hle, hbound, hnow⟩ := h.alive id expiry' hexpiry
    refine ⟨hle, hbound, hnow.imp_right fun hnow e he heq => ?_⟩
    rcases List.mem_append.1 he with hold | hlast
    · exact hnow e hold heq
    · rw [List.mem_singleton.1 hlast]
  · intro e he
    rcases List.mem_append.1 he with hold | hlast
    · exact h.lapses e hold
    · obtain rfl := List.mem_singleton.1 hlast
      exact ⟨le_rfl, fun _ hexpiry => (h.alive _ _ hexpiry).2.1⟩
  · intro e he
    dsimp only [appendAttestedChallenge, saveSlash]
    rw [find?_insert]
    rcases List.mem_append.1 he with hold | hlast
    · split_ifs
      · exact .inl ⟨_, rfl, hctx.symm ▸ (h.lapses e hold).1⟩
      · exact h.recorded e hold
    · obtain rfl := List.mem_singleton.1 hlast
      exact .inl ⟨_, if_pos rfl, hctx.ge⟩
  · rw [List.map_append]
    exact h.once.append (List.nodup_singleton _) (by simpa using hnew)
  · refine ((getAttestedChallenges_append _).map _).trans ?_
    rw [List.map_append, List.map_append]
    exact h.listed.append (List.Sublist.refl _)

end Chain.Books

theorem Chain.Books.drawChallenges {n : ℕ} : ∀ (seeds : List (ℕ × (ℕ → ℤ))) (missing : ℕ)
    (done : List (ℕ × ℕ)) (c : Chain), c.Books n → ctx.blockHeight = c.height →
      c.state.challengeId + missing < 2 ^ 64 →
      Books n ⟨c.state.drawChallenges ctx missing done seeds, c.height, c.log⟩
  | _, 0, _, c, h, _, _ => by
    rw [State.drawChallenges]
    exact h
  | [], missing + 1, _, c, h, _, _ => h
  | seed :: seeds, missing + 1, done, c, h, hctx, hwrap => by
    rw [State.drawChallenges]
    split
    · exact drawChallenges seeds _ done c h hctx hwrap
    · split_ifs
      · exact drawChallenges seeds _ done c h hctx hwrap
      · refine drawChallenges seeds missing _ _ (h.saveChallenge hctx (by omega)) hctx ?_
        dsimp only [State.saveChallenge, add64]
        omega

/-- The messages of a run: every vote is for a slash, the votes on one challenge are about the same
provider and object, the params separate the two periods, and the challenge ids do not wrap. -/
def Op.Allowed (n : ℕ) (c : Chain) (l : Ctx × Op) : Prop :=
  match l.2 with
  | .attest msg => msg.voteResult = .challengeSucceed ∧ ∀ e ∈ c.log,
    e.challengeId = msg.challengeId → e.spId = l.1.spOf msg ∧ e.objectId = msg.objectId
  | .updateParams params => params.Separated n
  | .submit _ => c.state.challengeId + 1 < 2 ^ 64
  | .endBlock _ => c.state.challengeId + c.state.params.challengeCountPerBlock < 2 ^ 64
  | .beginBlock => True

theorem Chain.Books.step {n : ℕ} {c c' : Chain} {l : Ctx × Op} (h : c.Books n)
    (hl : Op.Allowed n c l) (hstep : c.step l = some c') : c'.Books n := by
  obtain ⟨ctx, op⟩ := l
  cases op with
  | beginBlock =>
    cases hstep
    exact h.beginBlock
  | submit msg =>
    obtain ⟨⟨s', event⟩, hsubmit, rfl⟩ := Option.map_eq_some_iff.1 hstep
    obtain ⟨count, rfl⟩ := submit_eq_ok (Except.toOption_eq_some hsubmit)
    have hcounted : Books n ⟨{ c.state with challengeCountCurrentBlock := count }, c.height, c.log⟩ :=
      ⟨h.params, h.ids, h.alive, h.lapses, h.recorded, h.once, h.listed⟩
    exact hcounted.saveChallenge rfl hl
  | attest msg =>
    obtain ⟨s', hattest, rfl⟩ := Option.map_eq_some_iff.1 hstep
    exact h.attest rfl hl.1 hl.2 (Except.toOption_eq_some hattest)
  | endBlock seeds =>
    cases hstep
    exact .drawChallenges _ _ _ c h rfl (lt_of_le_of_lt (Nat.add_le_add_left (Nat.sub_le _ _) _) hl)
  | updateParams params =>
    cases hstep
    exact ⟨hl, h.ids, h.alive, h.lapses, h.recorded, h.once, h.listed⟩

/-- **A challenge is attested once**, in every run whose votes are for a slash, whose params let the
record of a slash outlive every challenge and whose challenge ids do not wrap: no id is attested twice or listed twice, and a
further attestation of it is refused. -/
theorem attested_once {n : ℕ} (params : Params) (hparams : params.Separated n) (height : ℕ) (c : Chain)
    (hrun : Reachable Chain.step (Op.Allowed n) (Chain.start params height) c) :
    (c.log.map fun e => e.challengeId).Nodup ∧
      (c.state.getAttestedChallenges.map fun a => a.id).Nodup ∧
      ∀ ctx msg, Op.Allowed n c (ctx, .attest msg) →
        msg.challengeId ∈ c.log.map (fun e => e.challengeId) → c.step (ctx, .attest msg) = none := by
  have hbooks : c.Books n := by
    refine hrun.invariant (Chain.Books n) ?_ fun c l c' h hl hstep => h.step hl hstep
    exact ⟨hparams, by simp [Chain.start], by simp [Chain.start, State.empty],
      by simp [Chain.start], by simp [Chain.start], by simp [Chain.start],
      by simp [Chain.start, State.empty, getAttestedChallenges]⟩
  refine ⟨hbooks.once, hbooks.once.sublist hbooks.listed, fun ctx msg hl hmem => ?_⟩
  by_contra hstep
  obtain ⟨c', hc'⟩ := Option.ne_none_iff_exists'.1 hstep
  obtain ⟨s', hattest, -⟩ := Option.map_eq_some_iff.1 hc'
  obtain ⟨expiry, o, halive, -, hslash, -⟩ := attest_eq_ok hl.1 (Except.toOption_eq_some hattest)
  exact hbooks.not_attested halive hslash hl.2 hmem

/-- A vote on the first challenge, which is of the sealed object on its primary provider. -/
def sealedVote (voteResult : VoteResult) : MsgAttest := ⟨9, 1, 1, 101, voteResult, some 7⟩

/-- The challenge is submitted and attested. -/
def attestedRun (storage : Storage.State) (voteResult : VoteResult) : List (Ctx × Op) :=
  [(blockAt 5 storage, .submit (sealedMsg 101)), (blockAt 5 storage, .attest (sealedVote voteResult))]

/-- With the default params the second vote is refused. -/
theorem attested_once_default : ∃ d c,
    runSteps Storage.Chain.step (Storage.sampleStart 1) sealedObject = some d ∧
      runSteps Chain.step (Chain.start defaultParams 5) (attestedRun d.state .challengeSucceed) =
        some c ∧
      c.log = [⟨1, 1, 1, 5⟩] ∧
      c.step (blockAt 5 d.state, .attest (sealedVote .challengeSucceed)) = none := by
  obtain ⟨d, hd, c, hc, hlog, hsp⟩ : ∃ d,
      runSteps Storage.Chain.step (Storage.sampleStart 1) sealedObject = some d ∧
      ∃ c, runSteps Chain.step (Chain.start defaultParams 5)
          (attestedRun d.state .challengeSucceed) = some c ∧ c.log = [⟨1, 1, 1, 5⟩] ∧
        (blockAt 5 d.state).spOf (sealedVote .challengeSucceed) = 1 := by decide +kernel
  have hguarded : Guarded Chain.step (Op.Allowed 300) (Chain.start defaultParams 5)
      (attestedRun d.state .challengeSucceed) := by
    have hids : (Chain.start defaultParams 5).state.challengeId + 1 < 2 ^ 64 := by decide
    refine ⟨hids, fun c₁ hc₁ => ⟨⟨rfl, fun e he => ?_⟩, fun _ _ => trivial⟩⟩
    obtain ⟨r, -, rfl⟩ := Option.map_eq_some_iff.1 hc₁
    cases he
  have honce := attested_once defaultParams ⟨le_rfl, le_rfl⟩ 5 c (.of_runSteps .start hguarded hc)
  refine ⟨d, c, hd, hc, hlog, honce.2.2 _ _ ⟨rfl, fun e he _ => ?_⟩ (by simp [hlog, sealedVote])⟩
  rw [hlog, List.mem_singleton] at he
  rw [he]
  exact ⟨hsp.symm, rfl⟩

/-- **A challenge is attested twice**: for a slash, if the record of the first is dropped while the
challenge is alive; and as a heartbeat, in one block, with params that are default otherwise. -/
theorem attested_twice : ∃ d,
    runSteps Storage.Chain.step (Storage.sampleStart 1) sealedObject = some d ∧
      (∃ c, runSteps Chain.step (Chain.start { defaultParams with slashCoolingOffPeriod := 0 } 5)
          (attestedRun d.state .challengeSucceed ++ [(blockAt 6 d.state, .beginBlock),
            (blockAt 6 d.state, .attest (sealedVote .challengeSucceed))]) = some c ∧
        c.log = [⟨1, 1, 1, 5⟩, ⟨1, 1, 1, 6⟩] ∧
        c.state.spSlashAmounts.find? 1 = some (2 * 10 ^ 16)) ∧
      ∃ c, runSteps Chain.step
          (Chain.start { defaultParams with heartbeatInterval := 1, heartbeat_pos := by decide } 5)
          (attestedRun d.state .challengeFailed ++
            [(blockAt 5 d.state, .attest (sealedVote .challengeFailed))]) = some c ∧
        c.state.getAttestedChallenges.map (fun a => a.id) = [1, 1] := by
  decide +kernel

end Moca.Challenge
