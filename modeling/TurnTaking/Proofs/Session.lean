import Mathlib.Data.List.Infix
import TurnTaking.Proofs.Store.Reading
import TurnTaking.Proofs.Store.Rewrite
import TurnTaking.Proofs.Store.Table
import TurnTaking.Session

/-!
# Sessions — the last streak of responses

A row of the session table is all that is kept of the responses that a person was given in a channel, by
whichever avatars. It sums them up (`Sums`): the avatar is that of the last response, and the turns are those of
the streak with which the responses end, the longest one that this avatar has there (`Streak`).

* `Response.sums_after` — one more response lengthens the streak, or begins another one;
* `Told.record` — what is told of every person after one more response to one of them;
* `sums_up_responses` — what is found after any responses, to any people.
-/

namespace TurnTaking

open Store Store.Access

namespace Session

/-- A response of an avatar to a person. -/
structure Response where
  channelId : String
  userId : String
  avatarId : String
  time : Int
deriving DecidableEq, Repr

/-- The person, in the channel. -/
def Response.key (r : Response) : String × String := (r.channelId, r.userId)

/-- All responses are recorded, one after another. -/
def recordAll : List Response → Access Unit
  | [] => return
  | r :: rest => do
    recordResponse r.channelId r.userId r.avatarId r.time
    recordAll rest

/-- The responses to a person in a channel. -/
def responsesTo (key : String × String) (responses : List Response) : List Response :=
  responses.filter (·.key = key)

/-- The longest suffix of the responses that holds none but those of the avatar. -/
structure Streak (avatar : String) (responses streak : List Response) : Prop where
  suffix : streak <:+ responses
  same : ∀ r ∈ streak, r.avatarId = avatar
  longest : ∀ other, other <:+ responses → (∀ r ∈ other, r.avatarId = avatar) →
    other.length ≤ streak.length

/-- The session tells which avatar gave the last of the responses and when, how many it gave in a row up to
then, and when it gave the first of these. -/
structure Sums (responses : List Response) (s : Session) : Prop where
  last : ∃ r, responses.getLast? = some r ∧ r.avatarId = s.avatarId ∧ r.time = s.lastActivityAt
  streak : ∃ first rest, Streak s.avatarId responses (first :: rest) ∧
    s.turns = (first :: rest).length ∧ s.startedAt = first.time

/-! ## One more response -/

namespace Streak

variable {avatar : String} {responses streak : List Response} {r : Response}

/-- Another response of the same avatar lengthens its streak. -/
theorem concat (h : Streak avatar responses streak) (hr : r.avatarId = avatar) :
    Streak avatar (responses ++ [r]) (streak ++ [r]) := by
  constructor
  · exact List.suffix_concat_iff.mpr (.inr ⟨streak, rfl, h.suffix⟩)
  · intro x hx
    rcases List.mem_append.mp hx with hx | hx
    · exact h.same x hx
    · rw [List.mem_singleton.mp hx, hr]
  · intro other hother hsame
    rcases List.suffix_concat_iff.mp hother with rfl | ⟨before, rfl, hbefore⟩
    · exact Nat.zero_le _
    · have hlength := h.longest before hbefore fun x hx => hsame x (List.mem_append_left _ hx)
      simp only [List.length_append]
      omega

/-- After a response of another avatar, or after none, a streak begins. -/
theorem begin (hlast : ∀ last, responses.getLast? = some last → last.avatarId ≠ r.avatarId) :
    Streak r.avatarId (responses ++ [r]) [r] := by
  constructor
  · exact List.suffix_append _ _
  · intro x hx
    rw [List.mem_singleton.mp hx]
  · intro other hother hsame
    rcases List.suffix_concat_iff.mp hother with rfl | ⟨before, rfl, hbefore⟩
    · exact Nat.zero_le _
    · -- a longer streak would go back to the response before, which is of another avatar
      cases hend : before.getLast? with
      | none =>
        rw [List.getLast?_eq_none_iff.mp hend]
        exact Nat.le_refl _
      | some last =>
        obtain ⟨more, rfl⟩ := hbefore
        have hlast' := hlast last (by rw [List.getLast?_append, hend, Option.some_or])
        have hmem := List.mem_append_left [r] (List.mem_of_getLast? hend)
        exact absurd (hsame last hmem) hlast'

end Streak

namespace Response

/-- The session after the first response. -/
def first (r : Response) : Session := ⟨r.channelId, r.userId, r.avatarId, r.time, r.time, 1⟩

/-- The session after one more response. -/
def after (s : Session) (r : Response) : Session :=
  if s.avatarId = r.avatarId then { s with turns := s.turns + 1, lastActivityAt := r.time }
  else { s with avatarId := r.avatarId, startedAt := r.time, turns := 1, lastActivityAt := r.time }

variable {responses : List Response} {s : Session} {r : Response}

theorem sums_first (r : Response) : Sums [r] r.first where
  last := ⟨r, rfl, rfl, rfl⟩
  streak := by
    have hbegins : Streak r.avatarId ([] ++ [r]) [r] := .begin (by simp)
    exact ⟨r, [], hbegins, rfl, rfl⟩

/-- What summed up all responses before sums up one more. -/
theorem sums_after (h : Sums responses s) (r : Response) : Sums (responses ++ [r]) (r.after s) := by
  obtain ⟨last, hlast, havatar, -⟩ := h.last
  rw [after]
  split
  · rename_i hsame
    obtain ⟨first, rest, hstreak, hturns, hstart⟩ := h.streak
    constructor
    · exact ⟨r, List.getLast?_concat, hsame.symm, rfl⟩
    · refine ⟨first, rest ++ [r], hstreak.concat hsame.symm, ?_, hstart⟩
      simp only [hturns, List.length_cons, List.length_append, List.length_nil]
  · rename_i hother
    constructor
    · exact ⟨r, List.getLast?_concat, rfl, rfl⟩
    · refine ⟨r, [], .begin ?_, rfl, rfl⟩
      intro x hx hsame
      rw [hlast, Option.some.injEq] at hx
      subst hx
      exact hother (havatar.symm.trans hsame)

end Response

/-! ## What the table keeps -/

/-- The row holds the session. Of a number of turns beyond 64 bits nothing is said. -/
structure Holds (row : SessionRow) (s : Session) : Prop where
  channelId : row.channelId = s.channelId
  userId : row.userId = s.userId
  avatarId : row.avatarId = s.avatarId
  startedAt : row.startedAt = .number s.startedAt
  lastActivityAt : row.lastActivityAt = .number s.lastActivityAt
  turns : s.turns < 0x8000000000000000 → row.turns = .number s.turns

/-- What is told of a person in a channel: nothing before the first response, and what sums up all responses
after. -/
def Told (responses : List Response) (key : String × String) : Option Session → Prop
  | none => responsesTo key responses = []
  | some s => (s.channelId, s.userId) = key ∧ Sums (responsesTo key responses) s

/-- The rows hold what is told of everyone. -/
def Kept (responses : List Response) (rows : List SessionRow) : Prop :=
  ∀ key, ∃ told, Told responses key told ∧ Option.Rel Holds (Table.lookup SessionRow.key key rows) told

theorem Kept.start : Kept [] [] := by
  intro key
  exact ⟨none, rfl, .none⟩

namespace Response

/-- The row of a person who had none before. -/
def newRow (r : Response) : SessionRow :=
  ⟨r.channelId, r.userId, r.avatarId, .number r.time, .number r.time, .number 1⟩

/-- The row of a person after one more response. -/
def revise (r : Response) (row : SessionRow) : SessionRow :=
  { row with
    startedAt := if row.avatarId = r.avatarId then row.startedAt else .number r.time
    turns := if row.avatarId = r.avatarId then row.turns.plus 1 else .number 1
    avatarId := r.avatarId
    lastActivityAt := .number r.time }

theorem holds_newRow (r : Response) : Holds r.newRow r.first :=
  ⟨rfl, rfl, rfl, rfl, rfl, fun _ => rfl⟩

/-- The columns of the row change as the session does, each by the avatar that was there before. -/
theorem holds_revise {row : SessionRow} {s : Session} (h : Holds row s) (r : Response) :
    Holds (r.revise row) (r.after s) := by
  rw [after]
  split
  · -- the same avatar goes on
    rename_i hsame
    have hrow : row.avatarId = r.avatarId := h.avatarId.trans hsame
    constructor
    · exact h.channelId
    · exact h.userId
    · exact hsame.symm
    · simp only [revise, if_pos hrow, h.startedAt]
    · rfl
    · intro hsmall
      have hturns : s.turns + 1 < 0x8000000000000000 := hsmall
      have hbounded : Numeral.isInt64 ((s.turns : Int) + 1) = true := by
        simp only [Numeral.isInt64, Bool.and_eq_true, decide_eq_true_eq]
        omega
      simp only [revise, if_pos hrow, h.turns (by omega), Cell.plus_number hbounded]
      rfl
  · -- another avatar takes over, and the turns start anew
    rename_i hother
    have hrow : row.avatarId ≠ r.avatarId := fun hsame => hother (h.avatarId.symm.trans hsame)
    constructor
    · exact h.channelId
    · exact h.userId
    · rfl
    · simp only [revise, if_neg hrow]
    · rfl
    · intro _
      simp only [revise, if_neg hrow]
      rfl

/-- A response is recorded in the row of its person. -/
theorem rewrites (r : Response) :
    Rewrites .sessions (fun _ => ()) (Table.put SessionRow.key r.newRow r.revise)
      (recordResponse r.channelId r.userId r.avatarId r.time) :=
  Rewrites.change fun rows => ((), Table.put SessionRow.key r.newRow r.revise rows)

/-- One more response is told of its person, and of nobody else. -/
theorem kept_put {responses : List Response} {rows : List SessionRow} (h : Kept responses rows)
    (r : Response) : Kept (responses ++ [r]) (Table.put SessionRow.key r.newRow r.revise rows) := by
  intro key
  obtain ⟨told, htold, hrow⟩ := h key
  have hresponses : responsesTo key (responses ++ [r]) =
      responsesTo key responses ++ if r.key = key then [r] else [] := by
    rw [responsesTo, List.filter_append, List.filter_singleton]
    simp only [Bool.cond_decide]
    rfl
  have hkey : r.newRow.key = r.key := rfl
  rw [Table.lookup_put (by exact fun _ => rfl), hkey]
  by_cases hr : r.key = key
  · -- the session of the one who was answered
    rw [if_pos hr]
    rw [if_pos hr] at hresponses
    generalize Table.lookup SessionRow.key key rows = found at hrow ⊢
    cases hrow with
    | none =>
      have hfirst : responsesTo key responses = [] := htold
      refine ⟨some r.first, ⟨hr, ?_⟩, .some (holds_newRow r)⟩
      rw [hresponses, hfirst]
      exact sums_first r
    | some hholds =>
      rename_i s
      refine ⟨some (r.after s), ⟨?_, ?_⟩, .some (holds_revise hholds r)⟩
      · rw [after]
        split
        · exact htold.1
        · exact htold.1
      · rw [hresponses]
        exact sums_after htold.2 r
  · -- any other session
    rw [if_neg hr]
    rw [if_neg hr, List.append_nil] at hresponses
    refine ⟨told, ?_, hrow⟩
    cases told with
    | none => exact hresponses.trans htold
    | some s => exact ⟨htold.1, hresponses ▸ htold.2⟩

end Response

/-- Whatever was recorded before, after any responses that are recorded the rows hold what is told of
everyone. -/
theorem Kept.recordAll {before : List Response} {rows : List SessionRow} (h : Kept before rows)
    {t : Tables} (hrows : t.sessions = some rows) (responses : List Response) :
    ∃ rows', (Session.recordAll responses).Runs (.ofTables t) (.ok ())
        (.ofTables { t with sessions := some rows' }) ∧
      Kept (before ++ responses) rows' := by
  induction responses generalizing before rows t with
  | nil =>
    refine ⟨rows, ?_, ?_⟩
    · rw [← hrows]
      rfl
    · rwa [List.append_nil]
  | cons r rest ih =>
    have hfirst := r.rewrites.untroubled (t := t) hrows
    obtain ⟨rows', hrest, hkept⟩ := ih (r.kept_put h)
      (t := { t with sessions := some (Table.put SessionRow.key r.newRow r.revise rows) }) rfl
    refine ⟨rows', hfirst.bind hrest, ?_⟩
    rwa [List.append_assoc] at hkept

/-! ## What is found -/

/-- A row is read as the session that it holds, if the turns are a number of 32 bits. -/
theorem readSession_of_holds {row : SessionRow} {s : Session} (h : Holds row s)
    (hturns : s.turns < 0x100000000) : readSession row = .ok s := by
  have hcell : row.turns = .number s.turns := h.turns (by omega)
  rw [readSession, h.startedAt, h.lastActivityAt, hcell, h.channelId, h.userId, h.avatarId,
    readNat32_nat hturns]
  rfl

/-- It cannot be read if they are more. -/
theorem readSession_of_excess {row : SessionRow} {s : Session} (h : Holds row s)
    (hmany : 0x100000000 ≤ s.turns) (hturns : s.turns < 0x8000000000000000) :
    readSession row = .error (.outOfRange s.turns 5) := by
  have hcell : row.turns = .number s.turns := h.turns hturns
  rw [readSession, h.startedAt, h.lastActivityAt, hcell, readNat32_excess (by omega)]
  rfl

/-- A streak is no longer than all responses. -/
theorem Sums.turns_le {responses : List Response} {s : Session} (h : Sums responses s) :
    s.turns ≤ responses.length := by
  obtain ⟨first, rest, hstreak, hturns, -⟩ := h.streak
  rw [hturns]
  exact hstreak.suffix.length_le

/-- After any responses of any avatars were recorded in an empty store, the session of a person in a channel is
found as it sums up the responses to that person there, whoever else was answered in between. It cannot be read
once a streak is longer than what 32 bits count. -/
theorem sums_up_responses (responses : List Response) (channel user : String) :
    ∃ told, Told responses (channel, user) told ∧
      ((∀ s, told = some s → s.turns < 0x100000000) →
        (do recordAll responses; find? channel user).outcome .new = .ok told) ∧
      ∀ s, told = some s → 0x100000000 ≤ s.turns → s.turns < 0x8000000000000000 →
        (do recordAll responses; find? channel user).outcome .new =
          .error (.statement (.outOfRange s.turns 5)) := by
  obtain ⟨rows, hrun, hkept⟩ := Kept.start.recordAll (t := .empty) rfl responses
  obtain ⟨told, htold, hrow⟩ := hkept (channel, user)
  have hfound : (do recordAll responses; find? channel user).outcome .new =
      (readRow? readSession (Table.lookup SessionRow.key (channel, user) rows)).mapError .statement :=
    hrun.outcome_bind.trans (outcome_query_ofTables (r := .sessions) rfl _)
  rw [hfound]
  generalize Table.lookup SessionRow.key (channel, user) rows = row at hrow
  refine ⟨told, htold, ?_, ?_⟩
  · intro hturns
    cases hrow with
    | none => rfl
    | some hholds =>
      rw [readRow?, readSession_of_holds hholds (hturns _ rfl)]
      rfl
  · rintro s rfl hmany hturns
    cases hrow with
    | some hholds =>
      rw [readRow?, readSession_of_excess hholds hmany hturns]
      rfl

/-- Two avatars answer a person by turns, and one of them another person in between. -/
def sample : List Response :=
  [⟨"lobby", "eve", "ada", 1⟩, ⟨"lobby", "eve", "bob", 2⟩, ⟨"den", "eve", "ada", 3⟩,
    ⟨"lobby", "eve", "ada", 4⟩, ⟨"lobby", "dan", "bob", 5⟩, ⟨"lobby", "eve", "ada", 6⟩]

theorem sums_up_sample :
    ∃ told, Told sample ("lobby", "eve") told ∧ (∀ s, told = some s → s.turns < 0x100000000) ∧
      (do recordAll sample; find? "lobby" "eve").outcome .new = .ok told ∧
      told = some ⟨"lobby", "eve", "ada", 4, 6, 2⟩ := by
  obtain ⟨told, htold, hfound, -⟩ := sums_up_responses sample "lobby" "eve"
  have hturns : ∀ s, told = some s → s.turns < 0x100000000 := by
    rintro s rfl
    have hle : s.turns ≤ 4 := htold.2.turns_le
    omega
  have hread : (do recordAll sample; find? "lobby" "eve").outcome .new =
      .ok (some ⟨"lobby", "eve", "ada", 4, 6, 2⟩) := by decide +kernel
  exact ⟨told, htold, hturns, hfound hturns, Except.ok.inj ((hfound hturns).symm.trans hread)⟩

end Session

end TurnTaking
