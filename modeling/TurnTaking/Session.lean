import TurnTaking.Store.Access
import TurnTaking.Store.Reading

/-!
# Sessions — which avatar a person is talking to

A session counts the responses that one avatar gave a person in a row. Another avatar's response
begins a new one.
-/

namespace TurnTaking

/-- The conversation of a person with an avatar. -/
structure Session where
  channelId : String
  userId : String
  avatarId : String
  startedAt : Int
  lastActivityAt : Int
  turns : Nat
deriving DecidableEq, Repr, Inhabited

namespace Session

open Store Store.Access

def recordResponse (channel user avatar : String) (now : Int) : Access Unit :=
  change .sessions fun rows => ((), Table.put SessionRow.key
    ⟨channel, user, avatar, .number now, .number now, .number 1⟩ (fun r => { r with
      startedAt := if r.avatarId = avatar then r.startedAt else .number now
      turns := if r.avatarId = avatar then r.turns.plus 1 else .number 1
      avatarId := avatar
      lastActivityAt := .number now }) rows)

/-- The columns of a session, read in the order in which a first fault is reported. -/
def readSession (r : SessionRow) : Except StatementFault Session := do
  return {
    channelId := r.channelId
    userId := r.userId
    avatarId := r.avatarId
    startedAt := ← readNumber 3 "started_at" r.startedAt
    lastActivityAt := ← readNumber 4 "last_activity_at" r.lastActivityAt
    turns := ← readNat32 5 "turns" r.turns }

def find? (channel user : String) : Access (Option Session) :=
  query .sessions fun rows => readRow? readSession (Table.lookup SessionRow.key (channel, user) rows)

/-- Removes the sessions without a response since a time, and counts them. -/
def purgeIdle (before : Int) : Access Nat :=
  change .sessions (Table.remove fun r => r.lastActivityAt.below (.number before))

end Session

end TurnTaking
