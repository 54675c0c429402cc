import TurnTaking.TagSet

/-!
# Presence records

The conversational state of one avatar in one channel: when it last spoke, was mentioned or was
summoned, which turns it is still owed, how it is pinned, and until when it sits out.
-/

namespace TurnTaking.Presence

/-- Whether an avatar takes part in a channel. -/
inductive State where
  | present
  | absent
deriving DecidableEq, Repr, Inhabited

namespace State

def name : State → String
  | .present => "present"
  | .absent => "absent"

def ofName? (s : String) : Option State :=
  if s = "present" then some .present else if s = "absent" then some .absent else none

@[simp] theorem ofName?_name (s : State) : ofName? s.name = some s := by cases s <;> rfl

end State

/-- A role that an avatar was given in a channel. -/
inductive Role where
  /-- Holds the floor where turns are taken one by one. -/
  | activeSpeaker
deriving DecidableEq, Repr, Inhabited

namespace Role

def name : Role → String
  | .activeSpeaker => "active_speaker"

def ofName? (s : String) : Option Role :=
  if s = "active_speaker" then some .activeSpeaker else none

@[simp] theorem ofName?_name (r : Role) : ofName? r.name = some r := by cases r; rfl

end Role

/-- The conversational state of one avatar in one channel. Times are milliseconds since the
epoch. -/
structure Record where
  channelId : String
  avatarId : String
  state : State
  /-- When the avatar last completed a turn here. -/
  lastTurnAt : Option Int
  lastMentionedAt : Option Int
  lastSummonedAt : Option Int
  /-- Turns that a summon still guarantees. -/
  summonTurns : Nat
  priorityPins : Nat
  topicTags : TagSet
  role : Option Role
  /-- Until when the avatar takes no unprompted turn. -/
  cooldownUntil : Option Int
  turnsTaken : Nat
  updatedAt : Int
deriving DecidableEq, Repr, Inhabited

namespace Record

/-- A present record without history. -/
def fresh (channel avatar : String) (now : Int) : Record :=
  { channelId := channel, avatarId := avatar, state := .present, lastTurnAt := none,
    lastMentionedAt := none, lastSummonedAt := none, summonTurns := 0, priorityPins := 0,
    topicTags := .empty, role := none, cooldownUntil := none, turnsTaken := 0, updatedAt := now }

/-- Whether the avatar takes part in the channel. -/
def isPresent (r : Record) : Bool := r.state = .present

/-- Whether the avatar holds the floor. -/
def isActiveSpeaker (r : Record) : Bool := r.role = some .activeSpeaker

/-- Whether a summon still guarantees a turn. -/
def hasSummonCredit (r : Record) : Bool := 0 < r.summonTurns

end Record

end TurnTaking.Presence
