import TurnTaking.Store.Cell

/-!
# Rows — what the store keeps

The stored form of everything that avatars of one or several processes share. Names and lists are
kept as text, numbers in integer columns; what a row means is decided where it is read. Each row has
a key, under which its table holds it once. A key that is a single column may be missing; any number of
rows are without one, and no look-up finds them.
-/

namespace TurnTaking.Store

/-- Conversational state of an avatar in a channel. -/
structure PresenceRow where
  channelId : String
  avatarId : String
  state : String
  lastTurnAt : Option Cell
  lastMentionedAt : Option Cell
  lastSummonedAt : Option Cell
  summonTurns : Cell
  priorityPins : Cell
  topicTags : String
  role : Option String
  cooldownUntil : Option Cell
  turnsTaken : Cell
  updatedAt : Cell
deriving DecidableEq, Repr, Inhabited

def PresenceRow.key (r : PresenceRow) : String × String := (r.channelId, r.avatarId)

/-- The current tick of a channel. -/
structure TickRow where
  channelId : Option String
  tick : Cell
  lastTickAt : Cell
deriving DecidableEq, Repr, Inhabited

def TickRow.key (r : TickRow) : Option String := r.channelId

/-- The turn of an avatar in a tick. -/
structure LeaseRow where
  channelId : String
  avatarId : String
  tick : Cell
  status : String
  mode : String
  createdAt : Cell
  expiresAt : Cell
  messageId : Option String
  authorId : Option String
  error : Option String
  finishedAt : Option Cell
deriving DecidableEq, Repr, Inhabited

def LeaseRow.key (r : LeaseRow) : String × String × Cell := (r.channelId, r.avatarId, r.tick)

/-- A response of an avatar that is being made. -/
structure LockRow where
  channelId : String
  avatarId : String
  acquiredAt : Cell
  expiresAt : Cell
deriving DecidableEq, Repr, Inhabited

def LockRow.key (r : LockRow) : String × String := (r.channelId, r.avatarId)

/-- When a channel last saw messages. -/
structure ActivityRow where
  channelId : Option String
  lastMessageAt : Cell
  lastHumanAt : Option Cell
  lastBotAt : Option Cell
  lastBotTrigger : Option String
deriving DecidableEq, Repr, Inhabited

def ActivityRow.key (r : ActivityRow) : Option String := r.channelId

/-- What a channel is about. -/
structure TopicsRow where
  channelId : Option String
  topics : String
  updatedAt : Cell
deriving DecidableEq, Repr, Inhabited

def TopicsRow.key (r : TopicsRow) : Option String := r.channelId

/-- When a person was last seen in a channel. -/
structure HumanRow where
  channelId : String
  userId : String
  lastSeenAt : Cell
deriving DecidableEq, Repr, Inhabited

/-- The key of a person's row: channel and person. -/
def HumanRow.key (r : HumanRow) : String × String := (r.channelId, r.userId)

/-- Which avatar sent a message. -/
structure SentRow where
  messageId : Option String
  channelId : String
  avatarId : String
  sentAt : Cell
deriving DecidableEq, Repr, Inhabited

def SentRow.key (r : SentRow) : Option String := r.messageId

/-- An avatar that was admitted to answer a trigger. -/
structure ResponderRow where
  triggerKey : String
  avatarId : String
  channelId : String
  createdAt : Cell
deriving DecidableEq, Repr, Inhabited

def ResponderRow.key (r : ResponderRow) : String × String := (r.triggerKey, r.avatarId)

/-- A conversation of several avatars. -/
structure ThreadRow where
  threadId : Option String
  channelId : String
  participants : String
  lastSpeaker : Option String
  turnsRemaining : Cell
  createdAt : Cell
  expiresAt : Cell
deriving DecidableEq, Repr, Inhabited

def ThreadRow.key (r : ThreadRow) : Option String := r.threadId

/-- The avatar that a person is talking to. -/
structure SessionRow where
  channelId : String
  userId : String
  avatarId : String
  startedAt : Cell
  lastActivityAt : Cell
  turns : Cell
deriving DecidableEq, Repr, Inhabited

def SessionRow.key (r : SessionRow) : String × String := (r.channelId, r.userId)

/-- The avatar that a person prefers for a while. -/
structure AffinityRow where
  channelId : String
  userId : String
  avatarId : String
  expiresAt : Cell
deriving DecidableEq, Repr, Inhabited

def AffinityRow.key (r : AffinityRow) : String × String := (r.channelId, r.userId)

end TurnTaking.Store
