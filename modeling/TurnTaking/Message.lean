/-!
# Messages

A message of a channel is written by a person or by an avatar, and may answer an earlier message.
-/

namespace TurnTaking

/-- The message that a reply answers. -/
structure MessageRef where
  messageId : String
  /-- Author of that message, where the transport knows it. -/
  authorId : Option String
deriving DecidableEq, Repr, Inhabited

/-- A message seen in a channel. -/
structure Message where
  id : String
  channelId : String
  authorId : String
  /-- Written by an avatar or another bot rather than by a person. -/
  authorIsBot : Bool
  content : String
  replyTo : Option MessageRef
  /-- Milliseconds since the epoch. -/
  createdAt : Int
deriving DecidableEq, Repr, Inhabited

namespace Message

/-- A message written by a person. -/
def human (id channel author content : String) (createdAt : Int) : Message :=
  ⟨id, channel, author, false, content, none, createdAt⟩

def fromAvatar (id channel avatar content : String) (createdAt : Int) : Message :=
  { human id channel avatar content createdAt with authorIsBot := true }

/-- The message as an answer to another one. -/
def replyingTo (m : Message) (messageId : String) (authorId : Option String) : Message :=
  { m with replyTo := some ⟨messageId, authorId⟩ }

end Message

end TurnTaking
