import TurnTaking.Mention
import TurnTaking.Message

/-!
# Triggers — what starts a coordination

A coordination starts from a message or from a periodic sweep. All turns that answer one message
share a trigger key, and so do all turns of one sweep: the gate counts responders by it.
-/

namespace TurnTaking

/-- What started a coordination. -/
inductive Trigger where
  /-- A person's message that names an avatar. -/
  | mention
  /-- A person's message that names nobody. -/
  | humanMessage
  /-- A message of an avatar or another bot. -/
  | botMessage
  /-- A periodic sweep, without a message. -/
  | ambient
deriving DecidableEq, Repr, Inhabited

namespace Trigger

def all : List Trigger := [.mention, .humanMessage, .botMessage, .ambient]

/-- The name of the trigger in stored and exchanged text. -/
def name : Trigger → String
  | .mention => "mention"
  | .humanMessage => "human_message"
  | .botMessage => "bot_message"
  | .ambient => "ambient"

def ofName? (s : String) : Option Trigger := all.find? (·.name = s)

/-- How urgent the trigger is; higher is more urgent. -/
def priority : Trigger → Nat
  | .mention => 3
  | .humanMessage => 2
  | .botMessage => 1
  | .ambient => 0

/-- Started by a person, so that sessions and affinity apply. -/
def isHuman : Trigger → Bool
  | .mention | .humanMessage => true
  | .botMessage | .ambient => false

/-- The trigger that a message is, given the avatars of its channel. A message under an avatar's id
counts as a bot's, whatever it says of itself. -/
def classify (message : Option Message) (avatars : List Avatar) : Trigger :=
  match message with
  | none => .ambient
  | some m =>
    if m.authorIsBot || avatars.any (·.id = m.authorId) then .botMessage
    else if (Mention.mentionedAvatars m.content avatars).isEmpty then .humanMessage
    else .mention

/-- The trigger key of everything that answers the message. -/
def messageKey (channel message : String) : String := s!"msg:{channel}:{message}"

def ambientKey (channel : String) (tick : Nat) : String := s!"amb:{channel}:{tick}"

end Trigger

end TurnTaking
