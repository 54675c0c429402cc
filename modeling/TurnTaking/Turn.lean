import TurnTaking.Gate
import TurnTaking.Tier.Basic

/-!
# Turns — requests and outcomes

A turn is the attempt of an avatar to say something in a channel. It ends with a message or in one of
four ways without.
-/

namespace TurnTaking

/-- What a generator is told about a turn besides avatar, channel and message. -/
structure ResponseOptions where
  trigger : Trigger
  /-- The tier that selected the avatar; none for a turn of a sweep. -/
  tier : Option Tier
  /-- The thread that the turn continues. -/
  threadToken : Option String
  /-- How many coordinations the turn is away from an outside trigger. -/
  depth : Nat
  triggerKey : String
deriving DecidableEq, Repr, Inhabited

/-- Whether the turn belongs to a sweep. -/
def ResponseOptions.isAmbient (o : ResponseOptions) : Bool := o.trigger = .ambient

/-- What a generator made. -/
structure Generated where
  /-- The id of the message, if the generator sent it itself. -/
  messageId : Option String
  text : String
deriving DecidableEq, Repr, Inhabited

namespace Turn

/-- All that a turn is run for. -/
structure Request where
  avatar : Avatar
  channelId : String
  message : Option Message
  options : ResponseOptions
  /-- What the gate is asked first, if it is asked. -/
  gate : Option Gate.Request
deriving DecidableEq, Repr, Inhabited

/-- A message that came to the channel. -/
structure Sent where
  messageId : String
  text : String
  sentAt : Int
deriving DecidableEq, Repr, Inhabited

/-- How a turn ended. -/
inductive Outcome where
  | responded (sent : Sent)
  /-- The generator chose to say nothing. -/
  | silent
  /-- Another response of the avatar was being made. -/
  | contended
  | rejected (admission : Gate.Admission)
  | failed (reason : String)
deriving DecidableEq, Repr, Inhabited

namespace Outcome

/-- The message of a turn that ended with one. -/
def sent? : Outcome → Option Sent
  | .responded sent => some sent
  | _ => none

/-- Whether the turn ended with a message. -/
def isResponded (o : Outcome) : Bool := o.sent?.isSome

/-- Why the turn's lease counts as failed; none if it counts as completed, as that of a silent turn
does. -/
def failure? : Outcome → Option String
  | .responded _ | .silent => none
  | .contended => some "response lock held"
  | .rejected admission => some admission.reason
  | .failed reason => some reason

end Outcome

end Turn

end TurnTaking
