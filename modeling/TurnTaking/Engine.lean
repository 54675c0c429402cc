import TurnTaking.Engine.Sweep
import TurnTaking.Janitor

/-!
# What an engine does

The operations that a platform calls: a message came in, a sweep is due, an avatar was summoned, a
channel changed its topics, expired rows are to be removed.
-/

namespace TurnTaking.Engine

variable {σ : Type}

/-- Coordinates the responses to a message in the channel's current tick. Says whether any avatar
responded. -/
def answerInTick (e : Engine σ) (channel : String) (m : Message) (now : Int) : Act σ Bool := do
  match ← (onStore (Tick.peek channel now)).run with
  | .error _ => return false
  | .ok tick =>
    let responses ← orElse (e.coordinate channel (some m) ⟨some tick, 0⟩) []
    return !responses.isEmpty

/-- Handles a message that came in: notes that a person was active, and coordinates responses. Says
whether any avatar responded. -/
def onMessage (e : Engine σ) (channel : String) (m : Message) : Act σ Bool := do
  let now ← clockNow
  if !m.authorIsBot then quietly (onStore (Activity.recordHuman channel m.authorId now))
  e.answerInTick channel m now

/-- Owes an avatar that was introduced to a channel a number of turns. -/
def summon (channel avatar : String) (turns : Nat) : Try σ Unit := do
  onStore (Presence.grantSummon channel avatar turns (← clockNow))

/-- Replaces what a channel is about. -/
def setTopics (channel : String) (topics : TagSet) : Try σ Unit := do
  onStore (Activity.setTopics channel topics (← clockNow))

def runJanitor (e : Engine σ) : Try σ Janitor.Report := do
  onStore (Janitor.pass e.config (← clockNow))

end TurnTaking.Engine
