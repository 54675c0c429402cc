import TurnTaking.SpeakerCache
import TurnTaking.Store.Access
import TurnTaking.Turn

/-!
# The world — what engines act on

An engine acts on a clock, a store that it may share with other engines, its own speaker cache and the
services outside, whose state `σ` it does not look into. What it did to whom is kept in a journal.

* `Act` — an activity that always comes to a result;
* `Try` — one that may end in a fault, and whose effects up to then remain.
-/

namespace TurnTaking

/-- A tick of a channel that a sweep opened. -/
structure Sweep where
  /-- The number of the sweep, which no other has. -/
  number : Nat
  channelId : String
  tick : Nat
deriving DecidableEq, Repr, Inhabited

/-- What an engine notes about its work. -/
inductive JournalEntry where
  /-- Avatars were selected to answer the trigger of this key. -/
  | selected (key : String) (selections : List Selection)
  /-- A text is asked for. -/
  | generating (request : Turn.Request)
  /-- A turn ended. -/
  | turn (request : Turn.Request) (outcome : Turn.Outcome)
  /-- A sweep opened its tick. -/
  | opened (sweep : Sweep)
  /-- A sweep runs a turn of the avatar, which it leased in its tick. -/
  | unprompted (sweep : Sweep) (avatar : String)
  /-- A turn that answers a message is run on the terms of the tick. -/
  | answering (channel avatar : String) (tick : Nat) (message : String) (tier : Tier)
  /-- A turn that answers a message was not run, because the lease of the tick was taken. -/
  | passedOver (channel avatar : String) (tick : Nat) (message : String)
deriving DecidableEq, Repr, Inhabited

/-- All that engines see and change. -/
structure World (σ : Type) where
  /-- Milliseconds since the epoch. -/
  clock : Int
  store : Store
  /-- The speaker caches of the engines, by the number of the engine. -/
  caches : Nat → SpeakerCache
  /-- How many thread ids have been drawn. -/
  drawn : Nat
  /-- What the engines did, the latest first. -/
  journal : List JournalEntry
  /-- The services outside. -/
  outside : σ

instance {σ : Type} [Inhabited σ] : Inhabited (World σ) :=
  ⟨⟨default, default, fun _ => .empty, 0, [], default⟩⟩

/-- An activity that comes to a result. -/
abbrev Act (σ : Type) := StateM (World σ)

/-- An activity that may end in a fault. -/
abbrev Try (σ : Type) := ExceptT Fault (Act σ)

section

variable {σ α : Type}

def clockNow {m : Type → Type} [Monad m] [MonadState (World σ) m] : m Int := return (← get).clock

def note (e : JournalEntry) : Act σ Unit := modify fun w => { w with journal := e :: w.journal }

def onStore (a : Store.Access α) : Try σ α := ExceptT.mk fun w =>
  let (result, store) := a.run w.store
  (result, { w with store := store })

/-- Does what can be done, and goes on even after a fault. -/
def quietly (a : Try σ α) : Act σ Unit := do
  let _ ← a.run

/-- Does something, and takes another result where it ends in a fault. -/
def orElse (a : Try σ α) (other : α) : Act σ α := do
  match ← a.run with
  | .ok result => return result
  | .error _ => return other

/-- The hexadecimal digits of a number, at least four. -/
def hexPadded (n : Nat) : String :=
  let digits := Nat.toDigits 16 n
  String.ofList (List.replicate (4 - digits.length) '0' ++ digits)

def threadId (time : Int) (number : Nat) : String := s!"thr-{time}-{hexPadded number}"

/-- Draws an id for a thread, which no other thread has. -/
def drawThreadId : Act σ String := do
  let w ← get
  set { w with drawn := w.drawn + 1 }
  return threadId w.clock w.drawn

end

end TurnTaking
