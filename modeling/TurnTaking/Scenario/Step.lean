import TurnTaking.Config.Basic
import TurnTaking.Engine
import TurnTaking.Store.Columns

/-!
# Scenarios — what can happen

A scenario is a list of steps over one store or several, one or more engines, and scripted services
outside. A step acts on one of the nodes, each of which has its own handle of a store. A generator can
be told to let steps happen while it works.
-/

namespace TurnTaking.Scenario

/-- What a scripted generator is told, in addition to what it was told before. -/
structure Script (step : Type) where
  /-- Texts, by avatar. -/
  replies : List (String × String)
  /-- Avatars whose texts cannot be made. -/
  failing : List String
  /-- Avatars that say nothing. -/
  silent : List String
  /-- Ids of messages that the generator sends itself, by avatar. -/
  sent : List (String × String)
  /-- How long it takes to make a text, if that is to change. -/
  duration : Option Int
  /-- Steps that happen while texts of an avatar are made, list by list. -/
  hooks : List (String × List (List step))

/-- Whom a scripted judge wants to answer. -/
inductive Verdict where
  | everybody
  | only (avatars : List String)
deriving DecidableEq, Repr, Inhabited

/-- How a lease that was kept is settled. -/
inductive Settlement where
  | complete
  | fail (reason : String)
  | drop
  /-- As the outcome of a turn asks for. -/
  | outcome (o : Turn.Outcome)
deriving DecidableEq, Repr, Inhabited

/-- The lease that a step asks for. -/
structure LeaseWish where
  channel : String
  avatar : String
  tick : Nat
  origin : Lease.Origin
  time : Option Int
deriving DecidableEq, Repr, Inhabited

/-- Steps on presence records. -/
inductive PresenceAction where
  | ensure
  | get
  | turn (cooldown : Int)
  | mention
  | summon (turns : Nat)
  | consume
  | role (role : Option Presence.Role)
  | pin
  | unpin
  | topics (topics : TagSet)
  | state (state : Presence.State)
deriving DecidableEq, Repr

/-- A selection that a step asks for. -/
structure Question where
  channel : String
  message : Option Message
  ranked : List Presence.Ranked
  /-- The eligible avatars, unless they are all. -/
  eligible : Option (List Avatar)
  time : Option Int
  /-- The kind of trigger, unless it follows from the message. -/
  trigger : Option Trigger
  limit : Option Nat
  exclusive : Option Bool
  enabled : Option Bool
deriving Repr

/-- The turn that a step asks for. -/
structure TurnWish where
  channel : String
  /-- The avatar, or the id of one that the scenario knows. -/
  avatar : Except String Avatar
  message : Option Message
  trigger : Trigger
  tier : Option Tier
  token : Option String
  depth : Nat
  key : String
  /-- The key that the gate is asked with, and whether the cooldown counts; none to pass by the
  gate. -/
  gate : Option (String × Bool)

/-- What a step does. Where a time is missing it is that of the clock. -/
inductive Action (step : Type) where
  | setClock (time : Int)
  | addClock (span : Int)
  | instruct (script : Script step)
  | setFailing (call : String) (on : Bool)
  | setVerdict (verdict : Verdict)
  | seed (message : Message)
  | addAvatar (avatar : Avatar)
  | moveAvatar (avatar channel : String)
  | history (channel : String) (limit : Nat)
  | recall
  | dump
  | overwrite (table column : String) (value : Store.Value) (condition : List (String × Store.Value))
  | dropTable (table : String)
  | poison
  | reopen
  | presence (channel avatar : String) (time : Option Int) (action : PresenceAction)
  | presenceList (channel : String)
  | presencePresent (channel : String)
  | tickAdvance (channel : String) (time : Option Int)
  | tickPeek (channel : String) (time : Option Int)
  | leaseTry (wish : LeaseWish)
  | leaseHold (wish : LeaseWish) (slot : String)
  | leaseComplete (channel avatar : String) (tick : Nat)
  | leaseFail (channel avatar : String) (tick : Nat) (reason : String)
  | leaseGet (channel avatar : String) (tick : Nat)
  | leaseList (channel : String) (tick : Nat)
  | leasePurge (time : Option Int)
  | leaseSettle (slot : String) (how : Settlement)
  | lockAcquire (channel avatar : String) (time : Option Int)
  | lockHold (channel avatar : String) (time : Option Int) (slot : String)
  | lockRelease (channel avatar : String)
  | lockHeld (channel avatar : String)
  | lockPurge (time : Option Int)
  | lockDrop (slot : String)
  | gateAdmit (request : Gate.Request) (time : Option Int)
  | gateRevoke (key avatar : String)
  | gateResponders (key : String)
  | gatePurge (time : Option Int)
  | activityHuman (channel user : String) (time : Option Int)
  | activityBot (channel key : String) (time : Option Int)
  | activityGet (channel : String)
  | activityRecent (limit : Nat)
  | activityHumans (channel : String) (since : Int)
  | activitySetTopics (channel : String) (topics : TagSet) (time : Option Int)
  | activityTopics (channel : String)
  | activitySent (message channel avatar : String) (time : Option Int)
  | activitySender (message : String)
  | activityPurgeHumans (time : Option Int)
  | activityPurgeSent (time : Option Int)
  | threadOpen (channel : String) (participants : List String) (last : Option String)
      (time : Option Int)
  | threadActive (channel : String) (time : Option Int)
  | threadGet (id : String) (time : Option Int)
  | threadTurn (id avatar : String) (time : Option Int)
  | threadClose (id : String)
  | threadPurge (time : Option Int)
  | sessionUpsert (channel user avatar : String) (time : Option Int)
  | sessionGet (channel user : String)
  | sessionPurge (time : Option Int)
  | affinityGet (channel user : String) (time : Option Int)
  | affinitySet (channel user avatar : String) (ttl : Int) (time : Option Int)
  | affinityPurge (time : Option Int)
  | janitor (time : Option Int)
  | cacheRecent (channel : String) (time : Option Int)
  | cacheAuthors (channel : String) (count : Nat) (time : Option Int)
  | cacheLast (channel : String) (time : Option Int)
  | cachePush (message : Message)
  | cacheInvalidate (channel : String)
  | diversity (channel : String) (ranked : List Presence.Ranked) (time : Option Int)
  | tier (tier : Tier) (question : Question)
  | select (question : Question)
  | tiers
  | runner (wish : TurnWish)
  | coordinate (byEngine : Bool) (channel : String) (message : Option Message)
      (context : CoordinationContext)
  | sweepChannel (byEngine : Bool) (channel : String) (budget : Nat)
  | sweepAll (byEngine : Bool)
  | sweepDelay
  | engineMessage (channel : String) (message : Message)
  | engineSummon (channel avatar : String) (turns : Nat)
  | engineTopics (channel : String) (topics : TagSet)
  | enginePresence (channel avatar : String)
  | engineJanitor
  | engineStart (span : Nat)

/-- A step: what is done on which node. -/
inductive Step where
  | mk (node : Nat) (action : Action Step)

def Step.node : Step → Nat
  | .mk node _ => node

def Step.action : Step → Action Step
  | .mk _ action => action

mutual

/-- How many lists of hooks a step brings along, those within hooks included. -/
def Step.hookCount : Step → Nat
  | .mk _ (.instruct script) => hookCountEach script.hooks
  | .mk _ _ => 0

/-- How many lists of hooks steps bring along. -/
def hookCountSteps : List Step → Nat
  | [] => 0
  | s :: rest => s.hookCount + hookCountSteps rest

/-- How many there are among lists of hooks, with those that they bring along. -/
def hookCountLists : List (List Step) → Nat
  | [] => 0
  | steps :: rest => 1 + hookCountSteps steps + hookCountLists rest

/-- How many there are for some avatars. -/
def hookCountEach : List (String × List (List Step)) → Nat
  | [] => 0
  | (_, lists) :: rest => hookCountLists lists + hookCountEach rest

end

end TurnTaking.Scenario
