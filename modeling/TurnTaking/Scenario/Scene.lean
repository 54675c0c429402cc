import TurnTaking.Scenario.Step

/-!
# The scene — state of a running scenario

Beside the world of the node that acts, a scene holds what the scripted services remember, the stores
of the other nodes, the guards that were kept for later, and the calls that the services received.
-/

namespace TurnTaking.Scenario

/-- What a step comes to. -/
inductive Answer where
  | nothing
  | truth (b : Bool)
  | number (n : Int)
  | name (s : Option String)
  | names (l : List String)
  | record (r : Presence.Record)
  /-- A record that was looked for, with its marks. -/
  | marked (r : Option Presence.Record)
  | found (r : Option Presence.Record)
  | records (l : List Presence.Record)
  | lease (l : Option Lease)
  | leases (l : List Lease)
  | taken (tick : Option Nat)
  | admission (a : Gate.Admission)
  | activity (a : Option Activity)
  /-- A thread, as it stands at a time. -/
  | thread (t : Option Thread) (time : Int)
  | session (s : Option Session)
  | report (r : Janitor.Report)
  | authored (messages : List Message)
  | messages (messages : List Message)
  | recalled (calls : List (String × String × Option String × String))
      (sent : List (String × String × String × String)) (relocations : List (String × String))
      (fetches : Nat) (touches : List (String × Int)) (asked : List String)
  | tables (shown : List (String × Store.Shown))
  | tierResult (tier : Tier) (applies : Bool) (picked : Except Fault (List Selection))
  | selections (l : List Selection)
  | tiers (l : List Tier)
  | outcome (o : Turn.Outcome)
  | responses (l : List Response)
  /-- The delay without its random part. -/
  | delay (ms : Int)
  /-- Whether every delay is within the bounds that the random part has. -/
  | delayWithin (b : Bool)
  | fault (f : Fault)
  /-- No guard was kept under that name. -/
  | emptySlot

/-- A call of a service, or the end of a step that happened within one. -/
inductive Event where
  | generate (avatar channel : String) (message : Option String) (options : ResponseOptions)
  | hook (answer : Answer)
  | fetch (channel : String) (limit : Nat)
  | send (channel avatar text : String)
  | relocate (avatar channel : String)
  | getAvatar (avatar : String)
  | list (channel : String)
  | touch (avatar : String) (time : Int)
  | decide (channel avatar : String) (message : Option String)
  | preferred (channel user : String)
  | prefer (channel user avatar : String) (ttl : Int)

/-- What the scripted services remember. -/
structure Cast where
  script : Script Step
  verdict : Verdict
  /-- The calls that are switched to fail. -/
  failing : List String
  /-- The known avatars, by id. -/
  avatars : List Avatar
  /-- The messages of each channel, newest first. -/
  history : List (String × List Message)
  calls : List (String × String × Option String × String)
  sent : List (String × String × String × String)
  relocations : List (String × String)
  fetches : Nat
  touches : List (String × Int)
  asked : List String

/-- A process with a handle of a store, and the numbers of its two speaker caches: one of its engine,
one of the parts that steps use apart from it. -/
structure Node where
  handle : Nat
  engine : Nat
  parts : Nat
deriving DecidableEq, Repr, Inhabited

/-- A handle of a store: whose tables it sees, and whether it is poisoned. -/
structure Handle where
  tables : Nat
  poisoned : Bool
deriving DecidableEq, Repr, Inhabited

/-- All of a scene that engines do not see. -/
structure Scene where
  cast : Cast
  nodes : List Node
  handles : List Handle
  /-- The tables of the stores that are not in use at the moment, and old ones of the one that is. -/
  tables : List Store.Tables
  /-- The handle of the store in use. -/
  focus : Nat
  /-- The number of the next speaker cache. -/
  nextCache : Nat
  leaseSlots : List (String × Nat × Lease.Guard)
  lockSlots : List (String × Nat × Lock.Guard)
  /-- The ids of threads that were shown, in the order in which they were first shown. -/
  aliases : List String
  /-- The calls of the current step, the latest first. -/
  events : List Event

/-- What a scenario starts from. -/
structure Setup where
  now : Int
  config : Config
  rule : Presence.Initiative
  /-- All nodes share one store. -/
  shared : Bool
  nodes : Nat
  avatars : List Avatar
  verdict : Verdict
  seed : List Message
  script : Script Step

abbrev Stage := World Scene

namespace Cast

/-- The avatars with another one, which replaces one of the same id. -/
def insertAvatar (a : Avatar) : List Avatar → List Avatar
  | [] => [a]
  | b :: rest =>
    if a.id < b.id then a :: b :: rest
    else if a.id = b.id then a :: rest
    else b :: insertAvatar a rest

/-- The value under a key, where later pairs count first. -/
def latest {α : Type} (key : String) (pairs : List (String × α)) : Option α :=
  (pairs.reverse.find? (·.1 = key)).map Prod.snd

def messagesOf (c : Cast) (channel : String) : List Message :=
  ((c.history.find? (·.1 = channel)).map Prod.snd).getD []

/-- Puts a message in front of its channel's history. -/
def seed (c : Cast) (m : Message) : Cast :=
  { c with history := (m.channelId, m :: c.messagesOf m.channelId) ::
      c.history.filter (·.1 ≠ m.channelId) }

def instruct (c : Cast) (s : Script Step) : Cast :=
  { c with script := {
      replies := c.script.replies ++ s.replies
      failing := c.script.failing ++ s.failing
      silent := c.script.silent ++ s.silent
      sent := c.script.sent ++ s.sent
      duration := s.duration.or c.script.duration
      hooks := c.script.hooks ++ s.hooks } }

/-- Takes the first list of hooks that is left for an avatar. -/
def takeHook (avatar : String) :
    List (String × List (List Step)) → Option (List Step × List (String × List (List Step)))
  | [] => none
  | (a, lists) :: rest =>
    match if a = avatar then lists else [] with
    | steps :: more => some (steps, (a, more) :: rest)
    | [] => (takeHook avatar rest).map fun r => (r.1, (a, lists) :: r.2)

end Cast

def Script.empty : Script Step := ⟨[], [], [], [], none, []⟩

namespace Scene

/-- The place of an element in a list that is updated. -/
def replaceAt {α : Type} (l : List α) (i : Nat) (f : α → α) : List α := l.modify i f

/-- The thread that an id means: `thr#N` is the one that was shown as the N-th. -/
def resolve (s : Scene) (id : String) : String :=
  match (s.aliases.zipIdx 1).find? fun (_, n) => s!"thr#{n}" = id with
  | some (thread, _) => thread
  | none => id

end Scene

namespace Setup

/-- The world before the first step, with the store of the first node in use. -/
def start (s : Setup) : Stage where
  clock := s.now
  store := .new
  caches := fun _ => .empty
  drawn := 0
  journal := []
  outside := {
    cast := s.seed.foldl Cast.seed {
      script := s.script, verdict := s.verdict, failing := []
      avatars := s.avatars.foldl (fun all a => Cast.insertAvatar a all) []
      history := [], calls := [], sent := [], relocations := [], fetches := 0, touches := []
      asked := [] }
    nodes := (List.range s.nodes).map fun n => ⟨n, 2 * n, 2 * n + 1⟩
    handles := (List.range s.nodes).map fun n => ⟨if s.shared then 0 else n, false⟩
    tables := (List.range s.nodes).map fun _ => .empty
    focus := 0
    nextCache := 2 * s.nodes
    leaseSlots := [], lockSlots := [], aliases := [], events := [] }

end Setup

def log (e : Event) : Act Scene Unit :=
  modify fun w => { w with outside := { w.outside with events := e :: w.outside.events } }

def updateCast (f : Cast → Cast) : Act Scene Unit :=
  modify fun w => { w with outside := { w.outside with cast := f w.outside.cast } }

def cast : Act Scene Cast := return (← get).outside.cast

/-- Puts another handle's store in use. -/
def focusOn (handle : Nat) : Act Scene Unit := modify fun w =>
  let s := w.outside
  let current := (s.handles[s.focus]?).getD default
  let tables := s.tables.modify current.tables fun _ => w.store.tables
  let handles := s.handles.modify s.focus fun h => { h with poisoned := w.store.poisoned }
  let next := (handles[handle]?).getD default
  { w with
    store := { w.store with tables := (tables[next.tables]?).getD default, poisoned := next.poisoned }
    outside := { s with tables := tables, handles := handles, focus := handle } }

/-- Does something with another handle's store in use. -/
def withHandle {α : Type} (handle : Nat) (act : Act Scene α) : Act Scene α := do
  let before := (← get).outside.focus
  focusOn handle
  let a ← act
  focusOn before
  return a

end TurnTaking.Scenario
