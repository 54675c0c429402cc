import TurnTaking.Scenario.Services

/-!
# Running scenarios

Steps run one after another, each with the store of its node in use. A step that ends in a fault
answers with the fault, and the next one still runs. Steps that happen while a text is made run
likewise; each list of them is used once, so that the number of lists bounds how deep they nest.

* `perform` — one step;
* `performWithin` — one step, with so many levels of hooks left.
-/

namespace TurnTaking.Scenario

/-- The engine of a node, by the number of its speaker cache. -/
def engineOf (setup : Setup) (inner : List Step → Act Scene Unit) (number : Nat) : Engine Scene :=
  ⟨setup.config, setup.rule, number, services inner⟩

def nodeOf (s : Scene) (node : Nat) : Node := (s.nodes[node]?).getD default

/-- The answer to something that may end in a fault. -/
def answer {α : Type} (act : Try Scene α) (f : α → Answer) : Act Scene Answer := do
  match ← act.run with
  | .ok a => return f a
  | .error e => return .fault e

def ask {α : Type} (a : Store.Access α) (f : α → Answer) : Act Scene Answer := answer (onStore a) f

def tell (a : Store.Access Unit) : Act Scene Answer := ask a fun _ => .nothing

def timeOr (time : Option Int) : Act Scene Int := do
  match time with
  | some t => return t
  | none => clockNow

/-- What a question is about, as the tiers see it. -/
def Question.situation (q : Question) (avatars : List Avatar) (now : Int) : Situation :=
  let eligible := q.eligible.getD avatars
  { channelId := q.channel, message := q.message
    trigger := q.trigger.getD (Trigger.classify q.message eligible)
    eligible := eligible, ranked := q.ranked, now := now }

def Question.adjust (q : Question) (c : Config) : Config :=
  let o := c.coordination
  { c with coordination := { o with
      maxResponsesPerMessage := q.limit.getD o.maxResponsesPerMessage
      legacyCandidates := q.limit.getD o.legacyCandidates
      stickyAffinityExclusive := q.exclusive.getD o.stickyAffinityExclusive
      turnBasedMode := q.enabled.getD o.turnBasedMode } }

/-- What is drawn between two bounds at the ends of what is random. -/
def extremes : List (Int → Int → Int) := [fun low _ => low, fun _ high => high]

/-- Whether every delay is between the interval less the jitter and the interval and the jitter, and
at least one. Both ends of what is random are delays. -/
def delayIsWithin (c : Config.Ambient) : Bool :=
  let low := max 1 ((c.tickIntervalMs : Int) - c.tickJitterMs)
  let high := max 1 ((c.tickIntervalMs : Int) + c.tickJitterMs)
  extremes.all fun draw => (Sweep.delay c draw).toOption.any fun ms => low ≤ ms && ms ≤ high

/-- The times, up to a span, at which something happens that has an interval. -/
def wakeTimes (interval span : Nat) : List Nat :=
  (List.range (span / max interval 1)).filterMap fun i =>
    let t := (i + 1) * max interval 1
    if t < span then some t else none

def backgroundTasks (e : Engine Scene) (span : Nat) : List (Nat × Act Scene Unit) :=
  let sweeps := (wakeTimes e.config.ambient.tickIntervalMs span).map fun t =>
    (t, (do let _ ← e.tickAll))
  let passes := (wakeTimes e.config.janitor.intervalMs span).map fun t => (t, quietly e.runJanitor)
  (sweeps ++ passes).mergeSort fun a b => a.1 ≤ b.1

/-- Does each task at its time after a start. -/
def runTasks (start : Int) : List (Nat × Act Scene Unit) → Act Scene Unit
  | [] => return
  | (t, act) :: rest => do
    modify fun w => { w with clock := start + t }
    act
    runTasks start rest

/-- Frees a guard that was kept, with the handle that it was taken with. -/
def dropLease (kept : Option (String × Nat × Lease.Guard)) : Act Scene Unit := do
  if let some (_, handle, guard) := kept then
    withHandle handle do quietly (onStore (guard.abandon (← clockNow)))

/-- Frees a guard that was kept, with the handle that it was taken with. -/
def dropLock (kept : Option (String × Nat × Lock.Guard)) : Act Scene Unit := do
  if let some (_, handle, guard) := kept then
    withHandle handle (quietly (onStore guard.drop))

def holdLease (ttl : Int) (wish : LeaseWish) (slot : String) : Act Scene Answer := do
  let time ← timeOr wish.time
  match ← (onStore (Lease.acquire? ttl wish.channel wish.avatar wish.tick wish.origin time)).run with
  | .error f => return .fault f
  | .ok none => return .taken none
  | .ok (some guard) =>
    let s := (← get).outside
    let kept := s.leaseSlots.find? (·.1 = slot)
    modify fun w => { w with outside := { w.outside with
      leaseSlots := (slot, s.focus, guard) :: w.outside.leaseSlots.filter (·.1 ≠ slot) } }
    dropLease kept
    return .taken (some guard.tick)

def holdLock (ttl : Int) (channel avatar : String) (time : Int) (slot : String) :
    Act Scene Answer := do
  match ← (onStore (Lock.tryGuard ttl channel avatar time)).run with
  | .error f => return .fault f
  | .ok none => return .truth false
  | .ok (some guard) =>
    let s := (← get).outside
    let kept := s.lockSlots.find? (·.1 = slot)
    modify fun w => { w with outside := { w.outside with
      lockSlots := (slot, s.focus, guard) :: w.outside.lockSlots.filter (·.1 ≠ slot) } }
    dropLock kept
    return .truth true

def settleKept (kept : Option (String × Nat × Lease.Guard)) (how : Settlement) :
    Act Scene Answer := do
  match kept, how with
  | none, .outcome _ => return .nothing
  | none, _ => return .emptySlot
  | some (_, handle, guard), how => withHandle handle do
    match how with
    | .complete => tell (guard.complete (← clockNow))
    | .fail reason => tell (guard.fail reason (← clockNow))
    | .drop => quietly (onStore (guard.abandon (← clockNow))); return .nothing
    | .outcome o => Engine.settleLease (some guard) o; return .nothing

/-- Builds a node anew: with a handle of its own on the store, and empty caches. A store that the nodes
do not share is lost. -/
def reopen (setup : Setup) (node : Nat) : Act Scene Unit := do
  let current := (← get).outside.focus
  focusOn current
  modify fun w =>
    let s := w.outside
    let old := ((s.handles[current]?).getD default).tables
    let handle : Handle := ⟨if setup.shared then old else s.tables.length, false⟩
    let tables :=
      if setup.shared then s.tables.modify old Store.Tables.complete else s.tables ++ [.empty]
    { w with
      store := { w.store with tables := if setup.shared then w.store.tables.complete else w.store.tables }
      outside := { s with
        tables := tables
        handles := s.handles ++ [handle]
        nodes := s.nodes.modify node fun _ => ⟨s.handles.length, s.nextCache, s.nextCache + 1⟩
        nextCache := s.nextCache + 2 } }

def performPresence (channel avatar : String) (time : Int) :
    PresenceAction → Act Scene Answer
  | .ensure => ask (Presence.ensure channel avatar time) .record
  | .get => ask (Presence.find? channel avatar) .marked
  | .turn cooldown => tell (Presence.recordTurn channel avatar time cooldown)
  | .mention => tell (Presence.recordMention channel avatar time)
  | .summon turns => tell (Presence.grantSummon channel avatar turns time)
  | .consume => ask (Presence.consumeSummon channel avatar) .truth
  | .role role => tell (Presence.setRole channel avatar role time)
  | .pin => tell (Presence.addPin channel avatar time)
  | .unpin => tell (Presence.clearPins channel avatar)
  | .topics topics => tell (Presence.setTopics channel avatar topics time)
  | .state state => tell (Presence.setState channel avatar state time)

/-- Runs the turn that a step asks for. -/
def performTurn (e : Engine Scene) (avatars : List Avatar) (w : TurnWish) : Act Scene Answer := do
  let avatar := match w.avatar with
    | .ok a => some a
    | .error id => avatars.find? (·.id = id)
  match avatar with
  | none => return .emptySlot
  | some a =>
    return .outcome (← e.runTurn {
      avatar := a, channelId := w.channel, message := w.message
      options := ⟨w.trigger, w.tier, w.token, w.depth, w.key⟩
      gate := w.gate.map fun (key, overrides) => ⟨w.channel, a.id, key, w.trigger, overrides⟩ })

/-- A statement on a table that does not exist. -/
def missing {α : Type} (table : String) : Store.Access α := do
  Store.Access.mark
  Store.Access.ofReading (.error (.missingTable table))

/-- Overwrites a column of the rows that hold some values, and counts them. -/
def overwrite (table column : String) (value : Store.Value)
    (condition : List (String × Store.Value)) : Store.Access Nat :=
  match Store.sheet? table with
  | none => missing table
  | some s =>
    Store.Access.statement { s.relation with name := table } (s.overwrite column value condition)

def dropTable (table : String) : Store.Access Unit :=
  match Store.sheet? table with
  | none => missing table
  | some s => do
    Store.Access.change { s.relation with name := table } fun rows => ((), rows)
    modify fun store => { store with tables := s.relation.set store.tables none }

def dump : Store.Access (List (String × Store.Shown)) := do
  Store.Access.mark
  return (← get).tables.shown

/-- Performs an action with a node's store in use. -/
def performAction (setup : Setup) (inner : List Step → Act Scene Unit) (node : Nat) :
    Action Step → Act Scene Answer
  | .setClock time => do
    modify fun w => { w with clock := time }
    return .number time
  | .addClock span => do
    modify fun w => { w with clock := w.clock + span }
    return .number (← clockNow)
  | .instruct script => do updateCast (·.instruct script); return .nothing
  | .setFailing call on => do
    updateCast fun c => { c with
      failing := if on then call :: c.failing else c.failing.filter (· ≠ call) }
    return .nothing
  | .setVerdict verdict => do
    updateCast fun c => { c with verdict := verdict, asked := [] }
    return .nothing
  | .seed m => do updateCast (·.seed m); return .nothing
  | .addAvatar a => do
    updateCast fun c => { c with avatars := Cast.insertAvatar a c.avatars }
    return .nothing
  | .moveAvatar avatar channel => do
    updateCast fun c => { c with
      avatars := c.avatars.map fun a => if a.id = avatar then a.inChannel channel else a }
    return .nothing
  | .history channel limit => answer (fetchRecent channel limit) .messages
  | .recall => do
    let c ← cast
    return .recalled c.calls c.sent c.relocations c.fetches c.touches c.asked
  | .dump => ask dump .tables
  | .overwrite table column value condition =>
    ask (overwrite table column value condition) fun n => .number n
  | .dropTable table => tell (dropTable table)
  | .poison => do
    modify fun w => { w with store := { w.store with poisoned := true } }
    return .truth true
  | .reopen => do reopen setup node; return .nothing
  | .presence channel avatar time action => do
    performPresence channel avatar (← timeOr time) action
  | .presenceList channel => ask (Presence.inChannel channel) .records
  | .presencePresent channel =>
    ask (Presence.presentIn channel) fun l => .names (l.map Presence.Record.avatarId)
  | .tickAdvance channel time => do
    ask (Tick.advance channel (← timeOr time)) fun n => .number n
  | .tickPeek channel time => do ask (Tick.peek channel (← timeOr time)) fun n => .number n
  | .leaseTry w => do
    ask (Lease.tryTake setup.config.locks.leaseTtlMs w.channel w.avatar w.tick w.origin
      (← timeOr w.time)) .truth
  | .leaseHold w slot => holdLease setup.config.locks.leaseTtlMs w slot
  | .leaseComplete channel avatar tick => do
    ask (Lease.complete channel avatar tick (← clockNow)) .truth
  | .leaseFail channel avatar tick reason => do
    ask (Lease.fail channel avatar tick reason (← clockNow)) .truth
  | .leaseGet channel avatar tick => ask (Lease.find? channel avatar tick) .lease
  | .leaseList channel tick => ask (Lease.inTick channel tick) .leases
  | .leasePurge time => do ask (Lease.purgeExpired (← timeOr time)) fun n => .number n
  | .leaseSettle slot how => do
    let kept := (← get).outside.leaseSlots.find? (·.1 = slot)
    modify fun w => { w with outside := { w.outside with
      leaseSlots := w.outside.leaseSlots.filter (·.1 ≠ slot) } }
    settleKept kept how
  | .lockAcquire channel avatar time => do
    ask (Lock.acquire setup.config.locks.responseLockTtlMs channel avatar (← timeOr time)) .truth
  | .lockHold channel avatar time slot => do
    holdLock setup.config.locks.responseLockTtlMs channel avatar (← timeOr time) slot
  | .lockRelease channel avatar => tell (Lock.release channel avatar)
  | .lockHeld channel avatar => ask (Lock.isHeld channel avatar) .truth
  | .lockPurge time => do ask (Lock.purgeExpired (← timeOr time)) fun n => .number n
  | .lockDrop slot => do
    let kept := (← get).outside.lockSlots.find? (·.1 = slot)
    modify fun w => { w with outside := { w.outside with
      lockSlots := w.outside.lockSlots.filter (·.1 ≠ slot) } }
    dropLock kept
    return .truth kept.isSome
  | .gateAdmit request time => do
    ask (Gate.enter setup.config.gate request (← timeOr time)) .admission
  | .gateRevoke key avatar => tell (Gate.revoke key avatar)
  | .gateResponders key => ask (Gate.responders key) .names
  | .gatePurge time => do ask (Gate.purge (← timeOr time)) fun n => .number n
  | .activityHuman channel user time => do tell (Activity.recordHuman channel user (← timeOr time))
  | .activityBot channel key time => do tell (Activity.recordBot channel key (← timeOr time))
  | .activityGet channel => ask (Activity.find? channel) .activity
  | .activityRecent limit => ask (Activity.recentChannels limit) .names
  | .activityHumans channel since => ask (Activity.activeHumans channel since) fun n => .number n
  | .activitySetTopics channel topics time => do
    tell (Activity.setTopics channel topics (← timeOr time))
  | .activityTopics channel => ask (Activity.topics channel) fun s => .names s.toList
  | .activitySent message channel avatar time => do
    tell (Activity.recordSent message channel avatar (← timeOr time))
  | .activitySender message => ask (Activity.sender? message) .name
  | .activityPurgeHumans time => do
    ask (Activity.purgeHumans (← timeOr time)) fun n => .number n
  | .activityPurgeSent time => do ask (Activity.purgeSent (← timeOr time)) fun n => .number n
  | .threadOpen channel participants last time => do
    let time ← timeOr time
    let c := setup.config.coordination
    let id ← drawThreadId
    ask (Thread.start ⟨c.threadTurns, c.threadTtlMs⟩ id channel participants last time)
      fun t => .thread (some t) time
  | .threadActive channel time => do
    let time ← timeOr time
    ask (Thread.active? channel time) (.thread · time)
  | .threadGet id time => do
    let time ← timeOr time
    ask (Thread.find? ((← get).outside.resolve id)) (.thread · time)
  | .threadTurn id avatar time => do
    ask (Thread.recordTurn setup.config.coordination.threadTtlMs ((← get).outside.resolve id) avatar
      (← timeOr time)) .truth
  | .threadClose id => do tell (Thread.close ((← get).outside.resolve id))
  | .threadPurge time => do ask (Thread.purge (← timeOr time)) fun n => .number n
  | .sessionUpsert channel user avatar time => do
    tell (Session.recordResponse channel user avatar (← timeOr time))
  | .sessionGet channel user => ask (Session.find? channel user) .session
  | .sessionPurge time => do ask (Session.purgeIdle (← timeOr time)) fun n => .number n
  | .affinityGet channel user time => do
    ask (Affinity.find? channel user (← timeOr time)) .name
  | .affinitySet channel user avatar ttl time => do
    tell (Affinity.set channel user avatar ttl (← timeOr time))
  | .affinityPurge time => do ask (Affinity.purgeExpired (← timeOr time)) fun n => .number n
  | .janitor time => do ask (Janitor.pass setup.config (← timeOr time)) .report
  | .cacheRecent channel time => do
    return .authored (← (← parts).recentMessages channel (← timeOr time))
  | .cacheAuthors channel count time => do
    return .names (← (← parts).recentAuthors channel count (← timeOr time))
  | .cacheLast channel time => do
    return .name (← (← parts).lastSpeaker channel (← timeOr time))
  | .cachePush m => do
    let e ← parts
    e.updateCache (SpeakerCache.push e.cacheLimits m)
    return .nothing
  | .cacheInvalidate channel => do
    (← parts).updateCache (SpeakerCache.invalidate channel)
    return .nothing
  | .diversity channel ranked time => do
    let allowed ← Diversity.apply (← parts) channel ranked (← timeOr time)
    return .names (allowed.map Presence.Ranked.avatarId)
  | .tier tier q => do
    let e ← parts
    let e := { e with config := q.adjust e.config }
    let s := q.situation setup.avatars (← timeOr q.time)
    return .tierResult tier (tier.appliesTo e.config.coordination s.trigger) (← (tier.select e s).run)
  | .select q => do
    return .selections (← (← parts).selectResponders (q.situation setup.avatars (← timeOr q.time)))
  | .tiers => return .tiers Tier.cascade
  | .runner w => do performTurn (← parts) setup.avatars w
  | .coordinate byEngine channel m context => do
    answer ((← side byEngine).coordinate channel m context) .responses
  | .sweepChannel byEngine channel budget => do
    return .number (← (← side byEngine).onChannelTick channel budget)
  | .sweepAll byEngine => do return .number (← (← side byEngine).tickAll)
  | .sweepDelay =>
    let c := setup.config.ambient
    return match c.tickJitterMs, Sweep.delay c fun _ high => high with
      | 0, .ok ms => .delay ms
      | _, _ => .delayWithin (delayIsWithin c)
  | .engineMessage channel m => do return .truth (← (← side true).onMessage channel m)
  | .engineSummon channel avatar turns =>
    answer (Engine.summon channel avatar turns) fun _ => .nothing
  | .engineTopics channel topics => answer (Engine.setTopics channel topics) fun _ => .nothing
  | .enginePresence channel avatar => ask (Presence.find? channel avatar) .found
  | .engineJanitor => do answer (← side true).runJanitor .report
  | .engineStart span => do
    let start ← clockNow
    runTasks start (backgroundTasks (← side true) span)
    modify fun w => { w with clock := start + span + 5 }
    return .number (start + span + 5)
where
  /-- The parts of the node that steps use apart from its engine. -/
  parts : Act Scene (Engine Scene) := do
    return engineOf setup inner (nodeOf (← get).outside node).parts
  /-- The engine of the node, or its parts. -/
  side (byEngine : Bool) : Act Scene (Engine Scene) := do
    if byEngine then return engineOf setup inner (nodeOf (← get).outside node).engine
    else parts

/-- Performs a step, where `inner` performs what happens while a text is made. -/
def performWith (setup : Setup) (inner : List Step → Act Scene Unit) (s : Step) :
    Act Scene Answer := do
  withHandle (nodeOf (← get).outside s.node).handle (performAction setup inner s.node s.action)

/-- Performs a step, with so many levels of hooks left. -/
def performWithin (setup : Setup) : Nat → Step → Act Scene Answer
  | 0 => performWith setup fun _ => return
  | levels + 1 => performWith setup fun steps => steps.forM fun s => do
    let a ← performWithin setup levels s
    log (.hook a)

/-- How deep the hooks of a scenario can nest. -/
def levelsOf (setup : Setup) (steps : List Step) : Nat :=
  hookCountEach setup.script.hooks + hookCountSteps steps

/-- Performs a step of a scenario, and returns the calls that services received meanwhile. -/
def perform (setup : Setup) (levels : Nat) (s : Step) : Act Scene (Answer × List Event) := do
  let a ← performWithin setup levels s
  let events := (← get).outside.events.reverse
  modify fun w => { w with outside := { w.outside with events := [] } }
  return (a, events)

end TurnTaking.Scenario
