import TurnTaking.Engine.Turn
import TurnTaking.Session
import TurnTaking.Tick
import TurnTaking.Tier.Select

/-!
# Coordination — responses to one trigger

A coordination finds the avatars that could respond, lets the tiers select among them, and runs the
turns of the selected one after another until enough have responded. A response that names other
avatars starts a coordination of its own for each, up to a number in all; such a nested coordination
starts no further ones.
-/

namespace TurnTaking

/-- How many levels of nested coordinations there may be. -/
def maxCascadeDepth : Nat := 1

/-- On what terms a coordination runs. -/
structure CoordinationContext where
  /-- The tick in which each turn is leased first, if it is. -/
  leaseTick : Option Nat
  /-- How many coordinations it is away from an outside trigger. -/
  depth : Nat
deriving DecidableEq, Repr, Inhabited

/-- A response to a trigger. -/
structure Response where
  avatarId : String
  tier : Tier
  trigger : Trigger
  messageId : String
  text : String
deriving DecidableEq, Repr, Inhabited

namespace Engine

open Presence

variable {σ : Type}

/-- The avatars of a channel that could respond. -/
structure Candidates where
  /-- All that are in the channel. -/
  inChannel : List Avatar
  /-- The present ones without the author of the message. -/
  eligible : List Avatar
  ranked : List Ranked
deriving Repr, Inhabited

/-- Of some avatars those that are present in the channel, with their records. An avatar not seen there
before is made present. -/
def presentRecords (channel : String) (author : Option String) (now : Int) :
    List Avatar → Store.Access (List (Avatar × Record))
  | [] => return []
  | a :: rest => do
    if author = some a.id then presentRecords channel author now rest
    else
      let record ← ensure channel a.id now
      let more ← presentRecords channel author now rest
      return if record.isPresent then (a, record) :: more else more

def rankIn (e : Engine σ) (channel : String) (now : Int) (records : List Record) :
    Try σ (List Ranked) := do
  let topics ← onStore (Activity.topics channel)
  return rank records e.rule ⟨now, topics⟩

def candidates (e : Engine σ) (channel : String) (message : Option Message) (now : Int) :
    Try σ Candidates := do
  -- Where the avatars cannot be listed, nobody can respond.
  let inChannel ← (orElse (e.outside.listAvatars channel) [] : Act σ (List Avatar))
  let present ← onStore (presentRecords channel (message.map Message.authorId) now inChannel)
  let ranked ← e.rankIn channel now (present.map Prod.snd)
  return ⟨inChannel, present.map Prod.fst, ranked⟩

/-- Whether a turn that answers a message is leased. -/
inductive LeaseDecision where
  | leased (guard : Lease.Guard)
  /-- The turn is run without a lease of its own. -/
  | proceed
  /-- The turn is not run. -/
  | skip
deriving DecidableEq, Repr, Inhabited

/-- Leases a turn that answers a message. A lease that is taken keeps the turn from being run if it
belongs to a sweep or to the same message, unless the turn takes precedence; a turn that an earlier
message leased in the tick is no obstacle. -/
def leaseForMessage (e : Engine σ) (channel avatar : String) (tick : Nat) (m : Message)
    (mode : Lease.Mode) : Try σ LeaseDecision := do
  let origin := Lease.Origin.ofMessage mode m.id m.authorId
  match ← onStore (Lease.acquire? e.config.locks.leaseTtlMs channel avatar tick origin (← clockNow))
    with
  | some guard => return .leased guard
  | none =>
    if mode = .priority then return .proceed
    -- Someone holds the lease: who does decides.
    match ← onStore (Lease.find? channel avatar tick) with
    | none => return .skip
    | some held =>
      if held.mode = .ambient || held.messageId = some m.id then return .skip else return .proceed

/-- The lease decision for a selection: turns are leased where a tick is given and a message is
answered. -/
def leaseSelection (e : Engine σ) (channel : String) (message : Option Message) (s : Selection)
    (tick : Option Nat) : Try σ LeaseDecision :=
  match tick, message with
  | some tick, some m => e.leaseForMessage channel s.avatar.id tick m s.tier.leaseMode
  | _, _ => return .proceed

/-- What is recorded about a response besides the turn: the step of its thread, and the session of the
person who is answered. -/
def recordResponse (e : Engine σ) (channel : String) (message : Option Message) (trigger : Trigger)
    (s : Selection) (sent : Turn.Sent) : Act σ Unit := do
  if let some token := s.threadToken then
    quietly (onStore
      (Thread.recordTurn e.config.coordination.threadTtlMs token s.avatar.id sent.sentAt))
  if trigger.isHuman then
    if let some m := message then
      quietly (onStore (Session.recordResponse channel m.authorId s.avatar.id sent.sentAt))

/-- The turn of a selection. -/
def requestOf (channel : String) (message : Option Message) (trigger : Trigger) (key : String)
    (depth : Nat) (s : Selection) : Turn.Request where
  avatar := s.avatar
  channelId := channel
  message := message
  options := ⟨trigger, some s.tier, s.threadToken, depth, key⟩
  gate := some ⟨channel, s.avatar.id, key, trigger, s.overridesCooldown⟩

/-- Runs the turn of a selection, settles its lease, if there is one, and records the response. -/
def answer (e : Engine σ) (channel : String) (message : Option Message) (trigger : Trigger)
    (key : String) (depth : Nat) (s : Selection) (lease : Option Lease.Guard) :
    Act σ (Option Response) := do
  let outcome ← e.runTurn (requestOf channel message trigger key depth s)
  settleLease lease outcome
  match outcome.sent? with
  | none => return none
  | some sent =>
    e.recordResponse channel message trigger s sent
    return some ⟨s.avatar.id, s.tier, trigger, sent.messageId, sent.text⟩

/-- Runs the turn of a selection, under the lease that was decided on. -/
def respondLeased (e : Engine σ) (channel : String) (message : Option Message) (trigger : Trigger)
    (key : String) (context : CoordinationContext) (s : Selection) (lease : Option Lease.Guard) :
    Act σ (Option Response) := do
  if let (some tick, some m) := (context.leaseTick, message) then
    note (.answering channel s.avatar.id tick m.id s.tier)
  e.answer channel message trigger key context.depth s lease

def respond (e : Engine σ) (channel : String) (message : Option Message) (trigger : Trigger)
    (key : String) (context : CoordinationContext) (s : Selection) : Act σ (Option Response) := do
  match ← (e.leaseSelection channel message s context.leaseTick).run with
  | .error _ => return none
  | .ok .skip =>
    if let (some tick, some m) := (context.leaseTick, message) then
      note (.passedOver channel s.avatar.id tick m.id)
    return none
  | .ok .proceed => e.respondLeased channel message trigger key context s none
  | .ok (.leased guard) => e.respondLeased channel message trigger key context s (some guard)

/-- Runs the turns of selections one after another, until so many have responded. -/
def respondAll (e : Engine σ) (channel : String) (message : Option Message) (trigger : Trigger)
    (key : String) (context : CoordinationContext) : Nat → List Selection → Act σ (List Response)
  | 0, _ => return []
  | _, [] => return []
  | limit + 1, s :: rest => do
    match ← e.respond channel message trigger key context s with
    | some response =>
      return response :: (← e.respondAll channel message trigger key context limit rest)
    | none => e.respondAll channel message trigger key context (limit + 1) rest

/-- The avatars that responses name, each with the response, without those that name themselves. -/
def namedBy (responses : List Response) (inChannel : List Avatar) : List (Response × Avatar) :=
  responses.flatMap fun r =>
    ((Mention.mentionedAvatars r.text inChannel).filter (·.id ≠ r.avatarId)).map (r, ·)

/-- Starts a coordination for each avatar that a response names: opens a thread between the two, and
lets `nested` coordinate the response as a message. -/
def cascade (e : Engine σ) (nested : Message → Try σ (List Response)) (channel : String) :
    List (Response × Avatar) → Act σ Unit
  | [] => return
  | (r, named) :: rest => do
    let c := e.config.coordination
    let id ← drawThreadId
    quietly (onStore (Thread.start ⟨c.threadTurns, c.threadTtlMs⟩ id channel [r.avatarId, named.id]
      (some r.avatarId) (← clockNow)))
    let m := Message.fromAvatar r.messageId channel r.avatarId r.text (← clockNow)
    quietly (nested m)
    e.cascade nested channel rest

def triggerKey (channel : String) (message : Option Message) (now : Int) : Try σ String :=
  match message with
  | some m => return Trigger.messageKey channel m.id
  | none => return Trigger.ambientKey channel (← onStore (Tick.peek channel now))

/-- Has a trigger answered: selects responders and runs their turns. Returns the responses, and the
avatars of the channel. -/
def answerTrigger (e : Engine σ) (channel : String) (message : Option Message)
    (context : CoordinationContext) : Try σ (List Response × List Avatar) := do
  let now ← clockNow
  let found ← e.candidates channel message now
  let trigger := Trigger.classify message found.inChannel
  let key ← triggerKey channel message now
  let selections ← e.selectResponders ⟨channel, message, trigger, found.eligible, found.ranked, now⟩
  note (σ := σ) (.selected key selections)
  let responses ← e.respondAll channel message trigger key context
    e.config.coordination.maxResponsesPerMessage selections
  return (responses, found.inChannel)

/-- Coordinates the responses to a trigger, with so many levels of nested coordinations left. -/
def coordinateNested (e : Engine σ) :
    Nat → String → Option Message → CoordinationContext → Try σ (List Response)
  | 0, channel, message, context => return (← e.answerTrigger channel message context).1
  | levels + 1, channel, message, context => do
    let (responses, inChannel) ← e.answerTrigger channel message context
    -- What comes of the nested coordinations is theirs, also where they fail.
    e.cascade
      (fun m => e.coordinateNested levels channel (some m) ⟨none, context.depth + 1⟩) channel
      ((namedBy responses inChannel).take e.config.coordination.mentionCascadeFanout)
    return responses

/-- Coordinates the responses to a message, or to none. -/
def coordinate (e : Engine σ) (channel : String) (message : Option Message)
    (context : CoordinationContext) : Try σ (List Response) :=
  e.coordinateNested (maxCascadeDepth - context.depth) channel message context

end Engine

end TurnTaking
