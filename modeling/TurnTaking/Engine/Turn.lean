import TurnTaking.Activity
import TurnTaking.Engine.Basic
import TurnTaking.Lock
import TurnTaking.Presence.Stored

/-!
# Running a turn

A turn holds the avatar's response lock from beginning to end. It asks the gate, has a text made, sends
it and records it. An admission whose turn ends without a message is taken back. Once the message is
out, trouble with recording it changes nothing about the outcome.
-/

namespace TurnTaking.Engine

open Turn

variable {σ : Type}

/-- Makes the text and sends it, unless the generator sent it itself. -/
def generateAndSend (e : Engine σ) (r : Request) : Act σ Outcome := do
  match ← (e.outside.generate r.avatar r.channelId r.message r.options).run with
  | .error f => return .failed f.message
  | .ok none => return .silent
  | .ok (some ⟨some id, text⟩) => return .responded ⟨id, text, ← clockNow⟩
  | .ok (some ⟨none, text⟩) =>
    match ← (e.outside.send r.channelId r.avatar text).run with
    | .error f => return .failed f.message
    | .ok id => return .responded ⟨id, text, ← clockNow⟩

/-- Records a sent message in the store: as the avatar's turn, as its message, and as output of the
channel. -/
def recordRows (e : Engine σ) (r : Request) (sent : Sent) : Store.Access Unit := do
  Presence.recordTurn r.channelId r.avatar.id sent.sentAt e.config.coordination.turnCooldownMs
  Activity.recordSent sent.messageId r.channelId r.avatar.id sent.sentAt
  Activity.recordBot r.channelId r.options.triggerKey sent.sentAt

def recordTurn (e : Engine σ) (r : Request) (sent : Sent) : Act σ Unit := do
  quietly (onStore (e.recordRows r sent))
  e.updateCache (SpeakerCache.push e.cacheLimits
    (Message.fromAvatar sent.messageId r.channelId r.avatar.id sent.text sent.sentAt))
  quietly (e.outside.touch r.avatar.id sent.sentAt)

/-- What follows the gate's admission. -/
def runAdmitted (e : Engine σ) (r : Request) : Act σ Outcome := do
  note (.generating r)
  let outcome ← e.generateAndSend r
  match outcome.sent? with
  | none =>
    -- Another avatar may answer the trigger in its place.
    if r.gate.isSome then quietly (onStore (Gate.revoke r.options.triggerKey r.avatar.id))
  | some sent => e.recordTurn r sent
  return outcome

/-- What is done while the lock is held. -/
def runLocked (e : Engine σ) (r : Request) : Act σ Outcome := do
  match r.gate with
  | none => e.runAdmitted r
  | some request =>
    match ← (onStore (Gate.enter e.config.gate request (← clockNow))).run with
    | .ok .admitted => e.runAdmitted r
    | .ok rejected => return .rejected rejected
    | .error f => return .failed s!"gate: {f.message}"

def runTurn (e : Engine σ) (r : Request) : Act σ Outcome := do
  let ttl := e.config.locks.responseLockTtlMs
  let outcome ←
    match ← (onStore (Lock.tryGuard ttl r.channelId r.avatar.id (← clockNow))).run with
    | .error f => pure (.failed s!"lock: {f.message}")
    | .ok none => pure .contended
    | .ok (some guard) => do
      let outcome ← e.runLocked r
      -- The lock is given back whatever the turn came to.
      quietly (onStore guard.drop)
      pure outcome
  note (.turn r outcome)
  return outcome

/-- Settles the lease of a turn that was leased, by how the turn ended. -/
def settleLease (lease : Option Lease.Guard) (outcome : Outcome) : Act σ Unit := do
  match lease with
  | none => return
  | some guard =>
    match outcome.failure? with
    | none => quietly (onStore (guard.complete (← clockNow)))
    | some reason => quietly (onStore (guard.fail reason (← clockNow)))

end TurnTaking.Engine
