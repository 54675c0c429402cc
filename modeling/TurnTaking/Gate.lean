import TurnTaking.Config.Basic
import TurnTaking.Store.Access
import TurnTaking.Store.Reading
import TurnTaking.Trigger

/-!
# The gate — who may answer a trigger

Before a response is made, the gate admits its avatar or names the first of three reasons not to: the
channel is cooling down from a bot message that answered another trigger, this avatar answers this
trigger already, or enough others do. Check and admission are one step. An admission whose response
came to nothing is revoked.

The time since the last message is an exact difference. It is the word that is computed wherever neither of the
two times lies before the epoch.
-/

namespace TurnTaking.Gate

open Store Store.Access

/-- What the gate says. -/
inductive Admission where
  | admitted
  | channelCooldown (remaining : Int)
  | responderCap (responders : Nat)
  | alreadyResponded
deriving DecidableEq, Repr, Inhabited

namespace Admission

/-- Whether the avatar may respond. -/
def isAdmitted (a : Admission) : Bool := a = .admitted

def reason : Admission → String
  | .admitted => "admitted"
  | .channelCooldown _ => "channel cooldown"
  | .responderCap _ => "responder cap"
  | .alreadyResponded => "already responded"

end Admission

/-- Who asks for admission, and for what. -/
structure Request where
  channelId : String
  avatarId : String
  triggerKey : String
  trigger : Trigger
  /-- The channel's cooldown does not count. -/
  overridesCooldown : Bool
deriving DecidableEq, Repr, Inhabited

/-- The gap that the channel keeps before an answer to this kind of trigger. -/
def cooldownFor (c : Config.Gate) : Trigger → Int
  | .botMessage => c.botReplyCooldownMs
  | .mention | .humanMessage | .ambient => c.channelCooldownMs

/-- The last bot message of a channel: its time, where there was one, and the key of the trigger that
it answered. -/
def lastBotOutput (channel : String) : Access (Option (Option Int × Option String)) :=
  query .activity fun rows =>
    readRow? (fun r => (readOptional 0 "last_bot_at" r.lastBotAt).map fun t => (t, r.lastBotTrigger))
      (Table.lookup ActivityRow.key (some channel) rows)

/-- How much longer the channel cools down for a request, if it does. -/
def remainingCooldown? (cooldown : Int) (key : String) (now : Int) :
    Option (Option Int × Option String) → Option Int
  | some (some last, trigger) =>
    if trigger ≠ some key ∧ now - last < cooldown then some (cooldown - (now - last)) else none
  | _ => none

def admittedFor (key : String) : Access (List String) :=
  query .responders fun rows => .ok ((rows.filter (·.triggerKey = key)).map ResponderRow.avatarId)

/-- Admits the avatar unless enough avatars, or this one, were admitted for the trigger. -/
def admitResponder (c : Config.Gate) (r : Request) (now : Int) : Access Admission := do
  let responders ← admittedFor r.triggerKey
  if responders.contains r.avatarId then return .alreadyResponded
  else if c.maxRespondersPerTrigger ≤ responders.length then
    return .responderCap responders.length
  else
    statement .responders fun rows =>
      let (added, rows) := Table.add ResponderRow.key
        ⟨r.triggerKey, r.avatarId, r.channelId, .number now⟩ rows
      if added then .ok ((), rows)
      else .error (.duplicateKey "trigger_responders.trigger_key, trigger_responders.avatar_id")
    return .admitted

/-- Admits the avatar, or says why not. -/
def enter (c : Config.Gate) (r : Request) (now : Int) : Access Admission :=
  atomically do
    let cooldown := cooldownFor c r.trigger
    if !r.overridesCooldown && 0 < cooldown then
      match remainingCooldown? cooldown r.triggerKey now (← lastBotOutput r.channelId) with
      | some remaining => return .channelCooldown remaining
      | none => admitResponder c r now
    else admitResponder c r now

/-- Takes an admission back. -/
def revoke (key avatar : String) : Access Unit := do
  let _ ← change .responders (Table.remove fun r => r.key = (key, avatar))

/-- Whether a responder was admitted no later than another, or by id where they were admitted at
once. -/
def byAdmission (r s : ResponderRow) : Bool :=
  ((r.createdAt.order s.createdAt).then (compare r.avatarId s.avatarId)) ≠ .gt

/-- The avatars that were admitted for a trigger, in the order of their admission. -/
def responders (key : String) : Access (List String) :=
  query .responders fun rows =>
    .ok (((rows.filter (·.triggerKey = key)).mergeSort byAdmission).map ResponderRow.avatarId)

/-- Removes the admissions made before a time, and counts them. -/
def purge (before : Int) : Access Nat :=
  change .responders (Table.remove fun r => r.createdAt.below (.number before))

end TurnTaking.Gate
