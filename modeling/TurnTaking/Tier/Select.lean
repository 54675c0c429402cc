import TurnTaking.Activity
import TurnTaking.Diversity
import TurnTaking.Presence.Stored
import TurnTaking.Thread

/-!
# Selection — what each tier does

A tier passes by selecting nobody. What it writes down on the way, such as a spent summon or a mention,
is its own business: `selectResponders` tries the tiers in order, skips those that do not apply or end
in a fault, and stops at the first that selects anybody.
-/

namespace TurnTaking

/-- What every tier sees of a coordination. -/
structure Situation where
  channelId : String
  message : Option Message
  trigger : Trigger
  /-- The present avatars of the channel without the author of the message. -/
  eligible : List Avatar
  /-- The same, ranked. -/
  ranked : List Presence.Ranked
  now : Int
deriving Repr, Inhabited

namespace Situation

def eligibleAvatar (s : Situation) (id : String) : Option Avatar := s.eligible.find? (·.id = id)

def authorId (s : Situation) : Option String := s.message.map Message.authorId

/-- The author of the message, if it says that it is a person's. -/
def humanAuthor (s : Situation) : Option String :=
  (s.message.filter (!·.authorIsBot)).map Message.authorId

/-- A ranked avatar as the selection of a tier, if it is eligible. -/
def selectRanked (s : Situation) (tier : Tier) (r : Presence.Ranked) : Option Selection :=
  (s.eligibleAvatar r.avatarId).map (Selection.plain · tier)

end Situation

namespace Tier

open Presence

variable {σ : Type}

/-- Whether the tier runs for a kind of trigger. -/
def appliesTo (c : Config.Coordination) (trigger : Trigger) : Tier → Bool
  | .reply | .thread | .mention => true
  | .affinity => trigger.isHuman
  | .activeSpeaker => c.turnBasedMode && trigger ≠ .botMessage
  | .summon | .presence | .legacy => trigger ≠ .botMessage

/-- The avatar whose message is replied to, moved into the channel if it is elsewhere. -/
def selectReply (e : Engine σ) (s : Situation) : Try σ (List Selection) := do
  let some answered := s.message.bind Message.replyTo | return []
  let some id := (← onStore (Activity.sender? answered.messageId)).or answered.authorId | return []
  if s.authorId = some id then return []
  let some avatar ← e.outside.getAvatar id | return []
  if avatar.isIn s.channelId then
    return [{ Selection.plain avatar .reply with overridesCooldown := true }]
  else
    quietly (e.outside.relocate avatar s.channelId)
    return [{ Selection.plain (avatar.inChannel s.channelId) .reply with overridesCooldown := true }]

/-- The participant of the channel's open thread whose turn it is. -/
def selectThread (s : Situation) : Try σ (List Selection) := do
  let some current ← onStore (Thread.active? s.channelId s.now) | return []
  let some next := current.nextParticipant | return []
  if s.authorId = some next then return []
  let some avatar := s.eligibleAvatar next | return []
  return [{ Selection.plain avatar .thread with threadToken := some current.id }]

/-- Whether an avatar was summoned no earlier than another, or comes first by id where they were
summoned at once. -/
def bySummon (a b : Ranked) : Bool :=
  ((compareMoments b.record.lastSummonedAt a.record.lastSummonedAt).then
    (compare a.avatarId b.avatarId)) ≠ .gt

/-- Spends the credits of summoned avatars in turn, until so many could be selected. -/
def spendCredits (s : Situation) : Nat → List Ranked → Try σ (List Selection)
  | 0, _ => return []
  | _, [] => return []
  | limit + 1, r :: rest => do
    let spent ← onStore (Presence.consumeSummon s.channelId r.avatarId)
    match if spent then s.selectRanked .summon r else none with
    | some selection => return selection :: (← spendCredits s limit rest)
    | none => spendCredits s (limit + 1) rest

/-- Avatars that are owed a turn, the latest summoned first. -/
def selectSummon (e : Engine σ) (s : Situation) : Try σ (List Selection) :=
  spendCredits s e.config.coordination.maxResponsesPerMessage
    ((s.ranked.filter (·.record.hasSummonCredit)).mergeSort bySummon)

/-- The avatar that the person prefers, if it should answer. Being selected prolongs the preference. -/
def selectAffinity (e : Engine σ) (s : Situation) : Try σ (List Selection) := do
  let c := e.config.coordination
  let some user := s.humanAuthor | return []
  let some id ← e.outside.preferred s.channelId user | return []
  let some avatar := s.eligibleAvatar id | return []
  let agreed ← if c.stickyAffinityExclusive then pure true
    else e.outside.shouldRespond s.channelId avatar s.message
  if agreed then
    quietly (e.outside.prefer s.channelId user avatar.id c.affinityTtlMs)
    return [Selection.plain avatar .affinity]
  else return []

def noteMentions (s : Situation) : List Avatar → Act σ Unit
  | [] => return
  | a :: rest => do
    quietly (onStore (Presence.recordMention s.channelId a.id s.now))
    noteMentions s rest

/-- The avatars that the message names. The person prefers the first of them from now on. -/
def selectMention (e : Engine σ) (s : Situation) : Try σ (List Selection) := do
  let some message := s.message | return []
  let named := (Mention.mentionedAvatars message.content s.eligible).filter (·.id ≠ message.authorId)
  let some first := named.head? | return []
  noteMentions (σ := σ) s named
  if let some user := s.humanAuthor then
    quietly (e.outside.prefer s.channelId user first.id e.config.coordination.affinityTtlMs)
  return named.map (Selection.plain · .mention)

/-- Whether an avatar was silent for longer than another, or comes first by id where they were silent
equally long. -/
def silentLonger (a b : Ranked) : Bool :=
  ((compare (a.record.lastTurnAt.getD earliestMoment) (b.record.lastTurnAt.getD earliestMoment)).then
    (compare a.avatarId b.avatarId)) = .lt

def longestSilent (ranked : List Ranked) : Option Ranked :=
  ranked.foldl (fun best r => match best with
    | none => some r
    | some b => if silentLonger r b then some r else some b) none

/-- Who holds the floor, or else was silent longest, if it should answer. -/
def selectActiveSpeaker (e : Engine σ) (s : Situation) : Try σ (List Selection) := do
  let candidate := (s.ranked.find? (·.record.isActiveSpeaker)).or (longestSilent s.ranked)
  let some selection := candidate.bind (s.selectRanked .activeSpeaker) | return []
  if ← e.outside.shouldRespond s.channelId selection.avatar s.message then return [selection]
  else return []

/-- The best ranked avatar. Without a message it must also be one that may speak unprompted. -/
def selectPresence (e : Engine σ) (s : Situation) : Try σ (List Selection) := do
  let picked ← if s.trigger = .ambient then
      pure (← Diversity.apply e s.channelId s.ranked s.now).head?
    else pure s.ranked.head?
  return (picked.bind (s.selectRanked .presence)).toList

/-- The first of the ranked avatars that should answer. -/
def firstAccepted (e : Engine σ) (s : Situation) : List Ranked → Try σ (List Selection)
  | [] => return []
  | r :: rest =>
    match s.eligibleAvatar r.avatarId with
    | none => firstAccepted e s rest
    | some avatar => do
      if ← e.outside.shouldRespond s.channelId avatar s.message then
        return [Selection.plain avatar .legacy]
      else firstAccepted e s rest

/-- The first of the best ranked avatars that should answer. -/
def selectLegacy (e : Engine σ) (s : Situation) : Try σ (List Selection) :=
  firstAccepted e s (s.ranked.take e.config.coordination.legacyCandidates)

/-- What the tier selects; nothing, if it passes. -/
def select (e : Engine σ) (s : Situation) : Tier → Try σ (List Selection)
  | .reply => selectReply e s
  | .thread => selectThread s
  | .summon => selectSummon e s
  | .affinity => selectAffinity e s
  | .mention => selectMention e s
  | .activeSpeaker => selectActiveSpeaker e s
  | .presence => selectPresence e s
  | .legacy => selectLegacy e s

/-- What the first of the tiers selects that applies, ends without a fault and selects anybody. -/
def selectFirst (e : Engine σ) (s : Situation) : List Tier → Act σ (List Selection)
  | [] => return []
  | t :: rest => do
    if t.appliesTo e.config.coordination s.trigger then
      match ← (t.select e s).run with
      | .ok (selection :: more) => return selection :: more
      | _ => selectFirst e s rest
    else selectFirst e s rest

end Tier

def Engine.selectResponders {σ : Type} (e : Engine σ) (s : Situation) : Act σ (List Selection) :=
  Tier.selectFirst e s Tier.cascade

end TurnTaking
