import TurnTaking.Store.Access
import TurnTaking.Store.Reading

/-!
# Activity — who was heard where, and when

For each channel the store keeps when it last saw a message, one of a person and one of a bot, what it
is about, which people were seen in it, and which avatar sent which message. The times of a channel
only move forward, so messages may be recorded in any order.
-/

namespace TurnTaking

/-- What is known of a channel's messages. -/
structure Activity where
  channelId : String
  lastMessageAt : Int
  lastHumanAt : Option Int
  lastBotAt : Option Int
  /-- The trigger that the last bot message answered. -/
  lastBotTrigger : Option String
deriving DecidableEq, Repr, Inhabited

namespace Activity

open Store Store.Access

/-- The later of a moment that may not have come, where that counts as zero, and another. -/
def laterOf (old : Option Cell) (new : Cell) : Cell := (old.getD (.number 0)).greater new

/-- Records a person's message, for the channel and for the person at once. -/
def recordHuman (channel user : String) (now : Int) : Access Unit :=
  atomically do
    change .activity fun rows => ((), Table.put ActivityRow.key
      ⟨some channel, .number now, some now, none, none⟩ (fun r => { r with
        lastMessageAt := r.lastMessageAt.greater now, lastHumanAt := laterOf r.lastHumanAt now }) rows)
    change .humans fun rows => ((), Table.put HumanRow.key ⟨channel, user, .number now⟩
      (fun r => { r with lastSeenAt := r.lastSeenAt.greater now }) rows)

/-- Records a bot message that answered the trigger of this key. Of several messages the latest gives
the channel its trigger, of equally late ones the one recorded last. -/
def recordBot (channel key : String) (now : Int) : Access Unit :=
  change .activity fun rows => ((), Table.put ActivityRow.key
    ⟨some channel, .number now, none, some now, some key⟩ (fun r => { r with
      lastMessageAt := r.lastMessageAt.greater now
      lastBotTrigger :=
        if (r.lastBotAt.getD (.number 0)).upTo now then some key else r.lastBotTrigger
      lastBotAt := laterOf r.lastBotAt now }) rows)

/-- The columns of an activity row, read in the order in which a first fault is reported. -/
def readActivity (r : ActivityRow) : Except StatementFault Activity := do
  return {
    channelId := ← readText 0 "channel_id" r.channelId
    lastMessageAt := ← readNumber 1 "last_message_at" r.lastMessageAt
    lastHumanAt := ← readOptional 2 "last_human_at" r.lastHumanAt
    lastBotAt := ← readOptional 3 "last_bot_at" r.lastBotAt
    lastBotTrigger := r.lastBotTrigger }

/-- What is known of the channel's messages, if there were any. -/
def find? (channel : String) : Access (Option Activity) :=
  query .activity fun rows => readRow? readActivity (Table.lookup ActivityRow.key (some channel) rows)

/-- Whether a channel comes no later than another: the latest message first, then by id. -/
def byRecency (r s : ActivityRow) : Bool :=
  ((s.lastMessageAt.order r.lastMessageAt).then (compare r.channelId s.channelId)) ≠ .gt

/-- The most recently active channels, at most `limit` of them. A limit of `2 ^ 63` or more is no
limit. -/
def recentChannels (limit : Nat) : Access (List String) :=
  query .activity fun rows =>
    let channels := (rows.mergeSort byRecency).map ActivityRow.channelId
    readRows (readText 0 "channel_id")
      (if limit < 0x8000000000000000 then channels.take limit else channels)

/-- The number of people that were seen in the channel at a time or later. -/
def activeHumans (channel : String) (since : Int) : Access Nat :=
  query .humans fun rows =>
    .ok (rows.countP fun r => r.channelId = channel && (Cell.number since).upTo r.lastSeenAt)

/-- Removes the people last seen before a time, and counts them. -/
def purgeHumans (before : Int) : Access Nat :=
  change .humans (Table.remove fun r => r.lastSeenAt.below (.number before))

/-- Replaces what the channel is about. -/
def setTopics (channel : String) (topics : TagSet) (now : Int) : Access Unit :=
  let stored := ofTexts topics.toList
  change .topics fun rows => ((), Table.put TopicsRow.key ⟨some channel, stored, .number now⟩
    (fun r => { r with topics := stored, updatedAt := now }) rows)

/-- What the channel is about; nothing, where that was never set. -/
def topics (channel : String) : Access TagSet := do
  let stored ← query .topics fun rows =>
    .ok ((Table.lookup TopicsRow.key (some channel) rows).map TopicsRow.topics)
  match stored with
  | none => return .empty
  | some s =>
    match texts? s with
    | some l => return TagSet.ofList l
    | none => throw .json

def recordSent (message channel avatar : String) (now : Int) : Access Unit :=
  change .sent fun rows =>
    ((), Table.replace SentRow.key ⟨some message, channel, avatar, .number now⟩ rows)

def sender? (message : String) : Access (Option String) :=
  query .sent fun rows => .ok ((Table.lookup SentRow.key (some message) rows).map SentRow.avatarId)

/-- Removes the records of messages sent before a time, and counts them. -/
def purgeSent (before : Int) : Access Nat :=
  change .sent (Table.remove fun r => r.sentAt.below (.number before))

end Activity

end TurnTaking
