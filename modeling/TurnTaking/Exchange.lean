import TurnTaking.Avatar
import TurnTaking.Json.Decode
import TurnTaking.Json.Reader
import TurnTaking.Json.Writer
import TurnTaking.Message
import TurnTaking.Presence.Record

/-!
# Exchanged forms

Avatars, messages and presence records as JSON values: `toJson` writes every field, `ofJson?` accepts
what the readings of `TurnTaking.Json` accept, so that missing optional fields, `null`s, unknown
fields and structures written as arrays all come to one value.
-/

namespace TurnTaking

open Json

namespace Avatar

def fieldNames : List String := ["id", "name", "emoji", "aliases", "channel_id"]

def toJson (a : Avatar) : Json := ofMembers [
  ("id", ofText a.id), ("name", ofText a.name), ("emoji", ofOption ofText a.emoji),
  ("aliases", ofList ofText a.aliases), ("channel_id", ofOption ofText a.channelId)]

def ofJson? (v : Json) : Option Avatar := do
  let fs ← fields? fieldNames v
  return {
    id := ← fs.required "id" 0 asText?
    name := ← fs.required "name" 1 asText?
    emoji := ← fs.withDefault "emoji" 2 (asOption? asText?) none
    aliases := ← fs.withDefault "aliases" 3 (asList? asText?) []
    channelId := ← fs.withDefault "channel_id" 4 (asOption? asText?) none }

end Avatar

namespace MessageRef

def fieldNames : List String := ["message_id", "author_id"]

def toJson (r : MessageRef) : Json := ofMembers [
  ("message_id", ofText r.messageId), ("author_id", ofOption ofText r.authorId)]

def ofJson? (v : Json) : Option MessageRef := do
  let fs ← fields? fieldNames v
  return {
    messageId := ← fs.required "message_id" 0 asText?
    authorId := ← fs.withDefault "author_id" 1 (asOption? asText?) none }

end MessageRef

namespace Message

def fieldNames : List String :=
  ["id", "channel_id", "author_id", "author_is_bot", "content", "reply_to", "created_at"]

def toJson (m : Message) : Json := ofMembers [
  ("id", ofText m.id), ("channel_id", ofText m.channelId), ("author_id", ofText m.authorId),
  ("author_is_bot", .bool m.authorIsBot), ("content", ofText m.content),
  ("reply_to", ofOption MessageRef.toJson m.replyTo), ("created_at", ofInt m.createdAt)]

def ofJson? (v : Json) : Option Message := do
  let fs ← fields? fieldNames v
  return {
    id := ← fs.required "id" 0 asText?
    channelId := ← fs.required "channel_id" 1 asText?
    authorId := ← fs.required "author_id" 2 asText?
    authorIsBot := ← fs.withDefault "author_is_bot" 3 asBool? false
    content := ← fs.required "content" 4 asText?
    replyTo := ← fs.withDefault "reply_to" 5 (asOption? MessageRef.ofJson?) none
    createdAt := ← fs.required "created_at" 6 asInt64? }

end Message

namespace Presence.Record

def fieldNames : List String :=
  ["channel_id", "avatar_id", "state", "last_turn_at", "last_mentioned_at", "last_summoned_at",
    "new_summon_turns_remaining", "priority_pins", "topic_tags", "conversation_role",
    "cooldown_until", "turns_taken", "updated_at"]

def toJson (r : Record) : Json := ofMembers [
  ("channel_id", ofText r.channelId), ("avatar_id", ofText r.avatarId),
  ("state", ofText r.state.name), ("last_turn_at", ofOption ofInt r.lastTurnAt),
  ("last_mentioned_at", ofOption ofInt r.lastMentionedAt),
  ("last_summoned_at", ofOption ofInt r.lastSummonedAt),
  ("new_summon_turns_remaining", ofInt r.summonTurns), ("priority_pins", ofInt r.priorityPins),
  ("topic_tags", ofTagSet r.topicTags),
  ("conversation_role", ofOption (fun role => ofText role.name) r.role),
  ("cooldown_until", ofOption ofInt r.cooldownUntil), ("turns_taken", ofInt r.turnsTaken),
  ("updated_at", ofInt r.updatedAt)]

def ofJson? (v : Json) : Option Record := do
  let fs ← fields? fieldNames v
  return {
    channelId := ← fs.required "channel_id" 0 asText?
    avatarId := ← fs.required "avatar_id" 1 asText?
    state := ← fs.required "state" 2 (asName? State.ofName?)
    lastTurnAt := ← fs.optional "last_turn_at" 3 asInt64?
    lastMentionedAt := ← fs.optional "last_mentioned_at" 4 asInt64?
    lastSummonedAt := ← fs.optional "last_summoned_at" 5 asInt64?
    summonTurns := ← fs.required "new_summon_turns_remaining" 6 asNat32?
    priorityPins := ← fs.required "priority_pins" 7 asNat32?
    topicTags := ← fs.required "topic_tags" 8 asTagSet?
    role := ← fs.optional "conversation_role" 9 (asName? Role.ofName?)
    cooldownUntil := ← fs.optional "cooldown_until" 10 asInt64?
    turnsTaken := ← fs.required "turns_taken" 11 asNat64?
    updatedAt := ← fs.required "updated_at" 12 asInt64? }

end Presence.Record

end TurnTaking
