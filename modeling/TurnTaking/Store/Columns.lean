import TurnTaking.Fault
import TurnTaking.Store.Table
import TurnTaking.Store.Tables

/-!
# Columns — tables seen from outside

Every table as named columns: to show its rows by primary key, and to overwrite a column of rows. A
value that is written is turned into what the column holds: text columns hold text, integer columns
turn text into the number that it spells. Small and capital letters of a name are the same.
-/

namespace TurnTaking.Store

/-- A value of a column. -/
inductive Value where
  | null
  | number (n : Int)
  | real (x : Numeral.Binary)
  | text (s : String)
deriving DecidableEq, Repr, Inhabited

namespace Value

def ofCell : Cell → Value
  | .number n => .number n
  | .real x => .real x
  | .text s => .text s

/-- The value as text; none for `null` and for a number that no text column holds. -/
def asText? : Value → Option String
  | .null | .real _ => none
  | .number n => some (toString n)
  | .text s => some s

def asCell? : Value → Option Cell
  | .null => none
  | .number n => some (.number n)
  | .real x => some (.real x)
  | .text s => some (Cell.ofText s)

/-- The value as it is, without a column that changes it; none for `null`. -/
def bare? : Value → Option Cell
  | .null => none
  | .number n => some (.number n)
  | .real x => some (.real x)
  | .text s => some (.text s)

/-- The order of values: `null`, then numbers, then texts. -/
def order (u v : Value) : Ordering :=
  match u.bare?, v.bare? with
  | none, none => .eq
  | none, some _ => .lt
  | some _, none => .gt
  | some a, some b => a.order b

end Value

/-- Whether two names are the same up to the case of their letters. -/
def sameName (a b : String) : Bool := a.toList.map Char.toLower = b.toList.map Char.toLower

/-- A column of a table. -/
structure Column (ρ : Type) where
  name : String
  read : ρ → Value
  /-- The row with another value in the column; none, if the column cannot hold it. -/
  write : Value → ρ → Option ρ
  /-- The value that the column would hold. -/
  adapt : Value → Value

namespace Column

variable {ρ : Type}

def text (name : String) (get : ρ → String) (set : ρ → String → ρ) : Column ρ where
  name := name
  read r := .text (get r)
  write v r := v.asText?.map (set r)
  adapt v := (v.asText?.map Value.text).getD .null

def text? (name : String) (get : ρ → Option String) (set : ρ → Option String → ρ) : Column ρ where
  name := name
  read r := ((get r).map Value.text).getD .null
  write v r := some (set r v.asText?)
  adapt v := (v.asText?.map Value.text).getD .null

def number (name : String) (get : ρ → Cell) (set : ρ → Cell → ρ) : Column ρ where
  name := name
  read r := .ofCell (get r)
  write v r := v.asCell?.map (set r)
  adapt v := (v.asCell?.map Value.ofCell).getD .null

/-- An integer column that may be empty. -/
def number? (name : String) (get : ρ → Option Cell) (set : ρ → Option Cell → ρ) : Column ρ where
  name := name
  read r := ((get r).map Value.ofCell).getD .null
  write v r := some (set r v.asCell?)
  adapt v := (v.asCell?.map Value.ofCell).getD .null

end Column

def presenceColumns : List (Column PresenceRow) := [
  .text "channel_id" (·.channelId) fun r v => { r with channelId := v },
  .text "avatar_id" (·.avatarId) fun r v => { r with avatarId := v },
  .text "state" (·.state) fun r v => { r with state := v },
  .number? "last_turn_at" (·.lastTurnAt) fun r v => { r with lastTurnAt := v },
  .number? "last_mentioned_at" (·.lastMentionedAt) fun r v => { r with lastMentionedAt := v },
  .number? "last_summoned_at" (·.lastSummonedAt) fun r v => { r with lastSummonedAt := v },
  .number "new_summon_turns_remaining" (·.summonTurns) fun r v => { r with summonTurns := v },
  .number "priority_pins" (·.priorityPins) fun r v => { r with priorityPins := v },
  .text "topic_tags" (·.topicTags) fun r v => { r with topicTags := v },
  .text? "conversation_role" (·.role) fun r v => { r with role := v },
  .number? "cooldown_until" (·.cooldownUntil) fun r v => { r with cooldownUntil := v },
  .number "turns_taken" (·.turnsTaken) fun r v => { r with turnsTaken := v },
  .number "updated_at" (·.updatedAt) fun r v => { r with updatedAt := v }]

def tickColumns : List (Column TickRow) := [
  .text? "channel_id" (·.channelId) fun r v => { r with channelId := v },
  .number "tick_id" (·.tick) fun r v => { r with tick := v },
  .number "last_tick_at" (·.lastTickAt) fun r v => { r with lastTickAt := v }]

def leaseColumns : List (Column LeaseRow) := [
  .text "channel_id" (·.channelId) fun r v => { r with channelId := v },
  .text "avatar_id" (·.avatarId) fun r v => { r with avatarId := v },
  .number "tick_id" (·.tick) fun r v => { r with tick := v },
  .text "status" (·.status) fun r v => { r with status := v },
  .text "mode" (·.mode) fun r v => { r with mode := v },
  .number "created_at" (·.createdAt) fun r v => { r with createdAt := v },
  .number "lease_expires_at" (·.expiresAt) fun r v => { r with expiresAt := v },
  .text? "message_id" (·.messageId) fun r v => { r with messageId := v },
  .text? "author_id" (·.authorId) fun r v => { r with authorId := v },
  .text? "error" (·.error) fun r v => { r with error := v },
  .number? "finished_at" (·.finishedAt) fun r v => { r with finishedAt := v }]

def lockColumns : List (Column LockRow) := [
  .text "channel_id" (·.channelId) fun r v => { r with channelId := v },
  .text "avatar_id" (·.avatarId) fun r v => { r with avatarId := v },
  .number "acquired_at" (·.acquiredAt) fun r v => { r with acquiredAt := v },
  .number "expires_at" (·.expiresAt) fun r v => { r with expiresAt := v }]

def activityColumns : List (Column ActivityRow) := [
  .text? "channel_id" (·.channelId) fun r v => { r with channelId := v },
  .number "last_message_at" (·.lastMessageAt) fun r v => { r with lastMessageAt := v },
  .number? "last_human_at" (·.lastHumanAt) fun r v => { r with lastHumanAt := v },
  .number? "last_bot_at" (·.lastBotAt) fun r v => { r with lastBotAt := v },
  .text? "last_bot_trigger" (·.lastBotTrigger) fun r v => { r with lastBotTrigger := v }]

def topicsColumns : List (Column TopicsRow) := [
  .text? "channel_id" (·.channelId) fun r v => { r with channelId := v },
  .text "topics" (·.topics) fun r v => { r with topics := v },
  .number "updated_at" (·.updatedAt) fun r v => { r with updatedAt := v }]

def humanColumns : List (Column HumanRow) := [
  .text "channel_id" (·.channelId) fun r v => { r with channelId := v },
  .text "user_id" (·.userId) fun r v => { r with userId := v },
  .number "last_seen_at" (·.lastSeenAt) fun r v => { r with lastSeenAt := v }]

def sentColumns : List (Column SentRow) := [
  .text? "message_id" (·.messageId) fun r v => { r with messageId := v },
  .text "channel_id" (·.channelId) fun r v => { r with channelId := v },
  .text "avatar_id" (·.avatarId) fun r v => { r with avatarId := v },
  .number "sent_at" (·.sentAt) fun r v => { r with sentAt := v }]

def responderColumns : List (Column ResponderRow) := [
  .text "trigger_key" (·.triggerKey) fun r v => { r with triggerKey := v },
  .text "avatar_id" (·.avatarId) fun r v => { r with avatarId := v },
  .text "channel_id" (·.channelId) fun r v => { r with channelId := v },
  .number "created_at" (·.createdAt) fun r v => { r with createdAt := v }]

/-- A thread's columns, shown with the channel first. -/
def threadColumns : List (Column ThreadRow) := [
  .text "channel_id" (·.channelId) fun r v => { r with channelId := v },
  .text? "thread_id" (·.threadId) fun r v => { r with threadId := v },
  .text "participants" (·.participants) fun r v => { r with participants := v },
  .text? "last_speaker" (·.lastSpeaker) fun r v => { r with lastSpeaker := v },
  .number "turns_remaining" (·.turnsRemaining) fun r v => { r with turnsRemaining := v },
  .number "created_at" (·.createdAt) fun r v => { r with createdAt := v },
  .number "expires_at" (·.expiresAt) fun r v => { r with expiresAt := v }]

def sessionColumns : List (Column SessionRow) := [
  .text "channel_id" (·.channelId) fun r v => { r with channelId := v },
  .text "user_id" (·.userId) fun r v => { r with userId := v },
  .text "avatar_id" (·.avatarId) fun r v => { r with avatarId := v },
  .number "started_at" (·.startedAt) fun r v => { r with startedAt := v },
  .number "last_activity_at" (·.lastActivityAt) fun r v => { r with lastActivityAt := v },
  .number "turns" (·.turns) fun r v => { r with turns := v }]

def affinityColumns : List (Column AffinityRow) := [
  .text "channel_id" (·.channelId) fun r v => { r with channelId := v },
  .text "user_id" (·.userId) fun r v => { r with userId := v },
  .text "avatar_id" (·.avatarId) fun r v => { r with avatarId := v },
  .number "expires_at" (·.expiresAt) fun r v => { r with expiresAt := v }]

/-- A table with its columns and its key, as far as the world outside sees it. -/
structure Sheet where
  Row : Type
  Key : Type
  decEq : DecidableEq Key
  /-- A row in which every column is yet to be written. -/
  blank : Row
  relation : Relation Row
  columns : List (Column Row)
  /-- The key of a row, if it has one. -/
  key : Row → Option Key
  /-- How many leading columns order the rows. -/
  ordered : Nat
  /-- The key's columns, as a violation of its uniqueness names them. -/
  keyColumns : List String

def sheets : List Sheet := [
  ⟨_, _, inferInstance, default, .presence, presenceColumns, fun r => some r.key, 2,
    ["channel_id", "avatar_id"]⟩,
  ⟨_, _, inferInstance, default, .ticks, tickColumns, TickRow.key, 1, ["channel_id"]⟩,
  ⟨_, _, inferInstance, default, .leases, leaseColumns, fun r => some r.key, 3,
    ["channel_id", "avatar_id", "tick_id"]⟩,
  ⟨_, _, inferInstance, default, .locks, lockColumns, fun r => some r.key, 2,
    ["channel_id", "avatar_id"]⟩,
  ⟨_, _, inferInstance, default, .activity, activityColumns, ActivityRow.key, 1, ["channel_id"]⟩,
  ⟨_, _, inferInstance, default, .topics, topicsColumns, TopicsRow.key, 1, ["channel_id"]⟩,
  ⟨_, _, inferInstance, default, .humans, humanColumns, fun r => some r.key, 2,
    ["channel_id", "user_id"]⟩,
  ⟨_, _, inferInstance, default, .sent, sentColumns, SentRow.key, 1, ["message_id"]⟩,
  ⟨_, _, inferInstance, default, .responders, responderColumns, fun r => some r.key, 2,
    ["trigger_key", "avatar_id"]⟩,
  ⟨_, _, inferInstance, default, .threads, threadColumns, ThreadRow.key, 1, ["thread_id"]⟩,
  ⟨_, _, inferInstance, default, .sessions, sessionColumns, fun r => some r.key, 2,
    ["channel_id", "user_id"]⟩,
  ⟨_, _, inferInstance, default, .affinities, affinityColumns, fun r => some r.key, 2,
    ["channel_id", "user_id"]⟩]

def sheet? (name : String) : Option Sheet := sheets.find? fun s => sameName s.relation.name name

namespace Sheet

/-- Whether a list of values comes no later than another. -/
def rowOrder : List Value → List Value → Bool
  | [], _ => true
  | _, [] => true
  | u :: us, v :: vs =>
    match u.order v with
    | .lt => true
    | .gt => false
    | .eq => rowOrder us vs

/-- The values of rows, ordered by their leading columns. -/
def listing (s : Sheet) (rows : List s.Row) : List (List Value) :=
  (rows.map fun r => s.columns.map (·.read r)).mergeSort
    fun u v => rowOrder (u.take s.ordered) (v.take s.ordered)

def column? (s : Sheet) (name : String) : Option (Column s.Row) :=
  s.columns.find? fun c => sameName c.name name

/-- Whether a row holds these values in these columns. -/
def matchesAll (s : Sheet) (condition : List (String × Value)) (r : s.Row) : Bool :=
  condition.all fun (name, v) => (s.column? name).any fun c =>
    c.adapt v ≠ .null && c.read r = c.adapt v

def hasUniqueKeys (s : Sheet) (rows : List s.Row) : Bool :=
  let _ := s.decEq
  (rows.filterMap s.key).Nodup

def overwriteAll (s : Sheet) (c : Column s.Row) (v : Value) (condition : List (String × Value))
    (rows : List s.Row) : Except StatementFault (List s.Row) :=
  rows.mapM fun r =>
    if s.matchesAll condition r then
      match c.write v r with
      | some r => .ok r
      | none => .error (.missingValue s!"{s.relation.name}.{c.name}")
    else .ok r

/-- Overwrites a column of the rows that hold these values, and counts them. -/
def overwrite (s : Sheet) (column : String) (v : Value) (condition : List (String × Value))
    (rows : List s.Row) : Except StatementFault (Nat × List s.Row) := do
  let some c := s.column? column
    | throw (.missingColumn column)
  if let some unknown := (condition.map Prod.fst).find? fun name => (s.column? name).isNone then
    throw (.missingColumn unknown)
  let changed ← s.overwriteAll c v condition rows
  if s.hasUniqueKeys changed then return (rows.countP (s.matchesAll condition), changed)
  else throw (.duplicateKey
    (String.intercalate ", " (s.keyColumns.map fun k => s!"{s.relation.name}.{k}")))

end Sheet

/-- What the world outside sees of a table: its rows, or that it is missing. -/
inductive Shown where
  | missing
  | rows (values : List (List Value))
deriving DecidableEq, Repr, Inhabited

def Tables.shown (t : Tables) : List (String × Shown) :=
  sheets.filterMap fun s =>
    match s.relation.get t with
    | none => some (s.relation.name, .missing)
    | some [] => none
    | some rows => some (s.relation.name, .rows (s.listing rows))

end TurnTaking.Store
