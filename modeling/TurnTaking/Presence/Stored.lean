import TurnTaking.Numeral.Word
import TurnTaking.Presence.Record
import TurnTaking.Store.Access
import TurnTaking.Store.Reading

/-!
# Presence in the store

Presence records are made on first sight and never removed. Every change is one statement on one row
and touches only the columns that it is about, so that changes of different kinds never undo each
other; giving the floor takes it from whoever has it, in one step with the gift.
-/

namespace TurnTaking.Presence

open Store Store.Access

/-- The columns of a presence record, read in the order in which a first fault is reported. -/
def readRecord (r : PresenceRow) : Except StatementFault Record := do
  let state ← match State.ofName? r.state with
    | some state => pure state
    | none => throw (.unknownState r.state)
  let tags ← readTexts 8 r.topicTags
  return {
    channelId := r.channelId
    avatarId := r.avatarId
    state := state
    lastTurnAt := ← readOptional 3 "last_turn_at" r.lastTurnAt
    lastMentionedAt := ← readOptional 4 "last_mentioned_at" r.lastMentionedAt
    lastSummonedAt := ← readOptional 5 "last_summoned_at" r.lastSummonedAt
    summonTurns := ← readNat32 6 "new_summon_turns_remaining" r.summonTurns
    priorityPins := ← readNat32 7 "priority_pins" r.priorityPins
    topicTags := TagSet.ofList tags
    role := r.role.bind Role.ofName?
    cooldownUntil := ← readOptional 10 "cooldown_until" r.cooldownUntil
    turnsTaken := ← readWord 11 "turns_taken" r.turnsTaken
    updatedAt := ← readNumber 12 "updated_at" r.updatedAt }

def storedTags (tags : TagSet) : String := ofTexts tags.toList

/-- A row with nothing but a state. -/
def blankRow (channel avatar : String) (state : State) (now : Int) : PresenceRow :=
  { channelId := channel, avatarId := avatar, state := state.name, lastTurnAt := none,
    lastMentionedAt := none, lastSummonedAt := none, summonTurns := .number 0,
    priorityPins := .number 0, topicTags := storedTags .empty, role := none, cooldownUntil := none,
    turnsTaken := .number 0, updatedAt := .number now }

/-- Adds a row, or changes the one of the same avatar and channel. -/
def putRow (r : PresenceRow) (change : PresenceRow → PresenceRow) : Access Unit :=
  Access.change .presence fun rows => ((), Table.put PresenceRow.key r change rows)

def find? (channel avatar : String) : Access (Option Record) :=
  query .presence fun rows => readRow? readRecord (Table.lookup PresenceRow.key (channel, avatar) rows)

/-- The record of an avatar in a channel, made now as present if there is none. -/
def ensure (channel avatar : String) (now : Int) : Access Record := do
  let _ ← change .presence (Table.add PresenceRow.key (blankRow channel avatar .present now))
  query .presence fun rows => readRow readRecord (Table.lookup PresenceRow.key (channel, avatar) rows)

/-- Whether a row's avatar comes no later than another's. -/
def byAvatar (r s : PresenceRow) : Bool := !(s.avatarId < r.avatarId)

def inChannel (channel : String) : Access (List Record) :=
  query .presence fun rows =>
    readRows readRecord ((rows.filter (·.channelId = channel)).mergeSort byAvatar)

def presentIn (channel : String) : Access (List Record) := do
  return (← inChannel channel).filter Record.isPresent

/-- Records a completed turn, which makes the avatar present and starts its cooldown. -/
def recordTurn (channel avatar : String) (now cooldown : Int) : Access Unit :=
  let coolUntil : Option Cell := some (.number (Numeral.wrapped (now + cooldown)))
  putRow { blankRow channel avatar .present now with
      lastTurnAt := some now, cooldownUntil := coolUntil, turnsTaken := .number 1 } fun r =>
    { r with
      state := State.present.name, lastTurnAt := some now, cooldownUntil := coolUntil,
      turnsTaken := r.turnsTaken.plus 1, updatedAt := now }

def recordMention (channel avatar : String) (now : Int) : Access Unit :=
  putRow { blankRow channel avatar .present now with lastMentionedAt := some now } fun r =>
    { r with lastMentionedAt := some now, updatedAt := now }

/-- Summons the avatar, which makes it present and owes it a number of turns. -/
def grantSummon (channel avatar : String) (turns : Nat) (now : Int) : Access Unit :=
  putRow { blankRow channel avatar .present now with
      lastSummonedAt := some now, summonTurns := .number turns } fun r =>
    { r with
      state := State.present.name, lastSummonedAt := some now, summonTurns := .number turns,
      updatedAt := now }

/-- Spends one owed turn; says whether there was one left. -/
def consumeSummon (channel avatar : String) : Access Bool := do
  let changed ← change .presence <| Table.amend
    (fun r => r.channelId = channel && r.avatarId = avatar && (Cell.number 0).below r.summonTurns)
    fun r => { r with summonTurns := r.summonTurns.plus (-1) }
  return changed = 1

/-- Gives the avatar a role or takes its role away. Nobody else in the channel stays the active
speaker once it is given to someone. -/
def setRole (channel avatar : String) (role : Option Role) (now : Int) : Access Unit :=
  atomically do
    if role = some .activeSpeaker then
      let _ ← change .presence <| Table.amend
        (fun r => r.channelId = channel && r.role = some Role.activeSpeaker.name)
        fun r => { r with role := none }
    putRow { blankRow channel avatar .present now with role := role.map Role.name } fun r =>
      { r with role := role.map Role.name, updatedAt := now }

def addPin (channel avatar : String) (now : Int) : Access Unit :=
  putRow { blankRow channel avatar .present now with priorityPins := .number 1 } fun r =>
    { r with priorityPins := r.priorityPins.plus 1, updatedAt := now }

def clearPins (channel avatar : String) : Access Unit := do
  let _ ← change .presence <| Table.amend
    (fun r => r.channelId = channel && r.avatarId = avatar)
    fun r => { r with priorityPins := .number 0 }

/-- Replaces the avatar's topic tags. -/
def setTopics (channel avatar : String) (tags : TagSet) (now : Int) : Access Unit :=
  putRow { blankRow channel avatar .present now with topicTags := storedTags tags } fun r =>
    { r with topicTags := storedTags tags, updatedAt := now }

/-- Marks the avatar present or absent. -/
def setState (channel avatar : String) (state : State) (now : Int) : Access Unit :=
  putRow (blankRow channel avatar state now) fun r =>
    { r with state := state.name, updatedAt := now }

end TurnTaking.Presence
