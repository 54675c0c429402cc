import TurnTaking.Numeral.Word
import TurnTaking.Store.Access
import TurnTaking.Store.Reading

/-!
# Threads — avatars that talk to each other

A thread lets its participants speak in turn, for a number of turns and as long as each comes in time.
A channel has one thread at most: opening another replaces it.
-/

namespace TurnTaking

/-- A conversation of several avatars. -/
structure Thread where
  /-- Also the token that a continuing turn is given. -/
  id : String
  channelId : String
  participants : List String
  lastSpeaker : Option String
  turnsRemaining : Nat
  createdAt : Int
  expiresAt : Int
deriving DecidableEq, Repr, Inhabited

namespace Thread

/-- Whether turns and time are left. -/
def isOpen (t : Thread) (now : Int) : Bool := 0 < t.turnsRemaining && now < t.expiresAt

/-- The participant after the last speaker, in a circle; the first one, if the last speaker is none of
them. -/
def successor? (t : Thread) : Option String :=
  match t.lastSpeaker with
  | none => t.participants.head?
  | some last =>
    match t.participants.idxOf? last with
    | some i => t.participants[(i + 1) % t.participants.length]?
    | none => t.participants.head?

/-- The participant whose turn it is. Nobody follows themselves. -/
def nextParticipant (t : Thread) : Option String :=
  t.successor?.filter fun next => t.lastSpeaker ≠ some next

open Store Store.Access

/-- The columns of a thread, read in the order in which a first fault is reported. -/
def readThread (r : ThreadRow) : Except StatementFault Thread := do
  let id ← readText 0 "thread_id" r.threadId
  let participants ← readTexts 2 r.participants
  return {
    id := id
    channelId := r.channelId
    participants := participants
    lastSpeaker := r.lastSpeaker
    turnsRemaining := ← readNat32 4 "turns_remaining" r.turnsRemaining
    createdAt := ← readNumber 5 "created_at" r.createdAt
    expiresAt := ← readNumber 6 "expires_at" r.expiresAt }

/-- The stored form of a thread. -/
def toRow (t : Thread) : ThreadRow :=
  ⟨some t.id, t.channelId, ofTexts t.participants, t.lastSpeaker, .number t.turnsRemaining,
    .number t.createdAt, .number t.expiresAt⟩

/-- How many turns a new thread has, and for how long each turn may be awaited. -/
structure Terms where
  turns : Nat
  ttl : Int
deriving DecidableEq, Repr, Inhabited

/-- Opens a thread under an id of its own, in place of the channel's thread. -/
def start (terms : Terms) (id channel : String) (participants : List String)
    (lastSpeaker : Option String) (now : Int) : Access Thread := do
  let thread : Thread :=
    ⟨id, channel, participants, lastSpeaker, terms.turns, now, Numeral.wrapped (now + terms.ttl)⟩
  atomically do
    let _ ← change .threads (Table.remove fun r => r.channelId = channel)
    statement .threads fun rows =>
      let (added, rows) := Table.add ThreadRow.key thread.toRow rows
      if added then .ok ((), rows) else .error (.duplicateKey "conversation_threads.thread_id")
  return thread

/-- Whether a row's thread was opened no earlier than another's. -/
def byAge (r s : ThreadRow) : Bool := s.createdAt.upTo r.createdAt

/-- Whether turns and time are left by a thread's row. -/
def rowIsOpen (now : Int) (r : ThreadRow) : Bool :=
  (Cell.number 0).below r.turnsRemaining && (Cell.number now).below r.expiresAt

def active? (channel : String) (now : Int) : Access (Option Thread) :=
  query .threads fun rows => readRow? readThread <|
    ((rows.filter fun r => r.channelId = channel && rowIsOpen now r).mergeSort byAge).head?

def find? (id : String) : Access (Option Thread) :=
  query .threads fun rows => readRow? readThread (Table.lookup ThreadRow.key (some id) rows)

/-- Records a participant's turn and waits for the next; says whether a turn was left. -/
def recordTurn (ttl : Int) (id speaker : String) (now : Int) : Access Bool := do
  let changed ← change .threads <| Table.amend
    (fun r => r.threadId = some id && (Cell.number 0).below r.turnsRemaining)
    fun r => { r with
      lastSpeaker := some speaker, turnsRemaining := r.turnsRemaining.plus (-1)
      expiresAt := .number (Numeral.wrapped (now + ttl)) }
  return changed = 1

def close (id : String) : Access Unit := do
  let _ ← change .threads (Table.remove fun r => r.threadId = some id)

/-- Removes the threads without time or turns left, and counts them. -/
def purge (now : Int) : Access Nat :=
  change .threads (Table.remove fun r =>
    r.expiresAt.upTo (.number now) || r.turnsRemaining.upTo (.number 0))

end Thread

end TurnTaking
