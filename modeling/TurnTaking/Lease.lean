import TurnTaking.Numeral.Word
import TurnTaking.Store.Access
import TurnTaking.Store.Reading
import TurnTaking.Text.Quoted

/-!
# Leases — one turn per avatar and tick

Whoever wants to run a turn of an avatar in a tick takes the lease first. It can be taken once, and it
is settled once, as completed or as failed; another turn needs another tick. Sweeps and messages thus
never run the same turn twice.
-/

namespace TurnTaking.Lease

open Store Store.Access

/-- How far a leased turn has come. -/
inductive Status where
  | pending
  | completed
  | failed
deriving DecidableEq, Repr, Inhabited

def Status.name : Status → String
  | .pending => "pending"
  | .completed => "completed"
  | .failed => "failed"

def Status.ofName? (s : String) : Option Status :=
  [Status.pending, .completed, .failed].find? (·.name = s)

/-- Who took a lease. -/
inductive Mode where
  /-- A sweep. -/
  | ambient
  /-- A message that must be answered. -/
  | priority
  /-- Any other message. -/
  | fastlane
deriving DecidableEq, Repr, Inhabited

def Mode.name : Mode → String
  | .ambient => "ambient"
  | .priority => "priority"
  | .fastlane => "fastlane"

def Mode.ofName? (s : String) : Option Mode :=
  [Mode.ambient, .priority, .fastlane].find? (·.name = s)

/-- What is kept with a lease about its trigger. -/
structure Origin where
  mode : Mode
  messageId : Option String
  authorId : Option String
deriving DecidableEq, Repr, Inhabited

namespace Origin

def ambient : Origin := ⟨.ambient, none, none⟩

def ofMessage (mode : Mode) (messageId authorId : String) : Origin :=
  ⟨mode, some messageId, some authorId⟩

end Origin

end Lease

/-- A lease as it is read back. -/
structure Lease where
  channelId : String
  avatarId : String
  tick : Nat
  status : Lease.Status
  mode : Lease.Mode
  createdAt : Int
  expiresAt : Int
  messageId : Option String
  authorId : Option String
  error : Option String
  finishedAt : Option Int
deriving DecidableEq, Repr, Inhabited

namespace Lease

open Store Store.Access

/-- The columns of a lease, read in the order in which a first fault is reported. -/
def readLease (r : LeaseRow) : Except StatementFault Lease := do
  let tick ← readWord 2 "tick_id" r.tick
  let status ← match Status.ofName? r.status with
    | some status => pure status
    | none => throw (.unknownLeaseValue 3 (Text.quoted r.status))
  let mode ← match Mode.ofName? r.mode with
    | some mode => pure mode
    | none => throw (.unknownLeaseValue 4 (Text.quoted r.mode))
  return {
    channelId := r.channelId
    avatarId := r.avatarId
    tick := tick
    status := status
    mode := mode
    createdAt := ← readNumber 5 "created_at" r.createdAt
    expiresAt := ← readNumber 6 "lease_expires_at" r.expiresAt
    messageId := r.messageId
    authorId := r.authorId
    error := r.error
    finishedAt := ← readOptional 10 "finished_at" r.finishedAt }

/-- The key under which the lease of an avatar's turn is stored. -/
def rowKey (channel avatar : String) (tick : Nat) : String × String × Cell :=
  (channel, avatar, .number (ofWord tick))

/-- Takes the lease for `ttl` milliseconds; says whether it was free. -/
def tryTake (ttl : Int) (channel avatar : String) (tick : Nat) (origin : Origin) (now : Int) :
    Access Bool :=
  change .leases <| Table.add LeaseRow.key {
    channelId := channel, avatarId := avatar, tick := .number (ofWord tick),
    status := Status.pending.name, mode := origin.mode.name, createdAt := .number now,
    expiresAt := .number (Numeral.wrapped (now + ttl)), messageId := origin.messageId,
    authorId := origin.authorId, error := none, finishedAt := none }

/-- Settles a pending lease at the time `clock`; says whether it was pending. -/
def settle (channel avatar : String) (tick : Nat) (status : Status) (error : Option String)
    (clock : Int) : Access Bool := do
  let changed ← change .leases <| Table.amend
    (fun r => r.key = rowKey channel avatar tick && r.status = Status.pending.name)
    fun r => { r with status := status.name, error := error, finishedAt := some (.number clock) }
  return changed = 1

/-- Settles a pending lease as completed. -/
def complete (channel avatar : String) (tick : Nat) (clock : Int) : Access Bool :=
  settle channel avatar tick .completed none clock

/-- Settles a pending lease as failed, with a reason. -/
def fail (channel avatar : String) (tick : Nat) (reason : String) (clock : Int) : Access Bool :=
  settle channel avatar tick .failed (some reason) clock

/-- The lease of an avatar's turn, if it was taken. -/
def find? (channel avatar : String) (tick : Nat) : Access (Option Lease) :=
  query .leases fun rows =>
    readRow? readLease (Table.lookup LeaseRow.key (rowKey channel avatar tick) rows)

/-- Whether a row's avatar comes no later than another's. -/
def byAvatar (r s : LeaseRow) : Bool := !(s.avatarId < r.avatarId)

def inTick (channel : String) (tick : Nat) : Access (List Lease) :=
  query .leases fun rows => readRows readLease <|
    (rows.filter fun r => r.channelId = channel && r.tick = .number (ofWord tick)).mergeSort byAvatar

/-- Removes the leases that expired before now, and counts them. -/
def purgeExpired (now : Int) : Access Nat :=
  change .leases (Table.remove fun r => r.expiresAt.below (.number now))

/-- A lease that its holder has yet to settle. -/
structure Guard where
  channelId : String
  avatarId : String
  tick : Nat
deriving DecidableEq, Repr, Inhabited

/-- Takes the lease, if it is free, with the duty to settle it. -/
def acquire? (ttl : Int) (channel avatar : String) (tick : Nat) (origin : Origin) (now : Int) :
    Access (Option Guard) := do
  if ← tryTake ttl channel avatar tick origin now then return some ⟨channel, avatar, tick⟩
  else return none

namespace Guard

/-- Settles the lease as completed. -/
def complete (g : Guard) (clock : Int) : Access Unit := do
  let _ ← Lease.complete g.channelId g.avatarId g.tick clock

def fail (g : Guard) (reason : String) (clock : Int) : Access Unit := do
  let _ ← Lease.fail g.channelId g.avatarId g.tick reason clock

/-- Gives the lease up without an outcome, which settles it as failed. -/
def abandon (g : Guard) (clock : Int) : Access Unit := g.fail "abandoned" clock

end Guard

end Lease

end TurnTaking
