import TurnTaking.Fault
import TurnTaking.Store.Table
import TurnTaking.Store.Tables

/-!
# Access — statements on a store

A program reads and writes the store by statements, each on one table. A statement takes effect as a
whole or not at all. It fails if the store is poisoned, if the database refuses it, if its table is
missing, if it writes what may only be read, or for a reason that it finds in the rows. A statement that
fails changes no table.

* `statement` — one statement that writes;
* `query` — one that only reads;
* `atomically` — a group of statements that takes effect as a whole or not at all.
-/

namespace TurnTaking

open Store

/-- A store as one process sees it. -/
structure Store where
  tables : Store.Tables
  /-- A task failed while it held the store: every statement fails from now on. -/
  poisoned : Bool
  /-- Which of the coming statements the database refuses, and why; none after the end of the
  list. -/
  outages : List (Option String)
  /-- The number of statements that failed so far. -/
  failures : Nat
  /-- Nothing may be written. -/
  readOnly : Bool
deriving DecidableEq, Repr, Inhabited

namespace Store

/-- A store with these tables and without trouble. -/
def ofTables (t : Tables) : Store := ⟨t, false, [], 0, false⟩

def new : Store := ofTables .empty

/-- A program over a store. What it changed before a fault stays changed. -/
abbrev Access := ExceptT Fault (StateM Store)

namespace Access

/-- The store after a statement failed. -/
def failed (s : Store) : Store := { s with failures := s.failures + 1 }

/-- Whether the database takes the next statement, and the store after that decision. -/
def attempt (s : Store) : Except Fault Unit × Store :=
  if s.poisoned then (.error .poisoned, failed s)
  else match s.outages with
    | some reason :: rest => (.error (.statement (.refused reason)), failed { s with outages := rest })
    | none :: rest => (.ok (), { s with outages := rest })
    | [] => (.ok (), s)

def onRows {ρ α : Type} (r : Relation ρ) (f : List ρ → Except StatementFault (α × List ρ))
    (t : Tables) : Except StatementFault (α × Tables) :=
  match r.get t with
  | none => .error (.missingTable r.name)
  | some rows => (f rows).map fun result => (result.1, r.set t (some result.2))

/-- The fault of what is written where nothing may be. -/
def notWritable : StatementFault := .refused "attempt to write a readonly database"

/-- Whether a store may be written. -/
def writable (s : Store) : Except StatementFault Unit :=
  if s.readOnly then .error notWritable else .ok ()

/-- One statement on a table that writes. -/
def statement {ρ α : Type} (r : Relation ρ) (f : List ρ → Except StatementFault (α × List ρ)) :
    Access α := ExceptT.mk fun s =>
  match attempt s with
  | (.error e, s) => (.error e, s)
  | (.ok (), s) =>
    match onRows r (fun rows => (writable s).bind fun _ => f rows) s.tables with
    | .error cause => (.error (.statement cause), failed s)
    | .ok (a, t) => (.ok a, { s with tables := t })

/-- A statement that changes rows and cannot fail by what it finds. -/
def change {ρ α : Type} (r : Relation ρ) (f : List ρ → α × List ρ) : Access α :=
  statement r fun rows => .ok (f rows)

def query {ρ α : Type} (r : Relation ρ) (f : List ρ → Except StatementFault α) : Access α :=
  ExceptT.mk fun s =>
    match attempt s with
    | (.error e, s) => (.error e, s)
    | (.ok (), s) =>
      match onRows r (fun rows => (f rows).map fun a => (a, rows)) s.tables with
      | .error cause => (.error (.statement cause), failed s)
      | .ok (a, _) => (.ok a, s)

/-- What a statement returned, read after it took effect. -/
def ofReading {α : Type} (result : Except StatementFault α) : Access α := ExceptT.mk fun s =>
  match result with
  | .ok a => (.ok a, s)
  | .error cause => (.error (.statement cause), failed s)

/-- The end of a group of statements. -/
def mark : Access Unit := ExceptT.mk attempt

/-- The beginning of a group of statements, of which some may write. -/
def markWriting : Access Unit := do
  mark
  ofReading (writable (← get))

/-- A group of statements that takes effect as a whole: a fault anywhere in it, its end included,
puts the tables back to what they were at its beginning. -/
def atomically {α : Type} (act : Access α) : Access α := ExceptT.mk fun s =>
  match markWriting.run s with
  | (.error e, s') => (.error e, s')
  | (.ok (), s') =>
    match (do let a ← act; mark; return a : Access α).run s' with
    | (.ok a, s'') => (.ok a, s'')
    | (.error e, s'') => (.error e, { s'' with tables := s.tables })

end Access

end Store

end TurnTaking
