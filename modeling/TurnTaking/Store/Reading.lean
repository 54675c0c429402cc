import TurnTaking.Fault
import TurnTaking.Json.Decode
import TurnTaking.Json.Reader
import TurnTaking.Json.Writer
import TurnTaking.Store.Cell

/-!
# Reading columns

How a stored value is read as the value that a program works with, and the fault if it cannot be.
Columns are counted from zero in the order in which the program asks for them.
-/

namespace TurnTaking.Store

def readNumber (column : Nat) (name : String) : Cell → Except StatementFault Int
  | .number n => .ok n
  | .real _ => .error (.wrongType .real column name)
  | .text _ => .error (.wrongType .text column name)

/-- A text in a column that may be empty and must not be. -/
def readText (column : Nat) (name : String) : Option String → Except StatementFault String
  | some s => .ok s
  | none => .error (.wrongType .null column name)

/-- A number in a column that may be empty. -/
def readOptional (column : Nat) (name : String) :
    Option Cell → Except StatementFault (Option Int)
  | none => .ok none
  | some c => (readNumber column name c).map some

/-- A natural number of 32 bits in a column. -/
def readNat32 (column : Nat) (name : String) (c : Cell) : Except StatementFault Nat := do
  let n ← readNumber column name c
  if 0 ≤ n ∧ n < 0x100000000 then return n.toNat else throw (.outOfRange n column)

def readWord (column : Nat) (name : String) (c : Cell) : Except StatementFault Nat :=
  (readNumber column name c).map toWord

def texts? (s : String) : Option (List String) := (Json.read? s).bind (Json.asList? Json.asText?)

/-- The stored form of a list of texts. -/
def ofTexts (l : List String) : String := Json.write (Json.ofList Json.ofText l)

def readTexts (column : Nat) (s : String) : Except StatementFault (List String) :=
  match texts? s with
  | some l => .ok l
  | none => .error (.unreadableList column)

/-- Reads every row, and fails at the first that cannot be read. -/
def readRows {ρ α : Type} (read : ρ → Except StatementFault α) :
    List ρ → Except StatementFault (List α)
  | [] => .ok []
  | r :: rest => do
    let a ← read r
    let as ← readRows read rest
    return a :: as

/-- Reads a row that may be missing. -/
def readRow? {ρ α : Type} (read : ρ → Except StatementFault α) :
    Option ρ → Except StatementFault (Option α)
  | none => .ok none
  | some r => (read r).map some

def readRow {ρ α : Type} (read : ρ → Except StatementFault α) :
    Option ρ → Except StatementFault α
  | none => .error .noRow
  | some r => read r

end TurnTaking.Store
