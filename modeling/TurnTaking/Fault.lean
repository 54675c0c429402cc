import TurnTaking.Files.Fault

/-!
# Faults — why an operation failed

A statement of the store fails for a reason that it names; collaborators fail for reasons of their
own. `Fault.message` is the wording of each. That a lease or a lock is taken is no fault.
-/

namespace TurnTaking

/-- What a column holds where something else is asked for. -/
inductive Held where
  | null
  | real
  | text
deriving DecidableEq, Repr, Inhabited

/-- The name of what a column holds. -/
def Held.name : Held → String
  | .null => "Null"
  | .real => "Real"
  | .text => "Text"

/-- Why a statement of the store failed. Columns are counted from zero. -/
inductive StatementFault where
  | missingTable (table : String)
  | missingColumn (column : String)
  /-- A presence state that is none. -/
  | unknownState (value : String)
  /-- A lease status or mode that is none. -/
  | unknownLeaseValue (column : Nat) (shown : String)
  /-- A list column whose text is no list of texts. -/
  | unreadableList (column : Nat)
  | outOfRange (value : Int) (column : Nat)
  /-- Something else than what is asked for. -/
  | wrongType (held : Held) (column : Nat) (name : String)
  | duplicateKey (columns : String)
  | missingValue (column : String)
  /-- A row that was expected to be there. -/
  | noRow
  /-- Refused by the database for a reason of its own. -/
  | refused (reason : String)
deriving DecidableEq, Repr, Inhabited

/-- The wording of a failed statement. -/
def StatementFault.message : StatementFault → String
  | .missingTable table => s!"no such table: {table}"
  | .missingColumn column => s!"no such column: {column}"
  | .unknownState value => s!"Conversion error from type Text at index: 2, bad state {value}"
  | .unknownLeaseValue column shown =>
    s!"Conversion error from type Text at index: {column}, unknown lease value {shown}"
  | .unreadableList column => s!"Conversion error from type Text at index: {column}"
  | .outOfRange value column => s!"Integer {value} out of range at index {column}"
  | .wrongType held column name =>
    s!"Invalid column type {held.name} at index: {column}, name: {name}"
  | .duplicateKey columns => s!"UNIQUE constraint failed: {columns}"
  | .missingValue column => s!"NOT NULL constraint failed: {column}"
  | .noRow => "Query returned no rows"
  | .refused reason => reason

/-- Why an operation failed. -/
inductive Fault where
  | storage (reason : String)
  | statement (cause : StatementFault)
  | generation (reason : String)
  | transport (reason : String)
  | identity (reason : String)
  | files (cause : FileFault)
  /-- A stored text that is no JSON of the expected form. -/
  | json
deriving DecidableEq, Repr, Inhabited

namespace Fault

/-- Another task failed while it held the store, which stays unusable. -/
def poisoned : Fault := .storage "poisoned lock: another task failed inside"

def message : Fault → String
  | .storage reason => s!"Storage error: {reason}"
  | .statement cause => "SQLite error: " ++ cause.message
  | .generation reason => s!"Generation error: {reason}"
  | .transport reason => s!"Transport error: {reason}"
  | .identity reason => s!"Identity error: {reason}"
  | .files cause => "IO error: " ++ cause.message
  | .json => "JSON error"

/-- The wording of a fault, and of its cause if that lies in the file system. -/
def chain : Fault → List String
  | .files cause => [message (.files cause), cause.message]
  | f => [f.message]

end Fault

end TurnTaking
