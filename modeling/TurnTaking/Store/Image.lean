import TurnTaking.Json.Decode
import TurnTaking.Json.Reader
import TurnTaking.Json.Writer
import TurnTaking.Store.Columns

/-!
# Images — tables as text

The form in which a database is kept in a file: an object with the rows of every table that is there,
each row as the list of its values, column by column.

* `Tables.toFile` — the text that keeps tables;
* `Tables.ofFile?` — the tables that a text keeps.
-/

namespace TurnTaking.Store

namespace Value

def toJson : Value → Json
  | .null => .null
  | .number n => .ofInt n
  | .real x => .array [.ofInt x.bits.toNat]
  | .text s => .ofText s

/-- The value that JSON stands for. A floating-point number is the list of its bits as one integer. -/
def ofJson? : Json → Option Value
  | .null => some .null
  | .text s => s.map .text
  | .array [v] => (Json.asNat64? v).map fun n => .real ⟨.ofNat n⟩
  | v => (Json.asInt? v).map .number

end Value

namespace Sheet

def image (s : Sheet) (rows : List s.Row) : Json :=
  Json.ofList (fun r => Json.ofList (fun c : Column s.Row => (c.read r).toJson) s.columns) rows

def rowOf? (s : Sheet) (values : List Value) : Option s.Row :=
  if values.length = s.columns.length then
    (s.columns.zip values).foldlM (fun r cv => cv.1.write cv.2 r) s.blank
  else none

/-- The rows that JSON stands for, no two of which have the same key. -/
def ofImage? (s : Sheet) (v : Json) : Option (List s.Row) := do
  let rows ← Json.asList? (fun r => (Json.asList? Value.ofJson? r).bind s.rowOf?) v
  if s.hasUniqueKeys rows then some rows else none

end Sheet

namespace Tables

def image (t : Tables) : Json :=
  .ofMembers (sheets.filterMap fun s =>
    (s.relation.get t).map fun rows => (s.relation.name, s.image rows))

/-- The tables that JSON stands for. One that is not given is missing. -/
def ofImage? (v : Json) : Option Tables := do
  let .named members ← Json.fields? (sheets.map (·.relation.name)) v | none
  sheets.foldlM (fun t s =>
    match members.find? (·.1 = s.relation.name) with
    | none => some (s.relation.set t none)
    | some m => (s.ofImage? m.2).map fun rows => s.relation.set t (some rows)) .empty

def toFile (t : Tables) : String := Json.write t.image

/-- The tables that a text keeps, with those that are missing put in place empty. An empty text keeps
no table. -/
def ofFile? (text : String) : Option Tables :=
  if text.isEmpty then some .empty else ((Json.read? text).bind ofImage?).map complete

end Tables

end TurnTaking.Store
