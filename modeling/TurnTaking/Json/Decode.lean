import TurnTaking.Json.Basic
import TurnTaking.Numeral.Digits
import TurnTaking.TagSet

/-!
# Typed readings of JSON values

Each reading says which JSON values stand for a value of a type. A structure is read from an object,
whose unknown keys are ignored and whose known keys occur once, or from an array with its fields in
order. An integer is a number without fraction and exponent that fits its type; a minus sign before
zero makes a number that is no integer.
-/

namespace TurnTaking.Json

def asText? : Json → Option String
  | .text s => s
  | _ => none

def asBool? : Json → Option Bool
  | .bool b => some b
  | _ => none

def asInt? : Json → Option Int
  | .number ⟨false, whole, none, none⟩ => some (Numeral.decimalValue whole)
  | .number ⟨true, whole, none, none⟩ =>
    if Numeral.decimalValue whole = 0 then none else some (-Numeral.decimalValue whole)
  | _ => none

/-- An integer between two bounds. -/
def asIntWithin? (low high : Int) (v : Json) : Option Int :=
  (asInt? v).filter fun n => low ≤ n && n ≤ high

def asInt64? (v : Json) : Option Int := asIntWithin? (-0x8000000000000000) 0x7fffffffffffffff v

def asNat32? (v : Json) : Option Nat := (asIntWithin? 0 0xffffffff v).map Int.toNat

def asNat64? (v : Json) : Option Nat := (asIntWithin? 0 0xffffffffffffffff v).map Int.toNat

def asOption? {α : Type} (f : Json → Option α) : Json → Option (Option α)
  | .null => some none
  | v => (f v).map some

def asList? {α : Type} (f : Json → Option α) : Json → Option (List α)
  | .array items => items.mapM f
  | _ => none

def asTagSet? (v : Json) : Option TagSet := (asList? asText? v).map TagSet.ofList

def ofTagSet (s : TagSet) : Json := ofList ofText s.toList

/-- One of several names: as a text, or as an object whose only key is the name and whose value is
`null`. -/
def asName? {α : Type} (ofName? : String → Option α) : Json → Option α
  | .text (some s) => ofName? s
  | .object [(some s, .null)] => ofName? s
  | _ => none

/-- The fields of a structure: by position, or by name. -/
inductive Fields where
  | positional (values : List Json)
  | named (members : List (String × Json))
deriving Repr, Inhabited

/-- The fields of a structure with these field names. Refuses a key that is no text, a known key
given twice, and an array that is too long. -/
def fields? (names : List String) : Json → Option Fields
  | .array values => if values.length ≤ names.length then some (.positional values) else none
  | .object members => do
    let keyed ← members.mapM fun m => m.1.map fun key => (key, m.2)
    let known := keyed.filter fun m => names.contains m.1
    if (known.map Prod.fst).Nodup then some (.named known) else none
  | _ => none

namespace Fields

/-- The value of a field, which has this name and this position. -/
def get? (fs : Fields) (name : String) (position : Nat) : Option Json :=
  match fs with
  | .positional values => values[position]?
  | .named members => (members.find? (·.1 = name)).map Prod.snd

def required {α : Type} (fs : Fields) (name : String) (position : Nat) (f : Json → Option α) :
    Option α :=
  (fs.get? name position).bind f

/-- A field that has a value of its own where it is not given. -/
def withDefault {α : Type} (fs : Fields) (name : String) (position : Nat) (f : Json → Option α)
    (standard : α) : Option α :=
  match fs.get? name position with
  | none => some standard
  | some v => f v

/-- A field that may be `null`, and may be left out of an object but not of an array. -/
def optional {α : Type} (fs : Fields) (name : String) (position : Nat) (f : Json → Option α) :
    Option (Option α) :=
  match fs, fs.get? name position with
  | .named _, none => some none
  | .positional _, none => none
  | _, some v => asOption? f v

end Fields

end TurnTaking.Json
