/-!
# JSON values

The values of the JSON text format, as they are written: an object keeps the order and the repetition
of its keys, and a number keeps its digits. A text may hold half of a surrogate pair; it then stands
for no Unicode text and its value is `none`.
-/

namespace TurnTaking

/-- A number as it is written: sign, digits before the point, digits after it, and the power of
ten. -/
structure Json.Number where
  negative : Bool
  whole : List Char
  fraction : Option (List Char)
  exponent : Option Int
deriving DecidableEq, Repr, Inhabited

/-- A value of the JSON format. -/
inductive Json where
  | null
  | bool (b : Bool)
  | number (n : Json.Number)
  | text (s : Option String)
  | array (items : List Json)
  | object (members : List (Option String × Json))
deriving Repr, Inhabited

namespace Json

/-- The decimal digits of a natural number. -/
def digitsOf (n : Nat) : List Char := Nat.toDigits 10 n

/-- An integer as a number without fraction and exponent. -/
def ofInt (n : Int) : Json := .number ⟨n < 0, digitsOf n.natAbs, none, none⟩

def ofText (s : String) : Json := .text (some s)

/-- A value that may be missing, as `null` where it is. -/
def ofOption {α : Type} (f : α → Json) : Option α → Json
  | none => .null
  | some a => f a

def ofList {α : Type} (f : α → Json) (items : List α) : Json := .array (items.map f)

/-- An object with these keys and values. -/
def ofMembers (members : List (String × Json)) : Json :=
  .object (members.map fun m => (some m.1, m.2))

end Json

end TurnTaking
