import TurnTaking.Json.Basic

/-!
# Writing JSON

The compact text of a JSON value. A text is written between double quotes; quotes, backslashes and
control characters are escaped and all else stands for itself.
-/

namespace TurnTaking.Json

/-- The four hexadecimal digits of a small code point. -/
def hex4 (n : Nat) : List Char :=
  [Nat.digitChar (n / 4096 % 16), Nat.digitChar (n / 256 % 16), Nat.digitChar (n / 16 % 16),
    Nat.digitChar (n % 16)]

def writeChar (c : Char) : List Char :=
  if c = '"' then ['\\', '"']
  else if c = '\\' then ['\\', '\\']
  else if c = '\x08' then ['\\', 'b']
  else if c = '\t' then ['\\', 't']
  else if c = '\n' then ['\\', 'n']
  else if c = '\x0c' then ['\\', 'f']
  else if c = '\r' then ['\\', 'r']
  else if c.toNat < 32 then ['\\', 'u'] ++ hex4 c.toNat
  else [c]

/-- A text between double quotes. -/
def writeText (s : List Char) : List Char := '"' :: s.flatMap writeChar ++ ['"']

def writeNumber (n : Number) : List Char :=
  (if n.negative then ['-'] else []) ++ n.whole ++
    (match n.fraction with
      | none => []
      | some ds => '.' :: ds) ++
    (match n.exponent with
      | none => []
      | some e => 'e' :: (if e < 0 then ['-'] else []) ++ digitsOf e.natAbs)

mutual

/-- The characters of a value. A text that is no Unicode text is written as an empty one. -/
def writeValue : Json → List Char
  | .null => ['n', 'u', 'l', 'l']
  | .bool true => ['t', 'r', 'u', 'e']
  | .bool false => ['f', 'a', 'l', 's', 'e']
  | .number n => writeNumber n
  | .text s => writeText ((s.getD "").toList)
  | .array [] => ['[', ']']
  | .array (v :: rest) => '[' :: writeValue v ++ writeItems rest
  | .object [] => ['\x7b', '\x7d']
  | .object ((k, v) :: rest) =>
    '\x7b' :: writeText ((k.getD "").toList) ++ ':' :: writeValue v ++ writeMembers rest

/-- The remaining items of an array, and its end. -/
def writeItems : List Json → List Char
  | [] => [']']
  | v :: rest => ',' :: writeValue v ++ writeItems rest

/-- The remaining members of an object, and its end. -/
def writeMembers : List (Option String × Json) → List Char
  | [] => ['\x7d']
  | (k, v) :: rest =>
    ',' :: writeText ((k.getD "").toList) ++ ':' :: writeValue v ++ writeMembers rest

end

def write (v : Json) : String := String.ofList (writeValue v)

end TurnTaking.Json
