import TurnTaking.Json.Basic
import TurnTaking.Numeral.Digits

/-!
# Reading JSON

A reader takes a value from the front of the characters and leaves the rest. Blanks are space, tab,
line feed and carriage return. Texts may not hold raw control characters; an escaped half of a
surrogate pair is read, but a text with an unpaired half stands for no Unicode text.

* `read?` — the value of a whole text, blanks around it allowed.
-/

namespace TurnTaking.Json

/-- The blanks between the tokens of the format. -/
def isGap (c : Char) : Bool := c = ' ' || c = '\t' || c = '\n' || c = '\r'

def skipGaps (cs : List Char) : List Char := cs.dropWhile isGap

/-- The character that a one-letter escape stands for. -/
def escaped? (c : Char) : Option Char :=
  if c = '"' then some '"'
  else if c = '\\' then some '\\'
  else if c = '/' then some '/'
  else if c = 'b' then some '\x08'
  else if c = 'f' then some '\x0c'
  else if c = 'n' then some '\n'
  else if c = 'r' then some '\r'
  else if c = 't' then some '\t'
  else none

/-- The code units of a text up to its closing quote, and what follows. An escape gives the unit it
names, any other character its code point. -/
def readUnits : List Char → Option (List Nat × List Char)
  | [] => none
  | '"' :: rest => some ([], rest)
  | '\\' :: 'u' :: a :: b :: c :: d :: rest => do
    let unit ← Numeral.hexValue? [a, b, c, d]
    let (units, rest) ← readUnits rest
    return (unit :: units, rest)
  | '\\' :: c :: rest => do
    let e ← escaped? c
    let (units, rest) ← readUnits rest
    return (e.toNat :: units, rest)
  | c :: rest =>
    if c.toNat < 32 || c = '\\' then none
    else do
      let (units, rest) ← readUnits rest
      return (c.toNat :: units, rest)

/-- The characters that code units stand for: a high and a low half that follow each other join, and
a half that stands alone makes the text none. -/
def joinUnits : List Nat → Option (List Char)
  | [] => some []
  | [u] => if 0xD800 ≤ u && u ≤ 0xDFFF then none else some [Char.ofNat u]
  | u :: v :: rest =>
    if 0xD800 ≤ u && u ≤ 0xDBFF then
      if 0xDC00 ≤ v && v ≤ 0xDFFF then
        (joinUnits rest).map (Char.ofNat (0x10000 + 1024 * (u - 0xD800) + (v - 0xDC00)) :: ·)
      else none
    else if 0xDC00 ≤ u && u ≤ 0xDFFF then none
    else (joinUnits (v :: rest)).map (Char.ofNat u :: ·)

/-- A text after its opening quote, and what follows. -/
def readText (cs : List Char) : Option (Option String × List Char) :=
  (readUnits cs).map fun r => ((joinUnits r.1).map String.ofList, r.2)

def readDigits (cs : List Char) : Option (List Char × List Char) :=
  let digits := cs.takeWhile Char.isDigit
  if digits.isEmpty then none else some (digits, cs.dropWhile Char.isDigit)

/-- The digits before the point. They start with zero only if they are nothing else. -/
def readWhole (cs : List Char) : Option (List Char × List Char) :=
  (readDigits cs).bind fun r =>
    if r.1.head? = some '0' && r.1.length ≠ 1 then none else some r

/-- The point and the digits after it, if there is a point. -/
def readFraction : List Char → Option (Option (List Char) × List Char)
  | '.' :: rest => (readDigits rest).map fun r => (some r.1, r.2)
  | cs => some (none, cs)

/-- The digits of a power of ten, after its sign. -/
def readPower (sign : Int) (cs : List Char) : Option (Option Int × List Char) :=
  (readDigits cs).map fun r => (some (sign * Numeral.decimalValue r.1), r.2)

def readExponent : List Char → Option (Option Int × List Char)
  | c :: rest =>
    if c = 'e' || c = 'E' then
      match rest with
      | '+' :: rest => readPower 1 rest
      | '-' :: rest => readPower (-1) rest
      | _ => readPower 1 rest
    else some (none, c :: rest)
  | [] => some (none, [])

/-- A number after its sign, and what follows. -/
def readMagnitude (negative : Bool) (cs : List Char) : Option (Number × List Char) := do
  let (whole, rest) ← readWhole cs
  let (fraction, rest) ← readFraction rest
  let (exponent, rest) ← readExponent rest
  return (⟨negative, whole, fraction, exponent⟩, rest)

def readNumber : List Char → Option (Number × List Char)
  | '-' :: rest => readMagnitude true rest
  | cs => readMagnitude false cs

mutual

/-- A value at the front of the characters, and what follows. The first argument bounds the depth
and length of what is read. -/
def readValue : Nat → List Char → Option (Json × List Char)
  | 0, _ => none
  | n + 1, cs =>
    match skipGaps cs with
    | 'n' :: 'u' :: 'l' :: 'l' :: rest => some (.null, rest)
    | 't' :: 'r' :: 'u' :: 'e' :: rest => some (.bool true, rest)
    | 'f' :: 'a' :: 'l' :: 's' :: 'e' :: rest => some (.bool false, rest)
    | '"' :: rest => (readText rest).map fun r => (.text r.1, r.2)
    | '[' :: rest =>
      match skipGaps rest with
      | ']' :: rest => some (.array [], rest)
      | _ => do
        let (v, rest) ← readValue n rest
        let (items, rest) ← readItems n rest
        return (.array (v :: items), rest)
    | '\x7b' :: rest =>
      match skipGaps rest with
      | '\x7d' :: rest => some (.object [], rest)
      | _ => do
        let (m, rest) ← readMember n rest
        let (members, rest) ← readMembers n rest
        return (.object (m :: members), rest)
    | cs => (readNumber cs).map fun r => (.number r.1, r.2)

/-- The remaining items of an array up to its end. -/
def readItems : Nat → List Char → Option (List Json × List Char)
  | 0, _ => none
  | n + 1, cs =>
    match skipGaps cs with
    | ']' :: rest => some ([], rest)
    | ',' :: rest => do
      let (v, rest) ← readValue n rest
      let (items, rest) ← readItems n rest
      return (v :: items, rest)
    | _ => none

def readMember : Nat → List Char → Option ((Option String × Json) × List Char)
  | 0, _ => none
  | n + 1, cs =>
    match skipGaps cs with
    | '"' :: rest => do
      let (key, rest) ← readText rest
      match skipGaps rest with
      | ':' :: rest => do
        let (v, rest) ← readValue n rest
        return ((key, v), rest)
      | _ => none
    | _ => none

/-- The remaining members of an object up to its end. -/
def readMembers : Nat → List Char → Option (List (Option String × Json) × List Char)
  | 0, _ => none
  | n + 1, cs =>
    match skipGaps cs with
    | '\x7d' :: rest => some ([], rest)
    | ',' :: rest => do
      let (m, rest) ← readMember n rest
      let (members, rest) ← readMembers n rest
      return (m :: members, rest)
    | _ => none

end

/-- The value of a whole text. Every step of the reader takes a character or goes one level down
without one at most twice in a row, which bounds its depth by the length of the text. -/
def read? (s : String) : Option Json :=
  match readValue (2 * s.length + 2) s.toList with
  | some (v, rest) => if (skipGaps rest).isEmpty then some v else none
  | none => none

end TurnTaking.Json
