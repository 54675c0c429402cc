import TurnTaking.Numeral.Shortest
import TurnTaking.Yaml.Character
import TurnTaking.Yaml.Reading

/-!
# Writing YAML

Settings are written one to a line, a group indented below its name. A text is written plainly where it
then reads back as this text, else between quotes, and as a literal block where it has several lines.

* `Outline.write` — the text of settings.
-/

namespace TurnTaking.Yaml

/-- Settings to be written. -/
inductive Outline where
  | null
  | truth (b : Bool)
  | integer (n : Int)
  | decimal (x : Float)
  | text (s : String)
  | list (items : List Outline)
  | group (members : List (String × Outline))
deriving Repr, Inhabited

/-! ### Numbers -/

/-- The digits of a positive finite number, with a point, or with a power of ten where that is shorter:
from `1e16` on and below `1e-5`. -/
def decimalDigits (x : Float) : List Char :=
  if x == 0.0 then ['0', '.', '0']
  else
    let (n, power) := Numeral.shortest .even x
    let digits := Nat.toDigits 10 n
    let order := power + digits.length
    if 0 ≤ power && order ≤ 16 then digits ++ List.replicate power.toNat '0' ++ ['.', '0']
    else if power < 0 && -5 < order && order ≤ 16 then Numeral.withPoint digits power.natAbs
    else
      let places := digits.drop 1
      digits.take 1 ++ (if places.isEmpty then [] else '.' :: places) ++
        'e' :: (toString (order - 1)).toList

def decimalText (x : Float) : String :=
  if x.isNaN then ".nan"
  else
    let magnitude := if x.isInf then ['.', 'i', 'n', 'f'] else decimalDigits x.abs
    String.ofList (if Numeral.isNegative x then '-' :: magnitude else magnitude)

/-! ### Texts -/

/-- Whether a text that is written plainly would be read as something else: as the missing value, a
truth value or a number of any width. Digits that only start like a number count too. -/
def isAmbiguous (s : String) : Bool :=
  s.isEmpty || Scalar.isNull s || (plainTruth? s).isSome ||
    (plainInteger? (-0x80000000000000000000000000000000) 0xffffffffffffffffffffffffffffffff s).isSome ||
    isPadded s.toList || (plainDecimal? s).isSome

/-- Characters that stand for themselves in every style. -/
def isPrintable (c : Char) : Bool :=
  c = '\n' || (isAllowed c && ! ['\t', '\r', nextLine, byteOrderMark].contains c)

/-- Whether a space follows the end of a line, or the end of a line a space. -/
def mixesSpaceAndBreak : (spaceFirst : Bool) → List Char → Bool
  | spaceFirst, a :: b :: rest =>
    (if spaceFirst then a = ' ' && isBreak b else isBreak a && b = ' ') ||
      mixesSpaceAndBreak spaceFirst (b :: rest)
  | _, _ => false

/-- Whether characters after the first one would end or misguide a plain scalar. -/
def misleadsWithin : (before : Char) → List Char → Bool
  | _, [] => false
  | before, c :: rest =>
    (c = ':' && atGap rest) || (c = '#' && (isSpace before || isBreak before)) || misleadsWithin c rest

/-- Whether a text starts with, or holds, what would not be read as part of a plain scalar. -/
def misleads : List Char → Bool
  | [] => false
  | c :: rest =>
    ['#', ',', '[', ']', '\x7b', '\x7d', '&', '*', '!', '|', '>', '\'', '"', '%', '@',
      '\x60'].contains c ||
      ((c = '?' || c = ':' || c = '-') && atGap rest) ||
      ['-', '-', '-'].isPrefixOf (c :: rest) || ['.', '.', '.'].isPrefixOf (c :: rest) ||
      misleadsWithin c rest

/-- Whether a text can be written between double quotes only, if it can be quoted at all. -/
def isSpecial (cs : List Char) : Bool := !cs.all isPrintable || mixesSpaceAndBreak true cs

/-- Whether a text can be written plainly. -/
def plainAllowed (cs : List Char) : Bool :=
  !isSpecial cs && !cs.any isBreak && cs.head? ≠ some ' ' && cs.getLast? ≠ some ' ' && !misleads cs

/-- Whether a text can be written between apostrophes. -/
def singleAllowed (cs : List Char) : Bool := !isSpecial cs && !mixesSpaceAndBreak false cs

/-- Whether a text can be written as a block. -/
def blockAllowed (cs : List Char) : Bool := !isSpecial cs && cs.getLast? ≠ some ' ' && !cs.isEmpty

/-- The upper-case hexadecimal digits of a number, filled up to a width. -/
def hexDigits (width n : Nat) : List Char :=
  let digits := (Nat.toDigits 16 n).map Char.toUpper
  List.replicate (width - digits.length) '0' ++ digits

def escapeLetter? (c : Char) : Option Char :=
  let n := c.toNat
  if n = 0 then some '0'
  else if n = 7 then some 'a'
  else if n = 8 then some 'b'
  else if n = 9 then some 't'
  else if n = 10 then some 'n'
  else if n = 11 then some 'v'
  else if n = 12 then some 'f'
  else if n = 13 then some 'r'
  else if n = 27 then some 'e'
  else if n = 0x22 then some '"'
  else if n = 0x5C then some '\\'
  else if n = 0x85 then some 'N'
  else if n = 0x2028 then some 'L'
  else if n = 0x2029 then some 'P'
  else none

/-- A character between double quotes. -/
def doubleChar (c : Char) : List Char :=
  match escapeLetter? c with
  | some letter => ['\\', letter]
  | none =>
    let n := c.toNat
    if isPrintable c then [c]
    else if n < 0x100 then ['\\', 'x'] ++ hexDigits 2 n
    else if n < 0x10000 then ['\\', 'u'] ++ hexDigits 4 n
    else ['\\', 'U'] ++ hexDigits 8 n

def doubleQuoted (cs : List Char) : List Char := '"' :: cs.flatMap doubleChar ++ ['"']

/-- Characters between apostrophes; lines after the first one are indented. -/
def singleChars (indent : Nat) : (afterBreak : Bool) → List Char → List Char
  | afterBreak, [] => if afterBreak then List.replicate indent ' ' else []
  | afterBreak, c :: rest =>
    if isBreak c then c :: singleChars indent true rest
    else
      (if afterBreak then List.replicate indent ' ' else []) ++
        (if c = '\'' then ['\'', '\''] else [c]) ++ singleChars indent false rest

def singleQuoted (indent : Nat) (cs : List Char) : List Char :=
  '\'' :: singleChars indent false cs ++ ['\'']

/-- The lines of a literal block; those that are not empty are indented. -/
def literalLines (indent : Nat) : (atStart : Bool) → List Char → List Char
  | _, [] => []
  | atStart, c :: rest =>
    if isBreak c then c :: literalLines indent true rest
    else (if atStart then List.replicate indent ' ' else []) ++ c :: literalLines indent false rest

/-- How deep groups and blocks are indented below their names. -/
def indentStep : Nat := 2

/-- The sign that says how a block ends: nothing, if it ends with a single end of line. -/
def chompingSign (cs : List Char) : List Char :=
  match cs.reverse with
  | c :: rest => if !isBreak c then ['-'] else if startsWith isBreak rest then ['+'] else []
  | [] => ['-']

def literalBlock (indent : Nat) (cs : List Char) : List Char :=
  let depth := match cs.head? with
    | some c => if c = ' ' || isBreak c then (toString indentStep).toList else []
    | none => []
  '|' :: depth ++ chompingSign cs ++ '\n' :: literalLines indent true cs

def textChars (indent : Nat) (s : String) : List Char :=
  let cs := s.toList
  if cs.contains '\n' then if blockAllowed cs then literalBlock indent cs else doubleQuoted cs
  else if !isAmbiguous s && plainAllowed cs then cs
  else if singleAllowed cs then singleQuoted indent cs
  else doubleQuoted cs

/-! ### Settings -/

namespace Outline

mutual

/-- A value after a name or a dash, up to the end of its last line. -/
def writeValue (indent : Nat) : Outline → List Char
  | .null => " null\n".toList
  | .truth b => (if b then " true\n" else " false\n").toList
  | .integer n => ' ' :: (toString n).toList ++ ['\n']
  | .decimal x => ' ' :: (decimalText x).toList ++ ['\n']
  | .text s => ' ' :: endLine (textChars (indent + indentStep) s)
  | .list [] => " []\n".toList
  | .list items => '\n' :: writeItems indent items
  | .group [] => " \x7b\x7d\n".toList
  | .group members => '\n' :: writeMembers (indent + indentStep) members
where
  /-- The text with the end of its last line, which a literal block may have itself. -/
  endLine (cs : List Char) : List Char :=
    if cs.head? = some '|' && cs.getLast?.any isBreak then cs else cs ++ ['\n']

def writeItems (indent : Nat) : List Outline → List Char
  | [] => []
  | v :: rest => List.replicate indent ' ' ++ '-' :: writeValue indent v ++ writeItems indent rest

def writeMembers (indent : Nat) : List (String × Outline) → List Char
  | [] => []
  | (name, v) :: rest =>
    List.replicate indent ' ' ++ name.toList ++ ':' :: writeValue indent v ++ writeMembers indent rest

end

def write (members : List (String × Outline)) : String := String.ofList (writeMembers 0 members)

end Outline

end TurnTaking.Yaml
