import TurnTaking.Numeral.Binary
import TurnTaking.Numeral.Decimal
import TurnTaking.Numeral.Pair

/-!
# Numbers at the front of a text

A text may start with a number: blanks, a sign, digits with at most one point among them, and a power
of ten. What follows decides whether the whole text is a number. Where the power has a mark but no
digits, it counts only as far as the text starts with digits and a point.

* `Leading.ofText` — what a text starts with;
* `Leading.whole?` — the number that the whole text is;
* `Leading.value` — the number that it starts with.
-/

namespace TurnTaking.Numeral

/-- What a text starts with, as far as it is part of a number. -/
structure Leading where
  negative : Bool
  /-- The digits before the point. -/
  digits : List Char
  /-- The digits after the point, if there is one. -/
  places : Option (List Char)
  /-- The sign and the digits behind the mark of a power of ten, if there is one. -/
  power : Option (Bool × List Char)
  rest : List Char
deriving DecidableEq, Repr, Inhabited

/-- A number that is read: an integer of 64 bits, or a floating-point number. -/
inductive Reading where
  | integer (n : Int)
  | decimal (x : Float)
deriving Repr, Inhabited

/-- Whether an integer has 64 bits. -/
def isInt64 (n : Int) : Bool := -0x8000000000000000 ≤ n && n < 0x8000000000000000

def splitSign : List Char → Bool × List Char
  | '-' :: rest => (true, rest)
  | '+' :: rest => (false, rest)
  | cs => (false, cs)

namespace Leading

/-- Spaces, tabs and the characters that end lines or pages. -/
def isBlank (c : Char) : Bool := c = ' ' || ('\t' ≤ c && c ≤ '\r')

def ofText (s : String) : Leading :=
  let (negative, cs) := splitSign (s.toList.dropWhile isBlank)
  let digits := cs.takeWhile Char.isDigit
  let (places, cs) := match cs.dropWhile Char.isDigit with
    | '.' :: rest => (some (rest.takeWhile Char.isDigit), rest.dropWhile Char.isDigit)
    | rest => (none, rest)
  let powerFrom (rest : List Char) : Option (Bool × List Char) × List Char :=
    let (down, rest) := splitSign rest
    (some (down, rest.takeWhile Char.isDigit), rest.dropWhile Char.isDigit)
  let (power, rest) := match cs with
    | 'e' :: rest => powerFrom rest
    | 'E' :: rest => powerFrom rest
    | rest => (none, rest)
  ⟨negative, digits, places, power, rest⟩

/-- Whether there is a digit before or after the point. -/
def hasDigits (l : Leading) : Bool := !(l.digits ++ l.places.getD []).isEmpty

/-- Whether the power of ten is well-formed, if there is one. -/
def hasSoundPower (l : Leading) : Bool := l.power.all fun p => !p.2.isEmpty

def integerPart (l : Leading) : Int :=
  if l.negative then -(decimalValue l.digits : Int) else decimalValue l.digits

/-- The first digits of a number, as far as they surely have 64 bits, and how many there are. -/
def significand : (n count : Nat) → List Char → Nat × Nat
  | n, count, [] => (n, count)
  | n, count, c :: rest =>
    if 0xfffffffffffffff6 / 10 ≤ n then (n, count)
    else significand (10 * n + decimalValue [c]) (count + 1) rest

/-- The number as a floating-point number. -/
def float (l : Leading) : Float :=
  let power : Int := match l.power with
    | some (true, digits) => -(decimalValue digits : Int)
    | some (false, digits) => decimalValue digits
    | none => 0
  let (n, count) := significand 0 0 (l.digits ++ l.places.getD [])
  signed l.negative (if n = 0 then 0.0 else Pair.scaled n (power + (l.digits.length - count : Int)))

/-- The digits alone: an integer where it has 64 bits. -/
def bare (l : Leading) : Reading :=
  if isInt64 l.integerPart then .integer l.integerPart else .decimal l.float

/-- The number that the whole text is, up to blanks around it. -/
def whole? (l : Leading) : Option Reading :=
  if l.hasDigits && l.hasSoundPower && l.rest.all isBlank then
    some (if l.places.isNone && l.power.isNone then l.bare else .decimal l.float)
  else none

/-- The number that the text starts with; zero if it starts with none. -/
def value (l : Leading) : Reading :=
  let isFraction := l.places.isSome || l.power.isSome
  if !l.hasDigits then .integer 0
  else if isFraction && ((l.places.isSome && l.power.isSome) || l.hasSoundPower) then .decimal l.float
  else l.bare

end Leading

end TurnTaking.Numeral
