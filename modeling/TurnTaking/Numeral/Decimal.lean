import TurnTaking.Numeral.Digits
import TurnTaking.Numeral.Flaw

/-!
# Decimal fractions — reading

A decimal fraction is digits with at most one point among them, at least one digit in all, a sign in
front and a power of ten behind if wanted. It stands for the nearest floating-point number; one that is
too large stands for infinity. `inf`, `infinity` and `nan` stand for themselves in any case.

* `readDecimal` — the floating-point number that a text stands for.
-/

namespace TurnTaking.Numeral

def infinity : Float := 1.0 / 0.0

def notANumber : Float := 0.0 / 0.0

/-- The number with the opposite sign if wanted. -/
def signed (negative : Bool) (x : Float) : Float := if negative then -x else x

/-- The floating-point number nearest to `digits * 10 ^ exponent`. Powers far outside of the range of
such numbers are not computed: below 10⁻³⁴⁰ everything is zero, above 10³¹⁰ everything is infinite. -/
def nearest (digits : Nat) (exponent : Int) : Float :=
  let order := exponent + (Nat.toDigits 10 digits).length
  if digits = 0 || order < -340 then 0.0
  else if 310 < order then infinity
  else if 0 ≤ exponent then Float.ofScientific digits false exponent.toNat
  else Float.ofScientific digits true exponent.natAbs

/-- The power of ten after its mark: an optional sign and at least one digit, up to the end. -/
def readPower? : List Char → Option Int
  | '+' :: digits => unsigned digits
  | '-' :: digits => (unsigned digits).map (- ·)
  | digits => unsigned digits
where
  /-- Digits, at least one. -/
  unsigned (digits : List Char) : Option Int :=
    if digits.isEmpty || !digits.all Char.isDigit then none else some (decimalValue digits)

/-- What follows the digits: nothing, or a power of ten. -/
def readScale? : List Char → Option Int
  | [] => some 0
  | c :: rest => if c = 'e' || c = 'E' then readPower? rest else none

/-- Digits with at most one point among them, and a power of ten. -/
def readFraction? (cs : List Char) : Option Float :=
  let whole := cs.takeWhile Char.isDigit
  let (places, rest) := match cs.dropWhile Char.isDigit with
    | '.' :: rest => (rest.takeWhile Char.isDigit, rest.dropWhile Char.isDigit)
    | rest => ([], rest)
  if whole.isEmpty && places.isEmpty then none
  else (readScale? rest).map fun scale =>
    nearest (decimalValue (whole ++ places)) (scale - places.length)

def readUnsigned? (cs : List Char) : Option Float :=
  let name := String.ofList (cs.map Char.toLower)
  if name = "inf" || name = "infinity" then some infinity
  else if name = "nan" then some notANumber
  else readFraction? cs

/-- The floating-point number that characters stand for. -/
def readDecimalChars? : List Char → Option Float
  | '+' :: cs => readUnsigned? cs
  | '-' :: cs => (readUnsigned? cs).map (signed true)
  | cs => readUnsigned? cs

/-- The floating-point number that a text stands for. -/
def readDecimal (s : String) : Except Flaw Float :=
  if s.isEmpty then .error .emptyDecimal
  else match readDecimalChars? s.toList with
    | some x => .ok x
    | none => .error .badDecimal

end TurnTaking.Numeral
