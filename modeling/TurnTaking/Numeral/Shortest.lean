/-!
# Shortest decimals — writing

A finite floating-point number is `significand * 2 ^ power`. All numbers nearer to it than to its
neighbours read back as it; the two ends of their interval do if the significand is even. Of the
decimals in the interval, `shortest` is one with the fewest digits, and of those the one nearest to the
number; of two that are equally near, `Tie` says which. It looks at ever finer grids of decimals and
takes the first with a point in the interval; if a grid has one, one of the two grid points around the
number is in the interval.

* `shortest` — the digits that are written for a positive number;
* `positional` — the number without a power of ten, as it is shown in messages.
-/

namespace TurnTaking.Numeral

/-- The numbers that read back as a floating-point number, as numerators over one denominator. -/
structure Interval where
  low : Nat
  value : Nat
  high : Nat
  denominator : Nat
  /-- The ends belong to the interval. -/
  closed : Bool
deriving Repr, Inhabited

/-- Which of two neighbouring decimals is written for a number in the middle between them. -/
inductive Tie where
  /-- The one with the even last digit. -/
  | even
  /-- The one farther from zero. -/
  | up
deriving DecidableEq, Repr, Inhabited

/-- Whether the lower neighbour, with these units, is preferred in the middle. -/
def Tie.prefersBelow (below : Nat) : Tie → Bool
  | .even => below % 2 = 0
  | .up => false

namespace Interval

/-- The interval of `significand * 2 ^ power`; its lower half is half as wide where a binary order of
magnitude begins. -/
def ofBinary (significand : Nat) (power : Int) (narrow : Bool) : Interval :=
  let scale := Nat.pow 2 (power - 2).toNat
  { low := (4 * significand - if narrow then 1 else 2) * scale
    value := 4 * significand * scale
    high := (4 * significand + 2) * scale
    denominator := Nat.pow 2 (2 - power).toNat
    closed := significand % 2 = 0 }

/-- The interval of a positive finite floating-point number, from its exponent and fraction fields. -/
def ofFields (exponent fraction : Nat) : Interval :=
  if exponent = 0 then ofBinary fraction (-1074) false
  else ofBinary (0x10000000000000 + fraction) (exponent - 1075) (fraction = 0 && 1 < exponent)

def inUnits (i : Interval) (power : Int) : Interval :=
  let up := Nat.pow 10 (-power).toNat
  { i with
    low := i.low * up
    value := i.value * up
    high := i.high * up
    denominator := i.denominator * Nat.pow 10 power.toNat }

/-- Whether a whole number of units is in the interval. -/
def holds (i : Interval) (n : Nat) : Bool :=
  let n := n * i.denominator
  if i.closed then i.low ≤ n && n ≤ i.high else i.low < n && n < i.high

/-- The whole number of units in the interval that is nearest to the value, if there is one. -/
def nearestUnit? (tie : Tie) (i : Interval) : Option Nat :=
  let below := i.value / i.denominator
  let above := below + 1
  let toBelow := i.value - below * i.denominator
  let toAbove := above * i.denominator - i.value
  -- The nearer one goes first; the other counts only where the interval is lopsided.
  let belowFirst := toBelow < toAbove || (toBelow = toAbove && tie.prefersBelow below)
  let (first, second) := if belowFirst then (below, above) else (above, below)
  if 0 < first && i.holds first then some first
  else if 0 < second && i.holds second then some second
  else none

end Interval

/-- The least power of ten above the value, if it is at most `10 ^ power`, found downwards. -/
def orderFrom (i : Interval) : Nat → Int → Int
  | 0, power => power
  | fuel + 1, power =>
    let j := i.inUnits (power - 1)
    if j.value < j.denominator then orderFrom i fuel (power - 1) else power

/-- The nearest point of the first grid, from `10 ^ power` on downwards, that has one in the
interval. -/
def firstPoint (tie : Tie) (i : Interval) : Nat → Int → Nat × Int
  | 0, power => (0, power)
  | fuel + 1, power =>
    match (i.inUnits power).nearestUnit? tie with
    | some n => (n, power)
    | none => firstPoint tie i fuel (power - 1)

/-- The number without the zeros at its end, and how many there are. -/
def dropZeros : Nat → Nat → Int → Nat × Int
  | 0, n, power => (n, power)
  | fuel + 1, n, power =>
    if n ≠ 0 && n % 10 = 0 then dropZeros fuel (n / 10) (power + 1) else (n, power)

/-- Digits and power of ten of the decimal that is written for a positive finite number. Seventeen
digits always suffice, and no number is above `10 ^ 309` or below `10 ^ (-324)`. -/
def shortest (tie : Tie) (x : Float) : Nat × Int :=
  let bits := x.toBits.toNat
  let i := Interval.ofFields (bits / 0x10000000000000 % 0x800) (bits % 0x10000000000000)
  let order := orderFrom i 640 310
  -- From the order downwards, each grid adds a digit.
  let (n, power) := firstPoint tie i 20 order
  dropZeros 20 n power

def isNegative (x : Float) : Bool := x.toBits.toNat / 0x8000000000000000 = 1

/-- The digits with a point before the last `places` of them; zeros fill up in front. -/
def withPoint (digits : List Char) (places : Nat) : List Char :=
  let filled := List.replicate (places + 1 - digits.length) '0' ++ digits
  filled.take (filled.length - places) ++ '.' :: filled.drop (filled.length - places)

/-- A positive finite number, or zero, without a power of ten; a whole number without a point. In the
middle between two decimals the one farther from zero is taken. -/
def positionalDigits (x : Float) : List Char :=
  if x == 0.0 then ['0']
  else
    let (n, power) := shortest .up x
    let digits := Nat.toDigits 10 n
    if 0 ≤ power then digits ++ List.replicate power.toNat '0' else withPoint digits power.natAbs

/-- The shortest decimal that reads back as the number, without a power of ten; in the middle between
two the one farther from zero. -/
def positional (x : Float) : String :=
  if x.isNaN then "NaN"
  else
    let magnitude := if x.isInf then ['i', 'n', 'f'] else positionalDigits x.abs
    String.ofList (if isNegative x then '-' :: magnitude else magnitude)

end TurnTaking.Numeral
