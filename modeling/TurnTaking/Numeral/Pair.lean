/-!
# Pairs of floating-point numbers

Two floating-point numbers, of which the second is small against the first, stand for their sum with
about twice the digits of one of them. A whole number of 64 bits is such a pair without an error; it is
scaled by powers of ten with so small an error that the sum is seldom rounded another way than the
exact product, and then to a neighbour.

* `Pair.scaled` — a whole number times a power of ten.
-/

namespace TurnTaking.Numeral

/-- Two numbers that stand for their sum. -/
structure Pair where
  high : Float
  low : Float
deriving Repr, Inhabited

namespace Pair

def ofWord (n : UInt64) : Pair :=
  let high := n.toFloat
  let back := high.toUInt64
  ⟨high, if back ≤ n then (n - back).toFloat else -(back - n).toFloat⟩

/-- The number without the last 26 bits of its fraction, so that a product of two such has no error. -/
def coarse (x : Float) : Float := Float.ofBits (x.toBits &&& 0xfffffffffc000000)

def mul (x y : Pair) : Pair :=
  let hx := coarse x.high
  let tx := x.high - hx
  let hy := coarse y.high
  let ty := y.high - hy
  let p := hx * hy
  let q := hx * ty + tx * hy
  let c := p + q
  let cc := p - c + q + tx * ty
  let cc := x.high * y.low + x.low * y.high + cc
  let high := c + cc
  ⟨high, c - high + cc⟩

/-- The pair multiplied by another so many times. -/
def mulTimes (y : Pair) : Nat → Pair → Pair
  | 0, x => x
  | n + 1, x => mulTimes y n (x.mul y)

/-- The pair multiplied by a power of ten: by hundreds of zeros first, then by tens, then by ones. -/
def byPower (hundred ten one : Pair) (n : Nat) (x : Pair) : Pair :=
  mulTimes one (n % 10) (mulTimes ten (n / 10 % 10) (mulTimes hundred (n / 100) x))

/-- The powers of ten with one, ten and a hundred zeros, upwards. -/
def up : Nat → Pair → Pair :=
  byPower ⟨1.0e+100, -1.5902891109759918046e+83⟩ ⟨1.0e+10, 0.0⟩ ⟨1.0e+01, 0.0⟩

/-- The powers of ten with one, ten and a hundred places, downwards. -/
def down : Nat → Pair → Pair :=
  byPower ⟨1.0e-100, -1.99918998026028836196e-117⟩ ⟨1.0e-10, -3.6432197315497741579e-27⟩
    ⟨1.0e-01, -5.5511151231257827021e-18⟩

/-- The number that a pair stands for; infinity where the numbers have become too large. -/
def value (x : Pair) : Float :=
  let sum := x.high + x.low
  if sum.isNaN then 1.0 / 0.0 else sum

end Pair

/-- A significand of 64 bits and a power of ten, with the power as near to zero as it may be. -/
def balance : Nat → Nat → Int → Nat × Int
  | 0, n, power => (n, power)
  | fuel + 1, n, power =>
    if 0 < power && n < 0xfffffffffffff800 / 10 then balance fuel (n * 10) (power - 1)
    else if power < 0 && n % 10 = 0 then balance fuel (n / 10) (power + 1)
    else (n, power)

/-- The number `n * 10 ^ power`, for a positive number of 64 bits. Powers beyond the range of
floating-point numbers are cut to what they come to, nothing or infinity. -/
def Pair.scaled (n : Nat) (power : Int) : Float :=
  let (n, power) := balance 20 n power
  let x := Pair.ofWord (.ofNat n)
  if power = 0 then x.high
  else if 0 < power then (Pair.up (min power.toNat 400) x).value
  else (Pair.down (min power.natAbs 800) x).value

end TurnTaking.Numeral
