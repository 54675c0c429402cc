import TurnTaking.Json.Decode
import TurnTaking.Numeral.Decimal

/-!
# Floating-point numbers in JSON

A number is scaled in two roundings: its leading digits, as many as fit into 64 bits, are rounded to a
floating-point number, which is then multiplied or divided by a rounded power of ten. The result can
differ from the nearest floating-point number in its last place. A number whose scaling leaves the range
is refused.

* `asReal?` — the floating-point number that a value stands for.
-/

namespace TurnTaking.Json

/-- The leading digits of a number, and how often the next digits would have multiplied it by ten. -/
structure Leading where
  value : Nat
  power : Int
deriving DecidableEq, Repr, Inhabited

namespace Leading

/-- One more digit, if the digits then still fit into 64 bits. -/
def push? (l : Leading) (c : Char) : Option Nat :=
  let value := 10 * l.value + (c.toNat - '0'.toNat)
  if value < 0x10000000000000000 then some value else none

/-- The leading digits of those before the point; `full` once one did not fit. -/
def ofWhole (l : Leading) (full : Bool) : List Char → Leading × Bool
  | [] => (l, full)
  | c :: rest =>
    match if full then none else l.push? c with
    | some value => ofWhole { l with value := value } full rest
    | none => ofWhole { l with power := l.power + 1 } true rest

/-- The leading digits with those behind the point, up to the first that does not fit. -/
def withPlaces (l : Leading) : List Char → Leading
  | [] => l
  | c :: rest =>
    match l.push? c with
    | some value => withPlaces ⟨value, l.power - 1⟩ rest
    | none => l

end Leading

/-- The largest power of ten that is scaled by at once. -/
def largestScale : Nat := 308

/-- Scales by a power of ten; none, if the result is infinite. Numbers that large steps do not bring to
zero take few of them, which bounds the steps. -/
def scaled? : Nat → Float → Int → Option Float
  | 0, _, _ => none
  | steps + 1, x, power =>
    if power.natAbs ≤ largestScale then
      let scale := Float.ofScientific 1 false power.natAbs
      let y := if 0 ≤ power then x * scale else x / scale
      if y.isInf then none else some y
    else if x == 0.0 then some x
    else if 0 ≤ power then none
    else scaled? steps (x / Float.ofScientific 1 false largestScale) (power + largestScale)

/-- The floating-point number that a number stands for. -/
def Number.asReal? (n : Number) : Option Float :=
  let (whole, full) := Leading.ofWhole ⟨0, 0⟩ false n.whole
  let magnitude? :=
    if n.fraction.isNone && n.exponent.isNone && !full then some (Float.ofNat whole.value)
    else
      let leading := whole.withPlaces (n.fraction.getD [])
      scaled? 8 (Float.ofNat leading.value) (leading.power + n.exponent.getD 0)
  magnitude?.map (Numeral.signed n.negative)

/-- The floating-point number that a value stands for. -/
def asReal? : Json → Option Float
  | .number n => n.asReal?
  | _ => none

end TurnTaking.Json
