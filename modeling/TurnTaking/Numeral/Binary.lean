/-!
# Binary fractions

A floating-point number of 64 bits by its bits: a sign, an exponent field and a fraction field. Every
finite one is a whole number of grains, a grain being `2 ^ (-1074)`, so that numbers of this kind and
integers are compared exactly. Infinity takes the place that its fields give it, `2 ^ 1024`, above
everything finite.

* `grains` — the exact value;
* `toInt?` — the integer that the number is, if it is one.
-/

namespace TurnTaking.Numeral

/-- A floating-point number, by its bits. -/
structure Binary where
  bits : UInt64
deriving DecidableEq, Repr, Inhabited

/-- How many grains a whole unit has. -/
def grainsPerUnit : Nat := Nat.pow 2 1074

namespace Binary

def ofFloat (x : Float) : Binary := ⟨x.toBits⟩

def toFloat (b : Binary) : Float := Float.ofBits b.bits

/-- The number without its sign, in grains. -/
def magnitude (b : Binary) : Nat :=
  let exponent := b.bits.toNat / 0x10000000000000 % 0x800
  let fraction := b.bits.toNat % 0x10000000000000
  if exponent = 0 then fraction else (0x10000000000000 + fraction) * Nat.pow 2 (exponent - 1)

def grains (b : Binary) : Int :=
  if b.bits.toNat / 0x8000000000000000 = 1 then -(b.magnitude : Int) else b.magnitude

def toInt? (b : Binary) : Option Int :=
  if b.grains % grainsPerUnit = 0 then some (b.grains / grainsPerUnit) else none

end Binary

end TurnTaking.Numeral
