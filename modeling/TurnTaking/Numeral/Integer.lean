import TurnTaking.Numeral.Digits
import TurnTaking.Numeral.Flaw

/-!
# Integers — reading

An integer is written as digits of some base, with a sign in front of them if wanted. The digits are
taken one by one: the first one that is none, or that makes the number leave its bounds, decides why
a text is refused. A minus sign is a character like any other where no negative number is wanted.

* `readInteger` — the integer between two bounds that a text stands for.
-/

namespace TurnTaking.Numeral

/-- The number up to `limit` that digits stand for after those that made `n`; past the limit, the
given flaw. -/
def readDigits (base limit : Nat) (past : Flaw) : Nat → List Char → Except Flaw Nat
  | n, [] => .ok n
  | n, c :: rest =>
    match digitValue? base c with
    | none => .error .badDigit
    | some d =>
      if base * n + d ≤ limit then readDigits base limit past (base * n + d) rest else .error past

/-- The digits of a number that is not negative; there must be one. -/
def readPositive (base : Nat) (high : Int) (digits : List Char) : Except Flaw Int :=
  if digits.isEmpty then .error .badDigit
  else (readDigits base high.toNat .tooLarge 0 digits).map Int.ofNat

/-- The digits of a number after its minus sign; there must be one. -/
def readNegative (base : Nat) (low : Int) (digits : List Char) : Except Flaw Int :=
  if digits.isEmpty then .error .badDigit
  else (readDigits base low.natAbs .tooSmall 0 digits).map fun n => -(n : Int)

/-- The integer from `low` to `high` that characters stand for in a base. -/
def readInBase (base : Nat) (low high : Int) : List Char → Except Flaw Int
  | [] => .error .emptyInteger
  | '+' :: digits => readPositive base high digits
  | '-' :: digits => if low < 0 then readNegative base low digits else .error .badDigit
  | digits => readPositive base high digits

/-- The integer from `low` to `high` that a text stands for. -/
def readInteger (low high : Int) (s : String) : Except Flaw Int := readInBase 10 low high s.toList

/-- The natural number of 64 bits that a text stands for. -/
def readNat64 (s : String) : Except Flaw Nat := (readInteger 0 0xffffffffffffffff s).map Int.toNat

/-- The signed integer of 64 bits that a text stands for. -/
def readInt64 (s : String) : Except Flaw Int := readInteger (-0x8000000000000000) 0x7fffffffffffffff s

end TurnTaking.Numeral
