import TurnTaking.Numeral.Leading

/-!
# Integer columns

An integer column holds integers of 64 bits. It holds a fraction, or a number that is too large, as a
floating-point number, and text wherever text was written that is no number. Numbers come before texts;
arithmetic sees the number that a text begins with, and zero where it begins with none.
-/

namespace TurnTaking.Store

open Numeral

/-- A value of an integer column. -/
inductive Cell where
  | number (n : Int)
  | real (x : Binary)
  | text (s : String)
deriving DecidableEq, Repr, Inhabited

instance : Coe Int Cell := ⟨.number⟩

namespace Cell

/-- What becomes of a floating-point number that is written into an integer column: the integer that it
is, if that is well within 64 bits. -/
def ofFloat (x : Float) : Cell :=
  let b := Binary.ofFloat x
  match b.toInt?.filter fun n => -0x8000000000000000 < n && n < 0x8000000000000000 with
  | some n => .number n
  | none => .real b

/-- What becomes of a number that is written into an integer column. -/
def ofReading : Reading → Cell
  | .integer n => .number n
  | .decimal x => .ofFloat x

/-- What becomes of a text that is written into an integer column. -/
def ofText (s : String) : Cell :=
  match (Leading.ofText s).whole? with
  | some r => .ofReading r
  | none => .text s

/-- The number that arithmetic sees. -/
def reading : Cell → Reading
  | .number n => .integer n
  | .real x => .decimal x.toFloat
  | .text s => (Leading.ofText s).value

/-- The order of cells: numbers by value, then texts by code point. -/
def order : Cell → Cell → Ordering
  | .number m, .number n => compare m n
  | .number m, .real y => compare (m * grainsPerUnit) y.grains
  | .real x, .number n => compare x.grains (n * grainsPerUnit)
  | .real x, .real y => compare x.grains y.grains
  | .text s, .text t => compare s t
  | .text _, _ => .gt
  | _, .text _ => .lt

/-- Whether the first cell is below the second. -/
def below (a b : Cell) : Bool := a.order b = .lt

/-- Whether the first cell is below the second or equal to it. -/
def upTo (a b : Cell) : Bool := a.order b ≠ .gt

def greater (a b : Cell) : Cell := if a.below b then b else a

/-- The cell with a number added to it. A sum that is no integer of 64 bits is a floating-point
number. -/
def plus (a : Cell) (n : Int) : Cell :=
  match a.reading with
  | .integer m =>
    if isInt64 (m + n) then .number (m + n)
    else .real (Binary.ofFloat (Float.ofInt m + Float.ofInt n))
  | .decimal x => .ofFloat (x + Float.ofInt n)

@[simp] theorem below_number (m n : Int) : (Cell.number m).below (.number n) = decide (m < n) := by
  simp only [below, order, compare, compareOfLessAndEq]
  split
  · simp_all
  · split <;> simp_all

@[simp] theorem upTo_number (m n : Int) : (Cell.number m).upTo (.number n) = decide (m ≤ n) := by
  simp only [upTo, order, compare, compareOfLessAndEq]
  split
  · simp; omega
  · split
    · simp; omega
    · simp; omega

@[simp] theorem greater_number (m n : Int) :
    (Cell.number m).greater (.number n) = .number (max m n) := by
  simp only [greater, below_number, decide_eq_true_eq]
  split
  · rw [Int.max_eq_right (by omega)]
  · rw [Int.max_eq_left (by omega)]

/-- A sum that has 64 bits is exact. -/
theorem plus_number {m n : Int} (h : isInt64 (m + n)) : (Cell.number m).plus n = .number (m + n) := by
  simp only [plus, reading, h, if_true]

end Cell

/-- A word of 64 bits as the signed integer that a column holds. -/
def ofWord (n : Nat) : Int := if n < 0x8000000000000000 then n else (n : Int) - 0x10000000000000000

/-- The word of 64 bits that a signed integer stands for. -/
def toWord (n : Int) : Nat := (n % 0x10000000000000000).toNat

/-- A word is stored and read back. -/
theorem toWord_ofWord {n : Nat} (h : n < 0x10000000000000000) : toWord (ofWord n) = n := by
  unfold toWord ofWord
  split <;> omega

end TurnTaking.Store
