import TurnTaking.Store.Cell

/-!
# Cells — their order

Cells are ordered by what they are (a number or a text), then as numbers, then as texts (`Cell.order_eq`). So
whatever is above a time is above all earlier ones.
-/

namespace TurnTaking.Store.Cell

open Std

/-- Numbers come first, texts second. -/
def rank : Cell → Nat
  | .number _ | .real _ => 0
  | .text _ => 1

/-- The value of a number in grains. -/
def grains : Cell → Int
  | .number n => n * Numeral.grainsPerUnit
  | .real x => x.grains
  | .text _ => 0

def characters : Cell → String
  | .text s => s
  | _ => ""

theorem compare_mul {g : Int} (hg : 0 < g) (m n : Int) : compare (m * g) (n * g) = compare m n := by
  simp only [compare, compareOfLessAndEq, Int.mul_lt_mul_right hg,
    Int.mul_eq_mul_right_iff (Int.ne_of_gt hg)]

theorem grainsPerUnit_pos : (0 : Int) < Numeral.grainsPerUnit := by
  have hpow : ∀ n, 0 < Nat.pow 2 n := fun _ => Nat.pow_pos Nat.zero_lt_two
  have hpos : 0 < Numeral.grainsPerUnit := by
    unfold Numeral.grainsPerUnit
    exact hpow 1074
  exact Int.natCast_pos.mpr hpos

/-- Among numbers, only the grains decide. -/
theorem order_of_numbers (o : Ordering) :
    (compare 0 0 : Ordering).then (o.then (compare "" "")) = o := by
  have hzero : (compare 0 0 : Ordering) = .eq := rfl
  have hempty : (compare "" "" : Ordering) = .eq := rfl
  rw [hzero, hempty]
  cases o <;> rfl

/-- The order of cells is made of three orders, each of which decides where those before do not. -/
theorem order_eq : order =
    compareLex (compareOn rank) (compareLex (compareOn grains) (compareOn characters)) := by
  funext a b
  cases a with
  | text s => cases b <;> rfl
  | number m =>
    cases b with
    | number n => exact (compare_mul grainsPerUnit_pos m n).symm.trans (order_of_numbers _).symm
    | real y => exact (order_of_numbers _).symm
    | text t => rfl
  | real x =>
    cases b with
    | number n => exact (order_of_numbers _).symm
    | real y => exact (order_of_numbers _).symm
    | text t => rfl

instance : TransCmp order := by
  rw [order_eq]
  infer_instance

/-- Of two cells, the first is below the second or the second is up to the first. -/
theorem upTo_eq (a b : Cell) : b.upTo a = !a.below b := by
  have hswap : b.order a = (a.order b).swap := OrientedCmp.eq_swap
  rw [upTo, below, hswap]
  cases a.order b <;> rfl

section

variable {m n : Int}

/-- Numbers are sorted by their size. -/
theorem isLE_number (h : m ≤ n) : ((number m).order (number n)).isLE := by
  have hup : (number m).upTo (number n) = true := by rw [upTo_number, decide_eq_true h]
  exact Ordering.isLE_iff_ne_gt.mpr (of_decide_eq_true hup)

/-- What is above a later time is above an earlier one. -/
theorem below_of_le (h : m ≤ n) {c : Cell} (hc : (number n).below c = true) :
    (number m).below c = true :=
  decide_eq_true (TransCmp.lt_of_isLE_of_lt (isLE_number h) (of_decide_eq_true hc))

/-- What is not below a later time is not below an earlier one. -/
theorem upTo_of_le (h : m ≤ n) {c : Cell} (hc : (number n).upTo c = true) :
    (number m).upTo c = true := by
  rw [upTo_eq, Bool.not_eq_true'] at hc ⊢
  cases hbelow : c.below (number m) with
  | false => rfl
  | true =>
    have hall : c.below (number n) = true :=
      decide_eq_true (TransCmp.lt_of_lt_of_isLE (of_decide_eq_true hbelow) (isLE_number h))
    rw [hall] at hc
    cases hc

end

end TurnTaking.Store.Cell
