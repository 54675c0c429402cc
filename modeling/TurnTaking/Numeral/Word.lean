import TurnTaking.Numeral.Leading

/-!
# Words — sums and differences of 64 bits

Times, in milliseconds since the epoch, and spans of time are signed words of 64 bits, and so are their sums and
differences. One with more bits overflows: a program stops there if it was built to notice (`inWord`), and
otherwise goes on with the bits that are left (`wrapped`). No time that a clock shows, with spans of less than a
million years, comes near the bounds, and there both are the exact number (`inWord_eq_ok_iff`, `wrapped_eq`).
-/

namespace TurnTaking.Numeral

/-- A number that no signed word of 64 bits holds, where one was to be computed. -/
structure Overflow where
  value : Int
deriving DecidableEq, Repr

/-- A number computed as a signed word of 64 bits. -/
def inWord (n : Int) : Except Overflow Int := if isInt64 n then .ok n else .error ⟨n⟩

/-- The signed word of 64 bits that is left of a number when the bits above are dropped. -/
def wrapped (n : Int) : Int := (n + 0x8000000000000000) % 0x10000000000000000 - 0x8000000000000000

/-- The bounds of a word, in the form that arithmetic decides. -/
theorem isInt64_iff {n : Int} : isInt64 n = true ↔ -0x8000000000000000 ≤ n ∧ n < 0x8000000000000000 := by
  rw [isInt64, Bool.and_eq_true, decide_eq_true_eq, decide_eq_true_eq]

/-- Just the signed words are computed. -/
theorem inWord_eq_ok_iff {m n : Int} : inWord m = .ok n ↔
    -0x8000000000000000 ≤ m ∧ m < 0x8000000000000000 ∧ n = m := by
  rw [inWord]
  constructor
  · intro h
    split at h
    · rename_i hword
      obtain ⟨hlow, hhigh⟩ := isInt64_iff.mp hword
      exact ⟨hlow, hhigh, (Except.ok.inj h).symm⟩
    · cases h
  · rintro ⟨hlow, hhigh, rfl⟩
    rw [if_pos (isInt64_iff.mpr ⟨hlow, hhigh⟩)]

/-- A sum above every word overflows. -/
theorem inWord_eq_overflow {n : Int} (h : 0x8000000000000000 ≤ n) : inWord n = .error ⟨n⟩ := by
  have hno : ¬ isInt64 n = true := by
    rw [isInt64_iff]
    omega
  rw [inWord, if_neg hno]

/-- What comes of a sum that wraps is a word. -/
theorem isInt64_wrapped (n : Int) : isInt64 (wrapped n) = true := by
  rw [isInt64_iff, wrapped]
  omega

/-- A number of 64 bits is left as it is. -/
theorem wrapped_eq {n : Int} (h : isInt64 n = true) : wrapped n = n := by
  rw [isInt64_iff] at h
  rw [wrapped]
  omega

/-- Only a number below all words is followed by a greater one, -/
theorem wrapped_le {n : Int} (h : -0x8000000000000000 ≤ n) : wrapped n ≤ n := by
  rw [wrapped]
  omega

/-- and only one above all words by a smaller one. -/
theorem le_wrapped {n : Int} (h : n < 0x8000000000000000) : n ≤ wrapped n := by
  rw [wrapped]
  omega

end TurnTaking.Numeral
