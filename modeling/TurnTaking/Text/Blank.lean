/-!
# Blank characters

The Unicode property *White_Space*, and trimming by it.
-/

namespace TurnTaking.Text

/-- Characters with the property White_Space. -/
def isBlank (c : Char) : Bool :=
  let n := c.toNat
  (0x0009 ≤ n && n ≤ 0x000D) ||
  n = 0x0020 ||
  n = 0x0085 ||
  n = 0x00A0 ||
  n = 0x1680 ||
  (0x2000 ≤ n && n ≤ 0x200A) ||
  (0x2028 ≤ n && n ≤ 0x2029) ||
  n = 0x202F ||
  n = 0x205F ||
  n = 0x3000

/-- Everything that core counts as white space is blank. -/
theorem isBlank_of_isWhitespace {c : Char} (h : c.isWhitespace = true) : isBlank c = true := by
  simp only [Char.isWhitespace, Bool.or_eq_true, decide_eq_true_eq] at h
  rcases h with ((h | h) | h) | h <;> subst h <;> decide

/-- The characters without the blanks at either end. -/
def trimChars (cs : List Char) : List Char :=
  ((cs.dropWhile isBlank).reverse.dropWhile isBlank).reverse

/-- The text without the blanks at either end. -/
def trim (s : String) : String := String.ofList (trimChars s.toList)

end TurnTaking.Text
