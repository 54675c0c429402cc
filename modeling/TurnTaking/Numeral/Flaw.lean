/-!
# Numerals — why a text is none
-/

namespace TurnTaking.Numeral

/-- Why a text is no number of the wanted kind. -/
inductive Flaw where
  /-- There is no character where an integer is expected. -/
  | emptyInteger
  /-- A character is no digit. -/
  | badDigit
  | tooLarge
  | tooSmall
  /-- There is no character where a decimal fraction is expected. -/
  | emptyDecimal
  /-- The text has not the form of a decimal fraction. -/
  | badDecimal
deriving DecidableEq, Repr, Inhabited

def Flaw.message : Flaw → String
  | .emptyInteger => "cannot parse integer from empty string"
  | .badDigit => "invalid digit found in string"
  | .tooLarge => "number too large to fit in target type"
  | .tooSmall => "number too small to fit in target type"
  | .emptyDecimal => "cannot parse float from empty string"
  | .badDecimal => "invalid float literal"

end TurnTaking.Numeral
