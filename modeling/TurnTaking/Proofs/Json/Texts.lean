import Mathlib.Tactic.SplitIfs
import TurnTaking.Json.Decode
import TurnTaking.Json.Reader
import TurnTaking.Json.Writer

/-!
# Texts in JSON — read as they were written

A text that is written is read as it was, whatever characters it has (`readText_written`): what is written for a
character is read as that character's code point, no code point of a character is half of a pair, and the end of
the text is found where it was written.
-/

namespace TurnTaking

namespace Numeral

/-- A hexadecimal digit has the value that it was written for. -/
theorem digitValue_digitChar {d : Nat} (h : d < 16) : digitValue? 16 (Nat.digitChar d) = some d := by
  have hall : ∀ d : Fin 16, digitValue? 16 (Nat.digitChar d) = some d.val := by decide
  exact hall ⟨d, h⟩

end Numeral

namespace Json

/-! ## A character -/

/-- Four hexadecimal digits are read as the number that they were written for. -/
theorem hexValue_hex4 {n : Nat} (h : n < 65536) : Numeral.hexValue? (hex4 n) = some n := by
  have hdigit : ∀ m, Numeral.digitValue? 16 (Nat.digitChar (m % 16)) = some (m % 16) := fun m =>
    Numeral.digitValue_digitChar (Nat.mod_lt m (by decide))
  simp only [Numeral.hexValue?, hex4, List.foldlM_cons, List.foldlM_nil, hdigit, Option.map_some,
    Option.bind_eq_bind, Option.bind_some, Option.pure_def]
  congr 1
  omega

theorem readUnits_quote (rest : List Char) : readUnits ('"' :: rest) = some ([], rest) := by
  rw [readUnits]

/-- An escaped character is read as what it stands for. -/
theorem readUnits_escape {c e : Char} (he : escaped? c = some e) (rest : List Char) :
    readUnits ('\\' :: c :: rest) = (readUnits rest).map fun r => (e.toNat :: r.1, r.2) := by
  have hletter : c ≠ 'u' := by
    rintro rfl
    cases he
  rw [readUnits]
  · rw [he]
    cases readUnits rest <;> rfl
  · intro _ _ _ _ _ hu
    exact absurd hu hletter

/-- Four hexadecimal digits are read as one unit. -/
theorem readUnits_hex {n : Nat} (h : n < 65536) (rest : List Char) :
    readUnits ('\\' :: 'u' :: hex4 n ++ rest) = (readUnits rest).map fun r => (n :: r.1, r.2) := by
  have hdigits := hexValue_hex4 h
  rw [hex4] at hdigits ⊢
  simp only [List.cons_append, List.nil_append]
  rw [readUnits, hdigits]
  cases readUnits rest <;> rfl

/-- A character that needs no escape stands for itself. -/
theorem readUnits_plain {c : Char} (hquote : c ≠ '"') (hslash : c ≠ '\\') (hplain : ¬ c.toNat < 32)
    (rest : List Char) :
    readUnits (c :: rest) = (readUnits rest).map fun r => (c.toNat :: r.1, r.2) := by
  rw [readUnits]
  · rw [if_neg (by simp [hplain, hslash])]
    cases readUnits rest <;> rfl
  · exact hquote
  · intro _ _ _ _ _ hc
    exact absurd hc hslash
  · intro _ _ hc
    exact absurd hc hslash

/-- What is written for a character is read as its code point. -/
theorem readUnits_writeChar (c : Char) (rest : List Char) :
    readUnits (writeChar c ++ rest) = (readUnits rest).map fun r => (c.toNat :: r.1, r.2) := by
  rw [writeChar]
  split_ifs with hquote hslash hback htab hline hfeed hreturn hcontrol
  · subst hquote
    exact readUnits_escape rfl rest
  · subst hslash
    exact readUnits_escape rfl rest
  · subst hback
    exact readUnits_escape rfl rest
  · subst htab
    exact readUnits_escape rfl rest
  · subst hline
    exact readUnits_escape rfl rest
  · subst hfeed
    exact readUnits_escape rfl rest
  · subst hreturn
    exact readUnits_escape rfl rest
  · exact readUnits_hex (Nat.lt_trans hcontrol (by decide)) rest
  · exact readUnits_plain hquote hslash hcontrol rest

/-! ## A text -/

/-- What is written for characters is read as their code points, up to the closing quote. -/
theorem readUnits_written (s rest : List Char) :
    readUnits (s.flatMap writeChar ++ '"' :: rest) = some (s.map Char.toNat, rest) := by
  induction s with
  | nil => exact readUnits_quote rest
  | cons c s ih =>
    rw [List.flatMap_cons, List.append_assoc, readUnits_writeChar, ih]
    rfl

/-- No code point of a character is half of a pair, so that each stands for itself. -/
theorem joinUnits_characters (s : List Char) : joinUnits (s.map Char.toNat) = some s := by
  have hwhole : ∀ c : Char, ¬ (0xD800 ≤ c.toNat ∧ c.toNat ≤ 0xDFFF) := by
    intro c
    have hvalid := c.valid
    rcases hvalid with hlow | ⟨hhigh, -⟩
    · have : c.toNat < 0xD800 := hlow
      omega
    · have : 0xDFFF < c.toNat := hhigh
      omega
  induction s with
  | nil => rfl
  | cons c s ih =>
    have hc := hwhole c
    cases s with
    | nil =>
      rw [List.map_cons, List.map_nil, joinUnits, if_neg (by simpa using hc), Char.ofNat_toNat]
    | cons d s =>
      rw [List.map_cons, List.map_cons, joinUnits, ← List.map_cons, ih, if_neg (by simp; omega),
        if_neg (by simp; omega), Char.ofNat_toNat]
      rfl

/-- A text that is written is read, and what follows is left. -/
theorem readText_written (s : String) (rest : List Char) :
    readText (s.toList.flatMap writeChar ++ '"' :: rest) = some (some s, rest) := by
  rw [readText, readUnits_written, Option.map_some, joinUnits_characters, Option.map_some,
    String.ofList_toList]

/-! ## A value -/

/-- A character that is no blank is the first that is read. -/
theorem skipGaps_cons {c : Char} (hc : isGap c = false) (rest : List Char) :
    skipGaps (c :: rest) = c :: rest := by
  rw [skipGaps, List.dropWhile_cons, hc, if_neg Bool.false_ne_true]

theorem writeValue_text (s : String) (rest : List Char) :
    writeValue (ofText s) ++ rest = '"' :: (s.toList.flatMap writeChar ++ '"' :: rest) := by
  rw [ofText, writeValue, Option.getD_some, writeText]
  simp

/-- A written text is read back, whatever follows. -/
theorem readValue_text (n : Nat) (s : String) (rest : List Char) :
    readValue (n + 1) (writeValue (ofText s) ++ rest) = some (ofText s, rest) := by
  rw [writeValue_text, readValue, skipGaps_cons rfl]
  simp only [readText_written]
  rfl

end Json

end TurnTaking
