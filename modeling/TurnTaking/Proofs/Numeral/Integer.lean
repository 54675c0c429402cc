import TurnTaking.Numeral.Integer

/-!
# Integers — which texts are read

A text is read as an integer of some width just if it is decimal digits, with a sign in front of them if
wanted, of a number within the bounds of that width (`readNat64_eq_ok_iff`, `readInt64_eq_ok_iff`). A number
without a sign may have a plus in front, but no minus, not even before a zero.
-/

namespace TurnTaking.Numeral

/-- Decimal digits, at least one. -/
def IsDigits (cs : List Char) : Prop := cs ≠ [] ∧ ∀ c ∈ cs, c.isDigit = true

/-- A natural number in decimal digits, with a plus in front of them if wanted. -/
inductive SpellsNat : List Char → Nat → Prop where
  | plain {digits : List Char} (h : IsDigits digits) : SpellsNat digits (decimalValue digits)
  | plus {digits : List Char} (h : IsDigits digits) : SpellsNat ('+' :: digits) (decimalValue digits)

/-- An integer in decimal digits, with a sign in front of them if wanted. -/
inductive SpellsInt : List Char → Int → Prop where
  | positive {cs : List Char} {n : Nat} (h : SpellsNat cs n) : SpellsInt cs n
  | negative {digits : List Char} (h : IsDigits digits) : SpellsInt ('-' :: digits) (-(decimalValue digits : Int))

/-! ## Digits -/

theorem digitValue?_ten (c : Char) :
    digitValue? 10 c = if c.isDigit then some (c.toNat - '0'.toNat) else none := by
  unfold digitValue?
  by_cases hdigit : c.isDigit = true
  · have hbounds : '0' ≤ c ∧ c ≤ '9' := by simpa [Char.isDigit, Char.le_def] using hdigit
    have hnine : c.toNat ≤ 57 := hbounds.2
    rw [if_pos hbounds, if_pos hdigit]
    refine Option.filter_eq_some_iff.mpr ⟨rfl, decide_eq_true ?_⟩
    show c.toNat - 48 < 10
    omega
  · have hbounds : ¬ ('0' ≤ c ∧ c ≤ '9') := by simpa [Char.isDigit, Char.le_def] using hdigit
    rw [if_neg hbounds, if_neg hdigit]
    -- the digits past nine are too great for the base
    split
    · simp
    · split
      · simp
      · rfl

/-- The number that digits stand for after those that made `n`. -/
def valueAfter (n : Nat) (digits : List Char) : Nat := digits.foldl (fun n c => 10 * n + (c.toNat - '0'.toNat)) n

/-- More digits never make a number less. -/
theorem le_valueAfter (n : Nat) (digits : List Char) : n ≤ valueAfter n digits := by
  induction digits generalizing n with
  | nil => exact Nat.le_refl n
  | cons c digits ih =>
    have hrest := ih (10 * n + (c.toNat - '0'.toNat))
    rw [valueAfter, List.foldl_cons]
    rw [valueAfter] at hrest
    omega

/-- Digits are read if their number is within the limit, for then so is each number on the way. -/
theorem readDigits_eq_ok_iff {limit n m : Nat} {past : Flaw} {digits : List Char} (hn : n ≤ limit) :
    readDigits 10 limit past n digits = .ok m ↔
      (∀ c ∈ digits, c.isDigit = true) ∧ valueAfter n digits = m ∧ m ≤ limit := by
  induction digits generalizing n with
  | nil =>
    rw [readDigits, valueAfter, List.foldl_nil, Except.ok.injEq]
    exact ⟨fun h => ⟨nofun, h, h ▸ hn⟩, fun h => h.2.1⟩
  | cons c digits ih =>
    rw [readDigits, digitValue?_ten, List.forall_mem_cons]
    by_cases hdigit : c.isDigit = true
    · rw [if_pos hdigit]
      by_cases hnext : 10 * n + (c.toNat - '0'.toNat) ≤ limit
      · simp only [if_pos hnext, ih hnext, hdigit, true_and]
        rfl
      · have hpast : limit < valueAfter n (c :: digits) :=
          Nat.lt_of_lt_of_le (Nat.lt_of_not_le hnext) (le_valueAfter _ digits)
        simp only [if_neg hnext, reduceCtorEq, false_iff]
        rintro ⟨-, rfl, hle⟩
        omega
    · rw [if_neg hdigit]
      simp [hdigit]

/-! ## Signs -/

private theorem map_eq_ok_iff {α β : Type} {f : α → β} {x : Except Flaw α} {b : β} :
    x.map f = .ok b ↔ ∃ a, x = .ok a ∧ b = f a := by
  cases x <;> simp [Except.map, eq_comm]

/-- Digits are read if their number is in the bound. -/
theorem readPositive_eq_ok_iff {high n : Int} {digits : List Char} (hhigh : 0 ≤ high) :
    readPositive 10 high digits = .ok n ↔ IsDigits digits ∧ n = decimalValue digits ∧ n ≤ high := by
  rw [readPositive, IsDigits]
  cases digits with
  | nil => simp
  | cons c digits =>
    rw [if_neg (by simp), map_eq_ok_iff]
    simp only [readDigits_eq_ok_iff (Nat.zero_le _)]
    constructor
    · rintro ⟨m, ⟨hdigits, rfl, hle⟩, rfl⟩
      exact ⟨⟨List.cons_ne_nil _ _, hdigits⟩, rfl, (Int.le_toNat hhigh).mp hle⟩
    · rintro ⟨⟨-, hdigits⟩, rfl, hle⟩
      exact ⟨_, ⟨hdigits, rfl, (Int.le_toNat hhigh).mpr hle⟩, rfl⟩

/-- A negative number is read as its digits and then turned. -/
theorem readNegative_eq_map {low : Int} {digits : List Char} (hne : digits ≠ []) :
    readNegative 10 low digits =
      (readDigits 10 low.natAbs .tooSmall 0 digits).map fun m : Nat => -(m : Int) := by
  rw [readNegative, if_neg (by simpa using hne)]
  cases readDigits 10 low.natAbs .tooSmall 0 digits <;> rfl

/-- Digits behind a minus are read if their number is in the bound. -/
theorem readNegative_eq_ok_iff {low n : Int} {digits : List Char} (hlow : low ≤ 0) :
    readNegative 10 low digits = .ok n ↔
      IsDigits digits ∧ n = -(decimalValue digits : Int) ∧ low ≤ n := by
  rw [IsDigits]
  cases digits with
  | nil => simp [readNegative]
  | cons c digits =>
    rw [readNegative_eq_map (List.cons_ne_nil _ _), map_eq_ok_iff]
    simp only [readDigits_eq_ok_iff (Nat.zero_le _)]
    constructor
    · rintro ⟨m, ⟨hdigits, rfl, hle⟩, rfl⟩
      exact ⟨⟨List.cons_ne_nil _ _, hdigits⟩, rfl, by omega⟩
    · rintro ⟨⟨-, hdigits⟩, rfl, hle⟩
      refine ⟨_, ⟨hdigits, rfl, ?_⟩, rfl⟩
      show decimalValue (c :: digits) ≤ low.natAbs
      omega

theorem IsDigits.isDigit_head {c : Char} {rest : List Char} (h : IsDigits (c :: rest)) : c.isDigit = true :=
  h.2 c List.mem_cons_self

theorem spellsNat_plus_iff {digits : List Char} {n : Nat} :
    SpellsNat ('+' :: digits) n ↔ IsDigits digits ∧ n = decimalValue digits := by
  constructor
  · intro h
    cases h with
    | plain h => exact absurd h.isDigit_head (by decide)
    | plus h => exact ⟨h, rfl⟩
  · rintro ⟨h, rfl⟩
    exact .plus h

theorem spellsNat_iff_of_not_plus {cs : List Char} {n : Nat} (hplus : ∀ rest, cs ≠ '+' :: rest) :
    SpellsNat cs n ↔ IsDigits cs ∧ n = decimalValue cs := by
  constructor
  · intro h
    cases h with
    | plain h => exact ⟨h, rfl⟩
    | plus h => exact absurd rfl (hplus _)
  · rintro ⟨h, rfl⟩
    exact .plain h

/-- No natural number has a minus. -/
theorem not_spellsNat_minus {rest : List Char} {n : Nat} : ¬ SpellsNat ('-' :: rest) n := by
  intro h
  cases h with
  | plain h => exact absurd h.isDigit_head (by decide)

theorem spellsInt_minus_iff {digits : List Char} {n : Int} :
    SpellsInt ('-' :: digits) n ↔ IsDigits digits ∧ n = -(decimalValue digits : Int) := by
  constructor
  · intro h
    cases h with
    | positive h => exact absurd h not_spellsNat_minus
    | negative h => exact ⟨h, rfl⟩
  · rintro ⟨h, rfl⟩
    exact .negative h

theorem spellsInt_iff_of_not_minus {cs : List Char} {n : Int} (hminus : ∀ rest, cs ≠ '-' :: rest) :
    SpellsInt cs n ↔ ∃ m : Nat, SpellsNat cs m ∧ n = m := by
  constructor
  · intro h
    cases h with
    | positive h => exact ⟨_, h, rfl⟩
    | negative h => exact absurd rfl (hminus _)
  · rintro ⟨m, h, rfl⟩
    exact .positive h

/-- What has no minus in front is read alike whether or not negative numbers are wanted. -/
theorem readInBase_eq_ok_iff_of_not_minus {low high n : Int} {cs : List Char} (hhigh : 0 ≤ high)
    (hminus : ∀ rest, cs ≠ '-' :: rest) :
    readInBase 10 low high cs = .ok n ↔ ∃ m : Nat, SpellsNat cs m ∧ n = m ∧ n ≤ high := by
  unfold readInBase
  split
  · simp [spellsNat_iff_of_not_plus, IsDigits]
  · simp [readPositive_eq_ok_iff hhigh, spellsNat_plus_iff, and_assoc]
  · exact absurd rfl (hminus _)
  · rename_i hplus _
    simp [readPositive_eq_ok_iff hhigh, spellsNat_iff_of_not_plus hplus, and_assoc]

/-! ## Widths -/

/-- A text is read as a natural number of 64 bits just if it spells one. -/
theorem readNat64_eq_ok_iff {s : String} {n : Nat} :
    readNat64 s = .ok n ↔ SpellsNat s.toList n ∧ n < 0x10000000000000000 := by
  rw [readNat64, readInteger, map_eq_ok_iff]
  by_cases hminus : ∃ rest, s.toList = '-' :: rest
  · obtain ⟨rest, hs⟩ := hminus
    rw [hs]
    simp [readInBase, not_spellsNat_minus]
  · rw [not_exists] at hminus
    have hhigh : (0 : Int) ≤ 0xffffffffffffffff := by decide
    simp only [readInBase_eq_ok_iff_of_not_minus hhigh hminus]
    constructor
    · rintro ⟨_, ⟨m, hspells, rfl, hle⟩, rfl⟩
      exact ⟨hspells, by omega⟩
    · rintro ⟨hspells, hlt⟩
      exact ⟨n, ⟨n, hspells, rfl, by omega⟩, rfl⟩

/-- A text is read as a signed integer of 64 bits just if it spells one. -/
theorem readInt64_eq_ok_iff {s : String} {n : Int} :
    readInt64 s = .ok n ↔
      SpellsInt s.toList n ∧ -0x8000000000000000 ≤ n ∧ n < 0x8000000000000000 := by
  rw [readInt64, readInteger]
  by_cases hminus : ∃ rest, s.toList = '-' :: rest
  · obtain ⟨rest, hs⟩ := hminus
    rw [hs, spellsInt_minus_iff]
    show readNegative 10 _ rest = _ ↔ _
    rw [readNegative_eq_ok_iff (by decide), and_assoc]
    constructor
    · rintro ⟨hdigits, rfl, hle⟩
      exact ⟨hdigits, rfl, hle, by omega⟩
    · rintro ⟨hdigits, rfl, hle, -⟩
      exact ⟨hdigits, rfl, hle⟩
  · rw [not_exists] at hminus
    rw [readInBase_eq_ok_iff_of_not_minus (by decide) hminus, spellsInt_iff_of_not_minus hminus]
    constructor
    · rintro ⟨m, hspells, rfl, hle⟩
      exact ⟨⟨m, hspells, rfl⟩, by omega, by omega⟩
    · rintro ⟨⟨m, hspells, rfl⟩, -, hlt⟩
      exact ⟨m, hspells, rfl, by omega⟩

end TurnTaking.Numeral
