import TurnTaking.Proofs.Json.Texts

/-!
# Round trips through JSON — what is written is read

A value that a program writes holds integers and Unicode texts, and its objects have texts as keys (`Plain`). Its
text is read as that value (`read_write`): each part is read as it was written, up to where the next one begins.
The reader goes down one level at least for each character that it takes, so that the length of the text bounds
what it needs.
-/

namespace TurnTaking.Json

/-- A value of integers, Unicode texts and objects with texts as keys. -/
inductive Plain : Json → Prop where
  | null : Plain .null
  | bool (b : Bool) : Plain (.bool b)
  | int (n : Int) : Plain (ofInt n)
  | text (s : String) : Plain (ofText s)
  | array {items : List Json} (plain : ∀ v ∈ items, Plain v) : Plain (.array items)
  | object {members : List (String × Json)} (plain : ∀ m ∈ members, Plain m.2) : Plain (ofMembers members)

/-- What follows does not go on with a number. -/
def Ends (rest : List Char) : Prop :=
  ∀ c ∈ rest.head?, c.isDigit = false ∧ c ≠ '.' ∧ c ≠ 'e' ∧ c ≠ 'E'

theorem Ends.nil : Ends [] := fun _ h => nomatch h

/-- No number goes on with such a character. -/
theorem Ends.of_head {c : Char} {rest : List Char} (hdigit : c.isDigit = false) (hpoint : c ≠ '.')
    (hlower : c ≠ 'e') (hupper : c ≠ 'E') : Ends (c :: rest) := by
  intro d hd
  obtain rfl := Option.some.inj hd
  exact ⟨hdigit, hpoint, hlower, hupper⟩

/-! ## Digits -/

theorem isDigit_of_mem_digitsOf {n : Nat} {c : Char} (h : c ∈ digitsOf n) : c.isDigit = true :=
  Nat.isDigit_of_mem_toDigits (by decide) (by decide) h

theorem digitsOf_ne_nil (n : Nat) : digitsOf n ≠ [] := Nat.toDigits_ne_nil

theorem decimalValue_digitsOf (n : Nat) : Numeral.decimalValue (digitsOf n) = n :=
  Nat.ofDigitChars_toDigits (by decide) (by decide)

/-- Only the digits of zero start with zero. -/
theorem head_digitsOf {n : Nat} (h : (digitsOf n).head? = some '0') : n = 0 := by
  induction n using Nat.strongRecOn with
  | ind n ih =>
    by_cases hsmall : n < 10
    · rw [digitsOf, Nat.toDigits_of_lt_base hsmall, List.head?_cons, Option.some.injEq] at h
      have hall : ∀ d : Fin 10, Nat.digitChar d = '0' → d.val = 0 := by decide
      exact hall ⟨n, hsmall⟩ h
    · have hmore : 10 ≤ n := Nat.not_lt.mp hsmall
      have hmany : digitsOf n = digitsOf (n / 10) ++ [Nat.digitChar (n % 10)] :=
        Nat.toDigits_of_base_le (by decide) hmore
      have hleading : (digitsOf (n / 10)).head? = some '0' := by
        rw [hmany, List.head?_append] at h
        cases hdigits : digitsOf (n / 10) with
        | nil => exact absurd hdigits (digitsOf_ne_nil _)
        | cons c rest =>
          rw [hdigits] at h
          exact h
      have hzero := ih (n / 10) (by omega) hleading
      omega

/-! ## Numbers -/

/-- Written digits are read up to what follows them. -/
theorem readDigits_written {digits rest : List Char} (hdigits : ∀ c ∈ digits, c.isDigit = true)
    (hne : digits ≠ []) (hrest : ∀ c ∈ rest.head?, c.isDigit = false) :
    readDigits (digits ++ rest) = some (digits, rest) := by
  have hstop : rest.takeWhile Char.isDigit = [] ∧ rest.dropWhile Char.isDigit = rest := by
    cases rest with
    | nil => exact ⟨rfl, rfl⟩
    | cons c rest =>
      have hc := hrest c rfl
      constructor
      · rw [List.takeWhile_cons, hc, if_neg Bool.false_ne_true]
      · rw [List.dropWhile_cons, hc, if_neg Bool.false_ne_true]
  rw [readDigits, List.takeWhile_append_of_pos hdigits, List.dropWhile_append_of_pos hdigits, hstop.1, hstop.2,
    List.append_nil]
  exact if_neg (by simpa using hne)

/-- No written number starts with an idle zero. -/
theorem readWhole_digitsOf (n : Nat) {rest : List Char} (hrest : Ends rest) :
    readWhole (digitsOf n ++ rest) = some (digitsOf n, rest) := by
  have hread := readDigits_written (fun _ => isDigit_of_mem_digitsOf) (digitsOf_ne_nil n)
    fun c hc => (hrest c hc).1
  rw [readWhole, hread, Option.bind_some]
  refine if_neg ?_
  rw [Bool.and_eq_true, decide_eq_true_eq, decide_eq_true_eq]
  rintro ⟨hzero, hlong⟩
  obtain rfl := head_digitsOf hzero
  exact hlong rfl

theorem readMagnitude_digitsOf (negative : Bool) (n : Nat) {rest : List Char} (hrest : Ends rest) :
    readMagnitude negative (digitsOf n ++ rest) = some (⟨negative, digitsOf n, none, none⟩, rest) := by
  have hfraction : readFraction rest = some (none, rest) := by
    cases rest with
    | nil => rfl
    | cons c rest =>
      rw [readFraction]
      intro _ hc
      obtain ⟨rfl, -⟩ := List.cons.inj hc
      exact (hrest '.' rfl).2.1 rfl
  have hexponent : readExponent rest = some (none, rest) := by
    cases rest with
    | nil => rfl
    | cons c rest =>
      obtain ⟨-, -, hlower, hupper⟩ := hrest c rfl
      unfold readExponent
      exact if_neg (by simp [hlower, hupper])
  rw [readMagnitude, readWhole_digitsOf n hrest]
  simp only [Option.bind_eq_bind, Option.bind_some, hfraction, hexponent, Option.pure_def]

/-- An integer is written as its sign and its digits. -/
theorem writeValue_ofInt (n : Int) :
    writeValue (ofInt n) = (if n < 0 then ['-'] else []) ++ digitsOf n.natAbs := by
  simp [ofInt, writeValue, writeNumber]

/-- An integer starts with a minus sign or a digit. -/
theorem exists_writeValue_ofInt (n : Int) :
    ∃ c cs, writeValue (ofInt n) = c :: cs ∧ (c = '-' ∨ c.isDigit = true) := by
  rw [writeValue_ofInt]
  by_cases hn : n < 0
  · rw [if_pos hn]
    exact ⟨'-', _, rfl, .inl rfl⟩
  · rw [if_neg hn, List.nil_append]
    cases hdigits : digitsOf n.natAbs with
    | nil => exact absurd hdigits (digitsOf_ne_nil _)
    | cons c cs =>
      have hmem : c ∈ digitsOf n.natAbs := hdigits ▸ List.mem_cons_self
      exact ⟨c, cs, rfl, .inr (isDigit_of_mem_digitsOf hmem)⟩

/-- The number that was written is read back. -/
theorem readNumber_ofInt (n : Int) {rest : List Char} (hrest : Ends rest) :
    readNumber (writeValue (ofInt n) ++ rest) =
      some (⟨decide (n < 0), digitsOf n.natAbs, none, none⟩, rest) := by
  rw [writeValue_ofInt]
  by_cases hn : n < 0
  · rw [if_pos hn, decide_eq_true hn]
    exact readMagnitude_digitsOf true _ hrest
  · have hread := readMagnitude_digitsOf false n.natAbs hrest
    rw [if_neg hn, decide_eq_false hn, List.nil_append, ← hread, readNumber]
    intro cs hcs
    cases hdigits : digitsOf n.natAbs with
    | nil => exact absurd hdigits (digitsOf_ne_nil _)
    | cons c ds =>
      rw [hdigits] at hcs
      obtain ⟨rfl, -⟩ := List.cons.inj hcs
      have hdash : Char.isDigit '-' = true := isDigit_of_mem_digitsOf (hdigits ▸ List.mem_cons_self)
      cases hdash

/-! ## Values -/

theorem isGap_number {c : Char} (hc : c = '-' ∨ c.isDigit = true) : isGap c = false := by
  rcases hc with rfl | hdigit
  · rfl
  · simp only [isGap, Bool.or_eq_false_iff, decide_eq_false_iff_not]
    refine ⟨⟨⟨?_, ?_⟩, ?_⟩, ?_⟩ <;> rintro rfl <;> cases hdigit

/-- Where a minus sign or a digit stands, a number is read. -/
theorem readValue_number {c : Char} (hc : c = '-' ∨ c.isDigit = true) (n : Nat) (cs : List Char) :
    readValue (n + 1) (c :: cs) = (readNumber (c :: cs)).map fun r => (.number r.1, r.2) := by
  have hother : ∀ d : Char, d ≠ '-' → d.isDigit = false → c ≠ d := by
    rintro d hdash hdigit rfl
    rcases hc with rfl | hc
    · exact hdash rfl
    · rw [hc] at hdigit
      cases hdigit
  rw [readValue, skipGaps_cons (isGap_number hc)]
  -- no other value starts that way
  split
  all_goals first
    | rfl
    | rename_i heq
      exact absurd (List.cons.inj heq).1 (hother _ (by decide) rfl)

/-- A value is read where it was written, before anything that does not go on with a number. -/
def Reads (v : Json) : Prop :=
  ∀ n rest, (writeValue v).length ≤ n → Ends rest → readValue n (writeValue v ++ rest) = some (v, rest)

/-- Integers are read back. -/
theorem reads_ofInt (n : Int) : Reads (ofInt n) := by
  intro fuel rest hfuel hrest
  obtain ⟨c, cs, hwritten, hc⟩ := exists_writeValue_ofInt n
  have hread := readNumber_ofInt n hrest
  rw [hwritten] at hfuel hread ⊢
  cases fuel with
  | zero => cases hfuel
  | succ fuel =>
    rw [List.cons_append] at hread ⊢
    rw [readValue_number hc, hread]
    rfl

/-- Texts are read back. -/
theorem reads_ofText (s : String) : Reads (ofText s) := by
  intro fuel rest hfuel _
  have hquote := writeValue_text s []
  rw [List.append_nil] at hquote
  rw [hquote] at hfuel
  cases fuel with
  | zero => cases hfuel
  | succ fuel => exact readValue_text fuel s rest

/-- A value starts with neither a blank nor the end of an array. -/
theorem Plain.starts {v : Json} (hv : Plain v) :
    ∃ c cs, writeValue v = c :: cs ∧ isGap c = false ∧ c ≠ ']' := by
  cases hv with
  | null => exact ⟨'n', _, rfl, rfl, by decide⟩
  | bool b => cases b <;> exact ⟨_, _, rfl, rfl, by decide⟩
  | int n =>
    obtain ⟨c, cs, hwritten, hc⟩ := exists_writeValue_ofInt n
    refine ⟨c, cs, hwritten, isGap_number hc, ?_⟩
    rintro rfl
    rcases hc with h | h <;> cases h
  | text s =>
    have hquote := writeValue_text s []
    rw [List.append_nil] at hquote
    exact ⟨'"', _, hquote, rfl, by decide⟩
  | array plain =>
    rename_i items
    cases items <;> exact ⟨'[', _, rfl, rfl, by decide⟩
  | object plain =>
    rename_i members
    cases members <;> exact ⟨'\x7b', _, rfl, rfl, by decide⟩

/-! ## Arrays and objects -/

theorem ends_writeItems (items : List Json) (rest : List Char) : Ends (writeItems items ++ rest) := by
  cases items <;> exact .of_head rfl (by decide) (by decide) (by decide)

/-- The remaining items of an array are read one by one, up to its end. -/
theorem readItems_written {items : List Json} (hitems : ∀ v ∈ items, Reads v) (rest : List Char) {n : Nat}
    (hn : (writeItems items).length ≤ n) : readItems n (writeItems items ++ rest) = some (items, rest) := by
  induction items generalizing n with
  | nil =>
    cases n with
    | zero => cases hn
    | succ n => rfl
  | cons v items ih =>
    obtain ⟨hv, hitems⟩ := List.forall_mem_cons.mp hitems
    cases n with
    | zero => cases hn
    | succ n =>
      rw [writeItems, List.cons_append, List.length_cons, List.length_append] at hn
      have hfirst := hv n (writeItems items ++ rest) (by omega) (ends_writeItems items rest)
      have hmore := ih hitems (n := n) (by omega)
      rw [writeItems, List.cons_append, List.cons_append, List.append_assoc, readItems, skipGaps_cons rfl]
      simp only [hfirst, hmore, Option.bind_eq_bind, Option.bind_some, Option.pure_def]

/-- A list is read back if its items are. -/
theorem reads_array {items : List Json} (hplain : ∀ v ∈ items, Plain v) (hitems : ∀ v ∈ items, Reads v) :
    Reads (.array items) := by
  intro n rest hn _
  cases n with
  | zero => cases items <;> cases hn
  | succ n =>
    cases items with
    | nil => rfl
    | cons v items =>
      obtain ⟨hv, hitems⟩ := List.forall_mem_cons.mp hitems
      obtain ⟨c, cs, hstart, hgap, hclose⟩ := (hplain v List.mem_cons_self).starts
      rw [writeValue, List.cons_append, List.length_cons, List.length_append] at hn
      have hfirst := hv n (writeItems items ++ rest) (by omega) (ends_writeItems items rest)
      have hmore := readItems_written hitems rest (n := n) (by omega)
      rw [writeValue, List.cons_append, List.cons_append, List.append_assoc, readValue, skipGaps_cons rfl]
      rw [hstart, List.cons_append] at hfirst ⊢
      simp only [skipGaps_cons hgap]
      split
      · rename_i heq
        exact absurd (List.cons.inj heq).1 hclose
      · simp only [hfirst, hmore, Option.bind_eq_bind, Option.bind_some, Option.pure_def]

/-- The members of an object with texts as keys. -/
def keyed (members : List (String × Json)) : List (Option String × Json) :=
  members.map fun m => (some m.1, m.2)

theorem ends_writeMembers (members : List (Option String × Json)) (rest : List Char) :
    Ends (writeMembers members ++ rest) := by
  cases members <;> exact .of_head rfl (by decide) (by decide) (by decide)

/-- A member is read back if its value is. -/
theorem readMember_written (key : String) {v : Json} (hv : Reads v) {rest : List Char} (hrest : Ends rest)
    {n : Nat} (hn : (writeValue v).length < n) :
    readMember n (writeText key.toList ++ ':' :: writeValue v ++ rest) = some ((some key, v), rest) := by
  cases n with
  | zero => cases hn
  | succ n =>
    have hvalue := hv n rest (Nat.le_of_lt_succ hn) hrest
    have hkey : writeText key.toList ++ ':' :: writeValue v ++ rest =
        '"' :: (key.toList.flatMap writeChar ++ '"' :: ':' :: (writeValue v ++ rest)) := by
      simp [writeText]
    rw [hkey, readMember, skipGaps_cons rfl]
    simp only [readText_written, skipGaps_cons (show isGap ':' = false from rfl), hvalue, Option.bind_eq_bind,
      Option.bind_some, Option.pure_def]

/-- Members are read back one after the other. -/
theorem readMembers_written {members : List (String × Json)} (hmembers : ∀ m ∈ members, Reads m.2)
    (rest : List Char) {n : Nat} (hn : (writeMembers (keyed members)).length ≤ n) :
    readMembers n (writeMembers (keyed members) ++ rest) = some (keyed members, rest) := by
  induction members generalizing n with
  | nil =>
    cases n with
    | zero => cases hn
    | succ n => rfl
  | cons m members ih =>
    obtain ⟨key, v⟩ := m
    obtain ⟨hvalue, hmembers⟩ := List.forall_mem_cons.mp hmembers
    have hv : Reads v := hvalue
    cases n with
    | zero => cases hn
    | succ n =>
      have hwritten : writeMembers (keyed ((key, v) :: members)) =
          ',' :: (writeText key.toList ++ ':' :: writeValue v ++ writeMembers (keyed members)) := by
        simp [keyed, writeMembers]
      rw [hwritten] at hn ⊢
      simp only [List.length_cons, List.length_append] at hn
      have hfirst := readMember_written key hv (ends_writeMembers (keyed members) rest) (n := n) (by omega)
      have hmore := ih hmembers (n := n) (by omega)
      rw [List.cons_append, List.append_assoc, readMembers, skipGaps_cons rfl]
      simp only [hfirst, hmore, Option.bind_eq_bind, Option.bind_some, Option.pure_def]
      rfl

theorem reads_ofMembers {members : List (String × Json)} (hmembers : ∀ m ∈ members, Reads m.2) :
    Reads (ofMembers members) := by
  intro n rest hn _
  cases n with
  | zero => cases members <;> cases hn
  | succ n =>
    cases members with
    | nil => rfl
    | cons m members =>
      obtain ⟨key, v⟩ := m
      obtain ⟨hvalue, hmembers⟩ := List.forall_mem_cons.mp hmembers
      have hv : Reads v := hvalue
      have hwritten : writeValue (ofMembers ((key, v) :: members)) =
          '\x7b' :: (writeText key.toList ++ ':' :: writeValue v ++ writeMembers (keyed members)) := by
        simp [ofMembers, keyed, writeValue]
      rw [hwritten] at hn ⊢
      simp only [List.length_cons, List.length_append] at hn
      have hfirst := readMember_written key hv (ends_writeMembers (keyed members) rest) (n := n) (by omega)
      have hmore := readMembers_written hmembers rest (n := n) (by omega)
      rw [List.cons_append, List.append_assoc, readValue, skipGaps_cons rfl]
      simp only [writeText, List.cons_append] at hfirst ⊢
      simp only [skipGaps_cons (show isGap '"' = false from rfl), hfirst, hmore, Option.bind_eq_bind,
        Option.bind_some, Option.pure_def]
      rfl

/-! ## Whole texts -/

/-- Every plain value is read back, by induction on how it is made. -/
theorem Plain.reads {v : Json} (hv : Plain v) : Reads v := by
  induction hv with
  | null =>
    intro n rest hn _
    cases n with
    | zero => cases hn
    | succ n => rfl
  | bool b =>
    intro n rest hn _
    cases n with
    | zero => cases b <;> cases hn
    | succ n => cases b <;> rfl
  | int n => exact reads_ofInt n
  | text s => exact reads_ofText s
  | array plain ih => exact reads_array plain ih
  | object plain ih => exact reads_ofMembers ih

/-- A value that is written is read. -/
theorem read_write {v : Json} (hv : Plain v) : read? (write v) = some v := by
  have hread := hv.reads (2 * (writeValue v).length + 2) [] (by omega) .nil
  rw [List.append_nil] at hread
  rw [read?, write, String.length_ofList, String.toList_ofList, hread]
  rfl

end TurnTaking.Json
