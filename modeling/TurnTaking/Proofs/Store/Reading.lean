import TurnTaking.Proofs.Json.Typed
import TurnTaking.Proofs.Store.Frame
import TurnTaking.Store.Reading

/-!
# Reading columns — what was stored is read

Texts, lists of texts, and natural numbers of 32 bits are read as what they were when they were stored. Rows
are read one by one, and what was read of them was read of one of them.
-/

namespace TurnTaking.Store

theorem texts_ofTexts (l : List String) : texts? (ofTexts l) = some l := by
  rw [texts?, ofTexts, Json.read_write (.ofList .text), Option.bind_some,
    Json.asList?_ofList fun s _ => Json.asText?_ofText s]

theorem readTexts_ofTexts (column : Nat) (l : List String) : readTexts column (ofTexts l) = .ok l := by
  rw [readTexts, texts_ofTexts]

theorem readNat32_number {n : Int} (h : 0 ≤ n ∧ n < 0x100000000) (column : Nat) (name : String) :
    readNat32 column name (.number n) = .ok n.toNat := if_pos h

/-- A number that has no 32 bits is refused. -/
theorem readNat32_excess {n : Int} (h : ¬ (0 ≤ n ∧ n < 0x100000000)) (column : Nat) (name : String) :
    readNat32 column name (.number n) = .error (.outOfRange n column) := if_neg h

theorem readNat32_nat {n : Nat} (h : n < 0x100000000) (column : Nat) (name : String) :
    readNat32 column name (.number n) = .ok n := by
  have hn : 0 ≤ (n : Int) ∧ (n : Int) < 0x100000000 := ⟨Int.natCast_nonneg n, Int.ofNat_lt.mpr h⟩
  rw [readNat32_number hn, Int.toNat_natCast]

/-- What is read as a natural number is one, of 32 bits. -/
theorem readNat32_eq_ok (column : Nat) (name : String) {n : Nat} {c : Cell} :
    readNat32 column name c = .ok n ↔ c = .number n ∧ n < 0x100000000 := by
  constructor
  · intro h
    obtain ⟨m, hm, h⟩ := reading_ok h
    cases c with
    | number m' =>
      obtain rfl : m' = m := Except.ok.inj hm
      split at h
      · rename_i hrange
        obtain rfl := Except.ok.inj h
        exact ⟨congrArg Cell.number (Int.toNat_of_nonneg hrange.1).symm, by omega⟩
      · cases h
    | real x => cases hm
    | text s => cases hm
  · rintro ⟨rfl, hn⟩
    exact readNat32_nat hn column name

/-- A column of texts is read where none of them is missing. -/
theorem readRows_some (column : Nat) (name : String) (texts : List String) :
    readRows (readText column name) (texts.map some) = .ok texts := by
  induction texts with
  | nil => rfl
  | cons text rest ih =>
    rw [List.map_cons, readRows, ih]
    rfl

/-- Texts are read from cells that are there. -/
theorem readRows_readText {column : Nat} {name : String} {cells : List (Option String)}
    {texts : List String} (h : readRows (readText column name) cells = .ok texts) :
    cells = texts.map some := by
  induction cells generalizing texts with
  | nil =>
    obtain rfl := Except.ok.inj h
    rfl
  | cons cell rest ih =>
    obtain ⟨text, htext, h⟩ := reading_ok h
    obtain ⟨more, hmore, h⟩ := reading_ok h
    obtain rfl := Except.ok.inj h
    cases cell with
    | none => cases htext
    | some s =>
      obtain rfl := Except.ok.inj htext
      rw [ih hmore]
      rfl

/-! ## Rows -/

section

variable {ρ α : Type} {read : ρ → Except StatementFault α} {rows : List ρ} {records : List α}

/-- Where each row that was read is read with its change, or cannot be read any more for some reason, all rows
are read with their changes, or there is such a row and they cannot be read any more. -/
theorem readRows_map {f : ρ → ρ} {g : α → α} {reason : ρ → Prop} (h : readRows read rows = .ok records)
    (hf : ∀ row ∈ rows, ∀ r, read row = .ok r →
      read (f row) = .ok (g r) ∨ reason row ∧ ∃ e, read (f row) = .error e) :
    readRows read (rows.map f) = .ok (records.map g) ∨
      (∃ row ∈ rows, reason row) ∧ ∃ e, readRows read (rows.map f) = .error e := by
  induction rows generalizing records with
  | nil =>
    obtain rfl := Except.ok.inj h
    exact .inl rfl
  | cons row rest ih =>
    obtain ⟨r, hr, h⟩ := reading_ok h
    obtain ⟨more, hmore, h⟩ := reading_ok h
    obtain rfl := Except.ok.inj h
    rw [List.map_cons, readRows]
    rcases hf row List.mem_cons_self r hr with hrow | ⟨hreason, e, hrow⟩
    · rcases ih hmore fun row' hrow' => hf row' (List.mem_cons_of_mem row hrow') with
        hrest | ⟨⟨row', hrow', hreason⟩, e, hrest⟩
      · rw [hrow, hrest]
        exact .inl rfl
      · rw [hrow, hrest]
        exact .inr ⟨⟨row', List.mem_cons_of_mem row hrow', hreason⟩, e, rfl⟩
    · rw [hrow]
      exact .inr ⟨⟨row, List.mem_cons_self, hreason⟩, e, rfl⟩

/-- What was read was read of a row. -/
theorem mem_of_readRows (h : readRows read rows = .ok records) {r : α} (hr : r ∈ records) :
    ∃ row ∈ rows, read row = .ok r := by
  induction rows generalizing records with
  | nil =>
    obtain rfl := Except.ok.inj h
    cases hr
  | cons row rest ih =>
    obtain ⟨first, hfirst, h⟩ := reading_ok h
    obtain ⟨more, hmore, h⟩ := reading_ok h
    obtain rfl := Except.ok.inj h
    rcases List.mem_cons.mp hr with rfl | hr
    · exact ⟨row, List.mem_cons_self, hfirst⟩
    · obtain ⟨row', hrow', hread⟩ := ih hmore hr
      exact ⟨row', List.mem_cons_of_mem row hrow', hread⟩

end

end TurnTaking.Store
