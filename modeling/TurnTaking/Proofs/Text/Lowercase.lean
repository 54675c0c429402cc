import Mathlib.Data.List.Chain
import TurnTaking.Text.Blank
import TurnTaking.Text.Letter
import TurnTaking.Text.Lowercase

/-!
# Lower case — part by part

A part of a text is lower-cased between what stands before it and what stands after it
(`lowercaseBetween`), and a text is lower-cased part by part (`lowercaseAfter_append`). Only capital sigmas
look at what stands around them: a part becomes what it becomes alone if each of them ends a word in the
text just if it does in the part (`lowercaseBetween_eq_lowercase_iff`). It stays what it is if it has no
capitals (`lowercaseBetween_eq_self_iff`).

Capitals are letters, so whatever is not part of a word stays what it is, and nothing becomes blank.
-/

namespace TurnTaking.Text

/-! ## Ranges -/

/-- A code point in one of the ranges is found, if the ranges ascend. -/
theorem inRanges_of_mem {rs : List (Nat × Nat)} (hsorted : rs.Pairwise fun r s => r.1 ≤ s.1) {r : Nat × Nat}
    (hr : r ∈ rs) {n : Nat} (hfirst : r.1 ≤ n) (hlast : n ≤ r.2) : inRanges rs n = true := by
  induction rs with
  | nil => cases hr
  | cons s rest ih =>
    obtain ⟨hbelow, hrest⟩ := List.pairwise_cons.mp hsorted
    rw [inRanges]
    rcases List.mem_cons.mp hr with rfl | hr
    · rw [if_neg (by omega), if_pos hlast]
    · have hs := hbelow r hr
      rw [if_neg (by omega)]
      split
      · rfl
      · exact ih hrest hr

/-- The ranges of letters ascend. -/
theorem ascending_alphabeticRanges : alphabeticRanges.Pairwise fun r s => r.1 ≤ s.1 := by
  have hchain : alphabeticRanges.IsChain fun r s => r.1 ≤ s.1 := by decide +kernel
  exact List.isChain_iff_pairwise.mp hchain

/-! ## Capitals -/

def capitalsOf (run : Nat × Nat × Nat × Int) : List Nat :=
  List.range' run.1 ((run.2.1 - run.1) / run.2.2.1 + 1) run.2.2.1

/-- A capital is found in its run. -/
theorem mem_capitalsOf {first last step n : Nat} {shift : Int} (hfirst : first ≤ n) (hlast : n ≤ last)
    (hstep : (n - first) % step = 0) : n ∈ capitalsOf (first, last, step, shift) := by
  refine List.mem_range'.mpr ⟨(n - first) / step, ?_, ?_⟩
  · exact Nat.lt_succ_of_le (Nat.div_le_div_right (Nat.sub_le_sub_right hlast first))
  · have hdiv := Nat.div_add_mod (n - first) step
    show n = first + step * ((n - first) / step)
    omega

/-- Only the capitals of a run are moved, by the distance of the run. -/
theorem exists_of_lowerShift {runs : List (Nat × Nat × Nat × Int)} {n : Nat} (h : lowerShift runs n ≠ 0) :
    ∃ run ∈ runs, run.1 ≤ n ∧ n ≤ run.2.1 ∧ n ∈ capitalsOf run ∧ lowerShift runs n = run.2.2.2 := by
  induction runs with
  | nil => exact absurd rfl h
  | cons run rest ih =>
    obtain ⟨first, last, step, shift⟩ := run
    simp only [lowerShift] at h ⊢
    split at h
    · exact absurd rfl h
    · rename_i hfirst
      split at h
      · rename_i hlast
        split at h
        · rename_i hstep
          have hmem : n ∈ capitalsOf (first, last, step, shift) :=
            mem_capitalsOf (Nat.le_of_not_lt hfirst) hlast hstep
          refine ⟨_, List.mem_cons_self, Nat.le_of_not_lt hfirst, hlast, hmem, ?_⟩
          rw [if_neg hfirst, if_pos hlast, if_pos hstep]
        · exact absurd rfl h
      · rename_i hlast
        obtain ⟨run, hrun, hfirst', hlast', hmem, hshift⟩ := ih h
        refine ⟨run, List.mem_cons_of_mem _ hrun, hfirst', hlast', hmem, ?_⟩
        rw [if_neg hfirst, if_neg hlast, hshift]

/-- Lower-casing changes the character. -/
def IsCapital (c : Char) : Prop := c = dottedCapitalI ∨ lowerChar c ≠ c

instance (c : Char) : Decidable (IsCapital c) := inferInstanceAs (Decidable (_ ∨ _))

theorem isCapital_sigma : IsCapital capitalSigma := by
  decide +kernel

/-- A character without a shift is its own lowercase. -/
theorem lowerChar_of_not_moved {c : Char} (h : lowerShift lowerRuns c.toNat = 0) : lowerChar c = c := by
  rw [lowerChar, h, Int.add_zero, Int.toNat_natCast, Char.ofNat_toNat]

/-- Each run of capitals is part of one range of letters, or each of its capitals is a letter. -/
theorem alphabetic_of_run {run : Nat × Nat × Nat × Int} (h : run ∈ lowerRuns) :
    (∃ r ∈ alphabeticRanges, r.1 ≤ run.1 ∧ run.2.1 ≤ r.2) ∨
      ∀ n ∈ capitalsOf run, inRanges alphabeticRanges n = true := by
  have hall : (lowerRuns.all fun run =>
      (alphabeticRanges.any fun r => r.1.ble run.1 && run.2.1.ble r.2) ||
        (capitalsOf run).all (inRanges alphabeticRanges)) = true := by
    decide +kernel
  have hrun := List.all_eq_true.mp hall run h
  simpa only [Bool.or_eq_true, List.any_eq_true, List.all_eq_true, Bool.and_eq_true, Nat.ble_eq] using hrun

/-- Capitals are letters. -/
theorem isWordChar_of_isCapital {c : Char} (h : IsCapital c) : isWordChar c = true := by
  have halphabetic : isAlphabetic c = true := by
    rcases h with rfl | h
    · decide +kernel
    · have hmoved : lowerShift lowerRuns c.toNat ≠ 0 := fun hsame => h (lowerChar_of_not_moved hsame)
      obtain ⟨run, hrun, hfirst, hlast, hmem, -⟩ := exists_of_lowerShift hmoved
      rcases alphabetic_of_run hrun with ⟨r, hr, hlow, hhigh⟩ | hall
      · exact inRanges_of_mem ascending_alphabeticRanges hr (by omega) (by omega)
      · exact hall c.toNat hmem
  rw [isWordChar, halphabetic, Bool.or_true, Bool.true_or]

/-- Capitals belong to words. -/
theorem not_isCapital {c : Char} (h : isWordChar c = false) : ¬ IsCapital c := by
  intro hc
  rw [isWordChar_of_isCapital hc] at h
  cases h

/-! ## Blanks -/

/-- The code points of blanks, as ranges. -/
def blankRanges : List (Nat × Nat) :=
  [(0x0009, 0x000D), (0x0020, 0x0020), (0x0085, 0x0085), (0x00A0, 0x00A0), (0x1680, 0x1680),
    (0x2000, 0x200A), (0x2028, 0x2029), (0x202F, 0x202F), (0x205F, 0x205F), (0x3000, 0x3000)]

theorem isBlank_iff {c : Char} : isBlank c = true ↔ ∃ r ∈ blankRanges, r.1 ≤ c.toNat ∧ c.toNat ≤ r.2 := by
  simp only [isBlank, blankRanges, Bool.or_eq_true, Bool.and_eq_true, decide_eq_true_eq, List.mem_cons,
    List.not_mem_nil, or_false, exists_eq_or_imp, exists_eq_left]
  omega

/-- No run of capitals is moved onto blanks. -/
theorem apart_of_run {run : Nat × Nat × Nat × Int} (h : run ∈ lowerRuns) {r : Nat × Nat}
    (hr : r ∈ blankRanges) : (run.2.1 : Int) + run.2.2.2 < r.1 ∨ (r.2 : Int) < run.1 + run.2.2.2 := by
  have hall : (lowerRuns.all fun run => blankRanges.all fun r =>
      decide ((run.2.1 : Int) + run.2.2.2 < r.1) || decide ((r.2 : Int) < run.1 + run.2.2.2)) = true := by
    decide +kernel
  have hrun := List.all_eq_true.mp (List.all_eq_true.mp hall run h) r hr
  simpa using hrun

/-- The code point that is asked for, or zero if no character has it. -/
theorem toNat_ofNat (n : Nat) : (Char.ofNat n).toNat = n ∨ (Char.ofNat n).toNat = 0 := by
  by_cases h : n.isValidChar
  · have hchar : Char.ofNat n = Char.ofNatAux n h := dif_pos h
    rw [hchar]
    exact .inl rfl
  · have hchar : Char.ofNat n = Char.ofNat 0 := (dif_neg h).trans (dif_pos (by decide)).symm
    rw [hchar]
    exact .inr rfl

/-- No blank is the lowercase of another character. -/
theorem isBlank_lowerChar {c : Char} (h : isBlank c = false) : isBlank (lowerChar c) = false := by
  by_cases hmoved : lowerShift lowerRuns c.toNat = 0
  · rw [lowerChar_of_not_moved hmoved]
    exact h
  · rw [← Bool.not_eq_true, isBlank_iff]
    rintro ⟨r, hr, hfirst, hlast⟩
    obtain ⟨run, hrun, hbegin, hend, -, hshift⟩ := exists_of_lowerShift hmoved
    have hapart := apart_of_run hrun hr
    have hpositive : 0 < r.1 := by
      have hall : ∀ r ∈ blankRanges, 0 < r.1 := by decide
      exact hall r hr
    rw [lowerChar, hshift] at hfirst hlast
    rcases toNat_ofNat (c.toNat + run.2.2.2 : Int).toNat with hcode | hcode
    · omega
    · omega

/-! ## Parts of a text -/

/-- A capital sigma that stands between these characters ends a word. -/
def endsWord (before after : List Char) : Bool := startsCased before && !startsCased after

/-- What becomes of a character between others, of which those before it are given nearest first. -/
def lowerAt (before : List Char) (c : Char) (after : List Char) : List Char :=
  if c = capitalSigma then [if endsWord before after then 'ς' else 'σ']
  else if c = dottedCapitalI then ['i', Char.ofNat 0x307]
  else [lowerChar c]

/-- What becomes of a part of a text between the others. -/
def lowercaseBetween (before : List Char) : List Char → List Char → List Char
  | [], _ => []
  | c :: rest, after => lowerAt before c (rest ++ after) ++ lowercaseBetween (c :: before) rest after

theorem lowercaseAfter_cons (before : List Char) (c : Char) (rest : List Char) :
    lowercaseAfter before (c :: rest) = lowerAt before c rest ++ lowercaseAfter (c :: before) rest := rfl

/-- A text is lowercased part by part, each with its neighbours in sight. -/
theorem lowercaseAfter_append (before cs after : List Char) :
    lowercaseAfter before (cs ++ after) =
      lowercaseBetween before cs after ++ lowercaseAfter (cs.reverse ++ before) after := by
  induction cs generalizing before with
  | nil => rfl
  | cons c rest ih =>
    rw [List.cons_append, lowercaseAfter_cons, ih, lowercaseBetween, List.reverse_cons, List.append_assoc,
      List.append_assoc]
    rfl

/-- A text is a part of itself with nothing around it. -/
theorem lowercase_eq (cs : List Char) : lowercase cs = lowercaseBetween [] cs [] := by
  have hparts := lowercaseAfter_append [] cs []
  rw [List.append_nil] at hparts
  exact hparts.trans (List.append_nil _)

theorem lowercaseBetween_append (before cs more after : List Char) :
    lowercaseBetween before (cs ++ more) after =
      lowercaseBetween before cs (more ++ after) ++ lowercaseBetween (cs.reverse ++ before) more after := by
  induction cs generalizing before with
  | nil => rfl
  | cons c rest ih =>
    rw [List.cons_append, lowercaseBetween, ih, lowercaseBetween, List.reverse_cons, List.append_assoc,
      List.append_assoc, List.append_assoc]
    rfl

section

variable {before before' cs after after' : List Char} {c : Char}

/-- What is no capital stays as it is. -/
theorem lowerAt_of_not_isCapital (h : ¬ IsCapital c) : lowerAt before c after = [c] := by
  have hsigma : c ≠ capitalSigma := fun hc => h (hc ▸ isCapital_sigma)
  rw [IsCapital, not_or, not_not] at h
  rw [lowerAt, if_neg hsigma, if_neg h.1, h.2]

/-- The same becomes of a character wherever it stands, and of a capital sigma wherever it ends a word or
wherever it ends none. -/
theorem lowerAt_eq_iff : lowerAt before c after = lowerAt before' c after' ↔
    (c = capitalSigma → endsWord before after = endsWord before' after') := by
  by_cases hc : c = capitalSigma
  · rw [lowerAt, lowerAt, if_pos hc, if_pos hc]
    cases endsWord before after <;> cases endsWord before' after' <;> simp [hc]
  · rw [lowerAt, lowerAt, if_neg hc, if_neg hc]
    exact iff_of_true rfl fun h => absurd h hc

/-- The neighbours do not change the length. -/
theorem length_lowerAt : (lowerAt before c after).length = (lowerAt before' c after').length := by
  unfold lowerAt
  split
  · rfl
  · rfl

/-- What is no capital stays what it is. -/
theorem lowercaseBetween_eq_self_iff : lowercaseBetween before cs after = cs ↔ ∀ c ∈ cs, ¬ IsCapital c := by
  induction cs generalizing before with
  | nil => exact iff_of_true rfl fun c hc => absurd hc List.not_mem_nil
  | cons c rest ih =>
    rw [lowercaseBetween, List.forall_mem_cons]
    by_cases hcapital : IsCapital c
    · refine iff_of_false (fun hsame => ?_) fun h => h.1 hcapital
      -- whatever becomes of a capital, the first character is another one
      have hhead := congrArg List.head? hsame
      rw [lowerAt] at hhead
      split at hhead
      · rename_i hsigma
        rw [hsigma] at hhead
        split at hhead
        · cases hhead
        · cases hhead
      · split at hhead
        · rename_i hdotted
          rw [hdotted] at hhead
          cases hhead
        · rename_i hdotted
          exact hcapital.elim hdotted fun hmoved => hmoved (Option.some.inj hhead)
    · rw [lowerAt_of_not_isCapital hcapital, List.singleton_append, List.cons.injEq, ih]
      exact and_congr_left' (iff_of_true rfl hcapital)

/-- A text has one lowercase between different neighbours just if its sigmas end words alike. -/
theorem lowercaseBetween_eq_iff : lowercaseBetween before cs after = lowercaseBetween before' cs after' ↔
    ∀ u v, cs = u ++ capitalSigma :: v →
      endsWord (u.reverse ++ before) (v ++ after) = endsWord (u.reverse ++ before') (v ++ after') := by
  induction cs generalizing before before' with
  | nil => exact iff_of_true rfl fun u v h => absurd h (by simp)
  | cons c rest ih =>
    have hparts : lowercaseBetween before (c :: rest) after = lowercaseBetween before' (c :: rest) after' ↔
        lowerAt before c (rest ++ after) = lowerAt before' c (rest ++ after') ∧
          lowercaseBetween (c :: before) rest after = lowercaseBetween (c :: before') rest after' :=
      ⟨fun h => List.append_inj h length_lowerAt, fun ⟨h, h'⟩ => by rw [lowercaseBetween, lowercaseBetween, h, h']⟩
    rw [hparts, lowerAt_eq_iff, ih]
    constructor
    · rintro ⟨hfirst, hrest⟩ u v hsplit
      cases u with
      | nil =>
        -- the sigma is the first character
        obtain ⟨rfl, rfl⟩ := List.cons.inj hsplit
        exact hfirst rfl
      | cons d u =>
        -- the sigma stands further on, with one character more before it
        obtain ⟨rfl, rfl⟩ := List.cons.inj hsplit
        have hlater := hrest u v rfl
        rw [List.reverse_cons, List.append_assoc, List.append_assoc]
        exact hlater
    · intro hall
      constructor
      · rintro rfl
        exact hall [] rest rfl
      · rintro u v rfl
        have hlater := hall (c :: u) v rfl
        rw [List.reverse_cons, List.append_assoc, List.append_assoc] at hlater
        exact hlater

end

/-- Each capital sigma of the part ends a word in the text just if it ends one in the part. -/
def SigmasAgree (before cs after : List Char) : Prop :=
  ∀ u v, cs = u ++ capitalSigma :: v →
    endsWord (u.reverse ++ before.reverse) (v ++ after) = endsWord u.reverse v

/-- That is when the part becomes what it becomes alone. -/
theorem lowercaseBetween_eq_lowercase_iff {before cs after : List Char} :
    lowercaseBetween before.reverse cs after = lowercase cs ↔ SigmasAgree before cs after := by
  rw [lowercase_eq, lowercaseBetween_eq_iff, SigmasAgree]
  simp only [List.append_nil]

instance (before cs after : List Char) : Decidable (SigmasAgree before cs after) :=
  decidable_of_iff _ lowercaseBetween_eq_lowercase_iff

/-! ## The ends of a part -/

/-- Something is left that is not blank. -/
theorem exists_not_blank {before cs after : List Char} (h : ∃ c ∈ cs, isBlank c = false) :
    ∃ c ∈ lowercaseBetween before cs after, isBlank c = false := by
  obtain ⟨c, hc, hblank⟩ := h
  obtain ⟨u, v, rfl⟩ := List.append_of_mem hc
  have hkept : ∃ d ∈ lowerAt (u.reverse ++ before) c (v ++ after), isBlank d = false := by
    rw [lowerAt]
    split
    · split
      · exact ⟨'ς', List.mem_singleton_self _, by decide⟩
      · exact ⟨'σ', List.mem_singleton_self _, by decide⟩
    · split
      · exact ⟨'i', List.mem_cons_self, by decide⟩
      · exact ⟨lowerChar c, List.mem_singleton_self _, isBlank_lowerChar hblank⟩
  obtain ⟨d, hd, hdblank⟩ := hkept
  refine ⟨d, ?_, hdblank⟩
  rw [lowercaseBetween_append, lowercaseBetween]
  exact List.mem_append_right _ (List.mem_append_left _ hd)

/-- What stands before a word stays there, if it is not part of a word. -/
theorem getLast?_lowercaseBetween {before cs after : List Char} {c : Char} (h : isWordChar c = false) :
    (lowercaseBetween before (cs ++ [c]) after).getLast? = some c := by
  rw [lowercaseBetween_append, lowercaseBetween, lowerAt_of_not_isCapital (not_isCapital h)]
  exact List.getLast?_concat

/-- So does what stands behind a word. -/
theorem head?_lowercaseAfter {before after : List Char} {c : Char} (h : isWordChar c = false) :
    (lowercaseAfter before (c :: after)).head? = some c := by
  rw [lowercaseAfter_cons, lowerAt_of_not_isCapital (not_isCapital h)]
  rfl

end TurnTaking.Text
