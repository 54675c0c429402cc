import Mathlib.Order.Bounds.Basic
import TurnTaking.Mention

/-!
# Occurrences — where handles stand in a text

A part is sought character by character, a word look by look, from one occurrence to the next. What a search
for a word has passed is no place of the word (`Searched`), and a look keeps that (`look_tells`). So a word is
found at the least place at which it stands alone, an emoji at the least place at which it occurs, and an
avatar is first mentioned at the least place of any of its handles (`earliest_findWord`, `earliest_findPart`,
`earliest_firstMention`). Places are told by what stands before them, and counted in bytes; no search cuts the
text within a character (`word_search_exact`).
-/

namespace TurnTaking.Mention

open TurnTaking.Text

/-! ## Searching -/

/-- The answer to a search: the least of the places, if there are any. -/
def Earliest (places : Set Nat) : Option Nat → Prop
  | some place => IsLeast places place
  | none => places = ∅

section

variable {places : Set Nat} {answer : Option Nat}

/-- A search succeeds just if there is a place. -/
theorem Earliest.isSome_iff (h : Earliest places answer) : answer.isSome = true ↔ places.Nonempty := by
  cases answer with
  | none =>
    have hempty : places = ∅ := h
    rw [hempty]
    exact ⟨nofun, fun hplace => absurd hplace Set.not_nonempty_empty⟩
  | some place =>
    have hleast : IsLeast places place := h
    exact ⟨fun _ => ⟨place, hleast.1⟩, fun _ => rfl⟩

/-- A search finds the least of the places. -/
theorem Earliest.eq_some_iff {place : Nat} (h : Earliest places answer) :
    answer = some place ↔ IsLeast places place := by
  constructor
  · rintro rfl
    exact h
  · intro hleast
    obtain ⟨found, hfound⟩ := Option.isSome_iff_exists.mp (h.isSome_iff.mpr ⟨place, hleast.1⟩)
    rw [hfound] at h ⊢
    rw [IsLeast.unique h hleast]

/-- Of places that are all farther on by the same the least is so too. -/
theorem Earliest.map_add (h : Earliest places answer) (n : Nat) :
    Earliest ((n + ·) '' places) (answer.map (n + ·)) := by
  cases answer with
  | none => exact Set.image_eq_empty.mpr h
  | some place =>
    refine ⟨⟨place, h.1, rfl⟩, ?_⟩
    rintro _ ⟨later, hlater, rfl⟩
    exact Nat.add_le_add_left (h.2 hlater) n

end

/-! ## Parts -/

/-- A part that is not empty occurs in the text after so many bytes. -/
def PartAt (text part : List Char) (place : Nat) : Prop :=
  part ≠ [] ∧ ∃ before after, text = before ++ part ++ after ∧ place = byteLength before

/-- The places of a text, which begins at byte `offset`, at which a part occurs. -/
def PartsFrom (part : List Char) (offset : Nat) (text : List Char) : Set Nat :=
  {place | ∃ before after, text = before ++ part ++ after ∧ place = offset + byteLength before}

section

variable {part rest : List Char} {offset place : Nat} {c : Char}

theorem le_of_mem_partsFrom {text : List Char} (h : place ∈ PartsFrom part offset text) : offset ≤ place := by
  obtain ⟨before, after, -, rfl⟩ := h
  exact Nat.le_add_right _ _

/-- A part occurs at the first character or after it. -/
theorem mem_partsFrom_cons : place ∈ PartsFrom part offset (c :: rest) ↔
    part.isPrefixOf (c :: rest) = true ∧ place = offset ∨
      place ∈ PartsFrom part (offset + c.utf8Size) rest := by
  rw [List.isPrefixOf_iff_prefix]
  constructor
  · rintro ⟨before, after, htext, rfl⟩
    cases before with
    | nil => exact .inl ⟨⟨after, htext.symm⟩, rfl⟩
    | cons d before =>
      obtain ⟨rfl, hrest⟩ := List.cons.inj htext
      exact .inr ⟨before, after, hrest, (Nat.add_assoc _ _ _).symm⟩
  · rintro (⟨⟨after, htext⟩, rfl⟩ | ⟨before, after, rfl, rfl⟩)
    · exact ⟨[], after, htext.symm, rfl⟩
    · exact ⟨c :: before, after, rfl, Nat.add_assoc _ _ _⟩

/-- The search for a part finds its first place. -/
theorem earliest_findPartFrom (hpart : part ≠ []) (offset : Nat) (text : List Char) :
    Earliest (PartsFrom part offset text) (findPartFrom part offset text) := by
  induction text generalizing offset with
  | nil =>
    refine Set.eq_empty_iff_forall_notMem.mpr ?_
    rintro _ ⟨before, after, htext, -⟩
    exact hpart (List.append_eq_nil_iff.mp (List.append_eq_nil_iff.mp htext.symm).1).2
  | cons c rest ih =>
    rw [findPartFrom]
    by_cases hbegins : part.isPrefixOf (c :: rest) = true
    · rw [if_pos hbegins]
      exact ⟨mem_partsFrom_cons.mpr (.inl ⟨hbegins, rfl⟩), fun place hplace => le_of_mem_partsFrom hplace⟩
    · have hlater : PartsFrom part offset (c :: rest) = PartsFrom part (offset + c.utf8Size) rest := by
        ext place
        rw [mem_partsFrom_cons]
        exact or_iff_right fun h => hbegins h.1
      rw [if_neg hbegins, hlater]
      exact ih _

end

/-- A part is found at the first place at which it occurs. -/
theorem earliest_findPart (text part : List Char) :
    Earliest {place | PartAt text part place} (findPart text part) := by
  rw [findPart]
  cases part with
  | nil => exact Set.eq_empty_iff_forall_notMem.mpr fun _ h => h.1 rfl
  | cons c part =>
    have hpart : c :: part ≠ [] := List.cons_ne_nil _ _
    have hplaces : {place | PartAt text (c :: part) place} = PartsFrom (c :: part) 0 text := by
      ext place
      refine ⟨fun ⟨_, before, after, htext, hplace⟩ => ⟨before, after, htext, ?_⟩,
        fun ⟨before, after, htext, hplace⟩ => ⟨hpart, before, after, htext, ?_⟩⟩
      · rw [hplace, Nat.zero_add]
      · rw [hplace, Nat.zero_add]
    rw [if_neg (by simp), hplaces]
    exact earliest_findPartFrom hpart _ _

/-! ## Words -/

/-- A word stands alone between these characters. -/
def StandsAlone (before after : List Char) : Prop :=
  isBoundary before.getLast? = true ∧ isBoundary after.head? = true

/-- A word that can be read stands alone in the text after so many bytes. -/
def WordAt (text word : List Char) (place : Nat) : Prop :=
  (∃ c ∈ word, isBlank c = false) ∧
    ∃ before after, text = before ++ word ++ after ∧ StandsAlone before after ∧ place = byteLength before

/-- A word stands where its letters do. -/
theorem WordAt.partAt {text word : List Char} {place : Nat} (h : WordAt text word place) :
    PartAt text word place := by
  obtain ⟨⟨c, hc, -⟩, before, after, htext, -, hplace⟩ := h
  exact ⟨List.ne_nil_of_mem hc, before, after, htext, hplace⟩

/-! ## Looking -/

section

variable {text word before after : List Char} {start : Nat}

theorem byteLength_eq_zero_iff {cs : List Char} : byteLength cs = 0 ↔ cs = [] := by
  cases cs with
  | nil => simp
  | cons c cs => simp [c.utf8Size_pos.ne']

/-- Of two cuts of a text the one at the lower byte cuts off a part of what the other does. -/
theorem exists_between {before' after' : List Char} (h : before ++ after = before' ++ after')
    (hle : byteLength before ≤ byteLength before') :
    ∃ between, before' = before ++ between ∧ after = between ++ after' := by
  rcases List.append_eq_append_iff.mp h with ⟨between, hbefore, hafter⟩ | ⟨between, rfl, rfl⟩
  · exact ⟨between, hbefore, hafter⟩
  · rw [byteLength_append] at hle
    obtain rfl : between = [] := byteLength_eq_zero_iff.mp (by omega)
    exact ⟨[], by simp, by simp⟩

/-- From a byte on a part occurs where it does in the rest of the text, by as much farther on. -/
theorem setOf_partAt_append (before after part : List Char) :
    {place | byteLength before ≤ place ∧ PartAt (before ++ after) part place} =
      (byteLength before + ·) '' {place | PartAt after part place} := by
  ext place
  constructor
  · rintro ⟨hle, hpart, earlier, later, htext, rfl⟩
    rw [List.append_assoc] at htext
    obtain ⟨between, rfl, rfl⟩ := exists_between htext hle
    exact ⟨byteLength between, ⟨hpart, between, later, (List.append_assoc _ _ _).symm, rfl⟩,
      (byteLength_append _ _).symm⟩
  · rintro ⟨_, ⟨hpart, between, later, rfl, rfl⟩, rfl⟩
    exact ⟨Nat.le_add_right _ _, hpart, before ++ between, later, by simp, (byteLength_append _ _).symm⟩

/-- A word is looked for from where the text can be cut. -/
theorem occurrence?_eq (before after word : List Char) :
    ∃ found, occurrence? (before ++ after) word (byteLength before) = .ok found ∧
      Earliest {place | byteLength before ≤ place ∧ PartAt (before ++ after) word place} found := by
  refine ⟨(findPart after word).map (byteLength before + ·), ?_, ?_⟩
  · rw [occurrence?, cut_eq_ok_iff.mpr ⟨rfl, rfl⟩]
    rfl
  · rw [setOf_partAt_append]
    exact (earliest_findPart after word).map_add _

/-- A word stands alone just if neither neighbour belongs to a word. -/
theorem standsAlone_eq (before word after : List Char) :
    standsAlone (before ++ word ++ after) word (byteLength before) =
      .ok (isBoundary before.getLast? && isBoundary after.head?) := by
  have hbefore : cut (before ++ word ++ after) (byteLength before) = .ok (before, word ++ after) :=
    cut_eq_ok_iff.mpr ⟨List.append_assoc _ _ _, rfl⟩
  have hafter : cut (before ++ word ++ after) (byteLength before + byteLength word) =
      .ok (before ++ word, after) :=
    cut_eq_ok_iff.mpr ⟨rfl, byteLength_append _ _⟩
  rw [standsAlone, hbefore]
  show (cut _ _ >>= _) = _
  rw [hafter]
  rfl

/-- The next place lies behind the character. -/
theorem placeBehind_eq (before : List Char) (c : Char) (rest : List Char) :
    placeBehind (before ++ c :: rest) (byteLength before) = .ok (byteLength before + c.utf8Size) := by
  rw [placeBehind, cut_eq_ok_iff.mpr ⟨rfl, rfl⟩]
  rfl

/-- A search for a word has come to a byte: the text can be cut there, and the word stands alone nowhere
before. -/
structure Searched (text word : List Char) (start : Nat) : Prop where
  boundary : ∃ done rest, text = done ++ rest ∧ byteLength done = start
  clear : ∀ place < start, ¬ WordAt text word place

/-- What a look tells about the places of the word. -/
def Look.Tells (text word : List Char) : Look → Prop
  | .nothing => {place | WordAt text word place} = ∅
  | .alone place => IsLeast {place | WordAt text word place} place
  | .onward next => Searched text word next

/-- A search goes on behind the first character of a word that does not stand alone, and misses nothing. -/
theorem Searched.onward {c : Char} {rest : List Char}
    (hfirst : ∀ place, WordAt (before ++ (c :: rest) ++ after) (c :: rest) place → byteLength before ≤ place)
    (hnot : ¬ StandsAlone before after) :
    Searched (before ++ (c :: rest) ++ after) (c :: rest) (byteLength before + c.utf8Size) := by
  refine ⟨⟨before ++ [c], rest ++ after, by simp, by simp⟩, fun place hlt hplace => ?_⟩
  have hle := hfirst place hplace
  obtain ⟨-, earlier, later, htext, halone, rfl⟩ := hplace
  rw [List.append_assoc, List.append_assoc] at htext
  obtain ⟨between, rfl, hrest⟩ := exists_between htext hle
  -- no character begins within the first one of the word, so the place can only be that of the word
  cases between with
  | nil =>
    obtain rfl : after = later := List.append_cancel_left hrest
    rw [List.append_nil] at halone
    exact hnot halone
  | cons d between =>
    obtain ⟨rfl, -⟩ := List.cons.inj hrest
    rw [byteLength_append, byteLength_cons] at hlt
    omega

/-- A look cuts the text at characters only, and tells the truth. -/
theorem look_tells (hword : ∃ c ∈ word, isBlank c = false) (h : Searched text word start) :
    ∃ told, look text word start = .ok told ∧ told.Tells text word := by
  obtain ⟨⟨done, rest, rfl, rfl⟩, hclear⟩ := h
  obtain ⟨found, hfound, hearliest⟩ := occurrence?_eq done rest word
  have hfrom : ∀ place, WordAt (done ++ rest) word place → byteLength done ≤ place :=
    fun place hplace => Nat.le_of_not_lt fun hlt => hclear place hlt hplace
  rw [look, hfound]
  cases found with
  | none =>
    -- the word occurs nowhere from the start on
    refine ⟨.nothing, rfl, Set.eq_empty_iff_forall_notMem.mpr fun place hplace => ?_⟩
    have hmem : place ∈ (∅ : Set Nat) := hearliest ▸ ⟨hfrom place hplace, hplace.partAt⟩
    exact hmem
  | some place =>
    obtain ⟨⟨-, hne, before, after, htext, rfl⟩, hleast⟩ := hearliest
    have hfirst : ∀ place, WordAt (done ++ rest) word place → byteLength before ≤ place :=
      fun place hplace => hleast ⟨hfrom place hplace, hplace.partAt⟩
    rw [htext] at hfirst ⊢
    by_cases halone : StandsAlone before after
    · -- it stands alone at the first place where it occurs
      have hyes : standsAlone (before ++ word ++ after) word (byteLength before) = .ok true := by
        rw [standsAlone_eq, halone.1, halone.2, Bool.and_true]
      refine ⟨.alone (byteLength before), ?_, ⟨hword, before, after, rfl, halone, rfl⟩, hfirst⟩
      simp only [bind, Except.bind, hyes]
      rfl
    · -- it is part of a longer word there, and the next look starts one character on
      have hno : standsAlone (before ++ word ++ after) word (byteLength before) = .ok false := by
        rw [standsAlone_eq, Bool.eq_false_iff.mpr fun hboth => halone (Bool.and_eq_true_iff.mp hboth)]
      obtain ⟨c, word, rfl⟩ := List.exists_cons_of_ne_nil hne
      have hbehind : placeBehind (before ++ (c :: word) ++ after) (byteLength before) =
          .ok (byteLength before + c.utf8Size) := by
        rw [List.append_assoc, List.cons_append, placeBehind_eq]
      refine ⟨.onward (byteLength before + c.utf8Size), ?_, .onward hfirst halone⟩
      simp only [bind, Except.bind, hno, hbehind]
      rfl

end

/-- A search for a word cuts the text at characters only, and finds the least place of the word. -/
theorem searchWord_eq {text word : List Char} {start : Nat} (hword : ∃ c ∈ word, isBlank c = false)
    (h : Searched text word start) :
    ∃ found, searchWord text word start = .ok found ∧ Earliest {place | WordAt text word place} found := by
  fun_induction searchWord text word start with
  | case1 start fault hfault =>
    obtain ⟨told, hlook, -⟩ := look_tells hword h
    rw [hfault] at hlook
    cases hlook
  | case2 start hnothing =>
    obtain ⟨told, hlook, htold⟩ := look_tells hword h
    rw [hnothing] at hlook
    cases hlook
    exact ⟨none, rfl, htold⟩
  | case3 start place halone =>
    obtain ⟨told, hlook, htold⟩ := look_tells hword h
    rw [halone] at hlook
    cases hlook
    exact ⟨some place, rfl, htold⟩
  | case4 start next honward ih =>
    obtain ⟨told, hlook, htold⟩ := look_tells hword h
    rw [honward] at hlook
    cases hlook
    exact ih htold

/-- Nothing has been passed before the first byte. -/
theorem searched_zero (text word : List Char) : Searched text word 0 :=
  ⟨⟨[], text, rfl, rfl⟩, fun _ hlt => absurd hlt (Nat.not_lt_zero _)⟩

/-- A search for a word that can be read never cuts the text amiss. -/
theorem searchWord_zero_eq {text word : List Char} (hword : ∃ c ∈ word, isBlank c = false) :
    searchWord text word 0 = .ok (findWord text word) := by
  obtain ⟨found, hfound, -⟩ := searchWord_eq hword (searched_zero text word)
  have hlegible : ¬ word.all isBlank = true := by simpa using hword
  rw [findWord, if_neg hlegible, hfound]
  rfl

/-- A word is found at the first place at which it stands alone. -/
theorem earliest_findWord (text word : List Char) :
    Earliest {place | WordAt text word place} (findWord text word) := by
  by_cases hword : ∃ c ∈ word, isBlank c = false
  · obtain ⟨found, hfound, hearliest⟩ := searchWord_eq hword (searched_zero text word)
    rw [searchWord_zero_eq hword] at hfound
    rw [Except.ok.inj hfound]
    exact hearliest
  · have hblank : word.all isBlank = true := by simpa using hword
    rw [findWord, if_pos hblank]
    exact Set.eq_empty_iff_forall_notMem.mpr fun _ h => hword h.1

/-- Whatever the text, the search for a word that can be read comes to an end and cuts the text nowhere
within a character. It answers the least place at which the word stands alone, and none just if there is no
such place. -/
theorem word_search_exact (text word : List Char) (hword : ∃ c ∈ word, isBlank c = false) :
    searchWord text word 0 = .ok (findWord text word) ∧
      (∀ place, findWord text word = some place ↔ IsLeast {place | WordAt text word place} place) ∧
      (findWord text word = none ↔ ∀ place, ¬ WordAt text word place) := by
  refine ⟨searchWord_zero_eq hword, fun place => (earliest_findWord text word).eq_some_iff, ?_⟩
  rw [← Option.not_isSome_iff_eq_none, (earliest_findWord text word).isSome_iff,
    Set.not_nonempty_iff_eq_empty, Set.eq_empty_iff_forall_notMem]
  rfl

/-- Of two occurrences that overlap the first is within a longer word, and the second begins behind a first
character of two bytes. -/
theorem word_search_exact_overlapping :
    (∃ c ∈ "é-é".toList, isBlank c = false) ∧
      searchWord "xé-é-é".toList "é-é".toList 0 = .ok (some 4) ∧
      IsLeast {place | WordAt "xé-é-é".toList "é-é".toList place} 4 := by
  have hword : ∃ c ∈ "é-é".toList, isBlank c = false := ⟨'é', by decide +kernel, by decide⟩
  have hfound : findWord "xé-é-é".toList "é-é".toList = some 4 := by decide +kernel
  obtain ⟨hsearch, hsome, -⟩ := word_search_exact "xé-é-é".toList "é-é".toList hword
  rw [hfound] at hsearch
  exact ⟨hword, hsearch, (hsome 4).mp hfound⟩

/-! ## Handles -/

/-- A handle of the avatar is in the lower-cased text after so many bytes: its name or an alias in lower case,
as a word of its own, or its emoji. -/
def HandleAt (text : List Char) (a : Avatar) (place : Nat) : Prop :=
  (∃ name ∈ a.name :: a.aliases, WordAt text (lowercase name.toList) place) ∨
    ∃ emoji, a.emoji = some emoji ∧ PartAt text emoji.toList place

section

variable {text : List Char} {a : Avatar} {place : Nat}

/-- A handle is found as a word or as an emoji. -/
theorem mem_handlePlaces : place ∈ handlePlaces text a ↔
    (∃ name ∈ a.name :: a.aliases, findWord text (lowercase name.toList) = some place) ∨
      ∃ emoji, a.emoji = some emoji ∧ findPart text emoji.toList = some place := by
  rw [handlePlaces, List.mem_append, List.mem_filterMap, Option.mem_toList, Option.bind_eq_some_iff]

/-- The places at which the handles are found are places of handles. -/
theorem handleAt_of_mem (h : place ∈ handlePlaces text a) : HandleAt text a place := by
  rcases mem_handlePlaces.mp h with ⟨name, hname, hfound⟩ | ⟨emoji, hemoji, hfound⟩
  · exact .inl ⟨name, hname, ((earliest_findWord _ _).eq_some_iff.mp hfound).1⟩
  · exact .inr ⟨emoji, hemoji, ((earliest_findPart _ _).eq_some_iff.mp hfound).1⟩

/-- Wherever a handle is, one is found there or before. -/
theorem exists_mem_le (h : HandleAt text a place) : ∃ found ∈ handlePlaces text a, found ≤ place := by
  rcases h with ⟨name, hname, hplace⟩ | ⟨emoji, hemoji, hplace⟩
  · have hsearch := earliest_findWord text (lowercase name.toList)
    obtain ⟨found, hfound⟩ := Option.isSome_iff_exists.mp (hsearch.isSome_iff.mpr ⟨place, hplace⟩)
    exact ⟨found, mem_handlePlaces.mpr (.inl ⟨name, hname, hfound⟩),
      (hsearch.eq_some_iff.mp hfound).2 hplace⟩
  · have hsearch := earliest_findPart text emoji.toList
    obtain ⟨found, hfound⟩ := Option.isSome_iff_exists.mp (hsearch.isSome_iff.mpr ⟨place, hplace⟩)
    exact ⟨found, mem_handlePlaces.mpr (.inr ⟨emoji, hemoji, hfound⟩),
      (hsearch.eq_some_iff.mp hfound).2 hplace⟩

end

/-- An avatar is first mentioned at the first place of any of its handles. -/
theorem earliest_firstMention (text : List Char) (a : Avatar) :
    Earliest {place | HandleAt text a place} (firstMention text a) := by
  cases hfirst : firstMention text a with
  | none =>
    refine Set.eq_empty_iff_forall_notMem.mpr fun place hplace => ?_
    obtain ⟨found, hfound, -⟩ := exists_mem_le hplace
    rw [List.min?_eq_none_iff.mp hfirst] at hfound
    cases hfound
  | some place =>
    obtain ⟨hmem, hleast⟩ := List.min?_eq_some_iff.mp hfirst
    refine ⟨handleAt_of_mem hmem, fun later hlater => ?_⟩
    obtain ⟨found, hfound, hle⟩ := exists_mem_le hlater
    exact (hleast found hfound).trans hle

end TurnTaking.Mention
