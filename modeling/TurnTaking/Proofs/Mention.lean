import TurnTaking.Proofs.Occurrence
import TurnTaking.Proofs.Text.Lowercase

/-!
# Mentions — handles as they are written

Words and emoji are found wherever they stand in a lower-cased text (`isSome_findWord`, `isSome_findPart`).
So an avatar is heard where its emoji or one of its names was written, as long as lower-casing the text does
to the handle in its place what it does to the handle alone: the emoji is sought as it is, and therefore
must have no capitals, and each capital sigma of a name must end a word in the text just if it ends one in
the name (`written_handles_are_heard`). Otherwise the avatar may be missed (`written_handles_missed`).
-/

namespace TurnTaking.Mention

open TurnTaking.Text

/-! ## Finding -/

/-- A word is found that stands alone somewhere in the text. -/
theorem isSome_findWord {word before after : List Char} (hword : ∃ c ∈ word, isBlank c = false)
    (halone : StandsAlone before after) : (findWord (before ++ word ++ after) word).isSome = true :=
  (earliest_findWord _ _).isSome_iff.mpr ⟨_, hword, before, after, rfl, halone, rfl⟩

theorem isSome_findPart {part before after : List Char} (hpart : part ≠ []) :
    (findPart (before ++ part ++ after) part).isSome = true :=
  (earliest_findPart _ _).isSome_iff.mpr ⟨_, hpart, before, after, rfl, rfl⟩

/-! ## Hearing -/

/-- The text mentions the avatar, and the avatar is among those mentioned of any list that it is on. -/
def Heard (text : String) (a : Avatar) : Prop :=
  mentions text a = true ∧ ∀ avatars : List Avatar, a ∈ avatars → a ∈ mentionedAvatars text avatars

/-- An avatar with a handle in the text is mentioned. -/
theorem isSome_firstMention {text : List Char} {a : Avatar} {place : Nat} (h : place ∈ handlePlaces text a) :
    (firstMention text a).isSome = true := by
  rw [firstMention, List.isSome_min?_iff]
  exact List.ne_nil_of_mem h

/-- Whoever is mentioned is listed. -/
theorem mem_mentionedAvatars {text : String} {a : Avatar} {avatars : List Avatar} :
    a ∈ mentionedAvatars text avatars ↔ a ∈ avatars ∧ mentions text a = true := by
  simp only [mentionedAvatars, mentions, List.mem_map, (List.mergeSort_perm _ _).mem_iff,
    List.mem_filterMap, Option.map_eq_some_iff, Option.isSome_iff_exists]
  constructor
  · rintro ⟨_, ⟨b, hb, place, hplace, rfl⟩, rfl⟩
    exact ⟨hb, place, hplace⟩
  · rintro ⟨ha, place, hplace⟩
    exact ⟨(place, a), ⟨a, ha, place, hplace, rfl⟩, rfl⟩

/-- An avatar with a handle in the lowercase text is heard. -/
theorem heard_of_place {text : String} {a : Avatar} {place : Nat}
    (h : place ∈ handlePlaces (lowercase text.toList) a) : Heard text a := by
  have hmentions : mentions text a = true := isSome_firstMention h
  exact ⟨hmentions, fun avatars ha => mem_mentionedAvatars.mpr ⟨ha, hmentions⟩⟩

/-! ## Handles -/

/-- The emoji of the avatar is written in the text, between these characters. -/
structure WritesEmoji (text : String) (a : Avatar) (before emoji after : List Char) : Prop where
  text : text.toList = before ++ emoji ++ after
  own : a.emoji.map String.toList = some emoji
  nonempty : emoji ≠ []

/-- A name of the avatar is written in the text, as a word of its own between these characters. -/
structure WritesName (text : String) (a : Avatar) (before name after : List Char) : Prop where
  text : text.toList = before ++ name ++ after
  own : name ∈ (a.name :: a.aliases).map String.toList
  legible : ∃ c ∈ name, isBlank c = false
  alone : StandsAlone before after

section

variable {text : String} {a : Avatar} {before handle after : List Char}

/-- A text is lower-cased part by part. -/
theorem lowercase_parts (before handle after : List Char) :
    lowercase (before ++ handle ++ after) = lowercaseBetween [] before (handle ++ after) ++
      lowercaseBetween before.reverse handle after ++
        lowercaseAfter (handle.reverse ++ before.reverse) after := by
  rw [lowercase, lowercaseAfter_append, lowercaseBetween_append, List.reverse_append, List.append_nil,
    List.append_nil]

/-- Whatever a word stands between it stands between in lower case. -/
theorem StandsAlone.lowercase (h : StandsAlone before after) (handle : List Char) :
    StandsAlone (lowercaseBetween [] before (handle ++ after))
      (lowercaseAfter (handle.reverse ++ before.reverse) after) := by
  obtain ⟨hbefore, hafter⟩ := h
  constructor
  · rcases List.eq_nil_or_concat before with rfl | ⟨earlier, c, rfl⟩
    · rfl
    · rw [List.concat_eq_append] at hbefore ⊢
      rw [List.getLast?_concat, isBoundary, Option.all_some, Bool.not_eq_true'] at hbefore
      rw [getLast?_lowercaseBetween hbefore, isBoundary, Option.all_some, hbefore]
      rfl
  · cases after with
    | nil => rfl
    | cons c later =>
      rw [List.head?_cons, isBoundary, Option.all_some, Bool.not_eq_true'] at hafter
      rw [head?_lowercaseAfter hafter, isBoundary, Option.all_some, hafter]
      rfl

/-- An emoji is heard unless a capital is written in it. -/
theorem WritesEmoji.heard (h : WritesEmoji text a before handle after)
    (hcapitals : ∀ c ∈ handle, ¬ IsCapital c) : Heard text a := by
  have hfound : (findPart (lowercase text.toList) handle).isSome = true := by
    rw [h.text, lowercase_parts, lowercaseBetween_eq_self_iff.mpr hcapitals]
    exact isSome_findPart h.nonempty
  obtain ⟨place, hplace⟩ := Option.isSome_iff_exists.mp hfound
  obtain ⟨e, he, rfl⟩ := Option.map_eq_some_iff.mp h.own
  have hmem : place ∈ handlePlaces (lowercase text.toList) a := by
    rw [handlePlaces, he, Option.bind_some, hplace]
    exact List.mem_append_right _ (List.mem_singleton_self place)
  exact heard_of_place hmem

/-- A name is heard where sigmas end words alike. -/
theorem WritesName.heard (h : WritesName text a before handle after)
    (hsigmas : SigmasAgree before handle after) : Heard text a := by
  have hinPlace := lowercaseBetween_eq_lowercase_iff.mpr hsigmas
  have hlegible : ∃ c ∈ lowercase handle, isBlank c = false := by
    rw [← hinPlace]
    exact exists_not_blank h.legible
  have hfound : (findWord (lowercase text.toList) (lowercase handle)).isSome = true := by
    rw [h.text, lowercase_parts, hinPlace]
    exact isSome_findWord hlegible (h.alone.lowercase handle)
  obtain ⟨place, hplace⟩ := Option.isSome_iff_exists.mp hfound
  obtain ⟨w, hw, rfl⟩ := List.mem_map.mp h.own
  have hmem : place ∈ handlePlaces (lowercase text.toList) a :=
    List.mem_append_left _ (List.mem_filterMap.mpr ⟨w, hw, hplace⟩)
  exact heard_of_place hmem

end

/-- Whatever the text, an avatar is heard if the text has its emoji anywhere and the emoji has no capitals, or
if it has one of its names as a word of its own and the capital sigmas of the name, if there are any, end
words in the text just where they do in the name. -/
theorem written_handles_are_heard (text : String) (a : Avatar) :
    (∀ before emoji after, WritesEmoji text a before emoji after → (∀ c ∈ emoji, ¬ IsCapital c) →
      Heard text a) ∧
    ∀ before name after, WritesName text a before name after → SigmasAgree before name after →
      Heard text a :=
  ⟨fun _ _ _ h hcapitals => h.heard hcapitals, fun _ _ _ h hsigmas => h.heard hsigmas⟩

/-- Two avatars of whom one has a letter for its emoji and the other a sigma at the end of its name. -/
def lettered : List Avatar :=
  [(Avatar.named "mia" "Mia").withEmoji "Ⓜ", (Avatar.named "nikos" "ΝΙΚΟΣ").withEmoji "🦊"]

/-- An emoji without capitals is heard, and so is a name of which the sigma ends a word. -/
theorem written_handles_are_heard_nikos :
    WritesEmoji "over to 🦊!" lettered[1] "over to ".toList "🦊".toList "!".toList ∧
      (∀ c ∈ "🦊".toList, ¬ IsCapital c) ∧ Heard "over to 🦊!" lettered[1] ∧
      WritesName "ask ΝΙΚΟΣ, please" lettered[1] "ask ".toList "ΝΙΚΟΣ".toList ", please".toList ∧
      SigmasAgree "ask ".toList "ΝΙΚΟΣ".toList ", please".toList ∧
      Heard "ask ΝΙΚΟΣ, please" lettered[1] := by
  have hemoji : WritesEmoji "over to 🦊!" lettered[1] "over to ".toList "🦊".toList "!".toList := by
    constructor <;> decide +kernel
  have hcapitals : ∀ c ∈ "🦊".toList, ¬ IsCapital c := by
    intro c hc
    have hfox : c = '🦊' := List.mem_singleton.mp hc
    rw [hfox]
    decide +kernel
  have hname : WritesName "ask ΝΙΚΟΣ, please" lettered[1] "ask ".toList "ΝΙΚΟΣ".toList
      ", please".toList := by
    constructor
    · decide +kernel
    · decide +kernel
    · exact ⟨'Ν', by decide +kernel, by decide⟩
    · constructor <;> decide +kernel
  have hsigmas : SigmasAgree "ask ".toList "ΝΙΚΟΣ".toList ", please".toList := by decide +kernel
  obtain ⟨hheard, -⟩ := written_handles_are_heard "over to 🦊!" lettered[1]
  obtain ⟨-, hheard'⟩ := written_handles_are_heard "ask ΝΙΚΟΣ, please" lettered[1]
  exact ⟨hemoji, hcapitals, hheard _ _ _ hemoji hcapitals, hname, hsigmas, hheard' _ _ _ hname hsigmas⟩

/-- A letter for an emoji is sought in vain in a text in lower case. So is a name that ends in a sigma where
the text goes on after an apostrophe, for there the sigma ends no word. -/
theorem written_handles_missed :
    WritesEmoji "Ⓜ ΝΙΚΟΣ's turn" lettered[0] [] "Ⓜ".toList " ΝΙΚΟΣ's turn".toList ∧
      ¬ Heard "Ⓜ ΝΙΚΟΣ's turn" lettered[0] ∧
      WritesName "Ⓜ ΝΙΚΟΣ's turn" lettered[1] "Ⓜ ".toList "ΝΙΚΟΣ".toList "'s turn".toList ∧
      ¬ Heard "Ⓜ ΝΙΚΟΣ's turn" lettered[1] ∧ mentionedAvatars "Ⓜ ΝΙΚΟΣ's turn" lettered = [] := by
  have hmissed : ∀ a ∈ lettered, mentions "Ⓜ ΝΙΚΟΣ's turn" a = false := by decide +kernel
  have hunheard : ∀ a ∈ lettered, ¬ Heard "Ⓜ ΝΙΚΟΣ's turn" a := by
    intro a ha hheard
    have hmentions := hheard.1
    rw [hmissed a ha] at hmentions
    cases hmentions
  refine ⟨?_, hunheard _ (by decide), ?_, hunheard _ (by decide), ?_⟩
  · constructor <;> decide +kernel
  · constructor
    · decide +kernel
    · decide +kernel
    · exact ⟨'Ν', by decide +kernel, by decide⟩
    · constructor <;> decide +kernel
  · refine List.eq_nil_iff_forall_not_mem.mpr fun a ha => ?_
    obtain ⟨hmem, hmentions⟩ := mem_mentionedAvatars.mp ha
    rw [hmissed a hmem] at hmentions
    cases hmentions

end TurnTaking.Mention
