import TurnTaking.Text.Blank
import TurnTaking.Text.Letter

/-!
# Search — where words and parts are in a text

A part is found wherever it occurs, a word only where it stands alone: at no end of it does a word character
stand next to it. Places are byte offsets of the UTF-8 form of the text. A search for a word looks at one
occurrence after the other, and cuts the text at the places that it computes; a place within a character is
none to cut at.

* `findPart` — the first place where a part occurs;
* `searchWord` — the first place from a given one on where a word stands alone, look by look;
* `findWord` — the first place where a word stands alone.
-/

namespace TurnTaking.Mention

open TurnTaking.Text

/-- The number of bytes of the UTF-8 form of the characters. -/
def byteLength (cs : List Char) : Nat := cs.foldr (·.utf8Size + ·) 0

@[simp] theorem byteLength_nil : byteLength [] = 0 := rfl

@[simp] theorem byteLength_cons (c : Char) (cs : List Char) :
    byteLength (c :: cs) = c.utf8Size + byteLength cs := rfl

@[simp] theorem byteLength_append (before after : List Char) :
    byteLength (before ++ after) = byteLength before + byteLength after := by
  induction before with
  | nil => simp
  | cons c before ih => simp [ih, Nat.add_assoc]

/-- Whether a word may end or begin next to this neighbour. -/
def isBoundary (neighbour : Option Char) : Bool := neighbour.all (!isWordChar ·)

/-- A text was to be cut at a byte that begins no character of it and is not its end. -/
structure Miscut where
  place : Nat
deriving DecidableEq, Repr

/-- The characters that make up the first `n` bytes and those after them, if no character has bytes in
both. -/
def splitBytes? : List Char → Nat → Option (List Char × List Char)
  | text, 0 => some ([], text)
  | [], _ + 1 => none
  | c :: rest, n + 1 =>
    if c.utf8Size ≤ n + 1 then
      (splitBytes? rest (n + 1 - c.utf8Size)).map fun (before, after) => (c :: before, after)
    else none

/-- The text before a byte, and from it on. -/
def cut (text : List Char) (place : Nat) : Except Miscut (List Char × List Char) :=
  match splitBytes? text place with
  | some parts => .ok parts
  | none => .error ⟨place⟩

/-- A text is split within its first character's bytes, or behind them. -/
theorem splitBytes?_cons {c : Char} {rest : List Char} {n : Nat} (hn : 0 < n) :
    splitBytes? (c :: rest) n = if c.utf8Size ≤ n then
      (splitBytes? rest (n - c.utf8Size)).map fun (before, after) => (c :: before, after) else none := by
  cases n with
  | zero => cases hn
  | succ n => rfl

/-- A text is split where its first part ends. -/
theorem splitBytes?_append (before after : List Char) :
    splitBytes? (before ++ after) (byteLength before) = some (before, after) := by
  induction before with
  | nil => cases after <;> rfl
  | cons c before ih =>
    have hpos : 0 < byteLength (c :: before) := Nat.lt_add_right _ c.utf8Size_pos
    rw [List.cons_append, splitBytes?_cons hpos, byteLength_cons, if_pos (Nat.le_add_right _ _),
      Nat.add_sub_cancel_left, ih]
    rfl

/-- The parts of a split are the text, and the first has the bytes asked for. -/
theorem of_splitBytes?_eq_some {text before after : List Char} {n : Nat}
    (h : splitBytes? text n = some (before, after)) : text = before ++ after ∧ byteLength before = n := by
  fun_induction splitBytes? text n generalizing before with
  | case1 text =>
    cases h
    exact ⟨rfl, rfl⟩
  | case2 => cases h
  | case3 c rest n hfits ih =>
    obtain ⟨⟨earlier, later⟩, hsplit, hparts⟩ := Option.map_eq_some_iff.mp h
    cases hparts
    obtain ⟨rfl, hlength⟩ := ih hsplit
    refine ⟨rfl, ?_⟩
    rw [byteLength_cons, hlength, Nat.add_sub_cancel' hfits]
  | case4 => cases h

/-- A text can be cut where a character of it begins or it ends, and nowhere else. -/
theorem cut_eq_ok_iff {text before after : List Char} {place : Nat} :
    cut text place = .ok (before, after) ↔ text = before ++ after ∧ byteLength before = place := by
  constructor
  · intro h
    rw [cut] at h
    split at h
    · cases h
      exact of_splitBytes?_eq_some ‹_›
    · cases h
  · rintro ⟨rfl, rfl⟩
    rw [cut, splitBytes?_append]

/-- The first place in `text`, which begins at byte `offset`, where `part` occurs. -/
def findPartFrom (part : List Char) (offset : Nat) : List Char → Option Nat
  | [] => none
  | c :: rest =>
    if part.isPrefixOf (c :: rest) then some offset
    else findPartFrom part (offset + c.utf8Size) rest

/-- The first place in `text` where `part` occurs. An empty part occurs nowhere. -/
def findPart (text part : List Char) : Option Nat :=
  if part.isEmpty then none else findPartFrom part 0 text

/-- The first place from a byte on where a word, which is not empty, occurs. -/
def occurrence? (text word : List Char) (start : Nat) : Except Miscut (Option Nat) := do
  let (_, rest) ← cut text start
  return (findPart rest word).map (start + ·)

/-- Whether a word that occurs at a place stands alone there. -/
def standsAlone (text word : List Char) (place : Nat) : Except Miscut Bool := do
  let (before, _) ← cut text place
  let (_, after) ← cut text (place + byteLength word)
  return isBoundary before.getLast? && isBoundary after.head?

/-- The place behind the character at a place. -/
def placeBehind (text : List Char) (place : Nat) : Except Miscut Nat := do
  let (_, rest) ← cut text place
  return place + rest.head?.elim 1 Char.utf8Size

/-- What a look for a word comes to. -/
inductive Look where
  /-- The word does not occur from here on. -/
  | nothing
  /-- The word stands alone at the place. -/
  | alone (place : Nat)
  /-- The word occurs within a longer one; the search goes on from the place. -/
  | onward (next : Nat)
deriving DecidableEq, Repr

/-- Looks at the first occurrence of a word from a byte on. -/
def look (text word : List Char) (start : Nat) : Except Miscut Look := do
  match ← occurrence? text word start with
  | none => return .nothing
  | some place =>
    if ← standsAlone text word place then return .alone place
    else return .onward (← placeBehind text place)

private theorem exists_of_bind_eq_ok {α β : Type} {x : Except Miscut α} {f : α → Except Miscut β}
    {b : β} (h : x >>= f = .ok b) : ∃ a, x = .ok a ∧ f a = .ok b := by
  cases x with
  | error e => cases h
  | ok a => exact ⟨a, rfl, h⟩

/-- A look finds no place before its start, and starts within the text. -/
theorem bounds_of_occurrence? {text word : List Char} {start place : Nat}
    (h : occurrence? text word start = .ok (some place)) : start ≤ place ∧ start ≤ byteLength text := by
  obtain ⟨⟨done, rest⟩, hcut, hplace⟩ := exists_of_bind_eq_ok h
  obtain ⟨htext, hdone⟩ := cut_eq_ok_iff.mp hcut
  obtain ⟨offset, -, rfl⟩ := Option.map_eq_some_iff.mp (Except.ok.inj hplace)
  refine ⟨Nat.le_add_right _ _, ?_⟩
  rw [htext, byteLength_append, hdone]
  exact Nat.le_add_right _ _

/-- The place behind a character lies further on, so that the search comes to an end. -/
theorem lt_of_placeBehind {text : List Char} {place next : Nat} (h : placeBehind text place = .ok next) :
    place < next := by
  obtain ⟨⟨done, rest⟩, -, hnext⟩ := exists_of_bind_eq_ok h
  rw [← Except.ok.inj hnext]
  refine Nat.lt_add_of_pos_right ?_
  cases rest with
  | nil => exact Nat.one_pos
  | cons c rest => exact c.utf8Size_pos

/-- A search that goes on does so behind where it was, which was in the text. -/
theorem lt_of_look_eq_onward {text word : List Char} {start next : Nat}
    (h : look text word start = .ok (.onward next)) : start < next ∧ start ≤ byteLength text := by
  obtain ⟨_ | place, hplace, h⟩ := exists_of_bind_eq_ok h
  · cases h
  · obtain ⟨hle, hlength⟩ := bounds_of_occurrence? hplace
    obtain ⟨_ | _, -, h⟩ := exists_of_bind_eq_ok h
    · obtain ⟨behind, hbehind, h⟩ := exists_of_bind_eq_ok h
      cases h
      exact ⟨Nat.lt_of_le_of_lt hle (lt_of_placeBehind hbehind), hlength⟩
    · cases h

/-- The first place from a byte on where a word stands alone, if there is one. Occurrences within longer
words may overlap, so after each of them the search goes on behind its first character. -/
def searchWord (text word : List Char) (start : Nat) : Except Miscut (Option Nat) :=
  match _hlook : look text word start with
  | .error e => .error e
  | .ok .nothing => .ok none
  | .ok (.alone place) => .ok (some place)
  | .ok (.onward next) => searchWord text word next
termination_by byteLength text + 1 - start
decreasing_by
  have hnext := lt_of_look_eq_onward _hlook
  omega

/-- The first place in `text` where `word` stands alone. A blank word stands nowhere. -/
def findWord (text word : List Char) : Option Nat :=
  if word.all isBlank then none else (searchWord text word 0).toOption.join

end TurnTaking.Mention
