/-!
# Splitting texts

A text falls into the parts between its separators, which may be empty.
-/

namespace TurnTaking.Text

/-- The parts between separators; one more than there are separators. -/
def partsBetween (separator : Char) : List Char → List (List Char)
  | [] => [[]]
  | c :: rest =>
    if c = separator then [] :: partsBetween separator rest
    else match partsBetween separator rest with
      | [] => [[c]]
      | part :: parts => (c :: part) :: parts

/-- There is always a part. -/
theorem partsBetween_ne_nil (separator : Char) (cs : List Char) : partsBetween separator cs ≠ [] := by
  cases cs with
  | nil => simp [partsBetween]
  | cons c rest =>
    rw [partsBetween]
    split
    · simp
    · split <;> simp

/-- There is one part more than there are separators. -/
theorem length_partsBetween (separator : Char) (cs : List Char) :
    (partsBetween separator cs).length = cs.count separator + 1 := by
  induction cs with
  | nil => rfl
  | cons c rest ih =>
    rw [partsBetween]
    split
    · simp_all
    · rename_i h
      split
      · exact absurd ‹_› (partsBetween_ne_nil separator rest)
      · simp_all

/-- The parts with the separators put back between them are the text. -/
theorem intercalate_partsBetween (separator : Char) (cs : List Char) :
    [separator].intercalate (partsBetween separator cs) = cs := by
  induction cs with
  | nil => rfl
  | cons c rest ih =>
    rw [partsBetween]
    have hne := partsBetween_ne_nil separator rest
    match h : partsBetween separator rest with
    | [] => exact absurd h hne
    | [part] => simp_all [List.intercalate]; split <;> simp_all
    | part :: next :: parts => simp_all [List.intercalate]; split <;> simp_all

end TurnTaking.Text
