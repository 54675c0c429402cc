/-!
# Code point ranges

A character class is a list of closed ranges of code points in ascending order. `inRanges` walks
the list and stops at the first range that lies above the character.
-/

namespace TurnTaking.Text

/-- Whether the code point lies in one of the ascending closed ranges. -/
def inRanges : List (Nat × Nat) → Nat → Bool
  | [], _ => false
  | (first, last) :: rest, n =>
    if n < first then false else if n ≤ last then true else inRanges rest n

/-- Only a range that starts at or below the code point can hold it. -/
theorem exists_of_inRanges {rs : List (Nat × Nat)} {n : Nat} (h : inRanges rs n = true) :
    ∃ r ∈ rs, r.1 ≤ n ∧ n ≤ r.2 := by
  induction rs with
  | nil => simp [inRanges] at h
  | cons r rest ih =>
    obtain ⟨first, last⟩ := r
    simp only [inRanges] at h
    split at h
    · simp at h
    · split at h
      · exact ⟨(first, last), List.mem_cons_self, by omega, by assumption⟩
      · obtain ⟨r, hr, hn⟩ := ih h
        exact ⟨r, List.mem_cons_of_mem _ hr, hn⟩

end TurnTaking.Text
