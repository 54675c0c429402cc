import TurnTaking.World

/-!
# The journal — what was noted, and since when

A journal only grows at its front. `World.since` is what was noted after an earlier world; what engines
said and whom they selected is read from it under the key of a trigger.
-/

namespace TurnTaking

variable {σ : Type}

namespace World

/-- The world with one more entry in its journal. -/
def noted (w : World σ) (entry : JournalEntry) : World σ := { w with journal := entry :: w.journal }

@[simp] theorem noted_store (w : World σ) (entry : JournalEntry) : (w.noted entry).store = w.store :=
  rfl

@[simp] theorem noted_journal (w : World σ) (entry : JournalEntry) :
    (w.noted entry).journal = entry :: w.journal := rfl

/-- Noting an entry does nothing else. -/
theorem run_note (w : World σ) (entry : JournalEntry) :
    (note entry : Act σ Unit).run w = ((), w.noted entry) := rfl

/-- What was noted since an earlier world, the latest first. -/
def since (w earlier : World σ) : List JournalEntry :=
  w.journal.take (w.journal.length - earlier.journal.length)

/-- The new entries of a longer journal. -/
theorem since_eq {w earlier : World σ} {new : List JournalEntry}
    (h : w.journal = new ++ earlier.journal) : w.since earlier = new := by
  have hlen : w.journal.length - earlier.journal.length = new.length := by
    rw [h, List.length_append]
    omega
  rw [since, hlen, h, List.take_left']
  rfl

/-- What was noted in between was noted since. -/
theorem mem_since {w earlier w₁ : World σ} {entry : JournalEntry}
    (hbefore : earlier.journal <:+ w₁.journal) (hafter : (w₁.noted entry).journal <:+ w.journal) :
    entry ∈ w.since earlier := by
  obtain ⟨new, hnew⟩ := hbefore
  obtain ⟨later, hlater⟩ := hafter
  have hj : w.journal = (later ++ entry :: new) ++ earlier.journal := by
    rw [← hlater, noted_journal, ← hnew, List.append_assoc, List.cons_append]
  rw [since_eq hj]
  exact List.mem_append_right _ List.mem_cons_self

end World

namespace JournalEntry

/-- The trigger key and the avatar of a turn that ended with a message. -/
def answer? : JournalEntry → Option (String × String)
  | .turn r (.responded _) => some (r.options.triggerKey, r.avatar.id)
  | _ => none

/-- The avatars that were selected for the trigger of a key. -/
def selectedFor (key : String) : JournalEntry → List String
  | .selected k selections => if k = key then selections.map (·.avatar.id) else []
  | _ => []

/-- The entry is made on the way to a turn: it neither asks for a text nor ends a turn. -/
def Aside : JournalEntry → Prop
  | .generating _ | .turn .. => False
  | _ => True

namespace Aside

variable {entry : JournalEntry}

theorem answer?_eq (h : entry.Aside) : entry.answer? = none := by
  cases entry with
  | turn => exact h.elim
  | selected | generating | opened | unprompted | answering | passedOver => rfl

theorem ne_generating (h : entry.Aside) (r : Turn.Request) : entry ≠ .generating r := by
  rintro rfl
  exact h

end Aside

end JournalEntry

/-- The trigger key and the avatar of every turn that ended with a message. -/
def answers (journal : List JournalEntry) : List (String × String) :=
  journal.filterMap JournalEntry.answer?

/-- The avatars whose turns for the trigger of a key ended with a message, once for each turn. -/
def respondersTo (key : String) (journal : List JournalEntry) : List String :=
  ((answers journal).filter (·.1 = key)).map Prod.snd

/-- The avatars that were selected for the trigger of a key. -/
def selectedTo (key : String) (journal : List JournalEntry) : List String :=
  journal.flatMap (JournalEntry.selectedFor key)

@[simp] theorem answers_nil : answers [] = [] := rfl

theorem answers_append (l l' : List JournalEntry) : answers (l ++ l') = answers l ++ answers l' :=
  List.filterMap_append

theorem answers_cons_none {entry : JournalEntry} (h : entry.answer? = none) (l : List JournalEntry) :
    answers (entry :: l) = answers l :=
  List.filterMap_cons_none h

theorem answers_responded (r : Turn.Request) (sent : Turn.Sent) (l : List JournalEntry) :
    answers (.turn r (.responded sent) :: l) = (r.options.triggerKey, r.avatar.id) :: answers l := rfl

/-- A turn that ended without a message is no answer. -/
theorem answer?_turn {r : Turn.Request} {o : Turn.Outcome} (h : o.sent? = none) :
    (JournalEntry.turn r o).answer? = none := by
  cases o with
  | responded sent => cases h
  | silent => rfl
  | contended => rfl
  | rejected admission => rfl
  | failed reason => rfl

/-- Who responded to a key is who answered under it. -/
theorem mem_respondersTo {key avatar : String} {journal : List JournalEntry} :
    avatar ∈ respondersTo key journal ↔ (key, avatar) ∈ answers journal := by
  simp only [respondersTo, List.mem_map, List.mem_filter, decide_eq_true_eq]
  constructor
  · rintro ⟨⟨k, a⟩, ⟨hmem, rfl⟩, rfl⟩
    exact hmem
  · intro hmem
    exact ⟨(key, avatar), ⟨hmem, rfl⟩, rfl⟩

theorem mem_selectedTo {key : String} {selections : List Selection} {s : Selection}
    {journal : List JournalEntry} (h : .selected key selections ∈ journal) (hs : s ∈ selections) :
    s.avatar.id ∈ selectedTo key journal := by
  refine List.mem_flatMap.mpr ⟨_, h, ?_⟩
  rw [JournalEntry.selectedFor, if_pos rfl]
  exact List.mem_map.mpr ⟨s, hs, rfl⟩

theorem length_respondersTo (key : String) (journal : List JournalEntry) :
    (respondersTo key journal).length = (answers journal).countP (·.1 = key) := by
  rw [respondersTo, List.length_map, List.countP_eq_length_filter]

/-- Each avatar responded as often as the pair of key and avatar is among the answers. -/
theorem count_respondersTo (key avatar : String) (journal : List JournalEntry) :
    (respondersTo key journal).count avatar = (answers journal).count (key, avatar) := by
  rw [respondersTo, List.count, List.countP_map, List.countP_filter, List.count]
  refine List.countP_congr fun p _ => ?_
  obtain ⟨k, a⟩ := p
  simp [and_comm]

end TurnTaking
