import Mathlib.Algebra.Order.Field.Rat
import Mathlib.Data.Rat.Cast.Order
import Mathlib.Tactic.GCongr
import TurnTaking.Presence.Score

/-!
# Eagerness — scores in exact arithmetic

Over the rational numbers the score of a record is the sum of five terms, held between zero and one
(`Weights.score_eq`). Where no weight is negative, each term grows with what it measures: the silence since
the last turn, the freshness of the last mention, pins, the floor and tags (`NoLessEager`). So does their sum,
however much of it is cut off at the ends (`Weights.score_bounded_and_monotone`).
-/

namespace TurnTaking.Presence

/-! ## The arithmetic of rational numbers -/

theorem ofInt_eq (n : Int) : (Scale.ofInt n : Rat) = n := rfl

theorem lesser_eq (x y : Rat) : Scale.lesser x y = min x y := by
  show (if y < x then y else x) = min x y
  split
  · rename_i h
    exact (min_eq_right h.le).symm
  · rename_i h
    exact (min_eq_left (not_lt.mp h)).symm

/-- A number is clamped by a maximum and a minimum. -/
theorem clamp_eq {low high : Rat} (h : low ≤ high) (x : Rat) :
    Scale.clamp low high x = max low (min high x) := by
  show (if x < low then low else if high < x then high else x) = max low (min high x)
  split
  · rename_i hx
    rw [max_eq_left ((min_le_right high x).trans hx.le)]
  · rename_i hlow
    split
    · rename_i hhigh
      rw [min_eq_left hhigh.le, max_eq_right h]
    · rename_i hhigh
      rw [min_eq_right (not_lt.mp hhigh), max_eq_right (not_lt.mp hlow)]

/-! ## Parts of a span -/

section

variable {elapsed elapsed' span : Int}

/-- The elapsed part of a span that is not empty. -/
theorem fraction_of_pos (h : 0 < span) :
    (fraction elapsed span : Rat) = min (((max elapsed 0 : Int) : Rat) / span) 1 := by
  rw [fraction, if_neg (not_le.mpr h), lesser_eq]
  rfl

theorem fraction_of_empty (h : span ≤ 0) : (fraction elapsed span : Rat) = 1 := if_pos h

/-- No more than all of a span has passed. -/
theorem fraction_le_one : (fraction elapsed span : Rat) ≤ 1 := by
  rcases lt_or_ge 0 span with h | h
  · rw [fraction_of_pos h]
    exact min_le_right _ _
  · rw [fraction_of_empty h]

/-- The longer the time, the greater the part. -/
theorem fraction_mono (h : elapsed ≤ elapsed') : (fraction elapsed span : Rat) ≤ fraction elapsed' span := by
  rcases lt_or_ge 0 span with hspan | hspan
  · rw [fraction_of_pos hspan, fraction_of_pos hspan]
    have hpos : (0 : Rat) < span := Int.cast_pos.mpr hspan
    gcongr
  · rw [fraction_of_empty hspan, fraction_of_empty hspan]

end

/-! ## More reason to speak -/

/-- The second record has at least as much reason to speak as the first. Its last turn lies as far in the past
or further, or there was none; its last mention is as recent or more so, if the first has one; it has as many
pins or more; it has the floor if the first has it, and every tag of the first. -/
structure NoLessEager (r r' : Record) : Prop where
  silence : ∀ time', r'.lastTurnAt = some time' → ∃ time, r.lastTurnAt = some time ∧ time' ≤ time
  mention : ∀ time, r.lastMentionedAt = some time →
    ∃ time', r'.lastMentionedAt = some time' ∧ time ≤ time'
  pins : r.priorityPins ≤ r'.priorityPins
  floor : r.isActiveSpeaker = true → r'.isActiveSpeaker = true
  tags : ∀ tag ∈ r.topicTags, tag ∈ r'.topicTags

namespace Weights

/-- No weight is negative. The times over which silence and mentions count may be anything. -/
structure NonNegative (w : Weights Rat) : Prop where
  recency : 0 ≤ w.recency
  mention : 0 ≤ w.mention
  pin : 0 ≤ w.pin
  pinMax : 0 ≤ w.pinMax
  activeSpeaker : 0 ≤ w.activeSpeaker
  topic : 0 ≤ w.topic

/-- The term for the active speaker's role. -/
def floorTerm (w : Weights Rat) (r : Record) : Rat := if r.isActiveSpeaker then w.activeSpeaker else 0

/-- The term for topics in common. -/
def topicTerm (w : Weights Rat) (r : Record) (c : Context) : Rat :=
  if sharesTopic r c then w.topic else 0

/-- The score of a record before it is held between its bounds. -/
def total (w : Weights Rat) (r : Record) (c : Context) : Rat :=
  w.recencyTerm r c + (w.mentionTerm? r c).getD 0 + w.pinTerm r + w.floorTerm r + w.topicTerm r c

variable {w : Weights Rat} {r r' : Record} {c : Context}

/-- A score is the sum of the terms, held between zero and one. -/
theorem score_eq (w : Weights Rat) (r : Record) (c : Context) :
    w.score r c = max 0 (min 1 (w.total r c)) := by
  have hsum : w.score r c = Scale.clamp 0 1 (w.total r c) := by
    simp only [score, total, floorTerm, topicTerm, ofInt_eq, Int.cast_zero, Int.cast_one, zero_add]
    congr 1
    -- a term that does not count is zero
    cases w.mentionTerm? r c <;> split <;> split <;> simp
  rw [hsum, clamp_eq zero_le_one]

/-! ### Each term -/

/-- The longer the silence, the more it weighs. -/
theorem recencyTerm_mono (hw : w.NonNegative) (h : NoLessEager r r') :
    w.recencyTerm r c ≤ w.recencyTerm r' c := by
  have hweight := hw.recency
  unfold recencyTerm
  cases hlast' : r'.lastTurnAt with
  | none =>
    -- who never spoke counts in full
    cases r.lastTurnAt with
    | none => exact le_rfl
    | some time =>
      simp only [ofInt_eq, Int.cast_one]
      gcongr
      exact fraction_le_one
  | some time' =>
    obtain ⟨time, hlast, hle⟩ := h.silence time' hlast'
    rw [hlast]
    dsimp only
    have helapsed : c.now - time ≤ c.now - time' := by omega
    gcongr
    exact fraction_mono helapsed

/-- A mention never counts against an avatar. -/
theorem mentionTerm_nonneg (hw : w.NonNegative) : 0 ≤ (w.mentionTerm? r c).getD 0 := by
  unfold mentionTerm?
  cases r.lastMentionedAt with
  | none => simp
  | some time =>
    simp only [Option.map_some, Option.getD_some, ofInt_eq, Int.cast_one]
    exact mul_nonneg (sub_nonneg.mpr fraction_le_one) hw.mention

/-- The fresher the mention, the more it weighs. -/
theorem mentionTerm_mono (hw : w.NonNegative) (h : NoLessEager r r') :
    (w.mentionTerm? r c).getD 0 ≤ (w.mentionTerm? r' c).getD 0 := by
  cases hlast : r.lastMentionedAt with
  | none =>
    have hnothing : (w.mentionTerm? r c).getD 0 = 0 := by simp [mentionTerm?, hlast]
    rw [hnothing]
    exact mentionTerm_nonneg hw
  | some time =>
    obtain ⟨time', hlast', hle⟩ := h.mention time hlast
    have hweight := hw.mention
    have helapsed : c.now - time' ≤ c.now - time := by omega
    simp only [mentionTerm?, hlast, hlast', Option.map_some, Option.getD_some]
    gcongr
    exact fraction_mono helapsed

/-- More pins weigh more. -/
theorem pinTerm_mono (hw : w.NonNegative) (h : NoLessEager r r') : w.pinTerm r ≤ w.pinTerm r' := by
  have hweight := hw.pin
  have hpins := h.pins
  simp only [pinTerm, lesser_eq, ofInt_eq, Int.cast_natCast]
  gcongr

/-- The floor weighs for who has it. -/
theorem floorTerm_mono (hw : w.NonNegative) (h : NoLessEager r r') : w.floorTerm r ≤ w.floorTerm r' := by
  unfold floorTerm
  by_cases hfloor : r.isActiveSpeaker = true
  · rw [if_pos hfloor, if_pos (h.floor hfloor)]
  · rw [if_neg hfloor]
    split
    · exact hw.activeSpeaker
    · exact le_rfl

/-- With more tags an avatar shares no fewer topics. -/
theorem sharesTopic_mono (h : NoLessEager r r') (hshares : sharesTopic r c = true) :
    sharesTopic r' c = true := by
  simp only [sharesTopic, TagSet.overlaps, Bool.and_eq_true, List.any_eq_true] at hshares ⊢
  obtain ⟨htopics, tag, htag, hcommon⟩ := hshares
  exact ⟨htopics, tag, h.tags tag htag, hcommon⟩

/-- A shared topic weighs for who shares it. -/
theorem topicTerm_mono (hw : w.NonNegative) (h : NoLessEager r r') :
    w.topicTerm r c ≤ w.topicTerm r' c := by
  unfold topicTerm
  by_cases hshares : sharesTopic r c = true
  · rw [if_pos hshares, if_pos (sharesTopic_mono h hshares)]
  · rw [if_neg hshares]
    split
    · exact hw.topic
    · exact le_rfl

/-! ### All of them -/

/-- The sum of the terms is monotone because each of them is. -/
theorem total_mono (hw : w.NonNegative) (h : NoLessEager r r') : w.total r c ≤ w.total r' c := by
  have hrecency := recencyTerm_mono (c := c) hw h
  have hmention := mentionTerm_mono (c := c) hw h
  have hpins := pinTerm_mono hw h
  have hfloor := floorTerm_mono hw h
  have htopics := topicTerm_mono (c := c) hw h
  unfold total
  gcongr

/-- In exact arithmetic and without negative weights, every score lies between zero and one, and a record with
no less reason to speak than another has no lower score. -/
theorem score_bounded_and_monotone (w : Weights Rat) (hw : w.NonNegative) (c : Context) :
    (∀ r, 0 ≤ w.score r c ∧ w.score r c ≤ 1) ∧
      ∀ r r', NoLessEager r r' → w.score r c ≤ w.score r' c := by
  constructor
  · intro r
    rw [score_eq]
    exact ⟨le_max_left 0 _, max_le zero_le_one (min_le_left 1 _)⟩
  · intro r r' h
    have htotal := total_mono (c := c) hw h
    rw [score_eq, score_eq]
    gcongr

/-- The usual weights as fractions. -/
def usual : Weights Rat := ⟨2 / 5, 1800000, 1 / 5, 600000, 1 / 10, 1 / 5, 1 / 10, 1 / 10⟩

/-- The avatar spoke a minute ago and was mentioned five minutes ago. -/
def contented : Record :=
  { Record.fresh "lobby" "ada" 0 with lastTurnAt := some 3540000, lastMentionedAt := some 3300000 }

/-- The avatar never spoke, was mentioned by a clock that is ahead, and has all else that counts. -/
def insistent : Record :=
  { Record.fresh "lobby" "bob" 0 with
    lastMentionedAt := some 3600500, priorityPins := 7, role := some .activeSpeaker,
    topicTags := .ofList ["music", "rust"] }

/-- With the usual weights the one has a score in between, and the other the highest. -/
theorem score_bounded_and_monotone_usual :
    usual.NonNegative ∧ NoLessEager contented insistent ∧
      usual.score contented ⟨3600000, .ofList ["rust"]⟩ = 17 / 150 ∧
      usual.score insistent ⟨3600000, .ofList ["rust"]⟩ = 1 ∧
      usual.score contented ⟨3600000, .ofList ["rust"]⟩ ≤
        usual.score insistent ⟨3600000, .ofList ["rust"]⟩ := by
  have hweights : usual.NonNegative := by
    constructor <;> decide +kernel
  have hrecords : NoLessEager contented insistent := by
    constructor
    · intro time' h
      cases h
    · intro time h
      obtain rfl := Option.some.inj h
      exact ⟨3600500, rfl, by decide⟩
    · decide
    · intro h
      cases h
    · intro tag h
      cases h
  obtain ⟨-, hmonotone⟩ := score_bounded_and_monotone usual hweights ⟨3600000, .ofList ["rust"]⟩
  exact ⟨hweights, hrecords, by decide +kernel, by decide +kernel, hmonotone _ _ hrecords⟩

end Weights

end TurnTaking.Presence
