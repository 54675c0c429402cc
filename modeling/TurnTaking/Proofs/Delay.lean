import TurnTaking.Config.Validity
import TurnTaking.Engine.Sweep

/-!
# Delays — how far sweeps are apart

The settings of the interval and its jitter are words of 64 bits without a sign, but a delay is computed with
words that have one. So a delay is in its band, which reaches from the interval by the jitter to either side,
as long as the upper end of the band is a signed word (`exists_delay_inBand`). Beyond that the sum overflows at
that end (`delay_eq_overflow`), or the interval counts as negative and only the least delay is left
(`delay_eq_one`). A valid configuration keeps the jitter below the interval, and nothing keeps it from
an interval so long: its delays are in the band just if the band ends within the signed words, or begins at the
least delay (`delay_in_band_iff`).
-/

namespace TurnTaking.Sweep

open Numeral Store

/-- What is drawn between two bounds is between them. -/
def Draws (draw : Int → Int → Int) : Prop :=
  ∀ low high, low ≤ high → low ≤ draw low high ∧ draw low high ≤ high

/-- A delay is no farther from the interval than the jitter. -/
def InBand (c : Config.Ambient) (ms : Int) : Prop :=
  (c.tickIntervalMs : Int) - c.tickJitterMs ≤ ms ∧ ms ≤ (c.tickIntervalMs : Int) + c.tickJitterMs

/-! ## Words -/

/-- Below 2⁶³ a word is read as it is. -/
theorem ofWord_of_lt {n : Nat} (h : n < 0x8000000000000000) : ofWord n = n := if_pos h

/-- From 2⁶³ on a word is read as negative. -/
theorem ofWord_of_le {n : Nat} (h : 0x8000000000000000 ≤ n) : ofWord n = (n : Int) - 0x10000000000000000 :=
  if_neg (Nat.not_lt.mpr h)

/-! ## Delays -/

section

variable {c : Config.Ambient} {draw : Int → Int → Int}

/-- The bounds of a draw are words, as no jitter is drawn that is not positive. -/
theorem offset_eq (hword : c.tickJitterMs < 0x10000000000000000) : offset c draw =
    .ok (if 0 < ofWord c.tickJitterMs then draw (-ofWord c.tickJitterMs) (ofWord c.tickJitterMs) else 0) := by
  rw [offset]
  split
  · have hlow : inWord (-ofWord c.tickJitterMs) = .ok (-ofWord c.tickJitterMs) := by
      refine inWord_eq_ok_iff.mpr ⟨?_, ?_, rfl⟩
      · unfold ofWord
        split <;> omega
      · omega
    rw [hlow]
    rfl
  · rfl

/-- The random part of a delay is no greater than the jitter, in either direction. -/
theorem exists_offset (hdraw : Draws draw) (hsigned : c.tickJitterMs < 0x8000000000000000) :
    ∃ n, offset c draw = .ok n ∧ -(c.tickJitterMs : Int) ≤ n ∧ n ≤ c.tickJitterMs := by
  rw [offset_eq (by omega), ofWord_of_lt hsigned]
  split
  · exact ⟨_, rfl, hdraw _ _ (by omega)⟩
  · exact ⟨0, rfl, by omega, by omega⟩

/-- No jitter is drawn that counts as negative. -/
theorem offset_eq_zero (hunsigned : 0x8000000000000000 ≤ c.tickJitterMs)
    (hword : c.tickJitterMs < 0x10000000000000000) : offset c draw = .ok 0 := by
  rw [offset_eq hword, ofWord_of_le hunsigned, if_neg (by omega)]

/-- With its offset drawn, a delay is the checked sum, at least one. -/
theorem delay_eq {n : Int} (h : offset c draw = .ok n) :
    delay c draw = (inWord (ofWord c.tickIntervalMs + n)).map (max · 1) := by
  rw [delay, h]
  show (inWord _ >>= _) = _
  cases inWord (ofWord c.tickIntervalMs + n) <;> rfl

/-- The lowest random part is the whole jitter. -/
theorem offset_low (hsigned : c.tickJitterMs < 0x8000000000000000) :
    offset c (fun low _ => low) = .ok (-(c.tickJitterMs : Int)) := by
  rw [offset_eq (by omega), ofWord_of_lt hsigned]
  split
  · rfl
  · exact congrArg Except.ok (by omega)

/-- Delays are computed, and in the band, if the band ends within the signed words. -/
theorem exists_delay_inBand (hdraw : Draws draw) (hsmaller : c.tickJitterMs < c.tickIntervalMs)
    (hend : c.tickIntervalMs + c.tickJitterMs < 0x8000000000000000) :
    ∃ ms, delay c draw = .ok ms ∧ InBand c ms := by
  obtain ⟨n, hoffset, hlow, hhigh⟩ := exists_offset (c := c) hdraw (by omega)
  have hsum : inWord (ofWord c.tickIntervalMs + n) = .ok (c.tickIntervalMs + n) := by
    rw [ofWord_of_lt (by omega)]
    exact inWord_eq_ok_iff.mpr ⟨by omega, by omega, rfl⟩
  refine ⟨max (c.tickIntervalMs + n) 1, ?_, ?_, ?_⟩
  · rw [delay_eq hoffset, hsum]
    rfl
  · omega
  · omega

/-- The greatest delay overflows if the band goes beyond the signed words but the interval does not. -/
theorem delay_eq_overflow (hsmaller : c.tickJitterMs < c.tickIntervalMs)
    (hsigned : c.tickIntervalMs < 0x8000000000000000)
    (hend : 0x8000000000000000 ≤ c.tickIntervalMs + c.tickJitterMs) :
    delay c (fun _ high => high) = .error ⟨c.tickIntervalMs + c.tickJitterMs⟩ := by
  have hjitter : ofWord c.tickJitterMs = c.tickJitterMs := ofWord_of_lt (by omega)
  have hoffset : offset c (fun _ high => high) = .ok (c.tickJitterMs : Int) := by
    rw [offset_eq (by omega), hjitter, if_pos (by omega)]
  rw [delay_eq hoffset, ofWord_of_lt hsigned, inWord_eq_overflow (by omega)]
  rfl

/-- Where the interval counts as negative and there is no random part, the least delay is left. -/
theorem delay_eq_one (hword : c.tickIntervalMs < 0x10000000000000000)
    (hunsigned : 0x8000000000000000 ≤ c.tickIntervalMs) (hoffset : offset c draw = .ok 0) :
    delay c draw = .ok 1 := by
  have hsum : inWord (ofWord c.tickIntervalMs + 0) = .ok ((c.tickIntervalMs : Int) - 0x10000000000000000) := by
    rw [ofWord_of_le hunsigned]
    exact inWord_eq_ok_iff.mpr ⟨by omega, by omega, by omega⟩
  rw [delay_eq hoffset, hsum]
  exact congrArg Except.ok (Int.max_eq_right (by omega))

/-- Where the interval counts as negative, no other delay is computed with a random part that is not
positive. -/
theorem eq_one_of_delay_eq_ok {n ms : Int} (hword : c.tickIntervalMs < 0x10000000000000000)
    (hunsigned : 0x8000000000000000 ≤ c.tickIntervalMs) (hoffset : offset c draw = .ok n) (hn : n ≤ 0)
    (h : delay c draw = .ok ms) : ms = 1 ∧ -0x8000000000000000 ≤ ofWord c.tickIntervalMs + n := by
  rw [delay_eq hoffset] at h
  cases hsum : inWord (ofWord c.tickIntervalMs + n) with
  | error _ =>
    rw [hsum] at h
    cases h
  | ok sum =>
    rw [hsum] at h
    obtain ⟨hlow, -, rfl⟩ := inWord_eq_ok_iff.mp hsum
    obtain rfl := Except.ok.inj h
    rw [ofWord_of_le hunsigned] at hlow ⊢
    exact ⟨Int.max_eq_right (by omega), hlow⟩

end

/-! ## Valid configurations -/

/-- A valid configuration keeps the jitter below the interval. -/
theorem jitter_lt_interval {c : Config} (hvalid : c.defect? = none) :
    c.ambient.tickJitterMs < c.ambient.tickIntervalMs := by
  unfold Config.defect? at hvalid
  split at hvalid
  · cases hvalid
  · split at hvalid
    · cases hvalid
    · exact Nat.lt_of_not_le ‹_›

/-- What is drawn where always one bound is taken. -/
theorem draws_low : Draws fun low _ => low := fun low _ h => ⟨Int.le_refl low, h⟩

theorem draws_high : Draws fun _ high => high := fun _ high h => ⟨h, Int.le_refl high⟩

/-- Of a valid configuration every delay is computed without overflow, and in the band, just if the band ends
within the signed words, or if the jitter does not fit into them and is all of the interval but one. -/
theorem delay_in_band_iff (c : Config) (hvalid : c.defect? = none)
    (hword : c.ambient.tickIntervalMs < 0x10000000000000000) :
    (∀ draw, Draws draw → ∃ ms, delay c.ambient draw = .ok ms ∧ InBand c.ambient ms) ↔
      c.ambient.tickIntervalMs + c.ambient.tickJitterMs < 0x8000000000000000 ∨
        0x8000000000000000 ≤ c.ambient.tickJitterMs ∧
          c.ambient.tickIntervalMs = c.ambient.tickJitterMs + 1 := by
  have hsmaller := jitter_lt_interval hvalid
  constructor
  · intro hall
    by_cases hsigned : c.ambient.tickIntervalMs < 0x8000000000000000
    · refine .inl (Nat.lt_of_not_le fun hend => ?_)
      obtain ⟨ms, hms, -⟩ := hall _ draws_high
      rw [delay_eq_overflow hsmaller hsigned hend] at hms
      cases hms
    · obtain ⟨ms, hms, hlow, -⟩ := hall _ draws_low
      rw [Nat.not_lt] at hsigned
      by_cases hjitter : 0x8000000000000000 ≤ c.ambient.tickJitterMs
      · have hoffset : offset c.ambient (fun low _ => low) = .ok 0 := offset_eq_zero hjitter (by omega)
        rw [delay_eq_one hword hsigned hoffset] at hms
        obtain rfl := Except.ok.inj hms
        exact .inr ⟨hjitter, by omega⟩
      · -- the band begins at the least delay, so the interval is the first that is no signed word: the sum
        -- with the lowest random part is none either
        have hoffset := offset_low (Nat.lt_of_not_le hjitter)
        obtain ⟨rfl, hsum⟩ := eq_one_of_delay_eq_ok hword hsigned hoffset (by omega) hms
        rw [ofWord_of_le hsigned] at hsum
        omega
  · rintro (hend | ⟨hjitter, hinterval⟩)
    · exact fun draw hdraw => exists_delay_inBand hdraw hsmaller hend
    · intro draw hdraw
      have hoffset : offset c.ambient draw = .ok 0 := offset_eq_zero hjitter (by omega)
      exact ⟨1, delay_eq_one hword (by omega) hoffset, by omega, by omega⟩

/-- The standard configuration, with another interval and jitter. -/
def spaced (interval jitter : Nat) : Config :=
  { Config.standard with
    ambient := { Config.Ambient.standard with tickIntervalMs := interval, tickJitterMs := jitter } }

/-- The longest delay may be the greatest signed word. -/
theorem delay_in_band_iff_brim :
    (spaced 0x7ffffffffffffffe 1).defect? = none ∧ 0x7ffffffffffffffe < 0x10000000000000000 ∧
      ∀ draw, Draws draw → ∃ ms, delay (spaced 0x7ffffffffffffffe 1).ambient draw = .ok ms ∧
        InBand (spaced 0x7ffffffffffffffe 1).ambient ms := by
  have hvalid : (spaced 0x7ffffffffffffffe 1).defect? = none := by
    rw [← Option.isNone_iff_eq_none]
    decide +kernel
  have hends : (spaced 0x7ffffffffffffffe 1).ambient.tickIntervalMs +
      (spaced 0x7ffffffffffffffe 1).ambient.tickJitterMs < 0x8000000000000000 := by decide
  exact ⟨hvalid, by decide, (delay_in_band_iff _ hvalid (by decide)).mpr (.inl hends)⟩

/-- The first interval that is no signed word makes sweeps follow each other at once, and a jitter of one
makes the greatest delay overflow where the interval is the greatest signed word. -/
theorem delay_out_of_band :
    (spaced 0x8000000000000000 0).defect? = none ∧
      delay (spaced 0x8000000000000000 0).ambient (fun low _ => low) = .ok 1 ∧
      ¬ InBand (spaced 0x8000000000000000 0).ambient 1 ∧
      (spaced 0x7fffffffffffffff 1).defect? = none ∧
      delay (spaced 0x7fffffffffffffff 1).ambient (fun _ high => high) = .error ⟨0x8000000000000000⟩ := by
  refine ⟨?_, rfl, by unfold InBand; decide, ?_, rfl⟩
  · rw [← Option.isNone_iff_eq_none]
    decide +kernel
  · rw [← Option.isNone_iff_eq_none]
    decide +kernel

end TurnTaking.Sweep
