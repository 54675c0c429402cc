import TurnTaking.Config.Basic
import TurnTaking.Numeral.Shortest

/-!
# Validity of a configuration

Settings that would make the engine misbehave, rather than just behave differently, are refused. Of
several the first in a fixed order is reported.
-/

namespace TurnTaking.Config

/-- Why a configuration is refused. -/
inductive Defect where
  | zeroInterval
  /-- An interval could become negative. -/
  | jitterTooLarge (jitter interval : Nat)
  | zeroHumansPerSlot
  | zeroResponses
  | zeroSpeakerCache
  /-- A threshold that no score can be compared with in earnest. -/
  | thresholdOutside (threshold : Float)
  | expiredLocks
  | zeroResponders
  | zeroJanitorInterval
deriving Repr, Inhabited

def Defect.message : Defect → String
  | .zeroInterval => "ambient.tick_interval_ms must be positive"
  | .jitterTooLarge jitter interval =>
    s!"ambient.tick_jitter_ms ({jitter}) must be smaller than tick_interval_ms ({interval})"
  | .zeroHumansPerSlot => "ambient.humans_per_slot must be positive"
  | .zeroResponses => "coordination.max_responses_per_message must be at least 1"
  | .zeroSpeakerCache => "coordination.speaker_cache_size must be at least 1"
  | .thresholdOutside t =>
    "coordination.fallback_score_thresholds entry " ++ Numeral.positional t ++ " is outside [0, 1]"
  | .expiredLocks => "locks TTLs must be positive"
  | .zeroResponders => "gate.max_responders_per_trigger must be at least 1"
  | .zeroJanitorInterval => "janitor.interval_ms must be positive"

def isScore (x : Float) : Bool := 0.0 ≤ x && x ≤ 1.0

/-- The first reason to refuse the configuration, if there is one. -/
def defect? (c : Config) : Option Defect :=
  if c.ambient.tickIntervalMs = 0 then some .zeroInterval
  else if c.ambient.tickIntervalMs ≤ c.ambient.tickJitterMs then
    some (.jitterTooLarge c.ambient.tickJitterMs c.ambient.tickIntervalMs)
  else if c.ambient.humansPerSlot = 0 then some .zeroHumansPerSlot
  else if c.coordination.maxResponsesPerMessage = 0 then some .zeroResponses
  else if c.coordination.speakerCacheSize = 0 then some .zeroSpeakerCache
  else match c.coordination.fallbackScoreThresholds.find? (! isScore ·) with
    | some t => some (.thresholdOutside t)
    | none =>
      if c.locks.responseLockTtlMs ≤ 0 || c.locks.leaseTtlMs ≤ 0 then some .expiredLocks
      else if c.gate.maxRespondersPerTrigger = 0 then some .zeroResponders
      else if c.janitor.intervalMs = 0 then some .zeroJanitorInterval
      else none

end TurnTaking.Config
