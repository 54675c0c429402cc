import TurnTaking.Config.Basic

/-!
# Formats — reading a configuration

A configuration is read the same way in every format that knows groups of named settings: each section
and each setting that is not given has its standard value. What differs between formats is which of
their values stand for a group, a number, a text and so on.

* `Config.read?` — the configuration that a value of a format stands for.
-/

namespace TurnTaking.Config

/-- Which values of a format stand for what. -/
structure Format (ν : Type) where
  /-- A group of settings with these names, by name; settings may be missing. -/
  group? : List String → ν → Option (String → Option ν)
  /-- A text that may be missing. -/
  text? : ν → Option (Option String)
  /-- A natural number up to a limit. -/
  natural? : Nat → ν → Option Nat
  /-- A signed integer of 64 bits. -/
  integer? : ν → Option Int
  truth? : ν → Option Bool
  decimals? : ν → Option (List Float)

variable {ν : Type}

namespace Format

/-- The largest natural number of 64 bits. -/
def largest64 : Nat := 0xffffffffffffffff

/-- The largest natural number of 32 bits. -/
def largest32 : Nat := 0xffffffff

/-- A setting, which has its standard value if it is not given. -/
def setting {α : Type} (given : Option ν) (read : ν → Option α) (standard : α) : Option α :=
  match given with
  | none => some standard
  | some v => read v

/-- A count or a span, which has its standard value if it is not given. -/
def count (f : Format ν) (given : Option ν) (standard : Nat) : Option Nat :=
  setting given (f.natural? largest64) standard

/-- A span that may be negative, which has its standard value if it is not given. -/
def span (f : Format ν) (given : Option ν) (standard : Int) : Option Int :=
  setting given f.integer? standard

end Format

open Format

/-- Reads where the store lives. -/
def Storage.read? (f : Format ν) (v : ν) : Option Storage := do
  let given ← f.group? ["db_path"] v
  return { dbPath := ← setting (given "db_path") f.text? Storage.standard.dbPath }

def Ambient.read? (f : Format ν) (v : ν) : Option Ambient := do
  let given ← f.group? ["tick_interval_ms", "tick_jitter_ms", "global_budget", "max_k",
    "channel_limit", "humans_per_slot", "active_human_window_ms", "human_suppression_ms"] v
  let s := Ambient.standard
  return {
    tickIntervalMs := ← f.count (given "tick_interval_ms") s.tickIntervalMs
    tickJitterMs := ← f.count (given "tick_jitter_ms") s.tickJitterMs
    globalBudget := ← f.count (given "global_budget") s.globalBudget
    maxK := ← f.count (given "max_k") s.maxK
    channelLimit := ← f.count (given "channel_limit") s.channelLimit
    humansPerSlot := ← f.count (given "humans_per_slot") s.humansPerSlot
    activeHumanWindowMs := ← f.span (given "active_human_window_ms") s.activeHumanWindowMs
    humanSuppressionMs := ← f.span (given "human_suppression_ms") s.humanSuppressionMs }

/-- Reads the settings of the choice of responders. -/
def Coordination.read? (f : Format ν) (v : ν) : Option Coordination := do
  let given ← f.group? ["max_responses_per_message", "sticky_affinity_exclusive", "affinity_ttl_ms",
    "turn_based_mode", "turn_cooldown_ms", "speaker_cache_ttl_ms", "speaker_cache_size",
    "diversity_window", "fallback_score_thresholds", "legacy_candidates", "mention_cascade_fanout",
    "thread_turns", "thread_ttl_ms"] v
  let s := Coordination.standard
  return {
    maxResponsesPerMessage := ← f.count (given "max_responses_per_message") s.maxResponsesPerMessage
    stickyAffinityExclusive :=
      ← setting (given "sticky_affinity_exclusive") f.truth? s.stickyAffinityExclusive
    affinityTtlMs := ← f.span (given "affinity_ttl_ms") s.affinityTtlMs
    turnBasedMode := ← setting (given "turn_based_mode") f.truth? s.turnBasedMode
    turnCooldownMs := ← f.span (given "turn_cooldown_ms") s.turnCooldownMs
    speakerCacheTtlMs := ← f.span (given "speaker_cache_ttl_ms") s.speakerCacheTtlMs
    speakerCacheSize := ← f.count (given "speaker_cache_size") s.speakerCacheSize
    diversityWindow := ← f.count (given "diversity_window") s.diversityWindow
    fallbackScoreThresholds :=
      ← setting (given "fallback_score_thresholds") f.decimals? s.fallbackScoreThresholds
    legacyCandidates := ← f.count (given "legacy_candidates") s.legacyCandidates
    mentionCascadeFanout := ← f.count (given "mention_cascade_fanout") s.mentionCascadeFanout
    threadTurns := ← setting (given "thread_turns") (f.natural? largest32) s.threadTurns
    threadTtlMs := ← f.span (given "thread_ttl_ms") s.threadTtlMs }

def Gate.read? (f : Format ν) (v : ν) : Option Gate := do
  let given ← f.group?
    ["channel_cooldown_ms", "bot_reply_cooldown_ms", "max_responders_per_trigger"] v
  let s := Gate.standard
  return {
    channelCooldownMs := ← f.span (given "channel_cooldown_ms") s.channelCooldownMs
    botReplyCooldownMs := ← f.span (given "bot_reply_cooldown_ms") s.botReplyCooldownMs
    maxRespondersPerTrigger :=
      ← f.count (given "max_responders_per_trigger") s.maxRespondersPerTrigger }

def Locks.read? (f : Format ν) (v : ν) : Option Locks := do
  let given ← f.group? ["response_lock_ttl_ms", "lease_ttl_ms"] v
  let s := Locks.standard
  return {
    responseLockTtlMs := ← f.span (given "response_lock_ttl_ms") s.responseLockTtlMs
    leaseTtlMs := ← f.span (given "lease_ttl_ms") s.leaseTtlMs }

def Janitor.read? (f : Format ν) (v : ν) : Option Janitor := do
  let given ← f.group? ["interval_ms", "responder_retention_ms", "avatar_message_retention_ms"] v
  let s := Janitor.standard
  return {
    intervalMs := ← f.count (given "interval_ms") s.intervalMs
    responderRetentionMs := ← f.span (given "responder_retention_ms") s.responderRetentionMs
    avatarMessageRetentionMs :=
      ← f.span (given "avatar_message_retention_ms") s.avatarMessageRetentionMs }

/-- The configuration that a value of a format stands for. -/
def read? (f : Format ν) (v : ν) : Option Config := do
  let given ← f.group?
    ["log_level", "storage", "ambient", "coordination", "gate", "locks", "janitor"] v
  let s := Config.standard
  return {
    logLevel := ← setting (given "log_level") f.text? s.logLevel
    storage := ← setting (given "storage") (Storage.read? f) s.storage
    ambient := ← setting (given "ambient") (Ambient.read? f) s.ambient
    coordination := ← setting (given "coordination") (Coordination.read? f) s.coordination
    gate := ← setting (given "gate") (Gate.read? f) s.gate
    locks := ← setting (given "locks") (Locks.read? f) s.locks
    janitor := ← setting (given "janitor") (Janitor.read? f) s.janitor }

end TurnTaking.Config
