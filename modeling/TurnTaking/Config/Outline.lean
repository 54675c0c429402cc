import TurnTaking.Config.Basic
import TurnTaking.Yaml.Writer

/-!
# The outline of a configuration

Every setting under its name, section by section, as configuration files have them.
-/

namespace TurnTaking.Config

open Yaml

def outlineText : Option String → Outline
  | none => .null
  | some s => .text s

def outlineCount (n : Nat) : Outline := .integer n

def outline (c : Config) : List (String × Outline) := [
  ("log_level", outlineText c.logLevel),
  ("storage", .group [("db_path", outlineText c.storage.dbPath)]),
  ("ambient", .group [
    ("tick_interval_ms", outlineCount c.ambient.tickIntervalMs),
    ("tick_jitter_ms", outlineCount c.ambient.tickJitterMs),
    ("global_budget", outlineCount c.ambient.globalBudget),
    ("max_k", outlineCount c.ambient.maxK),
    ("channel_limit", outlineCount c.ambient.channelLimit),
    ("humans_per_slot", outlineCount c.ambient.humansPerSlot),
    ("active_human_window_ms", .integer c.ambient.activeHumanWindowMs),
    ("human_suppression_ms", .integer c.ambient.humanSuppressionMs)]),
  ("coordination", .group [
    ("max_responses_per_message", outlineCount c.coordination.maxResponsesPerMessage),
    ("sticky_affinity_exclusive", .truth c.coordination.stickyAffinityExclusive),
    ("affinity_ttl_ms", .integer c.coordination.affinityTtlMs),
    ("turn_based_mode", .truth c.coordination.turnBasedMode),
    ("turn_cooldown_ms", .integer c.coordination.turnCooldownMs),
    ("speaker_cache_ttl_ms", .integer c.coordination.speakerCacheTtlMs),
    ("speaker_cache_size", outlineCount c.coordination.speakerCacheSize),
    ("diversity_window", outlineCount c.coordination.diversityWindow),
    ("fallback_score_thresholds",
      .list (c.coordination.fallbackScoreThresholds.map Outline.decimal)),
    ("legacy_candidates", outlineCount c.coordination.legacyCandidates),
    ("mention_cascade_fanout", outlineCount c.coordination.mentionCascadeFanout),
    ("thread_turns", outlineCount c.coordination.threadTurns),
    ("thread_ttl_ms", .integer c.coordination.threadTtlMs)]),
  ("gate", .group [
    ("channel_cooldown_ms", .integer c.gate.channelCooldownMs),
    ("bot_reply_cooldown_ms", .integer c.gate.botReplyCooldownMs),
    ("max_responders_per_trigger", outlineCount c.gate.maxRespondersPerTrigger)]),
  ("locks", .group [
    ("response_lock_ttl_ms", .integer c.locks.responseLockTtlMs),
    ("lease_ttl_ms", .integer c.locks.leaseTtlMs)]),
  ("janitor", .group [
    ("interval_ms", outlineCount c.janitor.intervalMs),
    ("responder_retention_ms", .integer c.janitor.responderRetentionMs),
    ("avatar_message_retention_ms", .integer c.janitor.avatarMessageRetentionMs)])]

end TurnTaking.Config
