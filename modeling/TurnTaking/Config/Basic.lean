/-!
# Configuration

Every setting of the engine, in the sections that configuration files have. Each setting has a
standard value, so that an empty file is a valid configuration. All durations are in milliseconds.
-/

namespace TurnTaking

namespace Config

/-- Where the store lives. -/
structure Storage where
  /-- The database file, unless it is in the standard place. -/
  dbPath : Option String
deriving DecidableEq, Repr

/-- Sweeps, which give avatars unprompted turns. -/
structure Ambient where
  tickIntervalMs : Nat
  /-- The most by which an interval varies at random in either direction. -/
  tickJitterMs : Nat
  /-- Turns of one sweep over all channels. -/
  globalBudget : Nat
  /-- Turns of one sweep in one channel. -/
  maxK : Nat
  /-- How many of the most recently active channels a sweep visits. -/
  channelLimit : Nat
  /-- How many active people are worth one more turn. -/
  humansPerSlot : Nat
  /-- For how long a person counts as active. -/
  activeHumanWindowMs : Int
  /-- For how long after a person's message no unprompted turn is taken. -/
  humanSuppressionMs : Int
deriving DecidableEq, Repr

/-- Choice of the avatars that respond. -/
structure Coordination where
  maxResponsesPerMessage : Nat
  /-- A person's preferred avatar responds without being asked for a decision. -/
  stickyAffinityExclusive : Bool
  affinityTtlMs : Int
  /-- One active speaker at a time responds where no stronger rule selects. -/
  turnBasedMode : Bool
  /-- How long an avatar sits out after a turn. -/
  turnCooldownMs : Int
  speakerCacheTtlMs : Int
  speakerCacheSize : Nat
  /-- The authors of this many latest avatar messages take no unprompted turn. -/
  diversityWindow : Nat
  /-- Scores of which one must be exceeded to speak although nobody else is left. -/
  fallbackScoreThresholds : List Float
  /-- How many of the best ranked avatars are asked for a decision by the last tier. -/
  legacyCandidates : Nat
  /-- How many nested coordinations the mentions in responses may start. -/
  mentionCascadeFanout : Nat
  /-- Turns of a thread that a mention opens. -/
  threadTurns : Nat
  threadTtlMs : Int
deriving Repr

/-- Admission of responders. -/
structure Gate where
  /-- The least gap between two bot messages that answer different triggers. -/
  channelCooldownMs : Int
  /-- The same where a bot message is answered. -/
  botReplyCooldownMs : Int
  /-- How many avatars may answer one trigger. -/
  maxRespondersPerTrigger : Nat
deriving DecidableEq, Repr

/-- Lifetimes of locks and leases. -/
structure Locks where
  responseLockTtlMs : Int
  leaseTtlMs : Int
deriving DecidableEq, Repr

/-- Removal of what has expired. -/
structure Janitor where
  intervalMs : Nat
  responderRetentionMs : Int
  avatarMessageRetentionMs : Int
deriving DecidableEq, Repr

namespace Storage

/-- The file in its standard place. -/
def standard : Storage := ⟨none⟩

instance : Inhabited Storage := ⟨standard⟩

end Storage

namespace Ambient

/-- A sweep a minute. -/
def standard : Ambient where
  tickIntervalMs := 60000
  tickJitterMs := 10000
  globalBudget := 10
  maxK := 3
  channelLimit := 50
  humansPerSlot := 5
  activeHumanWindowMs := 10 * 60000
  humanSuppressionMs := 15000

instance : Inhabited Ambient := ⟨standard⟩

end Ambient

namespace Coordination

/-- Two responses to a message. -/
def standard : Coordination where
  maxResponsesPerMessage := 2
  stickyAffinityExclusive := false
  affinityTtlMs := 30 * 60000
  turnBasedMode := false
  turnCooldownMs := 2 * 60000
  speakerCacheTtlMs := 30000
  speakerCacheSize := 10
  diversityWindow := 3
  fallbackScoreThresholds := [0.5, 0.3]
  legacyCandidates := 3
  mentionCascadeFanout := 2
  threadTurns := 4
  threadTtlMs := 5 * 60000

instance : Inhabited Coordination := ⟨standard⟩

end Coordination

namespace Gate

/-- Two responders, and two seconds between triggers. -/
def standard : Gate where
  channelCooldownMs := 2000
  botReplyCooldownMs := 0
  maxRespondersPerTrigger := 2

instance : Inhabited Gate := ⟨standard⟩

end Gate

namespace Locks

/-- Five seconds for a response, ten minutes for a turn. -/
def standard : Locks where
  responseLockTtlMs := 5000
  leaseTtlMs := 10 * 60000

instance : Inhabited Locks := ⟨standard⟩

end Locks

namespace Janitor

/-- A pass every half minute, attributions for a week. -/
def standard : Janitor where
  intervalMs := 30000
  responderRetentionMs := 60 * 60000
  avatarMessageRetentionMs := 7 * 24 * 60 * 60000

instance : Inhabited Janitor := ⟨standard⟩

end Janitor

end Config

/-- All settings of the engine. -/
structure Config where
  logLevel : Option String
  storage : Config.Storage
  ambient : Config.Ambient
  coordination : Config.Coordination
  gate : Config.Gate
  locks : Config.Locks
  janitor : Config.Janitor
deriving Repr

namespace Config

/-- The standard value of every setting. -/
def standard : Config :=
  ⟨none, .standard, .standard, .standard, .standard, .standard, .standard⟩

instance : Inhabited Config := ⟨standard⟩

end Config

end TurnTaking
