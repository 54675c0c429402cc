import TurnTaking.Avatar
import TurnTaking.Lease

/-!
# Tiers — the rules that select who responds

A coordination tries the tiers in order, and the first that selects anybody decides.

| # | tier | selects |
|---|------|---------|
| 0 | reply | the author of the message that is replied to |
| 1 | thread | the next participant of the open thread |
| 2 | summon | avatars that are owed a turn, the latest summoned first |
| 3 | affinity | the avatar that the person prefers |
| 4 | mention | the avatars that the message names |
| 5 | active speaker | who holds the floor, or was silent longest |
| 6 | presence | the best ranked avatar |
| 7 | legacy | the first of the best ranked that a decision accepts |
-/

namespace TurnTaking

/-- A rule that selects responders. -/
inductive Tier where
  | reply
  | thread
  | summon
  | affinity
  | mention
  | activeSpeaker
  | presence
  | legacy
deriving DecidableEq, Repr, Inhabited

namespace Tier

/-- The tiers in the order in which they are tried. -/
def cascade : List Tier :=
  [.reply, .thread, .summon, .affinity, .mention, .activeSpeaker, .presence, .legacy]

/-- The name of the tier in exchanged text. -/
def name : Tier → String
  | .reply => "reply"
  | .thread => "thread"
  | .summon => "summon"
  | .affinity => "affinity"
  | .mention => "mention"
  | .activeSpeaker => "active_speaker"
  | .presence => "presence"
  | .legacy => "legacy"

def ofName? (s : String) : Option Tier := cascade.find? (·.name = s)

def index (t : Tier) : Nat := cascade.idxOf t

/-- How a turn that the tier selected is leased. Replies and summons take precedence over what else
goes on in the tick. -/
def leaseMode : Tier → Lease.Mode
  | .reply | .summon => .priority
  | _ => .fastlane

end Tier

/-- An avatar that a tier selected. -/
structure Selection where
  avatar : Avatar
  tier : Tier
  /-- The thread that the turn continues. -/
  threadToken : Option String
  /-- The channel's cooldown does not count. -/
  overridesCooldown : Bool
deriving DecidableEq, Repr, Inhabited

/-- An avatar selected by a tier, with nothing special about it. -/
def Selection.plain (avatar : Avatar) (tier : Tier) : Selection := ⟨avatar, tier, none, false⟩

end TurnTaking
