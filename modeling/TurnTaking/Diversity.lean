import TurnTaking.Engine.Basic

/-!
# Diversity — whose unprompted turn it may be

The authors of the latest avatar messages and avatars that are cooling down do not speak unprompted.
Where that leaves nobody, the best ranked avatar may still speak, unless it wrote the very last of
those messages, if its score is above one of the thresholds.
-/

namespace TurnTaking.Diversity

open Presence

/-- The ranked avatars that may take an unprompted turn, given the authors of the latest messages. -/
def allowed (cooling : Record → Bool) (thresholds : List Float) (recent : List String)
    (ranked : List Ranked) : List Ranked :=
  let diverse := ranked.filter fun r => !recent.contains r.avatarId && !cooling r.record
  if !diverse.isEmpty then diverse
  else match ranked.head? with
    | none => []
    | some top =>
      if recent.head? = some top.avatarId then []
      else if thresholds.any (· < top.score) then [top]
      else []

/-- The ranked avatars that may take an unprompted turn in a channel, in ranking order. -/
def apply {σ : Type} (e : Engine σ) (channel : String) (ranked : List Ranked) (now : Int) :
    Act σ (List Ranked) := do
  let recent ← e.recentAuthors channel e.config.coordination.diversityWindow now
  return allowed (e.rule.cooling · now) e.config.coordination.fallbackScoreThresholds recent ranked

end TurnTaking.Diversity
