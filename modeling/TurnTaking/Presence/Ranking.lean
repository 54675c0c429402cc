import TurnTaking.Presence.Score

/-!
# Ranking

Avatars are ranked by score, then by pins, then by the most recent mention, then by the longest
silence, then by id. Sorting inserts each avatar behind all that it does not precede, so avatars that
the order does not tell apart keep the order in which they came.
-/

namespace TurnTaking.Presence

/-- A record with its score in one ranking. -/
structure Ranked where
  record : Record
  score : Float
deriving Repr, Inhabited

namespace Ranked

def avatarId (r : Ranked) : String := r.record.avatarId

end Ranked

/-- The order of two scores. A score that is no number is level with every other. -/
def compareScores (x y : Float) : Ordering := if x < y then .lt else if y < x then .gt else .eq

/-- The order of two moments, where one that never came is before all others. -/
def compareMoments : Option Int → Option Int → Ordering
  | none, none => .eq
  | none, some _ => .lt
  | some _, none => .gt
  | some x, some y => compare x y

/-- The earliest moment that can be written. A turn that was never taken counts as taken then. -/
def earliestMoment : Int := -0x8000000000000000

/-- The order in which avatars are ranked: `lt` if the first comes first. -/
def compareRanked (a b : Ranked) : Ordering :=
  (compareScores b.score a.score).then <|
  (compare b.record.priorityPins a.record.priorityPins).then <|
  (compareMoments b.record.lastMentionedAt a.record.lastMentionedAt).then <|
  (compare (a.record.lastTurnAt.getD earliestMoment) (b.record.lastTurnAt.getD earliestMoment)).then <|
  compare a.avatarId b.avatarId

/-- Puts an avatar into a ranking that is written last first: behind all that it does not
precede. -/
def insertRanked (a : Ranked) : List Ranked → List Ranked
  | [] => [a]
  | b :: rest => if compareRanked a b = .lt then b :: insertRanked a rest else a :: b :: rest

/-- The avatars in ranking order. -/
def sortRanked (l : List Ranked) : List Ranked := (l.foldl (fun done a => insertRanked a done) []).reverse

/-- Scores the records and ranks them. -/
def rank (records : List Record) (rule : Initiative) (context : Context) : List Ranked :=
  sortRanked (records.map fun r => ⟨r, rule.score r context⟩)

end TurnTaking.Presence
