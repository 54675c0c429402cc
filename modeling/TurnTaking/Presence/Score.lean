import TurnTaking.Presence.Record

/-!
# Initiative — how eager an avatar is to speak

The score of a record is a weighted sum of five terms, clamped to the unit interval: the time since
the last turn, the freshness of the last mention, pins, the active speaker's role, and common topics
with the channel. It orders candidates and decides nothing else.

The formula is written over any `Scale`, a carrier of the few operations that it needs, so that the
same definition is run on floating point numbers and reasoned about on rational numbers. Times elapsed
are exact differences on either carrier, and are words wherever no time lies before the epoch.

* `Weights.score` — the score of a record;
* `Initiative` — a rule that scores records, either by weights or by a constant.
-/

namespace TurnTaking.Presence

/-- The arithmetic that scores are computed in. -/
class Scale (α : Type) extends Add α, Sub α, Mul α, Div α where
  ofInt : Int → α
  /-- The smaller of two values. -/
  lesser : α → α → α
  /-- The value held between two bounds. -/
  clamp : α → α → α → α

/-- Floating point: the smaller of two values ignores one that is not a number, and holding between
bounds lets such a value pass. -/
instance : Scale Float where
  ofInt := Float.ofInt
  lesser x y := if x.isNaN then y else if y.isNaN then x else if y < x then y else x
  clamp low high x := if x < low then low else if high < x then high else x

/-- Rational arithmetic. -/
instance : Scale Rat where
  ofInt n := n
  lesser x y := if y < x then y else x
  clamp low high x := if x < low then low else if high < x then high else x

/-- What all scores of one ranking share. -/
structure Context where
  now : Int
  channelTopics : TagSet
deriving DecidableEq, Repr, Inhabited

/-- The weights of the terms of a score. -/
structure Weights (α : Type) where
  recency : α
  /-- Silence for this long counts in full. -/
  recencySaturationMs : Int
  mention : α
  /-- A mention this old counts no more. -/
  mentionDecayMs : Int
  /-- Weight of each pin. -/
  pin : α
  /-- The most that pins count for. -/
  pinMax : α
  activeSpeaker : α
  topic : α
deriving Repr, Inhabited

/-- The elapsed part of a span, between zero and one. Every part of an empty span is the whole. -/
def fraction {α : Type} [Scale α] (elapsed span : Int) : α :=
  if span ≤ 0 then Scale.ofInt 1
  else Scale.lesser (Scale.ofInt (max elapsed 0) / Scale.ofInt span) (Scale.ofInt 1)

namespace Weights

variable {α : Type} [Scale α]

/-- The term for the time since the last turn. An avatar that never spoke counts in full. -/
def recencyTerm (w : Weights α) (r : Record) (c : Context) : α :=
  (match r.lastTurnAt with
    | none => Scale.ofInt 1
    | some time => fraction (c.now - time) w.recencySaturationMs) * w.recency

/-- The term for the freshness of the last mention, where there was one. -/
def mentionTerm? (w : Weights α) (r : Record) (c : Context) : Option α :=
  r.lastMentionedAt.map fun time =>
    (Scale.ofInt 1 - fraction (c.now - time) w.mentionDecayMs) * w.mention

def pinTerm (w : Weights α) (r : Record) : α :=
  Scale.lesser (Scale.ofInt r.priorityPins * w.pin) w.pinMax

/-- Whether the record's tags and the channel's topics have a common member. -/
def sharesTopic (r : Record) (c : Context) : Bool :=
  !c.channelTopics.isEmpty && r.topicTags.overlaps c.channelTopics

/-- The score of a record in `[0, 1]`. The terms are added in this order. -/
def score (w : Weights α) (r : Record) (c : Context) : α :=
  let timed := Scale.ofInt 0 + w.recencyTerm r c
  let mentioned := match w.mentionTerm? r c with
    | none => timed
    | some term => timed + term
  let pinned := mentioned + w.pinTerm r
  let spoken := if r.isActiveSpeaker then pinned + w.activeSpeaker else pinned
  let total := if sharesTopic r c then spoken + w.topic else spoken
  Scale.clamp (Scale.ofInt 0) (Scale.ofInt 1) total

end Weights

/-- The weights in use unless others are given. -/
def standardWeights : Weights Float where
  recency := 0.4
  recencySaturationMs := 30 * 60000
  mention := 0.2
  mentionDecayMs := 10 * 60000
  pin := 0.1
  pinMax := 0.2
  activeSpeaker := 0.1
  topic := 0.1

/-- A rule that scores records and says who sits out. -/
structure Initiative where
  score : Record → Context → Float
  /-- Whether the avatar takes no unprompted turn at this time. -/
  cooling : Record → Int → Bool

/-- Whether the record's own cooldown lasts beyond this time. -/
def Record.coolsAt (r : Record) (now : Int) : Bool := r.cooldownUntil.any (now < ·)

namespace Initiative

/-- Scores by weights. -/
def weighted (w : Weights Float) : Initiative := ⟨w.score, Record.coolsAt⟩

/-- Scores all records alike. -/
def flat (x : Float) : Initiative := ⟨fun _ _ => x, Record.coolsAt⟩

/-- The rule in use unless another is given. -/
def standard : Initiative := weighted standardWeights

end Initiative

end TurnTaking.Presence
