import TurnTaking.Store.Rows

/-!
# The tables of a store

Twelve tables, each of which may be missing. A `Relation` names one of them and says where it is.
-/

namespace TurnTaking.Store

/-- The tables; `none` for one that is missing. -/
structure Tables where
  presence : Option (List PresenceRow)
  ticks : Option (List TickRow)
  leases : Option (List LeaseRow)
  locks : Option (List LockRow)
  activity : Option (List ActivityRow)
  topics : Option (List TopicsRow)
  humans : Option (List HumanRow)
  sent : Option (List SentRow)
  responders : Option (List ResponderRow)
  threads : Option (List ThreadRow)
  sessions : Option (List SessionRow)
  affinities : Option (List AffinityRow)
deriving DecidableEq, Repr

namespace Tables

/-- All tables, without rows. -/
def empty : Tables :=
  ⟨some [], some [], some [], some [], some [], some [], some [], some [], some [], some [], some [],
    some []⟩

instance : Inhabited Tables := ⟨empty⟩

/-- The tables, with those that were missing put in place empty. -/
def complete (t : Tables) : Tables where
  presence := some (t.presence.getD [])
  ticks := some (t.ticks.getD [])
  leases := some (t.leases.getD [])
  locks := some (t.locks.getD [])
  activity := some (t.activity.getD [])
  topics := some (t.topics.getD [])
  humans := some (t.humans.getD [])
  sent := some (t.sent.getD [])
  responders := some (t.responders.getD [])
  threads := some (t.threads.getD [])
  sessions := some (t.sessions.getD [])
  affinities := some (t.affinities.getD [])

theorem complete_empty : empty.complete = empty := rfl

end Tables

/-- One of the tables, by its name and its place. -/
structure Relation (ρ : Type) where
  name : String
  get : Tables → Option (List ρ)
  set : Tables → Option (List ρ) → Tables

namespace Relation

def presence : Relation PresenceRow :=
  ⟨"presence", (·.presence), fun t rows => { t with presence := rows }⟩

def ticks : Relation TickRow :=
  ⟨"tick_counters", (·.ticks), fun t rows => { t with ticks := rows }⟩

def leases : Relation LeaseRow :=
  ⟨"turn_leases", (·.leases), fun t rows => { t with leases := rows }⟩

def locks : Relation LockRow :=
  ⟨"response_locks", (·.locks), fun t rows => { t with locks := rows }⟩

def activity : Relation ActivityRow :=
  ⟨"channel_activity", (·.activity), fun t rows => { t with activity := rows }⟩

def topics : Relation TopicsRow :=
  ⟨"channel_topics", (·.topics), fun t rows => { t with topics := rows }⟩

def humans : Relation HumanRow :=
  ⟨"human_activity", (·.humans), fun t rows => { t with humans := rows }⟩

def sent : Relation SentRow :=
  ⟨"avatar_messages", (·.sent), fun t rows => { t with sent := rows }⟩

def responders : Relation ResponderRow :=
  ⟨"trigger_responders", (·.responders), fun t rows => { t with responders := rows }⟩

def threads : Relation ThreadRow :=
  ⟨"conversation_threads", (·.threads), fun t rows => { t with threads := rows }⟩

def sessions : Relation SessionRow :=
  ⟨"conversation_sessions", (·.sessions), fun t rows => { t with sessions := rows }⟩

def affinities : Relation AffinityRow :=
  ⟨"affinities", (·.affinities), fun t rows => { t with affinities := rows }⟩

end Relation

end TurnTaking.Store
