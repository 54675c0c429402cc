import TurnTaking.Activity
import TurnTaking.Affinity
import TurnTaking.Gate
import TurnTaking.Lease
import TurnTaking.Lock
import TurnTaking.Numeral.Word
import TurnTaking.Session
import TurnTaking.Thread

/-!
# The janitor — removal of what has expired

Nothing leaves the store by the mere passing of time. A pass of the janitor removes what no reader
would take into account any more, kind by kind; a fault ends the pass where it happens.
-/

namespace TurnTaking.Janitor

open Numeral Store

/-- How many rows of each kind a pass removed. -/
structure Report where
  locks : Nat
  leases : Nat
  threads : Nat
  responders : Nat
  affinities : Nat
  avatarMessages : Nat
  sessions : Nat
  humanActivity : Nat
deriving DecidableEq, Repr, Inhabited

/-- The number of rows that a pass removed. -/
def Report.total (r : Report) : Nat :=
  r.locks + r.leases + r.threads + r.responders + r.affinities + r.avatarMessages + r.sessions +
    r.humanActivity

/-- One pass at a time. -/
def pass (c : Config) (now : Int) : Access Report := do
  return {
    locks := ← Lock.purgeExpired now
    leases := ← Lease.purgeExpired now
    threads := ← Thread.purge now
    responders := ← Gate.purge (wrapped (now - c.janitor.responderRetentionMs))
    affinities := ← Affinity.purgeExpired now
    avatarMessages := ← Activity.purgeSent (wrapped (now - c.janitor.avatarMessageRetentionMs))
    sessions := ← Session.purgeIdle (wrapped (now - c.coordination.affinityTtlMs))
    humanActivity := ← Activity.purgeHumans (wrapped (now - c.ambient.activeHumanWindowMs)) }

end TurnTaking.Janitor
