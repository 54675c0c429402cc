import TurnTaking.Numeral.Word
import TurnTaking.Store.Access

/-!
# Response locks — one response at a time

While a response of an avatar in a channel is made, its lock is held. A lock that is held is not
waited for. Expired locks stay until they are purged, so that a holder that died blocks its avatar for
a bounded time only.

The end of a lock is taken as an exact sum. As long as it has 64 bits, which it has for every time of a clock and
every span of less than a million years, it is the word that is stored (`acquire_eq`).
-/

namespace TurnTaking.Lock

open Store Store.Access

/-- Takes the lock for `ttl` milliseconds; says whether it was free. -/
def acquire (ttl : Int) (channel avatar : String) (now : Int) : Access Bool :=
  change .locks (Table.add LockRow.key ⟨channel, avatar, .number now, .number (now + ttl)⟩)

/-- A lock whose end has 64 bits is stored with the word that the sum leaves. -/
theorem acquire_eq {ttl now : Int} (h : Numeral.isInt64 (now + ttl) = true) (channel avatar : String) :
    acquire ttl channel avatar now = change .locks (Table.add LockRow.key
      ⟨channel, avatar, .number now, .number (Numeral.wrapped (now + ttl))⟩) := by
  rw [acquire, Numeral.wrapped_eq h]

/-- Frees the lock, whoever holds it. -/
def release (channel avatar : String) : Access Unit := do
  let _ ← change .locks (Table.remove fun r => r.key = (channel, avatar))

def isHeld (channel avatar : String) : Access Bool :=
  query .locks fun rows => .ok (Table.holds LockRow.key (channel, avatar) rows)

/-- Removes the locks that expired before now, and counts them. -/
def purgeExpired (now : Int) : Access Nat :=
  change .locks (Table.remove fun r => r.expiresAt.below (.number now))

/-- A lock that its holder has yet to free. -/
structure Guard where
  channelId : String
  avatarId : String
deriving DecidableEq, Repr, Inhabited

/-- Takes the lock, if it is free, with the duty to free it. -/
def tryGuard (ttl : Int) (channel avatar : String) (now : Int) : Access (Option Guard) := do
  if ← acquire ttl channel avatar now then return some ⟨channel, avatar⟩ else return none

def Guard.drop (g : Guard) : Access Unit := release g.channelId g.avatarId

end TurnTaking.Lock
