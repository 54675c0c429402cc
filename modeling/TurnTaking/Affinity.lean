import TurnTaking.Numeral.Word
import TurnTaking.Store.Access

/-!
# Affinities — which avatar a person prefers

The avatar that answers a person is preferred for a while, which every further answer prolongs.
-/

namespace TurnTaking.Affinity

open Numeral Store Store.Access

/-- The avatar that a person prefers in a channel at this time. -/
def find? (channel user : String) (now : Int) : Access (Option String) :=
  query .affinities fun rows =>
    .ok (((Table.lookup AffinityRow.key (channel, user) rows).filter
      fun r => (Cell.number now).below r.expiresAt).map AffinityRow.avatarId)

/-- Makes a person prefer an avatar for `ttl` milliseconds. -/
def set (channel user avatar : String) (ttl now : Int) : Access Unit :=
  change .affinities fun rows => ((), Table.put AffinityRow.key
    ⟨channel, user, avatar, .number (wrapped (now + ttl))⟩
    (fun r => { r with avatarId := avatar, expiresAt := .number (wrapped (now + ttl)) }) rows)

/-- Removes the affinities that are over, and counts them. -/
def purgeExpired (now : Int) : Access Nat :=
  change .affinities (Table.remove fun r => r.expiresAt.upTo (.number now))

end TurnTaking.Affinity
