import TurnTaking.Message
import TurnTaking.Numeral.Word

/-!
# Speaker caches — the latest avatar messages of a channel

A process remembers for a while what it last fetched of a channel, newest first, and only what avatars
wrote. Whenever it fetches one channel it forgets the others whose time is over.

* `SpeakerCache.fresh?` — what is remembered and still counts;
* `SpeakerCache.refresh` — after a fetch;
* `SpeakerCache.push` — after a message was sent.
-/

namespace TurnTaking

/-- What was fetched of a channel, and when. -/
structure SpeakerCache.Entry where
  channelId : String
  /-- Newest first. -/
  messages : List Message
  cachedAt : Int
deriving DecidableEq, Repr, Inhabited

/-- For how long and how many messages a cache remembers. -/
structure SpeakerCache.Limits where
  ttl : Int
  capacity : Nat
deriving DecidableEq, Repr, Inhabited

/-- What a process remembers of its channels, at most one entry for each. -/
structure SpeakerCache where
  entries : List SpeakerCache.Entry
deriving DecidableEq, Repr, Inhabited

namespace SpeakerCache

def empty : SpeakerCache := ⟨[]⟩

/-- Whether an entry still counts. -/
def Entry.isFresh (ttl now : Int) (e : Entry) : Bool := Numeral.wrapped (now - e.cachedAt) < ttl

/-- The messages of a channel that are remembered and still count. -/
def fresh? (l : Limits) (channel : String) (now : Int) (c : SpeakerCache) : Option (List Message) :=
  ((c.entries.find? (·.channelId = channel)).filter (Entry.isFresh l.ttl now)).map Entry.messages

/-- Of fetched messages those that are remembered. -/
def kept (l : Limits) (fetched : List Message) : List Message :=
  (fetched.filter (·.authorIsBot)).take l.capacity

/-- Remembers the messages of a channel, and forgets what counts no more. -/
def refresh (l : Limits) (channel : String) (now : Int) (messages : List Message)
    (c : SpeakerCache) : SpeakerCache :=
  ⟨⟨channel, messages, now⟩ ::
    c.entries.filter fun e => e.isFresh l.ttl now && e.channelId ≠ channel⟩

/-- Adds a message that was just sent, if its channel is remembered. -/
def push (l : Limits) (m : Message) (c : SpeakerCache) : SpeakerCache :=
  ⟨c.entries.map fun e =>
    if e.channelId = m.channelId then { e with messages := (m :: e.messages).take l.capacity } else e⟩

def invalidate (channel : String) (c : SpeakerCache) : SpeakerCache :=
  ⟨c.entries.filter (·.channelId ≠ channel)⟩

end SpeakerCache

end TurnTaking
