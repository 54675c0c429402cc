import TurnTaking.Affinity
import TurnTaking.Config.Basic
import TurnTaking.Presence.Ranking
import TurnTaking.World

/-!
# Engines and the services outside

An engine makes avatars speak through services that it does not control: a generator of texts, the
platform that carries messages, the register of avatars, a judge of who should answer, and a memory of
whom people prefer. Each call may fail, and may change anything in the world, for a generator may take
long and others go on meanwhile.
-/

namespace TurnTaking

/-- The services outside. -/
structure Collaborators (σ : Type) where
  /-- Makes the avatar's text for a channel; none, if it chooses to stay silent. -/
  generate : Avatar → String → Option Message → ResponseOptions → Try σ (Option Generated)
  /-- The latest messages of a channel, newest first, at most so many. -/
  fetchRecent : String → Nat → Try σ (List Message)
  /-- Sends a text to a channel in the name of an avatar, and returns the id of the message. -/
  send : String → Avatar → String → Try σ String
  /-- Moves an avatar into a channel. -/
  relocate : Avatar → String → Try σ Unit
  /-- The avatar of an id. -/
  getAvatar : String → Try σ (Option Avatar)
  /-- The avatars that are in a channel. -/
  listAvatars : String → Try σ (List Avatar)
  /-- Notes when an avatar was last active. -/
  touch : String → Int → Try σ Unit
  /-- Whether an avatar should answer in a channel. -/
  shouldRespond : String → Avatar → Option Message → Try σ Bool
  /-- The avatar that a person prefers in a channel. -/
  preferred : String → String → Try σ (Option String)
  /-- Makes a person prefer an avatar in a channel for so many milliseconds. -/
  prefer : String → String → String → Int → Try σ Unit

namespace Affinity

variable {σ : Type}

/-- The avatar that a person prefers, by the affinities of the store. -/
def storedPreferred (channel user : String) : Try σ (Option String) := do
  onStore (find? channel user (← clockNow))

/-- Keeps whom a person prefers in the affinities of the store. -/
def storedPrefer (channel user avatar : String) (ttl : Int) : Try σ Unit := do
  onStore (set channel user avatar ttl (← clockNow))

end Affinity

/-- A process that makes avatars speak. -/
structure Engine (σ : Type) where
  config : Config
  /-- How records are scored. -/
  rule : Presence.Initiative
  /-- The number of its speaker cache. -/
  number : Nat
  outside : Collaborators σ

namespace Engine

variable {σ : Type}

/-- The bounds of the engine's speaker cache. -/
def cacheLimits (e : Engine σ) : SpeakerCache.Limits :=
  ⟨e.config.coordination.speakerCacheTtlMs, e.config.coordination.speakerCacheSize⟩

/-- Changes the engine's speaker cache. -/
def updateCache (e : Engine σ) (f : SpeakerCache → SpeakerCache) : Act σ Unit :=
  modify fun w =>
    { w with caches := fun n => if n = e.number then f (w.caches n) else w.caches n }

/-- The latest avatar messages of a channel, newest first. They are fetched unless they are remembered;
where that fails there are none. -/
def recentMessages (e : Engine σ) (channel : String) (now : Int) : Act σ (List Message) := do
  match (← get).caches e.number |>.fresh? e.cacheLimits channel now with
  | some messages => return messages
  | none =>
    match ← (e.outside.fetchRecent channel e.cacheLimits.capacity).run with
    | .error _ => return []
    | .ok fetched =>
      let messages := SpeakerCache.kept e.cacheLimits fetched
      e.updateCache (SpeakerCache.refresh e.cacheLimits channel now messages)
      return messages

/-- The authors of the latest avatar messages, at most so many. -/
def recentAuthors (e : Engine σ) (channel : String) (count : Nat) (now : Int) :
    Act σ (List String) := do
  return ((← e.recentMessages channel now).take count).map Message.authorId

/-- The author of the latest avatar message. -/
def lastSpeaker (e : Engine σ) (channel : String) (now : Int) : Act σ (Option String) := do
  return (← e.recentMessages channel now).head?.map Message.authorId

end Engine

end TurnTaking
