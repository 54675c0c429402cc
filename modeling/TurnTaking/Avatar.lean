/-!
# Avatars

An avatar is an autonomous conversational actor. It answers to its name, its aliases and its emoji,
and it may be placed in one channel.
-/

namespace TurnTaking

/-- An autonomous conversational actor. -/
structure Avatar where
  id : String
  name : String
  /-- A symbol that addresses the avatar wherever it occurs. -/
  emoji : Option String
  /-- Further names that the avatar answers to. -/
  aliases : List String
  /-- The channel that the avatar is currently in. -/
  channelId : Option String
deriving DecidableEq, Repr, Inhabited

namespace Avatar

def named (id name : String) : Avatar := ⟨id, name, none, [], none⟩

/-- The avatar, addressed by `emoji` too. -/
def withEmoji (a : Avatar) (emoji : String) : Avatar := { a with emoji := some emoji }

/-- The avatar, answering to one more name. -/
def withAlias (a : Avatar) (name : String) : Avatar := { a with aliases := a.aliases ++ [name] }

def inChannel (a : Avatar) (channel : String) : Avatar := { a with channelId := some channel }

def isIn (a : Avatar) (channel : String) : Bool := a.channelId = some channel

end Avatar

end TurnTaking
