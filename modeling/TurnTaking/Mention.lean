import TurnTaking.Avatar
import TurnTaking.Mention.Search
import TurnTaking.Text.Lowercase

/-!
# Mentions — which avatars a text addresses

Names and aliases count regardless of case, and only as words of their own: "Ada" is not mentioned
by "Adam". An emoji counts wherever it occurs in the lower-cased text.

* `firstMention` — the first place of any handle of an avatar;
* `mentionedAvatars` — the avatars that a text mentions, in the order of their first mention.
-/

namespace TurnTaking.Mention

open TurnTaking.Text

/-- The places where the handles of the avatar are first found in a lower-cased text. -/
def handlePlaces (text : List Char) (a : Avatar) : List Nat :=
  (a.name :: a.aliases).filterMap (fun w => findWord text (lowercase w.toList)) ++
    (a.emoji.bind fun e => findPart text e.toList).toList

/-- The earliest place of any handle of the avatar in a lower-cased text. -/
def firstMention (text : List Char) (a : Avatar) : Option Nat := (handlePlaces text a).min?

def mentions (text : String) (a : Avatar) : Bool :=
  (firstMention (lowercase text.toList) a).isSome

/-- Whether one mention comes no later than another: by place, then by the avatar's id. -/
def notAfter (x y : Nat × Avatar) : Bool :=
  x.1 < y.1 || (x.1 = y.1 && !(y.2.id < x.2.id))

/-- The avatars that the text mentions, by the place of their first mention and then by id. -/
def mentionedAvatars (text : String) (avatars : List Avatar) : List Avatar :=
  let lowered := lowercase text.toList
  let hits := avatars.filterMap fun a => (firstMention lowered a).map fun place => (place, a)
  (hits.mergeSort notAfter).map Prod.snd

end TurnTaking.Mention
