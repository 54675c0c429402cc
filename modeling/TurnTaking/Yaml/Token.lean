import TurnTaking.Yaml.Basic

/-!
# Tokens of a YAML stream

Indentation is told by tokens too: a block collection has a token at its start and one at its end.
-/

namespace TurnTaking.Yaml

/-- A token of a stream. -/
inductive Token where
  /-- The version of the format that a document is written in. -/
  | version (major minor : Nat)
  /-- What a tag handle stands for. -/
  | tagPrefix (handle text : List Char)
  | documentStart
  | documentEnd
  | blockSequence
  | blockMapping
  | blockEnd
  | flowSequence
  | flowSequenceEnd
  | flowMapping
  | flowMappingEnd
  | flowEntry
  | blockEntry
  | key
  | value
  /-- A reference to the node with this anchor. -/
  | alias (name : List Char)
  | anchor (name : List Char)
  | tag (handle suffix : List Char)
  | scalar (style : Style) (text : List Char)
deriving DecidableEq, Repr, Inhabited

end TurnTaking.Yaml
