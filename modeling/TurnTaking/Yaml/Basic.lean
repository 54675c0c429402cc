/-!
# YAML nodes

What a YAML stream holds: scalars, sequences and mappings, and references to nodes that were marked
before. A scalar keeps how it was written, since only a plain one can be anything but text.
-/

namespace TurnTaking.Yaml

/-- How a scalar is written. -/
inductive Style where
  | plain
  | quoted
  /-- Indented lines, each line for itself. -/
  | literal
  /-- Indented lines, joined to paragraphs. -/
  | folded
deriving DecidableEq, Repr, Inhabited

/-- A text with its style and its tag, if it has one. -/
structure Scalar where
  style : Style
  tag : Option String
  text : String
deriving DecidableEq, Repr, Inhabited

/-- What is found where a node could be and is not. -/
def Scalar.empty : Scalar := ⟨.plain, none, ""⟩

/-- A node of a document. Marks are numbers. -/
inductive Node where
  | scalar (mark : Option Nat) (value : Scalar)
  | sequence (mark : Option Nat) (items : List Node)
  | mapping (mark : Option Nat) (entries : List (Node × Node))
  /-- The node with this mark. -/
  | reference (mark : Nat)
deriving Repr, Inhabited

namespace Node

def empty : Node := .scalar none .empty

def mark? : Node → Option Nat
  | .scalar mark _ => mark
  | .sequence mark _ => mark
  | .mapping mark _ => mark
  | .reference _ => none

mutual

/-- The nodes with a mark, in the order in which they start. -/
def marked : Node → List (Nat × Node)
  | .scalar mark v => (mark.map (·, .scalar mark v)).toList
  | .sequence mark items => (mark.map (·, .sequence mark items)).toList ++ markedItems items
  | .mapping mark entries => (mark.map (·, .mapping mark entries)).toList ++ markedEntries entries
  | .reference _ => []

/-- The marked nodes among the items of a sequence and inside of them. -/
def markedItems : List Node → List (Nat × Node)
  | [] => []
  | n :: rest => n.marked ++ markedItems rest

/-- The marked nodes among the entries of a mapping and inside of them. -/
def markedEntries : List (Node × Node) → List (Nat × Node)
  | [] => []
  | (k, v) :: rest => k.marked ++ v.marked ++ markedEntries rest

end

end Node

/-- A document: its root, and what its references stand for. -/
structure Document where
  root : Node
  marked : List (Nat × Node)
deriving Repr, Inhabited

namespace Document

def ofRoot (root : Node) : Document := ⟨root, root.marked⟩

/-- The node that a reference stands for: the last one with its mark. Other nodes stand for
themselves. -/
def resolve (d : Document) : Node → Node
  | .reference mark => ((d.marked.reverse.find? (·.1 = mark)).map Prod.snd).getD .empty
  | n => n

end Document

end TurnTaking.Yaml
