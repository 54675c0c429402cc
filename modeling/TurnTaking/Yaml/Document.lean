import TurnTaking.Yaml.Lexer

/-!
# Documents — assembly from tokens

The nodes of a stream that holds one document, or none, which counts as an empty scalar. An anchor
marks its node with the number of different anchor names before it; a reference stands for what its
name was last given to. A node that is not written where one could be is an empty scalar.

* `Document.read?` — the document of a text.
-/

namespace TurnTaking.Yaml

/-- An assembly in the midst of the tokens. -/
structure Assembly where
  tokens : List Token
  /-- The marks of the anchors so far. -/
  marks : List (List Char × Nat)
  /-- What tag handles stand for. -/
  prefixes : List (List Char × List Char)
deriving Repr, Inhabited

/-- A step of the assembly, which may fail. -/
abbrev Assemble := StateT Assembly Option

namespace Assemble

/-- The next token; none at the end of the stream. -/
def peek : Assemble (Option Token) := return (← get).tokens.head?

/-- Passes the next token. -/
def pass : Assemble Unit := modify fun a => { a with tokens := a.tokens.tail }

/-- Marks the node to come with the number of its anchor. -/
def markOf (name : List Char) : Assemble Nat := do
  let a ← get
  let mark := a.marks.length
  set { a with marks := (name, mark) :: a.marks.filter (·.1 ≠ name) }
  return mark

/-- The node that an anchor name was last given to. -/
def referenceTo (name : List Char) : Assemble Node := do
  match (← get).marks.find? (·.1 = name) with
  | some (_, mark) => return .reference mark
  | none => failure

def tagOf (handle suffix : List Char) : Assemble String := do
  if handle.isEmpty then return String.ofList suffix
  else match (← get).prefixes.find? (·.1 = handle) with
    | some (_, text) => return String.ofList (text ++ suffix)
    | none => failure

def readAnchor : Assemble (Option Nat) := do
  match ← peek with
  | some (.anchor name) => pass; return some (← markOf name)
  | _ => return none

def readTag : Assemble (Option String) := do
  match ← peek with
  | some (.tag handle suffix) => pass; return some (← tagOf handle suffix)
  | _ => return none

/-- Anchor and tag of a node, in either order. -/
def readProperties : Assemble (Option Nat × Option String) := do
  match ← readAnchor with
  | some mark => return (some mark, ← readTag)
  | none =>
    let tag ← readTag
    if tag.isSome then return (← readAnchor, tag) else return (none, none)

/-- Passes this token, if it is the next one, and says whether it was. -/
def passes (t : Token) : Assemble Bool := do
  if (← peek) = some t then pass; return true else return false

def isNext (ts : List Token) : Assemble Bool := return (← peek).any ts.contains

/-- The node that a step reads, or the empty one if one of these tokens comes next. -/
def unlessNext (ends : List Token) (read : Assemble Node) : Assemble Node := do
  if ← isNext ends then return .empty else read

mutual

/-- A node. Block collections are only read where there may be one, and the items of a sequence that
is not indented only as the value of a key. The first argument bounds the depth and the number of
tokens. -/
def readNode : Nat → (block unindented : Bool) → Assemble Node
  | 0, _, _ => failure
  | n + 1, block, unindented => do
    match ← peek with
    | some (.alias name) => pass; referenceTo name
    | _ =>
      let (mark, tag) ← readProperties
      match ← peek, block, unindented with
      | some .blockEntry, _, true => return .sequence mark (← readUnindented n)
      | some (.scalar style text), _, _ =>
        pass
        return .scalar mark ⟨style, tag, String.ofList text⟩
      | some .flowSequence, _, _ => pass; return .sequence mark (← readFlowItems n true)
      | some .flowMapping, _, _ => pass; return .mapping mark (← readFlowEntries n true)
      | some .blockSequence, true, _ => pass; return .sequence mark (← readItems n)
      | some .blockMapping, true, _ => pass; return .mapping mark (← readEntries n)
      | _, _, _ =>
        if mark.isSome || tag.isSome then return .scalar mark ⟨.plain, tag, ""⟩ else failure

/-- The items of a block sequence, up to its end. -/
def readItems : Nat → Assemble (List Node)
  | 0 => failure
  | n + 1 => do
    if ← passes .blockEntry then
      let item ← unlessNext [.blockEntry, .blockEnd] (readNode n true false)
      return item :: (← readItems n)
    else if ← passes .blockEnd then return []
    else failure

/-- The items of a sequence that is not indented, as long as there are any. -/
def readUnindented : Nat → Assemble (List Node)
  | 0 => failure
  | n + 1 => do
    if ← passes .blockEntry then
      let item ← unlessNext [.blockEntry, .key, .value, .blockEnd] (readNode n true false)
      return item :: (← readUnindented n)
    else return []

/-- The keys and values of a block mapping, up to its end. -/
def readEntries : Nat → Assemble (List (Node × Node))
  | 0 => failure
  | n + 1 => do
    let ends := [Token.key, .value, .blockEnd]
    if ← passes .key then
      let k ← unlessNext ends (readNode n true true)
      let v ← if ← passes .value then unlessNext ends (readNode n true true) else pure .empty
      return (k, v) :: (← readEntries n)
    else if ← passes .blockEnd then return []
    else failure

/-- The items of a flow sequence, up to its end. An item may be a single key with its value; where its
key is not written, the token behind the question mark is passed over. -/
def readFlowItems : Nat → (first : Bool) → Assemble (List Node)
  | 0, _ => failure
  | n + 1, first => do
    let ends := [Token.flowEntry, .flowSequenceEnd]
    if ← passes .flowSequenceEnd then return []
    else
      if !first then
        if !(← passes .flowEntry) then failure
      if ← passes .flowSequenceEnd then return []
      else if ← passes .key then
        let k ← if ← isNext (.value :: ends) then pass; pure .empty else readNode n false false
        let v ← if ← passes .value then unlessNext ends (readNode n false false) else pure .empty
        return .mapping none [(k, v)] :: (← readFlowItems n false)
      else
        let item ← readNode n false false
        return item :: (← readFlowItems n false)

/-- The keys and values of a flow mapping, up to its end. -/
def readFlowEntries : Nat → (first : Bool) → Assemble (List (Node × Node))
  | 0, _ => failure
  | n + 1, first => do
    let ends := [Token.flowEntry, .flowMappingEnd]
    if ← passes .flowMappingEnd then return []
    else
      if !first then
        if !(← passes .flowEntry) then failure
      if ← passes .flowMappingEnd then return []
      else if ← passes .key then
        let k ← unlessNext (.value :: ends) (readNode n false false)
        let v ← if ← passes .value then unlessNext ends (readNode n false false) else pure .empty
        return (k, v) :: (← readFlowEntries n false)
      else
        let k ← readNode n false false
        return (k, .empty) :: (← readFlowEntries n false)

end

/-- A root node, read within the bound that the number of tokens gives. -/
def readRoot : Assemble Node := do readNode (4 * (← get).tokens.length + 8) true false

/-- The directives in front of a document: at most one version, which is 1.1 or 1.2, and at most one
text for each tag handle. Tells whether there are any. -/
def readDirectives : Nat → (versioned : Bool) → Assemble Bool
  | 0, _ => failure
  | n + 1, versioned => do
    match ← peek with
    | some (.version major minor) =>
      if versioned || major ≠ 1 || (minor ≠ 1 && minor ≠ 2) then failure
      pass
      let _ ← readDirectives n true
      return true
    | some (.tagPrefix handle text) =>
      let a ← get
      if a.prefixes.any (·.1 = handle) then failure
      set { a with tokens := a.tokens.tail, prefixes := (handle, text) :: a.prefixes }
      let _ ← readDirectives n versioned
      return true
    | _ => return false

/-- What the two shortest tag handles stand for if nothing else is said. -/
def standardPrefixes : List (List Char × List Char) :=
  [(['!'], ['!']), (['!', '!'], "tag:yaml.org,2002:".toList)]

/-- Passes the markers of the document's end. -/
def passEnds : Nat → Assemble Unit
  | 0 => return
  | n + 1 => do if ← passes .documentEnd then passEnds n

def readDocument : Assemble Node := do
  let count := (← get).tokens.length
  let directed ← readDirectives (count + 1) false
  modify fun a => { a with prefixes := a.prefixes ++ standardPrefixes }
  let root ←
    if ← passes .documentStart then
      match ← peek with
      | none | some .documentEnd | some .documentStart => pure .empty
      | some (.version _ _) | some (.tagPrefix _ _) => pure .empty
      | _ => readRoot
    else if directed then failure
    else if count = 0 then pure .empty
    else readRoot
  passEnds count
  if (← peek).isSome then failure
  return root

end Assemble

def Document.read? (s : String) : Option Document := do
  let tokens ← tokens? (← characters? s)
  let (root, _) ← Assemble.readDocument.run ⟨tokens, [], []⟩
  return .ofRoot root

end TurnTaking.Yaml
