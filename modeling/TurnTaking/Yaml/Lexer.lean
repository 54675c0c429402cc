import TurnTaking.Yaml.Scalar
import TurnTaking.Yaml.Token

/-!
# Tokens — reading

A stream is read token by token. Indentation opens and closes block collections. Whether a scalar, a
collection or an anchor is the key of a mapping shows only at the colon behind it: it is remembered as
a candidate, and the tokens that a key needs are put in front of it afterwards. A key stands on one line
and has at most 1024 characters.

* `tokens?` — the tokens of a stream.
-/

namespace TurnTaking.Yaml

/-! ### Positions -/

/-- What is left of a stream, and where it starts: how many characters come before it, in which line,
and how many of them in that line. -/
structure Cursor where
  rest : List Char
  index : Nat
  line : Nat
  column : Nat
deriving Repr, Inhabited

namespace Cursor

/-- The cursor past so many characters. -/
def skip (c : Cursor) : Nat → Cursor
  | 0 => c
  | n + 1 =>
    match c.rest with
    | [] => c
    | a :: rest =>
      (if isBreak a then (⟨rest, c.index + 1, c.line + 1, 0⟩ : Cursor)
        else ⟨rest, c.index + 1, c.line, c.column + 1⟩).skip n

/-- The cursor at a later place, which has this rest. -/
def goTo (c : Cursor) (rest : List Char) : Cursor := c.skip (c.rest.length - rest.length)

end Cursor

/-! ### Lexers -/

/-- A place where a key may have started. -/
structure Candidate where
  /-- The number of tokens before it. -/
  place : Nat
  index : Nat
  line : Nat
  column : Nat
  /-- It can be nothing but a key. -/
  required : Bool
deriving Repr, Inhabited

/-- A key that was found. -/
structure KeyStart where
  /-- The number of tokens before it. -/
  place : Nat
  /-- A mapping starts with it. -/
  opensMapping : Bool
deriving Repr, Inhabited

/-- A lexer in the midst of a stream. -/
structure Lexer where
  cursor : Cursor
  /-- The tokens so far, without those that keys need in front of them. -/
  tokens : Array Token
  keys : List KeyStart
  /-- The column of the innermost block collection, if there is one. -/
  indent : Option Nat
  /-- The columns of the block collections around it, the innermost first. -/
  outer : List Nat
  /-- The candidate of the innermost flow collection, or of the block. -/
  candidate : Option Candidate
  /-- The candidates around the innermost flow collection, the innermost first. -/
  around : List (Option Candidate)
  /-- A key may start here. -/
  keyAllowed : Bool
deriving Repr, Inhabited

namespace Lexer

def start (cs : List Char) : Lexer := ⟨⟨cs, 0, 0, 0⟩, #[], [], none, [], none, [], true⟩

/-- Whether the place is within a flow collection. -/
def inFlow (l : Lexer) : Bool := !l.around.isEmpty

/-- One more token, after which a later place is reached. -/
def push (l : Lexer) (t : Token) (rest : List Char) : Lexer :=
  { l with tokens := l.tokens.push t, cursor := l.cursor.goTo rest }

/-- One more token, of which no character is left to read. -/
def emit (l : Lexer) (t : Token) : Lexer := { l with tokens := l.tokens.push t }

/-- Whether a column is deeper than the innermost block collection. -/
def isDeeper (l : Lexer) (column : Nat) : Bool :=
  match l.indent with
  | none => true
  | some indent => indent < column

/-- The place behind blanks, comments and empty lines, and behind the byte order mark of a line. Outside
of flow collections a key may start on a new line, and no tab may stand where one may start. -/
def skipGaps : Nat → Lexer → Lexer
  | 0, l => l
  | fuel + 1, l =>
    let tabsToo := l.inFlow || !l.keyAllowed
    let rest := match l.cursor.rest with
      | c :: rest => if l.cursor.column = 0 && c = byteOrderMark then rest else c :: rest
      | [] => []
    let rest := match rest.dropWhile fun c => c = ' ' || (tabsToo && c = '\t') with
      | '#' :: rest => rest.dropWhile (! isBreak ·)
      | rest => rest
    match rest with
    | [] => { l with cursor := l.cursor.goTo [] }
    | c :: after =>
      if isBreak c then
        skipGaps fuel { l with
          cursor := l.cursor.goTo after, keyAllowed := l.keyAllowed || !l.inFlow }
      else { l with cursor := l.cursor.goTo (c :: after) }

/-- The candidate, if it may still become a key at this place; fails if it had to become one. -/
def keepCandidate (l : Lexer) : Option Candidate → Option (Option Candidate)
  | none => some none
  | some k =>
    if k.line < l.cursor.line || k.index + 1024 < l.cursor.index then
      if k.required then none else some none
    else some (some k)

/-- Forgets the candidates that can no longer become keys. -/
def dropStale (l : Lexer) : Option Lexer := do
  return { l with
    candidate := ← l.keepCandidate l.candidate
    around := ← l.around.mapM l.keepCandidate }

/-- Forgets the innermost candidate; fails if it had to become a key. -/
def dropCandidate (l : Lexer) : Option Lexer :=
  if l.candidate.any (·.required) then none else some { l with candidate := none }

/-- Remembers this place as a candidate, where a key may start. -/
def markCandidate (l : Lexer) : Option Lexer :=
  if l.keyAllowed then do
    let l ← l.dropCandidate
    let c := l.cursor
    -- At the column of an open block mapping there can only be its next key.
    let required := !l.inFlow && l.indent = some c.column
    return { l with candidate := some ⟨l.tokens.size, c.index, c.line, c.column, required⟩ }
  else some l

/-- Closes the block collections that are deeper than `column`, or all. -/
def closeBlocks (column : Option Nat) : Nat → Lexer → Lexer
  | 0, l => l
  | fuel + 1, l =>
    match l.indent with
    | none => l
    | some indent =>
      if l.inFlow || column.any (indent ≤ ·) then l
      else closeBlocks column fuel
        { l.emit .blockEnd with indent := l.outer.head?, outer := l.outer.tail }

/-- Closes the block collections that are deeper than `column`, or all. -/
def closeTo (l : Lexer) (column : Option Nat) : Lexer := closeBlocks column (l.outer.length + 1) l

/-- Makes a column that of the innermost block collection. -/
def enter (l : Lexer) (column : Nat) : Lexer :=
  { l with indent := some column, outer := l.indent.toList ++ l.outer }

/-- Opens a block collection here, if this is deeper than the innermost one. -/
def openBlock (l : Lexer) (t : Token) : Lexer :=
  if !l.inFlow && l.isDeeper l.cursor.column then (l.emit t).enter l.cursor.column else l

/-- One of the two numbers of a version, of nine digits at most. -/
def readVersionNumber (cs : List Char) : Option (Nat × List Char) :=
  let digits := cs.takeWhile Char.isDigit
  if digits.isEmpty || 9 < digits.length then none
  else some (Numeral.decimalValue digits, cs.dropWhile Char.isDigit)

/-- The characters that may stand in a tag; some only between its angle brackets. -/
def isTagChar (bracketed : Bool) (c : Char) : Bool :=
  isNameChar c ||
    [';', '/', '?', ':', '@', '&', '=', '+', '$', '.', '!', '~', '*', '\'', '(', ')'].contains c ||
    (bracketed && [',', '[', ']'].contains c)

def octet? (a b : Char) : Option Nat := Numeral.hexValue? [a, b]

/-- So many octets after the first one of a character, as the code point that they complete. -/
def readOctets : Nat → Nat → List Char → Option (Nat × List Char)
  | 0, n, rest => some (n, rest)
  | more + 1, n, '%' :: a :: b :: rest => do
    let o ← octet? a b
    if o / 64 = 2 then readOctets more (64 * n + o % 64) rest else none
  | _ + 1, _, _ => none

/-- The character that escaped octets give, after the first percent sign. -/
def readEscape : List Char → Option (Char × List Char)
  | a :: b :: rest => do
    let o ← octet? a b
    let (n, rest) ←
      if o < 128 then some (o, rest)
      else if o / 32 = 6 then readOctets 1 (o % 32) rest
      else if o / 16 = 14 then readOctets 2 (o % 16) rest
      else if o / 8 = 30 then readOctets 3 (o % 8) rest
      else none
    return (Char.ofNat n, rest)
  | _ => none

def readTagText (bracketed : Bool) : Nat → List Char → Option (List Char × List Char)
  | 0, _ => none
  | _ + 1, [] => some ([], [])
  | fuel + 1, c :: rest =>
    if c = '%' then do
      let (c, rest) ← readEscape rest
      (readTagText bracketed fuel rest).map (prepend [c])
    else if isTagChar bracketed c then (readTagText bracketed fuel rest).map (prepend [c])
    else some ([], c :: rest)

def readTagText1 (bracketed : Bool) (cs : List Char) : Option (List Char × List Char) :=
  (readTagText bracketed (cs.length + 1) cs).filter fun r => !r.1.isEmpty

/-- An exclamation mark with the name after it, and with a second mark if there is one. -/
def readHandle : List Char → Option (List Char × List Char)
  | '!' :: rest =>
    let name := rest.takeWhile isNameChar
    match rest.dropWhile isNameChar with
    | '!' :: rest => some ('!' :: name ++ ['!'], rest)
    | rest => some ('!' :: name, rest)
  | _ => none

/-- A directive, after its percent sign. -/
def readDirective (cs : List Char) : Option (Token × List Char) := do
  let name := cs.takeWhile isNameChar
  let rest := cs.dropWhile isNameChar
  let (t, rest) ←
    if !atGap rest then none
    else if name = ['Y', 'A', 'M', 'L'] then do
      let (major, rest) ← readVersionNumber (rest.dropWhile isSpace)
      match rest with
      | '.' :: rest =>
        let (minor, rest) ← readVersionNumber rest
        return (.version major minor, rest)
      | _ => none
    else if name = ['T', 'A', 'G'] then do
      let (handle, rest) ← readHandle (rest.dropWhile isSpace)
      let complete := handle = ['!'] || (1 < handle.length && handle.getLast? = some '!')
      if !complete || rest.isEmpty || !startsWith isSpace rest then none
      else do
        let (text, rest) ← readTagText1 true (rest.dropWhile isSpace)
        if atGap rest then return (.tagPrefix handle text, rest) else none
    else none
  return (t, ← endLine rest)

/-- The name of an anchor or alias, of which there must be a character. -/
def readAnchorName (cs : List Char) : Option (List Char × List Char) :=
  let name := cs.takeWhile isNameChar
  let rest := cs.dropWhile isNameChar
  if name.isEmpty ||
      !(atGap rest || startsWith ['?', ':', ',', ']', '\x7d', '%', '@', '\x60'].contains rest)
  then none else some (name, rest)

/-- A tag, after its exclamation mark: a full one between angle brackets, or one with a handle. -/
def readTag (inFlow : Bool) (cs : List Char) : Option (Token × List Char) := do
  let (t, rest) ← match cs with
    | '<' :: rest => do
      let (text, rest) ← readTagText1 true rest
      match rest with
      | '>' :: rest => some (Token.tag [] text, rest)
      | _ => none
    | _ => do
      let (handle, rest) ← readHandle ('!' :: cs)
      if 1 < handle.length && handle.getLast? = some '!' then
        let (text, rest) ← readTagText1 false rest
        some (Token.tag handle text, rest)
      else
        let (more, rest) ← readTagText false (rest.length + 1) rest
        let text := handle.drop 1 ++ more
        some (if text.isEmpty then Token.tag [] ['!'] else Token.tag ['!'] text, rest)
  if atGap rest || (inFlow && rest.head? = some ',') then return (t, rest) else none

/-! ### Tokens -/

/-- A directive or the marker of a document's start or end: all blocks end before it. -/
def atMargin (l : Lexer) : Option Lexer := do
  return { ← (l.closeTo none).dropCandidate with keyAllowed := false }

def openFlow (l : Lexer) (t : Token) (rest : List Char) : Option Lexer := do
  let l ← l.markCandidate
  return { l.push t rest with
    candidate := none, around := l.candidate :: l.around, keyAllowed := true }

def closeFlow (l : Lexer) (t : Token) (rest : List Char) : Option Lexer := do
  let l ← l.dropCandidate
  return { l.push t rest with
    candidate := l.around.head?.join, around := l.around.tail, keyAllowed := false }

/-- The indicator of an item of a block sequence or of a key. -/
def openEntry (l : Lexer) (opening t : Token) (rest : List Char) : Option Lexer := do
  if !l.inFlow && !l.keyAllowed then none
  else
    let l ← (l.openBlock opening).dropCandidate
    return { l.push t rest with keyAllowed := !l.inFlow || t = .blockEntry }

/-- The colon behind a key, or behind nothing. -/
def readValue (l : Lexer) (rest : List Char) : Option Lexer :=
  match l.candidate with
  | some k =>
    -- The first key of a mapping opens it, at the column where the key starts.
    let opens := !l.inFlow && l.isDeeper k.column
    let l := if opens then l.enter k.column else l
    some { l.push .value rest with
      keys := l.keys ++ [⟨k.place, opens⟩], candidate := none, keyAllowed := false }
  | none =>
    if !l.inFlow && !l.keyAllowed then none
    else
      let l := l.openBlock .blockMapping
      some { l.push .value rest with keyAllowed := !l.inFlow }

def readAtom (l : Lexer) (read : Option (Token × List Char)) : Option Lexer := do
  let l ← l.markCandidate
  let (t, rest) ← read
  return { l.push t rest with keyAllowed := false }

def readBlockScalar (l : Lexer) (style : Style) (rest : List Char) : Option Lexer := do
  let l ← l.dropCandidate
  let (text, rest) ← readBlock (style = .literal) l.indent rest
  return { l.push (.scalar style text) rest with keyAllowed := true }

/-- A plain scalar. After the end of its line a key may start. -/
def readPlainScalar (l : Lexer) : Option Lexer := do
  let l ← l.markCandidate
  let indent := match l.indent with
    | some indent => indent + 1
    | none => 0
  let p ← readPlain l.inFlow indent .none l.cursor.rest
  return { l.push (.scalar .plain p.text) p.rest with keyAllowed := p.broken }

/-- Whether a plain scalar can start with a character. -/
def startsPlain (inFlow : Bool) (c : Char) (rest : List Char) : Bool :=
  let isIndicator := ['-', '?', ':', ',', '[', ']', '\x7b', '\x7d', '#', '&', '*', '!', '|', '>', '\'',
    '"', '%', '@', '\x60'].contains c
  (!isSpace c && !isBreak c && !isIndicator) ||
    (c = '-' && !(rest.head?.any isSpace)) ||
    (!inFlow && (c = '?' || c = ':') && !atGap rest)

def readToken (l : Lexer) (c : Char) (rest : List Char) : Option Lexer :=
  let here := l.cursor.rest
  if l.cursor.column = 0 && c = '%' then do
    let l ← l.atMargin
    let (t, rest) ← readDirective rest
    return l.push t rest
  else if l.cursor.column = 0 && atMarker here then do
    let l ← l.atMargin
    return l.push (if c = '-' then .documentStart else .documentEnd) (here.drop 3)
  else if c = '[' then l.openFlow .flowSequence rest
  else if c = '\x7b' then l.openFlow .flowMapping rest
  else if c = ']' then l.closeFlow .flowSequenceEnd rest
  else if c = '\x7d' then l.closeFlow .flowMappingEnd rest
  else if c = ',' then do
    return { (← l.dropCandidate).push .flowEntry rest with keyAllowed := true }
  else if c = '-' && atGap rest then l.openEntry .blockSequence .blockEntry rest
  else if c = '?' && (l.inFlow || atGap rest) then l.openEntry .blockMapping .key rest
  else if c = ':' && (l.inFlow || atGap rest) then l.readValue rest
  else if c = '*' then l.readAtom ((readAnchorName rest).map fun r => (Token.alias r.1, r.2))
  else if c = '&' then l.readAtom ((readAnchorName rest).map fun r => (Token.anchor r.1, r.2))
  else if c = '!' then l.readAtom (readTag l.inFlow rest)
  else if c = '|' && !l.inFlow then l.readBlockScalar .literal rest
  else if c = '>' && !l.inFlow then l.readBlockScalar .folded rest
  else if c = '\'' then
    l.readAtom ((readSingle .none rest).map fun r => (Token.scalar .quoted r.1, r.2))
  else if c = '"' then
    l.readAtom ((readDouble .none rest).map fun r => (Token.scalar .quoted r.1, r.2))
  else if startsPlain l.inFlow c rest then l.readPlainScalar
  else none

/-- The place of the next token, with the block collections closed that end before it. -/
def toToken (l : Lexer) : Option Lexer := do
  let l ← (skipGaps (l.cursor.rest.length + 1) l).dropStale
  return l.closeTo (some l.cursor.column)

/-- Reads to the end of the stream. Each token takes a character. -/
def run : Nat → Lexer → Option Lexer
  | 0, _ => none
  | fuel + 1, l => do
    let l ← l.toToken
    match l.cursor.rest with
    | [] => (l.closeTo none).dropCandidate
    | c :: rest => run fuel (← l.readToken c rest)

/-- Puts the tokens that keys need in front of them; `place` tokens come before. -/
def withKeys (keys : List KeyStart) : Nat → List Token → List Token
  | _, [] => []
  | place, t :: rest =>
    let front := match keys.find? (·.place = place) with
      | none => []
      | some k => if k.opensMapping then [Token.blockMapping, .key] else [.key]
    front ++ t :: withKeys keys (place + 1) rest

end Lexer

def tokens? (cs : List Char) : Option (List Token) :=
  (Lexer.run (cs.length + 1) (.start cs)).map fun l => Lexer.withKeys l.keys 0 l.tokens.toList

end TurnTaking.Yaml
