import TurnTaking.Numeral.Digits
import TurnTaking.Yaml.Character

/-!
# Scalars — reading

The text of a scalar, from the characters after its first indicator on, and what follows it. Lines of
plain and quoted scalars are folded: a single end of line between two parts stands for a space, and of
several the first one stands for nothing. Block scalars keep their lines, or fold those that do not
start with a blank.

* `readPlain`, `readSingle`, `readDouble`, `readBlock` — the scalars of each style.
-/

namespace TurnTaking.Yaml

/-! ### Folding -/

/-- Blanks and ends of lines between two parts of a scalar. -/
structure Spacing where
  /-- The blanks before the first end of line. -/
  blanks : List Char
  /-- The first end of line is escaped: it stands for nothing. -/
  escaped : Bool
  /-- The ends of lines that are not escaped. -/
  breaks : List Char
  /-- The number of blanks after the last end of line. -/
  column : Nat
deriving DecidableEq, Repr, Inhabited

namespace Spacing

def none : Spacing := ⟨[], false, [], 0⟩

def escapedBreak : Spacing := ⟨[], true, [], 0⟩

def broken (g : Spacing) : Bool := g.escaped || !g.breaks.isEmpty

def isNone (g : Spacing) : Bool := g.blanks.isEmpty && !g.broken

def startsLine (g : Spacing) : Bool := g.broken && g.column = 0

def blank (g : Spacing) (c : Char) : Spacing :=
  if g.broken then { g with column := g.column + 1 } else { g with blanks := g.blanks ++ [c] }

def newLine (g : Spacing) (c : Char) : Spacing := { g with breaks := g.breaks ++ [c], column := 0 }

def folded (g : Spacing) : List Char :=
  if g.escaped then g.breaks
  else match g.breaks with
    | [] => g.blanks
    | '\n' :: rest => if rest.isEmpty then [' '] else rest
    | breaks => breaks

end Spacing

/-! ### Plain scalars -/

/-- A plain scalar as it is read. -/
structure PlainScalar where
  text : List Char
  rest : List Char
  /-- A line ended between the text and the rest. -/
  broken : Bool
deriving Repr, Inhabited

/-- Whether a plain scalar ends before a character, which is no blank and no end of line. -/
def plainEnds (inFlow : Bool) (indent : Nat) (g : Spacing) (c : Char) (rest : List Char) : Bool :=
  (g.startsLine && atMarker (c :: rest)) ||
    (!g.isNone && c = '#') ||
    (!inFlow && g.broken && g.column < indent) ||
    (c = ':' && atGap rest) ||
    (inFlow && isFlowIndicator c)

/-- Whether a colon within a flow collection is followed by what must not follow it. -/
def colonMisplaced (c : Char) (rest : List Char) : Bool :=
  c = ':' && match rest with
    | next :: _ => isFlowIndicator next || next = '?'
    | [] => false

/-- A plain scalar, after what separates it from its last part read before. Its lines are indented by
at least `indent`, unless it is within a flow collection. -/
def readPlain (inFlow : Bool) (indent : Nat) (g : Spacing) : List Char → Option PlainScalar
  | [] => some ⟨[], [], g.broken⟩
  | c :: rest =>
    if isSpace c then
      if g.broken && g.column < indent && c = '\t' then none
      else readPlain inFlow indent (g.blank c) rest
    else if isBreak c then readPlain inFlow indent (g.newLine c) rest
    else if plainEnds inFlow indent g c rest then some ⟨[], c :: rest, g.broken⟩
    else if inFlow && colonMisplaced c rest then none
    else (readPlain inFlow indent .none rest).map fun p =>
      { p with text := g.folded ++ c :: p.text }

/-! ### Quoted scalars -/

/-- Puts characters before a text that was read. -/
def prepend (cs : List Char) (r : List Char × List Char) : List Char × List Char := (cs ++ r.1, r.2)

/-- A text up to its closing apostrophe; two of them stand for one. -/
def readSingle (g : Spacing) : List Char → Option (List Char × List Char)
  | [] => none
  | '\'' :: '\'' :: rest => (readSingle .none rest).map (prepend (g.folded ++ ['\'']))
  | '\'' :: rest => some (g.folded, rest)
  | c :: rest =>
    if isSpace c then readSingle (g.blank c) rest
    else if isBreak c then readSingle (g.newLine c) rest
    else if g.startsLine && atMarker (c :: rest) then none
    else (readSingle .none rest).map (prepend (g.folded ++ [c]))

/-- The character that a one-letter escape stands for. -/
def escaped? (c : Char) : Option Char :=
  match c with
  | '0' => some (Char.ofNat 0)
  | 'a' => some (Char.ofNat 7)
  | 'b' => some (Char.ofNat 8)
  | 't' => some '\t'
  | '\t' => some '\t'
  | 'n' => some '\n'
  | 'v' => some (Char.ofNat 11)
  | 'f' => some (Char.ofNat 12)
  | 'r' => some '\r'
  | 'e' => some (Char.ofNat 27)
  | ' ' => some ' '
  | '"' => some '"'
  | '/' => some '/'
  | '\\' => some '\\'
  | 'N' => some (Char.ofNat 0x85)
  | '_' => some (Char.ofNat 0xA0)
  | 'L' => some (Char.ofNat 0x2028)
  | 'P' => some (Char.ofNat 0x2029)
  | _ => none

/-- The character whose code point hexadecimal digits give. -/
def hexChar? (digits : List Char) : Option Char :=
  (Numeral.hexValue? digits).bind fun n => if n.isValidChar then some (Char.ofNat n) else none

/-- A text up to its closing quote. An escaped end of line is left out, with the blanks that follow
it. -/
def readDouble (g : Spacing) : List Char → Option (List Char × List Char)
  | [] => none
  | '"' :: rest => some (g.folded, rest)
  | '\\' :: 'x' :: a :: b :: rest => do
    let c ← hexChar? [a, b]
    (readDouble .none rest).map (prepend (g.folded ++ [c]))
  | '\\' :: 'u' :: a :: b :: c :: d :: rest => do
    let c ← hexChar? [a, b, c, d]
    (readDouble .none rest).map (prepend (g.folded ++ [c]))
  | '\\' :: 'U' :: a :: b :: c :: d :: e :: f :: h :: i :: rest => do
    let c ← hexChar? [a, b, c, d, e, f, h, i]
    (readDouble .none rest).map (prepend (g.folded ++ [c]))
  | '\\' :: c :: rest =>
    if isBreak c then (readDouble .escapedBreak rest).map (prepend g.folded)
    else do
      let c ← escaped? c
      (readDouble .none rest).map (prepend (g.folded ++ [c]))
  | c :: rest =>
    if isSpace c then readDouble (g.blank c) rest
    else if isBreak c then readDouble (g.newLine c) rest
    else if g.startsLine && atMarker (c :: rest) then none
    else if c = '\\' then none
    else (readDouble .none rest).map (prepend (g.folded ++ [c]))

/-! ### Block scalars -/

/-- What becomes of the ends of lines at the end of a block scalar. -/
inductive Chomping where
  /-- None is kept. -/
  | strip
  /-- The first one is kept. -/
  | clip
  /-- All are kept. -/
  | keep
deriving DecidableEq, Repr, Inhabited

/-- The sign that says how to end, if it comes first. -/
def readChomping : List Char → Option (Chomping × List Char)
  | '+' :: rest => some (.keep, rest)
  | '-' :: rest => some (.strip, rest)
  | _ => none

/-- The digit that says how much deeper the lines are indented, if it comes first; zero is no such
digit. -/
def readIncrement : List Char → Option (Option Nat × List Char)
  | c :: rest =>
    if c = '0' then none
    else if c.isDigit then some (some (c.toNat - '0'.toNat), rest)
    else some (none, c :: rest)
  | [] => some (none, [])

/-- Both signs of a header, in either order. -/
def readIndicators (cs : List Char) : Option (Chomping × Option Nat × List Char) :=
  match readChomping cs with
  | some (chomping, rest) => (readIncrement rest).map fun r => (chomping, r)
  | none => do
    let (increment, rest) ← readIncrement cs
    match increment, readChomping rest with
    | some _, some (chomping, rest) => return (chomping, increment, rest)
    | _, _ => return (.clip, increment, rest)

/-- What follows the blanks, the comment and the end of the line; anything else is refused. -/
def endLine (cs : List Char) : Option (List Char) :=
  let rest := match cs.dropWhile isSpace with
    | '#' :: rest => rest.dropWhile (! isBreak ·)
    | rest => rest
  match rest with
  | [] => some []
  | c :: rest => if isBreak c then some rest else none

/-- What separates the next line of a block scalar from its last one. -/
structure LineGap where
  /-- The end of the last line. -/
  ending : List Char
  /-- The ends of the empty lines after it. -/
  empties : List Char
  /-- The last line starts with a blank. -/
  afterBlank : Bool
deriving DecidableEq, Repr, Inhabited

namespace LineGap

/-- What it stands for before a line, of which is known whether it starts with a blank. -/
def joined (g : LineGap) (literal beforeBlank : Bool) : List Char :=
  if !literal && g.ending = ['\n'] && !g.afterBlank && !beforeBlank then
    if g.empties.isEmpty then [' '] else g.empties
  else g.ending ++ g.empties

def chomped (g : LineGap) : Chomping → List Char
  | .strip => []
  | .clip => g.ending
  | .keep => g.ending ++ g.empties

end LineGap

/-- Where in a block scalar a character stands. -/
inductive BlockPlace where
  /-- In front of a line, after so many spaces. -/
  | before (column : Nat) (gap : LineGap)
  /-- Within a line, of which is known whether it starts with a blank. -/
  | within (afterBlank : Bool)
deriving Repr, Inhabited

def readLines (literal : Bool) (chomping : Chomping) (indent : Nat) :
    BlockPlace → List Char → Option (List Char × List Char)
  | .before _ g, [] => some (g.chomped chomping, [])
  | .within _, [] => some ([], [])
  | .before column g, c :: rest =>
    if isBreak c then
      readLines literal chomping indent (.before 0 { g with empties := g.empties ++ [c] }) rest
    else if column < indent then
      if c = ' ' then readLines literal chomping indent (.before (column + 1) g) rest
      else if c = '\t' then none
      else some (g.chomped chomping, c :: rest)
    else
      (readLines literal chomping indent (.within (isSpace c)) rest).map
        (prepend (g.joined literal (isSpace c) ++ [c]))
  | .within afterBlank, c :: rest =>
    if isBreak c then readLines literal chomping indent (.before 0 ⟨[c], [], afterBlank⟩) rest
    else (readLines literal chomping indent (.within afterBlank) rest).map (prepend [c])

/-- The empty lines in front of a block scalar, the indentation of the line that follows them, the
largest indentation of all these lines, and what follows the spaces of the last one. -/
def readLeading (column widest : Nat) : List Char → Option (List Char × Nat × Nat × List Char)
  | [] => some ([], column, max widest column, [])
  | c :: rest =>
    if c = ' ' then readLeading (column + 1) widest rest
    else if c = '\t' then none
    else if isBreak c then
      (readLeading 0 (max widest column) rest).map fun (empties, r) => (c :: empties, r)
    else some ([], column, max widest column, c :: rest)

/-- A block scalar after its indicator, within a block that is indented by `outer` if there is one.
Where its header does not say how deep its lines are indented, the deepest of its first lines up to
the first that is not empty does. -/
def readBlock (literal : Bool) (outer : Option Nat) (cs : List Char) :
    Option (List Char × List Char) := do
  let (chomping, increment, rest) ← readIndicators cs
  let rest ← endLine rest
  match increment with
  | some increment =>
    readLines literal chomping (outer.getD 0 + increment) (.before 0 ⟨[], [], false⟩) rest
  | none =>
    let (empties, column, widest, rest) ← readLeading 0 0 rest
    let least := match outer with
      | some outer => outer + 1
      | none => 1
    readLines literal chomping (max widest least) (.before column ⟨[], empties, false⟩) rest

end TurnTaking.Yaml
