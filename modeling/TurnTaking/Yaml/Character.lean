/-!
# Characters of a YAML stream

Which characters may stand in a stream, and the classes that its format tells apart. A line ends with a
line feed, a carriage return, both, or a next-line character, which are all read as a line feed, or with
a line or paragraph separator, which is kept.

* `characters?` — the characters of a text that is a stream.
-/

namespace TurnTaking.Yaml

/-- The mark that may stand at the start of a line. -/
def byteOrderMark : Char := Char.ofNat 0xFEFF

/-- Characters that may stand in a stream: all but control characters and two code points that are no
characters. -/
def isAllowed (c : Char) : Bool :=
  let n := c.toNat
  n = 0x09 || n = 0x0A || n = 0x0D || (0x20 ≤ n && n ≤ 0x7E) || n = 0x85 ||
    (0xA0 ≤ n && n ≤ 0xD7FF) || (0xE000 ≤ n && n ≤ 0xFFFD) || 0x10000 ≤ n

def isSpace (c : Char) : Bool := c = ' ' || c = '\t'

def nextLine : Char := Char.ofNat 0x85

/-- Ends of lines that are kept as they are. -/
def isSeparator (c : Char) : Bool := c.toNat = 0x2028 || c.toNat = 0x2029

def isBreak (c : Char) : Bool := c = '\n' || isSeparator c

/-- Characters of names: of anchors, tag handles and directives. -/
def isNameChar (c : Char) : Bool := c.isAlphanum || c = '_' || c = '-'

/-- The characters that delimit collections within lines. -/
def isFlowIndicator (c : Char) : Bool := c = ',' || c = '[' || c = ']' || c = '\x7b' || c = '\x7d'

/-- The characters with every end of line that is no separator as a line feed. -/
def unifyBreaks : List Char → List Char
  | [] => []
  | '\r' :: '\n' :: rest => '\n' :: unifyBreaks rest
  | c :: rest => (if c = '\r' || c = nextLine then '\n' else c) :: unifyBreaks rest

def startsWith (class? : Char → Bool) : List Char → Bool
  | [] => true
  | c :: _ => class? c

/-- Whether a space, a tab, an end of line or the end of the stream comes next. -/
def atGap (cs : List Char) : Bool := startsWith (fun c => isSpace c || isBreak c) cs

/-- Whether an end of line or the end of the stream comes next. -/
def atLineEnd (cs : List Char) : Bool := startsWith isBreak cs

/-- Whether the marker of a document's start or end comes next. -/
def atMarker : List Char → Bool
  | '-' :: '-' :: '-' :: rest => atGap rest
  | '.' :: '.' :: '.' :: rest => atGap rest
  | _ => false

/-- The characters of a stream, with a line feed for every end of line that is no separator. -/
def characters? (s : String) : Option (List Char) :=
  if s.toList.all isAllowed then some (unifyBreaks s.toList) else none

end TurnTaking.Yaml
