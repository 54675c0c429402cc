import TurnTaking.Numeral.Decimal
import TurnTaking.Numeral.Integer
import TurnTaking.Yaml.Basic

/-!
# Typed readings of YAML nodes

Each reading says which nodes stand for a value of a type. Only a plain scalar stands for a number or a
truth value, or a literal one that is tagged as what is read; every scalar stands for text. An empty
plain scalar stands for an empty list, and for a structure of which no field is given. A structure is
read from a mapping, whose unknown keys are ignored and whose known keys occur once.
-/

namespace TurnTaking.Yaml

namespace Scalar

/-- The full text of one of the tags that the format itself knows. -/
def standardTag (name : String) : String := "tag:yaml.org,2002:" ++ name

/-- Whether the scalar may stand for something that is no text, and is called by this tag. -/
def isOpenTo (s : Scalar) (name : String) : Bool :=
  s.style = .plain || (s.style = .literal && s.tag = some (standardTag name))

def isBlank (s : Scalar) : Bool := s.style = .plain && s.text.isEmpty

/-- Whether a text stands for the missing value. -/
def isNull (text : String) : Bool := ["null", "Null", "NULL", "~"].contains text

end Scalar

/-- The digits after a base mark, where the text starts with the mark. -/
def afterMark? (mark : List Char) (cs : List Char) : Option (List Char) :=
  if mark.isPrefixOf cs then some (cs.drop mark.length) else none

/-- An integer in one of the bases that have a mark. A sign stands in front of the mark. -/
def markedInteger? (low high : Int) (cs : List Char) : Option Int :=
  let bases := [(16, 'x'), (8, 'o'), (2, 'b')]
  let unsigned := match cs with
    | '+' :: rest => rest
    | cs => cs
  bases.firstM fun (base, letter) =>
    match afterMark? ['0', letter] unsigned with
    | some ('+' :: _) => none
    | some ('-' :: _) => none
    | some digits => (Numeral.readInBase base low high digits).toOption
    | none => do
      let digits ← afterMark? ['-', '0', letter] cs
      (Numeral.readInBase base low high ('-' :: digits)).toOption

/-- Whether digits start with a zero that does not belong there. -/
def isPadded (cs : List Char) : Bool :=
  let digits := match cs with
    | '+' :: rest => rest
    | '-' :: rest => rest
    | cs => cs
  digits.length > 1 && digits.head? = some '0' && digits.all Char.isDigit

/-- A decimal integer, with a plus sign in front of it if wanted. -/
def decimalInteger? (low high : Int) (cs : List Char) : Option Int :=
  if isPadded cs then none
  else match cs with
    | '+' :: '+' :: _ => none
    | '+' :: '-' :: _ => none
    | '+' :: digits => (Numeral.readInBase 10 low high digits).toOption
    | cs => (Numeral.readInBase 10 low high cs).toOption

/-- The integer between two bounds that a plain text stands for. -/
def plainInteger? (low high : Int) (text : String) : Option Int :=
  let cs := text.toList
  (markedInteger? low high cs).orElse fun _ => decimalInteger? low high cs

/-- The number that a plain text stands for. Infinity and what is no number have spellings of their
own. -/
def plainDecimal? (text : String) : Option Float :=
  let unsigned := match text.toList with
    | '+' :: rest => rest
    | cs => cs
  if [".inf", ".Inf", ".INF"].contains (String.ofList unsigned) then some Numeral.infinity
  else if ["-.inf", "-.Inf", "-.INF"].contains text then some (-Numeral.infinity)
  else if [".nan", ".NaN", ".NAN"].contains text then some Numeral.notANumber
  else match text.toList with
    | '+' :: '+' :: _ => none
    | '+' :: '-' :: _ => none
    | _ => (Numeral.readDecimalChars? unsigned).filter Float.isFinite

/-- The truth value that a plain text stands for. -/
def plainTruth? (text : String) : Option Bool :=
  if ["true", "True", "TRUE"].contains text then some true
  else if ["false", "False", "FALSE"].contains text then some false
  else none

namespace Document

variable (d : Document)

def asScalar? (n : Node) : Option Scalar :=
  match d.resolve n with
  | .scalar _ s => some s
  | _ => none

def asText? (n : Node) : Option String := (d.asScalar? n).map (·.text)

def asOptionalText? (n : Node) : Option (Option String) := do
  let s ← d.asScalar? n
  if s.style = .plain then
    match s.tag with
    | none => return if s.text.isEmpty || Scalar.isNull s.text then none else some s.text
    | some tag =>
      if tag ≠ Scalar.standardTag "null" then return some s.text
      else if Scalar.isNull s.text then return none
      else failure
  else return some s.text

/-- An integer between two bounds. -/
def asIntWithin? (low high : Int) (n : Node) : Option Int := do
  let s ← (d.asScalar? n).filter (·.isOpenTo "int")
  plainInteger? low high s.text

def asDecimal? (n : Node) : Option Float := do
  let s ← (d.asScalar? n).filter (·.isOpenTo "float")
  plainDecimal? s.text

def asTruth? (n : Node) : Option Bool := do
  let s ← (d.asScalar? n).filter (·.isOpenTo "bool")
  plainTruth? s.text

def asList? {α : Type} (f : Node → Option α) (n : Node) : Option (List α) :=
  match d.resolve n with
  | .sequence _ items => items.mapM f
  | .scalar _ s => if s.isBlank then some [] else none
  | _ => none

/-- The given fields of a structure with these field names. -/
def fields? (names : List String) (n : Node) : Option (String → Option Node) :=
  match d.resolve n with
  | .mapping _ entries => do
    let keyed ← entries.mapM fun e => (d.asText? e.1).map (·, e.2)
    let known := keyed.filter fun e => names.contains e.1
    if (known.map Prod.fst).Nodup then
      return fun name => (known.find? (·.1 = name)).map Prod.snd
    else none
  | .scalar _ s => if s.isBlank then some fun _ => none else none
  | _ => none

end Document

end TurnTaking.Yaml
