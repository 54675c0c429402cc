import TurnTaking.Numeral.Digits
import TurnTaking.Text.Split

/-!
# Names of databases

A database is named by a path, or by `file:`, an optional authority, a path and options: `file:a.db`,
`file://localhost/tmp/a.db?mode=ro&immutable=1`. The path, the names and the values of options may hold
escaped bytes, `%41`; what follows `#` does not count. Options that are not known do not count either. An
empty path, `:memory:` and some options stand for a database that is not kept.

* `DatabaseName.ofText` — what a name stands for, or why it is none;
* `isTransient`, `isReadOnly` — what may be done with the database.
-/

namespace TurnTaking

namespace DatabaseName

/-- What may be done with a database file. -/
inductive Mode where
  | readOnly
  | readWrite
  /-- It may also be made. -/
  | create
  /-- There is no file. -/
  | memory
deriving DecidableEq, Repr, Inhabited

namespace Mode

def ofName? (s : String) : Option Mode :=
  if s = "ro" then some .readOnly
  else if s = "rw" then some .readWrite
  else if s = "rwc" then some .create
  else if s = "memory" then some .memory
  else none

/-- How much a mode allows. -/
def reach : Mode → Nat
  | .readOnly => 1
  | .readWrite => 2
  | .create => 6
  | .memory => 128

/-- Whether a mode may be replaced by another: by one that allows no more, and always by memory. -/
def yieldsTo (m next : Mode) : Bool := next = .memory || next.reach ≤ m.reach

end Mode

end DatabaseName

/-- What a name stands for. -/
structure DatabaseName where
  file : String
  mode : DatabaseName.Mode
  /-- By which means files are used. -/
  means : String
  /-- Nobody changes the file. -/
  immutable : Option Bool
  /-- The file is used without locks. -/
  nolock : Option Bool
  /-- What processes share about the file may only be read. -/
  sharesReadOnly : Option Bool
  /-- A file whose permissions a new one is given. -/
  pattern : Option String
deriving DecidableEq, Repr, Inhabited

namespace DatabaseName

def ofFile (file : String) : DatabaseName := ⟨file, .create, "unix", none, none, none, none⟩

/-! ### Escapes -/

/-- The bytes of a part. An escaped zero byte ends it. -/
def decode : List Char → List UInt8
  | '%' :: h :: l :: rest =>
    match Numeral.digitValue? 16 h, Numeral.digitValue? 16 l with
    | some high, some low =>
      if high = 0 && low = 0 then [] else UInt8.ofNat (16 * high + low) :: decode rest
    | _, _ => '%'.toUInt8 :: decode (h :: l :: rest)
  | c :: rest => (String.singleton c).toUTF8.toList ++ decode rest
  | [] => []

/-- The text of bytes. Where they are no text, those beyond ASCII are replaced. -/
def textOf (bytes : List UInt8) : String :=
  (String.fromUTF8? ⟨bytes.toArray⟩).getD <|
    String.ofList (bytes.map fun b => if b < 0x80 then Char.ofNat b.toNat else '\uFFFD')

def decoded (part : List Char) : String := textOf (decode part)

/-! ### Options -/

/-- Whether a value says yes: with a word, or with a number whose last eight bits are not all zero. -/
def saysYes (value : String) : Bool :=
  match value.toList with
  | [] => false
  | c :: rest =>
    if c.isDigit then
      let n := Numeral.decimalValue ((c :: rest).takeWhile Char.isDigit)
      n < 0x80000000 && n % 256 ≠ 0
    else ["on", "yes", "true"].contains (String.ofList ((c :: rest).map Char.toLower))

/-- The name with an option. Of options that say yes or no the first one counts, of others the last
one; every mode must be allowed by the one before. -/
def withOption (n : DatabaseName) (key value : String) : Except String DatabaseName :=
  let answer (known : Option Bool) : Option Bool := known.or (some (saysYes value))
  if key = "vfs" then .ok { n with means := value }
  else if key = "cache" then
    if ["shared", "private"].contains value then .ok n else .error s!"no such cache mode: {value}"
  else if key = "mode" then
    match Mode.ofName? value with
    | none => .error s!"no such access mode: {value}"
    | some m =>
      if n.mode.yieldsTo m then .ok { n with mode := m }
      else .error s!"access mode not allowed: {value}"
  else if key = "immutable" then .ok { n with immutable := answer n.immutable }
  else if key = "nolock" then .ok { n with nolock := answer n.nolock }
  else if key = "readonly_shm" then .ok { n with sharesReadOnly := answer n.sharesReadOnly }
  else if key = "modeof" then .ok { n with pattern := n.pattern.or (some value) }
  else .ok n

/-- The part before a mark, and the part behind it if there is one. -/
def cut (mark : Char) (cs : List Char) : List Char × Option (List Char) :=
  match cs.dropWhile (· ≠ mark) with
  | [] => (cs, none)
  | _ :: rest => (cs.takeWhile (· ≠ mark), some rest)

/-- The options of a query. One without a name does not count. -/
def options (query : List Char) : List (String × String) :=
  ((Text.partsBetween '&' query).map fun part =>
    let (key, value) := cut '=' part
    (decoded key, decoded (value.getD []))).filter fun o => o.1 ≠ ""

/-! ### Names -/

/-- What follows the authority, which must be empty or the machine itself. -/
def afterAuthority : List Char → Except String (List Char)
  | '/' :: '/' :: rest =>
    let authority := String.ofList (rest.takeWhile (· ≠ '/'))
    if authority = "" || authority = "localhost" then .ok (rest.dropWhile (· ≠ '/'))
    else .error s!"invalid uri authority: {authority}"
  | cs => .ok cs

/-- The means by which files can be used. -/
def knownMeans : List String := ["unix", "unix-none", "unix-dotfile", "unix-excl", "memdb"]

def ofReference (cs : List Char) : Except String DatabaseName := do
  let cs := (← afterAuthority cs).takeWhile (· ≠ '#')
  let (path, query) := cut '?' cs
  let n ← (options (query.getD [])).foldlM (fun n o => n.withOption o.1 o.2) (ofFile (decoded path))
  if knownMeans.contains n.means then return n else throw s!"no such vfs: {n.means}"

/-- What a name stands for, or why it is none. -/
def ofText (s : String) : Except String DatabaseName :=
  match s.toList with
  | 'f' :: 'i' :: 'l' :: 'e' :: ':' :: rest => ofReference rest
  | _ => .ok (ofFile s)

def isUnnamed (n : DatabaseName) : Bool := n.file = "" || n.file = ":memory:" || n.mode = .memory

def isTransient (n : DatabaseName) : Bool := n.isUnnamed || n.means = "memdb"

/-- Whether nobody may change the file. -/
def isImmutable (n : DatabaseName) : Bool := !n.isUnnamed && n.immutable = some true

def isReadOnly (n : DatabaseName) : Bool := n.mode = .readOnly || n.isImmutable

/-- Whether nothing about the file is shared with other processes. -/
def isUnshared (n : DatabaseName) : Bool :=
  n.nolock = some true || n.means = "unix-none" || n.means = "unix-dotfile"

end DatabaseName

end TurnTaking
