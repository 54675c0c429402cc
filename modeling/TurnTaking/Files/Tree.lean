import TurnTaking.Files.Fault
import TurnTaking.Files.Path
import TurnTaking.Store.Tables

/-!
# File trees

Folders, text files and databases below one root, seen from a current folder.

* `read` — the text of a file;
* `makeFolders` — makes a folder with all folders around it;
* `touch` — makes an empty file.
-/

namespace TurnTaking

/-- What is found at a place. -/
inductive FileEntry where
  | folder
  | text (content : String)
  | database (tables : Store.Tables)
  /-- Something that takes what is written and holds nothing. -/
  | sink
deriving Repr, Inhabited

/-- A file tree. -/
structure Files where
  /-- The current folder, by the names on the way from the root. -/
  current : List String
  /-- All places but the root. -/
  entries : List (List String × FileEntry)
deriving Repr, Inhabited

namespace Files

def entry? (t : Files) (place : List String) : Option FileEntry :=
  if place.isEmpty then some .folder else (t.entries.find? (·.1 = place)).map Prod.snd

/-- The tree with something else at a place. -/
def put (t : Files) (place : List String) (e : FileEntry) : Files :=
  { t with entries := (place, e) :: t.entries.filter (·.1 ≠ place) }

/-- The tree with a folder at a place, and folders around it. -/
def withFolder (t : Files) (place : List String) : Files :=
  (List.range place.length).foldl (fun t n => t.put (place.take (n + 1)) .folder) t

/-- A tree with only the current folder, and folders around it. -/
def emptyAt (current : List String) : Files := withFolder ⟨current, []⟩ current

/-- The tree with a file at a place, and folders around it. -/
def withFile (t : Files) (place : List String) (e : FileEntry) : Files :=
  (t.withFolder place.dropLast).put place e

def isFolder (t : Files) (place : List String) : Bool :=
  match t.entry? place with
  | some .folder => true
  | _ => false

/-- The place where parts lead from a place; all but the last one lead through folders. -/
def walk (t : Files) (place : List String) : List String → Except FileFault (List String)
  | [] => .ok place
  | part :: rest =>
    match t.entry? place with
    | none => .error .notFound
    | some .folder =>
      if Path.longestName < part.utf8ByteSize then .error .nameTooLong
      else walk t (if part = ".." then place.dropLast else place ++ [part]) rest
    | some _ => .error .notFolder

def placeOf (t : Files) (p : Path) : Except FileFault (List String) :=
  t.walk (if p.absolute then [] else t.current) p.parts

/-- The place where the text of a path leads. -/
def placeOfText (t : Files) (path : String) : Except FileFault (List String) := do
  if Path.hasZero path then throw .zeroInName
  if Path.isTooLong path then throw .nameTooLong
  if path.isEmpty then throw .notFound
  let place ← t.placeOf (.ofText path)
  if Path.endsInFolder path && (t.entry? place).isSome && !t.isFolder place then throw .notFolder
  return place

def hasFolder (t : Files) (p : Path) : Bool :=
  match t.placeOf p with
  | .error _ => false
  | .ok place => t.isFolder place

def read (t : Files) (path : String) : Except FileFault String := do
  match t.entry? (← t.placeOfText path) with
  | none => throw .notFound
  | some .folder => throw .isFolder
  | some (.text s) => return s
  | some .sink => return ""
  | some (.database _) => throw .notText

def makeFolder (t : Files) (p : Path) : Except FileFault Files := do
  let place ← t.placeOf p
  if (t.entry? place).isSome then throw .alreadyThere else return t.put place .folder

/-- Makes the folder with these parts, the last one first, and all folders around it. -/
def makeParts (t : Files) (absolute : Bool) : List String → Except FileFault Files
  | [] => .ok t
  | last :: before => do
    let p : Path := ⟨absolute, (last :: before).reverse⟩
    let orThere (t : Files) (made : Except FileFault Files) : Except FileFault Files :=
      match made with
      | .ok t => .ok t
      | .error f => if t.hasFolder p then .ok t else .error f
    match t.makeFolder p with
    | .error .notFound =>
      let t ← makeParts t absolute before
      orThere t (t.makeFolder p)
    | made => orThere t made

/-- Makes a folder and all folders around it, as far as they are not there. -/
def makeFolders (t : Files) (path : String) : Except FileFault Files := do
  if Path.hasZero path then throw .zeroInName
  if Path.isTooLong path then throw .nameTooLong
  let p := Path.ofText path
  t.makeParts p.absolute p.parts.reverse

def touch (t : Files) (path : String) : Except FileFault Files := do
  let place ← t.placeOfText path
  match t.entry? place with
  | none => if Path.endsInFolder path then throw .isFolder else return t.put place (.text "")
  | some .folder => throw .isFolder
  | some _ => return t

end Files

end TurnTaking
