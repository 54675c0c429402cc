import TurnTaking.Files.DatabaseName
import TurnTaking.Files.Tree
import TurnTaking.Store.Access
import TurnTaking.Text.Quoted

/-!
# Database files

A database is opened by its name. The folders around it are made if they are not there, as they are
written in the name; the file is then looked for where the name leads, where `..` takes a part of the
name back, whether that is there or not. An empty file is a database without tables, and missing
tables are put in place.

* `DatabaseName.storeIn` — the store in what is found at the place of a file;
* `Files.openDatabase` — the store in a database of a file tree;
* `Files.saveDatabase` — a file tree with other tables in a database.
-/

namespace TurnTaking

/-- What is at the place of a database file. -/
inductive DatabaseFile where
  | nothing
  | folder
  /-- A file without content, or with so little that it counts as none. -/
  | empty
  /-- Something that takes what is written and holds nothing. -/
  | sink
  /-- Something that is no database. -/
  | foreign
  | tables (t : Store.Tables)
deriving Repr, Inhabited

/-! ### What the database says -/

/-- A database cannot be opened, for a reason of its own. -/
def refusedBecause (reason : String) : Fault := .statement (.refused reason)

/-- The database cannot be opened by this name. -/
def cannotOpen (path : String) : Fault := refusedBecause s!"unable to open database file: {path}"

def cannotOpenBeside : Fault := refusedBecause "unable to open database file"

/-- The file holds something else. -/
def notDatabase : Fault := refusedBecause "file is not a database"

/-- The file cannot be read or written. -/
def unusable : Fault := refusedBecause "disk I/O error"

namespace DatabaseName

/-- The store in a database that is not kept. Without its tables it is of no use, so that it must be
writable. -/
def transientStore (n : DatabaseName) : Except Fault Store :=
  if n.isReadOnly then .error (.statement Store.Access.notWritable) else .ok .new

/-- The bytes that the name of a file has at least, if one of the files beside it would be named by too
many. -/
def longName : Nat := Path.longestName - "-journal".length + 1

/-- The store in a file without content. -/
def freshStore (n : DatabaseName) (size : Nat) : Except Fault Store :=
  if n.isReadOnly then .error (.statement Store.Access.notWritable)
  else if longName ≤ size || (n.sharesReadOnly = some true && !n.isUnshared) then
    .error cannotOpenBeside
  else .ok .new

/-- The store in a file with tables. Where the file may not be changed, no table may be missing. What
processes share about the file is needed unless nobody changes it. -/
def keptStore (n : DatabaseName) (t : Store.Tables) : Except Fault Store :=
  if !n.isImmutable && (n.isUnshared || n.sharesReadOnly = some true) then .error cannotOpenBeside
  else if !n.isReadOnly then .ok (.ofTables t.complete)
  else if t.complete = t then .ok { Store.ofTables t with readOnly := true }
  else .error (.statement Store.Access.notWritable)

/-- The store in what is found at the place of a file, whose own name has this size. -/
def storeIn (n : DatabaseName) (path : String) (size : Nat) : DatabaseFile → Except Fault Store
  | .nothing => if n.mode = .create then n.freshStore size else .error (cannotOpen path)
  | .folder => .error (if n.mode = .readOnly then unusable else cannotOpen path)
  | .empty => n.freshStore size
  | .sink => .error (if n.isReadOnly then .statement Store.Access.notWritable else unusable)
  | .foreign => .error notDatabase
  | .tables t => n.keptStore t

/-- What a path given to a program stands for. -/
def ofPath (path : String) : Except Fault DatabaseName :=
  let before := path.toList.takeWhile (· ≠ '\x00')
  if Path.hasZero path then .error <| refusedBecause
    s!"nul byte found in provided data at position: {(String.ofList before).utf8ByteSize}"
  else (ofText path).mapError refusedBecause

end DatabaseName

namespace Files

/-! ### Places -/

/-- How many bytes the place of a database may have, and how many on the way to it. -/
def longestPlace : Nat := 504

/-- How many bytes a place may have on the way to a database. -/
def longestWay : Nat := 511

/-- Whether a part that was added to a place can be looked at: it may be missing, but does not lead
through something that is no folder, and its name is not too long for the folder that it is in. -/
def admits (t : Files) (place : List String) : Bool :=
  (Path.textOf place).utf8ByteSize ≤ longestWay &&
    match (List.range place.length).find? fun n => !t.isFolder (place.take n) with
    | some n => (t.entry? (place.take n)).isNone
    | none => (place.getLast?.getD "").utf8ByteSize ≤ Path.longestName

/-- The place where the parts of a name lead. -/
def follow (t : Files) (place : List String) : List String → Option (List String)
  | [] => some place
  | part :: rest =>
    if part = ".." then follow t place.dropLast rest
    else if t.admits (place ++ [part]) then follow t (place ++ [part]) rest
    else none

def databasePlace? (t : Files) (file : String) : Option (List String) :=
  let p := Path.ofText file
  (t.follow [] ((if p.absolute then [] else t.current) ++ p.parts)).filter fun place =>
    place ≠ [] && (Path.textOf place).utf8ByteSize ≤ longestPlace

def databaseFile (t : Files) (place : List String) : DatabaseFile :=
  match t.entry? place with
  | none => .nothing
  | some .folder => .folder
  | some .sink => .sink
  | some (.text s) => if s.utf8ByteSize ≤ 1 then .empty else .foreign
  | some (.database tables) => .tables tables

/-! ### Opening and keeping -/

def storeAt (t : Files) (n : DatabaseName) (path : String) : Except Fault (Store × List String) := do
  let some place := t.databasePlace? n.file | throw (cannotOpen path)
  if let some pattern := n.pattern then
    if !((t.placeOfText pattern).toOption.bind t.entry?).isSome then throw unusable
  if t.isFolder place.dropLast then
    let size := (place.getLast?.getD "").utf8ByteSize
    return (← n.storeIn path size (t.databaseFile place), place)
  else throw (cannotOpen path)

def openDatabase (t : Files) (path : String) : Except Fault (Store × Files) := do
  let t ← (t.makeFolders (Path.folderOf path)).mapError .files
  let n ← DatabaseName.ofPath path
  if n.isTransient then return (← n.transientStore, t)
  else
    let (s, place) ← t.storeAt n path
    return (s, t.put place (.database s.tables))

/-- The tree with other tables in a database. -/
def saveDatabase (t : Files) (path : String) (s : Store) : Files :=
  match DatabaseName.ofPath path with
  | .error _ => t
  | .ok n =>
    if n.isTransient then t
    else match t.databasePlace? n.file with
      | some place => t.put place (.database s.tables)
      | none => t

end Files

/-- How a store is shown in diagnostics: by its database file, if it has one. -/
def Store.describe (path : Option String) : String :=
  let shown := match path with
    | some p => "Some(" ++ Text.quoted p ++ ")"
    | none => "None"
  "CoordinationStore \x7b path: " ++ shown ++ ", .. \x7d"

end TurnTaking
