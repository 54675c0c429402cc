import Std.Time.DateTime.Timestamp
import TurnTaking.CommandLine.Run
import TurnTaking.Store.Image

/-!
# The program

The command line on the machine at hand: its clock, its environment and its files. A database is kept
in a file as the image of its tables.
-/

namespace TurnTaking.CommandLine

/-- What a failure that the system reports comes to. -/
def systemFault : IO.Error → FileFault
  | .noFileOrDirectory .. => .notFound
  | .alreadyExists .. => .alreadyThere
  | .inappropriateType _ code _ => if code = 21 then .isFolder else .notFolder
  | .invalidArgument _ 36 _ => .nameTooLong
  | e => .system (toString e)

/-- The result of an action on a path, or the fault that it failed with. -/
def orFault {α : Type} (path : String) (act : IO α) : IO (Except FileFault α) := do
  if Path.hasZero path then return .error .zeroInName
  try return .ok (← act)
  catch e => return .error (systemFault e)

def readText (path : String) : IO (Except FileFault String) := do
  match ← orFault path (IO.FS.readBinFile path) with
  | .error f => return .error f
  | .ok bytes =>
    match String.fromUTF8? bytes with
    | some s => return .ok s
    | none => return .error .notText

/-- Makes a folder and all folders around it, as far as they are not there. -/
def makeFolder (path : String) : IO (Except FileFault Unit) :=
  if path.isEmpty then return .ok () else orFault path (IO.FS.createDirAll path)

/-- Makes an empty file, if there is none. -/
def touchFile (path : String) : IO (Except FileFault Unit) :=
  orFault path (IO.FS.withFile path .append fun _ => return)

def findDatabase (file : String) : IO DatabaseFile := do
  match ← readText file with
  | .ok text =>
    if text.utf8ByteSize ≤ 1 then return .empty
    else match Store.Tables.ofFile? text with
      | some t => return .tables t
      | none => return .foreign
  | .error .notText => return .foreign
  | .error .isFolder => return .folder
  | .error _ => return .nothing

/-- The place of a database file, by the names on the way from the root. -/
def placeOf (n : DatabaseName) : IO (List String) :=
  return (Path.ofText n.file).resolve (Path.ofText (← IO.currentDir).toString).parts

/-- The store in a database, whose file is made with the folders around it if it is not there. -/
def loadStore (path : String) : IO (Except TurnTaking.Fault Store) := do
  match ← makeFolder (Path.folderOf path) with
  | .error f => return .error (.files f)
  | .ok () =>
    match DatabaseName.ofPath path with
    | .error f => return .error f
    | .ok n =>
      if n.isTransient then return n.transientStore
      else
        let place ← placeOf n
        let store := n.storeIn path (place.getLast?.getD "").utf8ByteSize
          (← findDatabase (Path.textOf place))
        if store.isOk && n.mode = .create then
          if let .error _ ← touchFile (Path.textOf place) then return .error (cannotOpen path)
        return store

def saveStore (path : String) (s : Store) : IO Unit := do
  if s.readOnly then return
  if let .ok n := DatabaseName.ofPath path then
    unless n.isTransient do IO.FS.writeFile (Path.textOf (← placeOf n)) s.tables.toFile

/-- Milliseconds since the epoch. -/
def systemTime : IO Int := return (← Std.Time.Timestamp.now).toMillisecondsSinceUnixEpoch.val

def readVariables : IO Config.Environment := do
  let names := Config.overrides.map (·.name) ++ ["HOME", "XDG_CONFIG_HOME", "XDG_DATA_HOME"]
  let values ← names.mapM fun name => return (name, ← IO.getEnv name)
  return fun name => (values.find? (·.1 = name)).bind Prod.snd

def Machine.here : IO (Machine IO) :=
  return {
    environment := ← readVariables
    now := systemTime
    read := readText
    makeFolders := makeFolder
    touch := touchFile
    openDatabase := loadStore
    saveDatabase := saveStore }

/-- Passes of the janitor, as far apart as the configuration says, without end. -/
partial def watch (k : Machine IO) (c : Config) : IO Unit := do
  IO.sleep (UInt32.ofNat (min c.janitor.intervalMs 4294967295))
  passAgain k c
  watch k c

end TurnTaking.CommandLine

open TurnTaking CommandLine in
/-- Performs a command line. -/
def main (args : List String) : IO UInt32 := do
  let k ← Machine.here
  let output ← run k args
  IO.print output.stdout
  unless output.stderr.isEmpty do IO.eprintln output.stderr
  if output.code = 0 then
    if let some c ← watched k args then watch k c
  return UInt32.ofNat output.code
