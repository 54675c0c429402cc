import TurnTaking.CommandLine.Arguments
import TurnTaking.CommandLine.Report
import TurnTaking.Config.Loading
import TurnTaking.Config.Outline
import TurnTaking.Files.Database
import TurnTaking.Presence.Stored

/-!
# Commands — performing them

A command runs on a machine, of which it sees variables, a clock, files and databases. It finds its
configuration first, makes sure that there is a log file, and then does its work; what fails on the way
is told with the step that it failed in.

* `run` — what a command line comes to, on any machine;
* `Machine.ofTree` — a machine that is a file tree.
-/

namespace TurnTaking.CommandLine

/-- The machine that a command runs on. -/
structure Machine (m : Type → Type) where
  environment : Config.Environment
  /-- Milliseconds since the epoch. -/
  now : m Int
  read : String → m (Except FileFault String)
  makeFolders : String → m (Except FileFault Unit)
  /-- Makes an empty file, if there is none. -/
  touch : String → m (Except FileFault Unit)
  openDatabase : String → m (Except Fault Store)
  saveDatabase : String → Store → m Unit

/-- What a command line comes to. -/
structure Output where
  code : Nat
  stdout : String
  stderr : String
deriving DecidableEq, Repr, Inhabited

/-- A step that may fail, told from the outermost context inwards. -/
abbrev Attempt (m : Type → Type) := ExceptT (List String) m

section

variable {m : Type → Type} [Monad m]

/-- The result of something that may fail, in this context. -/
def attempt {ε α : Type} (context : String) (chain : ε → List String) (x : m (Except ε α)) :
    Attempt m α := do
  match ← (x : m _) with
  | .ok a => return a
  | .error e => throw (context :: chain e)

/-- A step whose failure is told with one more context around it. -/
def within {α : Type} (context : String) (x : Attempt m α) : Attempt m α :=
  ExceptT.adapt (context :: ·) x

def Machine.places (k : Machine m) : Config.Places := .ofEnvironment k.environment

def configFor (k : Machine m) (i : Invocation) : Attempt m Config := do
  let c ← attempt "Failed to load configuration" Config.Fault.chain
    (Config.resolve k.read k.places k.environment i.config)
  match i.database with
  | some path => return { c with storage := { c.storage with dbPath := some path } }
  | none => return c

def prepareLog (k : Machine m) : Attempt m Unit := within "Failed to setup logging" do
  let folder := k.places.logs
  attempt "Failed to create log directory" (fun f => [f.message]) (k.makeFolders folder)
  attempt "Failed to open log file" (fun f => [f.message])
    (k.touch (Path.within folder "chorus.log"))

/-- The result of an access to the database of a configuration, which keeps what was changed. -/
def withDatabase {α : Type} (k : Machine m) (c : Config) (context : String) (a : Store.Access α) :
    Attempt m α := do
  let path := c.databaseFile k.places
  let store ← attempt s!"Failed to open store at {path}" Fault.chain (k.openDatabase path)
  let (result, store) := a.run store
  k.saveDatabase path store
  attempt context Fault.chain (pure result)

def perform (k : Machine m) (c : Config) : Command → Attempt m String
  | .janitor watch => do
    let report ← withDatabase k c "Janitor pass failed" (Janitor.pass c (← k.now))
    return janitorReport report ++
      if watch then s!"Watching every {c.janitor.intervalMs}ms (ctrl-c to stop)\n" else ""
  | .config =>
    return s!"Database: {c.databaseFile k.places}\n" ++ Yaml.Outline.write c.outline ++ "\n"
  | .presence channel => do
    let records ← withDatabase k c s!"Failed to list presence for {channel}"
      (Presence.inChannel channel)
    return presenceReport channel (← k.now) records

def verboseLine (i : Invocation) : String := if i.verbose then "Verbose mode enabled\n" else ""

def runInvocation (k : Machine m) (i : Invocation) : m Output := do
  let prepared : Attempt m Config := do
    let c ← configFor k i
    prepareLog k
    return c
  match ← prepared.run with
  | .error chain => return ⟨1, "", failureReport chain⟩
  | .ok c =>
    match ← (within "Application failed" (perform k c i.command)).run with
    | .error chain => return ⟨1, verboseLine i, failureReport chain⟩
    | .ok text => return ⟨0, verboseLine i ++ text, ""⟩

/-- The configuration under which the janitor goes on after its first pass, if it is asked to. -/
def watched (k : Machine m) (args : List String) : m (Option Config) := do
  match request args with
  | .perform i =>
    match i.command, ← (configFor k i).run with
    | .janitor true, .ok c => return some c
    | _, _ => return none
  | _ => return none

/-- One more pass of the janitor, of which nothing is told. -/
def passAgain (k : Machine m) (c : Config) : m Unit := do
  let _ ← (withDatabase k c "Janitor pass failed" (Janitor.pass c (← k.now))).run

/-- The version of the program. -/
def versionText : String := "chorus 0.1.0\n"

/-- How the program is used. -/
def helpText : String := String.join [
  "Turn scheduling and response coordination for multi-avatar channels\n\n",
  "Usage: chorus [OPTIONS] <COMMAND>\n\n",
  "Commands:\n",
  "  janitor   Delete expired locks, leases, threads and other stale rows\n",
  "  config    Print the resolved configuration as YAML\n",
  "  presence  List presence records for a channel\n",
  "  help      Print this message or the help of the given subcommand(s)\n\n",
  "Options:\n",
  "  -c, --config <CONFIG>  Optional config file path\n",
  "      --db <DB>          Override the coordination database path\n",
  "  -v, --verbose          Verbose output\n",
  "  -h, --help             Print help\n",
  "  -V, --version          Print version\n"]

def run (k : Machine m) (args : List String) : m Output :=
  match request args with
  | .version => return ⟨0, versionText, ""⟩
  | .help => return ⟨0, helpText, ""⟩
  | .misuse => return ⟨2, "", helpText⟩
  | .perform i => runInvocation k i

end

/-- A change of a file tree that may fail, in which case the tree stays. -/
def changing {ε α : Type} (change : Files → Except ε (α × Files)) : StateM Files (Except ε α) :=
  fun t => match change t with
    | .ok (a, t) => (.ok a, t)
    | .error e => (.error e, t)

/-- A machine that is a file tree, with a clock that stands still. -/
def Machine.ofTree (environment : Config.Environment) (now : Int) : Machine (StateM Files) where
  environment := environment
  now := return now
  read path := return (← get).read path
  makeFolders path := changing fun t => (t.makeFolders path).map ((), ·)
  touch path := changing fun t => (t.touch path).map ((), ·)
  openDatabase path := changing (·.openDatabase path)
  saveDatabase path s := modify (·.saveDatabase path s)

end TurnTaking.CommandLine
