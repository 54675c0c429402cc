import TurnTaking.Config.Environment
import TurnTaking.Config.Validity
import TurnTaking.Config.Written
import TurnTaking.Files.Fault
import TurnTaking.Files.Path

/-!
# Loading a configuration

A configuration comes from the file that is named, or else from the user's own file, or else from the
file at hand; where none of them can be used, every setting has its standard value. A file that is named
must be there and be correct, while a fault in one of the others is passed over. The environment
overrides what the file says, and the result must be valid.

* `load`, `resolve` — the configuration without and with the environment, over any way to read files.
-/

namespace TurnTaking.Config

/-- Why there is no configuration. -/
inductive Fault where
  /-- The named file cannot be read. -/
  | unreadable (path : String) (cause : FileFault)
  /-- The named file holds no configuration. -/
  | malformed (path : String)
  | environment (cause : EnvironmentFault)
  | refused (defect : Defect)
deriving Repr, Inhabited

/-- What is reported, from the outermost context inwards. -/
def Fault.chain : Fault → List String
  | .unreadable path cause =>
    [s!"Failed to load config from {path}", "Failed to read config file", cause.message]
  | .malformed path => [s!"Failed to load config from {path}", "Failed to parse config file"]
  | .environment cause => cause.chain
  | .refused defect => [defect.message]

/-- The user's folders. -/
structure Places where
  /-- Where configuration files are kept. -/
  settings : String
  /-- Where data files are kept. -/
  data : String
deriving DecidableEq, Repr, Inhabited

namespace Places

def userFile (p : Places) : String := Path.within p.settings "chorus/chorus.yml"

/-- The standard place of the database file. -/
def database (p : Places) : String := Path.within p.data "chorus/chorus.db"

def logs (p : Places) : String := Path.within p.data "chorus/logs"

/-- The home folder of the account that the program runs under. -/
def accountHome : String := "/root"

/-- The home folder: the one that the environment names, else that of the account. -/
def home (env : Environment) : String := ((env "HOME").filter (· ≠ "")).getD accountHome

/-- The folder that a variable names, if its path is absolute, or one within the home folder. -/
def folder (env : Environment) (name standard : String) : String :=
  match (env name).filter (·.startsWith "/") with
  | some path => path
  | none => Path.within (home env) standard

def ofEnvironment (env : Environment) : Places where
  settings := folder env "XDG_CONFIG_HOME" ".config"
  data := folder env "XDG_DATA_HOME" ".local/share"

end Places

/-- The configuration file in the current folder. -/
def localFile : String := "chorus.yml"

section

variable {m : Type → Type} [Monad m]

/-- The first of several files that can be read and holds a configuration. -/
def firstUsable? (read : String → m (Except FileFault String)) :
    List String → m (Option Config)
  | [] => return none
  | path :: rest => do
    match (← read path).toOption.bind ofYaml? with
    | some c => return some c
    | none => firstUsable? read rest

/-- The configuration from the named file, or from the first usable file of the others. -/
def load (read : String → m (Except FileFault String)) (places : Places) (named : Option String) :
    m (Except Fault Config) := do
  match named with
  | some path =>
    match ← read path with
    | .error cause => return .error (.unreadable path cause)
    | .ok text =>
      match ofYaml? text with
      | some c => return .ok c
      | none => return .error (.malformed path)
  | none => return .ok ((← firstUsable? read [places.userFile, localFile]).getD .standard)

def validated (c : Config) : Except Fault Config :=
  match c.defect? with
  | some d => .error (.refused d)
  | none => .ok c

/-- A configuration under an environment, unless it is refused. -/
def resolved (env : Environment) (c : Config) : Except Fault Config :=
  ((c.override env).mapError .environment).bind validated

/-- The configuration from files and environment, unless it is refused. -/
def resolve (read : String → m (Except FileFault String)) (places : Places) (env : Environment)
    (named : Option String) : m (Except Fault Config) :=
  return (← load read places named).bind (resolved env)

end

def databaseFile (c : Config) (places : Places) : String := c.storage.dbPath.getD places.database

end TurnTaking.Config
