/-!
# Arguments of the command line

A command is named by one argument, which has options on both sides of it: those that every command
knows, and behind it those of its own. An argument is read as soon as it comes, so that the first one
that cannot be read, or that asks for the version or for help, decides. Only an option whose value is
the next argument is not settled before the next option comes, or the arguments end.

* `request` — what the arguments ask for.
-/

namespace TurnTaking.CommandLine

/-- What is to be done. -/
inductive Command where
  /-- Removes what has expired, once or again and again. -/
  | janitor (watch : Bool)
  /-- Shows the configuration. -/
  | config
  /-- Lists the presence records of a channel. -/
  | presence (channel : String)
deriving DecidableEq, Repr, Inhabited

/-- A command with the options that every command knows. -/
structure Invocation where
  /-- The configuration file. -/
  config : Option String
  /-- The database file. -/
  database : Option String
  verbose : Bool
  command : Command
deriving DecidableEq, Repr, Inhabited

/-- What arguments ask for. -/
inductive Request where
  | perform (i : Invocation)
  | version
  | help
  /-- They cannot be read. -/
  | misuse
deriving DecidableEq, Repr, Inhabited

/-- Why arguments name no command to perform. -/
inductive Interruption where
  | version
  | help
  | misuse
deriving DecidableEq, Repr, Inhabited

def Interruption.request : Interruption → Request
  | .version => .version
  | .help => .help
  | .misuse => .misuse

/-- An option. -/
inductive Flag where
  | config
  | database
  | verbose
  | watch
  | help
  | version
deriving DecidableEq, Repr, Inhabited

/-- An option that is not settled: its value is the next argument, or was the one before. -/
structure Pending where
  flag : Flag
  value : Option String
deriving DecidableEq, Repr, Inhabited

/-- The options given on one side of the command. -/
structure Given where
  config : Option String
  database : Option String
  verbose : Bool
  watch : Bool
  pending : Option Pending
deriving DecidableEq, Repr, Inhabited

def Given.nothing : Given := ⟨none, none, false, false, none⟩

/-- Whether the next argument, unless it is an option, is the value of one. -/
def Given.awaitsValue (g : Given) : Bool := g.pending.any (·.value.isNone)

/-- Where arguments stand. -/
inductive Side where
  /-- In front of the command. -/
  | front
  /-- Behind one that may watch. -/
  | behindJanitor
  | behindOther
deriving DecidableEq, Repr, Inhabited

namespace Side

def knows (s : Side) : Flag → Bool
  | .watch => s = .behindJanitor
  | .version => s = .front
  | _ => true

def long? (s : Side) (name : List Char) : Option Flag :=
  let flag? :=
    if name = "config".toList then some Flag.config
    else if name = "db".toList then some .database
    else if name = "verbose".toList then some .verbose
    else if name = "watch".toList then some .watch
    else if name = "help".toList then some .help
    else if name = "version".toList then some .version
    else none
  flag?.filter s.knows

def short? (s : Side) (letter : Char) : Option Flag :=
  let flag? :=
    if letter = 'c' then some Flag.config
    else if letter = 'v' then some .verbose
    else if letter = 'w' then some .watch
    else if letter = 'h' then some .help
    else if letter = 'V' then some .version
    else none
  flag?.filter s.knows

end Side

namespace Flag

def takesValue : Flag → Bool
  | .config => true
  | .database => true
  | _ => false

/-- The options with one more that has a value. It is given at most once, and not empty. -/
def setValue (f : Flag) (g : Given) (value : String) : Except Interruption Given :=
  if value.isEmpty then .error .misuse
  else match f with
    | .config => if g.config.isSome then .error .misuse else .ok { g with config := some value }
    | .database => if g.database.isSome then .error .misuse else .ok { g with database := some value }
    | _ => .error .misuse

/-- The options with one more that has no value. It is given at most once. -/
def set (f : Flag) (g : Given) : Except Interruption Given :=
  match f with
  | .verbose => if g.verbose then .error .misuse else .ok { g with verbose := true }
  | .watch => if g.watch then .error .misuse else .ok { g with watch := true }
  | .help => .error .help
  | .version => .error .version
  | _ => .error .misuse

end Flag

/-- The options after the pending one is settled, for which its value must have come. -/
def Given.settle (g : Given) : Except Interruption Given :=
  match g.pending with
  | none => .ok g
  | some ⟨_, none⟩ => .error .misuse
  | some ⟨f, some value⟩ => f.setValue { g with pending := none } value

/-- The options with one more, which has the value that is written together with it. -/
def Flag.give (f : Flag) (attached : Option String) (g : Given) : Except Interruption Given := do
  let g ← g.settle
  match f.takesValue, attached with
  | true, some value => f.setValue g value
  | true, none => return { g with pending := some ⟨f, none⟩ }
  | false, some _ => throw .misuse
  | false, none => f.set g

/-- The options with the value that the last one awaits. -/
def Given.take (g : Given) (value : String) : Given :=
  { g with pending := g.pending.map fun p => { p with value := some value } }

/-- The value that letters behind an option's letter are: an equals sign may stand in front of it. -/
def attachedLetters : List Char → Option String
  | [] => none
  | '=' :: value => some (String.ofList value)
  | value => some (String.ofList value)

/-- The options with those that letters behind a dash are. -/
def readLetters (s : Side) (g : Given) : List Char → Except Interruption Given
  | [] => .ok g
  | letter :: rest =>
    match s.short? letter with
    | none => .error .misuse
    | some f =>
      if f.takesValue then f.give (attachedLetters rest) g
      else (f.give none g).bind (readLetters s · rest)

/-- The options with the one that is named behind two dashes, with its value behind an equals sign if
it has one. -/
def readName (s : Side) (g : Given) (cs : List Char) : Except Interruption Given :=
  let attached := match cs.dropWhile (· ≠ '=') with
    | '=' :: value => some (String.ofList value)
    | _ => none
  match s.long? (cs.takeWhile (· ≠ '=')) with
  | none => .error .misuse
  | some f => f.give attached g

/-- What an argument is. -/
inductive Argument where
  | value
  /-- Two dashes, behind which nothing is an option. -/
  | ending
  | name (cs : List Char)
  | letters (cs : List Char)
deriving DecidableEq, Repr, Inhabited

def Argument.ofText (arg : String) : Argument :=
  match arg.toList with
  | ['-', '-'] => .ending
  | '-' :: '-' :: cs => .name cs
  | ['-'] => .value
  | '-' :: cs => .letters cs
  | _ => .value

def commandNames : List String := ["janitor", "config", "presence"]

/-- How many values belong to the command with a name: a channel, or nothing. -/
def valueCount (name : String) : Nat := if name = "presence" then 1 else 0

/-- What stands behind a command: the options, and the values, of which there are at most so many. -/
def readBehind (s : Side) (count : Nat) (g : Given) (values : List String) :
    List String → Except Interruption (Given × List String)
  | [] => g.settle.map (·, values)
  | arg :: rest =>
    match Argument.ofText arg with
    | .value =>
      if g.awaitsValue then readBehind s count (g.take arg) values rest
      else if values.length < count then
        g.settle.bind fun g => readBehind s count g (values ++ [arg]) rest
      else .error .misuse
    | .ending =>
      if (values ++ rest).length ≤ count then g.settle.map (·, values ++ rest) else .error .misuse
    | .name cs => (readName s g cs).bind fun g => readBehind s count g values rest
    | .letters cs => (readLetters s g cs).bind fun g => readBehind s count g values rest

def readCommand (name : String) (args : List String) : Except Interruption (Command × Given) := do
  let side := if name = "janitor" then Side.behindJanitor else .behindOther
  let (g, values) ← readBehind side (valueCount name) .nothing [] args
  match name, values with
  | "janitor", [] => return (.janitor g.watch, g)
  | "config", [] => return (.config, g)
  | "presence", [channel] => return (.presence channel, g)
  | _, _ => throw .misuse

/-- What follows when help is asked for by name: it may be about a command. -/
def helpAbout : List String → Interruption
  | [] => .help
  | [name] => if (commandNames ++ ["help"]).contains name then .help else .misuse
  | _ => .misuse

/-- What arguments ask for, after the options in front. What stands behind the command goes before, and
is read before the last option in front is settled. -/
def readFront (g : Given) : List String → Except Interruption Invocation
  | [] => .error .misuse
  | arg :: rest =>
    match Argument.ofText arg with
    | .value =>
      if g.awaitsValue then readFront (g.take arg) rest
      else if arg = "help" then .error (helpAbout rest)
      else if commandNames.contains arg then do
        let (command, behind) ← readCommand arg rest
        let front ← g.settle
        return {
          config := behind.config.orElse fun _ => front.config
          database := behind.database.orElse fun _ => front.database
          verbose := front.verbose || behind.verbose
          command }
      else .error .misuse
    | .ending => .error .misuse
    | .name cs => (readName .front g cs).bind (readFront · rest)
    | .letters cs => (readLetters .front g cs).bind (readFront · rest)

def request (args : List String) : Request :=
  match readFront .nothing args with
  | .ok i => .perform i
  | .error e => e.request

end TurnTaking.CommandLine
