import TurnTaking.Config.Basic
import TurnTaking.Numeral.Decimal
import TurnTaking.Numeral.Integer
import TurnTaking.Text.Blank
import TurnTaking.Text.Quoted
import TurnTaking.Text.Split

/-!
# Environment — settings that variables override

Some settings have a variable in the environment, whose value is used in place of what the configuration
says. The variables are looked at in a fixed order; the first one whose text is no value of its setting
is an error, and none is passed over silently.

* `overrides` — every variable with the setting that it overrides;
* `Config.override` — a configuration under an environment.
-/

namespace TurnTaking.Config

/-- Values of variables, by name. -/
abbrev Environment := String → Option String

/-- A variable whose text is no value of its setting. -/
inductive EnvironmentFault where
  | number (name raw : String) (flaw : Numeral.Flaw)
  /-- A truth value that is none, in lower case and without blanks around it. -/
  | truth (name shown : String)
deriving DecidableEq, Repr, Inhabited

namespace EnvironmentFault

/-- What is reported, from the outermost context inwards. -/
def chain : EnvironmentFault → List String
  | .number name raw flaw =>
    [s!"invalid value for {name}: {Text.quoted raw}", flaw.message]
  | .truth name shown => [s!"invalid value for {name}: {Text.quoted shown}"]

end EnvironmentFault

/-- A setting that a variable overrides. -/
structure Override where
  /-- The name of the variable. -/
  name : String
  Value : Type
  /-- The value that a text stands for. -/
  read : String → Except EnvironmentFault Value
  get : Config → Value
  set : Value → Config → Config

namespace Override

/-- A setting that is a number, whose text may have blanks around it. -/
def number {α : Type} (read : String → Except Numeral.Flaw α) (name : String)
    (get : Config → α) (set : α → Config → Config) : Override where
  name := name
  Value := α
  read raw := (read (Text.trim raw)).mapError (.number name raw)
  get := get
  set := set

/-- A setting that is a natural number of 64 bits. -/
def count : (name : String) → (Config → Nat) → (Nat → Config → Config) → Override :=
  number Numeral.readNat64

/-- A setting that is a signed integer of 64 bits. -/
def span : (name : String) → (Config → Int) → (Int → Config → Config) → Override :=
  number Numeral.readInt64

def truthOf? (word : String) : Option Bool :=
  if ["1", "true", "yes", "on"].contains word then some true
  else if ["0", "false", "no", "off"].contains word then some false
  else none

/-- A text without blanks around it, its ASCII letters in lower case. -/
def wordOf (raw : String) : String := String.ofList ((Text.trimChars raw.toList).map Char.toLower)

def truth (name : String) (get : Config → Bool) (set : Bool → Config → Config) : Override where
  name := name
  Value := Bool
  read raw :=
    match truthOf? (wordOf raw) with
    | some b => .ok b
    | none => .error (.truth name (wordOf raw))
  get := get
  set := set

/-- Decimal fractions between commas, which may have blanks around them. -/
def readDecimals (raw : String) : Except Numeral.Flaw (List Float) :=
  (Text.partsBetween ',' raw.toList).mapM fun part =>
    Numeral.readDecimal (String.ofList (Text.trimChars part))

def decimals (name : String) (get : Config → List Float)
    (set : List Float → Config → Config) : Override where
  name := name
  Value := List Float
  read raw := (readDecimals raw).mapError (.number name raw)
  get := get
  set := set

/-- The database file, whose path is taken as it stands. -/
def path (name : String) (get : Config → Option String)
    (set : Option String → Config → Config) : Override where
  name := name
  Value := Option String
  read raw := .ok (some raw)
  get := get
  set := set

/-- The configuration with the value of the variable, if it has one. -/
def apply (o : Override) (env : Environment) (c : Config) : Except EnvironmentFault Config :=
  match env o.name with
  | none => .ok c
  | some raw => (o.read raw).map (o.set · c)

end Override

/-- Every variable and its setting, in the order in which they are looked at. -/
def overrides : List Override := [
  .path "CHORUS_DB_PATH" (·.storage.dbPath)
    fun v c => { c with storage := { c.storage with dbPath := v } },
  .count "AMBIENT_TICK_MS" (·.ambient.tickIntervalMs)
    fun v c => { c with ambient := { c.ambient with tickIntervalMs := v } },
  .count "AMBIENT_TICK_JITTER_MS" (·.ambient.tickJitterMs)
    fun v c => { c with ambient := { c.ambient with tickJitterMs := v } },
  .count "AMBIENT_GLOBAL_BUDGET" (·.ambient.globalBudget)
    fun v c => { c with ambient := { c.ambient with globalBudget := v } },
  .count "AMBIENT_MAX_K" (·.ambient.maxK)
    fun v c => { c with ambient := { c.ambient with maxK := v } },
  .count "AMBIENT_CHANNEL_LIMIT" (·.ambient.channelLimit)
    fun v c => { c with ambient := { c.ambient with channelLimit := v } },
  .span "HUMAN_SUPPRESSION_MS" (·.ambient.humanSuppressionMs)
    fun v c => { c with ambient := { c.ambient with humanSuppressionMs := v } },
  .count "MAX_RESPONSES_PER_MESSAGE" (·.coordination.maxResponsesPerMessage)
    fun v c => { c with coordination := { c.coordination with maxResponsesPerMessage := v } },
  .truth "STICKY_AFFINITY_EXCLUSIVE" (·.coordination.stickyAffinityExclusive)
    fun v c => { c with coordination := { c.coordination with stickyAffinityExclusive := v } },
  .span "AFFINITY_TTL_MS" (·.coordination.affinityTtlMs)
    fun v c => { c with coordination := { c.coordination with affinityTtlMs := v } },
  .truth "TURN_BASED_MODE" (·.coordination.turnBasedMode)
    fun v c => { c with coordination := { c.coordination with turnBasedMode := v } },
  .span "TURN_COOLDOWN_MS" (·.coordination.turnCooldownMs)
    fun v c => { c with coordination := { c.coordination with turnCooldownMs := v } },
  .decimals "FALLBACK_SCORE_THRESHOLDS" (·.coordination.fallbackScoreThresholds)
    fun v c => { c with coordination := { c.coordination with fallbackScoreThresholds := v } },
  .span "CHANNEL_COOLDOWN_MS" (·.gate.channelCooldownMs)
    fun v c => { c with gate := { c.gate with channelCooldownMs := v } },
  .span "BOT_REPLY_COOLDOWN_MS" (·.gate.botReplyCooldownMs)
    fun v c => { c with gate := { c.gate with botReplyCooldownMs := v } },
  .count "MAX_RESPONDERS_PER_TRIGGER" (·.gate.maxRespondersPerTrigger)
    fun v c => { c with gate := { c.gate with maxRespondersPerTrigger := v } },
  .span "RESPONSE_LOCK_TTL_MS" (·.locks.responseLockTtlMs)
    fun v c => { c with locks := { c.locks with responseLockTtlMs := v } },
  .span "TURN_LEASE_TTL_MS" (·.locks.leaseTtlMs)
    fun v c => { c with locks := { c.locks with leaseTtlMs := v } },
  .count "JANITOR_INTERVAL_MS" (·.janitor.intervalMs)
    fun v c => { c with janitor := { c.janitor with intervalMs := v } }]

/-- The configuration with every setting that has a variable in the environment. -/
def override (env : Environment) (c : Config) : Except EnvironmentFault Config :=
  overrides.foldlM (fun c o => o.apply env c) c

end TurnTaking.Config
