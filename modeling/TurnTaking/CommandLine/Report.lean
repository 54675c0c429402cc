import TurnTaking.Janitor
import TurnTaking.Presence.Record
import TurnTaking.Text.Split

/-!
# Reports — what commands print

Tables have a line per row, with columns of fixed width. A failure is told with its causes, from the
outermost inwards; where there are several they are numbered.
-/

namespace TurnTaking.CommandLine

/-- A text filled up with spaces to a width. -/
def padded (width : Nat) (s : String) : String :=
  s ++ String.ofList (List.replicate (width - s.length) ' ')

/-- Whole seconds in a span, towards zero. -/
def seconds (ms : Int) : Int := ms.tdiv 1000

/-! ### Presence -/

def presenceLine (now : Int) (r : Presence.Record) : String :=
  let last := match r.lastTurnAt with
    | some time => s!"{seconds (now - time)}s ago"
    | none => "never"
  let summon := if r.hasSummonCredit then s!" summon={r.summonTurns}" else ""
  let cooldown := match r.cooldownUntil with
    | some time => if now < time then s!" cooldown {seconds (time - now)}s" else ""
    | none => ""
  padded 20 r.avatarId ++ " " ++ padded 8 r.state.name ++ " turns=" ++
    padded 4 (toString r.turnsTaken) ++ " last=" ++ last ++ summon ++ cooldown ++ "\n"

def presenceReport (channel : String) (now : Int) (records : List Presence.Record) : String :=
  if records.isEmpty then s!"No presence records for {channel}\n"
  else String.join (records.map (presenceLine now))

/-! ### The janitor -/

/-- What a pass can remove, with the number of rows removed. -/
def janitorCounts (r : Janitor.Report) : List (String × Nat) := [
  ("locks", r.locks), ("leases", r.leases), ("threads", r.threads), ("responders", r.responders),
  ("affinities", r.affinities), ("avatar messages", r.avatarMessages), ("sessions", r.sessions),
  ("human activity", r.humanActivity)]

/-- What a pass removed, kind by kind. -/
def janitorReport (r : Janitor.Report) : String :=
  if r.total = 0 then "Nothing to purge\n"
  else
    let counts := (janitorCounts r).filter (0 < ·.2)
    s!"Purged {r.total} rows\n" ++
      String.join (counts.map fun (name, n) => "  " ++ padded 16 name ++ s!" {n}\n")

/-! ### Failures -/

/-- A text whose lines are indented, unless they are empty; the first one that is not has a mark of
its own. -/
def indented (mark indent : String) (s : String) : String :=
  let rec go (started : Bool) : List (List Char) → List String
    | [] => []
    | line :: rest =>
      if line.isEmpty then "" :: go started rest
      else ((if started then indent else mark) ++ String.ofList line) :: go true rest
  String.intercalate "\n" (go false (Text.partsBetween '\n' s.toList))

def causeMark (n : Nat) : String :=
  let digits := toString n
  String.ofList (List.replicate (4 - digits.length) ' ') ++ digits ++ ": "

/-- The causes of a failure, each on lines of its own. -/
def causes (chain : List String) : List String :=
  match chain with
  | [cause] => [indented "    " "    " cause]
  | _ => chain.zipIdx.map fun (cause, n) => indented (causeMark n) "      " cause

/-- A failure, given by its outermost context and its causes. -/
def failureReport : List String → String
  | [] => ""
  | [top] => "Error: " ++ top
  | top :: chain => "Error: " ++ top ++ "\n\nCaused by:\n" ++ String.intercalate "\n" (causes chain)

end TurnTaking.CommandLine
