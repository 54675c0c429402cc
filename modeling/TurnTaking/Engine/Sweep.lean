import TurnTaking.Engine.Coordination
import TurnTaking.Numeral.Word

/-!
# Sweeps — unprompted turns

From time to time a sweep visits the most recently active channels and lets avatars speak there
unprompted. It opens a new tick in each channel it visits, leases every turn in it, and stays silent
where a person has just spoken. More people in a channel are worth more turns; a budget bounds all
turns of a sweep.
-/

namespace TurnTaking.Sweep

open Numeral

/-- How many turns a channel is worth: one for each group of `perSlot` active people, at least one and
at most `maxK`. -/
def ambientK (activeHumans perSlot maxK : Nat) : Nat :=
  let slots := (activeHumans + (max perSlot 1 - 1)) / max perSlot 1
  if slots < 1 then 1 else if max maxK 1 < slots then max maxK 1 else slots

/-- The random part of a delay, given what is drawn between two bounds. Without jitter there is none. -/
def offset (c : Config.Ambient) (draw : Int → Int → Int) : Except Overflow Int := do
  let jitter := Store.ofWord c.tickJitterMs
  if 0 < jitter then return draw (← inWord (-jitter)) jitter
  else return 0

/-- How long to wait before the next sweep: the interval and the random part, but at least one. -/
def delay (c : Config.Ambient) (draw : Int → Int → Int) : Except Overflow Int := do
  let sum ← inWord (Store.ofWord c.tickIntervalMs + (← offset c draw))
  return max sum 1

end TurnTaking.Sweep

namespace TurnTaking.Engine

open Presence

variable {σ : Type}

/-- Whether a person's message is too recent for unprompted turns in the channel. -/
def isSuppressed (e : Engine σ) (channel : String) (now : Int) : Try σ Bool := do
  let activity ← onStore (Activity.find? channel)
  return (activity.bind Activity.lastHumanAt).any fun last =>
    Numeral.wrapped (now - last) < e.config.ambient.humanSuppressionMs

/-- Of some avatars the records of those that are present in the channel and do not cool down. -/
def availableRecords (e : Engine σ) (channel : String) (now : Int) :
    List Avatar → Store.Access (List Record)
  | [] => return []
  | a :: rest => do
    let record ← ensure channel a.id now
    let more ← e.availableRecords channel now rest
    return if record.isPresent && !e.rule.cooling record now then record :: more else more

/-- Of the avatars of a channel those that may speak unprompted, the best ranked first. -/
def unprompted (e : Engine σ) (channel : String) (avatars : List Avatar) (now : Int) :
    Try σ (List Avatar) := do
  let records ← onStore (e.availableRecords channel now avatars)
  let ranked ← e.rankIn channel now records
  let allowed ← Diversity.apply e channel ranked now
  return allowed.filterMap fun r => avatars.find? (·.id = r.avatarId)

def openTick (channel : String) (now : Int) : Try σ Sweep := do
  let tick ← onStore (Tick.advance channel now)
  let sweep : Sweep := ⟨(← get).journal.length, channel, tick⟩
  note (σ := σ) (.opened sweep)
  return sweep

/-- Leases and runs the turn of an avatar in a sweep; says whether it responded. -/
def runAmbientTurn (e : Engine σ) (sweep : Sweep) (a : Avatar) : Try σ Bool := do
  let key := Trigger.ambientKey sweep.channelId sweep.tick
  match ← onStore (Lease.acquire? e.config.locks.leaseTtlMs sweep.channelId a.id sweep.tick .ambient
    (← clockNow)) with
  | none => return false
  | some guard =>
    note (σ := σ) (.unprompted sweep a.id)
    let outcome ← e.runTurn {
      avatar := a, channelId := sweep.channelId, message := none
      options := ⟨.ambient, none, none, 0, key⟩
      gate := some ⟨sweep.channelId, a.id, key, .ambient, false⟩ }
    settleLease (σ := σ) (some guard) outcome
    return outcome.isResponded

/-- Runs the turns of avatars in a sweep one after another, until so many have responded, and counts
those that have. -/
def runAmbientTurns (e : Engine σ) (sweep : Sweep) : Nat → List Avatar → Try σ Nat
  | 0, _ => return 0
  | _, [] => return 0
  | limit + 1, a :: rest => do
    if ← e.runAmbientTurn sweep a then return (← e.runAmbientTurns sweep limit rest) + 1
    else e.runAmbientTurns sweep (limit + 1) rest

/-- Sweeps one channel within a budget; says how many turns were taken. -/
def sweepChannel (e : Engine σ) (channel : String) (budget : Nat) : Try σ Nat := do
  let now ← clockNow
  let c := e.config.ambient
  if ← e.isSuppressed channel now then return 0
  let sweep ← openTick channel now
  let humans ← onStore (Activity.activeHumans channel (Numeral.wrapped (now - c.activeHumanWindowMs)))
  let limit := min (Sweep.ambientK humans c.humansPerSlot c.maxK) budget
  let avatars ← e.outside.listAvatars channel
  let speakers ← e.unprompted channel avatars now
  e.runAmbientTurns sweep limit speakers

/-- Sweeps one channel within a budget. A fault ends the sweep of the channel, and it counts for
nothing. -/
def onChannelTick (e : Engine σ) (channel : String) (budget : Nat) : Act σ Nat :=
  if budget = 0 then return 0 else orElse (e.sweepChannel channel budget) 0

/-- Sweeps channels one after another within a budget; says how many turns were taken. -/
def sweepChannels (e : Engine σ) : Nat → List String → Act σ Nat
  | _, [] => return 0
  | 0, _ => return 0
  | budget + 1, channel :: rest => do
    let turns ← e.onChannelTick channel (budget + 1)
    return turns + (← e.sweepChannels (budget + 1 - turns) rest)

/-- Sweeps the most recently active channels within the budget of a sweep. -/
def tickAll (e : Engine σ) : Act σ Nat := do
  match ← (onStore (Activity.recentChannels e.config.ambient.channelLimit)).run with
  | .error _ => return 0
  | .ok channels => e.sweepChannels e.config.ambient.globalBudget channels

end TurnTaking.Engine
