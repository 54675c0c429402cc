import TurnTaking.Store.Access
import TurnTaking.Store.Reading

/-!
# Ticks — the scheduling epochs of a channel

Each sweep of a channel opens a new tick; what answers messages works within the current one. The
first tick of a channel is zero for whoever looks first, and one for the first sweep.
-/

namespace TurnTaking.Tick

open Store Store.Access

/-- Opens the next tick of the channel. It is open even if its number cannot be read. -/
def advance (channel : String) (now : Int) : Access Nat := do
  let tick ← change .ticks fun rows =>
    let rows := Table.put TickRow.key ⟨some channel, .number 1, .number now⟩
      (fun r => { r with tick := r.tick.plus 1, lastTickAt := now }) rows
    ((Table.lookup TickRow.key (some channel) rows).map TickRow.tick, rows)
  ofReading (readRow (readWord 0 "tick_id") tick)

def peek (channel : String) (now : Int) : Access Nat := do
  let _ ← change .ticks (Table.add TickRow.key ⟨some channel, .number 0, .number now⟩)
  query .ticks fun rows =>
    readRow (readWord 0 "tick_id") ((Table.lookup TickRow.key (some channel) rows).map TickRow.tick)

end TurnTaking.Tick
