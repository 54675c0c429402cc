/-!
# Tables — rows under keys

A table is the list of its rows in the order in which they came. Operations name rows by a key, which
the operations keep unique, or by a condition; the changing ones also say how many rows they touched.
-/

namespace TurnTaking.Store.Table

variable {ρ κ : Type} [DecidableEq κ]

def lookup (key : ρ → κ) (k : κ) (rows : List ρ) : Option ρ := rows.find? (key · = k)

def holds (key : ρ → κ) (k : κ) (rows : List ρ) : Bool := rows.any (key · = k)

/-- Adds a row unless its key is taken; says whether it did. -/
def add (key : ρ → κ) (r : ρ) (rows : List ρ) : Bool × List ρ :=
  if holds key (key r) rows then (false, rows) else (true, rows ++ [r])

/-- Adds a row, or changes the row that has its key. -/
def put (key : ρ → κ) (r : ρ) (change : ρ → ρ) (rows : List ρ) : List ρ :=
  if holds key (key r) rows then rows.map fun old => if key old = key r then change old else old
  else rows ++ [r]

/-- Adds a row as the last one, in place of the row that has its key. -/
def replace (key : ρ → κ) (r : ρ) (rows : List ρ) : List ρ :=
  rows.filter (fun old => key old ≠ key r) ++ [r]

/-- Changes the rows that meet a condition, and counts them. -/
def amend (condition : ρ → Bool) (change : ρ → ρ) (rows : List ρ) : Nat × List ρ :=
  (rows.countP condition, rows.map fun r => if condition r then change r else r)

/-- Removes the rows that meet a condition, and counts them. -/
def remove (condition : ρ → Bool) (rows : List ρ) : Nat × List ρ :=
  (rows.countP condition, rows.filter (!condition ·))

end TurnTaking.Store.Table
