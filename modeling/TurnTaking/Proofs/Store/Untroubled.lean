import TurnTaking.Proofs.Store.Frame

/-!
# Untroubled — what accesses come to where nothing fails

On a store without trouble (`Store.ofTables`) an access does what its function does to the rows of its
table, and leaves a store without trouble again.
-/

namespace TurnTaking.Store.Access

variable {α ρ : Type} {r : Relation ρ} {t : Tables} {rows : List ρ}

theorem attempt_ofTables (t : Tables) : attempt (.ofTables t) = (.ok (), .ofTables t) := rfl

/-- Where nothing hinders, a statement leaves its rows. -/
theorem runs_statement_ofTables (h : r.get t = some rows)
    {f : List ρ → Except StatementFault (α × List ρ)} {a : α} {rows' : List ρ} (hf : f rows = .ok (a, rows')) :
    (statement r f).Runs (.ofTables t) (.ok a) (.ofTables (r.set t (some rows'))) := by
  have hwritable : writable (.ofTables t) = .ok () := rfl
  have hrows : r.get (Store.ofTables t).tables = some rows := h
  simp only [Runs, statement, ExceptT.run_mk, StateT.run, attempt_ofTables, onRows, hrows, hwritable,
    Except.bind, hf, Except.map]
  rfl

theorem runs_change_ofTables (h : r.get t = some rows) (f : List ρ → α × List ρ) :
    (change r f).Runs (.ofTables t) (.ok (f rows).1) (.ofTables (r.set t (some (f rows).2))) :=
  runs_statement_ofTables h rfl

theorem runs_query_ofTables (h : r.get t = some rows) {f : List ρ → Except StatementFault α} {a : α}
    (hf : f rows = .ok a) : (query r f).Runs (.ofTables t) (.ok a) (.ofTables t) := by
  have hrows : r.get (Store.ofTables t).tables = some rows := h
  simp only [Runs, query, ExceptT.run_mk, StateT.run, attempt_ofTables, onRows, hrows, hf, Except.map]

/-- What a query comes to, or fails by, is what its function makes of the rows. -/
theorem outcome_query_ofTables (h : r.get t = some rows) (f : List ρ → Except StatementFault α) :
    (query r f).outcome (.ofTables t) = (f rows).mapError .statement := by
  have hrows : r.get (Store.ofTables t).tables = some rows := h
  simp only [outcome, query, ExceptT.run_mk, StateT.run, attempt_ofTables, onRows, hrows]
  cases f rows <;> rfl

/-- What follows a run comes to what it comes to on the store that the run has left. -/
theorem Runs.outcome_bind {β : Type} {a : Access α} {f : α → Access β} {x : α} {s s' : Store}
    (h : a.Runs s (.ok x) s') : (a >>= f).outcome s = (f x).outcome s' :=
  congrArg Prod.fst (h.bind (runs_after (f x) s'))

/-- A group of statements comes to what its program comes to. -/
theorem runs_atomically_ofTables {act : Access α} {a : α} {t' : Tables}
    (h : act.Runs (.ofTables t) (.ok a) (.ofTables t')) :
    (atomically act).Runs (.ofTables t) (.ok a) (.ofTables t') := by
  have hbegin : markWriting.run (.ofTables t) = (.ok (), .ofTables t) := rfl
  have hend : (do let a ← act; mark; return a : Access α).run (.ofTables t) =
      (.ok a, .ofTables t') := h.bind rfl
  simp only [Runs, atomically, ExceptT.run_mk, StateT.run, hbegin, hend]

end TurnTaking.Store.Access
