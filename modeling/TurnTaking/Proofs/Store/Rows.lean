import TurnTaking.Proofs.Store.Frame
import TurnTaking.Proofs.Store.Table

/-!
# Rows — adding a row, and taking it back

A statement that adds a row says whether the key of the row was free, and changes nothing where it was
not. Removing the rows under that key takes the row back, and nothing else.

* `Relation.Lawful` — rows that were written are read again, and writing what is there changes nothing;
* `Added`, `runs_add`, `runs_add_bind`, `runs_insert` — what an attempt to add a row comes to;
* `Added.takenBack` — the tables before and after both are the same.
-/

namespace TurnTaking.Store

/-- The place of a table: what was written there is read there, and nothing else is touched. -/
structure Relation.Lawful {ρ : Type} (r : Relation ρ) : Prop where
  get_set : ∀ t rows, r.get (r.set t rows) = rows
  set_get : ∀ t, r.set t (r.get t) = t
  set_set : ∀ t rows rows', r.set (r.set t rows) rows' = r.set t rows'

theorem Relation.lawful_presence : Relation.presence.Lawful :=
  ⟨fun _ _ => rfl, fun _ => rfl, fun _ _ _ => rfl⟩

theorem Relation.lawful_leases : Relation.leases.Lawful :=
  ⟨fun _ _ => rfl, fun _ => rfl, fun _ _ _ => rfl⟩

theorem Relation.lawful_locks : Relation.locks.Lawful :=
  ⟨fun _ _ => rfl, fun _ => rfl, fun _ _ _ => rfl⟩

theorem Relation.lawful_responders : Relation.responders.Lawful :=
  ⟨fun _ _ => rfl, fun _ => rfl, fun _ _ _ => rfl⟩

/-- When the rows under the key of a new row are removed, the others are left. -/
theorem Table.remove_append {ρ κ : Type} [DecidableEq κ] {key : ρ → κ} {row : ρ} {rows : List ρ}
    (hfree : Table.holds key (key row) rows = false) :
    (Table.remove (key · = key row) (rows ++ [row])).2 = rows := by
  rw [Table.holds, List.any_eq_false] at hfree
  rw [Table.remove, List.filter_append]
  have hothers : rows.filter (fun old => !decide (key old = key row)) = rows := by
    apply List.filter_eq_self.mpr
    intro old hold
    simpa using hfree old hold
  rw [hothers]
  simp

namespace Access

variable {ρ κ : Type} [DecidableEq κ] {r : Relation ρ} {key : ρ → κ} {row : ρ}

/-- The row was added under a key that was free, as the last of its table. No other table changed. -/
def Added (r : Relation ρ) (key : ρ → κ) (row : ρ) (before after : Tables) : Prop :=
  ∃ rows, r.get before = some rows ∧ Table.holds key (key row) rows = false ∧
    after = r.set before (some (rows ++ [row]))

/-- An attempt to add a row adds it if its key is free, and else changes nothing. A fault is counted, and
changes nothing either. -/
theorem runs_add (hr : r.Lawful) {x : Except Fault Bool} {s s' : Store}
    (h : (change r (Table.add key row)).Runs s x s') :
    (x = .ok true ∧ s'.failures = s.failures ∧ Added r key row s.tables s'.tables) ∨
      (x = .ok false ∧ s'.failures = s.failures ∧ s'.tables = s.tables ∧
        ∃ rows, r.get s.tables = some rows ∧ Table.holds key (key row) rows = true) ∨
      ((∃ f, x = .error f) ∧ Faulted s s') := by
  rcases runs_change h with ⟨rows, hrows, rfl, htables, hfailures⟩ | hfault
  · rw [Table.add] at htables ⊢
    cases hholds : Table.holds key (key row) rows with
    | false =>
      rw [hholds] at htables
      exact Or.inl ⟨rfl, hfailures, rows, hrows, hholds, htables⟩
    | true =>
      -- the rows are written back as they were read
      rw [hholds, if_pos rfl, ← hrows, hr.set_get] at htables
      exact Or.inr (Or.inl ⟨rfl, hfailures, htables, rows, hrows, hholds⟩)
  · exact Or.inr (Or.inr hfault)

/-- An attempt may come to a result of its own for each answer. -/
theorem runs_add_bind (hr : r.Lawful) {α : Type} {f : Bool → Access α} {x : Except Fault α}
    {s s' : Store} (h : (change r (Table.add key row) >>= f).Runs s x s') {added refused : α}
    (hadded : f true = pure added) (hrefused : f false = pure refused) :
    (x = .ok added ∧ s'.failures = s.failures ∧ Added r key row s.tables s'.tables) ∨
      (x = .ok refused ∧ s'.failures = s.failures ∧ s'.tables = s.tables ∧
        ∃ rows, r.get s.tables = some rows ∧ Table.holds key (key row) rows = true) ∨
      ((∃ f, x = .error f) ∧ Faulted s s') := by
  rcases runs_bind h with ⟨answer, s₁, hattempt, hrest⟩ | ⟨e, hattempt, rfl⟩
  · rcases runs_add hr hattempt with
      ⟨hanswer, hfailures, hrows⟩ | ⟨hanswer, hfailures, htables, hheld⟩ | ⟨⟨_, he⟩, -⟩
    · obtain rfl := Except.ok.inj hanswer
      rw [hadded] at hrest
      obtain ⟨rfl, rfl⟩ := runs_pure hrest
      exact Or.inl ⟨rfl, hfailures, hrows⟩
    · obtain rfl := Except.ok.inj hanswer
      rw [hrefused] at hrest
      obtain ⟨rfl, rfl⟩ := runs_pure hrest
      exact Or.inr (Or.inl ⟨rfl, hfailures, htables, hheld⟩)
    · cases he
  · rcases runs_add hr hattempt with ⟨he, -⟩ | ⟨he, -⟩ | ⟨-, hfault⟩
    · cases he
    · cases he
    · exact Or.inr (Or.inr ⟨⟨e, rfl⟩, hfault⟩)

/-- A statement that insists on a free key came to a result, so that the row was added. -/
theorem runs_insert {cause : StatementFault} {x : Unit} {s s' : Store}
    (h : (statement r fun rows =>
      let (added, rows) := Table.add key row rows
      if added then .ok ((), rows) else .error cause).Runs s (.ok x) s') :
    Added r key row s.tables s'.tables := by
  obtain ⟨rows, rows', hrows, hadded, htables⟩ := runs_statement_ok h
  rw [Table.add] at hadded
  cases hholds : Table.holds key (key row) rows with
  | true =>
    simp only [hholds, if_true, Bool.false_eq_true, if_false] at hadded
    cases hadded
  | false =>
    simp only [hholds, Bool.false_eq_true, if_false, if_true] at hadded
    obtain ⟨-, rfl⟩ := Prod.mk.inj (Except.ok.inj hadded)
    exact ⟨rows, hrows, hholds, htables⟩

/-- A row that was added is taken back by removing the rows under its key. -/
theorem Added.takenBack (hr : r.Lawful) {t : Tables} {s s' : Store} {n : Nat}
    (h : Added r key row t s.tables)
    (hrun : (change r (Table.remove (key · = key row))).Runs s (.ok n) s') : s'.tables = t := by
  obtain ⟨rows, hrows, hfree, hadded⟩ := h
  obtain ⟨rows', hrows', -, htables⟩ := runs_change_ok hrun
  obtain rfl : rows ++ [row] = rows' := by
    rw [hadded, hr.get_set] at hrows'
    exact Option.some.inj hrows'
  rw [htables, hadded, hr.set_set, Table.remove_append hfree, ← hrows, hr.set_get]

end Access

end TurnTaking.Store
