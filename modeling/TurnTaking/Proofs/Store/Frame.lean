import TurnTaking.Store.Access

/-!
# Frames — what an access leaves alone

An access is opened by inversion: `runs_bind`, `runs_query`, `runs_statement` and their like say what a
run that was seen says about its parts. From that follow the frames:

* `Relation.Hidden` — a view of the tables does not show a table, as `Relation.aside` does not;
* `Frames` — an access leaves a view as it was, whatever comes of it, and forgets no failure.

Frames hold of a program over a store as soon as they hold of its statements (`Frames.bind`,
`Frames.change`, `Frames.query`, `Frames.atomically`).
-/

namespace TurnTaking.Store

/-- A view of the tables does not show the table. -/
def Relation.Hidden {ρ β : Type} (r : Relation ρ) (view : Tables → β) : Prop :=
  ∀ t rows, view (r.set t rows) = view t

/-- The tables without one of them. -/
def Relation.aside {ρ : Type} (r : Relation ρ) (t : Tables) : Tables := r.set t none

/-- A reading that came to a result came to one in each of its parts. -/
theorem reading_ok {α β : Type} {a : Except StatementFault α} {f : α → Except StatementFault β} {y : β}
    (h : (a >>= f) = .ok y) : ∃ x, a = .ok x ∧ f x = .ok y := by
  cases a with
  | error e => cases h
  | ok x => exact ⟨x, rfl, h⟩

namespace Access

variable {α β γ ρ : Type}

/-- The access, made on one store, comes to a result and leaves another store. -/
def Runs (a : Access α) (s : Store) (x : Except Fault α) (s' : Store) : Prop :=
  a.run.run s = (x, s')

/-- What an access comes to. -/
def outcome (a : Access α) (s : Store) : Except Fault α := (a.run.run s).1

def after (a : Access α) (s : Store) : Store := (a.run.run s).2

theorem runs_after (a : Access α) (s : Store) : a.Runs s (a.outcome s) (a.after s) := rfl

theorem Runs.unique {a : Access α} {s s' s'' : Store} {x y : Except Fault α} (h : a.Runs s x s')
    (h' : a.Runs s y s'') : x = y ∧ s' = s'' := Prod.mk.inj (h.symm.trans h')

/-! ## Inversion -/

theorem runs_pure {x : α} {y : Except Fault α} {s s' : Store}
    (h : (pure x : Access α).Runs s y s') : y = .ok x ∧ s' = s :=
  h.unique (rfl : (pure x : Access α).Runs s (.ok x) s)

/-- A run of one access after another is a run of both, or ended in a fault of the first. -/
theorem runs_bind {a : Access α} {f : α → Access β} {y : Except Fault β} {s s'' : Store}
    (h : (a >>= f).Runs s y s'') :
    (∃ x s', a.Runs s (.ok x) s' ∧ (f x).Runs s' y s'') ∨
      ∃ e, a.Runs s (.error e) s'' ∧ y = .error e := by
  rcases ha : a.run.run s with ⟨e | x, s'⟩
  · have hb : (a >>= f).Runs s (.error e) s' := by
      rw [Runs, ExceptT.run_bind, StateT.run_bind, ha]
      rfl
    obtain ⟨rfl, rfl⟩ := hb.unique h
    exact .inr ⟨e, ha, rfl⟩
  · have hb : (a >>= f).run.run s = (f x).run.run s' := by
      rw [ExceptT.run_bind, StateT.run_bind, ha]
      rfl
    exact .inl ⟨x, s', ha, hb.symm.trans h⟩

/-- Runs of one access after another. -/
theorem Runs.bind {a : Access α} {f : α → Access β} {x : α} {y : Except Fault β} {s s' s'' : Store}
    (ha : a.Runs s (.ok x) s') (hf : (f x).Runs s' y s'') : (a >>= f).Runs s y s'' := by
  have hrun : a.run.run s = (.ok x, s') := ha
  rw [Runs, ExceptT.run_bind, StateT.run_bind, hrun]
  exact hf

theorem Runs.bind_error {a : Access α} {f : α → Access β} {e : Fault} {s s' : Store}
    (ha : a.Runs s (.error e) s') : (a >>= f).Runs s (.error e) s' := by
  have hrun : a.run.run s = (.error e, s') := ha
  rw [Runs, ExceptT.run_bind, StateT.run_bind, hrun]
  rfl

/-- What follows leaves the store as it is. -/
theorem after_bind {a : Access α} {f : α → Access β} (hf : ∀ x s, (f x).after s = s) (s : Store) :
    (a >>= f).after s = a.after s := by
  rcases runs_bind (runs_after (a >>= f) s) with ⟨x, s', hfirst, hrest⟩ | ⟨e, hfirst, -⟩
  · rw [((runs_after a s).unique hfirst).2, ← ((runs_after (f x) s').unique hrest).2, hf]
  · exact ((runs_after a s).unique hfirst).2.symm

/-- How the database may answer a statement: it takes the statement, or it fails, and there are fewer
outages to come. -/
theorem attempt_cases (s : Store) :
    (∃ rest, s.poisoned = false ∧ attempt s = (.ok (), { s with outages := rest })) ∨
      ∃ e rest, attempt s = (.error e, { s with outages := rest, failures := s.failures + 1 }) ∧
        (s.poisoned = false → rest.length < s.outages.length) := by
  unfold attempt
  split
  · rename_i hpoisoned
    refine .inr ⟨.poisoned, s.outages, rfl, fun hsound => ?_⟩
    rw [hpoisoned] at hsound
    cases hsound
  · rename_i hsound
    split
    · rename_i reason rest hout
      refine .inr ⟨_, rest, rfl, fun _ => ?_⟩
      rw [hout]
      exact Nat.lt_succ_self _
    · exact .inl ⟨_, eq_false_of_ne_true hsound, rfl⟩
    · exact .inl ⟨s.outages, eq_false_of_ne_true hsound, rfl⟩

/-- A fault was counted, and no table changed. -/
structure Faulted (s s' : Store) : Prop where
  tables : s'.tables = s.tables
  failures : s.failures < s'.failures

/-- A view of the tables is as it was, and no failure was forgotten. -/
structure Unseen {β : Type} (view : Tables → β) (s s' : Store) : Prop where
  view : view s'.tables = view s.tables
  failures : s.failures ≤ s'.failures

namespace Unseen

variable {view : Tables → β} {s s' s'' : Store}

theorem refl (s : Store) : Unseen view s s := ⟨rfl, Nat.le_refl _⟩

theorem trans (h : Unseen view s s') (h' : Unseen view s' s'') : Unseen view s s'' :=
  ⟨h'.view.trans h.view, Nat.le_trans h.failures h'.failures⟩

/-- What left all tables alone is seen by no view. -/
theorem of_tables (h : s'.tables = s.tables) (hf : s.failures ≤ s'.failures) : Unseen view s s' :=
  ⟨congrArg view h, hf⟩

/-- Where nothing besides one table changed, a view without that table shows no change. -/
theorem beside {r : Relation ρ} (h : Unseen r.aside s s') (hr : r.Hidden view) : Unseen view s s' where
  view := (hr s'.tables none).symm.trans ((congrArg view h.view).trans (hr s.tables none))
  failures := h.failures

end Unseen

/-- A statement that failed changed nothing of the view. -/
theorem Faulted.unseen {view : Tables → β} {s s' : Store} (h : Faulted s s') : Unseen view s s' :=
  .of_tables h.tables (Nat.le_of_lt h.failures)

/-- A statement that writes does what its function does to the rows, or ends in a fault that is counted
and changes no table. -/
theorem runs_statement {r : Relation ρ} {f : List ρ → Except StatementFault (α × List ρ)}
    {x : Except Fault α} {s s' : Store} (h : (statement r f).Runs s x s') :
    (∃ rows a rows', r.get s.tables = some rows ∧ f rows = .ok (a, rows') ∧ x = .ok a ∧
        s'.tables = r.set s.tables (some rows') ∧ s'.failures = s.failures) ∨
      (∃ e, x = .error e) ∧ Faulted s s' := by
  have hrun : (statement r f).run.run s = (x, s') := h
  rcases attempt_cases s with ⟨rest, -, ha⟩ | ⟨e, rest, ha, -⟩
  · simp only [statement, ExceptT.run_mk, StateT.run, ha, onRows] at hrun
    cases hg : r.get s.tables with
    | none =>
      -- the table is missing
      simp only [hg, failed] at hrun
      obtain ⟨rfl, rfl⟩ := hrun
      exact .inr ⟨⟨_, rfl⟩, rfl, Nat.lt_succ_self _⟩
    | some rows =>
      simp only [hg, writable] at hrun
      cases hro : s.readOnly with
      | true =>
        -- the store may not be written
        simp only [hro, if_true, Except.bind, Except.map, failed] at hrun
        obtain ⟨rfl, rfl⟩ := hrun
        exact .inr ⟨⟨_, rfl⟩, rfl, Nat.lt_succ_self _⟩
      | false =>
        simp only [hro, Bool.false_eq_true, if_false, Except.bind] at hrun
        rcases hf : f rows with cause | ⟨a, rows'⟩
        · -- the statement itself fails
          simp only [hf, Except.map, failed] at hrun
          obtain ⟨rfl, rfl⟩ := hrun
          exact .inr ⟨⟨_, rfl⟩, rfl, Nat.lt_succ_self _⟩
        · simp only [hf, Except.map] at hrun
          obtain ⟨rfl, rfl⟩ := hrun
          exact .inl ⟨rows, a, rows', rfl, hf, rfl, rfl, rfl⟩
  · -- the store cannot be used
    simp only [statement, ExceptT.run_mk, StateT.run, ha] at hrun
    obtain ⟨rfl, rfl⟩ := hrun
    exact .inr ⟨⟨_, rfl⟩, rfl, Nat.lt_succ_self _⟩

/-- A statement that only reads comes to what its function makes of the rows, or ends in a fault that is
counted. It changes no table. -/
theorem runs_query {r : Relation ρ} {f : List ρ → Except StatementFault α} {x : Except Fault α}
    {s s' : Store} (h : (query r f).Runs s x s') :
    (∃ rows a, r.get s.tables = some rows ∧ f rows = .ok a ∧ x = .ok a ∧
        s'.tables = s.tables ∧ s'.failures = s.failures) ∨
      (∃ e, x = .error e) ∧ Faulted s s' := by
  have hrun : (query r f).run.run s = (x, s') := h
  rcases attempt_cases s with ⟨rest, -, ha⟩ | ⟨e, rest, ha, -⟩
  · simp only [query, ExceptT.run_mk, StateT.run, ha, onRows] at hrun
    cases hg : r.get s.tables with
    | none =>
      simp only [hg, failed] at hrun
      obtain ⟨rfl, rfl⟩ := hrun
      exact .inr ⟨⟨_, rfl⟩, rfl, Nat.lt_succ_self _⟩
    | some rows =>
      rcases hf : f rows with cause | a
      · simp only [hg, hf, Except.map, failed] at hrun
        obtain ⟨rfl, rfl⟩ := hrun
        exact .inr ⟨⟨_, rfl⟩, rfl, Nat.lt_succ_self _⟩
      · simp only [hg, hf, Except.map] at hrun
        obtain ⟨rfl, rfl⟩ := hrun
        exact .inl ⟨rows, a, rfl, hf, rfl, rfl, rfl⟩
  · simp only [query, ExceptT.run_mk, StateT.run, ha] at hrun
    obtain ⟨rfl, rfl⟩ := hrun
    exact .inr ⟨⟨_, rfl⟩, rfl, Nat.lt_succ_self _⟩

/-- A statement that cannot fail by what it finds does what its function does to the rows, or ends in a
fault that is counted and changes no table. -/
theorem runs_change {r : Relation ρ} {f : List ρ → α × List ρ} {x : Except Fault α} {s s' : Store}
    (h : (change r f).Runs s x s') :
    (∃ rows, r.get s.tables = some rows ∧ x = .ok (f rows).1 ∧
        s'.tables = r.set s.tables (some (f rows).2) ∧ s'.failures = s.failures) ∨
      (∃ e, x = .error e) ∧ Faulted s s' := by
  rcases runs_statement h with ⟨rows, a, rows', hget, hf, rfl, htables, hfailures⟩ | hfault
  · have hf' : f rows = (a, rows') := Except.ok.inj hf
    refine .inl ⟨rows, hget, ?_, ?_, hfailures⟩
    · rw [hf']
    · rw [hf', htables]
  · exact .inr hfault

/-- What was returned is read as it is, or a fault is counted. -/
theorem runs_ofReading {result : Except StatementFault α} {x : Except Fault α} {s s' : Store}
    (h : (ofReading result).Runs s x s') :
    (∃ a, result = .ok a ∧ x = .ok a ∧ s' = s) ∨ (∃ e, x = .error e) ∧ Faulted s s' := by
  have hrun : (ofReading result).run.run s = (x, s') := h
  cases result with
  | ok a =>
    simp only [ofReading, ExceptT.run_mk, StateT.run] at hrun
    obtain ⟨rfl, rfl⟩ := hrun
    exact .inl ⟨a, rfl, rfl, rfl⟩
  | error cause =>
    simp only [ofReading, ExceptT.run_mk, StateT.run, failed] at hrun
    obtain ⟨rfl, rfl⟩ := hrun
    exact .inr ⟨⟨_, rfl⟩, rfl, Nat.lt_succ_self _⟩

/-- The end of a group of statements changes no table. -/
theorem runs_mark {view : Tables → β} {x : Except Fault Unit} {s s' : Store}
    (h : mark.Runs s x s') : Unseen view s s' := by
  have hrun : attempt s = (x, s') := h
  rcases attempt_cases s with ⟨rest, -, ha⟩ | ⟨e, rest, ha, -⟩
  · obtain ⟨-, rfl⟩ := Prod.mk.inj (ha.symm.trans hrun)
    exact ⟨rfl, Nat.le_refl _⟩
  · obtain ⟨-, rfl⟩ := Prod.mk.inj (ha.symm.trans hrun)
    exact ⟨rfl, Nat.le_succ _⟩

/-- The beginning of a group of statements changes no table. -/
theorem runs_markWriting {view : Tables → β} {x : Except Fault Unit} {s s' : Store}
    (h : markWriting.Runs s x s') : Unseen view s s' := by
  rcases runs_bind h with ⟨_, s₁, hmark, hrest⟩ | ⟨e, hmark, -⟩
  · have h₁ : Unseen view s s₁ := runs_mark hmark
    have hread : (ofReading (writable s₁)).Runs s₁ x s' := hrest
    rcases runs_ofReading hread with ⟨_, -, -, rfl⟩ | ⟨-, hfault⟩
    · exact h₁
    · exact h₁.trans hfault.unseen
  · exact runs_mark hmark

/-- A group of statements ends in a fault of its beginning, or runs its program and comes to its end. A fault
there leaves the tables as they were before the group. -/
theorem runs_group {act : Access α} {x : Except Fault α} {s s' : Store}
    (h : (atomically act).Runs s x s') :
    (∃ e, x = .error e ∧ markWriting.Runs s (.error e) s') ∨
      ∃ s₁ s₂, markWriting.Runs s (.ok ()) s₁ ∧
        (do let a ← act; mark; return a : Access α).Runs s₁ x s₂ ∧ s'.failures = s₂.failures ∧
        (((∃ a, x = .ok a) ∧ s' = s₂) ∨ ((∃ e, x = .error e) ∧ s'.tables = s.tables)) := by
  have hrun : (atomically act).run.run s = (x, s') := h
  rcases hb : markWriting.run.run s with ⟨e | _, s₁⟩
  · have hall : (atomically act).Runs s (.error e) s₁ := by
      simp only [Runs, atomically, ExceptT.run_mk, StateT.run] at hb ⊢
      rw [hb]
    obtain ⟨rfl, rfl⟩ := hall.unique h
    exact .inl ⟨e, rfl, hb⟩
  · rcases hm : (do let a ← act; mark; return a : Access α).run.run s₁ with ⟨e | a, s₂⟩
    · have hall : (atomically act).Runs s (.error e) { s₂ with tables := s.tables } := by
        simp only [Runs, atomically, ExceptT.run_mk, StateT.run] at hb hm ⊢
        rw [hb]
        simp only [hm]
      obtain ⟨rfl, rfl⟩ := hall.unique h
      exact .inr ⟨s₁, s₂, hb, hm, rfl, .inr ⟨⟨e, rfl⟩, rfl⟩⟩
    · have hall : (atomically act).Runs s (.ok a) s₂ := by
        simp only [Runs, atomically, ExceptT.run_mk, StateT.run] at hb hm ⊢
        rw [hb]
        simp only [hm]
      obtain ⟨rfl, rfl⟩ := hall.unique h
      exact .inr ⟨s₁, s₂, hb, hm, rfl, .inl ⟨⟨a, rfl⟩, rfl⟩⟩

/-- A group of statements that came to a result ran as its program did, between a beginning and an end
that change no table. One that ended in a fault changed nothing. -/
theorem runs_atomically {act : Access α} {x : Except Fault α} {s s' : Store}
    (h : (atomically act).Runs s x s') :
    (∃ a s₁ s₂, x = .ok a ∧ Unseen id s s₁ ∧ act.Runs s₁ (.ok a) s₂ ∧ Unseen id s₂ s') ∨
      ((∃ e, x = .error e) ∧ s'.tables = s.tables ∧
        (Unseen id s s' ∨ ∃ s₁ y s₂, s.failures ≤ s₁.failures ∧ act.Runs s₁ y s₂ ∧
          s₂.failures ≤ s'.failures)) := by
  rcases runs_group h with ⟨e, rfl, hb⟩ | ⟨s₁, s₂, hb, hm, hfailures, hend⟩
  · -- the transaction could not begin
    have hbegin : Unseen id s s' := runs_markWriting hb
    exact .inr ⟨⟨e, rfl⟩, hbegin.view, .inl hbegin⟩
  · have hbegin : Unseen id s s₁ := runs_markWriting hb
    rcases hend with ⟨⟨a, rfl⟩, rfl⟩ | ⟨⟨e, rfl⟩, htables⟩
    · -- its statements succeeded
      rcases runs_bind hm with ⟨b, s₃, hact, hlast⟩ | ⟨_, -, he⟩
      · rcases runs_bind hlast with ⟨_, s₄, hmark, hret⟩ | ⟨_, -, he⟩
        · obtain ⟨hab, rfl⟩ := runs_pure hret
          obtain rfl := Except.ok.inj hab
          exact .inl ⟨a, s₁, s₃, rfl, hbegin, hact, runs_mark hmark⟩
        · exact absurd he (by simp)
      · exact absurd he (by simp)
    · -- one failed, and the tables are those from before
      refine .inr ⟨⟨e, rfl⟩, htables, .inr ?_⟩
      rw [hfailures]
      rcases runs_bind hm with ⟨a, s₃, hact, hlast⟩ | ⟨e', hact, -⟩
      · refine ⟨s₁, .ok a, s₃, hbegin.failures, hact, ?_⟩
        rcases runs_bind hlast with ⟨_, s₄, hmark, hret⟩ | ⟨_, hmark, -⟩
        · obtain ⟨he, -⟩ := runs_pure hret
          exact absurd he (by simp)
        · have hlost : Unseen id s₃ s₂ := runs_mark hmark
          exact hlost.failures
      · exact ⟨s₁, .error e', s₂, hbegin.failures, hact, Nat.le_refl _⟩

/-! ## Faults -/

/-- The access forgets no failure, and a fault in which it ends is counted as one. -/
structure Counts (a : Access α) : Prop where
  failures : ∀ {s x s'}, a.Runs s x s' → s.failures ≤ s'.failures
  counted : ∀ {s f s'}, a.Runs s (.error f) s' → s.failures < s'.failures

namespace Counts

theorem pure (x : α) : Counts (pure x : Access α) where
  failures h := by
    obtain ⟨-, rfl⟩ := runs_pure h
    exact Nat.le_refl _
  counted h := by
    obtain ⟨hx, -⟩ := runs_pure h
    cases hx

theorem bind {a : Access α} {f : α → Access β} (ha : Counts a) (hf : ∀ x, Counts (f x)) :
    Counts (a >>= f) where
  failures h := by
    rcases runs_bind h with ⟨x, s', hfirst, hrest⟩ | ⟨_, hfirst, -⟩
    · exact Nat.le_trans (ha.failures hfirst) ((hf x).failures hrest)
    · exact ha.failures hfirst
  counted h := by
    rcases runs_bind h with ⟨x, s', hfirst, hrest⟩ | ⟨_, hfirst, -⟩
    · exact Nat.lt_of_le_of_lt (ha.failures hfirst) ((hf x).counted hrest)
    · exact ha.counted hfirst

theorem statement (r : Relation ρ) (f : List ρ → Except StatementFault (α × List ρ)) :
    Counts (statement r f) where
  failures h := by
    rcases runs_statement h with ⟨_, _, _, -, -, -, -, hfailures⟩ | ⟨-, hfault⟩
    · exact Nat.le_of_eq hfailures.symm
    · exact Nat.le_of_lt hfault.failures
  counted h := by
    rcases runs_statement h with ⟨_, _, _, -, -, hx, -⟩ | ⟨-, hfault⟩
    · cases hx
    · exact hfault.failures

theorem change (r : Relation ρ) (f : List ρ → α × List ρ) : Counts (change r f) := statement r _

theorem query (r : Relation ρ) (f : List ρ → Except StatementFault α) : Counts (query r f) where
  failures h := by
    rcases runs_query h with ⟨_, _, -, -, -, -, hfailures⟩ | ⟨-, hfault⟩
    · exact Nat.le_of_eq hfailures.symm
    · exact Nat.le_of_lt hfault.failures
  counted h := by
    rcases runs_query h with ⟨_, _, -, -, hx, -⟩ | ⟨-, hfault⟩
    · cases hx
    · exact hfault.failures

theorem ofReading (result : Except StatementFault α) : Counts (ofReading result) where
  failures h := by
    rcases runs_ofReading h with ⟨_, -, -, rfl⟩ | ⟨-, hfault⟩
    · exact Nat.le_refl _
    · exact Nat.le_of_lt hfault.failures
  counted h := by
    rcases runs_ofReading h with ⟨_, -, hx, -⟩ | ⟨-, hfault⟩
    · cases hx
    · exact hfault.failures

theorem mark : Counts mark where
  failures := by
    intro s x s' h
    have hend : Unseen id s s' := runs_mark h
    exact hend.failures
  counted := by
    intro s f s' h
    have hrun : attempt s = (.error f, s') := h
    rcases attempt_cases s with ⟨rest, -, ha⟩ | ⟨e, rest, ha, -⟩
    · cases (Prod.mk.inj (ha.symm.trans hrun)).1
    · obtain ⟨-, rfl⟩ := Prod.mk.inj (ha.symm.trans hrun)
      exact Nat.lt_succ_self _

theorem markWriting : Counts markWriting := by
  refine mark.bind fun _ => ⟨?_, ?_⟩
  · intro s x s' h
    have hread : (Access.ofReading (writable s)).Runs s x s' := h
    exact (ofReading _).failures hread
  · intro s f s' h
    have hread : (Access.ofReading (writable s)).Runs s (.error f) s' := h
    exact (ofReading _).counted hread

theorem atomically {act : Access α} (hact : Counts act) : Counts (atomically act) := by
  have hgroup : Counts (do let a ← act; Access.mark; return a : Access α) :=
    hact.bind fun a => mark.bind fun _ => .pure a
  constructor
  · intro s x s' h
    rcases runs_group h with ⟨e, rfl, hbegin⟩ | ⟨s₁, s₂, hbegin, hrest, hfailures, -⟩
    · exact markWriting.failures hbegin
    · rw [hfailures]
      exact Nat.le_trans (markWriting.failures hbegin) (hgroup.failures hrest)
  · intro s f s' h
    rcases runs_group h with ⟨e, -, hbegin⟩ | ⟨s₁, s₂, hbegin, hrest, hfailures, -⟩
    · exact markWriting.counted hbegin
    · rw [hfailures]
      exact Nat.lt_of_le_of_lt (markWriting.failures hbegin) (hgroup.counted hrest)

end Counts

/-! ## Runs without a fault -/

/-- A run that succeeds does so in both parts. -/
theorem runs_bind_ok {a : Access α} {f : α → Access β} {y : β} {s s'' : Store}
    (h : (a >>= f).Runs s (.ok y) s'') :
    ∃ x s', a.Runs s (.ok x) s' ∧ (f x).Runs s' (.ok y) s'' := by
  rcases runs_bind h with hboth | ⟨e, -, he⟩
  · exact hboth
  · cases he

theorem runs_pure_ok {x y : α} {s s' : Store} (h : (pure x : Access α).Runs s (.ok y) s') :
    y = x ∧ s' = s := by
  obtain ⟨hy, hs⟩ := runs_pure h
  exact ⟨Except.ok.inj hy, hs⟩

/-- A statement that succeeds read its table and left the new rows. -/
theorem runs_statement_ok {r : Relation ρ} {f : List ρ → Except StatementFault (α × List ρ)} {a : α}
    {s s' : Store} (h : (statement r f).Runs s (.ok a) s') :
    ∃ rows rows', r.get s.tables = some rows ∧ f rows = .ok (a, rows') ∧
      s'.tables = r.set s.tables (some rows') := by
  rcases runs_statement h with ⟨rows, b, rows', hget, hf, hab, htables, -⟩ | ⟨⟨e, he⟩, -⟩
  · obtain rfl := Except.ok.inj hab
    exact ⟨rows, rows', hget, hf, htables⟩
  · cases he

theorem runs_change_ok {r : Relation ρ} {f : List ρ → α × List ρ} {a : α} {s s' : Store}
    (h : (change r f).Runs s (.ok a) s') :
    ∃ rows, r.get s.tables = some rows ∧ a = (f rows).1 ∧
      s'.tables = r.set s.tables (some (f rows).2) := by
  rcases runs_change h with ⟨rows, hget, ha, htables, -⟩ | ⟨⟨e, he⟩, -⟩
  · exact ⟨rows, hget, Except.ok.inj ha, htables⟩
  · cases he

theorem runs_query_ok {r : Relation ρ} {f : List ρ → Except StatementFault α} {a : α} {s s' : Store}
    (h : (query r f).Runs s (.ok a) s') :
    ∃ rows, r.get s.tables = some rows ∧ f rows = .ok a ∧ s'.tables = s.tables := by
  rcases runs_query h with ⟨rows, b, hget, hf, hab, htables, -⟩ | ⟨⟨e, he⟩, -⟩
  · obtain rfl := Except.ok.inj hab
    exact ⟨rows, hget, hf, htables⟩
  · cases he

/-! ## Stores that take statements again -/

/-- Nothing but an outage keeps a statement on the table from taking effect. -/
structure Serves (r : Relation ρ) (s : Store) : Prop where
  sound : s.poisoned = false
  mayWrite : s.readOnly = false
  table : ∃ rows, r.get s.tables = some rows

/-- Where a statement took effect, nothing but an outage keeps the next from it. -/
theorem Serves.of_change {r : Relation ρ} (hr : ∀ t rows, r.get (r.set t rows) = rows)
    {f : List ρ → α × List ρ} {a : α} {s s' : Store} (h : (change r f).Runs s (.ok a) s') :
    Serves r s' := by
  obtain ⟨rows, hrows, -, htables⟩ := runs_change_ok h
  have hrun : (change r f).run.run s = (.ok a, s') := h
  rcases attempt_cases s with ⟨rest, hsound, ha⟩ | ⟨e, rest, ha, -⟩
  · simp only [change, statement, ExceptT.run_mk, StateT.run, ha, onRows, hrows, Access.writable] at hrun
    cases hro : s.readOnly with
    | true =>
      simp only [hro, if_true, Except.bind, Except.map] at hrun
      cases (Prod.mk.inj hrun).1
    | false =>
      simp only [hro, Bool.false_eq_true, if_false, Except.bind, Except.map] at hrun
      obtain ⟨-, rfl⟩ := Prod.mk.inj hrun
      exact ⟨hsound, rfl, _, hr _ _⟩
  · simp only [change, statement, ExceptT.run_mk, StateT.run, ha] at hrun
    cases (Prod.mk.inj hrun).1

/-- Where nothing but an outage may keep a statement from taking effect, it takes effect or there are
fewer outages to come. -/
theorem Serves.change {r : Relation ρ} {s : Store} (h : Serves r s) (f : List ρ → α × List ρ) :
    (∃ a s', (change r f).Runs s (.ok a) s') ∨
      ∃ e s', (change r f).Runs s (.error e) s' ∧ s'.tables = s.tables ∧ Serves r s' ∧
        s'.outages.length < s.outages.length := by
  obtain ⟨rows, hrows⟩ := h.table
  rcases attempt_cases s with ⟨rest, -, ha⟩ | ⟨e, rest, ha, hfewer⟩
  · refine .inl ⟨(f rows).1, { s with outages := rest, tables := r.set s.tables (some (f rows).2) }, ?_⟩
    simp only [Runs, Access.change, statement, ExceptT.run_mk, StateT.run, ha, onRows, hrows,
      Access.writable, h.mayWrite, Bool.false_eq_true, if_false, Except.bind, Except.map]
  · refine .inr ⟨e, { s with outages := rest, failures := s.failures + 1 }, ?_, rfl,
      ⟨h.sound, h.mayWrite, rows, hrows⟩, hfewer h.sound⟩
    simp only [Runs, Access.change, statement, ExceptT.run_mk, StateT.run, ha]

/-! ## Frames -/

/-- The access leaves a view of the tables as it was, whatever comes of it, and forgets no failure. -/
def Frames (view : Tables → β) (a : Access α) : Prop :=
  ∀ s x s', a.Runs s x s' → Unseen view s s'

namespace Frames

variable {view : Tables → β}

theorem pure (x : α) : Frames view (pure x : Access α) := by
  intro s y s' h
  obtain ⟨-, rfl⟩ := runs_pure h
  exact .refl s'

theorem throw (e : Fault) : Frames view (throw e : Access α) := by
  intro s y s' h
  obtain ⟨-, rfl⟩ := h.unique (rfl : (MonadExcept.throw e : Access α).Runs s (.error e) s)
  exact .refl s'

/-- Accesses that hide from a view do so one after the other. -/
theorem bind {a : Access α} {f : α → Access γ} (ha : Frames view a) (hf : ∀ x, Frames view (f x)) :
    Frames view (a >>= f) := by
  intro s y s'' h
  rcases runs_bind h with ⟨x, s', h₁, h₂⟩ | ⟨e, h₁, -⟩
  · exact (ha s _ s' h₁).trans (hf x s' _ s'' h₂)
  · exact ha s _ s'' h₁

/-- A statement on a hidden table hides. -/
theorem statement {r : Relation ρ} (hr : r.Hidden view)
    (f : List ρ → Except StatementFault (α × List ρ)) : Frames view (statement r f) := by
  intro s x s' h
  rcases runs_statement h with ⟨_, _, rows', -, -, -, htables, hfailures⟩ | ⟨-, hfault⟩
  · exact ⟨by rw [htables, hr], Nat.le_of_eq hfailures.symm⟩
  · exact hfault.unseen

theorem change {r : Relation ρ} (hr : r.Hidden view) (f : List ρ → α × List ρ) :
    Frames view (change r f) := statement hr _

/-- A view may show the table and yet not what the statement does to it. -/
theorem change_of {r : Relation ρ} {f : List ρ → α × List ρ}
    (hf : ∀ t rows, r.get t = some rows → view (r.set t (some (f rows).2)) = view t) :
    Frames view (Access.change r f) := by
  intro s x s' h
  rcases runs_change h with ⟨rows, hrows, -, htables, hfailures⟩ | ⟨-, hfault⟩
  · exact ⟨by rw [htables, hf s.tables rows hrows], Nat.le_of_eq hfailures.symm⟩
  · exact hfault.unseen

theorem query (r : Relation ρ) (f : List ρ → Except StatementFault α) :
    Frames view (query r f) := by
  intro s x s' h
  rcases runs_query h with ⟨_, _, -, -, -, htables, hfailures⟩ | ⟨-, hfault⟩
  · exact .of_tables htables (Nat.le_of_eq hfailures.symm)
  · exact hfault.unseen

theorem ofReading (result : Except StatementFault α) : Frames view (ofReading result) := by
  intro s x s' h
  rcases runs_ofReading h with ⟨_, -, -, rfl⟩ | ⟨-, hfault⟩
  · exact .refl s'
  · exact hfault.unseen

/-- A transaction hides if its statements do. -/
theorem atomically {act : Access α} (ha : Frames view act) : Frames view (atomically act) := by
  intro s x s' h
  rcases runs_atomically h with
    ⟨a, s₁, s₂, -, hbegin, hact, hend⟩ | ⟨-, htables, hbegin | ⟨s₁, y, s₂, hle, hact, hle'⟩⟩
  · have hmid := ha s₁ _ s₂ hact
    have h₁ : s₁.tables = s.tables := hbegin.view
    have h₂ : s'.tables = s₂.tables := hend.view
    exact (Unseen.of_tables h₁ hbegin.failures).trans (hmid.trans (.of_tables h₂ hend.failures))
  · exact .of_tables htables hbegin.failures
  · have hmid := (ha s₁ _ s₂ hact).failures
    exact .of_tables htables (Nat.le_trans hle (Nat.le_trans hmid hle'))

end Frames

end Access

end TurnTaking.Store
