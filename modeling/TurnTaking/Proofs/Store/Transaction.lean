import TurnTaking.Proofs.Store.Frame

/-!
# Transactions — programs that fail as a whole

What a run of a program over a store comes to tells whether one of its statements failed:

* `Reports` — a result means that none did, and a fault that one did;
* `Transactional` — besides, a fault leaves every table as it was.

A program reports as soon as its statements do, which they all do. A group of statements is transactional
whatever it is made of (`Reports.atomically`): its statements may change any number of tables before one of
them, or the end of the group, fails.
-/

namespace TurnTaking.Store.Access

variable {α β ρ : Type}

/-- The access comes to a result if no statement of it failed, and to a fault if one did. -/
structure Reports (a : Access α) : Prop where
  result : ∀ {s x s'}, a.Runs s (.ok x) s' → s'.failures = s.failures
  fault : ∀ {s f s'}, a.Runs s (.error f) s' → s.failures < s'.failures

/-- The access reports, and where it ends in a fault no table has changed. -/
structure Transactional (a : Access α) : Prop extends Reports a where
  restored : ∀ {s f s'}, a.Runs s (.error f) s' → s'.tables = s.tables

namespace Reports

theorem pure (x : α) : Reports (pure x : Access α) where
  result h := by
    obtain ⟨-, rfl⟩ := runs_pure h
    rfl
  fault h := by
    obtain ⟨hx, -⟩ := runs_pure h
    cases hx

theorem bind {a : Access α} {f : α → Access β} (ha : Reports a) (hf : ∀ x, Reports (f x)) :
    Reports (a >>= f) where
  result h := by
    obtain ⟨x, s', hfirst, hrest⟩ := runs_bind_ok h
    rw [(hf x).result hrest, ha.result hfirst]
  fault h := by
    rcases runs_bind h with ⟨x, s', hfirst, hrest⟩ | ⟨e, hfirst, -⟩
    · have hsame := ha.result hfirst
      have hmore := (hf x).fault hrest
      omega
    · exact ha.fault hfirst

theorem statement (r : Relation ρ) (f : List ρ → Except StatementFault (α × List ρ)) :
    Reports (statement r f) where
  result h := by
    rcases runs_statement h with ⟨_, _, _, -, -, -, -, hfailures⟩ | ⟨⟨_, hx⟩, -⟩
    · exact hfailures
    · cases hx
  fault := (Counts.statement r f).counted

theorem change (r : Relation ρ) (f : List ρ → α × List ρ) : Reports (change r f) := statement r _

theorem query (r : Relation ρ) (f : List ρ → Except StatementFault α) : Reports (query r f) where
  result h := by
    rcases runs_query h with ⟨_, _, -, -, -, -, hfailures⟩ | ⟨⟨_, hx⟩, -⟩
    · exact hfailures
    · cases hx
  fault := (Counts.query r f).counted

theorem ofReading (result : Except StatementFault α) : Reports (ofReading result) where
  result h := by
    rcases runs_ofReading h with ⟨_, -, -, rfl⟩ | ⟨⟨_, hx⟩, -⟩
    · rfl
    · cases hx
  fault := (Counts.ofReading result).counted

theorem mark : Reports mark where
  result := by
    intro s x s' h
    have hrun : attempt s = (.ok x, s') := h
    rcases attempt_cases s with ⟨rest, -, ha⟩ | ⟨e, rest, ha, -⟩
    · obtain ⟨-, rfl⟩ := Prod.mk.inj (ha.symm.trans hrun)
      rfl
    · cases (Prod.mk.inj (ha.symm.trans hrun)).1
  fault := Counts.mark.counted

theorem markWriting : Reports markWriting where
  result := by
    intro s x s' h
    obtain ⟨_, s₁, hmark, hrest⟩ := runs_bind_ok h
    have hread : (Access.ofReading (writable s₁)).Runs s₁ (.ok x) s' := hrest
    rw [(ofReading _).result hread, mark.result hmark]
  fault := Counts.markWriting.counted

/-- A group of statements takes effect as a whole or not at all. -/
theorem atomically {act : Access α} (hact : Reports act) : Transactional (atomically act) := by
  have hgroup : Reports (do let a ← act; Access.mark; return a : Access α) :=
    hact.bind fun a => mark.bind fun _ => .pure a
  refine ⟨⟨?_, ?_⟩, ?_⟩
  · intro s x s' h
    rcases runs_group h with ⟨_, he, -⟩ | ⟨s₁, s₂, hbegin, hrest, hfailures, -⟩
    · cases he
    · rw [hfailures, hgroup.result hrest, markWriting.result hbegin]
  · intro s f s' h
    rcases runs_group h with ⟨_, -, hbegin⟩ | ⟨s₁, s₂, hbegin, hrest, hfailures, -⟩
    · exact markWriting.fault hbegin
    · have hsame := markWriting.result hbegin
      have hmore := hgroup.fault hrest
      omega
  · intro s f s' h
    rcases runs_atomically h with ⟨_, _, _, hx, -⟩ | ⟨-, htables, -⟩
    · cases hx
    · exact htables

end Reports

namespace Transactional

/-- A single statement is a transaction of its own. -/
theorem statement (r : Relation ρ) (f : List ρ → Except StatementFault (α × List ρ)) :
    Transactional (statement r f) where
  toReports := .statement r f
  restored h := by
    rcases runs_statement h with ⟨_, _, _, -, -, hx, -⟩ | ⟨-, hfault⟩
    · cases hx
    · exact hfault.tables

/-- One statement is a transaction of its own. -/
theorem change (r : Relation ρ) (f : List ρ → α × List ρ) : Transactional (change r f) := statement r _

/-- What a transaction came to may be looked at afterwards. -/
theorem map {a : Access α} (ha : Transactional a) (f : α → β) :
    Transactional (a >>= fun x => pure (f x)) where
  toReports := ha.toReports.bind fun x => .pure (f x)
  restored h := by
    rcases runs_bind h with ⟨x, s', -, hrest⟩ | ⟨e, hfirst, -⟩
    · cases (runs_pure hrest).1
    · exact ha.restored hfirst

/-- A transaction comes to a result without a failure, or to a fault with one, as if nothing had been
done. -/
theorem cases {a : Access α} (ha : Transactional a) (s : Store) :
    (∃ x, a.Runs s (.ok x) (a.after s) ∧ a.outcome s = .ok x ∧ (a.after s).failures = s.failures) ∨
      ∃ f, a.outcome s = .error f ∧ s.failures < (a.after s).failures ∧
        (a.after s).tables = s.tables := by
  have hrun := runs_after a s
  cases hx : a.outcome s with
  | ok x =>
    rw [hx] at hrun
    exact Or.inl ⟨x, hrun, rfl, ha.result hrun⟩
  | error f =>
    rw [hx] at hrun
    exact Or.inr ⟨f, rfl, ha.fault hrun, ha.restored hrun⟩

end Transactional

/-- A group that came to a result did what its program did, on the tables as they were. -/
theorem runs_atomically_ok {act : Access α} {x : α} {s s' : Store}
    (h : (atomically act).Runs s (.ok x) s') :
    ∃ s₁ s₂, s₁.tables = s.tables ∧ act.Runs s₁ (.ok x) s₂ ∧ s'.tables = s₂.tables := by
  rcases runs_atomically h with ⟨a, s₁, s₂, ha, hbegin, hact, hend⟩ | ⟨⟨_, hx⟩, -⟩
  · obtain rfl := Except.ok.inj ha
    exact ⟨s₁, s₂, hbegin.view, hact, hend.view⟩
  · cases hx

end TurnTaking.Store.Access
