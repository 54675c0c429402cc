import TurnTaking.Proofs.Store.Frame

/-!
# Blindness — what an access does not see

Two stores may differ in what a view leaves out of their tables, and in nothing else (`Alike`). An access is
blind to that if it comes to the same on both, be it a result or a fault, and leaves stores that differ no
further (`Blind`). Whether a statement is blind is asked of what it does to the tables; from there on it is
closed under all ways to put accesses together.
-/

namespace TurnTaking.Store.Access

variable {α β ρ : Type} {view : Tables → Tables}

/-- The stores differ in what the view leaves out of their tables, and in nothing else. -/
structure Alike (view : Tables → Tables) (s t : Store) : Prop where
  view : view t.tables = view s.tables
  rest : t = { s with tables := t.tables }

namespace Alike

variable {s t : Store}

/-- The tables of alike stores may be changed to others that the view does not tell apart. -/
theorem withTables (h : Alike view s t) {tables tables' : Tables} (htables : view tables' = view tables) :
    Alike view { s with tables := tables } { t with tables := tables' } where
  view := htables
  rest := by rw [h.rest]

/-- A failed statement is counted on both. -/
theorem failed (h : Alike view s t) : Alike view (failed s) (failed t) where
  view := h.view
  rest := by rw [h.rest]; rfl

/-- The database answers the next statement on both in the same way. -/
theorem attempt (h : Alike view s t) :
    ∃ x s' t', attempt s = (x, s') ∧ attempt t = (x, t') ∧ Alike view s' t' := by
  obtain ⟨hview, hrest⟩ := h
  generalize t.tables = tables at hview hrest
  subst hrest
  unfold Access.attempt
  dsimp only
  split
  · exact ⟨_, _, _, rfl, rfl, hview, rfl⟩
  · split
    · exact ⟨_, _, _, rfl, rfl, hview, rfl⟩
    · exact ⟨_, _, _, rfl, rfl, hview, rfl⟩
    · exact ⟨_, _, _, rfl, rfl, hview, rfl⟩

end Alike

/-- The access comes to the same on stores that differ in what the view leaves out, and they differ in no more
than that afterwards. -/
def Blind (view : Tables → Tables) (a : Access α) : Prop :=
  ∀ s t, Alike view s t → ∃ x s' t', a.Runs s x s' ∧ a.Runs t x t' ∧ Alike view s' t'

namespace Blind

theorem outcome_eq {a : Access α} (ha : Blind view a) {s t : Store} (h : Alike view s t) :
    a.outcome t = a.outcome s := by
  obtain ⟨x, s', t', hs, ht, -⟩ := ha s t h
  rw [((runs_after a s).unique hs).1, ((runs_after a t).unique ht).1]

theorem pure (x : α) : Blind view (pure x : Access α) := fun s t h => ⟨.ok x, s, t, rfl, rfl, h⟩

theorem bind {a : Access α} {f : α → Access β} (ha : Blind view a) (hf : ∀ x, Blind view (f x)) :
    Blind view (a >>= f) := by
  intro s t h
  obtain ⟨x, s', t', hs, ht, h'⟩ := ha s t h
  cases x with
  | error e => exact ⟨.error e, s', t', hs.bind_error, ht.bind_error, h'⟩
  | ok x =>
    obtain ⟨y, s'', t'', hs', ht', h''⟩ := hf x s' t' h'
    exact ⟨y, s'', t'', hs.bind hs', ht.bind ht', h''⟩

/-- What a statement leaves of the tables where it finds these rows, as far as the view shows it. -/
def left (view : Tables → Tables) (r : Relation ρ) (f : List ρ → Except StatementFault (α × List ρ))
    (t : Tables) (rows : List ρ) : Except StatementFault (α × Tables) :=
  (f rows).map fun result => (result.1, view (r.set t (some result.2)))

/-- What it comes to is shown alike if that is so of what is made of the rows. -/
theorem onRows_shown {r : Relation ρ} {f : List ρ → Except StatementFault (α × List ρ)} {t t' : Tables}
    (h : (r.get t').map (left view r f t') = (r.get t).map (left view r f t)) :
    (onRows r f t').map (Prod.map id view) = (onRows r f t).map (Prod.map id view) := by
  have hleft : ∀ t rows, ((f rows).map fun result => (result.1, r.set t (some result.2))).map
      (Prod.map id view) = left view r f t rows := by
    intro t rows
    rw [left]
    cases f rows <;> rfl
  unfold onRows
  cases hget : r.get t with
  | none =>
    rw [hget, Option.map_none, Option.map_eq_none_iff] at h
    rw [h]
  | some rows =>
    rw [hget, Option.map_some, Option.map_eq_some_iff] at h
    obtain ⟨rows', hget', hsame⟩ := h
    rw [hget']
    exact (hleft t' rows').trans (hsame.trans (hleft t rows).symm)

/-- Results that are shown alike are the same fault, or the same answer with tables that are shown alike. -/
theorem shown_cases {x y : Except StatementFault (α × Tables)}
    (h : y.map (Prod.map id view) = x.map (Prod.map id view)) :
    (∃ cause, x = .error cause ∧ y = .error cause) ∨
      ∃ a t t', x = .ok (a, t) ∧ y = .ok (a, t') ∧ view t' = view t := by
  cases x with
  | error cause =>
    cases y with
    | error cause' => exact .inl ⟨cause, rfl, h⟩
    | ok result' => cases h
  | ok result =>
    cases y with
    | error cause' => cases h
    | ok result' =>
      obtain ⟨a, t⟩ := result
      obtain ⟨a', t'⟩ := result'
      obtain ⟨rfl, hview⟩ := Prod.mk.inj (Except.ok.inj h)
      exact .inr ⟨a', t, t', rfl, rfl, hview⟩

/-- The database answers a statement on both in the same way, so it is blind if what it does then is. -/
theorem attempted {a : Access α} {act : Store → Except Fault α × Store}
    (hrun : ∀ s, a.run.run s = match Access.attempt s with
      | (.error e, s) => (.error e, s)
      | (.ok (), s) => act s)
    (hact : ∀ s t, Alike view s t → ∃ x s' t', act s = (x, s') ∧ act t = (x, t') ∧ Alike view s' t') :
    Blind view a := by
  intro s t h
  obtain ⟨x, s₁, t₁, hs, ht, h₁⟩ := h.attempt
  simp only [Runs, hrun, hs, ht]
  cases x with
  | error e => exact ⟨.error e, s₁, t₁, rfl, rfl, h₁⟩
  | ok _ => exact hact s₁ t₁ h₁

/-- A statement that reads is blind if it reads no more of its table than the view shows. -/
theorem query {r : Relation ρ} {f : List ρ → Except StatementFault α}
    (hf : ∀ t t', view t' = view t → (r.get t').map f = (r.get t).map f) : Blind view (query r f) := by
  refine attempted (fun _ => rfl) fun s t h => ?_
  -- of the tables that it leaves nothing need be shown, as they are the ones that it found
  have hread : ∀ t, (r.get t).map (left (fun _ => Tables.empty) r (fun rows => (f rows).map (·, rows)) t) =
      ((r.get t).map f).map (Except.map (·, Tables.empty)) := by
    intro t
    rw [Option.map_map]
    congr 1
    funext rows
    rw [left, Function.comp_apply]
    cases f rows <;> rfl
  have hsame := onRows_shown ((hread t.tables).trans (.trans (by rw [hf _ _ h.view]) (hread s.tables).symm))
  rcases shown_cases hsame with ⟨cause, hs, ht⟩ | ⟨a, _, _, hs, ht, -⟩
  · rw [hs, ht]
    exact ⟨_, _, _, rfl, rfl, h.failed⟩
  · rw [hs, ht]
    exact ⟨_, _, _, rfl, rfl, h⟩

/-- One that writes is blind if, besides, what it leaves is shown alike. -/
theorem statement {r : Relation ρ} {f : List ρ → Except StatementFault (α × List ρ)}
    (hf : ∀ t t', view t' = view t → (r.get t').map (left view r f t') = (r.get t).map (left view r f t)) :
    Blind view (statement r f) := by
  refine attempted (fun _ => rfl) fun s t h => ?_
  have hwritable : writable t = writable s := by
    rw [h.rest]
    rfl
  have hwritten : (r.get t.tables).map (left view r (fun rows => (writable s).bind fun _ => f rows) t.tables) =
      (r.get s.tables).map (left view r (fun rows => (writable s).bind fun _ => f rows) s.tables) := by
    cases writable s with
    | error cause =>
      have hboth := congrArg (Option.map fun _ => (Except.error cause : Except StatementFault (α × Tables)))
        (hf _ _ h.view)
      rwa [Option.map_map, Option.map_map] at hboth
    | ok _ => exact hf _ _ h.view
  rw [hwritable]
  rcases shown_cases (onRows_shown hwritten) with ⟨cause, hs, ht⟩ | ⟨a, _, _, hs, ht, hview⟩
  · rw [hs, ht]
    exact ⟨_, _, _, rfl, rfl, h.failed⟩
  · rw [hs, ht]
    exact ⟨_, _, _, rfl, rfl, h.withTables hview⟩

/-- What a function makes of rows it makes of those of one kind, if it does not look at the others. -/
theorem map_of_filter {γ : Type} {p : ρ → Bool} {f : List ρ → γ} (hf : ∀ rows, f (rows.filter p) = f rows)
    {rows rows' : Option (List ρ)} (h : rows'.map (List.filter p) = rows.map (List.filter p)) :
    rows'.map f = rows.map f := by
  have hsame : f ∘ List.filter p = f := funext hf
  rw [← hsame, ← Option.map_map, h, Option.map_map]

/-- The end of a group of statements is seen by no view. -/
theorem mark : Blind view mark := by
  intro s t h
  exact h.attempt

/-- Neither is its beginning. -/
theorem markWriting : Blind view markWriting := by
  refine mark.bind fun _ s t h => ?_
  have hwritable : writable t = writable s := by
    rw [h.rest]
    rfl
  have hboth : ∀ u : Store, (do Access.ofReading (writable (← get)) : Access Unit).run.run u =
      (Access.ofReading (writable u)).run.run u := fun _ => rfl
  simp only [Runs, hboth, hwritable]
  cases writable s with
  | error cause => exact ⟨_, _, _, rfl, rfl, h.failed⟩
  | ok _ => exact ⟨_, _, _, rfl, rfl, h⟩

/-- A group of blind statements is blind: where one of them fails, the tables are again what they were on
both. -/
theorem atomically {act : Access α} (hact : Blind view act) : Blind view (atomically act) := by
  intro s t h
  obtain ⟨x, s₁, t₁, hs, ht, h₁⟩ := markWriting s t h
  cases x with
  | error e =>
    have hs' : Access.markWriting.run s = (.error e, s₁) := hs
    have ht' : Access.markWriting.run t = (.error e, t₁) := ht
    refine ⟨.error e, s₁, t₁, ?_, ?_, h₁⟩
    · simp only [Runs, Access.atomically, ExceptT.run_mk, StateT.run, hs']
    · simp only [Runs, Access.atomically, ExceptT.run_mk, StateT.run, ht']
  | ok _ =>
    have hgroup : Blind view (do let a ← act; Access.mark; return a : Access α) :=
      hact.bind fun a => mark.bind fun _ => .pure a
    obtain ⟨y, s₂, t₂, hs₂, ht₂, h₂⟩ := hgroup s₁ t₁ h₁
    have hs' : Access.markWriting.run s = (.ok (), s₁) := hs
    have ht' : Access.markWriting.run t = (.ok (), t₁) := ht
    have hs₂' : (do let a ← act; Access.mark; return a : Access α).run s₁ = (y, s₂) := hs₂
    have ht₂' : (do let a ← act; Access.mark; return a : Access α).run t₁ = (y, t₂) := ht₂
    simp only [Runs, Access.atomically, ExceptT.run_mk, StateT.run, hs', ht', hs₂', ht₂']
    cases y with
    | error e => exact ⟨_, _, _, rfl, rfl, h₂.withTables h.view⟩
    | ok a => exact ⟨_, _, _, rfl, rfl, h₂⟩

end Blind

end TurnTaking.Store.Access
