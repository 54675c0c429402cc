import TurnTaking.Proofs.Store.Rows
import TurnTaking.Proofs.Store.Transaction
import TurnTaking.Proofs.Store.Untroubled

/-!
# Rewriting a table

A program that works on one table is told by two functions of the rows that it finds: what it answers and
what it leaves (`Rewrites`). It comes to that answer and those rows wherever it comes to a result, and it
does come to one where nothing fails. Of several statements in a row the functions are composed
(`Rewrites.bind`), and a group of them is told by the same functions as its program
(`Rewrites.atomically`).
-/

namespace TurnTaking.Store.Access

variable {α β ρ : Type} {r : Relation ρ}

/-- The access answers and leaves what these functions make of the rows of the table. No other table is
touched. -/
structure Rewrites (r : Relation ρ) (answer : List ρ → α) (apply : List ρ → List ρ) (a : Access α) :
    Prop where
  result : ∀ {s x s'}, a.Runs s (.ok x) s' →
    ∃ rows, r.get s.tables = some rows ∧ x = answer rows ∧ s'.tables = r.set s.tables (some (apply rows))
  untroubled : ∀ {t rows}, r.get t = some rows →
    a.Runs (.ofTables t) (.ok (answer rows)) (.ofTables (r.set t (some (apply rows))))

namespace Rewrites

variable {answer answer' : List ρ → α} {apply apply' : List ρ → List ρ} {a : Access α}

theorem change (f : List ρ → α × List ρ) :
    Rewrites r (fun rows => (f rows).1) (fun rows => (f rows).2) (change r f) where
  result h := runs_change_ok h
  untroubled h := runs_change_ofTables h f

theorem bind (hr : r.Lawful) (ha : Rewrites r answer apply a) {f : α → Access β}
    {next : α → List ρ → β} {further : α → List ρ → List ρ}
    (hf : ∀ x, Rewrites r (next x) (further x) (f x)) :
    Rewrites r (fun rows => next (answer rows) (apply rows))
      (fun rows => further (answer rows) (apply rows)) (a >>= f) where
  result h := by
    obtain ⟨x, s', hfirst, hrest⟩ := runs_bind_ok h
    obtain ⟨rows, hrows, rfl, htables⟩ := ha.result hfirst
    obtain ⟨rows', hrows', hy, htables'⟩ := (hf _).result hrest
    -- the second program finds what the first has left
    rw [htables, hr.get_set, Option.some.injEq] at hrows'
    subst hrows'
    rw [htables, hr.set_set] at htables'
    exact ⟨rows, hrows, hy, htables'⟩
  untroubled := by
    intro t rows h
    have hrest := (hf (answer rows)).untroubled (hr.get_set t (some (apply rows)))
    rw [hr.set_set] at hrest
    exact (ha.untroubled h).bind hrest

/-- The answer of a rewrite may be read otherwise. -/
theorem map (ha : Rewrites r answer apply a) (f : α → β) :
    Rewrites r (fun rows => f (answer rows)) apply (a >>= fun x => pure (f x)) where
  result h := by
    obtain ⟨x, s', hfirst, hrest⟩ := runs_bind_ok h
    obtain ⟨rows, hrows, rfl, htables⟩ := ha.result hfirst
    obtain ⟨hy, rfl⟩ := runs_pure_ok hrest
    exact ⟨rows, hrows, hy, htables⟩
  untroubled h := (ha.untroubled h).bind rfl

/-- A rewrite in a transaction is the same rewrite. -/
theorem atomically (ha : Rewrites r answer apply a) : Rewrites r answer apply (atomically a) where
  result h := by
    obtain ⟨s₁, s₂, hbegin, hact, hend⟩ := runs_atomically_ok h
    obtain ⟨rows, hrows, hx, htables⟩ := ha.result hact
    rw [hbegin] at hrows htables
    exact ⟨rows, hrows, hx, hend.trans htables⟩
  untroubled h := runs_atomically_ofTables (ha.untroubled h)

/-- The same functions may be written differently. -/
theorem congr (ha : Rewrites r answer apply a) (hanswer : ∀ rows, answer rows = answer' rows)
    (happly : ∀ rows, apply rows = apply' rows) : Rewrites r answer' apply' a := by
  rw [← funext hanswer, ← funext happly]
  exact ha

end Rewrites

end TurnTaking.Store.Access
