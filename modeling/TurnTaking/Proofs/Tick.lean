import TurnTaking.Proofs.Store.Frame
import TurnTaking.Proofs.Store.Table
import TurnTaking.Tick

/-!
# Ticks — how the number of a channel moves

What the counters say is told by the cell under each channel. A sweep that opens a tick leaves a number
of 64 bits, one more than the number before (`runs_advance`); looking at the tick changes no number
(`runs_peek`). A counter that holds no number of that kind ends either in a counted fault.
-/

namespace TurnTaking

open Store Store.Access

namespace Store

/-- A fraction that becomes a number becomes one of 64 bits. -/
theorem Cell.isInt64_of_ofFloat {x : Float} {n : Int} (h : Cell.ofFloat x = .number n) :
    Numeral.isInt64 n := by
  unfold Cell.ofFloat at h
  dsimp only at h
  split at h
  · rename_i m hm
    obtain rfl := Cell.number.inj h
    obtain ⟨-, hrange⟩ := Option.filter_eq_some_iff.mp hm
    simp only [Bool.and_eq_true, decide_eq_true_eq] at hrange
    simp only [Numeral.isInt64, Bool.and_eq_true, decide_eq_true_eq]
    omega
  · cases h

/-- A sum that is a number is one of 64 bits, and the sum of numbers. -/
theorem Cell.plus_eq_number {a : Cell} {k n : Int} (h : a.plus k = .number n) :
    Numeral.isInt64 n ∧ ∀ m, a = .number m → n = m + k := by
  unfold Cell.plus at h
  cases hr : a.reading with
  | integer m =>
    simp only [hr] at h
    split at h
    · rename_i hm
      obtain rfl := Cell.number.inj h
      refine ⟨hm, ?_⟩
      rintro m' rfl
      rw [Numeral.Reading.integer.inj hr]
    · cases h
  | decimal x =>
    simp only [hr] at h
    refine ⟨Cell.isInt64_of_ofFloat h, ?_⟩
    rintro m' rfl
    cases hr

theorem isInt64_iff {n : Int} :
    Numeral.isInt64 n ↔ -0x8000000000000000 ≤ n ∧ n < 0x8000000000000000 := by
  simp [Numeral.isInt64]

/-- Different numbers of 64 bits stand for different words. -/
theorem toWord_inj {m n : Int} (hm : Numeral.isInt64 m) (hn : Numeral.isInt64 n)
    (h : toWord m = toWord n) : m = n := by
  rw [isInt64_iff] at hm hn
  unfold toWord at h
  omega

def Tables.counter (t : Tables) (channel : String) : Option Cell :=
  (Table.lookup TickRow.key (some channel) (t.ticks.getD [])).map TickRow.tick

theorem Tables.counter_eq {t : Tables} {rows : List TickRow} (h : t.ticks = some rows)
    (channel : String) :
    t.counter channel = (Table.lookup TickRow.key (some channel) rows).map TickRow.tick := by
  rw [Tables.counter, h]
  rfl

/-- A cell that is read as a word is a number. -/
theorem readWord_ok {column : Nat} {name : String} {cell : Cell} {tick : Nat}
    (h : readWord column name cell = .ok tick) : ∃ n, cell = .number n ∧ tick = toWord n := by
  cases cell with
  | number n => exact ⟨n, rfl, (Except.ok.inj h).symm⟩
  | real x => cases h
  | text s => cases h

end Store

namespace Tick

/-- A tick was opened in a channel: its number is of 64 bits, and above the number before. No other
counter changed. -/
structure Opened (channel : String) (tick : Nat) (before after : Tables) : Prop where
  number : ∃ n : Int, Numeral.isInt64 n ∧ tick = toWord n ∧ after.counter channel = some (.number n) ∧
    ∀ m, before.counter channel = some (.number m) → m < n
  others : ∀ c, c ≠ channel → after.counter c = before.counter c

/-- What a sweep does to the counters. -/
theorem counter_put (channel c : String) (now : Cell) (rows : List TickRow) :
    (Table.lookup TickRow.key (some c) (Table.put TickRow.key ⟨some channel, .number 1, now⟩
        (fun r => { r with tick := r.tick.plus 1, lastTickAt := now }) rows)).map TickRow.tick =
      if channel = c then some ((((Table.lookup TickRow.key (some c) rows).map TickRow.tick).map
        (Cell.plus · 1)).getD (.number 1))
      else (Table.lookup TickRow.key (some c) rows).map TickRow.tick := by
  have hkey : ∀ old : TickRow,
      TickRow.key { old with tick := old.tick.plus 1, lastTickAt := now } = old.key := fun _ => rfl
  rw [Table.lookup_put hkey]
  by_cases hc : channel = c
  · have hk : TickRow.key ⟨some channel, .number 1, now⟩ = some c := congrArg some hc
    rw [if_pos hc, if_pos hk]
    cases Table.lookup TickRow.key (some c) rows <;> rfl
  · have hk : TickRow.key ⟨some channel, .number 1, now⟩ ≠ some c := fun h => hc (Option.some.inj h)
    rw [if_neg hc, if_neg hk]

/-- A sweep opens a tick, or ends in a fault that is counted. -/
theorem runs_advance {channel : String} {now : Int} {x : Except Fault Nat} {s s' : Store}
    (h : (advance channel now).Runs s x s') :
    (∃ tick, x = .ok tick ∧ Opened channel tick s.tables s'.tables ∧ s'.failures = s.failures) ∨
      ((∃ e, x = .error e) ∧ s.failures < s'.failures) := by
  rcases runs_bind h with ⟨cell, s₁, hchange, hread⟩ | ⟨e, hchange, rfl⟩
  · rcases runs_change hchange with ⟨rows, hrows, hcell, htables, hfailures⟩ | ⟨⟨_, he⟩, -⟩
    · rcases runs_ofReading hread with ⟨tick, htick, rfl, rfl⟩ | ⟨he, hfault⟩
      · -- the channel's counter is raised, and no other
        have hafter : ∀ c, s'.tables.counter c = if channel = c then
            some (((s.tables.counter c).map (Cell.plus · 1)).getD (.number 1))
            else s.tables.counter c := by
          intro c
          rw [Tables.counter_eq (congrArg Tables.ticks htables), Tables.counter_eq hrows]
          exact counter_put channel c _ rows
        have hsame : cell = s'.tables.counter channel := by
          rw [Tables.counter_eq (congrArg Tables.ticks htables)]
          exact Except.ok.inj hcell
        refine .inl ⟨tick, rfl, ⟨?_, ?_⟩, hfailures⟩
        · rw [hsame, hafter, if_pos rfl] at htick
          obtain ⟨n, hn, rfl⟩ := readWord_ok htick
          refine ⟨n, ?_, rfl, ?_, ?_⟩
          · cases hb : s.tables.counter channel with
            | none =>
              rw [hb] at hn
              obtain rfl := Cell.number.inj hn
              decide
            | some before =>
              rw [hb] at hn
              exact (Cell.plus_eq_number hn).1
          · rw [hafter, if_pos rfl, hn]
          · -- a counter that was there is one less than the new tick
            intro m hm
            rw [hm] at hn
            have hplus : (Cell.number m).plus 1 = .number n := hn
            have hsum := (Cell.plus_eq_number hplus).2 m rfl
            omega
        · intro c hc
          rw [hafter, if_neg (Ne.symm hc)]
      · -- the raised counter is no tick
        exact .inr ⟨he, hfailures ▸ hfault.failures⟩
    · cases he
  · rcases runs_change hchange with ⟨_, -, he, -⟩ | ⟨-, hfault⟩
    · cases he
    · exact .inr ⟨⟨e, rfl⟩, hfault.failures⟩

/-- Looking at a tick changes no counter but one that is new, or ends in a fault that is counted. -/
theorem runs_peek {channel : String} {now : Int} {x : Except Fault Nat} {s s' : Store}
    (h : (peek channel now).Runs s x s') :
    ((∀ c cell, s.tables.counter c = some cell → s'.tables.counter c = some cell) ∧
        s'.failures = s.failures) ∨ s.failures < s'.failures := by
  rcases runs_bind h with ⟨_, s₁, hadd, hquery⟩ | ⟨e, hadd, -⟩
  · rcases runs_change hadd with ⟨rows, hrows, -, htables, hfailures⟩ | ⟨⟨_, he⟩, -⟩
    · rcases runs_query hquery with ⟨_, _, -, -, -, htables', hfailures'⟩ | ⟨-, hfault⟩
      · refine .inl ⟨?_, hfailures'.trans hfailures⟩
        intro c cell hcell
        rw [htables', Tables.counter_eq (congrArg Tables.ticks htables), Table.lookup_add]
        rw [Tables.counter_eq hrows] at hcell
        obtain ⟨row, hrow, rfl⟩ := Option.map_eq_some_iff.mp hcell
        rw [hrow]
        rfl
      · exact .inr (hfailures ▸ hfault.failures)
    · cases he
  · rcases runs_change hadd with ⟨_, -, he, -⟩ | ⟨-, hfault⟩
    · cases he
    · exact .inr hfault.failures

end Tick

end TurnTaking
