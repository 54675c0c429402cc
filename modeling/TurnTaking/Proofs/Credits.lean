import TurnTaking.Presence.Stored
import TurnTaking.Proofs.Store.Frame
import TurnTaking.Proofs.Store.Reading
import TurnTaking.Proofs.Store.Table

/-!
# Credits — the turns that summons still owe

What an avatar is owed in a channel is told by its presence row; without a row it is owed nothing. Rows
are made, and mentions and turns recorded, without any change to what is owed (`owing_ensure`,
`owing_recordMention`, `owing_recordTurn`). A credit is spent where there is one, and nobody else's is
(`runs_consumeSummon`).
-/

namespace TurnTaking

open Store Store.Access

/-- What the presence row under a key says about owed turns. -/
def Store.Tables.owedCell (t : Tables) (k : String × String) : Cell :=
  ((Table.lookup PresenceRow.key k (t.presence.getD [])).map PresenceRow.summonTurns).getD (.number 0)

/-- The turns that summons still owe an avatar in a channel, as its record tells them. -/
def Store.Tables.credits (t : Tables) (k : String × String) : Option Nat :=
  (readNat32 6 "new_summon_turns_remaining" (t.owedCell k)).toOption

/-- No two presence rows are those of the same avatar in the same channel. -/
def Store.Tables.PresenceKeyed (t : Tables) : Prop := ((t.presence.getD []).map PresenceRow.key).Nodup

/-- All that is told about owed turns. -/
def Store.Tables.owing (t : Tables) : (String × String → Cell) × Prop := (t.owedCell, t.PresenceKeyed)

/-- What is owed is determined by its cells and whether rows have keys of their own. -/
theorem Store.Tables.owing_eq {t t' : Tables} (hcell : ∀ k, t'.owedCell k = t.owedCell k)
    (hkeyed : t'.PresenceKeyed ↔ t.PresenceKeyed) : t'.owing = t.owing :=
  Prod.ext (funext hcell) (propext hkeyed)

/-- The same is owed in tables that tell the same. -/
theorem Store.Tables.credits_of_owing {t t' : Tables} (h : t'.owing = t.owing) (k : String × String) :
    t'.credits k = t.credits k := by
  have hcell : t'.owedCell k = t.owedCell k := congrFun (congrArg Prod.fst h) k
  rw [Tables.credits, Tables.credits, hcell]

theorem Store.Tables.keyed_of_owing {t t' : Tables} (h : t'.owing = t.owing) :
    t'.PresenceKeyed ↔ t.PresenceKeyed := iff_of_eq (congrArg Prod.snd h)

/-- A credit that is read is the number in its cell. -/
theorem Store.Tables.credits_eq_some {t : Tables} {k : String × String} {n : Nat} :
    t.credits k = some n ↔ t.owedCell k = .number n ∧ n < 0x100000000 := by
  rw [← readNat32_eq_ok 6 "new_summon_turns_remaining", Tables.credits]
  cases readNat32 6 "new_summon_turns_remaining" (t.owedCell k) with
  | error f => exact ⟨nofun, nofun⟩
  | ok m => exact ⟨fun h => congrArg Except.ok (Option.some.inj h), fun h => congrArg some (Except.ok.inj h)⟩

namespace Presence

/-! ## What leaves the credits alone -/

/-- Adding a row that owes nothing changes nothing about what is owed. -/
theorem owing_add {r : PresenceRow} (hr : r.summonTurns = .number 0) {t : Tables}
    {rows : List PresenceRow} (hrows : t.presence = some rows) :
    ({ t with presence := some (Table.add PresenceRow.key r rows).2 } : Tables).owing = t.owing := by
  refine Tables.owing_eq (fun k => ?_) ?_
  · rw [Tables.owedCell, Tables.owedCell, hrows]
    exact Table.column_add hr rows
  · rw [Tables.PresenceKeyed, Tables.PresenceKeyed, hrows]
    exact Table.nodup_add r rows

/-- Neither does putting such a row, where the change of an older one leaves that alone. -/
theorem owing_putRow {r : PresenceRow} {change : PresenceRow → PresenceRow}
    (hr : r.summonTurns = .number 0) (hkey : ∀ old, (change old).key = old.key)
    (howed : ∀ old, (change old).summonTurns = old.summonTurns) :
    Frames Tables.owing (putRow r change) := by
  refine .change_of fun t rows hrows => ?_
  have hpresence : t.presence = some rows := hrows
  refine Tables.owing_eq (fun k => ?_) ?_
  · rw [Tables.owedCell, Tables.owedCell, hpresence]
    exact Table.column_put_same hkey hr howed rows
  · rw [Tables.PresenceKeyed, Tables.PresenceKeyed, hpresence]
    exact Table.nodup_put hkey rows

theorem owing_ensure (channel avatar : String) (now : Int) :
    Frames Tables.owing (ensure channel avatar now) := by
  refine (Frames.change_of fun t rows hrows => ?_).bind fun _ => .query _ _
  exact owing_add (r := blankRow channel avatar .present now) rfl hrows

theorem owing_recordMention (channel avatar : String) (now : Int) :
    Frames Tables.owing (recordMention channel avatar now) :=
  owing_putRow rfl (fun _ => rfl) fun _ => rfl

theorem owing_recordTurn (channel avatar : String) (now cooldown : Int) :
    Frames Tables.owing (recordTurn channel avatar now cooldown) :=
  owing_putRow rfl (fun _ => rfl) fun _ => rfl

/-! ## Spending -/

/-- The row under the key owes a turn. -/
def owes (channel avatar : String) (r : PresenceRow) : Bool :=
  r.channelId = channel && r.avatarId = avatar && (Cell.number 0).below r.summonTurns

/-- The row with one owed turn less, if it is the one that owes it. -/
def spendFrom (channel avatar : String) (r : PresenceRow) : PresenceRow :=
  if owes channel avatar r then { r with summonTurns := r.summonTurns.plus (-1) } else r

theorem key_of_owes {channel avatar : String} {r : PresenceRow} (h : owes channel avatar r = true) :
    r.key = (channel, avatar) := by
  simp only [owes, Bool.and_eq_true, decide_eq_true_eq] at h
  exact Prod.ext h.1.1 h.1.2

theorem owes_other {channel avatar : String} {r : PresenceRow} (h : r.key ≠ (channel, avatar)) :
    owes channel avatar r = false := by
  rw [← Bool.not_eq_true]
  exact fun howes => h (key_of_owes howes)

/-- A row tells of owed turns by its key and their number. -/
theorem owes_congr {channel avatar : String} {r r' : PresenceRow} (hkey : r'.key = r.key)
    (hturns : r'.summonTurns = r.summonTurns) : owes channel avatar r' = owes channel avatar r := by
  obtain ⟨hchannel, havatar⟩ := Prod.mk.inj hkey
  rw [owes, owes, hchannel, havatar, hturns]

theorem spendFrom_key (channel avatar : String) (r : PresenceRow) :
    (spendFrom channel avatar r).key = r.key := by
  rw [spendFrom]
  split <;> rfl

/-- The row under the key owes a turn if its number is positive. -/
theorem owes_iff {channel avatar : String} {r : PresenceRow} {n : Nat} (hkey : r.key = (channel, avatar))
    (hn : r.summonTurns = .number n) : owes channel avatar r = true ↔ 0 < n := by
  obtain ⟨rfl, rfl⟩ := Prod.mk.inj hkey
  simp [owes, hn]

/-- A row that owes is left with one turn less. -/
theorem summonTurns_spendFrom {channel avatar : String} {r : PresenceRow} {n : Nat}
    (hn : r.summonTurns = .number n) (hsmall : n < 0x100000000) (howes : owes channel avatar r = true) :
    (spendFrom channel avatar r).summonTurns = .number ((n - 1 : Nat) : Int) := by
  have hpositive : 0 < n := (owes_iff (key_of_owes howes) hn).mp howes
  have hsum : (n : Int) + -1 = ((n - 1 : Nat) : Int) := by omega
  have hbounded : Numeral.isInt64 ((n : Int) + -1) = true := by
    simp only [Numeral.isInt64, Bool.and_eq_true, decide_eq_true_eq]
    omega
  rw [spendFrom, if_pos howes]
  show r.summonTurns.plus (-1) = _
  rw [hn, Cell.plus_number hbounded, hsum]

/-- The number of changed rows tells of every key whether a turn was taken there. -/
theorem count_taken {channel avatar : String} {rows : List PresenceRow}
    (hkeyed : (rows.map PresenceRow.key).Nodup) (k : String × String) :
    (if decide (rows.countP (owes channel avatar) = 1) then [(channel, avatar)] else []).count k =
      if (Table.lookup PresenceRow.key k rows).any (owes channel avatar) then 1 else 0 := by
  -- at most one row can owe the turn, so that the number says whether it did
  have hone : rows.countP (owes channel avatar) =
      if (Table.lookup PresenceRow.key (channel, avatar) rows).any (owes channel avatar) then 1 else 0 :=
    Table.countP_eq hkeyed fun _ => key_of_owes
  by_cases hk : k = (channel, avatar)
  · rw [hone, hk]
    split <;> simp
  · have hothers : (Table.lookup PresenceRow.key k rows).any (owes channel avatar) = false := by
      cases hrow : Table.lookup PresenceRow.key k rows with
      | none => rfl
      | some row =>
        rw [Option.any_some]
        exact owes_other fun hkey => hk ((Table.key_of_lookup hrow).symm.trans hkey)
    rw [hothers]
    split <;> simp [Ne.symm hk]

/-- The credits after spending: those under each key are what they were, but for those that were taken. -/
structure Spent (taken : List (String × String)) (before after : Tables) : Prop where
  keyed : after.PresenceKeyed
  credits : ∀ k n, before.credits k = some n →
    ∃ left, after.credits k = some left ∧ left + taken.count k = n

/-- What is spent is spent by the row that owes it, under its key. -/
theorem spent_of_rows {channel avatar : String} {rows : List PresenceRow} {t t' : Tables}
    (hrows : t.presence = some rows) (hrows' : t'.presence = some (rows.map (spendFrom channel avatar)))
    (hkeyed : t.PresenceKeyed) :
    Spent (if decide (rows.countP (owes channel avatar) = 1) then [(channel, avatar)] else []) t t' := by
  rw [Tables.PresenceKeyed, hrows, Option.getD_some] at hkeyed
  constructor
  · rw [Tables.PresenceKeyed, hrows', Option.getD_some, Table.map_key (spendFrom_key channel avatar)]
    exact hkeyed
  · -- a cell loses one just where the row under its key owes
    intro k n hn
    obtain ⟨hcell, hsmall⟩ := Tables.credits_eq_some.mp hn
    rw [Tables.owedCell, hrows, Option.getD_some] at hcell
    have hcell' : t'.owedCell k = ((Table.lookup PresenceRow.key k rows).map fun r =>
        (spendFrom channel avatar r).summonTurns).getD (.number 0) := by
      rw [Tables.owedCell, hrows', Option.getD_some, Table.lookup_map (spendFrom_key channel avatar),
        Option.map_map]
      rfl
    rw [count_taken hkeyed k]
    cases hrow : Table.lookup PresenceRow.key k rows with
    | none =>
      rw [hrow] at hcell hcell'
      exact ⟨n, Tables.credits_eq_some.mpr ⟨hcell'.trans hcell, hsmall⟩, rfl⟩
    | some row =>
      rw [hrow] at hcell hcell'
      have hnumber : row.summonTurns = .number n := hcell
      rw [Option.any_some]
      cases howes : owes channel avatar row with
      | true =>
        have hpositive : 0 < n := (owes_iff (key_of_owes howes) hnumber).mp howes
        refine ⟨n - 1, Tables.credits_eq_some.mpr ⟨?_, by omega⟩, Nat.sub_add_cancel hpositive⟩
        exact hcell'.trans (summonTurns_spendFrom hnumber hsmall howes)
      | false =>
        have hsame : spendFrom channel avatar row = row := by
          rw [spendFrom, howes, if_neg Bool.false_ne_true]
        refine ⟨n, Tables.credits_eq_some.mpr ⟨?_, hsmall⟩, rfl⟩
        rw [hcell', Option.map_some, hsame]
        exact hcell

/-- An attempt to spend a credit goes through the rows, and says whether it was one that owed a turn. -/
theorem runs_consumeSummon_rows {channel avatar : String} {x : Except Fault Bool} {s s' : Store}
    (h : (consumeSummon channel avatar).Runs s x s') :
    (∃ rows, s.tables.presence = some rows ∧
        x = .ok (decide (rows.countP (owes channel avatar) = 1)) ∧
        s'.tables = { s.tables with presence := some (rows.map (spendFrom channel avatar)) } ∧
        s'.failures = s.failures) ∨
      ((∃ f, x = .error f) ∧ Faulted s s') := by
  rcases runs_bind h with ⟨changed, s₁, hchange, hret⟩ | ⟨f, hchange, rfl⟩
  · rcases runs_change hchange with ⟨rows, hrows, hcount, htables, hfailures⟩ | ⟨⟨_, he⟩, -⟩
    · obtain ⟨rfl, rfl⟩ := runs_pure hret
      obtain rfl := Except.ok.inj hcount
      exact Or.inl ⟨rows, hrows, rfl, htables, hfailures⟩
    · cases he
  · rcases runs_change hchange with ⟨_, -, he, -⟩ | ⟨-, hfault⟩
    · cases he
    · exact Or.inr ⟨⟨f, rfl⟩, hfault⟩

/-- An attempt to spend a credit takes one of the avatar's, or takes none and says so. -/
theorem runs_consumeSummon {channel avatar : String} {x : Except Fault Bool} {s s' : Store}
    (h : (consumeSummon channel avatar).Runs s x s') :
    (∃ spent, x = .ok spent ∧ s'.failures = s.failures ∧ (s.tables.PresenceKeyed →
        Spent (if spent then [(channel, avatar)] else []) s.tables s'.tables)) ∨
      ((∃ f, x = .error f) ∧ Faulted s s') := by
  rcases runs_consumeSummon_rows h with ⟨rows, hrows, hx, htables, hfailures⟩ | hfault
  · refine Or.inl ⟨_, hx, hfailures, fun hkeyed => ?_⟩
    exact spent_of_rows hrows (congrArg Tables.presence htables) hkeyed
  · exact Or.inr hfault

/-- Where no row owes a turn, going through the rows changes none. -/
theorem map_spendFrom {channel avatar : String} {rows : List PresenceRow}
    (hnone : rows.countP (owes channel avatar) = 0) : rows.map (spendFrom channel avatar) = rows := by
  have hsame : ∀ r ∈ rows, spendFrom channel avatar r = r := by
    intro r hr
    rw [spendFrom, if_neg (List.countP_eq_zero.mp hnone r hr)]
  exact (List.map_congr_left hsame).trans (List.map_id' rows)

/-- Among rows under keys of their own, no two owe a turn under the same. -/
theorem countP_owes_le {channel avatar : String} {rows : List PresenceRow}
    (hkeyed : (rows.map PresenceRow.key).Nodup) : rows.countP (owes channel avatar) ≤ 1 := by
  rw [Table.countP_eq hkeyed fun _ => key_of_owes]
  split
  · exact Nat.le_refl _
  · exact Nat.zero_le _

/-! ## Records -/

/-- A record that is read is that of its row. -/
theorem key_of_readRecord {row : PresenceRow} {record : Record} (h : readRecord row = .ok record) :
    (record.channelId, record.avatarId) = row.key := by
  unfold readRecord at h
  cases hstate : State.ofName? row.state with
  | none =>
    rw [hstate] at h
    cases h
  | some state =>
    simp only [hstate, pure_bind] at h
    -- the other columns are read one after another
    iterate 9 obtain ⟨_, -, h⟩ := reading_ok h
    obtain rfl := Except.ok.inj h
    rfl

/-- What a record says of owed turns is what its row says. -/
theorem summonTurns_of_readRecord {row : PresenceRow} {record : Record} (h : readRecord row = .ok record) :
    row.summonTurns = .number record.summonTurns ∧ record.summonTurns < 0x100000000 := by
  unfold readRecord at h
  cases hstate : State.ofName? row.state with
  | none =>
    rw [hstate] at h
    cases h
  | some state =>
    simp only [hstate, pure_bind] at h
    iterate 4 obtain ⟨_, -, h⟩ := reading_ok h
    obtain ⟨turns, hturns, h⟩ := reading_ok h
    iterate 4 obtain ⟨_, -, h⟩ := reading_ok h
    obtain rfl := Except.ok.inj h
    exact (readNat32_eq_ok 6 _).mp hturns

/-- A record that is ensured is that of the avatar in the channel. -/
theorem ensure_key {channel avatar : String} {now : Int} {record : Record} {s s' : Store}
    (h : (ensure channel avatar now).Runs s (.ok record) s') :
    record.channelId = channel ∧ record.avatarId = avatar := by
  obtain ⟨_, s₁, -, hread⟩ := runs_bind_ok h
  obtain ⟨rows, -, hrow, -⟩ := runs_query_ok hread
  cases hlookup : Table.lookup PresenceRow.key (channel, avatar) rows with
  | none =>
    rw [hlookup] at hrow
    cases hrow
  | some row =>
    rw [hlookup] at hrow
    have hkey := (key_of_readRecord hrow).trans (Table.key_of_lookup hlookup)
    exact Prod.mk.inj hkey

end Presence

end TurnTaking
