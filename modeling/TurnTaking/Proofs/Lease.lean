import TurnTaking.Lease
import TurnTaking.Proofs.Store.Rows

/-!
# Leases — who holds a turn

What the leases say is told by the origin of the row under each key: who took the lease, and for which
message. A lease is taken where none is held, and then says so (`runs_acquire?`); it is read back as it
was taken (`runs_find?`); settling it changes nobody's origin (`runs_settle`). What both do to the rows
themselves is said by `runs_acquire?_rows` and `runs_settle_rows`.
-/

namespace TurnTaking

open Store Store.Access

def Store.Tables.leaseRows (t : Tables) : List LeaseRow := t.leases.getD []

/-- The lease under a key, if there is one. -/
def Store.Tables.lease (t : Tables) (k : String × String × Cell) : Option LeaseRow :=
  Table.lookup LeaseRow.key k t.leaseRows

theorem Store.Tables.lease_eq {t : Tables} {rows : List LeaseRow} (h : t.leases = some rows)
    (k : String × String × Cell) : t.lease k = Table.lookup LeaseRow.key k rows := by
  rw [Tables.lease, Tables.leaseRows, h]
  rfl

/-- A lease that was added is found under its key, where there was none. The others are as they were. -/
theorem Store.Tables.lease_of_added {row : LeaseRow} {t t' : Tables}
    (h : Added .leases LeaseRow.key row t t') :
    t.lease row.key = none ∧ t'.lease row.key = some row ∧
      ∀ k, k ≠ row.key → t'.lease k = t.lease k := by
  obtain ⟨rows, hrows, hfree, rfl⟩ := h
  have hleases : (Relation.leases.set t (some (rows ++ [row]))).leases = some (rows ++ [row]) := rfl
  have hnone : Table.lookup LeaseRow.key row.key rows = none := Table.lookup_eq_none.mpr hfree
  refine ⟨?_, ?_, fun k hk => ?_⟩
  · rw [Tables.lease_eq hrows]
    exact hnone
  · rw [Tables.lease_eq hleases, Table.lookup_append, hnone, if_pos rfl]
    rfl
  · rw [Tables.lease_eq hleases, Tables.lease_eq hrows, Table.lookup_append, if_neg (Ne.symm hk),
      Option.or_none]

/-- A change of the leases that keeps their keys changes what is found under each. -/
theorem Store.Tables.lease_of_map {rows : List LeaseRow} {f : LeaseRow → LeaseRow} {t t' : Tables}
    (hf : ∀ r, (f r).key = r.key) (h : t.leases = some rows) (h' : t'.leases = some (rows.map f))
    (k : String × String × Cell) : t'.lease k = (t.lease k).map f := by
  rw [Tables.lease_eq h, Tables.lease_eq h', Table.lookup_map hf]

/-- The lease has yet to be settled. -/
def Store.LeaseRow.Pending (r : LeaseRow) : Prop := r.status = Lease.Status.pending.name

instance (r : LeaseRow) : Decidable r.Pending := inferInstanceAs (Decidable (_ = _))

/-- The lease when it is settled: as completed, or as failed for a reason. -/
def Store.LeaseRow.settled (r : LeaseRow) (reason : Option String) (clock : Int) : LeaseRow :=
  { r with
    status := (reason.elim Lease.Status.completed fun _ => .failed).name
    error := reason
    finishedAt := some (.number clock) }

/-- A settled lease is not pending. -/
theorem Store.LeaseRow.not_pending_settled (r : LeaseRow) (reason : Option String) (clock : Int) :
    ¬ (r.settled reason clock).Pending := by
  cases reason <;> exact of_decide_eq_false rfl

/-- The mode and the message of the lease under a key, if there is one. -/
def Store.Tables.leaseOrigin (t : Tables) (k : String × String × Cell) :
    Option (String × Option String) :=
  (Table.lookup LeaseRow.key k (t.leases.getD [])).map fun row => (row.mode, row.messageId)

/-- The mode of the lease under a key, if there is one. -/
def Store.Tables.leaseMode (t : Tables) (k : String × String × Cell) : Option String :=
  (Table.lookup LeaseRow.key k (t.leases.getD [])).map LeaseRow.mode

theorem Store.Tables.leaseOrigin_eq {t : Tables} {rows : List LeaseRow} (h : t.leases = some rows)
    (k : String × String × Cell) :
    t.leaseOrigin k = (Table.lookup LeaseRow.key k rows).map fun row => (row.mode, row.messageId) := by
  rw [Tables.leaseOrigin, h]
  rfl

/-- Where there is an origin, there is a lease. -/
theorem Store.Tables.holds_of_leaseOrigin {t : Tables} {k : String × String × Cell}
    {origin : String × Option String} (h : t.leaseOrigin k = some origin) :
    Table.holds LeaseRow.key k t.leaseRows = true := by
  cases hholds : Table.holds LeaseRow.key k t.leaseRows with
  | true => rfl
  | false =>
    have hnone : t.leaseOrigin k = none := congrArg (Option.map _) (Table.lookup_eq_none.mpr hholds)
    cases h.symm.trans hnone

/-- The mode is the first half of the origin. -/
theorem Store.Tables.leaseMode_eq (t : Tables) (k : String × String × Cell) :
    t.leaseMode k = (t.leaseOrigin k).map Prod.fst := by
  rw [Tables.leaseMode, Tables.leaseOrigin, Option.map_map]
  rfl

namespace Lease

/-- What a lease of this origin says of itself. -/
def Origin.stored (o : Origin) : String × Option String := (o.mode.name, o.messageId)

/-- A lease was taken under a key: it was free, and says now who took it. No other lease changed. -/
structure Taken (k : String × String × Cell) (origin : Origin) (before after : Tables) : Prop where
  vacant : before.leaseOrigin k = none
  stored : after.leaseOrigin k = some origin.stored
  apart : ∀ k', k' ≠ k → after.leaseOrigin k' = before.leaseOrigin k'

namespace Taken

variable {k : String × String × Cell} {origin : Origin} {before after : Tables}
  (h : Taken k origin before after)

include h

theorem free : before.leaseMode k = none := by
  rw [Tables.leaseMode_eq, h.vacant]
  rfl

theorem held : after.leaseMode k = some origin.mode.name := by
  rw [Tables.leaseMode_eq, h.stored]
  rfl

theorem others (k' : String × String × Cell) (hk : k' ≠ k) :
    after.leaseMode k' = before.leaseMode k' := by
  rw [Tables.leaseMode_eq, Tables.leaseMode_eq, h.apart k' hk]

/-- Taking a lease takes none from anybody. -/
theorem kept {k' : String × String × Cell} {mode : String} (hk' : before.leaseMode k' = some mode) :
    after.leaseMode k' = some mode := by
  by_cases hk : k' = k
  · rw [hk, h.free] at hk'
    cases hk'
  · rw [h.others k' hk]
    exact hk'

end Taken

/-! ## Rows -/

/-- The row of a lease that was just taken. -/
def takenRow (ttl : Int) (channel avatar : String) (tick : Nat) (origin : Origin) (now : Int) :
    LeaseRow where
  channelId := channel
  avatarId := avatar
  tick := .number (ofWord tick)
  status := Status.pending.name
  mode := origin.mode.name
  createdAt := .number now
  expiresAt := .number (Numeral.wrapped (now + ttl))
  messageId := origin.messageId
  authorId := origin.authorId
  error := none
  finishedAt := none

/-- What a settlement makes of the rows: those that are pending under its key are settled. -/
def settling (k : String × String × Cell) (status : Status) (error : Option String) (clock : Int)
    (r : LeaseRow) : LeaseRow :=
  if r.key = k && r.status = Status.pending.name then
    { r with status := status.name, error := error, finishedAt := some (.number clock) }
  else r

section

variable {k : String × String × Cell} {status : Status} {error : Option String} {clock : Int}

@[simp] theorem settling_key (r : LeaseRow) : (settling k status error clock r).key = r.key := by
  unfold settling
  split <;> rfl

/-- Who took a lease, and when, is not changed by settling it. -/
theorem settling_taken (r : LeaseRow) :
    (settling k status error clock r).mode = r.mode ∧
      (settling k status error clock r).messageId = r.messageId ∧
      (settling k status error clock r).authorId = r.authorId ∧
      (settling k status error clock r).createdAt = r.createdAt ∧
      (settling k status error clock r).expiresAt = r.expiresAt := by
  unfold settling
  split <;> exact ⟨rfl, rfl, rfl, rfl, rfl⟩

/-- A pending row under the key is settled. -/
theorem settling_pending {r : LeaseRow} (hkey : r.key = k) (h : r.Pending) (reason : Option String) :
    settling k (reason.elim .completed fun _ => .failed) reason clock r = r.settled reason clock := by
  rw [settling, if_pos (by rw [Bool.and_eq_true]; exact ⟨decide_eq_true hkey, decide_eq_true h⟩)]
  rfl

/-- What was settled before is left alone, -/
theorem settling_over {r : LeaseRow} (h : ¬ r.Pending) : settling k status error clock r = r := by
  rw [settling, decide_eq_false (p := r.status = Status.pending.name) h, Bool.and_false]
  rfl

/-- and so are the rows under other keys. -/
theorem settling_other {r : LeaseRow} (h : r.key ≠ k) : settling k status error clock r = r := by
  rw [settling, decide_eq_false h]
  rfl

/-- Where no row has the key, nothing is settled. -/
theorem map_settling {rows : List LeaseRow} (h : Table.holds LeaseRow.key k rows = false) :
    rows.map (settling k status error clock) = rows := by
  rw [Table.holds, List.any_eq_false] at h
  have hsame : ∀ r ∈ rows, settling k status error clock r = r := by
    intro r hr
    exact settling_other fun hkey => h r hr (decide_eq_true hkey)
  exact (List.map_congr_left hsame).trans (List.map_id _)

end

variable {ttl : Int} {channel avatar : String} {tick : Nat} {origin : Origin} {now : Int} {s s' : Store}

/-- What an attempt to take a lease does to the rows: it adds one and comes to the guard, or it comes to
none and changes no table. -/
theorem runs_acquire?_rows {x : Except Fault (Option Guard)}
    (h : (acquire? ttl channel avatar tick origin now).Runs s x s') :
    (x = .ok (some ⟨channel, avatar, tick⟩) ∧ s'.failures = s.failures ∧
        Added .leases LeaseRow.key (takenRow ttl channel avatar tick origin now) s.tables s'.tables) ∨
      (x = .ok none ∧ s'.failures = s.failures ∧ s'.tables = s.tables ∧
        ∃ rows, s.tables.leases = some rows ∧
          Table.holds LeaseRow.key (rowKey channel avatar tick) rows = true) ∨
      ((∃ f, x = .error f) ∧ Faulted s s') :=
  runs_add_bind Relation.lawful_leases h rfl rfl

/-- What a settlement does to the rows, and that it says whether there was one to settle. -/
theorem runs_settle_rows {status : Status} {error : Option String} {clock : Int} {x : Except Fault Bool}
    (h : (settle channel avatar tick status error clock).Runs s x s') :
    (∃ rows, s.tables.leases = some rows ∧
        x = .ok (decide (rows.countP (fun r =>
          r.key = rowKey channel avatar tick && r.status = Status.pending.name) = 1)) ∧
        s'.failures = s.failures ∧
        s'.tables = { s.tables with
          leases := some (rows.map (settling (rowKey channel avatar tick) status error clock)) }) ∨
      ((∃ f, x = .error f) ∧ Faulted s s') := by
  rcases runs_bind h with ⟨changed, s₁, hamend, hrest⟩ | ⟨e, hamend, rfl⟩
  · rcases runs_change hamend with ⟨rows, hrows, hchanged, htables, hfailures⟩ | ⟨⟨_, he⟩, -⟩
    · obtain rfl := Except.ok.inj hchanged
      obtain ⟨rfl, rfl⟩ := runs_pure hrest
      exact Or.inl ⟨rows, hrows, rfl, hfailures, htables⟩
    · cases he
  · rcases runs_change hamend with ⟨_, -, he, -⟩ | ⟨-, hfault⟩
    · cases he
    · exact Or.inr ⟨⟨e, rfl⟩, hfault⟩

/-- The last row that was added is settled, if it is pending, and no other; or a failure is counted. -/
theorem settle_last {rows : List LeaseRow} {row : LeaseRow}
    (hrows : s.tables.leaseRows = rows ++ [row]) (hkey : row.key = rowKey channel avatar tick)
    (hfree : Table.holds LeaseRow.key row.key rows = false) (hpending : row.Pending)
    (reason : Option String) (clock : Int) :
    let s' := (settle channel avatar tick (reason.elim .completed fun _ => .failed) reason clock).after s
    (s'.failures = s.failures ∧ s'.tables.leaseRows = rows ++ [row.settled reason clock]) ∨
      s.failures < s'.failures := by
  intro s'
  rcases runs_settle_rows (runs_after _ s) with ⟨all, hall, -, hfailures, htables⟩ | ⟨-, hfault⟩
  · obtain rfl : all = rows ++ [row] := by
      rw [← hrows, Tables.leaseRows, hall]
      rfl
    refine Or.inl ⟨hfailures, (congrArg Tables.leaseRows htables).trans ?_⟩
    show (rows ++ [row]).map _ = _
    rw [hkey] at hfree
    rw [List.map_append, map_settling hfree, List.map_singleton, settling_pending hkey hpending]
  · exact Or.inr hfault.failures

/-! ## Origins -/

/-- A lease is taken with its row. -/
theorem taken_of_added {t t' : Tables}
    (h : Added .leases LeaseRow.key (takenRow ttl channel avatar tick origin now) t t') :
    Taken (rowKey channel avatar tick) origin t t' := by
  obtain ⟨hvacant, hstored, hapart⟩ := Tables.lease_of_added h
  constructor
  · exact congrArg (Option.map _) hvacant
  · exact congrArg (Option.map _) hstored
  · intro k hk
    exact congrArg (Option.map _) (hapart k hk)

/-- A lease that is held has an origin. -/
theorem leaseOrigin_isSome {t : Tables} {rows : List LeaseRow} {k : String × String × Cell}
    (hrows : t.leases = some rows) (hheld : Table.holds LeaseRow.key k rows = true) :
    (t.leaseOrigin k).isSome := by
  rw [Tables.leaseOrigin_eq hrows, Option.isSome_map, Option.isSome_iff_ne_none]
  intro hfree
  rw [Table.lookup_eq_none.mp hfree] at hheld
  cases hheld

/-- What an attempt to take a lease comes to: the lease, if it was free, and nothing if somebody has
it. -/
theorem runs_acquire? {x : Except Fault (Option Guard)}
    (h : (acquire? ttl channel avatar tick origin now).Runs s x s') :
    (x = .ok (some ⟨channel, avatar, tick⟩) ∧
        Taken (rowKey channel avatar tick) origin s.tables s'.tables ∧ s'.failures = s.failures) ∨
      (x = .ok none ∧ (s.tables.leaseOrigin (rowKey channel avatar tick)).isSome ∧
        s'.tables.leases = s.tables.leases ∧ s'.failures = s.failures) ∨
      ((∃ f, x = .error f) ∧ Faulted s s') := by
  rcases runs_acquire?_rows h with
    ⟨hx, hfailures, hadded⟩ | ⟨hx, hfailures, htables, rows, hrows, hheld⟩ | hfault
  · exact Or.inl ⟨hx, taken_of_added hadded, hfailures⟩
  · exact Or.inr (Or.inl
      ⟨hx, leaseOrigin_isSome hrows hheld, congrArg Tables.leases htables, hfailures⟩)
  · exact Or.inr (Or.inr hfault)

theorem Mode.name_of_ofName? {s : String} {mode : Mode} (h : Mode.ofName? s = some mode) :
    mode.name = s := by
  have hname := List.find?_some h
  exact of_decide_eq_true hname

/-- A lease that is read has the origin of its row. -/
theorem origin_of_readLease {row : LeaseRow} {lease : Lease} (h : readLease row = .ok lease) :
    (lease.mode.name, lease.messageId) = (row.mode, row.messageId) := by
  unfold readLease at h
  obtain ⟨tick, -, h⟩ := reading_ok h
  dsimp only at h
  cases hstatus : Status.ofName? row.status with
  | none =>
    rw [hstatus] at h
    cases h
  | some status =>
    simp only [hstatus, pure_bind] at h
    cases hmode : Mode.ofName? row.mode with
    | none =>
      rw [hmode] at h
      cases h
    | some mode =>
      simp only [hmode] at h
      obtain ⟨createdAt, -, h⟩ := reading_ok h
      obtain ⟨expiresAt, -, h⟩ := reading_ok h
      obtain ⟨finishedAt, -, h⟩ := reading_ok h
      obtain rfl := Except.ok.inj h
      exact Prod.ext (Mode.name_of_ofName? hmode) rfl

/-- What is found under a key is the lease that holds it. -/
theorem runs_find? {x : Except Fault (Option Lease)} (h : (find? channel avatar tick).Runs s x s') :
    (∃ found, x = .ok found ∧ s.tables.leaseOrigin (rowKey channel avatar tick) =
        found.map (fun lease => (lease.mode.name, lease.messageId)) ∧ s'.tables = s.tables ∧
          s'.failures = s.failures) ∨
      ((∃ f, x = .error f) ∧ Faulted s s') := by
  rcases runs_query h with ⟨rows, found, hrows, hread, rfl, htables, hfailures⟩ | hfault
  · refine .inl ⟨found, rfl, ?_, htables, hfailures⟩
    rw [Tables.leaseOrigin_eq hrows]
    cases hl : Table.lookup LeaseRow.key (rowKey channel avatar tick) rows with
    | none =>
      rw [hl] at hread
      obtain rfl := Except.ok.inj hread
      rfl
    | some row =>
      rw [hl] at hread
      have hmap : (readLease row).map some = .ok found := hread
      cases hr : readLease row with
      | error f =>
        rw [hr] at hmap
        cases hmap
      | ok lease =>
        rw [hr] at hmap
        obtain rfl := Except.ok.inj hmap
        exact congrArg some (origin_of_readLease hr).symm
  · exact .inr hfault

/-- Settling a lease changes nobody's origin. -/
theorem runs_settle {status : Status} {error : Option String} {clock : Int} {x : Except Fault Bool}
    (h : (settle channel avatar tick status error clock).Runs s x s') (k : String × String × Cell) :
    s'.tables.leaseOrigin k = s.tables.leaseOrigin k := by
  rcases runs_settle_rows h with ⟨rows, hrows, -, -, htables⟩ | ⟨-, hfault⟩
  · have hsettled := Tables.lease_of_map settling_key hrows (congrArg Tables.leases htables) k
    show (s'.tables.lease k).map _ = (s.tables.lease k).map _
    rw [hsettled, Option.map_map]
    congr 1
    funext r
    obtain ⟨hmode, hmessage, -⟩ := settling_taken (k := rowKey channel avatar tick) r
    exact Prod.ext hmode hmessage
  · rw [hfault.tables]

end Lease

end TurnTaking
