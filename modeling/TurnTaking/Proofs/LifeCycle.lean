import TurnTaking.Proofs.Lease

/-!
# The life cycle of a lease

Any number of registries share one store. They take leases, settle them by their keys and hand out
guards, and whoever holds a guard settles its lease or drops it; all that in any order, and statements may
fail in between. Each lease is taken once and settled once all the same, by whoever asks first.

* `State`, `Move` — the store and the guards that are held, and what may be done to them;
* `Ask`, `State.heard` — what the moves ask about the lease under a key, and what they are told;
* `Answered` — how one ask is answered, and what becomes of the row (`runs_ask`, `State.step_hears`);
* `History` — one answer after another, from the row before to the row after (`State.heard_history`);
* `Cycle` — what every history comes to (`History.cycle`), and with it every run (`life_cycle`).
-/

namespace TurnTaking

open Store Store.Access

/-- No two leases have the same key. -/
def Store.Tables.LeasesApart (t : Tables) : Prop := (t.leaseRows.map LeaseRow.key).Nodup

instance (t : Tables) : Decidable t.LeasesApart := inferInstanceAs (Decidable (List.Nodup _))

theorem Store.Tables.leasesApart_eq {t : Tables} {rows : List LeaseRow} (h : t.leases = some rows) :
    t.LeasesApart ↔ (rows.map LeaseRow.key).Nodup := by
  rw [Tables.LeasesApart, Tables.leaseRows, h]
  rfl

/-- A lease that was free is added beside the others. -/
theorem Store.Tables.LeasesApart.added {row : LeaseRow} {t t' : Tables} (hapart : t.LeasesApart)
    (h : Added .leases LeaseRow.key row t t') : t'.LeasesApart := by
  obtain ⟨rows, hrows, hfree, rfl⟩ := h
  exact (Table.nodup_append hfree).mpr ((Tables.leasesApart_eq hrows).mp hapart)

namespace Lease

/-! ## Asks -/

/-- What is asked of the leases of a store: to take one, or to settle one, with a reason if it failed. -/
inductive Ask where
  | take (ttl : Int) (channel avatar : String) (tick : Nat) (origin : Origin) (now : Int)
  | settle (channel avatar : String) (tick : Nat) (reason : Option String) (clock : Int)
deriving DecidableEq, Repr

namespace Ask

def key : Ask → String × String × Cell
  | .take _ channel avatar tick _ _ => rowKey channel avatar tick
  | .settle channel avatar tick _ _ => rowKey channel avatar tick

/-- Whether the lease is to be taken. -/
def isTake : Ask → Bool
  | .take .. => true
  | .settle .. => false

/-- The statement that asks. It says whether the ask was granted. -/
def access : Ask → Access Bool
  | .take ttl channel avatar tick origin now => tryTake ttl channel avatar tick origin now
  | .settle channel avatar tick none clock => complete channel avatar tick clock
  | .settle channel avatar tick (some reason) clock => fail channel avatar tick reason clock

end Ask

/-- An ask and whether it was granted. -/
structure Heard where
  ask : Ask
  granted : Bool
deriving DecidableEq, Repr

/-- How an ask is answered where the row under its key is known, and what becomes of that row. -/
inductive Answered : Option LeaseRow → Heard → Option LeaseRow → Prop
  | taken (ttl channel avatar tick origin now) :
    Answered none ⟨.take ttl channel avatar tick origin now, true⟩
      (some (takenRow ttl channel avatar tick origin now))
  | held (row ttl channel avatar tick origin now) :
    Answered (some row) ⟨.take ttl channel avatar tick origin now, false⟩ (some row)
  | missing (channel avatar tick reason clock) :
    Answered none ⟨.settle channel avatar tick reason clock, false⟩ none
  | settled (row channel avatar tick reason clock) : row.Pending →
    Answered (some row) ⟨.settle channel avatar tick reason clock, true⟩
      (some (row.settled reason clock))
  | closed (row channel avatar tick reason clock) : ¬ row.Pending →
    Answered (some row) ⟨.settle channel avatar tick reason clock, false⟩ (some row)

/-! ## One statement -/

variable {s s' : Store} {a : Ask}

/-- What an ask comes to: it is answered by the row under its key, and no other row changes. Or it fails,
and no row does. -/
structure Told (a : Ask) (granted : Bool) (before after : Tables) : Prop where
  answered : Answered (before.lease a.key) ⟨a, granted⟩ (after.lease a.key)
  others : ∀ k, k ≠ a.key → after.lease k = before.lease k
  apart : after.LeasesApart

/-- Under a key that is taken a lease is found. -/
theorem lease_of_holds {t : Tables} {rows : List LeaseRow} {k : String × String × Cell}
    (hrows : t.leases = some rows) (hheld : Table.holds LeaseRow.key k rows = true) :
    ∃ row, t.lease k = some row := by
  rw [Tables.lease_eq hrows]
  cases hrow : Table.lookup LeaseRow.key k rows with
  | some row => exact ⟨row, rfl⟩
  | none =>
    rw [Table.lookup_eq_none.mp hrow] at hheld
    cases hheld

/-- An attempt to take a lease is told by whether it was held. -/
theorem runs_take {ttl : Int} {channel avatar : String} {tick : Nat} {origin : Origin} {now : Int}
    {x : Except Fault Bool} (hapart : s.tables.LeasesApart)
    (h : (tryTake ttl channel avatar tick origin now).Runs s x s') :
    (∃ granted, x = .ok granted ∧
        Told (.take ttl channel avatar tick origin now) granted s.tables s'.tables) ∨
      ((∃ f, x = .error f) ∧ s'.tables = s.tables) := by
  rcases runs_add Relation.lawful_leases h with
    ⟨rfl, -, hadded⟩ | ⟨rfl, -, htables, rows, hrows, hheld⟩ | ⟨hfault, hsame⟩
  · -- the key was free, so that the new row is what is found under it
    have hadded : Added .leases LeaseRow.key (takenRow ttl channel avatar tick origin now) s.tables
        s'.tables := hadded
    obtain ⟨hvacant, hstored, hothers⟩ := Tables.lease_of_added hadded
    have hanswered := Answered.taken ttl channel avatar tick origin now
    rw [← hvacant, ← hstored] at hanswered
    exact Or.inl ⟨true, rfl, hanswered, hothers, hapart.added hadded⟩
  · obtain ⟨row, hrow⟩ := lease_of_holds hrows hheld
    have hanswered := Answered.held row ttl channel avatar tick origin now
    rw [← hrow] at hanswered
    rw [htables]
    exact Or.inl ⟨false, rfl, hanswered, fun _ _ => rfl, hapart⟩
  · exact Or.inr ⟨hfault, hsame.tables⟩

/-- What a settlement says and does, by the row that it finds. -/
theorem answered_settling {rows : List LeaseRow} {k : String × String × Cell}
    (hkeys : (rows.map LeaseRow.key).Nodup) (channel avatar : String) (tick : Nat)
    (reason : Option String) (clock : Int) :
    Answered (Table.lookup LeaseRow.key k rows)
      ⟨.settle channel avatar tick reason clock,
        decide (rows.countP (fun r => r.key = k && r.status = Status.pending.name) = 1)⟩
      ((Table.lookup LeaseRow.key k rows).map
        (settling k (reason.elim .completed fun _ => .failed) reason clock)) := by
  -- no row but the one under the key can be settled
  have hone := Table.countP_eq (p := fun r : LeaseRow =>
    r.key = k && r.status = Status.pending.name) hkeys
    fun r hr => of_decide_eq_true (Bool.and_eq_true_iff.mp hr).1
  rw [hone]
  cases hrow : Table.lookup LeaseRow.key k rows with
  | none => exact .missing ..
  | some row =>
    have hkey := Table.key_of_lookup hrow
    rw [Option.map_some, Option.any_some, decide_eq_true hkey, Bool.true_and]
    by_cases hpending : row.Pending
    · rw [settling_pending hkey hpending, decide_eq_true (p := row.status = _) hpending]
      exact .settled _ _ _ _ _ _ hpending
    · rw [settling_over hpending, decide_eq_false (p := row.status = _) hpending]
      exact .closed _ _ _ _ _ _ hpending

/-- A settlement is told by whether the lease was pending. -/
theorem runs_settlement {channel avatar : String} {tick : Nat} {reason : Option String} {clock : Int}
    {x : Except Fault Bool} (hapart : s.tables.LeasesApart)
    (h : (settle channel avatar tick (reason.elim .completed fun _ => .failed) reason clock).Runs
      s x s') :
    (∃ granted, x = .ok granted ∧
        Told (.settle channel avatar tick reason clock) granted s.tables s'.tables) ∨
      ((∃ f, x = .error f) ∧ s'.tables = s.tables) := by
  rcases runs_settle_rows h with ⟨rows, hrows, rfl, -, htables⟩ | ⟨hfault, hsame⟩
  · -- keys are not changed, and no row under another key is
    have hleases := congrArg Tables.leases htables
    have hkeys := (Tables.leasesApart_eq hrows).mp hapart
    have hsettled := Tables.lease_of_map settling_key hrows hleases
    refine Or.inl ⟨_, rfl, ?_, ?_, ?_⟩
    · have hanswered := answered_settling (k := rowKey channel avatar tick) hkeys channel avatar tick
        reason clock
      rw [← Tables.lease_eq hrows, ← hsettled] at hanswered
      exact hanswered
    · intro k hk
      rw [hsettled]
      cases hrow : s.tables.lease k with
      | none => rfl
      | some row =>
        have hother : row.key ≠ rowKey channel avatar tick := by
          rw [Table.key_of_lookup hrow]
          exact hk
        rw [Option.map_some, settling_other hother]
    · rw [Tables.leasesApart_eq hleases, Table.map_key settling_key]
      exact hkeys
  · exact Or.inr ⟨hfault, hsame.tables⟩

/-- Every ask is told as it was answered, or failed without a change. -/
theorem runs_ask {x : Except Fault Bool} (hapart : s.tables.LeasesApart) (h : a.access.Runs s x s') :
    (∃ granted, x = .ok granted ∧ Told a granted s.tables s'.tables) ∨
      ((∃ f, x = .error f) ∧ s'.tables = s.tables) := by
  cases a with
  | take ttl channel avatar tick origin now => exact runs_take hapart h
  | settle channel avatar tick reason clock =>
    cases reason with
    | none => exact runs_settlement hapart h
    | some reason => exact runs_settlement hapart h

/-! ## Moves -/

/-- How a holder may leave a guard. -/
inductive Exit where
  | complete
  | fail (reason : String)
  /-- The guard is dropped before its lease was settled. -/
  | drop
deriving DecidableEq, Repr

namespace Exit

/-- Why a lease fails that is left so. -/
def reason : Exit → Option String
  | .complete => none
  | .fail reason => some reason
  | .drop => some "abandoned"

/-- What is done when a guard is left so. -/
def access (exit : Exit) (g : Guard) (clock : Int) : Access Unit :=
  match exit with
  | .complete => g.complete clock
  | .fail reason => g.fail reason clock
  | .drop => g.abandon clock

end Exit

/-- One store, and the guards that are held, the latest first. -/
structure State where
  store : Store
  held : List Guard

/-- What may happen next. Registries differ in how long their leases last, and each goes by its own
clock. -/
inductive Move where
  | lease (ttl : Int) (channel avatar : String) (tick : Nat) (origin : Origin) (now : Int)
  | acquire (ttl : Int) (channel avatar : String) (tick : Nat) (origin : Origin) (now : Int)
  | complete (channel avatar : String) (tick : Nat) (clock : Int)
  | fail (channel avatar : String) (tick : Nat) (reason : String) (clock : Int)
  | leave (i : Nat) (exit : Exit) (clock : Int)
deriving DecidableEq, Repr

namespace State

/-- The state after a move. A guard that is not there cannot be left, and one that was left is gone. -/
def step (s : State) : Move → State
  | .lease ttl channel avatar tick origin now =>
    { s with store := (tryTake ttl channel avatar tick origin now).after s.store }
  | .acquire ttl channel avatar tick origin now =>
    let attempt := acquire? ttl channel avatar tick origin now
    match attempt.outcome s.store with
    | .ok (some guard) => ⟨attempt.after s.store, guard :: s.held⟩
    | _ => { s with store := attempt.after s.store }
  | .complete channel avatar tick clock =>
    { s with store := (Lease.complete channel avatar tick clock).after s.store }
  | .fail channel avatar tick reason clock =>
    { s with store := (Lease.fail channel avatar tick reason clock).after s.store }
  | .leave i exit clock =>
    match s.held[i]? with
    | some guard => ⟨(exit.access guard clock).after s.store, s.held.eraseIdx i⟩
    | none => s

/-- The state after moves. -/
def run (s : State) (moves : List Move) : State := moves.foldl step s

/-- The lease under a key, if there is one. -/
def lease (s : State) (k : String × String × Cell) : Option LeaseRow := s.store.tables.lease k

/-- What a move asks of the leases. -/
def ask? (s : State) : Move → Option Ask
  | .lease ttl channel avatar tick origin now => some (.take ttl channel avatar tick origin now)
  | .acquire ttl channel avatar tick origin now => some (.take ttl channel avatar tick origin now)
  | .complete channel avatar tick clock => some (.settle channel avatar tick none clock)
  | .fail channel avatar tick reason clock => some (.settle channel avatar tick (some reason) clock)
  | .leave i exit clock =>
    s.held[i]?.map fun guard =>
      .settle guard.channelId guard.avatarId guard.tick exit.reason clock

/-- What a move hears about the lease under a key: nothing if it does not ask for that one, or if its
statement fails. -/
def hears (k : String × String × Cell) (s : State) (m : Move) : Option Heard :=
  (s.ask? m).bind fun ask =>
    if ask.key = k then (ask.access.outcome s.store).toOption.map (Heard.mk ask) else none

/-- What moves hear about the lease under a key, one after another. -/
def heard (k : String × String × Cell) : State → List Move → List Heard
  | _, [] => []
  | s, m :: rest => (s.hears k m).toList ++ heard k (s.step m) rest

variable {s : State} {k : String × String × Cell}

/-- A move does to the store what it asks for, and nothing else. -/
theorem step_store (s : State) (m : Move) :
    (s.step m).store = (s.ask? m).elim s.store fun ask => ask.access.after s.store := by
  cases m with
  | lease | complete | fail => rfl
  | acquire ttl channel avatar tick origin now =>
    have hafter : (s.step (.acquire ttl channel avatar tick origin now)).store =
        (acquire? ttl channel avatar tick origin now).after s.store := by
      simp only [step]
      split <;> rfl
    rw [hafter]
    exact after_bind (fun taken _ => by cases taken <;> rfl) _
  | leave i exit clock =>
    simp only [step, ask?]
    cases s.held[i]? with
    | none => rfl
    | some guard =>
      cases exit <;> exact after_bind (fun _ _ => rfl) _

/-- The leases keep their keys apart. -/
theorem step_apart (hapart : s.store.tables.LeasesApart) (m : Move) :
    (s.step m).store.tables.LeasesApart := by
  rw [step_store]
  cases s.ask? m with
  | none => exact hapart
  | some ask =>
    rcases runs_ask hapart (runs_after ask.access s.store) with ⟨granted, -, htold⟩ | ⟨-, htables⟩
    · exact htold.apart
    · rw [Option.elim_some, htables]
      exact hapart

/-- A move is answered by the row under the key, if it hears about that one, and else leaves the row as
it is. -/
theorem step_hears (hapart : s.store.tables.LeasesApart) (k : String × String × Cell) (m : Move) :
    (s.hears k m = none ∧ (s.step m).lease k = s.lease k) ∨
      ∃ h, s.hears k m = some h ∧ Answered (s.lease k) h ((s.step m).lease k) := by
  rw [hears, lease, lease, step_store]
  cases s.ask? m with
  | none => exact Or.inl ⟨rfl, rfl⟩
  | some ask =>
    rw [Option.bind_some, Option.elim_some]
    rcases runs_ask hapart (runs_after ask.access s.store) with
      ⟨granted, houtcome, htold⟩ | ⟨⟨f, houtcome⟩, htables⟩
    · by_cases hk : ask.key = k
      · subst hk
        rw [if_pos rfl, houtcome]
        exact Or.inr ⟨⟨ask, granted⟩, rfl, htold.answered⟩
      · rw [if_neg hk]
        exact Or.inl ⟨rfl, htold.others k (Ne.symm hk)⟩
    · -- a statement that failed has told nobody anything
      rw [htables, houtcome]
      refine Or.inl ⟨?_, rfl⟩
      split <;> rfl

end State

/-! ## Histories -/

/-- What is heard about a lease one after another, and what its row is before and after. -/
inductive History : Option LeaseRow → List Heard → Option LeaseRow → Prop
  | nil (row) : History row [] row
  | cons {row row' row'' h rest} : Answered row h row' → History row' rest row'' →
    History row (h :: rest) row''

namespace State

variable {s : State} {k : String × String × Cell}

/-- Leases keep keys of their own along a run. -/
theorem run_apart (hapart : s.store.tables.LeasesApart) (moves : List Move) :
    (s.run moves).store.tables.LeasesApart := by
  induction moves generalizing s with
  | nil => exact hapart
  | cons m rest ih => exact ih (step_apart hapart m)

/-- What moves hear about a lease is its history. -/
theorem heard_history (hapart : s.store.tables.LeasesApart) (k : String × String × Cell)
    (moves : List Move) : History (s.lease k) (s.heard k moves) ((s.run moves).lease k) := by
  induction moves generalizing s with
  | nil => exact .nil _
  | cons m rest ih =>
    have hrest := ih (step_apart hapart m)
    rw [heard]
    rcases step_hears hapart k m with ⟨hnone, hsame⟩ | ⟨h, hsome, hanswered⟩
    · rw [hnone, ← hsame]
      exact hrest
    · rw [hsome]
      exact .cons hanswered hrest

end State

/-- All that was asked was refused. -/
def Refused (heard : List Heard) : Prop := ∀ h ∈ heard, h.granted = false

/-- What may become of a lease that is pending. -/
inductive Awaiting (row : LeaseRow) : List Heard → LeaseRow → Prop
  /-- Nobody has settled it yet, and whoever wanted to take it was refused. -/
  | unsettled {heard} : (∀ h ∈ heard, h.ask.isTake) → Refused heard → Awaiting row heard row
  /-- The first settlement was granted, and everything else refused. -/
  | settled (early late channel avatar tick reason clock) :
    (∀ h ∈ early, h.ask.isTake) → Refused early → Refused late →
    Awaiting row (early ++ ⟨.settle channel avatar tick reason clock, true⟩ :: late)
      (row.settled reason clock)

/-- The life cycle of a lease: what was heard about it, and its row before and after. -/
inductive Cycle : Option LeaseRow → List Heard → Option LeaseRow → Prop
  /-- Nobody has asked to take the lease yet. -/
  | free {heard} : (∀ h ∈ heard, h.ask.isTake = false) → Refused heard → Cycle none heard none
  /-- The first attempt to take it was granted. -/
  | taken {row} (early late ttl channel avatar tick origin now) :
    (∀ h ∈ early, h.ask.isTake = false) → Refused early →
    Awaiting (takenRow ttl channel avatar tick origin now) late row →
    Cycle none (early ++ ⟨.take ttl channel avatar tick origin now, true⟩ :: late) (some row)
  /-- It was pending from the beginning. -/
  | pending {row heard row'} : row.Pending → Awaiting row heard row' → Cycle (some row) heard (some row')
  /-- It was settled from the beginning. -/
  | closed {row heard} : ¬ row.Pending → Refused heard → Cycle (some row) heard (some row)

section

variable {row : LeaseRow} {h : Heard} {heard early rest : List Heard} {after : Option LeaseRow}

theorem Refused.nil : Refused [] := List.forall_mem_nil _

theorem Refused.cons (hh : h.granted = false) (hrest : Refused rest) : Refused (h :: rest) :=
  List.forall_mem_cons.mpr ⟨hh, hrest⟩

/-- A lease that was settled stays as it is, and nothing more is granted. -/
theorem History.closed (history : History (some row) heard after) (hrow : ¬ row.Pending) :
    after = some row ∧ Refused heard := by
  induction heard with
  | nil =>
    cases history
    exact ⟨rfl, .nil⟩
  | cons h rest ih =>
    cases history with
    | cons hanswered hrest =>
      cases hanswered with
      | held =>
        obtain ⟨hafter, hrefused⟩ := ih hrest
        exact ⟨hafter, .cons rfl hrefused⟩
      | settled _ _ _ _ _ _ hpending => exact absurd hpending hrow
      | closed =>
        obtain ⟨hafter, hrefused⟩ := ih hrest
        exact ⟨hafter, .cons rfl hrefused⟩

/-- A refused attempt to take a pending lease changes nothing about what may become of it. -/
theorem Awaiting.cons {row' : LeaseRow} (hawaiting : Awaiting row rest row') (htake : h.ask.isTake)
    (hh : h.granted = false) : Awaiting row (h :: rest) row' := by
  cases hawaiting with
  | unsettled htakes hrefused =>
    exact .unsettled (List.forall_mem_cons.mpr ⟨htake, htakes⟩) (hrefused.cons hh)
  | settled early late channel avatar tick reason clock htakes hearly hlate =>
    exact .settled (h :: early) late channel avatar tick reason clock
      (List.forall_mem_cons.mpr ⟨htake, htakes⟩) (hearly.cons hh) hlate

/-- A lease that is pending is settled by the first who asks for it. -/
theorem History.pending (history : History (some row) heard after) (hrow : row.Pending) :
    ∃ row', after = some row' ∧ Awaiting row heard row' := by
  induction heard with
  | nil =>
    cases history
    exact ⟨row, rfl, .unsettled (List.forall_mem_nil _) .nil⟩
  | cons h rest ih =>
    cases history with
    | cons hanswered hrest =>
      cases hanswered with
      | held =>
        obtain ⟨row', hafter, hawaiting⟩ := ih hrest
        exact ⟨row', hafter, hawaiting.cons rfl rfl⟩
      | settled _ channel avatar tick reason clock =>
        -- from now on the lease is closed
        obtain ⟨hafter, hrefused⟩ := hrest.closed (row.not_pending_settled reason clock)
        refine ⟨_, hafter, ?_⟩
        exact .settled [] rest channel avatar tick reason clock (List.forall_mem_nil _) .nil hrefused
      | closed _ _ _ _ _ _ hsettled => exact absurd hrow hsettled

/-- A settlement of a lease that is free is refused, and changes nothing about what may become of it. -/
theorem Cycle.cons_free (hcycle : Cycle none rest after) (hsettle : h.ask.isTake = false)
    (hh : h.granted = false) : Cycle none (h :: rest) after := by
  cases hcycle with
  | free hsettles hrefused =>
    exact .free (List.forall_mem_cons.mpr ⟨hsettle, hsettles⟩) (hrefused.cons hh)
  | taken early late ttl channel avatar tick origin now hsettles hearly hawaiting =>
    exact .taken (h :: early) late ttl channel avatar tick origin now
      (List.forall_mem_cons.mpr ⟨hsettle, hsettles⟩) (hearly.cons hh) hawaiting

/-- A lease that is free is taken by the first who asks for it. -/
theorem History.free (history : History none heard after) : Cycle none heard after := by
  induction heard with
  | nil =>
    cases history
    exact .free (List.forall_mem_nil _) .nil
  | cons h rest ih =>
    cases history with
    | cons hanswered hrest =>
      cases hanswered with
      | taken ttl channel avatar tick origin now =>
        obtain ⟨row, rfl, hawaiting⟩ := hrest.pending rfl
        exact .taken [] rest ttl channel avatar tick origin now (List.forall_mem_nil _) .nil hawaiting
      | missing => exact (ih hrest).cons_free rfl rfl

/-- Every history is a life cycle, wherever it begins. -/
theorem History.cycle {before : Option LeaseRow} (history : History before heard after) :
    Cycle before heard after := by
  -- the row that is there first decides which asks can be granted at all
  cases before with
  | none => exact history.free
  | some row =>
    by_cases hrow : row.Pending
    · obtain ⟨row', rfl, hawaiting⟩ := history.pending hrow
      exact .pending hrow hawaiting
    · obtain ⟨rfl, hrefused⟩ := history.closed hrow
      exact .closed hrow hrefused

/-! ## Grants -/

/-- How many attempts to take the lease were granted, or how many settlements. -/
def grants (take : Bool) (heard : List Heard) : Nat :=
  heard.countP fun h => h.ask.isTake == take && h.granted

/-- Where all were refused nothing was granted. -/
theorem Refused.grants (hrefused : Refused heard) (take : Bool) : grants take heard = 0 := by
  rw [Lease.grants, List.countP_eq_zero]
  intro h hh
  rw [hrefused h hh, Bool.and_false]
  exact Bool.false_ne_true

/-- One grant among others adds one of its kind. -/
theorem grants_granted (take : Bool) (early late : List Heard) (ask : Ask) :
    grants take (early ++ ⟨ask, true⟩ :: late) =
      grants take early + grants take late + if ask.isTake = take then 1 else 0 := by
  simp [Lease.grants, List.countP_cons, Nat.add_assoc]

/-- A lease that is pending is not taken again, and settled once at most. -/
theorem Awaiting.grants {row' : LeaseRow} (hawaiting : Awaiting row heard row') :
    grants true heard = 0 ∧ grants false heard ≤ 1 := by
  cases hawaiting with
  | unsettled _ hrefused =>
    rw [hrefused.grants, hrefused.grants]
    exact ⟨rfl, Nat.zero_le _⟩
  | settled early late channel avatar tick reason clock _ hearly hlate =>
    rw [grants_granted, grants_granted, hearly.grants, hearly.grants, hlate.grants, hlate.grants]
    exact ⟨rfl, Nat.le_refl _⟩

/-- In a life cycle a lease is taken once at most, and settled once at most. -/
theorem Cycle.grants {before : Option LeaseRow} (hcycle : Cycle before heard after) (take : Bool) :
    grants take heard ≤ 1 := by
  cases hcycle with
  | free _ hrefused =>
    rw [hrefused.grants]
    exact Nat.zero_le _
  | taken early late ttl channel avatar tick origin now _ hearly hawaiting =>
    obtain ⟨htakes, hsettles⟩ := hawaiting.grants
    rw [grants_granted, hearly.grants, Nat.zero_add]
    -- it was taken once, and never before it was free
    cases take with
    | true =>
      rw [htakes]
      exact Nat.le_refl _
    | false => exact hsettles
  | pending _ hawaiting =>
    obtain ⟨htakes, hsettles⟩ := hawaiting.grants
    cases take with
    | true =>
      rw [htakes]
      exact Nat.zero_le _
    | false => exact hsettles
  | closed _ hrefused =>
    rw [hrefused.grants]
    exact Nat.zero_le _

/-- A row that is there stays, as it is or as it was settled from pending. -/
theorem Cycle.lasts {row : LeaseRow} (hcycle : Cycle (some row) heard after) :
    ∃ row', after = some row' ∧
      (row' = row ∨ row.Pending ∧ ∃ reason clock, row' = row.settled reason clock) := by
  cases hcycle with
  | pending hpending hawaiting =>
    cases hawaiting with
    | unsettled => exact ⟨row, rfl, Or.inl rfl⟩
    | settled _ _ _ _ _ reason clock => exact ⟨_, rfl, Or.inr ⟨hpending, reason, clock, rfl⟩⟩
  | closed => exact ⟨row, rfl, Or.inl rfl⟩

end

/-- The life of the lease under a key while moves are made. -/
structure Lives (s : State) (k : String × String × Cell) (moves : List Move) : Prop where
  /-- At most one attempt to take the lease is granted, -/
  takenOnce : grants true (s.heard k moves) ≤ 1
  /-- and at most one settlement. -/
  settledOnce : grants false (s.heard k moves) ≤ 1
  /-- The row is what the first attempt wrote, or what the first settlement after it made of that. -/
  cycle : Cycle (s.lease k) (s.heard k moves) ((s.run moves).lease k)
  /-- A row that is there at any moment stays. Settling it once is all that changes it. -/
  lasting : ∀ p q row, moves = p ++ q → (s.run p).lease k = some row →
    ∃ row', (s.run moves).lease k = some row' ∧
      (row' = row ∨ row.Pending ∧ ∃ reason clock, row' = row.settled reason clock)

/-- Whatever any number of registries on one store do, in whatever order and with whatever failures, and
whatever leases there were before: each lease lives through one life cycle. It is taken by the first who
asks for it, keeps what that one wrote about it, is settled by the first who asks for that, and stays
so. -/
theorem life_cycle {s : State} (hapart : s.store.tables.LeasesApart) (k : String × String × Cell)
    (moves : List Move) : Lives s k moves := by
  have hcycle := (State.heard_history hapart k moves).cycle
  refine ⟨hcycle.grants true, hcycle.grants false, hcycle, ?_⟩
  rintro p q row rfl hrow
  -- what is there in between is the beginning of another life cycle
  have hrest := (State.heard_history (State.run_apart hapart p) k q).cycle
  rw [hrow] at hrest
  rw [State.run, List.foldl_append]
  exact hrest.lasts

/-- Two ask for one lease. The one who gets it drops its guard, and settles it again after that. -/
theorem life_cycle_abandoned :
    let s : State := ⟨.new, []⟩
    let k := rowKey "c" "ada" 3
    let moves : List Move := [.complete "c" "ada" 3 1, .acquire 1000 "c" "ada" 3 .ambient 2,
      .lease 500 "c" "ada" 3 (.ofMessage .fastlane "m" "u") 3, .leave 0 .drop 4, .complete "c" "ada" 3 5]
    s.store.tables.LeasesApart ∧ Lives s k moves ∧
      s.heard k moves = [⟨.settle "c" "ada" 3 none 1, false⟩,
        ⟨.take 1000 "c" "ada" 3 .ambient 2, true⟩,
        ⟨.take 500 "c" "ada" 3 (.ofMessage .fastlane "m" "u") 3, false⟩,
        ⟨.settle "c" "ada" 3 (some "abandoned") 4, true⟩, ⟨.settle "c" "ada" 3 none 5, false⟩] ∧
      (s.run moves).lease k =
        some ((takenRow 1000 "c" "ada" 3 .ambient 2).settled (some "abandoned") 4) :=
  ⟨by decide, life_cycle (by decide) _ _, by decide +kernel, by decide +kernel⟩

end Lease

end TurnTaking
