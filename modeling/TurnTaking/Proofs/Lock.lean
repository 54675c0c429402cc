import TurnTaking.Lock
import TurnTaking.Proofs.Store.Rows

/-!
# Response locks — how long they exclude

Locks are taken, freed and purged in any order by any number of handles on one store. A lock that is
taken stays under its key until it expires, unless somebody frees it; and a guard that is dropped frees
the lock of its key, whoever took it. So the locks exclude as long as no guard is dropped late, that
is when the lock of its key is another's by then.

* `State`, `Move` — the store, the clock and the guards that were not dropped yet, and what may be done
  to them;
* `Guarded` — the invariant: a guard that has not expired has its lock, and shares its key with no other;
* `excludes_iff_timely` — locks exclude at every moment, however a run goes on without more drops, if
  and only if no guard of the run is dropped late.
-/

namespace TurnTaking

open Store Store.Access

/-- The lock under a key, if there is one. -/
def Store.Tables.lock (t : Tables) (k : String × String) : Option LockRow :=
  Table.lookup LockRow.key k (t.locks.getD [])

theorem Store.Tables.lock_eq {t : Tables} {rows : List LockRow} (h : t.locks = some rows)
    (k : String × String) : t.lock k = Table.lookup LockRow.key k rows := by
  rw [Tables.lock, h]
  rfl

namespace Lock

/-- The key of a guard's lock. -/
def Guard.key (g : Guard) : String × String := (g.channelId, g.avatarId)

theorem Guard.key_inj {g g' : Guard} (h : g.key = g'.key) : g = g' := by
  obtain ⟨hchannel, havatar⟩ := Prod.mk.inj h
  cases g
  cases g'
  rw [mk.injEq]
  exact ⟨hchannel, havatar⟩

/-! ## What the accesses do to the locks -/

/-- A lock was taken: it was free, and expires now when it should. No other lock changed. -/
structure Taken (g : Guard) (expiry : Int) (before after : Tables) : Prop where
  free : before.lock g.key = none
  held : ∃ row, after.lock g.key = some row ∧ row.expiresAt = .number expiry
  others : ∀ k, k ≠ g.key → after.lock k = before.lock k

/-- The row of a lock that was just taken. -/
def takenRow (ttl : Int) (channel avatar : String) (now : Int) : LockRow :=
  ⟨channel, avatar, .number now, .number (now + ttl)⟩

/-- What an attempt to take a lock does to the rows: it adds one and comes to the guard, or it comes to
none and changes no table. -/
theorem runs_tryGuard_rows {ttl now : Int} {channel avatar : String} {x : Except Fault (Option Guard)}
    {s s' : Store} (h : (tryGuard ttl channel avatar now).Runs s x s') :
    (x = .ok (some ⟨channel, avatar⟩) ∧ s'.failures = s.failures ∧
        Added .locks LockRow.key (takenRow ttl channel avatar now) s.tables s'.tables) ∨
      ((∀ guard, x ≠ .ok (some guard)) ∧ s'.tables = s.tables ∧ s.failures ≤ s'.failures) := by
  rcases runs_add_bind Relation.lawful_locks h rfl rfl with
    hadded | ⟨rfl, hfailures, htables, -⟩ | ⟨⟨f, rfl⟩, hfault⟩
  · exact Or.inl hadded
  · exact Or.inr ⟨by simp, htables, Nat.le_of_eq hfailures.symm⟩
  · exact Or.inr ⟨by simp, hfault.tables, Nat.le_of_lt hfault.failures⟩

/-- A lock is taken with its row. -/
theorem taken_of_added {ttl now : Int} {channel avatar : String} {t t' : Tables}
    (h : Added .locks LockRow.key (takenRow ttl channel avatar now) t t') :
    Taken ⟨channel, avatar⟩ (now + ttl) t t' := by
  obtain ⟨rows, hrows, hfree, rfl⟩ := h
  have hlocks : (Relation.locks.set t (some (rows ++ [takenRow ttl channel avatar now]))).locks =
      some (rows ++ [takenRow ttl channel avatar now]) := rfl
  have hnone : Table.lookup LockRow.key (channel, avatar) rows = none := Table.lookup_eq_none.mpr hfree
  constructor
  · rw [Tables.lock_eq hrows]
    exact hnone
  · refine ⟨takenRow ttl channel avatar now, ?_, rfl⟩
    rw [Tables.lock_eq hlocks, Table.lookup_append]
    show (Table.lookup LockRow.key (channel, avatar) rows).or _ = _
    rw [hnone, Option.none_or]
    exact if_pos rfl
  · intro k hk
    have hother : (takenRow ttl channel avatar now).key ≠ k := Ne.symm hk
    rw [Tables.lock_eq hlocks, Tables.lock_eq hrows, Table.lookup_append, if_neg hother, Option.or_none]

/-- What an attempt to take a lock comes to: the guard, if it was free, and otherwise nothing. -/
theorem runs_tryGuard {ttl now : Int} {channel avatar : String} {x : Except Fault (Option Guard)}
    {s s' : Store} (h : (tryGuard ttl channel avatar now).Runs s x s') :
    (x = .ok (some ⟨channel, avatar⟩) ∧
        Taken ⟨channel, avatar⟩ (now + ttl) s.tables s'.tables) ∨
      ((∀ guard, x ≠ .ok (some guard)) ∧ ∀ k, s'.tables.lock k = s.tables.lock k) := by
  rcases runs_tryGuard_rows h with ⟨hx, -, hadded⟩ | ⟨hx, htables, -⟩
  · exact Or.inl ⟨hx, taken_of_added hadded⟩
  · exact Or.inr ⟨hx, fun k => by rw [htables]⟩

/-- Where a lock is free, an attempt to take it does so, or a statement fails. -/
theorem runs_tryGuard_free {ttl now : Int} {channel avatar : String} {x : Except Fault (Option Guard)}
    {s s' : Store} (hfree : s.tables.lock (channel, avatar) = none)
    (h : (tryGuard ttl channel avatar now).Runs s x s') :
    x = .ok (some ⟨channel, avatar⟩) ∨ s.failures < s'.failures := by
  rcases runs_add_bind Relation.lawful_locks h rfl rfl with
    ⟨hx, -⟩ | ⟨-, -, -, rows, hrows, hheld⟩ | ⟨-, hfault⟩
  · exact Or.inl hx
  · rw [Tables.lock_eq hrows, Table.lookup_eq_none] at hfree
    cases hfree.symm.trans hheld
  · exact Or.inr hfault.failures

/-- Where a lock is free, it is taken, or an outage has kept it from that. -/
theorem tryGuard_serves {ttl now : Int} {channel avatar : String} {s : Store} (h : Serves .locks s)
    (hfree : s.tables.lock (channel, avatar) = none) :
    (∃ s', (tryGuard ttl channel avatar now).Runs s (.ok (some ⟨channel, avatar⟩)) s') ∨
      ∃ e s', (tryGuard ttl channel avatar now).Runs s (.error e) s' ∧ s'.tables = s.tables ∧
        Serves .locks s' ∧ s'.outages.length < s.outages.length := by
  let row : LockRow := ⟨channel, avatar, .number now, .number (now + ttl)⟩
  rcases h.change (Table.add LockRow.key row) with
    ⟨taken, s', hchange⟩ | ⟨e, s', hchange, htables, hserves, hfewer⟩
  · obtain ⟨rows, hrows, htaken, -⟩ := runs_change_ok hchange
    rw [Tables.lock_eq hrows] at hfree
    rw [htaken, (Table.add_fst row rows).mpr hfree] at hchange
    exact .inl ⟨s', Runs.bind hchange rfl⟩
  · exact .inr ⟨e, s', Runs.bind_error hchange, htables, hserves, hfewer⟩

/-- What dropping a guard comes to: there is no lock under its key any more, and the others stay; or
nothing changed. -/
theorem runs_drop {g : Guard} {x : Except Fault Unit} {s s' : Store} (h : g.drop.Runs s x s') :
    (x = .ok () ∧ Serves .locks s' ∧ s'.tables.lock g.key = none ∧
        ∀ k, k ≠ g.key → s'.tables.lock k = s.tables.lock k) ∨
      ((∃ e, x = .error e) ∧ ∀ k, s'.tables.lock k = s.tables.lock k) := by
  rcases runs_bind h with ⟨_, s₁, hremove, hrest⟩ | ⟨e, hremove, rfl⟩
  · obtain ⟨rfl, rfl⟩ := runs_pure hrest
    obtain ⟨rows, hrows, -, htables⟩ := runs_change_ok hremove
    have hlocks := congrArg Tables.locks htables
    refine .inl ⟨rfl, .of_change (fun _ _ => rfl) hremove, ?_, fun k hk => ?_⟩
    · rw [Tables.lock_eq hlocks]
      exact Table.lookup_remove_key rows
    · rw [Tables.lock_eq hlocks, Tables.lock_eq hrows]
      exact Table.lookup_remove_other hk rows
  · rcases runs_change hremove with ⟨_, -, he, -⟩ | ⟨-, hfault⟩
    · cases he
    · exact .inr ⟨⟨e, rfl⟩, fun k => by rw [hfault.tables]⟩

/-- A purge leaves the locks that have not expired. -/
theorem runs_purgeExpired {now : Int} {x : Except Fault Nat} {s s' : Store}
    (h : (purgeExpired now).Runs s x s') {k : String × String} {row : LockRow} {expiry : Int}
    (hrow : s.tables.lock k = some row) (hexpiry : row.expiresAt = .number expiry)
    (hnow : now ≤ expiry) : s'.tables.lock k = some row := by
  rcases runs_change h with ⟨rows, hrows, -, htables, -⟩ | ⟨-, hfault⟩
  · rw [Tables.lock_eq hrows] at hrow
    rw [Tables.lock_eq (congrArg Tables.locks htables)]
    refine Table.lookup_remove hrow ?_
    rw [hexpiry, Cell.below_number, decide_eq_false_iff_not]
    exact Int.not_lt.mpr hnow
  · rw [hfault.tables]
    exact hrow

/-! ## Guards that are held -/

/-- A guard that was not dropped yet, and when it was taken. -/
structure Held where
  guard : Guard
  since : Int
deriving DecidableEq, Repr

/-- The guard has not expired. -/
def Held.Unexpired (ttl now : Int) (h : Held) : Prop := now ≤ h.since + ttl

instance (ttl now : Int) (h : Held) : Decidable (h.Unexpired ttl now) :=
  inferInstanceAs (Decidable (_ ≤ _))

/-- One store, the time, and the guards that were not dropped yet, the latest first. -/
structure State where
  store : Store
  clock : Int
  held : List Held

/-- What may happen next. Handles on the store hold nothing themselves, so that it does not matter which
of them takes a lock or purges. -/
inductive Move where
  | pass (duration : Nat)
  | take (channel avatar : String)
  | drop (i : Nat)
  | purge
deriving DecidableEq, Repr

/-- The move drops a guard. -/
def Move.isDrop : Move → Bool
  | .drop _ => true
  | _ => false

namespace State

/-- Nobody holds a guard. -/
def start (store : Store) (clock : Int) : State := ⟨store, clock, []⟩

/-- The state after a move. A guard that is not there cannot be dropped. -/
def step (ttl : Int) (s : State) : Move → State
  | .pass duration => { s with clock := s.clock + duration }
  | .take channel avatar =>
    let attempt := tryGuard ttl channel avatar s.clock
    match attempt.outcome s.store with
    | .ok (some guard) => ⟨attempt.after s.store, s.clock, ⟨guard, s.clock⟩ :: s.held⟩
    | _ => { s with store := attempt.after s.store }
  | .drop i =>
    match s.held[i]? with
    | some h => { s with store := h.guard.drop.after s.store, held := s.held.eraseIdx i }
    | none => s
  | .purge => { s with store := (purgeExpired s.clock).after s.store }

/-- The state after moves. -/
def run (ttl : Int) (s : State) (moves : List Move) : State := moves.foldl (step ttl) s

/-- No two unexpired guards are held for one avatar in one channel. -/
def Exclusive (ttl : Int) (s : State) : Prop :=
  s.held.Pairwise fun h h' =>
    h.guard = h'.guard → ¬ (h.Unexpired ttl s.clock ∧ h'.Unexpired ttl s.clock)

instance (ttl : Int) (s : State) : Decidable (s.Exclusive ttl) :=
  inferInstanceAs (Decidable (List.Pairwise _ _))

/-- The move drops a guard, and thereby frees the lock of another one that is held and has not
expired. -/
def DropsLate (ttl : Int) (s : State) : Move → Prop
  | .drop i => ∃ h ∈ s.held[i]?, h.guard.drop.outcome s.store = .ok () ∧
      ∃ h' ∈ s.held.eraseIdx i, h'.guard = h.guard ∧ h'.Unexpired ttl s.clock
  | _ => False

/-- No move drops a guard late. -/
def Timely (ttl : Int) : State → List Move → Prop
  | _, [] => True
  | s, m :: rest => ¬ s.DropsLate ttl m ∧ Timely ttl (s.step ttl m) rest

/-- What holds as long as no guard is dropped late. -/
structure Guarded (ttl : Int) (s : State) : Prop where
  past : ∀ h ∈ s.held, h.since ≤ s.clock
  exclusive : s.Exclusive ttl
  /-- A guard that has not expired has its lock. -/
  locked : ∀ h ∈ s.held, h.Unexpired ttl s.clock →
    ∃ row, s.store.tables.lock h.guard.key = some row ∧ row.expiresAt = .number (h.since + ttl)

variable {ttl : Int} {s : State}

theorem guarded_start (store : Store) (clock : Int) : (start store clock).Guarded ttl where
  past _ hh := absurd hh List.not_mem_nil
  exclusive := List.Pairwise.nil
  locked _ hh := absurd hh List.not_mem_nil

/-! ## Steps -/

/-- An attempt to take a lock either adds a guard for a lock that was free, or changes no lock. -/
theorem step_take (ttl : Int) (s : State) (channel avatar : String) :
    (∃ store, Taken ⟨channel, avatar⟩ (s.clock + ttl) s.store.tables store.tables ∧
        s.step ttl (.take channel avatar) =
          ⟨store, s.clock, ⟨⟨channel, avatar⟩, s.clock⟩ :: s.held⟩) ∨
      ∃ store, (∀ k, store.tables.lock k = s.store.tables.lock k) ∧
        s.step ttl (.take channel avatar) = { s with store := store } := by
  have hruns := runs_after (tryGuard ttl channel avatar s.clock) s.store
  rcases runs_tryGuard hruns with ⟨hsome, htaken⟩ | ⟨hnone, hsame⟩
  · refine .inl ⟨_, htaken, ?_⟩
    simp only [step, hsome]
  · refine .inr ⟨_, hsame, ?_⟩
    simp only [step]

/-- Time may pass: what expires only makes fewer promises. -/
theorem guarded_pass (h : s.Guarded ttl) (duration : Nat) :
    (s.step ttl (.pass duration)).Guarded ttl := by
  have hbefore : ∀ g : Held, g.Unexpired ttl (s.clock + duration) → g.Unexpired ttl s.clock := by
    intro g hg
    unfold Held.Unexpired at hg ⊢
    omega
  constructor
  · intro g hg
    have hpast := h.past g hg
    show g.since ≤ s.clock + duration
    omega
  · refine h.exclusive.imp fun hne hguard hboth => hne hguard ?_
    exact ⟨hbefore _ hboth.1, hbefore _ hboth.2⟩
  · intro g hg hunexpired
    exact h.locked g hg (hbefore g hunexpired)

/-- A lock may be taken where it is free. -/
theorem guarded_take (h : s.Guarded ttl) (channel avatar : String) :
    (s.step ttl (.take channel avatar)).Guarded ttl := by
  rcases step_take ttl s channel avatar with ⟨store, htaken, hstep⟩ | ⟨store, hsame, hstep⟩
  · rw [hstep]
    constructor
    · intro g hg
      rcases List.mem_cons.mp hg with rfl | hg
      · exact Int.le_refl _
      · exact h.past g hg
    · -- a guard that has not expired would have kept the lock from being free
      refine List.pairwise_cons.mpr ⟨fun g hg hguard hboth => ?_, h.exclusive⟩
      obtain ⟨row, hrow, -⟩ := h.locked g hg hboth.2
      have hfree := htaken.free
      rw [show (⟨channel, avatar⟩ : Guard) = g.guard from hguard, hrow] at hfree
      cases hfree
    · intro g hg hunexpired
      rcases List.mem_cons.mp hg with rfl | hg
      · exact htaken.held
      · obtain ⟨row, hrow, hexpiry⟩ := h.locked g hg hunexpired
        refine ⟨row, ?_, hexpiry⟩
        rw [← hrow]
        refine htaken.others _ fun hkey => ?_
        rw [hkey, htaken.free] at hrow
        cases hrow
  · rw [hstep]
    refine ⟨h.past, h.exclusive, fun g hg hunexpired => ?_⟩
    obtain ⟨row, hrow, hexpiry⟩ := h.locked g hg hunexpired
    exact ⟨row, (hsame _).trans hrow, hexpiry⟩

/-- A guard may be dropped in time: the row that goes is its own. -/
theorem guarded_drop (h : s.Guarded ttl) {i : Nat} (htimely : ¬ s.DropsLate ttl (.drop i)) :
    (s.step ttl (.drop i)).Guarded ttl := by
  simp only [step]
  split
  · rename_i dropped hdropped
    have hsub : (s.held.eraseIdx i).Sublist s.held := List.eraseIdx_sublist _ _
    refine ⟨fun g hg => h.past g (hsub.subset hg), h.exclusive.sublist hsub, ?_⟩
    intro g hg hunexpired
    obtain ⟨row, hrow, hexpiry⟩ := h.locked g (hsub.subset hg) hunexpired
    refine ⟨row, ?_, hexpiry⟩
    rw [← hrow]
    rcases runs_drop (runs_after dropped.guard.drop s.store) with
      ⟨hok, -, -, hothers⟩ | ⟨-, hsame⟩
    · -- had the guards one key, the drop would be late
      refine hothers _ fun hkey => htimely ?_
      exact ⟨dropped, hdropped, hok, g, hg, Guard.key_inj hkey, hunexpired⟩
    · exact hsame _
  · exact h

/-- Rows that have expired may be purged: no guard that counts needs them. -/
theorem guarded_purge (h : s.Guarded ttl) : (s.step ttl .purge).Guarded ttl := by
  refine ⟨h.past, h.exclusive, fun g hg hunexpired => ?_⟩
  obtain ⟨row, hrow, hexpiry⟩ := h.locked g hg hunexpired
  exact ⟨row, runs_purgeExpired (runs_after _ s.store) hrow hexpiry hunexpired, hexpiry⟩

/-- Every step that drops no guard late keeps the invariant. -/
theorem guarded_step (h : s.Guarded ttl) {m : Move} (htimely : ¬ s.DropsLate ttl m) :
    (s.step ttl m).Guarded ttl := by
  cases m with
  | pass duration => exact guarded_pass h duration
  | take channel avatar => exact guarded_take h channel avatar
  | drop i => exact guarded_drop h htimely
  | purge => exact guarded_purge h

/-- Every run that drops no guard late keeps the invariant. -/
theorem guarded_run (h : s.Guarded ttl) {moves : List Move} (htimely : s.Timely ttl moves) :
    (s.run ttl moves).Guarded ttl := by
  induction moves generalizing s with
  | nil => exact h
  | cons m rest ih => exact ih (guarded_step h htimely.1) htimely.2

/-! ## After a late drop -/

/-- A lock that is free is taken sooner or later, unless the store does not serve. -/
theorem retake (ttl : Int) {channel avatar : String} (hserves : Serves .locks s.store)
    (hfree : s.store.tables.lock (channel, avatar) = none) :
    ∃ n, (s.run ttl (List.replicate n (.take channel avatar))).clock = s.clock ∧
      (s.run ttl (List.replicate n (.take channel avatar))).held =
        ⟨⟨channel, avatar⟩, s.clock⟩ :: s.held := by
  -- every refusal leaves fewer outages to come
  induction houtages : s.store.outages.length using Nat.strongRecOn generalizing s with
  | ind outages ih =>
    have hattempt := runs_after (tryGuard ttl channel avatar s.clock) s.store
    rcases tryGuard_serves hserves hfree with ⟨s', hrun⟩ | ⟨e, s', hrun, htables, hserves', hfewer⟩
    · obtain ⟨hsome, hafter⟩ := hattempt.unique hrun
      have hstep : s.step ttl (.take channel avatar) =
          ⟨s', s.clock, ⟨⟨channel, avatar⟩, s.clock⟩ :: s.held⟩ := by
        simp only [step, hsome, hafter]
      refine ⟨1, ?_⟩
      rw [List.replicate_one, run, List.foldl_cons, List.foldl_nil, hstep]
      exact ⟨rfl, rfl⟩
    · obtain ⟨herror, hafter⟩ := hattempt.unique hrun
      have hstep : s.step ttl (.take channel avatar) = { s with store := s' } := by
        simp only [step, herror, hafter]
      obtain ⟨n, hn⟩ := ih s'.outages.length (houtages ▸ hfewer) (s := { s with store := s' }) hserves'
        (by rw [htables]; exact hfree) rfl
      refine ⟨n + 1, ?_⟩
      rw [List.replicate_succ, run, List.foldl_cons, hstep]
      exact hn

/-- After a guard was dropped late, the lock that it freed is taken again while it is another's. -/
theorem not_exclusive (h : s.Guarded ttl) {m : Move} (hlate : s.DropsLate ttl m) :
    ∃ n channel avatar,
      ¬ ((s.step ttl m).run ttl (List.replicate n (.take channel avatar))).Exclusive ttl := by
  cases m with
  | pass | take | purge => cases hlate
  | drop i =>
    obtain ⟨dropped, hdropped, hok, g, hg, hguard, hunexpired⟩ := hlate
    have hstep : s.step ttl (.drop i) =
        ⟨dropped.guard.drop.after s.store, s.clock, s.held.eraseIdx i⟩ := by
      simp only [step, Option.mem_def.mp hdropped]
    rcases runs_drop (runs_after dropped.guard.drop s.store) with
      ⟨-, hserves, hfree, -⟩ | ⟨⟨e, he⟩, -⟩
    · obtain ⟨n, hclock, hheld⟩ := retake ttl (s := s.step ttl (.drop i))
        (by rw [hstep]; exact hserves) (by rw [hstep]; exact hfree)
      refine ⟨n, dropped.guard.channelId, dropped.guard.avatarId, fun hexclusive => ?_⟩
      rw [Exclusive, hclock, hheld, hstep] at hexclusive
      -- the one who takes it and the one whose it was
      refine (List.pairwise_cons.mp hexclusive).1 g hg hguard.symm ⟨?_, hunexpired⟩
      have hpast := h.past g (List.mem_of_mem_eraseIdx hg)
      unfold Held.Unexpired at hunexpired ⊢
      show s.clock ≤ s.clock + ttl
      omega
    · cases hok.symm.trans he

/-! ## Runs -/

/-- A run drops nothing late just if its parts do not. -/
theorem timely_append {p more : List Move} :
    s.Timely ttl (p ++ more) ↔ s.Timely ttl p ∧ (s.run ttl p).Timely ttl more := by
  induction p generalizing s with
  | nil => exact ⟨fun h => ⟨trivial, h⟩, And.right⟩
  | cons m rest ih =>
    rw [List.cons_append, Timely, Timely, ih, and_assoc, run, run, List.foldl_cons]

/-- Where nothing is dropped, nothing is dropped late. -/
theorem timely_of_no_drop {moves : List Move} (h : ∀ m ∈ moves, m.isDrop = false) :
    s.Timely ttl moves := by
  induction moves generalizing s with
  | nil => trivial
  | cons m rest ih =>
    refine ⟨?_, ih fun m' hm' => h m' (List.mem_cons_of_mem _ hm')⟩
    have hm := h m List.mem_cons_self
    cases m with
    | drop i => cases hm
    | pass | take | purge => exact id

/-- Guards exclude each other through all continuations just if no guard is dropped late. -/
theorem excludes_iff (h : s.Guarded ttl) {moves : List Move} :
    (∀ p more, p <+: moves → (∀ m ∈ more, m.isDrop = false) → (s.run ttl (p ++ more)).Exclusive ttl) ↔
      s.Timely ttl moves := by
  constructor
  · intro hexcludes
    induction moves generalizing s with
    | nil => trivial
    | cons m rest ih =>
      have htimely : ¬ s.DropsLate ttl m := by
        -- otherwise the freed lock is taken again, which needs no drop
        intro hlate
        obtain ⟨n, channel, avatar, hshared⟩ := not_exclusive h hlate
        refine hshared (hexcludes [m] _ ⟨rest, rfl⟩ fun m' hm' => ?_)
        rw [List.eq_of_mem_replicate hm']
        rfl
      refine ⟨htimely, ih (guarded_step h htimely) fun p more hp hmore => ?_⟩
      exact hexcludes (m :: p) more (List.cons_prefix_cons.mpr ⟨rfl, hp⟩) hmore
  · rintro htimely p more ⟨rest, rfl⟩ hmore
    have hbefore := (timely_append.mp htimely).1
    exact (guarded_run h (timely_append.mpr ⟨hbefore, timely_of_no_drop hmore⟩)).exclusive

end State

end Lock

end TurnTaking
