import TurnTaking.Proofs.Engine.Coordination
import TurnTaking.Proofs.Engine.Course
import TurnTaking.Proofs.Engine.Sweep
import TurnTaking.Proofs.Retraction

/-!
# Settlement — no lease is left pending

A turn that was leased settles its lease when it ends, whatever it comes to. Turns that answer beside
somebody else's lease, or without any, settle none. So when an operation returns, every lease that it
took is settled as the turn ended for which it was taken, and the leases from before are as they were.

* `Earned` — what the journal says about a lease that was taken and settled;
* `LeaseAccount` — an account of the leases that came to the rows, kept where one step follows another
  (`LeaseAccount.trans`);
* `Settles` — steps that keep such an account, if no statement failed;
* `no_lease_left_pending` — every operation is such a step.
-/

namespace TurnTaking

open Store Store.Access

variable {σ : Type} {ttl now : Int}

/-! ## What a lease is settled by -/

/-- How the lease of a turn is settled that ended so: as completed, or as failed for a reason. -/
inductive Verdict : Turn.Outcome → Option String → Prop
  | responded (sent) : Verdict (.responded sent) none
  | silent : Verdict .silent none
  | contended : Verdict .contended (some "response lock held")
  | rejected (admission) : Verdict (.rejected admission) (some admission.reason)
  | failed (reason) : Verdict (.failed reason) (some reason)

/-- A turn has the verdict that its outcome has. -/
theorem verdict_failure? (o : Turn.Outcome) : Verdict o o.failure? := by
  cases o <;> constructor

/-- The terms on which a turn is run, its request, and the lease that is taken for it. -/
inductive LeasedFor (ttl now : Int) : JournalEntry → Turn.Request → LeaseRow → Prop
  | sweep (sweep : Sweep) (a : Avatar) :
    LeasedFor ttl now (.unprompted sweep a.id) (Engine.ambientRequest sweep a)
      (Lease.takenRow ttl sweep.channelId a.id sweep.tick .ambient now)
  | message (channel : String) (tick : Nat) (m : Message) (trigger : Trigger) (key : String)
      (depth : Nat) (s : Selection) :
    LeasedFor ttl now (.answering channel s.avatar.id tick m.id s.tier)
      (Engine.requestOf channel (some m) trigger key depth s)
      (Lease.takenRow ttl channel s.avatar.id tick (.ofMessage s.tier.leaseMode m.id m.authorId) now)

/-- The key of the lease on whose terms a turn is run, whether it was taken for this turn or not. -/
def JournalEntry.leaseKey? : JournalEntry → Option (String × String × Cell)
  | .unprompted sweep avatar => some (Lease.rowKey sweep.channelId avatar sweep.tick)
  | .answering channel avatar tick _ _ => some (Lease.rowKey channel avatar tick)
  | _ => none

theorem LeasedFor.key {terms : JournalEntry} {r : Turn.Request} {row : LeaseRow}
    (h : LeasedFor ttl now terms r row) : terms.leaseKey? = some row.key := by
  cases h <;> rfl

theorem LeasedFor.pending {terms : JournalEntry} {r : Turn.Request} {row : LeaseRow}
    (h : LeasedFor ttl now terms r row) : row.Pending := by
  cases h <;> rfl

/-- By the journal, the row is that of a lease that was taken for the first turn on its terms, and
settled as this turn ended. Between the terms and the end of the turn nothing was noted but that it asked
for a text. -/
inductive Earned (ttl : Int) : List JournalEntry → LeaseRow → Prop
  | settled {later during earlier r o terms row reason now clock} :
    LeasedFor ttl now terms r row → (∀ entry ∈ earlier, entry.leaseKey? ≠ some row.key) →
    (∀ entry ∈ during, entry = .generating r) → Verdict o reason →
    Earned ttl (later ++ .turn r o :: (during ++ terms :: earlier)) (row.settled reason clock)

namespace Earned

variable {journal : List JournalEntry} {row : LeaseRow}

/-- A lease that earned its verdict is settled. -/
theorem not_pending (h : Earned ttl journal row) : ¬ row.Pending := by
  cases h with
  | settled => exact LeaseRow.not_pending_settled _ _ _

/-- What is noted later does not matter, -/
theorem followed (h : Earned ttl journal row) (later : List JournalEntry) :
    Earned ttl (later ++ journal) row := by
  cases h with
  | settled hleased hfirst hduring hverdict =>
    rw [← List.append_assoc]
    exact .settled hleased hfirst hduring hverdict

/-- and neither what was noted before, if it was not on terms of the same lease. -/
theorem preceded (h : Earned ttl journal row) {earlier : List JournalEntry}
    (hearlier : ∀ entry ∈ earlier, entry.leaseKey? ≠ some row.key) :
    Earned ttl (journal ++ earlier) row := by
  cases h with
  | @settled later during before r o terms row reason now clock hleased hfirst hduring hverdict =>
    have hsplit : (later ++ .turn r o :: (during ++ terms :: before)) ++ earlier =
        later ++ .turn r o :: (during ++ terms :: (before ++ earlier)) := by
      simp
    rw [hsplit]
    refine .settled hleased ?_ hduring hverdict
    intro entry hentry
    rcases List.mem_append.mp hentry with hbefore | hbefore
    · exact hfirst entry hbefore
    · exact hearlier entry hbefore

end Earned

/-! ## Accounts -/

/-- Of what was noted, against the leases before and after. -/
structure LeaseAccount (ttl : Int) (noted : List JournalEntry) (before after : List LeaseRow) : Prop where
  /-- Leases were added, each under a key that was free, and settled. The others stayed as they were. -/
  added : ∃ new, after = before ++ new ∧
    ∀ row ∈ new, Table.holds LeaseRow.key row.key before = false ∧ Earned ttl noted row
  /-- Turns are run on the terms of leases that somebody has. -/
  held : ∀ entry ∈ noted, ∀ k, entry.leaseKey? = some k → Table.holds LeaseRow.key k after = true

namespace LeaseAccount

variable {noted noted' : List JournalEntry} {rows before mid after : List LeaseRow}

/-- Where no lease was added, the terms of what was noted must have been held before. -/
theorem same (h : ∀ entry ∈ noted, ∀ k, entry.leaseKey? = some k →
    Table.holds LeaseRow.key k rows = true) : LeaseAccount ttl noted rows rows :=
  ⟨⟨[], (List.append_nil _).symm, fun _ hrow => absurd hrow List.not_mem_nil⟩, h⟩

theorem trans (h : LeaseAccount ttl noted before mid) (h' : LeaseAccount ttl noted' mid after) :
    LeaseAccount ttl (noted' ++ noted) before after := by
  obtain ⟨new, rfl, hnew⟩ := h.added
  obtain ⟨new', rfl, hnew'⟩ := h'.added
  constructor
  · refine ⟨new ++ new', List.append_assoc _ _ _, ?_⟩
    intro row hrow
    rcases List.mem_append.mp hrow with hfirst | hlast
    · obtain ⟨hfree, hearned⟩ := hnew row hfirst
      exact ⟨hfree, hearned.followed noted'⟩
    · obtain ⟨hfree, hearned⟩ := hnew' row hlast
      refine ⟨?_, hearned.preceded ?_⟩
      · rw [Table.holds_append, Bool.or_eq_false_iff] at hfree
        exact hfree.1
      · -- on such terms nothing was noted before, since the lease was still free
        intro entry hentry hkey
        rw [h.held entry hentry _ hkey] at hfree
        cases hfree
  · intro entry hentry k hkey
    rcases List.mem_append.mp hentry with hlast | hfirst
    · exact h'.held entry hlast k hkey
    · rw [Table.holds_append, h.held entry hfirst k hkey]
      rfl

/-- A turn that was leased adds its lease, as it was settled in the end. -/
theorem leased {r : Turn.Request} {o : Turn.Outcome} {terms : JournalEntry} {row : LeaseRow}
    {during : List JournalEntry} {reason : Option String} (hleased : LeasedFor ttl now terms r row)
    (hfree : Table.holds LeaseRow.key row.key rows = false)
    (hduring : ∀ entry ∈ during, entry = .generating r) (hverdict : Verdict o reason) (clock : Int) :
    LeaseAccount ttl (.turn r o :: (during ++ [terms])) rows (rows ++ [row.settled reason clock]) := by
  constructor
  · have hearned : Earned ttl ([] ++ .turn r o :: (during ++ terms :: []))
        (row.settled reason clock) :=
      .settled hleased (List.forall_mem_nil _) hduring hverdict
    refine ⟨[row.settled reason clock], rfl, ?_⟩
    intro row' hrow'
    obtain rfl := List.mem_singleton.mp hrow'
    exact ⟨hfree, hearned⟩
  · intro entry hentry k hkey
    rcases List.mem_cons.mp hentry with rfl | hentry
    · cases hkey
    · rcases List.mem_append.mp hentry with hentry | hentry
      · rw [hduring entry hentry] at hkey
        cases hkey
      · -- the terms of the turn are those of its own lease
        rw [List.mem_singleton.mp hentry, hleased.key] at hkey
        obtain rfl := Option.some.inj hkey
        have hnew : Table.holds LeaseRow.key row.key [row.settled reason clock] = true :=
          Table.holds_eq_true.mpr (List.mem_singleton_self _)
        rw [Table.holds_append, hnew, Bool.or_true]

end LeaseAccount

/-! ## Steps -/

/-- No failure was forgotten, and if none was counted, there is an account of what was noted. -/
structure Settles (ttl : Int) (w w' : World σ) : Prop where
  failures : w.store.failures ≤ w'.store.failures
  account : ∃ noted, w'.journal = noted ++ w.journal ∧
    (w'.store.failures = w.store.failures →
      LeaseAccount ttl noted w.store.tables.leaseRows w'.store.tables.leaseRows)

namespace Settles

theorem grows {w w' : World σ} (h : Settles ttl w w') : w.journal <:+ w'.journal := by
  obtain ⟨noted, hj, -⟩ := h.account
  exact ⟨noted, hj.symm⟩

/-- Where no lease was added or settled, it is enough that turns were run on terms that are held. -/
theorem same {w w' : World σ} (noted : List JournalEntry)
    (hstore : Unseen Tables.leaseRows w.store w'.store) (hj : w'.journal = noted ++ w.journal)
    (hterms : ∀ entry ∈ noted, ∀ k, entry.leaseKey? = some k →
      Table.holds LeaseRow.key k w.store.tables.leaseRows = true) : Settles ttl w w' := by
  refine ⟨hstore.failures, noted, hj, fun _ => ?_⟩
  rw [hstore.view]
  exact .same hterms

theorem chains : Chains (Settles ttl : World σ → World σ → Prop) where
  refl w := same [] (.refl _) rfl (List.forall_mem_nil _)
  trans := by
    intro u v w huv hvw
    have hfirst := huv.failures
    have hlast := hvw.failures
    obtain ⟨noted, hv, haccount⟩ := huv.account
    obtain ⟨noted', hw, haccount'⟩ := hvw.account
    refine ⟨Nat.le_trans hfirst hlast, noted' ++ noted, ?_, ?_⟩
    · rw [hw, hv, List.append_assoc]
    · -- where none failed on the whole way, none failed on either part of it
      intro hsound
      exact (haccount (by omega)).trans (haccount' (by omega))

theorem calm : Calm Tables.leaseRows (Settles ttl : World σ → World σ → Prop) where
  toChains := chains
  unseen hstore hstill :=
    same [] hstore hstill.journal (List.forall_mem_nil _)

/-- An entry that names no terms. -/
theorem note {entry : JournalEntry} (hentry : entry.leaseKey? = none) :
    Keeps (Settles ttl) (TurnTaking.note entry : Act σ Unit) := by
  intro w
  refine same [entry] (.refl _) rfl ?_
  intro other hother k hkey
  rw [List.mem_singleton.mp hother, hentry] at hkey
  cases hkey

/-- A turn on the terms of a lease that is held. -/
theorem noteHeld {entry : JournalEntry} {w : World σ}
    (hheld : ∀ k, entry.leaseKey? = some k →
      Table.holds LeaseRow.key k w.store.tables.leaseRows = true) :
    Settles ttl w (w.noted entry) := by
  refine same [entry] (.refl _) rfl ?_
  intro other hother k hkey
  rw [List.mem_singleton.mp hother] at hkey
  exact hheld k hkey

end Settles

/-! ## The inside of a turn -/

/-- No lease was touched, and nothing noted but that the turn asks for a text. -/
structure Composes (r : Turn.Request) (w w' : World σ) : Prop where
  store : Unseen Tables.leaseRows w.store w'.store
  journal : ∃ during, w'.journal = during ++ w.journal ∧ ∀ entry ∈ during, entry = .generating r

namespace Composes

variable {r : Turn.Request}

theorem calm : Calm Tables.leaseRows (Composes r : World σ → World σ → Prop) where
  refl w := ⟨.refl _, [], rfl, List.forall_mem_nil _⟩
  trans := by
    rintro u v w ⟨hstore, during, hv, hduring⟩ ⟨hstore', during', hw, hduring'⟩
    refine ⟨hstore.trans hstore', during' ++ during, ?_, ?_⟩
    · rw [hw, hv, List.append_assoc]
    · intro entry hentry
      rcases List.mem_append.mp hentry with hlast | hfirst
      · exact hduring' entry hlast
      · exact hduring entry hfirst
  unseen hstore hstill := ⟨hstore, [], hstill.journal, List.forall_mem_nil _⟩

theorem generating : Keeps (Composes r) (note (.generating r) : Act σ Unit) :=
  fun _ => ⟨.refl _, [.generating r], rfl, fun _ hentry => List.mem_singleton.mp hentry⟩

end Composes

/-- The services of the engine write neither to a table nor to the journal. They may read, and fail. -/
structure Engine.LooksOn (e : Engine σ) : Prop extends e.TablesKept where
  journal : ∀ call w, (e.outside.after call w).journal = w.journal

namespace Engine

theorem leaseRows_side : SideTables Tables.leaseRows :=
  ⟨fun _ _ => rfl, fun _ _ => rfl, fun _ _ => rfl, fun _ _ => rfl, fun _ _ => rfl, fun _ _ => rfl⟩

variable {e : Engine σ}

/-- A call of a service settles nothing and takes nothing. -/
theorem LooksOn.served (h : e.LooksOn) {R : World σ → World σ → Prop} (hR : Calm Tables.leaseRows R)
    (hsame : ∀ {w w' : World σ}, Unseen Tables.leaseRows w.store w'.store →
      w'.journal = w.journal → R w w') : e.Served Tables.leaseRows R := by
  refine .of_services hR leaseRows_side (fun _ _ => rfl) fun call w => hsame ?_ (h.journal call w)
  exact .of_tables (h.tables call w) (h.failures call w)

theorem LooksOn.settles (h : e.LooksOn) : e.Served Tables.leaseRows (Settles ttl) :=
  h.served Settles.calm fun hstore hj =>
    .same [] hstore hj (List.forall_mem_nil _)

theorem LooksOn.composes (h : e.LooksOn) (r : Turn.Request) : e.Served Tables.leaseRows (Composes r) :=
  h.served Composes.calm fun hstore hj => ⟨hstore, [], hj, List.forall_mem_nil _⟩

/-- A turn by itself neither takes a lease nor settles one. -/
theorem LooksOn.runTurn_settles (h : e.LooksOn) (r : Turn.Request) :
    Keeps (Settles ttl) (e.runTurn r) :=
  h.settles.toVoiced.runTurn (fun _ _ => rfl) (Settles.note rfl) fun _ => Settles.note rfl

variable {w v : World σ} {s : Store}

/-- From the taking of its lease to the settlement, a turn that is leased keeps the account. -/
theorem LooksOn.leased_settles (h : e.LooksOn) {terms : JournalEntry} {r : Turn.Request}
    {row : LeaseRow} {guard : Lease.Guard} {o : Turn.Outcome} (hleased : LeasedFor ttl now terms r row)
    (hkey : row.key = Lease.rowKey guard.channelId guard.avatarId guard.tick)
    (hadded : Added .leases LeaseRow.key row w.store.tables s.tables)
    (hfailures : s.failures = w.store.failures)
    (hran : (e.runTurn r).run ({ w with store := s }.noted terms) = (o, v)) :
    Settles ttl w ((settleLease (some guard) o).run v).2 := by
  obtain ⟨rows, hrows, hfree, hadded⟩ := hadded
  -- up to the entry of its end, the turn leaves the leases alone
  obtain ⟨v, ⟨hstore, during, hj, hduring⟩, rfl⟩ :=
    (h.composes r).toVoiced.run_runTurn (fun _ _ => rfl) Composes.generating hran
  have hbefore : w.store.tables.leaseRows = rows := by
    rw [Tables.leaseRows, show w.store.tables.leases = some rows from hrows]
    rfl
  have hmid : v.store.tables.leaseRows = rows ++ [row] := by
    rw [hstore.view]
    exact congrArg Tables.leaseRows hadded
  have hkept : w.store.failures ≤ v.store.failures := by
    rw [← hfailures]
    exact hstore.failures
  have hnoted : .turn r o :: v.journal = (.turn r o :: (during ++ [terms])) ++ w.journal := by
    rw [hj]
    simp
  rw [run_settleLease]
  rcases Lease.settle_last hmid hkey hfree hleased.pending o.failure? v.clock with
    ⟨hsame, hsettled⟩ | hcounted
  · refine ⟨Nat.le_trans hkept (Nat.le_of_eq hsame.symm), _, hnoted, fun _ => ?_⟩
    have haccount := LeaseAccount.leased hleased hfree hduring (verdict_failure? o) v.clock
    rw [← hsettled, ← hbefore] at haccount
    exact haccount
  · -- the settlement failed, which is counted: nothing is said about the leases then
    refine ⟨Nat.le_trans hkept (Nat.le_of_lt hcounted), _, hnoted, fun hsound => ?_⟩
    have hkept' : v.store.failures < w.store.failures := Nat.lt_of_lt_of_eq hcounted hsound
    omega

/-! ## What an engine does -/

variable {channel : String} {message : Option Message} {trigger : Trigger} {key : String}
  {context : CoordinationContext} {sel : Selection} {w₁ w₂ w' : World σ}

/-- Where the leases were only looked at, the account is kept. -/
theorem unsettled_settles {w : World σ} {s : Store} (hstore : Unseen Relation.leases.aside w.store s)
    (hleases : s.tables.leases = w.store.tables.leases) : Settles ttl w { w with store := s } :=
  .same [] ⟨congrArg (Option.getD · []) hleases, hstore.failures⟩ rfl (List.forall_mem_nil _)

/-- The decision on a lease keeps the account where it does not take the lease. -/
theorem unleased_settles {x : Except Fault LeaseDecision} {tick? : Option Nat}
    (hlease : (e.leaseSelection channel message sel tick?).run.run w = (x, w₁))
    (hx : ∀ guard, x ≠ .ok (.leased guard)) : Settles ttl w w₁ := by
  rcases run_leaseSelection hlease with ⟨-, rfl, -⟩ | ⟨tick, m, -, -, hdecided⟩
  · exact Settles.chains.refl _
  · obtain ⟨s, rfl, hstore, ⟨rfl, -⟩ | ⟨hleases, -⟩ | ⟨-, hleases, -⟩⟩ := run_leaseForMessage hdecided
    · exact absurd rfl (hx _)
    · exact unsettled_settles hstore hleases
    · exact unsettled_settles hstore hleases

/-- Whoever goes on without a lease of its own does so beside the holder of the lease. -/
theorem held_of_proceed {tick : Nat} {m : Message}
    (hlease : (e.leaseSelection channel (some m) sel (some tick)).run.run w = (.ok .proceed, w₁)) :
    Table.holds LeaseRow.key (Lease.rowKey channel sel.avatar.id tick) w₁.store.tables.leaseRows =
      true := by
  rcases run_leaseSelection hlease with ⟨-, -, hnone | hnone⟩ | ⟨tick', m', htick, hm, hdecided⟩
  · cases hnone
  · cases hnone
  · obtain rfl := Option.some.inj htick
    obtain rfl := Option.some.inj hm
    obtain ⟨s, rfl, -, ⟨hx, -⟩ | ⟨hleases, -, origin, horigin, -⟩ | ⟨⟨f, hx⟩, -⟩⟩ :=
      run_leaseForMessage hdecided
    · cases hx
    · rw [Tables.leaseRows, hleases]
      exact Tables.holds_of_leaseOrigin horigin
    · cases hx

/-- An answer keeps the account, if it does so up to the settlement of its lease. -/
theorem LooksOn.answer_settles (h : e.LooksOn) {depth : Nat} {lease : Option Lease.Guard}
    {response : Option Response}
    (hanswer : (e.answer channel message trigger key depth sel lease).run w₁ = (response, w'))
    (hsettled : ∀ o v, (e.runTurn (requestOf channel message trigger key depth sel)).run w₁ = (o, v) →
      Settles ttl w ((settleLease lease o).run v).2) : Settles ttl w w' := by
  obtain ⟨o, v, hran, hlast⟩ := run_answer hanswer
  cases hsent : o.sent? with
  | none =>
    rw [hsent] at hlast
    obtain ⟨-, rfl⟩ := hlast
    exact hsettled o v hran
  | some sent =>
    rw [hsent] at hlast
    obtain ⟨-, rfl⟩ := hlast
    exact Settles.chains.trans (hsettled o v hran) (h.settles.recordResponse _ _ _ _ _ _)

/-- A selection is answered under the lease that was taken for it, which is settled; or beside a lease
that somebody has, which is left alone; or on no terms at all. -/
theorem LooksOn.respondLeased_settles (h : e.LooksOn) {lease : Option Lease.Guard}
    {response : Option Response}
    (hlease : (e.leaseSelection channel message sel context.leaseTick).run.run w =
      (.ok (lease.elim .proceed .leased), w₁))
    (hrun : (e.respondLeased channel message trigger key context sel lease).run w₁ = (response, w')) :
    Settles e.config.locks.leaseTtlMs w w' := by
  obtain ⟨w₂, hanswer, hnoted⟩ := run_respondLeased hrun
  cases lease with
  | none =>
    -- the terms of such a turn name a lease only where somebody has it
    have hterms : Settles e.config.locks.leaseTtlMs w w₂ := by
      have hdecided : Settles e.config.locks.leaseTtlMs w w₁ :=
        unleased_settles hlease fun _ hx => by cases hx
      rcases hnoted with ⟨rfl, -⟩ | ⟨tick, m, htick, rfl, rfl⟩
      · exact hdecided
      · rw [htick] at hlease
        refine Settles.chains.trans hdecided (Settles.noteHeld fun k hk => ?_)
        obtain rfl := Option.some.inj hk
        exact held_of_proceed hlease
    refine h.answer_settles hanswer fun o v hran => ?_
    have hturn : Keeps (Settles e.config.locks.leaseTtlMs)
        (e.runTurn (requestOf channel message trigger key context.depth sel)) := h.runTurn_settles _
    have hended := hturn w₂
    rw [hran] at hended
    exact Settles.chains.trans hterms hended
  | some guard =>
    rcases run_leaseSelection hlease with ⟨hx, -⟩ | ⟨tick, m, htick, rfl, hdecided⟩
    · cases hx
    · -- the lease is there for the message at hand, so that the terms are noted next
      obtain ⟨rfl, s, rfl, hfailures, hadded⟩ := leaseForMessage_leased hdecided
      rcases hnoted with ⟨-, hnone | hnone⟩ | ⟨tick', m', htick', hm, rfl⟩
      · cases htick.symm.trans hnone
      · cases hnone
      · obtain rfl := Option.some.inj (htick.symm.trans htick')
        obtain rfl := Option.some.inj hm
        refine h.answer_settles hanswer fun o v hran => ?_
        exact h.leased_settles (.message ..) rfl hadded hfailures hran

/-- Whatever is decided about a selection, the account is kept. -/
theorem LooksOn.respond_settles (h : e.LooksOn) (channel : String) (message : Option Message)
    (trigger : Trigger) (key : String) (context : CoordinationContext) (sel : Selection) :
    Keeps (Settles e.config.locks.leaseTtlMs) (e.respond channel message trigger key context sel) := by
  intro w
  rcases hrun : (e.respond channel message trigger key context sel).run w with ⟨response, w'⟩
  obtain ⟨decision, w₁, hlease, hrest⟩ := run_respond hrun
  rcases hrest with ⟨-, ⟨f, rfl⟩, rfl⟩ | ⟨-, rfl, tick, m, htick, rfl, rfl⟩ | ⟨lease, rfl, hrest⟩
  · exact unleased_settles hlease fun _ hx => by cases hx
  · have hdecided : Settles e.config.locks.leaseTtlMs w w₁ :=
      unleased_settles hlease fun _ hx => by cases hx
    exact Settles.chains.trans hdecided (Settles.note rfl w₁)
  · exact h.respondLeased_settles hlease hrest

/-- A turn of a sweep settles the lease that was taken for it. -/
theorem LooksOn.runAmbientTurn_settles (h : e.LooksOn) (sweep : Sweep) (a : Avatar) :
    Keeps (Settles e.config.locks.leaseTtlMs) (e.runAmbientTurn sweep a).run := by
  intro w
  rcases hrun : (e.runAmbientTurn sweep a).run.run w with ⟨x, w'⟩
  obtain ⟨s, hstore, ⟨o, v, -, hfailures, hadded, hran, rfl⟩ | ⟨rfl, htables, -⟩⟩ :=
    run_runAmbientTurn_rows hrun
  · exact h.leased_settles (.sweep sweep a) rfl hadded hfailures hran
  · exact unsettled_settles hstore (congrArg Tables.leases htables)

/-- An engine keeps the account, if its services only look on. -/
theorem LooksOn.upholds (h : e.LooksOn) :
    e.Upholds Tables.leaseRows (Settles e.config.locks.leaseTtlMs) := by
  have hserved : e.Served Tables.leaseRows (Settles e.config.locks.leaseTtlMs) := h.settles
  have hticks : Relation.ticks.Hidden Tables.leaseRows := fun _ _ => rfl
  exact {
    hserved.toAided with
    grows := Settles.grows
    hear := fun _ _ _ => hserved.hear _ _ _ _
    peek := fun channel now => hserved.onStore (Tick.peek_frames hticks channel now)
    openTick := hserved.openTick hticks fun _ => Settles.note rfl
    selected := fun _ _ => Settles.note rfl
    respond := h.respond_settles
    ambientTurn := fun sweep a => (h.runAmbientTurn_settles sweep a).once }

end Engine

/-- Whatever the store holds and whatever the services do, as long as they do not write: when an
operation returns and no statement failed in it, the leases from before are there as they were, and after
them those that it took, none of which is pending. Each was taken for the first turn that the operation
ran on its terms, and settled as this turn ended: as completed if it responded or was silent, and else as
failed for the reason that it ended with. -/
theorem no_lease_left_pending {e : Engine σ} (h : e.LooksOn) (op : Operation) (w : World σ) :
    let w' := op.after e w
    w'.store.failures = w.store.failures →
      ∃ new, w'.store.tables.leaseRows = w.store.tables.leaseRows ++ new ∧
        ∀ row ∈ new, ¬ row.Pending ∧ Earned e.config.locks.leaseTtlMs (w'.since w) row := by
  intro w' hsound
  have hkept : Settles e.config.locks.leaseTtlMs w w' := h.upholds.directs.perform op w
  obtain ⟨noted, hj, haccount⟩ := hkept.account
  obtain ⟨new, hrows, hnew⟩ := (haccount hsound).added
  refine ⟨new, hrows, fun row hrow => ?_⟩
  obtain ⟨-, hearned⟩ := hnew row hrow
  rw [World.since_eq hj]
  exact ⟨hearned.not_pending, hearned⟩

theorem Collaborators.plain_looksOn (avatars : List Avatar) (text : String) :
    (Engine.standard (.plain avatars text) : Engine σ).LooksOn where
  tables call w := congrArg (·.store.tables) (after_plain avatars text call w)
  failures call w := Nat.le_of_eq (congrArg (·.store.failures) (after_plain avatars text call w)).symm
  journal call w := congrArg World.journal (after_plain avatars text call w)

/-- A sweep has yet to settle the lease of an avatar. -/
def Store.Tables.sweeping : Tables :=
  { Tables.empty with leases := some [Lease.takenRow 1000 "c" "bob" 0 .ambient 0] }

/-- An avatar answers a message under a lease of its own, which is settled, and names another one. That
one responds as well, on no terms, and the lease that a sweep holds for it is left alone. -/
theorem no_lease_left_pending_beside :
    let e : Engine Unit := .standard (.plain Avatar.pair "Bob?")
    let w : World Unit := .ofTables .sweeping ()
    let w' := (Operation.message "c" (Message.human "m" "c" "u" "Ada?" 0)).after e w
    let row := (Lease.takenRow 600000 "c" "ada" 0 (.ofMessage .fastlane "m" "u") 0).settled none 0
    w'.store.failures = w.store.failures ∧
      answers w'.journal = [("msg:c:ada", "bob"), ("msg:c:m", "ada")] ∧
      w'.store.tables.leaseRows = w.store.tables.leaseRows ++ [row] ∧
      ¬ row.Pending ∧ Earned e.config.locks.leaseTtlMs (w'.since w) row := by
  intro e w w' row
  have hran : w'.store.failures = w.store.failures ∧
      answers w'.journal = [("msg:c:ada", "bob"), ("msg:c:m", "ada")] ∧
      w'.store.tables.leaseRows = w.store.tables.leaseRows ++ [row] := by
    decide +kernel
  obtain ⟨hsound, hanswers, hrows⟩ := hran
  obtain ⟨new, hnew, hearned⟩ := no_lease_left_pending (Collaborators.plain_looksOn _ _) _ w hsound
  obtain rfl : new = [row] := List.append_cancel_left (hnew.symm.trans hrows)
  exact ⟨hsound, hanswers, hrows, hearned row (List.mem_singleton_self _)⟩

end TurnTaking
