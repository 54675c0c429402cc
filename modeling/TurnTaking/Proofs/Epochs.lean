import TurnTaking.Proofs.Engine.Course
import TurnTaking.Proofs.Engine.Journal
import TurnTaking.Proofs.Engine.Sweep
import TurnTaking.Proofs.Lease
import TurnTaking.Proofs.Tick

/-!
# Epochs — one turn of an avatar in a tick

A sweep runs a turn in a tick only after it took the lease, which stays as long as nobody purges it. A
message that finds a lease of the sweep is not answered, and one that goes ahead leaves or finds a lease
that is not the sweep's. Which of the two comes first does not matter, nor what goes on inside their
services: who comes second sees the lease of who came first.

* `Leased`, `Ticked` — the accounts of what was noted against leases and counters;
* `Engine.epochal` — every engine keeps both, whatever its services do that keep them;
* `sweeps_and_messages_exclude` — in a course without failures no two sweeps of a channel lease in one
  tick, none runs two turns of an avatar there, and no message is answered beside it on lesser terms.
-/

namespace TurnTaking

open Store Store.Access

variable {σ : Type}

/-! ## What the journal says of sweeps -/

/-- The sweep that opened its tick. -/
def JournalEntry.opened? : JournalEntry → Option Sweep
  | .opened sweep => some sweep
  | _ => none

/-- The channel, avatar and tick of an unprompted turn. -/
def JournalEntry.sweepTurn? : JournalEntry → Option (String × String × Nat)
  | .unprompted sweep avatar => some (sweep.channelId, avatar, sweep.tick)
  | _ => none

/-- The sweeps that opened their ticks. -/
def sweeps (journal : List JournalEntry) : List Sweep := journal.filterMap JournalEntry.opened?

/-- The unprompted turns, each by its channel, avatar and tick. -/
def sweepTurns (journal : List JournalEntry) : List (String × String × Nat) :=
  journal.filterMap JournalEntry.sweepTurn?

/-- A sweep's turn is one that was noted as unprompted. -/
theorem mem_sweepTurns {p : String × String × Nat} {journal : List JournalEntry} :
    p ∈ sweepTurns journal ↔ ∃ sweep avatar, .unprompted sweep avatar ∈ journal ∧
      p = (sweep.channelId, avatar, sweep.tick) := by
  rw [sweepTurns, List.mem_filterMap]
  constructor
  · rintro ⟨entry, hentry, hturn⟩
    cases entry with
    | unprompted s a => exact ⟨s, a, hentry, (Option.some.inj hturn).symm⟩
    | selected | generating | turn | opened | answering | passedOver => cases hturn
  · rintro ⟨sweep, avatar, h, rfl⟩
    exact ⟨_, h, rfl⟩

def leaseKey (p : String × String × Nat) : String × String × Cell := Lease.rowKey p.1 p.2.1 p.2.2

/-! ## The account of leases -/

/-- The lease of a turn is held, but not by a sweep. -/
def Store.Tables.Answerable (t : Tables) (channel avatar : String) (tick : Nat) : Prop :=
  ∃ mode, t.leaseMode (Lease.rowKey channel avatar tick) = some mode ∧ mode ≠ Lease.Mode.ambient.name

/-- What was noted, against the leases before and after. -/
structure Leased (new : List JournalEntry) (before after : Tables) : Prop where
  /-- Leases stay with those who took them. -/
  kept : ∀ k mode, before.leaseMode k = some mode → after.leaseMode k = some mode
  /-- A sweep runs a turn of which nobody had the lease. -/
  free : ∀ p ∈ sweepTurns new, before.leaseMode (leaseKey p) = none
  /-- It has the lease from then on. -/
  swept : ∀ p ∈ sweepTurns new, after.leaseMode (leaseKey p) = some Lease.Mode.ambient.name
  /-- It runs the turn once. -/
  once : (sweepTurns new).Nodup
  /-- A message that is answered on lesser terms leaves a lease that is not the sweep's. -/
  answered : ∀ channel avatar tick message tier, .answering channel avatar tick message tier ∈ new →
    tier.leaseMode ≠ .priority → after.Answerable channel avatar tick

namespace Leased

variable {new new' : List JournalEntry} {before mid after : Tables}

/-- Where no sweep's turn was noted, leases that stay are what is to be accounted for, and those of
answers. -/
theorem of_kept (hturns : sweepTurns new = [])
    (hkept : ∀ k mode, before.leaseMode k = some mode → after.leaseMode k = some mode)
    (hanswered : ∀ channel avatar tick message tier,
      .answering channel avatar tick message tier ∈ new → tier.leaseMode ≠ .priority →
        after.Answerable channel avatar tick) : Leased new before after where
  kept := hkept
  free _ hp := absurd (hturns ▸ hp) List.not_mem_nil
  swept _ hp := absurd (hturns ▸ hp) List.not_mem_nil
  once := hturns ▸ List.nodup_nil
  answered := hanswered

theorem trans (h : Leased new before mid) (h' : Leased new' mid after) :
    Leased (new' ++ new) before after where
  kept k mode hk := h'.kept k mode (h.kept k mode hk)
  free p hp := by
    rw [sweepTurns, List.filterMap_append] at hp
    rcases List.mem_append.mp hp with hp' | hp'
    · -- what was taken before is taken in between
      cases hb : before.leaseMode (leaseKey p) with
      | none => rfl
      | some mode =>
        have hmid := h.kept _ mode hb
        rw [h'.free p hp'] at hmid
        cases hmid
    · exact h.free p hp'
  swept p hp := by
    rw [sweepTurns, List.filterMap_append] at hp
    rcases List.mem_append.mp hp with hp' | hp'
    · exact h'.swept p hp'
    · exact h'.kept _ _ (h.swept p hp')
  once := by
    rw [sweepTurns, List.filterMap_append]
    refine List.nodup_append.mpr ⟨h'.once, h.once, ?_⟩
    rintro p hp' q hp rfl
    have htaken := h.swept p hp
    rw [h'.free p hp'] at htaken
    cases htaken
  answered channel avatar tick message tier hentry htier := by
    rcases List.mem_append.mp hentry with hnew' | hnew
    · exact h'.answered _ _ _ _ _ hnew' htier
    · obtain ⟨mode, hmode, hne⟩ := h.answered _ _ _ _ _ hnew htier
      exact ⟨mode, h'.kept _ _ hmode, hne⟩

end Leased

/-! ## The account of ticks -/

/-- What was noted, against the counters before and after. -/
structure Ticked (new : List JournalEntry) (before after : Tables) : Prop where
  /-- A number does not go back. -/
  kept : ∀ channel m, before.counter channel = some (.number m) →
    ∃ n, after.counter channel = some (.number n) ∧ m ≤ n
  /-- A sweep opened a number that was not reached before, and is reached now. -/
  reached : ∀ s ∈ sweeps new, ∃ n n', Numeral.isInt64 n ∧ s.tick = toWord n ∧
    after.counter s.channelId = some (.number n') ∧ n ≤ n' ∧
      ∀ m, before.counter s.channelId = some (.number m) → m < n
  /-- No two opened the same. -/
  apart : (sweeps new).Pairwise fun s s' => s.channelId = s'.channelId → s.tick ≠ s'.tick

namespace Ticked

variable {new new' : List JournalEntry} {before mid after : Tables}

/-- Where no sweep was noted, numbers that stay are all that is to be accounted for. -/
theorem of_kept (hs : sweeps new = []) (h : ∀ channel m, before.counter channel = some (.number m) →
    after.counter channel = some (.number m)) : Ticked new before after where
  kept channel m hm := ⟨m, h channel m hm, Int.le_refl m⟩
  reached _ hs' := absurd (hs ▸ hs') List.not_mem_nil
  apart := hs ▸ List.Pairwise.nil

theorem trans (h : Ticked new before mid) (h' : Ticked new' mid after) :
    Ticked (new' ++ new) before after where
  kept channel m hm := by
    obtain ⟨n, hn, hle⟩ := h.kept channel m hm
    obtain ⟨n', hn', hle'⟩ := h'.kept channel n hn
    exact ⟨n', hn', Int.le_trans hle hle'⟩
  reached s hs := by
    rw [sweeps, List.filterMap_append] at hs
    rcases List.mem_append.mp hs with hs' | hs'
    · obtain ⟨n, n', hint, htick, hafter, hle, habove⟩ := h'.reached s hs'
      refine ⟨n, n', hint, htick, hafter, hle, fun m hm => ?_⟩
      obtain ⟨m', hm', hle'⟩ := h.kept _ m hm
      exact Int.lt_of_le_of_lt hle' (habove m' hm')
    · obtain ⟨n, n', hint, htick, hmid, hle, habove⟩ := h.reached s hs'
      obtain ⟨n'', hafter, hle'⟩ := h'.kept _ n' hmid
      exact ⟨n, n'', hint, htick, hafter, Int.le_trans hle hle', habove⟩
  apart := by
    rw [sweeps, List.filterMap_append]
    refine List.pairwise_append.mpr ⟨h'.apart, h.apart, ?_⟩
    intro s' hs' s hs hchannel htick
    obtain ⟨n, n₁, hint, hn, hmid, hle, -⟩ := h.reached s hs
    obtain ⟨n', _, hint', hn', -, -, habove⟩ := h'.reached s' hs'
    -- the later number is above what the earlier one left behind
    rw [hchannel] at habove
    have hlt := habove n₁ hmid
    have heq := toWord_inj hint' hint (by rw [← hn', ← hn, htick])
    omega

end Ticked

/-! ## The account of an engine -/

/-- What the rules about epochs see of the tables: the modes of the leases, and the counters. -/
def Store.Tables.epochs (t : Tables) :
    (String × String × Cell → Option String) × (String → Option Cell) :=
  (t.leaseMode, t.counter)

theorem epochs_side : SideTables Tables.epochs where
  presence _ _ := rfl
  activity _ _ := rfl
  humans _ _ := rfl
  sent _ _ := rfl
  threads _ _ := rfl
  sessions _ _ := rfl

theorem epochs_responders : Relation.responders.Hidden Tables.epochs := fun _ _ => rfl

/-- What was noted between two worlds is accounted for by their leases and counters, the latter unless a
statement failed. -/
structure Stretch (new : List JournalEntry) (w w' : World σ) : Prop where
  journal : w'.journal = new ++ w.journal
  leased : Leased new w.store.tables w'.store.tables
  failures : w.store.failures ≤ w'.store.failures
  ticked : w'.store.failures = w.store.failures → Ticked new w.store.tables w'.store.tables
  /-- A sweep has its number from its place in the journal. -/
  numbered : ∀ s ∈ sweeps new, w.journal.length ≤ s.number ∧ s.number < w'.journal.length
  distinct : ((sweeps new).map Sweep.number).Nodup
  /-- A sweep runs turns in the tick that it opened. -/
  opened : ∀ sweep avatar, .unprompted sweep avatar ∈ new → .opened sweep ∈ w'.journal

/-- There is such an account. -/
def Epochal (w w' : World σ) : Prop := ∃ new, Stretch new w w'

namespace Epochal

theorem grows {w w' : World σ} (h : Epochal w w') : w.journal <:+ w'.journal := by
  obtain ⟨new, hnew⟩ := h
  exact ⟨new, hnew.journal.symm⟩

/-- Where nothing was noted of sweeps, leases and numbers that stay are what is to be accounted for, and
the leases of answers. -/
theorem of_kept {w w' : World σ} (new : List JournalEntry) (hj : w'.journal = new ++ w.journal)
    (hsweeps : sweeps new = []) (hturns : ∀ sweep avatar, .unprompted sweep avatar ∉ new)
    (hleased : Leased new w.store.tables w'.store.tables)
    (hfailures : w.store.failures ≤ w'.store.failures)
    (hcounters : w'.store.failures = w.store.failures → ∀ channel m,
      w.store.tables.counter channel = some (.number m) →
        w'.store.tables.counter channel = some (.number m)) : Epochal w w' := by
  refine ⟨new, hj, hleased, hfailures, fun hok => .of_kept hsweeps (hcounters hok), ?_, ?_, ?_⟩
  · exact fun s hs => absurd (hsweeps ▸ hs) List.not_mem_nil
  · rw [hsweeps]
    exact List.nodup_nil
  · exact fun sweep avatar h => absurd h (hturns sweep avatar)

/-- A step that nobody can tell by the leases, and by the counters only if a statement failed. -/
theorem of_leases {w w' : World σ} (hs : Unseen Tables.leaseMode w.store w'.store)
    (hj : w'.journal = w.journal)
    (hcounters : w'.store.failures = w.store.failures → ∀ channel m,
      w.store.tables.counter channel = some (.number m) →
        w'.store.tables.counter channel = some (.number m)) : Epochal w w' := by
  refine of_kept [] hj rfl (fun _ _ => List.not_mem_nil) (.of_kept rfl ?_ nofun) hs.failures
    hcounters
  intro k mode hk
  rw [hs.view, hk]

/-- Where neither leases, ticks nor journal change, there is nothing to account for. -/
theorem of_unseen {w w' : World σ} (hs : Unseen Tables.epochs w.store w'.store)
    (hj : w'.journal = w.journal) : Epochal w w' := by
  obtain ⟨hleases, hcounters⟩ := Prod.mk.inj hs.view
  refine of_leases ⟨hleases, hs.failures⟩ hj fun _ channel m hm => ?_
  rw [hcounters, hm]

theorem trans {u v w : World σ} (h : Epochal u v) (h' : Epochal v w) : Epochal u w := by
  have hgrows := h'.grows
  obtain ⟨new, hnew⟩ := h
  obtain ⟨new', hnew'⟩ := h'
  have hlen : u.journal.length ≤ v.journal.length := by
    rw [hnew.journal, List.length_append]
    omega
  have hlen' : v.journal.length ≤ w.journal.length := by
    rw [hnew'.journal, List.length_append]
    omega
  have hsweeps : sweeps (new' ++ new) = sweeps new' ++ sweeps new := List.filterMap_append
  refine ⟨new' ++ new, ?_, hnew.leased.trans hnew'.leased, Nat.le_trans hnew.failures hnew'.failures,
    ?_, ?_, ?_, ?_⟩
  · rw [hnew'.journal, hnew.journal, List.append_assoc]
  · intro hok
    have hle := hnew.failures
    have hle' := hnew'.failures
    exact (hnew.ticked (by omega)).trans (hnew'.ticked (by omega))
  · intro s hs
    rw [hsweeps] at hs
    rcases List.mem_append.mp hs with hs' | hs'
    · have hnumber := hnew'.numbered s hs'
      omega
    · have hnumber := hnew.numbered s hs'
      omega
  · -- the later sweeps have the higher numbers
    rw [hsweeps, List.map_append]
    refine List.nodup_append.mpr ⟨hnew'.distinct, hnew.distinct, ?_⟩
    intro n' hn' n hn heq
    obtain ⟨s', hs', rfl⟩ := List.mem_map.mp hn'
    obtain ⟨s, hs, rfl⟩ := List.mem_map.mp hn
    have hlow := (hnew'.numbered s' hs').1
    have hhigh := (hnew.numbered s hs).2
    omega
  · intro sweep avatar hentry
    rcases List.mem_append.mp hentry with h | h
    · exact hnew'.opened sweep avatar h
    · exact hgrows.subset (hnew.opened sweep avatar h)

theorem calm : Calm Tables.epochs (Epochal : World σ → World σ → Prop) where
  refl _ := of_unseen (.refl _) rfl
  trans := trans
  unseen hstore hstill := of_unseen hstore hstill.journal

/-- An entry that says nothing of sweeps, and nothing of a message that was answered on lesser terms
without a lease, changes nothing in the account. -/
theorem note {w : World σ} {entry : JournalEntry} (hopened : entry.opened? = none)
    (hturn : entry.sweepTurn? = none)
    (hanswering : ∀ channel avatar tick message tier,
      entry = .answering channel avatar tick message tier → tier.leaseMode ≠ .priority →
        w.store.tables.Answerable channel avatar tick) :
    Epochal w (w.noted entry) := by
  refine of_kept [entry] rfl (List.filterMap_cons_none hopened) ?_
    (.of_kept (List.filterMap_cons_none hturn) (fun _ _ hk => hk) ?_) (Nat.le_refl _)
    fun _ _ _ hm => hm
  · intro sweep avatar hentry
    rw [← List.mem_singleton.mp hentry] at hturn
    cases hturn
  · intro channel avatar tick message tier hentry
    exact hanswering _ _ _ _ _ (List.mem_singleton.mp hentry).symm

/-- An entry that is about neither sweeps nor leases. -/
theorem plain {entry : JournalEntry} (hopened : entry.opened? = none)
    (hturn : entry.sweepTurn? = none)
    (hanswering : ∀ channel avatar tick message tier,
      entry ≠ .answering channel avatar tick message tier) :
    Keeps Epochal (TurnTaking.note entry : Act σ Unit) :=
  fun _ => note hopened hturn fun _ _ _ _ _ h => absurd h (hanswering _ _ _ _ _)

end Epochal

/-! ## Leases of turns -/

namespace Engine

/-- To settle a lease leaves its key and mode. -/
theorem settle_epochs {channel avatar : String} {tick : Nat} {status : Lease.Status}
    {error : Option String} {clock : Int} :
    Frames Tables.epochs (Lease.settle channel avatar tick status error clock) := by
  intro s x s' h
  have hcounters : Unseen Tables.counter s s' :=
    Lease.settle_frames (fun _ _ => rfl) _ _ _ _ _ _ s x s' h
  refine ⟨Prod.ext (funext fun k => ?_) hcounters.view, hcounters.failures⟩
  have horigin := Lease.runs_settle h k
  show s'.tables.leaseMode k = s.tables.leaseMode k
  rw [Tables.leaseMode_eq, Tables.leaseMode_eq, horigin]

theorem epochs_settling : SettlingHidden Tables.epochs where
  complete _ _ := settle_epochs.bind fun _ => .pure _
  fail _ _ _ := settle_epochs.bind fun _ => .pure _

variable {e : Engine σ}

/-- A turn takes no lease and opens no tick. -/
theorem runTurn_epochal (h : e.Served Tables.epochs Epochal) (r : Turn.Request) :
    Keeps Epochal (e.runTurn r) := by
  refine h.runTurn epochs_responders ?_ fun o => ?_
  · exact Epochal.plain rfl rfl fun _ _ _ _ _ => JournalEntry.noConfusion
  · exact Epochal.plain rfl rfl fun _ _ _ _ _ => JournalEntry.noConfusion

/-- What takes a lease leaves the counters alone. -/
theorem counter_kept {s s' : Store} (h : Unseen Tables.counter s s') {channel : String} {m : Int}
    (hm : s.tables.counter channel = some (.number m)) :
    s'.tables.counter channel = some (.number m) := by
  rw [← hm]
  exact congrFun h.view channel

/-- A lease that was taken, as a step by itself. -/
theorem taken_epochal {w : World σ} {s : Store} {k : String × String × Cell} {origin : Lease.Origin}
    (htaken : Lease.Taken k origin w.store.tables s.tables)
    (hrest : Unseen Tables.counter w.store s) : Epochal w { w with store := s } :=
  .of_kept [] rfl rfl (fun _ _ => List.not_mem_nil)
    (.of_kept rfl (fun _ _ => htaken.kept) nofun) hrest.failures fun _ _ _ => counter_kept hrest

/-- The lease of a sweep's turn, with the note that the turn is run. -/
theorem unprompted_epochal {w : World σ} {s : Store} {sweep : Sweep} {avatar : String}
    (hopened : .opened sweep ∈ w.journal)
    (htaken : Lease.Taken (Lease.rowKey sweep.channelId avatar sweep.tick) .ambient w.store.tables
      s.tables)
    (hrest : Unseen Tables.counter w.store s) :
    Epochal w ({ w with store := s }.noted (.unprompted sweep avatar)) := by
  have hturns : sweepTurns [.unprompted sweep avatar] = [(sweep.channelId, avatar, sweep.tick)] := rfl
  refine ⟨[.unprompted sweep avatar], rfl, ⟨fun _ _ => htaken.kept, ?_, ?_, ?_, ?_⟩, hrest.failures,
    fun _ => .of_kept rfl fun _ _ => counter_kept hrest, ?_, List.nodup_nil, ?_⟩
  · rw [hturns]
    intro p hp
    rw [List.mem_singleton.mp hp]
    exact htaken.free
  · rw [hturns]
    intro p hp
    rw [List.mem_singleton.mp hp]
    exact htaken.held
  · rw [hturns]
    exact List.nodup_cons.mpr ⟨List.not_mem_nil, List.nodup_nil⟩
  · intro _ _ _ _ _ hentry
    cases List.mem_singleton.mp hentry
  · exact fun s hs => absurd hs List.not_mem_nil
  · intro sweep' avatar' hentry
    obtain ⟨rfl, -⟩ := JournalEntry.unprompted.inj (List.mem_singleton.mp hentry)
    exact List.mem_cons_of_mem _ hopened

/-- Where no lease was taken and nothing else changed, nobody can tell the step. -/
theorem untaken_epochal {w : World σ} {s : Store} (hbeside : Unseen Relation.leases.aside w.store s)
    (hleases : s.tables.leases = w.store.tables.leases) : Epochal w { w with store := s } := by
  have hcounters : Unseen Tables.counter w.store s := hbeside.beside fun _ _ => rfl
  have hmodes : s.tables.leaseMode = w.store.tables.leaseMode := by
    funext k
    rw [Tables.leaseMode, hleases]
    rfl
  exact .of_unseen ⟨Prod.ext hmodes hcounters.view, hcounters.failures⟩ rfl

/-- A sweep's turn: either it has its lease and is noted, or nothing is run. -/
theorem runAmbientTurn_epochal (h : e.Served Tables.epochs Epochal) (sweep : Sweep) (a : Avatar) :
    Keeps (Once (.opened sweep) Epochal) (e.runAmbientTurn sweep a).run := by
  intro w hopened
  rcases hrun : (e.runAmbientTurn sweep a).run.run w with ⟨x, w'⟩
  obtain ⟨s, hbeside, ⟨o, v, -, htaken, hran, rfl⟩ | ⟨rfl, hleases, -⟩⟩ := run_runAmbientTurn hrun
  · have hnoted := unprompted_epochal hopened htaken (hbeside.beside fun _ _ => rfl)
    have hturn := runTurn_epochal h (ambientRequest sweep a)
      ({ w with store := s }.noted (.unprompted sweep a.id))
    rw [hran] at hturn
    exact h.trans hnoted (h.trans hturn (h.settleLease epochs_settling _ o v))
  · exact untaken_epochal hbeside hleases

/-! ## Answers -/

/-- Where it is decided to run a turn that does not take precedence, its lease is held, but not by a
sweep. -/
theorem leaseForMessage_epochal {channel avatar : String} {tick : Nat} {m : Message}
    {mode : Lease.Mode} (hmode : mode ≠ .ambient) {x : Except Fault LeaseDecision} {w w' : World σ}
    (hrun : (e.leaseForMessage channel avatar tick m mode).run.run w = (x, w')) :
    Epochal w w' ∧ ∀ decision, x = .ok decision → decision ≠ .skip → mode ≠ .priority →
      w'.store.tables.Answerable channel avatar tick := by
  obtain ⟨s, rfl, hbeside, ⟨-, -, htaken⟩ | ⟨hleases, -, origin, horigin, hholder⟩ |
    ⟨⟨f, rfl⟩, hleases, -⟩⟩ := run_leaseForMessage hrun
  · -- the lease was free, and is held by the message now
    have hname : mode.name ≠ Lease.Mode.ambient.name := fun hname => hmode (name_eq_ambient.mp hname)
    exact ⟨taken_epochal htaken (hbeside.beside fun _ _ => rfl), fun _ _ _ _ => ⟨_, htaken.held, hname⟩⟩
  · refine ⟨untaken_epochal hbeside hleases, fun decision hx hskip hlesser => ?_⟩
    rcases hholder with ⟨hok, -⟩ | ⟨-, hpriority | hother⟩
    · exact absurd (Except.ok.inj (hx.symm.trans hok)) hskip
    · exact absurd hpriority hlesser
    · -- somebody holds the lease for an earlier message
      refine ⟨origin.1, ?_, fun hambient => hother (Or.inl hambient)⟩
      show s.tables.leaseMode _ = _
      rw [Tables.leaseMode_eq, Tables.leaseOrigin, hleases]
      exact congrArg (Option.map Prod.fst) horigin
  · refine ⟨untaken_epochal hbeside hleases, fun decision hx => ?_⟩
    cases hx

/-- No tier leases as a sweep does. -/
theorem leaseMode_ne_ambient (t : Tier) : t.leaseMode ≠ .ambient := by
  cases t <;> decide

/-- A selection's lease is accounted for, unless it is passed over. -/
theorem leaseSelection_epochal {channel : String} {message : Option Message} {s : Selection}
    {tick? : Option Nat} {x : Except Fault LeaseDecision} {w w' : World σ}
    (hrun : (e.leaseSelection channel message s tick?).run.run w = (x, w')) :
    Epochal w w' ∧ ∀ decision, x = .ok decision → decision ≠ .skip →
      ∀ tick m, tick? = some tick → message = some m → s.tier.leaseMode ≠ .priority →
        w'.store.tables.Answerable channel s.avatar.id tick := by
  cases htick : tick? with
  | none =>
    rw [htick] at hrun
    obtain ⟨-, rfl⟩ := Prod.mk.inj hrun
    exact ⟨Epochal.calm.refl _, fun _ _ _ _ _ htick => absurd htick (Option.some_ne_none _).symm⟩
  | some tick =>
    cases hmessage : message with
    | none =>
      rw [htick, hmessage] at hrun
      obtain ⟨-, rfl⟩ := Prod.mk.inj hrun
      exact ⟨Epochal.calm.refl _, fun _ _ _ _ _ _ hm => absurd hm (Option.some_ne_none _).symm⟩
    | some m =>
      rw [htick, hmessage] at hrun
      obtain ⟨hkept, hheld⟩ := leaseForMessage_epochal (leaseMode_ne_ambient s.tier) hrun
      refine ⟨hkept, ?_⟩
      rintro decision hx hskip _ _ ⟨⟩ ⟨⟩ hpriority
      exact hheld decision hx hskip hpriority

/-- A turn that is run on such a decision is noted, and settled at its end. -/
theorem respondLeased_epochal (h : e.Served Tables.epochs Epochal) {channel : String}
    {message : Option Message} {trigger : Trigger} {key : String} {context : CoordinationContext}
    {s : Selection} {lease : Option Lease.Guard} {w : World σ}
    (hheld : ∀ tick m, context.leaseTick = some tick → message = some m →
      s.tier.leaseMode ≠ .priority → w.store.tables.Answerable channel s.avatar.id tick) :
    Epochal w ((e.respondLeased channel message trigger key context s lease).run w).2 := by
  have hrest : Keeps Epochal (e.answer channel message trigger key context.depth s lease) :=
    h.answer epochs_settling (runTurn_epochal h _) lease
  unfold respondLeased
  split
  · rename_i tick m heq
    obtain ⟨htick, hmessage⟩ := Prod.mk.inj heq
    refine h.trans (Epochal.note rfl rfl fun _ _ _ _ _ hentry hpriority => ?_) (hrest _)
    obtain ⟨rfl, rfl, rfl, -, rfl⟩ := JournalEntry.answering.inj hentry
    exact hheld _ _ htick hmessage hpriority
  · exact hrest w

/-- A response is given under the lease that was taken for it. -/
theorem respond_epochal (h : e.Served Tables.epochs Epochal) (channel : String)
    (message : Option Message) (trigger : Trigger) (key : String) (context : CoordinationContext)
    (s : Selection) : Keeps Epochal (e.respond channel message trigger key context s) := by
  intro w
  rcases hlease : (e.leaseSelection channel message s context.leaseTick).run.run w with ⟨x, w₁⟩
  obtain ⟨hkept, hheld⟩ := leaseSelection_epochal hlease
  rw [respond, run_bind_of hlease]
  refine h.trans hkept ?_
  cases x with
  | error f => exact h.refl _
  | ok decision =>
    cases decision with
    | skip =>
      dsimp only
      split
      · refine Keeps.bind h.toChains (Epochal.plain rfl rfl ?_) (fun _ => .pure h.toChains _) w₁
        exact fun _ _ _ _ _ => JournalEntry.noConfusion
      · exact h.refl _
    | proceed => exact respondLeased_epochal h (hheld _ rfl LeaseDecision.noConfusion)
    | leased guard => exact respondLeased_epochal h (hheld _ rfl LeaseDecision.noConfusion)

/-! ## Ticks of sweeps -/

/-- The tick of a sweep, with the note that it was opened. -/
theorem opened_epochal {w : World σ} {s : Store} {channel : String} {tick : Nat}
    (hopened : Tick.Opened channel tick w.store.tables s.tables)
    (hrest : Unseen Tables.leaseMode w.store s) :
    Epochal w ({ w with store := s }.noted (.opened ⟨w.journal.length, channel, tick⟩)) := by
  let sweep : Sweep := ⟨w.journal.length, channel, tick⟩
  have hsweeps : sweeps [.opened sweep] = [sweep] := rfl
  obtain ⟨n, hint, htick, hafter, habove⟩ := hopened.number
  refine ⟨[.opened sweep], rfl, .of_kept rfl ?_ ?_, hrest.failures, fun _ => ⟨?_, ?_, ?_⟩, ?_, ?_, ?_⟩
  · intro k mode hk
    rw [← hk]
    exact congrFun hrest.view k
  · intro _ _ _ _ _ hentry
    cases List.mem_singleton.mp hentry
  · intro c m hm
    by_cases hc : c = channel
    · -- in its own channel the sweep has moved the number up
      rw [hc] at hm ⊢
      exact ⟨n, hafter, Int.le_of_lt (habove m hm)⟩
    · exact ⟨m, (hopened.others c hc).trans hm, Int.le_refl m⟩
  · intro s hs
    rw [hsweeps, List.mem_singleton] at hs
    obtain rfl := hs
    exact ⟨n, n, hint, htick, hafter, Int.le_refl n, habove⟩
  · exact List.pairwise_cons.mpr ⟨fun _ h => absurd h List.not_mem_nil, List.Pairwise.nil⟩
  · intro s hs
    rw [hsweeps, List.mem_singleton] at hs
    obtain rfl := hs
    exact ⟨Nat.le_refl _, Nat.lt_succ_self _⟩
  · exact List.nodup_cons.mpr ⟨List.not_mem_nil, List.nodup_nil⟩
  · intro _ _ hentry
    cases List.mem_singleton.mp hentry

/-- An attempt to open a tick either opened it, or failed. -/
theorem advance_epochal {channel : String} {now : Int} {x : Except Fault Nat} {w w' : World σ}
    (hrun : (onStore (Tick.advance channel now) : Try σ Nat).run.run w = (x, w')) :
    (∃ tick s, x = .ok tick ∧ w' = { w with store := s } ∧
        Tick.Opened channel tick w.store.tables s.tables ∧ Unseen Tables.leaseMode w.store s) ∨
      ((∃ f, x = .error f) ∧ Epochal w w') := by
  obtain ⟨s, hadvance, rfl⟩ := run_onStore hrun
  have hrest : Unseen Tables.leaseMode w.store s :=
    Tick.advance_frames (fun _ _ => rfl) _ _ _ _ _ hadvance
  rcases Tick.runs_advance hadvance with ⟨tick, rfl, hopened, -⟩ | ⟨herror, hfailed⟩
  · exact .inl ⟨tick, s, rfl, rfl, hopened, hrest⟩
  · exact .inr ⟨herror, .of_leases hrest rfl fun hok => absurd hok (Nat.ne_of_gt hfailed)⟩

/-- A tick that opens is noted as the next of its channel. -/
theorem openTick_epochal (channel : String) (now : Int) :
    Keeps Epochal (openTick channel now : Try σ Sweep).run := by
  intro w
  rcases hrun : (openTick channel now : Try σ Sweep).run.run w with ⟨x, w'⟩
  rcases run_tryBind hrun with ⟨tick, w₁, hadvance, hnote⟩ | ⟨f, hadvance, -⟩
  · rcases advance_epochal hadvance with ⟨_, s, htick, rfl, hopened, hrest⟩ | ⟨⟨f, hf⟩, -⟩
    · obtain rfl := Except.ok.inj htick
      obtain rfl := (Prod.mk.inj hnote).2
      exact opened_epochal hopened hrest
    · cases hf
  · rcases advance_epochal hadvance with ⟨_, _, htick, -⟩ | ⟨-, hkept⟩
    · cases htick
    · exact hkept

/-- A look at the tick counts nothing. -/
theorem peek_epochal (channel : String) (now : Int) :
    Keeps Epochal (onStore (Tick.peek channel now) : Try σ Nat).run := by
  intro w
  have hpeek := runs_after (Tick.peek channel now) w.store
  refine .of_leases (Tick.peek_frames (fun _ _ => rfl) _ _ _ _ _ hpeek) rfl fun hok c m hm => ?_
  rcases Tick.runs_peek hpeek with ⟨hkept, -⟩ | hfailed
  · exact hkept c _ hm
  · exact absurd hok (Nat.ne_of_gt hfailed)

/-- An engine keeps the account of leases and ticks as soon as its services do. -/
theorem epochal (hservice : ∀ call w, Epochal w (e.outside.after call w)) :
    e.Upholds Tables.epochs Epochal := by
  have hserved : e.Served Tables.epochs Epochal :=
    .of_services Epochal.calm epochs_side (fun _ _ => rfl) hservice
  exact {
    hserved.toAided with
    grows := Epochal.grows
    hear := fun _ _ _ => hserved.hear _ _ _ _
    peek := peek_epochal
    openTick := openTick_epochal
    selected := fun key selections => Epochal.plain rfl rfl fun _ _ _ _ _ => JournalEntry.noConfusion
    respond := respond_epochal hserved
    ambientTurn := runAmbientTurn_epochal hserved }

end Engine

/-! ## Courses -/

/-- Nothing from outside touches the leases, the counters or the journal. -/
structure EpochsKept (w w' : World σ) : Prop where
  journal : w'.journal = w.journal
  leases : w'.store.tables.leases = w.store.tables.leases
  ticks : w'.store.tables.ticks = w.store.tables.ticks
  failures : w.store.failures ≤ w'.store.failures

/-- Every course accounts for its leases and ticks. -/
theorem Course.epochal {w w' : World σ} (course : Course (fun _ => True) EpochsKept w w') :
    Epochal w w' := by
  refine course.within Tables.epochs Epochal.calm.toChains ?_ fun e _ hservice => e.epochal hservice
  intro v v' h
  refine .of_unseen ⟨?_, h.failures⟩ h.journal
  have hleases : v'.store.tables.leaseMode = v.store.tables.leaseMode := by
    funext k
    rw [Tables.leaseMode, h.leases]
    rfl
  have hcounters : v'.store.tables.counter = v.store.tables.counter := by
    funext c
    rw [Tables.counter, h.ticks]
    rfl
  exact Prod.ext hleases hcounters

/-- Only replies and summons take precedence. -/
theorem Tier.takes_precedence {t : Tier} (h : t.leaseMode = .priority) : t = .reply ∨ t = .summon := by
  cases t with
  | reply => exact .inl rfl
  | summon => exact .inr rfl
  | thread | affinity | mention | activeSpeaker | presence | legacy => cases h

/-- In every course of engines, whatever its order and however operations are nested in services, as
long as nobody else touches leases and counters and no statement fails: no two sweeps of a channel open
the same tick; what a sweep runs it runs in a tick that it opened; no avatar has two unprompted turns in
one tick; and beside an unprompted turn no message is answered in its tick by its avatar, be it before
or after, unless on terms that take precedence. -/
theorem sweeps_and_messages_exclude {w w' : World σ}
    (course : Course (fun _ => True) EpochsKept w w')
    (hok : w'.store.failures = w.store.failures) :
    (sweeps (w'.since w)).Pairwise (fun s s' =>
        s.number ≠ s'.number ∧ (s.channelId = s'.channelId → s.tick ≠ s'.tick)) ∧
      (∀ sweep avatar, .unprompted sweep avatar ∈ w'.since w → .opened sweep ∈ w'.journal) ∧
      (sweepTurns (w'.since w)).Nodup ∧
      ∀ sweep avatar message tier, .unprompted sweep avatar ∈ w'.since w →
        .answering sweep.channelId avatar sweep.tick message tier ∈ w'.since w →
          tier = .reply ∨ tier = .summon := by
  obtain ⟨new, hnew⟩ := course.epochal
  rw [World.since_eq hnew.journal]
  refine ⟨?_, hnew.opened, hnew.leased.once, ?_⟩
  · have hnumbers := List.pairwise_map.mp hnew.distinct
    exact hnumbers.and (hnew.ticked hok).apart
  · intro sweep avatar message tier hturn hanswer
    refine Tier.takes_precedence (Decidable.by_contra fun hpriority => ?_)
    -- the lease of the turn would be both the sweep's and somebody else's
    obtain ⟨mode, hmode, hne⟩ := hnew.leased.answered _ _ _ _ _ hanswer hpriority
    have hswept := hnew.leased.swept _ (mem_sweepTurns.mpr ⟨sweep, avatar, hturn, rfl⟩)
    have hsame : some mode = some Lease.Mode.ambient.name := hmode.symm.trans hswept
    exact hne (Option.some.inj hsame)

/-- A sweep has run a turn of the first participant of a thread when a message comes to the same tick:
the thread's turn would be theirs, and is passed over. -/
theorem sweeps_and_messages_exclude_passed_over :
    let w : World Unit := .ofTables .threaded ()
    let w₁ := (Operation.channelTick "c" 4).after (.standard (.plain (Avatar.pair.take 1) "")) w
    let w₂ := (Operation.message "c" (Message.human "m" "c" "u" "?" 0)).after
      (.standard (.plain Avatar.pair "")) w₁
    w₂.store.failures = w.store.failures ∧ sweepTurns (w₂.since w) = [("c", "ada", 1)] ∧
      .passedOver "c" "ada" 1 "m" ∈ w₂.since w ∧
        ∀ message tier, .answering "c" "ada" 1 message tier ∈ w₂.since w →
          tier = .reply ∨ tier = .summon := by
  intro w w₁ w₂
  have hplain : ∀ avatars call (v : World Unit), Course (fun _ => True) EpochsKept v
      ((Collaborators.plain avatars "").after call v) := by
    intro avatars call v
    rw [Collaborators.after_plain]
    exact .outside ⟨rfl, rfl, rfl, Nat.le_refl _⟩
  have hsweep : Course (fun _ => True) EpochsKept w w₁ :=
    .operation (e := .standard (.plain (Avatar.pair.take 1) "")) _ w trivial (hplain _)
  have hmessage : Course (fun _ => True) EpochsKept w₁ w₂ :=
    .operation (e := .standard (.plain Avatar.pair "")) _ w₁ trivial (hplain _)
  have hok : w₂.store.failures = w.store.failures := by decide +kernel
  have hturn : .unprompted ⟨0, "c", 1⟩ "ada" ∈ w₂.since w := by decide +kernel
  obtain ⟨-, -, -, hexclude⟩ := sweeps_and_messages_exclude (hsweep.append hmessage) hok
  exact ⟨hok, by decide +kernel, by decide +kernel, fun _ _ => hexclude _ _ _ _ hturn⟩

end TurnTaking
