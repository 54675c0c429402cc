import TurnTaking.Proofs.Engine.Coordination
import TurnTaking.Proofs.Engine.Turn

/-!
# Sweeps — what a run of one consists of

Before a sweep of a channel offers turns, it looks up whatever it goes by (`Engine.look`), and from what it
finds follow the avatars that it offers turns, in their order (`Engine.speakers`), and how many of these may
end with a message (`Engine.slots`). What it finds is what the tables tell in which it begins: who was heard in
the channel (`activityOf`, `humansSince`), what the channel is about (`topicsOf`), and the records of its
avatars (`recordsOf`). `run_sweepChannel` takes a sweep of a channel apart up to its turns,
`run_runAmbientTurns_cons` the turns, and `run_runAmbientTurn` one of these.
-/

namespace TurnTaking

open Store Store.Access

variable {σ : Type} {e : Engine σ}

/-! ## What is read -/

namespace Store.Tables

/-- What is known of the messages of a channel. -/
def activityOf (t : Tables) (channel : String) : Option Activity :=
  (Table.lookup ActivityRow.key (some channel) (t.activity.getD [])).bind fun row =>
    (Activity.readActivity row).toOption

/-- The number of people that were seen in a channel at a time or later. -/
def humansSince (t : Tables) (channel : String) (since : Int) : Nat :=
  (t.humans.getD []).countP fun r => r.channelId = channel && (Cell.number since).upTo r.lastSeenAt

/-- What a channel is about; none, where that cannot be read. -/
def topicsOf (t : Tables) (channel : String) : Option TagSet :=
  match Table.lookup TopicsRow.key (some channel) (t.topics.getD []) with
  | none => some .empty
  | some row => (texts? row.topics).map TagSet.ofList

/-- The record of an avatar in a channel, as it is or as it would be made now; none, where it cannot be
read. -/
def recordOf (t : Tables) (channel : String) (now : Int) (avatar : String) : Option Presence.Record :=
  match Table.lookup PresenceRow.key (channel, avatar) (t.presence.getD []) with
  | none => some (.fresh channel avatar now)
  | some row => (Presence.readRecord row).toOption

end Store.Tables

namespace Activity

/-- An activity that was found is the stored one. -/
theorem runs_find?_ok {channel : String} {found : Option Activity} {s s' : Store}
    (h : (find? channel).Runs s (.ok found) s') : found = s.tables.activityOf channel := by
  obtain ⟨rows, hrows, hread, -⟩ := runs_query_ok h
  have hactivity : s.tables.activity = some rows := hrows
  rw [Tables.activityOf, hactivity, Option.getD_some]
  cases hrow : Table.lookup ActivityRow.key (some channel) rows with
  | none =>
    rw [hrow] at hread
    exact (Except.ok.inj hread).symm
  | some row =>
    rw [hrow] at hread
    have hmap : (readActivity row).map some = .ok found := hread
    cases hr : readActivity row with
    | error f =>
      rw [hr] at hmap
      cases hmap
    | ok a =>
      rw [hr] at hmap
      rw [Option.bind_some, hr]
      exact (Except.ok.inj hmap).symm

/-- People are counted as the table has them. -/
theorem runs_activeHumans_ok {channel : String} {since : Int} {n : Nat} {s s' : Store}
    (h : (activeHumans channel since).Runs s (.ok n) s') : n = s.tables.humansSince channel since := by
  obtain ⟨rows, hrows, hcount, -⟩ := runs_query_ok h
  have hhumans : s.tables.humans = some rows := hrows
  rw [Tables.humansSince, hhumans]
  exact (Except.ok.inj hcount).symm

/-- What a channel is about is read, or cannot be, or the statement fails. -/
theorem runs_topics {channel : String} {x : Except Fault TagSet} {s s' : Store}
    (h : (topics channel).Runs s x s') :
    (∃ topics, x = .ok topics ∧ s.tables.topicsOf channel = some topics) ∨
      (∃ f, x = .error f) ∧ (s.tables.topicsOf channel = none ∨ s.failures < s'.failures) := by
  rcases runs_bind h with ⟨stored, s₁, hquery, hrest⟩ | ⟨f, hquery, rfl⟩
  · obtain ⟨rows, hrows, hstored, -⟩ := runs_query_ok hquery
    have htopics : s.tables.topics = some rows := hrows
    rw [Tables.topicsOf, htopics, Option.getD_some]
    obtain rfl := Except.ok.inj hstored
    cases hrow : Table.lookup TopicsRow.key (some channel) rows with
    | none =>
      -- no topics are the empty set
      rw [hrow] at hrest
      obtain ⟨rfl, -⟩ := runs_pure hrest
      exact Or.inl ⟨.empty, rfl, rfl⟩
    | some row =>
      simp only [hrow, Option.map_some] at hrest
      cases htexts : texts? row.topics with
      | none =>
        -- what is stored is no list of texts
        simp only [htexts] at hrest
        obtain ⟨rfl, -⟩ := hrest.unique (rfl : (throw .json : Access TagSet).Runs s₁ (.error .json) s₁)
        exact Or.inr ⟨⟨_, rfl⟩, Or.inl (congrArg (Option.map TagSet.ofList) htexts)⟩
      | some l =>
        simp only [htexts] at hrest
        obtain ⟨rfl, -⟩ := runs_pure hrest
        exact Or.inl ⟨_, rfl, congrArg (Option.map TagSet.ofList) htexts⟩
  · exact Or.inr ⟨⟨f, rfl⟩, Or.inr ((Counts.query _ _).counted hquery)⟩

end Activity

namespace Presence

theorem counts_ensure (channel avatar : String) (now : Int) : Counts (ensure channel avatar now) :=
  (Counts.change _ _).bind fun _ => .query _ _

/-- A row that was just made is read as a record without history. -/
theorem readRecord_blankRow (channel avatar : String) (now : Int) :
    readRecord (blankRow channel avatar .present now) = .ok (.fresh channel avatar now) := by
  have htexts : texts? (storedTags .empty) = some [] := by decide +kernel
  simp only [readRecord, blankRow, readTexts, htexts]
  rfl

/-- A record that is ensured is the one that was to be expected, and so are all others. -/
theorem runs_ensure_ok {channel avatar : String} {now : Int} {record : Record} {s s' : Store}
    (h : (ensure channel avatar now).Runs s (.ok record) s') :
    s.tables.recordOf channel now avatar = some record ∧
      ∀ other, s'.tables.recordOf channel now other = s.tables.recordOf channel now other := by
  obtain ⟨added, s₁, hadd, hread⟩ := runs_bind_ok h
  obtain ⟨rows, hrows, -, htables⟩ := runs_change_ok hadd
  obtain ⟨rows', hrows', hrecord, htables'⟩ := runs_query_ok hread
  have hpresence : s.tables.presence = some rows := hrows
  have hafter : s₁.tables.presence =
      some (Table.add PresenceRow.key (blankRow channel avatar .present now) rows).2 :=
    congrArg Tables.presence htables
  have hothers : ∀ other, s₁.tables.recordOf channel now other = s.tables.recordOf channel now other := by
    intro other
    rw [Tables.recordOf, Tables.recordOf, hafter, hpresence, Option.getD_some, Option.getD_some,
      Table.lookup_add]
    cases Table.lookup PresenceRow.key (channel, other) rows with
    | some row => rfl
    | none =>
      -- the row is new, and is read as a missing one is taken
      rw [Option.none_or]
      by_cases hkey : PresenceRow.key (blankRow channel avatar .present now) = (channel, other)
      · have hsame : avatar = other := congrArg Prod.snd hkey
        rw [if_pos hkey, hsame]
        exact congrArg Except.toOption (readRecord_blankRow channel other now)
      · rw [if_neg hkey]
  constructor
  · -- what is read afterwards is what was there, or the new row
    rw [← hothers avatar, Tables.recordOf, show s₁.tables.presence = some rows' from hrows',
      Option.getD_some]
    cases hrow : Table.lookup PresenceRow.key (channel, avatar) rows' with
    | none =>
      rw [hrow] at hrecord
      cases hrecord
    | some row =>
      rw [hrow] at hrecord
      exact congrArg Except.toOption hrecord
  · intro other
    rw [htables', hothers]

end Presence

namespace Engine

/-- Whether a record is that of an avatar that may speak unprompted. -/
def available (e : Engine σ) (now : Int) (r : Presence.Record) : Bool :=
  r.isPresent && !e.rule.cooling r now

/-- The records of those avatars of a channel that may speak unprompted. -/
def recordsOf (e : Engine σ) (t : Tables) (channel : String) (now : Int) (avatars : List Avatar) :
    List Presence.Record :=
  (avatars.filterMap fun a => t.recordOf channel now a.id).filter (e.available now)

/-- Whether a person was heard in the channel so lately that no sweep disturbs. -/
def suppresses (e : Engine σ) (t : Tables) (channel : String) (now : Int) : Bool :=
  ((t.activityOf channel).bind Activity.lastHumanAt).any fun last =>
    Numeral.wrapped (now - last) < e.config.ambient.humanSuppressionMs

/-- Records that were found are those of the present avatars, in their order. -/
theorem runs_availableRecords_ok {channel : String} {now : Int} {avatars : List Avatar}
    {records : List Presence.Record} {s s' : Store}
    (h : (e.availableRecords channel now avatars).Runs s (.ok records) s') :
    records = e.recordsOf s.tables channel now avatars := by
  induction avatars generalizing records s s' with
  | nil =>
    obtain ⟨rfl, -⟩ := runs_pure_ok h
    rfl
  | cons a rest ih =>
    unfold availableRecords at h
    obtain ⟨record, s₁, hensure, h⟩ := runs_bind_ok h
    obtain ⟨more, s₂, hmore, h⟩ := runs_bind_ok h
    obtain ⟨rfl, -⟩ := runs_pure_ok h
    obtain ⟨hrecord, hothers⟩ := Presence.runs_ensure_ok hensure
    -- the record that was made before the others does not change how they are read
    have hrest : more = e.recordsOf s.tables channel now rest := by
      rw [ih hmore, recordsOf, recordsOf]
      simp only [hothers]
    have hboth : e.recordsOf s.tables channel now (a :: rest) =
        if e.available now record then record :: e.recordsOf s.tables channel now rest
        else e.recordsOf s.tables channel now rest := by
      simp only [recordsOf, List.filterMap_cons, hrecord, List.filter_cons]
    rw [hrest, hboth]
    rfl

end Engine

/-! ## Turns that were run -/

/-- The request of a turn that ended, and how it did. -/
def JournalEntry.turn? : JournalEntry → Option (Turn.Request × Turn.Outcome)
  | .turn r o => some (r, o)
  | _ => none

/-- The turns that were run so far, the latest first. -/
def World.turns (w : World σ) : List (Turn.Request × Turn.Outcome) :=
  w.journal.filterMap JournalEntry.turn?

theorem World.turns_noted (w : World σ) (r : Turn.Request) (o : Turn.Outcome) :
    (w.noted (.turn r o)).turns = (r, o) :: w.turns := rfl

/-- No turn was run and no lease taken, and no failure was forgotten. -/
structure Hushed (w w' : World σ) : Prop where
  turns : w'.turns = w.turns
  origins : w'.store.tables.leaseOrigin = w.store.tables.leaseOrigin
  failures : w.store.failures ≤ w'.store.failures

namespace Hushed

theorem chains : Chains (Hushed : World σ → World σ → Prop) where
  refl _ := ⟨rfl, rfl, Nat.le_refl _⟩
  trans h h' :=
    ⟨h'.turns.trans h.turns, h'.origins.trans h.origins, Nat.le_trans h.failures h'.failures⟩

theorem calm : Calm Tables.leaseOrigin (Hushed : World σ → World σ → Prop) where
  toChains := chains
  unseen hstore hstill :=
    ⟨congrArg (List.filterMap JournalEntry.turn?) hstill.journal, hstore.view, hstore.failures⟩

/-- Notes that are no turns leave a world hushed. -/
theorem note {entry : JournalEntry} (h : entry.turn? = none) :
    Keeps Hushed (TurnTaking.note entry : Act σ Unit) :=
  fun _ => ⟨List.filterMap_cons_none h, rfl, Nat.le_refl _⟩

end Hushed

/-- The services of the engine leave the store alone, and run no turns. -/
structure Engine.Undisturbed (e : Engine σ) : Prop where
  store : ∀ call w, (e.outside.after call w).store = w.store
  journal : ∀ call w, (e.outside.after call w).journal = w.journal

/-- The services of the engine leave the store alone but for whom people prefer, and run no turns. -/
structure Engine.Discreet (e : Engine σ) : Prop where
  store : ∀ call w, Unseen Relation.affinities.aside w.store (e.outside.after call w).store
  journal : ∀ call w, (e.outside.after call w).journal = w.journal

/-- Services that disturb nothing are discreet. -/
theorem Engine.Undisturbed.discreet (h : e.Undisturbed) : e.Discreet where
  store call w := by
    rw [h.store]
    exact .refl _
  journal := h.journal

/-- Discreet services keep hushed what they serve. -/
theorem Engine.Discreet.served (h : e.Discreet) : e.Served Tables.leaseOrigin Hushed := by
  refine .of_services Hushed.calm leaseOrigin_side (fun _ _ => rfl) fun call w => ?_
  have hleft : Unseen Tables.leaseOrigin w.store (e.outside.after call w).store :=
    (h.store call w).beside fun _ _ => rfl
  constructor
  · exact congrArg (List.filterMap JournalEntry.turn?) (h.journal call w)
  · exact hleft.view
  · exact hleft.failures

namespace Engine

/-! ## The turn of an avatar -/

/-- The lease of the turn is added, and the turn is noted, run and settled; or the lease is not to be had,
and nothing but the count of failures may have changed. -/
theorem run_runAmbientTurn_rows {sweep : Sweep} {a : Avatar} {x : Except Fault Bool} {w w' : World σ}
    (hrun : (e.runAmbientTurn sweep a).run.run w = (x, w')) :
    ∃ s, Unseen Relation.leases.aside w.store s ∧
      ((∃ o v, x = .ok o.isResponded ∧ s.failures = w.store.failures ∧
          Added .leases LeaseRow.key (Lease.takenRow e.config.locks.leaseTtlMs sweep.channelId a.id sweep.tick
            .ambient w.clock) w.store.tables s.tables ∧
          (e.runTurn (ambientRequest sweep a)).run ({ w with store := s }.noted (.unprompted sweep a.id)) =
            (o, v) ∧
          w' = ((settleLease (some ⟨sweep.channelId, a.id, sweep.tick⟩) o).run v).2) ∨
        (w' = { w with store := s } ∧ s.tables = w.store.tables ∧
          ((x = .ok false ∧
              (w.store.tables.leaseOrigin (Lease.rowKey sweep.channelId a.id sweep.tick)).isSome) ∨
            (∃ f, x = .error f) ∧ w.store.failures < s.failures))) := by
  rw [runAmbientTurn, run_tryClockNow] at hrun
  rcases run_tryBind hrun with ⟨guard, w₁, hlease, hturn⟩ | ⟨f, hlease, hx⟩
  · obtain ⟨s, hacquire, rfl⟩ := run_onStore hlease
    have hbeside : Unseen Relation.leases.aside w.store s :=
      Lease.acquire?_frames (fun _ _ => rfl) _ _ _ _ _ _ _ _ _ hacquire
    refine ⟨s, hbeside, ?_⟩
    rcases Lease.runs_acquire?_rows hacquire with
      ⟨hguard, hfailures, hadded⟩ | ⟨hguard, -, htables, rows, hrows, hheld⟩ | ⟨⟨f, hguard⟩, -⟩
    · -- the lease is taken, the turn noted, run and settled
      obtain rfl := Except.ok.inj hguard
      obtain ⟨_, w₂, hnote, hturn⟩ := run_tryLift hturn
      obtain rfl := (Prod.mk.inj hnote).2
      obtain ⟨o, v, hran, hrest⟩ := run_tryLift hturn
      obtain ⟨_, w₃, hsettle, hend⟩ := run_tryLift hrest
      obtain ⟨rfl, rfl⟩ := Prod.mk.inj hend
      exact Or.inl ⟨o, v, rfl, hfailures, hadded, hran, (congrArg Prod.snd hsettle).symm⟩
    · -- somebody has the lease
      obtain rfl := Except.ok.inj hguard
      obtain ⟨rfl, rfl⟩ := Prod.mk.inj hturn
      exact Or.inr ⟨rfl, htables, Or.inl ⟨rfl, Lease.leaseOrigin_isSome hrows hheld⟩⟩
    · cases hguard
  · obtain ⟨s, hacquire, rfl⟩ := run_onStore hlease
    rcases Lease.runs_acquire?_rows hacquire with ⟨hguard, -⟩ | ⟨hguard, -⟩ | ⟨-, hfault⟩
    · cases hguard
    · cases hguard
    · exact ⟨s, hfault.unseen, Or.inr ⟨rfl, hfault.tables, Or.inr ⟨⟨f, hx⟩, hfault.failures⟩⟩⟩

/-- The same, as far as the origins of leases tell. -/
theorem run_runAmbientTurn {sweep : Sweep} {a : Avatar} {x : Except Fault Bool} {w w' : World σ}
    (hrun : (e.runAmbientTurn sweep a).run.run w = (x, w')) :
    ∃ s, Unseen Relation.leases.aside w.store s ∧
      ((∃ o v, x = .ok o.isResponded ∧
          Lease.Taken (Lease.rowKey sweep.channelId a.id sweep.tick) .ambient w.store.tables s.tables ∧
          (e.runTurn (ambientRequest sweep a)).run ({ w with store := s }.noted (.unprompted sweep a.id)) =
            (o, v) ∧
          w' = ((settleLease (some ⟨sweep.channelId, a.id, sweep.tick⟩) o).run v).2) ∨
        (w' = { w with store := s } ∧ s.tables.leases = w.store.tables.leases ∧
          ((x = .ok false ∧
              (w.store.tables.leaseOrigin (Lease.rowKey sweep.channelId a.id sweep.tick)).isSome) ∨
            (∃ f, x = .error f) ∧ w.store.failures < s.failures))) := by
  obtain ⟨s, hbeside, ⟨o, v, hx, -, hadded, hran, hw⟩ | ⟨hw, htables, hcase⟩⟩ :=
    run_runAmbientTurn_rows hrun
  · exact ⟨s, hbeside, Or.inl ⟨o, v, hx, Lease.taken_of_added hadded, hran, hw⟩⟩
  · exact ⟨s, hbeside, Or.inr ⟨hw, congrArg Tables.leases htables, hcase⟩⟩

/-- An avatar took a turn in a sweep, and the lease of it, which was free. -/
structure TookTurn (sweep : Sweep) (a : Avatar) (o : Turn.Outcome) (w w' : World σ) : Prop where
  vacant : w.store.tables.leaseOrigin (Lease.rowKey sweep.channelId a.id sweep.tick) = none
  turns : w'.turns = (ambientRequest sweep a, o) :: w.turns
  held : ∀ k, (w'.store.tables.leaseOrigin k).isSome ↔
    k = Lease.rowKey sweep.channelId a.id sweep.tick ∨ (w.store.tables.leaseOrigin k).isSome
  failures : w.store.failures ≤ w'.store.failures

/-- An avatar that is offered a turn in a sweep takes it, unless its lease is taken or cannot be had. -/
theorem Discreet.run_runAmbientTurn (h : e.Discreet) {sweep : Sweep} {a : Avatar}
    {x : Except Fault Bool} {w w' : World σ}
    (hrun : (e.runAmbientTurn sweep a).run.run w = (x, w')) :
    (x = .ok false ∧ Hushed w w' ∧
        (w.store.tables.leaseOrigin (Lease.rowKey sweep.channelId a.id sweep.tick)).isSome) ∨
      (∃ o, x = .ok o.isResponded ∧ TookTurn sweep a o w w') ∨
      ((∃ f, x = .error f) ∧ w.store.failures < w'.store.failures) := by
  obtain ⟨s, hbeside, ⟨o, v, hx, htaken, hran, rfl⟩ | ⟨rfl, hleases, ⟨hx, hheld⟩ | hfault⟩⟩ :=
    Engine.run_runAmbientTurn hrun
  · obtain ⟨v, hbefore, rfl⟩ := h.served.toVoiced.run_runTurn (fun _ _ => rfl) (Hushed.note rfl) hran
    have hsettled := h.served.settleLease leaseOrigin_settling
      (some ⟨sweep.channelId, a.id, sweep.tick⟩) o (v.noted (.turn (ambientRequest sweep a) o))
    -- nothing but the lease was taken, and nothing but the turn was run
    have horigins := hsettled.origins.trans hbefore.origins
    refine Or.inr (Or.inl ⟨o, hx, htaken.vacant, ?_, fun k => ?_, ?_⟩)
    · rw [hsettled.turns, World.turns_noted, hbefore.turns]
      rfl
    · rw [horigins]
      by_cases hk : k = Lease.rowKey sweep.channelId a.id sweep.tick
      · rw [hk]
        exact iff_of_true (Option.isSome_iff_exists.mpr ⟨_, htaken.stored⟩) (Or.inl rfl)
      · have hother := htaken.apart k hk
        constructor
        · intro hsome
          exact Or.inr (hother ▸ hsome)
        · intro hor
          exact hother ▸ hor.resolve_left hk
    · exact Nat.le_trans hbeside.failures (Nat.le_trans hbefore.failures hsettled.failures)
  · refine Or.inl ⟨hx, ⟨rfl, ?_, hbeside.failures⟩, hheld⟩
    funext k
    rw [Tables.leaseOrigin, hleases]
    rfl
  · exact Or.inr (Or.inr hfault)

/-- One turn after another: a message uses up one of the limit, and counts as one. A fault ends the turns,
and the count is lost. -/
theorem run_runAmbientTurns_cons {sweep : Sweep} {limit : Nat} {a : Avatar} {rest : List Avatar}
    {x : Except Fault Nat} {w w' : World σ}
    (hrun : (e.runAmbientTurns sweep (limit + 1) (a :: rest)).run.run w = (x, w')) :
    (∃ responded left y v, (e.runAmbientTurn sweep a).run.run w = (.ok responded, v) ∧
        limit + 1 = left + responded.toNat ∧
        (e.runAmbientTurns sweep left rest).run.run v = (y, w') ∧ x = y.map (· + responded.toNat)) ∨
      ∃ f, (e.runAmbientTurn sweep a).run.run w = (.error f, w') ∧ x = .error f := by
  rcases run_tryBind hrun with ⟨responded, v, hturn, hrest⟩ | ⟨f, hturn, hx⟩
  · cases responded with
    | false =>
      refine Or.inl ⟨false, limit + 1, x, v, hturn, rfl, hrest, ?_⟩
      cases x <;> rfl
    | true =>
      rcases run_tryBind hrest with ⟨n, v', hmore, hend⟩ | ⟨f, hmore, rfl⟩
      · obtain ⟨rfl, rfl⟩ := Prod.mk.inj hend
        exact Or.inl ⟨true, limit, .ok n, v, hturn, rfl, hmore, rfl⟩
      · exact Or.inl ⟨true, limit, .error f, v, hturn, rfl, hmore, rfl⟩
  · exact Or.inr ⟨f, hturn, hx⟩

/-! ## A sweep up to its turns -/

/-- Time stands still, no turn is run, and of the tables only the ticks may change. -/
structure Prelude (w w' : World σ) : Prop where
  clock : w'.clock = w.clock
  outside : w'.outside = w.outside
  tables : Relation.ticks.aside w'.store.tables = Relation.ticks.aside w.store.tables
  turns : w'.turns = w.turns
  failures : w.store.failures ≤ w'.store.failures

namespace Prelude

theorem chains : Chains (Prelude : World σ → World σ → Prop) where
  refl _ := ⟨rfl, rfl, rfl, rfl, Nat.le_refl _⟩
  trans h h' := ⟨h'.clock.trans h.clock, h'.outside.trans h.outside, h'.tables.trans h.tables,
    h'.turns.trans h.turns, Nat.le_trans h.failures h'.failures⟩

theorem calm : Calm Relation.ticks.aside (Prelude : World σ → World σ → Prop) where
  toChains := chains
  unseen hstore hstill := ⟨hstill.clock, hstill.outside, hstore.view,
    congrArg (List.filterMap JournalEntry.turn?) hstill.journal, hstore.failures⟩

variable {w w' : World σ}

/-- Whatever is read of the tables besides the ticks is still the same. -/
theorem reads {α : Type} (h : Prelude w w') (f : Tables → α) (hf : Relation.ticks.Hidden f) :
    f w'.store.tables = f w.store.tables := by
  have hunseen : Unseen Relation.ticks.aside w.store w'.store := ⟨h.tables, h.failures⟩
  exact (hunseen.beside hf).view

/-- Before the first turn nothing was said. -/
theorem hushed (h : Prelude w w') : Hushed w w' :=
  ⟨h.turns, h.reads Tables.leaseOrigin fun _ _ => rfl, h.failures⟩

end Prelude

end Engine

/-- What a sweep of a channel finds before it offers any turns: its number, how many people were heard lately,
the avatars that it is told of, the records of those that may speak unprompted, what the channel is about, and
the authors of its latest messages. -/
structure Findings where
  sweep : Sweep
  humans : Nat
  avatars : List Avatar
  records : List Presence.Record
  topics : TagSet
  recent : List String

namespace Engine

/-- What a sweep looks up, where nobody is to be left undisturbed. -/
def look (e : Engine σ) (channel : String) (now : Int) : Try σ Findings := do
  let sweep ← openTick channel now
  let since := Numeral.wrapped (now - e.config.ambient.activeHumanWindowMs)
  let humans ← onStore (Activity.activeHumans channel since)
  let avatars ← e.outside.listAvatars channel
  let records ← onStore (e.availableRecords channel now avatars)
  let topics ← onStore (Activity.topics channel)
  let recent ← e.recentAuthors channel e.config.coordination.diversityWindow now
  return ⟨sweep, humans, avatars, records, topics, recent⟩

/-- The avatars that are offered turns: of those that may speak unprompted, ranked, the ones that diversity
allows after the authors of the latest messages. -/
def speakers (e : Engine σ) (now : Int) (found : Findings) : List Avatar :=
  (Diversity.allowed (e.rule.cooling · now) e.config.coordination.fallbackScoreThresholds found.recent
    (Presence.rank found.records e.rule ⟨now, found.topics⟩)).filterMap fun r =>
      found.avatars.find? (·.id = r.avatarId)

/-- How many turns may end with a message: as many as the people that were heard lately are worth, within the
budget. -/
def slots (e : Engine σ) (found : Findings) (budget : Nat) : Nat :=
  min (Sweep.ambientK found.humans e.config.ambient.humansPerSlot e.config.ambient.maxK) budget

/-- A sweep of a channel looks things up and then offers turns, unless it leaves people undisturbed. -/
theorem sweepChannel_eq (e : Engine σ) (channel : String) (budget : Nat) :
    e.sweepChannel channel budget = (do
      let now ← clockNow
      if ← e.isSuppressed channel now then return 0
      let found ← e.look channel now
      e.runAmbientTurns found.sweep (e.slots found budget) (e.speakers now found)) := by
  simp only [sweepChannel, look, unprompted, rankIn, Diversity.apply, bind_assoc, pure_bind, liftM_bind,
    liftM_pure]
  rfl

/-- A sweep of a channel that begins in the world `w` has found this when it comes to offer turns, in the world
`v`, and that is what the tables told when it began. -/
structure Finds (e : Engine σ) (channel : String) (w : World σ) (found : Findings) (v : World σ) : Prop where
  looked : ∃ u, (e.isSuppressed channel w.clock).run.run w = (.ok false, u) ∧
    (e.look channel w.clock).run.run u = (.ok found, v)
  channelId : found.sweep.channelId = channel
  humans : found.humans = w.store.tables.humansSince channel
    (Numeral.wrapped (w.clock - e.config.ambient.activeHumanWindowMs))
  records : found.records = e.recordsOf w.store.tables channel w.clock found.avatars
  topics : w.store.tables.topicsOf channel = some found.topics

/-- The sweep of a channel read when people were heard there last, and that was not so lately that it should
not disturb. -/
def Unhindered (e : Engine σ) (channel : String) (w : World σ) : Prop :=
  ∃ activity s, (Activity.find? channel).Runs w.store (.ok activity) s ∧
    ((activity.bind Activity.lastHumanAt).any fun last =>
      Numeral.wrapped (w.clock - last) < e.config.ambient.humanSuppressionMs) = false

/-- Why a sweep of a channel offers no turns, though it could read when people were heard there last. -/
inductive Idle (e : Engine σ) (channel : String) (budget : Nat) (w : World σ) : Prop
  | unfunded : budget = 0 → Idle e channel budget w
  | suppressed : e.suppresses w.store.tables channel w.clock = true → Idle e channel budget w
  | unfound (f u v) : (e.isSuppressed channel w.clock).run.run w = (.ok false, u) →
    (e.look channel w.clock).run.run u = (.error f, v) → Idle e channel budget w

section

variable {channel : String} {now : Int} {w w' : World σ}

/-- A sweep is suppressed by what the tables say, or nothing hinders it, or a statement fails. -/
theorem run_isSuppressed {x : Except Fault Bool}
    (hrun : (e.isSuppressed channel w.clock).run.run w = (x, w')) :
    (x = .ok true ∧ e.suppresses w.store.tables channel w.clock = true) ∨
      (x = .ok false ∧ e.Unhindered channel w) ∨
      (∃ f, x = .error f) ∧ w.store.failures < w'.store.failures := by
  rcases run_tryBind hrun with ⟨activity, w₁, hread, hend⟩ | ⟨f, hread, rfl⟩
  · obtain ⟨s, hfind, rfl⟩ := run_onStore hread
    obtain ⟨rfl, -⟩ := Prod.mk.inj hend
    cases hsuppressed : (activity.bind Activity.lastHumanAt).any fun last =>
        Numeral.wrapped (w.clock - last) < e.config.ambient.humanSuppressionMs with
    | true =>
      refine Or.inl ⟨rfl, ?_⟩
      rw [suppresses, ← Activity.runs_find?_ok hfind]
      exact hsuppressed
    | false => exact Or.inr (Or.inl ⟨rfl, activity, s, hfind, hsuppressed⟩)
  · obtain ⟨s, hfind, rfl⟩ := run_onStore hread
    exact Or.inr (Or.inr ⟨⟨f, rfl⟩, (Counts.query _ _).counted hfind⟩)

/-- Where a sweep finds out what it goes by, nothing hindered it. -/
theorem Finds.unhindered {found : Findings} {v : World σ} (h : e.Finds channel w found v) :
    e.Unhindered channel w := by
  obtain ⟨u, hquiet, -⟩ := h.looked
  rcases run_isSuppressed hquiet with ⟨hx, -⟩ | ⟨-, hunhindered⟩ | ⟨⟨f, hx⟩, -⟩
  · cases hx
  · exact hunhindered
  · cases hx

/-- A sweep opens its own channel's tick. -/
theorem run_openTick {sweep : Sweep}
    (hrun : (openTick channel now : Try σ Sweep).run.run w = (.ok sweep, w')) : sweep.channelId = channel := by
  rcases run_tryBind hrun with ⟨tick, w₁, -, hnote⟩ | ⟨f, -, hx⟩
  · obtain ⟨hsweep, -⟩ := Prod.mk.inj hnote
    obtain rfl := Except.ok.inj hsweep
    rfl
  · cases hx

/-- Records are ranked by what the channel is about, unless that cannot be read. -/
theorem run_rankIn {records : List Presence.Record} {x : Except Fault (List Presence.Ranked)}
    (hrun : (e.rankIn channel now records).run.run w = (x, w')) :
    ∃ s, w' = { w with store := s } ∧ Unseen id w.store s ∧
      ((∃ topics, x = .ok (Presence.rank records e.rule ⟨now, topics⟩) ∧
          w.store.tables.topicsOf channel = some topics) ∨
        (∃ f, x = .error f) ∧
          (w.store.tables.topicsOf channel = none ∨ w.store.failures < s.failures)) := by
  rcases run_tryBind hrun with ⟨topics, w₁, hread, hend⟩ | ⟨f, hread, rfl⟩
  · obtain ⟨s, htopics, rfl⟩ := run_onStore hread
    obtain ⟨rfl, rfl⟩ := Prod.mk.inj hend
    refine ⟨s, rfl, Activity.topics_frames _ _ _ _ htopics, ?_⟩
    rcases Activity.runs_topics htopics with ⟨_, hx, hfound⟩ | ⟨⟨_, hx⟩, -⟩
    · obtain rfl := Except.ok.inj hx
      exact Or.inl ⟨topics, rfl, hfound⟩
    · cases hx
  · obtain ⟨s, htopics, rfl⟩ := run_onStore hread
    refine ⟨s, rfl, Activity.topics_frames _ _ _ _ htopics, ?_⟩
    rcases Activity.runs_topics htopics with ⟨_, hx, -⟩ | ⟨-, hwhy⟩
    · cases hx
    · exact Or.inr ⟨⟨f, rfl⟩, hwhy⟩

/-- Looking things up runs no turns. -/
theorem Discreet.look_hushed (h : e.Discreet) (channel : String) (now : Int) :
    Keeps Hushed (e.look channel now).run := by
  have hopen : Keeps Hushed (openTick channel now : Try σ Sweep).run :=
    Hushed.calm.openTick (fun _ _ => rfl) (fun _ _ => ⟨rfl, rfl, Nat.le_refl _⟩) _ _
  have hrecords : ∀ avatars, (e.availableRecords channel now avatars).Frames Tables.leaseOrigin :=
    availableRecords_frames (Presence.ensure_frames fun _ _ => rfl) _ _
  refine .tryBind Hushed.chains hopen fun _ => ?_
  refine .tryBind Hushed.chains (Hushed.calm.onStore (Activity.activeHumans_frames _ _)) fun _ => ?_
  refine .tryBind Hushed.chains (h.served.service (.listAvatars channel) id) fun avatars => ?_
  refine .tryBind Hushed.chains (Hushed.calm.onStore (hrecords avatars)) fun _ => ?_
  refine .tryBind Hushed.chains (Hushed.calm.onStore (Activity.topics_frames _)) fun _ => ?_
  exact .tryLift Hushed.chains (h.served.recentAuthors channel _ now) fun _ => .tryPure Hushed.chains _

/-- What is found is what the tables tell. -/
theorem Discreet.run_look (h : e.Discreet) {u v : World σ} (hu : Prelude w u) {found : Findings}
    (hquiet : (e.isSuppressed channel w.clock).run.run w = (.ok false, u))
    (hrun : (e.look channel w.clock).run.run u = (.ok found, v)) : e.Finds channel w found v := by
  have hlooked := hrun
  obtain ⟨sweep, u₁, hopen, hrun⟩ := run_tryBind_through hrun
  obtain ⟨humans, u₂, hhumans, hrun⟩ := run_tryBind_through hrun
  obtain ⟨avatars, u₃, hlist, hrun⟩ := run_tryBind_through hrun
  obtain ⟨records, u₄, hrecords, hrun⟩ := run_tryBind_through hrun
  obtain ⟨topics, u₅, htopics, hrun⟩ := run_tryBind_through hrun
  obtain ⟨recent, u₆, -, hend⟩ := run_tryLift hrun
  obtain ⟨hfound, -⟩ := Prod.mk.inj hend
  obtain rfl := Except.ok.inj hfound
  -- the tick is opened, and people are counted
  have hopening : Keeps Prelude (openTick channel w.clock : Try σ Sweep).run :=
    Prelude.calm.openTick (fun _ _ => rfl) (fun _ _ => ⟨rfl, rfl, rfl, rfl, Nat.le_refl _⟩) _ _
  have hopened : Prelude w u₁ := Prelude.chains.trans hu (hopening.of_run hopen)
  obtain ⟨s, hcount, rfl⟩ := run_onStore hhumans
  have hcounting := Prelude.calm.onStore (σ := σ) (Activity.activeHumans_frames channel
    (Numeral.wrapped (w.clock - e.config.ambient.activeHumanWindowMs)))
  have h₂ : Prelude w { u₁ with store := s } := Prelude.chains.trans hopened (hcounting.of_run hhumans)
  -- the services leave alone whatever else is read
  have hleft := h.store (.listAvatars channel) { u₁ with store := s }
  rw [show e.outside.after (.listAvatars channel) { u₁ with store := s } = u₃ from congrArg Prod.snd hlist]
    at hleft
  have hlisted : ∀ {α : Type} (f : Tables → α), Relation.affinities.Hidden f → Relation.ticks.Hidden f →
      f u₃.store.tables = f w.store.tables := by
    intro α f haffinities hticks
    exact (hleft.beside haffinities).view.trans (h₂.reads f hticks)
  -- records are made in the presences, and what the channel is about is told elsewhere
  obtain ⟨s', hensured, rfl⟩ := run_onStore hrecords
  have hkept : (e.availableRecords channel w.clock avatars).Frames (Tables.topicsOf · channel) :=
    availableRecords_frames (Presence.ensure_frames fun _ _ => rfl) _ _ _
  have habout : s'.tables.topicsOf channel = u₃.store.tables.topicsOf channel := (hkept _ _ _ hensured).view
  obtain ⟨s'', hread, rfl⟩ := run_onStore htopics
  constructor
  · exact ⟨u, hquiet, hlooked⟩
  · exact run_openTick hopen
  · exact (Activity.runs_activeHumans_ok hcount).trans
      (hopened.reads (Tables.humansSince · channel _) fun _ _ => rfl)
  · exact (runs_availableRecords_ok hensured).trans
      (hlisted (e.recordsOf · channel w.clock avatars) (fun _ _ => rfl) fun _ _ => rfl)
  · rcases Activity.runs_topics hread with ⟨_, hx, hfound⟩ | ⟨⟨_, hx⟩, -⟩
    · obtain rfl := Except.ok.inj hx
      exact (hlisted (Tables.topicsOf · channel) (fun _ _ => rfl) fun _ _ => rfl).symm.trans
        (habout.symm.trans hfound)
    · cases hx

/-- A sweep of a channel runs no turns, or offers them to the avatars that are to speak by what it
found. -/
theorem Discreet.run_sweepChannel (h : e.Discreet) {budget : Nat} {x : Except Fault Nat}
    (hrun : (e.sweepChannel channel budget).run.run w = (x, w')) :
    (Hushed w w' ∧ (x = .ok 0 ∨ ∃ f, x = .error f) ∧
        (e.Idle channel budget w ∨ w.store.failures < w'.store.failures)) ∨
      ∃ found v, e.Finds channel w found v ∧ Hushed w v ∧
        (e.runAmbientTurns found.sweep (e.slots found budget) (e.speakers w.clock found)).run.run v =
          (x, w') := by
  have hsuppressed : Keeps Prelude (e.isSuppressed channel w.clock).run :=
    .tryBind Prelude.chains (Prelude.calm.onStore (Activity.find?_frames channel)) fun _ =>
      .tryPure Prelude.chains _
  rw [sweepChannel_eq, run_tryClockNow] at hrun
  rcases Keeps.leadsOn Prelude.chains (Prelude.chains.refl w) hsuppressed hrun with
    ⟨f, hdecided, hx, hkept⟩ | ⟨suppressed, u, hdecided, hu, hrun⟩
  · -- the activity could not be read
    rcases run_isSuppressed hdecided with ⟨hok, -⟩ | ⟨hok, -⟩ | ⟨-, hfailed⟩
    · cases hok
    · cases hok
    · exact Or.inl ⟨hkept.hushed, Or.inr ⟨f, hx⟩, Or.inr hfailed⟩
  · cases suppressed with
    | true =>
      obtain ⟨rfl, rfl⟩ := Prod.mk.inj hrun
      rcases run_isSuppressed hdecided with ⟨-, hlately⟩ | ⟨hok, -⟩ | ⟨⟨_, hok⟩, -⟩
      · exact Or.inl ⟨hu.hushed, Or.inl rfl, Or.inl (.suppressed hlately)⟩
      · cases hok
      · cases hok
    | false =>
      rw [if_neg Bool.false_ne_true] at hrun
      rcases Keeps.leadsOn Hushed.chains hu.hushed (h.look_hushed channel w.clock) hrun with
        ⟨f, hlook, hx, hkept⟩ | ⟨found, v, hlook, hv, hrun⟩
      · -- nobody was found to speak
        exact Or.inl ⟨hkept, Or.inr ⟨f, hx⟩, Or.inl (.unfound f u w' hdecided hlook)⟩
      · -- turns are offered to whoever was found
        exact Or.inr ⟨found, v, h.run_look hu hdecided hlook, hv, hrun⟩

end

end Engine

end TurnTaking
