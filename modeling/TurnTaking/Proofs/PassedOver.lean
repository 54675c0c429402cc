import TurnTaking.Proofs.Engine.Coordination
import TurnTaking.Proofs.Engine.Course
import TurnTaking.Proofs.Engine.Sweep
import TurnTaking.Proofs.Epochs

/-!
# Passed over — for whose sake a message is not answered

A message that finds its avatar's lease taken is passed over for the sake of a sweep, or because it was
leased before itself; another message is no obstacle. Leases are only taken by turns that are noted, so
the journal tells whose lease it was. How the turn of the lease ended is not asked: the lease of a sweep
whose turn failed keeps the avatar silent for the rest of the tick.

* `TakenIn` — the journal tells who took a lease;
* `Traced` — an account of the leases that are held, and of the messages that were passed over;
* `passed_over_traced` — so in every course a message is passed over for a sweep, for itself, or for
  a lease that was there before;
* `passed_over_for_failed_turn` — the turn of that sweep may have failed.
-/

namespace TurnTaking

open Store Store.Access

variable {σ : Type}

/-- By the journal, the lease under the key was taken by the turn of a sweep or by one that answers a
message, and has this origin. -/
def TakenIn (journal : List JournalEntry) (k : String × String × Cell)
    (origin : String × Option String) : Prop :=
  (∃ sweep avatar, .unprompted sweep avatar ∈ journal ∧
      k = Lease.rowKey sweep.channelId avatar sweep.tick ∧ origin = Lease.Origin.ambient.stored) ∨
    ∃ channel avatar tick message tier, .answering channel avatar tick message tier ∈ journal ∧
      k = Lease.rowKey channel avatar tick ∧ origin = (tier.leaseMode.name, some message)

theorem TakenIn.mono {journal journal' : List JournalEntry} {k : String × String × Cell}
    {origin : String × Option String} (h : TakenIn journal k origin) (hsub : journal ⊆ journal') :
    TakenIn journal' k origin := by
  rcases h with ⟨sweep, avatar, hmem, hk, ho⟩ | ⟨channel, avatar, tick, message, tier, hmem, hk, ho⟩
  · exact Or.inl ⟨sweep, avatar, hsub hmem, hk, ho⟩
  · exact Or.inr ⟨channel, avatar, tick, message, tier, hsub hmem, hk, ho⟩

/-- Of what was noted, against the leases before and after. -/
structure Traced (new : List JournalEntry) (before after : Tables) : Prop where
  /-- A lease that is held was held before, or taken since. -/
  held : ∀ k origin, after.leaseOrigin k = some origin →
    before.leaseOrigin k = some origin ∨ TakenIn new k origin
  /-- A message that was passed over met a lease that blocks it, and that was held before or taken in
  the meantime. -/
  passed : ∀ later earlier channel avatar tick message,
    new = later ++ .passedOver channel avatar tick message :: earlier →
      ∃ origin, Engine.Blocks message origin ∧
        (before.leaseOrigin (Lease.rowKey channel avatar tick) = some origin ∨
          TakenIn earlier (Lease.rowKey channel avatar tick) origin)

namespace Traced

variable {new new' : List JournalEntry} {before mid after : Tables}

/-- Where nobody was passed over, it is enough to account for the leases. -/
theorem of_held (hpassed : ∀ channel avatar tick message, .passedOver channel avatar tick message ∉ new)
    (hheld : ∀ k origin, after.leaseOrigin k = some origin →
      before.leaseOrigin k = some origin ∨ TakenIn new k origin) : Traced new before after where
  held := hheld
  passed later earlier channel avatar tick message hnew := by
    have hmem : .passedOver channel avatar tick message ∈ new := by
      rw [hnew]
      exact List.mem_append_right _ List.mem_cons_self
    exact absurd hmem (hpassed channel avatar tick message)

theorem trans (h : Traced new before mid) (h' : Traced new' mid after) :
    Traced (new' ++ new) before after where
  held k origin hk := by
    rcases h'.held k origin hk with hmid | htaken
    · rcases h.held k origin hmid with hbefore | htaken
      · exact Or.inl hbefore
      · exact Or.inr (htaken.mono (List.subset_append_right new' new))
    · exact Or.inr (htaken.mono (List.subset_append_left new' new))
  passed later earlier channel avatar tick message hsplit := by
    -- the message was passed over in the first part or in the second
    rcases List.append_eq_append_iff.mp hsplit with ⟨rest, -, hnew⟩ | ⟨rest, hnew', hrest⟩
    · exact h.passed rest earlier channel avatar tick message hnew
    · cases rest with
      | nil => exact h.passed [] earlier channel avatar tick message hrest.symm
      | cons entry between =>
        obtain ⟨rfl, rfl⟩ := List.cons.inj hrest
        obtain ⟨origin, hblocks, hheld | htaken⟩ := h'.passed later between channel avatar tick message hnew'
        · -- it met a lease from before the second part
          refine ⟨origin, hblocks, ?_⟩
          rcases h.held _ origin hheld with hbefore | htaken
          · exact Or.inl hbefore
          · exact Or.inr (htaken.mono (List.subset_append_right between new))
        · exact ⟨origin, hblocks, Or.inr (htaken.mono (List.subset_append_left between new))⟩

end Traced

/-- What was noted between two worlds traces their leases. -/
def Tracing (w w' : World σ) : Prop :=
  ∃ new, w'.journal = new ++ w.journal ∧ Traced new w.store.tables w'.store.tables

namespace Tracing

theorem grows {w w' : World σ} (h : Tracing w w') : w.journal <:+ w'.journal := by
  obtain ⟨new, hj, -⟩ := h
  exact ⟨new, hj.symm⟩

/-- Where nothing was noted, it is enough that no lease was taken. -/
theorem of_held {w w' : World σ} (hj : w'.journal = w.journal)
    (hheld : ∀ k origin, w'.store.tables.leaseOrigin k = some origin →
      w.store.tables.leaseOrigin k = some origin) : Tracing w w' :=
  ⟨[], hj, .of_held (fun _ _ _ _ => List.not_mem_nil) fun k origin hk => Or.inl (hheld k origin hk)⟩

theorem chains : Chains (Tracing : World σ → World σ → Prop) where
  refl _ := of_held rfl fun _ _ hk => hk
  trans := by
    rintro u v w ⟨new, hv, hnew⟩ ⟨new', hw, hnew'⟩
    refine ⟨new' ++ new, ?_, hnew.trans hnew'⟩
    rw [hw, hv, List.append_assoc]

theorem calm : Calm Tables.leaseOrigin (Tracing : World σ → World σ → Prop) where
  toChains := chains
  unseen hstore hstill := of_held hstill.journal fun k origin hk => by
    rw [← hk, hstore.view]

/-- An entry of which no message was passed over. -/
theorem note {entry : JournalEntry}
    (hentry : ∀ channel avatar tick message, entry ≠ .passedOver channel avatar tick message) :
    Keeps Tracing (TurnTaking.note entry : Act σ Unit) := by
  intro w
  refine ⟨[entry], rfl, .of_held ?_ fun _ _ hk => Or.inl hk⟩
  intro channel avatar tick message hmem
  exact hentry channel avatar tick message (List.mem_singleton.mp hmem).symm

/-- A lease that was taken, with the note by whom. -/
theorem taken {w : World σ} {s : Store} {k : String × String × Cell} {origin : Lease.Origin}
    {entry : JournalEntry}
    (hentry : ∀ channel avatar tick message, entry ≠ .passedOver channel avatar tick message)
    (htaken : Lease.Taken k origin w.store.tables s.tables) (hsaid : TakenIn [entry] k origin.stored) :
    Tracing w ({ w with store := s }.noted entry) := by
  refine ⟨[entry], rfl, .of_held ?_ ?_⟩
  · intro channel avatar tick message hmem
    exact hentry channel avatar tick message (List.mem_singleton.mp hmem).symm
  · intro k' o hk'
    by_cases hkey : k' = k
    · subst hkey
      obtain rfl := Option.some.inj (htaken.stored.symm.trans hk')
      exact Or.inr hsaid
    · left
      rw [← htaken.apart k' hkey]
      exact hk'

/-- The note that a message was passed over, where a lease blocks it. -/
theorem passedOver {w : World σ} {channel avatar message : String} {tick : Nat}
    {origin : String × Option String} (hblocks : Engine.Blocks message origin)
    (hheld : w.store.tables.leaseOrigin (Lease.rowKey channel avatar tick) = some origin) :
    Tracing w (w.noted (.passedOver channel avatar tick message)) := by
  refine ⟨[_], rfl, ⟨fun _ _ hk => Or.inl hk, ?_⟩⟩
  intro later earlier channel' avatar' tick' message' hsplit
  cases later with
  | nil =>
    obtain ⟨hentry, -⟩ := List.cons.inj hsplit
    obtain ⟨rfl, rfl, rfl, rfl⟩ := JournalEntry.passedOver.inj hentry
    exact ⟨origin, hblocks, Or.inl hheld⟩
  | cons entry later =>
    have hlen := congrArg List.length hsplit
    simp at hlen

end Tracing

/-! ## What an engine does -/

namespace Engine

variable {e : Engine σ}

/-- A turn takes no lease and passes nobody over. -/
theorem runTurn_tracing (h : e.Served Tables.leaseOrigin Tracing) (r : Turn.Request) :
    Keeps Tracing (e.runTurn r) := by
  refine h.runTurn (fun _ _ => rfl) ?_ fun o => ?_
  · exact Tracing.note fun _ _ _ _ => JournalEntry.noConfusion
  · exact Tracing.note fun _ _ _ _ => JournalEntry.noConfusion

/-- The decision on a lease that does not take it changes no lease. -/
theorem untaken_tracing {w : World σ} {s : Store} (hleases : s.tables.leases = w.store.tables.leases) :
    Tracing w { w with store := s } := by
  refine .of_held rfl fun k origin hk => ?_
  rw [← hk, Tables.leaseOrigin, Tables.leaseOrigin, hleases]

variable {channel : String} {message : Option Message} {context : CoordinationContext} {s : Selection}
  {w w₁ w₂ : World σ}

/-- Up to its note, a selection that is answered has taken its lease, or no lease was taken. -/
theorem answering_tracing {lease : Option Lease.Guard}
    (hlease : (e.leaseSelection channel message s context.leaseTick).run.run w =
      (.ok (lease.elim .proceed .leased), w₁))
    (hnoted : (w₂ = w₁ ∧ (context.leaseTick = none ∨ message = none)) ∨
      ∃ tick m, context.leaseTick = some tick ∧ message = some m ∧
        w₂ = w₁.noted (.answering channel s.avatar.id tick m.id s.tier)) : Tracing w w₂ := by
  rcases run_leaseSelection hlease with ⟨-, rfl, hnone⟩ | ⟨tick, m, htick, rfl, hdecided⟩
  · rcases hnoted with ⟨rfl, -⟩ | ⟨tick, m, htick, hm, -⟩
    · exact Tracing.chains.refl _
    · rcases hnone with hnone | hnone
      · cases htick.symm.trans hnone
      · cases hm.symm.trans hnone
  · rcases hnoted with ⟨-, hnone | hnone⟩ | ⟨tick', m', htick', hm, rfl⟩
    · cases htick.symm.trans hnone
    · cases hnone
    · obtain rfl := Option.some.inj (htick.symm.trans htick')
      obtain rfl := Option.some.inj hm
      have hentry : ∀ c a t i, JournalEntry.answering channel s.avatar.id tick m.id s.tier ≠
          .passedOver c a t i := fun _ _ _ _ => JournalEntry.noConfusion
      obtain ⟨s', rfl, -, ⟨-, -, htaken⟩ | ⟨hleases, -⟩ | ⟨-, hleases, -⟩⟩ :=
        run_leaseForMessage hdecided
      · refine Tracing.taken hentry htaken (Or.inr ?_)
        exact ⟨channel, s.avatar.id, tick, m.id, s.tier, List.mem_singleton_self _, rfl, rfl⟩
      · exact Tracing.chains.trans (untaken_tracing hleases) (Tracing.note hentry _)
      · exact Tracing.chains.trans (untaken_tracing hleases) (Tracing.note hentry _)

/-- A selection that is passed over met a lease that blocks its message. -/
theorem passedOver_tracing {tick : Nat} {m : Message}
    (hlease : (e.leaseSelection channel (some m) s (some tick)).run.run w = (.ok .skip, w₁)) :
    Tracing w (w₁.noted (.passedOver channel s.avatar.id tick m.id)) := by
  obtain ⟨s', rfl, -, ⟨hx, -⟩ | ⟨hleases, -, origin, horigin, hholder⟩ | ⟨⟨f, hx⟩, -⟩⟩ :=
    run_leaseForMessage hlease
  · cases hx
  · rcases hholder with ⟨-, -, hblocks⟩ | ⟨hx, -⟩
    · have hheld : s'.tables.leaseOrigin (Lease.rowKey channel s.avatar.id tick) = some origin := by
        rw [← horigin, Tables.leaseOrigin, hleases]
        rfl
      exact Tracing.chains.trans (untaken_tracing hleases) (Tracing.passedOver hblocks hheld)
    · cases hx
  · cases hx

/-- A selection whose lease cannot be decided on takes none. -/
theorem undecided_tracing {f : Fault}
    (hlease : (e.leaseSelection channel message s context.leaseTick).run.run w = (.error f, w₁)) :
    Tracing w w₁ := by
  rcases run_leaseSelection hlease with ⟨hx, -⟩ | ⟨tick, m, -, -, hdecided⟩
  · cases hx
  · obtain ⟨s', rfl, -, ⟨hx, -⟩ | ⟨hleases, -⟩ | ⟨-, hleases, -⟩⟩ := run_leaseForMessage hdecided
    · cases hx
    · exact untaken_tracing hleases
    · exact untaken_tracing hleases

/-- A selection is answered under the lease that was taken for it, beside one that does not block it, or
is passed over for one that does. -/
theorem respond_tracing (h : e.Served Tables.leaseOrigin Tracing) (channel : String)
    (message : Option Message) (trigger : Trigger) (key : String) (context : CoordinationContext)
    (s : Selection) : Keeps Tracing (e.respond channel message trigger key context s) := by
  intro w
  rcases hrun : (e.respond channel message trigger key context s).run w with ⟨response, w'⟩
  obtain ⟨decision, w₁, hlease, hrest⟩ := run_respond hrun
  rcases hrest with ⟨-, ⟨f, rfl⟩, rfl⟩ | ⟨-, rfl, tick, m, htick, rfl, rfl⟩ | ⟨lease, rfl, hrest⟩
  · exact undecided_tracing hlease
  · rw [htick] at hlease
    exact passedOver_tracing hlease
  · obtain ⟨w₂, hanswer, hnoted⟩ := run_respondLeased hrest
    have hkeep : Keeps Tracing (e.answer channel message trigger key context.depth s lease) :=
      h.answer leaseOrigin_settling (runTurn_tracing h _) lease
    have hlast := hkeep w₂
    rw [hanswer] at hlast
    exact h.trans (answering_tracing hlease hnoted) hlast

/-- A sweep's turn is noted with its lease, or nothing is taken. -/
theorem runAmbientTurn_tracing (h : e.Served Tables.leaseOrigin Tracing) (sweep : Sweep) (a : Avatar) :
    Keeps Tracing (e.runAmbientTurn sweep a).run := by
  intro w
  rcases hrun : (e.runAmbientTurn sweep a).run.run w with ⟨x, w'⟩
  obtain ⟨s, -, ⟨o, v, -, htaken, hran, rfl⟩ | ⟨rfl, hleases, -⟩⟩ := run_runAmbientTurn hrun
  · have hnoted : Tracing w ({ w with store := s }.noted (.unprompted sweep a.id)) := by
      refine Tracing.taken (fun _ _ _ _ => JournalEntry.noConfusion) htaken (Or.inl ?_)
      exact ⟨sweep, a.id, List.mem_singleton_self _, rfl, rfl⟩
    have hturn := runTurn_tracing h (ambientRequest sweep a)
      ({ w with store := s }.noted (.unprompted sweep a.id))
    rw [hran] at hturn
    exact h.trans hnoted (h.trans hturn (h.settleLease leaseOrigin_settling _ o v))
  · exact untaken_tracing hleases

/-- An engine traces leases as soon as its services do. -/
theorem tracing (hservice : ∀ call w, Tracing w (e.outside.after call w)) :
    e.Upholds Tables.leaseOrigin Tracing := by
  have hserved : e.Served Tables.leaseOrigin Tracing :=
    .of_services Tracing.calm leaseOrigin_side (fun _ _ => rfl) hservice
  have hticks : Relation.ticks.Hidden Tables.leaseOrigin := fun _ _ => rfl
  exact {
    hserved.toAided with
    grows := Tracing.grows
    hear := fun _ _ _ => hserved.hear _ _ _ _
    peek := fun channel now => hserved.onStore (Tick.peek_frames hticks channel now)
    openTick := hserved.openTick hticks fun _ => Tracing.note fun _ _ _ _ => JournalEntry.noConfusion
    selected := fun _ _ => Tracing.note fun _ _ _ _ => JournalEntry.noConfusion
    respond := respond_tracing hserved
    ambientTurn := fun sweep a => (runAmbientTurn_tracing hserved sweep a).once }

end Engine

/-! ## Courses -/

/-- Nobody from outside takes a lease or writes the journal. Leases may expire and be purged. -/
structure NoLeaseTaken (w w' : World σ) : Prop where
  journal : w'.journal = w.journal
  leases : ∀ k origin, w'.store.tables.leaseOrigin k = some origin →
    w.store.tables.leaseOrigin k = some origin

/-- Every course leaves a trace of its leases. -/
theorem Course.tracing {w w' : World σ} (course : Course (fun _ => True) NoLeaseTaken w w') :
    Tracing w w' := by
  refine course.within Tables.leaseOrigin Tracing.chains ?_ fun e _ hservice => e.tracing hservice
  intro v v' h
  exact .of_held h.journal h.leases

/-- A lease that blocks a message and was taken in a course was taken for it, or by a sweep. -/
theorem TakenIn.blocking {journal : List JournalEntry} {channel avatar message : String} {tick : Nat}
    {origin : String × Option String} (h : TakenIn journal (Lease.rowKey channel avatar tick) origin)
    (hblocks : Engine.Blocks message origin) :
    (∃ sweep, sweep.channelId = channel ∧ ofWord sweep.tick = ofWord tick ∧
        .unprompted sweep avatar ∈ journal) ∨
      ∃ tick' tier, ofWord tick' = ofWord tick ∧ .answering channel avatar tick' message tier ∈ journal := by
  rcases h with ⟨sweep, a, hmem, hkey, -⟩ | ⟨c, a, t, m, tier, hmem, hkey, rfl⟩
  · obtain ⟨hchannel, hrest⟩ := Prod.mk.inj hkey
    obtain ⟨rfl, htick⟩ := Prod.mk.inj hrest
    exact Or.inl ⟨sweep, hchannel.symm, (Cell.number.inj htick).symm, hmem⟩
  · obtain ⟨rfl, hrest⟩ := Prod.mk.inj hkey
    obtain ⟨rfl, htick⟩ := Prod.mk.inj hrest
    rcases hblocks with hambient | hsame
    · -- no message is answered in a sweep's name
      exact absurd (Engine.name_eq_ambient.mp hambient) (Engine.leaseMode_ne_ambient tier)
    · obtain rfl := Option.some.inj hsame
      exact Or.inr ⟨t, tier, (Cell.number.inj htick).symm, hmem⟩

/-- In every course of engines, whatever its order, however operations are nested in services and whatever
statements fail, as long as nobody else takes leases: a message that is passed over finds the lease of a
sweep of that tick or its own, taken before in the course or held from the outset. Conversely, wherever
the course may lead and no statement fails, a selection that does not take precedence is passed over
exactly if such a lease is held, however far its turn has come and however it ended; the lease of another
message is no obstacle. -/
theorem passed_over_traced {w w' : World σ} (course : Course (fun _ => True) NoLeaseTaken w w') :
    (∀ later earlier channel avatar tick message,
      w'.since w = later ++ .passedOver channel avatar tick message :: earlier →
        (∃ sweep, sweep.channelId = channel ∧ ofWord sweep.tick = ofWord tick ∧
            .unprompted sweep avatar ∈ earlier) ∨
          (∃ tick' tier, ofWord tick' = ofWord tick ∧
            .answering channel avatar tick' message tier ∈ earlier) ∨
          ∃ origin, w.store.tables.leaseOrigin (Lease.rowKey channel avatar tick) = some origin ∧
            Engine.Blocks message origin) ∧
    ∀ (e : Engine σ) (channel : String) (m : Message) (s : Selection) (tick : Nat),
      s.tier.leaseMode ≠ .priority →
        let decided := (e.leaseSelection channel (some m) s (some tick)).run.run w'
        decided.2.store.failures = w'.store.failures →
          (decided.1 = .ok .skip ↔
            ∃ origin, w'.store.tables.leaseOrigin (Lease.rowKey channel s.avatar.id tick) = some origin ∧
              Engine.Blocks m.id origin) := by
  obtain ⟨new, hj, hnew⟩ := course.tracing
  rw [World.since_eq hj]
  constructor
  · intro later earlier channel avatar tick message hsplit
    obtain ⟨origin, hblocks, hheld | htaken⟩ :=
      hnew.passed later earlier channel avatar tick message hsplit
    · exact Or.inr (Or.inr ⟨origin, hheld, hblocks⟩)
    · rcases htaken.blocking hblocks with hsweep | hmessage
      · exact Or.inl hsweep
      · exact Or.inr (Or.inl hmessage)
  · intro e channel m s tick hlesser decided hok
    have hrun : (e.leaseForMessage channel s.avatar.id tick m s.tier.leaseMode).run.run w' =
        (decided.1, decided.2) := rfl
    obtain ⟨s', hstore, -, ⟨hx, -, htaken⟩ | ⟨-, -, origin, horigin, hholder⟩ | ⟨-, -, hfailed⟩⟩ :=
      Engine.run_leaseForMessage hrun
    · -- the lease was free
      rw [hx, htaken.vacant]
      constructor
      · intro hskip
        cases hskip
      · rintro ⟨origin, hnone, -⟩
        cases hnone
    · rw [horigin]
      rcases hholder with ⟨hx, -, hblocks⟩ | ⟨hx, hpriority | hfree⟩
      · rw [hx]
        exact ⟨fun _ => ⟨origin, rfl, hblocks⟩, fun _ => rfl⟩
      · exact absurd hpriority hlesser
      · rw [hx]
        constructor
        · intro hskip
          cases hskip
        · rintro ⟨origin', hsame, hblocks⟩
          obtain rfl := Option.some.inj hsame
          exact absurd hblocks hfree
    · rw [hstore] at hok
      exact absurd hok (Nat.ne_of_gt hfailed)

/-- A channel after a sweep whose turn failed. -/
def World.spoilt : World Unit :=
  (Operation.channelTick "c" 4).after (.standard .wordless) (.ofTables .threaded ())

/-- The lease that the sweep left, with the reason why its turn failed. -/
theorem World.spoilt_lease :
    Table.lookup LeaseRow.key (Lease.rowKey "c" "ada" 1) (World.spoilt.store.tables.leases.getD []) =
      some ⟨"c", "ada", .number 1, "failed", "ambient", .number 0, .number 600000, none, none,
        some "Generation error: no text", some (.number 0)⟩ := by
  decide +kernel

/-- A message comes to the tick of that sweep. The turn would be that of the avatar whose lease has
failed, and is passed over. -/
theorem passed_over_traced_failed :
    let w : World Unit := .ofTables .threaded ()
    let w₂ := (Operation.message "c" (Message.human "m" "c" "u" "?" 0)).after
      (.standard (.plain Avatar.pair "")) World.spoilt
    w₂.since w = .passedOver "c" "ada" 1 "m" :: (w₂.since w).tail ∧
      ((∃ sweep : Sweep, sweep.channelId = "c" ∧ ofWord sweep.tick = ofWord 1 ∧
          .unprompted sweep "ada" ∈ (w₂.since w).tail) ∨
        (∃ tick' tier, ofWord tick' = ofWord 1 ∧
          .answering "c" "ada" tick' "m" tier ∈ (w₂.since w).tail) ∨
        ∃ origin, w.store.tables.leaseOrigin (Lease.rowKey "c" "ada" 1) = some origin ∧
          Engine.Blocks "m" origin) := by
  intro w w₂
  have hwordless : ∀ call (v : World Unit), Course (fun _ => True) NoLeaseTaken v
      (Collaborators.wordless.after call v) := by
    intro call v
    have hsame : Collaborators.wordless.after call v = v := by
      cases call <;> rfl
    rw [hsame]
    exact .outside ⟨rfl, fun _ _ h => h⟩
  have hplain : ∀ call (v : World Unit), Course (fun _ => True) NoLeaseTaken v
      ((Collaborators.plain Avatar.pair "").after call v) := by
    intro call v
    rw [Collaborators.after_plain]
    exact .outside ⟨rfl, fun _ _ h => h⟩
  have hsweep : Course (fun _ => True) NoLeaseTaken w World.spoilt :=
    .operation (e := .standard .wordless) (.channelTick "c" 4) w trivial hwordless
  have hmessage : Course (fun _ => True) NoLeaseTaken World.spoilt w₂ :=
    .operation (e := .standard (.plain Avatar.pair "")) (.message "c" _) World.spoilt trivial hplain
  have hjournal : w₂.since w = .passedOver "c" "ada" 1 "m" :: (w₂.since w).tail := by
    decide +kernel
  have htraced := (passed_over_traced (hsweep.append hmessage)).1
  exact ⟨hjournal, htraced [] (w₂.since w).tail "c" "ada" 1 "m" hjournal⟩

/-- It is not so that a message is passed over only for itself or for a turn of a sweep that did not
fail: the lease of a turn that failed keeps its avatar silent for the rest of the tick. -/
theorem passed_over_for_failed_turn :
    ¬ ∀ (e₁ e₂ : Engine Unit) (w : World Unit) (channel avatar : String) (budget tick : Nat)
        (m : Message),
      let w₁ := (Operation.channelTick channel budget).after e₁ w
      let w₂ := (Operation.message channel m).after e₂ w₁
      .passedOver channel avatar tick m.id ∈ w₂.since w₁ →
        ∃ row, Table.lookup LeaseRow.key (Lease.rowKey channel avatar tick)
            (w₁.store.tables.leases.getD []) = some row ∧
          (row.messageId = some m.id ∨
            row.mode = Lease.Mode.ambient.name ∧ row.status ≠ Lease.Status.failed.name) := by
  intro h
  have hpassed := h (.standard .wordless) (.standard (.plain Avatar.pair "")) (.ofTables .threaded ())
    "c" "ada" 4 1 (.human "m" "c" "u" "?" 0) (by decide +kernel)
  obtain ⟨row, hrow, hcase⟩ := hpassed
  have hlease := World.spoilt_lease
  unfold World.spoilt at hlease
  obtain rfl := Option.some.inj (hrow.symm.trans hlease)
  rcases hcase with hsame | ⟨-, hunfailed⟩
  · cases hsame
  · exact hunfailed rfl

end TurnTaking
