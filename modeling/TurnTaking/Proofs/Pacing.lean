import TurnTaking.Proofs.Cooldown
import TurnTaking.Proofs.Engine.Course
import TurnTaking.Proofs.Engine.Turn

/-!
# Pacing — the gap between messages for different triggers

The gate looks at the last bot message of the channel when a turn begins; the message of the turn is
recorded when it was sent. Between the two anything may go on, turns inside the turn included.

* `Turns` — turns one after another, and inside the calls for the texts of others;
* `Stamped` — the invariant: the store knows a message of the channel that is no earlier than any that
  was sent there, and which trigger it answered;
* `apart_unless_within` — so any two messages of a channel are the gap apart, unless one was sent while
  the other's turn was run;
* `apart_fails_within` — where one was, they need not be.
-/

namespace TurnTaking

open Store Store.Access

variable {σ : Type}

/-! ## Courses of turns -/

/-- Time may pass, and nobody says anything. -/
structure Waits (w w' : World σ) : Prop where
  clock : w.clock ≤ w'.clock
  journal : w'.journal = w.journal
  lastBot : w'.store.tables.lastBot = w.store.tables.lastBot
  failures : w.store.failures ≤ w'.store.failures

/-- The engine keeps the gap for the turn: its gate is asked for the turn, with the gap for messages of
different triggers, and nothing overrides that. -/
structure Engine.Paces (e : Engine σ) (gap : Int) (r : Turn.Request) : Prop where
  gap : e.config.gate.channelCooldownMs = gap
  gate : r.gate = some ⟨r.channelId, r.avatar.id, r.options.triggerKey, r.options.trigger, false⟩
  trigger : r.options.trigger ≠ .botMessage

/-- Turns one after another. While a text is made, there may be turns again; all other services keep
silent. -/
inductive Turns (gap : Int) : World σ → World σ → Prop
  | wait {w w'} : Waits w w' → Turns gap w w'
  | append {u v w} : Turns gap u v → Turns gap v w → Turns gap u w
  | turn {e : Engine σ} {r} (w) : e.Paces gap r →
      (∀ call, ¬ call.AsksForText → ∀ v, Waits v (e.outside.after call v)) →
      (∀ avatar channel message options v,
        Turns gap v (e.outside.after (.generate avatar channel message options) v)) →
      Turns gap w ((e.runTurn r).run w).2

/-- The turn gets its lock, is admitted and asks for its text. -/
def Engine.Asks (e : Engine σ) (r : Turn.Request) (w w' : World σ) : Prop :=
  ∃ g guard s₁ s₂, r.gate = some g ∧
    (Lock.tryGuard e.config.locks.responseLockTtlMs r.channelId r.avatar.id w.clock).Runs w.store
      (.ok (some guard)) s₁ ∧
    (Gate.enter e.config.gate g w.clock).Runs s₁ (.ok .admitted) s₂ ∧
    w' = World.noted { w with store := s₂ } (.generating r)

/-- A moment in a course at which another turn may begin: after turns, or while the text of a turn is
made. -/
inductive Underway (gap : Int) : World σ → World σ → Prop
  | course {w w'} : Turns gap w w' → Underway gap w w'
  | inside {e : Engine σ} {r u v w w'} : Turns gap w u → e.Asks r u v → Underway gap v w' →
      Underway gap w w'

/-- The message of a turn was noted. -/
def World.Heard (w : World σ) (r : Turn.Request) (s : Turn.Sent) : Prop :=
  .turn r (.responded s) ∈ w.journal

/-- While a text of the engine is made, there may be turns; all its other services keep silent. -/
structure Engine.Nests (e : Engine σ) (gap : Int) : Prop where
  services : ∀ call, ¬ call.AsksForText → ∀ v, Waits v (e.outside.after call v)
  texts : ∀ avatar channel message options v,
    Turns gap v (e.outside.after (.generate avatar channel message options) v)

/-- In a course, a turn that says the message begins in one world and ends in another. -/
structure Says (gap : Int) (w : World σ) (r : Turn.Request) (s : Turn.Sent) (u v : World σ) : Prop where
  underway : Underway gap w u
  turn : ∃ e : Engine σ, e.Paces gap r ∧ e.Nests gap ∧ (e.runTurn r).run u = (.responded s, v)

/-- In a course, the first message was sent while the turn of the second one was run. -/
def SentWithin (gap : Int) (w w' : World σ) (r : Turn.Request) (s : Turn.Sent) (r' : Turn.Request)
    (s' : Turn.Sent) : Prop :=
  ∃ u v, Says gap w r' s' u v ∧ v.journal <:+ w'.journal ∧ ¬ u.Heard r s ∧ v.Heard r s

namespace Waits

variable {u v w : World σ}

theorem chains : Chains (Waits : World σ → World σ → Prop) where
  refl _ := ⟨Int.le_refl _, rfl, rfl, Nat.le_refl _⟩
  trans h h' := ⟨Int.le_trans h.clock h'.clock, h'.journal.trans h.journal,
    h'.lastBot.trans h.lastBot, Nat.le_trans h.failures h'.failures⟩

theorem calm : Calm Tables.lastBot (Waits : World σ → World σ → Prop) where
  toChains := chains
  unseen hstore hstill :=
    ⟨Int.le_of_eq hstill.clock.symm, hstill.journal, hstore.view, hstore.failures⟩

/-- What is done to the store without a message of a bot. -/
theorem of_store {s : Store} (h : Unseen Tables.lastBot w.store s) : Waits w { w with store := s } :=
  calm.unseen h ⟨rfl, rfl, rfl⟩

theorem of_tryGuard {ttlMs now : Int} {channel avatar : String}
    {x : Except Fault (Option Lock.Guard)} {s : Store}
    (h : (Lock.tryGuard ttlMs channel avatar now).Runs w.store x s) : Waits w { w with store := s } :=
  of_store (Lock.tryGuard_frames (fun _ _ => rfl) _ _ _ _ _ _ _ h)

theorem of_enter {c : Config.Gate} {g : Gate.Request} {now : Int} {x : Except Fault Gate.Admission}
    {s : Store} (h : (Gate.enter c g now).Runs w.store x s) : Waits w { w with store := s } :=
  of_store (Gate.enter_frames (fun _ _ => rfl) _ _ _ _ _ _ h)

end Waits

/-! ## A turn -/

namespace Engine

variable {e : Engine σ} {r : Turn.Request} {w w' : World σ} {o : Turn.Outcome}

/-- A message is recorded as the last one of its channel, unless a statement fails. -/
theorem runs_recordRows {sent : Turn.Sent} {x : Except Fault Unit} {s s' : Store}
    (h : (e.recordRows r sent).Runs s x s') (hsent : 0 ≤ sent.sentAt)
    (hsound : s'.failures = s.failures) (c : String) :
    s'.tables.lastBot c =
      if c = r.channelId then
        some (Activity.laterBot (s.tables.lastBot c) r.options.triggerKey sent.sentAt)
      else s.tables.lastBot c := by
  have hpresence : Relation.presence.Hidden Tables.lastBot := fun _ _ => rfl
  have hrows : Relation.sent.Hidden Tables.lastBot := fun _ _ => rfl
  rcases runs_bind h with ⟨_, s₁, h₁, hrest⟩ | ⟨f, h₁, -⟩
  · have hturn := Presence.recordTurn_frames hpresence _ _ _ _ _ _ _ h₁
    rcases runs_bind hrest with ⟨_, s₂, h₂, h₃⟩ | ⟨f, h₂, -⟩
    · have hboth := hturn.trans (Activity.recordSent_frames hrows _ _ _ _ _ _ _ h₂)
      rcases Activity.runs_recordBot hsent h₃ with ⟨-, -, hlast⟩ | ⟨-, hfault⟩
      · rw [hlast c, hboth.view]
      · have hlt := Nat.lt_of_le_of_lt hboth.failures hfault.failures
        omega
    · rcases runs_change h₂ with ⟨_, -, hx, -⟩ | ⟨-, hfault⟩
      · cases hx
      · have hlt := Nat.lt_of_le_of_lt hturn.failures hfault.failures
        omega
  · rcases runs_change h₁ with ⟨_, -, hx, -⟩ | ⟨-, hfault⟩
    · cases hx
    · have hlt := hfault.failures
      omega

/-- The message of a turn is sent in the first world and recorded by the second. -/
structure Stamps (r : Turn.Request) (s : Turn.Sent) (w w' : World σ) : Prop where
  sentAt : s.sentAt = w.clock
  clock : w.clock ≤ w'.clock
  journal : w'.journal = w.journal
  failures : w.store.failures ≤ w'.store.failures
  lastBot : 0 ≤ w.clock → w'.store.failures = w.store.failures → ∀ c, w'.store.tables.lastBot c =
    if c = r.channelId then
      some (Activity.laterBot (w.store.tables.lastBot c) r.options.triggerKey s.sentAt)
    else w.store.tables.lastBot c

/-- What was stamped stays so while others wait. -/
theorem Stamps.waits {s : Turn.Sent} {u v : World σ} (h : Stamps r s u v) (h' : Waits v w) :
    Stamps r s u w where
  sentAt := h.sentAt
  clock := Int.le_trans h.clock h'.clock
  journal := h'.journal.trans h.journal
  failures := Nat.le_trans h.failures h'.failures
  lastBot hclock hsound := by
    have h₁ := h.failures
    have h₂ := h'.failures
    rw [h'.lastBot]
    exact h.lastBot hclock (by omega)

/-- What a turn came to by its end: it said nothing in all, or it asked for its text, and said nothing
or a message after that. -/
inductive Account (e : Engine σ) (r : Turn.Request) (w : World σ) : Turn.Outcome → World σ → Prop
  | refused {o : Turn.Outcome} {w' : World σ} : o.sent? = none → Waits w w' → Account e r w o w'
  | silent {o : Turn.Outcome} {v w' : World σ} : e.Asks r w v → o.sent? = none →
      Waits (e.outside.after (.generate r.avatar r.channelId r.message r.options) v) w' →
      Account e r w o w'
  | said {s : Turn.Sent} {v v' w' : World σ} : e.Asks r w v →
      Waits (e.outside.after (.generate r.avatar r.channelId r.message r.options) v) v' →
      Stamps r s v' w' → Account e r w (.responded s) w'

/-- What the records of a message do is counted if it fails. -/
theorem recordRows_counts (e : Engine σ) (r : Turn.Request) (sent : Turn.Sent) :
    Frames (fun _ => ()) (e.recordRows r sent) := by
  refine (Presence.recordTurn_frames (fun _ _ => rfl) _ _ _ _).bind fun _ => ?_
  refine (Activity.recordSent_frames (fun _ _ => rfl) _ _ _ _).bind fun _ => ?_
  exact Activity.recordBot_frames (fun _ _ => rfl) _ _ _

section

variable (hservices : ∀ call, ¬ call.AsksForText → ∀ v, Waits v (e.outside.after call v))

include hservices

/-- Beside the call for its text, a turn that is not yet recorded waits. -/
theorem waits_generateAndSend (h : (e.generateAndSend r).run w = (o, w')) :
    Waits (e.outside.after (.generate r.avatar r.channelId r.message r.options) w) w' := by
  rcases (run_generateAndSend h).1 with rfl | ⟨text, rfl⟩
  · exact Waits.chains.refl _
  · exact hservices _ id _

/-- A recorded turn leaves its stamp. -/
theorem stamps_recordTurn {s : Turn.Sent} (hsent : s.sentAt = w.clock) :
    Stamps r s w ((e.recordTurn r s).run w).2 := by
  obtain ⟨caches, hrun⟩ := run_recordTurn e r s w
  rw [hrun]
  refine Stamps.waits ?_ (hservices _ id _)
  have hrows := runs_after (e.recordRows r s) w.store
  exact ⟨hsent, Int.le_refl _, rfl, (recordRows_counts e r s _ _ _ hrows).failures,
    fun hclock hsound => runs_recordRows hrows (hsent ▸ hclock) hsound⟩

/-- A run of a turn is accounted for, up to the note of its end. -/
theorem run_turn_account {g : Gate.Request} (hgate : r.gate = some g)
    (h : (e.runTurn r).run w = (o, w')) :
    ∃ w₁, e.Account r w o w₁ ∧ w' = w₁.noted (.turn r o) := by
  obtain ⟨x, s₁, hlock, hrest⟩ := run_runTurn h
  have hlocked : Waits w { w with store := s₁ } := .of_tryGuard hlock
  rcases hrest with ⟨guard, w₁, rfl, hrun, rfl⟩ | ⟨-, hnone, rfl⟩
  · have hdropped : Waits w₁ { w₁ with store := guard.drop.after w₁.store } :=
      .of_store (Lock.Guard.drop_frames (fun _ _ => rfl) _ _ _ _ (runs_after _ _))
    refine ⟨_, ?_, rfl⟩
    obtain ⟨y, s₂, henter, hafter⟩ := run_runLocked hgate hrun
    have hentered : Waits { w with store := s₁ } { w with store := s₂ } := .of_enter henter
    rcases hafter with ⟨rfl, hadmitted⟩ | ⟨-, hnone, rfl⟩
    · have hsome : r.gate.isSome := by rw [hgate]; rfl
      have hasks : e.Asks r w (World.noted { w with store := s₂ } (.generating r)) :=
        ⟨g, guard, s₁, s₂, hgate, hlock, henter, rfl⟩
      obtain ⟨w₂, hgen, hend⟩ := run_runAdmitted hsome hadmitted
      have hmade := waits_generateAndSend hservices hgen
      -- a message is recorded, and an admission without one is taken back
      cases o with
      | responded s =>
        have hstamps : Stamps r s w₂ w₁ := by
          rw [show w₁ = ((e.recordTurn r s).run w₂).2 from hend]
          exact stamps_recordTurn hservices ((run_generateAndSend hgen).2 s rfl)
        exact .said hasks hmade (hstamps.waits hdropped)
      | silent | contended | rejected | failed =>
        have hrevoked : Waits w₂ w₁ := by
          rw [show w₁ = { w₂ with
            store := (Gate.revoke r.options.triggerKey r.avatar.id).after w₂.store } from hend]
          exact .of_store (Gate.revoke_frames (fun _ _ => rfl) _ _ _ _ _ (runs_after _ _))
        exact .silent hasks rfl (Waits.chains.trans hmade (Waits.chains.trans hrevoked hdropped))
    · exact .refused hnone (Waits.chains.trans hlocked (Waits.chains.trans hentered hdropped))
  · exact ⟨_, .refused hnone hlocked, rfl⟩

end

/-- Until it asks for its text, a turn waits. -/
theorem Asks.waits {v : World σ} (h : e.Asks r w v) :
    ∃ w₁, Waits w w₁ ∧ w₁.clock = w.clock ∧ v = w₁.noted (.generating r) := by
  obtain ⟨g, guard, s₁, s₂, -, hlock, henter, rfl⟩ := h
  have hlocked : Waits w { w with store := s₁ } := .of_tryGuard hlock
  have hentered : Waits { w with store := s₁ } { w with store := s₂ } := .of_enter henter
  exact ⟨_, Waits.chains.trans hlocked hentered, rfl, rfl⟩

/-- Where a turn for which a gap is kept asks for its text, its channel did not cool down when it
began. -/
theorem Asks.waited {gap : Int} {v : World σ} (h : e.Asks r w v) (hpaces : e.Paces gap r)
    (hgap : 0 < gap) :
    ¬ Gate.Cools w.store.tables gap
      ⟨r.channelId, r.avatar.id, r.options.triggerKey, r.options.trigger, false⟩ w.clock := by
  obtain ⟨g, guard, s₁, s₂, hgate, hlock, henter, -⟩ := h
  obtain rfl := Option.some.inj (hgate.symm.trans hpaces.gate)
  have hcooldown : Gate.cooldownFor e.config.gate r.options.trigger = gap := by
    rw [← hpaces.gap]
    cases htrigger : r.options.trigger with
    | botMessage => exact absurd htrigger hpaces.trigger
    | mention | humanMessage | ambient => rfl
  -- the gate is asked after the lock was taken, which it does not look at
  have hlast : s₁.tables.lastBot = w.store.tables.lastBot :=
    (Lock.tryGuard_frames (fun _ _ => rfl) _ _ _ _ _ _ _ hlock).view
  have hcools := Gate.runs_enter_cools rfl (by rw [hcooldown]; exact hgap) henter
  rw [hcooldown, Gate.Cools, hlast] at hcools
  intro hstill
  obtain ⟨remaining, hremaining⟩ := hcools.mpr hstill
  cases hremaining

end Engine

/-! ## The invariant -/

/-- The trigger keys of the messages that were noted. -/
def World.answeredKeys (w : World σ) : List String := (answers w.journal).map Prod.fst

/-- Of every channel in which a message was sent the store knows a message that is no earlier, with the
key of the trigger that it answered. -/
structure Stamped (w : World σ) : Prop where
  epoch : 0 ≤ w.clock
  timely : ∀ c time trigger, w.store.tables.lastBot c = some (time, trigger) →
    ∃ n ≤ w.clock, time = .number n
  known : ∀ r s, w.Heard r s → ∃ n key, w.store.tables.lastBot r.channelId =
    some (.number n, some key) ∧ s.sentAt ≤ n ∧ key ∈ w.answeredKeys

theorem World.heard_noted {w : World σ} {entry : JournalEntry} {r : Turn.Request} {s : Turn.Sent} :
    (w.noted entry).Heard r s ↔ entry = .turn r (.responded s) ∨ w.Heard r s := by
  rw [Heard, noted_journal, List.mem_cons, eq_comm]
  rfl

/-- Nothing is heard of an entry that is no message. -/
theorem World.heard_noted_silent {w : World σ} {entry : JournalEntry} (h : entry.answer? = none)
    {r : Turn.Request} {s : Turn.Sent} : (w.noted entry).Heard r s ↔ w.Heard r s := by
  rw [heard_noted]
  refine ⟨fun hs => hs.resolve_left ?_, .inr⟩
  rintro rfl
  cases h

namespace Stamped

variable {w w' : World σ}

theorem waits (h : Stamped w) (h' : Waits w w') : Stamped w' where
  epoch := Int.le_trans h.epoch h'.clock
  timely c time trigger hlast := by
    rw [h'.lastBot] at hlast
    obtain ⟨n, hn, rfl⟩ := h.timely c time trigger hlast
    exact ⟨n, Int.le_trans hn h'.clock, rfl⟩
  known r s hs := by
    rw [World.Heard, h'.journal] at hs
    rw [World.answeredKeys, h'.journal, h'.lastBot]
    exact h.known r s hs

/-- A note that is no answer asks for no stamp. -/
theorem noted (h : Stamped w) {entry : JournalEntry} (hentry : entry.answer? = none) :
    Stamped (w.noted entry) where
  epoch := h.epoch
  timely := h.timely
  known r s hs := by
    rw [World.answeredKeys, World.noted_journal, answers_cons_none hentry]
    exact h.known r s ((World.heard_noted_silent hentry).mp hs)

/-- A message that is sent now is no earlier than the last one that is known, and becomes the last. -/
theorem stamps (h : Stamped w) {r : Turn.Request} {s : Turn.Sent} (h' : Engine.Stamps r s w w')
    (hsound : w'.store.failures = w.store.failures) :
    Stamped (w'.noted (.turn r (.responded s))) := by
  have hself : w'.store.tables.lastBot r.channelId =
      some (.number s.sentAt, some r.options.triggerKey) := by
    rw [h'.lastBot h.epoch hsound, if_pos rfl, Activity.laterBot_of_le]
    rw [h'.sentAt]
    exact h.timely r.channelId
  have hothers : ∀ c ≠ r.channelId, w'.store.tables.lastBot c = w.store.tables.lastBot c :=
    fun c hc => (h'.lastBot h.epoch hsound c).trans (if_neg hc)
  have hsent := h'.sentAt
  have hkeys : (w'.noted (.turn r (.responded s))).answeredKeys =
      r.options.triggerKey :: w.answeredKeys := by
    rw [World.answeredKeys, World.noted_journal, answers_responded, h'.journal]
    rfl
  refine ⟨Int.le_trans h.epoch h'.clock, fun c time trigger hlast => ?_, fun r₁ s₁ hs₁ => ?_⟩
  · -- no recorded message lies ahead of the clock
    by_cases hc : c = r.channelId
    · subst hc
      obtain ⟨rfl, -⟩ := Prod.mk.inj (Option.some.inj (hlast.symm.trans hself))
      exact ⟨s.sentAt, by rw [hsent]; exact h'.clock, rfl⟩
    · obtain ⟨n, hn, rfl⟩ := h.timely c time trigger ((hothers c hc).symm.trans hlast)
      exact ⟨n, Int.le_trans hn h'.clock, rfl⟩
  · rw [hkeys]
    rcases World.heard_noted.mp hs₁ with heq | hs₁
    · -- the message of this turn is the one that is recorded
      obtain ⟨rfl, hs⟩ := JournalEntry.turn.inj heq
      obtain rfl := Turn.Outcome.responded.inj hs
      exact ⟨_, _, hself, Int.le_refl _, List.mem_cons_self⟩
    · -- an earlier message of the channel gives way to it, since it is no later
      rw [World.Heard, h'.journal] at hs₁
      obtain ⟨n, key, hlast, hn, hkey⟩ := h.known r₁ s₁ hs₁
      by_cases hc : r₁.channelId = r.channelId
      · rw [hc] at hlast ⊢
        obtain ⟨m, hm, hnumber⟩ := h.timely _ _ _ hlast
        obtain rfl := Cell.number.inj hnumber
        exact ⟨_, _, hself, by omega, List.mem_cons_self⟩
      · exact ⟨n, key, (hothers _ hc).trans hlast, hn, List.mem_cons_of_mem _ hkey⟩

end Stamped

/-- Time goes on, what was noted stays noted, no failure is forgotten, and without one the messages are
still known. -/
structure Proceeds (w w' : World σ) : Prop where
  clock : w.clock ≤ w'.clock
  grows : w.journal <:+ w'.journal
  failures : w.store.failures ≤ w'.store.failures
  stamped : w'.store.failures = w.store.failures → Stamped w → Stamped w'

namespace Proceeds

variable {u v w w' : World σ}

theorem of_waits (h : Waits w w') : Proceeds w w' where
  clock := h.clock
  grows := ⟨[], h.journal.symm⟩
  failures := h.failures
  stamped _ hw := hw.waits h

theorem chains : Chains (Proceeds : World σ → World σ → Prop) where
  refl _ := of_waits (Waits.chains.refl _)
  trans h h' := by
    have h₁ := h.failures
    have h₂ := h'.failures
    refine ⟨Int.le_trans h.clock h'.clock, h.grows.trans h'.grows, Nat.le_trans h₁ h₂,
      fun hsound hu => h'.stamped (by omega) (h.stamped (by omega) hu)⟩

theorem noted (w : World σ) {entry : JournalEntry} (h : entry.answer? = none) :
    Proceeds w (w.noted entry) where
  clock := Int.le_refl _
  grows := List.suffix_cons _ _
  failures := Nat.le_refl _
  stamped _ hw := hw.noted h

/-- A turn that left its stamp is a step of the course. -/
theorem of_stamps {r : Turn.Request} {s : Turn.Sent} (h : Engine.Stamps r s w w') :
    Proceeds w (w'.noted (.turn r (.responded s))) where
  clock := h.clock
  grows := by
    rw [World.noted_journal, h.journal]
    exact List.suffix_cons _ _
  failures := h.failures
  stamped hsound hw := hw.stamps h hsound

/-- A turn that asks for its text is a step of the course. -/
theorem of_asks {e : Engine σ} {r : Turn.Request} (h : e.Asks r w v) : Proceeds w v := by
  obtain ⟨w₁, hwaits, -, rfl⟩ := h.waits
  exact chains.trans (of_waits hwaits) (noted w₁ rfl)

end Proceeds

/-- What a turn does proceeds, if what goes on while its text is made does. -/
theorem Engine.Account.proceeds {e : Engine σ} {r : Turn.Request} {w w' : World σ} {o : Turn.Outcome}
    (h : e.Account r w o w')
    (hmade : ∀ v, Proceeds v
      (e.outside.after (.generate r.avatar r.channelId r.message r.options) v)) :
    Proceeds w (w'.noted (.turn r o)) := by
  cases h with
  | refused hnone hwaits =>
    exact Proceeds.chains.trans (.of_waits hwaits) (.noted _ (answer?_turn hnone))
  | silent hasks hnone hwaits =>
    refine Proceeds.chains.trans (.of_asks hasks) (Proceeds.chains.trans (hmade _) ?_)
    exact Proceeds.chains.trans (.of_waits hwaits) (.noted _ (answer?_turn hnone))
  | said hasks hwaits hstamps =>
    refine Proceeds.chains.trans (.of_asks hasks) (Proceeds.chains.trans (hmade _) ?_)
    exact Proceeds.chains.trans (.of_waits hwaits) (.of_stamps hstamps)

/-- Turns one after the other are steps of the course. -/
theorem Turns.proceeds {gap : Int} {w w' : World σ} (course : Turns gap w w') : Proceeds w w' := by
  induction course with
  | wait h => exact .of_waits h
  | append _ _ ih₁ ih₂ => exact Proceeds.chains.trans ih₁ ih₂
  | @turn e r w hpaces hservices _ ih =>
    rcases hrun : (e.runTurn r).run w with ⟨o, w'⟩
    obtain ⟨w₁, haccount, rfl⟩ := Engine.run_turn_account hservices hpaces.gate hrun
    exact haccount.proceeds fun v => ih _ _ _ _ v

namespace Underway

variable {gap : Int} {u v w : World σ}

/-- What is under way is a step of the course. -/
theorem proceeds (h : Underway gap w u) : Proceeds w u := by
  induction h with
  | course h => exact h.proceeds
  | inside hturns hasks _ ih =>
    exact Proceeds.chains.trans hturns.proceeds (Proceeds.chains.trans (.of_asks hasks) ih)

/-- What is underway after some turns is underway from their beginning. -/
theorem after (h : Turns gap u v) (h' : Underway gap v w) : Underway gap u w := by
  cases h' with
  | course hturns => exact .course (.append h hturns)
  | inside hturns hasks hrest => exact .inside (.append h hturns) hasks hrest

end Underway

/-! ## Messages and their turns -/

/-- Where in a course a message was said: its turn began in one world and ended in another, from which
the course went on. -/
structure Placed (gap : Int) (w w' : World σ) (r : Turn.Request) (s : Turn.Sent) (u v : World σ) :
    Prop where
  spoken : Says gap w r s u v
  during : Proceeds u v
  later : Proceeds v w'
  ended : ∃ between, v.journal = .turn r (.responded s) :: between ∧ u.journal <:+ between
  begun : u.clock ≤ s.sentAt
  waited : 0 < gap → ¬ Gate.Cools u.store.tables gap
    ⟨r.channelId, r.avatar.id, r.options.triggerKey, r.options.trigger, false⟩ u.clock

/-- A place within a stretch is one within a longer stretch. -/
theorem Placed.widen {gap : Int} {w₁ w₂ w₃ w₄ : World σ} {r : Turn.Request} {s : Turn.Sent}
    {u v : World σ} (h : Placed gap w₂ w₃ r s u v) (hbefore : Underway gap w₂ u → Underway gap w₁ u)
    (hafter : Proceeds w₃ w₄) : Placed gap w₁ w₄ r s u v where
  spoken := ⟨hbefore h.spoken.underway, h.spoken.turn⟩
  during := h.during
  later := Proceeds.chains.trans h.later hafter
  ended := h.ended
  begun := h.begun
  waited := h.waited

/-- Every message of a course was said by a turn in it. -/
theorem Turns.placed {gap : Int} {w w' : World σ} (course : Turns gap w w') {r : Turn.Request}
    {s : Turn.Sent} (h : w'.Heard r s) : w.Heard r s ∨ ∃ u v, Placed gap w w' r s u v := by
  induction course with
  | wait hwaits =>
    rw [World.Heard, hwaits.journal] at h
    exact .inl h
  | @append w₁ w₂ w₃ h₁ h₂ ih₁ ih₂ =>
    rcases ih₂ h with hearlier | ⟨u, v, hplaced⟩
    · -- it was heard before the second part began
      rcases ih₁ hearlier with hearlier | ⟨u, v, hplaced⟩
      · exact .inl hearlier
      · exact .inr ⟨u, v, hplaced.widen id h₂.proceeds⟩
    · -- it was said in the second part
      exact .inr ⟨u, v, hplaced.widen (Underway.after h₁) (Proceeds.chains.refl _)⟩
  | @turn e r₀ w hpaces hservices hturns ih =>
    -- one turn, with whatever goes on while its text is made
    rcases hrun : (e.runTurn r₀).run w with ⟨o, w'⟩
    rw [hrun] at h
    obtain ⟨w₁, haccount, rfl⟩ := Engine.run_turn_account hservices hpaces.gate hrun
    -- a message that was heard while the text was made belongs to a turn inside
    have hinside : ∀ {v₁}, e.Asks r₀ w v₁ →
        World.Heard (e.outside.after (.generate r₀.avatar r₀.channelId r₀.message r₀.options) v₁) r s →
        Proceeds (e.outside.after (.generate r₀.avatar r₀.channelId r₀.message r₀.options) v₁)
          (w₁.noted (.turn r₀ o)) →
        w.Heard r s ∨ ∃ u v, Placed gap w (w₁.noted (.turn r₀ o)) r s u v := by
      intro v₁ hasks hheard hlater
      rcases ih _ _ _ _ v₁ hheard with hearlier | ⟨u, v, hplaced⟩
      · obtain ⟨w₂, hwaits, -, rfl⟩ := hasks.waits
        rw [World.heard_noted_silent rfl, World.Heard, hwaits.journal] at hearlier
        exact .inl hearlier
      · exact .inr ⟨u, v, hplaced.widen (.inside (.wait (Waits.chains.refl w)) hasks) hlater⟩
    cases haccount with
    | refused hnone hwaits =>
      rw [World.heard_noted_silent (answer?_turn hnone), World.Heard, hwaits.journal] at h
      exact .inl h
    | silent hasks hnone hwaits =>
      have hlater := Proceeds.chains.trans (.of_waits hwaits)
        (.noted w₁ (answer?_turn (r := r₀) hnone))
      rw [World.heard_noted_silent (answer?_turn hnone), World.Heard, hwaits.journal] at h
      exact hinside hasks h hlater
    | @said s₀ v₁ v₂ _ hasks hwaits hstamps =>
      have hlater := Proceeds.chains.trans (.of_waits hwaits) (.of_stamps hstamps)
      rcases World.heard_noted.mp h with heq | hearlier
      · -- it is the message of the turn itself
        obtain ⟨rfl, hs⟩ := JournalEntry.turn.inj heq
        obtain rfl := Turn.Outcome.responded.inj hs
        have hbefore := Proceeds.chains.trans (.of_asks hasks)
          (Proceeds.chains.trans (Turns.proceeds (hturns _ _ _ _ v₁)) (.of_waits hwaits))
        have hsays : Says gap w r₀ s₀ w (w₁.noted (.turn r₀ (.responded s₀))) :=
          ⟨.course (.wait (Waits.chains.refl w)), e, hpaces, ⟨hservices, hturns⟩, hrun⟩
        refine .inr ⟨w, _, hsays, Proceeds.chains.trans hbefore (.of_stamps hstamps),
          Proceeds.chains.refl _, ⟨_, rfl, ?_⟩, ?_, hasks.waited hpaces⟩
        · rw [hstamps.journal]
          exact hbefore.grows
        · rw [hstamps.sentAt]
          exact hbefore.clock
      · -- it was heard before that
        rw [World.Heard, hstamps.journal, hwaits.journal] at hearlier
        exact hinside hasks hearlier hlater

/-- Where one message was heard before the turn of another one began, and each trigger was answered at
most once, they are the gap apart. -/
theorem Placed.apart {gap : Int} {w w' : World σ} {r r' : Turn.Request} {s s' : Turn.Sent}
    {u v : World σ} (h : Placed gap w w' r' s' u v) (hstamped : Stamped w)
    (hsound : w'.store.failures = w.store.failures) (honce : w'.answeredKeys.Nodup)
    (hheard : u.Heard r s) (hchannel : r.channelId = r'.channelId) : s.sentAt + gap ≤ s'.sentAt := by
  have h₁ := h.spoken.underway.proceeds
  have h₂ := h.during.failures
  have h₃ := h.later.failures
  have hu : Stamped u := by
    have h₄ := h₁.failures
    exact h₁.stamped (by omega) hstamped
  obtain ⟨n, key, hlast, hn, hkey⟩ := hu.known r s hheard
  obtain ⟨m, hm, hnumber⟩ := hu.timely _ _ _ hlast
  obtain rfl := Cell.number.inj hnumber
  have hbegun := h.begun
  -- the message known to the store when the turn began answered another trigger, as this turn answered
  -- the one it is run for and none is answered twice
  have hother : key ≠ r'.options.triggerKey := by
    rintro rfl
    obtain ⟨between, hv, hbetween⟩ := h.ended
    have hlater : (r'.options.triggerKey :: (answers between).map Prod.fst).Nodup := by
      obtain ⟨later, hw'⟩ := h.later.grows
      rw [World.answeredKeys, ← hw', answers_append, List.map_append, hv, answers_responded] at honce
      exact (List.nodup_append.mp honce).2.1
    refine (List.nodup_cons.mp hlater).1 ?_
    obtain ⟨new, rfl⟩ := hbetween
    rw [answers_append, List.map_append]
    exact List.mem_append_right _ hkey
  by_cases hgap : 0 < gap
  · have hlong : gap ≤ u.clock - n := by
      apply Int.not_lt.mp
      intro hclose
      exact h.waited hgap
        ⟨n, some key, hchannel ▸ hlast, fun hk => hother (Option.some.inj hk), hclose⟩
    omega
  · omega

/-- In every course of turns without overrides that start where nothing was noted and the store knows no
message of the future: if no statement fails and each trigger is answered at most once, then any two
messages of a channel are the gap apart, unless one was sent while the turn of the other was run. -/
theorem apart_unless_within {gap : Int} {w w' : World σ} (course : Turns gap w w')
    (hstart : w.journal = []) (hepoch : 0 ≤ w.clock)
    (htimely : ∀ c time trigger, w.store.tables.lastBot c = some (time, trigger) →
      ∃ n ≤ w.clock, time = .number n)
    (hsound : w'.store.failures = w.store.failures) (honce : w'.answeredKeys.Nodup)
    {r r' : Turn.Request} {s s' : Turn.Sent} (h : w'.Heard r s) (h' : w'.Heard r' s')
    (hchannel : r.channelId = r'.channelId) :
    s.sentAt + gap ≤ s'.sentAt ∨ s'.sentAt + gap ≤ s.sentAt ∨
      SentWithin gap w w' r s r' s' ∨ SentWithin gap w w' r' s' r s := by
  have hnone : ∀ r s, ¬ w.Heard r s := by
    intro r s hheard
    rw [World.Heard, hstart] at hheard
    cases hheard
  have hstamped : Stamped w := ⟨hepoch, htimely, fun r s hheard => absurd hheard (hnone r s)⟩
  obtain ⟨u, v, hplaced⟩ := (course.placed h).resolve_left (hnone r s)
  obtain ⟨u', v', hplaced'⟩ := (course.placed h').resolve_left (hnone r' s')
  by_cases hbefore : u'.Heard r s
  · exact .inl (hplaced'.apart hstamped hsound honce hbefore hchannel)
  by_cases hafter : u.Heard r' s'
  · exact .inr (.inl (hplaced.apart hstamped hsound honce hafter hchannel.symm))
  -- neither turn began after the other message: the one that ended first was run within the other
  have hv : v.Heard r s := by
    obtain ⟨between, hv, -⟩ := hplaced.ended
    rw [World.Heard, hv]
    exact List.mem_cons_self
  have hv' : v'.Heard r' s' := by
    obtain ⟨between, hv, -⟩ := hplaced'.ended
    rw [World.Heard, hv]
    exact List.mem_cons_self
  rcases List.suffix_or_suffix_of_suffix hplaced.later.grows hplaced'.later.grows with hle | hle
  · exact .inr (.inr (.inl ⟨u', v', hplaced'.spoken, hplaced'.later.grows, hbefore, hle.subset hv⟩))
  · exact .inr (.inr (.inr ⟨u, v, hplaced.spoken, hplaced.later.grows, hafter, hle.subset hv'⟩))

/-! ## Two turns -/

/-- The turn of an avatar that answers people. -/
def Turn.Request.answering (avatar : Avatar) (channel key : String) : Turn.Request where
  avatar := avatar
  channelId := channel
  message := none
  options := ⟨.humanMessage, none, none, 0, key⟩
  gate := some ⟨channel, avatar.id, key, .humanMessage, false⟩

theorem Engine.standard_paces (outside : Collaborators σ) (avatar : Avatar) (channel key : String) :
    (Engine.standard outside).Paces 2000 (.answering avatar channel key) :=
  ⟨rfl, rfl, Trigger.noConfusion⟩

/-- A turn of an engine around which nothing else goes on. -/
theorem Turns.plain (r : Turn.Request) (w : World σ)
    (h : (Engine.standard (σ := σ) (.plain Avatar.pair "")).Paces 2000 r) :
    Turns 2000 w (((Engine.standard (.plain Avatar.pair "")).runTurn r).run w).2 := by
  refine .turn w h (fun call _ v => ?_) fun avatar channel message options v => ?_
  · show Waits v ((Collaborators.plain Avatar.pair "").after call v)
    rw [Collaborators.after_plain]
    exact Waits.chains.refl v
  · exact .wait (Waits.chains.refl v)

/-- The second turn begins as soon as the gap is over. -/
theorem apart_unless_within_waiting :
    let e : Engine Unit := .standard (.plain Avatar.pair "")
    let r := Turn.Request.answering (.named "ada" "Ada") "c" "k"
    let r' := Turn.Request.answering (.named "bob" "Bob") "c" "l"
    let w : World Unit := .ofTables .empty ()
    let w₁ := ((e.runTurn r).run w).2
    let w' := ((e.runTurn r').run { w₁ with clock := 2000 }).2
    let s : Turn.Sent := ⟨"ada", "", 0⟩
    let s' : Turn.Sent := ⟨"bob", "", 2000⟩
    w'.Heard r s ∧ w'.Heard r' s' ∧
      (s.sentAt + 2000 ≤ s'.sentAt ∨ s'.sentAt + 2000 ≤ s.sentAt ∨
        SentWithin 2000 w w' r s r' s' ∨ SentWithin 2000 w w' r' s' r s) := by
  intro e r r' w w₁ w' s s'
  have hfirst : Turns 2000 w w₁ := .plain r w (Engine.standard_paces _ _ _ _)
  have hwait : Waits w₁ { w₁ with clock := 2000 } := ⟨by decide +kernel, rfl, rfl, Nat.le_refl _⟩
  have hcourse : Turns 2000 w w' :=
    .append (.append hfirst (.wait hwait)) (.plain r' _ (Engine.standard_paces _ _ _ _))
  have hs : w'.Heard r s := by
    unfold World.Heard
    decide +kernel
  have hs' : w'.Heard r' s' := by
    unfold World.Heard
    decide +kernel
  exact ⟨hs, hs', apart_unless_within hcourse rfl (by decide) (fun c time trigger h => by cases h)
    (by decide +kernel) (by decide +kernel) hs hs' rfl⟩

/-- Services in which another engine runs a turn while a text is made. -/
def Collaborators.answeredMeanwhile (r : Turn.Request) : Collaborators σ :=
  { Collaborators.plain Avatar.pair "" with
    generate := fun avatar _ _ _ => do
      let _ ← ((Engine.standard (.plain Avatar.pair "")).runTurn r : Act σ Turn.Outcome)
      return some ⟨some avatar.id, ""⟩ }

/-- The gate does not keep the gap between a message and one that is sent while the text of the first is
made: both turns were admitted before any of them was recorded. -/
theorem apart_fails_within :
    ¬ ∀ (gap : Int) (w w' : World Unit), Turns gap w w' → w.journal = [] → 0 ≤ w.clock →
      (∀ c time trigger, w.store.tables.lastBot c = some (time, trigger) →
        ∃ n ≤ w.clock, time = .number n) →
      w'.store.failures = w.store.failures → w'.answeredKeys.Nodup →
      ∀ r r' s s', w'.Heard r s → w'.Heard r' s' → r.channelId = r'.channelId →
        r.options.triggerKey ≠ r'.options.triggerKey →
        s.sentAt + gap ≤ s'.sentAt ∨ s'.sentAt + gap ≤ s.sentAt := by
  intro h
  let r := Turn.Request.answering (.named "ada" "Ada") "c" "k"
  let r' := Turn.Request.answering (.named "bob" "Bob") "c" "l"
  let e : Engine Unit := .standard (.answeredMeanwhile r')
  let w : World Unit := .ofTables .empty ()
  have hcourse : Turns 2000 w ((e.runTurn r).run w).2 := by
    refine .turn w (Engine.standard_paces _ _ _ _) (fun call hcall v => ?_)
      fun avatar channel message options v => .plain r' v (Engine.standard_paces _ _ _ _)
    have hplain : e.outside.after call v = (Collaborators.plain Avatar.pair "").after call v :=
      Collaborators.after_except_generate _ _ hcall v
    rw [hplain, Collaborators.after_plain]
    exact Waits.chains.refl v
  have hclose := h 2000 w _ hcourse rfl (by decide) (fun c time trigger h => by cases h)
    (by decide +kernel) (by decide +kernel) r r' ⟨"ada", "", 0⟩ ⟨"bob", "", 0⟩
    (by unfold World.Heard; decide +kernel) (by unfold World.Heard; decide +kernel) rfl (by decide)
  revert hclose
  decide

end TurnTaking
