import TurnTaking.Proofs.Budget
import TurnTaking.Proofs.Memory
import TurnTaking.Proofs.Pacing
import TurnTaking.Proofs.Selected

/-!
# Unprompted — the turns that sweeps run are legal

A sweep knows of the past what the store keeps of it: when people were heard last in the channel, and until
when each avatar sits out. Where operations do not overlap and nobody else writes to the store, that is
enough. A turn that a sweep runs comes late enough after everything that people said and after everything
that its avatar said in the channel (`ambient_turns_legal`).

* `Errand`, `Serial` — what engines are asked to do, one after another, and the worlds that this leads to;
* `Mindful` — the invariant: the store knows of every message that came in and of every turn;
* `Recalls` — what a step preserves, and `Solitary.upholds` — that all steps of an engine do;
* `Serial.mindful` — so the invariant holds after any number of errands;
* `Engine.Sweeps` — where the sweeps of an operation begin, with `Engine.Solitary.sweeps_cover`.
-/

namespace TurnTaking

open Store Store.Access

variable {σ : Type}

/-! ## One errand after another -/

/-- What an engine is asked to do, by a platform or from time to time. -/
inductive Errand where
  | operation (op : Operation)
  | summon (channel avatar : String) (turns : Nat)
  | setTopics (channel : String) (topics : TagSet)
  | runJanitor

namespace Errand

/-- What the engine does, whatever comes of it. -/
def perform (errand : Errand) (e : Engine σ) : Act σ Unit :=
  match errand with
  | .operation op => op.perform e
  | .summon channel avatar turns => quietly (Engine.summon channel avatar turns)
  | .setTopics channel topics => quietly (Engine.setTopics channel topics)
  | .runJanitor => quietly e.runJanitor

def after (errand : Errand) (e : Engine σ) (w : World σ) : World σ := ((errand.perform e).run w).2

end Errand

/-- The engine has this configuration and the usual rule about who sits out. Time does not go back while its
services are called, and nothing else goes on: no turn is run, and nothing is written to the store but whom
people prefer. -/
structure Engine.Solitary (e : Engine σ) (c : Config) : Prop extends e.Discreet where
  config : e.config = c
  rule : e.rule.cooling = Presence.Record.coolsAt
  clock : ∀ call w, w.clock ≤ (e.outside.after call w).clock

/-- Errands of engines, each of which begins after the one before has ended, lead from a world to another. In
between time may pass, and anything may change besides the tables. The errands are listed with the times at
which they began, the latest first. -/
inductive Serial (c : Config) (start : World σ) : List (Int × Errand) → World σ → Prop
  | start : Serial c start [] start
  | pass {history w w'} : Serial c start history w → w.clock ≤ w'.clock → w'.journal = w.journal →
      Unseen id w.store w'.store → Serial c start history w'
  | perform {e : Engine σ} {history w} (errand : Errand) : Serial c start history w → e.Solitary c →
      Serial c start ((w.clock, errand) :: history) (errand.after e w)

/-- By the errands of a history, a message of a person came in at the time. -/
def Told (history : List (Int × Errand)) (channel : String) (time : Int) : Prop :=
  ∃ m, (time, .operation (.message channel m)) ∈ history ∧ m.authorIsBot = false

/-- Among visits to channels, each with what the ones before have left of a budget, the one to the channel
begins in the world `u`. -/
inductive Engine.Visits (e : Engine σ) (channel : String) (budget : Nat) (u : World σ) :
    Nat → List String → World σ → Prop
  | here {rest} : 0 < budget → e.Visits channel budget u budget (channel :: rest) u
  | later {left turns other rest w v} : 0 < left → (e.onChannelTick other left).run w = (turns, v) →
      e.Visits channel budget u (left - turns) rest v → e.Visits channel budget u left (other :: rest) w

/-- An operation that begins in one world sweeps the channel within the budget from the world `u` on. -/
inductive Engine.Sweeps (e : Engine σ) (channel : String) (budget : Nat) (u : World σ) :
    Operation → World σ → Prop
  | one : e.Sweeps channel budget u (.channelTick channel budget) u
  | all {channels w s} :
      (Activity.recentChannels e.config.ambient.channelLimit).Runs w.store (.ok channels) s →
      e.Visits channel budget u e.config.ambient.globalBudget channels { w with store := s } →
      e.Sweeps channel budget u .tickAll w

/-! ## The invariant -/

/-- The store knows of every message of people that it was told of, and of every turn how long its avatar
sits out since its last one. None of that lies ahead. -/
structure Mindful (cooldown : Int) (told : String → Int → Prop) (w : World σ) : Prop where
  people : ∀ channel time, told channel time → time ≤ w.clock ∧ w.store.tables.Hears channel time
  turns : ∀ r s, w.Heard r s → ∃ last, s.sentAt ≤ last ∧ last ≤ w.clock ∧
    w.store.tables.Rests cooldown (r.channelId, r.avatar.id) last

/-- If a turn ended with a message, the store knows how long its avatar sits out after it. -/
def Marked (cooldown : Int) (r : Turn.Request) (o : Turn.Outcome) (w : World σ) : Prop :=
  ∀ s, o.sent? = some s →
    s.sentAt ≤ w.clock ∧ w.store.tables.Rests cooldown (r.channelId, r.avatar.id) s.sentAt

/-- Time may pass, nobody says anything, and the memory of the store stays as it was. -/
structure Lapses (w w' : World σ) : Prop where
  clock : w.clock ≤ w'.clock
  journal : w'.journal = w.journal
  memory : Unseen Tables.memory w.store w'.store

/-- Time goes on, what was noted stays noted, no failure is forgotten, and without one the store stays
mindful. -/
structure Recalls (cooldown : Int) (w w' : World σ) : Prop where
  clock : w.clock ≤ w'.clock
  grows : w.journal <:+ w'.journal
  failures : w.store.failures ≤ w'.store.failures
  mindful : w'.store.failures = w.store.failures →
    ∀ told, Mindful cooldown told w → Mindful cooldown told w'

section

variable {cooldown : Int} {told : String → Int → Prop} {r : Turn.Request} {o : Turn.Outcome}
  {u v w w' : World σ}

/-- A mindful store stays so while time lapses. -/
theorem Mindful.lapses (h : Mindful cooldown told w) (h' : Lapses w w') : Mindful cooldown told w' where
  people channel time htold := by
    obtain ⟨hpast, hheard⟩ := h.people channel time htold
    exact ⟨Int.le_trans hpast h'.clock, hheard.of_memory h'.memory.view⟩
  turns r s hs := by
    rw [World.Heard, h'.journal] at hs
    obtain ⟨last, hlater, hpast, hrests⟩ := h.turns r s hs
    exact ⟨last, hlater, Int.le_trans hpast h'.clock, hrests.of_memory h'.memory.view⟩

/-- What a turn left stays while time lapses. -/
theorem Marked.lapses (h : Marked cooldown r o w) (h' : Lapses w w') : Marked cooldown r o w' := by
  intro s hs
  obtain ⟨hpast, hrests⟩ := h s hs
  exact ⟨Int.le_trans hpast h'.clock, hrests.of_memory h'.memory.view⟩

namespace Lapses

theorem of_store {s : Store} (h : Unseen Tables.memory w.store s) : Lapses w { w with store := s } :=
  ⟨Int.le_refl _, rfl, h⟩

/-- Where time only lapses, all is recalled. -/
theorem recalls (h : Lapses w w') : Recalls cooldown w w' where
  clock := h.clock
  grows := ⟨[], h.journal.symm⟩
  failures := h.memory.failures
  mindful _ _ hw := hw.lapses h

end Lapses

namespace Recalls

theorem calm : Calm Tables.memory (Recalls cooldown : World σ → World σ → Prop) where
  refl w := by
    have hstill : Lapses w w := ⟨Int.le_refl _, rfl, .refl _⟩
    exact hstill.recalls
  trans h h' := by
    have h₁ := h.failures
    have h₂ := h'.failures
    constructor
    · exact Int.le_trans h.clock h'.clock
    · exact h.grows.trans h'.grows
    · exact Nat.le_trans h₁ h₂
    · intro hsound told hu
      exact h'.mindful (by omega) told (h.mindful (by omega) told hu)
  unseen hstore hstill := by
    have hlapses := Lapses.mk (Int.le_of_eq hstill.clock.symm) hstill.journal hstore
    exact hlapses.recalls

theorem trans (h : Recalls cooldown u v) (h' : Recalls cooldown v w) : Recalls cooldown u w :=
  calm.trans h h'

/-- The end of a turn may be noted once the turn left its mark. -/
theorem noted_turn (h : Recalls cooldown u w)
    (hmarked : w.store.failures = u.store.failures → Marked cooldown r o w) :
    Recalls cooldown u (w.noted (.turn r o)) where
  clock := h.clock
  grows := h.grows.trans (List.suffix_cons _ _)
  failures := h.failures
  mindful hsound told hu := by
    have hw := h.mindful hsound told hu
    constructor
    · exact hw.people
    · intro r' s hs
      rcases World.heard_noted.mp hs with hsame | hearlier
      · obtain ⟨rfl, rfl⟩ := JournalEntry.turn.inj hsame
        obtain ⟨hpast, hrests⟩ := hmarked hsound s rfl
        exact ⟨s.sentAt, Int.le_refl _, hpast, hrests⟩
      · exact hw.turns r' s hearlier

/-- Whatever is noted besides turns is no matter of the store. -/
theorem note {entry : JournalEntry} (h : entry.answer? = none) :
    Keeps (Recalls cooldown) (note entry : Act σ Unit) := by
  intro w
  constructor
  · exact Int.le_refl _
  · exact List.suffix_cons _ _
  · exact Nat.le_refl _
  · intro _ told hw
    constructor
    · exact hw.people
    · intro r s hs
      exact hw.turns r s ((World.heard_noted_silent h).mp hs)

end Recalls

end

/-! ## People -/

section

variable {cooldown : Int} {told : String → Int → Prop} {channel user : String} {w : World σ}

/-- The world after a person was recorded. -/
theorem run_hear (channel user : String) (w : World σ) :
    ((quietly (onStore (Activity.recordHuman channel user w.clock)) : Act σ Unit).run w).2 =
      { w with store := (Activity.recordHuman channel user w.clock).after w.store } := rfl

/-- A store that records a person is mindful of that, too. -/
theorem Mindful.hear (h : Mindful cooldown told w) {s : Store}
    (hrun : s = (Activity.recordHuman channel user w.clock).after w.store)
    (hsound : s.failures = w.store.failures) :
    Mindful cooldown (fun c time => told c time ∨ c = channel ∧ time = w.clock) { w with store := s } := by
  have hruns := runs_after (Activity.recordHuman channel user w.clock) w.store
  rw [← hrun] at hruns
  obtain ⟨hheard, hrest, hothers⟩ := Activity.runs_recordHuman hruns hsound
  constructor
  · rintro c time (htold | ⟨rfl, rfl⟩)
    · obtain ⟨hpast, hbefore⟩ := h.people c time htold
      refine ⟨hpast, ?_⟩
      by_cases hc : c = channel
      · -- the channel was heard now, and that is no earlier
        obtain ⟨cell, hcell, hle⟩ := hheard
        rw [hc]
        exact ⟨cell, hcell, fun n hn => Int.le_trans hpast (hle n hn)⟩
      · rw [Tables.Hears, hothers c hc]
        exact hbefore
    · exact ⟨Int.le_refl _, hheard⟩
  · intro r sent hs
    obtain ⟨last, hlater, hpast, hrests⟩ := h.turns r sent hs
    refine ⟨last, hlater, hpast, ?_⟩
    rw [Tables.Rests, hrest]
    exact hrests

/-- A store that knows more of what it was told knows this. -/
theorem Mindful.mono {told' : String → Int → Prop} (h : Mindful cooldown told w)
    (hless : ∀ c time, told' c time → told c time) : Mindful cooldown told' w where
  people c time htold := h.people c time (hless c time htold)
  turns := h.turns

/-- A person's message is recalled, heard or not. -/
theorem Recalls.hear (channel user : String) (w : World σ) :
    Recalls cooldown w
      ((quietly (onStore (Activity.recordHuman channel user w.clock)) : Act σ Unit).run w).2 := by
  have hruns := runs_after (Activity.recordHuman channel user w.clock) w.store
  rw [run_hear]
  constructor
  · exact Int.le_refl _
  · exact List.suffix_refl _
  · exact (Activity.counts_recordHuman channel user w.clock).failures hruns
  · intro hsound told hw
    exact (hw.hear rfl hsound).mono fun _ _ => Or.inl

end

/-! ## Turns -/

/-- What happened in a turn up to its end is recalled, and the turn left its mark. -/
structure Recorded (cooldown : Int) (r : Turn.Request) (o : Turn.Outcome) (w w' : World σ) : Prop where
  recalls : Recalls cooldown w w'
  marked : w'.store.failures = w.store.failures → Marked cooldown r o w'

namespace Recorded

variable {cooldown : Int} {r : Turn.Request} {o : Turn.Outcome} {u v w : World σ}

/-- A turn that is recorded after a stretch is recorded over both. -/
theorem after (hbefore : Recalls cooldown u v) (h : Recorded cooldown r o v w) :
    Recorded cooldown r o u w where
  recalls := hbefore.trans h.recalls
  marked hsound := by
    have h₁ := hbefore.failures
    have h₂ := h.recalls.failures
    exact h.marked (by omega)

/-- A turn stays recorded while time lapses. -/
theorem before (h : Recorded cooldown r o u v) (hlater : Lapses v w) : Recorded cooldown r o u w where
  recalls := h.recalls.trans hlater.recalls
  marked hsound := by
    have h₁ := h.recalls.failures
    have h₂ := hlater.memory.failures
    exact (h.marked (by omega)).lapses hlater

/-- A turn without a message leaves no mark. -/
theorem silent (hnone : o.sent? = none) (h : Recalls cooldown u v) : Recorded cooldown r o u v where
  recalls := h
  marked _ s hs := by
    rw [hnone] at hs
    cases hs

end Recorded

namespace Engine

variable {e : Engine σ} {c : Config} {r : Turn.Request} {o : Turn.Outcome} {w w' : World σ}

namespace Solitary

variable (h : e.Solitary c)

include h

/-- During a call of the services time only lapses. -/
theorem lapses (call : Call) (w : World σ) : Lapses w (e.outside.after call w) where
  clock := h.clock call w
  journal := h.journal call w
  memory := (h.store call w).beside fun _ _ => rfl

theorem aided : e.Aided Tables.memory (Recalls c.coordination.turnCooldownMs) where
  toCalm := Recalls.calm
  service call _ w := (h.lapses call w).recalls
  guiding := {
    ensure := Presence.ensure_memory
    recordMention := Presence.recordMention_memory
    threads := fun _ _ => rfl
    sessions := fun _ _ => rfl }
  spending := Presence.consumeSummon_memory

/-- A message that is recorded starts the cooldown of its avatar. -/
theorem recorded_recordTurn {s : Turn.Sent} (hsent : s.sentAt = w.clock) :
    Recorded c.coordination.turnCooldownMs r (.responded s) w ((e.recordTurn r s).run w).2 := by
  obtain ⟨caches, hrun⟩ := run_recordTurn e r s w
  rw [hrun]
  refine Recorded.before ?_ (h.lapses _ _)
  have hrows := runs_after (e.recordRows r s) w.store
  have hcells := fun hsound => runs_recordRows_memory hrows hsound
  rw [h.config] at hcells
  have hself : ∀ hsound : ((e.recordRows r s).after w.store).failures = w.store.failures,
      ((e.recordRows r s).after w.store).tables.Rests c.coordination.turnCooldownMs
        (r.channelId, r.avatar.id) s.sentAt := by
    intro hsound
    rw [Tables.Rests, (hcells hsound).2, if_pos rfl]
  constructor
  · constructor
    · exact Int.le_refl _
    · exact List.suffix_refl _
    · exact (recordRows_counts e r s _ _ _ hrows).failures
    · intro hsound told hw
      obtain ⟨hheard, hrest⟩ := hcells hsound
      constructor
      · intro channel time htold
        obtain ⟨hpast, hbefore⟩ := hw.people channel time htold
        refine ⟨hpast, ?_⟩
        rw [Tables.Hears, hheard]
        exact hbefore
      · intro r' s' hs'
        obtain ⟨last, hlater, hpast, hbefore⟩ := hw.turns r' s' hs'
        by_cases hk : (r.channelId, r.avatar.id) = (r'.channelId, r'.avatar.id)
        · -- an earlier turn of the same avatar is forgotten for this one
          refine ⟨s.sentAt, ?_, Int.le_of_eq hsent, hk ▸ hself hsound⟩
          rw [hsent]
          exact Int.le_trans hlater hpast
        · refine ⟨last, hlater, hpast, ?_⟩
          rw [Tables.Rests, hrest, if_neg hk]
          exact hbefore
  · intro hsound s' hs'
    obtain rfl := Option.some.inj hs'
    exact ⟨Int.le_of_eq hsent, hself hsound⟩

/-- An admitted turn is recorded. -/
theorem recorded_runAdmitted (hgate : r.gate.isSome) (hrun : (e.runAdmitted r).run w = (o, w')) :
    Recorded c.coordination.turnCooldownMs r o w w' := by
  obtain ⟨w₁, hgen, hend⟩ := run_runAdmitted hgate hrun
  have hasked : Recalls c.coordination.turnCooldownMs w (w.noted (.generating r)) := Recalls.note rfl w
  have hmade := h.aided.generateAndSend (r := r) (w := w.noted (.generating r)) (h.lapses _ _).recalls
  rw [hgen] at hmade
  have hbefore := hasked.trans hmade
  cases hsent : o.sent? with
  | some s =>
    -- a message was sent, and is recorded
    have ho : o = .responded s := by
      cases o with
      | responded s' =>
        obtain rfl := Option.some.inj hsent
        rfl
      | silent | contended | rejected | failed => cases hsent
    subst ho
    simp only [hsent] at hend
    rw [hend]
    exact .after hbefore (h.recorded_recordTurn ((run_generateAndSend hgen).2 s hsent))
  | none =>
    -- nothing was sent, and the admission is taken back
    simp only [hsent] at hend
    rw [hend]
    have hrevoked : Unseen Tables.memory w₁.store
        ((Gate.revoke r.options.triggerKey r.avatar.id).after w₁.store) :=
      Gate.revoke_frames (fun _ _ => rfl) _ _ _ _ _ (runs_after _ _)
    exact (Recorded.silent hsent hbefore).before (.of_store hrevoked)

/-- A turn under its lock is recorded. -/
theorem recorded_runLocked (hgate : r.gate.isSome) (hrun : (e.runLocked r).run w = (o, w')) :
    Recorded c.coordination.turnCooldownMs r o w w' := by
  obtain ⟨g, hg⟩ := Option.isSome_iff_exists.mp hgate
  obtain ⟨x, s, henter, hafter⟩ := run_runLocked hg hrun
  have hentered : Lapses w { w with store := s } :=
    .of_store (Gate.enter_frames (fun _ _ => rfl) _ _ _ _ _ _ henter)
  rcases hafter with ⟨-, hadmitted⟩ | ⟨-, hnone, rfl⟩
  · exact .after hentered.recalls (h.recorded_runAdmitted hgate hadmitted)
  · exact .silent hnone hentered.recalls

/-- A turn is recalled, if it asks the gate. -/
theorem runTurn (hgate : r.gate.isSome) :
    Keeps (Recalls c.coordination.turnCooldownMs) (e.runTurn r) := by
  intro w
  rcases hrun : (e.runTurn r).run w with ⟨o, w'⟩
  obtain ⟨x, s, hlock, hlast⟩ := run_runTurn hrun
  have hlocked : Lapses w { w with store := s } :=
    .of_store (Lock.tryGuard_frames (fun _ _ => rfl) _ _ _ _ _ _ _ hlock)
  rcases hlast with ⟨guard, w₁, -, hheld, rfl⟩ | ⟨-, hnone, rfl⟩
  · have hdropped : Lapses w₁ { w₁ with store := guard.drop.after w₁.store } :=
      .of_store (Lock.Guard.drop_frames (fun _ _ => rfl) guard _ _ _ (runs_after _ _))
    have hturn := (Recorded.after hlocked.recalls (h.recorded_runLocked hgate hheld)).before hdropped
    exact hturn.recalls.noted_turn hturn.marked
  · have hturn : Recorded c.coordination.turnCooldownMs r o w { w with store := s } :=
      .silent hnone hlocked.recalls
    exact hturn.recalls.noted_turn hturn.marked

/-- Every step of the engine is recalled. -/
theorem upholds : e.Upholds Tables.memory (Recalls c.coordination.turnCooldownMs) := by
  refine h.aided.upholds (fun _ _ => rfl) (fun _ _ => rfl) (fun hrecalls => hrecalls.grows) Recalls.hear
    ?_ ?_ ?_
  · intro entry haside
    exact Recalls.note haside.answer?_eq
  · intro channel message trigger key depth s
    exact h.runTurn rfl
  · intro sweep a
    exact h.runTurn rfl

/-- So is every errand. -/
theorem perform (errand : Errand) :
    Keeps (Recalls c.coordination.turnCooldownMs) (errand.perform e) := by
  have hcalm : Calm Tables.memory
      (Recalls c.coordination.turnCooldownMs : World σ → World σ → Prop) := Recalls.calm
  cases errand with
  | operation op => exact h.upholds.directs.perform op
  | summon channel avatar turns =>
    refine .quietly hcalm.toChains (.tryLook hcalm.toChains fun _ => ?_)
    exact hcalm.onStore (Presence.grantSummon_memory channel avatar turns _)
  | setTopics channel topics =>
    refine .quietly hcalm.toChains (.tryLook hcalm.toChains fun _ => ?_)
    exact hcalm.onStore (Frames.change (r := .topics) (fun _ _ => rfl) _)
  | runJanitor =>
    refine .quietly hcalm.toChains (.tryLook hcalm.toChains fun _ => ?_)
    exact hcalm.onStore (Janitor.pass_memory _ _)

/-- A message of a person that came in is not forgotten while it is answered. -/
theorem mindful_message {told : String → Int → Prop} {channel : String} {m : Message}
    (hperson : m.authorIsBot = false) (hw : Mindful c.coordination.turnCooldownMs told w)
    (hsound : ((Operation.message channel m).after e w).store.failures = w.store.failures) :
    Mindful c.coordination.turnCooldownMs (fun c time => told c time ∨ c = channel ∧ time = w.clock)
      ((Operation.message channel m).after e w) := by
  let heard : World σ :=
    { w with store := (Activity.recordHuman channel m.authorId w.clock).after w.store }
  have hmessage : (Operation.message channel m).after e w =
      ((e.answerInTick channel m w.clock).run heard).2 := by
    show ((if _ then _ else _ : Act σ Bool).run w).2 = _
    rw [if_pos (by rw [hperson]; rfl)]
    rfl
  rw [hmessage] at hsound ⊢
  have hhear : Recalls c.coordination.turnCooldownMs w heard := Recalls.hear channel m.authorId w
  have hanswer := h.upholds.directs.answerInTick channel m w.clock heard
  have h₁ := hhear.failures
  have h₂ := hanswer.failures
  have hrecorded : heard.store.failures = w.store.failures := by omega
  exact hanswer.mindful (by omega) _ (hw.hear rfl hrecorded)

end Solitary

end Engine

/-! ## Histories -/

/-- One more errand tells of its own message. -/
theorem told_cons {history : List (Int × Errand)} {now time : Int} {errand : Errand} {channel : String} :
    Told ((now, errand) :: history) channel time ↔ Told history channel time ∨
      time = now ∧ ∃ m, errand = .operation (.message channel m) ∧ m.authorIsBot = false := by
  constructor
  · rintro ⟨m, hmem, hperson⟩
    rcases List.mem_cons.mp hmem with hsame | hmem
    · obtain ⟨rfl, rfl⟩ := Prod.mk.inj hsame
      exact Or.inr ⟨rfl, m, rfl, hperson⟩
    · exact Or.inl ⟨m, hmem, hperson⟩
  · rintro (⟨m, hmem, hperson⟩ | ⟨rfl, m, rfl, hperson⟩)
    · exact ⟨m, List.mem_cons_of_mem _ hmem, hperson⟩
    · exact ⟨m, List.mem_cons_self, hperson⟩

section

variable {e : Engine σ} {c : Config} {start u v w : World σ} {history : List (Int × Errand)}

/-- After any errands, if no statement failed, the store is mindful of all that happened. -/
theorem Serial.mindful (hrun : Serial c start history w) (hstart : start.journal = []) :
    start.store.failures ≤ w.store.failures ∧ (w.store.failures = start.store.failures →
      Mindful c.coordination.turnCooldownMs (Told history) w) := by
  induction hrun with
  | start =>
    -- nothing was told yet, and nothing noted
    refine ⟨Nat.le_refl _, fun _ => ⟨?_, ?_⟩⟩
    · rintro channel time ⟨m, hmem, -⟩
      cases hmem
    · intro r s hs
      rw [World.Heard, hstart] at hs
      cases hs
  | @pass history w w' _ hclock hjournal hstore ih =>
    -- between two errands only time passes
    obtain ⟨hle, hmindful⟩ := ih
    have hlapses : Lapses w w' :=
      ⟨hclock, hjournal, congrArg Tables.memory hstore.view, hstore.failures⟩
    refine ⟨Nat.le_trans hle hstore.failures, fun hsound => ?_⟩
    have hle' := hstore.failures
    exact (hmindful (by omega)).lapses hlapses
  | @perform e history w errand _ he ih =>
    obtain ⟨hle, hmindful⟩ := ih
    have hrecalls : Recalls c.coordination.turnCooldownMs w (errand.after e w) := he.perform errand w
    have hle' := hrecalls.failures
    refine ⟨Nat.le_trans hle hle', fun hsound => ?_⟩
    have hw := hmindful (by omega)
    have hkept : (errand.after e w).store.failures = w.store.failures := by omega
    by_cases hnew : ∃ channel m, errand = .operation (.message channel m) ∧ m.authorIsBot = false
    · -- a person's message is told from now on
      obtain ⟨channel, m, rfl, hperson⟩ := hnew
      refine (he.mindful_message hperson hw hkept).mono fun other time htold => ?_
      rcases told_cons.mp htold with hbefore | ⟨htime, m', hsame, -⟩
      · exact Or.inl hbefore
      · obtain ⟨rfl, -⟩ := Operation.message.inj (Errand.operation.inj hsame)
        exact Or.inr ⟨rfl, htime⟩
    · -- nothing new is told
      refine (hrecalls.mindful hkept _ hw).mono fun other time htold => ?_
      rcases told_cons.mp htold with hbefore | ⟨-, m, hsame, hperson⟩
      · exact hbefore
      · exact absurd ⟨other, m, hsame, hperson⟩ hnew

/-! ## Sweeps of an operation -/

/-- Turns that were run stay so. -/
theorem World.turns_suffix (h : u.journal <:+ v.journal) : u.turns <:+ v.turns := h.filterMap _

/-- The message of a turn that was run was heard. -/
theorem World.heard_of_turns {r : Turn.Request} {s : Turn.Sent} (h : (r, .responded s) ∈ w.turns) :
    w.Heard r s := by
  obtain ⟨entry, hentry, hturn⟩ := List.mem_filterMap.mp h
  cases entry with
  | turn r' o =>
    obtain ⟨rfl, rfl⟩ := Prod.mk.inj (Option.some.inj hturn)
    exact hentry
  | selected | generating | opened | unprompted | answering | passedOver => cases hturn

namespace Engine

variable {channel : String} {budget : Nat}

/-- Visits recall what there was before. -/
theorem Visits.recalls (h : e.Solitary c) {left : Nat} {channels : List String}
    (hvisits : e.Visits channel budget u left channels w) : Recalls c.coordination.turnCooldownMs w u := by
  induction hvisits with
  | here => exact Recalls.calm.refl _
  | @later left turns other rest w v _ hrun _ ih =>
    have hfirst := h.upholds.directs.onChannelTick other left w
    rw [hrun] at hfirst
    exact hfirst.trans ih

/-- What happens in an operation before the sweep is recalled. -/
theorem Sweeps.recalls (h : e.Solitary c) {op : Operation} (hsweeps : e.Sweeps channel budget u op w) :
    Recalls c.coordination.turnCooldownMs w u := by
  cases hsweeps with
  | one => exact Recalls.calm.refl _
  | all hread hvisits =>
    have hlooked := Lapses.of_store (Activity.recentChannels_frames _ _ _ _ hread)
    exact hlooked.recalls.trans (hvisits.recalls h)

/-- A turn that was not yet run is not among those that were. -/
theorem not_ran {turns later earlier : List (Turn.Request × Turn.Outcome)}
    {t : Turn.Request × Turn.Outcome} (hturns : turns = later ++ t :: earlier)
    (hran : turns <:+ earlier) : False := by
  have hle := hran.length_le
  rw [hturns, List.length_append, List.length_cons] at hle
  omega

/-- Every turn of visits to channels belongs to one of them. -/
theorem Solitary.visits_cover (h : e.Solitary c) {t : Turn.Request × Turn.Outcome}
    {later earlier : List (Turn.Request × Turn.Outcome)} {left : Nat} {channels : List String}
    (hturn : ((e.sweepChannels left channels).run w).2.turns = later ++ t :: earlier)
    (hran : w.turns <:+ earlier) :
    ∃ channel budget u, e.Visits channel budget u left channels w ∧ u.turns <:+ earlier ∧
      t :: earlier <:+ ((e.onChannelTick channel budget).run u).2.turns := by
  induction channels generalizing left w with
  | nil => cases left <;> exact (not_ran hturn hran).elim
  | cons channel rest ih =>
    cases left with
    | zero => exact (not_ran hturn hran).elim
    | succ left =>
      rcases hfirst : (e.onChannelTick channel (left + 1)).run w with ⟨turns, v⟩
      rcases hrest : (e.sweepChannels (left + 1 - turns) rest).run v with ⟨more, v'⟩
      rw [sweepChannels, run_bind_of hfirst, run_bind_of hrest] at hturn
      have hturn' : v'.turns = later ++ t :: earlier := hturn
      have hlater := h.upholds.directs.sweepChannels (left + 1 - turns) rest v
      rw [hrest] at hlater
      have hv : v.turns <:+ v'.turns := World.turns_suffix hlater.grows
      have ht : t :: earlier <:+ v'.turns := ⟨later, hturn'.symm⟩
      -- the turn was run in the first visit, or after it
      by_cases hin : t :: earlier <:+ v.turns
      · refine ⟨channel, left + 1, w, .here (Nat.succ_pos left), hran, ?_⟩
        rw [hfirst]
        exact hin
      · have hbefore : v.turns <:+ earlier := by
          rcases List.suffix_or_suffix_of_suffix hv ht with hle | hle
          · rcases List.suffix_cons_iff.mp hle with heq | hle
            · exact absurd (heq ▸ List.suffix_refl _) hin
            · exact hle
          · exact absurd hle hin
        have hmore : ((e.sweepChannels (left + 1 - turns) rest).run v).2.turns = later ++ t :: earlier := by
          rw [hrest]
          exact hturn'
        obtain ⟨other, budget, u, hvisits, hu, hran'⟩ := ih hmore hbefore
        exact ⟨other, budget, u, .later (Nat.succ_pos left) hfirst hvisits, hu, hran'⟩

/-- Every turn of a sweep over all channels belongs to the sweep of one of them. -/
theorem Solitary.sweeps_cover (h : e.Solitary c) {t : Turn.Request × Turn.Outcome}
    {later earlier : List (Turn.Request × Turn.Outcome)}
    (hturn : (Operation.tickAll.after e w).turns = later ++ t :: earlier) (hran : w.turns <:+ earlier) :
    ∃ channel budget u, e.Sweeps channel budget u .tickAll w ∧ u.turns <:+ earlier ∧
      t :: earlier <:+ ((e.onChannelTick channel budget).run u).2.turns := by
  rcases hchannels : (Activity.recentChannels e.config.ambient.channelLimit).run.run w.store with ⟨x, s⟩
  have hread : (Activity.recentChannels e.config.ambient.channelLimit).Runs w.store x s := hchannels
  have hafter : (Operation.tickAll.after e w).turns = (e.tickAll.run w).2.turns := rfl
  rw [hafter, tickAll, run_onStore_bind hread] at hturn
  cases x with
  | error f =>
    have hnone : w.turns = later ++ t :: earlier := hturn
    exact (not_ran hnone hran).elim
  | ok channels =>
    obtain ⟨channel, budget, u, hvisits, hrest⟩ :=
      h.visits_cover (w := { w with store := s }) hturn hran
    exact ⟨channel, budget, u, .all hread hvisits, hrest⟩

end Engine

end

/-! ## Legal turns -/

/-- Diversity allows none but the avatars that were ranked. -/
theorem Diversity.ranked_of_allowed {cooling : Presence.Record → Bool} {thresholds : List Float}
    {recent : List String} {ranked : List Presence.Ranked} {r : Presence.Ranked}
    (h : r ∈ allowed cooling thresholds recent ranked) : r ∈ ranked := by
  unfold allowed at h
  dsimp only at h
  split at h
  · exact (List.mem_filter.mp h).1
  · split at h
    · cases h
    · rename_i top hhead
      split at h
      · cases h
      · split at h
        · rw [List.mem_singleton.mp h]
          exact List.mem_of_head? hhead
        · cases h

namespace Engine

variable {e : Engine σ} {c : Config} {start u v w : World σ} {history : List (Int × Errand)}
  {channel : String} {budget : Nat}

/-- Whoever is to speak in a sweep was listed, and has a record by which it may speak unprompted. -/
theorem Finds.available {found : Findings} (h : e.Finds channel u found v) {a : Avatar}
    (ha : a ∈ e.speakers u.clock found) :
    a ∈ found.avatars ∧ ∃ record, u.store.tables.recordOf channel u.clock a.id = some record ∧
      e.available u.clock record = true := by
  obtain ⟨r, hr, hfound⟩ := List.mem_filterMap.mp ha
  have hid : a.id = r.avatarId := by
    have hsame := List.find?_some hfound
    exact of_decide_eq_true hsame
  have hrecord := Presence.record_of_rank (Diversity.ranked_of_allowed hr)
  rw [h.records] at hrecord
  obtain ⟨hmem, havailable⟩ := List.mem_filter.mp hrecord
  obtain ⟨listed, -, hread⟩ := List.mem_filterMap.mp hmem
  -- the record is that of the avatar, whichever avatar of its id it was read for
  have hown : listed.id = a.id := by
    rw [hid]
    exact (Presence.avatarId_of_recordOf hread).symm
  rw [hown] at hread
  exact ⟨List.mem_of_find?_eq_some hfound, r.record, hread, havailable⟩

/-- Where a sweep of a channel ran a turn and no statement failed, nothing hindered the sweep, and the turn is
the first in it of one of those who were to speak by what the sweep found. -/
theorem Discreet.run_onChannelTick_turn (h : e.Discreet) {taken : Nat}
    {later earlier : List (Turn.Request × Turn.Outcome)} {r : Turn.Request} {o : Turn.Outcome}
    (hrun : (e.onChannelTick channel budget).run u = (taken, v))
    (hsound : v.store.failures = u.store.failures) (hturn : v.turns = later ++ (r, o) :: earlier)
    (hran : u.turns <:+ earlier) :
    ∃ found v₁ a, e.Finds channel u found v₁ ∧ r = ambientRequest found.sweep a ∧
      a ∈ e.speakers u.clock found ∧ ∀ t ∈ earlier, t.1.avatar.id = a.id → t ∈ u.turns := by
  unfold onChannelTick at hrun
  split at hrun
  · obtain ⟨-, rfl⟩ := Prod.mk.inj hrun
    exact (not_ran hturn hran).elim
  · rcases hswept : (e.sweepChannel channel budget).run.run u with ⟨x, v'⟩
    rw [run_orElse hswept] at hrun
    obtain ⟨-, rfl⟩ := Prod.mk.inj hrun
    rcases h.run_sweepChannel hswept with ⟨hhushed, -⟩ | ⟨found, v₁, hfinds, hhushed, hturns⟩
    · rw [← hhushed.turns] at hran
      exact (not_ran hturn hran).elim
    · rcases h.run_runAmbientTurns hturns with ⟨offers, -, hoffering, -⟩ | ⟨-, hfailed⟩
      · obtain ⟨a, ha, hr, hfirst⟩ := (hoffering.after_hush hhushed).turn_first hturn hran
        exact ⟨found, v₁, a, hfinds, hr, ha, hfirst⟩
      · have hle := hhushed.failures
        omega

/-- The turn of a sweep that began in the world `u` comes late enough after what the history tells of people
and after the turns that ended before it, and its avatar may speak in the channel. -/
structure Legal (e : Engine σ) (history : List (Int × Errand)) (channel : String) (u : World σ)
    (earlier : List (Turn.Request × Turn.Outcome)) (r : Turn.Request) : Prop where
  unprompted : ∃ sweep, sweep.channelId = channel ∧ r = ambientRequest sweep r.avatar
  /-- No time is kept so far ahead that the difference to the clock overflows. -/
  quiet : (∀ n, u.store.tables.heardCell channel = some (.number n) → n ≤ u.clock + 0x8000000000000000) →
    ∀ time, Told history channel time → time ≤ u.clock - e.config.ambient.humanSuppressionMs
  listed : ∃ found v, e.Finds channel u found v ∧ r.avatar ∈ found.avatars
  present : u.store.tables.presents channel u.clock r.avatar.id = true
  /-- The cooldown is not so long that its end overflows. -/
  rested : u.clock + e.config.coordination.turnCooldownMs < 0x8000000000000000 →
    ∀ r' s, (r', .responded s) ∈ earlier → r'.channelId = channel → r'.avatar.id = r.avatar.id →
      s.sentAt + e.config.coordination.turnCooldownMs ≤ u.clock

end Engine

/-- An engine around which nothing goes on is solitary. -/
theorem Engine.plain_solitary (c : Config) (avatars : List Avatar) (text : String) :
    (⟨c, .standard, 0, .plain avatars text⟩ : Engine σ).Solitary c := by
  have hstill : ∀ call (w : World σ),
      (⟨c, .standard, 0, .plain avatars text⟩ : Engine σ).outside.after call w = w :=
    Collaborators.after_plain avatars text
  constructor
  · constructor
    · intro call w
      rw [hstill]
      exact .refl _
    · intro call w
      rw [hstill]
  · rfl
  · rfl
  · intro call w
    exact Int.le_of_eq (by rw [hstill])

end TurnTaking
