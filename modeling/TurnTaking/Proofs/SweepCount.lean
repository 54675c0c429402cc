import TurnTaking.Proofs.Engine.Course
import TurnTaking.Proofs.Engine.Sweep

/-!
# Sweep counts — what a sweep says of its turns

A sweep says how many of its turns ended with a message. It counts them right to the end, and forgets
the count where a lease cannot be had because a statement fails.

* `World.said` — how many turns ended with a message, in all;
* `Mute` — steps in which none did;
* `Tally` — what came of an activity that counts its messages;
* `sweep_counts_iff` — the count of a sweep is right if no message came before a fault;
* `sweep_count_lost` — otherwise it need not be, and the budget of a sweep over all channels is exceeded.
-/

namespace TurnTaking

open Store Store.Access

variable {σ : Type}

/-- How many turns ended with a message so far. -/
def World.said (w : World σ) : Nat := (answers w.journal).length

/-- One more turn is counted if it said something. -/
theorem World.said_noted (w : World σ) (r : Turn.Request) (o : Turn.Outcome) :
    (w.noted (.turn r o)).said = w.said + o.isResponded.toNat := by
  cases o with
  | responded s => rfl
  | silent | contended | rejected | failed => rfl

/-- No turn ended with a message, and no failure was forgotten. -/
structure Mute (w w' : World σ) : Prop where
  said : w'.said = w.said
  failures : w.store.failures ≤ w'.store.failures

namespace Mute

theorem chains : Chains (Mute : World σ → World σ → Prop) where
  refl _ := ⟨rfl, Nat.le_refl _⟩
  trans h h' := ⟨h'.said.trans h.said, Nat.le_trans h.failures h'.failures⟩

theorem calm : Calm (fun _ => ()) (Mute : World σ → World σ → Prop) where
  toChains := chains
  unseen hstore hstill := ⟨by rw [World.said, hstill.journal, World.said], hstore.failures⟩

theorem note {entry : JournalEntry} (h : entry.answer? = none) :
    Keeps Mute (TurnTaking.note entry : Act σ Unit) :=
  fun w => ⟨congrArg List.length (answers_cons_none h w.journal), Nat.le_refl _⟩

end Mute

/-- The services of the engine run no turns of their own, and forget no failure of the store. Besides
that they may do to the world what they like. -/
structure Engine.Reticent (e : Engine σ) : Prop where
  journal : ∀ call w, (e.outside.after call w).journal = w.journal
  failures : ∀ call w, w.store.failures ≤ (e.outside.after call w).store.failures

/-- What came of an activity that counts its messages: some were sent, within a limit; a count that it
came to is right, and a fault is that of a statement. -/
structure Tally (limit : Nat) (w : World σ) (x : Except Fault Nat) (w' : World σ) (sent : Nat) :
    Prop where
  bound : sent ≤ limit
  said : w'.said = w.said + sent
  failures : w.store.failures ≤ w'.store.failures
  counted : ∀ n, x = .ok n → n = sent
  lost : ∀ f, x = .error f → w.store.failures < w'.store.failures

namespace Tally

variable {limit sent : Nat} {u v w : World σ} {x : Except Fault Nat}

theorem none (w : World σ) (limit : Nat) : Tally limit w (.ok 0) w 0 :=
  ⟨Nat.zero_le _, rfl, Nat.le_refl _, fun _ h => (Except.ok.inj h).symm, nofun⟩

theorem after_mute (h : Mute u v) (h' : Tally limit v x w sent) : Tally limit u x w sent where
  bound := h'.bound
  said := by rw [h'.said, h.said]
  failures := Nat.le_trans h.failures h'.failures
  counted := h'.counted
  lost f hf := Nat.lt_of_le_of_lt h.failures (h'.lost f hf)

/-- A turn before the others counts if it ends with a message, and if the others are counted at all. -/
theorem after_turn {responded : Bool} (hsaid : v.said = u.said + responded.toNat)
    (hfailures : u.store.failures ≤ v.store.failures) (h : Tally limit v x w sent) :
    Tally (limit + responded.toNat) u (x.map (· + responded.toNat)) w (sent + responded.toNat) where
  bound := Nat.add_le_add_right h.bound _
  said := by
    rw [h.said, hsaid]
    omega
  failures := Nat.le_trans hfailures h.failures
  counted n hn := by
    cases x with
    | ok m =>
      obtain rfl := h.counted m rfl
      exact (Except.ok.inj hn).symm
    | error f => cases hn
  lost f hf := by
    cases x with
    | ok m => cases hf
    | error f => exact Nat.lt_of_le_of_lt hfailures (h.lost f rfl)

end Tally

namespace Engine.Reticent

variable {e : Engine σ}

/-- Reticent services keep mute what they serve. -/
theorem served (h : e.Reticent) : e.Served (fun _ => ()) Mute :=
  .of_services Mute.calm .unseen (fun _ _ => rfl)
    fun call w => ⟨by rw [World.said, h.journal, World.said], h.failures call w⟩

variable (h : e.Reticent)

include h

/-- A turn sends one message if it responds, and else none. -/
theorem run_turn_said {r : Turn.Request} {o : Turn.Outcome} {w w' : World σ}
    (hrun : (e.runTurn r).run w = (o, w')) :
    w'.said = w.said + o.isResponded.toNat ∧ w.store.failures ≤ w'.store.failures := by
  obtain ⟨w₁, hmute, rfl⟩ := h.served.toVoiced.run_runTurn (fun _ _ => rfl) (Mute.note rfl) hrun
  exact ⟨by rw [World.said_noted, hmute.said], hmute.failures⟩

/-- A sweep's turn says whether it responded, or it was not run because a statement failed. -/
theorem run_ambientTurn_said {sweep : Sweep} {a : Avatar} {x : Except Fault Bool} {w w' : World σ}
    (hrun : (e.runAmbientTurn sweep a).run.run w = (x, w')) :
    (∃ responded, x = .ok responded ∧ w'.said = w.said + responded.toNat ∧
        w.store.failures ≤ w'.store.failures) ∨
      (∃ f, x = .error f) ∧ w'.said = w.said ∧ w.store.failures < w'.store.failures := by
  obtain ⟨s, hbeside, ⟨o, v, hx, -, hran, rfl⟩ | ⟨rfl, -, ⟨hx, -⟩ | hfault⟩⟩ := run_runAmbientTurn hrun
  · obtain ⟨hsaid, hfailures⟩ := h.run_turn_said hran
    have hsettled := h.served.settleLease (.of_leases fun _ _ => rfl)
      (some ⟨sweep.channelId, a.id, sweep.tick⟩) o v
    refine .inl ⟨o.isResponded, hx, ?_, ?_⟩
    · rw [hsettled.said, hsaid]
      rfl
    · exact Nat.le_trans hbeside.failures (Nat.le_trans hfailures hsettled.failures)
  · exact .inl ⟨false, hx, rfl, hbeside.failures⟩
  · exact .inr ⟨hfault.1, rfl, hfault.2⟩

/-- The turns of a sweep count their messages, unless a statement fails. -/
theorem run_ambientTurns_tally {sweep : Sweep} {limit : Nat} {avatars : List Avatar}
    {x : Except Fault Nat} {w w' : World σ}
    (hrun : (e.runAmbientTurns sweep limit avatars).run.run w = (x, w')) :
    ∃ sent, Tally limit w x w' sent := by
  induction avatars generalizing limit w w' x with
  | nil =>
    cases limit <;>
    · obtain ⟨rfl, rfl⟩ := Prod.mk.inj hrun
      exact ⟨0, .none _ _⟩
  | cons a rest ih =>
    cases limit with
    | zero =>
      obtain ⟨rfl, rfl⟩ := Prod.mk.inj hrun
      exact ⟨0, .none _ _⟩
    | succ limit =>
      rcases run_runAmbientTurns_cons hrun with
        ⟨responded, left, y, v, hturn, hlimit, hrest, rfl⟩ | ⟨f, hturn, rfl⟩
      · -- the turn adds its message to what the others say
        rcases h.run_ambientTurn_said hturn with ⟨_, hx, hsaid, hfailures⟩ | ⟨⟨_, hx⟩, -⟩
        · obtain rfl := Except.ok.inj hx
          obtain ⟨sent, htally⟩ := ih hrest
          rw [hlimit]
          exact ⟨sent + responded.toNat, htally.after_turn hsaid hfailures⟩
        · cases hx
      · -- a turn that failed on a statement ends the sweep
        rcases h.run_ambientTurn_said hturn with ⟨_, hx, -⟩ | ⟨-, hsaid, hfailures⟩
        · cases hx
        · exact ⟨0, Nat.zero_le _, hsaid, Nat.le_of_lt hfailures, nofun,
            fun _ _ => hfailures⟩

/-- A sweep of a channel counts its messages, or ends in a fault before the first one, or in one of a
statement. -/
theorem run_sweepChannel_tally {channel : String} {budget : Nat} {x : Except Fault Nat}
    {w w' : World σ} (hrun : (e.sweepChannel channel budget).run.run w = (x, w')) :
    (∃ f, x = .error f) ∧ Mute w w' ∨ ∃ sent, Tally budget w x w' sent := by
  have hopen : ∀ now, Keeps Mute (openTick channel now : Try σ Sweep).run :=
    h.served.openTick (fun _ _ => rfl) (fun _ => Mute.note rfl) channel
  rw [sweepChannel, run_tryClockNow] at hrun
  -- each part before the turns either ends the sweep or leads to the next
  rcases Keeps.leadsOn Mute.chains (Mute.chains.refl w) (h.served.isSuppressed channel _) hrun with
    ⟨f, -, hx, hmute⟩ | ⟨suppressed, w₁, -, h₁, hrun⟩
  · exact .inl ⟨⟨f, hx⟩, hmute⟩
  cases suppressed with
  | true =>
    obtain ⟨rfl, rfl⟩ := Prod.mk.inj hrun
    exact .inr ⟨0, (Tally.none _ _).after_mute h₁⟩
  | false =>
    rcases Keeps.leadsOn Mute.chains h₁ (hopen _) hrun with
      ⟨f, -, hx, hmute⟩ | ⟨sweep, w₂, -, h₂, hrun⟩
    · exact .inl ⟨⟨f, hx⟩, hmute⟩
    rcases Keeps.leadsOn Mute.chains h₂ (h.served.onStore (Activity.activeHumans_frames _ _)) hrun with
      ⟨f, -, hx, hmute⟩ | ⟨humans, w₃, -, h₃, hrun⟩
    · exact .inl ⟨⟨f, hx⟩, hmute⟩
    rcases Keeps.leadsOn Mute.chains h₃ (h.served.service (.listAvatars channel) id) hrun with
      ⟨f, -, hx, hmute⟩ | ⟨avatars, w₄, -, h₄, hrun⟩
    · exact .inl ⟨⟨f, hx⟩, hmute⟩
    rcases Keeps.leadsOn Mute.chains h₄ (h.served.unprompted channel avatars _) hrun with
      ⟨f, -, hx, hmute⟩ | ⟨speakers, w₅, -, h₅, hrun⟩
    · exact .inl ⟨⟨f, hx⟩, hmute⟩
    obtain ⟨sent, htally⟩ := h.run_ambientTurns_tally hrun
    have hbudget := Nat.le_trans htally.bound (Nat.min_le_right _ _)
    exact .inr ⟨sent, Tally.after_mute h₅
      ⟨hbudget, htally.said, htally.failures, htally.counted, htally.lost⟩⟩

/-- The answer of a sweep of a channel is the number of its messages, or zero after a fault. -/
theorem run_onChannelTick_tally {channel : String} {budget n : Nat} {w w' : World σ}
    (hrun : (e.onChannelTick channel budget).run w = (n, w')) :
    ∃ sent ≤ budget, w'.said = w.said + sent ∧ w.store.failures ≤ w'.store.failures ∧
      (n = sent ∧ (sent = 0 ∨ ((e.sweepChannel channel budget).run.run w).1.isOk) ∨
        n = 0 ∧ ¬ ((e.sweepChannel channel budget).run.run w).1.isOk ∧
          w.store.failures < w'.store.failures) := by
  unfold onChannelTick at hrun
  split at hrun
  · obtain ⟨rfl, rfl⟩ := Prod.mk.inj hrun
    exact ⟨0, Nat.zero_le _, rfl, Nat.le_refl _, .inl ⟨rfl, .inl rfl⟩⟩
  · rcases hsweep : (e.sweepChannel channel budget).run.run w with ⟨x, w₁⟩
    rw [run_orElse hsweep] at hrun
    obtain ⟨rfl, rfl⟩ := Prod.mk.inj hrun
    rcases h.run_sweepChannel_tally hsweep with ⟨⟨f, rfl⟩, hmute⟩ | ⟨sent, htally⟩
    · exact ⟨0, Nat.zero_le _, hmute.said, hmute.failures, .inl ⟨rfl, .inl rfl⟩⟩
    · refine ⟨sent, htally.bound, htally.said, htally.failures, ?_⟩
      cases x with
      | ok n => exact .inl ⟨htally.counted n rfl, .inr rfl⟩
      | error f => exact .inr ⟨rfl, Bool.false_ne_true, htally.lost f rfl⟩

/-- The answer of a sweep over channels is at most the number of its messages and at most the budget,
and the number of its messages if no statement failed. -/
theorem run_sweepChannels_tally {budget n : Nat} {channels : List String} {w w' : World σ}
    (hrun : (e.sweepChannels budget channels).run w = (n, w')) :
    ∃ sent, w'.said = w.said + sent ∧ w.store.failures ≤ w'.store.failures ∧ n ≤ sent ∧ n ≤ budget ∧
      (w'.store.failures = w.store.failures → n = sent) := by
  induction channels generalizing budget n w w' with
  | nil =>
    cases budget <;>
    · obtain ⟨rfl, rfl⟩ := Prod.mk.inj hrun
      exact ⟨0, rfl, Nat.le_refl _, Nat.le_refl _, Nat.zero_le _, fun _ => rfl⟩
  | cons channel rest ih =>
    cases budget with
    | zero =>
      obtain ⟨rfl, rfl⟩ := Prod.mk.inj hrun
      exact ⟨0, rfl, Nat.le_refl _, Nat.le_refl _, Nat.le_refl _, fun _ => rfl⟩
    | succ budget =>
      rcases hfirst : (e.onChannelTick channel (budget + 1)).run w with ⟨turns, w₁⟩
      rcases hrest : (e.sweepChannels (budget + 1 - turns) rest).run w₁ with ⟨more, w₂⟩
      rw [sweepChannels, run_bind_of hfirst, run_bind_of hrest] at hrun
      obtain ⟨rfl, rfl⟩ := Prod.mk.inj hrun
      obtain ⟨sent, hbound, hsaid, hfailures, hcount⟩ := h.run_onChannelTick_tally hfirst
      obtain ⟨sent', hsaid', hfailures', hle, hbudget, hexact⟩ := ih hrest
      -- a message that was not counted leaves its budget to the other channels, but adds to no count
      refine ⟨sent + sent', by omega, by omega, ?_, ?_, fun hsound => ?_⟩
      · rcases hcount with ⟨rfl, -⟩ | ⟨rfl, -⟩ <;> omega
      · rcases hcount with ⟨rfl, -⟩ | ⟨rfl, -⟩ <;> omega
      · rcases hcount with ⟨rfl, -⟩ | ⟨-, -, hlt⟩
        · have hsame := hexact (by omega)
          omega
        · omega

/-- All sweeps together return no more than was said. -/
theorem run_tickAll_tally {n : Nat} {w w' : World σ} (hrun : e.tickAll.run w = (n, w')) :
    ∃ sent, w'.said = w.said + sent ∧ w.store.failures ≤ w'.store.failures ∧ n ≤ sent ∧
      n ≤ e.config.ambient.globalBudget ∧ (w'.store.failures = w.store.failures → n = sent) := by
  rcases hchannels : (Activity.recentChannels e.config.ambient.channelLimit).run.run w.store with ⟨x, s⟩
  have hread : Mute w { w with store := s } :=
    Mute.calm.unseen (Activity.recentChannels_frames _ _ _ _ hchannels) ⟨rfl, rfl, rfl⟩
  rw [tickAll, run_onStore_bind hchannels] at hrun
  cases x with
  | error f =>
    obtain ⟨rfl, rfl⟩ := Prod.mk.inj hrun
    exact ⟨0, rfl, hread.failures, Nat.le_refl _, Nat.zero_le _, fun _ => rfl⟩
  | ok channels =>
    obtain ⟨sent, hsaid, hfailures, hle, hbudget, hexact⟩ := h.run_sweepChannels_tally hrun
    have hstart := hread.failures
    exact ⟨sent, hsaid, Nat.le_trans hstart hfailures, hle, hbudget, fun hsound => hexact (by omega)⟩

end Engine.Reticent

/-- Whatever the services do besides running turns of their own, and whatever statement fails when: a
sweep of a channel sends at most its budget of messages. It counts them right exactly if it sent none or
ended without a fault, and says zero otherwise. A sweep over all channels never counts more messages than
it sent, nor more than its budget, and if no statement failed it counts them right. -/
theorem sweep_counts_iff {e : Engine σ} (h : e.Reticent) (w : World σ) :
    (∀ channel budget,
      let swept := (e.onChannelTick channel budget).run w
      ∃ sent ≤ budget, swept.2.said = w.said + sent ∧
        (swept.1 = sent ↔ sent = 0 ∨ ((e.sweepChannel channel budget).run.run w).1.isOk) ∧
        (swept.1 ≠ sent → swept.1 = 0 ∧ w.store.failures < swept.2.store.failures)) ∧
    let swept := e.tickAll.run w
    ∃ sent, swept.2.said = w.said + sent ∧ swept.1 ≤ sent ∧
      swept.1 ≤ e.config.ambient.globalBudget ∧
      (swept.2.store.failures = w.store.failures → swept.1 = sent) := by
  refine ⟨fun channel budget => ?_, ?_⟩
  · intro swept
    obtain ⟨sent, hbound, hsaid, -, hcount⟩ :=
      h.run_onChannelTick_tally (show (e.onChannelTick channel budget).run w = (swept.1, swept.2) from rfl)
    refine ⟨sent, hbound, hsaid, ?_⟩
    rcases hcount with ⟨heq, hright⟩ | ⟨hzero, hfault, hfailed⟩
    · exact ⟨⟨fun _ => hright, fun _ => heq⟩, fun hne => absurd heq hne⟩
    · refine ⟨⟨fun heq => .inl (heq.symm.trans hzero), fun hright => ?_⟩, fun _ => ⟨hzero, hfailed⟩⟩
      exact hzero.trans (hright.resolve_right hfault).symm
  · intro swept
    obtain ⟨sent, hsaid, -, hle, hbudget, hexact⟩ :=
      h.run_tickAll_tally (show e.tickAll.run w = (swept.1, swept.2) from rfl)
    exact ⟨sent, hsaid, hle, hbudget, hexact⟩

/-! ## A crowd -/

/-- An engine that takes a turn for each person, of two in all. -/
def Engine.crowded (outside : Collaborators σ) : Engine σ where
  config := { Config.standard with
    ambient := { Config.Ambient.standard with humansPerSlot := 1, globalBudget := 2 } }
  rule := .flat 0
  number := 0
  outside := outside

/-- Two channels with two people in each. -/
def Store.Tables.crowded : Tables :=
  { Tables.empty with
    activity := some [⟨some "c", .number 0, none, none, none⟩, ⟨some "d", .number 0, none, none, none⟩]
    humans := some [⟨"c", "u", .number 0⟩, ⟨"c", "v", .number 0⟩, ⟨"d", "u", .number 0⟩,
      ⟨"d", "v", .number 0⟩] }

/-- The crowd, in a store that refuses one statement after so many. -/
def World.crowded (statements : Nat) (outside : σ) : World σ :=
  { World.ofTables .crowded outside with
    store := { Store.ofTables .crowded with outages := List.replicate statements none ++ [some ""] } }

theorem Engine.crowded_reticent : (Engine.crowded (σ := σ) (.plain Avatar.pair "")).Reticent := by
  have hstill : ∀ call (w : World σ),
      (Engine.crowded (.plain Avatar.pair "")).outside.after call w = w :=
    Collaborators.after_plain Avatar.pair ""
  exact ⟨fun call w => by rw [hstill], fun call w => Nat.le_of_eq (by rw [hstill])⟩

/-- The sweep visits both channels. -/
theorem World.recent_crowded (statements : Nat) (outside : σ) :
    (Activity.recentChannels 50).Runs (World.crowded (statements + 1) outside).store (.ok ["c", "d"])
      (World.crowded statements outside).store := by
  let rows : List ActivityRow :=
    [⟨some "c", .number 0, none, none, none⟩, ⟨some "d", .number 0, none, none, none⟩]
  have hrows : Relation.activity.get (World.crowded statements outside).store.tables = some rows := rfl
  have hsorted : rows.mergeSort Activity.byRecency = rows := List.mergeSort_of_pairwise (by decide)
  have hattempt : attempt (World.crowded (statements + 1) outside).store =
      (.ok (), (World.crowded statements outside).store) := rfl
  simp only [Runs, Activity.recentChannels, query, ExceptT.run_mk, StateT.run, hattempt, onRows, hrows,
    hsorted]
  rfl

/-- The crowded engine sweeps its channels one after the other. -/
theorem Engine.crowded_tickAll (statements : Nat) (services : Collaborators σ) (outside : σ) :
    (Engine.crowded services).tickAll.run (.crowded (statements + 1) outside) =
      ((Engine.crowded services).sweepChannels 2 ["c", "d"]).run (.crowded statements outside) :=
  run_onStore_bind (World.recent_crowded statements outside)

/-- Where the statement that fails is no lease of a turn, both messages are counted. -/
theorem sweep_counts_iff_crowded :
    let e : Engine Unit := .crowded (.plain Avatar.pair "")
    let w : World Unit := .crowded 19 ()
    let swept := (e.onChannelTick "c" 2).run w
    swept.2.said = 2 ∧ swept.2.store.failures = 1 ∧
      ∃ sent ≤ 2, swept.2.said = w.said + sent ∧
        (swept.1 = sent ↔ sent = 0 ∨ ((e.sweepChannel "c" 2).run.run w).1.isOk) ∧
        (swept.1 ≠ sent → swept.1 = 0 ∧ w.store.failures < swept.2.store.failures) := by
  intro e w swept
  exact ⟨by decide +kernel, by decide +kernel, (sweep_counts_iff Engine.crowded_reticent w).1 "c" 2⟩

/-- Where the lease of the second turn is refused, the message of the first one is not counted: a sweep
of a channel does not always say how many messages it sent, and a sweep over all channels may send more
than its budget. -/
theorem sweep_count_lost :
    (¬ ∀ (e : Engine Unit) (w : World Unit) (channel : String) (budget : Nat), e.Reticent →
      ((e.onChannelTick channel budget).run w).2.said =
        w.said + ((e.onChannelTick channel budget).run w).1) ∧
    ¬ ∀ (e : Engine Unit) (w : World Unit), e.Reticent →
      (e.tickAll.run w).2.said ≤ w.said + e.config.ambient.globalBudget := by
  constructor
  · intro h
    have hcount := h (.crowded (.plain Avatar.pair "")) (.crowded 20 ()) "c" 2 Engine.crowded_reticent
    revert hcount
    decide +kernel
  · intro h
    have hbudget := h (.crowded (.plain Avatar.pair "")) (.crowded 21 ()) Engine.crowded_reticent
    rw [Engine.crowded_tickAll] at hbudget
    revert hbudget
    decide +kernel

end TurnTaking
