import Mathlib.Algebra.GroupWithZero.Nat
import Mathlib.Order.Bounds.Defs
import TurnTaking.Proofs.Engine.Sweep
import TurnTaking.Proofs.Recency
import TurnTaking.Proofs.Responders
import TurnTaking.Proofs.SweepCount

/-!
# Budgets — how many turns a sweep is good for

A sweep of a channel offers turns to avatars, one after another, until enough turns have ended with a
message. An avatar whose lease is taken does not get its turn; a turn that ends without a message is not
counted. What the sweep says is then the number of messages, and that is within the slots of the channel,
the cap of the gate and the budget. A sweep over all channels gives each channel the budget that the ones
before have left.

* `Offering` — the offers of a sweep, from the world before to the world after, and
  `Engine.Discreet.run_runAmbientTurns`, by induction on those who are to speak;
* `Engine.Swept` — what a sweep of a channel comes to;
* `Engine.Toured` — what a sweep over all channels comes to;
* `sweep_keeps_budget` — that is so in every world, if the services leave the store alone and no statement
  fails.
-/

namespace TurnTaking

open Store Store.Access

variable {σ : Type} {e : Engine σ}

/-! ## Offers -/

/-- A turn that a sweep offered to an avatar, and how it ended; none, if it was not run because the lease
of the avatar was taken. -/
structure Offer where
  avatar : Avatar
  outcome : Option Turn.Outcome

namespace Offer

/-- Whether the turn ended with a message. -/
def responded (o : Offer) : Bool := o.outcome.any Turn.Outcome.isResponded

/-- The turn in a sweep, if it was run. -/
def turn? (sweep : Sweep) (o : Offer) : Option (Turn.Request × Turn.Outcome) :=
  o.outcome.map (Engine.ambientRequest sweep o.avatar, ·)

end Offer

/-- How many turns ended with a message. -/
def responses (offers : List Offer) : Nat := offers.countP Offer.responded

/-- The avatars whose turns were run. -/
def takers (offers : List Offer) : List String :=
  (offers.filter (·.outcome.isSome)).map (·.avatar.id)

/-- Who takes a turn is who was offered one and took it, in order. -/
theorem takers_eq (sweep : Sweep) (offers : List Offer) :
    takers offers = (offers.filterMap (Offer.turn? sweep)).map (·.1.avatar.id) := by
  induction offers with
  | nil => rfl
  | cons o rest ih =>
    rw [takers, List.filter_cons, List.filterMap_cons, Offer.turn?]
    cases o.outcome with
    | none => exact ih
    | some outcome => exact congrArg (o.avatar.id :: ·) ih

theorem responses_cons (o : Offer) (offers : List Offer) :
    responses (o :: offers) = responses offers + o.responded.toNat := by
  rw [responses, List.countP_cons]
  cases o.responded <;> rfl

/-- The lease under which an avatar takes its turn in a sweep. -/
def Sweep.leaseKey (sweep : Sweep) (avatar : String) : String × String × Cell :=
  Lease.rowKey sweep.channelId avatar sweep.tick

/-- The offers of a sweep to those who are to speak, until so many turns have ended with a message. -/
structure Offering (sweep : Sweep) (limit : Nat) (speakers : List Avatar) (offers : List Offer)
    (w w' : World σ) : Prop where
  /-- Turns are offered in order. -/
  inOrder : offers.map Offer.avatar <+: speakers
  /-- These turns were run, and no others. -/
  ran : w'.turns = (offers.filterMap (Offer.turn? sweep)).reverse ++ w.turns
  /-- No avatar had two of them. -/
  once : (takers offers).Nodup
  /-- Whoever took a turn had its lease free, -/
  vacant : ∀ o ∈ offers, o.outcome.isSome → w.store.tables.leaseOrigin (sweep.leaseKey o.avatar.id) = none
  /-- and whoever did not had it taken before the sweep, or took a turn in it. -/
  passed : ∀ o ∈ offers, o.outcome = none →
    (w.store.tables.leaseOrigin (sweep.leaseKey o.avatar.id)).isSome ∨ o.avatar.id ∈ takers offers
  /-- A turn is offered only where the limit is not yet reached, -/
  within : ∀ n < offers.length, responses (offers.take n) < limit
  bound : responses offers ≤ limit
  /-- and to everyone as long as it is not. -/
  stops : responses offers = limit ∨ offers.map Offer.avatar = speakers

namespace Offering

variable {sweep : Sweep} {limit : Nat} {a : Avatar} {rest : List Avatar} {offers : List Offer}
  {u v w : World σ}

/-- No turn is offered where the limit is zero, or nobody is to speak. -/
theorem closed {speakers : List Avatar} (h : limit = 0 ∨ speakers = []) (w : World σ) :
    Offering sweep limit speakers [] w w where
  inOrder := List.nil_prefix
  ran := rfl
  once := List.nodup_nil
  vacant := nofun
  passed := nofun
  within := nofun
  bound := Nat.zero_le _
  stops := h.imp Eq.symm Eq.symm

/-- Nothing that counts had happened before. -/
theorem after_hush (hv : Hushed u v) (h : Offering sweep limit rest offers v w) :
    Offering sweep limit rest offers u w where
  inOrder := h.inOrder
  ran := by rw [h.ran, hv.turns]
  once := h.once
  vacant := hv.origins ▸ h.vacant
  passed := hv.origins ▸ h.passed
  within := h.within
  bound := h.bound
  stops := h.stops

/-- An avatar whose lease is taken is passed over. -/
theorem pass (hlimit : 0 < limit)
    (hheld : (u.store.tables.leaseOrigin (sweep.leaseKey a.id)).isSome)
    (h : Offering sweep limit rest offers u w) :
    Offering sweep limit (a :: rest) (⟨a, none⟩ :: offers) u w where
  inOrder := List.cons_prefix_cons.mpr ⟨rfl, h.inOrder⟩
  ran := h.ran
  once := h.once
  vacant o ho hran := by
    rcases List.mem_cons.mp ho with rfl | ho
    · cases hran
    · exact h.vacant o ho hran
  passed o ho hran := by
    rcases List.mem_cons.mp ho with rfl | ho
    · exact Or.inl hheld
    · exact h.passed o ho hran
  within n hn := by
    cases n with
    | zero => exact hlimit
    | succ n => exact h.within n (Nat.lt_of_succ_lt_succ hn)
  bound := h.bound
  stops := h.stops.imp_right (congrArg (a :: ·))

variable {o : Turn.Outcome} (hturn : Engine.TookTurn sweep a o u v)
  (h : Offering sweep limit rest offers v w)

include hturn h

/-- Who took a turn does not take another, for its lease is taken. -/
theorem not_again : a.id ∉ takers offers := by
  intro hagain
  obtain ⟨later, hlater, hid⟩ := List.mem_map.mp hagain
  obtain ⟨hmem, hran⟩ := List.mem_filter.mp hlater
  have hheld := (hturn.held (sweep.leaseKey a.id)).mpr (Or.inl rfl)
  rw [← hid, h.vacant later hmem hran] at hheld
  cases hheld

/-- An avatar takes its turn, and with it the lease. -/
theorem take (hlimit : 0 < limit + o.isResponded.toNat) :
    Offering sweep (limit + o.isResponded.toNat) (a :: rest) (⟨a, some o⟩ :: offers) u w where
  inOrder := List.cons_prefix_cons.mpr ⟨rfl, h.inOrder⟩
  ran := by
    have hfirst : Offer.turn? sweep ⟨a, some o⟩ = some (Engine.ambientRequest sweep a, o) := rfl
    rw [h.ran, hturn.turns, List.filterMap_cons_some hfirst, List.reverse_cons, List.append_assoc,
      List.singleton_append]
  once := List.nodup_cons.mpr ⟨not_again hturn h, h.once⟩
  vacant later hlater hran := by
    rcases List.mem_cons.mp hlater with rfl | hlater
    · exact hturn.vacant
    · have hfree := h.vacant later hlater hran
      rw [← Option.not_isSome_iff_eq_none] at hfree ⊢
      exact fun hheld => hfree ((hturn.held _).mpr (Or.inr hheld))
  passed later hlater hran := by
    rcases List.mem_cons.mp hlater with rfl | hlater
    · cases hran
    · rcases h.passed later hlater hran with hheld | htook
      · -- its lease was taken before, or else by the turn just run
        rcases (hturn.held _).mp hheld with hkey | hheld
        · have hid : later.avatar.id = a.id := congrArg (fun k => k.2.1) hkey
          exact Or.inr (List.mem_cons.mpr (Or.inl hid))
        · exact Or.inl hheld
      · exact Or.inr (List.mem_cons_of_mem _ htook)
  within n hn := by
    cases n with
    | zero => exact hlimit
    | succ n =>
      have hrest := h.within n (Nat.lt_of_succ_lt_succ hn)
      rw [List.take_succ_cons, responses_cons]
      exact Nat.add_lt_add_right hrest _
  bound := by
    rw [responses_cons]
    exact Nat.add_le_add_right h.bound _
  stops := by
    rw [responses_cons]
    exact h.stops.imp (congrArg (· + _)) (congrArg (a :: ·))

end Offering

/-- The turns of a sweep are offered until enough have ended with a message, or until a lease cannot be had
because a statement fails. -/
theorem Engine.Discreet.run_runAmbientTurns (h : e.Discreet) {sweep : Sweep} {limit : Nat}
    {speakers : List Avatar} {x : Except Fault Nat} {w w' : World σ}
    (hrun : (e.runAmbientTurns sweep limit speakers).run.run w = (x, w')) :
    (∃ offers, x = .ok (responses offers) ∧ Offering sweep limit speakers offers w w' ∧
        w.store.failures ≤ w'.store.failures) ∨
      (∃ f, x = .error f) ∧ w.store.failures < w'.store.failures := by
  -- on those who are to speak, whatever is left of the limit
  induction speakers generalizing limit x w w' with
  | nil =>
    cases limit <;>
    · obtain ⟨rfl, rfl⟩ := Prod.mk.inj hrun
      exact Or.inl ⟨[], rfl, .closed (Or.inr rfl) _, Nat.le_refl _⟩
  | cons a rest ih =>
    cases limit with
    | zero =>
      obtain ⟨rfl, rfl⟩ := Prod.mk.inj hrun
      exact Or.inl ⟨[], rfl, .closed (Or.inl rfl) _, Nat.le_refl _⟩
    | succ limit =>
      rcases run_runAmbientTurns_cons hrun with
        ⟨responded, left, y, v, hturn, hlimit, hrest, rfl⟩ | ⟨f, hturn, rfl⟩
      · rcases h.run_runAmbientTurn hturn with ⟨hx, hkept, hheld⟩ | ⟨o, hx, htook⟩ | ⟨⟨_, hx⟩, -⟩
        · obtain rfl := Except.ok.inj hx
          obtain rfl := hlimit
          rcases ih hrest with ⟨offers, rfl, hoffers, hle⟩ | ⟨⟨f, rfl⟩, hlt⟩
          · refine Or.inl ⟨⟨a, none⟩ :: offers, ?_,
              (hoffers.after_hush hkept).pass (Nat.succ_pos limit) hheld, Nat.le_trans hkept.failures hle⟩
            rw [responses_cons]
            rfl
          · exact Or.inr ⟨⟨f, rfl⟩, Nat.lt_of_le_of_lt hkept.failures hlt⟩
        · -- a message leaves one less to the others
          obtain rfl := Except.ok.inj hx
          rcases ih hrest with ⟨offers, rfl, hoffers, hle⟩ | ⟨⟨f, rfl⟩, hlt⟩
          · have hpos : 0 < left + o.isResponded.toNat := hlimit ▸ Nat.succ_pos limit
            rw [hlimit]
            refine Or.inl ⟨⟨a, some o⟩ :: offers, ?_, hoffers.take htook hpos,
              Nat.le_trans htook.failures hle⟩
            rw [responses_cons]
            rfl
          · exact Or.inr ⟨⟨f, rfl⟩, Nat.lt_of_le_of_lt htook.failures hlt⟩
        · cases hx
      · rcases h.run_runAmbientTurn hturn with ⟨hx, -⟩ | ⟨_, hx, -⟩ | ⟨-, hlt⟩
        · cases hx
        · cases hx
        · exact Or.inr ⟨⟨f, rfl⟩, hlt⟩

/-! ## Turns and messages -/

/-- The answers under some keys are the turns under these keys that ended with a message. -/
theorem countP_answers (p : String × String → Bool) (journal : List JournalEntry) :
    (answers journal).countP p = (journal.filterMap JournalEntry.turn?).countP fun turn =>
      turn.2.isResponded && p turn.1.key := by
  rw [answers, List.countP_filterMap, List.countP_filterMap]
  refine List.countP_congr fun entry _ => ?_
  cases entry with
  | turn r o =>
    cases o with
    | responded sent => exact Iff.rfl
    | silent | contended | rejected | failed => exact Iff.rfl
  | selected | generating | opened | unprompted | answering | passedOver => exact Iff.rfl

/-- What was said is counted by the turns that ended with a message. -/
theorem World.said_eq (w : World σ) : w.said = w.turns.countP fun turn => turn.2.isResponded := by
  have hcount := countP_answers (fun _ => true) w.journal
  rw [List.countP_true] at hcount
  simp only [Bool.and_true] at hcount
  exact hcount

namespace Offering

variable {sweep : Sweep} {limit : Nat} {speakers : List Avatar} {offers : List Offer} {w w' : World σ}

/-- Of the turns that were run, those under the key of the sweep that ended with a message are the
responses. -/
theorem countP_offered (sweep : Sweep) (offers : List Offer) (p : String × String → Bool)
    (hp : ∀ a, p (Engine.ambientRequest sweep a).key = true) :
    ((offers.filterMap (Offer.turn? sweep)).countP fun turn => turn.2.isResponded && p turn.1.key) =
      responses offers := by
  rw [List.countP_filterMap, responses]
  refine List.countP_congr fun o _ => ?_
  rw [Offer.turn?, Offer.responded]
  cases o.outcome with
  | none => exact Iff.rfl
  | some outcome =>
    simp only [Option.map_some, Option.getD_some, Option.any_some, hp, Bool.and_true]

variable (h : Offering sweep limit speakers offers w w')

include h

/-- As many messages were sent as turns responded. -/
theorem said : w'.said = w.said + responses offers := by
  have hoffered := countP_offered sweep offers (fun _ => true) fun _ => rfl
  simp only [Bool.and_true] at hoffered
  rw [World.said_eq, World.said_eq, h.ran, List.countP_append, List.countP_reverse, hoffered,
    Nat.add_comm]

/-- The gate bounds the responses of a sweep, for all of its turns are admitted under one key. -/
theorem capped {cap : Nat} (hbalanced : Balanced cap w w') : responses offers ≤ cap := by
  obtain ⟨new, hjournal, haccount⟩ := hbalanced
  have hnew : new.filterMap JournalEntry.turn? = (offers.filterMap (Offer.turn? sweep)).reverse := by
    have hran := h.ran
    rw [World.turns, hjournal, List.filterMap_append] at hran
    exact List.append_cancel_right hran
  have hcount : (answers new).countP (·.1 = Trigger.ambientKey sweep.channelId sweep.tick) =
      responses offers := by
    rw [countP_answers, hnew, List.countP_reverse]
    exact countP_offered sweep offers
      (fun k => decide (k.1 = Trigger.ambientKey sweep.channelId sweep.tick)) fun _ => decide_eq_true rfl
  have hle := haccount.answers_le (Trigger.ambientKey sweep.channelId sweep.tick)
  have hcapped := haccount.capped (Trigger.ambientKey sweep.channelId sweep.tick)
  omega

/-- A turn of a sweep belongs to one of those who were to speak, and is its first in the sweep. -/
theorem turn_first {later earlier : List (Turn.Request × Turn.Outcome)} {r : Turn.Request} {o : Turn.Outcome}
    (hturn : w'.turns = later ++ (r, o) :: earlier) (hran : w.turns <:+ earlier) :
    ∃ a ∈ speakers, r = Engine.ambientRequest sweep a ∧
      ∀ t ∈ earlier, t.1.avatar.id = a.id → t ∈ w.turns := by
  obtain ⟨between, rfl⟩ := hran
  have hoffered : (offers.filterMap (Offer.turn? sweep)).reverse = later ++ (r, o) :: between := by
    have hran := h.ran
    rw [hturn, ← List.cons_append, ← List.append_assoc] at hran
    exact (List.append_cancel_right hran).symm
  have honce : ((later ++ (r, o) :: between).map (·.1.avatar.id)).Nodup := by
    rw [← hoffered, List.map_reverse, ← takers_eq]
    exact List.nodup_reverse.mpr h.once
  have hmem : (r, o) ∈ offers.filterMap (Offer.turn? sweep) := by
    rw [← List.mem_reverse, hoffered]
    exact List.mem_append_right _ List.mem_cons_self
  obtain ⟨offer, hoffer, htaken⟩ := List.mem_filterMap.mp hmem
  obtain ⟨outcome, -, hsame⟩ := Option.map_eq_some_iff.mp htaken
  obtain ⟨rfl, rfl⟩ := Prod.mk.inj hsame
  refine ⟨offer.avatar, h.inOrder.subset (List.mem_map_of_mem hoffer), rfl, fun t ht hid => ?_⟩
  rcases List.mem_append.mp ht with hbetween | hbefore
  · rw [List.map_append, List.map_cons] at honce
    have hnew := (List.nodup_cons.mp (List.nodup_append.mp honce).2.1).1
    exact absurd (List.mem_map.mpr ⟨t, hbetween, hid⟩) hnew
  · exact hbefore

end Offering

/-! ## A sweep of a channel -/

/-- A channel is worth the least number of turns, but at least one, that is either the most of them or makes one
for each group of people. -/
theorem Sweep.ambientK_isLeast (humans perSlot maxK : Nat) :
    IsLeast {n | 1 ≤ n ∧ (max maxK 1 ≤ n ∨ humans ≤ n * max perSlot 1)} (ambientK humans perSlot maxK) := by
  have hgroup : 0 < max perSlot 1 := by omega
  -- the division rounds up
  have hceil : ∀ n, (humans + (max perSlot 1 - 1)) / max perSlot 1 ≤ n ↔ humans ≤ n * max perSlot 1 := by
    intro n
    rw [← Nat.lt_add_one_iff, Nat.div_lt_iff_lt_mul hgroup, Nat.add_one_mul]
    omega
  have hslots := (hceil _).mp (Nat.le_refl _)
  rw [ambientK]
  constructor
  · split
    · rename_i hnone
      exact ⟨Nat.le_refl 1, Or.inr ((hceil 1).mp (by omega))⟩
    · split
      · exact ⟨by omega, Or.inl (Nat.le_refl _)⟩
      · exact ⟨by omega, Or.inr hslots⟩
  · rintro n ⟨hone, hmost | henough⟩
    · split
      · exact hone
      · split <;> omega
    · have hfew := (hceil n).mpr henough
      split
      · exact hone
      · split <;> omega

namespace Engine

/-- What a sweep of a channel comes to, where no statement fails. -/
structure Swept (e : Engine σ) (channel : String) (budget turns : Nat) (w w' : World σ) : Prop where
  /-- What it says is the number of turns that ended with a message, -/
  said : w'.said = w.said + turns
  /-- which are no more than the budget, -/
  funded : turns ≤ budget
  /-- nor than the gate lets through for one trigger. -/
  capped : turns ≤ e.config.gate.maxRespondersPerTrigger
  /-- Either there was reason to offer no turns, or turns were offered to those who were to speak by what the
  sweep found, until so many responded. -/
  course : (e.Idle channel budget w ∧ w'.turns = w.turns ∧ turns = 0) ∨
    ∃ found v offers, e.Finds channel w found v ∧
      Offering found.sweep (e.slots found budget) (e.speakers w.clock found) offers w w' ∧
      turns = responses offers

/-- A sweep keeps admissions and responses in balance. -/
theorem Undisturbed.balanced (h : e.Undisturbed) (channel : String) (budget : Nat) :
    Keeps (Balanced e.config.gate.maxRespondersPerTrigger) (e.onChannelTick channel budget) := by
  refine (e.admits rfl fun call w => ?_).directs.onChannelTick channel budget
  refine .of_eq (h.journal call w) ?_
  rw [h.store]

/-- A sweep in which nothing fails visits its channel as described. -/
theorem Undisturbed.run_onChannelTick (h : e.Undisturbed) {channel : String} {budget turns : Nat}
    {w w' : World σ} (hrun : (e.onChannelTick channel budget).run w = (turns, w'))
    (hsound : w'.store.failures = w.store.failures) : e.Swept channel budget turns w w' := by
  have hbalanced := h.balanced channel budget w
  rw [hrun] at hbalanced
  have hidle : ∀ {v : World σ}, e.Idle channel budget w → Hushed w v →
      e.Swept channel budget 0 w v := by
    intro v hidle hkept
    refine ⟨?_, Nat.zero_le _, Nat.zero_le _, Or.inl ⟨hidle, hkept.turns, rfl⟩⟩
    rw [World.said_eq, World.said_eq, hkept.turns]
    rfl
  unfold onChannelTick at hrun
  split at hrun
  · -- no budget, no sweep
    rename_i hzero
    obtain ⟨rfl, rfl⟩ := Prod.mk.inj hrun
    exact hidle (.unfunded hzero) (Hushed.chains.refl w)
  · rcases hsweep : (e.sweepChannel channel budget).run.run w with ⟨x, v⟩
    rw [run_orElse hsweep] at hrun
    obtain ⟨rfl, rfl⟩ := Prod.mk.inj hrun
    rcases h.discreet.run_sweepChannel hsweep with ⟨hkept, hx, hreason | hfailed⟩ |
      ⟨found, v₁, hfinds, hkept, hrun⟩
    · -- the sweep ended before its first turn, for a reason or on a failure
      have hnone : x.toOption.getD 0 = 0 := by
        rcases hx with rfl | ⟨f, rfl⟩ <;> rfl
      rw [hnone]
      exact hidle hreason hkept
    · exact absurd hsound (Nat.ne_of_gt hfailed)
    · -- turns were offered along the ranking
      rcases h.discreet.run_runAmbientTurns hrun with ⟨offers, rfl, hoffers, -⟩ | ⟨-, hfailed⟩
      · have hall := hoffers.after_hush hkept
        have hfunded : responses offers ≤ budget := Nat.le_trans hall.bound (Nat.min_le_right _ _)
        exact ⟨hall.said, hfunded, hall.capped hbalanced,
          Or.inr ⟨found, v₁, offers, hfinds, hall, rfl⟩⟩
      · exact absurd hsound (Nat.ne_of_gt (Nat.lt_of_le_of_lt hkept.failures hfailed))

/-! ## A sweep over all channels -/

/-- Visits to channels, one after another, each with what the ones before have left of the budget and in the
world that they have left. -/
inductive Tours (e : Engine σ) : Nat → List (String × Nat) → World σ → World σ → Prop
  | done (budget w) : Tours e budget [] w w
  | visit {budget channel turns rest u v w} : 0 < budget →
      (e.onChannelTick channel budget).run u = (turns, v) → e.Swept channel budget turns u v →
      Tours e (budget - turns) rest v w → Tours e budget ((channel, turns) :: rest) u w

/-- What a sweep over all channels comes to, where no statement fails. -/
structure Toured (e : Engine σ) (turns : Nat) (w w' : World σ) : Prop where
  /-- What it says is the number of turns that ended with a message, -/
  said : w'.said = w.said + turns
  /-- which are no more than the budget. -/
  funded : turns ≤ e.config.ambient.globalBudget
  /-- It visits the most recently active channels, the latest first, until the budget is used up. -/
  course : ∃ s rows channels visits,
    (Activity.recentChannels e.config.ambient.channelLimit).Runs w.store (.ok channels) s ∧
    Activity.MostRecent w.store.tables e.config.ambient.channelLimit rows channels ∧
    visits.map Prod.fst <+: channels ∧
    e.Tours e.config.ambient.globalBudget visits { w with store := s } w' ∧
    turns = (visits.map Prod.snd).sum ∧
    (turns = e.config.ambient.globalBudget ∨ visits.map Prod.fst = channels)

namespace Undisturbed

variable (h : e.Undisturbed)

include h

/-- Services that disturb nothing say nothing of their own. -/
theorem reticent : e.Reticent where
  journal := h.journal
  failures call w := Nat.le_of_eq (congrArg Store.failures (h.store call w)).symm

/-- A round over channels visits the first of them, each from the world that the visit before left. -/
theorem run_sweepChannels {budget turns : Nat} {channels : List String} {w w' : World σ}
    (hrun : (e.sweepChannels budget channels).run w = (turns, w'))
    (hsound : w'.store.failures = w.store.failures) :
    ∃ visits, visits.map Prod.fst <+: channels ∧ e.Tours budget visits w w' ∧
      turns = (visits.map Prod.snd).sum ∧ turns ≤ budget ∧
      (turns = budget ∨ visits.map Prod.fst = channels) := by
  induction channels generalizing budget turns w w' with
  | nil =>
    cases budget <;>
    · obtain ⟨rfl, rfl⟩ := Prod.mk.inj hrun
      exact ⟨[], List.prefix_rfl, .done _ _, rfl, Nat.zero_le _, Or.inr rfl⟩
  | cons channel rest ih =>
    cases budget with
    | zero =>
      obtain ⟨rfl, rfl⟩ := Prod.mk.inj hrun
      exact ⟨[], List.nil_prefix, .done _ _, rfl, Nat.le_refl _, Or.inl rfl⟩
    | succ budget =>
      rcases hfirst : (e.onChannelTick channel (budget + 1)).run w with ⟨taken, v⟩
      rcases hrest : (e.sweepChannels (budget + 1 - taken) rest).run v with ⟨more, v'⟩
      rw [sweepChannels, run_bind_of hfirst, run_bind_of hrest] at hrun
      obtain ⟨rfl, rfl⟩ := Prod.mk.inj hrun
      -- no statement failed in any of the visits
      obtain ⟨-, -, -, hle, -⟩ := h.reticent.run_onChannelTick_tally hfirst
      obtain ⟨-, -, hle', -⟩ := h.reticent.run_sweepChannels_tally hrest
      have hswept := h.run_onChannelTick hfirst (by omega)
      obtain ⟨visits, hprefix, htours, rfl, hbound, hstops⟩ := ih hrest (by omega)
      refine ⟨(channel, taken) :: visits, List.cons_prefix_cons.mpr ⟨rfl, hprefix⟩,
        .visit (Nat.succ_pos budget) hfirst hswept htours, rfl, ?_, ?_⟩
      · have hfunded := hswept.funded
        omega
      · have hfunded := hswept.funded
        refine hstops.imp (fun hused => ?_) (congrArg (channel :: ·))
        omega

/-- A round over all channels goes by those that the store told as recent. -/
theorem run_tickAll {turns : Nat} {w w' : World σ} (hrun : e.tickAll.run w = (turns, w'))
    (hsound : w'.store.failures = w.store.failures) : e.Toured turns w w' := by
  obtain ⟨sent, hsaid, -, -, -, hexact⟩ := h.reticent.run_tickAll_tally hrun
  obtain rfl := hexact hsound
  rcases hchannels : (Activity.recentChannels e.config.ambient.channelLimit).run.run w.store with ⟨x, s⟩
  have hreads : (Activity.recentChannels e.config.ambient.channelLimit).Runs w.store x s := hchannels
  have hcounts : Counts (Activity.recentChannels e.config.ambient.channelLimit) := Counts.query _ _
  rw [tickAll, run_onStore_bind hchannels] at hrun
  cases x with
  | error f =>
    obtain ⟨rfl, rfl⟩ := Prod.mk.inj hrun
    exact absurd hsound (Nat.ne_of_gt (hcounts.counted hreads))
  | ok channels =>
    have hstart := hcounts.failures hreads
    obtain ⟨-, -, hlater, -⟩ := h.reticent.run_sweepChannels_tally hrun
    have hsame : w'.store.failures = s.failures :=
      Nat.le_antisymm (hsound ▸ hstart) hlater
    obtain ⟨rows, hlatest⟩ := Activity.runs_recentChannels_ok hreads
    obtain ⟨visits, hprefix, htours, hsum, hfunded, hstops⟩ := h.run_sweepChannels hrun hsame
    exact ⟨hsaid, hfunded, s, rows, channels, visits, hreads, hlatest, hprefix, htours, hsum, hstops⟩

end Undisturbed

end Engine

/-- Where the services leave the store alone and no statement fails, whatever the world and the
configuration: a sweep of a channel offers turns, in the order of those who are to speak and at most one to
each avatar, until as many have ended with a message as there are slots within the budget; it says how many
did, and the gate's cap bounds them, too. A sweep over all channels visits the most recently active ones,
the latest first, until its budget is used up, and says how many turns of all visits ended with a message.
There is a slot for each group of people, but at least one and at most so many. -/
theorem sweep_keeps_budget (h : e.Undisturbed) (w : World σ) :
    (∀ channel budget,
      let swept := (e.onChannelTick channel budget).run w
      swept.2.store.failures = w.store.failures → e.Swept channel budget swept.1 w swept.2) ∧
    (let toured := e.tickAll.run w
     toured.2.store.failures = w.store.failures → e.Toured toured.1 w toured.2) ∧
    let c := e.config.ambient
    ∀ humans, IsLeast {n | 1 ≤ n ∧ (max c.maxK 1 ≤ n ∨ humans ≤ n * max c.humansPerSlot 1)}
      (Sweep.ambientK humans c.humansPerSlot c.maxK) := by
  refine ⟨fun channel budget => ?_, ?_, fun humans => Sweep.ambientK_isLeast humans _ _⟩
  · intro swept hsound
    have hrun : (e.onChannelTick channel budget).run w = (swept.1, swept.2) := rfl
    exact h.run_onChannelTick hrun hsound
  · intro toured hsound
    have hrun : e.tickAll.run w = (toured.1, toured.2) := rfl
    exact h.run_tickAll hrun hsound

theorem Engine.crowded_undisturbed : (Engine.crowded (σ := σ) (.plain Avatar.pair "")).Undisturbed := by
  have hstill : ∀ call (w : World σ),
      (Engine.crowded (.plain Avatar.pair "")).outside.after call w = w :=
    Collaborators.after_plain Avatar.pair ""
  exact ⟨fun call w => by rw [hstill], fun call w => by rw [hstill]⟩

/-- In a crowd, one channel uses up the budget of a sweep over two. -/
theorem sweep_keeps_budget_crowded :
    let e : Engine Unit := .crowded (.plain Avatar.pair "")
    let w : World Unit := .crowded 60 ()
    let swept := (e.onChannelTick "c" 2).run w
    let toured := e.tickAll.run w
    (swept.2.store.failures = w.store.failures ∧ swept.1 = 2 ∧ e.Swept "c" 2 swept.1 w swept.2) ∧
      toured.2.store.failures = w.store.failures ∧ toured.1 = 2 ∧ e.Toured toured.1 w toured.2 := by
  intro e w swept toured
  have hswept : swept.2.store.failures = w.store.failures := by decide +kernel
  have htoured : toured.2.store.failures = w.store.failures ∧ toured.1 = 2 := by
    have htick : toured = _ := Engine.crowded_tickAll 59 (.plain Avatar.pair "") ()
    rw [htick]
    decide +kernel
  have hbudget := sweep_keeps_budget (Engine.crowded_undisturbed (σ := Unit)) w
  exact ⟨⟨hswept, by decide +kernel, hbudget.1 "c" 2 hswept⟩, htoured.1, htoured.2, hbudget.2.1 htoured.1⟩

end TurnTaking
