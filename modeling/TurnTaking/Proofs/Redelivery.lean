import TurnTaking.Proofs.Engine.Coordination
import TurnTaking.Proofs.Responders

/-!
# Redelivery — a message that comes again

The gate counts the avatars that answered a message and knows each of them. When the message comes
again, to the same engine or to another one on the same store, nobody who answered it is asked once
more. Who did not may be: the tiers select anew, and the gate admits whom they select as long as the cap
leaves room.

* `Silent` — nobody was asked for a text, nobody answered, and no responder row changed;
* `Engine.respondAll_silent` — what is left of a coordination whose selections the gate all rejects;
* `redelivery_spares_responders` — the second delivery asks nobody who answered the first, and nobody at
  all if it selects no one else or the cap is met;
* `redelivery_reaches_others` — without that condition it may ask somebody, and be answered.
-/

namespace TurnTaking

open Store Store.Access

variable {σ : Type}

/-- Nobody was asked for a text, nobody answered, and no responder row changed. -/
def Silent (w w' : World σ) : Prop :=
  ∃ new, w'.journal = new ++ w.journal ∧
    (∀ entry ∈ new, entry.answer? = none ∧ ∀ r, entry ≠ .generating r) ∧
      w'.store.tables.responderKeys = w.store.tables.responderKeys

namespace Silent

/-- Where neither journal nor admissions change, nothing is said. -/
theorem of_eq {w w' : World σ} (hj : w'.journal = w.journal)
    (hk : w'.store.tables.responderKeys = w.store.tables.responderKeys) : Silent w w' :=
  ⟨[], hj, fun _ h => absurd h List.not_mem_nil, hk⟩

theorem chains : Chains (Silent : World σ → World σ → Prop) where
  refl w := of_eq rfl rfl
  trans := by
    rintro u v w ⟨new, hv, hnew, hk⟩ ⟨new', hw, hnew', hk'⟩
    refine ⟨new' ++ new, ?_, ?_, hk'.trans hk⟩
    · rw [hw, hv, List.append_assoc]
    · intro entry hentry
      rcases List.mem_append.mp hentry with h | h
      · exact hnew' entry h
      · exact hnew entry h

theorem calm : Calm Tables.responderKeys (Silent : World σ → World σ → Prop) where
  toChains := chains
  unseen hstore hstill := of_eq hstill.journal hstore.view

theorem noted {w w' : World σ} {entry : JournalEntry} (hanswer : entry.answer? = none)
    (hgenerating : ∀ r, entry ≠ .generating r) (h : Silent w w') : Silent w (w'.noted entry) := by
  refine chains.trans h ⟨[entry], rfl, ?_, rfl⟩
  intro entry' hentry'
  obtain rfl := List.mem_singleton.mp hentry'
  exact ⟨hanswer, hgenerating⟩

theorem keys {w w' : World σ} (h : Silent w w') :
    w'.store.tables.responderKeys = w.store.tables.responderKeys := by
  obtain ⟨_, -, -, hk⟩ := h
  exact hk

/-- Nobody was asked for a text since. -/
theorem not_generating {w w' : World σ} (h : Silent w w') (r : Turn.Request) :
    .generating r ∉ w'.since w := by
  obtain ⟨new, hj, hnew, -⟩ := h
  rw [World.since_eq hj]
  intro hr
  exact (hnew _ hr).2 r rfl

end Silent

/-- The gate has no admission left for the pair of trigger key and avatar: it was admitted, or the cap is
met. -/
def Blocked (cap : Nat) (p : String × String) (w : World σ) : Prop :=
  p ∈ w.store.tables.responderKeys ∨ cap ≤ w.store.tables.responderKeys.countP (·.1 = p.1)

/-- Who is blocked stays blocked while nothing is said. -/
theorem Blocked.later {cap : Nat} {p : String × String} {w w' : World σ} (h : Blocked cap p w)
    (hs : Silent w w') : Blocked cap p w' := by
  rw [Blocked, hs.keys]
  exact h

namespace Engine

variable {e : Engine σ}

/-! ## Turns that the gate rejects -/

/-- A turn that the gate cannot admit ends without a message, and nobody is asked for a text. -/
theorem runTurn_silent (h : e.Served Tables.responderKeys Silent) {r : Turn.Request} {g : Gate.Request}
    (hgate : r.gate = some g) (hkey : (g.triggerKey, g.avatarId) = r.key) {w w' : World σ}
    {o : Turn.Outcome} (hblocked : Blocked e.config.gate.maxRespondersPerTrigger r.key w)
    (hrun : (e.runTurn r).run w = (o, w')) : o.sent? = none ∧ Silent w w' := by
  obtain ⟨x, s, htry, hrest⟩ := run_runTurn hrun
  have hlock : Silent w { w with store := s } :=
    h.unseen (Lock.tryGuard_frames h.locks _ _ _ _ _ _ _ htry) ⟨rfl, rfl, rfl⟩
  have hblocked' := hblocked.later hlock
  rcases hrest with ⟨guard, w₁, -, hlocked, rfl⟩ | ⟨-, hsent, rfl⟩
  · obtain ⟨y, s', henter, hend⟩ := run_runLocked hgate hlocked
    -- the gate cannot have admitted the turn
    have hrejected : y ≠ .ok .admitted ∧ s'.tables.responderKeys = s.tables.responderKeys := by
      rcases Gate.runs_enter henter with ⟨a, rfl, ⟨-, hgranted⟩ | ⟨hne, hkeys⟩⟩ | ⟨⟨f, rfl⟩, hkeys⟩
      · have habsent := hgranted.absent
        have hroom := hgranted.room
        rw [hkey] at habsent
        rw [show g.triggerKey = r.key.1 from congrArg Prod.fst hkey] at hroom
        rcases hblocked' with hmem | hfull
        · exact absurd hmem habsent
        · exact absurd hroom (Nat.not_lt.mpr hfull)
      · exact ⟨by simpa using hne, hkeys⟩
      · exact ⟨by simp, hkeys⟩
    rcases hend with ⟨hy, -⟩ | ⟨-, hsent, rfl⟩
    · exact absurd hy hrejected.1
    · have hdrop := Lock.Guard.drop_frames h.locks guard _ _ _ (runs_after _ s')
      refine ⟨hsent, Silent.noted (answer?_turn hsent) (fun _ => JournalEntry.noConfusion) ?_⟩
      exact h.trans hlock (.of_eq rfl (hdrop.view.trans hrejected.2))
  · exact ⟨hsent, hlock.noted (answer?_turn hsent) fun _ => JournalEntry.noConfusion⟩

/-- Who is blocked gives no answer. -/
theorem answer_silent (h : e.Served Tables.responderKeys Silent) {channel : String}
    {message : Option Message} {trigger : Trigger} {key : String} {depth : Nat} {s : Selection}
    {lease : Option Lease.Guard} {w w' : World σ} {response : Option Response}
    (hblocked : Blocked e.config.gate.maxRespondersPerTrigger (key, s.avatar.id) w)
    (hrun : (e.answer channel message trigger key depth s lease).run w = (response, w')) :
    response = none ∧ Silent w w' := by
  rcases hr : (e.runTurn (requestOf channel message trigger key depth s)).run w with ⟨o, w₁⟩
  obtain ⟨hsent, hsilent⟩ :=
    runTurn_silent (r := requestOf channel message trigger key depth s) h rfl rfl hblocked hr
  have hsettle := h.settleLease responderKeys_settling lease o w₁
  rw [answer, run_bind_of hr] at hrun
  simp only [hsent] at hrun
  obtain ⟨rfl, rfl⟩ := Prod.mk.inj hrun
  exact ⟨rfl, h.trans hsilent hsettle⟩

/-- Who is blocked gives no answer under a lease either. -/
theorem respondLeased_silent (h : e.Served Tables.responderKeys Silent) {channel : String}
    {message : Option Message} {trigger : Trigger} {key : String} {context : CoordinationContext}
    {s : Selection} {lease : Option Lease.Guard} {w w' : World σ} {response : Option Response}
    (hblocked : Blocked e.config.gate.maxRespondersPerTrigger (key, s.avatar.id) w)
    (hrun : (e.respondLeased channel message trigger key context s lease).run w = (response, w')) :
    response = none ∧ Silent w w' := by
  unfold respondLeased at hrun
  split at hrun
  · rename_i tick m _
    have hnoted : Silent w (w.noted (.answering channel s.avatar.id tick m.id s.tier)) :=
      (h.refl w).noted rfl fun _ => JournalEntry.noConfusion
    rw [run_bind_of (w.run_note _)] at hrun
    obtain ⟨hnone, hsilent⟩ := answer_silent h (hblocked.later hnoted) hrun
    exact ⟨hnone, h.trans hnoted hsilent⟩
  · exact answer_silent h hblocked hrun

/-- Who is blocked gives no response. -/
theorem respond_silent (h : e.Served Tables.responderKeys Silent) {channel : String}
    {message : Option Message} {trigger : Trigger} {key : String} {context : CoordinationContext}
    {s : Selection} {w w' : World σ} {response : Option Response}
    (hblocked : Blocked e.config.gate.maxRespondersPerTrigger (key, s.avatar.id) w)
    (hrun : (e.respond channel message trigger key context s).run w = (response, w')) :
    response = none ∧ Silent w w' := by
  rcases hl : (e.leaseSelection channel message s context.leaseTick).run.run w with ⟨decision, w₁⟩
  have hlease := h.leaseSelection responderKeys_leases channel message s context.leaseTick w
  rw [hl] at hlease
  have hblocked₁ := hblocked.later hlease
  have hleased : ∀ lease, (e.respondLeased channel message trigger key context s lease).run w₁ =
      (response, w') → response = none ∧ Silent w w' := by
    intro lease hrest
    obtain ⟨hnone, hsilent⟩ := respondLeased_silent h hblocked₁ hrest
    exact ⟨hnone, h.trans hlease hsilent⟩
  rw [respond, run_bind_of hl] at hrun
  split at hrun
  · obtain ⟨rfl, rfl⟩ := Prod.mk.inj hrun
    exact ⟨rfl, hlease⟩
  · split at hrun
    · rw [run_bind_of (w₁.run_note _)] at hrun
      obtain ⟨rfl, rfl⟩ := Prod.mk.inj hrun
      exact ⟨rfl, Silent.noted rfl (fun _ => JournalEntry.noConfusion) hlease⟩
    · obtain ⟨rfl, rfl⟩ := Prod.mk.inj hrun
      exact ⟨rfl, hlease⟩
  · exact hleased _ hrun
  · exact hleased _ hrun

/-- Where the gate rejects every selection, nobody responds. -/
theorem respondAll_silent (h : e.Served Tables.responderKeys Silent) {channel : String}
    {message : Option Message} {trigger : Trigger} {key : String} {context : CoordinationContext}
    {limit : Nat} {selections : List Selection} {w w' : World σ} {responses : List Response}
    (hblocked : ∀ s ∈ selections,
      Blocked e.config.gate.maxRespondersPerTrigger (key, s.avatar.id) w)
    (hrun : (e.respondAll channel message trigger key context limit selections).run w =
      (responses, w')) :
    responses = [] ∧ Silent w w' := by
  induction selections generalizing limit w with
  | nil =>
    have hend : (([] : List Response), w) = (responses, w') := by
      cases limit <;> exact hrun
    obtain ⟨rfl, rfl⟩ := Prod.mk.inj hend
    exact ⟨rfl, h.refl w⟩
  | cons s rest ih =>
    cases limit with
    | zero =>
      obtain ⟨rfl, rfl⟩ := Prod.mk.inj (show (([] : List Response), w) = (responses, w') from hrun)
      exact ⟨rfl, h.refl w⟩
    | succ limit =>
      rcases hs : (e.respond channel message trigger key context s).run w with ⟨response, w₁⟩
      obtain ⟨rfl, hsilent⟩ := respond_silent h (hblocked s List.mem_cons_self) hs
      rw [respondAll, run_bind_of hs] at hrun
      have hrest : ∀ s' ∈ rest, Blocked e.config.gate.maxRespondersPerTrigger (key, s'.avatar.id) w₁ :=
        fun s' hs' => (hblocked s' (List.mem_cons_of_mem _ hs')).later hsilent
      obtain ⟨hnil, hsilent'⟩ := ih hrest hrun
      exact ⟨hnil, h.trans hsilent hsilent'⟩

/-! ## Coordinations -/

/-- A message is answered by the turns of those whom the tiers selected, after nothing but silent
steps. -/
theorem run_answerTrigger_silent (h : e.Served Tables.responderKeys Silent) {channel : String}
    {m : Message} {context : CoordinationContext} {x : Except Fault (List Response × List Avatar)}
    {w w' : World σ} (hrun : (e.answerTrigger channel (some m) context).run.run w = (x, w')) :
    (∃ f, x = .error f ∧ Silent w w') ∨
      ∃ trigger inChannel selections w₁ responses, Silent w w₁ ∧
        (e.respondAll channel (some m) trigger (Trigger.messageKey channel m.id) context
          e.config.coordination.maxResponsesPerMessage selections).run
            (w₁.noted (.selected (Trigger.messageKey channel m.id) selections)) = (responses, w') ∧
          x = .ok (responses, inChannel) := by
  obtain ⟨candidates, w₁, hfound, hrest⟩ := run_answerTrigger hrun
  have hcandidates := h.candidates channel (some m) w.clock w
  rw [hfound] at hcandidates
  rcases hrest with ⟨f, -, rfl, rfl⟩ | ⟨found, key, w₂, -, hkey, hrest⟩
  · exact .inl ⟨f, rfl, hcandidates⟩
  · -- the key of a message is no access of the store
    have hkey' : ((.ok (Trigger.messageKey channel m.id) : Except Fault String), w₁) = (key, w₂) := hkey
    obtain ⟨rfl, rfl⟩ := Prod.mk.inj hkey'
    rcases hrest with ⟨f, hk, -⟩ | ⟨k, selections, w₃, responses, hk, hselect, hall, rfl⟩
    · cases hk
    · obtain rfl := Except.ok.inj hk
      have hselected := h.selectResponders ⟨channel, some m,
        Trigger.classify (some m) found.inChannel, found.eligible, found.ranked, w.clock⟩ w₁
      rw [hselect] at hselected
      exact .inr ⟨_, found.inChannel, selections, w₃, responses, h.trans hcandidates hselected, hall,
        rfl⟩

/-- What comes after the answers to a trigger only adds to the journal, and is nothing at all if there
were none. -/
theorem run_coordinateNested_grows {cap : Nat} (h : e.Upholds Tables.responderKeys (Balanced cap))
    {levels : Nat} {channel : String} {message : Option Message} {context : CoordinationContext}
    {x : Except Fault (List Response)} {w w' : World σ}
    (hrun : (e.coordinateNested levels channel message context).run.run w = (x, w')) :
    ∃ answered w₁, (e.answerTrigger channel message context).run.run w = (answered, w₁) ∧
      x = answered.map Prod.fst ∧ w₁.journal <:+ w'.journal ∧
        ((∀ p, answered = .ok p → p.1 = []) → w' = w₁) := by
  obtain ⟨answered, w₁, hanswer, hx, hrest⟩ := run_coordinateNested hrun
  refine ⟨answered, w₁, hanswer, hx, ?_⟩
  rcases hrest with ⟨rfl, -⟩ | ⟨fewer, responses, inChannel, -, rfl, hcascade⟩
  · exact ⟨List.suffix_refl _, fun _ => rfl⟩
  · constructor
    · have hkeep := h.directs.cascade
        (fun m => e.coordinateNested fewer channel (some m) ⟨none, context.depth + 1⟩)
        (fun m => h.directs.coordinateNested fewer channel (some m) ⟨none, context.depth + 1⟩) channel
        ((namedBy responses inChannel).take e.config.coordination.mentionCascadeFanout) w₁
      rw [hcascade] at hkeep
      exact h.grows hkeep
    · -- nobody is named where nobody responded
      intro hnone
      have hnil : responses = [] := hnone _ rfl
      rw [hnil, namedBy, List.flatMap_nil, List.take_nil] at hcascade
      have hend : ((), w₁) = ((), w') := hcascade
      exact (Prod.mk.inj hend).2.symm

/-- If every selection that a coordination notes was blocked from the outset, it asks nobody for a text
and comes to no response. -/
theorem coordinate_silent (h : e.Served Tables.responderKeys Silent) {cap : Nat}
    (hu : e.Upholds Tables.responderKeys (Balanced cap)) {channel : String} {m : Message}
    {context : CoordinationContext} {x : Except Fault (List Response)} {w w' : World σ}
    (hblocked : ∀ a ∈ selectedTo (Trigger.messageKey channel m.id) (w'.since w),
      Blocked e.config.gate.maxRespondersPerTrigger (Trigger.messageKey channel m.id, a) w)
    (hrun : (e.coordinate channel (some m) context).run.run w = (x, w')) :
    (∀ responses, x = .ok responses → responses = []) ∧ Silent w w' := by
  obtain ⟨answered, w₁, hanswer, rfl, hgrows, hsame⟩ := run_coordinateNested_grows hu hrun
  suffices hmain : (∀ p, answered = .ok p → p.1 = []) ∧ Silent w w₁ by
    rw [hsame hmain.1]
    refine ⟨fun responses hresponses => ?_, hmain.2⟩
    rcases answered with f | p
    · cases hresponses
    · rw [← Except.ok.inj hresponses]
      exact hmain.1 p rfl
  rcases run_answerTrigger_silent h hanswer with ⟨f, rfl, hsilent⟩ |
    ⟨trigger, inChannel, selections, w₂, responses, hsilent, hall, rfl⟩
  · exact ⟨fun p hp => (nomatch hp), hsilent⟩
  · have hturns := hu.respondAll channel (some m) trigger (Trigger.messageKey channel m.id) context
      e.config.coordination.maxResponsesPerMessage selections
      (w₂.noted (.selected (Trigger.messageKey channel m.id) selections))
    rw [hall] at hturns
    have hnoted : Silent w (w₂.noted (.selected (Trigger.messageKey channel m.id) selections)) :=
      hsilent.noted rfl fun _ => JournalEntry.noConfusion
    -- the selections are noted in the end, so that they were blocked
    obtain ⟨new, hnew, -⟩ := hsilent
    have hmem := World.mem_since ⟨new, hnew.symm⟩ ((hu.grows hturns).trans hgrows)
    obtain ⟨rfl, hsilent'⟩ := respondAll_silent h
      (fun s hs => (hblocked _ (mem_selectedTo hmem hs)).later hnoted) hall
    refine ⟨fun p hp => ?_, h.trans hnoted hsilent'⟩
    rw [← Except.ok.inj hp]

/-- A message whose selections are all blocked from the outset is not answered. -/
theorem answerInTick_silent (h : e.Served Tables.responderKeys Silent) {cap : Nat}
    (hu : e.Upholds Tables.responderKeys (Balanced cap)) {channel : String} {m : Message} {now : Int}
    {heard : Bool} {w w' : World σ}
    (hblocked : ∀ a ∈ selectedTo (Trigger.messageKey channel m.id) (w'.since w),
      Blocked e.config.gate.maxRespondersPerTrigger (Trigger.messageKey channel m.id, a) w)
    (hrun : (e.answerInTick channel m now).run w = (heard, w')) : heard = false ∧ Silent w w' := by
  have hpeek := runs_after (Tick.peek channel now) w.store
  have hsilent : Silent w { w with store := (Tick.peek channel now).after w.store } :=
    h.unseen (Tick.peek_frames responderKeys_ticks _ _ _ _ _ hpeek) ⟨rfl, rfl, rfl⟩
  rw [answerInTick, run_onStore_bind hpeek] at hrun
  rcases hx : (Tick.peek channel now).outcome w.store with f | tick
  · -- the tick cannot be read
    rw [hx] at hrun
    obtain ⟨rfl, rfl⟩ := Prod.mk.inj hrun
    exact ⟨rfl, hsilent⟩
  · rw [hx] at hrun
    -- in the tick, everyone who is selected is blocked
    rcases hc : (e.coordinate channel (some m) ⟨some tick, 0⟩).run.run
      { w with store := (Tick.peek channel now).after w.store } with ⟨x, w₁⟩
    simp only [run_bind_of (run_orElse hc)] at hrun
    obtain ⟨rfl, rfl⟩ := Prod.mk.inj hrun
    obtain ⟨hnil, hcoordinate⟩ := coordinate_silent h hu
      (w := { w with store := (Tick.peek channel now).after w.store })
      (fun a ha => (hblocked a ha).later hsilent) hc
    refine ⟨?_, h.trans hsilent hcoordinate⟩
    cases x with
    | error f => rfl
    | ok responses =>
      rw [hnil responses rfl]
      rfl

/-- A message whose responders are all blocked is heard in silence. -/
theorem onMessage_silent (h : e.Served Tables.responderKeys Silent) {cap : Nat}
    (hu : e.Upholds Tables.responderKeys (Balanced cap)) {channel : String} {m : Message} {heard : Bool}
    {w w' : World σ}
    (hblocked : ∀ a ∈ selectedTo (Trigger.messageKey channel m.id) (w'.since w),
      Blocked e.config.gate.maxRespondersPerTrigger (Trigger.messageKey channel m.id, a) w)
    (hrun : (e.onMessage channel m).run w = (heard, w')) : heard = false ∧ Silent w w' := by
  rw [onMessage, run_clockNow_bind] at hrun
  dsimp only at hrun
  split at hrun
  · -- the record of a person's activity comes first
    let v : World σ :=
      ((quietly (onStore (Activity.recordHuman channel m.authorId w.clock)) : Act σ Unit).run w).2
    have hrecord : Silent w v := h.quietlyOnStore
      (Activity.recordHuman_frames h.side.activity h.side.humans channel m.authorId w.clock) w
    obtain ⟨hfalse, hsilent⟩ := answerInTick_silent (w := v) h hu
      (fun a ha => (hblocked a ha).later hrecord) hrun
    exact ⟨hfalse, h.trans hrecord hsilent⟩
  · exact answerInTick_silent h hu hblocked hrun

end Engine

/-! ## Deliveries -/

/-- The services of the engine run no operations: whatever a call changes, no responder row and nothing
in the journal. -/
def Engine.Detached (e : Engine σ) : Prop := ∀ call w, RespondersKept w (e.outside.after call w)

/-- Detached services are silent. -/
theorem Engine.Detached.silent {e : Engine σ} (h : e.Detached) :
    e.Served Tables.responderKeys Silent :=
  .of_services Silent.calm responderKeys_side (fun _ _ => rfl)
    fun call w => .of_eq (h call w).1 (h call w).keys

theorem Engine.Detached.balanced {e : Engine σ} (h : e.Detached) :
    e.Upholds Tables.responderKeys (Balanced e.config.gate.maxRespondersPerTrigger) :=
  Engine.admits rfl fun call w => .of_eq (h call w).1 (h call w).keys

/-- When everyone who was selected for a message has answered it, and it comes again, to the same engine
or to another one on the same store, then nobody of them is asked again for a text that answers it. And
nobody at all is asked, and the second delivery says so, if it selects nobody else or as many have
answered as the gate admits. -/
theorem redelivery_spares_responders {e₁ e₂ : Engine σ} (h₁ : e₁.Detached) (h₂ : e₂.Detached)
    {channel : String} {m : Message} {w₀ w₁ w₂ w₃ : World σ} {heard again : Bool}
    (hfirst : (e₁.onMessage channel m).run w₀ = (heard, w₁)) (hbetween : RespondersKept w₁ w₂)
    (hsecond : (e₂.onMessage channel m).run w₂ = (again, w₃))
    (hall : ∀ a ∈ selectedTo (Trigger.messageKey channel m.id) (w₁.since w₀),
      a ∈ respondersTo (Trigger.messageKey channel m.id) (w₁.since w₀)) :
    (∀ r, .generating r ∈ w₃.since w₂ → r.options.triggerKey = Trigger.messageKey channel m.id →
        r.avatar.id ∉ selectedTo (Trigger.messageKey channel m.id) (w₁.since w₀)) ∧
      (selectedTo (Trigger.messageKey channel m.id) (w₃.since w₂) ⊆
            selectedTo (Trigger.messageKey channel m.id) (w₁.since w₀) ∨
          e₂.config.gate.maxRespondersPerTrigger ≤
            (respondersTo (Trigger.messageKey channel m.id) (w₁.since w₀)).length →
        (∀ r, .generating r ∉ w₃.since w₂) ∧ again = false) := by
  have hkeep₁ : Balanced e₁.config.gate.maxRespondersPerTrigger w₀ w₁ := by
    have hkeep := h₁.balanced.directs.onMessage channel m w₀
    rwa [hfirst] at hkeep
  have hkeep₂ : Balanced e₂.config.gate.maxRespondersPerTrigger w₂ w₃ := by
    have hkeep := h₂.balanced.directs.onMessage channel m w₂
    rwa [hsecond] at hkeep
  obtain ⟨new, hj, hnew⟩ := hkeep₁
  obtain ⟨new', hj', hnew'⟩ := hkeep₂
  rw [World.since_eq hj] at hall ⊢
  -- whoever answered has a row that is still there
  have hrow : ∀ a ∈ respondersTo (Trigger.messageKey channel m.id) new,
      (Trigger.messageKey channel m.id, a) ∈ w₂.store.tables.responderKeys := by
    intro a ha
    have hpos := List.count_pos_iff.mpr (mem_respondersTo.mp ha)
    have hkept := hnew.kept (Trigger.messageKey channel m.id, a)
    rw [hbetween.keys]
    exact List.count_pos_iff.mp (by omega)
  constructor
  · intro r hr hkey hselected
    rw [World.since_eq hj'] at hr
    refine hnew'.fresh r hr ?_
    rw [hkey]
    exact hrow _ (hall _ hselected)
  · intro hcase
    have hblocked : ∀ a ∈ selectedTo (Trigger.messageKey channel m.id) (w₃.since w₂),
        Blocked e₂.config.gate.maxRespondersPerTrigger (Trigger.messageKey channel m.id, a) w₂ := by
      intro a ha
      rcases hcase with hsub | hfull
      · exact .inl (hrow a (hall a (hsub ha)))
      · right
        have hle := hnew.answers_le (Trigger.messageKey channel m.id)
        rw [length_respondersTo] at hfull
        rw [hbetween.keys]
        exact Nat.le_trans hfull (Nat.le_trans (Nat.le_add_right _ _) hle)
    obtain ⟨hfalse, hsilent⟩ := Engine.onMessage_silent h₂.silent h₂.balanced hblocked hsecond
    exact ⟨hsilent.not_generating, hfalse⟩

theorem Collaborators.plain_detached {e : Engine σ} {avatars : List Avatar} {text : String}
    (h : e.outside = .plain avatars text) : e.Detached := by
  intro call w
  rw [h, Collaborators.after_plain]
  exact ⟨rfl, rfl⟩

/-- The case of an engine whose gate admits one avatar, where another engine had the message answered
before. -/
theorem redelivery_spares_responders_capped :
    let m := Message.human "m" "c" "u" "?" 0
    let w : World Unit := .ofTables .threaded ()
    let outside : Collaborators Unit := .plain Avatar.pair ""
    let strict : Config := { Config.standard with gate := ⟨2000, 0, 1⟩ }
    let first := ((Engine.standard outside).onMessage "c" m).run w
    let second := ((⟨strict, .standard, 1, outside⟩ : Engine Unit).onMessage "c" m).run first.2
    let key := Trigger.messageKey "c" "m"
    selectedTo key (first.2.since w) = ["ada"] ∧
      (∀ r, .generating r ∈ second.2.since first.2 → r.options.triggerKey = key →
        r.avatar.id ∉ selectedTo key (first.2.since w)) ∧
      (∀ r, .generating r ∉ second.2.since first.2) ∧ second.1 = false := by
  intro m w outside strict first second key
  have hfirst : (Engine.standard outside).Detached := Collaborators.plain_detached rfl
  have hsecond : (⟨strict, .standard, 1, outside⟩ : Engine Unit).Detached :=
    Collaborators.plain_detached rfl
  have hspared := redelivery_spares_responders (m := m) hfirst hsecond
    (Prod.eta first).symm ⟨rfl, rfl⟩ (Prod.eta second).symm (by decide +kernel)
  exact ⟨by decide +kernel, hspared.1, hspared.2 (.inr (by decide +kernel))⟩

/-- It is not so that a message is never answered again once everyone who was selected for it has
answered: in a thread the second delivery selects the other participant, whom the gate admits. -/
theorem redelivery_reaches_others :
    ¬ ∀ (e₁ e₂ : Engine Unit) (channel : String) (m : Message) (w : World Unit),
      e₁.Detached → e₂.Detached →
      let key := Trigger.messageKey channel m.id
      let first := (e₁.onMessage channel m).run w
      let second := (e₂.onMessage channel m).run first.2
      selectedTo key (first.2.since w) ≠ [] →
      (∀ a ∈ selectedTo key (first.2.since w), a ∈ respondersTo key (first.2.since w)) →
      (∀ r, .generating r ∉ second.2.since first.2) ∧ second.1 = false := by
  intro h
  have hdetached : (Engine.standard (.plain Avatar.pair "") : Engine Unit).Detached :=
    Collaborators.plain_detached rfl
  have hagain := h (.standard (.plain Avatar.pair "")) (.standard (.plain Avatar.pair "")) "c"
    (.human "m" "c" "u" "?" 0) (.ofTables .threaded ()) hdetached hdetached (by decide +kernel)
    (by decide +kernel)
  exact absurd hagain.2 (by decide +kernel)

end TurnTaking
