import TurnTaking.Proofs.Engine.Coordination
import TurnTaking.Proofs.Engine.Course
import TurnTaking.Proofs.Engine.Turn

/-!
# Cascades — how much one trigger can set off

Whatever the responses say, and whomever they name: a coordination has its trigger answered, starts a
few nested coordinations, and each of them only has its response answered. So what comes of one trigger
is bounded by the configuration.

* `Spoken` — how many turns ended with a message in a stretch of work, at one depth;
* `Engine.Nested` — a run of nested coordinations, one after another;
* `coordination_bounded` — the bounds on responses, nested coordinations, messages and depths.
-/

namespace TurnTaking

open Store Store.Access

variable {σ : Type}

/-- So many turns ended with a message, and texts were asked for at this depth only. -/
def Spoken (n depth : Nat) (w w' : World σ) : Prop :=
  ∃ new, w'.journal = new ++ w.journal ∧ (answers new).length = n ∧
    ∀ r, .generating r ∈ new → r.options.depth = depth

namespace Spoken

variable {n m depth : Nat} {u v w : World σ}

theorem of_journal (hj : w.journal = v.journal) : Spoken 0 depth v w :=
  ⟨[], hj, rfl, fun _ h => absurd h List.not_mem_nil⟩

theorem trans (h : Spoken n depth u v) (h' : Spoken m depth v w) : Spoken (n + m) depth u w := by
  obtain ⟨new, hv, hnew, hdepth⟩ := h
  obtain ⟨new', hw, hnew', hdepth'⟩ := h'
  refine ⟨new' ++ new, ?_, ?_, ?_⟩
  · rw [hw, hv, List.append_assoc]
  · rw [answers_append, List.length_append]
    omega
  · intro r hr
    rcases List.mem_append.mp hr with hlater | hearlier
    · exact hdepth' r hlater
    · exact hdepth r hearlier

/-- What leaves the journal alone adds nothing. -/
theorem after_still (hj : v.journal = u.journal) (h : Spoken n depth v w) : Spoken n depth u w := by
  have hstill : Spoken 0 depth u v := of_journal hj
  have hboth := hstill.trans h
  rwa [Nat.zero_add] at hboth

theorem chains (depth : Nat) : Chains (Spoken 0 depth : World σ → World σ → Prop) where
  refl _ := of_journal rfl
  trans h h' := h.trans h'

theorem calm (depth : Nat) : Calm (fun _ => ()) (Spoken 0 depth : World σ → World σ → Prop) where
  toChains := chains depth
  unseen _ hstill := of_journal hstill.journal

/-- One more entry that is neither an answer nor the request of a text. -/
theorem noted {entry : JournalEntry} (hanswer : entry.answer? = none)
    (hgenerating : ∀ r, entry ≠ .generating r) : Spoken 0 depth w (w.noted entry) := by
  refine ⟨[entry], rfl, ?_, ?_⟩
  · rw [answers_cons_none hanswer]
    rfl
  · intro r hr
    exact absurd (List.mem_singleton.mp hr).symm (hgenerating r)

/-- A turn asks for a text at its own depth. -/
theorem generating (r : Turn.Request) :
    Keeps (Spoken 0 r.options.depth) (note (.generating r) : Act σ Unit) := by
  intro w
  refine ⟨[.generating r], rfl, rfl, ?_⟩
  intro r' hr'
  rw [JournalEntry.generating.inj (List.mem_singleton.mp hr')]

/-- The end of a turn adds a message if there is one. -/
theorem turn (r : Turn.Request) (o : Turn.Outcome) :
    Spoken o.isResponded.toNat depth w (w.noted (.turn r o)) := by
  refine ⟨[.turn r o], rfl, ?_, ?_⟩
  · cases o with
    | responded sent => rfl
    | silent | contended | rejected | failed => rfl
  · intro r' hr'
    cases List.mem_singleton.mp hr'

end Spoken

/-- The services of the engine run no operations of engines. Besides that they may do to the world what
they like. -/
def Engine.Aloof (e : Engine σ) : Prop := ∀ call w, (e.outside.after call w).journal = w.journal

namespace Engine

variable {e : Engine σ}

/-- What stays aloof adds no message of its own. -/
theorem Aloof.served (h : e.Aloof) (depth : Nat) : e.Served (fun _ => ()) (Spoken 0 depth) :=
  .of_services (Spoken.calm depth) .unseen (fun _ _ => rfl) fun call w => .of_journal (h call w)

/-! ## The answer to a trigger -/

/-- A turn says one message, or none. -/
theorem runTurn_spoken (h : e.Aloof) {r : Turn.Request} {o : Turn.Outcome} {w w' : World σ}
    (hrun : (e.runTurn r).run w = (o, w')) :
    Spoken o.isResponded.toNat r.options.depth w w' := by
  have hserved := h.served r.options.depth
  obtain ⟨w₁, hbefore, rfl⟩ :=
    hserved.toVoiced.run_runTurn (fun _ _ => rfl) (Spoken.generating r) hrun
  have hturn := hbefore.trans (Spoken.turn r o)
  rwa [Nat.zero_add] at hturn

variable {channel key : String} {message : Option Message} {trigger : Trigger}
  {context : CoordinationContext} {s : Selection} {w w' : World σ}

/-- An answer says the message that it returns. -/
theorem answer_spoken (h : e.Aloof) {depth : Nat} {lease : Option Lease.Guard}
    {response : Option Response}
    (hrun : (e.answer channel message trigger key depth s lease).run w = (response, w')) :
    Spoken response.isSome.toNat depth w w' := by
  have hserved := h.served depth
  obtain ⟨o, w₁, hturn, hrest⟩ := run_answer hrun
  have hspoken : Spoken o.isResponded.toNat depth w w₁ := runTurn_spoken h hturn
  have hsettled : Spoken 0 depth w₁ ((settleLease lease o).run w₁).2 :=
    hserved.settleLease (.of_leases fun _ _ => rfl) lease o w₁
  have hturned := hspoken.trans hsettled
  cases hsent : o.sent? with
  | none =>
    rw [Turn.Outcome.isResponded, hsent] at hturned
    simp only [hsent] at hrest
    obtain ⟨rfl, rfl⟩ := hrest
    exact hturned
  | some sent =>
    rw [Turn.Outcome.isResponded, hsent] at hturned
    simp only [hsent] at hrest
    obtain ⟨rfl, rfl⟩ := hrest
    exact hturned.trans (hserved.recordResponse channel message trigger s sent _)

/-- A response is what was said for its selection. -/
theorem respond_spoken (h : e.Aloof) {response : Option Response}
    (hrun : (e.respond channel message trigger key context s).run w = (response, w')) :
    Spoken response.isSome.toNat context.depth w w' := by
  have hserved := h.served context.depth
  obtain ⟨decision, w₁, hlease, hrest⟩ := run_respond hrun
  have hleased := hserved.leaseSelection (fun _ _ => rfl) channel message s context.leaseTick w
  rw [hlease] at hleased
  rcases hrest with ⟨rfl, -, rfl⟩ | ⟨rfl, -, tick, m, -, -, rfl⟩ | ⟨lease, -, hrest⟩
  · exact hleased
  · exact hleased.trans (Spoken.noted rfl fun _ => JournalEntry.noConfusion)
  · obtain ⟨w₂, hanswer, hnoted⟩ := run_respondLeased hrest
    have hspoken := answer_spoken h hanswer
    have hbefore : Spoken 0 context.depth w w₂ := by
      rcases hnoted with ⟨rfl, -⟩ | ⟨tick, m, -, -, rfl⟩
      · exact hleased
      · exact hleased.trans (Spoken.noted rfl fun _ => JournalEntry.noConfusion)
    have hend := hbefore.trans hspoken
    rwa [Nat.zero_add] at hend

/-- The responses are the messages, and are within the limit. -/
theorem respondAll_spoken (h : e.Aloof) {limit : Nat} {selections : List Selection}
    {responses : List Response}
    (hrun : (e.respondAll channel message trigger key context limit selections).run w =
      (responses, w')) :
    responses.length ≤ limit ∧ Spoken responses.length context.depth w w' := by
  induction selections generalizing limit responses w with
  | nil =>
    have hend : (([] : List Response), w) = (responses, w') := by
      cases limit <;> exact hrun
    obtain ⟨rfl, rfl⟩ := Prod.mk.inj hend
    exact ⟨Nat.zero_le _, .of_journal rfl⟩
  | cons s rest ih =>
    cases limit with
    | zero =>
      obtain ⟨rfl, rfl⟩ := Prod.mk.inj (show (([] : List Response), w) = (responses, w') from hrun)
      exact ⟨Nat.le_refl _, .of_journal rfl⟩
    | succ limit =>
      rcases hfirst : (e.respond channel message trigger key context s).run w with ⟨response, w₁⟩
      have hspoken := respond_spoken h hfirst
      rw [respondAll, run_bind_of hfirst] at hrun
      cases response with
      | none =>
        -- the avatar kept silent, and the limit stays
        obtain ⟨hle, hrest⟩ := ih hrun
        have hall := hspoken.trans hrest
        rw [Option.isSome_none, Bool.toNat_false, Nat.zero_add] at hall
        exact ⟨hle, hall⟩
      | some response =>
        -- one answer less is left to be given
        rcases hmore : (e.respondAll channel message trigger key context limit rest).run w₁ with
          ⟨more, w₂⟩
        simp only [run_bind_of hmore] at hrun
        obtain ⟨rfl, rfl⟩ := Prod.mk.inj hrun
        obtain ⟨hle, hrest⟩ := ih hmore
        have hall := hspoken.trans hrest
        rw [Option.isSome_some, Bool.toNat_true, Nat.add_comm] at hall
        exact ⟨Nat.succ_le_succ hle, hall⟩

/-- A trigger is answered with as many messages as there are responses, and none after a fault. -/
theorem answerTrigger_spoken (h : e.Aloof) {x : Except Fault (List Response × List Avatar)}
    (hrun : (e.answerTrigger channel message context).run.run w = (x, w')) :
    ∃ n ≤ e.config.coordination.maxResponsesPerMessage, Spoken n context.depth w w' ∧
      ∀ responses inChannel, x = .ok (responses, inChannel) → responses.length = n := by
  have hserved := h.served context.depth
  obtain ⟨candidates, w₁, hfound, hrest⟩ := run_answerTrigger hrun
  have hcandidates := hserved.candidates channel message w.clock w
  rw [hfound] at hcandidates
  rcases hrest with ⟨f, -, rfl, rfl⟩ | ⟨found, key, w₂, -, hkey, hrest⟩
  · -- nobody could be found, and nothing was said
    exact ⟨0, Nat.zero_le _, hcandidates, fun _ _ hx => nomatch hx⟩
  · have hpeek : Frames (fun _ => ()) (Tick.peek channel w.clock) :=
      Tick.peek_frames (fun _ _ => rfl) channel w.clock
    have hpeeked := hserved.triggerKey message (hserved.onStore hpeek)
    have hbefore := hserved.trans hcandidates (hpeeked w₁)
    rw [hkey] at hbefore
    rcases hrest with ⟨f, -, rfl, rfl⟩ | ⟨k, selections, w₃, responses, -, hselect, hall, rfl⟩
    · -- no key could be drawn, and nothing was said
      exact ⟨0, Nat.zero_le _, hbefore, fun _ _ hx => nomatch hx⟩
    · have hselected := hserved.selectResponders ⟨channel, message,
        .classify message found.inChannel, found.eligible, found.ranked, w.clock⟩ w₂
      rw [hselect] at hselected
      have hnoted : Spoken 0 context.depth w (w₃.noted (.selected k selections)) :=
        hserved.trans hbefore (hserved.trans hselected
          (Spoken.noted rfl fun _ => JournalEntry.noConfusion))
      obtain ⟨hle, hspoken⟩ := respondAll_spoken h hall
      have hend := hnoted.trans hspoken
      rw [Nat.zero_add] at hend
      refine ⟨responses.length, hle, hend, ?_⟩
      intro responses' inChannel hx
      rw [(Prod.mk.inj (Except.ok.inj hx)).1]

/-! ## Nested coordinations -/

/-- A run of nested coordinations one after another, each for an avatar that a response names. A thread
is opened between the two; then the response is answered as a message, one level deeper and on no terms
of a tick. Nothing else is done, so that no coordination is started from what comes of it. -/
inductive Nested (e : Engine σ) (channel : String) :
    List (Response × Avatar) → World σ → World σ → Prop
  | done (w : World σ) : Nested e channel [] w w
  | start {r : Response} {named : Avatar} {rest : List (Response × Avatar)} {s : Store}
      {x : Except Fault (List Response × List Avatar)} {w w₁ w' : World σ} :
      (Thread.start ⟨e.config.coordination.threadTurns, e.config.coordination.threadTtlMs⟩
        (threadId w.clock w.drawn) channel [r.avatarId, named.id] (some r.avatarId) w.clock).after
          w.store = s →
      (e.answerTrigger channel (some (.fromAvatar r.messageId channel r.avatarId r.text w.clock))
        ⟨none, 1⟩).run.run { w with drawn := w.drawn + 1, store := s } = (x, w₁) →
      Nested e channel rest w₁ w' →
      Nested e channel ((r, named) :: rest) w w'

/-- The nested coordinations of a coordination at no depth are such a run. -/
theorem nested_of_cascade {named : List (Response × Avatar)}
    (hrun : (e.cascade (fun m => e.coordinateNested 0 channel (some m) ⟨none, 1⟩) channel named).run w =
      ((), w')) :
    Nested e channel named w w' := by
  induction named generalizing w with
  | nil =>
    obtain ⟨-, rfl⟩ := Prod.mk.inj (show ((), w) = ((), w') from hrun)
    exact .done w
  | cons entry rest ih =>
    obtain ⟨r, named⟩ := entry
    obtain ⟨s, x, w₁, hthread, hnested, hmore⟩ := run_cascade_cons hrun
    obtain ⟨answered, w₂, hanswer, -, hlast⟩ := run_coordinateNested hnested
    rcases hlast with ⟨rfl, -⟩ | ⟨fewer, -, -, hlevels, -⟩
    · exact .start hthread hanswer (ih hmore)
    · -- no level is left
      exact absurd hlevels (Nat.succ_ne_zero fewer).symm

/-- Each nested coordination comes to no more messages than one coordination may. -/
theorem Nested.spoken (h : e.Aloof) {named : List (Response × Avatar)}
    (hrun : Nested e channel named w w') :
    ∃ n ≤ e.config.coordination.maxResponsesPerMessage * named.length, Spoken n 1 w w' := by
  induction hrun with
  | done w => exact ⟨0, Nat.zero_le _, .of_journal rfl⟩
  | start _ hanswer _ ih =>
    obtain ⟨n, hn, hspoken, -⟩ := answerTrigger_spoken h hanswer
    obtain ⟨m, hm, hrest⟩ := ih
    refine ⟨n + m, ?_, ?_⟩
    · rw [List.length_cons, Nat.mul_succ]
      omega
    · exact (hspoken.after_still rfl).trans hrest

end Engine

/-- Whatever the texts say, whatever fails and whatever else the services do to the world, a coordination
of an outside trigger comes to an end. It returns no more responses than a message may have; it starts no
more nested coordinations than the fanout allows, each for an avatar that one of these responses names;
the nested ones start none. In all, no more turns end with a message than those of so many coordinations
may, and every text is asked for at depth 0 or 1. -/
theorem coordination_bounded {e : Engine σ} (h : e.Aloof) (channel : String)
    (message : Option Message) (tick : Option Nat) (w : World σ) :
    let limit := e.config.coordination.maxResponsesPerMessage
    let fanout := e.config.coordination.mentionCascadeFanout
    let first := (e.answerTrigger channel message ⟨tick, 0⟩).run.run w
    let done := (e.coordinate channel message ⟨tick, 0⟩).run.run w
    done.1 = first.1.map Prod.fst ∧
      (∀ responses, done.1 = .ok responses → responses.length ≤ limit) ∧
      (∃ started, started.length ≤ fanout ∧ Engine.Nested e channel started first.2 done.2 ∧
        ∀ entry ∈ started, ∃ responses inChannel,
          first.1 = .ok (responses, inChannel) ∧ entry ∈ Engine.namedBy responses inChannel) ∧
      (answers (done.2.since w)).length ≤ limit * (1 + fanout) ∧
      (∀ r, .generating r ∈ first.2.since w → r.options.depth = 0) ∧
      ∀ r, .generating r ∈ done.2.since first.2 → r.options.depth = 1 := by
  intro limit fanout first done
  obtain ⟨answered, w₁, hanswer, hx, hrest⟩ :=
    Engine.run_coordinateNested (Prod.eta done).symm
  have hfirst : first = (answered, w₁) := hanswer
  obtain ⟨n, hn, ⟨new, hj, hnew, hdepth⟩, hlength⟩ := Engine.answerTrigger_spoken h hanswer
  -- what was answered is what is returned
  have hreturned : ∀ responses, done.1 = .ok responses → responses.length ≤ limit := by
    intro responses hdone
    rcases answered with f | ⟨answers, inChannel⟩
    · cases hx.symm.trans hdone
    · obtain rfl : answers = responses := Except.ok.inj (hx.symm.trans hdone)
      rw [hlength answers inChannel rfl]
      exact hn
  have hnested : ∃ started, started.length ≤ fanout ∧ Engine.Nested e channel started w₁ done.2 ∧
      ∀ entry ∈ started, ∃ responses inChannel,
        answered = .ok (responses, inChannel) ∧ entry ∈ Engine.namedBy responses inChannel := by
    rcases hrest with ⟨hend, -⟩ | ⟨fewer, responses, inChannel, hlevels, rfl, hcascade⟩
    · rw [hend]
      exact ⟨[], Nat.zero_le _, .done w₁, fun _ hentry => absurd hentry List.not_mem_nil⟩
    · obtain rfl : 0 = fewer := Nat.succ.inj hlevels
      refine ⟨_, List.length_take_le _ _, Engine.nested_of_cascade hcascade, ?_⟩
      intro entry hentry
      exact ⟨responses, inChannel, rfl, List.mem_of_mem_take hentry⟩
  obtain ⟨started, hstarted, hrun, hnamed⟩ := hnested
  obtain ⟨m, hm, ⟨later, hj', hlater, hdepth'⟩⟩ := hrun.spoken h
  have hall : done.2.journal = (later ++ new) ++ w.journal := by
    rw [hj', hj, List.append_assoc]
  rw [hfirst]
  refine ⟨hx, hreturned, ⟨started, hstarted, hrun, hnamed⟩, ?_, ?_, ?_⟩
  · have hanswered : (answers new).length ≤ limit := hnew ▸ hn
    have hcascaded : (answers later).length ≤ limit * fanout :=
      Nat.le_trans (hlater ▸ hm) (Nat.mul_le_mul_left limit hstarted)
    rw [World.since_eq hall, answers_append, List.length_append, Nat.mul_add, Nat.mul_one]
    omega
  · rwa [World.since_eq hj]
  · rwa [World.since_eq hj']

/-- Services in which each of two avatars names the other one in all it says. -/
def Collaborators.mutual : Collaborators Unit :=
  { Collaborators.plain Avatar.pair "" with
    generate := fun avatar _ _ _ =>
      return some ⟨some avatar.id, if avatar.id = "ada" then "Bob!" else "Ada!"⟩ }

/-- The response of one of them starts a nested coordination, in which the other one responds. That names
the first again, but there it ends. -/
theorem coordination_bounded_mutual :
    let e : Engine Unit := .standard .mutual
    let w : World Unit := .ofTables .empty ()
    let done := (e.coordinate "c" (some (.human "m" "c" "u" "Ada?" 0)) ⟨none, 0⟩).run.run w
    answers (done.2.since w) = [("msg:c:ada", "bob"), ("msg:c:m", "ada")] ∧
      (answers (done.2.since w)).length ≤ 2 * (1 + 2) := by
  intro e w done
  have haloof : e.Aloof := by
    intro call v
    cases call <;> rfl
  have hbounded := coordination_bounded haloof "c" (some (.human "m" "c" "u" "Ada?" 0)) none w
  exact ⟨by decide +kernel, hbounded.2.2.2.1⟩

end TurnTaking
