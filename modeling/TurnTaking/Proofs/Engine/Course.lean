import TurnTaking.Proofs.Engine.Journal
import TurnTaking.Proofs.Engine.Served

/-!
# Courses — operations of many engines on one world

Engines that share a world act one after another and inside each other: while one of them waits for a
service, anything may go on, further operations of engines included.

* `Operation` — what a platform has an engine do with messages and sweeps;
* `Course` — an order of operations and of steps from outside, nested to any depth;
* `Engine.Directs` — what has to be shown of an engine to know that all its operations are within a
  relation;
* `Engine.Upholds` — the same, where selecting avatars and running their turns can be told apart;
* `Engine.Aided.upholds` — and where leases and ticks are not looked at: then the notes and the turns are
  all that is left to show;
* `Course.directed`, `Course.within` — from that, by induction, the same of a whole course.
-/

namespace TurnTaking

open Store Store.Access

variable {σ α β : Type}

/-- What an engine is asked to do. -/
inductive Operation where
  | message (channel : String) (m : Message)
  | coordinate (channel : String) (message : Option Message) (context : CoordinationContext)
  | channelTick (channel : String) (budget : Nat)
  | tickAll

namespace Operation

/-- What the engine does, without the answer. -/
def perform (op : Operation) (e : Engine σ) : Act σ Unit := do
  match op with
  | .message channel m =>
    let _ ← e.onMessage channel m
  | .coordinate channel m context => quietly (e.coordinate channel m context)
  | .channelTick channel budget =>
    let _ ← e.onChannelTick channel budget
  | .tickAll =>
    let _ ← e.tickAll

def after (op : Operation) (e : Engine σ) (w : World σ) : World σ := ((op.perform e).run w).2

end Operation

/-- A course leads from one world to another by operations of engines that meet `P`, by steps from
outside that meet `Q`, and, wherever an engine calls a service, by a course again. An engine that is
called from within its own services stands there with the services that it has at that depth. -/
inductive Course (P : Engine σ → Prop) (Q : World σ → World σ → Prop) : World σ → World σ → Prop
  | outside {w w'} : Q w w' → Course P Q w w'
  | append {u v w} : Course P Q u v → Course P Q v w → Course P Q u w
  | operation {e} (op : Operation) (w) : P e →
      (∀ call v, Course P Q v (e.outside.after call v)) → Course P Q w (op.after e w)

/-- The relation holds as soon as the entry was noted. -/
def Once (entry : JournalEntry) (R : World σ → World σ → Prop) (w w' : World σ) : Prop :=
  entry ∈ w.journal → R w w'

section

variable {R : World σ → World σ → Prop}

/-- What was noted stays noted, so that steps may be chained in the restricted relation, too. -/
theorem Chains.once (h : Chains R) (hg : ∀ {w w'}, R w w' → w.journal <:+ w'.journal)
    (entry : JournalEntry) : Chains (Once entry R) where
  refl w _ := h.refl w
  trans huv hvw hu := h.trans (huv hu) (hvw ((hg (huv hu)).subset hu))

/-- What follows the note of an entry may rely on it. -/
theorem Keeps.tryOnce (h : Chains R) {a : Try σ α} {f : α → Try σ β} {entry : α → JournalEntry}
    (ha : Keeps R a.run)
    (hnoted : ∀ w x w', a.run.run w = (.ok x, w') → entry x ∈ w'.journal)
    (hf : ∀ x, Keeps (Once (entry x) R) (f x).run) : Keeps R (a >>= f).run := by
  intro w
  have hw := ha w
  rw [ExceptT.run_bind, StateT.run_bind]
  rcases hrun : a.run.run w with ⟨e | x, w'⟩
  · rw [hrun] at hw
    exact hw
  · rw [hrun] at hw
    exact h.trans hw (hf x w' (hnoted w x w' hrun))

/-- What is kept is kept after a note as well. -/
theorem Keeps.once {a : Act σ α} {entry : JournalEntry}
    (ha : Keeps R a) : Keeps (Once entry R) a := fun w _ => ha w

end

/-- A sweep that opened its tick has noted it. -/
theorem Engine.openTick_noted {channel : String} {now : Int} {sweep : Sweep} {w w' : World σ}
    (h : (Engine.openTick channel now : Try σ Sweep).run.run w = (.ok sweep, w')) :
    .opened sweep ∈ w'.journal := by
  rcases run_tryBind h with ⟨tick, w₁, -, hrest⟩ | ⟨e, -, he⟩
  · let opened : Sweep := ⟨w₁.journal.length, channel, tick⟩
    have hnoted : ((.ok opened : Except Fault Sweep),
        { w₁ with journal := .opened opened :: w₁.journal }) = ((.ok sweep : Except Fault Sweep), w') :=
      hrest
    obtain ⟨hs, rfl⟩ := Prod.mk.inj hnoted
    obtain rfl := Except.ok.inj hs
    exact List.mem_cons_self
  · cases he

/-- What has to be shown of the answers and turns of an engine to know that all it does is within a
relation. A sweep runs turns only after it opened its tick. -/
structure Engine.Directs (e : Engine σ) (view : Tables → β) (R : World σ → World σ → Prop) : Prop
    extends e.Guided view R where
  grows : ∀ {w w'}, R w w' → w.journal <:+ w'.journal
  hear : ∀ channel user (w : World σ),
    R w ((quietly (onStore (Activity.recordHuman channel user w.clock)) : Act σ Unit).run w).2
  peek : ∀ channel now, Keeps R (onStore (Tick.peek channel now) : Try σ Nat).run
  openTick : ∀ channel now, Keeps R (Engine.openTick channel now : Try σ Sweep).run
  answerTrigger : ∀ channel message context, Keeps R (e.answerTrigger channel message context).run
  ambientTurn : ∀ sweep a, Keeps (Once (.opened sweep) R) (e.runAmbientTurn sweep a).run

namespace Engine.Directs

variable {e : Engine σ} {view : Tables → β} {R : World σ → World σ → Prop} (h : e.Directs view R)

include h

/-! ## Coordination -/

/-- A cascade keeps what each nested coordination keeps. -/
theorem cascade (nested : Message → Try σ (List Response)) (hn : ∀ m, Keeps R (nested m).run)
    (channel : String) (named : List (Response × Avatar)) :
    Keeps R (e.cascade nested channel named) := by
  induction named with
  | nil => exact .pure h.toChains _
  | cons entry rest ih =>
    refine .bind h.toChains h.drawThreadId fun id => ?_
    refine .look h.toChains fun _ => ?_
    refine .bind h.toChains (h.quietlyOnStore (Thread.start_frames h.guiding.threads _ _ _ _ _ _))
      fun _ => ?_
    refine .look h.toChains fun _ => ?_
    exact .bind h.toChains (.quietly h.toChains (hn _)) fun _ => ih

/-- A coordination keeps what its turns keep, by induction on the levels left. -/
theorem coordinateNested (levels : Nat) (channel : String) (message : Option Message)
    (context : CoordinationContext) :
    Keeps R (e.coordinateNested levels channel message context).run := by
  induction levels generalizing message context with
  | zero => exact .tryBind h.toChains (h.answerTrigger _ _ _) fun _ => .tryPure h.toChains _
  | succ levels ih =>
    refine .tryBind h.toChains (h.answerTrigger _ _ _) fun answered => ?_
    exact .tryLift h.toChains (h.cascade _ (fun m => ih (some m) _) _ _) fun _ =>
      .tryPure h.toChains _

theorem coordinate (channel : String) (message : Option Message) (context : CoordinationContext) :
    Keeps R (e.coordinate channel message context).run :=
  h.coordinateNested _ _ _ _

theorem answerInTick (channel : String) (m : Message) (now : Int) :
    Keeps R (e.answerInTick channel m now) := by
  refine .bind h.toChains (h.peek _ _) fun tick => ?_
  cases tick with
  | error f => exact .pure h.toChains _
  | ok tick =>
    exact .bind h.toChains (.orElse h.toChains _ (h.coordinate _ _ _)) fun _ => .pure h.toChains _

theorem onMessage (channel : String) (m : Message) : Keeps R (e.onMessage channel m) := by
  intro w
  show R w ((if _ then _ else _ : Act σ Bool).run w).2
  split
  · exact Keeps.bindAt h.toChains (h.hear _ _ w) fun _ => h.answerInTick _ _ _
  · exact h.answerInTick _ _ _ w

/-! ## Sweeps -/

/-- The turns of a sweep keep, after its note, what each of them keeps. -/
theorem runAmbientTurns (sweep : Sweep) (limit : Nat) (avatars : List Avatar) :
    Keeps (Once (.opened sweep) R) (e.runAmbientTurns sweep limit avatars).run := by
  have hc : Chains (Once (.opened sweep) R) := .once h.toChains h.grows _
  induction avatars generalizing limit with
  | nil => cases limit <;> exact .tryPure hc _
  | cons a rest ih =>
    cases limit with
    | zero => exact .tryPure hc _
    | succ limit =>
      refine .tryBind hc (h.ambientTurn sweep a) fun responded => ?_
      split
      · exact .tryBind hc (ih limit) fun _ => .tryPure hc _
      · exact ih (limit + 1)

/-- A sweep keeps what its turns keep. -/
theorem sweepChannel (channel : String) (budget : Nat) :
    Keeps R (e.sweepChannel channel budget).run := by
  refine .tryLook h.toChains fun _ => ?_
  refine .tryBind h.toChains (h.isSuppressed _ _) fun suppressed => ?_
  split
  · exact .tryPure h.toChains _
  · refine .tryOnce h.toChains (h.openTick _ _) (fun _ _ _ => openTick_noted) fun sweep => ?_
    have hc : Chains (Once (.opened sweep) R) := .once h.toChains h.grows _
    refine .tryBind hc (h.onStore (Activity.activeHumans_frames _ _)).once fun humans => ?_
    refine .tryBind hc (Keeps.once (h.service (.listAvatars _) id)) fun avatars => ?_
    refine .tryBind hc (h.unprompted _ _ _).once fun speakers => ?_
    exact h.runAmbientTurns sweep _ _

theorem onChannelTick (channel : String) (budget : Nat) : Keeps R (e.onChannelTick channel budget) := by
  unfold Engine.onChannelTick
  split
  · exact .pure h.toChains _
  · exact .orElse h.toChains _ (h.sweepChannel _ _)

theorem sweepChannels (budget : Nat) (channels : List String) :
    Keeps R (e.sweepChannels budget channels) := by
  induction channels generalizing budget with
  | nil => cases budget <;> exact .pure h.toChains _
  | cons channel rest ih =>
    cases budget with
    | zero => exact .pure h.toChains _
    | succ budget =>
      refine .bind h.toChains (h.onChannelTick channel _) fun turns => ?_
      exact .bind h.toChains (ih _) fun _ => .pure h.toChains _

theorem tickAll : Keeps R e.tickAll := by
  refine .bind h.toChains (h.onStore (Activity.recentChannels_frames _)) fun channels => ?_
  cases channels with
  | error f => exact .pure h.toChains _
  | ok channels => exact h.sweepChannels _ channels

/-- Every operation of the engine is within the relation. -/
theorem perform (op : Operation) : Keeps R (op.perform e) := by
  cases op with
  | message channel m => exact .bind h.toChains (h.onMessage channel m) fun _ => .pure h.toChains _
  | coordinate channel message context => exact .quietly h.toChains (h.coordinate _ _ _)
  | channelTick channel budget =>
    exact .bind h.toChains (h.onChannelTick channel budget) fun _ => .pure h.toChains _
  | tickAll => exact .bind h.toChains h.tickAll fun _ => .pure h.toChains _

end Engine.Directs

/-- What has to be shown of the steps of an engine, where each selection is within the relation by
itself. -/
structure Engine.Upholds (e : Engine σ) (view : Tables → β) (R : World σ → World σ → Prop) : Prop
    extends e.Aided view R where
  grows : ∀ {w w'}, R w w' → w.journal <:+ w'.journal
  hear : ∀ channel user (w : World σ),
    R w ((quietly (onStore (Activity.recordHuman channel user w.clock)) : Act σ Unit).run w).2
  peek : ∀ channel now, Keeps R (onStore (Tick.peek channel now) : Try σ Nat).run
  openTick : ∀ channel now, Keeps R (Engine.openTick channel now : Try σ Sweep).run
  selected : ∀ key selections, Keeps R (note (.selected key selections))
  respond : ∀ channel message trigger key context s,
    Keeps R (e.respond channel message trigger key context s)
  ambientTurn : ∀ sweep a, Keeps (Once (.opened sweep) R) (e.runAmbientTurn sweep a).run

namespace Engine.Upholds

variable {e : Engine σ} {view : Tables → β} {R : World σ → World σ → Prop} (h : e.Upholds view R)

include h

theorem respondAll (channel : String) (message : Option Message) (trigger : Trigger) (key : String)
    (context : CoordinationContext) (limit : Nat) (selections : List Selection) :
    Keeps R (e.respondAll channel message trigger key context limit selections) := by
  induction selections generalizing limit with
  | nil => cases limit <;> exact .pure h.toChains _
  | cons s rest ih =>
    cases limit with
    | zero => exact .pure h.toChains _
    | succ limit =>
      refine .bind h.toChains (h.respond _ _ _ _ _ _) fun response => ?_
      cases response with
      | some response => exact .bind h.toChains (ih limit) fun _ => .pure h.toChains _
      | none => exact ih (limit + 1)

theorem answerTrigger (channel : String) (message : Option Message) (context : CoordinationContext) :
    Keeps R (e.answerTrigger channel message context).run := by
  refine .tryLook h.toChains fun _ => ?_
  refine .tryBind h.toChains (h.candidates _ _ _) fun found => ?_
  refine .tryBind h.toChains (h.toAided.triggerKey message (h.peek _ _)) fun key => ?_
  refine .tryLift h.toChains (h.selectResponders _) fun selections => ?_
  refine .tryLift h.toChains (h.selected _ _) fun _ => ?_
  exact .tryLift h.toChains (h.respondAll _ _ _ _ _ _ _) fun _ => .tryPure h.toChains _

/-- Whatever keeps the parts of a coordination directs the whole. -/
theorem directs : e.Directs view R :=
  { h.toGuided with
    grows := h.grows
    hear := h.hear
    peek := h.peek
    openTick := h.openTick
    answerTrigger := h.answerTrigger
    ambientTurn := h.ambientTurn }

end Engine.Upholds

/-- Where the view shows neither leases nor ticks, the notes and the turns are left to be shown: those that
answer a trigger, and those of a sweep. -/
theorem Engine.Aided.upholds {e : Engine σ} {view : Tables → β} {R : World σ → World σ → Prop}
    (h : e.Aided view R) (hleases : Relation.leases.Hidden view) (hticks : Relation.ticks.Hidden view)
    (hgrows : ∀ {w w'}, R w w' → w.journal <:+ w'.journal)
    (hhear : ∀ channel user (w : World σ),
      R w ((quietly (onStore (Activity.recordHuman channel user w.clock)) : Act σ Unit).run w).2)
    (hnote : ∀ entry : JournalEntry, entry.Aside → Keeps R (note entry))
    (hanswer : ∀ channel message trigger key depth s,
      Keeps R (e.runTurn (Engine.requestOf channel message trigger key depth s)))
    (hambient : ∀ sweep a, Keeps R (e.runTurn (Engine.ambientRequest sweep a))) :
    e.Upholds view R where
  toAided := h
  grows := hgrows
  hear := hhear
  peek channel now := h.onStore (Tick.peek_frames hticks channel now)
  openTick := h.openTick hticks fun _ => hnote _ trivial
  selected _ _ := hnote _ trivial
  respond _ _ _ _ _ _ := h.respond hleases (fun _ _ => hnote _ trivial) (fun _ _ => hnote _ trivial)
    (hanswer _ _ _ _ _ _)
  ambientTurn _ _ := Keeps.once (h.runAmbientTurn hleases (hnote _ trivial) (hambient _ _))

/-- A course is within a relation in which steps may be chained, if its steps from outside are, and if
its engines keep to the relation as soon as their services do. -/
theorem Course.directed {P : Engine σ → Prop} {Q R : World σ → World σ → Prop} (view : Tables → β)
    (hR : Chains R) (hQ : ∀ w w', Q w w' → R w w')
    (hP : ∀ e, P e → (∀ call w, R w (e.outside.after call w)) → e.Directs view R)
    {w w' : World σ} (course : Course P Q w w') : R w w' := by
  induction course with
  | outside h => exact hQ _ _ h
  | append _ _ ih₁ ih₂ => exact hR.trans ih₁ ih₂
  | operation op w he _ ih =>
    -- the services are within the relation by induction, and so the engine keeps to it
    exact (hP _ he ih).perform op w

/-- A course keeps what its operations keep, whatever goes on within them. -/
theorem Course.within {P : Engine σ → Prop} {Q R : World σ → World σ → Prop} (view : Tables → β)
    (hR : Chains R) (hQ : ∀ w w', Q w w' → R w w')
    (hP : ∀ e, P e → (∀ call w, R w (e.outside.after call w)) → e.Upholds view R)
    {w w' : World σ} (course : Course P Q w w') : R w w' :=
  course.directed view hR hQ fun e he hservice => (hP e he hservice).directs

/-! ## A platform on which nothing else goes on -/

/-- Services that list some avatars, all of which have the same to say, and change nothing. -/
def Collaborators.plain (avatars : List Avatar) (text : String) : Collaborators σ where
  generate avatar _ _ _ := return some ⟨some avatar.id, text⟩
  fetchRecent _ _ := return []
  send _ avatar _ := return avatar.id
  relocate _ _ := return
  getAvatar _ := return none
  listAvatars _ := return avatars
  touch _ _ := return
  shouldRespond _ _ _ := return false
  preferred _ _ := return none
  prefer _ _ _ _ := return

theorem Collaborators.after_plain (avatars : List Avatar) (text : String) (call : Call)
    (w : World σ) : (Collaborators.plain avatars text).after call w = w := by
  cases call <;> rfl

/-- An engine of the standard configuration. -/
def Engine.standard (outside : Collaborators σ) : Engine σ := ⟨.standard, .standard, 0, outside⟩

/-- A world in which nothing was noted yet. -/
def World.ofTables (t : Tables) (outside : σ) : World σ :=
  ⟨0, .ofTables t, fun _ => .empty, 0, [], outside⟩

/-- Two avatars, both in one channel. -/
def Avatar.pair : List Avatar :=
  [{ Avatar.named "ada" "Ada" with channelId := some "c" },
    { Avatar.named "bob" "Bob" with channelId := some "c" }]

/-- Services that list one avatar, and fail to make a text. -/
def Collaborators.wordless : Collaborators Unit :=
  { Collaborators.plain (Avatar.pair.take 1) "" with
    generate := fun _ _ _ _ => throw (.generation "no text") }

/-- A channel with an open thread of the two. -/
def Store.Tables.threaded : Tables :=
  { Tables.empty with
    threads := some [Thread.toRow ⟨"t", "c", ["ada", "bob"], none, 4, 0, 1000⟩] }

end TurnTaking
