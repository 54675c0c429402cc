import TurnTaking.Proofs.Engine.Course
import TurnTaking.Proofs.Engine.Turn
import TurnTaking.Proofs.Gate
import TurnTaking.Proofs.Lock

/-!
# In flight — one text of an avatar at a time

A turn asks for its text while it holds the lock of its avatar in the channel. Until the text is there
anything may go on, turns inside turns included. None of them gets a lock that is held, and each frees
only the lock that it got; so whoever waits for a text keeps its lock, and nobody else asks for a text of
the same avatar in the channel.

* `Watched` — a ghost beside the state of the services: the calls for texts that have not returned, and
  what was so when each call was made (`Sighting`);
* `WatchedCourse` — a course in which all calls for texts are watched;
* `InOrder` — the invariant: who waits for a text keeps its lock;
* `one_text_in_flight` — so every call for a text finds no other one for its avatar in the channel, the
  lock held, and the avatar admitted.
-/

namespace TurnTaking

open Store Store.Access

variable {σ : Type}

/-! ## The watch -/

/-- A call for a text, and what was so when it was made. -/
structure Sighting where
  channelId : String
  avatarId : String
  triggerKey : String
  /-- The calls that had not returned by then, the latest first, each by its channel and avatar. -/
  running : List (String × String)
  tables : Tables

/-- The channel and the avatar of a call. -/
def Sighting.key (s : Sighting) : String × String := (s.channelId, s.avatarId)

/-- Nobody else was waiting for a text of the avatar in the channel, its lock was held there, and it was
admitted for the trigger. -/
structure Sighting.InOrder (s : Sighting) : Prop where
  alone : s.key ∉ s.running
  locked : (s.tables.lock s.key).isSome
  admitted : (s.triggerKey, s.avatarId) ∈ s.tables.responderKeys

/-- The state of services whose calls for texts are watched. -/
structure Watched (σ : Type) where
  /-- The calls that have not returned, the latest first, each by its channel and avatar. -/
  running : List (String × String)
  /-- All calls so far, the latest first. -/
  sightings : List Sighting
  inner : σ

namespace World

/-- A text is asked for. -/
def asked (w : World (Watched σ)) (channel avatar key : String) : World (Watched σ) :=
  { w with outside := { w.outside with
      running := (channel, avatar) :: w.outside.running
      sightings :=
        ⟨channel, avatar, key, w.outside.running, w.store.tables⟩ :: w.outside.sightings } }

/-- The latest call returns. -/
def returned (w : World (Watched σ)) : World (Watched σ) :=
  { w with outside := { w.outside with running := w.outside.running.tail } }

end World

/-- The services, with a watch on the calls for texts. -/
def Collaborators.watched (c : Collaborators (Watched σ)) : Collaborators (Watched σ) :=
  { c with generate := fun avatar channel message options => ExceptT.mk do
      modify (·.asked channel avatar.id options.triggerKey)
      let text ← (c.generate avatar channel message options).run
      modify World.returned
      return text }

/-- Other calls are not watched. -/
theorem Collaborators.after_watched (c : Collaborators (Watched σ)) {call : Call}
    (h : ¬ call.AsksForText) (w : World (Watched σ)) :
    c.watched.after call w = c.after call w :=
  c.after_except_generate _ h w

/-- An engine whose calls for texts are watched. -/
def Engine.watched (e : Engine (Watched σ)) : Engine (Watched σ) :=
  { e with outside := e.outside.watched }

/-- Nobody outside frees a lock, or touches the watch or the journal. -/
structure LocksKept (w w' : World (Watched σ)) : Prop where
  journal : w'.journal = w.journal
  running : w'.outside.running = w.outside.running
  sightings : w'.outside.sightings = w.outside.sightings
  locks : ∀ k, (w.store.tables.lock k).isSome → (w'.store.tables.lock k).isSome

/-- A course in which all calls for texts are watched: operations of engines and steps from outside, and
a course again wherever an engine calls a service. -/
inductive WatchedCourse : World (Watched σ) → World (Watched σ) → Prop
  | outside {w w'} : LocksKept w w' → WatchedCourse w w'
  | append {u v w} : WatchedCourse u v → WatchedCourse v w → WatchedCourse u w
  | operation {e : Engine (Watched σ)} (op : Operation) (w) :
      (∀ call v, WatchedCourse v (e.outside.after call v)) → WatchedCourse w (op.after e.watched w)

/-! ## The invariant -/

/-- Where a lock was taken, it is there. -/
theorem Lock.Taken.isSome {g : Lock.Guard} {expiry : Int} {before after : Tables}
    (h : Lock.Taken g expiry before after) : (after.lock g.key).isSome := by
  obtain ⟨row, hrow, -⟩ := h.held
  rw [hrow]
  rfl

/-- Taking a lock takes none from anybody. -/
theorem Lock.Taken.kept {g : Lock.Guard} {expiry : Int} {before after : Tables}
    (h : Lock.Taken g expiry before after) {k : String × String} (hk : (before.lock k).isSome) :
    (after.lock k).isSome := by
  by_cases hself : k = g.key
  · rw [hself]
    exact h.isSome
  · rwa [h.others k hself]

/-- Everyone who waits for a text has the lock. -/
def World.Locked (w : World (Watched σ)) : Prop :=
  ∀ k ∈ w.outside.running, (w.store.tables.lock k).isSome

/-- The same calls are running, each with its lock, and all calls that were made since were in order. -/
structure InOrder (w w' : World (Watched σ)) : Prop where
  running : w'.outside.running = w.outside.running
  locked : w'.Locked
  sighted : ∀ s ∈ w'.outside.sightings, s ∈ w.outside.sightings ∨ s.InOrder

namespace InOrder

variable {u v w : World (Watched σ)}

theorem trans (h : InOrder u v) (h' : InOrder v w) : InOrder u w where
  running := h'.running.trans h.running
  locked := h'.locked
  sighted s hs := by
    rcases h'.sighted s hs with hs | hs
    · exact h.sighted s hs
    · exact .inr hs

theorem noted (h : InOrder u v) (entry : JournalEntry) : InOrder u (v.noted entry) :=
  ⟨h.running, h.locked, h.sighted⟩

/-- The lock of somebody who waits for no text may be freed. -/
theorem dropped (h : InOrder u v) {g : Lock.Guard} (hg : g.key ∉ u.outside.running) :
    InOrder u { v with store := g.drop.after v.store } where
  running := h.running
  locked k hk := by
    have hkept := h.locked k hk
    have hne : k ≠ g.key := by
      rintro rfl
      exact hg (h.running ▸ hk)
    rcases Lock.runs_drop (runs_after g.drop v.store) with ⟨-, -, -, hothers⟩ | ⟨-, hall⟩
    · exact (congrArg Option.isSome (hothers k hne)).trans hkept
    · exact (congrArg Option.isSome (hall k)).trans hkept
  sighted := h.sighted

end InOrder

/-- Order is kept where there was order, and what was noted stays noted. -/
structure KeepsOrder (w w' : World (Watched σ)) : Prop where
  grows : w.journal <:+ w'.journal
  order : w.Locked → InOrder w w'

namespace KeepsOrder

/-- Where no lock is lost and no text is asked for, order is kept. -/
theorem of_kept {w w' : World (Watched σ)} (h : LocksKept w w') : KeepsOrder w w' where
  grows := ⟨[], h.journal.symm⟩
  order hlocked := by
    refine ⟨h.running, fun k hk => ?_, fun s hs => .inl ?_⟩
    · rw [h.running] at hk
      exact h.locks k (hlocked k hk)
    · rwa [h.sightings] at hs

theorem chains : Chains (KeepsOrder : World (Watched σ) → World (Watched σ) → Prop) where
  refl _ := of_kept ⟨rfl, rfl, rfl, fun _ => id⟩
  trans huv hvw := by
    refine ⟨huv.grows.trans hvw.grows, fun hlocked => ?_⟩
    have h := huv.order hlocked
    exact h.trans (hvw.order h.locked)

theorem calm : Calm Tables.lock (KeepsOrder : World (Watched σ) → World (Watched σ) → Prop) where
  toChains := chains
  unseen hstore hstill := by
    refine of_kept ⟨hstill.journal, by rw [hstill.outside], by rw [hstill.outside], fun k hk => ?_⟩
    rwa [congrFun hstore.view k]

theorem note (entry : JournalEntry) :
    Keeps KeepsOrder (TurnTaking.note entry : Act (Watched σ) Unit) :=
  fun _ => ⟨List.suffix_cons _ _, fun hlocked => ⟨rfl, hlocked, fun _ hs => .inl hs⟩⟩

/-- A watched call that is made in order keeps order, if what goes on meanwhile does. -/
theorem generate {c : Collaborators (Watched σ)} {avatar : Avatar} {channel : String}
    {message : Option Message} {options : ResponseOptions} {w : World (Watched σ)}
    (hc : ∀ v, KeepsOrder v (c.after (.generate avatar channel message options) v))
    (hsighting : (⟨channel, avatar.id, options.triggerKey, w.outside.running,
      w.store.tables⟩ : Sighting).InOrder) :
    KeepsOrder w (c.watched.after (.generate avatar channel message options) w) := by
  refine ⟨(hc (w.asked channel avatar.id options.triggerKey)).grows, fun hlocked => ?_⟩
  have hasked : (w.asked channel avatar.id options.triggerKey).Locked := by
    intro k hk
    rcases List.mem_cons.mp hk with rfl | hk
    · exact hsighting.locked
    · exact hlocked k hk
  have h := (hc _).order hasked
  -- by the invariant the latest call is the one that returns
  have hrunning : (c.watched.after (.generate avatar channel message options) w).outside.running =
      w.outside.running := congrArg List.tail h.running
  refine ⟨hrunning, fun k hk => ?_, fun s hs => ?_⟩
  · -- what is running now was running while the text was made
    refine h.locked k ?_
    rw [h.running]
    rw [hrunning] at hk
    exact List.mem_cons_of_mem _ hk
  · rcases h.sighted s hs with hs | hs
    · rcases List.mem_cons.mp hs with rfl | hs
      · exact .inr hsighting
      · exact .inl hs
    · exact .inr hs

end KeepsOrder

theorem lock_side : SideTables Tables.lock where
  presence _ _ := rfl
  activity _ _ := rfl
  humans _ _ := rfl
  sent _ _ := rfl
  threads _ _ := rfl
  sessions _ _ := rfl

/-! ## Turns -/

namespace Engine

variable {e : Engine (Watched σ)}

/-- The services of the engine keep order wherever they are called, if the calls for texts were not
watched. -/
def KeepsOrder (e : Engine (Watched σ)) : Prop :=
  ∀ call w, TurnTaking.KeepsOrder w (e.outside.after call w)

/-- Services that keep order assist the engine that is watched. -/
theorem KeepsOrder.assisted (h : e.KeepsOrder) :
    e.watched.Assisted Tables.lock TurnTaking.KeepsOrder where
  toCalm := KeepsOrder.calm
  guiding := lock_side.guiding
  side := lock_side.writes
  service call hcall w := by
    show TurnTaking.KeepsOrder w (e.outside.watched.after call w)
    rw [Collaborators.after_watched _ hcall]
    exact h call w

/-- What was noted stays noted, also where calls were not in order. -/
theorem KeepsOrder.runTurn_grows (h : e.KeepsOrder) (r : Turn.Request) (w : World (Watched σ)) :
    w.journal <:+ ((e.watched.runTurn r).run w).2.journal := by
  let Grows (w w' : World (Watched σ)) : Prop := w.journal <:+ w'.journal
  have hcalm : Calm (fun _ => ()) Grows :=
    { refl := fun w => List.suffix_refl w.journal
      trans := List.IsSuffix.trans
      unseen := fun _ hstill => ⟨[], hstill.journal.symm⟩ }
  have hservices : ∀ call w, Grows w (e.watched.outside.after call w) := by
    intro call w
    rcases call.generate_or_not with ⟨avatar, channel, message, options, rfl⟩ | hother
    · -- the watch adds nothing to the journal, before the call or after it
      exact (h (.generate avatar channel message options)
        (w.asked channel avatar.id options.triggerKey)).grows
    · show Grows w (e.outside.watched.after call w)
      rw [Collaborators.after_watched _ hother]
      exact (h call w).grows
  have hserved : e.watched.Served (fun _ => ()) Grows :=
    .of_services hcalm .unseen (fun _ _ => rfl) hservices
  exact hserved.runTurn (fun _ _ => rfl) (fun _ => List.suffix_cons _ _)
    (fun _ _ => List.suffix_cons _ _) w

/-- From its admission on, a turn keeps order, if it has the lock and nobody else waits for a text. -/
theorem runAdmitted_inOrder (h : e.KeepsOrder) {r : Turn.Request} (hgate : r.gate.isSome)
    {w w' : World (Watched σ)} {o : Turn.Outcome}
    (halone : (r.channelId, r.avatar.id) ∉ w.outside.running)
    (hlocked : (w.store.tables.lock (r.channelId, r.avatar.id)).isSome)
    (hadmitted : (r.options.triggerKey, r.avatar.id) ∈ w.store.tables.responderKeys)
    (hrun : (e.watched.runAdmitted r).run w = (o, w')) : TurnTaking.KeepsOrder w w' := by
  obtain ⟨w₁, hgen, hend⟩ := run_runAdmitted hgate hrun
  have hnoted := KeepsOrder.note (.generating r) w
  have hasked := h.assisted.generateAndSend (r := r) (w := w.noted (.generating r))
    (KeepsOrder.generate (h _) ⟨halone, hlocked, hadmitted⟩)
  rw [hgen] at hasked
  refine h.assisted.trans hnoted (h.assisted.trans hasked ?_)
  cases hsent : o.sent? with
  | some sent =>
    rw [hsent] at hend
    rw [show w' = ((e.watched.recordTurn r sent).run w₁).2 from hend]
    exact h.assisted.recordTurn r sent w₁
  | none =>
    rw [hsent] at hend
    have hrevoke : Frames Tables.lock (Gate.revoke r.options.triggerKey r.avatar.id) :=
      Gate.revoke_frames (fun _ _ => rfl) _ _
    rw [show w' = { w₁ with
      store := (Gate.revoke r.options.triggerKey r.avatar.id).after w₁.store } from hend]
    exact h.assisted.unseen (hrevoke _ _ _ (runs_after _ w₁.store)) ⟨rfl, rfl, rfl⟩

/-- The gate is asked while the lock is held. -/
theorem runLocked_inOrder (h : e.KeepsOrder) {r : Turn.Request} {g : Gate.Request}
    (hgate : r.gate = some g) (hkey : (g.triggerKey, g.avatarId) = (r.options.triggerKey, r.avatar.id))
    {w w' : World (Watched σ)} {o : Turn.Outcome}
    (halone : (r.channelId, r.avatar.id) ∉ w.outside.running)
    (hlocked : (w.store.tables.lock (r.channelId, r.avatar.id)).isSome)
    (hrun : (e.watched.runLocked r).run w = (o, w')) : TurnTaking.KeepsOrder w w' := by
  obtain ⟨x, s, henter, hrest⟩ := run_runLocked hgate hrun
  have hlocks : Unseen Tables.lock w.store s := Gate.enter_frames (fun _ _ => rfl) _ _ _ _ _ _ henter
  have hasked : TurnTaking.KeepsOrder w { w with store := s } :=
    h.assisted.unseen hlocks ⟨rfl, rfl, rfl⟩
  rcases hrest with ⟨rfl, hadmitted⟩ | ⟨-, -, rfl⟩
  · -- an admission is a row of the responders, and stays one until the text is asked for
    have hmem : (r.options.triggerKey, r.avatar.id) ∈ s.tables.responderKeys := by
      rcases Gate.runs_enter henter with ⟨a, ha, ⟨-, hgranted⟩ | ⟨hne, -⟩⟩ | ⟨⟨f, hf⟩, -⟩
      · rw [hgranted.appended, ← hkey]
        exact List.mem_append_right _ List.mem_cons_self
      · exact absurd (Except.ok.inj ha).symm hne
      · cases hf
    have hsome : r.gate.isSome := by
      rw [hgate]
      rfl
    have hlocked' : (s.tables.lock (r.channelId, r.avatar.id)).isSome := by
      rwa [congrFun hlocks.view _]
    exact h.assisted.trans hasked
      (runAdmitted_inOrder (w := { w with store := s }) h hsome halone hlocked' hmem hadmitted)
  · exact hasked

/-- A turn gets its lock only where nobody waits for a text, and frees no other. -/
theorem runTurn_inOrder (h : e.KeepsOrder) {r : Turn.Request} {g : Gate.Request}
    (hgate : r.gate = some g)
    (hkey : (g.triggerKey, g.avatarId) = (r.options.triggerKey, r.avatar.id)) :
    Keeps TurnTaking.KeepsOrder (e.watched.runTurn r) := by
  intro w
  refine ⟨h.runTurn_grows r w, fun hbefore => ?_⟩
  rcases hrun : (e.watched.runTurn r).run w with ⟨o, w'⟩
  obtain ⟨x, s, htry, hrest⟩ := run_runTurn hrun
  rcases Lock.runs_tryGuard htry with ⟨rfl, htaken⟩ | ⟨hnone, hsame⟩
  · -- the lock was free, and whoever waits for a text has its own
    have halone : (r.channelId, r.avatar.id) ∉ w.outside.running := by
      intro hrunning
      have hsome := hbefore _ hrunning
      rw [show w.store.tables.lock (r.channelId, r.avatar.id) = none from htaken.free] at hsome
      cases hsome
    have htook : LocksKept w { w with store := s } := ⟨rfl, rfl, rfl, fun _ => htaken.kept⟩
    have hbegun := (KeepsOrder.of_kept htook).order hbefore
    rcases hrest with ⟨guard, w₁, hguard, hlocked, rfl⟩ | ⟨hnone, -⟩
    · obtain rfl := Option.some.inj (Except.ok.inj hguard)
      have hturn := runLocked_inOrder (w := { w with store := s }) h hgate hkey halone htaken.isSome
        hlocked
      exact (InOrder.dropped (g := ⟨r.channelId, r.avatar.id⟩) (hbegun.trans (hturn.order hbegun.locked))
        halone).noted _
    · exact absurd rfl (hnone _)
  · rcases hrest with ⟨guard, -, hguard, -⟩ | ⟨-, -, rfl⟩
    · exact absurd hguard (hnone guard)
    · have hkept : LocksKept w { w with store := s } :=
        ⟨rfl, rfl, rfl, fun k hk => (congrArg Option.isSome (hsame k)).trans hk⟩
      exact ((KeepsOrder.of_kept hkept).order hbefore).noted _

/-- An engine that is watched keeps order in all that it does, if its services do. -/
theorem KeepsOrder.upholds (h : e.KeepsOrder) :
    e.watched.Upholds Tables.lock TurnTaking.KeepsOrder := by
  have haided : e.watched.Aided Tables.lock TurnTaking.KeepsOrder :=
    { h.assisted.toGuided with spending := Presence.consumeSummon_frames lock_side.presence }
  refine haided.upholds (fun _ _ => rfl) (fun _ _ => rfl) TurnTaking.KeepsOrder.grows ?_ ?_ ?_ ?_
  · intro channel user w
    exact h.assisted.hear channel user w.clock w
  · intro entry _
    exact KeepsOrder.note entry
  · intro channel message trigger key depth s
    exact runTurn_inOrder h rfl rfl
  · intro sweep a
    exact runTurn_inOrder h rfl rfl

end Engine

/-! ## Courses -/

/-- Every course of watched engines keeps order. -/
theorem WatchedCourse.keepsOrder {w w' : World (Watched σ)} (course : WatchedCourse w w') :
    KeepsOrder w w' := by
  induction course with
  | outside h => exact KeepsOrder.of_kept h
  | append _ _ ih₁ ih₂ => exact KeepsOrder.chains.trans ih₁ ih₂
  | operation op w _ ih => exact (Engine.KeepsOrder.upholds ih).directs.perform op w

/-- In every course of engines that share a world, however operations are nested in services, as long as
nobody outside frees a lock: whenever a text is asked for, no other call for a text of the avatar in the
channel is running, the avatar's lock is held there, and the avatar is admitted for the trigger. -/
theorem one_text_in_flight {w w' : World (Watched σ)} (course : WatchedCourse w w')
    (hidle : w.outside.running = []) :
    ∀ s ∈ w'.outside.sightings, s ∈ w.outside.sightings ∨ s.InOrder := by
  have hlocked : w.Locked := by
    intro k hk
    rw [hidle] at hk
    cases hk
  exact (course.keepsOrder.order hlocked).sighted

/-- Services in which another engine sweeps the channel while a text is made, whose calls for texts are
watched as well. -/
def Collaborators.interrupted : Collaborators (Watched Unit) :=
  { Collaborators.plain Avatar.pair "" with
    generate := fun avatar channel _ _ => do
      ((Operation.channelTick channel 1).perform
        (Engine.standard (.plain (Avatar.pair.drop 1) "")).watched : Act (Watched Unit) Unit)
      return some ⟨some avatar.id, ""⟩ }

/-- While the first avatar's text is made, a sweep asks the second one for a text. -/
theorem one_text_in_flight_interrupted :
    let m := Message.human "m" "c" "u" "?" 0
    let w : World (Watched Unit) := .ofTables .threaded ⟨[], [], ()⟩
    let w' := (Operation.coordinate "c" (some m) ⟨none, 0⟩).after
      (Engine.standard .interrupted).watched w
    w'.outside.sightings.map (fun s => (s.key, s.running)) =
        [(("c", "bob"), [("c", "ada")]), (("c", "ada"), [])] ∧
      ∀ s ∈ w'.outside.sightings, s ∈ w.outside.sightings ∨ s.InOrder := by
  intro m w w'
  have hplain : ∀ avatars call (v : World (Watched Unit)),
      WatchedCourse v ((Collaborators.plain avatars "").after call v) := by
    intro avatars call v
    rw [Collaborators.after_plain]
    exact .outside ⟨rfl, rfl, rfl, fun _ => id⟩
  have hinterrupted : ∀ call (v : World (Watched Unit)),
      WatchedCourse v (Collaborators.interrupted.after call v) := by
    intro call v
    rcases call.generate_or_not with ⟨avatar, channel, message, options, rfl⟩ | hother
    · exact .operation (e := .standard (.plain (Avatar.pair.drop 1) "")) (.channelTick channel 1) v
        (hplain _)
    · rw [show Collaborators.interrupted.after call v = (Collaborators.plain Avatar.pair "").after call v
        from Collaborators.after_except_generate _ _ hother v]
      exact hplain Avatar.pair call v
  have hcourse : WatchedCourse w w' :=
    .operation (e := .standard .interrupted) _ w hinterrupted
  exact ⟨by decide +kernel, one_text_in_flight hcourse rfl⟩

end TurnTaking
