import TurnTaking.Proofs.Engine.Coordination
import TurnTaking.Proofs.Engine.Course

/-!
# Preliminaries — the faults of a coordination come before its first turn

Once a coordination knows who could respond and which trigger it answers, no trouble can keep it from a
result: what fails in a turn or in a nested coordination is theirs. So a coordination ends in a fault
just where its preliminaries do (`coordinate_error_iff`), and these ask no service but for the avatars of
the channel and write no rows but of presence and ticks (`preliminaries_ofListing`,
`preliminaries_writes`).
-/

namespace TurnTaking

open Store Store.Access

variable {σ : Type}

/-- The tables, but without those that are written before anyone is selected. -/
def Store.Tables.besidePreliminaries (t : Tables) : Tables := { t with presence := none, ticks := none }

/-- Services that list the same avatars in a channel, whatever else they do. -/
def Collaborators.ListsAs (others outside : Collaborators σ) (channel : String) : Prop :=
  others.listAvatars channel = outside.listAvatars channel

/-- Nothing happened in the world but in its store, and nothing there that the view shows. -/
def StoreOnly {β : Type} (view : Tables → β) (w w' : World σ) : Prop :=
  ∃ s, w' = { w with store := s } ∧ Unseen view w.store s

namespace StoreOnly

variable {β : Type} {view : Tables → β}

theorem chains (view : Tables → β) : Chains (StoreOnly (σ := σ) view) where
  refl w := ⟨w.store, rfl, .refl _⟩
  trans := by
    rintro u v w ⟨s, rfl, hs⟩ ⟨s', rfl, hs'⟩
    exact ⟨s', rfl, hs.trans hs'⟩

/-- An access that hides from the view changes the store only. -/
theorem onStore {α : Type} {a : Access α} (ha : a.Frames view) :
    Keeps (StoreOnly (σ := σ) view) (onStore a).run :=
  fun w => ⟨_, rfl, ha w.store _ _ (runs_after a w.store)⟩

end StoreOnly

namespace Engine

/-- What a coordination has to know before it can select anyone. -/
def preliminaries (e : Engine σ) (channel : String) (message : Option Message) :
    Try σ (Candidates × String) := do
  let now ← clockNow
  let found ← e.candidates channel message now
  let key ← triggerKey channel message now
  return (found, key)

variable {e : Engine σ} {channel : String} {message : Option Message} {context : CoordinationContext}
  {w w' : World σ} {fault : Fault}

/-! ## Faults -/

/-- The answer to a trigger ends in a fault where its preliminaries do, and nowhere else. -/
theorem answerTrigger_error_iff (context : CoordinationContext) :
    (e.answerTrigger channel message context).run.run w = (.error fault, w') ↔
      (e.preliminaries channel message).run.run w = (.error fault, w') := by
  rw [preliminaries, run_tryClockNow]
  constructor
  · intro h
    obtain ⟨candidates, w₁, hfound, hrest⟩ := run_answerTrigger h
    rcases hrest with ⟨f, rfl, hf, rfl⟩ | ⟨found, key, w₂, rfl, hkey, hrest⟩
    · obtain rfl := Except.error.inj hf
      exact run_tryBind_error hfound
    · rw [run_tryBind_ok hfound]
      rcases hrest with ⟨f, rfl, hf, rfl⟩ | ⟨_, _, _, _, -, -, -, hresult⟩
      · obtain rfl := Except.error.inj hf
        exact run_tryBind_error hkey
      · -- the turns of a selection always come to a result
        cases hresult
  · intro h
    rw [answerTrigger, run_tryClockNow]
    rcases run_tryBind h with ⟨found, w₁, hfound, hrest⟩ | ⟨f, hfound, hf⟩
    · rw [run_tryBind_ok hfound]
      rcases run_tryBind hrest with ⟨key, w₂, hkey, hend⟩ | ⟨f, hkey, hf⟩
      · cases (Prod.mk.inj hend).1
      · obtain rfl := Except.error.inj hf
        exact run_tryBind_error hkey
    · obtain rfl := Except.error.inj hf
      exact run_tryBind_error hfound

/-- A coordination with any number of levels left ends in a fault where its preliminaries do: no nested
coordination hands its faults up. -/
theorem coordinateNested_error_iff (levels : Nat) :
    (e.coordinateNested levels channel message context).run.run w = (.error fault, w') ↔
      (e.preliminaries channel message).run.run w = (.error fault, w') := by
  rw [← answerTrigger_error_iff context]
  constructor
  · intro h
    obtain ⟨answered, w₁, hanswer, hx, hrest⟩ := run_coordinateNested h
    cases answered with
    | ok result => cases hx
    | error f =>
      obtain rfl := Except.error.inj hx
      rcases hrest with ⟨rfl, -⟩ | ⟨_, _, _, -, hresult, -⟩
      · exact hanswer
      · cases hresult
  · intro h
    cases levels with
    | zero => exact run_tryBind_error h
    | succ fewer =>
      -- a cascade begins with the responses, and there are none
      exact run_tryBind_error h

/-- A coordination fails just as its preliminaries do. -/
theorem coordinate_error_iff :
    (e.coordinate channel message context).run.run w = (.error fault, w') ↔
      (e.preliminaries channel message).run.run w = (.error fault, w') :=
  coordinateNested_error_iff _

/-- The preliminaries are through once candidates were found and the trigger has its key. -/
theorem run_preliminaries_ok {found : Candidates} {key : String}
    (h : (e.preliminaries channel message).run.run w = (.ok (found, key), w')) :
    ∃ w₁, (e.candidates channel message w.clock).run.run w = (.ok found, w₁) ∧
      (triggerKey channel message w.clock).run.run w₁ = (.ok key, w') := by
  rw [preliminaries, run_tryClockNow] at h
  rcases run_tryBind h with ⟨_, w₁, hfound, h⟩ | ⟨_, -, hf⟩
  · rcases run_tryBind h with ⟨_, w₂, hkey, hend⟩ | ⟨_, -, hf⟩
    · obtain ⟨hx, rfl⟩ := Prod.mk.inj hend
      obtain ⟨rfl, rfl⟩ := Prod.mk.inj (Except.ok.inj hx)
      exact ⟨w₁, hfound, hkey⟩
    · cases hf
  · cases hf

/-- Once its preliminaries are through, a coordination selects, and its responses are those of the selected.
Nested coordinations may follow. -/
theorem run_coordinate {x : Except Fault (List Response)}
    (h : (e.coordinate channel message context).run.run w = (x, w')) :
    (∃ f, x = .error f ∧ (e.preliminaries channel message).run.run w = (.error f, w')) ∨
      ∃ found key w₁ picks w₂ responses w₃,
        (e.preliminaries channel message).run.run w = (.ok (found, key), w₁) ∧
        (e.selectResponders ⟨channel, message, .classify message found.inChannel, found.eligible,
          found.ranked, w.clock⟩).run w₁ = (picks, w₂) ∧
        (e.respondAll channel message (.classify message found.inChannel) key context
          e.config.coordination.maxResponsesPerMessage picks).run (w₂.noted (.selected key picks)) =
            (responses, w₃) ∧
        x = .ok responses ∧
        (w' = w₃ ∨ ∃ fewer named,
          (e.cascade (fun m => e.coordinateNested fewer channel (some m) ⟨none, context.depth + 1⟩)
            channel named).run w₃ = ((), w')) := by
  cases x with
  | error f => exact Or.inl ⟨f, rfl, coordinate_error_iff.mp h⟩
  | ok responses =>
    obtain ⟨answered, w₃, hanswer, hx, hend⟩ := run_coordinateNested h
    obtain ⟨candidates, w₁, hfound, hrest⟩ := run_answerTrigger hanswer
    rcases hrest with ⟨f, -, rfl, -⟩ | ⟨found, key?, w₂, rfl, hkey, hrest⟩
    · cases hx
    · rcases hrest with ⟨f, -, rfl, -⟩ | ⟨key, picks, v, _, rfl, hselect, hresponses, rfl⟩
      · cases hx
      · obtain rfl := Except.ok.inj hx
        refine Or.inr ⟨found, key, w₂, picks, v, _, w₃, ?_, hselect, hresponses, rfl, ?_⟩
        · rw [preliminaries, run_tryClockNow, run_tryBind_ok hfound, run_tryBind_ok hkey]
          rfl
        · rcases hend with ⟨hw, -⟩ | ⟨fewer, _, _, -, -, hcascade⟩
          · exact Or.inl hw
          · exact Or.inr ⟨fewer, _, hcascade⟩

/-! ## What the preliminaries do -/

/-- The avatars of the channel are all that is asked of the services. -/
theorem preliminaries_ofListing {others : Collaborators σ} (h : others.ListsAs e.outside channel) :
    ({ e with outside := others } : Engine σ).preliminaries channel message =
      e.preliminaries channel message := by
  have hlists : others.listAvatars channel = e.outside.listAvatars channel := h
  simp only [preliminaries, candidates, hlists]
  rfl

/-- Candidates are found with one call of a service, and after that in the store alone. -/
theorem candidates_writes (e : Engine σ) (channel : String) (message : Option Message) (now : Int)
    (w : World σ) :
    StoreOnly Tables.besidePreliminaries (e.outside.after (.listAvatars channel) w)
      ((e.candidates channel message now).run.run w).2 := by
  have hc := StoreOnly.chains (σ := σ) Tables.besidePreliminaries
  have hensure : ∀ channel avatar now,
      (Presence.ensure channel avatar now).Frames Tables.besidePreliminaries :=
    Presence.ensure_frames fun _ _ => rfl
  have hlisted : (orElse (e.outside.listAvatars channel) []).run w =
      (_, e.outside.after (.listAvatars channel) w) := run_orElse rfl
  rw [candidates, run_tryLift_ok hlisted]
  refine Keeps.tryBind hc (.onStore (presentRecords_frames hensure _ _ _ _)) (fun present => ?_) _
  refine Keeps.tryBind hc ?_ fun ranked => .tryPure hc _
  exact .tryBind hc (.onStore (Activity.topics_frames channel)) fun _ => .tryPure hc _

/-- The trigger's key is drawn from the clock and the message. -/
theorem triggerKey_writes (now : Int) :
    Keeps (StoreOnly (σ := σ) Tables.besidePreliminaries) (triggerKey channel message now).run := by
  have hc := StoreOnly.chains (σ := σ) Tables.besidePreliminaries
  cases message with
  | some m => exact .tryPure hc _
  | none =>
    exact .tryBind hc (.onStore (Tick.peek_frames (fun _ _ => rfl) channel now)) fun _ => .tryPure hc _

/-- Besides what the listing of avatars does, the preliminaries write presence and ticks, and nothing
else. -/
theorem preliminaries_writes (e : Engine σ) (channel : String) (message : Option Message) (w : World σ) :
    StoreOnly Tables.besidePreliminaries (e.outside.after (.listAvatars channel) w)
      ((e.preliminaries channel message).run.run w).2 := by
  have hc := StoreOnly.chains (σ := σ) Tables.besidePreliminaries
  have hfound := e.candidates_writes channel message w.clock w
  rw [preliminaries, run_tryClockNow]
  rcases hrun : (e.candidates channel message w.clock).run.run w with ⟨f | found, w₁⟩
  · rw [hrun] at hfound
    rw [run_tryBind_error hrun]
    exact hfound
  · rw [hrun] at hfound
    rw [run_tryBind_ok hrun]
    have hkey : Keeps (StoreOnly (σ := σ) Tables.besidePreliminaries) (do
        let key ← triggerKey channel message w.clock
        return (found, key) : Try σ (Candidates × String)).run :=
      .tryBind hc (triggerKey_writes _) fun _ => .tryPure hc _
    exact hc.trans hfound (hkey w₁)

end Engine

/-- Where a coordination ends in a fault, nothing was said. No service was called but for the avatars of
the channel: with any others that list the same, its run is the same. In the world that this one call
left, nothing changed but the store, and of that nothing but presence and ticks. -/
theorem nothing_said_on_fault {e : Engine σ} {channel : String} {message : Option Message}
    {context : CoordinationContext} {fault : Fault} {w w' : World σ}
    (h : (e.coordinate channel message context).run.run w = (.error fault, w')) :
    let listed := e.outside.after (.listAvatars channel) w
    (∀ others : Collaborators σ, others.ListsAs e.outside channel →
      (({ e with outside := others } : Engine σ).coordinate channel message context).run.run w =
        (.error fault, w')) ∧
      ∃ s, w' = { listed with store := s } ∧
        s.tables.besidePreliminaries = listed.store.tables.besidePreliminaries := by
  have hfault := Engine.coordinate_error_iff.mp h
  constructor
  · intro others hlists
    rw [Engine.coordinate_error_iff, Engine.preliminaries_ofListing hlists]
    exact hfault
  · obtain ⟨s, hs, hunseen⟩ := e.preliminaries_writes channel message w
    rw [hfault] at hs
    exact ⟨s, hs, hunseen.view⟩

/-- A channel whose topics cannot be read. -/
def Store.Tables.illegible : Tables :=
  { Tables.empty with topics := some [⟨some "c", "no list", .number 0⟩] }

/-- Two avatars are made present before the topics turn out to be illegible. Neither says anything, and
neither would with another text. -/
theorem nothing_said_on_fault_illegible :
    let e : Engine Unit := .standard (.plain Avatar.pair "hello")
    let w : World Unit := .ofTables .illegible ()
    ∃ fault w', (e.coordinate "c" none ⟨none, 0⟩).run.run w = (.error fault, w') ∧
      w'.store.tables.presence.map List.length = some 2 ∧
      (({ e with outside := .plain Avatar.pair "bye" } : Engine Unit).coordinate "c" none
        ⟨none, 0⟩).run.run w = (.error fault, w') ∧
      w'.journal = [] ∧
      w'.store.tables.besidePreliminaries = Tables.illegible.besidePreliminaries := by
  intro e w
  have hran : ((e.coordinate "c" none ⟨none, 0⟩).run.run w).1.toOption = none ∧
      ((e.coordinate "c" none ⟨none, 0⟩).run.run w).2.store.tables.presence.map List.length =
        some 2 := by
    decide +kernel
  obtain ⟨hfault, hmade⟩ := hran
  rcases hrun : (e.coordinate "c" none ⟨none, 0⟩).run.run w with ⟨fault | responses, w'⟩
  · rw [hrun] at hmade
    obtain ⟨hsame, s, rfl, htables⟩ := nothing_said_on_fault hrun
    exact ⟨fault, _, rfl, hmade, hsame (.plain Avatar.pair "bye") rfl, rfl, htables⟩
  · rw [hrun] at hfault
    cases hfault

end TurnTaking
