import TurnTaking.Proofs.Engine.Course
import TurnTaking.Proofs.Engine.Turn
import TurnTaking.Proofs.Gate
import TurnTaking.Proofs.Lock

/-!
# Retraction — turns that leave nothing behind

A turn writes two rows before a text is asked for: its lock and its admission. If it ends without a
message, it removes both by their keys. That never removes anybody else's row, since the turn would not
have come that far had there been one under the same key.

* `Traceless` — steps after which every table is as it was before, if no statement failed;
* `Traceless.takenBack` — such steps with a row added before and removed after are such steps again;
* `no_trace_without_message` — a turn without a message is such a step, whatever the services do besides
  writing to the store.
-/

namespace TurnTaking

open Store Store.Access

variable {σ : Type}

/-- A removal that was not counted as a failure has taken back what was added. -/
theorem Store.Access.Counts.runs_ok {α : Type} {a : Access α} (h : Counts a) {s : Store}
    (hsound : (a.after s).failures = s.failures) : ∃ x, a.Runs s (.ok x) (a.after s) := by
  cases hx : a.outcome s with
  | ok x => exact ⟨x, hx ▸ runs_after a s⟩
  | error f =>
    have hcounted := h.counted (hx ▸ runs_after a s)
    omega

namespace Lock

theorem Guard.drop_counts (g : Guard) : Counts g.drop :=
  (Counts.change _ _).bind fun _ => .pure _

/-- A guard that is dropped takes back the row of its lock. -/
theorem runs_drop_takenBack {ttl now : Int} {channel avatar : String} {t : Tables} {s s' : Store}
    {x : Unit} (h : Added .locks LockRow.key (takenRow ttl channel avatar now) t s.tables)
    (hrun : (Guard.drop ⟨channel, avatar⟩).Runs s (.ok x) s') : s'.tables = t := by
  obtain ⟨n, s₁, hremove, hrest⟩ := runs_bind_ok hrun
  obtain ⟨-, rfl⟩ := runs_pure_ok hrest
  exact h.takenBack Relation.lawful_locks hremove

end Lock

namespace Gate

theorem revoke_counts (key avatar : String) : Counts (revoke key avatar) :=
  (Counts.change _ _).bind fun _ => .pure _

/-- A revocation takes back the row of an admission. -/
theorem runs_revoke_takenBack {r : Request} {now : Int} {t : Tables} {s s' : Store} {x : Unit}
    (h : Added .responders ResponderRow.key (admittedRow r now) t s.tables)
    (hrun : (revoke r.triggerKey r.avatarId).Runs s (.ok x) s') : s'.tables = t := by
  obtain ⟨n, s₁, hremove, hrest⟩ := runs_bind_ok hrun
  obtain ⟨-, rfl⟩ := runs_pure_ok hrest
  exact h.takenBack Relation.lawful_responders hremove

end Gate

/-- No failure was forgotten, and if none was counted, every table is as it was. -/
structure Traceless (w w' : World σ) : Prop where
  failures : w.store.failures ≤ w'.store.failures
  tables : w'.store.failures = w.store.failures → w'.store.tables = w.store.tables

namespace Traceless

variable {u v w : World σ}

theorem noted (w : World σ) (entry : JournalEntry) : Traceless w (w.noted entry) :=
  ⟨Nat.le_refl _, fun _ => rfl⟩

theorem trans (h : Traceless u v) (h' : Traceless v w) : Traceless u w where
  failures := Nat.le_trans h.failures h'.failures
  tables hsound := by
    -- where none failed on the whole way, none failed on either part of it
    have hfirst := h.failures
    have hlast := h'.failures
    rw [h'.tables (by omega), h.tables (by omega)]

/-- What was written before is taken back after: then the whole leaves every table as it was. -/
theorem takenBack {undo : Access Unit} (hcounts : Counts undo)
    (hundo : ∀ s s', s.tables = v.store.tables → undo.Runs s (.ok ()) s' → s'.tables = u.store.tables)
    (hwritten : u.store.failures ≤ v.store.failures) (h : Traceless v w) :
    Traceless u { w with store := undo.after w.store } := by
  have hkept := h.failures
  have hlast := hcounts.failures (runs_after undo w.store)
  constructor
  · exact Nat.le_trans hwritten (Nat.le_trans hkept hlast)
  · intro hsound
    have hsound : (undo.after w.store).failures = u.store.failures := hsound
    obtain ⟨x, hrun⟩ := hcounts.runs_ok (s := w.store) (by omega)
    exact hundo _ _ (h.tables (by omega)) hrun

end Traceless

/-- The services of the engine write to no table, and forget no failure of the store. They may read. -/
structure Engine.TablesKept (e : Engine σ) : Prop where
  tables : ∀ call w, (e.outside.after call w).store.tables = w.store.tables
  failures : ∀ call w, w.store.failures ≤ (e.outside.after call w).store.failures

/-- The call is one that a turn makes. -/
def Call.OfTurn : Call → Prop
  | .generate .. | .send .. | .touch .. => True
  | _ => False

/-- The same of the services that a turn calls. -/
structure Engine.TurnsKept (e : Engine σ) : Prop where
  tables : ∀ call, call.OfTurn → ∀ w, (e.outside.after call w).store.tables = w.store.tables
  failures : ∀ call, call.OfTurn → ∀ w, w.store.failures ≤ (e.outside.after call w).store.failures

/-- Services that write no tables leave those of a turn. -/
theorem Engine.TablesKept.turns {e : Engine σ} (h : e.TablesKept) : e.TurnsKept :=
  ⟨fun call _ => h.tables call, fun call _ => h.failures call⟩

/-- What the services do during a turn leaves no trace. -/
theorem Engine.TurnsKept.traceless {e : Engine σ} (h : e.TurnsKept) {call : Call} (hcall : call.OfTurn)
    (w : World σ) : Traceless w (e.outside.after call w) :=
  ⟨h.failures call hcall w, fun _ => h.tables call hcall w⟩

/-- The gate is asked about the avatar and the trigger of the turn itself. -/
def Turn.Request.AsksForItself (r : Turn.Request) : Prop :=
  ∀ g, r.gate = some g → g.triggerKey = r.options.triggerKey ∧ g.avatarId = r.avatar.id

namespace Engine

variable {e : Engine σ} {r : Turn.Request} {o : Turn.Outcome} {w w' : World σ}

/-- To make and send a text leaves no trace in the tables. -/
theorem generateAndSend_traceless (h : e.TurnsKept)
    (hrun : (e.generateAndSend r).run w = (o, w')) : Traceless w w' := by
  obtain ⟨rfl | ⟨text, rfl⟩, -⟩ := run_generateAndSend hrun
  · exact h.traceless (by trivial) w
  · exact .trans (h.traceless (by trivial) w) (h.traceless (by trivial) _)

/-- A turn without a gate writes nothing once it holds its lock. -/
theorem runAdmitted_traceless (h : e.TurnsKept) (hgate : r.gate = none) (hsilent : o.sent? = none)
    (hrun : (e.runAdmitted r).run w = (o, w')) : Traceless w w' := by
  rcases hgen : (e.generateAndSend r).run (w.noted (.generating r)) with ⟨outcome, w₁⟩
  have hmade : Traceless w w₁ :=
    .trans (.noted w _) (generateAndSend_traceless h hgen)
  rw [runAdmitted, run_bind_of (w.run_note _), run_bind_of hgen] at hrun
  cases hsent : outcome.sent? with
  | none =>
    simp only [hsent, hgate] at hrun
    obtain ⟨rfl, rfl⟩ := Prod.mk.inj hrun
    exact hmade
  | some sent =>
    simp only [hsent] at hrun
    obtain ⟨rfl, -⟩ := Prod.mk.inj hrun
    cases hsent.symm.trans hsilent

/-- While its lock is held, a turn that comes to no message takes back its admission, if it got one. -/
theorem runLocked_traceless (h : e.TurnsKept) (hgate : r.AsksForItself) (hsilent : o.sent? = none)
    (hrun : (e.runLocked r).run w = (o, w')) : Traceless w w' := by
  cases hr : r.gate with
  | none =>
    simp only [runLocked, hr] at hrun
    exact runAdmitted_traceless h hr hsilent hrun
  | some g =>
    obtain ⟨hkey, havatar⟩ := hgate g hr
    obtain ⟨x, s, henter, hlast⟩ := run_runLocked hr hrun
    have hseen : Unseen (fun _ => ()) w.store s :=
      Gate.enter_frames (fun _ _ => rfl) _ _ _ _ _ _ henter
    have hrows := Gate.runs_enter_rows henter
    rcases hlast with ⟨rfl, hadmitted⟩ | ⟨hother, -, rfl⟩
    · rcases hrows with ⟨a, ha, ⟨-, -, hadded⟩ | ⟨hne, -⟩⟩ | ⟨⟨f, hf⟩, -⟩
      · obtain ⟨w₁, hgen, hrest⟩ := run_runAdmitted (by rw [hr]; rfl) hadmitted
        rw [hsilent] at hrest
        obtain rfl := hrest
        have hmade : Traceless { w with store := s } w₁ :=
          .trans (.noted _ _) (generateAndSend_traceless h hgen)
        -- what is revoked is what was admitted, since the gate was asked for the turn itself
        refine hmade.takenBack (Gate.revoke_counts _ _) (fun s₁ s₂ hs₁ hrevoke => ?_) hseen.failures
        rw [← hkey, ← havatar] at hrevoke
        rw [← show s₁.tables = s.tables from hs₁] at hadded
        exact Gate.runs_revoke_takenBack hadded hrevoke
      · exact absurd (Except.ok.inj ha).symm hne
      · cases hf
    · refine ⟨hseen.failures, fun _ => ?_⟩
      rcases hrows with ⟨a, rfl, ⟨rfl, -⟩ | ⟨-, htables⟩⟩ | ⟨-, htables⟩
      · exact absurd rfl hother
      · exact htables
      · exact htables

/-- A turn without a message leaves no trace. -/
theorem runTurn_traceless (h : e.TurnsKept) (hgate : r.AsksForItself) (hsilent : o.sent? = none)
    (hrun : (e.runTurn r).run w = (o, w')) : Traceless w w' := by
  obtain ⟨x, s, hguard, hlast⟩ := run_runTurn hrun
  rcases hlast with ⟨guard, w₁, rfl, hlocked, rfl⟩ | ⟨hnone, -, rfl⟩
  · rcases Lock.runs_tryGuard_rows hguard with ⟨hx, hfailures, hadded⟩ | ⟨hnone, -⟩
    · obtain rfl := Option.some.inj (Except.ok.inj hx)
      have hkept := runLocked_traceless h hgate hsilent hlocked
      refine .trans (hkept.takenBack (Lock.Guard.drop_counts _) (fun s₁ s₂ hs₁ hdrop => ?_)
        (Nat.le_of_eq hfailures.symm)) (.noted _ _)
      rw [← show s₁.tables = s.tables from hs₁] at hadded
      exact Lock.runs_drop_takenBack hadded hdrop
    · exact absurd rfl (hnone guard)
  · rcases Lock.runs_tryGuard_rows hguard with ⟨hx, -⟩ | ⟨-, htables, hfailures⟩
    · exact absurd hx (hnone _)
    · exact ⟨hfailures, fun _ => htables⟩

/-- The turns of a coordination ask for themselves, -/
theorem requestOf_asksForItself (channel : String) (message : Option Message) (trigger : Trigger)
    (key : String) (depth : Nat) (s : Selection) :
    (requestOf channel message trigger key depth s).AsksForItself := by
  intro g hg
  obtain rfl := Option.some.inj hg
  exact ⟨rfl, rfl⟩

/-- and so do those of a sweep. -/
theorem ambientRequest_asksForItself (sweep : Sweep) (a : Avatar) :
    (ambientRequest sweep a).AsksForItself := by
  intro g hg
  obtain rfl := Option.some.inj hg
  exact ⟨rfl, rfl⟩

end Engine

/-- Whatever the store holds, and whatever the services do besides writing to it: a turn that ends without
a message leaves every table as it was, if no statement fails. It may have been silent, contended,
rejected or failed; with a gate, it asks for its own admission. -/
theorem no_trace_without_message {e : Engine σ} (h : e.TablesKept) {r : Turn.Request}
    (hgate : r.AsksForItself) (w : World σ) :
    let ended := (e.runTurn r).run w
    ended.1.sent? = none → ended.2.store.failures = w.store.failures →
      ended.2.store.tables = w.store.tables := by
  intro ended hsilent hsound
  have hrun : (e.runTurn r).run w = (ended.1, ended.2) := rfl
  exact (Engine.runTurn_traceless h.turns hgate hsilent hrun).tables hsound

theorem Collaborators.wordless_tablesKept : (Engine.standard .wordless).TablesKept := by
  constructor
  · intro call w
    cases call <;> rfl
  · intro call w
    cases call <;> exact Nat.le_refl _

/-- Of two avatars, one is answering a trigger already, and holds its lock. -/
def Store.Tables.answering : Tables :=
  { Tables.empty with
    locks := some [⟨"c", "bob", .number 0, .number 5000⟩]
    responders := some [⟨"k", "bob", "c", .number 0⟩] }

/-- The other one is admitted beside it and fails to make a text; of its turn nothing is left. -/
theorem no_trace_without_message_failed :
    let e : Engine Unit := .standard .wordless
    let r := Engine.requestOf "c" none .humanMessage "k" 0 (.plain (Avatar.named "ada" "Ada") .presence)
    let w : World Unit := .ofTables .answering ()
    let ended := (e.runTurn r).run w
    .generating r ∈ ended.2.journal ∧ ended.1 = .failed "Generation error: no text" ∧
      ended.2.store.failures = w.store.failures ∧ ended.2.store.tables = w.store.tables := by
  intro e r w ended
  have hended : .generating r ∈ ended.2.journal ∧ ended.1 = .failed "Generation error: no text" ∧
      ended.2.store.failures = w.store.failures := by decide +kernel
  obtain ⟨hasked, hfailed, hsound⟩ := hended
  have hsilent : ended.1.sent? = none := by
    rw [hfailed]
    rfl
  exact ⟨hasked, hfailed, hsound, no_trace_without_message Collaborators.wordless_tablesKept
    (Engine.requestOf_asksForItself _ _ _ _ _ _) w hsilent hsound⟩

end TurnTaking
