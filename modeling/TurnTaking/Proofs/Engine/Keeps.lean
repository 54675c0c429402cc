import TurnTaking.Proofs.Store.Writes

/-!
# Keeps — relations between the worlds before and after

What an activity may do to the world is said by a relation between the world in which it begins and the
world in which it ends. A relation that is reflexive and transitive (`Chains`) holds of a program as soon
as it holds of its steps, in whatever order they are made and wherever a fault ends them.

* `Keeps` — every run of an activity is within a relation;
* `Keeps.bind`, `Keeps.tryBind`, … — the rules, one for each way to put activities together;
* `Calm` — the steps that such a relation has to allow: those in a still world (`World.Still`) that
  change nothing in a view of the tables.
-/

namespace TurnTaking

open Store Store.Access

variable {σ α β : Type}

/-- A relation between worlds that steps may be chained in. -/
structure Chains (R : World σ → World σ → Prop) : Prop where
  refl : ∀ w, R w w
  trans : ∀ {u v w}, R u v → R v w → R u w

/-- Wherever the activity begins, the world in which it ends is related to that one. -/
def Keeps (R : World σ → World σ → Prop) (a : Act σ α) : Prop := ∀ w, R w (a.run w).2

variable {R : World σ → World σ → Prop}

namespace Keeps

/-- What a program keeps holds of each of its runs. -/
theorem of_run {a : Act σ α} (h : Keeps R a) {x : α} {w w' : World σ} (hrun : a.run w = (x, w')) : R w w' := by
  have hkept := h w
  rw [hrun] at hkept
  exact hkept

theorem pure (h : Chains R) (x : α) : Keeps R (pure x : Act σ α) := fun w => h.refl w

/-- Where the first of two activities begins may matter. -/
theorem bindAt (h : Chains R) {a : Act σ α} {f : α → Act σ β} {w : World σ} (ha : R w (a.run w).2)
    (hf : ∀ x, Keeps R (f x)) : R w ((a >>= f).run w).2 :=
  h.trans ha (hf _ _)

/-- Two programs keep together what both keep. -/
theorem bind (h : Chains R) {a : Act σ α} {f : α → Act σ β} (ha : Keeps R a)
    (hf : ∀ x, Keeps R (f x)) : Keeps R (a >>= f) :=
  fun w => bindAt h (ha w) hf

/-- Looking at the world changes nothing. -/
theorem look (h : Chains R) {f : World σ → Act σ β} (hf : ∀ x, Keeps R (f x)) :
    Keeps R ((get : Act σ (World σ)) >>= f) :=
  bind h (fun w => h.refl w) hf

/-! ## Activities that may end in a fault -/

theorem tryPure (h : Chains R) (x : α) : Keeps R (Pure.pure x : Try σ α).run := fun w => h.refl w

/-- A program that may fail keeps what its parts keep, up to the failure. -/
theorem tryBind (h : Chains R) {a : Try σ α} {f : α → Try σ β} (ha : Keeps R a.run)
    (hf : ∀ x, Keeps R (f x).run) : Keeps R (a >>= f).run := by
  rw [ExceptT.run_bind]
  refine bind h ha fun x => ?_
  cases x with
  | error e => exact pure h _
  | ok x => exact hf x

/-- Looking at the world changes nothing. -/
theorem tryLook (h : Chains R) {f : World σ → Try σ β} (hf : ∀ x, Keeps R (f x).run) :
    Keeps R ((get : Try σ (World σ)) >>= f).run :=
  tryBind h (fun w => h.refl w) hf

/-- What always comes to a result is a step of what may end in a fault. -/
theorem tryLift (h : Chains R) {a : Act σ α} {f : α → Try σ β} (ha : Keeps R a)
    (hf : ∀ x, Keeps R (f x).run) : Keeps R ((liftM a : Try σ α) >>= f).run := by
  refine tryBind h (fun w => ?_) hf
  exact ha w

/-- To ignore a failure is to keep the rest. -/
theorem quietly (h : Chains R) {a : Try σ α} (ha : Keeps R a.run) : Keeps R (quietly a) :=
  bind h ha fun _ => pure h _

theorem orElse (h : Chains R) {a : Try σ α} (other : α) (ha : Keeps R a.run) :
    Keeps R (orElse a other) := by
  refine bind h ha fun x => ?_
  cases x with
  | error e => exact pure h _
  | ok x => exact pure h _

end Keeps

/-! ## Inversion -/

/-- What follows an activity that came to a result goes on in the world that it left, -/
theorem run_tryBind_ok {a : Try σ α} {f : α → Try σ β} {x : α} {w w' : World σ}
    (h : a.run.run w = (.ok x, w')) : (a >>= f).run.run w = (f x).run.run w' := by
  rw [ExceptT.run_bind, StateT.run_bind, h]
  rfl

/-- and is not reached after one that ended in a fault. -/
theorem run_tryBind_error {a : Try σ α} {f : α → Try σ β} {fault : Fault} {w w' : World σ}
    (h : a.run.run w = (.error fault, w')) : (a >>= f).run.run w = (.error fault, w') := by
  rw [ExceptT.run_bind, StateT.run_bind, h]
  rfl

/-- What always comes to a result leads on. -/
theorem run_tryLift_ok {a : Act σ α} {f : α → Try σ β} {x : α} {w w' : World σ}
    (h : a.run w = (x, w')) : ((liftM a : Try σ α) >>= f).run.run w = (f x).run.run w' := by
  have hlift : ((.ok (a.run w).1 : Except Fault α), (a.run w).2) = (.ok x, w') := by rw [h]
  exact run_tryBind_ok hlift

/-- A run of one activity after another is a run of both, or ended in a fault of the first. -/
theorem run_tryBind {a : Try σ α} {f : α → Try σ β} {y : Except Fault β} {w w'' : World σ}
    (h : (a >>= f).run.run w = (y, w'')) :
    (∃ x w', a.run.run w = (.ok x, w') ∧ (f x).run.run w' = (y, w'')) ∨
      ∃ e, a.run.run w = (.error e, w'') ∧ y = .error e := by
  rcases ha : a.run.run w with ⟨e | x, w'⟩
  · obtain ⟨rfl, rfl⟩ := Prod.mk.inj ((run_tryBind_error ha).symm.trans h)
    exact .inr ⟨e, rfl, rfl⟩
  · exact .inl ⟨x, w', rfl, (run_tryBind_ok ha).symm.trans h⟩

/-- Where both came to a result, so did the first. -/
theorem run_tryBind_through {a : Try σ α} {f : α → Try σ β} {y : β} {w w'' : World σ}
    (h : (a >>= f).run.run w = (.ok y, w'')) :
    ∃ x w', a.run.run w = (.ok x, w') ∧ (f x).run.run w' = (.ok y, w'') := by
  rcases run_tryBind h with hboth | ⟨e, -, hy⟩
  · exact hboth
  · cases hy

/-- What always comes to a result is no fault in a run. -/
theorem run_tryLift {a : Act σ α} {f : α → Try σ β} {y : Except Fault β} {w w'' : World σ}
    (h : ((liftM a : Try σ α) >>= f).run.run w = (y, w'')) :
    ∃ x w', a.run w = (x, w') ∧ (f x).run.run w' = (y, w'') := by
  rcases run_tryBind h with ⟨x, w', ha, hf⟩ | ⟨e, ha, -⟩
  · have hlift : ((.ok (a.run w).1 : Except Fault α), (a.run w).2) = (.ok x, w') := ha
    obtain ⟨hx, hw⟩ := Prod.mk.inj hlift
    exact ⟨x, w', Prod.ext (Except.ok.inj hx) hw, hf⟩
  · have hlift : ((.ok (a.run w).1 : Except Fault α), (a.run w).2) = (.error e, w'') := ha
    cases (Prod.mk.inj hlift).1

/-- A part that is within a relation ends the whole in a fault, or leads on to the rest. -/
theorem Keeps.leadsOn {R : World σ → World σ → Prop} (hR : Chains R) {a : Try σ α} {f : α → Try σ β}
    {u v w : World σ} {x : Except Fault β} (h : R u v) (ha : Keeps R a.run)
    (hrun : (a >>= f).run.run v = (x, w)) :
    (∃ fault, a.run.run v = (.error fault, w) ∧ x = .error fault ∧ R u w) ∨
      ∃ y v', a.run.run v = (.ok y, v') ∧ R u v' ∧ (f y).run.run v' = (x, w) := by
  rcases run_tryBind hrun with ⟨y, v', hfirst, hrest⟩ | ⟨fault, hfirst, hx⟩
  · exact .inr ⟨y, v', hfirst, hR.trans h (ha.of_run hfirst), hrest⟩
  · exact .inl ⟨fault, hfirst, hx, hR.trans h (ha.of_run hfirst)⟩

/-- An access of the store changes nothing else in the world. -/
theorem run_onStore {a : Access α} {x : Except Fault α} {w w' : World σ}
    (h : (onStore a : Try σ α).run.run w = (x, w')) :
    ∃ s', a.Runs w.store x s' ∧ w' = { w with store := s' } := by
  have hr : (a.outcome w.store, { w with store := a.after w.store }) = (x, w') := h
  obtain ⟨rfl, rfl⟩ := Prod.mk.inj hr
  exact ⟨_, runs_after a w.store, rfl⟩

/-- The run of a store access as a run of the engine. -/
theorem run_onStore_of {a : Access α} {x : Except Fault α} {s : Store} {w : World σ}
    (h : a.Runs w.store x s) : (onStore a : Try σ α).run.run w = (x, { w with store := s }) := by
  obtain ⟨rfl, rfl⟩ := (runs_after a w.store).unique h
  rfl

/-- What follows an access goes on with its result in the store that it left. -/
theorem run_onStore_bind {a : Access α} {f : Except Fault α → Act σ β} {x : Except Fault α} {s : Store}
    {w : World σ} (h : a.Runs w.store x s) :
    ((onStore a : Try σ α).run >>= f).run w = (f x).run { w with store := s } := by
  rw [StateT.run_bind, run_onStore_of h]
  rfl

theorem run_clockNow_bind {f : Int → Act σ β} {w : World σ} :
    ((clockNow : Act σ Int) >>= f).run w = (f w.clock).run w := rfl

theorem run_tryClockNow {f : Int → Try σ β} {w : World σ} :
    ((clockNow : Try σ Int) >>= f).run.run w = (f w.clock).run.run w := rfl

/-- What follows an activity goes on with its result in the world that it left. -/
theorem run_bind_of {a : Act σ α} {f : α → Act σ β} {x : α} {w w' : World σ} (h : a.run w = (x, w')) :
    (a >>= f).run w = (f x).run w' := by
  rw [StateT.run_bind, h]
  rfl

/-- A failure is replaced by the other value, the world stays where it led. -/
theorem run_orElse {a : Try σ α} {other : α} {x : Except Fault α} {w w' : World σ}
    (h : a.run.run w = (x, w')) : (orElse a other).run w = (x.toOption.getD other, w') := by
  rw [orElse, run_bind_of h]
  cases x <;> rfl

/-! ## Steps that nobody can tell -/

/-- Nothing in the world went on but in the store, the caches and the number of drawn ids. -/
structure World.Still (w w' : World σ) : Prop where
  clock : w'.clock = w.clock
  journal : w'.journal = w.journal
  outside : w'.outside = w.outside

/-- The relation allows every step in an otherwise still world that leaves a view of the tables as it was
and forgets no failure, and steps may be chained in it. -/
structure Calm (view : Tables → β) (R : World σ → World σ → Prop) : Prop extends Chains R where
  unseen : ∀ {w w' : World σ}, Unseen view w.store w'.store → w.Still w' → R w w'

namespace Calm

variable {view : Tables → β} (h : Calm view R)

include h

/-- What is changed besides the store in a world that is still does not matter. -/
theorem modify {f : World σ → World σ} (hs : ∀ w, (f w).store = w.store)
    (hstill : ∀ w : World σ, w.Still (f w)) : Keeps R (modify f : Act σ Unit) := by
  intro w
  have hstore : Unseen view w.store (f w).store := by
    rw [hs w]
    exact .refl _
  exact h.unseen hstore (hstill w)

/-- An access that is not seen. -/
theorem onStore {a : Access α} (ha : a.Frames view) : Keeps R (onStore a).run :=
  fun w => h.unseen (ha w.store _ _ (Access.runs_after a w.store)) ⟨rfl, rfl, rfl⟩

/-- An access that is not seen, whose faults are passed over. -/
theorem quietlyOnStore {a : Access α} (ha : a.Frames view) :
    Keeps R (quietly (TurnTaking.onStore a) : Act σ Unit) :=
  .quietly h.toChains (h.onStore ha)

theorem drawThreadId : Keeps R (drawThreadId : Act σ String) :=
  fun _ => h.unseen (.refl _) ⟨rfl, rfl, rfl⟩

/-- A sweep opens its tick with a change of the ticks and a note. -/
theorem openTick (hticks : Relation.ticks.Hidden view)
    (hopened : ∀ sweep, Keeps R (note (.opened sweep))) (channel : String) (now : Int) :
    Keeps R (Engine.openTick channel now : Try σ Sweep).run := by
  refine .tryBind h.toChains (h.onStore (Tick.advance_frames hticks channel now)) fun _ => ?_
  refine .tryLook h.toChains fun _ => ?_
  exact .tryLift h.toChains (hopened _) fun _ => .tryPure h.toChains _

/-- The decision whether a turn is leased writes the lease at most. -/
theorem leaseSelection {e : Engine σ} {channel : String} {s : Selection}
    (hacquire : ∀ tick origin now, Frames view
      (Lease.acquire? e.config.locks.leaseTtlMs channel s.avatar.id tick origin now))
    (message : Option Message) (tick : Option Nat) :
    Keeps R (e.leaseSelection channel message s tick).run := by
  unfold Engine.leaseSelection
  split
  · refine .tryLook h.toChains fun _ => ?_
    refine .tryBind h.toChains (h.onStore (hacquire _ _ _)) fun guard => ?_
    cases guard with
    | some guard => exact .tryPure h.toChains _
    | none =>
      show Keeps _ (ExceptT.run (if _ then _ else _))
      split
      · exact .tryPure h.toChains _
      · refine .tryBind h.toChains (h.onStore (Lease.find?_frames _ _ _)) fun held => ?_
        cases held with
        | none => exact .tryPure h.toChains _
        | some held =>
          show Keeps _ (ExceptT.run (if _ then _ else _))
          split
          · exact .tryPure h.toChains _
          · exact .tryPure h.toChains _
  · exact .tryPure h.toChains _

theorem updateCache (e : Engine σ) (f : SpeakerCache → SpeakerCache) :
    Keeps R (e.updateCache f) :=
  h.modify (fun _ => rfl) fun _ => ⟨rfl, rfl, rfl⟩

end Calm

end TurnTaking
