import TurnTaking.Proofs.Engine.Coordination
import TurnTaking.Proofs.Retraction
import TurnTaking.Proofs.Store.Agreement

/-!
# Concurrence — turns that come to the same in two worlds

Two worlds may differ in the leases of some avatars, and in whatever of the services their account of what
was sent does not tell (`World.Alike`). An activity that concurs comes to the same in both, and leaves worlds
that differ in nothing else either, as long as no statement fails (`Concurs`). On services that are steady,
every turn concurs, and so does every response of an avatar whose leases do not differ.

* `Engine.Steady` — the clock stands still, texts depend on the avatar alone, and messages on the account of
  what was sent;
* `Engine.Steady.runTurn`, `Engine.Steady.respond` — from that, that turns and responses concur.
-/

namespace TurnTaking

open Store Store.Access

variable {σ τ α β : Type} {F : String → Bool} {ledger : σ → τ}

/-- Two worlds at the same time, whose tables differ in leases of some avatars at most, and whose services
have the same account of what was sent. -/
structure World.Alike (F : String → Bool) (ledger : σ → τ) (v w : World σ) : Prop where
  clock : v.clock = w.clock
  tables : v.store.tables.apartFrom F = w.store.tables.apartFrom F
  account : ledger v.outside = ledger w.outside

namespace World.Alike

variable {u v w : World σ}

theorem refl (w : World σ) : w.Alike F ledger w := ⟨rfl, rfl, rfl⟩

theorem trans (h : u.Alike F ledger v) (h' : v.Alike F ledger w) : u.Alike F ledger w :=
  ⟨h.clock.trans h'.clock, h.tables.trans h'.tables, h.account.trans h'.account⟩

end World.Alike

/-- In worlds that are alike, the activity comes to the same and leaves worlds that are alike, unless a
statement fails in one of them. It forgets no failure. -/
structure Concurs (F : String → Bool) (ledger : σ → τ) (a : Act σ α) : Prop where
  failures : ∀ w, w.store.failures ≤ (a.run w).2.store.failures
  alike : ∀ {v w}, v.Alike F ledger w → (a.run v).2.store.failures = v.store.failures →
    (a.run w).2.store.failures = w.store.failures →
    (a.run v).1 = (a.run w).1 ∧ (a.run v).2.Alike F ledger (a.run w).2

namespace Concurs

theorem pure (x : α) : Concurs F ledger (pure x : Act σ α) where
  failures _ := Nat.le_refl _
  alike h _ _ := ⟨rfl, h⟩

/-- What follows needs to concur only after what the first activity may come to. -/
theorem bindOf {a : Act σ α} {f : α → Act σ β} {P : α → Prop} (ha : Concurs F ledger a)
    (hP : ∀ w, P (a.run w).1) (hf : ∀ x, P x → Concurs F ledger (f x)) : Concurs F ledger (a >>= f) where
  failures w := Nat.le_trans (ha.failures w) ((hf _ (hP w)).failures _)
  alike := by
    intro v w h hv hw
    have hrun : ∀ u : World σ, (a >>= f).run u = (f (a.run u).1).run (a.run u).2 := fun _ => rfl
    rw [hrun] at hv hw
    -- where nothing failed on the whole, nothing failed on either part
    have hv₁ := ha.failures v
    have hw₁ := ha.failures w
    have hv₂ := (hf _ (hP v)).failures (a.run v).2
    have hw₂ := (hf _ (hP w)).failures (a.run w).2
    obtain ⟨hsame, hmid⟩ := ha.alike h (by omega) (by omega)
    rw [hrun, hrun]
    rw [← hsame] at hw hw₂ ⊢
    exact (hf _ (hP v)).alike hmid (by omega) (by omega)

/-- Programs that concur do so one after the other. -/
theorem bind {a : Act σ α} {f : α → Act σ β} (ha : Concurs F ledger a)
    (hf : ∀ x, Concurs F ledger (f x)) : Concurs F ledger (a >>= f) :=
  ha.bindOf (P := fun _ => True) (fun _ => trivial) fun x _ => hf x

/-- The same time is shown in both. -/
theorem clock {f : Int → Act σ β} (hf : ∀ now, Concurs F ledger (f now)) :
    Concurs F ledger ((clockNow : Act σ Int) >>= f) where
  failures w := (hf w.clock).failures w
  alike := by
    intro v w h hv hw
    rw [run_clockNow_bind] at hv hw ⊢
    rw [run_clockNow_bind, ← h.clock]
    rw [← h.clock] at hw
    exact (hf v.clock).alike h hv hw

/-- A step that changes nothing that is looked at. -/
theorem aside {f : World σ → World σ} (hstore : ∀ w, (f w).store = w.store)
    (hclock : ∀ w, (f w).clock = w.clock) (houtside : ∀ w, (f w).outside = w.outside) :
    Concurs F ledger (modify f : Act σ Unit) where
  failures w := Nat.le_of_eq (congrArg Store.failures (hstore w)).symm
  alike := by
    intro v w h _ _
    refine ⟨rfl, ?_, ?_, ?_⟩
    · exact (hclock v).trans (h.clock.trans (hclock w).symm)
    · show (f v).store.tables.apartFrom F = (f w).store.tables.apartFrom F
      rw [hstore, hstore]
      exact h.tables
    · show ledger (f v).outside = ledger (f w).outside
      rw [houtside, houtside]
      exact h.account

theorem note (entry : JournalEntry) : Concurs F ledger (note entry : Act σ Unit) :=
  .aside (fun _ => rfl) (fun _ => rfl) fun _ => rfl

theorem updateCache (e : Engine σ) (f : SpeakerCache → SpeakerCache) :
    Concurs F ledger (e.updateCache f) :=
  .aside (fun _ => rfl) (fun _ => rfl) fun _ => rfl

/-- An access that agrees on tables without these leases. -/
theorem onStore {a : Access α} (ha : Agrees (Tables.apartFrom F) a) :
    Concurs F ledger (onStore a : Try σ α).run where
  failures w := by
    show w.store.failures ≤ (a.after w.store).failures
    have hrun := runs_after a w.store
    cases hx : a.outcome w.store with
    | ok x => exact Nat.le_of_eq (ha.result (hx ▸ hrun)).symm
    | error f => exact Nat.le_of_lt (ha.fault (hx ▸ hrun))
  alike := by
    intro v w h hv hw
    have hv : (a.after v.store).failures = v.store.failures := hv
    have hw : (a.after w.store).failures = w.store.failures := hw
    show a.outcome v.store = a.outcome w.store ∧ _
    -- a fault in either world would have been counted
    cases hx : a.outcome v.store with
    | error f =>
      have hcounted := ha.fault (hx ▸ runs_after a v.store)
      omega
    | ok x =>
      cases hy : a.outcome w.store with
      | error f =>
        have hcounted := ha.fault (hy ▸ runs_after a w.store)
        omega
      | ok y =>
        obtain ⟨rfl, hview⟩ := ha.alike (hx ▸ runs_after a v.store) (hy ▸ runs_after a w.store) h.tables
        exact ⟨rfl, h.clock, hview, h.account⟩

theorem quietly {a : Try σ α} (ha : Concurs F ledger a.run) : Concurs F ledger (quietly a) :=
  ha.bind fun _ => .pure _

/-! ## Activities that may end in a fault -/

theorem tryPure (x : α) : Concurs F ledger (Pure.pure x : Try σ α).run := .pure (Except.ok x)

theorem tryBind {a : Try σ α} {f : α → Try σ β} (ha : Concurs F ledger a.run)
    (hf : ∀ x, Concurs F ledger (f x).run) : Concurs F ledger (a >>= f).run := by
  rw [ExceptT.run_bind]
  refine ha.bind fun x => ?_
  cases x with
  | error e => exact .pure _
  | ok x => exact hf x

theorem tryClock {f : Int → Try σ β} (hf : ∀ now, Concurs F ledger (f now).run) :
    Concurs F ledger ((clockNow : Try σ Int) >>= f).run :=
  .clock hf

end Concurs

/-! ## Leases and records of a response -/

namespace Engine

/-- A lease of an avatar outside the set is settled alike. -/
theorem settleLease_concurs {lease : Option Lease.Guard}
    (hlease : ∀ guard, lease = some guard → F guard.avatarId = false) (outcome : Turn.Outcome) :
    Concurs F ledger (settleLease lease outcome : Act σ Unit) := by
  cases lease with
  | none => exact .pure _
  | some guard =>
    have hsettle : ∀ status error clock, Agrees (Tables.apartFrom F)
        (Lease.settle guard.channelId guard.avatarId guard.tick status error clock) :=
      Lease.settle_agrees (hlease guard rfl) _ _
    unfold settleLease
    dsimp only
    split
    · exact .clock fun _ => .quietly (.onStore (.bind (hsettle _ _ _) fun _ => .pure _))
    · exact .clock fun _ => .quietly (.onStore (.bind (hsettle _ _ _) fun _ => .pure _))

/-- A message's lease for an avatar outside the set is decided alike. -/
theorem leaseForMessage_concurs {avatar : String} (h : F avatar = false) (e : Engine σ)
    (channel : String) (tick : Nat) (m : Message) (mode : Lease.Mode) :
    Concurs F ledger (e.leaseForMessage channel avatar tick m mode).run := by
  refine .tryClock fun now => .tryBind (.onStore (Lease.acquire?_agrees h _ _ _ _ _)) fun guard => ?_
  cases guard with
  | some guard => exact .tryPure _
  | none =>
    show Concurs _ _ (ExceptT.run (if _ then _ else _))
    split
    · exact .tryPure _
    · -- both find the same holder, who decides
      refine .tryBind (.onStore (Lease.find?_agrees h _ _)) fun held => ?_
      cases held with
      | none => exact .tryPure _
      | some held =>
        show Concurs _ _ (ExceptT.run (if _ then _ else _))
        split
        · exact .tryPure _
        · exact .tryPure _

/-- A selection outside the set is leased alike. -/
theorem leaseSelection_concurs (e : Engine σ) (channel : String) (message : Option Message)
    {s : Selection} (hs : F s.avatar.id = false) (tick : Option Nat) :
    Concurs F ledger (e.leaseSelection channel message s tick).run := by
  unfold leaseSelection
  split
  · exact leaseForMessage_concurs hs _ _ _ _ _
  · exact .tryPure _

theorem recordResponse_concurs (e : Engine σ) (channel : String) (message : Option Message)
    (trigger : Trigger) (s : Selection) (sent : Turn.Sent) :
    Concurs F ledger (e.recordResponse channel message trigger s sent) := by
  have hview := Tables.apartFrom_turnTables F
  unfold recordResponse
  extract_lets session
  have hsession : ∀ x, Concurs F ledger (session x) := by
    intro x
    simp only [session]
    split
    · split
      · exact .quietly (.onStore (Session.recordResponse_agrees hview.sessions _ _ _ _))
      · exact .pure _
    · exact .pure _
  split
  · exact .bind (.quietly (.onStore (Thread.recordTurn_agrees hview.threads _ _ _ _))) hsession
  · exact hsession ()

end Engine

/-- The services that a turn calls keep the clock and the tables. What they make for an avatar is the same at
all times, and leaves their account of what was sent as it is. How a message is sent, and how the account
goes on when one is sent or an avatar was active, is decided by the account and the time. -/
structure Engine.Steady (e : Engine σ) (made : Avatar → Except Fault (Option Generated))
    (ledger : σ → τ) : Prop extends e.TurnsKept where
  clock : ∀ call, call.OfTurn → ∀ w, (e.outside.after call w).clock = w.clock
  made : ∀ avatar channel message options w,
    ((e.outside.generate avatar channel message options).run.run w).1 = made avatar
  unsent : ∀ avatar channel message options w,
    ledger (e.outside.after (.generate avatar channel message options) w).outside = ledger w.outside
  sent : ∀ channel avatar text (v w : World σ), v.clock = w.clock →
    ledger v.outside = ledger w.outside →
      ((e.outside.send channel avatar text).run.run v).1 =
          ((e.outside.send channel avatar text).run.run w).1 ∧
        ledger (e.outside.after (.send channel avatar text) v).outside =
          ledger (e.outside.after (.send channel avatar text) w).outside
  touched : ∀ avatar time (v w : World σ), v.clock = w.clock → ledger v.outside = ledger w.outside →
    ledger (e.outside.after (.touch avatar time) v).outside =
      ledger (e.outside.after (.touch avatar time) w).outside

namespace Engine.Steady

variable {e : Engine σ} {made : Avatar → Except Fault (Option Generated)} (h : e.Steady made ledger)

include h

/-- A call of a turn keeps worlds alike where it keeps the accounts so. -/
theorem call {a : Act σ α} {c : Call} (hturn : c.OfTurn)
    (hcall : ∀ w, (a.run w).2 = e.outside.after c w)
    (hcalled : ∀ {v w : World σ}, v.clock = w.clock → ledger v.outside = ledger w.outside →
      (a.run v).1 = (a.run w).1 ∧
        ledger (e.outside.after c v).outside = ledger (e.outside.after c w).outside) :
    Concurs F ledger a where
  failures w := by
    rw [hcall]
    exact h.failures c hturn w
  alike := by
    intro v w hvw _ _
    obtain ⟨hsame, haccount⟩ := hcalled hvw.clock hvw.account
    rw [hcall, hcall]
    refine ⟨hsame, ?_, ?_, haccount⟩
    · rw [h.clock c hturn, h.clock c hturn]
      exact hvw.clock
    · rw [h.tables c hturn, h.tables c hturn]
      exact hvw.tables

theorem generate (avatar : Avatar) (channel : String) (message : Option Message)
    (options : ResponseOptions) :
    Concurs F ledger (e.outside.generate avatar channel message options).run := by
  refine h.call (c := .generate avatar channel message options) trivial (fun _ => rfl) ?_
  intro v w _ haccount
  constructor
  · rw [h.made, h.made]
  · rw [h.unsent, h.unsent]
    exact haccount

theorem send (channel : String) (avatar : Avatar) (text : String) :
    Concurs F ledger (e.outside.send channel avatar text).run :=
  h.call (c := .send channel avatar text) trivial (fun _ => rfl) (h.sent _ _ _ _ _)

theorem touch (avatar : String) (time : Int) :
    Concurs F ledger (quietly (e.outside.touch avatar time)) :=
  h.call (c := .touch avatar time) trivial (fun _ => rfl) fun hclock haccount =>
    ⟨rfl, h.touched _ _ _ _ hclock haccount⟩

/-! ## Turns -/

theorem generateAndSend (r : Turn.Request) : Concurs F ledger (e.generateAndSend r) := by
  refine .bind (h.generate _ _ _ _) fun generated => ?_
  split
  · exact .pure _
  · exact .pure _
  · exact .clock fun _ => .pure _
  · refine .bind (h.send _ _ _) fun sent => ?_
    split
    · exact .pure _
    · exact .clock fun _ => .pure _

theorem recordTurn (r : Turn.Request) (sent : Turn.Sent) : Concurs F ledger (e.recordTurn r sent) := by
  have hview := Tables.apartFrom_turnTables F
  refine .bind (.quietly (.onStore ?_)) fun _ => .bind (.updateCache _ _) fun _ => h.touch _ _
  exact e.recordRows_agrees hview.presence hview.sent hview.activity r sent

theorem runAdmitted (r : Turn.Request) : Concurs F ledger (e.runAdmitted r) := by
  have hview := Tables.apartFrom_turnTables F
  refine .bind (.note _) fun _ => .bind (h.generateAndSend r) fun outcome => ?_
  dsimp only
  split
  · -- an admission that came to no message is taken back, if there was one
    split
    · exact .bind (.quietly (.onStore (Gate.revoke_agrees hview.responders _ _))) fun _ => .pure _
    · exact .bind (.pure _) fun _ => .pure _
  · exact .bind (h.recordTurn r _) fun _ => .pure _

theorem runLocked (r : Turn.Request) : Concurs F ledger (e.runLocked r) := by
  have hview := Tables.apartFrom_turnTables F
  unfold Engine.runLocked
  split
  · exact h.runAdmitted r
  · refine .clock fun now => .bind (.onStore ?_) fun entered => ?_
    · exact Gate.enter_agrees hview.responders hview.activity _ _ _
    · split
      · exact h.runAdmitted r
      · exact .pure _
      · exact .pure _

/-- A turn runs alike in both. -/
theorem runTurn (r : Turn.Request) : Concurs F ledger (e.runTurn r) := by
  have hview := Tables.apartFrom_turnTables F
  -- however the turn ended, that is noted last
  have hended : ∀ outcome, Concurs F ledger
      (do note (.turn r outcome); return outcome : Act σ Turn.Outcome) :=
    fun outcome => .bind (.note _) fun _ => .pure _
  refine .clock fun now => .bind (.onStore (Lock.tryGuard_agrees hview.locks _ _ _ _)) fun locked => ?_
  dsimp only
  split
  · exact .bind (.pure _) hended
  · exact .bind (.pure _) hended
  · refine .bind (h.runLocked r) fun outcome => ?_
    exact .bind (.quietly (.onStore (Lock.Guard.drop_agrees hview.locks _))) fun _ =>
      .bind (.pure _) hended

/-! ## Responses of avatars whose leases do not differ -/

variable (channel : String) (message : Option Message) (trigger : Trigger) (key : String)

/-- A selection outside the set is answered alike. -/
theorem answer (depth : Nat) (s : Selection) {lease : Option Lease.Guard}
    (hlease : ∀ guard, lease = some guard → F guard.avatarId = false) :
    Concurs F ledger (e.answer channel message trigger key depth s lease) := by
  refine .bind (h.runTurn _) fun outcome => ?_
  refine .bind (settleLease_concurs hlease outcome) fun _ => ?_
  split
  · exact .pure _
  · exact .bind (e.recordResponse_concurs _ _ _ _ _) fun _ => .pure _

theorem respondLeased (context : CoordinationContext) (s : Selection) {lease : Option Lease.Guard}
    (hlease : ∀ guard, lease = some guard → F guard.avatarId = false) :
    Concurs F ledger (e.respondLeased channel message trigger key context s lease) := by
  have hanswer := h.answer channel message trigger key context.depth s hlease
  unfold Engine.respondLeased
  dsimp only
  split
  · exact .bind (.note _) fun _ => hanswer
  · exact hanswer

/-- The lease of a turn is its avatar's own, so that none that differs decides on it. -/
theorem respond (context : CoordinationContext) {s : Selection} (hs : F s.avatar.id = false) :
    Concurs F ledger (e.respond channel message trigger key context s) := by
  refine .bindOf (P := fun decision => ∀ guard, decision = .ok (.leased guard) →
    guard.avatarId = s.avatar.id) (e.leaseSelection_concurs _ _ hs _) ?_ fun decision hdecision => ?_
  · intro w guard hguard
    exact leaseSelection_leased (Prod.ext hguard rfl)
  · split
    · exact .pure _
    · split
      · exact .bind (.note _) fun _ => .pure _
      · exact .pure _
    · exact h.respondLeased _ _ _ _ _ _ fun _ hnone => by cases hnone
    · -- the guard is that of a lease that is not left out
      rename_i guard
      refine h.respondLeased _ _ _ _ _ _ fun _ hguard => ?_
      obtain rfl := Option.some.inj hguard
      rw [hdecision guard rfl]
      exact hs

/-- Selections outside the set are answered alike, one after the other. -/
theorem respondAll (context : CoordinationContext) (limit : Nat) (selections : List Selection)
    (hs : ∀ s ∈ selections, F s.avatar.id = false) :
    Concurs F ledger (e.respondAll channel message trigger key context limit selections) := by
  induction selections generalizing limit with
  | nil => cases limit <;> exact .pure _
  | cons s rest ih =>
    have hrest : ∀ s ∈ rest, F s.avatar.id = false := fun s h => hs s (.tail _ h)
    cases limit with
    | zero => exact .pure _
    | succ limit =>
      refine .bind (h.respond _ _ _ _ _ (hs s (.head _))) fun response => ?_
      cases response with
      | some response => exact .bind (ih limit hrest) fun _ => .pure _
      | none => exact ih (limit + 1) hrest

end Engine.Steady

end TurnTaking
