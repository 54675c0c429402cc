import TurnTaking.Proofs.Engine.Journal
import TurnTaking.Proofs.Engine.Served

/-!
# Turns — what a run of one consists of

A turn taken apart: the lock, the gate, the text, and what is done after. Each lemma names the worlds
between the parts (`run_runTurn`, `run_runLocked`, `run_runAdmitted`, `run_generateAndSend`,
`run_recordTurn`).
-/

namespace TurnTaking.Engine

open Store Store.Access Turn

variable {σ : Type} {e : Engine σ} {r : Request} {w w' : World σ} {o : Outcome}

/-- A text is asked for, and sent unless the generator sent it or there is none. A message was sent when
that ended. -/
theorem run_generateAndSend (h : (e.generateAndSend r).run w = (o, w')) :
    (w' = e.outside.after (.generate r.avatar r.channelId r.message r.options) w ∨
        ∃ text, w' = e.outside.after (.send r.channelId r.avatar text)
          (e.outside.after (.generate r.avatar r.channelId r.message r.options) w)) ∧
      ∀ sent, o.sent? = some sent → sent.sentAt = w'.clock := by
  rcases hgen : (e.outside.generate r.avatar r.channelId r.message r.options).run.run w with ⟨x, w₁⟩
  have hafter : e.outside.after (.generate r.avatar r.channelId r.message r.options) w = w₁ :=
    congrArg Prod.snd hgen
  rw [hafter]
  rw [generateAndSend, run_bind_of hgen] at h
  rcases x with f | _ | ⟨_ | id, text⟩
  · -- no text could be made
    obtain ⟨rfl, rfl⟩ := Prod.mk.inj h
    exact ⟨.inl rfl, fun _ hsent => by cases hsent⟩
  · -- there was nothing to say
    obtain ⟨rfl, rfl⟩ := Prod.mk.inj h
    exact ⟨.inl rfl, fun _ hsent => by cases hsent⟩
  · -- a text is sent, or cannot be
    rcases hsend : (e.outside.send r.channelId r.avatar text).run.run w₁ with ⟨y, w₂⟩
    have hafter' : e.outside.after (.send r.channelId r.avatar text) w₁ = w₂ := congrArg Prod.snd hsend
    simp only [run_bind_of hsend] at h
    rcases y with f | id
    · obtain ⟨rfl, rfl⟩ := Prod.mk.inj h
      exact ⟨.inr ⟨text, hafter'.symm⟩, fun _ hsent => by cases hsent⟩
    · obtain ⟨rfl, rfl⟩ := Prod.mk.inj h
      refine ⟨.inr ⟨text, hafter'.symm⟩, fun _ hsent => ?_⟩
      obtain rfl := Option.some.inj hsent
      rfl
  · -- the text was sent while it was made
    obtain ⟨rfl, rfl⟩ := Prod.mk.inj h
    refine ⟨.inl rfl, fun _ hsent => ?_⟩
    obtain rfl := Option.some.inj hsent
    rfl

/-- A message is recorded in the store, then remembered, and at last the register of avatars is told. -/
theorem run_recordTurn (e : Engine σ) (r : Request) (sent : Sent) (w : World σ) :
    ∃ caches, ((e.recordTurn r sent).run w).2 =
      e.outside.after (.touch r.avatar.id sent.sentAt)
        { w with store := (e.recordRows r sent).after w.store, caches := caches } :=
  ⟨_, rfl⟩

/-- An admitted turn asks for its text, and then records the message or takes its admission back. -/
theorem run_runAdmitted (hgate : r.gate.isSome) (h : (e.runAdmitted r).run w = (o, w')) :
    ∃ w₁, (e.generateAndSend r).run (w.noted (.generating r)) = (o, w₁) ∧
      match o.sent? with
      | some sent => w' = ((e.recordTurn r sent).run w₁).2
      | none =>
        w' = { w₁ with store := (Gate.revoke r.options.triggerKey r.avatar.id).after w₁.store } := by
  rcases hgen : (e.generateAndSend r).run (w.noted (.generating r)) with ⟨outcome, w₁⟩
  rw [runAdmitted, run_bind_of (w.run_note _), run_bind_of hgen] at h
  cases hsent : outcome.sent? with
  | some sent =>
    simp only [hsent] at h
    obtain ⟨rfl, rfl⟩ := Prod.mk.inj h
    refine ⟨w₁, rfl, ?_⟩
    rw [hsent]
    rfl
  | none =>
    simp only [hsent, hgate, if_true] at h
    obtain ⟨rfl, rfl⟩ := Prod.mk.inj h
    refine ⟨w₁, rfl, ?_⟩
    rw [hsent]
    rfl

/-- A turn with a gate asks it first, and ends there unless it is admitted. -/
theorem run_runLocked {g : Gate.Request} (hgate : r.gate = some g)
    (h : (e.runLocked r).run w = (o, w')) :
    ∃ x s, (Gate.enter e.config.gate g w.clock).Runs w.store x s ∧
      ((x = .ok .admitted ∧ (e.runAdmitted r).run { w with store := s } = (o, w')) ∨
        (x ≠ .ok .admitted ∧ o.sent? = none ∧ w' = { w with store := s })) := by
  rcases hx : (Gate.enter e.config.gate g w.clock).run.run w.store with ⟨x, s⟩
  simp only [runLocked, hgate] at h
  rw [run_clockNow_bind, run_onStore_bind hx] at h
  refine ⟨x, s, hx, ?_⟩
  rcases x with f | a
  · obtain ⟨rfl, rfl⟩ := Prod.mk.inj h
    exact .inr ⟨by simp, rfl, rfl⟩
  · cases a with
    | admitted => exact .inl ⟨rfl, h⟩
    | channelCooldown remaining =>
      obtain ⟨rfl, rfl⟩ := Prod.mk.inj h
      exact .inr ⟨by simp, rfl, rfl⟩
    | responderCap responders =>
      obtain ⟨rfl, rfl⟩ := Prod.mk.inj h
      exact .inr ⟨by simp, rfl, rfl⟩
    | alreadyResponded =>
      obtain ⟨rfl, rfl⟩ := Prod.mk.inj h
      exact .inr ⟨by simp, rfl, rfl⟩

/-- A turn takes the lock, does what it does while it holds it, gives it back and notes its end. It ends
without a message where the lock is not to be had. -/
theorem run_runTurn (h : (e.runTurn r).run w = (o, w')) :
    ∃ x s, (Lock.tryGuard e.config.locks.responseLockTtlMs r.channelId r.avatar.id w.clock).Runs
        w.store x s ∧
      ((∃ guard w₁, x = .ok (some guard) ∧ (e.runLocked r).run { w with store := s } = (o, w₁) ∧
          w' = { w₁ with store := guard.drop.after w₁.store }.noted (.turn r o)) ∨
        ((∀ guard, x ≠ .ok (some guard)) ∧ o.sent? = none ∧
          w' = { w with store := s }.noted (.turn r o))) := by
  rcases hx : (Lock.tryGuard e.config.locks.responseLockTtlMs r.channelId r.avatar.id
    w.clock).run.run w.store with ⟨x, s⟩
  simp only [runTurn] at h
  rw [run_clockNow_bind, run_onStore_bind hx] at h
  refine ⟨x, s, hx, ?_⟩
  rcases x with f | guard
  · obtain ⟨rfl, rfl⟩ := Prod.mk.inj h
    exact .inr ⟨by simp, rfl, rfl⟩
  · cases guard with
    | none =>
      obtain ⟨rfl, rfl⟩ := Prod.mk.inj h
      exact .inr ⟨by simp, rfl, rfl⟩
    | some guard =>
      rcases hlocked : (e.runLocked r).run { w with store := s } with ⟨outcome, w₁⟩
      simp only [run_bind_of hlocked] at h
      obtain ⟨rfl, rfl⟩ := Prod.mk.inj h
      exact .inl ⟨guard, w₁, rfl, rfl, rfl⟩

/-- The lease of a turn is settled for the reason why the turn counts as failed, if it does. -/
theorem run_settleLease (g : Lease.Guard) (o : Outcome) (w : World σ) :
    ((settleLease (some g) o).run w).2 =
      { w with
        store := (Lease.settle g.channelId g.avatarId g.tick
          (o.failure?.elim .completed fun _ => .failed) o.failure? w.clock).after w.store } := by
  unfold settleLease
  cases o.failure? with
  | none =>
    have hafter : (g.complete w.clock).after w.store =
        (Lease.complete g.channelId g.avatarId g.tick w.clock).after w.store :=
      after_bind (fun _ _ => rfl) _
    exact congrArg (fun store => { w with store := store }) hafter
  | some reason =>
    have hafter : (g.fail reason w.clock).after w.store =
        (Lease.fail g.channelId g.avatarId g.tick reason w.clock).after w.store :=
      after_bind (fun _ _ => rfl) _
    exact congrArg (fun store => { w with store := store }) hafter

/-- Up to the note of its end, a turn is within a relation that looks at no responders and no locks. -/
theorem Voiced.run_runTurn {β : Type} {view : Tables → β} {R : World σ → World σ → Prop}
    (h : e.Voiced view R) (hresponders : Relation.responders.Hidden view)
    (hgenerating : Keeps R (note (.generating r))) (hrun : (e.runTurn r).run w = (o, w')) :
    ∃ w₁, R w w₁ ∧ w' = w₁.noted (.turn r o) := by
  obtain ⟨x, s, hguard, hlast⟩ := Engine.run_runTurn hrun
  have hunseen := Lock.tryGuard_frames h.locks _ _ _ _ _ _ _ hguard
  have hlocked : R w { w with store := s } := h.unseen hunseen ⟨rfl, rfl, rfl⟩
  rcases hlast with ⟨guard, w₁, -, hturn, rfl⟩ | ⟨-, -, rfl⟩
  · have hkept := h.runLocked hresponders hgenerating { w with store := s }
    rw [hturn] at hkept
    have hdropped : R w₁ { w₁ with store := guard.drop.after w₁.store } :=
      h.unseen (Lock.Guard.drop_frames h.locks guard _ _ _ (runs_after _ _)) ⟨rfl, rfl, rfl⟩
    exact ⟨_, h.trans (h.trans hlocked hkept) hdropped, rfl⟩
  · exact ⟨_, hlocked, rfl⟩

/-- A whole turn is, if the note of its end is allowed as well. -/
theorem Voiced.runTurn {β : Type} {view : Tables → β} {R : World σ → World σ → Prop}
    (h : e.Voiced view R) (hresponders : Relation.responders.Hidden view)
    (hgenerating : Keeps R (note (.generating r))) (hturn : ∀ o, Keeps R (note (.turn r o))) :
    Keeps R (e.runTurn r) := by
  intro w
  rcases hrun : (e.runTurn r).run w with ⟨o, w'⟩
  obtain ⟨w₁, hbefore, rfl⟩ := h.run_runTurn hresponders hgenerating hrun
  exact h.trans hbefore (hturn o w₁)

end TurnTaking.Engine
