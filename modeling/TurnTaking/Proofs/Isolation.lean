import TurnTaking.Proofs.Engine.Concurrence

/-!
# Isolation — avatars that come to no message do not get in the way

A selected avatar whose text fails, or who stays silent, takes a lease, its lock and a place among the
responders of the trigger before that turns out. The lock and the place are taken back, and of the lease
nobody else's turn depends. So those who are selected besides it respond as they would have without it.

* `Unnoticed` — what others cannot tell from nothing at all, if no statement failed;
* `Engine.Steady.respond_wordless` — the response of an avatar without a text is such a step;
* `Engine.Steady.respondAll_alike` — from that, and since everybody else's response concurs, by induction on
  the selections: whether such avatars are among them makes no difference to the others;
* `responses_without_wordless` — so the responses to a trigger are those without such avatars, and the tables
  differ in leases of these avatars at most.
-/

namespace TurnTaking

open Store Store.Access

variable {σ τ : Type} {F : String → Bool} {ledger : σ → τ}

/-- No failure was forgotten, and if none was counted, the world is as it was, but for leases of some
avatars and for what the account of what was sent does not tell. -/
structure Unnoticed (F : String → Bool) (ledger : σ → τ) (w w' : World σ) : Prop where
  failures : w.store.failures ≤ w'.store.failures
  alike : w'.store.failures = w.store.failures → w'.Alike F ledger w

namespace Unnoticed

variable {u v w : World σ}

theorem refl (w : World σ) : Unnoticed F ledger w w := ⟨Nat.le_refl _, fun _ => .refl w⟩

theorem trans (h : Unnoticed F ledger u v) (h' : Unnoticed F ledger v w) : Unnoticed F ledger u w where
  failures := Nat.le_trans h.failures h'.failures
  alike hsound := by
    -- where none failed on the whole way, none failed on either part of it
    have hfirst := h.failures
    have hlast := h'.failures
    exact (h'.alike (by omega)).trans (h.alike (by omega))

theorem noted (w : World σ) (entry : JournalEntry) : Unnoticed F ledger w (w.noted entry) :=
  ⟨Nat.le_refl _, fun _ => ⟨rfl, rfl, rfl⟩⟩

/-- Changes of these leases go unnoticed. -/
theorem calm : Calm (Tables.apartFrom F) (Unnoticed F ledger) where
  refl := refl
  trans := trans
  unseen hunseen hstill :=
    ⟨hunseen.failures, fun _ => ⟨hstill.clock, hunseen.view, congrArg ledger hstill.outside⟩⟩

end Unnoticed

namespace Engine

/-! ## Leases of these avatars -/

/-- How a lease of the set is settled is unnoticed by the others. -/
theorem settleLease_unnoticed {lease : Option Lease.Guard}
    (hlease : ∀ guard, lease = some guard → F guard.avatarId = true) (outcome : Turn.Outcome) :
    Keeps (Unnoticed F ledger) (settleLease lease outcome : Act σ Unit) := by
  have hcalm : Calm (Tables.apartFrom F) (Unnoticed F ledger) := Unnoticed.calm
  cases lease with
  | none => exact .pure hcalm.toChains _
  | some guard =>
    intro w
    rw [run_settleLease]
    have hsettled := Lease.settle_apart (hlease guard rfl) guard.channelId guard.tick
      (outcome.failure?.elim .completed fun _ => .failed) outcome.failure? w.clock
    exact hcalm.unseen (hsettled _ _ _ (runs_after _ _)) ⟨rfl, rfl, rfl⟩

/-- Nobody outside the set notices its leases. -/
theorem leaseSelection_unnoticed (e : Engine σ) (channel : String) (message : Option Message)
    {s : Selection} (hs : F s.avatar.id = true) (tick : Option Nat) :
    Keeps (Unnoticed F ledger) (e.leaseSelection channel message s tick).run :=
  Unnoticed.calm.leaseSelection (fun _ _ _ => Lease.acquire?_apart hs _ _ _ _ _) message tick

end Engine

/-! ## Turns without a text -/

/-- The avatar's text fails, or it stays silent. -/
def Wordless (made : Avatar → Except Fault (Option Generated)) (a : Avatar) : Prop :=
  ∀ text, made a ≠ .ok (some text)

/-- Nothing of what turns depend on changed, besides the store. -/
structure World.Paused (ledger : σ → τ) (w w' : World σ) : Prop where
  clock : w'.clock = w.clock
  account : ledger w'.outside = ledger w.outside

namespace Engine.Steady

variable {e : Engine σ} {made : Avatar → Except Fault (Option Generated)} {r : Turn.Request}
  {o : Turn.Outcome} {w w' : World σ} (h : e.Steady made ledger)

include h

/-- Who has no text to say sends no message. -/
theorem generateAndSend_wordless (hsilent : Wordless made r.avatar)
    (hrun : (e.generateAndSend r).run w = (o, w')) : o.sent? = none ∧ World.Paused ledger w w' := by
  rcases hgen : (e.outside.generate r.avatar r.channelId r.message r.options).run.run w with ⟨x, w₁⟩
  have hx : made r.avatar = x := (h.made _ _ _ _ w).symm.trans (congrArg Prod.fst hgen)
  have hafter : e.outside.after (.generate r.avatar r.channelId r.message r.options) w = w₁ :=
    congrArg Prod.snd hgen
  have hpaused : World.Paused ledger w w₁ := by
    rw [← hafter]
    exact ⟨h.clock _ (by trivial) w, h.unsent _ _ _ _ w⟩
  rw [Engine.generateAndSend, run_bind_of hgen] at hrun
  rcases x with f | _ | text
  · obtain ⟨rfl, rfl⟩ := Prod.mk.inj hrun
    exact ⟨rfl, hpaused⟩
  · obtain ⟨rfl, rfl⟩ := Prod.mk.inj hrun
    exact ⟨rfl, hpaused⟩
  · exact absurd hx (hsilent text)

/-- Without a text the turn asks for nothing else. -/
theorem runTurn_wordless {g : Gate.Request} (hgate : r.gate = some g) (hsilent : Wordless made r.avatar)
    (hrun : (e.runTurn r).run w = (o, w')) : o.sent? = none ∧ World.Paused ledger w w' := by
  obtain ⟨x, s, -, ⟨guard, w₁, -, hlocked, rfl⟩ | ⟨-, hnone, rfl⟩⟩ := run_runTurn hrun
  · obtain ⟨y, s', -, ⟨-, hadmitted⟩ | ⟨-, hnone, rfl⟩⟩ := run_runLocked hgate hlocked
    · -- only a turn that was admitted asks for its text
      obtain ⟨w₂, hgen, hrest⟩ := run_runAdmitted (by rw [hgate]; rfl) hadmitted
      obtain ⟨hnone, hpaused⟩ := h.generateAndSend_wordless hsilent hgen
      rw [hnone] at hrest
      obtain rfl := hrest
      exact ⟨hnone, hpaused.clock, hpaused.account⟩
    · exact ⟨hnone, rfl, rfl⟩
  · exact ⟨hnone, rfl, rfl⟩

variable {channel : String} {message : Option Message} {trigger : Trigger} {key : String}
  {s : Selection} {response : Option Response}

/-- An answer without a text is none. -/
theorem answer_wordless {depth : Nat} {lease : Option Lease.Guard} (hsilent : Wordless made s.avatar)
    (hlease : ∀ guard, lease = some guard → F guard.avatarId = true)
    (hrun : (e.answer channel message trigger key depth s lease).run w = (response, w')) :
    response = none ∧ Unnoticed F ledger w w' := by
  obtain ⟨o, w₁, hturn, hrest⟩ := run_answer hrun
  obtain ⟨hnone, hpaused⟩ := h.runTurn_wordless rfl hsilent hturn
  rw [hnone] at hrest
  obtain ⟨rfl, rfl⟩ := hrest
  -- lock and admission were taken back
  have hkept := runTurn_traceless h.toTurnsKept (requestOf_asksForItself _ _ _ _ _ _) hnone hturn
  have hunnoticed : Unnoticed F ledger w w₁ :=
    ⟨hkept.failures, fun hsound =>
      ⟨hpaused.clock, congrArg (Tables.apartFrom F) (hkept.tables hsound), hpaused.account⟩⟩
  exact ⟨rfl, hunnoticed.trans (settleLease_unnoticed hlease o w₁)⟩

/-- A response without a text is none. -/
theorem respond_wordless {context : CoordinationContext} (hs : F s.avatar.id = true)
    (hsilent : Wordless made s.avatar)
    (hrun : (e.respond channel message trigger key context s).run w = (response, w')) :
    response = none ∧ Unnoticed F ledger w w' := by
  obtain ⟨decision, w₁, hdecision, hlast⟩ := run_respond hrun
  have hdecided : Unnoticed F ledger w w₁ := by
    have hkept : Unnoticed F ledger w _ :=
      leaseSelection_unnoticed e channel message hs context.leaseTick w
    rw [hdecision] at hkept
    exact hkept
  rcases hlast with ⟨rfl, -, rfl⟩ | ⟨rfl, -, tick, m, -, -, rfl⟩ | ⟨lease, hlease, hleased⟩
  · exact ⟨rfl, hdecided⟩
  · exact ⟨rfl, hdecided.trans (.noted _ _)⟩
  · -- a lease that was taken for the turn is the avatar's own, and so is left out
    have hown : ∀ guard, lease = some guard → F guard.avatarId = true := by
      rintro guard rfl
      rw [hlease] at hdecision
      rw [leaseSelection_leased hdecision]
      exact hs
    obtain ⟨w₂, hanswer, hnoted⟩ := run_respondLeased hleased
    obtain ⟨rfl, hanswered⟩ := h.answer_wordless hsilent hown hanswer
    rcases hnoted with ⟨rfl, -⟩ | ⟨tick, m, -, -, rfl⟩
    · exact ⟨rfl, hdecided.trans hanswered⟩
    · exact ⟨rfl, (hdecided.trans (.noted _ _)).trans hanswered⟩

end Engine.Steady

/-! ## Selections, one after another -/

namespace Engine

variable {e : Engine σ} {channel : String} {message : Option Message} {trigger : Trigger} {key : String}
  {context : CoordinationContext} {limit : Nat} {s : Selection} {rest : List Selection} {w w' : World σ}

/-- Nobody is asked beyond the limit. -/
theorem run_respondAll_zero (selections : List Selection) :
    (e.respondAll channel message trigger key context 0 selections).run w = ([], w) := by
  cases selections <;> rfl

/-- A response takes one of those that the rest may still make. -/
theorem run_respondAll_cons {response : Option Response} {responses : List Response} {w'' : World σ}
    (hfirst : (e.respond channel message trigger key context s).run w = (response, w'))
    (hrun : (e.respondAll channel message trigger key context (limit + 1) (s :: rest)).run w =
      (responses, w'')) :
    ∃ more, (e.respondAll channel message trigger key context
        (if response.isSome then limit else limit + 1) rest).run w' = (more, w'') ∧
      responses = response.toList ++ more := by
  rw [respondAll, run_bind_of hfirst] at hrun
  cases response with
  | none => exact ⟨responses, hrun, rfl⟩
  | some response =>
    obtain ⟨rfl, rfl⟩ := Prod.mk.inj hrun
    exact ⟨_, rfl, rfl⟩

end Engine

namespace Engine.Steady

variable {e : Engine σ} {made : Avatar → Except Fault (Option Generated)} (h : e.Steady made ledger)

include h

/-- Turns forget no failure. -/
theorem respondAll_failures {channel : String} {message : Option Message} {trigger : Trigger}
    {key : String} {context : CoordinationContext} {limit : Nat} {selections : List Selection}
    {x : List Response} {w w' : World σ}
    (hrun : (e.respondAll channel message trigger key context limit selections).run w = (x, w')) :
    w.store.failures ≤ w'.store.failures := by
  have hconcurs := h.respondAll (F := fun _ => false) channel message trigger key context limit selections
    fun _ _ => rfl
  have hkept := hconcurs.failures w
  rw [hrun] at hkept
  exact hkept

/-- In two worlds that are alike, the responses to all selections in the one are those to the selections of
other avatars in the other. -/
theorem respondAll_alike {channel : String} {message : Option Message} {trigger : Trigger} {key : String}
    {context : CoordinationContext} {limit : Nat} {selections : List Selection}
    (hF : ∀ s ∈ selections, F s.avatar.id = true → Wordless made s.avatar)
    {x y : List Response} {v w v' w' : World σ} (hvw : v.Alike F ledger w)
    (hall : (e.respondAll channel message trigger key context limit selections).run v = (x, v'))
    (hothers : (e.respondAll channel message trigger key context limit
      (selections.filter fun s => !F s.avatar.id)).run w = (y, w'))
    (hv : v'.store.failures = v.store.failures) (hw : w'.store.failures = w.store.failures) :
    x = y ∧ v'.Alike F ledger w' := by
  induction selections generalizing limit x y v w with
  | nil =>
    cases limit with
    | zero =>
      obtain ⟨rfl, rfl⟩ := Prod.mk.inj hall
      obtain ⟨rfl, rfl⟩ := Prod.mk.inj hothers
      exact ⟨rfl, hvw⟩
    | succ limit =>
      obtain ⟨rfl, rfl⟩ := Prod.mk.inj hall
      obtain ⟨rfl, rfl⟩ := Prod.mk.inj hothers
      exact ⟨rfl, hvw⟩
  | cons s rest ih =>
    have hrest : ∀ s ∈ rest, F s.avatar.id = true → Wordless made s.avatar :=
      fun s hs => hF s (.tail _ hs)
    cases limit with
    | zero =>
      rw [run_respondAll_zero] at hall hothers
      obtain ⟨rfl, rfl⟩ := Prod.mk.inj hall
      obtain ⟨rfl, rfl⟩ := Prod.mk.inj hothers
      exact ⟨rfl, hvw⟩
    | succ limit =>
      rcases hfirst : (e.respond channel message trigger key context s).run v with ⟨response, v₁⟩
      obtain ⟨more, hmore, rfl⟩ := run_respondAll_cons hfirst hall
      have hlast := h.respondAll_failures hmore
      cases hs : F s.avatar.id with
      | true =>
        -- all go on with the rest where the others begin with it
        obtain ⟨rfl, hunnoticed⟩ := h.respond_wordless hs (hF s (.head _) hs) hfirst
        rw [List.filter_cons_of_neg (by rw [hs]; decide)] at hothers
        have hkept := hunnoticed.failures
        exact ih hrest ((hunnoticed.alike (by omega)).trans hvw) hmore hothers (by omega) hw
      | false =>
        -- both run the same turn, and where nothing failed on the whole, nothing failed on it
        rw [List.filter_cons_of_pos (by rw [hs]; rfl)] at hothers
        rcases hfirst' : (e.respond channel message trigger key context s).run w with ⟨response', w₁⟩
        obtain ⟨more', hmore', rfl⟩ := run_respondAll_cons hfirst' hothers
        have hlast' := h.respondAll_failures hmore'
        have hconcurs := h.respond (F := F) channel message trigger key context hs
        have hkept := hconcurs.failures v
        have hkept' := hconcurs.failures w
        have hsame := hconcurs.alike hvw
        rw [hfirst] at hkept hsame
        rw [hfirst'] at hkept' hsame
        dsimp only at hkept hkept' hsame
        obtain ⟨rfl, hmid⟩ := hsame (by omega) (by omega)
        obtain ⟨rfl, hend⟩ := ih hrest hmid hmore hmore' (by omega) (by omega)
        exact ⟨rfl, hend⟩

end Engine.Steady

/-- Whatever the store holds, with whatever trigger and on whatever terms: if the clock stands still, texts
depend on the avatar alone and are made without writing to the store, and sending depends on what was sent
before, the responses to some selections are those to the selections without avatars that come to no text.
The tables differ in leases of these avatars at most, if no statement fails. -/
theorem responses_without_wordless {e : Engine σ} {made : Avatar → Except Fault (Option Generated)}
    (h : e.Steady made ledger) {selections : List Selection}
    (hF : ∀ s ∈ selections, F s.avatar.id = true → Wordless made s.avatar) (channel : String)
    (message : Option Message) (trigger : Trigger) (key : String) (context : CoordinationContext)
    (limit : Nat) (w : World σ) :
    let all := (e.respondAll channel message trigger key context limit selections).run w
    let others := (e.respondAll channel message trigger key context limit
      (selections.filter fun s => !F s.avatar.id)).run w
    all.2.store.failures = w.store.failures → others.2.store.failures = w.store.failures →
      all.1 = others.1 ∧ all.2.store.tables.apartFrom F = others.2.store.tables.apartFrom F := by
  intro all others hall hothers
  obtain ⟨hsame, halike⟩ := h.respondAll_alike hF (.refl w) rfl rfl hall hothers
  exact ⟨hsame, halike.tables⟩

/-- One avatar's text cannot be made; the others all have the same to say. -/
def Avatar.adaFails (a : Avatar) : Except Fault (Option Generated) :=
  if a.id = "ada" then .error (.generation "no text") else .ok (some ⟨none, "Here."⟩)

/-- Services that count how often they are asked for a text, and number what they send. -/
def Collaborators.halfWordless : Collaborators (Nat × Nat) :=
  { Collaborators.plain Avatar.pair "" with
    generate := fun avatar _ _ _ => do
      modify fun w => { w with outside := (w.outside.1 + 1, w.outside.2) }
      ExceptT.mk (return avatar.adaFails)
    send := fun _ _ _ => do
      modify fun w => { w with outside := (w.outside.1, w.outside.2 + 1) }
      return toString (← get).outside.2 }

theorem Collaborators.halfWordless_steady :
    (Engine.standard .halfWordless).Steady Avatar.adaFails Prod.snd where
  tables call _ w := by cases call <;> rfl
  failures call _ w := by cases call <;> exact Nat.le_refl _
  clock call _ w := by cases call <;> rfl
  made _ _ _ _ _ := rfl
  unsent _ _ _ _ _ := rfl
  sent := by
    intro channel avatar text v w _ h
    have hnumber : v.outside.2 = w.outside.2 := h
    constructor
    · show Except.ok (toString (v.outside.2 + 1)) = Except.ok (toString (w.outside.2 + 1))
      rw [hnumber]
    · show v.outside.2 + 1 = w.outside.2 + 1
      rw [hnumber]
  touched _ _ _ _ _ h := h

/-- Two avatars are to answer a message in a tick. The first one fails and leaves a failed lease; the second
one answers as if it were alone. -/
theorem responses_without_wordless_first :
    let e : Engine (Nat × Nat) := .standard .halfWordless
    let F : String → Bool := fun id => decide (id = "ada")
    let m := Message.human "m" "c" "pat" "Anyone?" 0
    let selections := Avatar.pair.map (Selection.plain · .presence)
    let w : World (Nat × Nat) := .ofTables .threaded (0, 0)
    let all := (e.respondAll "c" (some m) .humanMessage "k" ⟨some 1, 0⟩ 2 selections).run w
    let others := (e.respondAll "c" (some m) .humanMessage "k" ⟨some 1, 0⟩ 2
      (selections.filter fun s => !F s.avatar.id)).run w
    all.1.map Response.avatarId = ["bob"] ∧
      all.2.store.tables.leases ≠ others.2.store.tables.leases ∧
      all.2.store.failures = w.store.failures ∧ others.2.store.failures = w.store.failures ∧
      all.1 = others.1 ∧ all.2.store.tables.apartFrom F = others.2.store.tables.apartFrom F := by
  intro e F m selections w all others
  have hruns : all.1.map Response.avatarId = ["bob"] ∧
      all.2.store.tables.leases ≠ others.2.store.tables.leases ∧
      all.2.store.failures = w.store.failures ∧ others.2.store.failures = w.store.failures := by
    decide +kernel
  obtain ⟨hbob, hleases, hall, hothers⟩ := hruns
  have hsilent : ∀ s ∈ selections, F s.avatar.id = true → Wordless Avatar.adaFails s.avatar := by
    intro s _ hada text htext
    rw [Avatar.adaFails, if_pos (of_decide_eq_true hada)] at htext
    cases htext
  have hsame := responses_without_wordless (e := e) (F := F) Collaborators.halfWordless_steady hsilent "c"
    (some m) .humanMessage "k" ⟨some 1, 0⟩ 2 w
  extract_lets at hsame
  exact ⟨hbob, hleases, hall, hothers, hsame hall hothers⟩

end TurnTaking
