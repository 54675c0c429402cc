import TurnTaking.Proofs.Engine.Journal
import TurnTaking.Proofs.Engine.Served
import TurnTaking.Proofs.Lease

/-!
# Coordinations — what a run of one consists of

A coordination taken apart, from the answer to a trigger (`run_answerTrigger`) down to the turn of a
selection (`run_respond`, `run_respondLeased`, `run_answer`) and the decision on its lease
(`run_leaseForMessage`), and up to the nested coordinations (`run_cascade_cons`, `run_coordinateNested`).
Each lemma names the worlds between the parts.
-/

namespace TurnTaking

open Store Store.Access

/-! ## What the leases tell -/

theorem leaseOrigin_side : SideTables Tables.leaseOrigin where
  presence _ _ := rfl
  activity _ _ := rfl
  humans _ _ := rfl
  sent _ _ := rfl
  threads _ _ := rfl
  sessions _ _ := rfl

/-- Settling a lease leaves its origin as it was. -/
theorem settle_leaseOrigin {channel avatar : String} {tick : Nat} {status : Lease.Status}
    {error : Option String} {clock : Int} :
    Frames Tables.leaseOrigin (Lease.settle channel avatar tick status error clock) := by
  intro s x s' h
  have hcounted : Unseen (fun _ => ()) s s' :=
    Lease.settle_frames (fun _ _ => rfl) _ _ _ _ _ _ s x s' h
  exact ⟨funext (Lease.runs_settle h), hcounted.failures⟩

theorem leaseOrigin_settling : SettlingHidden Tables.leaseOrigin where
  complete _ _ := settle_leaseOrigin.bind fun _ => .pure _
  fail _ _ _ := settle_leaseOrigin.bind fun _ => .pure _

namespace Engine

/-! ## The parts -/

variable {σ : Type} {e : Engine σ} {channel : String} {message : Option Message} {trigger : Trigger}
  {key : String} {context : CoordinationContext} {s : Selection} {w w' : World σ}

/-- The turn of a selection is run and its lease settled; a message is recorded, and is the response. -/
theorem run_answer {depth : Nat} {lease : Option Lease.Guard} {response : Option Response}
    (h : (e.answer channel message trigger key depth s lease).run w = (response, w')) :
    ∃ o w₁, (e.runTurn (requestOf channel message trigger key depth s)).run w = (o, w₁) ∧
      match o.sent? with
      | none => response = none ∧ w' = ((settleLease lease o).run w₁).2
      | some sent =>
        response = some ⟨s.avatar.id, s.tier, trigger, sent.messageId, sent.text⟩ ∧
          w' = ((e.recordResponse channel message trigger s sent).run ((settleLease lease o).run w₁).2).2
    := by
  rcases hturn : (e.runTurn (requestOf channel message trigger key depth s)).run w with ⟨o, w₁⟩
  refine ⟨o, w₁, rfl, ?_⟩
  rw [answer, run_bind_of hturn] at h
  cases hsent : o.sent? with
  | none =>
    simp only [hsent] at h
    obtain ⟨rfl, rfl⟩ := Prod.mk.inj h
    exact ⟨rfl, rfl⟩
  | some sent =>
    simp only [hsent] at h
    obtain ⟨rfl, rfl⟩ := Prod.mk.inj h
    exact ⟨rfl, rfl⟩

/-- The terms of the tick are noted before the turn, where a message is answered on them. -/
theorem run_respondLeased {lease : Option Lease.Guard} {response : Option Response}
    (h : (e.respondLeased channel message trigger key context s lease).run w = (response, w')) :
    ∃ w₁, (e.answer channel message trigger key context.depth s lease).run w₁ = (response, w') ∧
      ((w₁ = w ∧ (context.leaseTick = none ∨ message = none)) ∨
        ∃ tick m, context.leaseTick = some tick ∧ message = some m ∧
          w₁ = w.noted (.answering channel s.avatar.id tick m.id s.tier)) := by
  rw [respondLeased] at h
  cases htick : context.leaseTick with
  | none =>
    rw [htick] at h
    exact ⟨w, h, .inl ⟨rfl, .inl rfl⟩⟩
  | some tick =>
    rw [htick] at h
    cases message with
    | none => exact ⟨w, h, .inl ⟨rfl, .inr rfl⟩⟩
    | some m => exact ⟨_, h, .inr ⟨tick, m, rfl, rfl, rfl⟩⟩

/-- A lease of this origin keeps a message from being answered on lesser terms: it is a sweep's, or was
taken for the same message. How far its turn has come does not matter. -/
def Blocks (message : String) (origin : String × Option String) : Prop :=
  origin.1 = Lease.Mode.ambient.name ∨ origin.2 = some message

/-- Ambient is told by its name. -/
theorem name_eq_ambient {mode : Lease.Mode} : mode.name = Lease.Mode.ambient.name ↔ mode = .ambient := by
  cases mode <;> decide

/-- What blocks a message can be read off the stored mode and message. -/
theorem blocks_iff (message : String) (held : Lease) :
    (held.mode = .ambient || held.messageId = some message) = true ↔
      Blocks message (held.mode.name, held.messageId) := by
  rw [Bool.or_eq_true, decide_eq_true_eq, decide_eq_true_eq, Blocks, name_eq_ambient]

variable {avatar : String} {tick : Nat} {m : Message} {x : Except Fault LeaseDecision}

/-- The holder of a lease that is taken decides whether a message is answered beside it. -/
theorem run_holderDecides {origin : String × Option String}
    (horigin : w.store.tables.leaseOrigin (Lease.rowKey channel avatar tick) = some origin)
    (h : (do
      match ← onStore (Lease.find? channel avatar tick) with
      | none => return .skip
      | some held =>
        if held.mode = .ambient || held.messageId = some m.id then return .skip else return .proceed :
      Try σ LeaseDecision).run.run w = (x, w')) :
    ∃ s, w' = { w with store := s } ∧ s.tables = w.store.tables ∧
      ((s.failures = w.store.failures ∧
          ((x = .ok .skip ∧ Blocks m.id origin) ∨ (x = .ok .proceed ∧ ¬ Blocks m.id origin))) ∨
        ((∃ f, x = .error f) ∧ w.store.failures < s.failures)) := by
  rcases run_tryBind h with ⟨found, w₁, hread, hrest⟩ | ⟨f, hread, rfl⟩
  · obtain ⟨s, hfind, rfl⟩ := run_onStore hread
    rcases Lease.runs_find? hfind with ⟨_, hfound, hrow, htables, hfailures⟩ | ⟨⟨f, hf⟩, -⟩
    · obtain rfl := Except.ok.inj hfound
      have hheld := hrow.symm.trans horigin
      cases found with
      | none => cases hheld
      | some held =>
        obtain rfl := Option.some.inj hheld
        dsimp only at hrest
        split at hrest
        · -- a turn of a sweep, or one for the same message
          rename_i hblocked
          obtain ⟨rfl, rfl⟩ := Prod.mk.inj hrest
          exact ⟨s, rfl, htables, Or.inl ⟨hfailures, Or.inl ⟨rfl, (blocks_iff m.id held).mp hblocked⟩⟩⟩
        · -- a turn for another message
          rename_i hother
          obtain ⟨rfl, rfl⟩ := Prod.mk.inj hrest
          have hfree : ¬ Blocks m.id (held.mode.name, held.messageId) :=
            fun hblocks => hother ((blocks_iff m.id held).mpr hblocks)
          exact ⟨s, rfl, htables, Or.inl ⟨hfailures, Or.inr ⟨rfl, hfree⟩⟩⟩
    · cases hf
  · obtain ⟨s, hfind, rfl⟩ := run_onStore hread
    rcases Lease.runs_find? hfind with ⟨_, hfound, -⟩ | ⟨-, hfault⟩
    · cases hfound
    · exact ⟨s, rfl, hfault.tables, Or.inr ⟨⟨f, rfl⟩, hfault.failures⟩⟩

/-- The decision on the lease of a turn that answers a message: the lease is taken if it was free; else
its holder decides, unless the turn takes precedence. A fault is counted, and takes no lease. In no case
does anything besides the leases change. -/
theorem run_leaseForMessage {mode : Lease.Mode}
    (h : (e.leaseForMessage channel avatar tick m mode).run.run w = (x, w')) :
    ∃ s, w' = { w with store := s } ∧ Unseen Relation.leases.aside w.store s ∧
      ((x = .ok (.leased ⟨channel, avatar, tick⟩) ∧ s.failures = w.store.failures ∧
          Lease.Taken (Lease.rowKey channel avatar tick) (.ofMessage mode m.id m.authorId)
            w.store.tables s.tables) ∨
        (s.tables.leases = w.store.tables.leases ∧ s.failures = w.store.failures ∧
          ∃ origin, w.store.tables.leaseOrigin (Lease.rowKey channel avatar tick) = some origin ∧
            ((x = .ok .skip ∧ mode ≠ .priority ∧ Blocks m.id origin) ∨
              (x = .ok .proceed ∧ (mode = .priority ∨ ¬ Blocks m.id origin)))) ∨
        ((∃ f, x = .error f) ∧ s.tables.leases = w.store.tables.leases ∧
          w.store.failures < s.failures)) := by
  rw [leaseForMessage, run_tryClockNow] at h
  rcases run_tryBind h with ⟨guard, w₁, hattempt, hrest⟩ | ⟨f, hattempt, rfl⟩
  · obtain ⟨s, hacquire, rfl⟩ := run_onStore hattempt
    have hbeside : Unseen Relation.leases.aside w.store s :=
      Lease.acquire?_frames (fun _ _ => rfl) _ _ _ _ _ _ _ _ _ hacquire
    rcases Lease.runs_acquire? hacquire with
      ⟨hguard, htaken, hfailures⟩ | ⟨hguard, hheld, hleases, hfailures⟩ | ⟨⟨f, hguard⟩, -⟩
    · -- it was free, and is taken
      obtain rfl := Except.ok.inj hguard
      obtain ⟨rfl, rfl⟩ := Prod.mk.inj hrest
      exact ⟨s, rfl, hbeside, Or.inl ⟨rfl, hfailures, htaken⟩⟩
    · obtain rfl := Except.ok.inj hguard
      obtain ⟨origin, horigin⟩ := Option.isSome_iff_exists.mp hheld
      dsimp only at hrest
      split at hrest
      · -- somebody has it, and the message goes on without it
        rename_i hpriority
        obtain ⟨rfl, rfl⟩ := Prod.mk.inj hrest
        refine ⟨s, rfl, hbeside, Or.inr (Or.inl ⟨hleases, hfailures, origin, horigin, ?_⟩)⟩
        exact Or.inr ⟨rfl, Or.inl hpriority⟩
      · rename_i hlesser
        -- the lease is there to be read, since it could not be taken
        have hsame : s.tables.leaseOrigin (Lease.rowKey channel avatar tick) = some origin := by
          rw [← horigin, Tables.leaseOrigin, hleases]
          rfl
        obtain ⟨s', rfl, htables, hdecided⟩ := run_holderDecides hsame hrest
        dsimp only at htables hdecided
        have hleases' : s'.tables.leases = w.store.tables.leases := by
          rw [htables, hleases]
        rw [hfailures] at hdecided
        have hread : ∀ hle, Unseen Relation.leases.aside w.store s' := fun hle =>
          hbeside.trans (Unseen.of_tables htables (hfailures ▸ hle))
        rcases hdecided with ⟨hfailures', ⟨hx, hblocked⟩ | ⟨hx, hother⟩⟩ | ⟨hx, hlater⟩
        · refine ⟨s', rfl, hread (Nat.le_of_eq hfailures'.symm),
            Or.inr (Or.inl ⟨hleases', hfailures', origin, horigin, ?_⟩)⟩
          exact Or.inl ⟨hx, hlesser, hblocked⟩
        · refine ⟨s', rfl, hread (Nat.le_of_eq hfailures'.symm),
            Or.inr (Or.inl ⟨hleases', hfailures', origin, horigin, ?_⟩)⟩
          exact Or.inr ⟨hx, Or.inr hother⟩
        · exact ⟨s', rfl, hread (Nat.le_of_lt hlater), Or.inr (Or.inr ⟨hx, hleases', hlater⟩)⟩
    · cases hguard
  · obtain ⟨s, hacquire, rfl⟩ := run_onStore hattempt
    rcases Lease.runs_acquire? hacquire with ⟨hguard, -⟩ | ⟨hguard, -⟩ | ⟨-, hfault⟩
    · cases hguard
    · cases hguard
    · have hleases : s.tables.leases = w.store.tables.leases := by
        rw [hfault.tables]
      exact ⟨s, rfl, hfault.unseen, Or.inr (Or.inr ⟨⟨f, rfl⟩, hleases, hfault.failures⟩)⟩

/-- Where the decision is that a turn is leased, its lease was added. -/
theorem leaseForMessage_leased {mode : Lease.Mode} {guard : Lease.Guard}
    (h : (e.leaseForMessage channel avatar tick m mode).run.run w = (.ok (.leased guard), w')) :
    guard = ⟨channel, avatar, tick⟩ ∧ ∃ s, w' = { w with store := s } ∧ s.failures = w.store.failures ∧
      Added .leases LeaseRow.key (Lease.takenRow e.config.locks.leaseTtlMs channel avatar tick
        (.ofMessage mode m.id m.authorId) w.clock) w.store.tables s.tables := by
  rw [leaseForMessage, run_tryClockNow] at h
  rcases run_tryBind h with ⟨attempt, w₁, hattempt, hrest⟩ | ⟨f, -, hx⟩
  · obtain ⟨s, hacquire, rfl⟩ := run_onStore hattempt
    rcases Lease.runs_acquire?_rows hacquire with
      ⟨hguard, hfailures, hadded⟩ | ⟨hguard, -⟩ | ⟨⟨f, hguard⟩, -⟩
    · obtain rfl := Except.ok.inj hguard
      obtain ⟨hx, rfl⟩ := Prod.mk.inj hrest
      obtain rfl := LeaseDecision.leased.inj (Except.ok.inj hx)
      exact ⟨rfl, s, rfl, hfailures, hadded⟩
    · -- whoever holds the lease decides, but not that it is given to another
      obtain rfl := Except.ok.inj hguard
      dsimp only at hrest
      split at hrest
      · cases (Prod.mk.inj hrest).1
      · rcases run_tryBind hrest with ⟨_ | held, w₂, -, hdecided⟩ | ⟨f, -, hx⟩
        · cases (Prod.mk.inj hdecided).1
        · dsimp only at hdecided
          split at hdecided
          · cases (Prod.mk.inj hdecided).1
          · cases (Prod.mk.inj hdecided).1
        · cases hx
    · cases hguard
  · cases hx

/-- Turns are leased where a tick is given and a message is answered; any other is run without. -/
theorem run_leaseSelection {tick? : Option Nat}
    (h : (e.leaseSelection channel message s tick?).run.run w = (x, w')) :
    (x = .ok .proceed ∧ w' = w ∧ (tick? = none ∨ message = none)) ∨
      ∃ tick m, tick? = some tick ∧ message = some m ∧
        (e.leaseForMessage channel s.avatar.id tick m s.tier.leaseMode).run.run w = (x, w') := by
  cases tick? with
  | none =>
    obtain ⟨rfl, rfl⟩ := Prod.mk.inj h
    exact Or.inl ⟨rfl, rfl, Or.inl rfl⟩
  | some tick =>
    cases message with
    | none =>
      obtain ⟨rfl, rfl⟩ := Prod.mk.inj h
      exact Or.inl ⟨rfl, rfl, Or.inr rfl⟩
    | some m => exact Or.inr ⟨tick, m, rfl, rfl, h⟩

/-- A selection is leased under the id of its avatar. -/
theorem leaseSelection_leased {tick? : Option Nat} {guard : Lease.Guard}
    (h : (e.leaseSelection channel message s tick?).run.run w = (.ok (.leased guard), w')) :
    guard.avatarId = s.avatar.id := by
  rcases run_leaseSelection h with ⟨hproceed, -⟩ | ⟨tick, m, -, -, hdecided⟩
  · cases hproceed
  · obtain ⟨rfl, -⟩ := leaseForMessage_leased hdecided
    rfl

/-- Whatever is decided on the lease of a selection, nothing besides the leases changes. -/
theorem leaseSelection_beside {tick? : Option Nat}
    (h : (e.leaseSelection channel message s tick?).run.run w = (x, w')) :
    ∃ s', w' = { w with store := s' } ∧ Unseen Relation.leases.aside w.store s' := by
  rcases run_leaseSelection h with ⟨-, rfl, -⟩ | ⟨tick, m, -, -, hdecided⟩
  · exact ⟨w'.store, rfl, .refl _⟩
  · obtain ⟨s', hw, hbeside, -⟩ := run_leaseForMessage hdecided
    exact ⟨s', hw, hbeside⟩

/-- A selection whose lease cannot be decided on was met by a statement that failed. -/
theorem failures_of_undecided {tick? : Option Nat} {f : Fault}
    (h : (e.leaseSelection channel message s tick?).run.run w = (.error f, w')) :
    w.journal <:+ w'.journal ∧ w.store.failures < w'.store.failures := by
  rcases run_leaseSelection h with ⟨hx, -⟩ | ⟨tick, m, -, -, hdecided⟩
  · cases hx
  · obtain ⟨s', rfl, -, ⟨hx, -⟩ | ⟨-, -, _, -, ⟨hx, -⟩ | ⟨hx, -⟩⟩ | ⟨-, -, hlost⟩⟩ :=
      run_leaseForMessage hdecided
    · cases hx
    · cases hx
    · cases hx
    · exact ⟨List.suffix_refl _, hlost⟩

/-- A selection is dropped where its lease cannot be decided on, passed over where the decision is so,
and else its turn is run under the lease that was taken for it. -/
theorem run_respond {response : Option Response}
    (h : (e.respond channel message trigger key context s).run w = (response, w')) :
    ∃ decision w₁,
      (e.leaseSelection channel message s context.leaseTick).run.run w = (decision, w₁) ∧
        ((response = none ∧ (∃ f, decision = .error f) ∧ w' = w₁) ∨
          (response = none ∧ decision = .ok .skip ∧ ∃ tick m, context.leaseTick = some tick ∧
            message = some m ∧ w' = w₁.noted (.passedOver channel s.avatar.id tick m.id)) ∨
          ∃ lease, decision = .ok (lease.elim .proceed .leased) ∧
            (e.respondLeased channel message trigger key context s lease).run w₁ = (response, w')) := by
  rcases hlease : (e.leaseSelection channel message s context.leaseTick).run.run w with ⟨decision, w₁⟩
  refine ⟨decision, w₁, rfl, ?_⟩
  rw [respond, run_bind_of hlease] at h
  rcases decision with f | guard | _ | _
  · obtain ⟨rfl, rfl⟩ := Prod.mk.inj h
    exact .inl ⟨rfl, ⟨f, rfl⟩, rfl⟩
  · exact .inr (.inr ⟨some guard, rfl, h⟩)
  · exact .inr (.inr ⟨none, rfl, h⟩)
  · rcases run_leaseSelection hlease with ⟨hx, -⟩ | ⟨tick, m, htick, rfl, -⟩
    · cases hx
    · simp only [htick] at h
      obtain ⟨rfl, rfl⟩ := Prod.mk.inj h
      exact .inr (.inl ⟨rfl, rfl, tick, m, htick, rfl, rfl⟩)

/-- An answer to a trigger ends in a fault before anyone was selected, or the selection is noted and the
turns are run. -/
theorem run_answerTrigger {x : Except Fault (List Response × List Avatar)}
    (h : (e.answerTrigger channel message context).run.run w = (x, w')) :
    ∃ candidates w₁, (e.candidates channel message w.clock).run.run w = (candidates, w₁) ∧
      ((∃ f, candidates = .error f ∧ x = .error f ∧ w' = w₁) ∨
        ∃ found key w₂, candidates = .ok found ∧
          (triggerKey channel message w.clock).run.run w₁ = (key, w₂) ∧
            ((∃ f, key = .error f ∧ x = .error f ∧ w' = w₂) ∨
              ∃ k selections w₃ responses, key = .ok k ∧
                (e.selectResponders ⟨channel, message, .classify message found.inChannel,
                  found.eligible, found.ranked, w.clock⟩).run w₂ = (selections, w₃) ∧
                (e.respondAll channel message (.classify message found.inChannel) k context
                  e.config.coordination.maxResponsesPerMessage selections).run
                    (w₃.noted (.selected k selections)) = (responses, w') ∧
                x = .ok (responses, found.inChannel))) := by
  rw [answerTrigger, run_tryClockNow] at h
  rcases run_tryBind h with ⟨found, w₁, hfound, h⟩ | ⟨f, hfound, rfl⟩
  · refine ⟨.ok found, w₁, hfound, .inr ⟨found, ?_⟩⟩
    rcases run_tryBind h with ⟨k, w₂, hkey, h⟩ | ⟨f, hkey, rfl⟩
    · refine ⟨.ok k, w₂, rfl, hkey, .inr ?_⟩
      obtain ⟨selections, w₃, hselect, h⟩ := run_tryLift h
      obtain ⟨_, w₄, hnote, h⟩ := run_tryLift h
      obtain ⟨-, rfl⟩ := Prod.mk.inj ((w₃.run_note _).symm.trans hnote)
      obtain ⟨responses, w₅, hresponses, h⟩ := run_tryLift h
      have hend : ((.ok (responses, found.inChannel) : Except Fault _), w₅) = (x, w') := h
      obtain ⟨rfl, rfl⟩ := Prod.mk.inj hend
      exact ⟨k, selections, w₃, responses, rfl, hselect, hresponses, rfl⟩
    · exact ⟨.error f, w', rfl, hkey, .inl ⟨f, rfl, rfl, rfl⟩⟩
  · exact ⟨.error f, w', hfound, .inl ⟨f, rfl, rfl, rfl⟩⟩

/-- A thread is opened for each nested coordination, which is given the response as a message. -/
theorem run_cascade_cons {nested : Message → Try σ (List Response)} {r : Response} {named : Avatar}
    {rest : List (Response × Avatar)}
    (h : (e.cascade nested channel ((r, named) :: rest)).run w = ((), w')) :
    ∃ s x w₁, (Thread.start ⟨e.config.coordination.threadTurns, e.config.coordination.threadTtlMs⟩
        (threadId w.clock w.drawn) channel [r.avatarId, named.id] (some r.avatarId) w.clock).after
          w.store = s ∧
      (nested (.fromAvatar r.messageId channel r.avatarId r.text w.clock)).run.run
        { w with drawn := w.drawn + 1, store := s } = (x, w₁) ∧
      (e.cascade nested channel rest).run w₁ = ((), w') :=
  ⟨_, _, _, rfl, rfl, h⟩

/-- A coordination is the answer to its trigger, and after that the nested coordinations, as far as there
are levels left. -/
theorem run_coordinateNested {levels : Nat} {x : Except Fault (List Response)}
    (h : (e.coordinateNested levels channel message context).run.run w = (x, w')) :
    ∃ answered w₁, (e.answerTrigger channel message context).run.run w = (answered, w₁) ∧
      x = answered.map Prod.fst ∧
        ((w' = w₁ ∧ (levels = 0 ∨ ∃ f, answered = .error f)) ∨
          ∃ fewer responses inChannel, levels = fewer + 1 ∧ answered = .ok (responses, inChannel) ∧
            (e.cascade
              (fun m => e.coordinateNested fewer channel (some m) ⟨none, context.depth + 1⟩) channel
              ((namedBy responses inChannel).take e.config.coordination.mentionCascadeFanout)).run w₁
                = ((), w')) := by
  cases levels with
  | zero =>
    rcases run_tryBind h with ⟨p, w₁, hanswer, hrest⟩ | ⟨f, hanswer, rfl⟩
    · have hend : ((.ok p.1 : Except Fault (List Response)), w₁) = (x, w') := hrest
      obtain ⟨rfl, rfl⟩ := Prod.mk.inj hend
      exact ⟨.ok p, w₁, hanswer, rfl, .inl ⟨rfl, .inl rfl⟩⟩
    · exact ⟨.error f, w', hanswer, rfl, .inl ⟨rfl, .inl rfl⟩⟩
  | succ fewer =>
    rcases run_tryBind h with ⟨⟨responses, inChannel⟩, w₁, hanswer, hrest⟩ | ⟨f, hanswer, rfl⟩
    · obtain ⟨_, w₂, hcascade, hrest⟩ := run_tryLift hrest
      have hend : ((.ok responses : Except Fault (List Response)), w₂) = (x, w') := hrest
      obtain ⟨rfl, rfl⟩ := Prod.mk.inj hend
      exact ⟨_, w₁, hanswer, rfl, .inr ⟨fewer, responses, inChannel, rfl, rfl, hcascade⟩⟩
    · exact ⟨.error f, w', hanswer, rfl, .inl ⟨rfl, .inr ⟨f, rfl⟩⟩⟩

end Engine

end TurnTaking
