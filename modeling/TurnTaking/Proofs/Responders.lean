import Mathlib.Data.List.Nodup
import Mathlib.Data.List.Perm.Subperm
import TurnTaking.Proofs.Engine.Course
import TurnTaking.Proofs.Engine.Turn
import TurnTaking.Proofs.Gate

/-!
# Responders — who answered a trigger

A turn that the gate admits owns a responder row from its admission to its end. While it lasts, other
turns may be admitted and revoked, those of the same trigger included; none of them takes the row away,
because the gate admits no avatar twice. So a turn that ends without a message takes back its own row
and no other, and a turn that ends with one leaves a row that stays.

* `Accounted` — the account of what was noted against the responder keys before and after;
* `Engine.admits` — every engine keeps the account, whatever its services do that keep it;
* `responders_distinct_and_bounded` — so in every course the avatars that answer a trigger are distinct,
  and no more than the cap.
-/

namespace TurnTaking

open Store Store.Access

variable {σ : Type}

/-- The account of a stretch of a course, from what was noted in it and the responder keys before and
after it. -/
structure Accounted (cap : Nat) (new : List JournalEntry) (before after : List (String × String)) :
    Prop where
  /-- A key stays, and every answer leaves one. -/
  kept : ∀ p, (answers new).count p + before.count p ≤ after.count p
  /-- No key comes twice. -/
  once : ∀ p, after.count p ≤ max (before.count p) 1
  /-- No trigger has more keys than the cap, unless it had them before. -/
  capped : ∀ key, after.countP (·.1 = key) ≤ max (before.countP (·.1 = key)) cap
  /-- Texts are asked for only where there was no key. -/
  fresh : ∀ r, .generating r ∈ new → (r.options.triggerKey, r.avatar.id) ∉ before

namespace Accounted

variable {cap : Nat} {new new' : List JournalEntry} {before mid after : List (String × String)}

theorem refl (cap : Nat) (keys : List (String × String)) : Accounted cap [] keys keys where
  kept p := by simp
  once p := Nat.le_max_left _ _
  capped key := Nat.le_max_left _ _
  fresh r h := absurd h List.not_mem_nil

theorem trans (h : Accounted cap new before mid) (h' : Accounted cap new' mid after) :
    Accounted cap (new' ++ new) before after where
  kept p := by
    have h₁ := h.kept p
    have h₂ := h'.kept p
    rw [answers_append, List.count_append]
    omega
  once p := by
    have h₁ := h.once p
    have h₂ := h'.once p
    omega
  capped key := by
    have h₁ := h.capped key
    have h₂ := h'.capped key
    omega
  fresh r hr := by
    rcases List.mem_append.mp hr with hr' | hr'
    · -- a key that was there before is still there later
      intro hbefore
      have hpos := List.count_pos_iff.mpr hbefore
      have hkept := h.kept (r.options.triggerKey, r.avatar.id)
      have hmid : 0 < mid.count (r.options.triggerKey, r.avatar.id) := by omega
      exact h'.fresh r hr' (List.count_pos_iff.mp hmid)
    · exact h.fresh r hr'

/-- The answers under a trigger key and the keys that were there before are no more than the keys
after. -/
theorem answers_le (h : Accounted cap new before after) (key : String) :
    (answers new).countP (·.1 = key) + before.countP (·.1 = key) ≤ after.countP (·.1 = key) := by
  have hsub : List.Subperm (answers new ++ before) after := by
    rw [List.subperm_ext_iff]
    intro p _
    rw [List.count_append]
    exact h.kept p
  have hle := hsub.countP_le (·.1 = key)
  rwa [List.countP_append] at hle

/-- An entry that is neither an answer nor the request of a text changes nothing in the account. -/
theorem cons_plain {entry : JournalEntry} (hanswer : entry.answer? = none)
    (hgenerating : ∀ r, entry ≠ .generating r) (h : Accounted cap new before after) :
    Accounted cap (entry :: new) before after where
  kept p := by
    rw [answers_cons_none hanswer]
    exact h.kept p
  once := h.once
  capped := h.capped
  fresh r hr := by
    rcases List.mem_cons.mp hr with heq | hr'
    · exact absurd heq.symm (hgenerating r)
    · exact h.fresh r hr'

end Accounted

/-! ## The account of one turn -/

section Turn

variable {cap : Nat} {new : List JournalEntry} {before after : List (String × String)}
  {r : Turn.Request}

/-- The key under which the gate admits the turn. -/
def Turn.Request.key (r : Turn.Request) : String × String := (r.options.triggerKey, r.avatar.id)

/-- What holds from the admission of a turn on: it was admitted with room left, and everything since
then is accounted for. -/
structure InTurn (cap : Nat) (r : Turn.Request) (new : List JournalEntry)
    (before after : List (String × String)) : Prop where
  absent : r.key ∉ before
  room : before.countP (·.1 = r.key.1) < cap
  since : Accounted cap new (before ++ [r.key]) after

namespace InTurn

/-- What goes on while the turn lasts is accounted for with it. -/
theorem extend {new' : List JournalEntry} {after' : List (String × String)}
    (h : InTurn cap r new before after) (h' : Accounted cap new' after after') :
    InTurn cap r (new' ++ new) before after' :=
  ⟨h.absent, h.room, h.since.trans h'⟩

/-- Who is admitted had no admission before. -/
theorem count_before (h : InTurn cap r new before after) : before.count r.key = 0 :=
  List.count_eq_zero.mpr h.absent

/-- The turn's key is there exactly once, and nobody else answered under it. -/
theorem count_key (h : InTurn cap r new before after) :
    after.count r.key = 1 ∧ (answers new).count r.key = 0 := by
  have hbefore := h.count_before
  have hkept := h.since.kept r.key
  have honce := h.since.once r.key
  rw [List.count_append, List.count_singleton_self] at hkept honce
  omega

/-- Other avatars keep what they were admitted for. -/
theorem count_other (h : InTurn cap r new before after) {p : String × String} (hp : p ≠ r.key) :
    (answers new).count p + before.count p ≤ after.count p ∧
      after.count p ≤ max (before.count p) 1 := by
  have hkept := h.since.kept p
  have honce := h.since.once p
  have hzero : [r.key].count p = 0 := List.count_singleton.trans (by simp [hp.symm])
  rw [List.count_append, hzero] at hkept honce
  exact ⟨hkept, honce⟩

/-- No trigger has more admissions than the cap, unless it had them before. -/
theorem capped (h : InTurn cap r new before after) (key : String) :
    after.countP (·.1 = key) ≤ max (before.countP (·.1 = key)) cap := by
  have hcapped := h.since.capped key
  have hroom := h.room
  rw [List.countP_append, List.countP_singleton] at hcapped
  by_cases hkey : r.key.1 = key
  · subst hkey
    simp only [decide_true, if_true] at hcapped
    omega
  · simpa [hkey] using hcapped

/-- In the turn, texts were asked for where there was no key, by the turn itself and by others. -/
theorem fresh (h : InTurn cap r new before after) {r' : Turn.Request}
    (hr : .generating r' ∈ new ++ [.generating r]) : r'.key ∉ before := by
  rcases List.mem_append.mp hr with hnew | hself
  · intro hbefore
    exact h.since.fresh r' hnew (List.mem_append_left _ hbefore)
  · have hreq : r' = r := JournalEntry.generating.inj (List.mem_singleton.mp hself)
    rw [hreq]
    exact h.absent

theorem answers_eq : answers (new ++ [.generating r]) = answers new := by
  rw [answers_append]
  exact List.append_nil _

/-- A turn that ends with a message leaves its key. -/
theorem responded (h : InTurn cap r new before after) (sent : Turn.Sent) :
    Accounted cap (.turn r (.responded sent) :: (new ++ [.generating r])) before after where
  kept p := by
    rw [answers_responded, answers_eq]
    by_cases hp : p = r.key
    · -- the new answer has the admission that came with the turn
      subst hp
      have hcount := h.count_key
      have hbefore := h.count_before
      have hone : (r.key :: answers new).count r.key = (answers new).count r.key + 1 :=
        List.count_cons_self
      have hgoal : (r.key :: answers new).count r.key + before.count r.key ≤ after.count r.key := by
        omega
      exact hgoal
    · -- other answers are counted as before
      have hcount := (h.count_other hp).1
      have hsame : (r.key :: answers new).count p = (answers new).count p :=
        List.count_cons_of_ne (Ne.symm hp)
      have hgoal : (r.key :: answers new).count p + before.count p ≤ after.count p := by
        omega
      exact hgoal
  once p := by
    by_cases hp : p = r.key
    · subst hp
      have hcount := h.count_key.1
      omega
    · exact (h.count_other hp).2
  capped := h.capped
  fresh r' hr := by
    rcases List.mem_cons.mp hr with heq | hr'
    · cases heq
    · exact h.fresh hr'

/-- A turn whose admission is not taken back, although it ended without a message, leaves its key to
nobody. -/
theorem stranded (h : InTurn cap r new before after) :
    Accounted cap (new ++ [.generating r]) before after where
  kept p := by
    rw [answers_eq]
    by_cases hp : p = r.key
    · subst hp
      have hcount := h.count_key
      have hbefore := h.count_before
      omega
    · exact (h.count_other hp).1
  once p := by
    by_cases hp : p = r.key
    · subst hp
      have hcount := h.count_key.1
      omega
    · exact (h.count_other hp).2
  capped := h.capped
  fresh r' hr := h.fresh hr

/-- A turn whose admission is taken back leaves the keys as if it had not been. -/
theorem revoked (h : InTurn cap r new before after) :
    Accounted cap (new ++ [.generating r]) before (after.filter (· ≠ r.key)) where
  kept p := by
    rw [answers_eq]
    by_cases hp : p = r.key
    · subst hp
      have hcount := h.count_key
      have hbefore := h.count_before
      omega
    · have hcount := (h.count_other hp).1
      rwa [List.count_filter (by simpa using hp)]
  once p := by
    by_cases hp : p = r.key
    · subst hp
      have hgone : (after.filter (· ≠ r.key)).count r.key = 0 :=
        List.count_eq_zero.mpr (by simp)
      omega
    · have hcount := (h.count_other hp).2
      rwa [List.count_filter (by simpa using hp)]
  capped key := by
    have hle : (after.filter (· ≠ r.key)).countP (·.1 = key) ≤ after.countP (·.1 = key) :=
      List.Sublist.countP_le List.filter_sublist
    exact Nat.le_trans hle (h.capped key)
  fresh r' hr := h.fresh hr

end InTurn

end Turn

/-! ## The account of an engine -/

/-- The responder keys are read from no other table. -/
theorem responderKeys_side : SideTables Tables.responderKeys where
  presence _ _ := rfl
  activity _ _ := rfl
  humans _ _ := rfl
  sent _ _ := rfl
  threads _ _ := rfl
  sessions _ _ := rfl

theorem responderKeys_leases : Relation.leases.Hidden Tables.responderKeys := fun _ _ => rfl

theorem responderKeys_settling : SettlingHidden Tables.responderKeys := .of_leases responderKeys_leases

theorem responderKeys_ticks : Relation.ticks.Hidden Tables.responderKeys := fun _ _ => rfl

/-- What was noted between two worlds is accounted for by their responder keys. -/
def Balanced (cap : Nat) (w w' : World σ) : Prop :=
  ∃ new, w'.journal = new ++ w.journal ∧
    Accounted cap new w.store.tables.responderKeys w'.store.tables.responderKeys

namespace Balanced

variable {cap : Nat}

theorem chains : Chains (Balanced cap : World σ → World σ → Prop) where
  refl w := ⟨[], rfl, .refl cap _⟩
  trans := by
    rintro u v w ⟨new, hv, hnew⟩ ⟨new', hw, hnew'⟩
    refine ⟨new' ++ new, ?_, hnew.trans hnew'⟩
    rw [hw, hv, List.append_assoc]

/-- Whatever leaves the journal and the responder keys alone keeps the account. -/
theorem of_eq {w w' : World σ} (hj : w'.journal = w.journal)
    (hk : w'.store.tables.responderKeys = w.store.tables.responderKeys) : Balanced cap w w' := by
  refine ⟨[], hj, ?_⟩
  rw [hk]
  exact .refl cap _

theorem calm : Calm Tables.responderKeys (Balanced cap : World σ → World σ → Prop) where
  toChains := chains
  unseen hstore hstill := of_eq hstill.journal hstore.view

theorem grows {w w' : World σ} (h : Balanced cap w w') : w.journal <:+ w'.journal := by
  obtain ⟨new, hnew, -⟩ := h
  exact ⟨new, hnew.symm⟩

/-- One more entry that is neither an answer nor the request of a text. -/
theorem noted {w w' : World σ} {entry : JournalEntry} (hanswer : entry.answer? = none)
    (hgenerating : ∀ r, entry ≠ .generating r) (h : Balanced cap w w') :
    Balanced cap w (w'.noted entry) := by
  obtain ⟨new, hj, hnew⟩ := h
  refine ⟨entry :: new, ?_, hnew.cons_plain hanswer hgenerating⟩
  rw [World.noted_journal, hj]
  rfl

theorem note {entry : JournalEntry} (hanswer : entry.answer? = none)
    (hgenerating : ∀ r, entry ≠ .generating r) :
    Keeps (Balanced cap) (note entry : Act σ Unit) :=
  fun w => (chains.refl w).noted hanswer hgenerating

end Balanced

namespace Engine

variable {e : Engine σ} {cap : Nat}

/-- An admitted turn, from before its admission up to the note of its end. -/
theorem runAdmitted_balanced (h : e.Served Tables.responderKeys (Balanced cap)) {r : Turn.Request}
    (hgate : r.gate.isSome) {before : List (String × String)} {w w' : World σ} {o : Turn.Outcome}
    (hkeys : w.store.tables.responderKeys = before ++ [r.key]) (habsent : r.key ∉ before)
    (hroom : before.countP (·.1 = r.key.1) < cap) (hrun : (e.runAdmitted r).run w = (o, w')) :
    ∃ new, w'.journal = new ++ w.journal ∧
      Accounted cap (.turn r o :: new) before w'.store.tables.responderKeys := by
  obtain ⟨w₁, hgen, hend⟩ := run_runAdmitted hgate hrun
  have hkeep := h.generateAndSend r (w.noted (.generating r))
  rw [hgen] at hkeep
  obtain ⟨new, hj, hnew⟩ := hkeep
  rw [World.noted_store, hkeys] at hnew
  have hturn : InTurn cap r new before w₁.store.tables.responderKeys := ⟨habsent, hroom, hnew⟩
  have hj₁ : w₁.journal = (new ++ [.generating r]) ++ w.journal := by
    rw [hj, World.noted_journal, List.append_assoc]
    rfl
  cases hsent : o.sent? with
  | some sent =>
    -- what records the message keeps the account by itself
    rw [hsent] at hend
    cases o with
    | responded s =>
      obtain ⟨later, hj₂, hlater⟩ := h.recordTurn r sent w₁
      rw [← show w' = ((e.recordTurn r sent).run w₁).2 from hend] at hj₂ hlater
      refine ⟨(later ++ new) ++ [.generating r], ?_, (hturn.extend hlater).responded s⟩
      rw [hj₂, hj₁]
      simp only [List.append_assoc]
    | silent => cases hsent
    | contended => cases hsent
    | rejected admission => cases hsent
    | failed reason => cases hsent
  | none =>
    rw [hsent] at hend
    refine ⟨new ++ [.generating r], by rw [hend]; exact hj₁, ?_⟩
    refine Accounted.cons_plain (answer?_turn hsent) (fun _ => JournalEntry.noConfusion) ?_
    have hstore : w'.store = (Gate.revoke r.options.triggerKey r.avatar.id).after w₁.store := by
      rw [hend]
    rw [hstore]
    rcases Gate.runs_revoke (runs_after _ w₁.store) with hkeys' | hkeys'
    · rw [hkeys']
      exact hturn.revoked
    · rw [hkeys']
      exact hturn.stranded

/-- What the lock is held for, up to the note of the turn's end. -/
theorem runLocked_balanced (h : e.Served Tables.responderKeys (Balanced cap))
    (hcap : e.config.gate.maxRespondersPerTrigger = cap) {r : Turn.Request} {g : Gate.Request}
    (hgate : r.gate = some g) (hkey : (g.triggerKey, g.avatarId) = r.key) {w w' : World σ}
    {o : Turn.Outcome} (hrun : (e.runLocked r).run w = (o, w')) :
    Balanced cap w (w'.noted (.turn r o)) := by
  obtain ⟨x, s, henter, hrest⟩ := run_runLocked hgate hrun
  rcases hrest with ⟨hx, hadmitted⟩ | ⟨hx, hsent, rfl⟩
  · -- the turn is admitted, with a row of its own
    rcases Gate.runs_enter henter with ⟨a, ha, ⟨-, hgranted⟩ | ⟨hne, -⟩⟩ | ⟨⟨f, hf⟩, -⟩
    · have happended := hgranted.appended
      have habsent := hgranted.absent
      have hroom := hgranted.room
      rw [hkey] at happended habsent
      rw [hcap, show g.triggerKey = r.key.1 from congrArg Prod.fst hkey] at hroom
      have hsome : r.gate.isSome := by
        rw [hgate]
        rfl
      obtain ⟨new, hj, hnew⟩ := runAdmitted_balanced h hsome happended habsent hroom hadmitted
      refine ⟨.turn r o :: new, ?_, hnew⟩
      rw [World.noted_journal, hj]
      rfl
    · exact absurd (Except.ok.inj (ha.symm.trans hx)) hne
    · cases hf.symm.trans hx
  · -- the turn is refused, and no row is added
    refine Balanced.noted (answer?_turn hsent) (fun _ => JournalEntry.noConfusion) ?_
    rcases Gate.runs_enter henter with ⟨a, ha, ⟨hgranted, -⟩ | ⟨-, hkeys⟩⟩ | ⟨-, hkeys⟩
    · exact absurd (ha.trans (congrArg _ hgranted)) hx
    · exact .of_eq rfl hkeys
    · exact .of_eq rfl hkeys

/-- A turn that asks the gate for its own avatar and trigger keeps the account. -/
theorem runTurn_balanced (h : e.Served Tables.responderKeys (Balanced cap))
    (hcap : e.config.gate.maxRespondersPerTrigger = cap) {r : Turn.Request} {g : Gate.Request}
    (hgate : r.gate = some g) (hkey : (g.triggerKey, g.avatarId) = r.key) :
    Keeps (Balanced cap) (e.runTurn r) := by
  intro w
  rcases hrun : (e.runTurn r).run w with ⟨o, w'⟩
  obtain ⟨x, s, htry, hrest⟩ := run_runTurn hrun
  have hlock : Balanced cap w { w with store := s } :=
    h.unseen (Lock.tryGuard_frames h.locks _ _ _ _ _ _ _ htry) ⟨rfl, rfl, rfl⟩
  rcases hrest with ⟨guard, w₁, -, hlocked, rfl⟩ | ⟨-, hsent, rfl⟩
  · have hturn := runLocked_balanced h hcap hgate hkey hlocked
    have hdrop := Lock.Guard.drop_frames h.locks guard _ _ _ (runs_after _ w₁.store)
    refine h.trans hlock (h.trans hturn (.of_eq rfl ?_))
    exact hdrop.view
  · exact hlock.noted (answer?_turn hsent) fun _ => JournalEntry.noConfusion

/-- An engine keeps the account of responders as soon as its services do. -/
theorem admits (hcap : e.config.gate.maxRespondersPerTrigger = cap)
    (hservice : ∀ call w, Balanced cap w (e.outside.after call w)) :
    e.Upholds Tables.responderKeys (Balanced cap) := by
  have hserved : e.Served Tables.responderKeys (Balanced cap) :=
    .of_services Balanced.calm responderKeys_side (fun _ _ => rfl) hservice
  refine hserved.toAided.upholds responderKeys_leases responderKeys_ticks Balanced.grows ?_ ?_ ?_ ?_
  · intro channel user w
    exact hserved.hear channel user w.clock w
  · intro entry haside
    exact Balanced.note haside.answer?_eq haside.ne_generating
  · intro channel message trigger key depth s
    exact runTurn_balanced hserved hcap rfl rfl
  · intro sweep a
    exact runTurn_balanced hserved hcap rfl rfl

end Engine

/-! ## Courses -/

/-- The engines of a course have one gate configuration. -/
def Engine.Gated (g : Config.Gate) (e : Engine σ) : Prop := e.config.gate = g

/-- Nothing from outside touches the responder rows or the journal. -/
def RespondersKept (w w' : World σ) : Prop :=
  w'.journal = w.journal ∧ w'.store.tables.responders = w.store.tables.responders

/-- Where the rows of responders are kept, so are their keys. -/
theorem RespondersKept.keys {w w' : World σ} (h : RespondersKept w w') :
    w'.store.tables.responderKeys = w.store.tables.responderKeys := by
  rw [Tables.responderKeys, h.2]
  rfl

/-- Every course keeps admissions and responses in balance. -/
theorem Course.balanced {g : Config.Gate} {w w' : World σ}
    (course : Course (Engine.Gated g) RespondersKept w w') :
    Balanced g.maxRespondersPerTrigger w w' := by
  refine course.within Tables.responderKeys Balanced.chains ?_ ?_
  · intro v v' h
    exact .of_eq h.1 h.keys
  · intro e he hservice
    exact Engine.admits (congrArg Config.Gate.maxRespondersPerTrigger he) hservice

/-- In every course of engines with one gate configuration, whatever its order and however operations
are nested in services: the turns that end with a message under one trigger key belong to distinct
avatars, and are no more than the gate's cap. -/
theorem responders_distinct_and_bounded {g : Config.Gate} {w w' : World σ}
    (course : Course (Engine.Gated g) RespondersKept w w') (key : String) :
    (respondersTo key (w'.since w)).Nodup ∧
      (respondersTo key (w'.since w)).length ≤ g.maxRespondersPerTrigger := by
  obtain ⟨new, hj, hnew⟩ := course.balanced
  rw [World.since_eq hj]
  constructor
  · rw [List.nodup_iff_count_le_one]
    intro avatar
    rw [count_respondersTo]
    have hkept := hnew.kept (key, avatar)
    have honce := hnew.once (key, avatar)
    omega
  · rw [length_respondersTo]
    have hle := hnew.answers_le key
    have hcapped := hnew.capped key
    omega

/-- Services in which a message is delivered to another engine while a text is made. -/
def Collaborators.delivering (m : Message) : Collaborators Unit :=
  { Collaborators.plain Avatar.pair "" with
    generate := fun avatar channel _ _ => do
      ((Operation.message channel m).perform (.standard (.plain Avatar.pair "")) : Act Unit Unit)
      return some ⟨some avatar.id, ""⟩ }

/-- A message is delivered while the first participant of a thread answers it, and once more after that:
the gate lets the second participant answer it, too, and the cap is met. -/
theorem responders_distinct_and_bounded_redelivered :
    let m := Message.human "m" "c" "u" "?" 0
    let w : World Unit := .ofTables .threaded ()
    let w₁ := (Operation.message "c" m).after (.standard (.delivering m)) w
    let w₂ := (Operation.message "c" m).after (.standard (.plain Avatar.pair "")) w₁
    respondersTo "msg:c:m" (w₂.since w) = ["bob", "ada"] ∧
      (respondersTo "msg:c:m" (w₂.since w)).Nodup ∧
        (respondersTo "msg:c:m" (w₂.since w)).length ≤ Config.Gate.standard.maxRespondersPerTrigger := by
  intro m w w₁ w₂
  have hplain : ∀ call (v : World Unit), Course (Engine.Gated .standard) RespondersKept v
      ((Collaborators.plain Avatar.pair "").after call v) := by
    intro call v
    rw [Collaborators.after_plain]
    exact .outside ⟨rfl, rfl⟩
  have hdelivering : ∀ call (v : World Unit), Course (Engine.Gated .standard) RespondersKept v
      ((Collaborators.delivering m).after call v) := by
    intro call v
    cases call with
    | generate avatar channel message options =>
      -- the same message is delivered once more while a text is made
      exact .operation (e := .standard (.plain Avatar.pair "")) (.message channel m) v rfl hplain
    | fetchRecent channel count => exact hplain (.fetchRecent channel count) v
    | send channel avatar text => exact hplain (.send channel avatar text) v
    | relocate avatar channel => exact hplain (.relocate avatar channel) v
    | getAvatar id => exact hplain (.getAvatar id) v
    | listAvatars channel => exact hplain (.listAvatars channel) v
    | touch avatar time => exact hplain (.touch avatar time) v
    | shouldRespond channel avatar message => exact hplain (.shouldRespond channel avatar message) v
    | preferred channel user => exact hplain (.preferred channel user) v
    | prefer channel user avatar ttl => exact hplain (.prefer channel user avatar ttl) v
  have hfirst : Course (Engine.Gated .standard) RespondersKept w w₁ :=
    .operation (e := .standard (.delivering m)) _ w rfl hdelivering
  have hsecond : Course (Engine.Gated .standard) RespondersKept w₁ w₂ :=
    .operation (e := .standard (.plain Avatar.pair "")) _ w₁ rfl hplain
  exact ⟨by decide +kernel, responders_distinct_and_bounded (hfirst.append hsecond) _⟩

end TurnTaking
