import TurnTaking.Proofs.Engine.Turn
import TurnTaking.Proofs.Gate
import TurnTaking.Proofs.Lock
import TurnTaking.Proofs.Preliminaries
import TurnTaking.Proofs.Retraction
import TurnTaking.Proofs.Selected

/-!
# Replies — a reply reaches its author

A message that replies to an avatar is answered by that avatar, whatever else speaks for or against it: the
tier of replies comes first and looks at no record, no lease keeps a reply back, and no cooldown does. What
the avatar needs is its lock and an unanswered trigger. So the avatar responds, and nobody else does, unless
a statement fails (`reply_reaches_author`). The one thing besides is that the coordination can read what the
channel is about, though it needs that only to rank others (`reply_unanswered_illegible`).

* `Onward` — nothing that was noted is lost, and no failure is forgotten;
* `Engine.Reaches`, `Tables.RepliesTo` — what is asked of the services, and of the message;
* `Troubled` — a statement failed on the way; each step leads on to the response, or else to that.
-/

namespace TurnTaking

open Store Store.Access

variable {σ : Type}

/-! ## Going on -/

/-- Nothing that was noted is lost, and no failure is forgotten. -/
structure Onward (w w' : World σ) : Prop where
  journal : w.journal <:+ w'.journal
  failures : w.store.failures ≤ w'.store.failures

/-- Nothing was lost, and a statement failed. -/
def Troubled (w w' : World σ) : Prop := w.store.failures < w'.store.failures

/-- Trouble after an onward stretch is trouble in all. -/
theorem Troubled.after {u v w : World σ} (h : Troubled v w) (hbefore : Onward u v) : Troubled u w :=
  Nat.lt_of_le_of_lt hbefore.failures h

/-- Trouble stays, however it goes on. -/
theorem Troubled.before {u v w : World σ} (h : Troubled u v) (hafter : Onward v w) : Troubled u w :=
  Nat.lt_of_lt_of_le h hafter.failures

namespace Onward

theorem calm : Calm (fun _ => ()) (Onward : World σ → World σ → Prop) where
  refl w := by
    constructor
    · exact List.suffix_refl _
    · exact Nat.le_refl _
  trans huv hvw := by
    constructor
    · exact huv.journal.trans hvw.journal
    · exact Nat.le_trans huv.failures hvw.failures
  unseen hstore hstill := by
    constructor
    · exact ⟨[], hstill.journal.symm⟩
    · exact hstore.failures

theorem trans {u v w : World σ} (huv : Onward u v) (hvw : Onward v w) : Onward u w := calm.trans huv hvw

theorem note (entry : JournalEntry) : Keeps Onward (note entry : Act σ Unit) := by
  intro w
  constructor
  · exact List.suffix_cons _ _
  · exact Nat.le_refl _

/-- An access forgets no failure. -/
theorem access {α : Type} {a : Access α} (h : Counts a) {w : World σ} {x : Except Fault α} {s : Store}
    (hrun : a.Runs w.store x s) : Onward w { w with store := s } := by
  constructor
  · exact List.suffix_refl _
  · exact h.failures hrun

/-- An engine whose services go on does so itself. -/
theorem upholds {e : Engine σ} (h : ∀ call w, Onward w (e.outside.after call w)) :
    e.Upholds (fun _ => ()) Onward := by
  have hserved : e.Served (fun _ => ()) Onward :=
    .of_services calm SideTables.unseen (fun _ _ => rfl) h
  have hturn : ∀ r, Keeps Onward (e.runTurn r) := by
    intro r
    exact hserved.toVoiced.runTurn (fun _ _ => rfl) (note _) fun _ => note _
  refine hserved.toAided.upholds (fun _ _ => rfl) (fun _ _ => rfl) (fun hgo => hgo.journal) ?_ ?_ ?_ ?_
  · intro channel user w
    exact hserved.hear channel user w.clock w
  · intro entry _
    exact note entry
  · intro channel message trigger key depth s
    exact hturn _
  · intro sweep a
    exact hturn _

end Onward

/-! ## What a reply needs -/

/-- Of the tables those by which the answer to a reply is decided: the locks, the responders, who sent what,
and, for the ranking, what the channels are about. -/
def Store.Tables.passage (t : Tables) : Tables :=
  { Tables.empty with locks := t.locks, responders := t.responders, sent := t.sent, topics := t.topics }

/-- The avatar that sent a message, as far as that is known. -/
def Store.Tables.senderOf (t : Tables) (message : String) : Option String :=
  (Table.lookup SentRow.key (some message) (t.sent.getD [])).map SentRow.avatarId

/-- The call finds out where avatars are, or moves one. -/
def Call.Locates : Call → Prop
  | .listAvatars .. | .getAvatar .. | .relocate .. => True
  | _ => False

/-- The services forget nothing, find avatars without a change to what the answer to a reply is decided by,
know the avatar, and make and send its texts in the channel. -/
structure Engine.Reaches (e : Engine σ) (channel avatar : String) : Prop where
  onward : ∀ call w, Onward w (e.outside.after call w)
  locating : ∀ call, call.Locates → ∀ w,
    (e.outside.after call w).store.tables.passage = w.store.tables.passage
  known : ∀ w, ∃ a w', (e.outside.getAvatar avatar).run.run w = (.ok (some a), w') ∧ a.id = avatar
  generates : ∀ a, a.id = avatar → ∀ message options w, ∃ text w',
    (e.outside.generate a channel message options).run.run w = (.ok (some text), w')
  sends : ∀ a, a.id = avatar → ∀ text w, ∃ id w',
    (e.outside.send channel a text).run.run w = (.ok id, w')

/-- The message replies to one of the avatar, is by someone else, and no answer to it is under way: the
avatar's lock is free, and nobody was admitted for the trigger. -/
structure Store.Tables.RepliesTo (t : Tables) (channel : String) (m : Message) (avatar : String) : Prop where
  sent : ∃ x, m.replyTo = some x ∧ t.senderOf x.messageId = some avatar
  other : m.authorId ≠ avatar
  idle : t.lock (channel, avatar) = none
  first : Gate.Unanswered t (Trigger.messageKey channel m.id)

/-- Whose reply it is depends on the passage only. -/
theorem Store.Tables.RepliesTo.of_passage {t t' : Tables} {channel avatar : String} {m : Message}
    (h : t.RepliesTo channel m avatar) (hsame : t'.passage = t.passage) : t'.RepliesTo channel m avatar := by
  have hread : t.passage.RepliesTo channel m avatar := ⟨h.sent, h.other, h.idle, h.first⟩
  rw [← hsame] at hread
  exact ⟨hread.sent, hread.other, hread.idle, hread.first⟩

/-- The sender is read from the table of sent messages. -/
theorem Activity.runs_sender? {message : String} {x : Except Fault (Option String)} {s s' : Store}
    (h : (sender? message).Runs s x s') :
    (x = .ok (s.tables.senderOf message) ∧ s'.tables = s.tables) ∨
      (∃ f, x = .error f) ∧ s.failures < s'.failures := by
  rcases runs_query h with ⟨rows, found, hrows, hfound, rfl, htables, -⟩ | ⟨hx, hfault⟩
  · left
    have hsent : s.tables.sent = some rows := hrows
    have hsender : s.tables.senderOf message = found := by
      rw [Tables.senderOf, hsent]
      exact Except.ok.inj hfound
    rw [hsender]
    exact ⟨rfl, htables⟩
  · exact Or.inr ⟨hx, hfault.failures⟩

variable {e : Engine σ} {channel avatar : String} {m : Message} {w w' : World σ}

/-! ## Selecting the author -/

/-- An avatar that is selected to answer a reply. -/
def Selection.replying (a : Avatar) : Selection :=
  { Selection.plain a .reply with overridesCooldown := true }

/-- The tier of replies selects the avatar that is replied to, wherever it is. -/
theorem Tier.run_selectReply {s : Situation} {x : Except Fault (List Selection)}
    (h : e.Reaches channel avatar) (hs : s.message = some m)
    (hreply : w.store.tables.RepliesTo channel m avatar)
    (hrun : (selectReply e s).run.run w = (x, w')) :
    (∃ a, a.id = avatar ∧ x = .ok [.replying a] ∧ w'.store.tables.passage = w.store.tables.passage) ∨
      Troubled w w' := by
  obtain ⟨answered, hanswered, hsender⟩ := hreply.sent
  have hto : s.message.bind Message.replyTo = some answered := by
    rw [hs]
    exact hanswered
  have hauthor : s.authorId ≠ some avatar := by
    rw [Situation.authorId, hs]
    intro hsame
    exact hreply.other (Option.some.inj hsame)
  unfold selectReply at hrun
  simp only [hto] at hrun
  rcases run_tryBind hrun with ⟨sender, w₁, hfind, hrest⟩ | ⟨f, hfind, -⟩
  · obtain ⟨s₁, hruns, rfl⟩ := run_onStore hfind
    rcases Activity.runs_sender? hruns with ⟨hx, htables⟩ | ⟨⟨f, hx⟩, -⟩
    · obtain rfl := Except.ok.inj hx
      simp only [hsender, Option.some_or, hauthor, if_false] at hrest
      obtain ⟨a, w₂, hknown, hid⟩ := h.known { w with store := s₁ }
      have hfound : e.outside.after (.getAvatar avatar) { w with store := s₁ } = w₂ :=
        congrArg Prod.snd hknown
      have hsame := h.locating (.getAvatar avatar) trivial { w with store := s₁ }
      rw [hfound, htables] at hsame
      rw [run_tryBind_ok hknown] at hrest
      dsimp only at hrest
      by_cases hin : a.isIn s.channelId = true
      · -- the author is in the channel already
        rw [if_pos hin] at hrest
        obtain ⟨rfl, rfl⟩ := Prod.mk.inj hrest
        exact Or.inl ⟨a, hid, rfl, hsame⟩
      · -- the author is moved to the channel first
        rw [if_neg hin] at hrest
        obtain ⟨_, w₃, hmoved, hend⟩ := run_tryLift hrest
        obtain ⟨rfl, rfl⟩ := Prod.mk.inj hend
        have hafter : e.outside.after (.relocate a s.channelId) w₂ = w₃ := congrArg Prod.snd hmoved
        have hmoving := h.locating (.relocate a s.channelId) trivial w₂
        rw [hafter, hsame] at hmoving
        exact Or.inl ⟨a.inChannel s.channelId, hid, rfl, hmoving⟩
    · cases hx
  · -- the sender could not be looked up
    obtain ⟨s₁, hruns, rfl⟩ := run_onStore hfind
    rcases Activity.runs_sender? hruns with ⟨hx, -⟩ | ⟨-, hlost⟩
    · cases hx
    · exact Or.inr hlost

/-- No tier comes before that of replies. -/
theorem run_selectResponders_reply {s : Situation} {picks : List Selection}
    (h : e.Reaches channel avatar) (hs : s.message = some m)
    (hreply : w.store.tables.RepliesTo channel m avatar)
    (hrun : (e.selectResponders s).run w = (picks, w')) :
    (∃ a, a.id = avatar ∧ picks = [.replying a] ∧ w'.store.tables.passage = w.store.tables.passage) ∨
      Troubled w w' := by
  have hbegins : Tier.cascade = .reply :: Tier.cascade.tail := rfl
  rw [Engine.selectResponders, hbegins, Tier.selectFirst, if_pos (show Tier.appliesTo _ _ .reply = true from rfl)]
    at hrun
  rcases hselect : (Tier.select e s .reply).run.run w with ⟨x, v⟩
  rw [run_bind_of hselect] at hrun
  rcases Tier.run_selectReply h hs hreply hselect with ⟨a, hid, rfl, hsame⟩ | hlost
  · obtain ⟨rfl, rfl⟩ := Prod.mk.inj hrun
    exact Or.inl ⟨a, hid, rfl, hsame⟩
  · -- whoever is selected instead, the failure stays counted
    right
    have hgoes := (Onward.upholds h.onward).selectFirst s Tier.cascade.tail v
    rcases x with f | _ | ⟨pick, more⟩
    · have hrest : (Tier.selectFirst e s Tier.cascade.tail).run v = (picks, w') := hrun
      rw [hrest] at hgoes
      exact hlost.before hgoes
    · have hrest : (Tier.selectFirst e s Tier.cascade.tail).run v = (picks, w') := hrun
      rw [hrest] at hgoes
      exact hlost.before hgoes
    · obtain ⟨-, rfl⟩ := Prod.mk.inj hrun
      exact hlost

/-! ## The turn of the author -/

namespace Engine

/-- The text is made and sent. -/
theorem generateAndSend_responds {r : Turn.Request} {o : Turn.Outcome} (h : e.Reaches channel avatar)
    (hchannel : r.channelId = channel) (hid : r.avatar.id = avatar)
    (hrun : (e.generateAndSend r).run w = (o, w')) : o.sent?.isSome = true := by
  subst hchannel
  obtain ⟨⟨id, text⟩, w₁, hgenerated⟩ := h.generates r.avatar hid r.message r.options w
  rw [generateAndSend, run_bind_of hgenerated] at hrun
  cases id with
  | some id =>
    obtain ⟨rfl, -⟩ := Prod.mk.inj hrun
    rfl
  | none =>
    obtain ⟨id, w₂, hsent⟩ := h.sends r.avatar hid text w₁
    simp only [run_bind_of hsent] at hrun
    obtain ⟨rfl, -⟩ := Prod.mk.inj hrun
    rfl

/-- The turn of an avatar whose lock is free, which overrides the cooldown and is the first of its trigger,
ends with a message, unless a statement fails. -/
theorem run_runTurn_responds {r : Turn.Request} {g : Gate.Request} {o : Turn.Outcome}
    (h : e.Reaches channel avatar) (hchannel : r.channelId = channel) (hid : r.avatar.id = avatar)
    (hgate : r.gate = some g) (hoverrides : g.overridesCooldown = true)
    (hroom : 1 ≤ e.config.gate.maxRespondersPerTrigger)
    (hidle : w.store.tables.lock (channel, avatar) = none)
    (hfirst : Gate.Unanswered w.store.tables g.triggerKey)
    (hrun : (e.runTurn r).run w = (o, w')) : o.sent?.isSome = true ∨ Troubled w w' := by
  obtain ⟨x, s, hguard, hlast⟩ := run_runTurn hrun
  rw [hchannel, hid] at hguard
  have hkeys : Unseen Tables.responderKeys w.store s :=
    Lock.tryGuard_frames (fun _ _ => rfl) _ _ _ _ _ _ _ hguard
  rcases hlast with ⟨guard, w₁, -, hlocked, rfl⟩ | ⟨hnone, -, rfl⟩
  · have hdrop : Onward w₁ { w₁ with store := guard.drop.after w₁.store } :=
      Onward.access (Lock.Guard.drop_counts guard) (runs_after _ _)
    obtain ⟨y, s', henter, hturn⟩ := run_runLocked hgate hlocked
    have hfirst' : Gate.Unanswered s.tables g.triggerKey := by
      intro k hk
      apply hfirst
      rw [← hkeys.view]
      exact hk
    rcases hturn with ⟨rfl, hadmitted⟩ | ⟨hrefused, -, rfl⟩
    · -- the turn is admitted, and its text is sent
      obtain ⟨_, hgenerated, -⟩ := run_runAdmitted (by rw [hgate]; rfl) hadmitted
      exact Or.inl (generateAndSend_responds h hchannel hid hgenerated)
    · -- the first responder is refused only where a statement fails
      right
      rcases Gate.runs_enter_first hfirst' hroom hoverrides henter with hy | hlost
      · exact absurd hy hrefused
      · have hcounted : s.failures < s'.failures := hlost
        have hle := hkeys.failures
        have hend := hdrop.failures
        show w.store.failures < _
        exact Nat.lt_of_lt_of_le (Nat.lt_of_le_of_lt hle hcounted) hend
  · -- the lock was free, so only a statement can have failed
    rcases Lock.runs_tryGuard_free hidle hguard with hx | hlost
    · exact absurd hx (hnone _)
    · exact Or.inr hlost

/-- What comes of a selected author under any lease is a response. -/
theorem run_respondLeased_responds {trigger : Trigger} {key : String} {context : CoordinationContext}
    {message : Option Message} {a : Avatar} {lease : Option Lease.Guard} {response : Option Response}
    (h : e.Reaches channel avatar) (hid : a.id = avatar)
    (hroom : 1 ≤ e.config.gate.maxRespondersPerTrigger)
    (hidle : w.store.tables.lock (channel, avatar) = none)
    (hfirst : Gate.Unanswered w.store.tables key)
    (hrun : (e.respondLeased channel message trigger key context (.replying a) lease).run w =
      (response, w')) :
    (∃ r, response = some r ∧ r.avatarId = avatar ∧ r.tier = .reply) ∨ Troubled w w' := by
  have hkeeps := Onward.upholds h.onward
  obtain ⟨v, hanswer, hnoted⟩ := run_respondLeased hrun
  have hsame : v.store = w.store := by
    rcases hnoted with ⟨rfl, -⟩ | ⟨_, _, -, -, rfl⟩
    · rfl
    · rfl
  obtain ⟨o, w₁, hturn, hlast⟩ := run_answer hanswer
  have hresponds := run_runTurn_responds (w := v) (g := ⟨channel, a.id, key, trigger, true⟩) h rfl hid rfl
    rfl hroom (by rw [hsame]; exact hidle) (by rw [hsame]; exact hfirst) hturn
  have hsettled := hkeeps.settleLease (.of_leases fun _ _ => rfl) lease o w₁
  cases hsent : o.sent? with
  | some sent =>
    simp only [hsent] at hlast
    obtain ⟨rfl, -⟩ := hlast
    exact Or.inl ⟨_, rfl, hid, rfl⟩
  | none =>
    right
    simp only [hsent] at hlast
    obtain ⟨-, rfl⟩ := hlast
    rcases hresponds with hsome | hlost
    · rw [hsent] at hsome
      cases hsome
    · have htroubled : Troubled w w₁ := by
        rw [Troubled, ← hsame]
        exact hlost
      exact htroubled.before hsettled

/-- A reply takes precedence: no lease keeps its author from responding. -/
theorem run_respond_responds {trigger : Trigger} {key : String} {context : CoordinationContext}
    {message : Option Message} {a : Avatar} {response : Option Response}
    (h : e.Reaches channel avatar) (hid : a.id = avatar)
    (hroom : 1 ≤ e.config.gate.maxRespondersPerTrigger)
    (hidle : w.store.tables.lock (channel, avatar) = none)
    (hfirst : Gate.Unanswered w.store.tables key)
    (hrun : (e.respond channel message trigger key context (.replying a)).run w = (response, w')) :
    (∃ r, response = some r ∧ r.avatarId = avatar ∧ r.tier = .reply) ∨ Troubled w w' := by
  obtain ⟨decision, w₁, hlease, hlast⟩ := run_respond hrun
  rcases hlast with ⟨-, ⟨f, rfl⟩, rfl⟩ | ⟨-, rfl, -⟩ | ⟨lease, -, hleased⟩
  · -- no lease could be decided on, since a statement failed
    exact Or.inr (failures_of_undecided hlease).2
  · -- a reply takes precedence, and is never passed over
    rcases run_leaseSelection hlease with ⟨hx, -⟩ | ⟨tick, m', -, -, hdecided⟩
    · cases hx
    · obtain ⟨_, -, -, ⟨hx, -⟩ | ⟨-, -, _, -, ⟨-, hlesser, -⟩ | ⟨hx, -⟩⟩ | ⟨⟨_, hx⟩, -⟩⟩ :=
        run_leaseForMessage hdecided
      · cases hx
      · exact absurd rfl hlesser
      · cases hx
      · cases hx
  · obtain ⟨s, rfl, hbeside⟩ := leaseSelection_beside hlease
    have hlock : Unseen (Tables.lock · (channel, avatar)) w.store s := hbeside.beside fun _ _ => rfl
    have hkeys : Unseen Tables.responderKeys w.store s := hbeside.beside fun _ _ => rfl
    have hfirst' : Gate.Unanswered s.tables key := by
      intro k hk
      apply hfirst
      rw [← hkeys.view]
      exact hk
    rcases run_respondLeased_responds h hid hroom (hlock.view.trans hidle) hfirst' hleased with
      hresponse | hlost
    · exact Or.inl hresponse
    · exact Or.inr (Nat.lt_of_le_of_lt hlock.failures hlost)

/-- Of one selection, with room for its response, there is one response, if there is one. -/
theorem run_respondAll_one {trigger : Trigger} {key : String} {context : CoordinationContext}
    {message : Option Message} {s : Selection} {limit : Nat} {responses : List Response}
    (hlimit : 1 ≤ limit)
    (hrun : (e.respondAll channel message trigger key context limit [s]).run w = (responses, w')) :
    ∃ response, (e.respond channel message trigger key context s).run w = (response, w') ∧
      responses = response.toList := by
  obtain ⟨limit, rfl⟩ := Nat.exists_eq_add_of_le' hlimit
  rcases hresponse : (e.respond channel message trigger key context s).run w with ⟨response, w₁⟩
  rw [respondAll, run_bind_of hresponse] at hrun
  cases response with
  | some r =>
    have hnobody : (e.respondAll channel message trigger key context limit []).run w₁ = ([], w₁) := by
      cases limit <;> rfl
    simp only [run_bind_of hnobody] at hrun
    obtain ⟨rfl, rfl⟩ := Prod.mk.inj hrun
    exact ⟨some r, rfl, rfl⟩
  | none =>
    obtain ⟨rfl, rfl⟩ := Prod.mk.inj hrun
    exact ⟨none, rfl, rfl⟩

end Engine

/-- Before anyone is selected, nothing happens that the answer to a reply is decided by. -/
theorem Engine.Reaches.preliminaries {x : Except Fault (Candidates × String)}
    (h : e.Reaches channel avatar) {message : Option Message}
    (hrun : (e.preliminaries channel message).run.run w = (x, w')) :
    Onward w w' ∧ w'.store.tables.passage = w.store.tables.passage := by
  have hlisted : Onward w (e.outside.after (.listAvatars channel) w) := h.onward _ w
  have hlisting := h.locating (.listAvatars channel) trivial w
  obtain ⟨s, hw, hunseen⟩ := e.preliminaries_writes channel message w
  rw [hrun] at hw
  obtain rfl : w' = { e.outside.after (.listAvatars channel) w with store := s } := hw
  constructor
  · exact hlisted.trans ⟨List.suffix_refl _, hunseen.failures⟩
  · have hbeside : s.tables.besidePreliminaries.passage =
        (e.outside.after (.listAvatars channel) w).store.tables.besidePreliminaries.passage := by
      rw [hunseen.view]
    exact hbeside.trans hlisting

/-- Where the topics of the channel can be read, the preliminaries end in a fault only if a statement fails. -/
theorem Engine.Reaches.preliminaries_fault {f : Fault} (h : e.Reaches channel avatar)
    (htopics : w.store.tables.topicsOf channel ≠ none) {message : Option Message}
    (hrun : (e.preliminaries channel message).run.run w = (.error f, w')) : Troubled w w' := by
  have hlisting := h.locating (.listAvatars channel) trivial w
  rcases Engine.preliminaries_fault hrun with hnone | hlost
  · have hunread : w.store.tables.passage.topicsOf channel = none := by
      rw [← hlisting]
      exact hnone
    exact absurd hunread htopics
  · have hcounted : Troubled (e.outside.after (.listAvatars channel) w) w' := hlost
    exact hcounted.after (h.onward _ w)

/-- A message that replies to an avatar is answered by that avatar and by nobody else, as a reply: whatever
the context and whoever is said to have been replied to, with the channel cooling down, the avatar absent,
somewhere else or leased in the tick, with threads open, summons owed, preferences kept and others named.
That takes an avatar that is known and makes and sends its texts, a free lock, a trigger that nobody was
admitted for, room for one response, topics of the channel that can be read, and that no statement fails. -/
theorem reply_reaches_author {context : CoordinationContext} {x : Except Fault (List Response)}
    (h : e.Reaches channel avatar) (hreply : w.store.tables.RepliesTo channel m avatar)
    (htopics : w.store.tables.topicsOf channel ≠ none)
    (hresponses : 1 ≤ e.config.coordination.maxResponsesPerMessage)
    (hresponders : 1 ≤ e.config.gate.maxRespondersPerTrigger)
    (hrun : (e.coordinate channel (some m) context).run.run w = (x, w'))
    (hsound : w'.store.failures = w.store.failures) :
    ∃ response, x = .ok [response] ∧ response.avatarId = avatar ∧ response.tier = .reply := by
  have hkeeps := Onward.upholds h.onward
  have huntroubled : ¬ Troubled w w' := by
    rw [Troubled, hsound]
    exact Nat.lt_irrefl _
  rcases Engine.run_coordinate hrun with ⟨f, rfl, hfault⟩ |
    ⟨found, key, w₁, picks, w₂, responses, w₃, hfound, hselect, hrespond, rfl, hend⟩
  · exact absurd (h.preliminaries_fault htopics hfault) huntroubled
  · obtain ⟨hbegun, hpassage⟩ := h.preliminaries hfound
    -- each step goes on from the one before, so what fails in one is counted at the end
    have hselected : Onward w₁ w₂ := by
      have hgoes := hkeeps.selectResponders ⟨channel, some m, .classify (some m) found.inChannel,
        found.eligible, found.ranked, w.clock⟩ w₁
      rwa [hselect] at hgoes
    have hnoted : Onward w₂ (w₂.noted (.selected key picks)) := Onward.note _ w₂
    have hresponded : Onward (w₂.noted (.selected key picks)) w₃ := by
      have hgoes := hkeeps.respondAll channel (some m) (.classify (some m) found.inChannel) key context
        e.config.coordination.maxResponsesPerMessage picks (w₂.noted (.selected key picks))
      rwa [hrespond] at hgoes
    have hended : Onward w₃ w' := by
      rcases hend with rfl | ⟨fewer, named, hcascade⟩
      · exact Onward.calm.refl _
      · have hgoes := hkeeps.directs.cascade _
          (fun m => hkeeps.directs.coordinateNested fewer channel (some m) ⟨none, context.depth + 1⟩)
          channel named w₃
        rwa [hcascade] at hgoes
    obtain ⟨_, -, hkey⟩ := Engine.run_preliminaries_ok hfound
    obtain rfl : Trigger.messageKey channel m.id = key := Except.ok.inj (Prod.mk.inj hkey).1
    have hreply₁ := hreply.of_passage hpassage
    rcases run_selectResponders_reply h rfl hreply₁ hselect with ⟨a, hid, rfl, hpassage₂⟩ | hlost
    · -- the author alone is selected
      have hreply₂ := hreply₁.of_passage hpassage₂
      obtain ⟨response, hresponse, rfl⟩ := Engine.run_respondAll_one hresponses hrespond
      rcases Engine.run_respond_responds (w := w₂.noted _) h hid hresponders hreply₂.idle hreply₂.first
        hresponse with ⟨r, rfl, hauthor, htier⟩ | hlost
      · exact ⟨r, rfl, hauthor, htier⟩
      · -- the response failed on a statement
        have hcounted := ((hlost.after hnoted).after hselected).after hbegun
        exact absurd (hcounted.before hended) huntroubled
    · -- the selection failed on a statement
      have hcounted := ((hlost.after hbegun).before hnoted).before hresponded
      exact absurd (hcounted.before hended) huntroubled

/-! ## A reply that much speaks against -/

/-- Services that know an avatar, and answer with one text for all, reach it. -/
theorem Collaborators.introducing_reaches {avatars : List Avatar} {channel avatar : String} {a : Avatar}
    (h : avatars.find? (·.id = avatar) = some a) :
    (Engine.standard (introducing avatars)).Reaches channel avatar where
  onward call w := by
    have hsame : (introducing avatars).after call w = w := by
      cases call <;> rfl
    show Onward w ((introducing avatars).after call w)
    rw [hsame]
    exact Onward.calm.refl w
  locating call hcall w := by
    cases call with
    | listAvatars | getAvatar | relocate => rfl
    | generate | fetchRecent | send | touch | shouldRespond | preferred | prefer => exact hcall.elim
  known w := by
    have hid := List.find?_some h
    refine ⟨a, w, ?_, of_decide_eq_true hid⟩
    show ((.ok (avatars.find? (·.id = avatar)) : Except Fault (Option Avatar)), w) = (.ok (some a), w)
    rw [h]
  generates a ha message options w := ⟨_, w, rfl⟩
  sends a ha text w := ⟨_, w, rfl⟩

/-- A channel in which a message of ada's is known. She left it, is leased in its tick, and some other bot
has just spoken there; a thread waits for its next participant. -/
def Store.Tables.contested : Tables :=
  { Tables.threaded with
    presence := some [Presence.blankRow "c" "ada" .absent 0]
    activity := some [⟨some "c", .number 0, none, some (.number 0), some "other"⟩]
    sent := some [⟨some "x", "c", "ada", .number 0⟩]
    leases := some [⟨"c", "ada", .number 1, "pending", "ambient", .number 0, .number 1, none, none, none,
      none⟩] }

/-- A reply to ada is answered by her all the same, though it names bob and is said to answer him. -/
theorem reply_reaches_author_contested :
    let e : Engine Unit := .standard (.introducing Avatar.pair)
    let w : World Unit := .ofTables .contested ()
    let m := (Message.human "m" "c" "u" "Bob?" 0).replyingTo "x" (some "bob")
    w.store.tables.RepliesTo "c" m "ada" ∧
      ∃ response, ((e.coordinate "c" (some m) ⟨some 1, 0⟩).run.run w).1 = .ok [response] ∧
        response.avatarId = "ada" ∧ response.tier = .reply := by
  intro e w m
  have hreply : w.store.tables.RepliesTo "c" m "ada" := by
    constructor
    · exact ⟨_, rfl, by decide⟩
    · decide
    · decide
    · intro k hk
      cases hk
  have hreaches : e.Reaches "c" "ada" := Collaborators.introducing_reaches rfl
  have hsound : ((e.coordinate "c" (some m) ⟨some 1, 0⟩).run.run w).2.store.failures = 0 := by
    decide +kernel
  exact ⟨hreply, reply_reaches_author hreaches hreply (by decide +kernel) (by decide) (by decide) rfl hsound⟩

/-- It is not so that nothing but a failed statement can keep a reply from its author: where it cannot be
read what the channel is about, nobody answers. -/
theorem reply_unanswered_illegible :
    ¬ ∀ (e : Engine Unit) (channel avatar : String) (m : Message) (context : CoordinationContext)
        (w : World Unit),
      e.Reaches channel avatar → w.store.tables.RepliesTo channel m avatar →
      1 ≤ e.config.coordination.maxResponsesPerMessage → 1 ≤ e.config.gate.maxRespondersPerTrigger →
      let run := (e.coordinate channel (some m) context).run.run w
      run.2.store.failures = w.store.failures →
      ∃ response, run.1 = .ok [response] ∧ response.avatarId = avatar ∧ response.tier = .reply := by
  intro h
  let e : Engine Unit := .standard (.introducing Avatar.pair)
  let t : Tables := { Tables.illegible with sent := some [⟨some "x", "c", "ada", .number 0⟩] }
  let m := (Message.human "m" "c" "u" "?" 0).replyingTo "x" none
  have hreply : t.RepliesTo "c" m "ada" := by
    constructor
    · exact ⟨_, rfl, by decide⟩
    · decide
    · decide
    · intro k hk
      cases hk
  obtain ⟨response, hresponse, -⟩ := h e "c" "ada" m ⟨none, 0⟩ (.ofTables t ())
    (Collaborators.introducing_reaches rfl) hreply (by decide) (by decide) (by decide +kernel)
  have hfault : ((e.coordinate "c" (some m) ⟨none, 0⟩).run.run (.ofTables t ())).1.toOption = none := by
    decide +kernel
  rw [hresponse] at hfault
  cases hfault

end TurnTaking
