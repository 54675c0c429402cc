import TurnTaking.Proofs.Engine.Keeps

/-!
# Served — selecting within a relation

An engine calls its services all the time, and each call may change anything. `Collaborators.after` is
the world after one call. What an engine does is within a relation as far as the relation allows it:

* `Engine.Attended` — every call that asks for no text, and every step that a view of the tables does not
  show: tiers that only ask are within the relation;
* `Engine.Guided` — what is written to find responders and to keep their threads is not seen: so are the
  candidates, and all tiers that spend no summons;
* `Engine.Aided` — how summons are spent is not seen: so is every selection;
* `Engine.Assisted` — what is written of turns and of people is not seen: so are the records;
* `Engine.Voiced` — texts may be asked for as well, wherever that is: so are the turns.
-/

namespace TurnTaking

open Store Store.Access

variable {σ α β : Type}

/-- A call of one of the services. -/
inductive Call where
  | generate (avatar : Avatar) (channel : String) (message : Option Message)
      (options : ResponseOptions)
  | fetchRecent (channel : String) (count : Nat)
  | send (channel : String) (avatar : Avatar) (text : String)
  | relocate (avatar : Avatar) (channel : String)
  | getAvatar (id : String)
  | listAvatars (channel : String)
  | touch (avatar : String) (time : Int)
  | shouldRespond (channel : String) (avatar : Avatar) (message : Option Message)
  | preferred (channel user : String)
  | prefer (channel user avatar : String) (ttl : Int)

def Collaborators.after (c : Collaborators σ) (call : Call) (w : World σ) : World σ :=
  match call with
  | .generate avatar channel message options =>
    ((c.generate avatar channel message options).run.run w).2
  | .fetchRecent channel count => ((c.fetchRecent channel count).run.run w).2
  | .send channel avatar text => ((c.send channel avatar text).run.run w).2
  | .relocate avatar channel => ((c.relocate avatar channel).run.run w).2
  | .getAvatar id => ((c.getAvatar id).run.run w).2
  | .listAvatars channel => ((c.listAvatars channel).run.run w).2
  | .touch avatar time => ((c.touch avatar time).run.run w).2
  | .shouldRespond channel avatar message => ((c.shouldRespond channel avatar message).run.run w).2
  | .preferred channel user => ((c.preferred channel user).run.run w).2
  | .prefer channel user avatar ttl => ((c.prefer channel user avatar ttl).run.run w).2

def Call.AsksForText : Call → Prop
  | .generate .. => True
  | _ => False

/-- A call asks for a text or it does not. -/
theorem Call.generate_or_not (call : Call) :
    (∃ avatar channel message options, call = .generate avatar channel message options) ∨
      ¬ call.AsksForText := by
  cases call with
  | generate avatar channel message options => exact .inl ⟨avatar, channel, message, options, rfl⟩
  | fetchRecent | send | relocate | getAvatar | listAvatars | touch | shouldRespond | preferred
    | prefer => exact .inr id

/-- Services that differ in how they make a text do the same in all other calls. -/
theorem Collaborators.after_except_generate (c : Collaborators σ)
    (generate : Avatar → String → Option Message → ResponseOptions → Try σ (Option Generated))
    {call : Call} (h : ¬ call.AsksForText) (w : World σ) :
    { c with generate := generate }.after call w = c.after call w := by
  cases call with
  | generate => exact absurd trivial h
  | fetchRecent | send | relocate | getAvatar | listAvatars | touch | shouldRespond | preferred
    | prefer => rfl

/-- The tables that no rule about who may speak is read from: all but the locks, the responders, the
leases and the ticks. -/
structure SideTables (view : Tables → β) : Prop where
  presence : Relation.presence.Hidden view
  activity : Relation.activity.Hidden view
  humans : Relation.humans.Hidden view
  sent : Relation.sent.Hidden view
  threads : Relation.threads.Hidden view
  sessions : Relation.sessions.Hidden view

/-- Where nothing is looked at, no table is. -/
theorem SideTables.unseen : SideTables fun _ => () :=
  ⟨fun _ _ => rfl, fun _ _ => rfl, fun _ _ => rfl, fun _ _ => rfl, fun _ _ => rfl, fun _ _ => rfl⟩

/-- A view shows nothing of what is written to find responders, and of threads and sessions. It may show
the presence of avatars as long as it does not show these changes. -/
structure GuidingWrites (view : Tables → β) : Prop where
  ensure : ∀ channel avatar now, (Presence.ensure channel avatar now).Frames view
  recordMention : ∀ channel avatar now, (Presence.recordMention channel avatar now).Frames view
  threads : Relation.threads.Hidden view
  sessions : Relation.sessions.Hidden view

/-- A view shows nothing of what is written of turns and of people. -/
structure SideWrites (view : Tables → β) : Prop where
  recordTurn : ∀ channel avatar now cooldown,
    (Presence.recordTurn channel avatar now cooldown).Frames view
  activity : Relation.activity.Hidden view
  humans : Relation.humans.Hidden view
  sent : Relation.sent.Hidden view

namespace SideTables

variable {view : Tables → β} (h : SideTables view)

include h

/-- Without the side tables, a view shows nothing of what is written there. -/
theorem guiding : GuidingWrites view where
  ensure := Presence.ensure_frames h.presence
  recordMention := Presence.recordMention_frames h.presence
  threads := h.threads
  sessions := h.sessions

theorem writes : SideWrites view where
  recordTurn := Presence.recordTurn_frames h.presence
  activity := h.activity
  humans := h.humans
  sent := h.sent

end SideTables

/-- A view does not show how a lease is settled. -/
structure SettlingHidden (view : Tables → β) : Prop where
  complete : ∀ (g : Lease.Guard) clock, (g.complete clock).Frames view
  fail : ∀ (g : Lease.Guard) reason clock, (g.fail reason clock).Frames view

/-- Without the leases, it does not show how they are settled. -/
theorem SettlingHidden.of_leases {view : Tables → β} (h : Relation.leases.Hidden view) :
    SettlingHidden view := ⟨Lease.Guard.complete_frames h, Lease.Guard.fail_frames h⟩

/-- The relation allows every call of the engine's services that asks for no text, and every step that a
view does not show. -/
structure Engine.Attended (e : Engine σ) (view : Tables → β) (R : World σ → World σ → Prop) : Prop
    extends Calm view R where
  service : ∀ call, ¬ call.AsksForText → ∀ w, R w (e.outside.after call w)

/-- The view does not show what is written to find responders. -/
structure Engine.Guided (e : Engine σ) (view : Tables → β) (R : World σ → World σ → Prop) : Prop
    extends e.Attended view R where
  guiding : GuidingWrites view

/-- It does not show how summons are spent. -/
structure Engine.Aided (e : Engine σ) (view : Tables → β) (R : World σ → World σ → Prop) : Prop
    extends e.Guided view R where
  spending : ∀ channel avatar, (Presence.consumeSummon channel avatar).Frames view

/-- It does not show what is written of turns and of people. -/
structure Engine.Assisted (e : Engine σ) (view : Tables → β) (R : World σ → World σ → Prop) : Prop
    extends e.Guided view R where
  side : SideWrites view

/-- The relation also allows every call that asks for a text, wherever that is, and every change of the
locks. -/
structure Engine.Voiced (e : Engine σ) (view : Tables → β) (R : World σ → World σ → Prop) : Prop
    extends e.Assisted view R where
  locks : Relation.locks.Hidden view
  generate : ∀ avatar channel message options w,
    R w (e.outside.after (.generate avatar channel message options) w)

/-- Both of it: whatever the engine does but to lease and to ask the gate is within the relation. -/
structure Engine.Served (e : Engine σ) (view : Tables → β) (R : World σ → World σ → Prop) : Prop
    extends e.Aided view R, e.Voiced view R

/-- What the services and the side tables leave alone is served. -/
theorem Engine.Served.of_services {e : Engine σ} {view : Tables → β} {R : World σ → World σ → Prop}
    (h : Calm view R) (hside : SideTables view) (hlocks : Relation.locks.Hidden view)
    (hservice : ∀ call w, R w (e.outside.after call w)) : e.Served view R where
  toCalm := h
  guiding := hside.guiding
  side := hside.writes
  service call _ := hservice call
  spending := Presence.consumeSummon_frames hside.presence
  locks := hlocks
  generate _ _ _ _ := hservice _

section

variable {view : Tables → β}
  (hensure : ∀ channel avatar now, (Presence.ensure channel avatar now).Frames view)

include hensure

/-- Where the making of records is not seen, nothing is seen of records that are gathered. -/
theorem Engine.presentRecords_frames (channel : String) (author : Option String) (now : Int)
    (avatars : List Avatar) : Frames view (presentRecords channel author now avatars) := by
  induction avatars with
  | nil => exact .pure _
  | cons a rest ih =>
    unfold presentRecords
    split
    · exact ih
    · refine (hensure channel a.id now).bind fun record => ?_
      exact ih.bind fun _ => .pure _

/-- Available records are looked up, not written. -/
theorem Engine.availableRecords_frames {e : Engine σ} (channel : String) (now : Int)
    (avatars : List Avatar) : Frames view (e.availableRecords channel now avatars) := by
  induction avatars with
  | nil => exact .pure _
  | cons a rest ih =>
    unfold availableRecords
    refine (hensure channel a.id now).bind fun record => ?_
    exact ih.bind fun _ => .pure _

end

def Engine.ambientRequest (sweep : Sweep) (a : Avatar) : Turn.Request where
  avatar := a
  channelId := sweep.channelId
  message := none
  options := ⟨.ambient, none, none, 0, Trigger.ambientKey sweep.channelId sweep.tick⟩
  gate := some ⟨sweep.channelId, a.id, Trigger.ambientKey sweep.channelId sweep.tick, .ambient, false⟩

namespace Engine.Attended

variable {e : Engine σ} {view : Tables → β} {R : World σ → World σ → Prop} (h : e.Attended view R)

include h

/-! ## What is remembered of a channel -/

theorem recentMessages (channel : String) (now : Int) : Keeps R (e.recentMessages channel now) := by
  refine .look h.toChains fun w => ?_
  split
  · exact .pure h.toChains _
  · refine .bind h.toChains (h.service (.fetchRecent channel _) id) fun fetched => ?_
    cases fetched with
    | error f => exact .pure h.toChains _
    | ok fetched => exact .bind h.toChains (h.updateCache e _) fun _ => .pure h.toChains _

theorem recentAuthors (channel : String) (count : Nat) (now : Int) :
    Keeps R (e.recentAuthors channel count now) :=
  .bind h.toChains (h.recentMessages channel now) fun _ => .pure h.toChains _

theorem diversity (channel : String) (ranked : List Presence.Ranked) (now : Int) :
    Keeps R (Diversity.apply e channel ranked now) :=
  .bind h.toChains (h.recentAuthors channel _ now) fun _ => .pure h.toChains _

theorem rankIn (channel : String) (now : Int) (records : List Presence.Record) :
    Keeps R (e.rankIn channel now records).run :=
  .tryBind h.toChains (h.onStore (Activity.topics_frames channel)) fun _ => .tryPure h.toChains _

/-- A trigger without a message has its key from the tick of the channel. -/
theorem triggerKey {channel : String} {now : Int} (message : Option Message)
    (hpeek : Keeps R (TurnTaking.onStore (Tick.peek channel now) : Try σ Nat).run) :
    Keeps R (Engine.triggerKey channel message now : Try σ String).run := by
  cases message with
  | some m => exact .tryPure h.toChains _
  | none => exact .tryBind h.toChains hpeek fun _ => .tryPure h.toChains _

theorem isSuppressed (channel : String) (now : Int) :
    Keeps R (e.isSuppressed channel now).run :=
  .tryBind h.toChains (h.onStore (Activity.find?_frames channel)) fun _ => .tryPure h.toChains _

/-! ## Tiers that ask -/

/-- The reply tier looks up a sender and an avatar. -/
theorem selectReply (s : Situation) : Keeps R (Tier.selectReply e s).run := by
  unfold Tier.selectReply
  split
  · refine .tryBind h.toChains (h.onStore (Activity.sender?_frames _)) fun sender => ?_
    split
    · split
      · exact .tryPure h.toChains _
      · refine .tryBind h.toChains (h.service (.getAvatar _) id) fun found => ?_
        split
        · split
          · exact .tryPure h.toChains _
          · refine .tryLift h.toChains (.quietly h.toChains (h.service (.relocate _ _) id)) fun _ => ?_
            exact .tryPure h.toChains _
        · exact .tryPure h.toChains _
    · exact .tryPure h.toChains _
  · exact .tryPure h.toChains _

/-- The thread tier reads the open thread. -/
theorem selectThread (s : Situation) : Keeps R (Tier.selectThread s : Try σ _).run := by
  refine .tryBind h.toChains (h.onStore (Thread.active?_frames _ _)) fun current => ?_
  split
  · split
    · split
      · exact .tryPure h.toChains _
      · split <;> exact .tryPure h.toChains _
    · exact .tryPure h.toChains _
  · exact .tryPure h.toChains _

/-- The affinity tier asks the services. -/
theorem selectAffinity (s : Situation) : Keeps R (Tier.selectAffinity e s).run := by
  unfold Tier.selectAffinity
  split
  · refine .tryBind h.toChains (h.service (.preferred _ _) id) fun id => ?_
    split
    · split
      · extract_lets choose
        have hchoose : ∀ agreed, Keeps R (choose agreed).run := by
          intro agreed
          simp only [choose]
          split
          · refine .tryLift h.toChains (.quietly h.toChains (h.service (.prefer _ _ _ _) id)) fun _ => ?_
            exact .tryPure h.toChains _
          · exact .tryPure h.toChains _
        split
        · exact .tryBind h.toChains (.tryPure h.toChains _) hchoose
        · exact .tryBind h.toChains (h.service (.shouldRespond _ _ _) id) hchoose
      · exact .tryPure h.toChains _
    · exact .tryPure h.toChains _
  · exact .tryPure h.toChains _

theorem selectActiveSpeaker (s : Situation) : Keeps R (Tier.selectActiveSpeaker e s).run := by
  unfold Tier.selectActiveSpeaker
  extract_lets candidate
  split
  · refine .tryBind h.toChains (h.service (.shouldRespond _ _ _) id) fun agreed => ?_
    split <;> exact .tryPure h.toChains _
  · exact .tryPure h.toChains _

theorem selectPresence (s : Situation) : Keeps R (Tier.selectPresence e s).run := by
  unfold Tier.selectPresence
  extract_lets choose
  have hchoose : ∀ picked, Keeps R (choose picked).run := fun _ => .tryPure h.toChains _
  split
  · refine .tryLift h.toChains (h.diversity _ _ _) fun _ => ?_
    exact .tryBind h.toChains (.tryPure h.toChains _) hchoose
  · exact .tryBind h.toChains (.tryPure h.toChains _) hchoose

/-- The last tier asks the services about one avatar after the other. -/
theorem firstAccepted (s : Situation) (ranked : List Presence.Ranked) :
    Keeps R (Tier.firstAccepted e s ranked).run := by
  induction ranked with
  | nil => exact .tryPure h.toChains _
  | cons r rest ih =>
    unfold Tier.firstAccepted
    split
    · exact ih
    · refine .tryBind h.toChains (h.service (.shouldRespond _ _ _) id) fun agreed => ?_
      split
      · exact .tryPure h.toChains _
      · exact ih

/-- A tier that neither spends summons nor notes mentions only asks. -/
theorem select {t : Tier} (hsummon : t ≠ .summon) (hmention : t ≠ .mention) (s : Situation) :
    Keeps R (t.select e s).run := by
  cases t with
  | reply => exact h.selectReply s
  | thread => exact h.selectThread s
  | summon => exact absurd rfl hsummon
  | affinity => exact h.selectAffinity s
  | mention => exact absurd rfl hmention
  | activeSpeaker => exact h.selectActiveSpeaker s
  | presence => exact h.selectPresence s
  | legacy => exact h.firstAccepted s _

/-! ## Turns and leases, where the relation does not look at them -/

/-- Where the call for the text is within the relation, so is what comes of it. -/
theorem generateAndSend {r : Turn.Request} {w : World σ}
    (hgenerate : R w
      (e.outside.after (.generate r.avatar r.channelId r.message r.options) w)) :
    R w ((e.generateAndSend r).run w).2 := by
  refine Keeps.bindAt h.toChains hgenerate fun generated => ?_
  split
  · exact .pure h.toChains _
  · exact .pure h.toChains _
  · exact .look h.toChains fun _ => .pure h.toChains _
  · refine .bind h.toChains (h.service (.send _ _ _) id) fun sent => ?_
    split
    · exact .pure h.toChains _
    · exact .look h.toChains fun _ => .pure h.toChains _

/-- A lease is settled in its own table. -/
theorem settleLease (hs : SettlingHidden view) (lease : Option Lease.Guard) (o : Turn.Outcome) :
    Keeps R (settleLease lease o) := by
  cases lease with
  | none => exact .pure h.toChains _
  | some guard =>
    unfold Engine.settleLease
    cases o.failure? with
    | none => exact .look h.toChains fun _ => h.quietlyOnStore (hs.complete guard _)
    | some reason => exact .look h.toChains fun _ => h.quietlyOnStore (hs.fail guard reason _)

/-- A lease for a selection is taken in its own table. -/
theorem leaseSelection (hleases : Relation.leases.Hidden view) (channel : String)
    (message : Option Message) (s : Selection) (tick : Option Nat) :
    Keeps R (e.leaseSelection channel message s tick).run :=
  h.toCalm.leaseSelection (fun _ _ _ => Lease.acquire?_frames hleases _ _ _ _ _ _) message tick

end Engine.Attended

namespace Engine.Guided

variable {e : Engine σ} {view : Tables → β} {R : World σ → World σ → Prop} (h : e.Guided view R)

include h

/-! ## Candidates -/

theorem candidates (channel : String) (message : Option Message) (now : Int) :
    Keeps R (e.candidates channel message now).run := by
  refine .tryLift h.toChains ?_ fun inChannel => ?_
  · exact .orElse h.toChains _ (h.service (.listAvatars channel) id)
  · refine .tryBind h.toChains (h.onStore (presentRecords_frames h.guiding.ensure _ _ _ _)) fun present => ?_
    exact .tryBind h.toChains (h.rankIn _ _ _) fun _ => .tryPure h.toChains _

theorem unprompted (channel : String) (avatars : List Avatar) (now : Int) :
    Keeps R (e.unprompted channel avatars now).run := by
  refine .tryBind h.toChains (h.onStore (availableRecords_frames h.guiding.ensure _ _ _)) fun records => ?_
  refine .tryBind h.toChains (h.rankIn _ _ _) fun ranked => ?_
  exact .tryLift h.toChains (h.diversity _ _ _) fun _ => .tryPure h.toChains _

/-! ## Tiers that write -/

theorem noteMentions (s : Situation) (avatars : List Avatar) :
    Keeps R (Tier.noteMentions s avatars : Act σ Unit) := by
  induction avatars with
  | nil => exact .pure h.toChains _
  | cons a rest ih =>
    have hnote := h.guiding.recordMention s.channelId a.id s.now
    exact .bind h.toChains (h.quietlyOnStore hnote) fun _ => ih

theorem selectMention (s : Situation) : Keeps R (Tier.selectMention e s).run := by
  unfold Tier.selectMention
  split
  · extract_lets named
    split
    · refine .tryLift h.toChains (h.noteMentions _ _) fun _ => ?_
      split
      · refine .tryLift h.toChains (.quietly h.toChains (h.service (.prefer _ _ _ _) id)) fun _ => ?_
        exact .tryPure h.toChains _
      · exact .tryPure h.toChains _
    · exact .tryPure h.toChains _
  · exact .tryPure h.toChains _

/-- Whatever a tier does to select without spending summons, and whatever it makes of it, is within the
relation. -/
theorem select {t : Tier} (ht : t ≠ .summon) (s : Situation) : Keeps R (t.select e s).run := by
  by_cases hmention : t = .mention
  · rw [hmention]
    exact h.selectMention s
  · exact h.toAttended.select ht hmention s

/-! ## Answers, where their turns are within the relation -/

/-- A response is recorded beside the rows of its turn. -/
theorem recordResponse (channel : String) (message : Option Message) (trigger : Trigger)
    (s : Selection) (sent : Turn.Sent) :
    Keeps R (e.recordResponse channel message trigger s sent) := by
  unfold Engine.recordResponse
  extract_lets session
  have hsession : ∀ x, Keeps R (session x) := by
    intro x
    simp only [session]
    split
    · split
      · exact h.quietlyOnStore (Session.recordResponse_frames h.guiding.sessions _ _ _ _)
      · exact .pure h.toChains _
    · exact .pure h.toChains _
  split
  · exact .bind h.toChains (h.quietlyOnStore (Thread.recordTurn_frames h.guiding.threads _ _ _ _))
      hsession
  · exact hsession ()

/-- What comes of a selection is within the relation if its turn is. -/
theorem answer (hs : SettlingHidden view) {channel : String} {message : Option Message}
    {trigger : Trigger} {key : String} {depth : Nat} {s : Selection}
    (hturn : Keeps R (e.runTurn (requestOf channel message trigger key depth s)))
    (lease : Option Lease.Guard) :
    Keeps R (e.answer channel message trigger key depth s lease) := by
  refine .bind h.toChains hturn fun o => ?_
  refine .bind h.toChains (h.settleLease hs lease o) fun _ => ?_
  cases o.sent? with
  | none => exact .pure h.toChains _
  | some sent => exact .bind h.toChains (h.recordResponse _ _ _ _ _) fun _ => .pure h.toChains _

/-- So is the answer under a lease, if the relation allows the note of it. -/
theorem respondLeased (hs : SettlingHidden view) {channel : String} {message : Option Message}
    {trigger : Trigger} {key : String} {context : CoordinationContext} {s : Selection}
    (hanswering : ∀ tick m, Keeps R (note (.answering channel s.avatar.id tick m s.tier)))
    (hturn : Keeps R (e.runTurn (requestOf channel message trigger key context.depth s)))
    (lease : Option Lease.Guard) :
    Keeps R (e.respondLeased channel message trigger key context s lease) := by
  have hanswer : Keeps R (e.answer channel message trigger key context.depth s lease) :=
    h.answer hs hturn lease
  unfold Engine.respondLeased
  split
  · exact .bind h.toChains (hanswering _ _) fun _ => hanswer
  · exact hanswer

/-- Whatever is decided about a selection is within the relation, if it looks at no leases and allows
the notes. -/
theorem respond (hleases : Relation.leases.Hidden view) {channel : String} {message : Option Message}
    {trigger : Trigger} {key : String} {context : CoordinationContext} {s : Selection}
    (hanswering : ∀ tick m, Keeps R (note (.answering channel s.avatar.id tick m s.tier)))
    (hpassed : ∀ tick m, Keeps R (note (.passedOver channel s.avatar.id tick m)))
    (hturn : Keeps R (e.runTurn (requestOf channel message trigger key context.depth s))) :
    Keeps R (e.respond channel message trigger key context s) := by
  have hleased := h.respondLeased (.of_leases hleases) hanswering hturn
  refine .bind h.toChains (h.leaseSelection hleases _ _ _ _) fun decision => ?_
  split
  · exact .pure h.toChains _
  · split
    · exact .bind h.toChains (hpassed _ _) fun _ => .pure h.toChains _
    · exact .pure h.toChains _
  · exact hleased none
  · exact hleased (some _)

/-- And so is the turn of an avatar in a sweep. -/
theorem runAmbientTurn (hleases : Relation.leases.Hidden view) {sweep : Sweep} {a : Avatar}
    (hunprompted : Keeps R (note (.unprompted sweep a.id)))
    (hturn : Keeps R (e.runTurn (ambientRequest sweep a))) :
    Keeps R (e.runAmbientTurn sweep a).run := by
  refine .tryLook h.toChains fun _ => ?_
  refine .tryBind h.toChains (h.onStore (Lease.acquire?_frames hleases _ _ _ _ _ _)) fun guard => ?_
  cases guard with
  | none => exact .tryPure h.toChains _
  | some guard =>
    refine .tryLift h.toChains hunprompted fun _ => ?_
    refine .tryLift h.toChains hturn fun o => ?_
    exact .tryLift h.toChains (h.settleLease (.of_leases hleases) _ o) fun _ => .tryPure h.toChains _

end Engine.Guided

namespace Engine.Assisted

variable {e : Engine σ} {view : Tables → β} {R : World σ → World σ → Prop} (h : e.Assisted view R)

include h

theorem recordRows_frames (r : Turn.Request) (sent : Turn.Sent) :
    Frames view (e.recordRows r sent) := by
  refine (h.side.recordTurn _ _ _ _).bind fun _ => ?_
  refine (Activity.recordSent_frames h.side.sent _ _ _ _).bind fun _ => ?_
  exact Activity.recordBot_frames h.side.activity _ _ _

theorem recordTurn (r : Turn.Request) (sent : Turn.Sent) : Keeps R (e.recordTurn r sent) := by
  refine .bind h.toChains (h.quietlyOnStore (h.recordRows_frames r sent)) fun _ => ?_
  refine .bind h.toChains (h.updateCache e _) fun _ => ?_
  exact .quietly h.toChains (h.service (.touch _ _) id)

/-- What is recorded of a person who was heard is within the relation, too. -/
theorem hear (channel user : String) (now : Int) :
    Keeps R (quietly (TurnTaking.onStore (Activity.recordHuman channel user now)) : Act σ Unit) :=
  h.quietlyOnStore (Activity.recordHuman_frames h.side.activity h.side.humans channel user now)

end Engine.Assisted

namespace Engine.Aided

variable {e : Engine σ} {view : Tables → β} {R : World σ → World σ → Prop} (h : e.Aided view R)

include h

/-! ## Tiers that spend summons as well -/

/-- Credits are spent one ranked avatar after the other. -/
theorem spendCredits (s : Situation) (limit : Nat) (ranked : List Presence.Ranked) :
    Keeps R (Tier.spendCredits s limit ranked : Try σ _).run := by
  induction ranked generalizing limit with
  | nil => cases limit <;> exact .tryPure h.toChains _
  | cons r rest ih =>
    cases limit with
    | zero => exact .tryPure h.toChains _
    | succ limit =>
      have hspend := h.spending s.channelId r.avatarId
      refine .tryBind h.toChains (h.onStore hspend) fun spent => ?_
      split
      · exact .tryBind h.toChains (ih limit) fun _ => .tryPure h.toChains _
      · exact ih (limit + 1)

/-- Whatever a tier does to select, and whatever it makes of it, is within the relation. -/
theorem select (s : Situation) (t : Tier) : Keeps R (t.select e s).run := by
  by_cases ht : t = .summon
  · rw [ht]
    exact h.spendCredits s _ _
  · exact h.toGuided.select ht s

/-- Tiers are tried in order, up to the first that selects. -/
theorem selectFirst (s : Situation) (tiers : List Tier) : Keeps R (Tier.selectFirst e s tiers) := by
  induction tiers with
  | nil => exact .pure h.toChains _
  | cons t rest ih =>
    unfold Tier.selectFirst
    split
    · refine .bind h.toChains (h.select s t) fun selections => ?_
      split
      · exact .pure h.toChains _
      · exact ih
    · exact ih

theorem selectResponders (s : Situation) : Keeps R (e.selectResponders s) := h.selectFirst s _

end Engine.Aided

namespace Engine.Voiced

variable {e : Engine σ} {view : Tables → β} {R : World σ → World σ → Prop} (h : e.Voiced view R)

include h

/-- A text is asked for, and sent if there is one. -/
theorem generateAndSend (r : Turn.Request) : Keeps R (e.generateAndSend r) :=
  fun w => h.toAssisted.generateAndSend (h.generate _ _ _ _ w)

/-- From its admission on, a turn is within the relation if the relation looks at no responders and
allows the note that a text is asked for. -/
theorem runAdmitted (hresponders : Relation.responders.Hidden view) {r : Turn.Request}
    (hgenerating : Keeps R (note (.generating r))) : Keeps R (e.runAdmitted r) := by
  refine .bind h.toChains hgenerating fun _ => ?_
  refine .bind h.toChains (h.generateAndSend r) fun o => ?_
  extract_lets result
  have hresult : ∀ x, Keeps R (result x) := fun _ => .pure h.toChains _
  split
  · split
    · exact .bind h.toChains (h.quietlyOnStore (Gate.revoke_frames hresponders _ _)) hresult
    · exact hresult ()
  · exact .bind h.toChains (h.recordTurn r _) hresult

/-- So is what is done while the lock is held. -/
theorem runLocked (hresponders : Relation.responders.Hidden view) {r : Turn.Request}
    (hgenerating : Keeps R (note (.generating r))) : Keeps R (e.runLocked r) := by
  have hadmitted := h.runAdmitted hresponders hgenerating
  unfold Engine.runLocked
  split
  · exact hadmitted
  · refine .look h.toChains fun _ => ?_
    refine .bind h.toChains (h.onStore (Gate.enter_frames hresponders _ _ _)) fun admission => ?_
    split
    · exact hadmitted
    · exact .pure h.toChains _
    · exact .pure h.toChains _

end Engine.Voiced

end TurnTaking
