import TurnTaking.Activity
import TurnTaking.Proofs.Gate
import TurnTaking.Proofs.Presence
import TurnTaking.Thread

/-!
# Transactions — recording a person, giving a role, admitting, opening a thread

Four operations write in several statements, or write what an earlier statement of theirs allowed: a
person's message goes to two tables, a role is taken from one avatar before it is given to another, an
admission is counted before it is added, and a thread is removed before another takes its place. Each is a
group of statements, and has an account of all that it does (`Transaction.Done`). A call has done that, or
it ends in a fault and has done nothing: no part of the account is left behind, wherever the call failed
(`Transaction.all_or_nothing`).
-/

namespace TurnTaking

open Store Store.Access

/-! ## What the operations do -/

namespace Activity

/-- The account of a person's message: the channel has heard it, and the person was seen. -/
def Heard (channel user : String) (now : Int) (before after : Tables) : Prop :=
  ∃ rows people, before.activity = some rows ∧ before.humans = some people ∧
    after = { before with
      activity := some (Table.put ActivityRow.key ⟨some channel, .number now, some now, none, none⟩
        (fun r => { r with
          lastMessageAt := r.lastMessageAt.greater now, lastHumanAt := laterOf r.lastHumanAt now }) rows)
      humans := some (Table.put HumanRow.key ⟨channel, user, .number now⟩
        (fun r => { r with lastSeenAt := r.lastSeenAt.greater now }) people) }

theorem transactional_recordHuman (channel user : String) (now : Int) :
    Transactional (recordHuman channel user now) :=
  ((Reports.change _ _).bind fun _ => .change _ _).atomically

/-- A person's message that was recorded is heard. -/
theorem heard_of_runs {channel user : String} {now : Int} {x : Unit} {s s' : Store}
    (h : (recordHuman channel user now).Runs s (.ok x) s') :
    Heard channel user now s.tables s'.tables := by
  obtain ⟨s₁, s₂, hbegin, hact, hend⟩ := runs_atomically_ok h
  obtain ⟨_, s₃, hchannel, hperson⟩ := runs_bind_ok hact
  obtain ⟨rows, hrows, -, hchanged⟩ := runs_change_ok hchannel
  obtain ⟨people, hpeople, -, hseen⟩ := runs_change_ok hperson
  rw [hbegin] at hrows hchanged
  -- the second statement finds the people as they were before the first
  rw [hchanged] at hpeople hseen
  exact ⟨rows, people, hrows, hpeople, hend.trans hseen⟩

end Activity

namespace Presence

/-- The account of a role that is given or taken away. -/
def Cast (channel avatar : String) (given : Option Role) (now : Int) (before after : Tables) : Prop :=
  ∃ rows, before.presence = some rows ∧
    after = { before with
      presence := some (Mutation.apply ⟨channel, avatar, .role given now⟩ rows) }

/-- A role that was set is cast. -/
theorem cast_of_runs {channel avatar : String} {given : Option Role} {now : Int} {x : Unit} {s s' : Store}
    (h : (setRole channel avatar given now).Runs s (.ok x) s') :
    Cast channel avatar given now s.tables s'.tables := by
  have hrun : (Mutation.access ⟨channel, avatar, .role given now⟩).Runs s (.ok none) s' := h.bind rfl
  obtain ⟨rows, hrows, -, htables⟩ := (Mutation.rewrites _).result hrun
  exact ⟨rows, hrows, htables⟩

end Presence

namespace Gate

theorem transactional_enter (c : Config.Gate) (r : Request) (now : Int) : Transactional (enter c r now) := by
  have hadmit : Reports (admitResponder c r now) := by
    refine (Reports.query _ _).bind fun admitted => ?_
    split
    · exact .pure _
    · split
      · exact .pure _
      · exact (Reports.statement _ _).bind fun _ => .pure _
  refine Reports.atomically ?_
  extract_lets cooldown
  split
  · refine (Reports.query _ _).bind fun last => ?_
    split
    · exact .pure _
    · exact hadmit
  · exact hadmit

end Gate

namespace Thread

/-- The account of a thread that is opened: its id was that of no thread of another channel, and it stands
in place of all threads of its own. -/
def Opened (thread : Thread) (before after : Tables) : Prop :=
  ∃ rows, before.threads = some rows ∧
    (∀ r ∈ rows, r.threadId = some thread.id → r.channelId = thread.channelId) ∧
    after = { before with
      threads := some (rows.filter (·.channelId ≠ thread.channelId) ++ [thread.toRow]) }

theorem transactional_start (terms : Terms) (id channel : String) (participants : List String)
    (lastSpeaker : Option String) (now : Int) :
    Transactional (start terms id channel participants lastSpeaker now) :=
  ((Reports.change _ _).bind fun _ => .statement _ _).atomically.map _

/-- A thread that was started is open. -/
theorem opened_of_runs {terms : Terms} {id channel : String} {participants : List String}
    {lastSpeaker : Option String} {now : Int} {thread : Thread} {s s' : Store}
    (h : (start terms id channel participants lastSpeaker now).Runs s (.ok thread) s') :
    thread = ⟨id, channel, participants, lastSpeaker, terms.turns, now, Numeral.wrapped (now + terms.ttl)⟩ ∧
      Opened thread s.tables s'.tables := by
  obtain ⟨_, s₀, hgroup, hret⟩ := runs_bind_ok h
  obtain ⟨rfl, rfl⟩ := runs_pure_ok hret
  refine ⟨rfl, ?_⟩
  obtain ⟨s₁, s₂, hbegin, hact, hend⟩ := runs_atomically_ok hgroup
  obtain ⟨_, s₃, hremove, hadd⟩ := runs_bind_ok hact
  obtain ⟨rows, hrows, -, hremoved⟩ := runs_change_ok hremove
  obtain ⟨others, hothers, hfree, hadded⟩ := runs_insert hadd
  rw [hbegin] at hrows hremoved
  rw [hremoved] at hothers hadded
  obtain rfl := Option.some.inj hothers
  refine ⟨rows, hrows, fun r hr hid => ?_, ?_⟩
  · by_cases hchannel : r.channelId = channel
    · exact hchannel
    · -- a row of another channel is still there, so that its id is not free
      rw [Table.holds, List.any_eq_false] at hfree
      have hkept : r ∈ (Table.remove (fun r : ThreadRow => r.channelId = channel) rows).2 :=
        List.mem_filter.mpr ⟨hr, by simpa using hchannel⟩
      exact absurd (decide_eq_true hid) (hfree r hkept)
  · rw [hend, hadded]
    simp [Relation.threads, Table.remove]

end Thread

/-! ## All or nothing -/

/-- An operation that takes effect as a whole. -/
inductive Transaction where
  | humanMessage (channel user : String) (now : Int)
  | roleChange (channel avatar : String) (given : Option Presence.Role) (now : Int)
  | admission (c : Config.Gate) (r : Gate.Request) (now : Int)
  | opening (terms : Thread.Terms) (id channel : String) (participants : List String)
      (lastSpeaker : Option String) (now : Int)

namespace Transaction

/-- What the operation comes to. -/
def Answer : Transaction → Type
  | humanMessage .. => Unit
  | roleChange .. => Unit
  | admission .. => Gate.Admission
  | opening .. => Thread

/-- The operation as a program. -/
def access : (t : Transaction) → Access t.Answer
  | humanMessage channel user now => Activity.recordHuman channel user now
  | roleChange channel avatar given now => Presence.setRole channel avatar given now
  | admission c r now => Gate.enter c r now
  | opening terms id channel participants lastSpeaker now =>
    Thread.start terms id channel participants lastSpeaker now

/-- The account of the operation: its answer, and all that it does to the tables. -/
def Done : (t : Transaction) → t.Answer → Tables → Tables → Prop
  | humanMessage channel user now, _ => Activity.Heard channel user now
  | roleChange channel avatar given now, _ => Presence.Cast channel avatar given now
  | admission c r now, a => Gate.AnswersRows c.maxRespondersPerTrigger r now a
  | opening terms id channel participants lastSpeaker now, thread => fun before after =>
    thread = ⟨id, channel, participants, lastSpeaker, terms.turns, now, Numeral.wrapped (now + terms.ttl)⟩ ∧
      thread.Opened before after

/-- Every operation is a transaction. -/
theorem transactional (t : Transaction) : Transactional t.access :=
  match t with
  | humanMessage .. => Activity.transactional_recordHuman _ _ _
  | roleChange .. => Presence.transactional_setRole _ _ _ _
  | admission .. => Gate.transactional_enter _ _ _
  | opening .. => Thread.transactional_start _ _ _ _ _ _

/-- An operation that succeeds is done. -/
theorem done_of_runs {t : Transaction} {x : t.Answer} {s s' : Store}
    (h : t.access.Runs s (.ok x) s') : t.Done x s.tables s'.tables := by
  cases t with
  | humanMessage channel user now => exact Activity.heard_of_runs h
  | roleChange channel avatar given now => exact Presence.cast_of_runs h
  | admission c r now =>
    rcases Gate.runs_enter_rows h with ⟨a, ha, hanswer⟩ | ⟨⟨_, he⟩, -⟩
    · obtain rfl := Except.ok.inj ha
      exact hanswer
    · cases he
  | opening terms id channel participants lastSpeaker now => exact Thread.opened_of_runs h

/-- An operation is done without a failed statement, or a statement of it failed, and then it ends in a fault
and every table is as it was before. -/
theorem all_or_nothing (t : Transaction) (s : Store) :
    (∃ x, t.access.outcome s = .ok x ∧ (t.access.after s).failures = s.failures ∧
        t.Done x s.tables (t.access.after s).tables) ∨
      ∃ f, t.access.outcome s = .error f ∧ s.failures < (t.access.after s).failures ∧
        (t.access.after s).tables = s.tables := by
  rcases t.transactional.cases s with ⟨x, hrun, hx, hfailures⟩ | hfault
  · exact Or.inl ⟨x, hx, hfailures, done_of_runs hrun⟩
  · exact Or.inr hfault

/-- A person's message is recorded in two tables. Where the second is missing, the first is left alone. -/
example :
    let s := Store.ofTables { Tables.empty with humans := none }
    (Activity.recordHuman "lobby" "ann" 5).outcome s =
        .error (.statement (.missingTable "human_activity")) ∧
      ((Activity.recordHuman "lobby" "ann" 5).after s).tables = s.tables :=
  ⟨rfl, rfl⟩

/-- The thread of a channel is not replaced by one whose id is that of a thread elsewhere. -/
example :
    let old : Thread := ⟨"t1", "lobby", ["ada"], none, 4, 0, 9⟩
    let other : Thread := ⟨"t2", "attic", ["bob"], none, 4, 0, 9⟩
    let s := Store.ofTables { Tables.empty with threads := some [old.toRow, other.toRow] }
    let opening := Thread.start ⟨4, 9⟩ "t2" "lobby" ["ada", "bob"] none 5
    opening.outcome s = .error (.statement (.duplicateKey "conversation_threads.thread_id")) ∧
      (opening.after s).tables = s.tables :=
  ⟨rfl, rfl⟩

end Transaction

end TurnTaking
