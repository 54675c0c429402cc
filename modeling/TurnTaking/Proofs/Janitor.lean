import TurnTaking.Janitor
import TurnTaking.Proofs.Store.Cell
import TurnTaking.Proofs.Store.Table
import TurnTaking.Proofs.Store.Transaction

/-!
# The janitor — what a pass removes, and who can tell

A pass removes from each of its tables the rows that meet the condition of that table, counts them, and
touches no other table (`Janitor.runs_pass`). Whoever asks later for a channel's open thread, for the avatar
that a person prefers or for the people seen within the time window does not count on such rows, and so is
answered as if there had been no pass (`Janitor.pass_unnoticed`). This needs that the time window does not
move back, and it does where its beginning overflows (`Janitor.pass_noticed`).
-/

namespace TurnTaking

open Store Store.Access Numeral

namespace Store

variable {α ρ : Type}

/-- Of the rows of a table those that meet a condition were removed, and so many were. -/
def Relation.Rid (r : Relation ρ) (condition : ρ → Bool) (t t' : Tables) (n : Nat) : Prop :=
  ∃ rows, r.get t = some rows ∧ r.get t' = some (rows.filter (!condition ·)) ∧
    n = rows.countP condition

/-- The table has so many rows less than it had, and no others. -/
def Relation.Lost (r : Relation ρ) (t t' : Tables) (n : Nat) : Prop :=
  ∃ rows rows', r.get t = some rows ∧ r.get t' = some rows' ∧ rows'.Sublist rows ∧
    rows'.length + n = rows.length

theorem Relation.Rid.lost {r : Relation ρ} {condition : ρ → Bool} {t t' : Tables} {n : Nat}
    (h : r.Rid condition t t' n) : r.Lost t t' n := by
  obtain ⟨rows, hrows, hleft, rfl⟩ := h
  refine ⟨rows, _, hrows, hleft, List.filter_sublist, ?_⟩
  have hall := List.length_eq_countP_add_countP condition (l := rows)
  rw [← List.countP_eq_length_filter, hall, Nat.add_comm]
  simp only [Bool.not_eq_true, Bool.decide_eq_false]

namespace Access

/-- Through no handle does the access come to one thing on some tables and to another on others. -/
def AnswersAlike (a : Access α) (t t' : Tables) : Prop :=
  ∀ handle : Store, a.outcome { handle with tables := t' } = a.outcome { handle with tables := t }

/-- A query is answered alike where it makes the same of the rows. -/
theorem AnswersAlike.query {r : Relation ρ} {f : List ρ → Except StatementFault α} {t t' : Tables}
    {rows rows' : List ρ} (hrows : r.get t = some rows) (hrows' : r.get t' = some rows')
    (hf : f rows' = f rows) : AnswersAlike (query r f) t t' := by
  intro handle
  simp only [outcome, Access.query, ExceptT.run_mk, StateT.run, attempt]
  -- whether the statement is taken does not depend on the tables
  cases handle.poisoned with
  | true => rfl
  | false =>
    rcases handle.outages with _ | ⟨_ | reason, rest⟩
    · simp only [Bool.false_eq_true, if_false, onRows, hrows, hrows', hf]
      cases f rows <;> rfl
    · simp only [Bool.false_eq_true, if_false, onRows, hrows, hrows', hf]
      cases f rows <;> rfl
    · rfl

end Access

end Store

namespace Janitor

/-- What a pass at some time does to the tables, and what it reports. -/
structure Sweeps (c : Config) (now : Int) (t t' : Tables) (report : Report) : Prop where
  locks : Relation.locks.Rid (fun r => r.expiresAt.below (.number now)) t t' report.locks
  leases : Relation.leases.Rid (fun r => r.expiresAt.below (.number now)) t t' report.leases
  threads : Relation.threads.Rid
    (fun r => r.expiresAt.upTo (.number now) || r.turnsRemaining.upTo (.number 0)) t t' report.threads
  responders : Relation.responders.Rid
    (fun r => r.createdAt.below (.number (wrapped (now - c.janitor.responderRetentionMs)))) t t'
    report.responders
  affinities : Relation.affinities.Rid (fun r => r.expiresAt.upTo (.number now)) t t' report.affinities
  avatarMessages : Relation.sent.Rid
    (fun r => r.sentAt.below (.number (wrapped (now - c.janitor.avatarMessageRetentionMs)))) t t'
    report.avatarMessages
  sessions : Relation.sessions.Rid
    (fun r => r.lastActivityAt.below (.number (wrapped (now - c.coordination.affinityTtlMs)))) t t'
    report.sessions
  humanActivity : Relation.humans.Rid
    (fun r => r.lastSeenAt.below (.number (wrapped (now - c.ambient.activeHumanWindowMs)))) t t'
    report.humanActivity
  presence : t'.presence = t.presence
  ticks : t'.ticks = t.ticks
  activity : t'.activity = t.activity
  topics : t'.topics = t.topics

/-- A pass reports every statement that fails. -/
theorem reports_pass (c : Config) (now : Int) : Reports (pass c now) :=
  (Reports.change _ _).bind fun _ => (Reports.change _ _).bind fun _ => (Reports.change _ _).bind fun _ =>
  (Reports.change _ _).bind fun _ => (Reports.change _ _).bind fun _ => (Reports.change _ _).bind fun _ =>
  (Reports.change _ _).bind fun _ => (Reports.change _ _).bind fun _ => .pure _

/-- A pass that comes to its end has removed what there was to remove. -/
theorem runs_pass {c : Config} {now : Int} {report : Report} {s s' : Store}
    (h : (pass c now).Runs s (.ok report) s') : Sweeps c now s.tables s'.tables report := by
  obtain ⟨_, s₁, hlocks, h⟩ := runs_bind_ok h
  obtain ⟨_, s₂, hleases, h⟩ := runs_bind_ok h
  obtain ⟨_, s₃, hthreads, h⟩ := runs_bind_ok h
  obtain ⟨_, s₄, hresponders, h⟩ := runs_bind_ok h
  obtain ⟨_, s₅, haffinities, h⟩ := runs_bind_ok h
  obtain ⟨_, s₆, hsent, h⟩ := runs_bind_ok h
  obtain ⟨_, s₇, hsessions, h⟩ := runs_bind_ok h
  obtain ⟨_, s₈, hhumans, h⟩ := runs_bind_ok h
  -- the eight statements, each on a table of its own
  obtain ⟨rfl, rfl⟩ := runs_pure_ok h
  obtain ⟨locks, h₁, rfl, hs₁⟩ := runs_change_ok hlocks
  obtain ⟨leases, h₂, rfl, hs₂⟩ := runs_change_ok hleases
  obtain ⟨threads, h₃, rfl, hs₃⟩ := runs_change_ok hthreads
  obtain ⟨responders, h₄, rfl, hs₄⟩ := runs_change_ok hresponders
  obtain ⟨affinities, h₅, rfl, hs₅⟩ := runs_change_ok haffinities
  obtain ⟨sent, h₆, rfl, hs₆⟩ := runs_change_ok hsent
  obtain ⟨sessions, h₇, rfl, hs₇⟩ := runs_change_ok hsessions
  obtain ⟨humans, h₈, rfl, hs₈⟩ := runs_change_ok hhumans
  -- each statement finds its table as it was before the pass, and no later one touches it
  rw [hs₁] at hs₂ h₂
  rw [hs₂] at hs₃ h₃
  rw [hs₃] at hs₄ h₄
  rw [hs₄] at hs₅ h₅
  rw [hs₅] at hs₆ h₆
  rw [hs₆] at hs₇ h₇
  rw [hs₇] at hs₈ h₈
  rw [hs₈]
  exact {
    locks := ⟨locks, h₁, rfl, rfl⟩
    leases := ⟨leases, h₂, rfl, rfl⟩
    threads := ⟨threads, h₃, rfl, rfl⟩
    responders := ⟨responders, h₄, rfl, rfl⟩
    affinities := ⟨affinities, h₅, rfl, rfl⟩
    avatarMessages := ⟨sent, h₆, rfl, rfl⟩
    sessions := ⟨sessions, h₇, rfl, rfl⟩
    humanActivity := ⟨humans, h₈, rfl, rfl⟩
    presence := rfl
    ticks := rfl
    activity := rfl
    topics := rfl }

end Janitor

/-! ## Those who ask later -/

/-- Each person prefers one avatar in each channel. -/
def Store.Tables.AffinityKeyed (t : Tables) : Prop :=
  ((t.affinities.getD []).map AffinityRow.key).Nodup

instance (t : Tables) : Decidable t.AffinityKeyed := inferInstanceAs (Decidable (List.Nodup _))

section

variable {now later : Int} {t t' : Tables} {n : Nat}

/-- A thread that is open later was not removed. -/
theorem Thread.active?_unnoticed (hle : now ≤ later) (channel : String)
    (h : Relation.threads.Rid
      (fun r => r.expiresAt.upTo (.number now) || r.turnsRemaining.upTo (.number 0)) t t' n) :
    AnswersAlike (active? channel later) t t' := by
  obtain ⟨rows, hrows, hleft, -⟩ := h
  refine .query hrows hleft ?_
  rw [List.filter_filter]
  congr 3
  refine List.filter_congr fun r _ => ?_
  cases hopen : rowIsOpen later r with
  | false => rw [Bool.and_false, Bool.false_and]
  | true =>
    rw [rowIsOpen, Bool.and_eq_true] at hopen
    have htime := Cell.below_of_le hle hopen.2
    simp only [Cell.upTo_eq, hopen.1, htime, Bool.not_true, Bool.or_false, Bool.not_false, Bool.and_true]

/-- Nor was a preference that lasts until later. -/
theorem Affinity.find?_unnoticed (hle : now ≤ later) (channel user : String)
    (hkeyed : t.AffinityKeyed)
    (h : Relation.affinities.Rid (fun r => r.expiresAt.upTo (.number now)) t t' n) :
    AnswersAlike (find? channel user later) t t' := by
  obtain ⟨rows, hrows, hleft, -⟩ := h
  have haffinities : t.affinities = some rows := hrows
  have hkeys : (rows.map AffinityRow.key).Nodup := by
    rwa [Tables.AffinityKeyed, haffinities] at hkeyed
  refine .query hrows hleft ?_
  rw [Table.lookup_filter_of_nodup hkeys, Option.filter_filter]
  congr 3
  funext r
  cases hlasts : (Cell.number later).below r.expiresAt with
  | false => rw [Bool.and_false]
  | true =>
    have htime := Cell.below_of_le hle hlasts
    simp only [Cell.upTo_eq, htime, Bool.not_true, Bool.not_false, Bool.and_true]

/-- Nor was a person who counts as active later. -/
theorem Activity.activeHumans_unnoticed {before since : Int} (hle : before ≤ since) (channel : String)
    (h : Relation.humans.Rid (fun r => r.lastSeenAt.below (.number before)) t t' n) :
    AnswersAlike (activeHumans channel since) t t' := by
  obtain ⟨rows, hrows, hleft, -⟩ := h
  refine .query hrows hleft (congrArg Except.ok (Table.countP_filter (fun r hactive => ?_) rows))
  rw [Bool.and_eq_true] at hactive
  rw [← Cell.upTo_eq]
  exact Cell.upTo_of_le hle hactive.2

end

/-- A pass in which no statement fails comes to a report. Later it makes no difference to which thread of a
channel is open, which avatar a person prefers and, unless the time window has moved back, how many people are
active; presence, ticks, activity and topics are as they were; and each other table lost as many rows as are
reported. -/
theorem Janitor.pass_unnoticed {c : Config} {now later : Int} (hle : now ≤ later) {s s' : Store}
    {x : Except Fault Report} (hkeyed : s.tables.AffinityKeyed) (hrun : (pass c now).Runs s x s')
    (hsound : s'.failures = s.failures) :
    let since := wrapped (later - c.ambient.activeHumanWindowMs)
    (∀ channel, AnswersAlike (Thread.active? channel later) s.tables s'.tables) ∧
      (∀ channel user, AnswersAlike (Affinity.find? channel user later) s.tables s'.tables) ∧
      (wrapped (now - c.ambient.activeHumanWindowMs) ≤ since →
        ∀ channel, AnswersAlike (Activity.activeHumans channel since) s.tables s'.tables) ∧
      s'.tables.presence = s.tables.presence ∧ s'.tables.ticks = s.tables.ticks ∧
      s'.tables.activity = s.tables.activity ∧ s'.tables.topics = s.tables.topics ∧
      ∃ report, x = .ok report ∧
        Relation.locks.Lost s.tables s'.tables report.locks ∧
        Relation.leases.Lost s.tables s'.tables report.leases ∧
        Relation.threads.Lost s.tables s'.tables report.threads ∧
        Relation.responders.Lost s.tables s'.tables report.responders ∧
        Relation.affinities.Lost s.tables s'.tables report.affinities ∧
        Relation.sent.Lost s.tables s'.tables report.avatarMessages ∧
        Relation.sessions.Lost s.tables s'.tables report.sessions ∧
        Relation.humans.Lost s.tables s'.tables report.humanActivity := by
  cases x with
  | error f =>
    have hcounted := (reports_pass c now).fault hrun
    omega
  | ok report =>
    have h := runs_pass hrun
    exact ⟨fun channel => Thread.active?_unnoticed hle channel h.threads,
      fun channel user => Affinity.find?_unnoticed hle channel user hkeyed h.affinities,
      fun hwindow channel => Activity.activeHumans_unnoticed hwindow channel h.humanActivity,
      h.presence, h.ticks, h.activity, h.topics, report, rfl, h.locks.lost, h.leases.lost,
      h.threads.lost, h.responders.lost, h.affinities.lost, h.avatarMessages.lost, h.sessions.lost,
      h.humanActivity.lost⟩

/-- Two threads and two preferences, of which one each ends now, and two people, of whom one was seen just
within the time window. -/
def Janitor.sample : Tables :=
  let window := Config.standard.ambient.activeHumanWindowMs
  { Tables.empty with
    threads := some [(⟨"t1", "lobby", ["ada"], none, 2, 0, 1001⟩ : Thread).toRow,
      (⟨"t2", "quay", ["bob"], none, 2, 0, 1000⟩ : Thread).toRow]
    affinities := some [⟨"lobby", "una", "ada", .number 1001⟩, ⟨"lobby", "vic", "ada", .number 1000⟩]
    humans := some [⟨"lobby", "una", .number (1000 - window)⟩, ⟨"lobby", "vic", .number (999 - window)⟩] }

/-- What ends now is removed, and what a reader still counts on stays. -/
theorem Janitor.pass_unnoticed_brink :
    let s := Store.ofTables Janitor.sample
    let s' := (pass .standard 1000).after s
    Janitor.sample.AffinityKeyed ∧ s'.failures = s.failures ∧
      AnswersAlike (Thread.active? "lobby" 1000) s.tables s'.tables ∧
      AnswersAlike (Affinity.find? "lobby" "vic" 1000) s.tables s'.tables ∧
      AnswersAlike (Activity.activeHumans "lobby" (1000 - Config.standard.ambient.activeHumanWindowMs))
        s.tables s'.tables ∧
      (pass .standard 1000).outcome s = .ok ⟨0, 0, 1, 0, 1, 0, 0, 1⟩ ∧
      Relation.threads.Lost s.tables s'.tables 1 := by
  intro s s'
  have hwindow : wrapped (1000 - Config.standard.ambient.activeHumanWindowMs) =
      1000 - Config.standard.ambient.activeHumanWindowMs := wrapped_eq (by decide)
  have hkeyed : Janitor.sample.AffinityKeyed := by decide
  have hsound : s'.failures = s.failures := rfl
  have houtcome : (pass .standard 1000).outcome s = .ok ⟨0, 0, 1, 0, 1, 0, 0, 1⟩ := rfl
  obtain ⟨hactive, hfind, hhumans, -, -, -, -, report, hreport, -, -, hthreads, -⟩ :=
    pass_unnoticed (Int.le_refl 1000) hkeyed (runs_after (pass .standard 1000) s) hsound
  obtain rfl := Except.ok.inj (houtcome.symm.trans hreport)
  have hpeople := hhumans (Int.le_refl _) "lobby"
  rw [hwindow] at hpeople
  exact ⟨hkeyed, hsound, hactive "lobby", hfind "lobby" "vic", hpeople, houtcome, hthreads⟩

/-- Where the beginning of the time window overflows within a millisecond, it moves back behind a person whom a
pass has just removed. -/
theorem Janitor.pass_noticed :
    let window : Int := -(0x7fffffffffffffff - 1700000000000)
    let c : Config := { Config.standard with
      ambient := { Config.Ambient.standard with activeHumanWindowMs := window } }
    let s := Store.ofTables { Tables.empty with humans := some [⟨"lobby", "una", .number 1700000000000⟩] }
    let s' := (pass c 1700000000000).after s
    let since := wrapped (1700000000001 - window)
    s.tables.AffinityKeyed ∧ s'.failures = s.failures ∧
      (Activity.activeHumans "lobby" since).outcome s = .ok 1 ∧
      (Activity.activeHumans "lobby" since).outcome s' = .ok 0 ∧
      ¬ AnswersAlike (Activity.activeHumans "lobby" since) s.tables s'.tables := by
  intro window c s s' since
  have hbefore : (Activity.activeHumans "lobby" since).outcome s = .ok 1 := rfl
  have hafter : (Activity.activeHumans "lobby" since).outcome s' = .ok 0 := rfl
  have hkeyed : s.tables.AffinityKeyed := List.nodup_nil
  refine ⟨hkeyed, rfl, hbefore, hafter, fun halike => ?_⟩
  have hsame : Except.ok 0 = Except.ok 1 := halike s
  exact absurd (Except.ok.inj hsame) (by decide)

end TurnTaking
