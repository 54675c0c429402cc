import TurnTaking.Proofs.Gate
import TurnTaking.Proofs.Store.Blind

/-!
# Trigger keys — which triggers are told apart

The gate knows a trigger by its key and by nothing else: what goes on under one key is not seen under another
(`Gate.Dealings.unseen`, `Gate.blind_enter`). Sweeps have keys of their own, each its own. Messages have too,
unless the name of a channel goes on, behind a colon, where the name of another ends (`messageKey_eq_iff`).
So triggers with different keys do not get in each other's way (`triggers_apart`), but messages of two
channels may share one key, and then the responders to one count against the other
(`messages_share_responders`).
-/

namespace TurnTaking

open Store Store.Access

namespace Trigger

/-! ## Keys -/

/-- Where two texts with a mark in them are the same, the mark is at the same place, or one text has both
marks. -/
theorem append_cons_eq_append_cons_iff {α : Type} {x : α} {a b c d : List α} :
    a ++ x :: b = c ++ x :: d ↔
      a = c ∧ b = d ∨ (∃ s, c = a ++ x :: s ∧ b = s ++ x :: d) ∨ ∃ s, a = c ++ x :: s ∧ d = s ++ x :: b := by
  rw [List.append_eq_append_iff]
  constructor
  · rintro (⟨s, rfl, hb⟩ | ⟨s, rfl, hd⟩)
    · cases s with
      | nil => exact .inl ⟨(List.append_nil a).symm, (List.cons.inj hb).2⟩
      | cons y s =>
        obtain ⟨rfl, hrest⟩ := List.cons.inj hb
        exact .inr (.inl ⟨s, rfl, hrest⟩)
    · cases s with
      | nil => exact .inl ⟨List.append_nil c, (List.cons.inj hd).2.symm⟩
      | cons y s =>
        obtain ⟨rfl, hrest⟩ := List.cons.inj hd
        exact .inr (.inr ⟨s, rfl, hrest⟩)
  · rintro (⟨rfl, rfl⟩ | ⟨s, rfl, rfl⟩ | ⟨s, rfl, rfl⟩)
    · exact .inl ⟨[], (List.append_nil a).symm, rfl⟩
    · exact .inl ⟨x :: s, rfl, rfl⟩
    · exact .inr ⟨x :: s, rfl, rfl⟩

/-- The key of a message, character by character. -/
theorem toList_messageKey (channel message : String) :
    (messageKey channel message).toList = "msg:".toList ++ (channel.toList ++ ':' :: message.toList) := by
  simp only [messageKey, toString, String.toList_append, List.append_assoc]
  rfl

/-- The key of a sweep, character by character. -/
theorem toList_ambientKey (channel : String) (tick : Nat) :
    (ambientKey channel tick).toList = "amb:".toList ++ (channel.toList ++ ':' :: tick.repr.toList) := by
  simp only [ambientKey, toString, String.toList_append, List.append_assoc]
  rfl

/-- The name of the second channel goes on where that of the first ends, behind a colon, and with it begins
the id of the message in the first. -/
def Overlap (channel message channel' message' : String) : Prop :=
  ∃ between, channel' = channel ++ ":" ++ between ∧ message = between ++ ":" ++ message'

/-- The messages are different, and are taken for the same. -/
def Confused (channel message channel' message' : String) : Prop :=
  Overlap channel message channel' message' ∨ Overlap channel' message' channel message

section

variable {channel message channel' message' : String} {tick tick' : Nat}

/-- Two pairs overlap just if the longer channel takes in how the other message begins. -/
theorem overlap_iff : Overlap channel message channel' message' ↔
    ∃ s, channel'.toList = channel.toList ++ ':' :: s ∧ message.toList = s ++ ':' :: message'.toList := by
  constructor
  · rintro ⟨between, rfl, rfl⟩
    exact ⟨between.toList, by simp, by simp⟩
  · rintro ⟨s, hchannel, hmessage⟩
    refine ⟨String.ofList s, String.toList_inj.mp ?_, String.toList_inj.mp ?_⟩
    · simp [hchannel]
    · simp [hmessage]

/-- Messages share a key if they are the same, or are taken for the same. -/
theorem messageKey_eq_iff : messageKey channel message = messageKey channel' message' ↔
    channel = channel' ∧ message = message' ∨ Confused channel message channel' message' := by
  rw [← String.toList_inj, toList_messageKey, toList_messageKey, List.append_cancel_left_eq,
    append_cons_eq_append_cons_iff, String.toList_inj, String.toList_inj, Confused, overlap_iff, overlap_iff]

/-- No digit is a colon. -/
theorem colon_not_mem_repr (n : Nat) : ':' ∉ n.repr.toList := by
  rw [Nat.repr_eq_ofList_toDigits, String.toList_ofList]
  intro hcolon
  have hdigit := Nat.isDigit_of_mem_toDigits (by decide) (by decide) hcolon
  cases hdigit

/-- Sweeps share a key if they are the same. -/
theorem ambientKey_eq_iff : ambientKey channel tick = ambientKey channel' tick' ↔
    channel = channel' ∧ tick = tick' := by
  rw [← String.toList_inj, toList_ambientKey, toList_ambientKey, List.append_cancel_left_eq,
    append_cons_eq_append_cons_iff, String.toList_inj, String.toList_inj]
  have hrepr : tick.repr = tick'.repr ↔ tick = tick' := by
    rw [Nat.repr_eq_ofList_toDigits, Nat.repr_eq_ofList_toDigits, String.ofList_inj]
    refine ⟨fun hdigits => ?_, fun htick => by rw [htick]⟩
    have hread := congrArg (Nat.ofDigitChars 10 · 0) hdigits
    simpa [Nat.ofDigitChars_toDigits] using hread
  rw [hrepr]
  -- where one name goes on behind the colon, the other key has a colon among the digits of its tick
  refine or_iff_left ?_
  rintro (⟨s, -, htick⟩ | ⟨s, -, htick⟩)
  · refine colon_not_mem_repr tick ?_
    rw [htick]
    exact List.mem_append_right _ List.mem_cons_self
  · refine colon_not_mem_repr tick' ?_
    rw [htick]
    exact List.mem_append_right _ List.mem_cons_self

/-- A message and a sweep never share a key. -/
theorem messageKey_ne_ambientKey : messageKey channel message ≠ ambientKey channel' tick := by
  intro h
  have hchars := congrArg String.toList h
  rw [toList_messageKey, toList_ambientKey] at hchars
  obtain ⟨hfirst, -⟩ := List.cons.inj hchars
  exact absurd hfirst (by decide)

end

end Trigger

/-! ## What the gate sees -/

/-- The tables without the admissions under one trigger key. -/
def Store.Tables.withoutKey (key : String) (t : Tables) : Tables :=
  { t with responders := t.responders.map (List.filter (·.triggerKey ≠ key)) }

namespace Gate

/-- Dealings with the gate under a trigger key: avatars enter, and admissions are taken back, each through any
handle on the tables, in any channel, on any terms and with any outcome. -/
inductive Dealings (key : String) : Tables → Tables → Prop where
  | none (t : Tables) : Dealings key t t
  | enter {t : Tables} {s s' : Store} {x : Except Fault Admission} {c : Config.Gate} {r : Request} {now : Int}
      (earlier : Dealings key t s.tables) (hkey : r.triggerKey = key) (run : (enter c r now).Runs s x s') :
      Dealings key t s'.tables
  | revoke {t : Tables} {s s' : Store} {x : Except Fault Unit} {avatar : String}
      (earlier : Dealings key t s.tables) (run : (revoke key avatar).Runs s x s') : Dealings key t s'.tables

/-- An admission is unseen under other keys. -/
theorem enter_unseen {c : Config.Gate} {r : Request} {now : Int} {x : Except Fault Admission} {s s' : Store}
    (h : (enter c r now).Runs s x s') :
    s'.tables.withoutKey r.triggerKey = s.tables.withoutKey r.triggerKey := by
  rcases runs_enter_rows h with ⟨a, -, ⟨-, -, rows, hrows, -, htables⟩ | ⟨-, htables⟩⟩ | ⟨-, htables⟩
  · have hresponders : s.tables.responders = some rows := hrows
    have hadmitted : (rows ++ [admittedRow r now]).filter (·.triggerKey ≠ r.triggerKey) =
        rows.filter (·.triggerKey ≠ r.triggerKey) := by
      simp [admittedRow]
    rw [htables, Tables.withoutKey, Tables.withoutKey, hresponders, Option.map_some, ← hadmitted]
    rfl
  · rw [htables]
  · rw [htables]

/-- A revocation is unseen under other keys. -/
theorem frames_revoke (key avatar : String) : Frames (Tables.withoutKey key) (revoke key avatar) := by
  refine Frames.bind (Frames.change_of fun t rows hrows => ?_) fun _ => .pure _
  have hresponders : t.responders = some rows := hrows
  have hothers : (Table.remove (fun r => r.key = (key, avatar)) rows).2.filter (·.triggerKey ≠ key) =
      rows.filter (·.triggerKey ≠ key) := by
    rw [Table.remove, List.filter_filter]
    refine List.filter_congr fun r _ => ?_
    by_cases hkey : r.triggerKey = key
    · simp [hkey]
    · simp [hkey, ResponderRow.key]
  rw [Tables.withoutKey, Tables.withoutKey, hresponders, Option.map_some, ← hothers]
  rfl

/-- What goes on under a key is seen under no other. -/
theorem Dealings.unseen {key : String} {t t' : Tables} (h : Dealings key t t') :
    t'.withoutKey key = t.withoutKey key := by
  induction h with
  | none => rfl
  | enter earlier hkey run ih =>
    subst hkey
    exact (enter_unseen run).trans ih
  | revoke earlier run ih => exact ((frames_revoke key _) _ _ _ run).view.trans ih

section

variable {key : String} {r : Request}

/-- The responders to a trigger are among the rows that are not under another key. -/
theorem admitted_shown (hkey : r.triggerKey ≠ key) (rows : List ResponderRow) :
    (rows.filter (·.triggerKey ≠ key)).filter (·.triggerKey = r.triggerKey) =
      rows.filter (·.triggerKey = r.triggerKey) := by
  rw [List.filter_filter]
  refine List.filter_congr fun row _ => ?_
  by_cases hrow : row.triggerKey = r.triggerKey
  · simp [hrow, hkey]
  · simp [hrow]

/-- Who is admitted under another key does not matter. -/
theorem blind_admittedFor (hkey : r.triggerKey ≠ key) :
    Blind (Tables.withoutKey key) (admittedFor r.triggerKey) := by
  refine Blind.query fun t t' h => ?_
  refine Blind.map_of_filter (p := fun row : ResponderRow => row.triggerKey ≠ key) (fun rows => ?_)
    (congrArg Tables.responders h)
  rw [admitted_shown hkey]

theorem blind_insert (hkey : r.triggerKey ≠ key) (now : Int) (cause : StatementFault) :
    Blind (Tables.withoutKey key) (statement .responders fun rows =>
      let (added, rows) := Table.add ResponderRow.key (admittedRow r now) rows
      if added then .ok ((), rows) else .error cause) := by
  refine Blind.statement fun t t' h => ?_
  -- what is shown of the tables with other responders is told by the tables that are shown
  have hset : ∀ (t : Tables) rows, (Relation.responders.set t rows).withoutKey key =
      Relation.responders.set (t.withoutKey key) (rows.map (List.filter (·.triggerKey ≠ key))) :=
    fun _ _ => rfl
  unfold Blind.left
  simp only [hset, h, Option.map_some]
  refine Blind.map_of_filter (p := fun row : ResponderRow => row.triggerKey ≠ key) (fun rows => ?_)
    (congrArg Tables.responders h)
  have hown : ∀ old : ResponderRow, old.key = (admittedRow r now).key →
      decide (old.triggerKey ≠ key) = true := by
    intro old hold
    have htrigger : old.triggerKey = r.triggerKey := congrArg Prod.fst hold
    rw [htrigger]
    exact decide_eq_true hkey
  rw [Table.add_filter hown]
  dsimp only
  split
  · simp only [Except.map, List.filter_filter, Bool.and_self]
  · rfl

/-- A request is answered as if nothing went on under other keys. -/
theorem blind_enter (hkey : r.triggerKey ≠ key) (c : Config.Gate) (now : Int) :
    Blind (Tables.withoutKey key) (enter c r now) := by
  have hadmit : Blind (Tables.withoutKey key) (admitResponder c r now) := by
    refine (blind_admittedFor hkey).bind fun responders => ?_
    split
    · exact .pure _
    · split
      · exact .pure _
      · exact (blind_insert hkey now _).bind fun _ => .pure _
  have hlast : Blind (Tables.withoutKey key) (lastBotOutput r.channelId) := by
    refine Blind.query fun t t' h => ?_
    have hshown : (t'.withoutKey key).activity = (t.withoutKey key).activity := congrArg Tables.activity h
    have hactivity : Relation.activity.get t' = Relation.activity.get t := hshown
    rw [hactivity]
  refine .atomically ?_
  dsimp only
  split
  · refine hlast.bind fun last => ?_
    split
    · exact .pure _
    · exact hadmit
  · exact hadmit

end

end Gate

/-! ## Triggers -/

/-- Triggers are known by their keys. Messages share a key if and only if they are the same or their names
overlap, sweeps if and only if they are the same, and a message and a sweep never do. So whatever goes on at
the gate for one message, be it who enters, in which order, how often and with what outcome, a request for
another message, of the same channel or of another, is answered as if nothing of it had happened, unless the
names of the two messages overlap. -/
theorem triggers_apart (channel message : String) :
    (∀ channel' message', Trigger.messageKey channel message = Trigger.messageKey channel' message' ↔
      channel = channel' ∧ message = message' ∨ Trigger.Confused channel message channel' message') ∧
      (∀ tick channel' tick', Trigger.ambientKey channel tick = Trigger.ambientKey channel' tick' ↔
        channel = channel' ∧ tick = tick') ∧
      (∀ channel' tick, Trigger.messageKey channel message ≠ Trigger.ambientKey channel' tick) ∧
      ∀ channel' message', (channel = channel' → message ≠ message') →
        ¬ Trigger.Confused channel message channel' message' →
        ∀ t t', Gate.Dealings (Trigger.messageKey channel message) t t' →
        ∀ (c : Config.Gate) (r : Gate.Request) (now : Int) (s : Store),
          r.triggerKey = Trigger.messageKey channel' message' →
          (Gate.enter c r now).outcome { s with tables := t' } =
            (Gate.enter c r now).outcome { s with tables := t } := by
  refine ⟨fun _ _ => Trigger.messageKey_eq_iff, fun _ _ _ => Trigger.ambientKey_eq_iff,
    fun _ _ => Trigger.messageKey_ne_ambientKey, ?_⟩
  intro channel' message' hdifferent hclear t t' dealings c r now s hkey
  have hother : r.triggerKey ≠ Trigger.messageKey channel message := by
    rw [hkey]
    intro hsame
    rcases Trigger.messageKey_eq_iff.mp hsame.symm with ⟨hchannel, hmessage⟩ | hconfused
    · exact hdifferent hchannel hmessage
    · exact hclear hconfused
  exact (Gate.blind_enter hother c now).outcome_eq ⟨dealings.unseen, rfl⟩

/-- Who asks to answer a message of a channel. -/
def Gate.Request.toAnswer (channel message avatar : String) : Gate.Request :=
  ⟨channel, avatar, Trigger.messageKey channel message, .humanMessage, false⟩

/-- A gate with room for one responder. -/
def Config.Gate.single : Config.Gate := { Config.Gate.standard with maxRespondersPerTrigger := 1 }

/-- Ada answers a message of the lobby. That does not keep bob from a message of the den with the same id. -/
theorem triggers_apart_den :
    let ada := Gate.Request.toAnswer "lobby" "m1" "ada"
    let bob := Gate.Request.toAnswer "den" "m1" "bob"
    let dealt := ((Gate.enter .single ada 0).after .new).tables
    ("lobby" = "den" → "m1" ≠ "m1") ∧ ¬ Trigger.Confused "lobby" "m1" "den" "m1" ∧
      Gate.Dealings (Trigger.messageKey "lobby" "m1") .empty dealt ∧ dealt ≠ .empty ∧
      (Gate.enter .single bob 0).outcome (.ofTables dealt) = .ok .admitted := by
  intro ada bob dealt
  have hdifferent : "lobby" = "den" → "m1" ≠ "m1" := by decide
  have hclear : ¬ Trigger.Confused "lobby" "m1" "den" "m1" := by
    intro hconfused
    have hkeys := Trigger.messageKey_eq_iff.mpr (.inr hconfused)
    exact absurd hkeys (by decide)
  have dealings : Gate.Dealings (Trigger.messageKey "lobby" "m1") .empty dealt :=
    .enter (s := .new) (.none _) rfl (runs_after _ _)
  obtain ⟨-, -, -, hapart⟩ := triggers_apart "lobby" "m1"
  have hasked := hapart "den" "m1" hdifferent hclear _ _ dealings .single bob 0 .new rfl
  have hfree : (Gate.enter .single bob 0).outcome .new = .ok .admitted := rfl
  exact ⟨hdifferent, hclear, dealings, by decide +kernel, hasked.trans hfree⟩

/-- A message of the lobby and one of its side room share their key. Where ada has answered the first, bob
finds no room for an answer to the second, and ada is told that she has answered it already, although nobody
has: with nothing to answer in the lobby both are admitted. -/
theorem messages_share_responders :
    let dealt := (Gate.enter .single (.toAnswer "lobby" "side:1" "ada") 0).after .new
    let asking (avatar : String) := Gate.enter .single (.toAnswer "lobby:side" "1" avatar) 0
    Trigger.messageKey "lobby" "side:1" = Trigger.messageKey "lobby:side" "1" ∧
      (asking "bob").outcome dealt = .ok (.responderCap 1) ∧
      (asking "ada").outcome dealt = .ok .alreadyResponded ∧
      (asking "bob").outcome .new = .ok .admitted ∧ (asking "ada").outcome .new = .ok .admitted := by
  exact ⟨by decide, rfl, rfl, rfl, rfl⟩

end TurnTaking
