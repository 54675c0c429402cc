import TurnTaking.Proofs.Engine.Sweep
import TurnTaking.Proofs.Thread

/-!
# Sets and lists — what is written is read back

Tags of an avatar, topics of a channel and the participants of a thread are stored as texts, and rows are read
column by column. Whatever texts they hold, they come back as they were; and whoever asks for anything else hears
the same as before.

* `Write` — a set or a thread is written; `Question` — what may be asked afterwards;
* `Write.Touches` — the questions that a write is about, and `Write.untouched`, that all others are answered as
  before;
* `writes_read_back` — both together.
-/

namespace TurnTaking.ReadBack

open Store Store.Access

/-! ## Writes and questions -/

/-- A set of texts or a thread that is written. -/
inductive Write where
  | tags (channel avatar : String) (tags : TagSet) (now : Int)
  | topics (channel : String) (topics : TagSet) (now : Int)
  | thread (terms : Thread.Terms) (id channel : String) (participants : List String)
      (lastSpeaker : Option String) (now : Int)
deriving DecidableEq, Repr

/-- What is asked for: the record of an avatar in a channel, what a channel is about, the thread of an id, or the
open thread of a channel. -/
inductive Question where
  | record (channel avatar : String)
  | topics (channel : String)
  | thread (id : String)
  | openThread (channel : String) (now : Int)
deriving DecidableEq, Repr

/-- The question is answered alike in two stores, if only by the same fault. -/
def Question.AnsweredAlike (s s' : Store) : Question → Prop
  | record channel avatar =>
    (Presence.find? channel avatar).outcome s = (Presence.find? channel avatar).outcome s'
  | topics channel => (Activity.topics channel).outcome s = (Activity.topics channel).outcome s'
  | thread id => (Thread.find? id).outcome s = (Thread.find? id).outcome s'
  | openThread channel now => (Thread.active? channel now).outcome s = (Thread.active? channel now).outcome s'

namespace Write

/-- The program that writes. -/
def access : Write → Access Unit
  | .tags channel avatar set now => Presence.setTopics channel avatar set now
  | .topics channel set now => Activity.setTopics channel set now
  | .thread terms id channel participants lastSpeaker now => do
    let _ ← Thread.start terms id channel participants lastSpeaker now

/-- A thread is written under an id that is that of no thread of another channel. -/
def Sound (t : Tables) : Write → Prop
  | thread _ id channel _ _ _ => ∀ r ∈ t.threads.getD [], r.threadId = some id → r.channelId = channel
  | tags .. | topics .. => True

/-- The questions that the write is about. A thread takes the place of the threads of its channel. -/
def Touches (t : Tables) : Write → Question → Prop
  | tags channel avatar _ _, q => q = .record channel avatar
  | topics channel _ _, q => q = .topics channel
  | thread _ id channel _ _ _, .thread id' =>
    id' = id ∨ ∃ r ∈ Table.lookup ThreadRow.key (some id') (t.threads.getD []), r.channelId = channel
  | thread _ _ channel _ _ _, .openThread channel' _ => channel' = channel
  | thread .., .record .. | thread .., .topics .. => False

end Write

section

variable {t : Tables}

/-! ## Tags -/

section

variable {rows : List PresenceRow}

/-- The row that holds an avatar's tags is made as that of a present avatar, if there was none. -/
theorem runs_setTags (h : t.presence = some rows) (channel avatar : String) (tags : TagSet) (now : Int) :
    ∃ rows', (Presence.setTopics channel avatar tags now).Runs (.ofTables t) (.ok ())
        (.ofTables { t with presence := some rows' }) ∧
      ∀ k, Table.lookup PresenceRow.key k rows' =
        if (channel, avatar) = k then
          some ((Presence.Change.topics tags now).revise
            ((Table.lookup PresenceRow.key k rows).getD (Presence.blankRow channel avatar .present now)))
        else Table.lookup PresenceRow.key k rows := by
  refine ⟨_, runs_change_ofTables h _, fun k => ?_⟩
  refine (Table.lookup_put (by exact fun _ => rfl) rows).trans ?_
  have hkey : PresenceRow.key
      { Presence.blankRow channel avatar .present now with topicTags := Presence.storedTags tags } =
        (channel, avatar) := rfl
  rw [hkey]
  cases Table.lookup PresenceRow.key k rows <;> rfl

/-- Where a record could be read, the record with new tags can. -/
theorem readRecord_tags {row : PresenceRow} {r : Presence.Record} (tags : TagSet) (now : Int)
    (h : Presence.readRecord row = .ok r) :
    Presence.readRecord ((Presence.Change.topics tags now).revise row) =
      .ok { r with topicTags := tags, updatedAt := now } := by
  unfold Presence.readRecord at h ⊢
  cases hstate : Presence.State.ofName? row.state with
  | none =>
    rw [hstate] at h
    cases h
  | some state =>
    simp only [hstate, pure_bind] at h
    obtain ⟨_, -, h⟩ := reading_ok h
    obtain ⟨lastTurn, hlast, h⟩ := reading_ok h
    obtain ⟨mentioned, hmentioned, h⟩ := reading_ok h
    obtain ⟨summoned, hsummoned, h⟩ := reading_ok h
    obtain ⟨summons, hsummons, h⟩ := reading_ok h
    obtain ⟨pins, hpins, h⟩ := reading_ok h
    obtain ⟨cool, hcool, h⟩ := reading_ok h
    obtain ⟨taken, htaken, h⟩ := reading_ok h
    obtain ⟨_, -, h⟩ := reading_ok h
    obtain rfl := Except.ok.inj h
    -- the columns that are written
    have htags : readTexts 8 (Presence.storedTags tags) = .ok tags.toList := readTexts_ofTexts 8 _
    have htime : readNumber 12 "updated_at" (.number now) = .ok now := rfl
    simp only [Presence.Change.revise, hstate, pure_bind, htags, hlast, hmentioned, hsummoned, hsummons, hpins,
      hcool, htaken, htime]
    simp only [bind, Except.bind, pure, Except.pure, TagSet.ofList_toList]

/-- If the record with new tags can be read, it has these tags. -/
theorem topicTags_of_readRecord {row : PresenceRow} {r : Presence.Record} {tags : TagSet} {now : Int}
    (h : Presence.readRecord ((Presence.Change.topics tags now).revise row) = .ok r) : r.topicTags = tags := by
  unfold Presence.readRecord at h
  cases hstate : Presence.State.ofName? row.state with
  | none =>
    simp only [Presence.Change.revise, hstate] at h
    cases h
  | some state =>
    simp only [Presence.Change.revise, hstate, pure_bind] at h
    obtain ⟨texts, htexts, h⟩ := reading_ok h
    obtain rfl := Except.ok.inj (htexts.symm.trans (readTexts_ofTexts 8 tags.toList))
    iterate 8 obtain ⟨_, -, h⟩ := reading_ok h
    obtain rfl := Except.ok.inj h
    exact TagSet.ofList_toList tags

theorem outcome_record (h : t.presence = some rows) (channel avatar : String) :
    (Presence.find? channel avatar).outcome (.ofTables t) =
      (readRow? Presence.readRecord (Table.lookup PresenceRow.key (channel, avatar) rows)).mapError
        .statement :=
  outcome_query_ofTables h _

end

/-! ## Topics -/

section

variable {rows : List TopicsRow}

/-- Topics are written in the row of their channel. -/
theorem runs_setTopics (h : t.topics = some rows) (channel : String) (topics : TagSet) (now : Int) :
    ∃ rows', (Activity.setTopics channel topics now).Runs (.ofTables t) (.ok ())
        (.ofTables { t with topics := some rows' }) ∧
      ∀ k, (Table.lookup TopicsRow.key k rows').map TopicsRow.topics =
        if some channel = k then some (ofTexts topics.toList)
        else (Table.lookup TopicsRow.key k rows).map TopicsRow.topics := by
  refine ⟨_, runs_change_ofTables h _, fun k => ?_⟩
  refine (congrArg _ (Table.lookup_put (by exact fun _ => rfl) rows)).trans ?_
  have hkey : TopicsRow.key ⟨some channel, ofTexts topics.toList, .number now⟩ = some channel := rfl
  rw [hkey]
  by_cases hchannel : some channel = k
  · rw [if_pos hchannel, if_pos hchannel]
    cases Table.lookup TopicsRow.key k rows <;> rfl
  · rw [if_neg hchannel, if_neg hchannel]

/-- What a channel is about by what is stored of it. -/
def told : Option String → Except Fault TagSet
  | none => .ok .empty
  | some stored =>
    match texts? stored with
    | some l => .ok (TagSet.ofList l)
    | none => .error .json

theorem told_ofTexts (topics : TagSet) : told (some (ofTexts topics.toList)) = .ok topics := by
  rw [told, texts_ofTexts]
  exact congrArg Except.ok (TagSet.ofList_toList topics)

/-- Topics are read from the row of their channel. -/
theorem outcome_topics (h : t.topics = some rows) (channel : String) :
    (Activity.topics channel).outcome (.ofTables t) =
      told ((Table.lookup TopicsRow.key (some channel) rows).map TopicsRow.topics) := by
  have hquery : (query .topics fun rows =>
      .ok ((Table.lookup TopicsRow.key (some channel) rows).map TopicsRow.topics)).Runs (.ofTables t)
        (.ok ((Table.lookup TopicsRow.key (some channel) rows).map TopicsRow.topics)) (.ofTables t) :=
    runs_query_ofTables h rfl
  refine hquery.outcome_bind.trans ?_
  cases (Table.lookup TopicsRow.key (some channel) rows).map TopicsRow.topics with
  | none => rfl
  | some stored =>
    simp only [told]
    cases texts? stored <;> rfl

end

/-! ## Threads -/

section

variable {rows : List ThreadRow}

/-- If an id is that of no thread of another channel, none of the other channels' threads has it. -/
theorem lookup_others {id channel : String} (hid : ∀ r ∈ rows, r.threadId = some id → r.channelId = channel) :
    Table.lookup ThreadRow.key (some id) (rows.filter (·.channelId ≠ channel)) = none := by
  rw [Table.lookup, List.find?_eq_none]
  intro r hr hkey
  obtain ⟨hr, hother⟩ := List.mem_filter.mp hr
  exact of_decide_eq_true hother (hid r hr (of_decide_eq_true hkey))

/-- The rows when a thread takes the place of the threads of its channel. -/
def started (th : Thread) (rows : List ThreadRow) : List ThreadRow :=
  rows.filter (·.channelId ≠ th.channelId) ++ [th.toRow]

/-- A thread is stored in place of those of its channel. -/
theorem runs_start (h : t.threads = some rows) (terms : Thread.Terms) {id channel : String}
    (participants : List String) (lastSpeaker : Option String) (now : Int)
    (hid : ∀ r ∈ rows, r.threadId = some id → r.channelId = channel) :
    let th : Thread :=
      ⟨id, channel, participants, lastSpeaker, terms.turns, now, Numeral.wrapped (now + terms.ttl)⟩
    (Thread.start terms id channel participants lastSpeaker now).Runs (.ofTables t) (.ok th)
      (.ofTables { t with threads := some (started th rows) }) := by
  intro th
  have hremoved : (Table.remove (fun r : ThreadRow => r.channelId = channel) rows).2 =
      rows.filter (·.channelId ≠ channel) := by
    simp [Table.remove]
  have hremove := runs_change_ofTables (r := .threads) h (Table.remove fun r => r.channelId = channel)
  rw [hremoved] at hremove
  have hadd : ∀ row : ThreadRow, row = th.toRow → Table.add ThreadRow.key row
      (rows.filter (·.channelId ≠ channel)) = (true, started th rows) := by
    rintro _ rfl
    have hkey : ThreadRow.key th.toRow = some id := rfl
    rw [Table.add, hkey, Table.lookup_eq_none.mp (lookup_others hid)]
    rfl
  refine (runs_atomically_ofTables (a := ()) (hremove.bind ?_)).bind rfl
  refine runs_statement_ofTables (r := .threads) rfl ?_
  rw [hadd _ rfl]
  rfl

/-- A thread is read from the row of its id. -/
theorem outcome_thread (h : t.threads = some rows) (id : String) :
    (Thread.find? id).outcome (.ofTables t) =
      (readRow? Thread.readThread (Table.lookup ThreadRow.key (some id) rows)).mapError .statement :=
  outcome_query_ofTables h _

/-- The rows of the threads of a channel that are open. -/
def openRows (channel : String) (now : Int) (rows : List ThreadRow) : List ThreadRow :=
  rows.filter fun r => r.channelId = channel && Thread.rowIsOpen now r

/-- The open thread is the oldest of the channel's open rows. -/
theorem outcome_openThread (h : t.threads = some rows) (channel : String) (now : Int) :
    (Thread.active? channel now).outcome (.ofTables t) =
      (readRow? Thread.readThread ((openRows channel now rows).mergeSort Thread.byAge).head?).mapError
        .statement :=
  outcome_query_ofTables h _

variable (th : Thread)

/-- The thread is found under its id. -/
theorem lookup_started (hid : ∀ r ∈ rows, r.threadId = some th.id → r.channelId = th.channelId) :
    Table.lookup ThreadRow.key (some th.id) (started th rows) = some th.toRow := by
  rw [started, Table.lookup_append, lookup_others hid]
  exact if_pos rfl

/-- Threads of other channels are found as before. -/
theorem lookup_started_other {id : String} (hid : id ≠ th.id)
    (hother : ∀ r ∈ Table.lookup ThreadRow.key (some id) rows, r.channelId ≠ th.channelId) :
    Table.lookup ThreadRow.key (some id) (started th rows) = Table.lookup ThreadRow.key (some id) rows := by
  have hkey : ¬ ThreadRow.key th.toRow = some id := fun h => hid (Option.some.inj h).symm
  rw [started, Table.lookup_append, if_neg hkey, Option.or_none]
  cases hrow : Table.lookup ThreadRow.key (some id) rows with
  | none =>
    rw [Table.lookup, List.find?_eq_none] at hrow ⊢
    intro r hr
    exact hrow r (List.mem_filter.mp hr).1
  | some r =>
    have hkept : Table.lookup ThreadRow.key (some id)
        (Table.remove (fun r : ThreadRow => r.channelId = th.channelId) rows).2 = some r :=
      Table.lookup_remove hrow (decide_eq_false (hother r hrow))
    simpa [Table.remove] using hkept

/-- The thread is the only one of its channel. -/
theorem openRows_started (now : Int) :
    openRows th.channelId now (started th rows) = if th.isOpen now then [th.toRow] else [] := by
  have hnone : openRows th.channelId now (rows.filter (·.channelId ≠ th.channelId)) = [] := by
    rw [openRows, List.filter_filter, List.filter_eq_nil_iff]
    intro r _ hboth
    simp only [ne_eq, Bool.and_eq_true, decide_eq_true_eq] at hboth
    exact hboth.2 hboth.1.1
  have hchannel : th.toRow.channelId = th.channelId := rfl
  rw [openRows, started, List.filter_append, ← openRows, hnone, List.nil_append, List.filter_singleton, hchannel,
    Thread.rowIsOpen_toRow]
  simp

/-- A new thread leaves the open ones of other channels. -/
theorem openRows_started_other {channel : String} (h : channel ≠ th.channelId) (now : Int) :
    openRows channel now (started th rows) = openRows channel now rows := by
  have hnew : ¬ th.toRow.channelId = channel := Ne.symm h
  rw [openRows, started, List.filter_append, List.filter_filter, List.filter_singleton, decide_eq_false hnew,
    Bool.false_and, cond_false, List.append_nil, openRows]
  refine List.filter_congr fun r _ => ?_
  by_cases hr : r.channelId = channel
  · simp [hr, h]
  · simp [hr]

end

end

/-! ## What is read back -/

section

variable {t : Tables}

/-- Where all tables are there, so are these. -/
theorem tables_of_complete (h : t.complete = t) : (∃ rows, t.presence = some rows) ∧
    (∃ rows, t.topics = some rows) ∧ ∃ rows, t.threads = some rows :=
  ⟨⟨_, (congrArg Tables.presence h).symm⟩, ⟨_, (congrArg Tables.topics h).symm⟩,
    ⟨_, (congrArg Tables.threads h).symm⟩⟩

theorem after_of_runs {α : Type} {a : Access α} {x : Except Fault α} {s s' : Store} (h : a.Runs s x s') :
    a.outcome s = x ∧ a.after s = s' :=
  (runs_after a s).unique h

/-- The rows tell the same of what is asked. -/
def Question.Same (t t' : Tables) : Question → Prop
  | record channel avatar =>
    Table.lookup PresenceRow.key (channel, avatar) (t.presence.getD []) =
      Table.lookup PresenceRow.key (channel, avatar) (t'.presence.getD [])
  | topics channel =>
    (Table.lookup TopicsRow.key (some channel) (t.topics.getD [])).map TopicsRow.topics =
      (Table.lookup TopicsRow.key (some channel) (t'.topics.getD [])).map TopicsRow.topics
  | thread id =>
    Table.lookup ThreadRow.key (some id) (t.threads.getD []) =
      Table.lookup ThreadRow.key (some id) (t'.threads.getD [])
  | openThread channel now =>
    openRows channel now (t.threads.getD []) = openRows channel now (t'.threads.getD [])

/-- What tells the same of two tables is answered alike. -/
theorem Question.Same.alike {t' : Tables} (h : t.complete = t) (h' : t'.complete = t') {q : Question}
    (hq : q.Same t t') : q.AnsweredAlike (.ofTables t) (.ofTables t') := by
  obtain ⟨⟨records, hrecords⟩, ⟨subjects, hsubjects⟩, threads, hthreads⟩ := tables_of_complete h
  obtain ⟨⟨records', hrecords'⟩, ⟨subjects', hsubjects'⟩, threads', hthreads'⟩ := tables_of_complete h'
  cases q with
  | record channel avatar =>
    rw [Question.Same, hrecords, hrecords', Option.getD_some, Option.getD_some] at hq
    rw [Question.AnsweredAlike, outcome_record hrecords, outcome_record hrecords', hq]
  | topics channel =>
    rw [Question.Same, hsubjects, hsubjects', Option.getD_some, Option.getD_some] at hq
    rw [Question.AnsweredAlike, outcome_topics hsubjects, outcome_topics hsubjects', hq]
  | thread id =>
    rw [Question.Same, hthreads, hthreads', Option.getD_some, Option.getD_some] at hq
    rw [Question.AnsweredAlike, outcome_thread hthreads, outcome_thread hthreads', hq]
  | openThread channel now =>
    rw [Question.Same, hthreads, hthreads', Option.getD_some, Option.getD_some] at hq
    rw [Question.AnsweredAlike, outcome_openThread hthreads, outcome_openThread hthreads', hq]

/-- What a write is not about is answered as before. -/
theorem Write.untouched (h : t.complete = t) {w : Write} (hw : w.Sound t) {q : Question}
    (hq : ¬ w.Touches t q) : q.AnsweredAlike (.ofTables t) (w.access.after (.ofTables t)) := by
  obtain ⟨⟨records, hrecords⟩, ⟨subjects, hsubjects⟩, threads, hthreads⟩ := tables_of_complete h
  cases w with
  | tags channel avatar set now =>
    -- tags change one record
    obtain ⟨rows', hrun, hlookup⟩ := runs_setTags hrecords channel avatar set now
    rw [access, (after_of_runs hrun).2]
    refine Question.Same.alike h (congrArg (fun t => { t with presence := some rows' }) h) ?_
    cases q with
    | record channel' avatar' =>
      have hother : ¬ (channel, avatar) = (channel', avatar') := by
        intro heq
        obtain ⟨rfl, rfl⟩ := Prod.mk.inj heq
        exact hq rfl
      rw [Question.Same, hrecords, Option.getD_some, Option.getD_some, hlookup, if_neg hother]
    | topics _ => rfl
    | thread _ => rfl
    | openThread _ _ => rfl
  | topics channel set now =>
    -- topics change those of one channel
    obtain ⟨rows', hrun, hlookup⟩ := runs_setTopics hsubjects channel set now
    rw [access, (after_of_runs hrun).2]
    refine Question.Same.alike h (congrArg (fun t => { t with topics := some rows' }) h) ?_
    cases q with
    | topics channel' =>
      have hother : ¬ some channel = some channel' := by
        intro heq
        obtain rfl := Option.some.inj heq
        exact hq rfl
      rw [Question.Same, hsubjects, Option.getD_some, Option.getD_some, hlookup, if_neg hother]
    | record _ _ => rfl
    | thread _ => rfl
    | openThread _ _ => rfl
  | thread terms id channel participants lastSpeaker now =>
    -- a thread changes what is told of it, of its channel's threads, and which one is open there
    rw [Write.Sound, hthreads] at hw
    have hstart := runs_start hthreads terms participants lastSpeaker now hw
    have hrun := hstart.bind (f := fun _ => pure ()) rfl
    rw [access, (after_of_runs hrun).2]
    let th : Thread :=
      ⟨id, channel, participants, lastSpeaker, terms.turns, now, Numeral.wrapped (now + terms.ttl)⟩
    refine Question.Same.alike h (congrArg (fun t => { t with threads := some (started th threads) }) h) ?_
    cases q with
    | thread id' =>
      rw [Touches, not_or] at hq
      rw [Question.Same, hthreads, Option.getD_some, Option.getD_some]
      refine (lookup_started_other th hq.1 fun r hr hchannel => hq.2 ⟨r, ?_, hchannel⟩).symm
      rw [hthreads]
      exact hr
    | openThread channel' later =>
      rw [Question.Same, hthreads, Option.getD_some, Option.getD_some]
      exact (openRows_started_other th hq later).symm
    | record _ _ => rfl
    | topics _ => rfl

/-- Tags are read with what could be read of the record before, or with a record without history. -/
theorem tags_read_back {rows : List PresenceRow} (h : t.presence = some rows) (channel avatar : String)
    (tags : TagSet) (now : Int) :
    let write := Presence.setTopics channel avatar tags now
    let read := Presence.find? channel avatar
    write.outcome (.ofTables t) = .ok () ∧
      (∀ old, read.outcome (.ofTables t) = .ok old → read.outcome (write.after (.ofTables t)) =
        .ok (some { old.getD (.fresh channel avatar now) with topicTags := tags, updatedAt := now })) ∧
      ∀ found, read.outcome (write.after (.ofTables t)) = .ok found →
        found.map Presence.Record.topicTags = some tags := by
  intro write read
  obtain ⟨rows', hrun, hlookup⟩ := runs_setTags h channel avatar tags now
  obtain ⟨hresult, hafter⟩ := after_of_runs hrun
  rw [hafter, outcome_record h, outcome_record rfl, hlookup, if_pos rfl, readRow?]
  refine ⟨hresult, fun old hold => ?_, fun found hfound => ?_⟩
  · -- the record was made from the row that was there, or from a new one
    have hread : Presence.readRecord ((Table.lookup PresenceRow.key (channel, avatar) rows).getD
        (Presence.blankRow channel avatar .present now)) = .ok (old.getD (.fresh channel avatar now)) := by
      cases hrow : Table.lookup PresenceRow.key (channel, avatar) rows with
      | none =>
        rw [hrow] at hold
        obtain rfl := Except.ok.inj hold
        exact Presence.readRecord_blankRow channel avatar now
      | some row =>
        rw [hrow, readRow?] at hold
        rw [Option.getD_some]
        cases hread : Presence.readRecord row with
        | error f =>
          rw [hread] at hold
          cases hold
        | ok r =>
          rw [hread] at hold
          obtain rfl := Except.ok.inj hold
          rfl
    rw [readRecord_tags tags now hread]
    rfl
  · -- whatever row it was, its tags are those that were written
    cases hread : Presence.readRecord ((Presence.Change.topics tags now).revise
        ((Table.lookup PresenceRow.key (channel, avatar) rows).getD
          (Presence.blankRow channel avatar .present now))) with
    | error f =>
      rw [hread] at hfound
      cases hfound
    | ok r =>
      rw [hread] at hfound
      obtain rfl := Except.ok.inj hfound
      exact congrArg some (topicTags_of_readRecord hread)

/-- Topics are read back, and nothing else is told otherwise. -/
theorem topics_read_back {rows : List TopicsRow} (h : t.topics = some rows) (channel : String)
    (topics : TagSet) (now : Int) :
    let write := Activity.setTopics channel topics now
    write.outcome (.ofTables t) = .ok () ∧
      (Activity.topics channel).outcome (write.after (.ofTables t)) = .ok topics := by
  intro write
  obtain ⟨rows', hrun, hlookup⟩ := runs_setTopics h channel topics now
  obtain ⟨hresult, hafter⟩ := after_of_runs hrun
  refine ⟨hresult, ?_⟩
  rw [hafter, outcome_topics rfl, hlookup, if_pos rfl, told_ofTexts]

/-- A thread is read by its id, and for its channel as long as it is open. -/
theorem thread_read_back {rows : List ThreadRow} (h : t.threads = some rows) {terms : Thread.Terms}
    (hturns : terms.turns < 0x100000000) {id channel : String}
    (hid : ∀ r ∈ rows, r.threadId = some id → r.channelId = channel) (participants : List String)
    (lastSpeaker : Option String) (now : Int) :
    let th : Thread :=
      ⟨id, channel, participants, lastSpeaker, terms.turns, now, Numeral.wrapped (now + terms.ttl)⟩
    let write := Thread.start terms id channel participants lastSpeaker now
    write.outcome (.ofTables t) = .ok th ∧
      (Thread.find? id).outcome (write.after (.ofTables t)) = .ok (some th) ∧
      ∀ later, (Thread.active? channel later).outcome (write.after (.ofTables t)) =
        .ok (if th.isOpen later then some th else none) := by
  intro th write
  obtain ⟨hresult, hafter⟩ := after_of_runs (runs_start h terms participants lastSpeaker now hid)
  have hread : Thread.readThread th.toRow = .ok th := Thread.readThread_toRow th hturns
  have hfound : Table.lookup ThreadRow.key (some id) (started th rows) = some th.toRow :=
    lookup_started th hid
  refine ⟨hresult, ?_, fun later => ?_⟩
  · rw [hafter, outcome_thread rfl, hfound, readRow?, hread]
    rfl
  · have hopen : openRows channel later (started th rows) = if th.isOpen later then [th.toRow] else [] :=
      openRows_started th later
    rw [hafter, outcome_openThread rfl, hopen]
    split
    · rw [List.mergeSort_singleton, List.head?_cons, readRow?, hread]
      rfl
    · rw [List.mergeSort_nil]
      rfl

/-- On a store with all tables and without trouble, sets, lists and threads that are written are read back. Tags
come with a record whose other columns are as before, or with one without history. A thread, if its id is that of
no thread of another channel, is found by its id, and for its channel as long as it is open. What is asked about
anything else is answered as before. -/
theorem writes_read_back {t : Tables} (h : t.complete = t) :
    (∀ channel avatar tags now,
      let write := Presence.setTopics channel avatar tags now
      let read := Presence.find? channel avatar
      write.outcome (.ofTables t) = .ok () ∧
        (∀ old, read.outcome (.ofTables t) = .ok old → read.outcome (write.after (.ofTables t)) =
          .ok (some { old.getD (.fresh channel avatar now) with topicTags := tags, updatedAt := now })) ∧
        ∀ found, read.outcome (write.after (.ofTables t)) = .ok found →
          found.map Presence.Record.topicTags = some tags) ∧
    (∀ channel topics now,
      let write := Activity.setTopics channel topics now
      write.outcome (.ofTables t) = .ok () ∧
        (Activity.topics channel).outcome (write.after (.ofTables t)) = .ok topics) ∧
    (∀ terms id channel participants lastSpeaker now, terms.turns < 0x100000000 →
      (Write.thread terms id channel participants lastSpeaker now).Sound t →
      let th : Thread :=
        ⟨id, channel, participants, lastSpeaker, terms.turns, now, Numeral.wrapped (now + terms.ttl)⟩
      let write := Thread.start terms id channel participants lastSpeaker now
      write.outcome (.ofTables t) = .ok th ∧
        (Thread.find? id).outcome (write.after (.ofTables t)) = .ok (some th) ∧
        ∀ later, (Thread.active? channel later).outcome (write.after (.ofTables t)) =
          .ok (if th.isOpen later then some th else none)) ∧
    ∀ w : Write, w.Sound t → ∀ q : Question, ¬ w.Touches t q →
      q.AnsweredAlike (.ofTables t) (w.access.after (.ofTables t)) := by
  obtain ⟨⟨_, hrecords⟩, ⟨_, hsubjects⟩, threads, hthreads⟩ := tables_of_complete h
  refine ⟨tags_read_back hrecords, topics_read_back hsubjects, ?_, fun w hw q hq => Write.untouched h hw hq⟩
  intro terms id channel participants lastSpeaker now hturns hsound
  rw [Write.Sound, hthreads] at hsound
  exact thread_read_back hthreads hturns hsound participants lastSpeaker now

end

/-- Two channels, each with a thread. -/
def twoThreads : Tables :=
  { Tables.empty with
    threads := some [⟨some "t1", "lobby", "[]", none, .number 1, .number 0, .number 1000⟩,
      ⟨some "t2", "hall", "[\"ada\"]", some "ada", .number 1, .number 0, .number 1000⟩] }

/-- Quotes, backslashes, control characters and others come back, and the thread of the hall stays. -/
theorem writes_read_back_escaped :
    let odd := ["say \"hi\"", "a\\b", "\x00\n", "größer", "😀"]
    let write := Thread.start ⟨2, 500⟩ "t3" "lobby" odd (some "😀") 100
    let s := write.after (.ofTables twoThreads)
    twoThreads.complete = twoThreads ∧
      (Activity.topics "lobby").outcome
          ((Activity.setTopics "lobby" (.ofList odd) 100).after (.ofTables twoThreads)) = .ok (.ofList odd) ∧
      (Thread.active? "lobby" 599).outcome s = .ok (some ⟨"t3", "lobby", odd, some "😀", 2, 100, 600⟩) ∧
      (Thread.active? "lobby" 600).outcome s = .ok none ∧
      (Thread.find? "t2").outcome (.ofTables twoThreads) = (Thread.find? "t2").outcome s := by
  intro odd write s
  have hcomplete : twoThreads.complete = twoThreads := rfl
  have hsound : (Write.thread ⟨2, 500⟩ "t3" "lobby" odd (some "😀") 100).Sound twoThreads := by
    simp [Write.Sound, twoThreads]
  have hother : ¬ (Write.thread ⟨2, 500⟩ "t3" "lobby" odd (some "😀") 100).Touches twoThreads (.thread "t2") := by
    simp [Write.Touches, twoThreads, Table.lookup, ThreadRow.key]
  obtain ⟨-, htopics, hthread, hrest⟩ := writes_read_back hcomplete
  obtain ⟨-, -, hopen⟩ := hthread ⟨2, 500⟩ "t3" "lobby" odd (some "😀") 100 (by decide) hsound
  exact ⟨hcomplete, (htopics "lobby" (.ofList odd) 100).2, hopen 599, hopen 600,
    hrest _ hsound (.thread "t2") hother⟩

end TurnTaking.ReadBack
