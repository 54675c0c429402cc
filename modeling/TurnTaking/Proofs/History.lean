import Mathlib.Data.List.Nodup
import Mathlib.Data.List.Perm.Subperm
import Mathlib.Data.String.Basic
import TurnTaking.Proofs.Activity
import TurnTaking.Proofs.Recency

/-!
# History — what is known of a channel after all that was recorded

Messages of people and of bots are recorded in any order, late ones among them. What is known of a channel
sums up all of its messages (`Sums`): when the latest came, when the latest of a person and the latest of a bot
came, and which trigger that one answered. Each message that is recorded adds itself to that
(`Call.sums_after`), so that it holds after any number of them (`Kept.recordAll`).
-/

namespace TurnTaking

open Store Store.Access

namespace Activity

/-- A message that is recorded: one of a person, or one of a bot that answers a trigger. -/
inductive Call where
  | human (channel user : String) (time : Int)
  | bot (channel key : String) (time : Int)
deriving DecidableEq, Repr

namespace Call

def channel : Call → String
  | human channel _ _ => channel
  | bot channel _ _ => channel

def time : Call → Int
  | human _ _ time => time
  | bot _ _ time => time

/-- When a person wrote, if it was a person. -/
def humanTime? : Call → Option Int
  | human _ _ time => some time
  | bot _ _ _ => none

/-- What a bot wrote, if it was a bot. -/
def output? : Call → Option Output
  | human _ _ _ => none
  | bot _ key time => some ⟨key, time⟩

/-- The message is recorded. -/
def access : Call → Access Unit
  | human channel user time => recordHuman channel user time
  | bot channel key time => recordBot channel key time

end Call

/-- All messages are recorded, one after another. -/
def recordAll : List Call → Access Unit
  | [] => return
  | c :: rest => do
    c.access
    recordAll rest

/-- The messages of a channel. -/
def callsOf (channel : String) (calls : List Call) : List Call := calls.filter (·.channel = channel)

/-- What is known of a channel is when the latest of its messages came, the latest of a person and the latest
of a bot, and which trigger was answered by the latest of a bot, of equally late ones the one recorded last. -/
structure Sums (calls : List Call) (a : Activity) : Prop where
  message : (calls.map Call.time).max? = some a.lastMessageAt
  human : (calls.filterMap Call.humanTime?).max? = a.lastHumanAt
  bot : ((calls.filterMap Call.output?).map Output.time).max? = a.lastBotAt
  trigger : (calls.filterMap Call.output? = [] ∧ a.lastBotTrigger = none) ∨
    ∃ o, Latest (calls.filterMap Call.output?) o ∧ a.lastBotTrigger = some o.triggerKey

/-! ## One more message -/

/-- The latest of one more time, where a missing one counts as zero. -/
theorem max?_concat (times : List Int) {time : Int} (h : 0 ≤ time) :
    (times ++ [time]).max? = some (max (times.max?.getD 0) time) := by
  cases times with
  | nil => exact congrArg some (Int.max_eq_right h).symm
  | cons first rest =>
    rw [List.cons_append, List.max?_cons', List.foldl_append, List.max?_cons']
    rfl

namespace Latest

variable {outputs : List Output} {o : Output}

/-- No message is later than the latest. -/
theorem max?_time (h : Latest outputs o) : (outputs.map Output.time).max? = some o.time := by
  rw [List.max?_eq_some_iff]
  refine ⟨List.mem_map_of_mem h.mem, fun time htime => ?_⟩
  obtain ⟨x, hx, rfl⟩ := List.mem_map.mp htime
  exact h.le hx

end Latest

namespace Call

/-- What is known of a channel after its first message. -/
def first : Call → Activity
  | human channel _ time => ⟨channel, time, some time, none, none⟩
  | bot channel key time => ⟨channel, time, none, some time, some key⟩

/-- What is known of a channel after one more message. -/
def after (a : Activity) : Call → Activity
  | human _ _ time =>
    { a with
      lastMessageAt := max a.lastMessageAt time, lastHumanAt := some (max (a.lastHumanAt.getD 0) time) }
  | bot _ key time =>
    { a with
      lastMessageAt := max a.lastMessageAt time
      lastBotAt := some (max (a.lastBotAt.getD 0) time)
      lastBotTrigger := if a.lastBotAt.getD 0 ≤ time then some key else a.lastBotTrigger }

variable {calls : List Call} {a : Activity}

theorem sums_first (c : Call) : Sums [c] c.first := by
  cases c with
  | human channel user time => exact ⟨rfl, rfl, rfl, .inl ⟨rfl, rfl⟩⟩
  | bot channel key time => exact ⟨rfl, rfl, rfl, .inr ⟨⟨key, time⟩, .single _, rfl⟩⟩

/-- What summed up all messages before sums up one more. A time that never came counts as zero, and no message
is earlier. -/
theorem sums_after (h : Sums calls a) {c : Call} (hc : 0 ≤ c.time) : Sums (calls ++ [c]) (c.after a) := by
  have hmessage : ((calls ++ [c]).map Call.time).max? = some (max a.lastMessageAt c.time) := by
    rw [List.map_append, List.map_singleton, max?_concat _ hc, h.message, Option.getD_some]
  cases c with
  | human channel user time =>
    -- a person's message leaves what is known of bots
    have htime : 0 ≤ time := hc
    have htimes : (calls ++ [human channel user time]).filterMap humanTime? =
        calls.filterMap humanTime? ++ [time] := List.filterMap_append
    have houtputs : (calls ++ [human channel user time]).filterMap output? =
        calls.filterMap output? := List.filterMap_append.trans (List.append_nil _)
    constructor
    · exact hmessage
    · rw [htimes, max?_concat _ htime, h.human]
      rfl
    · rw [houtputs]
      exact h.bot
    · rw [houtputs]
      exact h.trigger
  | bot channel key time =>
    -- a message of a bot leaves what is known of people
    have htime : 0 ≤ time := hc
    have htimes : (calls ++ [bot channel key time]).filterMap humanTime? =
        calls.filterMap humanTime? := List.filterMap_append.trans (List.append_nil _)
    have houtputs : (calls ++ [bot channel key time]).filterMap output? =
        calls.filterMap output? ++ [⟨key, time⟩] := List.filterMap_append
    constructor
    · exact hmessage
    · rw [htimes]
      exact h.human
    · rw [houtputs, List.map_append, List.map_singleton, max?_concat _ htime, h.bot]
      rfl
    · rw [houtputs]
      right
      rcases h.trigger with ⟨hnone, -⟩ | ⟨last, hlast, htrigger⟩
      · -- no bot wrote before
        have hnever : a.lastBotAt = none := by
          rw [← h.bot, hnone]
          rfl
        refine ⟨⟨key, time⟩, ?_, ?_⟩
        · rw [hnone]
          exact .single _
        · rw [after, hnever]
          exact if_pos htime
      · -- the later of two messages is kept, the new one if they are as late
        have htime : a.lastBotAt = some last.time := h.bot.symm.trans hlast.max?_time
        refine ⟨_, hlast.append ⟨key, time⟩, ?_⟩
        rw [after, htime, Option.getD_some, htrigger]
        split <;> rfl

end Call

/-! ## What the store keeps -/

/-- The stored form of what is known of a channel. -/
def toRow (a : Activity) : ActivityRow :=
  ⟨some a.channelId, .number a.lastMessageAt, a.lastHumanAt.map .number, a.lastBotAt.map .number,
    a.lastBotTrigger⟩

/-- It is read as it was stored. -/
theorem readActivity_toRow (a : Activity) : readActivity a.toRow = .ok a := by
  obtain ⟨channel, message, human, bot, trigger⟩ := a
  cases human <;> cases bot <;> rfl

/-- A stored time is raised to a later one, a missing one from zero. -/
theorem laterOf_number (old : Option Int) (time : Int) :
    laterOf (old.map .number) (.number time) = .number (max (old.getD 0) time) := by
  cases old <;> exact Cell.greater_number _ _

/-- What is told of a channel: nothing before its first message, and what sums up all messages after. -/
def Told (calls : List Call) (channel : String) : Option Activity → Prop
  | none => callsOf channel calls = []
  | some a => a.channelId = channel ∧ Sums (callsOf channel calls) a

/-- The store keeps what is known of each channel, and may record more. -/
def Kept (calls : List Call) (t : Tables) : Prop :=
  t.humans.isSome ∧ ∃ known : List Activity,
    t.activity = some (known.map toRow) ∧ (known.map channelId).Nodup ∧
      ∀ channel, Told calls channel (Table.lookup channelId channel known)

theorem Kept.new : Kept [] .empty :=
  ⟨rfl, [], rfl, List.nodup_nil, fun _ => rfl⟩

/-- What is known of the channels after one more message. -/
def Call.put (c : Call) (known : List Activity) : List Activity :=
  Table.put channelId c.first c.after known

namespace Call

theorem channelId_first (c : Call) : c.first.channelId = c.channel := by
  cases c <;> rfl

theorem channelId_after (c : Call) (a : Activity) : (c.after a).channelId = a.channelId := by
  cases c <;> rfl

/-- One more message is told of its channel, and of no other. -/
theorem told_put {calls : List Call} {known : List Activity} {channel : String} {c : Call}
    (h : Told calls channel (Table.lookup channelId channel known)) (hc : 0 ≤ c.time) :
    Told (calls ++ [c]) channel (Table.lookup channelId channel (c.put known)) := by
  have hcalls : callsOf channel (calls ++ [c]) =
      callsOf channel calls ++ if c.channel = channel then [c] else [] := by
    rw [callsOf, List.filter_append, List.filter_singleton]
    simp only [Bool.cond_decide]
    rfl
  rw [put, Table.lookup_put (channelId_after c), channelId_first]
  by_cases hchannel : c.channel = channel
  · -- the channel that was written to
    rw [if_pos hchannel] at hcalls ⊢
    cases hknown : Table.lookup channelId channel known with
    | none =>
      rw [hknown] at h
      have hfirst : callsOf channel calls = [] := h
      refine ⟨(channelId_first c).trans hchannel, ?_⟩
      rw [hcalls, hfirst]
      exact c.sums_first
    | some a =>
      rw [hknown] at h
      refine ⟨(channelId_after c a).trans h.1, ?_⟩
      rw [hcalls]
      exact sums_after h.2 hc
  · -- any other channel
    rw [if_neg hchannel, List.append_nil] at hcalls
    rw [if_neg hchannel]
    cases hknown : Table.lookup channelId channel known with
    | none =>
      rw [hknown] at h
      exact hcalls.trans h
    | some a =>
      rw [hknown] at h
      exact ⟨h.1, hcalls ▸ h.2⟩

/-- A message is recorded in the row of its channel. -/
theorem runs_access (c : Call) {t : Tables} {known : List Activity} (hhumans : t.humans.isSome)
    (hknown : t.activity = some (known.map toRow)) :
    ∃ people, c.access.Runs (.ofTables t) (.ok ())
      (.ofTables { t with activity := some ((c.put known).map toRow), humans := some people }) := by
  obtain ⟨people, hpeople⟩ := Option.isSome_iff_exists.mp hhumans
  have hkey : ∀ a b : Activity, a.toRow.key = b.toRow.key ↔ a.channelId = b.channelId := fun _ _ =>
    Option.some_inj
  cases c with
  | human channel user time =>
    -- two tables are written in one transaction
    have hput : Table.put ActivityRow.key ⟨some channel, .number time, some (.number time), none, none⟩
        (fun r => { r with
          lastMessageAt := r.lastMessageAt.greater (.number time)
          lastHumanAt := some (laterOf r.lastHumanAt (.number time)) }) (known.map toRow) =
        ((human channel user time).put known).map toRow := by
      refine Table.put_map hkey (fun a => ?_) (human channel user time).first known
      simp only [toRow, after, laterOf_number, Cell.greater_number, Option.map_some]
    refine ⟨Table.put HumanRow.key ⟨channel, user, .number time⟩ (fun r => { r with
      lastSeenAt := r.lastSeenAt.greater (.number time) }) people, ?_⟩
    rw [← hput]
    refine runs_atomically_ofTables ((runs_change_ofTables (r := .activity) hknown _).bind ?_)
    refine runs_change_ofTables (r := .humans) ?_ _
    exact hpeople
  | bot channel key time =>
    have hput : Table.put ActivityRow.key
        ⟨some channel, .number time, none, some (.number time), some key⟩ (fun r => { r with
          lastMessageAt := r.lastMessageAt.greater (.number time)
          lastBotTrigger :=
            if (r.lastBotAt.getD (.number 0)).upTo (.number time) then some key else r.lastBotTrigger
          lastBotAt := some (laterOf r.lastBotAt (.number time)) }) (known.map toRow) =
        ((bot channel key time).put known).map toRow := by
      refine Table.put_map hkey (fun a => ?_) (bot channel key time).first known
      -- a missing time counts as zero in the table as well
      have hlast : ((a.lastBotAt.map Cell.number).getD (.number 0)).upTo (.number time) =
          decide (a.lastBotAt.getD 0 ≤ time) := by
        cases a.lastBotAt <;> exact Cell.upTo_number _ _
      simp only [toRow, after, laterOf_number, Cell.greater_number, Option.map_some, hlast,
        decide_eq_true_eq]
    refine ⟨people, ?_⟩
    rw [← hput, ← hpeople]
    exact runs_change_ofTables (r := .activity) hknown _

end Call

/-- The store keeps what is known of the channels when one more message is recorded. -/
theorem Kept.record {calls : List Call} {t : Tables} (h : Kept calls t) {c : Call} (hc : 0 ≤ c.time) :
    ∃ t', c.access.Runs (.ofTables t) (.ok ()) (.ofTables t') ∧ Kept (calls ++ [c]) t' := by
  obtain ⟨hhumans, known, hknown, hkeys, htold⟩ := h
  obtain ⟨people, hrun⟩ := c.runs_access hhumans hknown
  refine ⟨_, hrun, rfl, c.put known, rfl, ?_, fun channel => c.told_put (htold channel) hc⟩
  exact (Table.nodup_put (Call.channelId_after c) known).mpr hkeys

/-- Any number of messages are recorded. -/
theorem Kept.recordAll {before : List Call} {t : Tables} (h : Kept before t) {calls : List Call}
    (hcalls : ∀ c ∈ calls, 0 ≤ c.time) :
    ∃ t', (Activity.recordAll calls).Runs (.ofTables t) (.ok ()) (.ofTables t') ∧
      Kept (before ++ calls) t' := by
  induction calls generalizing before t with
  | nil => exact ⟨t, rfl, (List.append_nil before).symm ▸ h⟩
  | cons c rest ih =>
    obtain ⟨t₁, hfirst, hkept⟩ := h.record (hcalls c List.mem_cons_self)
    obtain ⟨t₂, hrest, hall⟩ := ih hkept fun c' hc' => hcalls c' (List.mem_cons_of_mem c hc')
    refine ⟨t₂, hfirst.bind hrest, ?_⟩
    rwa [List.append_assoc] at hall

/-! ## The order of messages -/

/-- The latest of some times does not depend on their order. -/
theorem max?_perm {times times' : List Int} (h : times.Perm times') : times.max? = times'.max? := by
  cases hmax : times.max? with
  | none =>
    obtain rfl := List.max?_eq_none_iff.mp hmax
    rw [List.nil_perm.mp h]
    rfl
  | some time =>
    obtain ⟨hmem, hle⟩ := List.max?_eq_some_iff.mp hmax
    exact (List.max?_eq_some_iff.mpr ⟨h.mem_iff.mp hmem, fun x hx => hle x (h.mem_iff.mpr hx)⟩).symm

/-- What sums up messages sums them up in any order, if no two of bots came at the same time. -/
theorem Sums.perm {calls calls' : List Call} {a a' : Activity} (h : Sums calls a) (h' : Sums calls' a')
    (hperm : calls.Perm calls') (hdistinct : ((calls.filterMap Call.output?).map Output.time).Nodup)
    (hchannel : a.channelId = a'.channelId) : a = a' := by
  have houtputs := hperm.filterMap Call.output?
  have hmessage : a.lastMessageAt = a'.lastMessageAt :=
    Option.some.inj (h.message.symm.trans ((max?_perm (hperm.map _)).trans h'.message))
  have hhuman : a.lastHumanAt = a'.lastHumanAt :=
    h.human.symm.trans ((max?_perm (hperm.filterMap _)).trans h'.human)
  have hbot : a.lastBotAt = a'.lastBotAt :=
    h.bot.symm.trans ((max?_perm (houtputs.map _)).trans h'.bot)
  have htrigger : a.lastBotTrigger = a'.lastBotTrigger := by
    rcases h.trigger with ⟨hnone, htrigger⟩ | ⟨o, ho, htrigger⟩
    · rcases h'.trigger with ⟨-, htrigger'⟩ | ⟨o', ho', -⟩
      · exact htrigger.trans htrigger'.symm
      · exact absurd (houtputs.mem_iff.mpr ho'.mem) (hnone ▸ List.not_mem_nil)
    · rcases h'.trigger with ⟨hnone, -⟩ | ⟨o', ho', htrigger'⟩
      · exact absurd (houtputs.mem_iff.mp ho.mem) (hnone ▸ List.not_mem_nil)
      · -- the latest of both orders came at the same time
        have htime : o.time = o'.time := by
          have hmax := max?_perm (houtputs.map Output.time)
          rw [ho.max?_time, ho'.max?_time] at hmax
          exact Option.some.inj hmax
        have hsame : o = o' :=
          List.inj_on_of_nodup_map hdistinct ho.mem (houtputs.mem_iff.mpr ho'.mem) htime
        rw [htrigger, htrigger', hsame]
  cases a
  cases a'
  rw [mk.injEq]
  exact ⟨hchannel, hmessage, hhuman, hbot, htrigger⟩

/-- A channel with no message has no latest one. -/
theorem Sums.ne_nil {calls : List Call} {a : Activity} (h : Sums calls a) : calls ≠ [] := by
  rintro rfl
  cases h.message

/-- What is told of a channel is the same for any order. -/
theorem Told.perm {calls calls' : List Call} {channel : String} {found found' : Option Activity}
    (h : Told calls channel found) (h' : Told calls' channel found') (hperm : calls.Perm calls')
    (hdistinct : (((callsOf channel calls).filterMap Call.output?).map Output.time).Nodup) :
    found = found' := by
  have hcalls : (callsOf channel calls).Perm (callsOf channel calls') := hperm.filter _
  cases found with
  | none =>
    have hnone : callsOf channel calls = [] := h
    cases found' with
    | none => rfl
    | some a' => exact absurd (List.nil_perm.mp (hnone ▸ hcalls)) h'.2.ne_nil
  | some a =>
    cases found' with
    | none =>
      have hnone : callsOf channel calls' = [] := h'
      exact absurd (List.perm_nil.mp (hnone ▸ hcalls)) h.2.ne_nil
    | some a' => exact congrArg some (h.2.perm h'.2 hcalls hdistinct (h.1.trans h'.1.symm))

/-! ## What is found -/

section

variable {t : Tables} {known : List Activity}

/-- What is found of a channel is what is known of it. -/
theorem runs_find (hknown : t.activity = some (known.map toRow)) (channel : String) :
    (find? channel).Runs (.ofTables t) (.ok (Table.lookup channelId channel known)) (.ofTables t) := by
  refine runs_query_ofTables hknown ?_
  have hrow : Table.lookup ActivityRow.key (some channel) (known.map toRow) =
      (Table.lookup channelId channel known).map toRow := by
    rw [Table.lookup, Table.lookup, List.find?_map]
    congr 2
    funext a
    exact decide_eq_decide.mpr Option.some_inj
  rw [hrow]
  cases Table.lookup channelId channel known with
  | none => rfl
  | some a =>
    rw [Option.map_some, readRow?, readActivity_toRow]
    rfl

/-- What is known of the channels, by when their latest messages came. -/
def ranked (known : List Activity) : List Activity :=
  known.mergeSort fun a b => byRecency a.toRow b.toRow

/-- The stored rows are ranked as what they stand for. -/
theorem map_ranked (known : List Activity) :
    (ranked known).map toRow = (known.map toRow).mergeSort byRecency :=
  List.map_mergeSort fun _ _ _ _ => rfl

/-- The recent channels are the first of the ranked ones. -/
theorem runs_recentChannels (hknown : t.activity = some (known.map toRow)) (limit : Nat) :
    (recentChannels limit).Runs (.ofTables t)
      (.ok (if limit < 0x8000000000000000 then ((ranked known).map channelId).take limit
        else (ranked known).map channelId)) (.ofTables t) := by
  refine runs_query_ofTables hknown ?_
  have hchannels : ((known.map toRow).mergeSort byRecency).map ActivityRow.channelId =
      ((ranked known).map channelId).map some := by
    rw [← map_ranked, List.map_map, List.map_map]
    rfl
  simp only [hchannels]
  split
  · rw [← List.map_take, readRows_some]
  · rw [readRows_some]

/-- Of two channels, the one with the later message comes first, of equally late ones the one with the
smaller id. -/
theorem ranked_pairwise (hkeys : (known.map channelId).Nodup) :
    (ranked known).Pairwise fun a b =>
      b.lastMessageAt < a.lastMessageAt ∨ b.lastMessageAt = a.lastMessageAt ∧ a.channelId < b.channelId := by
  have hsorted := sorted_mergeSort (known.map toRow)
  rw [← map_ranked, List.pairwise_map] at hsorted
  have hdistinct : (ranked known).Pairwise fun a b => a.channelId ≠ b.channelId := by
    have hperm := (List.mergeSort_perm known fun a b => byRecency a.toRow b.toRow).map channelId
    exact List.pairwise_map.mp (hperm.nodup_iff.mpr hkeys)
  refine (hsorted.and hdistinct).imp fun {a b} ⟨hle, hne⟩ => ?_
  have hrecency : recency a.toRow b.toRow =
      (compare b.lastMessageAt a.lastMessageAt).then (compare a.channelId b.channelId) := rfl
  rw [hrecency] at hle
  rcases lt_trichotomy b.lastMessageAt a.lastMessageAt with hlt | heq | hgt
  · exact .inl hlt
  · rw [heq, compare_eq_iff_eq.mpr rfl, Ordering.eq_then, Ordering.isLE_iff_ne_gt] at hle
    exact .inr ⟨heq, lt_of_le_of_ne (compare_le_iff_le.mp hle) hne⟩
  · rw [compare_gt_iff_gt.mpr hgt] at hle
    cases hle

end

/-! ## After any number of messages -/

/-- These are the channels of the messages, each of them once: the one with the latest message first, of equally
late ones the one with the smaller id. -/
structure Recent (calls : List Call) (channels : List String) : Prop where
  heard : ∀ channel, channel ∈ channels ↔ callsOf channel calls ≠ []
  once : channels.Nodup
  order : channels.Pairwise fun c d => ∀ m n, ((callsOf c calls).map Call.time).max? = some m →
    ((callsOf d calls).map Call.time).max? = some n → n < m ∨ n = m ∧ c < d

/-- The channels that are known are those of the messages. -/
theorem recent_ranked {calls : List Call} {known : List Activity} (hkeys : (known.map channelId).Nodup)
    (htold : ∀ channel, Told calls channel (Table.lookup channelId channel known)) :
    Recent calls ((ranked known).map channelId) := by
  have hperm : ((ranked known).map channelId).Perm (known.map channelId) :=
    (List.mergeSort_perm known _).map channelId
  have hsums : ∀ a ∈ known, Sums (callsOf a.channelId calls) a := by
    intro a ha
    have hknown := htold a.channelId
    rw [(Table.lookup_eq_some hkeys).mpr ⟨ha, rfl⟩] at hknown
    exact hknown.2
  constructor
  · -- a channel is listed if and only if something was said there
    intro channel
    rw [hperm.mem_iff, ← Table.holds_eq_true, ← Bool.not_eq_false, ← Table.lookup_eq_none]
    have hknown := htold channel
    cases hfound : Table.lookup channelId channel known with
    | none =>
      rw [hfound] at hknown
      exact ⟨fun h => absurd rfl h, fun h => absurd hknown h⟩
    | some a =>
      rw [hfound] at hknown
      exact ⟨fun _ => hknown.2.ne_nil, fun _ h => nomatch h⟩
  · exact hperm.nodup_iff.mpr hkeys
  · -- a record has the time of its channel's latest message, so ranked records are ranked messages
    rw [List.pairwise_map]
    refine (ranked_pairwise hkeys).imp_of_mem fun {a b} ha hb hab m n hm hn => ?_
    have hmem : ∀ {x}, x ∈ ranked known → x ∈ known := fun hx =>
      (List.mergeSort_perm known _).mem_iff.mp hx
    obtain rfl := Option.some.inj ((hsums a (hmem ha)).message.symm.trans hm)
    obtain rfl := Option.some.inj ((hsums b (hmem hb)).message.symm.trans hn)
    exact hab

/-- There are no more channels than messages. -/
theorem Recent.length_le {calls : List Call} {channels : List String} (h : Recent calls channels) :
    channels.length ≤ calls.length := by
  have hsubset : channels ⊆ calls.map Call.channel := by
    intro channel hchannel
    obtain ⟨c, hc⟩ := List.exists_mem_of_ne_nil _ ((h.heard channel).mp hchannel)
    obtain ⟨hmem, hsame⟩ := List.mem_filter.mp hc
    exact List.mem_map.mpr ⟨c, hmem, of_decide_eq_true hsame⟩
  have hlength := (List.subperm_of_subset h.once hsubset).length_le
  rwa [List.length_map] at hlength

/-- A reader finds what the store tells after all messages. -/
theorem outcome_recordAll {α : Type} {calls : List Call} {t : Tables} {read : Access α} {found : α}
    (hrun : (recordAll calls).Runs .new (.ok ()) (.ofTables t))
    (hread : read.Runs (.ofTables t) (.ok found) (.ofTables t)) :
    (do recordAll calls; read).outcome .new = .ok found :=
  congrArg Prod.fst (hrun.bind hread)

/-- After messages were recorded in an empty store, what is known of each channel sums up its messages, in
whatever order they came, if no two of its bots came at the same time. The most recently active channels are
the first ones of all, the latest first; a limit of `2 ^ 63` or more is none. -/
theorem recorded (calls : List Call) (hcalls : ∀ c ∈ calls, 0 ≤ c.time) :
    (∀ channel, ∃ found, (do recordAll calls; find? channel).outcome .new = .ok found ∧
      Told calls channel found) ∧
    (∀ calls' channel, calls.Perm calls' →
      (((callsOf channel calls).filterMap Call.output?).map Output.time).Nodup →
        (do recordAll calls'; find? channel).outcome .new =
          (do recordAll calls; find? channel).outcome .new) ∧
    ∃ channels, Recent calls channels ∧
      ∀ limit, ∃ first, (do recordAll calls; recentChannels limit).outcome .new = .ok first ∧
        (limit < 0x8000000000000000 ∨ calls.length ≤ limit → first = channels.take limit) ∧
        (0x8000000000000000 ≤ limit → first = channels) := by
  obtain ⟨t, hrun, -, known, hknown, hkeys, htold⟩ := Kept.new.recordAll hcalls
  refine ⟨fun channel => ?_, fun calls' channel hperm hdistinct => ?_, ?_⟩
  · exact ⟨_, outcome_recordAll hrun (runs_find hknown channel), htold channel⟩
  · obtain ⟨t', hrun', -, known', hknown', -, htold'⟩ :=
      Kept.new.recordAll fun c hc => hcalls c (hperm.mem_iff.mpr hc)
    rw [outcome_recordAll hrun (runs_find hknown channel),
      outcome_recordAll hrun' (runs_find hknown' channel),
      (htold channel).perm (htold' channel) hperm hdistinct]
  · have hrecent := recent_ranked hkeys htold
    refine ⟨_, hrecent, fun limit => ⟨_, outcome_recordAll hrun (runs_recentChannels hknown limit), ?_, ?_⟩⟩
    · intro hlimit
      have hlength := hrecent.length_le
      split
      · rfl
      · rw [List.take_of_length_le]
        exact Nat.le_trans hlength (hlimit.resolve_left ‹_›)
    · intro hlimit
      rw [if_neg (Nat.not_lt.mpr hlimit)]

/-- Messages of people and bots in three channels, some of them late and some at the same time. -/
def sample : List Call :=
  [.human "lobby" "ada" 5, .bot "lobby" "first" 9, .bot "den" "other" 9, .human "lobby" "bob" 3,
    .bot "lobby" "second" 9, .bot "lobby" "late" 2, .human "attic" "eve" 9, .bot "den" "early" 4]

theorem recorded_sample :
    Told sample "lobby" (some ⟨"lobby", 9, some 5, some 9, some "second"⟩) ∧
      (do recordAll sample.reverse; find? "den").outcome .new =
        (do recordAll sample; find? "den").outcome .new ∧
      ∃ channels, Recent sample channels ∧
        ∃ first, (do recordAll sample; recentChannels 2).outcome .new = .ok first ∧
          first = channels.take 2 := by
  obtain ⟨hrow, horder, channels, hrecent, hfirst⟩ := recorded sample (by decide)
  obtain ⟨found, hfound, htold⟩ := hrow "lobby"
  have hlobby : (do recordAll sample; find? "lobby").outcome .new =
      .ok (some ⟨"lobby", 9, some 5, some 9, some "second"⟩) := by decide +kernel
  obtain rfl := Except.ok.inj (hfound.symm.trans hlobby)
  obtain ⟨first, hrun, htake, -⟩ := hfirst 2
  refine ⟨htold, ?_, channels, hrecent, first, hrun, htake (.inl (by decide))⟩
  exact horder _ "den" (List.reverse_perm _).symm (by decide)

end Activity

end TurnTaking
