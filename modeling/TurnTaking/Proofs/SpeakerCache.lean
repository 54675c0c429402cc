import TurnTaking.Proofs.Diversity
import TurnTaking.Proofs.Store.Table

/-!
# Speaker caches — eviction goes unnoticed

When a channel is fetched, the cache forgets other channels whose time is over. What it forgets counted no more
and never counts again, as time only moves forward; so nobody who asks for the messages of a channel can tell
whether anything was done with others in between. Two runs are compared that way: their caches may hold different
entries, but of the channel they hold the same as far as it still counts (`Alike`).

An entry would count again once its age overflows (`eviction_noticed`); the two runs are compared over times that
are less than that apart.

* `Call` — what is done with the cache of an engine, and `answers`, what it answers;
* `Engine.Separate` — services whose answers for a channel do not depend on fetches of others;
* `Sound` — what a cache holds is short enough and written by avatars;
* `Dated` — at some later times, its age is an exact difference;
* `Call.elsewhere`, `Call.together` — one call, in one of two runs and in both;
* `successes_apart` — between two fetches of a channel that succeed its time passes;
* `eviction_unnoticed` — all answers for a channel are those of the calls for that channel alone.
-/

namespace TurnTaking

variable {σ : Type}

/-! ## Services that answer each channel by itself -/

/-- A fetch of the latest messages of a channel. -/
structure Fetch where
  channelId : String
  time : Int
  succeeded : Bool
deriving DecidableEq, Repr

namespace Engine

/-- What comes of a fetch for the speaker cache, and the world after it. -/
def fetch (e : Engine σ) (channel : String) (w : World σ) : Except Fault (List Message) × World σ :=
  (e.outside.fetchRecent channel e.cacheLimits.capacity).run.run w

/-- Of what services hold, a view is all that they answer a channel by, besides the time. It does not change by
fetches of other channels. They keep a log of all fetches, the latest first, and leave the cache of the engine
alone. -/
structure Separate {ν : Type} (e : Engine σ) (view : String → σ → ν) (log : σ → List Fetch) : Prop where
  alike : ∀ channel v w, view channel v.outside = view channel w.outside → v.clock = w.clock →
    (e.fetch channel v).1 = (e.fetch channel w).1 ∧
      view channel (e.fetch channel v).2.outside = view channel (e.fetch channel w).2.outside
  apart : ∀ channel other w, other ≠ channel →
    view channel (e.fetch other w).2.outside = view channel w.outside
  logged : ∀ channel w, log (e.fetch channel w).2.outside =
    ⟨channel, w.clock, (e.fetch channel w).1.isOk⟩ :: log w.outside
  cache : ∀ channel w, (e.fetch channel w).2.caches e.number = w.caches e.number

end Engine

namespace SpeakerCache

/-! ## What is done with a cache -/

/-- What is done with the cache of an engine: the latest messages of a channel are asked for, at some time, a
message that was sent is added, or a channel is forgotten. -/
inductive Call where
  | recent (channel : String) (time : Int)
  | push (m : Message)
  | invalidate (channel : String)
deriving DecidableEq, Repr

namespace Call

/-- The channel that it is about. -/
def channel : Call → String
  | recent channel _ => channel
  | push m => m.channelId
  | invalidate channel => channel

/-- The time at which messages are asked for. -/
def time? : Call → Option Int
  | recent _ time => some time
  | push _ | invalidate _ => none

/-- The message, if one is added, was written by an avatar. -/
def Authored : Call → Prop
  | push m => m.authorIsBot = true
  | recent _ _ | invalidate _ => True

/-- The call as an engine makes it. It answers with messages if they are asked for. -/
def act (e : Engine σ) : Call → Act σ (Option (List Message))
  | recent channel time => do
    modify fun w => { w with clock := time }
    return some (← e.recentMessages channel time)
  | push m => do
    e.updateCache (SpeakerCache.push e.cacheLimits m)
    return none
  | invalidate channel => do
    e.updateCache (SpeakerCache.invalidate channel)
    return none

end Call

/-- All calls, one after another, with their answers. -/
def answers (e : Engine σ) : List Call → Act σ (List (Call × Option (List Message)))
  | [] => return []
  | call :: rest => do
    let answer ← call.act e
    return (call, answer) :: (← answers e rest)

/-- The times at which messages are asked for. -/
def times (calls : List Call) : List Int := calls.filterMap Call.time?

/-! ## Entries -/

/-- What is remembered of a channel, whether it still counts or not. -/
def held? (channel : String) (c : SpeakerCache) : Option Entry :=
  Store.Table.lookup Entry.channelId channel c.entries

/-- What counts of a channel is what is held and fresh. -/
theorem fresh?_eq (l : Limits) (channel : String) (now : Int) (c : SpeakerCache) :
    c.fresh? l channel now = ((c.held? channel).filter (Entry.isFresh l.ttl now)).map Entry.messages :=
  rfl

/-- The entry with one more message. -/
def Entry.push (l : Limits) (m : Message) (e : Entry) : Entry :=
  { e with messages := (m :: e.messages).take l.capacity }

/-- An entry is fresh for less than its span, in words that wrap. -/
theorem isFresh_iff {ttl now : Int} {e : Entry} :
    e.isFresh ttl now = true ↔ Numeral.wrapped (now - e.cachedAt) < ttl :=
  decide_eq_true_iff

/-- What is not yet older than it may be counts. -/
theorem isFresh_of_lt {ttl now : Int} {e : Entry} (hpast : e.cachedAt ≤ now) (h : now - e.cachedAt < ttl) :
    e.isFresh ttl now = true := by
  have hword := Numeral.wrapped_le (n := now - e.cachedAt) (by omega)
  exact isFresh_iff.mpr (by omega)

/-- What counts later counted before, if its age did not overflow. -/
theorem isFresh_of_le {ttl now later : Int} (h : now ≤ later) {e : Entry} (hpast : e.cachedAt ≤ now)
    (hage : later - e.cachedAt < 0x8000000000000000) (hfresh : e.isFresh ttl later = true) :
    e.isFresh ttl now = true := by
  have hexact := Numeral.le_wrapped hage
  exact isFresh_of_lt hpast (by rw [isFresh_iff] at hfresh; omega)

/-- A cache holds at most one entry for a channel, and no entry that is too long or holds what no avatar
wrote. -/
structure Sound (l : Limits) (c : SpeakerCache) : Prop where
  distinct : (c.entries.map Entry.channelId).Nodup
  capped : ∀ e ∈ c.entries, e.messages.length ≤ l.capacity
  authored : ∀ e ∈ c.entries, ∀ m ∈ e.messages, m.authorIsBot = true

/-- At any of these times, the age of what a cache holds is an exact difference. -/
def Dated (times : List Int) (c : SpeakerCache) : Prop :=
  ∀ e ∈ c.entries, ∀ now ∈ times, e.cachedAt ≤ now ∧ now - e.cachedAt < 0x8000000000000000

section

variable {l : Limits} {c : SpeakerCache} {channel other : String} {now : Int} {messages : List Message}
  {m : Message}

/-- A refreshed channel is held as of now. -/
theorem held?_refresh_self :
    (c.refresh l channel now messages).held? channel = some ⟨channel, messages, now⟩ := by
  simp [held?, Store.Table.lookup, refresh]

/-- After a fetch of another channel an entry is still there if it counts. -/
theorem held?_refresh_other (hc : c.Sound l) (h : other ≠ channel) :
    (c.refresh l other now messages).held? channel =
      (c.held? channel).filter (Entry.isFresh l.ttl now) := by
  have hothers : ∀ e : Entry, e.channelId = channel → decide (e.channelId ≠ other) = true := by
    rintro e rfl
    exact decide_eq_true (Ne.symm h)
  have hkept : c.entries.filter (fun e => e.isFresh l.ttl now && e.channelId ≠ other) =
      (c.entries.filter (Entry.isFresh l.ttl now)).filter (·.channelId ≠ other) := by
    rw [List.filter_filter]
    congr 1
    funext e
    rw [Bool.and_comm]
  have hrefresh : (c.refresh l other now messages).held? channel =
      Store.Table.lookup Entry.channelId channel
        (c.entries.filter fun e => e.isFresh l.ttl now && e.channelId ≠ other) := by
    simp [held?, refresh, Store.Table.lookup, h]
  rw [hrefresh, hkept, Store.Table.lookup_filter hothers, Store.Table.lookup_filter_of_nodup hc.distinct]
  rfl

/-- A message is pushed where its channel is held. -/
theorem held?_push (l : Limits) (m : Message) (c : SpeakerCache) (channel : String) :
    (c.push l m).held? channel =
      if m.channelId = channel then (c.held? channel).map (Entry.push l m) else c.held? channel := by
  have hkey : ∀ e : Entry,
      (if e.channelId = m.channelId then e.push l m else e).channelId = e.channelId := by
    intro e
    split <;> rfl
  have hlookup := Store.Table.lookup_map (k := channel) hkey c.entries
  refine hlookup.trans ?_
  cases hentry : Store.Table.lookup Entry.channelId channel c.entries with
  | none =>
    rw [held?, hentry]
    simp
  | some e =>
    have hchannel : e.channelId = channel := Store.Table.key_of_lookup hentry
    rw [held?, hentry, Option.map_some, Option.map_some, hchannel]
    by_cases hm : m.channelId = channel
    · rw [if_pos hm, if_pos hm.symm]
    · rw [if_neg hm, if_neg (Ne.symm hm)]

/-- A message that is added does not change whether the entry counts. -/
theorem filter_isFresh_push (l : Limits) (now : Int) (m : Message) (held : Option Entry) :
    (held.map (Entry.push l m)).filter (Entry.isFresh l.ttl now) =
      (held.filter (Entry.isFresh l.ttl now)).map (Entry.push l m) := by
  cases held with
  | none => rfl
  | some entry =>
    have hsame : (entry.push l m).isFresh l.ttl now = entry.isFresh l.ttl now := rfl
    rw [Option.map_some, Option.filter_some, Option.filter_some, hsame]
    split <;> rfl

theorem held?_invalidate_self : (c.invalidate channel).held? channel = none := by
  simp [held?, Store.Table.lookup, invalidate]

theorem held?_invalidate_other (h : other ≠ channel) :
    (c.invalidate other).held? channel = c.held? channel := by
  refine Store.Table.lookup_filter (fun e he => ?_) c.entries
  subst he
  exact decide_eq_true (Ne.symm h)

end

namespace Sound

variable {l : Limits} {c : SpeakerCache} {channel : String} {now : Int} {messages : List Message}
  {m : Message}

theorem empty (l : Limits) : Sound l .empty where
  distinct := List.nodup_nil
  capped _ h := absurd h List.not_mem_nil
  authored _ h := absurd h List.not_mem_nil

/-- What is kept of fetched messages is short enough and written by avatars. -/
theorem kept (l : Limits) (fetched : List Message) :
    (kept l fetched).length ≤ l.capacity ∧ ∀ m ∈ SpeakerCache.kept l fetched, m.authorIsBot = true := by
  constructor
  · exact List.length_take_le _ _
  · intro m hm
    exact (List.mem_filter.mp (List.mem_of_mem_take hm)).2

/-- A cache stays sound when it is refreshed with messages of bots. -/
theorem refresh (h : Sound l c) (hlength : messages.length ≤ l.capacity)
    (hauthored : ∀ m ∈ messages, m.authorIsBot = true) : Sound l (c.refresh l channel now messages) := by
  constructor
  · refine List.nodup_cons.mpr ⟨?_, h.distinct.sublist (List.filter_sublist.map _)⟩
    intro hmem
    obtain ⟨e, he, hchannel⟩ := List.mem_map.mp hmem
    have hother := (List.mem_filter.mp he).2
    simp only [Bool.and_eq_true, decide_eq_true_eq] at hother
    exact hother.2 hchannel
  · intro e he
    rcases List.mem_cons.mp he with rfl | he
    · exact hlength
    · exact h.capped e (List.mem_filter.mp he).1
  · intro e he
    rcases List.mem_cons.mp he with rfl | he
    · exact hauthored
    · exact h.authored e (List.mem_filter.mp he).1

/-- A cache stays sound with one more message of a bot. -/
theorem push (h : Sound l c) (hm : m.authorIsBot = true) : Sound l (c.push l m) := by
  constructor
  · have hkeys : (c.push l m).entries.map Entry.channelId = c.entries.map Entry.channelId := by
      refine Store.Table.map_key (fun e => ?_) c.entries
      split <;> rfl
    rw [hkeys]
    exact h.distinct
  · intro e' he'
    obtain ⟨e, he, rfl⟩ := List.mem_map.mp he'
    split
    · exact List.length_take_le _ _
    · exact h.capped e he
  · intro e' he' x hx
    obtain ⟨e, he, rfl⟩ := List.mem_map.mp he'
    split at hx
    · rcases List.mem_cons.mp (List.mem_of_mem_take hx) with rfl | hx
      · exact hm
      · exact h.authored e he x hx
    · exact h.authored e he x hx

theorem invalidate (h : Sound l c) (channel : String) : Sound l (c.invalidate channel) where
  distinct := h.distinct.sublist (List.filter_sublist.map _)
  capped e he := h.capped e (List.mem_filter.mp he).1
  authored e he := h.authored e (List.mem_filter.mp he).1

end Sound

namespace Dated

variable {l : Limits} {c : SpeakerCache} {channel : String} {time : Int} {messages : List Message}
  {ts ts' : List Int}

theorem mono (h : Dated ts c) (hless : ∀ now ∈ ts', now ∈ ts) : Dated ts' c :=
  fun e he now hnow => h e he now (hless now hnow)

/-- An entry that is made now is dated, if the times to come are not too far off. -/
theorem refresh (h : Dated ts c)
    (htime : ∀ now ∈ ts, time ≤ now ∧ now - time < 0x8000000000000000) :
    Dated ts (c.refresh l channel time messages) := by
  intro e he
  rcases List.mem_cons.mp he with rfl | he
  · exact htime
  · exact h e (List.mem_filter.mp he).1

theorem push (h : Dated ts c) (m : Message) : Dated ts (c.push l m) := by
  intro e' he'
  obtain ⟨e, he, rfl⟩ := List.mem_map.mp he'
  split
  · exact h e he
  · exact h e he

theorem invalidate (h : Dated ts c) (channel : String) : Dated ts (c.invalidate channel) :=
  fun e he => h e (List.mem_filter.mp he).1

end Dated

/-! ## One call -/

section

variable {ν : Type} {e : Engine σ} {view : String → σ → ν} {log : σ → List Fetch}

/-- The speaker cache of the engine in a world. -/
def of (e : Engine σ) (w : World σ) : SpeakerCache := w.caches e.number

/-- What asking for the messages of a channel comes to: those that are remembered and still count, or those that
a fetch at that time brings. A fetch that fails brings none and is not remembered. -/
inductive Asked (e : Engine σ) (channel : String) (now : Int) (w : World σ) :
    List Message → World σ → Prop where
  | remembered {messages : List Message}
      (held : (of e w).fresh? e.cacheLimits channel now = some messages) :
      Asked e channel now w messages { w with clock := now }
  | fetched {messages : List Message} {w' w'' : World σ}
      (stale : (of e w).fresh? e.cacheLimits channel now = none)
      (answer : e.fetch channel { w with clock := now } = (.ok messages, w'))
      (outside : w''.outside = w'.outside)
      (cache : of e w'' = (of e w').refresh e.cacheLimits channel now (kept e.cacheLimits messages)) :
      Asked e channel now w (kept e.cacheLimits messages) w''
  | failed {f : Fault} {w' : World σ} (stale : (of e w).fresh? e.cacheLimits channel now = none)
      (answer : e.fetch channel { w with clock := now } = (.error f, w')) : Asked e channel now w [] w'

/-- Asking for messages comes to one of these. -/
theorem run_recent (e : Engine σ) (channel : String) (now : Int) (w : World σ) :
    ∃ messages w', ((Call.recent channel now).act e).run w = (some messages, w') ∧
      Asked e channel now w messages w' := by
  have hlook : (get : Act σ (World σ)).run { w with clock := now } =
      ({ w with clock := now }, { w with clock := now }) := rfl
  have hact : ((Call.recent channel now).act e).run w =
      (some ((e.recentMessages channel now).run { w with clock := now }).1,
        ((e.recentMessages channel now).run { w with clock := now }).2) := rfl
  refine ⟨_, _, hact, ?_⟩
  cases hfresh : (of e w).fresh? e.cacheLimits channel now with
  | some held =>
    rw [Diversity.run_recentMessages_of_held (w := { w with clock := now }) hfresh]
    exact .remembered hfresh
  | none =>
    have hnone : (({ w with clock := now } : World σ).caches e.number).fresh? e.cacheLimits channel now =
        none := hfresh
    rw [Engine.recentMessages, run_bind_of hlook, hnone]
    rcases hfetch : e.fetch channel { w with clock := now } with ⟨f | messages, w'⟩
    · rw [run_bind_of hfetch]
      exact .failed hfresh hfetch
    · rw [run_bind_of hfetch]
      refine .fetched hfresh hfetch rfl ?_
      exact if_pos rfl

/-- A fetch leaves the cache as it is. -/
theorem of_fetch (h : e.Separate view log) {channel : String} {now : Int} {w w' : World σ}
    {r : Except Fault (List Message)} (answer : e.fetch channel { w with clock := now } = (r, w')) :
    of e w' = of e w := by
  have hkept := h.cache channel { w with clock := now }
  rw [answer] at hkept
  exact hkept

/-- To ask leaves the cache sound. -/
theorem Asked.sound {channel : String} {now : Int} {w w' : World σ} {messages : List Message}
    (ha : Asked e channel now w messages w') (h : e.Separate view log)
    (hw : Sound e.cacheLimits (of e w)) :
    Sound e.cacheLimits (of e w') ∧
      messages.length ≤ e.cacheLimits.capacity ∧ ∀ m ∈ messages, m.authorIsBot = true := by
  cases ha with
  | remembered held =>
    rw [fresh?_eq, Option.map_eq_some_iff] at held
    obtain ⟨entry, hentry, rfl⟩ := held
    have hmem := List.mem_of_find?_eq_some (Option.filter_eq_some_iff.mp hentry).1
    exact ⟨hw, hw.capped _ hmem, hw.authored _ hmem⟩
  | fetched stale answer outside cache =>
    rename_i fetched w₁
    obtain ⟨hlength, hauthored⟩ := Sound.kept e.cacheLimits fetched
    rw [cache, of_fetch h answer]
    exact ⟨hw.refresh hlength hauthored, hlength, hauthored⟩
  | failed stale answer =>
    rw [of_fetch h answer]
    exact ⟨hw, Nat.zero_le _, fun m hm => absurd hm List.not_mem_nil⟩

theorem of_push (e : Engine σ) (m : Message) (w : World σ) :
    of e (((Call.push m).act e).run w).2 = (of e w).push e.cacheLimits m :=
  if_pos rfl

theorem of_invalidate (e : Engine σ) (channel : String) (w : World σ) :
    of e (((Call.invalidate channel).act e).run w).2 = (of e w).invalidate channel :=
  if_pos rfl

/-- A call leaves a cache sound, and answers with messages that are. -/
theorem Call.sound (h : e.Separate view log) {call : Call} (hcall : call.Authored) {w : World σ}
    (hw : Sound e.cacheLimits (of e w)) :
    Sound e.cacheLimits (of e ((call.act e).run w).2) ∧
      ∀ messages, ((call.act e).run w).1 = some messages →
        messages.length ≤ e.cacheLimits.capacity ∧ ∀ m ∈ messages, m.authorIsBot = true := by
  cases call with
  | recent channel now =>
    obtain ⟨messages, w', hrun, ha⟩ := run_recent e channel now w
    rw [hrun]
    obtain ⟨hsound, hmessages⟩ := ha.sound h hw
    refine ⟨hsound, fun messages' hm => ?_⟩
    obtain rfl := Option.some.inj hm
    exact hmessages
  | push m =>
    rw [of_push]
    exact ⟨hw.push hcall, fun _ hm => nomatch hm⟩
  | invalidate channel =>
    rw [of_invalidate]
    exact ⟨hw.invalidate channel, fun _ hm => nomatch hm⟩

/-- What a call puts into the cache has an exact age, too, at times that are not too late. -/
theorem Call.dated (h : e.Separate view log) {call : Call} {w : World σ} {ts : List Int}
    (hw : Dated (call.time?.toList ++ ts) (of e w))
    (hlater : ∀ time ∈ call.time?, ∀ now ∈ ts, time ≤ now ∧ now - time < 0x8000000000000000) :
    Dated ts (of e ((call.act e).run w).2) := by
  have hrest : Dated ts (of e w) := hw.mono fun _ => List.mem_append_right _
  cases call with
  | recent channel time =>
    obtain ⟨messages, w', hrun, ha⟩ := run_recent e channel time w
    rw [hrun]
    cases ha with
    | remembered held => exact hrest
    | fetched stale answer outside cache =>
      rw [cache, of_fetch h answer]
      exact hrest.refresh (hlater time rfl)
    | failed stale answer =>
      rw [of_fetch h answer]
      exact hrest
  | push m =>
    rw [of_push]
    exact hrest.push m
  | invalidate channel =>
    rw [of_invalidate]
    exact hrest.invalidate channel

/-! ## A call in one of two runs, and in both -/

/-- At any of these times, two caches hold the same of a channel as far as it counts. -/
def Alike (l : Limits) (channel : String) (times : List Int) (c c' : SpeakerCache) : Prop :=
  ∀ now ∈ times, (c.held? channel).filter (Entry.isFresh l.ttl now) =
    (c'.held? channel).filter (Entry.isFresh l.ttl now)

namespace Alike

variable {l : Limits} {channel : String} {c c' c'' : SpeakerCache} {ts : List Int}

theorem refl (l : Limits) (channel : String) (ts : List Int) (c : SpeakerCache) : Alike l channel ts c c :=
  fun _ _ => rfl

theorem symm (h : Alike l channel ts c c') : Alike l channel ts c' c :=
  fun now hnow => (h now hnow).symm

theorem trans (h : Alike l channel ts c c') (h' : Alike l channel ts c' c'') : Alike l channel ts c c'' :=
  fun now hnow => (h now hnow).trans (h' now hnow)

/-- Caches that hold the same are alike. -/
theorem of_held?_eq (h : c.held? channel = c'.held? channel) : Alike l channel ts c c' := by
  intro now _
  rw [h]

/-- Alike caches tell the same at the times that count. -/
theorem fresh?_eq {now : Int} (h : Alike l channel ts c c') (hnow : now ∈ ts) :
    c.fresh? l channel now = c'.fresh? l channel now := by
  rw [SpeakerCache.fresh?_eq, SpeakerCache.fresh?_eq, h now hnow]

/-- What a fetch of another channel forgets of a channel does not count later. -/
theorem refresh_other {other : String} {time : Int} {messages : List Message} (hc : c.Sound l)
    (hdated : Dated (time :: ts) c) (hother : other ≠ channel) (hlater : ∀ now ∈ ts, time ≤ now) :
    Alike l channel ts c (c.refresh l other time messages) := by
  intro now hnow
  rw [held?_refresh_other hc hother]
  cases hheld : c.held? channel with
  | none => rfl
  | some entry =>
    have hentry := hdated entry (List.mem_of_find?_eq_some hheld)
    obtain ⟨hpast, -⟩ := hentry time List.mem_cons_self
    obtain ⟨-, hage⟩ := hentry now (List.mem_cons_of_mem _ hnow)
    rw [Option.filter_filter, Option.filter_some, Option.filter_some]
    cases hlate : entry.isFresh l.ttl now with
    | false => simp
    | true => simp [isFresh_of_le (hlater now hnow) hpast hage hlate]

/-- A message that is added to both changes neither what counts. -/
theorem push (h : Alike l channel ts c c') (m : Message) :
    Alike l channel ts (c.push l m) (c'.push l m) := by
  intro now hnow
  rw [held?_push, held?_push]
  split
  · rw [filter_isFresh_push, filter_isFresh_push, h now hnow]
  · exact h now hnow

end Alike

/-- A call for another channel leaves all that counts of a channel later, and what services answer for it. -/
theorem Call.elsewhere (h : e.Separate view log) {call : Call} {channel : String}
    (hother : call.channel ≠ channel) {w : World σ} (hw : Sound e.cacheLimits (of e w)) {ts : List Int}
    (hdated : Dated (call.time?.toList ++ ts) (of e w))
    (hlater : ∀ time ∈ call.time?, ∀ now ∈ ts, time ≤ now) :
    Alike e.cacheLimits channel ts (of e w) (of e ((call.act e).run w).2) ∧
      view channel ((call.act e).run w).2.outside = view channel w.outside := by
  cases call with
  | recent other time =>
    -- another channel is asked for, and perhaps refreshed
    have hapart : ∀ {r w'}, e.fetch other { w with clock := time } = (r, w') →
        view channel w'.outside = view channel w.outside := by
      intro r w' answer
      have hkept := h.apart channel other { w with clock := time } hother
      rw [answer] at hkept
      exact hkept
    obtain ⟨messages, w', hrun, ha⟩ := run_recent e other time w
    rw [hrun]
    cases ha with
    | remembered held => exact ⟨.refl _ _ _ _, rfl⟩
    | fetched stale answer outside cache =>
      constructor
      · rw [cache, of_fetch h answer]
        exact .refresh_other hw hdated hother (hlater time rfl)
      · rw [outside]
        exact hapart answer
    | failed stale answer =>
      constructor
      · rw [of_fetch h answer]
        exact .refl _ _ _ _
      · exact hapart answer
  | push m =>
    -- a message for another channel
    refine ⟨.of_held?_eq ?_, rfl⟩
    rw [of_push, held?_push]
    exact (if_neg hother).symm
  | invalidate other =>
    refine ⟨.of_held?_eq ?_, rfl⟩
    rw [of_invalidate]
    exact (held?_invalidate_other hother).symm

/-- Messages that are asked for in both runs are the same, and what counts of the channel later is the same
again. -/
theorem Asked.together (h : e.Separate view log) {channel : String} {now : Int} {v v' w w' : World σ}
    {messages messages' : List Message} (hv : Asked e channel now v messages v')
    (hw : Asked e channel now w messages' w') {ts : List Int}
    (halike : Alike e.cacheLimits channel (now :: ts) (of e v) (of e w))
    (hview : view channel v.outside = view channel w.outside) :
    messages = messages' ∧ Alike e.cacheLimits channel ts (of e v') (of e w') ∧
      view channel v'.outside = view channel w'.outside := by
  have hfresh := halike.fresh?_eq List.mem_cons_self
  have hrest : Alike e.cacheLimits channel ts (of e v) (of e w) :=
    fun later hlater => halike later (List.mem_cons_of_mem _ hlater)
  obtain ⟨hsame, hviews⟩ := h.alike channel { v with clock := now } { w with clock := now } hview rfl
  cases hv with
  | remembered held =>
    -- what counts in one cache counts in the other
    rw [held] at hfresh
    cases hw with
    | remembered held' => exact ⟨Option.some.inj (hfresh.trans held'), hrest, hview⟩
    | fetched stale' => exact nomatch hfresh.trans stale'
    | failed stale' => exact nomatch hfresh.trans stale'
  | fetched stale answer outside cache =>
    -- nothing counts in either, and both ask
    rw [stale] at hfresh
    cases hw with
    | remembered held' => exact nomatch hfresh.trans held'
    | fetched stale' answer' outside' cache' =>
      rw [answer, answer'] at hsame hviews
      obtain rfl := Except.ok.inj hsame
      refine ⟨rfl, .of_held?_eq ?_, ?_⟩
      · rw [cache, cache', held?_refresh_self, held?_refresh_self]
      · rw [outside, outside']
        exact hviews
    | failed stale' answer' =>
      rw [answer, answer'] at hsame
      exact nomatch hsame
  | failed stale answer =>
    -- both ask, and both fail
    rw [stale] at hfresh
    cases hw with
    | remembered held' => exact nomatch hfresh.trans held'
    | fetched stale' answer' =>
      rw [answer, answer'] at hsame
      exact nomatch hsame
    | failed stale' answer' =>
      rw [answer, answer'] at hviews
      rw [of_fetch h answer, of_fetch h answer']
      exact ⟨rfl, hrest, hviews⟩

/-- A call for the channel in both runs is answered alike, and what counts later is the same again. -/
theorem Call.together (h : e.Separate view log) (call : Call) {v w : World σ} {ts : List Int}
    (halike : Alike e.cacheLimits call.channel (call.time?.toList ++ ts) (of e v) (of e w))
    (hview : view call.channel v.outside = view call.channel w.outside) :
    ((call.act e).run v).1 = ((call.act e).run w).1 ∧
      Alike e.cacheLimits call.channel ts (of e ((call.act e).run v).2) (of e ((call.act e).run w).2) ∧
      view call.channel ((call.act e).run v).2.outside = view call.channel ((call.act e).run w).2.outside := by
  cases call with
  | recent channel now =>
    obtain ⟨messages, v', hrunv, hv⟩ := run_recent e channel now v
    obtain ⟨messages', w', hrunw, hw⟩ := run_recent e channel now w
    obtain ⟨hmessages, hafter⟩ := Asked.together h hv hw halike hview
    rw [hrunv, hrunw, hmessages]
    exact ⟨rfl, hafter⟩
  | push m =>
    rw [of_push, of_push]
    exact ⟨rfl, halike.push m, hview⟩
  | invalidate channel =>
    refine ⟨rfl, .of_held?_eq ?_, hview⟩
    rw [of_invalidate, of_invalidate, Call.channel, held?_invalidate_self, held?_invalidate_self]

/-! ## All calls -/

/-- The first call answers before the others. -/
theorem run_answers_cons (e : Engine σ) (call : Call) (calls : List Call) (w : World σ) :
    (answers e (call :: calls)).run w =
      ((call, ((call.act e).run w).1) :: ((answers e calls).run ((call.act e).run w).2).1,
        ((answers e calls).run ((call.act e).run w).2).2) :=
  rfl

theorem run_answers_append (e : Engine σ) (before during : List Call) (w : World σ) :
    ((answers e (before ++ during)).run w).2 = ((answers e during).run ((answers e before).run w).2).2 := by
  induction before generalizing w with
  | nil => rfl
  | cons call before ih =>
    rw [List.cons_append, run_answers_cons, run_answers_cons]
    exact ih _

theorem times_cons (call : Call) (calls : List Call) :
    times (call :: calls) = call.time?.toList ++ times calls := by
  cases hcall : call.time? <;> simp [times, hcall]

/-- What relates each time to all later ones relates that of the first call to the others. -/
theorem pairwise_times_cons {R : Int → Int → Prop} {call : Call} {calls : List Call}
    (h : (times (call :: calls)).Pairwise R) :
    (∀ time ∈ call.time?, ∀ now ∈ times calls, R time now) ∧ (times calls).Pairwise R := by
  rw [times_cons, List.pairwise_append] at h
  refine ⟨fun time htime => h.2.2 time ?_, h.2.1⟩
  exact Option.mem_toList.mpr htime

/-- Every answer is short enough and written by avatars. -/
theorem answers_sound (h : e.Separate view log) {calls : List Call} (hcalls : ∀ call ∈ calls, call.Authored)
    {w : World σ} (hw : Sound e.cacheLimits (of e w)) :
    Sound e.cacheLimits (of e ((answers e calls).run w).2) ∧
      ∀ call messages, (call, some messages) ∈ ((answers e calls).run w).1 →
        messages.length ≤ e.cacheLimits.capacity ∧ ∀ m ∈ messages, m.authorIsBot = true := by
  induction calls generalizing w with
  | nil => exact ⟨hw, fun _ _ hmem => nomatch hmem⟩
  | cons call calls ih =>
    obtain ⟨hcall, hcalls⟩ := List.forall_mem_cons.mp hcalls
    obtain ⟨hafter, hanswer⟩ := Call.sound h hcall hw
    obtain ⟨hsound, hanswers⟩ := ih hcalls hafter
    rw [run_answers_cons]
    refine ⟨hsound, fun call' messages hmem => ?_⟩
    rcases List.mem_cons.mp hmem with heq | hmem
    · exact hanswer messages (Prod.ext_iff.mp heq).2.symm
    · exact hanswers call' messages hmem

/-- Two runs, one with all calls and one with those for a channel, answer alike for it. -/
theorem answers_alike (h : e.Separate view log) (channel : String) {calls : List Call}
    (hcalls : ∀ call ∈ calls, call.Authored) (hordered : (times calls).Pairwise (· ≤ ·))
    (hnear : (times calls).Pairwise fun s t => t - s < 0x8000000000000000) {v w : World σ}
    (hv : Sound e.cacheLimits (of e v)) (hdated : Dated (times calls) (of e v))
    (halike : Alike e.cacheLimits channel (times calls) (of e v) (of e w))
    (hview : view channel v.outside = view channel w.outside) :
    ((answers e calls).run v).1.filter (·.1.channel = channel) =
      ((answers e (calls.filter (·.channel = channel))).run w).1 := by
  induction calls generalizing v w with
  | nil => rfl
  | cons call calls ih =>
    obtain ⟨hcall, hcalls⟩ := List.forall_mem_cons.mp hcalls
    obtain ⟨hlater, hordered⟩ := pairwise_times_cons hordered
    obtain ⟨hclose, hnear⟩ := pairwise_times_cons hnear
    have hv' := (Call.sound h hcall hv).1
    rw [times_cons] at halike hdated
    have hdated' := Call.dated h hdated fun time htime now hnow =>
      ⟨hlater time htime now hnow, hclose time htime now hnow⟩
    rw [run_answers_cons]
    by_cases hchannel : call.channel = channel
    · subst hchannel
      obtain ⟨hanswer, hafter, hviews⟩ := Call.together h call halike hview
      rw [List.filter_cons_of_pos (by simp), List.filter_cons_of_pos (by simp), run_answers_cons, hanswer,
        ih hcalls hordered hnear hv' hdated' hafter hviews]
    · have hrest : Alike e.cacheLimits channel (times calls) (of e v) (of e w) :=
        fun now hnow => halike now (List.mem_append_right _ hnow)
      obtain ⟨hkept, hviews⟩ := Call.elsewhere h hchannel hv hdated hlater
      rw [List.filter_cons_of_neg (by simpa using hchannel), List.filter_cons_of_neg (by simpa using hchannel)]
      exact ih hcalls hordered hnear hv' hdated' (hkept.symm.trans hrest) (hviews.trans hview)

/-! ## Time between fetches -/

/-- The times of all successful fetches of a channel, the latest first. -/
def successes (channel : String) (fetches : List Fetch) : List Int :=
  (fetches.filter fun f => f.channelId = channel && f.succeeded).map Fetch.time

/-- At any of these times, something is remembered of the channel unless its time is over since then. -/
def Held (l : Limits) (channel : String) (since : Int) (times : List Int) (c : SpeakerCache) : Prop :=
  ∀ now ∈ times, now - since < l.ttl → (c.fresh? l channel now).isSome = true

/-- Only asking for the messages of a channel fetches it, if none are remembered; those that a fetch brings are
remembered from then on. -/
theorem Call.successes_cases (h : e.Separate view log) (call : Call) (channel : String) (w : World σ) :
    successes channel (log ((call.act e).run w).2.outside) = successes channel (log w.outside) ∨
      ∃ now, call = .recent channel now ∧ (of e w).fresh? e.cacheLimits channel now = none ∧
        successes channel (log ((call.act e).run w).2.outside) = now :: successes channel (log w.outside) ∧
        ∀ ts, (∀ later ∈ ts, now ≤ later) →
          Held e.cacheLimits channel now ts (of e ((call.act e).run w).2) := by
  cases call with
  | recent other now =>
    have hlogged := h.logged other { w with clock := now }
    obtain ⟨messages, w', hrun, ha⟩ := run_recent e other now w
    rw [hrun]
    cases ha with
    | remembered held => exact .inl rfl
    | fetched stale answer outside cache =>
      -- the fetch is logged, and from now on the entry counts
      rename_i fetched w₁
      rw [answer] at hlogged
      rw [outside, hlogged]
      by_cases hchannel : other = channel
      · subst hchannel
        refine .inr ⟨now, rfl, stale, by simp [successes, Except.isOk, Except.toBool], ?_⟩
        intro ts hlater later hmem hcounts
        have hfresh := isFresh_of_lt (e := ⟨other, kept e.cacheLimits fetched, now⟩) (hlater later hmem) hcounts
        rw [cache, fresh?_eq, held?_refresh_self, Option.filter_some, if_pos hfresh]
        rfl
      · exact .inl (by simp [successes, hchannel])
    | failed stale answer =>
      -- a fetch that fails is no success
      rw [answer] at hlogged
      rw [hlogged]
      exact .inl (by simp [successes, Except.isOk, Except.toBool])
  | push m => exact .inl rfl
  | invalidate other => exact .inl rfl

/-- What is remembered of a channel outlives a fetch of another one, as long as its time is not over. -/
theorem Held.refresh_other {l : Limits} {c : SpeakerCache} {channel other : String} {since time : Int}
    {messages : List Message} {ts : List Int} (h : Held l channel since (time :: ts) c) (hc : c.Sound l)
    (hother : other ≠ channel) (hlater : ∀ now ∈ ts, time ≤ now) :
    Held l channel since ts (c.refresh l other time messages) := by
  intro later hmem hcounts
  have hbefore := h later (List.mem_cons_of_mem _ hmem) hcounts
  have hnow := hlater later hmem
  have hmeanwhile := h time List.mem_cons_self (by omega)
  rw [fresh?_eq, Option.isSome_map] at hbefore hmeanwhile ⊢
  rw [held?_refresh_other hc hother]
  cases hheld : c.held? channel with
  | none =>
    rw [hheld] at hbefore
    exact hbefore
  | some entry =>
    rw [hheld, Option.isSome_filter, Option.any_some] at hbefore hmeanwhile
    rw [Option.filter_some, if_pos hmeanwhile, Option.isSome_filter, Option.any_some]
    exact hbefore

/-- As long as its time is not over, only forgetting the channel ends that it is remembered. -/
theorem Call.held (h : e.Separate view log) {call : Call} {channel : String}
    (hcall : call ≠ .invalidate channel) {w : World σ} (hw : Sound e.cacheLimits (of e w)) {since : Int}
    {ts : List Int} (hlater : ∀ time ∈ call.time?, ∀ now ∈ ts, time ≤ now)
    (hheld : Held e.cacheLimits channel since (call.time?.toList ++ ts) (of e w)) :
    Held e.cacheLimits channel since ts (of e ((call.act e).run w).2) := by
  have hrest : Held e.cacheLimits channel since ts (of e w) :=
    fun later hmem => hheld later (List.mem_append_right _ hmem)
  cases call with
  | recent asked now =>
    obtain ⟨messages, w', hrun, ha⟩ := run_recent e asked now w
    rw [hrun]
    cases ha with
    | remembered held => exact hrest
    | fetched stale answer outside cache =>
      rw [cache, of_fetch h answer]
      by_cases hchannel : asked = channel
      · -- it is not fetched before its time is over
        subst hchannel
        intro later hmem hcounts
        have hnow := hlater now rfl later hmem
        have hfresh := hheld now List.mem_cons_self (by omega)
        exact absurd hfresh (by simp [stale])
      · exact hheld.refresh_other hw hchannel (hlater now rfl)
    | failed stale answer =>
      rw [of_fetch h answer]
      exact hrest
  | push m =>
    intro later hmem hcounts
    have hbefore := hrest later hmem hcounts
    rw [of_push, fresh?_eq, held?_push]
    rw [fresh?_eq] at hbefore
    split
    · rw [filter_isFresh_push, Option.isSome_map, Option.isSome_map]
      rwa [Option.isSome_map] at hbefore
    · exact hbefore
  | invalidate forgotten =>
    have hother : forgotten ≠ channel := fun hsame => hcall (congrArg Call.invalidate hsame)
    intro later hmem hcounts
    rw [of_invalidate, fresh?_eq, held?_invalidate_other hother]
    exact hrest later hmem hcounts

/-- Between successful fetches of a channel its time passes, as long as it is not forgotten; also between any time
from which it is remembered and the first of them. -/
theorem successes_apart (h : e.Separate view log) {channel : String} {calls : List Call}
    (hcalls : ∀ call ∈ calls, call.Authored) (hordered : (times calls).Pairwise (· ≤ ·))
    (hnever : .invalidate channel ∉ calls) {w : World σ} (hw : Sound e.cacheLimits (of e w)) :
    ∃ recent, successes channel (log ((answers e calls).run w).2.outside) =
        recent ++ successes channel (log w.outside) ∧
      recent.Pairwise (fun later earlier => e.cacheLimits.ttl ≤ later - earlier) ∧
      ∀ since, Held e.cacheLimits channel since (times calls) (of e w) →
        ∀ time ∈ recent, e.cacheLimits.ttl ≤ time - since := by
  induction calls generalizing w with
  | nil => exact ⟨[], rfl, .nil, fun _ _ _ hmem => absurd hmem List.not_mem_nil⟩
  | cons call calls ih =>
    obtain ⟨hcall, hcalls⟩ := List.forall_mem_cons.mp hcalls
    obtain ⟨hlater, hordered⟩ := pairwise_times_cons hordered
    rw [List.mem_cons, not_or] at hnever
    obtain ⟨hother, hnever⟩ := hnever
    have hw' := (Call.sound h hcall hw).1
    have hheld : ∀ since, Held e.cacheLimits channel since (times (call :: calls)) (of e w) →
        Held e.cacheLimits channel since (times calls) (of e ((call.act e).run w).2) := by
      intro since hsince
      rw [times_cons] at hsince
      exact Call.held h (Ne.symm hother) hw hlater hsince
    obtain ⟨recent, hrecent, hapart, hsince⟩ := ih hcalls hordered hnever hw'
    rw [run_answers_cons]
    rcases Call.successes_cases h call channel w with hnone | ⟨now, rfl, hstale, hnow, hfrom⟩
    · refine ⟨recent, by rw [hrecent, hnone], hapart, fun since hbefore => hsince since (hheld since hbefore)⟩
    · refine ⟨recent ++ [now], by simp [hrecent, hnow], ?_, ?_⟩
      · refine List.pairwise_append.mpr ⟨hapart, List.pairwise_singleton _ _, ?_⟩
        intro later hmem earlier hearlier
        obtain rfl := List.mem_singleton.mp hearlier
        exact hsince earlier (hfrom _ (hlater earlier rfl)) later hmem
      · intro since hbefore time htime
        rcases List.mem_append.mp htime with hmem | hmem
        · exact hsince since (hheld since hbefore) time hmem
        -- it was fetched when nothing was remembered, so the time since then was over
        · obtain rfl := List.mem_singleton.mp hmem
          by_contra hcounts
          have hmem : time ∈ times (.recent channel time :: calls) := List.mem_cons_self
          have hsome := hbefore time hmem (by omega)
          rw [hstale] at hsome
          exact nomatch hsome

/-- An engine starts with an empty cache, and the messages of channels are asked for at times that do not
decrease, among other calls that may add messages of avatars. Then every answer is short enough and written by
avatars; all answers for a channel are those that the calls for that channel alone have, unless times are so far
apart that their difference overflows; and between two successful fetches of a channel, if it is not forgotten
between them, its time passes. -/
theorem eviction_unnoticed (h : e.Separate view log) {calls : List Call}
    (hcalls : ∀ call ∈ calls, call.Authored) (hordered : (times calls).Pairwise (· ≤ ·)) {w : World σ}
    (hempty : w.caches e.number = .empty) :
    (∀ call messages, (call, some messages) ∈ ((answers e calls).run w).1 →
      messages.length ≤ e.cacheLimits.capacity ∧ ∀ m ∈ messages, m.authorIsBot = true) ∧
    ((times calls).Pairwise (fun s t => t - s < 0x8000000000000000) →
      ∀ channel, ((answers e calls).run w).1.filter (·.1.channel = channel) =
        ((answers e (calls.filter (·.channel = channel))).run w).1) ∧
    ∀ channel before during after, calls = before ++ during ++ after → .invalidate channel ∉ during →
      ∃ recent, successes channel (log ((answers e (before ++ during)).run w).2.outside) =
          recent ++ successes channel (log ((answers e before).run w).2.outside) ∧
        recent.Pairwise (fun later earlier => e.cacheLimits.ttl ≤ later - earlier) := by
  have hw : Sound e.cacheLimits (of e w) := by
    rw [of, hempty]
    exact .empty _
  have hdated : Dated (times calls) (of e w) := by
    rw [of, hempty]
    exact fun _ hmem => nomatch hmem
  refine ⟨(answers_sound h hcalls hw).2, fun hnear channel => ?_, ?_⟩
  · exact answers_alike h channel hcalls hordered hnear hw hdated (.refl _ _ _ _) rfl
  · rintro channel before during after rfl hnever
    have hbefore : ∀ call ∈ before, call.Authored := fun call hmem => hcalls call (by simp [hmem])
    have hduring : ∀ call ∈ during, call.Authored := fun call hmem => hcalls call (by simp [hmem])
    have htimes : (times during).Pairwise (· ≤ ·) := by
      rw [times, List.filterMap_append, List.filterMap_append] at hordered
      exact (List.pairwise_append.mp (List.pairwise_append.mp hordered).1).2.1
    obtain ⟨recent, hrecent, hapart, -⟩ :=
      successes_apart h hduring htimes hnever (answers_sound h hbefore hw).1
    refine ⟨recent, ?_, hapart⟩
    rw [run_answers_append]
    exact hrecent

end

end SpeakerCache

/-- Services that keep a log of all fetches and fail at every second one of a channel. In each channel a person
answered bob. -/
def Collaborators.logging : Collaborators (List Fetch) :=
  { Collaborators.plain [] "" with
    fetchRecent := fun channel _ => ExceptT.mk fun w =>
      let succeeded := w.outside.countP (·.channelId = channel) % 2 = 0
      (if succeeded then
          .ok [.human "m2" channel "u" "hello" 200, .fromAvatar "m1" channel "bob" "hi" 100]
        else .error (.transport "unreachable"),
        { w with outside := ⟨channel, w.clock, succeeded⟩ :: w.outside }) }

/-- They answer by how often a channel was fetched. -/
theorem Collaborators.logging_separate :
    (Engine.standard .logging).Separate (fun channel log => log.countP (·.channelId = channel)) id where
  alike channel v w hview hclock := by
    constructor
    · simp only [Engine.fetch, Engine.standard, logging, ExceptT.run, ExceptT.mk, StateT.run, hview]
    · simp only [Engine.fetch, Engine.standard, logging, ExceptT.run, ExceptT.mk, StateT.run]
      simp [hview]
  apart channel other w hother := by
    simp [Engine.fetch, Engine.standard, logging, ExceptT.run, ExceptT.mk, StateT.run, hother]
  logged channel w := by
    simp only [Engine.fetch, Engine.standard, logging, ExceptT.run, ExceptT.mk, StateT.run, id]
    split <;> simp [*, Except.isOk, Except.toBool]
  cache _ _ := rfl

namespace SpeakerCache

/-- Calls for two channels. -/
def interleaved : List Call :=
  [.recent "lobby" 0, .push (.fromAvatar "m3" "lobby" "ada" "hey" 300), .recent "hall" 10,
    .recent "lobby" 20000, .recent "hall" 31000, .recent "hall" 31500, .recent "lobby" 32000,
    .invalidate "hall", .recent "lobby" 32000, .recent "hall" 33000]

/-- The fetch of the hall at 31.5 seconds forgets the lobby, which is fetched again, in vain and then with
success. -/
theorem eviction_unnoticed_interleaved :
    let e : Engine (List Fetch) := .standard .logging
    let w : World (List Fetch) := default
    (∀ call ∈ interleaved, call.Authored) ∧ (times interleaved).Pairwise (· ≤ ·) ∧
      (times interleaved).Pairwise (fun s t => t - s < 0x8000000000000000) ∧ w.caches e.number = .empty ∧
      (of e ((answers e (interleaved.take 6)).run w).2).entries.map Entry.channelId = ["hall"] ∧
      (((answers e interleaved).run w).1.filter (·.1.channel = "lobby")).map
          (fun answer => answer.2.map (List.map Message.id)) =
        [some ["m1"], none, some ["m3", "m1"], some [], some ["m1"]] ∧
      ((answers e interleaved).run w).1.filter (·.1.channel = "lobby") =
        ((answers e (interleaved.filter (·.channel = "lobby"))).run w).1 ∧
      successes "lobby" ((answers e interleaved).run w).2.outside = [32000, 0] := by
  intro e w
  have hauthored : ∀ call ∈ interleaved, call.Authored := by simp [interleaved, Call.Authored, Message.fromAvatar]
  have hordered : (times interleaved).Pairwise (· ≤ ·) := by decide
  have hnear : (times interleaved).Pairwise fun s t => t - s < 0x8000000000000000 := by decide
  obtain ⟨-, halone, -⟩ :=
    eviction_unnoticed Collaborators.logging_separate hauthored hordered (w := w) rfl
  exact ⟨hauthored, hordered, hnear, rfl, by decide +kernel, by decide +kernel, halone hnear "lobby",
    by decide +kernel⟩

/-- The lobby is asked for twice, and the hall in between, so much later each time that the age of what was
fetched first overflows. -/
def aged : List Call :=
  [.recent "lobby" (-5000000000000000000), .recent "hall" 0, .recent "lobby" 5000000000000000000]

/-- The fetch of the hall forgets the lobby, which is fetched again, in vain; without it, what was fetched of the
lobby counts again. -/
theorem eviction_noticed :
    let e : Engine (List Fetch) := .standard .logging
    let w : World (List Fetch) := default
    (∀ call ∈ aged, call.Authored) ∧ (times aged).Pairwise (· ≤ ·) ∧ w.caches e.number = .empty ∧
      e.Separate (fun channel log => log.countP (·.channelId = channel)) id ∧
      (((answers e aged).run w).1.filter (·.1.channel = "lobby")).map
          (fun answer => answer.2.map (List.map Message.id)) = [some ["m1"], some []] ∧
      (((answers e (aged.filter (·.channel = "lobby"))).run w).1).map
          (fun answer => answer.2.map (List.map Message.id)) = [some ["m1"], some ["m1"]] ∧
      ((answers e aged).run w).1.filter (·.1.channel = "lobby") ≠
        ((answers e (aged.filter (·.channel = "lobby"))).run w).1 :=
  ⟨by simp [aged, Call.Authored], by decide, rfl, Collaborators.logging_separate, by decide +kernel,
    by decide +kernel, by decide +kernel⟩

end SpeakerCache

end TurnTaking
