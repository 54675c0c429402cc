import Mathlib.Data.List.Rotate
import TurnTaking.Proofs.Fairness
import TurnTaking.Proofs.Store.Rewrite
import TurnTaking.Proofs.Thread

/-!
# Rotation — who speaks in a thread

Whoever is next in a thread speaks and becomes the last speaker, again and again. That nobody follows
themselves is so for every list of participants, duplicates included. Where the participants are different and
there are two of them or more, somebody is always next, and the speakers are the participants in a circle,
from the place after the last speaker on (`getElem?_speakers`): so as many turns in a row as there are
participants are the list, begun somewhere else (`window_speakers`). A registry that keeps asking who is next
and recording their turns has them speak in this order until the thread's turns are used up (`turns_rotate`).
-/

namespace TurnTaking.Thread

open Store Store.Access Presence

/-- Who speaks in so many turns, as long as somebody is next. -/
def speakers (th : Thread) : Nat → List String
  | 0 => []
  | count + 1 =>
    match th.nextParticipant with
    | none => []
    | some next => next :: speakers { th with lastSpeaker := some next } count

/-- From which place in the list the turns go on: the one after the last speaker, or the first one, if the
last speaker is not in the list. -/
def onset (th : Thread) : Nat :=
  match th.lastSpeaker.bind (th.participants.idxOf? ·) with
  | none => 0
  | some place => place + 1

/-! ## Any participants -/

section

variable {th : Thread}

/-- The next speaker stands at the onset. -/
theorem successor?_eq (th : Thread) :
    th.successor? = th.participants[th.onset % th.participants.length]? := by
  rw [successor?, onset]
  cases th.lastSpeaker with
  | none => rw [Option.bind_none, Nat.zero_mod, List.head?_eq_getElem?]
  | some last =>
    rw [Option.bind_some]
    dsimp only
    cases th.participants.idxOf? last with
    | none => rw [Nat.zero_mod, List.head?_eq_getElem?]
    | some place => rfl

/-- Who is next is a participant and not the last speaker. -/
theorem of_nextParticipant {next : String} (h : th.nextParticipant = some next) :
    next ∈ th.participants ∧ th.lastSpeaker ≠ some next := by
  obtain ⟨hsuccessor, hother⟩ := Option.filter_eq_some_iff.mp h
  rw [successor?_eq] at hsuccessor
  exact ⟨List.mem_of_getElem? hsuccessor, of_decide_eq_true hother⟩

/-- The speakers are told by the participants and by who spoke last. -/
theorem speakers_congr {th' : Thread} (hparticipants : th'.participants = th.participants)
    (hlast : th'.lastSpeaker = th.lastSpeaker) (count : Nat) : th'.speakers count = th.speakers count := by
  induction count generalizing th th' with
  | zero => rfl
  | succ count ih =>
    have hnext : th'.nextParticipant = th.nextParticipant := by
      rw [nextParticipant, nextParticipant, successor?, successor?, hparticipants, hlast]
    rw [speakers, speakers, hnext]
    cases th.nextParticipant with
    | none => rfl
    | some next => exact congrArg (next :: ·) (ih hparticipants rfl)

/-- Only participants speak. -/
theorem speakers_subset (th : Thread) (count : Nat) : th.speakers count ⊆ th.participants := by
  induction count generalizing th with
  | zero => exact List.nil_subset _
  | succ count ih =>
    rw [speakers]
    cases hnext : th.nextParticipant with
    | none => exact List.nil_subset _
    | some next => exact List.cons_subset.mpr ⟨(of_nextParticipant hnext).1, ih _⟩

/-- Nobody follows themselves, beginning with the last speaker. -/
theorem isChain_speakers (th : Thread) (count : Nat) :
    (th.lastSpeaker.toList ++ th.speakers count).IsChain (· ≠ ·) := by
  have hlone : th.lastSpeaker.toList.IsChain (· ≠ ·) := by
    cases th.lastSpeaker with
    | none => exact .nil
    | some last => exact .singleton last
  -- with the last speaker before them, the turns of the thread that goes on are a chain of the same kind
  induction count generalizing th with
  | zero =>
    rw [speakers, List.append_nil]
    exact hlone
  | succ count ih =>
    rw [speakers]
    cases hnext : th.nextParticipant with
    | none =>
      rw [List.append_nil]
      exact hlone
    | some next =>
      have hrest := ih { th with lastSpeaker := some next } (.singleton next)
      cases hlast : th.lastSpeaker with
      | none => exact hrest
      | some last =>
        refine List.isChain_cons_cons.mpr ⟨?_, hrest⟩
        rintro rfl
        exact (of_nextParticipant hnext).2 hlast

end

/-! ## Different participants -/

section

variable {th : Thread} {place : Nat} {last : String}

/-- A thread whose last speaker is unknown starts anew. -/
theorem onset_of_absent (h : ∀ last, th.lastSpeaker = some last → last ∉ th.participants) : th.onset = 0 := by
  rw [onset]
  cases hlast : th.lastSpeaker with
  | none => rfl
  | some last => rw [Option.bind_some, List.idxOf?_eq_none_iff.mpr (h last hlast)]

/-- The circle goes on behind the last speaker. -/
theorem onset_of_present (hnodup : th.participants.Nodup) (hlast : th.lastSpeaker = some last)
    (hplace : th.participants[place]? = some last) : th.onset = place + 1 := by
  obtain ⟨hlt, hlast'⟩ := List.getElem?_eq_some_iff.mp hplace
  have hfirst : th.participants.idxOf? last = some place := by
    refine List.idxOf?_eq_some_iff.mpr ⟨hlt, hlast', fun j hj hsame => ?_⟩
    have hplaces := hnodup.getElem_inj_iff.mp (hsame.trans hlast'.symm)
    omega
  rw [onset, hlast, Option.bind_some, hfirst]

/-- In a circle of two places or more none is next to itself. -/
theorem succ_mod_ne {n place : Nat} (htwo : 2 ≤ n) (hplace : place < n) : (place + 1) % n ≠ place := by
  rcases Nat.lt_or_eq_of_le (Nat.succ_le_of_lt hplace) with hinside | hend
  · rw [Nat.mod_eq_of_lt hinside]
    omega
  · have hself : (place + 1) % n = 0 := by
      rw [← Nat.succ_eq_add_one, hend, Nat.mod_self]
    omega

/-- Of different participants, two or more, the one at the onset is next. -/
theorem nextParticipant_eq (hnodup : th.participants.Nodup) (htwo : 2 ≤ th.participants.length) :
    th.nextParticipant = th.participants[th.onset % th.participants.length]? := by
  have hplace : th.onset % th.participants.length < th.participants.length := Nat.mod_lt _ (by omega)
  rw [nextParticipant, successor?_eq, List.getElem?_eq_getElem hplace, Option.filter_some_eq_some]
  -- the last speaker would be next only if its place were followed by itself
  refine decide_eq_true fun hlast => ?_
  have honset := onset_of_present hnodup hlast (List.getElem?_eq_getElem hplace)
  exact succ_mod_ne htwo hplace (congrArg (· % th.participants.length) honset).symm

/-- The speakers are the participants in a circle. -/
theorem getElem?_speakers (hnodup : th.participants.Nodup) (htwo : 2 ≤ th.participants.length)
    {count k : Nat} (hk : k < count) :
    (th.speakers count)[k]? = th.participants[(th.onset + k) % th.participants.length]? := by
  induction count generalizing th k with
  | zero => exact absurd hk (Nat.not_lt_zero k)
  | succ count ih =>
    have hplace : th.onset % th.participants.length < th.participants.length := Nat.mod_lt _ (by omega)
    have hfirst := List.getElem?_eq_getElem hplace
    have hnext := (nextParticipant_eq hnodup htwo).trans hfirst
    rw [speakers, hnext]
    cases k with
    | zero => exact hfirst.symm
    | succ k =>
      let later : Thread := { th with lastSpeaker := some th.participants[th.onset % th.participants.length] }
      have hlater : later.participants.Nodup := hnodup
      have hrest : (later.speakers count)[k]? =
          th.participants[(later.onset + k) % th.participants.length]? :=
        ih hlater htwo (Nat.lt_of_succ_lt_succ hk)
      -- the turns go on from the place after the one who has just spoken
      have honset : later.onset = th.onset % th.participants.length + 1 := onset_of_present hnodup rfl hfirst
      rw [honset, Nat.add_assoc, Nat.mod_add_mod, Nat.add_comm 1 k] at hrest
      exact hrest

/-- Among two or more there is always a next speaker. -/
theorem length_speakers (hnodup : th.participants.Nodup) (htwo : 2 ≤ th.participants.length) (count : Nat) :
    (th.speakers count).length = count := by
  induction count generalizing th with
  | zero => rfl
  | succ count ih =>
    have hplace : th.onset % th.participants.length < th.participants.length := Nat.mod_lt _ (by omega)
    rw [speakers, nextParticipant_eq hnodup htwo, List.getElem?_eq_getElem hplace]
    exact congrArg (· + 1) (ih hnodup htwo)

/-- As many turns in a row as there are participants are the list of them, turned round. -/
theorem window_speakers (hnodup : th.participants.Nodup) (htwo : 2 ≤ th.participants.length)
    {count i : Nat} (hi : i + th.participants.length ≤ count) :
    ((th.speakers count).drop i).take th.participants.length = th.participants.rotate (th.onset + i) := by
  refine List.ext_getElem? fun k => ?_
  by_cases hk : k < th.participants.length
  · rw [List.getElem?_take_of_lt hk, List.getElem?_drop, List.getElem?_rotate hk,
      getElem?_speakers hnodup htwo (by omega)]
    congr 2
    omega
  · rw [List.getElem?_eq_none, List.getElem?_eq_none]
    · rw [List.length_rotate]
      omega
    · exact (List.length_take_le _ _).trans (Nat.not_lt.mp hk)

/-- Speakers go round the participants. -/
theorem goRound_speakers (hnodup : th.participants.Nodup) (htwo : 2 ≤ th.participants.length) (count : Nat) :
    GoRound th.participants (th.speakers count) := by
  intro i hi
  rw [length_speakers hnodup htwo] at hi
  rw [window_speakers hnodup htwo hi]
  exact List.rotate_perm _ _

end

/-! ## Turns that are recorded -/

/-- A registry asks who is next and records their turn, at each of these times, until nobody is next or no
turn is left; and who spoke. -/
def takeTurns (ttl : Int) (id : String) : List Int → Access (List String)
  | [] => return []
  | now :: later => do
    match (← find? id).bind nextParticipant with
    | none => return []
    | some next =>
      if ← recordTurn ttl id next now then
        let others ← takeTurns ttl id later
        return next :: others
      else return []

/-- The table holds these threads, each under an id of its own. -/
structure Holds (t : Tables) (threads : List Thread) : Prop where
  rows : t.threads = some (threads.map toRow)
  ids : (threads.map Thread.id).Nodup
  small : ∀ th ∈ threads, th.turnsRemaining < 0x100000000

/-- A store that was reached holds threads. -/
theorem Reached.holds {history : List Deed} {t : Tables} (h : Reached history t) :
    ∃ threads, Holds t threads := by
  obtain ⟨threads, hrows, hledger⟩ := h.kept
  exact ⟨threads, hrows, hledger.ids, hledger.small⟩

/-- The rows after a turn was recorded, and how many were changed. -/
def amended (ttl : Int) (id speaker : String) (now : Int) (rows : List ThreadRow) : Nat × List ThreadRow :=
  Table.amend (fun r => r.threadId = some id && (Cell.number 0).below r.turnsRemaining)
    (fun r => { r with
      lastSpeaker := some speaker, turnsRemaining := r.turnsRemaining.plus (-1)
      expiresAt := .number (Numeral.wrapped (now + ttl)) }) rows

/-- A turn of a thread rewrites the table as described. -/
theorem rewrites_recordTurn (ttl : Int) (id speaker : String) (now : Int) :
    Rewrites .threads (fun rows => decide ((amended ttl id speaker now rows).1 = 1))
      (fun rows => (amended ttl id speaker now rows).2) (recordTurn ttl id speaker now) :=
  (Rewrites.change (amended ttl id speaker now)).map fun changed => decide (changed = 1)

namespace Holds

variable {t : Tables} {threads : List Thread} {th : Thread} {id : String}

/-- A thread is found as it is. -/
theorem readRow?_lookup (h : Holds t threads) (id : String) :
    readRow? readThread (Table.lookup ThreadRow.key (some id) (threads.map toRow)) =
      .ok (Table.lookup Thread.id id threads) := by
  have hlookup : Table.lookup ThreadRow.key (some id) (threads.map toRow) =
      (Table.lookup Thread.id id threads).map toRow := by
    rw [Table.lookup, List.find?_map, Table.lookup]
    congr 2
    funext th
    simp [ThreadRow.key, toRow]
  rw [hlookup]
  cases hfound : Table.lookup Thread.id id threads with
  | none => rfl
  | some th =>
    rw [Option.map_some, readRow?, readThread_toRow th (h.small th (List.mem_of_find?_eq_some hfound))]
    rfl

theorem lookup_of_find {s s' : Store} {found : Option Thread} (h : Holds s.tables threads)
    (hrun : (find? id).Runs s (.ok found) s') :
    found = Table.lookup Thread.id id threads ∧ s'.tables = s.tables := by
  obtain ⟨rows, hrows, hread, htables⟩ := runs_query_ok hrun
  obtain rfl : threads.map toRow = rows := Option.some.inj (h.rows.symm.trans hrows)
  rw [h.readRow?_lookup] at hread
  exact ⟨(Except.ok.inj hread).symm, htables⟩

/-- A thread is found as it is held. -/
theorem runs_find (h : Holds t threads) (id : String) :
    (find? id).Runs (.ofTables t) (.ok (Table.lookup Thread.id id threads)) (.ofTables t) :=
  runs_query_ofTables (r := .threads) h.rows (h.readRow?_lookup id)

/-- A turn is accepted if the thread has turns left, -/
theorem accepts (h : Holds t threads) (hth : Table.lookup Thread.id id threads = some th) (ttl : Int)
    (speaker : String) (now : Int) :
    decide ((amended ttl id speaker now (threads.map toRow)).1 = 1) = decide (0 < th.turnsRemaining) := by
  have hid : th.id = id := Table.key_of_lookup hth
  have hawaits : ∀ old : Thread, old.awaits id = true → old.id = id := fun old hold =>
    of_decide_eq_true (Bool.and_eq_true_iff.mp hold).1
  rw [amended, amend_toRow threads h.small, Table.countP_eq h.ids hawaits, hth, Option.any_some, awaits,
    decide_eq_true hid, Bool.true_and]
  by_cases hleft : 0 < th.turnsRemaining
  · rw [decide_eq_true hleft]
    rfl
  · rw [decide_eq_false hleft]
    rfl

/-- and what the table holds then is the threads after the turn. -/
theorem turn (h : Holds t threads) (ttl : Int) (id speaker : String) (now : Int) :
    Holds (Relation.threads.set t (some (amended ttl id speaker now (threads.map toRow)).2))
      (threads.map (afterTurn ttl id speaker now)) where
  rows := by
    rw [amended, amend_toRow threads h.small]
    rfl
  ids := by
    rw [Table.map_key (id_afterTurn _ _ _ _)]
    exact h.ids
  small := by
    intro th' hth'
    obtain ⟨th, hth, rfl⟩ := List.mem_map.mp hth'
    have hsmall := h.small th hth
    rw [afterTurn]
    split
    · exact Nat.lt_of_le_of_lt (Nat.sub_le _ _) hsmall
    · exact hsmall

/-- The thread itself goes on from who has spoken. -/
theorem lookup_turn (hth : Table.lookup Thread.id id threads = some th) (hleft : 0 < th.turnsRemaining)
    (ttl : Int) (speaker : String) (now : Int) :
    Table.lookup Thread.id id (threads.map (afterTurn ttl id speaker now)) =
      some (th.continued ttl speaker now) := by
  have hawaits : th.awaits id = true := by simp [awaits, Table.key_of_lookup hth, hleft]
  rw [Table.lookup_map (id_afterTurn _ _ _ _), hth, Option.map_some, afterTurn, if_pos hawaits]

end Holds

/-- Who speaks while turns are left, if one speaks and the thread goes on. -/
theorem speakers_min {th : Thread} {next : String} (hnext : th.nextParticipant = some next)
    (hleft : 0 < th.turnsRemaining) (ttl now : Int) (later : List Int) :
    th.speakers (min (now :: later).length th.turnsRemaining) =
      next :: (th.continued ttl next now).speakers (min later.length (th.turnsRemaining - 1)) := by
  have hcount : min (now :: later).length th.turnsRemaining =
      min later.length (th.turnsRemaining - 1) + 1 := by
    rw [List.length_cons]
    omega
  have hgoesOn : ∀ count, (th.continued ttl next now).speakers count =
      ({ th with lastSpeaker := some next } : Thread).speakers count := speakers_congr rfl rfl
  rw [hcount, speakers, hnext, hgoesOn]

theorem speakers_none {th : Thread} (hnext : th.nextParticipant = none) (count : Nat) :
    th.speakers count = [] := by
  cases count with
  | zero => rfl
  | succ count => rw [speakers, hnext]

section

variable {threads : List Thread} {th : Thread} {id : String} {ttl : Int} {times : List Int}

/-- Whoever took turns that were recorded took them in rotation. -/
theorem speakers_of_takeTurns {s s' : Store} {picks : List String} (h : Holds s.tables threads)
    (hth : Table.lookup Thread.id id threads = some th)
    (hrun : (takeTurns ttl id times).Runs s (.ok picks) s') :
    picks = th.speakers (min times.length th.turnsRemaining) := by
  -- each turn leaves a table that holds the threads as they are then, so the later turns are told by them
  induction times generalizing s s' threads th picks with
  | nil =>
    obtain ⟨rfl, -⟩ := runs_pure_ok hrun
    rw [List.length_nil, Nat.zero_min, speakers]
  | cons now later ih =>
    obtain ⟨found, s₁, hfound, hrun⟩ := runs_bind_ok hrun
    obtain ⟨rfl, hsame⟩ := h.lookup_of_find hfound
    rw [hth, Option.bind_some] at hrun
    cases hnext : th.nextParticipant with
    | none =>
      simp only [hnext] at hrun
      obtain ⟨rfl, -⟩ := runs_pure_ok hrun
      rw [speakers_none hnext]
    | some next =>
      simp only [hnext] at hrun
      obtain ⟨accepted, s₂, hturn, hrun⟩ := runs_bind_ok hrun
      obtain ⟨rows, hrows, rfl, htables⟩ := (rewrites_recordTurn ttl id next now).result hturn
      rw [hsame] at hrows htables
      obtain rfl : threads.map toRow = rows := Option.some.inj (h.rows.symm.trans hrows)
      rw [h.accepts hth] at hrun
      by_cases hleft : 0 < th.turnsRemaining
      · rw [if_pos (decide_eq_true hleft)] at hrun
        obtain ⟨others, s₃, hrest, hrun⟩ := runs_bind_ok hrun
        obtain ⟨rfl, -⟩ := runs_pure_ok hrun
        have hheld := h.turn ttl id next now
        rw [← htables] at hheld
        rw [speakers_min hnext hleft ttl now, ih hheld (Holds.lookup_turn hth hleft ttl next now) hrest]
        rfl
      · rw [if_neg (by simpa using hleft)] at hrun
        obtain ⟨rfl, -⟩ := runs_pure_ok hrun
        have hspent : th.turnsRemaining = 0 := by omega
        rw [hspent, Nat.min_zero, speakers]

/-- Where nothing fails, the turns come to an end. -/
theorem takeTurns_ofTables {t : Tables} (h : Holds t threads)
    (hth : Table.lookup Thread.id id threads = some th) :
    ∃ t', (takeTurns ttl id times).Runs (.ofTables t)
      (.ok (th.speakers (min times.length th.turnsRemaining))) (.ofTables t') := by
  induction times generalizing t threads th with
  | nil =>
    rw [List.length_nil, Nat.zero_min]
    exact ⟨t, rfl⟩
  | cons now later ih =>
    have hfound := h.runs_find id
    rw [hth] at hfound
    cases hnext : th.nextParticipant with
    | none =>
      -- nobody is next, so the turns end
      refine ⟨t, hfound.bind ?_⟩
      rw [Option.bind_some, hnext, speakers_none hnext]
      rfl
    | some next =>
      have hturn := (rewrites_recordTurn ttl id next now).untroubled (t := t) h.rows
      rw [h.accepts hth] at hturn
      by_cases hleft : 0 < th.turnsRemaining
      · -- the turn is accepted, and the others follow from the thread that it leaves
        obtain ⟨t', hrest⟩ := ih (h.turn ttl id next now) (Holds.lookup_turn hth hleft ttl next now)
        refine ⟨t', hfound.bind ?_⟩
        rw [Option.bind_some, hnext, speakers_min hnext hleft ttl now]
        refine hturn.bind ?_
        rw [if_pos (decide_eq_true hleft)]
        exact hrest.bind rfl
      · -- no turn is left to be accepted
        have hspent : th.turnsRemaining = 0 := by omega
        refine ⟨Relation.threads.set t (some (amended ttl id next now (threads.map toRow)).2), hfound.bind ?_⟩
        rw [Option.bind_some, hnext, hspent, Nat.min_zero, speakers]
        refine hturn.bind ?_
        rw [if_neg (by simpa using hleft)]
        rfl

end

/-- These are the participants of a thread in a circle: from the first one on, if the last speaker is none of
them, or else from the one after the last speaker; and as many in a row as there are participants are one turn
of each of them. -/
structure InRotation (th : Thread) (picks : List String) : Prop where
  afresh : (∀ last, th.lastSpeaker = some last → last ∉ th.participants) →
    ∀ k < picks.length, picks[k]? = th.participants[k % th.participants.length]?
  onwards : ∀ last place, th.lastSpeaker = some last → th.participants[place]? = some last →
    ∀ k < picks.length, picks[k]? = th.participants[(place + 1 + k) % th.participants.length]?
  goRound : GoRound th.participants picks

/-- Whoever speaks is next in the thread's rotation. -/
theorem inRotation_speakers {th : Thread} (hnodup : th.participants.Nodup) (htwo : 2 ≤ th.participants.length)
    (count : Nat) : InRotation th (th.speakers count) := by
  have hlength := length_speakers hnodup htwo count
  constructor
  · intro habsent k hk
    rw [getElem?_speakers hnodup htwo (hlength ▸ hk), onset_of_absent habsent, Nat.zero_add]
  · intro last place hlast hplace k hk
    rw [getElem?_speakers hnodup htwo (hlength ▸ hk), onset_of_present hnodup hlast hplace]
  · exact goRound_speakers hnodup htwo count

/-- Whoever is next in a thread is a participant and not the last speaker. So if the next one speaks and
becomes the last speaker, again and again, nobody follows themselves. If the participants are different and
there are two of them or more, somebody is next each time, and they speak in rotation. And a registry that,
for a thread of its store in any state that is reached, keeps asking who is next and recording their turn, has
the same avatars speak for as many turns as the thread has left; where nothing fails, it comes to the end of
them. -/
theorem turns_rotate (th : Thread) :
    (∀ next, th.nextParticipant = some next → next ∈ th.participants ∧ th.lastSpeaker ≠ some next) ∧
      (∀ count, th.speakers count ⊆ th.participants ∧
        (th.lastSpeaker.toList ++ th.speakers count).IsChain (· ≠ ·)) ∧
      (th.participants.Nodup → 2 ≤ th.participants.length → ∀ count,
        (th.speakers count).length = count ∧ InRotation th (th.speakers count)) ∧
      ∀ history t, Reached history t → (find? th.id).Runs (.ofTables t) (.ok (some th)) (.ofTables t) →
        ∀ ttl times,
          (∀ s picks s', s.tables = t → (takeTurns ttl th.id times).Runs s (.ok picks) s' →
            picks = th.speakers (min times.length th.turnsRemaining)) ∧
          ∃ t', (takeTurns ttl th.id times).Runs (.ofTables t)
            (.ok (th.speakers (min times.length th.turnsRemaining))) (.ofTables t') := by
  refine ⟨fun _ => of_nextParticipant, fun count => ⟨th.speakers_subset count, th.isChain_speakers count⟩,
    fun hnodup htwo count => ⟨length_speakers hnodup htwo count, inRotation_speakers hnodup htwo count⟩, ?_⟩
  intro history t hreached hfound ttl times
  obtain ⟨threads, hheld⟩ := hreached.holds
  obtain ⟨hth, -⟩ := Holds.lookup_of_find (s := .ofTables t) hheld hfound
  refine ⟨?_, takeTurns_ofTables hheld hth.symm⟩
  rintro s picks s' rfl hrun
  exact speakers_of_takeTurns hheld hth.symm hrun

/-- Three in a thread of whom the second spoke last, with four turns left. -/
def panel : Thread := ⟨"t", "den", ["ada", "bob", "cyd"], some "bob", 4, 0, 70⟩

/-- The third is next, then the first, and so on round, until the four turns are used up. -/
theorem turns_rotate_panel :
    let t := ((Operation.start ⟨4, 70⟩ "t" "den" ["ada", "bob", "cyd"] (some "bob") 0).access.after .new).tables
    panel.participants.Nodup ∧ 2 ≤ panel.participants.length ∧
      (∃ history, Reached history t) ∧ (find? "t").Runs (.ofTables t) (.ok (some panel)) (.ofTables t) ∧
      InRotation panel ["cyd", "ada", "bob", "cyd", "ada"] ∧
      ∃ t', (takeTurns 70 "t" [10, 20, 30, 40, 50]).Runs (.ofTables t) (.ok ["cyd", "ada", "bob", "cyd"])
        (.ofTables t') := by
  intro t
  have hnodup : panel.participants.Nodup := by decide
  have htwo : 2 ≤ panel.participants.length := by decide
  have hreached : ∃ history, Reached history t :=
    ⟨_, .step (.start ⟨4, 70⟩ "t" "den" ["ada", "bob", "cyd"] (some "bob") 0) (s := .new) .start (by decide)
      (runs_after _ _)⟩
  have hfound : (find? "t").Runs (.ofTables t) (.ok (some panel)) (.ofTables t) := by
    rfl
  obtain ⟨history, hhistory⟩ := hreached
  obtain ⟨-, -, hrotation, hstore⟩ := turns_rotate panel
  obtain ⟨-, hpicks⟩ := hrotation hnodup htwo 5
  obtain ⟨-, hends⟩ := hstore history t hhistory hfound 70 [10, 20, 30, 40, 50]
  exact ⟨hnodup, htwo, ⟨history, hhistory⟩, hfound, hpicks, hends⟩

end TurnTaking.Thread
