import Mathlib.Data.List.Nodup
import TurnTaking.Proofs.Store.Cell
import TurnTaking.Proofs.Store.Reading
import TurnTaking.Proofs.Store.Untroubled
import TurnTaking.Proofs.Transactions

/-!
# The threads of a store — who is kept, for how many turns, and for how long

Threads are opened, continued, ended and purged by any number of registries, each with terms of its own, and
any of these operations may fail. What happened tells which threads were opened, with how many turns, and how
many turns of each were accepted (`opened`, `accepted`). The table agrees with that in every state that is
reached (`Ledger`): a channel has one thread at most, and what is left of a thread's turns is what was not
accepted.

Whether a thread is open is asked of a thread, of its row when the channel's thread is looked for, and of its
row when threads are purged. These are one condition and its opposite (`rowIsOpen_toRow`, `isSpent_toRow`), so
that the thread that is found is the one that is open, and what is purged is the rest.
-/

namespace TurnTaking

open Store Store.Access

namespace Thread

/-- An operation of a registry on the threads of a store. -/
inductive Operation where
  | start (terms : Terms) (id channel : String) (participants : List String)
      (lastSpeaker : Option String) (now : Int)
  | turn (ttl : Int) (id speaker : String) (now : Int)
  | close (id : String)
  | purge (now : Int)
deriving DecidableEq, Repr

/-- The operation as a program. It answers whether a turn was left, if it is a turn. -/
def Operation.access : Operation → Access Bool
  | start terms id channel participants lastSpeaker now => do
    let _ ← Thread.start terms id channel participants lastSpeaker now
    return true
  | turn ttl id speaker now => recordTurn ttl id speaker now
  | close id => do
    Thread.close id
    return true
  | purge now => do
    let _ ← Thread.purge now
    return true

/-- What happened: an operation and its answer, if it did not fail. -/
structure Deed where
  operation : Operation
  answer : Option Bool
deriving DecidableEq, Repr

namespace Deed

def opens? : Deed → Option (String × Nat)
  | ⟨.start terms id _ _ _ _, some _⟩ => some (id, terms.turns)
  | _ => none

def accepts (id : String) : Deed → Bool
  | ⟨.turn _ id' _ _, some true⟩ => id' = id
  | _ => false

end Deed

/-- The threads that were opened, with the turns that they were opened with. -/
def opened (history : List Deed) : List (String × Nat) := history.filterMap Deed.opens?

/-- How many turns of a thread were accepted. -/
def accepted (id : String) (history : List Deed) : Nat := history.countP (Deed.accepts id)

/-- What a registry sees to when it opens a thread: its turns are counted in 32 bits, and no thread had its id
before. -/
def Operation.Sound (history : List Deed) : Operation → Prop
  | start terms id _ _ _ _ => terms.turns < 0x100000000 ∧ id ∉ (opened history).map Prod.fst
  | _ => True

instance (history : List Deed) (o : Operation) : Decidable (o.Sound history) :=
  match o with
  | .start .. => inferInstanceAs (Decidable (_ ∧ _))
  | .turn .. => .isTrue trivial
  | .close _ => .isTrue trivial
  | .purge _ => .isTrue trivial

/-- The tables that are reached from empty ones by operations on the threads, each through any handle on the
tables and with any outcome, and by whatever leaves the threads alone. What happened to the threads is listed
with the latest first. -/
inductive Reached : List Deed → Tables → Prop where
  | start : Reached [] .empty
  | aside {history : List Deed} {t t' : Tables} (earlier : Reached history t)
      (same : t'.threads = t.threads) : Reached history t'
  | step {history : List Deed} {s s' : Store} {x : Except Fault Bool} (o : Operation)
      (earlier : Reached history s.tables) (sound : o.Sound history) (run : o.access.Runs s x s') :
      Reached (⟨o, x.toOption⟩ :: history) s'.tables

/-! ## Threads and their rows -/

/-- A row is read as a thread, column by column. -/
theorem readThread_row {r : ThreadRow} {th : Thread} (hid : r.threadId = some th.id)
    (hchannel : r.channelId = th.channelId) (hlast : r.lastSpeaker = th.lastSpeaker)
    (hparticipants : readTexts 2 r.participants = .ok th.participants)
    (hturns : readNat32 4 "turns_remaining" r.turnsRemaining = .ok th.turnsRemaining)
    (hcreated : r.createdAt = .number th.createdAt) (hexpires : r.expiresAt = .number th.expiresAt) :
    readThread r = .ok th := by
  rw [readThread, hid, hparticipants, hturns, hcreated, hexpires, hchannel, hlast]
  rfl

section

variable (th : Thread)

/-- A thread is read as it was stored. -/
theorem readThread_toRow (h : th.turnsRemaining < 0x100000000) : readThread th.toRow = .ok th :=
  readThread_row rfl rfl rfl (readTexts_ofTexts 2 _) (readNat32_nat h 4 _) rfl rfl

/-- A row is taken for open if its thread is. -/
theorem rowIsOpen_toRow (now : Int) : rowIsOpen now th.toRow = th.isOpen now := by
  simp only [rowIsOpen, toRow, isOpen, Cell.below_number]
  congr 1
  simp

/-- A row is purged if its thread is not open. -/
theorem isSpent_toRow (now : Int) :
    (th.toRow.expiresAt.upTo (.number now) || th.toRow.turnsRemaining.upTo (.number 0)) =
      !th.isOpen now := by
  rw [← rowIsOpen_toRow, rowIsOpen, Bool.not_and, Bool.or_comm, Cell.upTo_eq, Cell.upTo_eq]

end

/-- The thread after a turn of a speaker. -/
def continued (ttl : Int) (speaker : String) (now : Int) (th : Thread) : Thread :=
  { th with
    lastSpeaker := some speaker, turnsRemaining := th.turnsRemaining - 1,
    expiresAt := Numeral.wrapped (now + ttl) }

/-- Whether a thread has that id and turns left. -/
def awaits (id : String) (th : Thread) : Bool := th.id = id && 0 < th.turnsRemaining

/-- What becomes of a thread when a turn is recorded under an id. -/
def afterTurn (ttl : Int) (id speaker : String) (now : Int) (th : Thread) : Thread :=
  if th.awaits id then th.continued ttl speaker now else th

theorem id_afterTurn (ttl : Int) (id speaker : String) (now : Int) (th : Thread) :
    (th.afterTurn ttl id speaker now).id = th.id := by
  rw [afterTurn]
  split <;> rfl

theorem channelId_afterTurn (ttl : Int) (id speaker : String) (now : Int) (th : Thread) :
    (th.afterTurn ttl id speaker now).channelId = th.channelId := by
  rw [afterTurn]
  split <;> rfl

/-! ## What happened, and what is kept -/

/-- An accepted turn is counted for its thread. -/
theorem accepted_cons (id : String) (d : Deed) (history : List Deed) :
    accepted id (d :: history) = accepted id history + if d.accepts id then 1 else 0 :=
  List.countP_cons

/-- What is no turn of a thread leaves the accepted turns as they are. -/
theorem accepted_pass {d : Deed} (h : ∀ id, d.accepts id = false) (history : List Deed) :
    (fun id => accepted id (d :: history)) = fun id => accepted id history := by
  funext id
  rw [accepted_cons, h, if_neg Bool.false_ne_true, Nat.add_zero]

/-- The threads that are kept agree with what happened: they belong to channels of their own, each is one that
was opened, and the turns that it has left are those that were not accepted. No thread was opened twice, and no
more turns of a thread were accepted than it was opened with. -/
structure Ledger (opened : List (String × Nat)) (accepted : String → Nat) (threads : List Thread) : Prop where
  channels : (threads.map Thread.channelId).Nodup
  ids : (threads.map Thread.id).Nodup
  once : (opened.map Prod.fst).Nodup
  small : ∀ th ∈ threads, th.turnsRemaining < 0x100000000
  told : ∀ th ∈ threads, (th.id, th.turnsRemaining + accepted th.id) ∈ opened
  bounded : ∀ id n, (id, n) ∈ opened → accepted id ≤ n
  unopened : ∀ id, id ∉ opened.map Prod.fst → accepted id = 0

namespace Ledger

variable {opened : List (String × Nat)} {accepted : String → Nat} {threads : List Thread}

theorem start : Ledger [] (fun _ => 0) [] where
  channels := List.nodup_nil
  ids := List.nodup_nil
  once := List.nodup_nil
  small _ h := absurd h List.not_mem_nil
  told _ h := absurd h List.not_mem_nil
  bounded _ _ h := absurd h List.not_mem_nil
  unopened _ _ := rfl

/-- Threads may be lost. -/
theorem lose (h : Ledger opened accepted threads) (p : Thread → Bool) :
    Ledger opened accepted (threads.filter p) where
  channels := h.channels.sublist (List.filter_sublist.map _)
  ids := h.ids.sublist (List.filter_sublist.map _)
  once := h.once
  small th hth := h.small th (List.mem_filter.mp hth).1
  told th hth := h.told th (List.mem_filter.mp hth).1
  bounded := h.bounded
  unopened := h.unopened

/-- A thread with a new id may be added, if its channel has none. -/
theorem add (h : Ledger opened accepted threads) {th : Thread} (hsmall : th.turnsRemaining < 0x100000000)
    (hnew : th.id ∉ opened.map Prod.fst) (hchannel : ∀ old ∈ threads, old.channelId ≠ th.channelId) :
    Ledger ((th.id, th.turnsRemaining) :: opened) accepted (threads ++ [th]) := by
  have hnone : accepted th.id = 0 := h.unopened th.id hnew
  have hid : ∀ old ∈ threads, old.id ≠ th.id := by
    intro old hold hsame
    exact hnew (hsame ▸ List.mem_map_of_mem (h.told old hold))
  constructor
  · refine (Table.nodup_append ?_).mpr h.channels
    rw [Table.holds, List.any_eq_false]
    simpa using hchannel
  · refine (Table.nodup_append ?_).mpr h.ids
    rw [Table.holds, List.any_eq_false]
    simpa using hid
  · exact List.nodup_cons.mpr ⟨hnew, h.once⟩
  · intro old hold
    rcases List.mem_append.mp hold with hold | hold
    · exact h.small old hold
    · exact List.mem_singleton.mp hold ▸ hsmall
  · -- nothing was accepted of the new thread
    intro old hold
    rcases List.mem_append.mp hold with hold | hold
    · exact List.mem_cons_of_mem _ (h.told old hold)
    · obtain rfl := List.mem_singleton.mp hold
      rw [hnone]
      exact List.mem_cons_self
  · intro id n hn
    rcases List.mem_cons.mp hn with hn | hn
    · obtain ⟨rfl, rfl⟩ := Prod.mk.inj hn
      rw [hnone]
      exact Nat.zero_le _
    · exact h.bounded id n hn
  · intro id hid
    rw [List.map_cons, List.mem_cons, not_or] at hid
    exact h.unopened id hid.2

/-- What is left of a thread's turns is what was not accepted. -/
theorem left (h : Ledger opened accepted threads) {th : Thread} (hth : th ∈ threads) {n : Nat}
    (hn : (th.id, n) ∈ opened) : th.turnsRemaining + accepted th.id = n :=
  congrArg Prod.snd (List.inj_on_of_nodup_map h.once (h.told th hth) hn rfl)

/-- Under an id one thread has turns left, or none has. -/
theorem countP_awaits (h : Ledger opened accepted threads) (id : String) :
    threads.countP (awaits id) = 1 ↔ ∃ th ∈ threads, th.awaits id = true := by
  have hid : ∀ th : Thread, th.awaits id = true → th.id = id := fun th hth =>
    of_decide_eq_true (Bool.and_eq_true_iff.mp hth).1
  have hatmost : threads.countP (awaits id) ≤ 1 := by
    rw [Table.countP_eq h.ids hid]
    split <;> omega
  rw [← List.countP_pos_iff]
  omega

/-- A turn is accepted of a thread that has turns left, and is then one less to be had. -/
theorem accept (h : Ledger opened accepted threads) {id : String} {th : Thread} (hth : th ∈ threads)
    (hawaits : th.awaits id = true) (ttl : Int) (speaker : String) (now : Int) :
    Ledger opened (fun id' => accepted id' + if id = id' then 1 else 0)
      (threads.map (afterTurn ttl id speaker now)) := by
  obtain ⟨rfl, hleft⟩ : th.id = id ∧ 0 < th.turnsRemaining := by simpa [awaits] using hawaits
  constructor
  · rw [Table.map_key (channelId_afterTurn _ _ _ _)]
    exact h.channels
  · rw [Table.map_key (id_afterTurn _ _ _ _)]
    exact h.ids
  · exact h.once
  · intro old' hold'
    obtain ⟨old, hold, rfl⟩ := List.mem_map.mp hold'
    have hsmall := h.small old hold
    rw [afterTurn]
    split
    · exact Nat.lt_of_le_of_lt (Nat.sub_le _ _) hsmall
    · exact hsmall
  · intro old' hold'
    obtain ⟨old, hold, rfl⟩ := List.mem_map.mp hold'
    have htold := h.told old hold
    rw [id_afterTurn]
    by_cases hsame : th.id = old.id
    · -- the only thread of that id is the one that has turns left
      obtain rfl : th = old := List.inj_on_of_nodup_map h.ids hth hold hsame
      rw [afterTurn, if_pos hawaits, if_pos rfl, continued]
      have hsum : th.turnsRemaining - 1 + (accepted th.id + 1) = th.turnsRemaining + accepted th.id := by
        omega
      rw [hsum]
      exact htold
    · -- a turn of another thread
      have hother : old.awaits th.id = false := by
        rw [awaits, decide_eq_false fun hold => hsame hold.symm, Bool.false_and]
      rw [afterTurn, hother, if_neg Bool.false_ne_true, if_neg hsame]
      exact htold
  · -- no more turns are accepted than there were
    intro id n hn
    have hbounded := h.bounded id n hn
    split
    · rename_i hsame
      have hsum := h.left hth (hsame ▸ hn)
      rw [← hsame]
      omega
    · exact hbounded
  · intro id hid
    have hother : th.id ≠ id := fun hsame => hid (hsame ▸ List.mem_map_of_mem (h.told th hth))
    rw [if_neg hother]
    exact h.unopened id hid

end Ledger

/-! ## What the operations do to the rows -/

section

variable (threads : List Thread)

/-- Rows are removed as the threads that they stand for. -/
theorem remove_toRow (p : ThreadRow → Bool) :
    Table.remove p (threads.map toRow) =
      (threads.countP fun th => p th.toRow, (threads.filter fun th => !p th.toRow).map toRow) := by
  rw [Table.remove, List.countP_map, List.filter_map]
  rfl

/-- A turn is recorded in the row of the thread that has turns left. -/
theorem amend_toRow (hsmall : ∀ th ∈ threads, th.turnsRemaining < 0x100000000) (ttl : Int)
    (id speaker : String) (now : Int) :
    Table.amend (fun r => r.threadId = some id && (Cell.number 0).below r.turnsRemaining)
        (fun r => { r with
          lastSpeaker := some speaker, turnsRemaining := r.turnsRemaining.plus (-1)
          expiresAt := .number (Numeral.wrapped (now + ttl)) }) (threads.map toRow) =
      (threads.countP (awaits id),
        (threads.map (afterTurn ttl id speaker now)).map toRow) := by
  have hawaits : ∀ th : Thread,
      (decide (th.toRow.threadId = some id) && (Cell.number 0).below th.toRow.turnsRemaining) =
        th.awaits id := by
    intro th
    simp [toRow, awaits]
  rw [Table.amend, List.countP_map, List.map_map, List.map_map]
  simp only [Function.comp_def, hawaits]
  congr 1
  refine List.map_congr_left fun th hth => ?_
  rw [afterTurn]
  cases hleft : th.awaits id with
  | false => rfl
  | true =>
    -- what is left fits the column, so the sum in the table is exact
    have hlarge : 0 < th.turnsRemaining := by
      rw [awaits, Bool.and_eq_true] at hleft
      exact of_decide_eq_true hleft.2
    have hturns := hsmall th hth
    have hless : (Cell.number th.turnsRemaining).plus (-1) = .number (th.turnsRemaining - 1 : Nat) := by
      have hsum : (th.turnsRemaining : Int) + -1 = (th.turnsRemaining - 1 : Nat) := by omega
      rw [Cell.plus_number, hsum]
      rw [hsum, Numeral.isInt64, Bool.and_eq_true]
      exact ⟨decide_eq_true (by omega), decide_eq_true (by omega)⟩
    rw [if_pos rfl, if_pos rfl, toRow, toRow, continued, hless]

end

/-! ## Every state that is reached -/

/-- The table of threads agrees with what happened. -/
def Kept (history : List Deed) (t : Tables) : Prop :=
  ∃ threads : List Thread, t.threads = some (threads.map toRow) ∧
    Ledger (opened history) (fun id => accepted id history) threads

namespace Kept

variable {history : List Deed} {s s' : Store} {answer : Bool}

/-- Where nothing was opened and no turn was accepted, threads may have been lost. -/
theorem pass {threads : List Thread} (h : Ledger (opened history) (fun id => accepted id history) threads)
    {d : Deed} (hopens : d.opens? = none) (haccepts : ∀ id, d.accepts id = false) {t : Tables}
    (ht : t.threads = some (threads.map toRow)) : Kept (d :: history) t := by
  refine ⟨threads, ht, ?_⟩
  rw [accepted_pass haccepts, opened, List.filterMap_cons_none hopens]
  exact h

/-- An operation that failed changed nothing. -/
theorem failed (h : Kept history s.tables) {o : Operation} {f : Fault} (hrun : o.access.Runs s (.error f) s') :
    Kept (⟨o, none⟩ :: history) s'.tables := by
  have htransactional : Transactional o.access := by
    cases o with
    | start terms id channel participants lastSpeaker now => exact (transactional_start ..).map _
    | turn ttl id speaker now => exact (Transactional.change ..).map _
    | close id => exact ((Transactional.change ..).map _).map _
    | purge now => exact (Transactional.change ..).map _
  obtain ⟨threads, hrows, hledger⟩ := h
  rw [htransactional.restored hrun]
  refine pass hledger ?_ ?_ hrows
  · cases o <;> rfl
  · cases o <;> exact fun _ => rfl

/-- A thread is opened in place of its channel's. -/
theorem start (h : Kept history s.tables) {terms : Terms} {id channel : String} {participants : List String}
    {lastSpeaker : Option String} {now : Int}
    (hsound : Operation.Sound history (.start terms id channel participants lastSpeaker now))
    (hrun : (Operation.start terms id channel participants lastSpeaker now).access.Runs s (.ok answer) s') :
    Kept (⟨.start terms id channel participants lastSpeaker now, some answer⟩ :: history) s'.tables := by
  obtain ⟨threads, hrows, hledger⟩ := h
  obtain ⟨thread, s₁, hstart, hret⟩ := runs_bind_ok hrun
  obtain ⟨-, rfl⟩ := runs_pure_ok hret
  obtain ⟨hthread, rows, hbefore, -, htables⟩ := opened_of_runs hstart
  obtain rfl := Option.some.inj (hbefore.symm.trans hrows)
  have hopened : opened (⟨.start terms id channel participants lastSpeaker now, some answer⟩ :: history) =
      (thread.id, thread.turnsRemaining) :: opened history := by
    rw [hthread]
    rfl
  refine ⟨threads.filter (·.channelId ≠ thread.channelId) ++ [thread], ?_, ?_⟩
  · rw [htables, List.map_append, List.filter_map]
    rfl
  · rw [accepted_pass fun _ => rfl, hopened]
    refine (hledger.lose _).add (hthread ▸ hsound.1) (hthread ▸ hsound.2) fun old hold => ?_
    exact of_decide_eq_true (List.mem_filter.mp hold).2

/-- A turn is accepted if its thread has turns left, and is then counted. -/
theorem turn (h : Kept history s.tables) {ttl : Int} {id speaker : String} {now : Int}
    (hrun : (recordTurn ttl id speaker now).Runs s (.ok answer) s') :
    Kept (⟨.turn ttl id speaker now, some answer⟩ :: history) s'.tables := by
  obtain ⟨threads, hrows, hledger⟩ := h
  obtain ⟨changed, s₁, hchange, hret⟩ := runs_bind_ok hrun
  obtain ⟨hanswer, rfl⟩ := runs_pure_ok hret
  obtain ⟨rows, hbefore, hcount, htables⟩ := runs_change_ok hchange
  obtain rfl := Option.some.inj (hbefore.symm.trans hrows)
  rw [amend_toRow threads hledger.small] at hcount htables
  have hthreads : s'.tables.threads =
      some ((threads.map (afterTurn ttl id speaker now)).map toRow) := by
    rw [htables]
    rfl
  by_cases hfound : ∃ th ∈ threads, th.awaits id = true
  · -- the thread has turns left, and one of them is taken
    have hone : changed = 1 := hcount.trans ((hledger.countP_awaits id).mpr hfound)
    obtain ⟨th, hth, hleft⟩ := hfound
    have haccepted : (fun id' => accepted id' (⟨.turn ttl id speaker now, some true⟩ :: history)) =
        fun id' => accepted id' history + if id = id' then 1 else 0 := by
      funext id'
      rw [accepted_cons]
      simp only [Deed.accepts, decide_eq_true_eq]
    rw [hanswer, decide_eq_true hone]
    refine ⟨_, hthreads, ?_⟩
    rw [haccepted]
    exact hledger.accept hth hleft ttl speaker now
  · -- no thread of that id has turns left: nothing changes, and the answer says so
    have hnone : ∀ th ∈ threads, ¬ th.awaits id = true := fun th hth hleft => hfound ⟨th, hth, hleft⟩
    have hnotone : changed ≠ 1 := fun h => hfound ((hledger.countP_awaits id).mp (hcount.symm.trans h))
    have hsame : threads.map (afterTurn ttl id speaker now) = threads := by
      exact (List.map_congr_left fun th hth => if_neg (hnone th hth)).trans (List.map_id' threads)
    rw [hanswer, decide_eq_false hnotone]
    exact pass hledger rfl (fun _ => rfl) (hsame ▸ hthreads)

/-- Threads are removed where one is ended or all that are spent are purged. -/
theorem remove (h : Kept history s.tables) {p : ThreadRow → Bool} {removed : Nat}
    (hrun : (change .threads (Table.remove p)).Runs s (.ok removed) s') {d : Deed} (hopens : d.opens? = none)
    (haccepts : ∀ id, d.accepts id = false) : Kept (d :: history) s'.tables := by
  obtain ⟨threads, hrows, hledger⟩ := h
  obtain ⟨rows, hbefore, -, htables⟩ := runs_change_ok hrun
  obtain rfl := Option.some.inj (hbefore.symm.trans hrows)
  refine pass (hledger.lose fun th => !p th.toRow) hopens haccepts ?_
  rw [htables, remove_toRow]
  rfl

/-- Whatever an operation on the threads comes to, the table agrees with what happened. -/
theorem step (h : Kept history s.tables) (o : Operation) (hsound : o.Sound history)
    {x : Except Fault Bool} (hrun : o.access.Runs s x s') : Kept (⟨o, x.toOption⟩ :: history) s'.tables := by
  cases x with
  | error f => exact h.failed hrun
  | ok answer =>
    cases o with
    | start terms id channel participants lastSpeaker now => exact h.start hsound hrun
    | turn ttl id speaker now => exact h.turn hrun
    | close id =>
      obtain ⟨_, s₁, hclose, hret⟩ := runs_bind_ok hrun
      obtain ⟨-, rfl⟩ := runs_pure_ok hret
      obtain ⟨_, s₂, hremove, hret⟩ := runs_bind_ok hclose
      obtain ⟨-, rfl⟩ := runs_pure_ok hret
      exact h.remove hremove rfl fun _ => rfl
    | purge now =>
      obtain ⟨_, s₁, hremove, hret⟩ := runs_bind_ok hrun
      obtain ⟨-, rfl⟩ := runs_pure_ok hret
      exact h.remove hremove rfl fun _ => rfl

end Kept

/-- A store that was reached keeps the account. -/
theorem Reached.kept {history : List Deed} {t : Tables} (h : Reached history t) : Kept history t := by
  induction h with
  | start => exact ⟨[], rfl, .start⟩
  | aside earlier same ih =>
    obtain ⟨threads, hrows, hledger⟩ := ih
    exact ⟨threads, same.trans hrows, hledger⟩
  | step o earlier sound run ih => exact ih.step o sound run

/-! ## What is found, and what is purged -/

section

variable {threads : List Thread} {t : Tables}

/-- The channel's thread is found if it is open. -/
theorem runs_active (hrows : t.threads = some (threads.map toRow))
    (hchannels : (threads.map Thread.channelId).Nodup)
    (hsmall : ∀ th ∈ threads, th.turnsRemaining < 0x100000000) (channel : String) (now : Int) :
    (active? channel now).Runs (.ofTables t)
      (.ok ((Table.lookup Thread.channelId channel threads).filter (·.isOpen now))) (.ofTables t) := by
  refine runs_query_ofTables hrows ?_
  have hfound : (threads.map toRow).filter (fun r => r.channelId = channel && rowIsOpen now r) =
      ((Table.lookup Thread.channelId channel threads).filter (·.isOpen now)).toList.map toRow := by
    rw [List.filter_map, Option.toList_filter, ← Table.filter_key hchannels, List.filter_filter]
    congr 2
    funext th
    rw [Function.comp_apply, rowIsOpen_toRow, Bool.and_comm]
    rfl
  rw [hfound]
  cases hthread : (Table.lookup Thread.channelId channel threads).filter (·.isOpen now) with
  | none =>
    rw [Option.toList_none, List.map_nil, List.mergeSort_nil]
    rfl
  | some th =>
    have hth : th ∈ threads :=
      List.mem_of_find?_eq_some (Option.filter_eq_some_iff.mp hthread).1
    rw [Option.toList_some, List.map_singleton, List.mergeSort_singleton, List.head?_cons, readRow?,
      readThread_toRow th (hsmall th hth)]
    rfl

/-- The threads that are not open are purged, and counted. -/
theorem runs_purge (hrows : t.threads = some (threads.map toRow)) (now : Int) :
    (purge now).Runs (.ofTables t) (.ok (threads.countP fun th => !th.isOpen now))
      (.ofTables { t with threads := some ((threads.filter (·.isOpen now)).map toRow) }) := by
  have hpurge := runs_change_ofTables (r := .threads) hrows (Table.remove fun r =>
    r.expiresAt.upTo (.number now) || r.turnsRemaining.upTo (.number 0))
  rw [remove_toRow] at hpurge
  simp only [isSpent_toRow, Bool.not_not] at hpurge
  exact hpurge

end

/-- The table holds these threads, and they are in order. -/
structure Orderly (history : List Deed) (t : Tables) (threads : List Thread) : Prop where
  /-- The rows are those of the threads, -/
  rows : t.threads = some (threads.map toRow)
  /-- and are read as what they are. -/
  read : ∀ th ∈ threads, readThread th.toRow = .ok th
  /-- A channel has one thread at most. -/
  channels : (threads.map Thread.channelId).Nodup
  /-- Each thread was opened, no two under one id. -/
  opened : (threads.map Thread.id).Nodup ∧ ∀ th ∈ threads, ∃ n, (th.id, n) ∈ opened history
  /-- No more turns of a thread are accepted than it was opened with, and as long as it is kept, those that are
  left are the others. -/
  turns : ∀ id n, (id, n) ∈ Thread.opened history →
    accepted id history ≤ n ∧ ∀ th ∈ threads, th.id = id → th.turnsRemaining + accepted id history = n
  /-- At any time, a channel's thread is found if and only if it is open. -/
  active : ∀ channel now, ∃ found, (active? channel now).Runs (.ofTables t) (.ok found) (.ofTables t) ∧
    ∀ th, found = some th ↔ th ∈ threads ∧ th.channelId = channel ∧ th.isOpen now = true
  /-- At any time, those that are purged are those that are not open. -/
  purge : ∀ now, (purge now).Runs (.ofTables t) (.ok (threads.countP fun th => !th.isOpen now))
    (.ofTables { t with threads := some ((threads.filter (·.isOpen now)).map toRow) })

/-- In every state that is reached, the threads are in order. -/
theorem Reached.orderly {history : List Deed} {t : Tables} (h : Reached history t) :
    ∃ threads, Orderly history t threads := by
  obtain ⟨threads, hrows, hledger⟩ := h.kept
  refine ⟨threads, ?_⟩
  constructor
  · exact hrows
  · exact fun th hth => readThread_toRow th (hledger.small th hth)
  · exact hledger.channels
  · exact ⟨hledger.ids, fun th hth => ⟨_, hledger.told th hth⟩⟩
  · intro id n hn
    refine ⟨hledger.bounded id n hn, ?_⟩
    rintro th hth rfl
    exact hledger.left hth hn
  · intro channel now
    refine ⟨_, runs_active hrows hledger.channels hledger.small channel now, fun th => ?_⟩
    rw [Option.filter_eq_some_iff, Table.lookup_eq_some hledger.channels, and_assoc]
  · exact runs_purge hrows

/-- A thread is continued to its end, once through a handle that fails, while another is opened with other
terms and then replaced. -/
def sample : List Deed :=
  [⟨.turn 70 "a" "ada" 50, some false⟩, ⟨.turn 70 "a" "bob" 40, some true⟩,
    ⟨.start ⟨9, 80⟩ "c" "den" ["eve", "dan"] (some "eve") 35, some true⟩, ⟨.turn 70 "a" "bob" 30, none⟩,
    ⟨.turn 70 "a" "ada" 20, some true⟩, ⟨.start ⟨1, 50⟩ "b" "den" ["eve"] none 10, some true⟩,
    ⟨.start ⟨2, 70⟩ "a" "lobby" ["ada", "bob"] none 0, some true⟩]

theorem orderly_sample :
    ∃ t, Reached sample t ∧ (∃ threads, Orderly sample t threads) ∧
      t.threads.map (List.map fun r => (r.threadId, r.turnsRemaining)) =
        some [(some "a", .number 0), (some "c", .number 9)] := by
  let lobby : Operation := .start ⟨2, 70⟩ "a" "lobby" ["ada", "bob"] none 0
  let den : Operation := .start ⟨1, 50⟩ "b" "den" ["eve"] none 10
  let first : Operation := .turn 70 "a" "ada" 20
  let lost : Operation := .turn 70 "a" "bob" 30
  let other : Operation := .start ⟨9, 80⟩ "c" "den" ["eve", "dan"] (some "eve") 35
  let second : Operation := .turn 70 "a" "bob" 40
  let third : Operation := .turn 70 "a" "ada" 50
  let s₁ := Store.new
  have h₁ : Reached (sample.drop 6) (lobby.access.after s₁).tables :=
    .step lobby (s := s₁) .start (by decide) (runs_after _ _)
  let s₂ := Store.ofTables (lobby.access.after s₁).tables
  have h₂ : Reached (sample.drop 5) (den.access.after s₂).tables :=
    .step den (s := s₂) h₁ (by decide) (runs_after _ _)
  let s₃ := Store.ofTables (den.access.after s₂).tables
  have h₃ : Reached (sample.drop 4) (first.access.after s₃).tables :=
    .step first (s := s₃) h₂ (by decide) (runs_after _ _)
  -- the statement is refused
  let s₄ : Store := ⟨(first.access.after s₃).tables, false, [some "database is locked"], 0, false⟩
  have h₄ : Reached (sample.drop 3) (lost.access.after s₄).tables :=
    .step lost (s := s₄) h₃ (by decide) (runs_after _ _)
  let s₅ := Store.ofTables (lost.access.after s₄).tables
  have h₅ : Reached (sample.drop 2) (other.access.after s₅).tables :=
    .step other (s := s₅) h₄ (by decide) (runs_after _ _)
  let s₆ := Store.ofTables (other.access.after s₅).tables
  have h₆ : Reached (sample.drop 1) (second.access.after s₆).tables :=
    .step second (s := s₆) h₅ (by decide) (runs_after _ _)
  let s₇ := Store.ofTables (second.access.after s₆).tables
  have h₇ : Reached sample (third.access.after s₇).tables :=
    .step third (s := s₇) h₆ (by decide) (runs_after _ _)
  exact ⟨_, h₇, h₇.orderly, rfl⟩

end Thread

end TurnTaking
