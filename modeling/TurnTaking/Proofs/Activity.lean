import TurnTaking.Activity
import TurnTaking.Proofs.Store.Table
import TurnTaking.Proofs.Store.Untroubled

/-!
# Activity — the last bot message of a channel

Of all bot messages of a channel the store knows one (`Tables.lastBot`): the latest, and of equally late
ones the one that was recorded last. That holds after each message (`runs_recordBot`), and so after all
that were ever recorded (`runs_recordBots`).
-/

namespace TurnTaking

open Store Store.Access

/-- The last bot message of a channel that the store knows of: when it came, and the key of the trigger
that it answered. -/
def Store.Tables.lastBot (t : Tables) (channel : String) : Option (Cell × Option String) :=
  (Table.lookup ActivityRow.key (some channel) (t.activity.getD [])).bind fun r =>
    r.lastBotAt.map fun time => (time, r.lastBotTrigger)

namespace Activity

/-- The later of the last bot message and another; of equally late ones the other. -/
def laterBot (last : Option (Cell × Option String)) (key : String) (now : Int) :
    Cell × Option String :=
  match last with
  | none => (.number now, some key)
  | some (time, trigger) => (time.greater now, if time.upTo now then some key else trigger)

/-- After no later message, a message is the last. -/
theorem laterBot_of_le {last : Option (Cell × Option String)} {key : String} {now : Int}
    (h : ∀ time trigger, last = some (time, trigger) → ∃ n ≤ now, time = .number n) :
    laterBot last key now = (.number now, some key) := by
  cases last with
  | none => rfl
  | some last =>
    obtain ⟨time, trigger⟩ := last
    obtain ⟨n, hn, rfl⟩ := h time trigger rfl
    simp only [laterBot, Cell.greater_number, Cell.upTo_number, Int.max_eq_right hn, hn, decide_true,
      if_true]

/-- Recording a bot message makes it the last of its channel unless a later one is known, and does
nothing to the other channels. -/
theorem runs_recordBot {channel key : String} {now : Int} (hnow : 0 ≤ now) {x : Except Fault Unit}
    {s s' : Store} (h : (recordBot channel key now).Runs s x s') :
    (x = .ok () ∧ s'.failures = s.failures ∧ ∀ c, s'.tables.lastBot c =
        if c = channel then some (laterBot (s.tables.lastBot c) key now) else s.tables.lastBot c) ∨
      (∃ e, x = .error e) ∧ Faulted s s' := by
  rcases runs_change h with ⟨rows, hrows, hx, htables, hfailures⟩ | hfault
  · refine .inl ⟨hx, hfailures, fun c => ?_⟩
    have hbefore : s.tables.activity = some rows := hrows
    rw [htables]
    simp only [Tables.lastBot, hbefore, Relation.activity, Option.getD_some]
    rw [Table.lookup_put (by exact fun _ => rfl)]
    simp only [ActivityRow.key, Option.some.injEq]
    by_cases hc : c = channel
    · subst hc
      rw [if_pos rfl, if_pos rfl]
      cases hold : Table.lookup ActivityRow.key (some c) rows with
      | none => rfl
      | some old =>
        simp only [Option.map_some, Option.getD_some, Option.bind_some, laterOf]
        cases hbot : old.lastBotAt with
        | some time => rfl
        | none =>
          -- a time that never came counts as zero, and no message is earlier
          simp only [laterBot, Option.map_none, Option.getD_none, Cell.greater_number,
            Cell.upTo_number, Int.max_eq_right hnow, hnow, decide_true, if_true]
    · rw [if_neg hc, if_neg (Ne.symm hc)]
  · exact .inr hfault

/-! ## All messages that were recorded -/

/-- A bot message. -/
structure Output where
  triggerKey : String
  time : Int

/-- The latest of messages that were recorded in this order; of equally late ones the one recorded
last. -/
def Latest (outputs : List Output) (o : Output) : Prop :=
  ∃ before after, outputs = before ++ o :: after ∧ (∀ x ∈ before, x.time ≤ o.time) ∧
    ∀ x ∈ after, x.time < o.time

namespace Latest

variable {outputs : List Output} {o o' : Output}

theorem mem (h : Latest outputs o) : o ∈ outputs := by
  obtain ⟨before, after, rfl, -, -⟩ := h
  exact List.mem_append_right _ List.mem_cons_self

theorem le (h : Latest outputs o) {x : Output} (hx : x ∈ outputs) : x.time ≤ o.time := by
  obtain ⟨before, after, rfl, hbefore, hafter⟩ := h
  rcases List.mem_append.mp hx with hx | hx
  · exact hbefore x hx
  · rcases List.mem_cons.mp hx with rfl | hx
    · exact Int.le_refl _
    · exact Int.le_of_lt (hafter x hx)

theorem single (o : Output) : Latest [o] o := ⟨[], [], rfl, by simp, by simp⟩

/-- What was latest stays so until a message comes that is no earlier. -/
theorem append (h : Latest outputs o) (o' : Output) :
    Latest (outputs ++ [o']) (if o.time ≤ o'.time then o' else o) := by
  split
  · rename_i hle
    exact ⟨outputs, [], rfl, fun x hx => Int.le_trans (h.le hx) hle, by simp⟩
  · rename_i hgt
    obtain ⟨before, after, rfl, hbefore, hafter⟩ := h
    refine ⟨before, after ++ [o'], by simp, hbefore, fun x hx => ?_⟩
    rcases List.mem_append.mp hx with hx | hx
    · exact hafter x hx
    · obtain rfl := List.mem_singleton.mp hx
      omega

/-- There is one latest message. -/
theorem unique (h : Latest outputs o) (h' : Latest outputs o') : o = o' := by
  have htime : o.time = o'.time := Int.le_antisymm (h'.le h.mem) (h.le h'.mem)
  obtain ⟨before, after, rfl, -, hafter⟩ := h
  obtain ⟨before', after', heq, -, hafter'⟩ := h'
  -- were one of them recorded before the other, it would be earlier
  rcases List.append_eq_append_iff.mp heq with ⟨between, rfl, hrest⟩ | ⟨between, rfl, hrest⟩
  · cases between with
    | nil => exact (List.cons.inj hrest).1
    | cons x between =>
      obtain ⟨-, rfl⟩ := List.cons.inj hrest
      have hlt := hafter o' (List.mem_append_right _ List.mem_cons_self)
      omega
  · cases between with
    | nil => exact (List.cons.inj hrest).1.symm
    | cons x between =>
      obtain ⟨-, rfl⟩ := List.cons.inj hrest
      have hlt := hafter' o (List.mem_append_right _ List.mem_cons_self)
      omega

end Latest

/-- Records bot messages of a channel, one after another. -/
def recordBots (channel : String) : List Output → Access Unit
  | [] => return
  | o :: rest => do
    recordBot channel o.triggerKey o.time
    recordBots channel rest

/-- The store knows the latest of the bot messages of a channel. -/
def Knows (t : Tables) (channel : String) (outputs : List Output) : Prop :=
  (outputs = [] ∧ t.lastBot channel = none) ∨
    ∃ o, Latest outputs o ∧ t.lastBot channel = some (.number o.time, some o.triggerKey)

/-- Recording one more message keeps that. -/
theorem Knows.recordBot {channel : String} {outputs : List Output} {o : Output} {s s' : Store}
    (h : Knows s.tables channel outputs) (ho : 0 ≤ o.time)
    (hrun : (Activity.recordBot channel o.triggerKey o.time).Runs s (.ok ()) s') :
    Knows s'.tables channel (outputs ++ [o]) := by
  rcases runs_recordBot ho hrun with ⟨-, -, hlast⟩ | ⟨⟨e, he⟩, -⟩
  · have hself := hlast channel
    rw [if_pos rfl] at hself
    rw [Knows, hself]
    rcases h with ⟨rfl, hnone⟩ | ⟨last, hlatest, hsome⟩
    · rw [hnone]
      exact .inr ⟨o, .single o, rfl⟩
    · rw [hsome]
      refine .inr ⟨_, hlatest.append o, ?_⟩
      by_cases hle : last.time ≤ o.time
      · simp only [laterBot, Cell.greater_number, Cell.upTo_number, Int.max_eq_right hle, hle,
          decide_true, if_true]
      · have hlt := Int.le_of_lt (Int.not_le.mp hle)
        simp only [laterBot, Cell.greater_number, Cell.upTo_number, Int.max_eq_left hlt, hle,
          decide_false, Bool.false_eq_true, if_false]
  · cases he

/-- After any messages, the store knows the latest of all. -/
theorem runs_recordBots {channel : String} {before outputs : List Output} {s s' : Store}
    (h : Knows s.tables channel before) (houtputs : ∀ o ∈ outputs, 0 ≤ o.time)
    (hrun : (recordBots channel outputs).Runs s (.ok ()) s') :
    Knows s'.tables channel (before ++ outputs) := by
  induction outputs generalizing before s with
  | nil =>
    obtain ⟨-, rfl⟩ := runs_pure_ok hrun
    rwa [List.append_nil]
  | cons o rest ih =>
    obtain ⟨_, s₁, hfirst, hrest⟩ := runs_bind_ok hrun
    have hknows := h.recordBot (houtputs o List.mem_cons_self) hfirst
    have hall := ih hknows (fun x hx => houtputs x (List.mem_cons_of_mem _ hx)) hrest
    rwa [List.append_assoc] at hall

/-- A bot message is recorded in a store that nothing hinders. -/
theorem recordBot_ofTables (channel key : String) (now : Int) {t : Tables} (h : t.activity.isSome) :
    ∃ rows, (recordBot channel key now).Runs (.ofTables t) (.ok ())
      (.ofTables { t with activity := some rows }) := by
  obtain ⟨rows, hrows⟩ := Option.isSome_iff_exists.mp h
  exact ⟨_, runs_change_ofTables (r := .activity) hrows _⟩

/-- Where nothing fails, all messages are recorded. -/
theorem recordBots_ofTables (channel : String) (outputs : List Output) {t : Tables}
    (h : t.activity.isSome) :
    ∃ t', (recordBots channel outputs).Runs (.ofTables t) (.ok ()) (.ofTables t') := by
  induction outputs generalizing t with
  | nil => exact ⟨t, rfl⟩
  | cons o rest ih =>
    obtain ⟨rows, hfirst⟩ := recordBot_ofTables channel o.triggerKey o.time h
    obtain ⟨t', hrest⟩ := ih (t := { t with activity := some rows }) rfl
    exact ⟨t', hfirst.bind hrest⟩

end Activity

end TurnTaking
