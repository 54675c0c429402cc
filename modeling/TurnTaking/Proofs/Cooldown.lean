import TurnTaking.Proofs.Activity
import TurnTaking.Proofs.Gate
import TurnTaking.Proofs.Store.Untroubled

/-!
# Cooldown — for whom a channel cools down

The gate knows one bot message of a channel, the last. A channel cools down for a request if that message
is recent and answered another trigger (`Cools`, `runs_enter_cools`). Measured by all messages of the
channel this is too seldom: a message for another trigger does not count any more as soon as a later one
answered the trigger of the request (`cools_down_iff`).
-/

namespace TurnTaking

open Store Store.Access

namespace Gate

/-- The last bot message of the channel came less than a gap ago, for another trigger than the request's. -/
def Cools (t : Tables) (gap : Int) (r : Request) (now : Int) : Prop :=
  ∃ n trigger, t.lastBot r.channelId = some (.number n, trigger) ∧ trigger ≠ some r.triggerKey ∧
    now - n < gap

/-- What is left of the gap since an output for another trigger. -/
theorem remainingCooldown?_eq_some {gap now n : Int} {key : String} {trigger : Option String}
    (h : trigger ≠ some key) (hgap : now - n < gap) :
    remainingCooldown? gap key now (some (some n, trigger)) = some (gap - (now - n)) :=
  if_pos ⟨h, hgap⟩

/-- What is read of the last bot message says whether the channel cools down. -/
theorem runs_lastBotOutput (gap now : Int) {r : Request} {last : Option (Option Int × Option String)}
    {s s' : Store} (h : (lastBotOutput r.channelId).Runs s (.ok last) s') :
    s'.tables = s.tables ∧
      ((remainingCooldown? gap r.triggerKey now last).isSome ↔ Cools s.tables gap r now) := by
  obtain ⟨rows, hrows, hread, htables⟩ := runs_query_ok h
  refine ⟨htables, ?_⟩
  have hactivity : s.tables.activity = some rows := hrows
  simp only [Cools, Tables.lastBot, hactivity, Option.getD_some]
  cases hold : Table.lookup ActivityRow.key (some r.channelId) rows with
  | none =>
    rw [hold] at hread
    obtain rfl := Except.ok.inj hread
    simp [remainingCooldown?]
  | some old =>
    rw [hold] at hread
    cases hbot : old.lastBotAt with
    | none =>
      -- no bot wrote, so nothing cools down
      simp only [readRow?, readOptional, hbot, Except.map] at hread
      obtain rfl := Except.ok.inj hread
      simp [remainingCooldown?, hbot]
    | some time =>
      cases time with
      | number n =>
        simp only [readRow?, readOptional, readNumber, hbot, Except.map] at hread
        obtain rfl := Except.ok.inj hread
        simp [remainingCooldown?, hbot, and_assoc]
      | real x => simp [readRow?, readOptional, readNumber, hbot, Except.map] at hread
      | text s => simp [readRow?, readOptional, readNumber, hbot, Except.map] at hread

/-- Whether the gate admits a responder or not, it speaks of no cooldown any more. -/
theorem runs_admitResponder_ne {c : Config.Gate} {r : Request} {now : Int} {a : Admission}
    {s s' : Store} (h : (admitResponder c r now).Runs s (.ok a) s') (remaining : Int) :
    a ≠ .channelCooldown remaining := by
  obtain ⟨admitted, s₁, -, hrest⟩ := runs_bind_ok h
  split at hrest
  · obtain ⟨rfl, -⟩ := runs_pure_ok hrest
    exact Admission.noConfusion
  · split at hrest
    · obtain ⟨rfl, -⟩ := runs_pure_ok hrest
      exact Admission.noConfusion
    · obtain ⟨_, s₂, -, hret⟩ := runs_bind_ok hrest
      obtain ⟨rfl, -⟩ := runs_pure_ok hret
      exact Admission.noConfusion

/-- Where the gate keeps a gap, its answer is that the channel cools down exactly if it does. -/
theorem runs_enter_cools {c : Config.Gate} {r : Request} {now : Int} {a : Admission} {s s' : Store}
    (hkeeps : r.overridesCooldown = false) (hgap : 0 < cooldownFor c r.trigger)
    (h : (enter c r now).Runs s (.ok a) s') :
    (∃ remaining, a = .channelCooldown remaining) ↔
      Cools s.tables (cooldownFor c r.trigger) r now := by
  rcases runs_atomically h with ⟨a', s₁, s₂, ha, hbegin, hact, -⟩ | ⟨⟨e, he⟩, -⟩
  · obtain rfl := Except.ok.inj ha
    have h₁ : s₁.tables = s.tables := hbegin.view
    rw [← h₁]
    -- without an override the gate looks at the last message first
    simp only [hkeeps, hgap, Bool.not_false, decide_true, Bool.and_self, if_true] at hact
    obtain ⟨last, s₃, hquery, hrest⟩ := runs_bind_ok hact
    obtain ⟨-, hcools⟩ := runs_lastBotOutput (cooldownFor c r.trigger) now hquery
    rw [← hcools]
    split at hrest
    · rename_i remaining hremaining
      obtain ⟨rfl, -⟩ := runs_pure_ok hrest
      rw [hremaining]
      exact ⟨fun _ => rfl, fun _ => ⟨remaining, rfl⟩⟩
    · rename_i hnone
      rw [hnone]
      constructor
      · rintro ⟨remaining, rfl⟩
        exact absurd rfl (runs_admitResponder_ne hrest remaining)
      · intro hsome
        cases hsome
  · cases he

/-- Where nothing fails, the gate says that the channel cools down. -/
theorem enter_of_cools {c : Config.Gate} {r : Request} {now : Int} {t : Tables}
    (hkeeps : r.overridesCooldown = false) (hgap : 0 < cooldownFor c r.trigger)
    (h : Cools t (cooldownFor c r.trigger) r now) :
    ∃ remaining, (enter c r now).outcome (.ofTables t) = .ok (.channelCooldown remaining) := by
  obtain ⟨n, trigger, hlast, htrigger, hrecent⟩ := h
  simp only [Tables.lastBot, Option.bind_eq_some_iff, Option.map_eq_some_iff, Prod.mk.injEq] at hlast
  obtain ⟨row, hrow, time, hbot, rfl, rfl⟩ := hlast
  cases hactivity : t.activity with
  | none =>
    rw [hactivity] at hrow
    cases hrow
  | some rows =>
    rw [hactivity] at hrow
    -- the last output is read as it is stored
    have hread : (lastBotOutput r.channelId).Runs (.ofTables t)
        (.ok (some (some n, row.lastBotTrigger))) (.ofTables t) := by
      refine runs_query_ofTables (r := .activity) hactivity ?_
      rw [show Table.lookup ActivityRow.key (some r.channelId) rows = some row from hrow]
      simp only [readRow?, readOptional, readNumber, hbot, Except.map]
    refine ⟨cooldownFor c r.trigger - (now - n), ?_⟩
    have hrun : (enter c r now).Runs (.ofTables t)
        (.ok (.channelCooldown (cooldownFor c r.trigger - (now - n)))) (.ofTables t) := by
      refine runs_atomically_ofTables ?_
      simp only [hkeeps, hgap, Bool.not_false, decide_true, Bool.and_self, if_true]
      refine hread.bind ?_
      simp only [remainingCooldown?_eq_some htrigger hrecent]
      rfl
    exact ((runs_after _ _).unique hrun).1

/-- Where messages were recorded, the channel cools down if the latest of them is recent and answered
another trigger. -/
theorem cools_iff {t : Tables} {gap now : Int} {r : Request} {outputs : List Activity.Output}
    (h : Activity.Knows t r.channelId outputs) :
    Cools t gap r now ↔
      ∃ o, Activity.Latest outputs o ∧ o.triggerKey ≠ r.triggerKey ∧ now - gap < o.time := by
  rcases h with ⟨rfl, hnone⟩ | ⟨last, hlatest, hsome⟩
  · constructor
    · rintro ⟨n, trigger, hlast, -⟩
      rw [hnone] at hlast
      cases hlast
    · rintro ⟨o, ho, -⟩
      cases ho.mem
  · constructor
    · rintro ⟨n, trigger, hlast, htrigger, hrecent⟩
      obtain ⟨htime, rfl⟩ := Prod.mk.inj (Option.some.inj (hsome.symm.trans hlast))
      obtain rfl := Cell.number.inj htime
      exact ⟨last, hlatest, fun hkey => htrigger (congrArg some hkey), by omega⟩
    · rintro ⟨o, ho, hkey, hrecent⟩
      obtain rfl := ho.unique hlatest
      exact ⟨o.time, some o.triggerKey, hsome, fun hk => hkey (Option.some.inj hk), by omega⟩

/-- Whatever bot messages of a channel were recorded, in whatever order of their times: without an
override the gate has a request wait for the channel exactly if there is a recent message for another
trigger and the latest message of all is not one for the request's own. -/
theorem cools_down_iff (c : Config.Gate) (r : Request) (now : Int) (outputs : List Activity.Output)
    (htimes : ∀ o ∈ outputs, 0 ≤ o.time) (hkeeps : r.overridesCooldown = false)
    (hgap : 0 < cooldownFor c r.trigger) :
    let s := (Activity.recordBots r.channelId outputs).after Store.new
    (∃ remaining, (enter c r now).outcome s = .ok (.channelCooldown remaining)) ↔
      (∃ o ∈ outputs, o.triggerKey ≠ r.triggerKey ∧ now - cooldownFor c r.trigger < o.time) ∧
        ∀ o, Activity.Latest outputs o → o.triggerKey ≠ r.triggerKey := by
  intro s
  obtain ⟨t, hrecorded⟩ := Activity.recordBots_ofTables r.channelId outputs (t := .empty) rfl
  have hs : s = .ofTables t := ((runs_after _ Store.new).unique hrecorded).2
  have hknows : Activity.Knows t r.channelId outputs := by
    have hbefore : Activity.Knows Store.new.tables r.channelId [] := .inl ⟨rfl, rfl⟩
    exact Activity.runs_recordBots hbefore htimes hrecorded
  rw [hs]
  constructor
  · rintro ⟨remaining, hanswer⟩
    have hrun := runs_after (enter c r now) (.ofTables t)
    rw [hanswer] at hrun
    obtain ⟨o, ho, hkey, hrecent⟩ := (cools_iff hknows).mp
      ((runs_enter_cools hkeeps hgap hrun).mp ⟨remaining, rfl⟩)
    refine ⟨⟨o, ho.mem, hkey, hrecent⟩, fun o' ho' => ?_⟩
    rwa [ho'.unique ho]
  · rintro ⟨⟨o, ho, -, hrecent⟩, hlatest⟩
    -- the latest message is no earlier than the recent one, and for another trigger as well
    rcases hknows with ⟨rfl, -⟩ | ⟨last, hlast, hsome⟩
    · cases ho
    · have hle := hlast.le ho
      exact enter_of_cools hkeeps hgap ((cools_iff (.inr ⟨last, hlast, hsome⟩)).mpr
        ⟨last, hlast, hlatest last hlast, by omega⟩)

/-- A message for another trigger that is the latest keeps a request waiting. -/
theorem cools_down_after_other :
    let r : Request := ⟨"c", "ada", "k", .humanMessage, false⟩
    let outputs : List Activity.Output := [⟨"k", 10⟩, ⟨"l", 20⟩]
    ∃ remaining, (enter Config.standard.gate r 30).outcome
      ((Activity.recordBots "c" outputs).after Store.new) = .ok (.channelCooldown remaining) := by
  intro r outputs
  refine (cools_down_iff Config.standard.gate r 30 outputs (by decide) rfl (by decide)).mpr
    ⟨⟨⟨"l", 20⟩, by simp [outputs], by decide, by decide⟩, fun o ho => ?_⟩
  obtain rfl := ho.unique ⟨[⟨"k", 10⟩], [], rfl, by decide, by decide⟩
  decide

/-- A message for another trigger is forgotten as soon as a later one answered the request's own: it is
not true that the gate has a request wait for every recent message of another trigger. -/
theorem cooldown_forgets :
    ¬ ∀ (c : Config.Gate) (r : Request) (now : Int) (outputs : List Activity.Output),
      (∀ o ∈ outputs, 0 ≤ o.time ∧ o.time ≤ now) → r.overridesCooldown = false →
        0 < cooldownFor c r.trigger →
        ((∃ remaining, (enter c r now).outcome
            ((Activity.recordBots r.channelId outputs).after Store.new) =
              .ok (.channelCooldown remaining)) ↔
          ∃ o ∈ outputs, o.triggerKey ≠ r.triggerKey ∧ now - cooldownFor c r.trigger < o.time) := by
  intro h
  let r : Request := ⟨"c", "ada", "k", .humanMessage, false⟩
  have hwaits := (h Config.standard.gate r 30 [⟨"l", 10⟩, ⟨"k", 20⟩] (by decide) rfl (by decide)).mpr
    ⟨⟨"l", 10⟩, List.mem_cons_self, by decide, by decide⟩
  have hadmits : ((enter Config.standard.gate r 30).outcome
      ((Activity.recordBots "c" [⟨"l", 10⟩, ⟨"k", 20⟩]).after Store.new)).toOption =
        some .admitted := by
    decide +kernel
  obtain ⟨remaining, hremaining⟩ := hwaits
  rw [hremaining] at hadmits
  cases hadmits

end Gate

end TurnTaking
