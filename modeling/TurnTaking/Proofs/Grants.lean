import TurnTaking.Proofs.Engine.Course
import TurnTaking.Proofs.Spending

/-!
# Grants — credits are not spent twice

Any number of selections by summons may be under way on one store, each of a ranking that was read at some
earlier time, while avatars are summoned in between. A selection is told by its situation, by who may still be
asked and by who was picked (`Tier.Spending`), and goes on by one statement at a time
(`Tier.Spending.program_eq`). However grants and these statements take turns, what an avatar was granted last
and what it was picked since then tell what it has left (`Tier.Reached.balanced`): a ranking that is out of
date has it asked in vain, but never picked. Of a current ranking the first holders are picked
(`Tier.credits_are_spent_once`).
-/

namespace TurnTaking.Tier

open Store Store.Access Presence

variable {σ : Type}

/-! ## Selections under way -/

/-- A selection by summons that is under way. -/
structure Spending where
  situation : Situation
  /-- How many more may be picked. -/
  limit : Nat
  /-- Who may still be asked, in this order. -/
  waiting : List Ranked
  /-- Who was picked. -/
  picked : List Selection

namespace Spending

/-- A selection that begins. -/
def start (limit : Nat) (s : Situation) : Spending := ⟨s, limit, holders s, []⟩

/-- Who is asked next, if anybody is. -/
def asks? (p : Spending) : Option Ranked := if p.limit = 0 then none else p.waiting.head?

/-- As what an avatar is picked that was asked, if it spent a credit. -/
def pick? (p : Spending) (r : Ranked) (spent : Bool) : Option Selection :=
  if spent then p.situation.selectRanked .summon r else none

/-- The selection after an avatar was asked. -/
def answered (p : Spending) (r : Ranked) (spent : Bool) : Spending :=
  match p.pick? r spent with
  | some selection =>
    { p with limit := p.limit - 1, waiting := p.waiting.tail, picked := p.picked ++ [selection] }
  | none => { p with waiting := p.waiting.tail }

/-- What is left to do of a selection. -/
def program (p : Spending) : Try σ (List Selection) := do
  let more ← spendCredits p.situation p.limit p.waiting
  return p.picked ++ more

/-- A selection that begins has the whole program before it. -/
theorem program_start (e : Engine σ) (s : Situation) :
    (start e.config.coordination.maxResponsesPerMessage s).program = selectSummon e s := by
  rw [program, start, selectSummon]
  simp [holders]

/-- A selection asks one avatar after another. -/
theorem program_eq (p : Spending) :
    (p.program : Try σ _) =
      match p.asks? with
      | none => pure p.picked
      | some r => onStore (consumeSummon p.situation.channelId r.avatarId) >>= fun spent =>
        (p.answered r spent).program := by
  obtain ⟨s, limit, waiting, picked⟩ := p
  cases limit with
  | zero => simp [program, asks?, spendCredits]
  | succ limit =>
    cases waiting with
    | nil => simp [program, asks?, spendCredits]
    | cons r rest =>
      simp only [program, asks?, spendCredits, bind_assoc, List.head?_cons]
      rw [if_neg (Nat.succ_ne_zero limit)]
      refine congrArg _ (funext fun spent => ?_)
      rw [answered, pick?]
      dsimp only
      cases (if spent then s.selectRanked .summon r else none : Option Selection) with
      | none => simp
      | some selection => simp

/-- Who is asked next was waiting. -/
theorem mem_waiting {p : Spending} {r : Ranked} (h : p.asks? = some r) : r ∈ p.waiting := by
  rw [asks?] at h
  split at h
  · cases h
  · exact List.mem_of_head? h

/-- Everybody who may be asked is eligible. -/
def Covered (p : Spending) : Prop := ∀ r ∈ p.waiting, (p.situation.eligibleAvatar r.avatarId).isSome

/-- A selection stays covered after each answer. -/
theorem Covered.answered {p : Spending} (h : p.Covered) (r : Ranked) (spent : Bool) :
    (p.answered r spent).Covered := by
  rw [Spending.answered]
  split
  · exact fun r hr => h r (List.mem_of_mem_tail hr)
  · exact fun r hr => h r (List.mem_of_mem_tail hr)

end Spending

/-! ## Grants and picks -/

/-- What happened to the credits of an avatar in a channel: some were granted, in place of those that were
left, or it was picked. -/
inductive Event where
  | grant (k : String × String) (turns : Nat)
  | pick (k : String × String)
deriving DecidableEq, Repr

/-- What happened when an avatar was asked. -/
def Spending.events (p : Spending) (r : Ranked) (spent : Bool) : List Event :=
  ((p.pick? r spent).map fun picked => .pick (p.situation.channelId, picked.avatar.id)).toList

/-- The tables that are reached, and the selections that are under way, when grants and the statements of any
number of selections are made one after another, each through any handle on the tables and with any outcome.
The ranking of a selection may be any whose avatars are all eligible, and what is not about credits may happen
in between. What happened is listed with the latest first. -/
inductive Reached : List Event → Tables → List Spending → Prop where
  | start {t : Tables} (keyed : t.PresenceKeyed) : Reached [] t []
  | aside {history : List Event} {t t' : Tables} {running : List Spending}
      (earlier : Reached history t running) (same : t'.owing = t.owing) : Reached history t' running
  | grant {history : List Event} {s s' : Store} {running : List Spending} {channel avatar : String}
      {turns : Nat} {now : Int} (earlier : Reached history s.tables running) (counted : turns < 0x100000000)
      (run : (grantSummon channel avatar turns now).Runs s (.ok ()) s') :
      Reached (.grant (channel, avatar) turns :: history) s'.tables running
  | grantFails {history : List Event} {s s' : Store} {running : List Spending} {channel avatar : String}
      {turns : Nat} {now : Int} {f : Fault} (earlier : Reached history s.tables running)
      (run : (grantSummon channel avatar turns now).Runs s (.error f) s') : Reached history s'.tables running
  | select {history : List Event} {t : Tables} {running : List Spending} (limit : Nat) (s : Situation)
      (earlier : Reached history t running) (covered : s.Covered) :
      Reached history t (.start limit s :: running)
  | ask {history : List Event} {s s' : Store} {before after : List Spending} {p : Spending} {r : Ranked}
      {spent : Bool} (earlier : Reached history s.tables (before ++ p :: after)) (asks : p.asks? = some r)
      (run : (consumeSummon p.situation.channelId r.avatarId).Runs s (.ok spent) s') :
      Reached (p.events r spent ++ history) s'.tables (before ++ p.answered r spent :: after)
  | askFails {history : List Event} {s s' : Store} {before after : List Spending} {p : Spending} {r : Ranked}
      {f : Fault} (earlier : Reached history s.tables (before ++ p :: after)) (asks : p.asks? = some r)
      (run : (consumeSummon p.situation.channelId r.avatarId).Runs s (.error f) s') :
      Reached history s'.tables (before ++ after)

/-- Putting a row that owes so many turns, or making the one that is there owe them, changes nothing else
about what is owed. -/
theorem owed_putRow {r : PresenceRow} {change : PresenceRow → PresenceRow} {s s' : Store} {owed : Cell}
    (h : (putRow r change).Runs s (.ok ()) s') (hkey : ∀ old, (change old).key = old.key)
    (hr : r.summonTurns = owed) (howed : ∀ old, (change old).summonTurns = owed) :
    (s.tables.PresenceKeyed → s'.tables.PresenceKeyed) ∧
      ∀ k, s'.tables.owedCell k = if r.key = k then owed else s.tables.owedCell k := by
  obtain ⟨rows, hrows, -, htables⟩ := runs_change_ok h
  have hbefore : s.tables.presence = some rows := hrows
  have hafter : s'.tables.presence = some (Table.put PresenceRow.key r change rows) :=
    congrArg Tables.presence htables
  constructor
  · intro hkeyed
    rw [Tables.PresenceKeyed, hbefore] at hkeyed
    rw [Tables.PresenceKeyed, hafter]
    exact (Table.nodup_put hkey rows).mpr hkeyed
  · intro k
    rw [Tables.owedCell, Tables.owedCell, hbefore, hafter]
    refine (Table.column_put hkey rows).trans ?_
    by_cases hk : r.key = k
    · rw [if_pos hk, if_pos hk, hr]
      simp only [howed]
      cases Table.lookup PresenceRow.key k rows <;> rfl
    · rw [if_neg hk, if_neg hk]
      rfl

/-- What an avatar has left in a channel is what it was granted last but for one credit for each time that it
was picked since then. -/
structure Balanced (history : List Event) (t : Tables) : Prop where
  keyed : t.PresenceKeyed
  credits : ∀ k n later earlier, history = later ++ .grant k n :: earlier → (∀ m, .grant k m ∉ later) →
    ∃ left, t.credits k = some left ∧ left + later.count (.pick k) = n

namespace Balanced

variable {history : List Event} {t t' : Tables} {s s' : Store}

/-- A balance is one of what is owed. -/
theorem of_owing (h : Balanced history t) (same : t'.owing = t.owing) : Balanced history t' where
  keyed := (Tables.keyed_of_owing same).mpr h.keyed
  credits k n later earlier hhistory hnone := by
    rw [Tables.credits_of_owing same]
    exact h.credits k n later earlier hhistory hnone

theorem of_tables (h : Balanced history t) (same : t' = t) : Balanced history t' := by
  rw [same]
  exact h

/-- A grant puts its number of turns in place of those that were left. -/
theorem granted {channel avatar : String} {turns : Nat} {now : Int} (h : Balanced history s.tables)
    (hturns : turns < 0x100000000) (hrun : (grantSummon channel avatar turns now).Runs s (.ok ()) s') :
    Balanced (.grant (channel, avatar) turns :: history) s'.tables := by
  obtain ⟨hkeyed, howed⟩ := owed_putRow hrun (fun _ => rfl) rfl fun _ => rfl
  refine ⟨hkeyed h.keyed, fun k n later earlier hhistory hnone => ?_⟩
  cases later with
  | nil =>
    -- this is the grant
    obtain ⟨hgrant, -⟩ := List.cons.inj hhistory
    obtain ⟨rfl, rfl⟩ := Event.grant.inj hgrant
    exact ⟨turns, Tables.credits_eq_some.mpr ⟨(howed _).trans (if_pos rfl), hturns⟩, rfl⟩
  | cons event later =>
    obtain ⟨rfl, htail⟩ := List.cons.inj hhistory
    have hother : (channel, avatar) ≠ k := by
      rintro rfl
      exact hnone turns List.mem_cons_self
    obtain ⟨left, hleft, hsum⟩ := h.credits k n later earlier htail fun m hm =>
      hnone m (List.mem_cons_of_mem _ hm)
    refine ⟨left, ?_, ?_⟩
    · rw [Tables.credits, (howed k).trans (if_neg hother)]
      exact hleft
    · rw [List.count_cons_of_ne (by simp)]
      exact hsum

/-- Whoever spends a credit is picked, and nobody else. -/
theorem events_eq {p : Spending} {r : Ranked} (hcovered : p.Covered) (hr : r ∈ p.waiting) (spent : Bool) :
    p.events r spent = if spent then [.pick (p.situation.channelId, r.avatarId)] else [] := by
  cases spent with
  | false => rfl
  | true =>
    obtain ⟨a, hid, hselected⟩ := selectRanked_of_covered .summon (hcovered r hr)
    rw [Spending.events, Spending.pick?, if_pos rfl, hselected, ← hid]
    rfl

/-- A credit that is asked for is granted once, or not at all. -/
theorem asked {p : Spending} {r : Ranked} {spent : Bool} (h : Balanced history s.tables)
    (hcovered : p.Covered) (hr : r ∈ p.waiting)
    (hrun : (consumeSummon p.situation.channelId r.avatarId).Runs s (.ok spent) s') :
    Balanced (p.events r spent ++ history) s'.tables := by
  rcases runs_consumeSummon hrun with ⟨_, hspent, -, hcredits⟩ | ⟨⟨f, hfault⟩, -⟩
  · obtain rfl := Except.ok.inj hspent
    have hspent := hcredits h.keyed
    -- a credit is lost exactly where a pick is added, so the sum stays what was granted
    rw [events_eq hcovered hr]
    refine ⟨hspent.keyed, fun k n later earlier hhistory hnone => ?_⟩
    cases spent with
    | false =>
      obtain ⟨mid, hmid, hsum⟩ := h.credits k n later earlier hhistory hnone
      obtain ⟨left, hleft, hsame⟩ := hspent.credits k mid hmid
      exact ⟨left, hleft, by simpa [← hsum] using hsame⟩
    | true =>
      rw [if_pos rfl, List.singleton_append] at hhistory
      cases later with
      | nil =>
        obtain ⟨hpick, -⟩ := List.cons.inj hhistory
        cases hpick
      | cons event later =>
        obtain ⟨rfl, htail⟩ := List.cons.inj hhistory
        obtain ⟨mid, hmid, hsum⟩ := h.credits k n later earlier htail fun m hm =>
          hnone m (List.mem_cons_of_mem _ hm)
        obtain ⟨left, hleft, hless⟩ := hspent.credits k mid hmid
        rw [if_pos rfl, List.count_singleton] at hless
        refine ⟨left, hleft, ?_⟩
        rw [List.count_cons]
        simp only [beq_iff_eq, Event.pick.injEq] at hless ⊢
        omega
  · cases hfault

end Balanced

/-- In every state that is reached, whoever may still be asked is eligible, and the credits are balanced. -/
theorem Reached.balanced {history : List Event} {t : Tables} {running : List Spending}
    (h : Reached history t running) : (∀ p ∈ running, p.Covered) ∧ Balanced history t := by
  induction h with
  | start keyed =>
    refine ⟨fun _ hp => absurd hp List.not_mem_nil, keyed, fun k n later earlier hhistory => ?_⟩
    simp at hhistory
  -- what leaves the credits alone leaves the balance
  | aside earlier same ih => exact ⟨ih.1, ih.2.of_owing same⟩
  | grant earlier counted run ih => exact ⟨ih.1, ih.2.granted counted run⟩
  | grantFails earlier run ih => exact ⟨ih.1, ih.2.of_tables ((Transactional.change _ _).restored run)⟩
  | select limit s earlier covered ih =>
    refine ⟨fun p hp => ?_, ih.2⟩
    rcases List.mem_cons.mp hp with rfl | hp
    · exact covered_summons covered
    · exact ih.1 p hp
  | ask earlier asks run ih =>
    -- the one that asked goes on, and the balance with what it picked
    rename_i before after p r spent
    have hcovered : p.Covered := ih.1 p (by simp)
    refine ⟨fun q hq => ?_, ih.2.asked hcovered (Spending.mem_waiting asks) run⟩
    rcases List.mem_append.mp hq with hq | hq
    · exact ih.1 q (List.mem_append_left _ hq)
    · rcases List.mem_cons.mp hq with rfl | hq
      · exact hcovered.answered r spent
      · exact ih.1 q (List.mem_append_right _ (List.mem_cons_of_mem p hq))
  | askFails earlier asks run ih =>
    rename_i before after p r f
    refine ⟨fun q hq => ?_, ih.2.of_tables (((Transactional.change _ _).map _).restored run)⟩
    rcases List.mem_append.mp hq with hq | hq
    · exact ih.1 q (List.mem_append_left _ hq)
    · exact ih.1 q (List.mem_append_right _ (List.mem_cons_of_mem p hq))

/-- Whatever happened up to some time was reached at that time. -/
theorem Reached.suffix {history earlier : List Event} {t : Tables} {running : List Spending}
    (h : Reached history t running) (hsuffix : earlier <:+ history) :
    ∃ t running, Reached earlier t running := by
  induction h with
  | start keyed =>
    obtain rfl := List.suffix_nil.mp hsuffix
    exact ⟨_, _, .start keyed⟩
  | aside _ _ ih => exact ih hsuffix
  | grant before counted run ih =>
    -- a credit was granted last, or later
    rcases List.suffix_cons_iff.mp hsuffix with rfl | hsuffix
    · exact ⟨_, _, .grant before counted run⟩
    · exact ih hsuffix
  | grantFails _ _ ih => exact ih hsuffix
  | select _ _ _ _ ih => exact ih hsuffix
  | ask before asks run ih =>
    rename_i p r spent
    have hstep := Reached.ask before asks run
    -- who asked in vain left nothing in the history
    cases hpick : p.pick? r spent with
    | none =>
      rw [Spending.events, hpick] at hsuffix
      exact ih hsuffix
    | some picked =>
      rw [Spending.events, hpick] at hsuffix hstep
      rcases List.suffix_cons_iff.mp hsuffix with rfl | hsuffix
      · exact ⟨_, _, hstep⟩
      · exact ih hsuffix
  | askFails _ _ _ ih => exact ih hsuffix

/-! ## Credits -/

/-- In every state that grants and selections by summons reach, however their statements take turns, whatever
rankings the selections work on and whichever of the statements fail, an avatar has left in a channel what it
was granted last but for one credit for each time that it was picked since then; and so it was never picked
more often after a grant and before the next one than it was granted turns. A selection is these statements:
it begins with all holders of its ranking, asks the next one while more may be picked, and ends with those who
were picked. Where a selection comes to a result on a current ranking, the first of the holders are picked, by
the last summons, the latest first, and then by id; each of them has lost one credit, and nothing else has
changed in any row or table. Where nothing fails, it does come to a result. -/
theorem credits_are_spent_once (e : Engine σ) (s : Situation) :
    (∀ history t running, Reached history t running → ∀ k n earlier,
      (∀ later, history = later ++ .grant k n :: earlier → (∀ m, .grant k m ∉ later) →
        ∃ left, t.credits k = some left ∧ left + later.count (.pick k) = n) ∧
      ∀ later between, history = later ++ (between ++ .grant k n :: earlier) → (∀ m, .grant k m ∉ between) →
        between.count (.pick k) ≤ n) ∧
    (Spending.start e.config.coordination.maxResponsesPerMessage s).program = selectSummon e s ∧
    (∀ p : Spending, (p.program : Try σ _) =
      match p.asks? with
      | none => pure p.picked
      | some r => onStore (consumeSummon p.situation.channelId r.avatarId) >>= fun spent =>
        (p.answered r spent).program) ∧
    ∀ (w : World σ) rows, Current w.store.tables rows s →
      (holders s).Perm (s.ranked.filter (·.record.hasSummonCredit)) ∧ (holders s).Pairwise SummonedBefore ∧
      (∀ selections w', (selectSummon e s).run.run w = (.ok selections, w') →
        let first := (holders s).take e.config.coordination.maxResponsesPerMessage
        Picks s.channelId (first.map Ranked.avatarId) w.store.tables rows selections w'.store.tables ∧
        ∀ r ∈ first, w.store.tables.credits (s.channelId, r.avatarId) = some r.record.summonTurns ∧
          ∃ left, w'.store.tables.credits (s.channelId, r.avatarId) = some left ∧
            left + 1 = r.record.summonTurns) ∧
      ∀ t, w.store = .ofTables t → ∃ selections w', (selectSummon e s).run.run w = (.ok selections, w') := by
  refine ⟨fun history t running h k n earlier => ⟨?_, ?_⟩, Spending.program_start e s, Spending.program_eq,
    ?_⟩
  · intro later hhistory hnone
    exact h.balanced.2.credits k n later earlier hhistory hnone
  · intro later between hhistory hnone
    -- before what came later, the picks were balanced with what was left
    obtain ⟨t', running', hthen⟩ := h.suffix ⟨later, hhistory.symm⟩
    obtain ⟨left, -, hsum⟩ := hthen.balanced.2.credits k n between earlier rfl hnone
    omega
  · intro w rows hcurrent
    refine ⟨holders_perm s, pairwise_holders hcurrent.ids, fun selections w' hrun => ?_, fun t hstore => ?_⟩
    · have hpicks := selectSummon_current hcurrent hrun
      exact ⟨hpicks, fun r hr => hcurrent.credits hr (congrArg Tables.presence hpicks.rows)⟩
    · have hrows := hcurrent.table
      rw [hstore] at hrows
      exact spendCredits_ofTables hstore hrows

/-- The record of an avatar that is owed one turn. -/
def owedRecord : Record := { Record.fresh "c" "ada" 5 with lastSummonedAt := some 5, summonTurns := 1 }

/-- A situation in which it is ranked. -/
def owedSituation : Situation := ⟨"c", none, .humanMessage, Avatar.pair, [⟨owedRecord, 0⟩], 9⟩

theorem owedSituation_covered : owedSituation.Covered := by
  intro r hr
  obtain rfl := List.mem_singleton.mp hr
  rfl

theorem holders_owedSituation : holders owedSituation = [⟨owedRecord, 0⟩] := by
  rw [holders]
  exact List.mergeSort_singleton _

/-- Whoever selects in it asks the avatar first. -/
theorem owedSituation_asks : (Spending.start 2 owedSituation).asks? = some ⟨owedRecord, 0⟩ := by
  show List.head? (holders owedSituation) = _
  rw [holders_owedSituation]
  rfl

/-- A store in which the avatar was summoned for the one turn. -/
def owed : Store := .ofTables ((grantSummon "c" "ada" 1 5).after .new).tables

/-- The ranking is current there. -/
theorem owedSituation_current :
    Current owed.tables (owed.tables.presence.getD []) owedSituation := by
  constructor
  · rfl
  · decide +kernel
  · exact owedSituation_covered
  · decide
  · intro r hr
    obtain rfl := List.mem_singleton.mp hr
    exact ⟨_, List.mem_singleton_self _, rfl, rfl⟩

/-- Two selections begin there, and each asks the avatar for its credit, which the first of them spends. -/
theorem owed_reached :
    let fresh := Spending.start 2 owedSituation
    Reached [.pick ("c", "ada"), .grant ("c", "ada") 1] ((consumeSummon "c" "ada").after owed).tables
      [fresh.answered ⟨owedRecord, 0⟩ true, fresh.answered ⟨owedRecord, 0⟩ false] := by
  intro fresh
  have hgranted : Reached [.grant ("c", "ada") 1] owed.tables [] :=
    .grant (s := .new) (.start List.Pairwise.nil) (by decide) rfl
  have hboth : Reached [.grant ("c", "ada") 1] owed.tables [fresh, fresh] :=
    .select 2 owedSituation (.select 2 owedSituation hgranted owedSituation_covered) owedSituation_covered
  have hspent : Reached (fresh.events ⟨owedRecord, 0⟩ true ++ [.grant ("c", "ada") 1])
      ((consumeSummon "c" "ada").after owed).tables
      ([] ++ fresh.answered ⟨owedRecord, 0⟩ true :: [fresh]) :=
    .ask (s := owed) hboth owedSituation_asks rfl
  have hvain : Reached (fresh.events ⟨owedRecord, 0⟩ false ++ [.pick ("c", "ada"), .grant ("c", "ada") 1])
      ((consumeSummon "c" "ada").after owed).tables
      ([fresh.answered ⟨owedRecord, 0⟩ true] ++ fresh.answered ⟨owedRecord, 0⟩ false :: []) :=
    .ask (s := .ofTables ((consumeSummon "c" "ada").after owed).tables) hspent owedSituation_asks rfl
  exact hvain

/-- Two selections are under way on the same ranking. The second asks for a credit that the first has spent by
then, and picks nobody. With only one of them, the ranking is still current when the avatar is asked. -/
theorem credits_are_spent_once_ada :
    let granted := ((grantSummon "c" "ada" 1 5).after .new).tables
    let spent := ((consumeSummon "c" "ada").after (.ofTables granted)).tables
    let history : List Event := [.pick ("c", "ada"), .grant ("c", "ada") 1]
    let e : Engine Unit := .standard (.plain [] "")
    (∃ first second, Reached history spent [first, second] ∧ first.picked.length = 1 ∧ second.picked = []) ∧
      (∃ left, spent.credits ("c", "ada") = some left ∧ left + 1 = 1) ∧
      (∃ rows, Current granted rows owedSituation) ∧
      ∃ selections w', (selectSummon e owedSituation).run.run (.ofTables granted ()) = (.ok selections, w') ∧
        selections.map (·.avatar.id) = ["ada"] := by
  intro granted spent history e
  have hpicked : ((Spending.start 2 owedSituation).answered ⟨owedRecord, 0⟩ true).picked.length = 1 := rfl
  obtain ⟨hbalance, -, -, hselects⟩ := credits_are_spent_once e owedSituation
  obtain ⟨hleft, -⟩ := hbalance _ _ _ owed_reached ("c", "ada") 1 []
  obtain ⟨-, -, hfirst, hends⟩ := hselects (.ofTables granted ()) _ owedSituation_current
  obtain ⟨selections, w', hrun⟩ := hends granted rfl
  refine ⟨⟨_, _, owed_reached, hpicked, rfl⟩, hleft [.pick ("c", "ada")] rfl (by simp),
    ⟨_, owedSituation_current⟩, selections, w', hrun, ?_⟩
  rw [(hfirst selections w' hrun).1.picked, holders_owedSituation]
  rfl

end TurnTaking.Tier
