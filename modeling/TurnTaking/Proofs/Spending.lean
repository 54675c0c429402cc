import Mathlib.Data.List.Nodup
import TurnTaking.Proofs.Engine.Selection
import TurnTaking.Proofs.Presence
import TurnTaking.Proofs.Recency

/-!
# Spending — whom a selection by summons picks

Those who hold a credit by the ranking are asked one after another, the latest summoned first, until so many
are picked. A ranking may be out of date by then. Where it is not, nobody is asked in vain: the first holders
are picked, each loses one credit, and nothing else is changed (`selectSummon_current`).
-/

namespace TurnTaking

open Store Store.Access Presence Std

variable {σ : Type}

/-! ## The order of the holders -/

namespace Presence

/-- By the last summons, the latest first, and then by id. -/
def summonOrder : Ranked → Ranked → Ordering :=
  compareLex (fun a b => compareMoments b.record.lastSummonedAt a.record.lastSummonedAt)
    (compareOn Ranked.avatarId)

/-- Summons are sorted by their order. -/
theorem bySummon_eq (a b : Ranked) : Tier.bySummon a b = (summonOrder a b).isLE := by
  show decide (summonOrder a b ≠ .gt) = (summonOrder a b).isLE
  cases summonOrder a b <;> rfl

instance : TransCmp summonOrder := by
  have hsummons := transCmp_descending compare fun r : Ranked => r.record.lastSummonedAt
  simp only [← compareMoments_eq] at hsummons
  exact inferInstanceAs (TransCmp (compareLex _ (compareOn Ranked.avatarId)))

theorem compareMoments_eq_lt {x y : Option Int} : compareMoments x y = .lt ↔ x < y := by
  cases x with
  | none => cases y <;> simp [compareMoments]
  | some m =>
    cases y with
    | none => simp [compareMoments]
    | some n =>
      rw [Option.some_lt_some]
      exact Int.compare_eq_lt

/-- The one was summoned after the other, or at the same time and has the lesser id. -/
def SummonedBefore (a b : Ranked) : Prop :=
  b.record.lastSummonedAt < a.record.lastSummonedAt ∨
    b.record.lastSummonedAt = a.record.lastSummonedAt ∧ a.avatarId < b.avatarId

/-- Who stands before was summoned before, or comes first by id. -/
theorem summonedBefore_of_isLE {a b : Ranked} (h : (summonOrder a b).isLE) (hid : a.avatarId ≠ b.avatarId) :
    SummonedBefore a b := by
  rw [summonOrder, compareLex] at h
  cases hsummons : compareMoments b.record.lastSummonedAt a.record.lastSummonedAt with
  | lt => exact .inl (compareMoments_eq_lt.mp hsummons)
  | gt =>
    rw [hsummons] at h
    cases h
  | eq =>
    rw [compareMoments_eq] at hsummons
    rw [compareMoments_eq, hsummons] at h
    refine .inr ⟨LawfulEqCmp.eq_of_compare hsummons, ?_⟩
    cases hids : compare a.avatarId b.avatarId with
    | lt => exact compareOfLessAndEq_eq_lt.mp hids
    | eq => exact absurd (LawfulEqCmp.eq_of_compare hids) hid
    | gt =>
      have hafter : (compare a.avatarId b.avatarId).isLE = true := h
      rw [hids] at hafter
      cases hafter

end Presence

namespace Tier

/-- Those who hold a credit by the ranking, in the order in which they are asked. -/
def holders (s : Situation) : List Ranked :=
  (s.ranked.filter (·.record.hasSummonCredit)).mergeSort bySummon

section

variable {s : Situation}

/-- The holders of credits are the ranked ones, in another order. -/
theorem holders_perm (s : Situation) : (holders s).Perm (s.ranked.filter (·.record.hasSummonCredit)) :=
  List.mergeSort_perm _ _

theorem mem_holders {r : Ranked} : r ∈ holders s ↔ r ∈ s.ranked ∧ r.record.hasSummonCredit = true := by
  rw [(holders_perm s).mem_iff, List.mem_filter]

theorem nodup_holders (hids : (s.ranked.map Ranked.avatarId).Nodup) :
    ((holders s).map Ranked.avatarId).Nodup := by
  rw [((holders_perm s).map _).nodup_iff]
  exact hids.sublist (List.filter_sublist.map _)

/-- The holders stand in the order of their summons. -/
theorem pairwise_holders (hids : (s.ranked.map Ranked.avatarId).Nodup) :
    (holders s).Pairwise SummonedBefore := by
  have hsorted := pairwise_mergeSort_isLE bySummon_eq (s.ranked.filter (·.record.hasSummonCredit))
  have hdistinct := List.pairwise_map.mp (nodup_holders hids)
  exact (hsorted.and hdistinct).imp fun h => summonedBefore_of_isLE h.1 h.2

end

/-! ## Spending -/

/-- The row with one owed turn less, if it is that of one of these avatars. -/
def lose (channel : String) (ids : List String) (row : PresenceRow) : PresenceRow :=
  if row.channelId = channel ∧ row.avatarId ∈ ids then { row with summonTurns := row.summonTurns.plus (-1) }
  else row

section

variable {channel id : String} {ids : List String} {rows : List PresenceRow}

theorem lose_nil (row : PresenceRow) : lose channel [] row = row :=
  if_neg fun h => absurd h.2 List.not_mem_nil

theorem lose_key (row : PresenceRow) : (lose channel ids row).key = row.key := by
  rw [lose]
  split <;> rfl

/-- The row of one of them loses the turn that it owes. -/
theorem lose_of_mem {row : PresenceRow} (hkey : row.key = (channel, id)) (hid : id ∈ ids)
    (howes : owes channel id row = true) : lose channel ids row = spendFrom channel id row := by
  obtain ⟨rfl, rfl⟩ := Prod.mk.inj hkey
  rw [lose, if_pos ⟨rfl, hid⟩, spendFrom, if_pos howes]

/-- Where an avatar's row owes a turn, it loses that, and the others lose theirs as they did. -/
theorem lose_cons (hkeyed : (rows.map PresenceRow.key).Nodup)
    (howes : ∃ row ∈ rows, owes channel id row = true) (hid : id ∉ ids) :
    (rows.map (spendFrom channel id)).map (lose channel ids) = rows.map (lose channel (id :: ids)) := by
  rw [List.map_map]
  refine List.map_congr_left fun row hrow => ?_
  rw [Function.comp_apply]
  by_cases hkey : row.key = (channel, id)
  · obtain ⟨owing, howing, howes⟩ := howes
    obtain rfl : owing = row :=
      List.inj_on_of_nodup_map hkeyed howing hrow ((key_of_owes howes).trans hkey.symm)
    have havatar : (spendFrom channel id owing).avatarId = id :=
      congrArg Prod.snd ((spendFrom_key channel id owing).trans hkey)
    rw [lose_of_mem hkey List.mem_cons_self howes, lose, if_neg fun h => hid (havatar ▸ h.2)]
  · have hsame : row.channelId = channel ∧ row.avatarId ∈ id :: ids ↔
        row.channelId = channel ∧ row.avatarId ∈ ids := by
      refine and_congr_right fun hchannel => ?_
      rw [List.mem_cons]
      exact or_iff_right fun havatar => hkey (Prod.ext hchannel havatar)
    rw [spendFrom, owes_other hkey, if_neg Bool.false_ne_true, lose, lose]
    simp only [hsame]

/-- Those whose rows owe a turn still do when another has lost one. -/
theorem owes_spendFrom {other : String} (hother : id ≠ other)
    (howes : ∃ row ∈ rows, owes channel id row = true) :
    ∃ row ∈ rows.map (spendFrom channel other), owes channel id row = true := by
  obtain ⟨row, hrow, howes⟩ := howes
  refine ⟨row, List.mem_map.mpr ⟨row, hrow, ?_⟩, howes⟩
  have hkey : row.key ≠ (channel, other) := by
    rw [key_of_owes howes]
    exact fun h => hother (Prod.mk.inj h).2
  rw [spendFrom, owes_other hkey, if_neg Bool.false_ne_true]

/-- Whoever is owed a turn spends it when asked. -/
theorem runs_consumeSummon_of_owes {x : Except Fault Bool} {st st' : Store}
    (hrows : st.tables.presence = some rows) (hkeyed : (rows.map PresenceRow.key).Nodup)
    (howes : ∃ row ∈ rows, owes channel id row = true)
    (h : (consumeSummon channel id).Runs st x st') :
    x = .ok true ∧ st'.tables = { st.tables with presence := some (rows.map (spendFrom channel id)) } ∨
      ∃ f, x = .error f := by
  rcases runs_consumeSummon_rows h with ⟨found, hfound, hx, htables, -⟩ | ⟨hfault, -⟩
  · obtain rfl : found = rows := Option.some.inj (hfound.symm.trans hrows)
    have hone : found.countP (owes channel id) = 1 := by
      have hle : found.countP (owes channel id) ≤ 1 := countP_owes_le hkeyed
      have hpositive := List.countP_pos_iff.mpr howes
      omega
    exact .inl ⟨hx.trans (congrArg Except.ok (decide_eq_true hone)), htables⟩
  · exact .inr hfault

end

/-- What a selection by summons came to: these are picked, and each of them has lost a turn. -/
structure Picks (channel : String) (ids : List String) (before : Tables) (rows : List PresenceRow)
    (selections : List Selection) (after : Tables) : Prop where
  picked : selections.map (·.avatar.id) = ids
  rows : after = { before with presence := some (rows.map (lose channel ids)) }

/-- If nobody is asked, nobody is picked. -/
theorem picks_nobody {channel : String} {rows : List PresenceRow} {selections : List Selection}
    {w w' : World σ} (hrows : w.store.tables.presence = some rows)
    (h : ((.ok [] : Except Fault (List Selection)), w) = (.ok selections, w')) :
    Picks channel [] w.store.tables rows selections w'.store.tables := by
  obtain ⟨hnone, rfl⟩ := Prod.mk.inj h
  obtain rfl := Except.ok.inj hnone
  have hsame : rows.map (lose channel []) = rows :=
    (List.map_congr_left fun row _ => lose_nil row).trans (List.map_id' rows)
  refine ⟨rfl, ?_⟩
  rw [hsame, ← hrows]

/-- If the first who is asked spends a credit, it is picked, and then those who are picked of the others. -/
theorem Picks.cons {channel id : String} {ids : List String} {rows : List PresenceRow}
    {selections : List Selection} {before mid after : Tables} {a : Avatar}
    (hkeyed : (rows.map PresenceRow.key).Nodup) (howes : ∃ row ∈ rows, owes channel id row = true)
    (hid : id ∉ ids) (ha : a.id = id)
    (hmid : mid = { before with presence := some (rows.map (spendFrom channel id)) })
    (hrest : Picks channel ids mid (rows.map (spendFrom channel id)) selections after) :
    Picks channel (id :: ids) before rows (.plain a .summon :: selections) after where
  picked := by
    rw [List.map_cons, hrest.picked]
    exact congrArg (· :: ids) ha
  rows := by
    rw [hrest.rows, lose_cons hkeyed howes hid, hmid]

/-- If each of those who are asked is owed a turn, the first of them are picked, and each of these loses
one. -/
theorem picks_of_spendCredits {s : Situation} {asked : List Ranked} {limit : Nat}
    {selections : List Selection} {w w' : World σ} {rows : List PresenceRow}
    (hcovered : ∀ r ∈ asked, (s.eligibleAvatar r.avatarId).isSome)
    (hids : (asked.map Ranked.avatarId).Nodup) (hrows : w.store.tables.presence = some rows)
    (hkeyed : (rows.map PresenceRow.key).Nodup)
    (howed : ∀ r ∈ asked, ∃ row ∈ rows, owes s.channelId r.avatarId row = true)
    (h : (spendCredits s limit asked : Try σ _).run.run w = (.ok selections, w')) :
    Picks s.channelId ((asked.take limit).map Ranked.avatarId) w.store.tables rows selections
      w'.store.tables := by
  induction asked generalizing limit selections w rows with
  | nil =>
    rw [List.take_nil]
    cases limit <;> exact picks_nobody hrows h
  | cons r rest ih =>
    cases limit with
    | zero => exact picks_nobody hrows h
    | succ limit =>
      rw [List.map_cons, List.nodup_cons] at hids
      have hfirst := howed r List.mem_cons_self
      unfold spendCredits at h
      rcases run_tryBind h with ⟨spent, w₁, hspend, h⟩ | ⟨f, -, he⟩
      · obtain ⟨st, hruns, rfl⟩ := run_onStore hspend
        rcases runs_consumeSummon_of_owes hrows hkeyed hfirst hruns with ⟨hspent, htables⟩ | ⟨f, he⟩
        · obtain rfl := Except.ok.inj hspent
          obtain ⟨a, ha, hselected⟩ := selectRanked_of_covered .summon (hcovered r List.mem_cons_self)
          simp only [if_true, hselected] at h
          rcases run_tryBind h with ⟨more, w₂, hmore, hend⟩ | ⟨f, -, he⟩
          · have hpair : ((.ok (Selection.plain a .summon :: more) : Except Fault _), w₂) =
                (.ok selections, w') := hend
            obtain ⟨hselections, rfl⟩ := Prod.mk.inj hpair
            obtain rfl := Except.ok.inj hselections
            have hothers : ∀ r' ∈ rest, r'.avatarId ≠ r.avatarId := by
              intro r' hr' hsame
              exact hids.1 (hsame ▸ List.mem_map_of_mem hr')
            -- the others are asked of the rows as they are then
            have hrest := ih (fun r' hr' => hcovered r' (List.mem_cons_of_mem r hr')) hids.2
              (congrArg Tables.presence htables)
              (by rw [Table.map_key (spendFrom_key _ _)]; exact hkeyed)
              (fun r' hr' => owes_spendFrom (hothers r' hr') (howed r' (List.mem_cons_of_mem r hr'))) hmore
            have hlater : r.avatarId ∉ (rest.take limit).map Ranked.avatarId := fun hr =>
              hids.1 (List.map_subset _ (List.take_subset _ _) hr)
            exact .cons hkeyed hfirst hlater ha htables hrest
          · cases he
        · cases he
      · cases he

/-- A credit is spent in a store that nothing hinders. -/
theorem consumeSummon_ofTables {t : Tables} {rows : List PresenceRow} (hrows : t.presence = some rows)
    (channel id : String) :
    ∃ spent t' rows', (consumeSummon channel id).Runs (.ofTables t) (.ok spent) (.ofTables t') ∧
      t'.presence = some rows' :=
  ⟨_, _, _, (runs_change_ofTables (r := .presence) hrows _).bind rfl, rfl⟩

/-- Where nothing fails, everybody can be asked. -/
theorem spendCredits_ofTables {s : Situation} {asked : List Ranked} {limit : Nat} {w : World σ} {t : Tables}
    {rows : List PresenceRow} (hstore : w.store = .ofTables t) (hrows : t.presence = some rows) :
    ∃ selections w', (spendCredits s limit asked : Try σ _).run.run w = (.ok selections, w') := by
  induction asked generalizing limit w t rows with
  | nil => cases limit <;> exact ⟨[], w, rfl⟩
  | cons r rest ih =>
    cases limit with
    | zero => exact ⟨[], w, rfl⟩
    | succ limit =>
      obtain ⟨spent, t', rows', hspend, hrows'⟩ := consumeSummon_ofTables hrows s.channelId r.avatarId
      rw [← hstore] at hspend
      unfold spendCredits
      rw [run_tryBind_ok (run_onStore_of hspend)]
      split
      · obtain ⟨more, w', hmore⟩ : ∃ more w', (spendCredits s limit rest : Try σ _).run.run
            { w with store := .ofTables t' } = (.ok more, w') := ih rfl hrows'
        exact ⟨_, w', run_tryBind_ok hmore⟩
      · exact ih rfl hrows'

/-! ## Current rankings -/

/-- A ranking is current if each of those ranked is eligible, no two of them are the same, and their records
are those that are read of the rows of the channel. -/
structure Current (t : Tables) (rows : List PresenceRow) (s : Situation) : Prop where
  table : t.presence = some rows
  keyed : (rows.map PresenceRow.key).Nodup
  covered : s.Covered
  ids : (s.ranked.map Ranked.avatarId).Nodup
  read : ∀ r ∈ s.ranked, ∃ row ∈ rows, row.channelId = s.channelId ∧ readRecord row = .ok r.record

namespace Current

variable {t : Tables} {rows : List PresenceRow} {s : Situation}

/-- Each holder is owed what its record says. -/
theorem owed (h : Current t rows s) {r : Ranked} (hr : r ∈ holders s) :
    ∃ row ∈ rows, row.key = (s.channelId, r.avatarId) ∧ row.summonTurns = .number r.record.summonTurns ∧
      0 < r.record.summonTurns ∧ r.record.summonTurns < 0x100000000 ∧
      owes s.channelId r.avatarId row = true := by
  obtain ⟨hranked, hcredit⟩ := mem_holders.mp hr
  obtain ⟨row, hrow, hchannel, hread⟩ := h.read r hranked
  obtain ⟨hturns, hsmall⟩ := summonTurns_of_readRecord hread
  have hkey : row.key = (s.channelId, r.avatarId) := by
    rw [← hchannel]
    exact Prod.ext rfl (congrArg Prod.snd (key_of_readRecord hread)).symm
  have hpositive : 0 < r.record.summonTurns := of_decide_eq_true hcredit
  exact ⟨row, hrow, hkey, hturns, hpositive, hsmall, (owes_iff hkey hturns).mpr hpositive⟩

/-- Whoever is picked has one credit less than its record says. -/
theorem credits (h : Current t rows s) {limit : Nat} {r : Ranked} (hr : r ∈ (holders s).take limit)
    {t' : Tables} (htables : t'.presence =
      some (rows.map (lose s.channelId (((holders s).take limit).map Ranked.avatarId)))) :
    t.credits (s.channelId, r.avatarId) = some r.record.summonTurns ∧ ∃ left,
      t'.credits (s.channelId, r.avatarId) = some left ∧ left + 1 = r.record.summonTurns := by
  obtain ⟨row, hrow, hkey, hturns, hpositive, hsmall, howes⟩ := h.owed (List.mem_of_mem_take hr)
  have hlookup : Table.lookup PresenceRow.key (s.channelId, r.avatarId) rows = some row :=
    (Table.lookup_eq_some h.keyed).mpr ⟨hrow, hkey⟩
  have hloser := lose_of_mem hkey (List.mem_map_of_mem hr) howes
  refine ⟨Tables.credits_eq_some.mpr ⟨?_, hsmall⟩, r.record.summonTurns - 1,
    Tables.credits_eq_some.mpr ⟨?_, by omega⟩, by omega⟩
  · rw [Tables.owedCell, h.table, Option.getD_some, hlookup]
    exact hturns
  · rw [Tables.owedCell, htables, Option.getD_some, Table.lookup_map lose_key, hlookup, Option.map_some,
      Option.map_some, Option.getD_some, hloser]
    exact summonTurns_spendFrom hturns hsmall howes

end Current

/-- On a current ranking the first of the holders are picked. -/
theorem selectSummon_current {e : Engine σ} {s : Situation} {w w' : World σ} {rows : List PresenceRow}
    {selections : List Selection} (h : Current w.store.tables rows s)
    (hrun : (selectSummon e s).run.run w = (.ok selections, w')) :
    Picks s.channelId (((holders s).take e.config.coordination.maxResponsesPerMessage).map Ranked.avatarId)
      w.store.tables rows selections w'.store.tables := by
  refine picks_of_spendCredits (covered_summons h.covered) (nodup_holders h.ids) h.table h.keyed
    (fun r hr => ?_) hrun
  obtain ⟨row, hrow, -, -, -, -, howes⟩ := h.owed hr
  exact ⟨row, hrow, howes⟩

end Tier

namespace Engine

/-- A record that is ensured is that of a row, and no row is lost. -/
theorem runs_ensure_row {channel avatar : String} {now : Int} {record : Record} {st st' : Store}
    (h : (ensure channel avatar now).Runs st (.ok record) st') :
    (∃ row ∈ st'.tables.presence.getD [], row.channelId = channel ∧ readRecord row = .ok record) ∧
      st.tables.presence.getD [] ⊆ st'.tables.presence.getD [] := by
  obtain ⟨added, st₁, hadd, hread⟩ := runs_bind_ok h
  obtain ⟨rows, hrows, -, htables⟩ := runs_change_ok hadd
  obtain ⟨rows', hrows', hrecord, hsame⟩ := runs_query_ok hread
  have hbefore : st.tables.presence = some rows := hrows
  have hafter : st'.tables.presence = some rows' := by
    rw [hsame]
    exact hrows'
  have hadded : rows' = (Table.add PresenceRow.key (blankRow channel avatar .present now) rows).2 := by
    rw [htables] at hrows'
    exact (Option.some.inj hrows').symm
  rw [hbefore, hafter, Option.getD_some, Option.getD_some]
  constructor
  · -- the row that is read is the one of the key
    cases hlookup : Table.lookup PresenceRow.key (channel, avatar) rows' with
    | none =>
      rw [hlookup] at hrecord
      cases hrecord
    | some row =>
      rw [hlookup] at hrecord
      exact ⟨row, List.mem_of_find?_eq_some hlookup, congrArg Prod.fst (Table.key_of_lookup hlookup),
        hrecord⟩
  · rw [hadded, Table.add]
    split
    · exact List.Subset.refl _
    · exact List.subset_append_left _ _

/-- The records of those present are those of rows of the channel, and each avatar is listed as often as it
was. -/
theorem runs_presentRecords_rows {channel : String} {author : Option String} {now : Int}
    {avatars : List Avatar} {present : List (Avatar × Record)} {st st' : Store}
    (h : (presentRecords channel author now avatars).Runs st (.ok present) st') :
    (∀ p ∈ present, ∃ row ∈ st'.tables.presence.getD [],
        row.channelId = channel ∧ readRecord row = .ok p.2) ∧
      st.tables.presence.getD [] ⊆ st'.tables.presence.getD [] ∧
      (present.map Prod.fst).Sublist avatars := by
  induction avatars generalizing present st st' with
  | nil =>
    obtain ⟨rfl, rfl⟩ := runs_pure_ok h
    exact ⟨fun _ hp => absurd hp List.not_mem_nil, List.Subset.refl _, List.Sublist.refl _⟩
  | cons a rest ih =>
    unfold presentRecords at h
    split at h
    · obtain ⟨hrows, hkept, hlisted⟩ := ih h
      exact ⟨hrows, hkept, hlisted.cons a⟩
    · obtain ⟨record, st₁, hensure, h⟩ := runs_bind_ok h
      obtain ⟨more, st₂, hmore, h⟩ := runs_bind_ok h
      obtain ⟨rfl, rfl⟩ := runs_pure_ok h
      obtain ⟨⟨row, hrow, hread⟩, hfirst⟩ := runs_ensure_row hensure
      obtain ⟨hrows, hkept, hlisted⟩ := ih hmore
      refine ⟨fun p hp => ?_, List.Subset.trans hfirst hkept, ?_⟩
      · split at hp
        · rcases List.mem_cons.mp hp with rfl | hp
          · exact ⟨row, hkept hrow, hread⟩
          · exact hrows p hp
        · exact hrows p hp
      · split
        · exact hlisted.cons_cons a
        · exact hlisted.cons a

/-- What an engine ranks is current when it goes on to select. -/
theorem candidates_current {e : Engine σ} {channel : String} {message : Option Message} {now : Int}
    {found : Candidates} {w w' : World σ} {rows : List PresenceRow}
    (h : (e.candidates channel message now).run.run w = (.ok found, w'))
    (hrows : w'.store.tables.presence = some rows) (hkeyed : (rows.map PresenceRow.key).Nodup)
    (hids : (found.inChannel.map Avatar.id).Nodup) (trigger : Trigger) :
    Tier.Current w'.store.tables rows ⟨channel, message, trigger, found.eligible, found.ranked, now⟩ := by
  have hperm := candidates_ranked h
  obtain ⟨w₁, present, w₂, topics, -, hpresent, heligible, hranked, htables⟩ := run_candidates h
  obtain ⟨st, hruns, rfl⟩ := run_onStore hpresent
  obtain ⟨hread, -, hlisted⟩ := runs_presentRecords_rows hruns
  have hpresence : st.tables.presence = some rows := by
    rw [← hrows, htables]
  rw [hpresence, Option.getD_some] at hread
  constructor
  · exact hrows
  · exact hkeyed
  · exact candidates_covered h trigger
  · rw [hperm.nodup_iff, heligible]
    exact hids.sublist (hlisted.map _)
  · intro r hr
    obtain ⟨p, hp, hrecord⟩ := List.mem_map.mp (record_of_rank (hranked ▸ hr))
    obtain ⟨row, hrow, hchannel, hreads⟩ := hread p hp
    exact ⟨row, hrow, hchannel, hrecord ▸ hreads⟩

end Engine

end TurnTaking
