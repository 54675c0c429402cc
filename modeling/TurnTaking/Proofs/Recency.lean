import TurnTaking.Activity
import TurnTaking.Proofs.Store.Cell
import TurnTaking.Proofs.Store.Frame
import TurnTaking.Proofs.Store.Reading

/-!
# Recency — which channels are the latest

Rows are ordered by when their channels were last heard (`Activity.recency`). The channels that are read as
the most recently active ones are those of the first rows in that order (`Activity.runs_recentChannels_ok`).
-/

namespace TurnTaking

open Store Store.Access Std

/-- What is sorted by an order is in that order. -/
theorem pairwise_mergeSort_isLE {α : Type} {cmp : α → α → Ordering} [TransCmp cmp] {le : α → α → Bool}
    (hle : ∀ a b, le a b = (cmp a b).isLE) (l : List α) :
    (l.mergeSort le).Pairwise fun a b => (cmp a b).isLE := by
  have htotal : ∀ a b, (le a b || le b a) = true := by
    intro a b
    have hswap : cmp b a = (cmp a b).swap := OrientedCmp.eq_swap
    rw [hle, hle, hswap]
    cases cmp a b <;> rfl
  have htrans : ∀ a b c, le a b = true → le b c = true → le a c = true := by
    intro a b c hab hbc
    rw [hle] at hab hbc ⊢
    exact TransCmp.isLE_trans hab hbc
  refine (List.pairwise_mergeSort htrans htotal l).imp fun {a b} h => ?_
  rwa [hle] at h

namespace Activity

/-- Rows by when their channels were last heard, the latest first, and then by channel. -/
def recency : ActivityRow → ActivityRow → Ordering :=
  compareLex (fun r s => s.lastMessageAt.order r.lastMessageAt) (compareOn ActivityRow.channelId)

/-- Rows are sorted by their order of recency. -/
theorem byRecency_eq (r s : ActivityRow) : byRecency r s = (recency r s).isLE := by
  show decide (recency r s ≠ .gt) = (recency r s).isLE
  cases recency r s <;> rfl

instance : TransCmp recency := by
  have hlast : TransCmp fun r s : ActivityRow => s.lastMessageAt.order r.lastMessageAt := {
    eq_swap := OrientedCmp.eq_swap
    isLE_trans := fun hrs hst => TransCmp.isLE_trans hst hrs }
  exact inferInstanceAs (TransCmp (compareLex _ (compareOn ActivityRow.channelId)))

/-- Sorted rows are in that order. -/
theorem sorted_mergeSort (rows : List ActivityRow) :
    (rows.mergeSort byRecency).Pairwise fun r later => (recency r later).isLE :=
  pairwise_mergeSort_isLE byRecency_eq rows

/-- So what comes no later was heard no earlier. -/
theorem pairwise_mergeSort (rows : List ActivityRow) :
    (rows.mergeSort byRecency).Pairwise fun r later => later.lastMessageAt.upTo r.lastMessageAt := by
  refine (sorted_mergeSort rows).imp fun {r later} h => ?_
  rw [recency, compareLex] at h
  rw [Cell.upTo]
  cases horder : later.lastMessageAt.order r.lastMessageAt with
  | lt => rfl
  | eq => rfl
  | gt =>
    rw [horder] at h
    cases h

/-- The channels of the latest messages are these, at most so many, the latest first: the first ones of
the rows, in an order in which no row was heard later than one before it. -/
structure MostRecent (t : Tables) (limit : Nat) (rows : List ActivityRow) (channels : List String) :
    Prop where
  perm : rows.Perm (t.activity.getD [])
  newest : rows.Pairwise fun r later => later.lastMessageAt.upTo r.lastMessageAt
  /-- There are never more rows than a word can count. -/
  first : rows.length ≤ 0x8000000000000000 →
    channels.map some = (rows.take limit).map ActivityRow.channelId

/-- The recent channels are those of the most recent rows. -/
theorem runs_recentChannels_ok {limit : Nat} {channels : List String} {s s' : Store}
    (h : (recentChannels limit).Runs s (.ok channels) s') :
    ∃ rows, MostRecent s.tables limit rows channels := by
  obtain ⟨rows, hrows, hread, -⟩ := runs_query_ok h
  have hactivity : s.tables.activity = some rows := hrows
  have hchannels := readRows_readText hread
  refine ⟨rows.mergeSort byRecency, ?_, pairwise_mergeSort rows, fun hlength => ?_⟩
  · rw [hactivity]
    exact List.mergeSort_perm rows byRecency
  · rw [← hchannels, List.map_take]
    split
    · rfl
    · rw [List.take_of_length_le]
      rw [List.length_map]
      omega

end Activity

end TurnTaking
