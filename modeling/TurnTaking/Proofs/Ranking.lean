import Mathlib.Data.List.Nodup
import TurnTaking.Presence.Ranking

/-!
# Rankings — the order of avatars, and that there is one

Of two scores that are numbers, one is the greater or they are level (`compareScores_eq`). So the order of
avatars is made of five orders, each of which decides where those before do not (`compareRanked_eq`), and
only an avatar is level with itself. A ranking has the records that were ranked and no others
(`rank_perm`), in that order (`pairwise_rank`), which leaves no choice where avatars differ
(`ranks_in_one_order`).
-/

namespace TurnTaking.Presence

open Std Float.Model Float.Model.UnpackedFloat

/-! ## Scores -/

/-- Where a number stands: below or above zero, and whether it is infinite. -/
def region : UnpackedFloat → Int
  | .infinity .negative => -2
  | .finite .negative _ _ _ => -1
  | .zero _ => 0
  | .finite .positive _ _ _ => 1
  | .infinity .positive => 2
  | .notANumber => 0

/-- The power of two of a number, counted downwards below zero. -/
def signedExponent : UnpackedFloat → Int
  | .finite .negative _ e _ => -e
  | .finite .positive _ e _ => e
  | _ => 0

/-- The digits of a number with their sign. -/
def signedMantissa : UnpackedFloat → Int
  | .finite .negative m _ _ => -(m : Int)
  | .finite .positive m _ _ => m
  | _ => 0

/-- Numbers by region, then by their power of two, then by their digits. -/
def numberOrder : UnpackedFloat → UnpackedFloat → Ordering :=
  compareLex (compareOn region) (compareLex (compareOn signedExponent) (compareOn signedMantissa))

instance : TransCmp numberOrder :=
  inferInstanceAs (TransCmp (compareLex _ (compareLex _ _)))

theorem compare_neg (m n : Int) : compare (-m) (-n) = (compare m n).swap := by
  rw [← OrientedCmp.eq_swap]
  simp only [compare, compareOfLessAndEq, Int.neg_lt_neg_iff, Int.neg_inj, eq_comm (a := m)]

theorem compare_natCast (m n : Nat) : compare (m : Int) (n : Int) = compare m n := by
  simp only [compare, compareOfLessAndEq]
  grind

/-- Numbers are compared in that order. -/
theorem compare_eq {x y : UnpackedFloat} (hx : x.isNaN = false) (hy : y.isNaN = false) :
    x.compare y = some (numberOrder x y) := by
  cases x with
  | notANumber => cases hx
  | infinity s =>
    -- beyond every other number, on its side
    cases y with
    | notANumber => cases hy
    | infinity t => cases s <;> cases t <;> rfl
    | zero t => cases s <;> rfl
    | finite t m e h => cases s <;> cases t <;> rfl
  | zero s =>
    -- both zeros are the same
    cases y with
    | notANumber => cases hy
    | infinity t => cases t <;> rfl
    | zero t => rfl
    | finite t m e h => cases t <;> rfl
  | finite s m e h =>
    cases y with
    | notANumber => cases hy
    | infinity t => cases s <;> cases t <;> rfl
    | zero t => cases s <;> rfl
    | finite t n f h' =>
      -- numbers of one sign are compared by exponent and digits, below zero the other way
      cases s with
      | negative =>
        cases t with
        | negative =>
          show some ((compare e f).then (compare m n)).swap =
            some ((compare (-e) (-f)).then (compare (-(m : Int)) (-(n : Int))))
          rw [compare_neg, compare_neg, compare_natCast, Ordering.swap_then]
        | positive => rfl
      | positive =>
        cases t with
        | negative => rfl
        | positive =>
          show some ((compare e f).then (compare m n)) =
            some ((compare e f).then (compare (m : Int) (n : Int)))
          rw [compare_natCast]

/-- Numbers are less as their order says. -/
theorem lt_iff {x y : Float} (hx : x.isNaN = false) (hy : y.isNaN = false) :
    x < y ↔ numberOrder x.toModel.unpack y.toModel.unpack = .lt := by
  have hlt : x < y ↔ x.toModel.unpack.lt y.toModel.unpack = true := decide_eq_true_iff
  rw [hlt, UnpackedFloat.lt, compare_eq hx hy]
  cases numberOrder x.toModel.unpack y.toModel.unpack <;> decide

/-- So are scores, if they are numbers. -/
theorem compareScores_eq {x y : Float} (hx : x.isNaN = false) (hy : y.isNaN = false) :
    compareScores x y = numberOrder x.toModel.unpack y.toModel.unpack := by
  have hswap : numberOrder y.toModel.unpack x.toModel.unpack =
      (numberOrder x.toModel.unpack y.toModel.unpack).swap := OrientedCmp.eq_swap
  simp only [compareScores, lt_iff hx hy, lt_iff hy hx, hswap]
  cases numberOrder x.toModel.unpack y.toModel.unpack with
  | lt => rfl
  | eq => rfl
  | gt => rfl

/-! ## Ranked avatars -/

/-- The avatar has a score that is a number. -/
def Ranked.IsScored (r : Ranked) : Prop := r.score.isNaN = false

instance (r : Ranked) : Decidable r.IsScored := inferInstanceAs (Decidable (_ = _))

/-- Moments are ordered as they are written, and one that never came is before all others. -/
theorem compareMoments_eq (x y : Option Int) : compareMoments x y = compare x y := by
  cases x with
  | none => cases y <;> rfl
  | some m => cases y <;> rfl

/-- The five orders of a ranking: by score, by pins and by the last mention downwards, then by the last turn
and by id upwards. -/
def rankOrder : Ranked → Ranked → Ordering :=
  compareLex (fun a b => numberOrder b.score.toModel.unpack a.score.toModel.unpack) <|
  compareLex (fun a b => compare b.record.priorityPins a.record.priorityPins) <|
  compareLex (fun a b => compare b.record.lastMentionedAt a.record.lastMentionedAt) <|
  compareLex (compareOn fun a => a.record.lastTurnAt.getD earliestMoment) (compareOn Ranked.avatarId)

/-- Each of them decides where those before do not. -/
theorem compareRanked_eq {a b : Ranked} (ha : a.IsScored) (hb : b.IsScored) :
    compareRanked a b = rankOrder a b := by
  rw [compareRanked, compareScores_eq hb ha, compareMoments_eq]
  rfl

/-- An order of what is told of things orders the things, and so does its reverse. -/
theorem transCmp_descending {α β : Type} (cmp : β → β → Ordering) [TransCmp cmp] (f : α → β) :
    TransCmp fun a b => cmp (f b) (f a) where
  eq_swap := OrientedCmp.eq_swap
  isLE_trans hab hbc := TransCmp.isLE_trans hbc hab

instance : TransCmp rankOrder := by
  have hscores := transCmp_descending numberOrder fun r : Ranked => r.score.toModel.unpack
  have hpins := transCmp_descending compare fun r : Ranked => r.record.priorityPins
  have hmentions := transCmp_descending compare fun r : Ranked => r.record.lastMentionedAt
  exact inferInstanceAs (TransCmp (compareLex _ (compareLex _ (compareLex _ (compareLex _ _)))))

/-- Only an avatar is level with itself. -/
theorem avatarId_of_level {a b : Ranked} (h : compareRanked a b = .eq) : a.avatarId = b.avatarId := by
  simp only [compareRanked, Ordering.then_eq_eq] at h
  exact LawfulEqCmp.eq_of_compare h.2.2.2.2

/-- The first avatar comes no later than the second. -/
def NoLater (a b : Ranked) : Prop := compareRanked a b ≠ .gt

instance (a b : Ranked) : Decidable (NoLater a b) := inferInstanceAs (Decidable (_ ≠ _))

section

variable {a b c : Ranked}

/-- Compared the other way, the order turns. -/
theorem compareRanked_swap (ha : a.IsScored) (hb : b.IsScored) :
    compareRanked b a = (compareRanked a b).swap := by
  rw [compareRanked_eq ha hb, compareRanked_eq hb ha]
  exact OrientedCmp.eq_swap

/-- The ranking order is transitive. -/
theorem NoLater.trans (ha : a.IsScored) (hb : b.IsScored) (hc : c.IsScored) (hab : NoLater a b)
    (hbc : NoLater b c) : NoLater a c := by
  rw [NoLater, compareRanked_eq ha hb] at hab
  rw [NoLater, compareRanked_eq hb hc] at hbc
  rw [NoLater, compareRanked_eq ha hc]
  simp only [← Ordering.isLE_iff_ne_gt] at *
  exact TransCmp.isLE_trans hab hbc

/-- Two that are no later than each other are level. -/
theorem NoLater.level (ha : a.IsScored) (hb : b.IsScored) (hab : NoLater a b) (hba : NoLater b a) :
    compareRanked a b = .eq := by
  rw [NoLater, compareRanked_swap ha hb] at hba
  cases h : compareRanked a b with
  | lt =>
    rw [h] at hba
    exact absurd rfl hba
  | eq => rfl
  | gt => exact absurd h hab

end

/-! ## Sorting -/

theorem insertRanked_perm (a : Ranked) (l : List Ranked) : (insertRanked a l).Perm (a :: l) := by
  induction l with
  | nil => exact .refl _
  | cons b rest ih =>
    rw [insertRanked]
    split
    · exact (ih.cons b).trans (.swap a b rest)
    · exact .refl _

theorem sortRanked_perm (l : List Ranked) : (sortRanked l).Perm l := by
  have hfold : ∀ done, (l.foldl (fun done a => insertRanked a done) done).Perm (l ++ done) := by
    induction l with
    | nil => exact fun done => .refl _
    | cons a rest ih =>
      intro done
      have hrest := ih (insertRanked a done)
      have hmoved : (rest ++ a :: done).Perm (a :: (rest ++ done)) := List.perm_middle
      exact hrest.trans (((insertRanked_perm a done).append_left rest).trans hmoved)
  have hall := hfold []
  rw [List.append_nil] at hall
  exact (List.reverse_perm _).trans hall

/-- An avatar finds its place among avatars that are sorted, last first. -/
theorem pairwise_insertRanked {a : Ranked} {l : List Ranked} (ha : a.IsScored)
    (hl : ∀ b ∈ l, b.IsScored) (hsorted : l.Pairwise fun b c => NoLater c b) :
    (insertRanked a l).Pairwise fun b c => NoLater c b := by
  induction l with
  | nil => exact List.pairwise_singleton _ _
  | cons b rest ih =>
    have hb := hl b List.mem_cons_self
    have hothers : ∀ c ∈ rest, c.IsScored := fun c hc => hl c (List.mem_cons_of_mem b hc)
    obtain ⟨hfirst, hrest⟩ := List.pairwise_cons.mp hsorted
    rw [insertRanked]
    split
    · rename_i hbefore
      -- what is inserted further on still comes before the last one
      refine List.pairwise_cons.mpr ⟨fun c hc => ?_, ih hothers hrest⟩
      rcases List.mem_cons.mp ((insertRanked_perm a rest).mem_iff.mp hc) with rfl | hc
      · rw [NoLater, hbefore]
        decide
      · exact hfirst c hc
    · rename_i hnot
      have hlast : NoLater b a := by
        rw [NoLater, compareRanked_swap ha hb]
        cases h : compareRanked a b with
        | lt => exact absurd h hnot
        | eq => decide
        | gt => decide
      refine List.pairwise_cons.mpr ⟨fun c hc => ?_, hsorted⟩
      rcases List.mem_cons.mp hc with rfl | hc
      · exact hlast
      · exact (hfirst c hc).trans (hothers c hc) hb ha hlast

/-- The sorted stand in ranking order. -/
theorem pairwise_sortRanked {l : List Ranked} (hl : ∀ a ∈ l, a.IsScored) :
    (sortRanked l).Pairwise NoLater := by
  have hfold : ∀ done : List Ranked, (∀ a ∈ done, a.IsScored) →
      (done.Pairwise fun b c => NoLater c b) →
      (l.foldl (fun done a => insertRanked a done) done).Pairwise fun b c => NoLater c b := by
    induction l with
    | nil => exact fun _ _ hdone => hdone
    | cons a rest ih =>
      intro done hscored hdone
      have ha := hl a List.mem_cons_self
      refine ih (fun b hb => hl b (List.mem_cons_of_mem a hb)) (insertRanked a done) ?_
        (pairwise_insertRanked ha hscored hdone)
      intro b hb
      rcases List.mem_cons.mp ((insertRanked_perm a done).mem_iff.mp hb) with rfl | hb
      · exact ha
      · exact hscored b hb
  rw [sortRanked, List.pairwise_reverse]
  exact hfold [] (fun _ ha => absurd ha List.not_mem_nil) List.Pairwise.nil

/-! ## Rankings -/

/-- The record with the score that a rule gives it. -/
def Initiative.rate (rule : Initiative) (context : Context) (r : Record) : Ranked :=
  ⟨r, rule.score r context⟩

/-- A ranking is made of the records with their scores. -/
theorem rank_perm_rated (records : List Record) (rule : Initiative) (context : Context) :
    (rank records rule context).Perm (records.map (rule.rate context)) :=
  sortRanked_perm (records.map (rule.rate context))

/-- Ranking loses no record and adds none. -/
theorem rank_perm (records : List Record) (rule : Initiative) (context : Context) :
    ((rank records rule context).map Ranked.record).Perm records := by
  have hscored := (rank_perm_rated records rule context).map Ranked.record
  rw [List.map_map] at hscored
  have hsame : records.map (Ranked.record ∘ rule.rate context) = records := List.map_id _
  rw [hsame] at hscored
  exact hscored

theorem record_of_rank {records : List Record} {rule : Initiative} {context : Context} {r : Ranked}
    (h : r ∈ rank records rule context) : r.record ∈ records :=
  (rank_perm records rule context).mem_iff.mp (List.mem_map.mpr ⟨r, h, rfl⟩)

theorem mem_rank {records : List Record} {rule : Initiative} {context : Context} {a : Ranked} :
    a ∈ rank records rule context ↔ ∃ r ∈ records, rule.rate context r = a :=
  (rank_perm_rated records rule context).mem_iff.trans List.mem_map

theorem pairwise_rank {records : List Record} {rule : Initiative} {context : Context}
    (hscores : ∀ r ∈ records, (rule.score r context).isNaN = false) :
    (rank records rule context).Pairwise NoLater := by
  refine pairwise_sortRanked (l := records.map (rule.rate context)) fun a ha => ?_
  obtain ⟨r, hr, rfl⟩ := List.mem_map.mp ha
  exact hscores r hr

/-- Where no two records are of one avatar, their order alone decides a ranking. -/
theorem rank_eq_of_perm {records records' : List Record} {rule : Initiative} {context : Context}
    (hscores : ∀ r ∈ records, (rule.score r context).isNaN = false)
    (hids : (records.map Record.avatarId).Nodup) (hperm : records'.Perm records) :
    rank records' rule context = rank records rule context := by
  have hrated : (rank records' rule context).Perm (rank records rule context) :=
    (rank_perm_rated records' rule context).trans
      ((hperm.map (rule.rate context)).trans (rank_perm_rated records rule context).symm)
  have hscores' : ∀ r ∈ records', (rule.score r context).isNaN = false :=
    fun r hr => hscores r (hperm.mem_iff.mp hr)
  have hanti : ∀ a b, a ∈ rank records' rule context → b ∈ rank records rule context →
      NoLater a b → NoLater b a → a = b := by
    intro a b ha hb hab hba
    obtain ⟨r, hr, rfl⟩ := mem_rank.mp (hrated.mem_iff.mp ha)
    obtain ⟨r', hr', rfl⟩ := mem_rank.mp hb
    -- neither comes later, so they are level, and of one avatar
    have hlevel : compareRanked (rule.rate context r) (rule.rate context r') = .eq :=
      NoLater.level (hscores r hr) (hscores r' hr') hab hba
    have hid : r.avatarId = r'.avatarId := avatarId_of_level hlevel
    rw [List.inj_on_of_nodup_map hids hr hr' hid]
  exact hrated.eq_of_pairwise hanti (pairwise_rank hscores') (pairwise_rank hscores)

/-- Avatars whose scores are numbers are in order: of two the first is before the other, after it or, if they
are one, level with it, and who comes no later than another comes no later than those after that one. A
ranking is in that order and has each record with its score; if no two records are of one avatar, any list
of the same records has the same ranking. -/
theorem ranks_in_one_order :
    (∀ a b : Ranked, a.IsScored → b.IsScored →
      compareRanked b a = (compareRanked a b).swap ∧ (NoLater a b ∨ NoLater b a) ∧
        (compareRanked a b = .eq → a.avatarId = b.avatarId)) ∧
      (∀ a b c : Ranked, a.IsScored → b.IsScored → c.IsScored →
        NoLater a b → NoLater b c → NoLater a c) ∧
      ∀ (records : List Record) (rule : Initiative) (context : Context),
        (∀ r ∈ records, (rule.score r context).isNaN = false) →
        (rank records rule context).Perm (records.map (rule.rate context)) ∧
          (rank records rule context).Pairwise NoLater ∧
          ((records.map Record.avatarId).Nodup → ∀ records' : List Record,
            (records'.map Record.avatarId).Nodup → (∀ r, r ∈ records' ↔ r ∈ records) →
            rank records' rule context = rank records rule context) := by
  refine ⟨fun a b ha hb => ⟨compareRanked_swap ha hb, ?_, avatarId_of_level⟩,
    fun a b c ha hb hc => NoLater.trans ha hb hc,
    fun records rule context hscores => ⟨rank_perm_rated records rule context, pairwise_rank hscores, ?_⟩⟩
  · rw [NoLater, NoLater, compareRanked_swap ha hb]
    cases compareRanked a b <;> decide
  · intro hids records' hids' hmem
    have hperm : records'.Perm records :=
      (List.perm_ext_iff_of_nodup (List.Nodup.of_map _ hids') (List.Nodup.of_map _ hids)).mpr hmem
    exact rank_eq_of_perm hscores hids hperm

/-- Five records of which each but the first is told from the next by another order of a ranking. -/
def contenders : List Record :=
  let silent (avatar : String) := Record.fresh "lobby" avatar 0
  [{ silent "ada" with lastTurnAt := some 900 }, silent "bob", silent "cyd",
    { silent "dan" with lastMentionedAt := some 900 }, { silent "eve" with priorityPins := 1 }]

/-- Scored alike, they are ranked by pins, mentions, silence and id, from whichever end they come. -/
theorem ranks_in_one_order_reversed :
    (∀ r ∈ contenders, ((Initiative.flat 0.5).score r ⟨1000, .empty⟩).isNaN = false) ∧
      (contenders.map Record.avatarId).Nodup ∧
      (rank contenders (.flat 0.5) ⟨1000, .empty⟩).map Ranked.avatarId =
        ["eve", "dan", "bob", "cyd", "ada"] ∧
      rank contenders.reverse (.flat 0.5) ⟨1000, .empty⟩ = rank contenders (.flat 0.5) ⟨1000, .empty⟩ ∧
      NoLater ⟨contenders[4], 0.0⟩ ⟨contenders[0], 0.0⟩ := by
  have hscores : ∀ r ∈ contenders, ((Initiative.flat 0.5).score r ⟨1000, .empty⟩).isNaN = false := by
    decide +kernel
  have hids : (contenders.map Record.avatarId).Nodup := by decide
  refine ⟨hscores, hids, by decide +kernel, ?_, ?_⟩
  · obtain ⟨-, -, hunique⟩ := ranks_in_one_order.2.2 contenders (.flat 0.5) ⟨1000, .empty⟩ hscores
    exact hunique hids contenders.reverse (by decide) fun r => List.mem_reverse
  · -- zero has two signs, which are level
    exact ranks_in_one_order.2.1 ⟨contenders[4], 0.0⟩ ⟨contenders[1], -0.0⟩ ⟨contenders[0], 0.0⟩
      (by decide +kernel) (by decide +kernel) (by decide +kernel) (by decide +kernel) (by decide +kernel)

end TurnTaking.Presence
