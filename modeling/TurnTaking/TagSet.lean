/-!
# Tag sets

A finite set of texts, kept as its strictly ascending list (by code point). Two sets with the same
members are therefore equal.

* `mem_insert` — what an insertion adds;
* `ext_of_mem` — a set is determined by its members;
* `ofList_toList` — its list gives the set again.
-/

namespace TurnTaking

/-- Puts a text into an ascending list unless it is there already. -/
def insertAscending (t : String) : List String → List String
  | [] => [t]
  | u :: rest =>
    if t < u then t :: u :: rest
    else if u < t then u :: insertAscending t rest
    else u :: rest

theorem mem_insertAscending {t s : String} {l : List String} :
    s ∈ insertAscending t l ↔ s = t ∨ s ∈ l := by
  induction l with
  | nil => simp [insertAscending]
  | cons u rest ih =>
    unfold insertAscending
    split
    · simp
    · split
      · simp only [List.mem_cons, ih]
        grind
      · have : t = u := String.le_antisymm (String.not_lt.1 ‹_›) (String.not_lt.1 ‹_›)
        subst this
        simp

/-- Insertion keeps the order. -/
theorem pairwise_insertAscending {t : String} {l : List String} (h : l.Pairwise (· < ·)) :
    (insertAscending t l).Pairwise (· < ·) := by
  induction l with
  | nil => simp [insertAscending]
  | cons u rest ih =>
    obtain ⟨hu, hrest⟩ := List.pairwise_cons.1 h
    unfold insertAscending
    split
    · refine List.pairwise_cons.2 ⟨fun s hs => ?_, h⟩
      rcases List.mem_cons.1 hs with rfl | hs
      · assumption
      · exact String.lt_trans ‹_› (hu s hs)
    · split
      · refine List.pairwise_cons.2 ⟨fun s hs => ?_, ih hrest⟩
        rcases mem_insertAscending.1 hs with rfl | hs
        · assumption
        · exact hu s hs
      · exact h

/-- A finite set of texts. -/
structure TagSet where
  /-- The members in ascending order. -/
  toList : List String
  ascending : toList.Pairwise (· < ·)
deriving DecidableEq

namespace TagSet

/-- The set without members. -/
def empty : TagSet := ⟨[], .nil⟩

instance : Inhabited TagSet := ⟨empty⟩
instance : Repr TagSet := ⟨fun s _ => repr s.toList⟩
instance : Membership String TagSet := ⟨fun s t => t ∈ s.toList⟩

/-- The set with one more member. -/
def insert (s : TagSet) (t : String) : TagSet :=
  ⟨insertAscending t s.toList, pairwise_insertAscending s.ascending⟩

def ofList (l : List String) : TagSet := l.foldl insert empty

def isEmpty (s : TagSet) : Bool := s.toList.isEmpty

/-- Whether the sets share a member. -/
def overlaps (s t : TagSet) : Bool := s.toList.any t.toList.contains

theorem mem_iff {s : TagSet} {t : String} : t ∈ s ↔ t ∈ s.toList := Iff.rfl

theorem mem_insert {s : TagSet} {t u : String} : u ∈ s.insert t ↔ u = t ∨ u ∈ s :=
  mem_insertAscending

/-- Strictly ascending lists with the same members are equal. -/
theorem eq_of_ascending {l m : List String} (hl : l.Pairwise (· < ·)) (hm : m.Pairwise (· < ·))
    (h : ∀ t, t ∈ l ↔ t ∈ m) : l = m := by
  induction l generalizing m with
  | nil =>
    cases m with
    | nil => rfl
    | cons b m => exact absurd ((h b).2 List.mem_cons_self) (by simp)
  | cons a l ih =>
    cases m with
    | nil => exact absurd ((h a).1 List.mem_cons_self) (by simp)
    | cons b m =>
      obtain ⟨ha, hl'⟩ := List.pairwise_cons.1 hl
      obtain ⟨hb, hm'⟩ := List.pairwise_cons.1 hm
      -- the first of an ascending list is its least member
      have hab : a = b := by
        rcases List.mem_cons.1 ((h a).1 List.mem_cons_self) with e | ham
        · exact e
        · rcases List.mem_cons.1 ((h b).2 List.mem_cons_self) with e | hbl
          · exact e.symm
          · exact absurd (hb a ham) (String.lt_asymm (ha b hbl))
      subst hab
      refine congrArg _ (ih hl' hm' fun t => ⟨fun ht => ?_, fun ht => ?_⟩)
      · rcases List.mem_cons.1 ((h t).1 (List.mem_cons_of_mem _ ht)) with rfl | ht'
        · exact absurd (ha _ ht) (String.lt_irrefl _)
        · exact ht'
      · rcases List.mem_cons.1 ((h t).2 (List.mem_cons_of_mem _ ht)) with rfl | ht'
        · exact absurd (hb _ ht) (String.lt_irrefl _)
        · exact ht'

/-- A set is determined by its members. -/
theorem ext_of_mem {s t : TagSet} (h : ∀ u, u ∈ s ↔ u ∈ t) : s = t := by
  obtain ⟨l, hl⟩ := s
  obtain ⟨m, hm⟩ := t
  have : l = m := eq_of_ascending hl hm h
  subst this
  rfl

theorem mem_ofList {l : List String} {t : String} : t ∈ ofList l ↔ t ∈ l := by
  have hfold : ∀ s : TagSet, t ∈ l.foldl insert s ↔ t ∈ l ∨ t ∈ s := by
    induction l with
    | nil => simp
    | cons u rest ih =>
      intro s
      rw [List.foldl_cons, ih, mem_insert, List.mem_cons, or_left_comm, or_assoc]
  have hempty : t ∉ empty := List.not_mem_nil
  simp [ofList, hfold, hempty]

/-- A set is that of its members. -/
@[simp] theorem ofList_toList (s : TagSet) : ofList s.toList = s :=
  ext_of_mem fun _ => mem_ofList

end TagSet

end TurnTaking
