import Mathlib.Data.List.Nodup
import TurnTaking.Proofs.Mention

/-!
# Mentioned — in which order

An avatar comes before another in a text if its first handle does, or if their first handles are at the same
place and its id is the lesser one (`MentionedBefore`). Those who are mentioned are listed in this order, and
no two of them can change places. So the list does not depend on the order in which the avatars were given
(`mentioned_in_order`).
-/

namespace TurnTaking.Mention

open TurnTaking.Text

/-- The first handle of the one avatar in the lower-cased text is before that of the other, or at the same
place and the id of the one is the lesser. -/
def MentionedBefore (text : List Char) (a b : Avatar) : Prop :=
  ∃ p q, IsLeast {place | HandleAt text a place} p ∧ IsLeast {place | HandleAt text b place} q ∧
    (p < q ∨ p = q ∧ a.id < b.id)

/-- Of two avatars at most one is mentioned before the other. -/
theorem MentionedBefore.asymm {text : List Char} {a b : Avatar} (h : MentionedBefore text a b) :
    ¬ MentionedBefore text b a := by
  obtain ⟨p, q, hp, hq, hbefore⟩ := h
  rintro ⟨q', p', hq', hp', hbefore'⟩
  obtain rfl := hp'.unique hp
  obtain rfl := hq'.unique hq
  rcases hbefore with hplace | ⟨hplace, hid⟩
  · omega
  · rcases hbefore' with hplace' | ⟨-, hid'⟩
    · omega
    · exact String.lt_asymm hid hid'

theorem MentionedBefore.ne {text : List Char} {a b : Avatar} (h : MentionedBefore text a b) : a ≠ b := by
  rintro rfl
  exact h.asymm h

/-! ## Sorting -/

/-- The order of mentions, by place and then by id. -/
theorem notAfter_iff {x y : Nat × Avatar} :
    notAfter x y = true ↔ x.1 < y.1 ∨ x.1 = y.1 ∧ x.2.id ≤ y.2.id := by
  simp only [notAfter, Bool.or_eq_true, Bool.and_eq_true, Bool.not_eq_true', decide_eq_true_eq,
    decide_eq_false_iff_not, String.not_lt]

theorem notAfter_trans (x y z : Nat × Avatar) (hxy : notAfter x y = true) (hyz : notAfter y z = true) :
    notAfter x z = true := by
  rw [notAfter_iff] at hxy hyz ⊢
  rcases hxy with hxy | ⟨hxy, hid⟩
  · exact .inl (by omega)
  · rcases hyz with hyz | ⟨hyz, hid'⟩
    · exact .inl (by omega)
    · exact .inr ⟨hxy.trans hyz, String.le_trans hid hid'⟩

theorem notAfter_total (x y : Nat × Avatar) : (notAfter x y || notAfter y x) = true := by
  rw [Bool.or_eq_true, notAfter_iff, notAfter_iff]
  rcases Nat.lt_trichotomy x.1 y.1 with hlt | heq | hgt
  · exact .inl (.inl hlt)
  · rcases String.le_total x.2.id y.2.id with hle | hle
    · exact .inl (.inr ⟨heq, hle⟩)
    · exact .inr (.inr ⟨heq.symm, hle⟩)
  · exact .inr (.inl hgt)

/-! ## The list -/

/-- The avatars that a lower-cased text mentions, each with the place at which it is first mentioned. -/
def hits (text : List Char) (avatars : List Avatar) : List (Nat × Avatar) :=
  avatars.filterMap fun a => (firstMention text a).map fun place => (place, a)

/-- The mentioned are the hits in order. -/
theorem mentionedAvatars_eq (text : String) (avatars : List Avatar) :
    mentionedAvatars text avatars =
      ((hits (lowercase text.toList) avatars).mergeSort notAfter).map Prod.snd :=
  rfl

section

variable {text : List Char} {avatars : List Avatar}

/-- A hit is an avatar with its earliest place. -/
theorem mem_hits {x : Nat × Avatar} :
    x ∈ hits text avatars ↔ x.2 ∈ avatars ∧ IsLeast {place | HandleAt text x.2 place} x.1 := by
  obtain ⟨place, a⟩ := x
  simp only [hits, List.mem_filterMap, Option.map_eq_some_iff, Prod.mk.injEq]
  constructor
  · rintro ⟨_, ha, _, hfirst, rfl, rfl⟩
    exact ⟨ha, (earliest_firstMention _ _).eq_some_iff.mp hfirst⟩
  · rintro ⟨ha, hleast⟩
    exact ⟨a, ha, place, (earliest_firstMention _ _).eq_some_iff.mpr hleast, rfl, rfl⟩

/-- Sorted by place and then by id, those mentioned come one before another. -/
theorem pairwise_sorted_hits (hids : (avatars.map Avatar.id).Nodup) :
    ((hits text avatars).mergeSort notAfter).Pairwise fun x y => MentionedBefore text x.2 y.2 := by
  have hperm := List.mergeSort_perm (hits text avatars) notAfter
  have hdistinct : (hits text avatars).Pairwise fun x y => x.2.id ≠ y.2.id := by
    refine List.Pairwise.filterMap _ (fun a b hab x hx y hy => ?_) (List.pairwise_map.mp hids)
    obtain ⟨_, -, rfl⟩ := Option.map_eq_some_iff.mp hx
    obtain ⟨_, -, rfl⟩ := Option.map_eq_some_iff.mp hy
    exact hab
  have hsorted := List.pairwise_mergeSort notAfter_trans notAfter_total (hits text avatars)
  have hdistinct' := hdistinct.perm hperm.symm fun h => h.symm
  -- nobody is sorted after a later one, and as the ids are different, that is strict
  refine (hsorted.and hdistinct').imp_of_mem fun {x y} hx hy h => ?_
  obtain ⟨hnotAfter, hid⟩ := h
  obtain ⟨-, hplace⟩ := mem_hits.mp (hperm.mem_iff.mp hx)
  obtain ⟨-, hplace'⟩ := mem_hits.mp (hperm.mem_iff.mp hy)
  refine ⟨x.1, y.1, hplace, hplace', ?_⟩
  rcases notAfter_iff.mp hnotAfter with hlt | ⟨heq, hle⟩
  · exact .inl hlt
  · exact .inr ⟨heq, Std.lt_of_le_of_ne hle hid⟩

end

/-- The mentioned stand in the order of their mentions. -/
theorem pairwise_mentionedAvatars (text : String) {avatars : List Avatar}
    (hids : (avatars.map Avatar.id).Nodup) :
    (mentionedAvatars text avatars).Pairwise (MentionedBefore (lowercase text.toList)) := by
  rw [mentionedAvatars_eq]
  exact List.pairwise_map.mpr (pairwise_sorted_hits hids)

/-- An avatar is mentioned just if one of its handles stands in the text. -/
theorem mentions_iff {text : String} {a : Avatar} :
    mentions text a = true ↔ ∃ place, HandleAt (lowercase text.toList) a place :=
  (earliest_firstMention _ a).isSome_iff

/-- Of avatars with different ids, those are listed whom the text mentions, each once, and nobody else:
whoever has a name or an alias as a word of its own, or the emoji, anywhere in the lower-cased text. They are
listed by the byte at which the first of their handles begins, and then by id. So the list is the same in
whatever order the avatars were given. -/
theorem mentioned_in_order (text : String) (avatars : List Avatar) (hids : (avatars.map Avatar.id).Nodup) :
    (∀ a, a ∈ mentionedAvatars text avatars ↔ a ∈ avatars ∧ mentions text a = true) ∧
      (∀ a, mentions text a = true ↔ ∃ place, HandleAt (lowercase text.toList) a place) ∧
      (mentionedAvatars text avatars).Nodup ∧
      (mentionedAvatars text avatars).Pairwise (MentionedBefore (lowercase text.toList)) ∧
      ∀ others : List Avatar, others.Perm avatars →
        mentionedAvatars text others = mentionedAvatars text avatars := by
  have hordered := pairwise_mentionedAvatars text hids
  refine ⟨fun _ => mem_mentionedAvatars, fun _ => mentions_iff, ?_, hordered, fun others hothers => ?_⟩
  · exact hordered.imp MentionedBefore.ne
  · have hordered' : (mentionedAvatars text others).Pairwise (MentionedBefore (lowercase text.toList)) :=
      pairwise_mentionedAvatars text ((hothers.map _).nodup_iff.mpr hids)
    have hperm : (mentionedAvatars text others).Perm (mentionedAvatars text avatars) := by
      rw [mentionedAvatars_eq, mentionedAvatars_eq]
      refine List.Perm.map _ ?_
      refine (List.mergeSort_perm _ _).trans (.trans ?_ (List.mergeSort_perm _ _).symm)
      exact hothers.filterMap _
    -- one strict order puts the same avatars in one list only
    exact hperm.eq_of_pairwise (fun a b _ _ hab hba => (hab.asymm hba).elim) hordered' hordered

/-- Three avatars of whom two answer to the same alias and one has a name that is part of it. -/
def namesakes : List Avatar :=
  [(Avatar.named "ada" "Ada").withAlias "bert", Avatar.named "mia" "Ber",
    ((Avatar.named "rob" "Roberta").withAlias "Bert").withEmoji "🦊"]

/-- Where two answer to the alias that comes first, the lesser id is listed first, in whatever order they were
given and although the emoji of the other comes again later. -/
theorem mentioned_in_order_namesakes :
    (namesakes.map Avatar.id).Nodup ∧
      mentionedAvatars "Émil, BERT and 🦊" namesakes = [namesakes[0], namesakes[2]] ∧
      mentionedAvatars "Émil, BERT and 🦊" namesakes.reverse = [namesakes[0], namesakes[2]] := by
  have hids : (namesakes.map Avatar.id).Nodup := by decide
  obtain ⟨-, -, -, -, hsame⟩ := mentioned_in_order "Émil, BERT and 🦊" namesakes hids
  have hhits : hits (lowercase "Émil, BERT and 🦊".toList) namesakes =
      [(7, namesakes[0]), (7, namesakes[2])] := by
    decide +kernel
  have hlisted : mentionedAvatars "Émil, BERT and 🦊" namesakes = [namesakes[0], namesakes[2]] := by
    rw [mentionedAvatars_eq, hhits, List.mergeSort_of_pairwise (by decide +kernel)]
    rfl
  exact ⟨hids, hlisted, (hsame _ namesakes.reverse_perm).trans hlisted⟩

end TurnTaking.Mention
