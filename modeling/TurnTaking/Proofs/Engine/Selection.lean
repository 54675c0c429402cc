import TurnTaking.Proofs.Credits
import TurnTaking.Proofs.Engine.Keeps
import TurnTaking.Proofs.Ranking

/-!
# Selections — who is ranked and who is selected

Whoever is ranked to respond is eligible (`candidates_covered`). What a tier selects is marked as its own
(`Tier.select_marked`).
-/

namespace TurnTaking

open Store Store.Access

variable {σ α β : Type}

/-! ## Candidates -/

namespace Engine

open Presence

/-- Each record of a present avatar is its own. -/
theorem runs_presentRecords {channel : String} {author : Option String} {now : Int}
    {avatars : List Avatar} {present : List (Avatar × Record)} {s s' : Store}
    (h : (presentRecords channel author now avatars).Runs s (.ok present) s') :
    ∀ p ∈ present, p.2.avatarId = p.1.id := by
  induction avatars generalizing present s s' with
  | nil =>
    obtain ⟨rfl, -⟩ := runs_pure_ok h
    intro p hp
    cases hp
  | cons a rest ih =>
    unfold presentRecords at h
    split at h
    · exact ih h
    · obtain ⟨record, s₁, hensure, h⟩ := runs_bind_ok h
      obtain ⟨more, s₂, hmore, h⟩ := runs_bind_ok h
      obtain ⟨rfl, -⟩ := runs_pure_ok h
      have hkey := (ensure_key hensure).2
      split
      · intro p hp
        rcases List.mem_cons.mp hp with rfl | hp
        · exact hkey
        · exact ih hmore p hp
      · exact ih hmore

variable {e : Engine σ} {channel : String} {message : Option Message} {now : Int} {found : Candidates}
  {w w' : World σ}

/-- Candidates that are found are the avatars that were listed, those of them whose records were found
present, and the ranking of these. To rank them changes no table. -/
theorem run_candidates (h : (e.candidates channel message now).run.run w = (.ok found, w')) :
    ∃ w₁ present w₂ topics,
      (orElse (e.outside.listAvatars channel) []).run w = (found.inChannel, w₁) ∧
      (onStore (presentRecords channel (message.map Message.authorId) now found.inChannel) :
        Try σ _).run.run w₁ = (.ok present, w₂) ∧
      found.eligible = present.map Prod.fst ∧
      found.ranked = rank (present.map Prod.snd) e.rule ⟨now, topics⟩ ∧
      w'.store.tables = w₂.store.tables := by
  obtain ⟨inChannel, w₁, hlisted, h⟩ := run_tryLift h
  rcases run_tryBind h with ⟨present, w₂, hpresent, h⟩ | ⟨_, -, he⟩
  · rcases run_tryBind h with ⟨ranked, w₃, hranked, h⟩ | ⟨_, -, he⟩
    · rcases run_tryBind hranked with ⟨topics, w₄, htopics, hrank⟩ | ⟨_, -, he⟩
      · obtain rfl := Except.ok.inj (Prod.mk.inj h).1
        obtain rfl := Except.ok.inj (Prod.mk.inj hrank).1
        obtain rfl := (Prod.mk.inj h).2
        obtain rfl := (Prod.mk.inj hrank).2
        obtain ⟨s, hruns, rfl⟩ := run_onStore htopics
        have hframes : Frames id (Activity.topics channel) := Activity.topics_frames channel
        have htables := (hframes _ _ _ hruns).view
        exact ⟨w₁, present, w₂, topics, hlisted, hpresent, rfl, rfl, htables⟩
      · cases he
    · cases he
  · cases he

/-- The ranked avatars are the eligible ones, in some order. -/
theorem candidates_ranked (h : (e.candidates channel message now).run.run w = (.ok found, w')) :
    (found.ranked.map Ranked.avatarId).Perm (found.eligible.map Avatar.id) := by
  obtain ⟨w₁, present, w₂, topics, -, hpresent, heligible, hranked, -⟩ := run_candidates h
  obtain ⟨s, hruns, -⟩ := run_onStore hpresent
  have hids : (present.map Prod.snd).map Record.avatarId = (present.map Prod.fst).map Avatar.id := by
    rw [List.map_map, List.map_map]
    exact List.map_congr_left fun p hp => runs_presentRecords hruns p hp
  have hsame : found.ranked.map Ranked.avatarId = (found.ranked.map Ranked.record).map Record.avatarId := by
    rw [List.map_map]
    rfl
  rw [hsame, heligible, ← hids, hranked]
  exact (rank_perm _ e.rule _).map Record.avatarId

end Engine

/-- Whoever is ranked in the situation is eligible. -/
def Situation.Covered (s : Situation) : Prop := ∀ r ∈ s.ranked, (s.eligibleAvatar r.avatarId).isSome

/-- Whoever is ranked to respond is eligible. -/
theorem Engine.candidates_covered {e : Engine σ} {channel : String} {message : Option Message}
    {now : Int} {found : Candidates} {w w' : World σ}
    (h : (e.candidates channel message now).run.run w = (.ok found, w')) (trigger : Trigger) :
    (⟨channel, message, trigger, found.eligible, found.ranked, now⟩ : Situation).Covered := by
  intro r hr
  have hid := (candidates_ranked h).mem_iff.mp (List.mem_map_of_mem hr)
  obtain ⟨a, ha, hsame⟩ := List.mem_map.mp hid
  exact List.find?_isSome.mpr ⟨a, ha, decide_eq_true hsame⟩

/-! ## Tiers -/

/-- Whatever result the activity comes to has the property. -/
def Yields (P : α → Prop) (a : Try σ α) : Prop :=
  ∀ w x w', a.run.run w = (.ok x, w') → P x

namespace Yields

variable {P : β → Prop}

theorem pure {x : β} (h : P x) : Yields P (Pure.pure x : Try σ β) := by
  intro w y w' hrun
  have hend : ((.ok x : Except Fault β), w) = (.ok y, w') := hrun
  obtain rfl := Except.ok.inj (Prod.mk.inj hend).1
  exact h

/-- What comes of an activity comes of its last part. -/
theorem bind {a : Try σ α} {f : α → Try σ β} (hf : ∀ x, Yields P (f x)) : Yields P (a >>= f) := by
  intro w y w' hrun
  rcases run_tryBind hrun with ⟨x, w₁, -, hlast⟩ | ⟨_, -, he⟩
  · exact hf x _ _ _ hlast
  · cases he

/-- What comes of its first part is known to the last. -/
theorem bindOf {Q : α → Prop} {a : Try σ α} {f : α → Try σ β} (ha : Yields Q a)
    (hf : ∀ x, Q x → Yields P (f x)) : Yields P (a >>= f) := by
  intro w y w' hrun
  rcases run_tryBind hrun with ⟨x, w₁, hfirst, hlast⟩ | ⟨_, -, he⟩
  · exact hf x (ha _ _ _ hfirst) _ _ _ hlast
  · cases he

end Yields

namespace Tier

/-- All of the selections are marked as those of the tier. -/
def Marks (t : Tier) (selections : List Selection) : Prop := ∀ s ∈ selections, s.tier = t

theorem marks_nil (t : Tier) : t.Marks [] := fun _ h => absurd h List.not_mem_nil

theorem marks_cons {t : Tier} {s : Selection} {rest : List Selection} (h : s.tier = t)
    (hrest : t.Marks rest) : t.Marks (s :: rest) := by
  intro s' hs'
  rcases List.mem_cons.mp hs' with rfl | hs'
  · exact h
  · exact hrest s' hs'

theorem marks_plain (t : Tier) (avatars : List Avatar) :
    t.Marks (avatars.map (Selection.plain · t)) := by
  intro s hs
  obtain ⟨a, -, rfl⟩ := List.mem_map.mp hs
  rfl

theorem marks_ranked {s : Situation} {t : Tier} {r : Presence.Ranked} {selection : Selection}
    (h : s.selectRanked t r = some selection) : selection.tier = t := by
  obtain ⟨a, -, rfl⟩ := Option.map_eq_some_iff.mp h
  rfl

variable {e : Engine σ} {s : Situation}

/-- What the reply tier selects bears its mark. -/
theorem selectReply_marked : Yields (Marks .reply) (selectReply e s) := by
  unfold selectReply
  split
  · refine .bind fun sender => ?_
    split
    · split
      · exact .pure (marks_nil _)
      · refine .bind fun found => ?_
        split
        · split
          · exact .pure (marks_cons rfl (marks_nil _))
          · exact .bind fun _ => .pure (marks_cons rfl (marks_nil _))
        · exact .pure (marks_nil _)
    · exact .pure (marks_nil _)
  · exact .pure (marks_nil _)

theorem selectThread_marked : Yields (Marks .thread) (selectThread s : Try σ _) := by
  refine .bind fun current => ?_
  split
  · split
    · split
      · exact .pure (marks_nil _)
      · split
        · exact .pure (marks_cons rfl (marks_nil _))
        · exact .pure (marks_nil _)
    · exact .pure (marks_nil _)
  · exact .pure (marks_nil _)

/-- What is bought with credits bears the mark of the summons. -/
theorem spendCredits_marked (limit : Nat) (ranked : List Presence.Ranked) :
    Yields (Marks .summon) (spendCredits s limit ranked : Try σ _) := by
  induction ranked generalizing limit with
  | nil => cases limit <;> exact .pure (marks_nil _)
  | cons r rest ih =>
    cases limit with
    | zero => exact .pure (marks_nil _)
    | succ limit =>
      refine .bind fun spent => ?_
      split
      · rename_i selection hselection
        have hmark : selection.tier = .summon := by
          cases spent with
          | true => exact marks_ranked hselection
          | false => cases hselection
        intro w x w' hrun
        rcases run_tryBind hrun with ⟨more, w₁, hmore, hend⟩ | ⟨_, -, he⟩
        · exact Yields.pure (marks_cons hmark (ih limit _ _ _ hmore)) _ _ _ hend
        · cases he
      · exact ih (limit + 1)

theorem selectAffinity_marked : Yields (Marks .affinity) (selectAffinity e s) := by
  unfold selectAffinity
  split
  · refine .bind fun id => ?_
    split
    · split
      · extract_lets choose
        have hchoose : ∀ agreed, Yields (Marks .affinity) (choose agreed) := by
          intro agreed
          simp only [choose]
          split
          · exact .bind fun _ => .pure (marks_cons rfl (marks_nil _))
          · exact .pure (marks_nil _)
        split
        · exact .bind hchoose
        · exact .bind hchoose
      · exact .pure (marks_nil _)
    · exact .pure (marks_nil _)
  · exact .pure (marks_nil _)

theorem selectMention_marked : Yields (Marks .mention) (selectMention e s) := by
  unfold selectMention
  split
  · extract_lets named
    split
    · refine .bind fun _ => ?_
      split
      · exact .bind fun _ => .pure (marks_plain _ _)
      · exact .pure (marks_plain _ _)
    · exact .pure (marks_nil _)
  · exact .pure (marks_nil _)

theorem selectActiveSpeaker_marked : Yields (Marks .activeSpeaker) (selectActiveSpeaker e s) := by
  unfold selectActiveSpeaker
  extract_lets candidate
  split
  · rename_i selection hselection
    refine .bind fun agreed => ?_
    split
    · obtain ⟨r, -, hr⟩ := Option.bind_eq_some_iff.mp hselection
      exact .pure (marks_cons (marks_ranked hr) (marks_nil _))
    · exact .pure (marks_nil _)
  · exact .pure (marks_nil _)

theorem selectPresence_marked : Yields (Marks .presence) (selectPresence e s) := by
  unfold selectPresence
  extract_lets choose
  have hchoose : ∀ picked, Yields (Marks .presence) (choose picked) := by
    refine fun picked => .pure fun selection hselection => ?_
    obtain ⟨r, -, hr⟩ := Option.bind_eq_some_iff.mp (Option.mem_toList.mp hselection)
    exact marks_ranked hr
  split
  · exact .bind fun _ => .bind hchoose
  · exact .bind hchoose

theorem firstAccepted_marked (ranked : List Presence.Ranked) :
    Yields (Marks .legacy) (firstAccepted e s ranked) := by
  induction ranked with
  | nil => exact .pure (marks_nil _)
  | cons r rest ih =>
    unfold firstAccepted
    split
    · exact ih
    · refine .bind fun agreed => ?_
      split
      · exact .pure (marks_cons rfl (marks_nil _))
      · exact ih

/-- A ranked avatar that is eligible is selected as itself. -/
theorem selectRanked_of_covered (t : Tier) {r : Presence.Ranked}
    (h : (s.eligibleAvatar r.avatarId).isSome) :
    ∃ a, a.id = r.avatarId ∧ s.selectRanked t r = some (.plain a t) := by
  obtain ⟨a, ha⟩ := Option.isSome_iff_exists.mp h
  have hfound := List.find?_some ha
  refine ⟨a, of_decide_eq_true hfound, ?_⟩
  rw [Situation.selectRanked, ha]
  rfl

/-- The summons of a situation are no others than its ranked avatars. -/
theorem covered_summons {s : Situation} (h : s.Covered) :
    ∀ r ∈ (s.ranked.filter (·.record.hasSummonCredit)).mergeSort bySummon,
      (s.eligibleAvatar r.avatarId).isSome := by
  intro r hr
  exact h r (List.mem_filter.mp (List.mem_mergeSort.mp hr)).1

/-- What a tier selects is marked as its own. -/
theorem select_marked (t : Tier) : Yields t.Marks (t.select e s) := by
  cases t with
  | reply => exact selectReply_marked
  | thread => exact selectThread_marked
  | summon => exact spendCredits_marked _ _
  | affinity => exact selectAffinity_marked
  | mention => exact selectMention_marked
  | activeSpeaker => exact selectActiveSpeaker_marked
  | presence => exact selectPresence_marked
  | legacy => exact firstAccepted_marked _

end Tier

end TurnTaking
