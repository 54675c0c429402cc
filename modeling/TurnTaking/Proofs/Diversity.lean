import Mathlib.Data.List.Nodup
import Mathlib.Data.List.Perm.Subperm
import TurnTaking.Diversity
import TurnTaking.Proofs.Engine.Course

/-!
# Diversity — who is left after those who spoke lately

What is asked of an unprompted choice is said without telling how it is made (`Fair`): it keeps the ranking,
it never lets the author of the very last message go on, it has all those who neither spoke lately nor are
cooling down, and where there are none it falls back on the best ranked avatar or on nobody. Of a ranking of
different avatars one choice is fair and no other (`Fair.unique`), and it is the one that is made
(`apply_chooses_fairly`).
-/

namespace TurnTaking.Diversity

open Presence

variable {σ : Type}

section

variable (cooling : Record → Bool) (window : Nat) (thresholds : List Float) (messages : List Message)

/-- The avatar wrote none of the latest messages, as many as the window holds, and is not cooling down. -/
def Rested (r : Ranked) : Prop :=
  (∀ m ∈ messages.take window, m.authorId ≠ r.avatarId) ∧ cooling r.record = false

/-- The avatar wrote the very last message. -/
def SpokeLast (r : Ranked) : Prop := ∃ m, messages.head? = some m ∧ m.authorId = r.avatarId

/-- The score is above one of the thresholds. -/
def Clears (r : Ranked) : Prop := ∃ threshold ∈ thresholds, threshold < r.score

/-- Those chosen are the ones who may take an unprompted turn. -/
structure Fair (ranked chosen : List Ranked) : Prop where
  inOrder : chosen.Sublist ranked
  noneTwice : ∀ r ∈ chosen, ¬ SpokeLast messages r
  rested : (∃ r ∈ ranked, Rested cooling window messages r) →
    ∀ r, r ∈ chosen ↔ r ∈ ranked ∧ Rested cooling window messages r
  atMostTop : (∀ r ∈ ranked, ¬ Rested cooling window messages r) →
    chosen = [] ∨ ∃ top, ranked.head? = some top ∧ chosen = [top]
  fallback : (∀ r ∈ ranked, ¬ Rested cooling window messages r) → ∀ top, ranked.head? = some top →
    (chosen = [top] ↔ ¬ SpokeLast messages top ∧ Clears thresholds top)

end

variable {cooling : Record → Bool} {window : Nat} {thresholds : List Float} {messages : List Message}
  {ranked chosen chosen' : List Ranked}

/-! ## One choice is fair -/

/-- Two lists in which the same different avatars are kept of one ranking are one list. -/
theorem eq_of_kept (hids : (ranked.map Ranked.avatarId).Nodup) (h : chosen.Sublist ranked)
    (h' : chosen'.Sublist ranked) (hmem : ∀ r, r ∈ chosen' ↔ r ∈ chosen) : chosen' = chosen := by
  have hranked : ranked.Nodup := List.Nodup.of_map _ hids
  have hperm : chosen'.Perm chosen :=
    (List.perm_ext_iff_of_nodup (hranked.sublist h') (hranked.sublist h)).mpr hmem
  exact (hranked.perm_iff_eq_of_sublist h' h).mp hperm

/-- The promises of a fair choice leave one choice only. -/
theorem Fair.unique (hids : (ranked.map Ranked.avatarId).Nodup)
    (h : Fair cooling window thresholds messages ranked chosen)
    (h' : Fair cooling window thresholds messages ranked chosen') : chosen' = chosen := by
  by_cases hrested : ∃ r ∈ ranked, Rested cooling window messages r
  · refine eq_of_kept hids h.inOrder h'.inOrder fun r => ?_
    rw [h'.rested hrested r, h.rested hrested r]
  · have hnone : ∀ r ∈ ranked, ¬ Rested cooling window messages r :=
      fun r hr hrest => hrested ⟨r, hr, hrest⟩
    -- both are empty or the top, and they agree on when they are the top
    have hsame : ∀ top, ranked.head? = some top → (chosen' = [top] ↔ chosen = [top]) := by
      intro top htop
      rw [h'.fallback hnone top htop, h.fallback hnone top htop]
    rcases h.atMostTop hnone with rfl | ⟨top, htop, rfl⟩
    · rcases h'.atMostTop hnone with rfl | ⟨top, htop, rfl⟩
      · rfl
      · cases (hsame top htop).mp rfl
    · exact (hsame top htop).mpr rfl

/-! ## The choice that is made -/

/-- The authors of the latest messages, as they are asked for. -/
theorem head?_authors (h : 1 ≤ window) (messages : List Message) (r : Ranked) :
    ((messages.take window).map Message.authorId).head? = some r.avatarId ↔ SpokeLast messages r := by
  obtain ⟨n, rfl⟩ : ∃ n, window = n + 1 := ⟨window - 1, by omega⟩
  cases messages with
  | nil => simp [SpokeLast]
  | cons m rest => simp [SpokeLast]

/-- Whoever spoke last is among those who spoke lately. -/
theorem Rested.not_spokeLast {r : Ranked} (h : 1 ≤ window) (hr : Rested cooling window messages r) :
    ¬ SpokeLast messages r := by
  intro hlast
  have hrecent : r.avatarId ∈ (messages.take window).map Message.authorId :=
    List.mem_of_head? ((head?_authors h messages r).mpr hlast)
  obtain ⟨m, hm, hauthor⟩ := List.mem_map.mp hrecent
  exact hr.1 m hm hauthor

/-- The test by which avatars are kept. -/
theorem rested_iff (r : Ranked) :
    (!((messages.take window).map Message.authorId).contains r.avatarId && !cooling r.record) = true ↔
      Rested cooling window messages r := by
  simp only [Rested, Bool.and_eq_true, Bool.not_eq_true', List.contains_eq_mem, decide_eq_false_iff_not,
    List.mem_map, not_exists, not_and, ne_eq]

/-- Who is chosen where some are rested. -/
theorem allowed_of_rested (h : ∃ r ∈ ranked, Rested cooling window messages r) :
    allowed cooling thresholds ((messages.take window).map Message.authorId) ranked =
      ranked.filter fun r =>
        !((messages.take window).map Message.authorId).contains r.avatarId && !cooling r.record := by
  obtain ⟨r, hr, hrest⟩ := h
  unfold allowed
  refine if_pos ?_
  simp only [Bool.not_eq_true', List.isEmpty_eq_false_iff]
  exact List.ne_nil_of_mem (List.mem_filter.mpr ⟨hr, (rested_iff r).mpr hrest⟩)

/-- Where nobody is rested the top of the ranking is chosen if it may be, and nobody if not. -/
theorem allowed_of_none (thresholds : List Float) (hwindow : 1 ≤ window)
    (h : ∀ r ∈ ranked, ¬ Rested cooling window messages r) :
    (∃ top, ranked.head? = some top ∧ ¬ SpokeLast messages top ∧ Clears thresholds top ∧
      allowed cooling thresholds ((messages.take window).map Message.authorId) ranked = [top]) ∨
    (∀ top, ranked.head? = some top → ¬ SpokeLast messages top → ¬ Clears thresholds top) ∧
      allowed cooling thresholds ((messages.take window).map Message.authorId) ranked = [] := by
  have hnobody : (ranked.filter fun r =>
      !((messages.take window).map Message.authorId).contains r.avatarId && !cooling r.record) = [] :=
    List.filter_eq_nil_iff.mpr fun r hr hrest => h r hr ((rested_iff r).mp hrest)
  simp only [allowed, hnobody, List.isEmpty_nil, Bool.not_true, Bool.false_eq_true, if_false]
  cases hhead : ranked.head? with
  | none =>
    refine .inr ⟨fun top htop => ?_, rfl⟩
    cases htop
  | some top =>
    have hclears : thresholds.any (· < top.score) = true ↔ Clears thresholds top := by simp [Clears]
    dsimp only
    by_cases hspoke : SpokeLast messages top
    · -- who spoke last is not taken, however high the score
      rw [if_pos ((head?_authors hwindow messages top).mpr hspoke)]
      refine .inr ⟨fun top' htop hsilent => ?_, rfl⟩
      rw [← Option.some.inj htop] at hsilent
      exact absurd hspoke hsilent
    · rw [if_neg (mt (head?_authors hwindow messages top).mp hspoke)]
      by_cases habove : Clears thresholds top
      · rw [if_pos (hclears.mpr habove)]
        exact .inl ⟨top, rfl, hspoke, habove, rfl⟩
      · rw [if_neg (mt hclears.mp habove)]
        refine .inr ⟨fun top' htop _ => ?_, rfl⟩
        rwa [← Option.some.inj htop]

/-- The choice made in a ranking is fair. -/
theorem allowed_fair (hwindow : 1 ≤ window) :
    Fair cooling window thresholds messages ranked
      (allowed cooling thresholds ((messages.take window).map Message.authorId) ranked) := by
  by_cases hrested : ∃ r ∈ ranked, Rested cooling window messages r
  · -- some are rested, and exactly they are chosen
    have hmem : ∀ r, r ∈ allowed cooling thresholds ((messages.take window).map Message.authorId) ranked ↔
        r ∈ ranked ∧ Rested cooling window messages r := by
      intro r
      rw [allowed_of_rested hrested, List.mem_filter, rested_iff]
    have hsome : ¬ ∀ r ∈ ranked, ¬ Rested cooling window messages r := by
      intro hnone
      obtain ⟨r, hr, hrest⟩ := hrested
      exact hnone r hr hrest
    constructor
    · rw [allowed_of_rested hrested]
      exact List.filter_sublist
    · -- the author of the last message is one of the latest authors
      intro r hr
      exact ((hmem r).mp hr).2.not_spokeLast hwindow
    · intro _
      exact hmem
    · intro hnone
      exact absurd hnone hsome
    · intro hnone
      exact absurd hnone hsome
  · -- nobody is rested: all that can be chosen is the first of the ranking
    have hnone : ∀ r ∈ ranked, ¬ Rested cooling window messages r :=
      fun r hr hrest => hrested ⟨r, hr, hrest⟩
    rcases allowed_of_none thresholds hwindow hnone with
      ⟨top, htop, hspoke, habove, hchosen⟩ | ⟨hbarred, hchosen⟩
    · rw [hchosen]
      constructor
      · exact List.singleton_sublist.mpr (List.mem_of_head? htop)
      · intro r hr
        rwa [List.mem_singleton.mp hr]
      · intro hsome
        exact absurd hsome hrested
      · intro _
        exact .inr ⟨top, htop, rfl⟩
      · intro _ top' htop'
        obtain rfl := Option.some.inj (htop.symm.trans htop')
        exact ⟨fun _ => ⟨hspoke, habove⟩, fun _ => rfl⟩
    · -- the first of the ranking spoke last, or clears no threshold
      rw [hchosen]
      constructor
      · exact List.nil_sublist ranked
      · intro r hr
        cases hr
      · intro hsome
        exact absurd hsome hrested
      · intro _
        exact .inl rfl
      · intro _ top htop
        constructor
        · intro h
          cases h
        · intro ⟨hspoke, habove⟩
          exact absurd habove (hbarred top htop hspoke)

/-! ## In a channel -/

/-- What the cache holds of a channel is asked of nobody else. -/
theorem run_recentMessages_of_held {e : Engine σ} {channel : String} {now : Int} {w : World σ}
    {held : List Message} (h : (w.caches e.number).fresh? e.cacheLimits channel now = some held) :
    (e.recentMessages channel now).run w = (held, w) := by
  unfold Engine.recentMessages
  have hlook : (get : Act σ (World σ)).run w = (w, w) := rfl
  rw [run_bind_of hlook, h]
  rfl

/-- Of a ranking of different avatars the choice for a channel is the one that is fair by the latest messages
of the channel, which are those that the speaker cache holds, if it holds any that still count. -/
theorem apply_chooses_fairly (e : Engine σ) (channel : String) (ranked : List Ranked) (now : Int)
    (w : World σ) (hwindow : 1 ≤ e.config.coordination.diversityWindow)
    (hids : (ranked.map Ranked.avatarId).Nodup) :
    ∃ messages chosen w', (e.recentMessages channel now).run w = (messages, w') ∧
      (apply e channel ranked now).run w = (chosen, w') ∧
      (∀ held, (w.caches e.number).fresh? e.cacheLimits channel now = some held →
        messages = held ∧ w' = w) ∧
      ∀ other, Fair (e.rule.cooling · now) e.config.coordination.diversityWindow
        e.config.coordination.fallbackScoreThresholds messages ranked other ↔ other = chosen := by
  rcases hrun : (e.recentMessages channel now).run w with ⟨messages, w'⟩
  have happly : (apply e channel ranked now).run w =
      (allowed (e.rule.cooling · now) e.config.coordination.fallbackScoreThresholds
        ((messages.take e.config.coordination.diversityWindow).map Message.authorId) ranked, w') := by
    have hauthors : (e.recentAuthors channel e.config.coordination.diversityWindow now).run w =
        ((messages.take e.config.coordination.diversityWindow).map Message.authorId, w') := by
      unfold Engine.recentAuthors
      rw [run_bind_of hrun]
      rfl
    unfold apply
    rw [run_bind_of hauthors]
    rfl
  refine ⟨messages, _, w', rfl, happly, ?_, fun other => ⟨?_, ?_⟩⟩
  · intro held hheld
    rw [run_recentMessages_of_held hheld] at hrun
    obtain ⟨rfl, rfl⟩ := Prod.mk.inj hrun
    exact ⟨rfl, rfl⟩
  · intro hother
    exact (allowed_fair hwindow).unique hids hother
  · rintro rfl
    exact allowed_fair hwindow

/-- Bob wrote the last message and ada the one before it. -/
def exchange : List Message :=
  [.fromAvatar "m2" "lobby" "bob" "so do I" 900, .fromAvatar "m1" "lobby" "ada" "I like rust" 800]

/-- A world in which the cache of the first engine holds them. -/
def exchangeCached : World Unit := { (default : World Unit) with caches := fun _ => ⟨[⟨"lobby", exchange, 950⟩]⟩ }

/-- Ada before bob, and before cyd, who is cooling down. -/
def shortlist : List Ranked :=
  [⟨.fresh "lobby" "ada" 0, 0.4⟩, ⟨.fresh "lobby" "bob" 0, 0.35⟩,
    ⟨{ Record.fresh "lobby" "cyd" 0 with cooldownUntil := some 2000 }, 0.2⟩]

/-- None of the three is rested, and ada may go on. With nobody cooling down it is cyd's turn. -/
theorem apply_chooses_fairly_fallback :
    let e : Engine Unit := .standard (.plain [] "")
    1 ≤ e.config.coordination.diversityWindow ∧ (shortlist.map Ranked.avatarId).Nodup ∧
      ((apply e "lobby" shortlist 1000).run exchangeCached).1.map Ranked.avatarId = ["ada"] ∧
      ((apply e "lobby" shortlist 2000).run exchangeCached).1.map Ranked.avatarId = ["cyd"] ∧
      Fair (e.rule.cooling · 1000) 3 e.config.coordination.fallbackScoreThresholds exchange shortlist
        ((apply e "lobby" shortlist 1000).run exchangeCached).1 := by
  intro e
  have hwindow : 1 ≤ e.config.coordination.diversityWindow := by decide
  have hids : (shortlist.map Ranked.avatarId).Nodup := by decide
  obtain ⟨messages, chosen, w', -, happly, hheld, hfair⟩ :=
    apply_chooses_fairly e "lobby" shortlist 1000 exchangeCached hwindow hids
  obtain ⟨rfl, -⟩ := hheld exchange (by decide +kernel)
  refine ⟨hwindow, hids, by decide +kernel, by decide +kernel, ?_⟩
  rw [happly]
  exact (hfair chosen).mpr rfl

end TurnTaking.Diversity
