import TurnTaking.Proofs.Engine.Course
import TurnTaking.Proofs.Engine.Selection

/-!
# The first tier — a selection writes what its tier writes

The tiers are tried in the order of the cascade. As long as whoever is consulted leaves no trace
(`Engine.Consulted`), a tier that selects nobody leaves none either, whether it passes or fails: a summon is
spent, a mention is noted and a preference is refreshed only for somebody who is selected (`run_select`). So
all that is written while responders are selected is written by the first tier that selects anybody
(`first_tier_decides`).
-/

namespace TurnTaking

open Store Store.Access

variable {σ μ : Type}

/-! ## What is written when somebody is selected -/

/-- Mentions of avatars are noted one after another. -/
def Store.Tables.mentioning (channel : String) (now : Int) (t : Tables) (avatar : String) : Tables :=
  { t with
    presence := t.presence.map (Table.put PresenceRow.key
      { Presence.blankRow channel avatar .present now with lastMentionedAt := some now }
      fun r => { r with lastMentionedAt := some now, updatedAt := now }) }

/-- From one tables to others, one credit of each avatar is spent, one after another, and nothing else is
changed. -/
inductive Spends (channel : String) : List String → Tables → Tables → Prop
  | nil (t : Tables) : Spends channel [] t t
  | cons {t t' : Tables} {rows : List PresenceRow} {avatar : String} {rest : List String} :
      t.presence = some rows → rows.countP (Presence.owes channel avatar) = 1 →
      Spends channel rest { t with presence := some (rows.map (Presence.spendFrom channel avatar)) } t' →
      Spends channel (avatar :: rest) t t'

/-- Where nobody spent anything the tables are the same. -/
theorem Spends.eq_of_nil {channel : String} {t t' : Tables} (h : Spends channel [] t t') : t' = t := by
  cases h
  rfl

/-- The tables are as they were, and so is what is remembered outside of whom people prefer. -/
structure Untouched (memory : σ → μ) (w w' : World σ) : Prop where
  tables : w'.store.tables = w.store.tables
  memory : memory w'.outside = memory w.outside
  failures : w.store.failures ≤ w'.store.failures

/-- The call is one that a tier may make before it selects anybody. -/
def Call.Consults : Call → Prop
  | .fetchRecent .. | .relocate .. | .getAvatar .. | .shouldRespond .. | .preferred .. => True
  | _ => False

/-- Whoever is consulted leaves the tables alone, and the memory of whom people prefer. The services may
fail all the same, and what they do when they are told of a preference is left open. -/
structure Engine.Consulted (e : Engine σ) (memory : σ → μ) : Prop where
  consulting : ∀ call, call.Consults → ∀ w, Untouched memory w (e.outside.after call w)
  preferring : ∀ channel user avatar ttl w,
    w.store.failures ≤ (e.outside.after (.prefer channel user avatar ttl) w).store.failures

namespace Tier

/-- Of the tiers that are tried one after another, each does not apply, passes or fails. -/
inductive TriedInVain (e : Engine σ) (s : Situation) : List Tier → World σ → World σ → Prop
  | none (w : World σ) : TriedInVain e s [] w w
  | skipped {t : Tier} {rest : List Tier} {w w' : World σ} :
      t.appliesTo e.config.coordination s.trigger = false → TriedInVain e s rest w w' →
      TriedInVain e s (t :: rest) w w'
  | passed {t : Tier} {rest : List Tier} {w w₁ w' : World σ} :
      t.appliesTo e.config.coordination s.trigger = true →
      (t.select e s).run.run w = (.ok [], w₁) → TriedInVain e s rest w₁ w' →
      TriedInVain e s (t :: rest) w w'
  | failed {t : Tier} {rest : List Tier} {fault : Fault} {w w₁ w' : World σ} :
      t.appliesTo e.config.coordination s.trigger = true →
      (t.select e s).run.run w = (.error fault, w₁) → TriedInVain e s rest w₁ w' →
      TriedInVain e s (t :: rest) w w'

/-- The person whose message is answered is made to prefer an avatar, in a world as it was. -/
def Prefers (e : Engine σ) (s : Situation) (avatar : String) (w w' : World σ) : Prop :=
  ∃ user, s.humanAuthor = some user ∧
    w' = e.outside.after (.prefer s.channelId user avatar e.config.coordination.affinityTtlMs) w

/-- What a tier writes for those that it picks, and no more than that. -/
def Writes (e : Engine σ) (s : Situation) (memory : σ → μ) (picks : List Selection) (w w' : World σ) :
    Tier → Prop
  | .summon =>
    Spends s.channelId (picks.map (·.avatar.id)) w.store.tables w'.store.tables ∧
      memory w'.outside = memory w.outside
  | .affinity => ∃ a v, picks = [.plain a .affinity] ∧ Untouched memory w v ∧ Prefers e s a.id v w'
  | .mention => ∃ v,
    v.store.tables =
        (picks.map (·.avatar.id)).foldl (Tables.mentioning s.channelId s.now) w.store.tables ∧
      memory v.outside = memory w.outside ∧
      ((s.humanAuthor = none ∧ w' = v) ∨
        ∃ first, picks.head? = some first ∧ Prefers e s first.avatar.id v w')
  | _ => Untouched memory w w'

end Tier

/-! ## Consulting -/

namespace Untouched

variable {memory : σ → μ}

theorem calm : Calm id (Untouched memory) where
  refl _ := ⟨rfl, rfl, Nat.le_refl _⟩
  trans h h' := ⟨h'.tables.trans h.tables, h'.memory.trans h.memory, Nat.le_trans h.failures h'.failures⟩
  unseen hstore hstill := by
    constructor
    · exact hstore.view
    · rw [hstill.outside]
    · exact hstore.failures

end Untouched

/-- The engine with other ears: nobody else is called while tiers select. -/
def Engine.selecting (e : Engine σ) (prefer : String → String → String → Int → Try σ Unit) : Engine σ :=
  { e with
    outside := { e.outside with
      generate := fun _ _ _ _ => return none
      send := fun _ _ _ => return ""
      listAvatars := fun _ => return []
      touch := fun _ _ => return
      prefer := prefer } }

namespace Tier

variable {e : Engine σ} {s : Situation}

/-- The tier makes people prefer whom it selects. -/
def MakesPreferred : Tier → Prop
  | .affinity | .mention => True
  | _ => False

/-- The last tier records no preference. -/
theorem firstAccepted_selecting (prefer : String → String → String → Int → Try σ Unit)
    (ranked : List Presence.Ranked) :
    firstAccepted (e.selecting prefer) s ranked = firstAccepted e s ranked := by
  induction ranked with
  | nil => rfl
  | cons r rest ih =>
    unfold firstAccepted
    rw [ih]
    rfl

/-- Other services than those that are consulted do not matter to a tier. -/
theorem select_selecting {t : Tier} {prefer : String → String → String → Int → Try σ Unit}
    (h : t.MakesPreferred → prefer = e.outside.prefer) :
    t.select (e.selecting prefer) s = t.select e s := by
  cases t with
  | affinity | mention =>
    rw [h trivial]
    rfl
  | legacy => exact firstAccepted_selecting _ _
  | reply | thread | summon | activeSpeaker | presence => rfl

/-- Tiers that may record preferences as before select as before. -/
theorem selectFirst_selecting (tiers : List Tier) :
    selectFirst (e.selecting e.outside.prefer) s tiers = selectFirst e s tiers := by
  induction tiers with
  | nil => rfl
  | cons t rest ih =>
    unfold selectFirst
    rw [select_selecting fun _ => rfl, ih]
    rfl

end Tier

namespace Engine.Consulted

variable {e : Engine σ} {memory : σ → μ} (h : e.Consulted memory)

include h

/-- As long as nobody is made preferred, whoever is called leaves no trace. -/
theorem attended : (e.selecting fun _ _ _ _ => return).Attended id (Untouched memory) where
  toCalm := Untouched.calm
  service call _ w := by
    cases call with
    | generate | send | listAvatars | touch | prefer => exact Untouched.calm.refl w
    | fetchRecent channel count => exact h.consulting (.fetchRecent channel count) trivial w
    | relocate avatar channel => exact h.consulting (.relocate avatar channel) trivial w
    | getAvatar id => exact h.consulting (.getAvatar id) trivial w
    | shouldRespond channel avatar message =>
      exact h.consulting (.shouldRespond channel avatar message) trivial w
    | preferred channel user => exact h.consulting (.preferred channel user) trivial w

/-- A call of whoever is consulted leaves no trace, whatever comes of it. -/
theorem asked {α : Type} {a : Try σ α} {x : Except Fault α} {w w' : World σ} (call : Call)
    (hcall : call.Consults) (hafter : e.outside.after call w = (a.run.run w).2)
    (hrun : a.run.run w = (x, w')) : Untouched memory w w' := by
  have hkept := h.consulting call hcall w
  rw [hafter, hrun] at hkept
  exact hkept

/-- No failure is forgotten, whoever is called. -/
theorem counting : (e.selecting e.outside.prefer).Aided (fun _ => ())
    fun w w' => w.store.failures ≤ w'.store.failures where
  refl _ := Nat.le_refl _
  trans := Nat.le_trans
  unseen hstore _ := hstore.failures
  guiding := SideTables.unseen.guiding
  spending := Presence.consumeSummon_frames SideTables.unseen.presence
  service call hcall w := by
    cases call with
    | generate => exact absurd trivial hcall
    | send | listAvatars | touch => exact Nat.le_refl _
    | prefer channel user avatar ttl => exact h.preferring channel user avatar ttl w
    | fetchRecent channel count => exact (h.attended.service (.fetchRecent channel count) id w).failures
    | relocate avatar channel => exact (h.attended.service (.relocate avatar channel) id w).failures
    | getAvatar id => exact (h.attended.service (.getAvatar id) (fun h => h) w).failures
    | shouldRespond channel avatar message =>
      exact (h.attended.service (.shouldRespond channel avatar message) id w).failures
    | preferred channel user => exact (h.attended.service (.preferred channel user) id w).failures

theorem select_failures {s : Situation} {t : Tier} {x : Except Fault (List Selection)} {w w' : World σ}
    (hrun : (t.select e s).run.run w = (x, w')) : w.store.failures ≤ w'.store.failures := by
  have hcounted := h.counting.select s t w
  rw [Tier.select_selecting fun _ => rfl, hrun] at hcounted
  exact hcounted

theorem selectFirst_failures {s : Situation} {tiers : List Tier} {picks : List Selection} {w w' : World σ}
    (hrun : (Tier.selectFirst e s tiers).run w = (picks, w')) :
    w.store.failures ≤ w'.store.failures := by
  have hcounted := h.counting.selectFirst s tiers w
  rw [Tier.selectFirst_selecting, hrun] at hcounted
  exact hcounted

end Engine.Consulted

namespace Tier

variable {e : Engine σ} {memory : σ → μ} {s : Situation} {x : Except Fault (List Selection)}
  {w w' : World σ}

/-! ## Tiers that write only where they select -/

/-- Nobody is selected, and no trace is left. -/
structure Vain (memory : σ → μ) (x : Except Fault (List Selection)) (w w' : World σ) : Prop where
  untouched : Untouched memory w w'
  nobody : ∀ picks, x = .ok picks → picks = []

/-- A tier that selected nobody was tried in vain. -/
theorem Vain.passed (h : Untouched memory w w') : Vain memory (.ok []) w w' := by
  refine ⟨h, fun picks hpicks => ?_⟩
  exact (Except.ok.inj hpicks).symm

/-- A tier that failed was tried in vain. -/
theorem Vain.failed {fault : Fault} (h : Untouched memory w w') : Vain memory (.error fault) w w' := by
  refine ⟨h, fun picks hpicks => ?_⟩
  cases hpicks

/-- The preference of a person is refreshed for the avatar that is selected by it. -/
theorem run_selectAffinity (h : e.Consulted memory) (hrun : (selectAffinity e s).run.run w = (x, w')) :
    Vain memory x w w' ∨
      ∃ picks, x = .ok picks ∧ picks ≠ [] ∧ Tier.affinity.Writes e s memory picks w w' := by
  unfold selectAffinity at hrun
  split at hrun
  · rename_i user huser
    rcases run_tryBind hrun with ⟨found, v, hfound, hrest⟩ | ⟨f, hfound, rfl⟩
    · have hasked := h.asked (.preferred s.channelId user) trivial rfl hfound
      split at hrest
      · split at hrest
        · rename_i a _
          extract_lets choose at hrest
          -- however it was agreed on, from here on only the agreement matters
          have hchoose : ∀ agreed v', Untouched memory w v' →
              (choose agreed).run.run v' = (x, w') → Vain memory x w w' ∨
                ∃ picks, x = .ok picks ∧ picks ≠ [] ∧ Tier.affinity.Writes e s memory picks w w' := by
            intro agreed v' hv' hend
            simp only [choose] at hend
            split at hend
            · obtain ⟨_, v'', hprefer, hend⟩ := run_tryLift hend
              obtain ⟨rfl, rfl⟩ := Prod.mk.inj hend
              refine Or.inr ⟨_, rfl, List.cons_ne_nil _ _, a, v', rfl, hv', user, huser, ?_⟩
              exact (congrArg Prod.snd hprefer).symm
            · obtain ⟨rfl, rfl⟩ := Prod.mk.inj hend
              exact Or.inl (.passed hv')
          split at hrest
          · exact hchoose true v hasked hrest
          · rcases run_tryBind hrest with ⟨agreed, v', hagreed, hend⟩ | ⟨f, hagreed, rfl⟩
            · have hjudged := h.asked (.shouldRespond s.channelId a s.message) trivial rfl hagreed
              exact hchoose agreed v' (Untouched.calm.trans hasked hjudged) hend
            · have hjudged := h.asked (.shouldRespond s.channelId a s.message) trivial rfl hagreed
              exact Or.inl (.failed (Untouched.calm.trans hasked hjudged))
        · obtain ⟨rfl, rfl⟩ := Prod.mk.inj hrest
          exact Or.inl (.passed hasked)
      · obtain ⟨rfl, rfl⟩ := Prod.mk.inj hrest
        exact Or.inl (.passed hasked)
    · exact Or.inl (.failed (h.asked (.preferred s.channelId user) trivial rfl hfound))
  · obtain ⟨rfl, rfl⟩ := Prod.mk.inj hrun
    exact Or.inl (.passed (Untouched.calm.refl _))

/-- Each avatar is noted as mentioned, where no statement fails. -/
theorem run_noteMentions (avatars : List Avatar) (w : World σ) :
    ∃ store, (noteMentions s avatars : Act σ Unit).run w = ((), { w with store := store }) ∧
      w.store.failures ≤ store.failures ∧ (store.failures = w.store.failures → store.tables =
        (avatars.map Avatar.id).foldl (Tables.mentioning s.channelId s.now) w.store.tables) := by
  induction avatars generalizing w with
  | nil => exact ⟨w.store, rfl, Nat.le_refl _, fun _ => rfl⟩
  | cons a rest ih =>
    let noted := (Presence.recordMention s.channelId a.id s.now).after w.store
    obtain ⟨store, hrest, hle, hnoted⟩ := ih { w with store := noted }
    have hfirst : (Presence.recordMention s.channelId a.id s.now).Runs w.store _ noted := runs_after _ _
    refine ⟨store, hrest, ?_⟩
    rcases runs_change hfirst with ⟨rows, hrows, -, htables, hfailures⟩ | ⟨-, hfault⟩
    · refine ⟨hfailures ▸ hle, fun hf => ?_⟩
      have hmentioned : noted.tables = w.store.tables.mentioning s.channelId s.now a.id := by
        have hpresence : w.store.tables.presence = some rows := hrows
        rw [htables, Tables.mentioning, hpresence]
        rfl
      rw [hnoted (hf.trans hfailures.symm), hmentioned]
      rfl
    · have hlost := hfault.failures
      have hle' : noted.failures ≤ store.failures := hle
      exact ⟨by omega, fun hf => by omega⟩

/-- The avatars that a message names are noted as mentioned, and the first of them is preferred. -/
theorem run_selectMention (h : e.Consulted memory) (hrun : (selectMention e s).run.run w = (x, w'))
    (hf : w'.store.failures = w.store.failures) :
    Vain memory x w w' ∨
      ∃ picks, x = .ok picks ∧ picks ≠ [] ∧ Tier.mention.Writes e s memory picks w w' := by
  unfold selectMention at hrun
  split at hrun
  · extract_lets named at hrun
    split at hrun
    · -- somebody is mentioned: that is noted, and then the author prefers the first of them
      rename_i first hfirst
      obtain ⟨store, hnoted, hle, hmentioned⟩ := run_noteMentions (s := s) named w
      rw [run_tryLift_ok hnoted] at hrun
      have hpicks : named.map (Selection.plain · .mention) ≠ [] := by
        intro hnil
        rw [List.map_eq_nil_iff.mp hnil] at hfirst
        cases hfirst
      have hids : (named.map (Selection.plain · .mention)).map (·.avatar.id) = named.map Avatar.id := by
        rw [List.map_map]
        rfl
      split at hrun
      · rename_i user huser
        obtain ⟨_, v, hprefer, hend⟩ := run_tryLift hrun
        obtain ⟨rfl, rfl⟩ := Prod.mk.inj hend
        have hafter : e.outside.after (.prefer s.channelId user first.id
            e.config.coordination.affinityTtlMs) { w with store := store } = v :=
          congrArg Prod.snd hprefer
        have hle' : store.failures ≤ v.store.failures := by
          rw [← hafter]
          exact h.preferring s.channelId user first.id _ { w with store := store }
        refine Or.inr ⟨_, rfl, hpicks, { w with store := store }, ?_, rfl, Or.inr
          ⟨.plain first .mention, ?_, user, huser, hafter.symm⟩⟩
        · rw [hids]
          exact hmentioned (by omega)
        · rw [List.head?_map, hfirst]
          rfl
      · -- nobody wrote the message who could prefer anyone
        rename_i hnone
        obtain ⟨rfl, rfl⟩ := Prod.mk.inj hrun
        have hauthor : s.humanAuthor = none := by
          cases hauthor : s.humanAuthor with
          | none => rfl
          | some user => exact absurd hauthor (hnone user)
        refine Or.inr ⟨_, rfl, hpicks, { w with store := store }, ?_, rfl, Or.inl ⟨hauthor, rfl⟩⟩
        rw [hids]
        exact hmentioned hf
    · -- nobody is mentioned
      obtain ⟨rfl, rfl⟩ := Prod.mk.inj hrun
      exact Or.inl (.passed (Untouched.calm.refl _))
  · obtain ⟨rfl, rfl⟩ := Prod.mk.inj hrun
    exact Or.inl (.passed (Untouched.calm.refl _))

/-- Asked for a credit of an avatar, a store whose rows are under keys of their own spends just one, if it has
one, and is left as it was, if it has none. -/
theorem runs_consumeSummon_spends {channel avatar : String} {spent : Except Fault Bool} {u v : Store}
    (hkeyed : u.tables.PresenceKeyed) (h : (Presence.consumeSummon channel avatar).Runs u spent v) :
    (v.failures = u.failures ∧ v.tables.PresenceKeyed ∧
      ((spent = .ok true ∧
          ∀ rest t, Spends channel rest v.tables t → Spends channel (avatar :: rest) u.tables t) ∨
        spent = .ok false ∧ v.tables = u.tables)) ∨
      (∃ f, spent = .error f) ∧ u.failures < v.failures := by
  rcases Presence.runs_consumeSummon_rows h with ⟨rows, hrows, rfl, htables, hfailures⟩ | ⟨hx, hfault⟩
  · have hrowsKeyed : (rows.map PresenceRow.key).Nodup := by
      rwa [Tables.PresenceKeyed, hrows, Option.getD_some] at hkeyed
    have hkeyed' : v.tables.PresenceKeyed := by
      rw [htables, Tables.PresenceKeyed, Option.getD_some,
        Table.map_key (Presence.spendFrom_key channel avatar)]
      exact hrowsKeyed
    refine Or.inl ⟨hfailures, hkeyed', ?_⟩
    by_cases hone : rows.countP (Presence.owes channel avatar) = 1
    · refine Or.inl ⟨congrArg Except.ok (decide_eq_true hone), fun rest t hspends => ?_⟩
      exact .cons hrows hone (htables ▸ hspends)
    · have hnone : rows.countP (Presence.owes channel avatar) = 0 := by
        have hmost : rows.countP (Presence.owes channel avatar) ≤ 1 := Presence.countP_owes_le hrowsKeyed
        omega
      refine Or.inr ⟨congrArg Except.ok (decide_eq_false hone), ?_⟩
      rw [htables, Presence.map_spendFrom hnone, ← hrows]
  · exact Or.inr ⟨hx, hfault.failures⟩

/-- The credits of ranked avatars are spent in a store whose rows are under keys of their own: one for each
avatar that is selected, and no other. -/
theorem run_spendCredits {ranked : List Presence.Ranked} {limit : Nat}
    (hcovered : ∀ r ∈ ranked, (s.eligibleAvatar r.avatarId).isSome)
    (hkeyed : w.store.tables.PresenceKeyed)
    (hrun : (spendCredits s limit ranked : Try σ _).run.run w = (x, w')) :
    w.store.failures ≤ w'.store.failures ∧ (w'.store.failures = w.store.failures →
      ∃ picks store, x = .ok picks ∧ w' = { w with store := store } ∧
        Spends s.channelId (picks.map (·.avatar.id)) w.store.tables store.tables) := by
  have hnobody : ∀ {w w' : World σ} {x : Except Fault (List Selection)},
      ((.ok [] : Except Fault (List Selection)), w) = (x, w') →
      w.store.failures ≤ w'.store.failures ∧ (w'.store.failures = w.store.failures →
        ∃ picks store, x = .ok picks ∧ w' = { w with store := store } ∧
          Spends s.channelId (picks.map (·.avatar.id)) w.store.tables store.tables) := by
    intro w w' x hend
    obtain ⟨rfl, rfl⟩ := Prod.mk.inj hend
    exact ⟨Nat.le_refl _, fun _ => ⟨[], w.store, rfl, rfl, .nil _⟩⟩
  -- on the ranked avatars, with whatever limit and world are left for them
  induction ranked generalizing limit x w w' with
  | nil => cases limit <;> exact hnobody hrun
  | cons r rest ih =>
    have hcovered' : ∀ r ∈ rest, (s.eligibleAvatar r.avatarId).isSome := by
      intro r' hr'
      exact hcovered r' (List.mem_cons_of_mem _ hr')
    cases limit with
    | zero => exact hnobody hrun
    | succ limit =>
      unfold spendCredits at hrun
      rcases run_tryBind hrun with ⟨spent, w₁, hspend, hrest⟩ | ⟨f, hspend, rfl⟩
      · obtain ⟨s₁, hruns, rfl⟩ := run_onStore hspend
        rcases runs_consumeSummon_spends hkeyed hruns with
          ⟨hfailures, hkeyed', ⟨hspent, hspends⟩ | ⟨hspent, hsame⟩⟩ | ⟨⟨_, he⟩, -⟩
        · -- a credit was spent, and the avatar is there to be selected
          obtain rfl := Except.ok.inj hspent
          obtain ⟨a, hid, hselected⟩ := selectRanked_of_covered .summon (hcovered r List.mem_cons_self)
          simp only [if_true, hselected] at hrest
          rcases run_tryBind hrest with ⟨more, w₂, hmore, hend⟩ | ⟨f, hmore, rfl⟩
          · -- the avatars behind it spend theirs
            obtain ⟨rfl, rfl⟩ := Prod.mk.inj
              (show ((.ok (.plain a .summon :: more) : Except Fault _), w₂) = (x, w') from hend)
            obtain ⟨hle, hlater⟩ := ih hcovered' hkeyed' hmore
            refine ⟨hfailures ▸ hle, fun hf => ?_⟩
            obtain ⟨_, store, hx, rfl, hrestSpends⟩ := hlater (hf.trans hfailures.symm)
            obtain rfl := Except.ok.inj hx
            refine ⟨_, store, rfl, rfl, ?_⟩
            rw [List.map_cons, show (Selection.plain a .summon).avatar.id = r.avatarId from hid]
            exact hspends _ _ hrestSpends
          · -- a statement failed behind it, and was counted
            obtain ⟨hle, hlater⟩ := ih hcovered' hkeyed' hmore
            refine ⟨hfailures ▸ hle, fun hf => ?_⟩
            obtain ⟨_, _, hx, -⟩ := hlater (hf.trans hfailures.symm)
            cases hx
        · -- there was none to spend
          obtain rfl := Except.ok.inj hspent
          simp only [Bool.false_eq_true, if_false] at hrest
          obtain ⟨hle, hlater⟩ := ih hcovered' hkeyed' hrest
          refine ⟨hfailures ▸ hle, fun hf => ?_⟩
          obtain ⟨picks, store, hx, hw, hrestSpends⟩ := hlater (hf.trans hfailures.symm)
          exact ⟨picks, store, hx, hw, hsame ▸ hrestSpends⟩
        · cases he
      · -- the statement itself failed
        obtain ⟨s₁, hruns, rfl⟩ := run_onStore hspend
        rcases runs_consumeSummon_spends hkeyed hruns with ⟨-, -, ⟨he, -⟩ | ⟨he, -⟩⟩ | ⟨-, hlost⟩
        · cases he
        · cases he
        · exact ⟨Nat.le_of_lt hlost, fun hf => absurd hf (Nat.ne_of_gt hlost)⟩

/-! ## Any tier -/

/-- A tier that selects nobody leaves no trace, and one that selects anybody writes what is its own. -/
theorem run_select (h : e.Consulted memory) (hs : s.Covered) (hkeyed : w.store.tables.PresenceKeyed)
    {t : Tier} (hrun : (t.select e s).run.run w = (x, w'))
    (hf : w'.store.failures = w.store.failures) :
    Vain memory x w w' ∨ ∃ picks, x = .ok picks ∧ picks ≠ [] ∧ t.Writes e s memory picks w w' := by
  -- where nothing is written anyway, it does not matter whether anybody is selected
  have hasks : ¬ t.MakesPreferred → t ≠ .summon → t ≠ .mention →
      (Untouched memory w w' → ∀ picks, t.Writes e s memory picks w w') →
      Vain memory x w w' ∨ ∃ picks, x = .ok picks ∧ picks ≠ [] ∧ t.Writes e s memory picks w w' := by
    intro hpreferred hsummon hmention hwrites
    have huntouched := h.attended.select hsummon hmention s w
    rw [select_selecting fun hmakes => absurd hmakes hpreferred, hrun] at huntouched
    rcases x with f | picks
    · exact Or.inl (.failed huntouched)
    · by_cases hpicks : picks = []
      · subst hpicks
        exact Or.inl (.passed huntouched)
      · exact Or.inr ⟨picks, rfl, hpicks, hwrites huntouched picks⟩
  cases t with
  | summon =>
    obtain ⟨picks, store, rfl, rfl, hspends⟩ := (run_spendCredits (covered_summons hs) hkeyed hrun).2 hf
    by_cases hpicks : picks = []
    · subst hpicks
      exact Or.inl (.passed ⟨hspends.eq_of_nil, rfl, Nat.le_of_eq hf.symm⟩)
    · exact Or.inr ⟨picks, rfl, hpicks, hspends, rfl⟩
  | affinity => exact run_selectAffinity h hrun
  | mention => exact run_selectMention h hrun hf
  | reply | thread | activeSpeaker | presence | legacy =>
    exact hasks id (by decide) (by decide) fun huntouched _ => huntouched

/-! ## Tiers in their order -/

/-- Of tiers that are tried in their order, some were tried in vain and left no trace. Either these were all of
them, and nobody was selected, or the next one selected and wrote what is its own. -/
def Decided (e : Engine σ) (s : Situation) (memory : σ → μ) (tiers : List Tier) (picks : List Selection)
    (w w' : World σ) : Prop :=
  ∃ tried w₁, TriedInVain e s tried w w₁ ∧ Untouched memory w w₁ ∧
    ((tried = tiers ∧ picks = [] ∧ w' = w₁) ∨
      ∃ t behind, tiers = tried ++ t :: behind ∧
        t.appliesTo e.config.coordination s.trigger = true ∧ picks ≠ [] ∧
        (t.select e s).run.run w₁ = (.ok picks, w') ∧ t.Writes e s memory picks w₁ w')

/-- One more tier may be tried in vain before. -/
theorem Decided.after_vain {t : Tier} {tiers : List Tier} {picks : List Selection} {v : World σ}
    (hvain : ∀ tried w₁, TriedInVain e s tried v w₁ → TriedInVain e s (t :: tried) w w₁)
    (huntouched : Untouched memory w v) (h : Decided e s memory tiers picks v w') :
    Decided e s memory (t :: tiers) picks w w' := by
  obtain ⟨tried, w₁, htried, hrest, hend⟩ := h
  refine ⟨t :: tried, w₁, hvain tried w₁ htried, Untouched.calm.trans huntouched hrest, ?_⟩
  rcases hend with ⟨rfl, hpicks, hw⟩ | ⟨t', behind, rfl, hend⟩
  · exact Or.inl ⟨rfl, hpicks, hw⟩
  · exact Or.inr ⟨t', behind, rfl, hend⟩

/-- The first tier that selects anybody decides. -/
theorem run_selectFirst (h : e.Consulted memory) (hs : s.Covered)
    (hkeyed : w.store.tables.PresenceKeyed) {tiers : List Tier} {picks : List Selection}
    (hrun : (selectFirst e s tiers).run w = (picks, w'))
    (hf : w'.store.failures = w.store.failures) : Decided e s memory tiers picks w w' := by
  induction tiers generalizing w with
  | nil =>
    obtain ⟨rfl, rfl⟩ := Prod.mk.inj (show (([] : List Selection), w) = (picks, w') from hrun)
    exact ⟨[], w, .none w, Untouched.calm.refl w, Or.inl ⟨rfl, rfl, rfl⟩⟩
  | cons t rest ih =>
    unfold selectFirst at hrun
    by_cases happlies : t.appliesTo e.config.coordination s.trigger = true
    · rw [if_pos happlies] at hrun
      rcases hselect : (t.select e s).run.run w with ⟨x, v⟩
      rw [run_bind_of hselect] at hrun
      have hle := h.select_failures hselect
      -- where the next tiers are tried, this one was tried in vain
      have hnext (hnobody : ∀ picks, x = .ok picks → picks = [])
          (hrest : (selectFirst e s rest).run v = (picks, w')) :
          Decided e s memory (t :: rest) picks w w' := by
        have hle' := h.selectFirst_failures hrest
        have hfirst : Untouched memory w v := by
          rcases run_select h hs hkeyed hselect (by omega) with hvain | ⟨found, hx, hfound, -⟩
          · exact hvain.untouched
          · exact absurd (hnobody found hx) hfound
        have hkeyed' : v.store.tables.PresenceKeyed := hfirst.tables ▸ hkeyed
        refine .after_vain (fun tried w₁ hvain => ?_) hfirst (ih hkeyed' hrest (by omega))
        cases x with
        | error f => exact .failed happlies hselect hvain
        | ok found =>
          obtain rfl := hnobody found rfl
          exact .passed happlies hselect hvain
      rcases x with f | _ | ⟨pick, more⟩
      · -- the tier failed
        refine hnext (fun found hx => ?_) hrun
        cases hx
      · -- the tier selected nobody
        exact hnext (fun found hx => (Except.ok.inj hx).symm) hrun
      · -- the tier selected somebody, and the others are not tried
        obtain ⟨rfl, rfl⟩ := Prod.mk.inj (show (pick :: more, v) = (picks, w') from hrun)
        have hpicks : pick :: more ≠ [] := List.cons_ne_nil _ _
        rcases run_select h hs hkeyed hselect hf with hvain | ⟨found, hx, -, hwrites⟩
        · exact absurd (hvain.nobody _ rfl) hpicks
        · obtain rfl := Except.ok.inj hx
          exact ⟨[], w, .none w, Untouched.calm.refl w, Or.inr
            ⟨t, rest, rfl, happlies, hpicks, hselect, hwrites⟩⟩
    · rw [if_neg happlies] at hrun
      have hskipped : t.appliesTo e.config.coordination s.trigger = false := Bool.eq_false_iff.mpr happlies
      exact .after_vain (fun _ _ => .skipped hskipped) (Untouched.calm.refl w) (ih hkeyed hrun hf)

end Tier

/-- In whatever situation responders are selected, whoever is ranked being eligible, and whatever the services
do, as long as whoever is consulted writes nothing: where no statement fails, tiers are tried in the order of
the cascade until one that applies selects anybody. Those before it leave the tables and the preferences as
they were, those behind it are not tried, and it writes what is its own: the summons of those that it selects
are spent, the preference it follows is refreshed, the mentions it finds are noted. -/
theorem first_tier_decides {memory : σ → μ} {e : Engine σ} (h : e.Consulted memory) {s : Situation}
    (hs : s.Covered) {w w' : World σ} {picks : List Selection} (hkeyed : w.store.tables.PresenceKeyed)
    (hrun : (e.selectResponders s).run w = (picks, w'))
    (hf : w'.store.failures = w.store.failures) :
    ∃ tried w₁, Tier.TriedInVain e s tried w w₁ ∧
      w₁.store.tables = w.store.tables ∧ memory w₁.outside = memory w.outside ∧
      ((tried = Tier.cascade ∧ picks = [] ∧ w' = w₁) ∨
        ∃ t behind, Tier.cascade = tried ++ t :: behind ∧
          t.appliesTo e.config.coordination s.trigger = true ∧ picks ≠ [] ∧
          (t.select e s).run.run w₁ = (.ok picks, w') ∧ t.Writes e s memory picks w₁ w') := by
  obtain ⟨tried, w₁, hvain, huntouched, hend⟩ := Tier.run_selectFirst h hs hkeyed hrun hf
  exact ⟨tried, w₁, hvain, huntouched.tables, huntouched.memory, hend⟩

/-! ## A message that names someone -/

/-- Services that keep preferences in the store, do not know any avatar by its id, and judge nobody. -/
def Collaborators.forgetful : Collaborators Unit :=
  { Collaborators.plain Avatar.pair "hello" with
    getAvatar := fun _ => throw (.generation "no such avatar")
    preferred := Affinity.storedPreferred
    prefer := Affinity.storedPrefer }

/-- Forgetful services can be consulted. -/
theorem Collaborators.forgetful_consulted : (Engine.standard forgetful).Consulted (id : Unit → Unit) where
  consulting call hcall w := by
    cases call with
    | preferred channel user =>
      have hlooked : (Affinity.find? channel user w.clock).Frames id := .query _ _
      have hstore := hlooked _ _ _ (runs_after _ w.store)
      exact ⟨hstore.view, rfl, hstore.failures⟩
    | fetchRecent | relocate | getAvatar | shouldRespond => exact Untouched.calm.refl w
    | generate | send | listAvatars | touch | prefer => exact hcall.elim
  preferring channel user avatar ttl w := by
    have hwritten : (Affinity.set channel user avatar ttl w.clock).Frames fun _ => () :=
      .change (fun _ _ => rfl) _
    exact (hwritten _ _ _ (runs_after _ w.store)).failures

/-- Two avatars and a message that answers one and names the other. -/
def Situation.naming : Situation where
  channelId := "c"
  message := some ((Message.human "m" "c" "u" "Ada?" 0).replyingTo "x" (some "bob"))
  trigger := .mention
  eligible := Avatar.pair
  ranked := Avatar.pair.map fun a => ⟨.fresh "c" a.id 0, 0⟩
  now := 0

/-- The tier of replies fails, three tiers pass, and that of mentions notes what it found. -/
theorem first_tier_decides_naming :
    let e : Engine Unit := .standard .forgetful
    let w : World Unit := .ofTables .empty ()
    let picks := ((e.selectResponders .naming).run w).1
    let w' := ((e.selectResponders .naming).run w).2
    (∃ tried w₁, Tier.TriedInVain e .naming tried w w₁ ∧ w₁.store.tables = w.store.tables ∧
      Tier.mention.Writes e .naming id picks w₁ w') ∧
    w'.store.tables = { Tables.empty with
      presence := some
        [{ Presence.blankRow "c" "ada" .present 0 with lastMentionedAt := some (.number 0) }]
      affinities := some [⟨"c", "u", "ada", .number e.config.coordination.affinityTtlMs⟩] } := by
  intro e w picks w'
  have hcovered : Situation.naming.Covered := by
    show ∀ r ∈ Situation.naming.ranked, (Situation.naming.eligibleAvatar r.avatarId).isSome
    decide +kernel
  have hkeyed : w.store.tables.PresenceKeyed := List.Pairwise.nil
  have hrun : (e.selectResponders .naming).run w = (picks, w') := rfl
  have hf : w'.store.failures = w.store.failures := by decide +kernel
  have hpicks : picks.map Selection.tier = [.mention] := by decide +kernel
  refine ⟨?_, by decide +kernel⟩
  obtain ⟨tried, w₁, hvain, htables, -, hend⟩ :=
    first_tier_decides Collaborators.forgetful_consulted hcovered hkeyed hrun hf
  refine ⟨tried, w₁, hvain, htables, ?_⟩
  rcases hend with ⟨-, hnobody, -⟩ | ⟨t, behind, -, -, -, hselect, hwrites⟩
  · rw [hnobody] at hpicks
    cases hpicks
  · -- whoever is selected is marked as selected by the tier that did
    have hmarks : ∀ m ∈ picks.map Selection.tier, m = t := by
      intro m hm
      obtain ⟨pick, hpick, rfl⟩ := List.mem_map.mp hm
      exact Tier.select_marked t _ _ _ hselect pick hpick
    rw [hpicks] at hmarks
    obtain rfl := hmarks .mention List.mem_cons_self
    exact hwrites

end TurnTaking
