import TurnTaking.Proofs.Engine.Selection
import TurnTaking.Proofs.Engine.Sweep
import TurnTaking.Proofs.Preliminaries

/-!
# The selected — whom a coordination selects

Whatever a tier selects fits the situation and the tier (`Tier.select_fits`): nobody twice, never the author
of the message, and except for replies nobody who is not eligible. Since those are eligible whose records are
found present (`run_candidates_eligible`), and since the tier of presence cannot fail to select one of them
for a person, a coordination selects soundly, and somebody whenever a person has anybody to be answered by
(`selects_soundly`).
-/

namespace TurnTaking

open Store Store.Access

variable {σ : Type}

/-! ## What a tier may select -/

/-- The selection fits a situation and a tier. -/
structure Selection.Fits (p : Selection) (s : Situation) (t : Tier) : Prop where
  tier : p.tier = t
  author : s.authorId ≠ some p.avatar.id
  eligible : t ≠ .reply → p.avatar ∈ s.eligible
  overrides : p.overridesCooldown = true ↔ t = .reply
  token : p.threadToken.isSome = true ↔ t = .thread

/-- The selections fit, and nobody is selected twice. -/
structure Tier.Selects (t : Tier) (s : Situation) (picks : List Selection) : Prop where
  fits : ∀ p ∈ picks, p.Fits s t
  distinct : (picks.map (·.avatar.id)).Nodup

/-- In the situation, whoever is ranked is eligible, nobody is so twice, and the author of the message is
not. -/
structure Situation.Proper (s : Situation) : Prop where
  covered : s.Covered
  distinct : (s.eligible.map Avatar.id).Nodup
  ranked : (s.ranked.map Presence.Ranked.avatarId).Nodup
  author : ∀ a ∈ s.eligible, s.authorId ≠ some a.id

/-- Avatars are listed under ids of their own, and known by them. -/
structure Engine.Identifies (e : Engine σ) : Prop where
  listed : ∀ channel w avatars w',
    (e.outside.listAvatars channel).run.run w = (.ok avatars, w') → (avatars.map Avatar.id).Nodup
  known : ∀ id w a w', (e.outside.getAvatar id).run.run w = (.ok (some a), w') → a.id = id

namespace Mention

/-- The avatars that a text mentions are some of those that it could, nobody twice. -/
theorem mentionedAvatars_perm (text : String) (avatars : List Avatar) :
    (mentionedAvatars text avatars).Perm (avatars.filter (mentions text)) := by
  have hplaces : (avatars.filterMap fun a =>
      (firstMention (Text.lowercase text.toList) a).map fun place => (place, a)).map Prod.snd =
        avatars.filter (mentions text) := by
    induction avatars with
    | nil => rfl
    | cons a rest ih =>
      rw [List.filterMap_cons, List.filter_cons, mentions]
      cases firstMention (Text.lowercase text.toList) a with
      | none => simpa using ih
      | some place => simpa using ih
  rw [← hplaces]
  exact (List.mergeSort_perm _ notAfter).map Prod.snd

end Mention

namespace Tier

variable {e : Engine σ} {s : Situation}

theorem selects_nobody (t : Tier) : t.Selects s [] := by
  constructor
  · intro p hp
    cases hp
  · exact List.nodup_nil

theorem selects_one {t : Tier} {p : Selection} (h : p.Fits s t) : t.Selects s [p] := by
  constructor
  · intro p' hp'
    rwa [List.mem_singleton.mp hp']
  · exact List.pairwise_singleton _ _

/-- An eligible avatar is a plain selection of any tier but those of replies and threads. -/
theorem plain_fits (hs : s.Proper) {t : Tier} (hreply : t ≠ .reply) (hthread : t ≠ .thread) {a : Avatar}
    (ha : a ∈ s.eligible) : (Selection.plain a t).Fits s t where
  tier := rfl
  author := hs.author a ha
  eligible _ := ha
  overrides := by simp [Selection.plain, hreply]
  token := by simp [Selection.plain, hthread]

/-- An eligible avatar is found under its own id. -/
theorem mem_of_eligibleAvatar {id : String} {a : Avatar} (h : s.eligibleAvatar id = some a) :
    a ∈ s.eligible ∧ a.id = id := by
  have hid := List.find?_some h
  exact ⟨List.mem_of_find?_eq_some h, of_decide_eq_true hid⟩

/-- So is a ranked avatar, under its own id. -/
theorem ranked_fits (hs : s.Proper) {t : Tier} (hreply : t ≠ .reply) (hthread : t ≠ .thread)
    {r : Presence.Ranked} {p : Selection} (h : s.selectRanked t r = some p) :
    p.Fits s t ∧ p.avatar.id = r.avatarId := by
  obtain ⟨a, ha, rfl⟩ := Option.map_eq_some_iff.mp h
  obtain ⟨hmem, hid⟩ := mem_of_eligibleAvatar ha
  exact ⟨plain_fits hs hreply hthread hmem, hid⟩

/-- Who is replied to fits, if the services tell the avatars apart. -/
theorem selectReply_fits (h : e.Identifies) : Yields (Selects .reply s) (selectReply e s) := by
  unfold selectReply
  split
  · refine .bind fun sender => ?_
    split
    · rename_i id _
      split
      · -- nobody replies to themselves
        exact .pure (selects_nobody _)
      · rename_i hauthor
        have hknown : Yields (fun found => ∀ a, found = some a → a.id = id) (e.outside.getAvatar id) := by
          intro w found w' hrun a ha
          subst ha
          exact h.known id w a w' hrun
        refine .bindOf hknown fun found hid => ?_
        split
        · -- the avatar that was found has the id that was asked for
          rename_i a
          have hfits : ∀ channel : Option String, Selection.Fits
              { Selection.plain { a with channelId := channel } .reply with overridesCooldown := true }
              s .reply := by
            intro channel
            constructor
            · rfl
            · intro hsame
              apply hauthor
              rw [hsame]
              exact congrArg some (hid a rfl)
            · intro hreply
              exact absurd rfl hreply
            · simp
            · simp [Selection.plain]
          -- in the channel already, or moved there
          split
          · exact .pure (selects_one (hfits a.channelId))
          · exact .bind fun _ => .pure (selects_one (hfits (some s.channelId)))
        · exact .pure (selects_nobody _)
    · exact .pure (selects_nobody _)
  · exact .pure (selects_nobody _)

/-- Who is next in a thread fits. -/
theorem selectThread_fits (hs : s.Proper) : Yields (Selects .thread s) (selectThread s : Try σ _) := by
  refine .bind fun current => ?_
  split
  · split
    · split
      · exact .pure (selects_nobody _)
      · split
        · rename_i a ha
          have hmem := (mem_of_eligibleAvatar ha).1
          refine .pure (selects_one ?_)
          constructor
          · rfl
          · exact hs.author a hmem
          · intro _
            exact hmem
          · simp [Selection.plain]
          · simp
        · exact .pure (selects_nobody _)
    · exact .pure (selects_nobody _)
  · exact .pure (selects_nobody _)

/-- Who spends a credit fits, and stands where the ranking has them. -/
theorem spendCredits_fits (hs : s.Proper) (limit : Nat) (ranked : List Presence.Ranked) :
    Yields (fun picks => (∀ p ∈ picks, p.Fits s .summon) ∧
      (picks.map (·.avatar.id)).Sublist (ranked.map Presence.Ranked.avatarId))
      (spendCredits s limit ranked : Try σ _) := by
  have hnobody : ∀ ranked : List Presence.Ranked, (∀ p ∈ ([] : List Selection), p.Fits s .summon) ∧
      (([] : List Selection).map (·.avatar.id)).Sublist (ranked.map Presence.Ranked.avatarId) := by
    intro ranked
    simp
  induction ranked generalizing limit with
  | nil => cases limit <;> exact .pure (hnobody _)
  | cons r rest ih =>
    cases limit with
    | zero => exact .pure (hnobody _)
    | succ limit =>
      refine .bind fun spent => ?_
      split
      · -- a credit was spent: the pick stands before those that follow
        rename_i pick hpick
        have hfits : pick.Fits s .summon ∧ pick.avatar.id = r.avatarId := by
          cases spent with
          | true => exact ranked_fits hs (by decide) (by decide) hpick
          | false => cases hpick
        refine .bindOf (ih limit) fun more hmore => .pure ⟨?_, ?_⟩
        · intro p hp
          rcases List.mem_cons.mp hp with rfl | hp
          · exact hfits.1
          · exact hmore.1 p hp
        · rw [List.map_cons, List.map_cons, hfits.2]
          exact hmore.2.cons_cons _
      · -- no credit was spent, and the limit stays
        intro w picks w' hrun
        obtain ⟨hpicks, hsub⟩ := ih (limit + 1) w picks w' hrun
        exact ⟨hpicks, hsub.cons _⟩

/-- Whom the author prefers fits. -/
theorem selectAffinity_fits (hs : s.Proper) : Yields (Selects .affinity s) (selectAffinity e s) := by
  unfold selectAffinity
  split
  · refine .bind fun id => ?_
    split
    · split
      · rename_i a ha
        have hfits := plain_fits hs (t := .affinity) (by decide) (by decide) (mem_of_eligibleAvatar ha).1
        extract_lets choose
        have hchoose : ∀ agreed, Yields (Selects .affinity s) (choose agreed) := by
          intro agreed
          simp only [choose]
          split
          · exact .bind fun _ => .pure (selects_one hfits)
          · exact .pure (selects_nobody _)
        split
        · exact .bind hchoose
        · exact .bind hchoose
      · exact .pure (selects_nobody _)
    · exact .pure (selects_nobody _)
  · exact .pure (selects_nobody _)

/-- Eligible avatars without repetition are plain selections. -/
theorem plain_selects (hs : s.Proper) {t : Tier} (hreply : t ≠ .reply) (hthread : t ≠ .thread)
    {avatars : List Avatar} (hmem : ∀ a ∈ avatars, a ∈ s.eligible)
    (hdistinct : (avatars.map Avatar.id).Nodup) : t.Selects s (avatars.map (Selection.plain · t)) := by
  constructor
  · intro p hp
    obtain ⟨a, ha, rfl⟩ := List.mem_map.mp hp
    exact plain_fits hs hreply hthread (hmem a ha)
  · rw [List.map_map]
    exact hdistinct

/-- Who is mentioned fits. -/
theorem selectMention_fits (hs : s.Proper) : Yields (Selects .mention s) (selectMention e s) := by
  unfold selectMention
  split
  · rename_i m _
    extract_lets named
    have hselects : Selects .mention s (named.map (Selection.plain · .mention)) := by
      have hperm := Mention.mentionedAvatars_perm m.content s.eligible
      refine plain_selects hs (by decide) (by decide) ?_ ?_
      · intro a ha
        have hmentioned := hperm.mem_iff.mp (List.mem_filter.mp ha).1
        exact (List.mem_filter.mp hmentioned).1
      · have hids := hperm.map Avatar.id
        have hsome : ((s.eligible.filter (Mention.mentions m.content)).map Avatar.id).Nodup :=
          hs.distinct.sublist (List.filter_sublist.map _)
        exact (hids.nodup_iff.mpr hsome).sublist (List.filter_sublist.map _)
    split
    · refine .bind fun _ => ?_
      split
      · exact .bind fun _ => .pure hselects
      · exact .pure hselects
    · exact .pure (selects_nobody _)
  · exact .pure (selects_nobody _)

/-- Who has the floor fits. -/
theorem selectActiveSpeaker_fits (hs : s.Proper) :
    Yields (Selects .activeSpeaker s) (selectActiveSpeaker e s) := by
  unfold selectActiveSpeaker
  extract_lets candidate
  split
  · rename_i pick hpick
    obtain ⟨r, -, hr⟩ := Option.bind_eq_some_iff.mp hpick
    refine .bind fun agreed => ?_
    split
    · exact .pure (selects_one (ranked_fits hs (by decide) (by decide) hr).1)
    · exact .pure (selects_nobody _)
  · exact .pure (selects_nobody _)

theorem selectPresence_fits (hs : s.Proper) : Yields (Selects .presence s) (selectPresence e s) := by
  unfold selectPresence
  extract_lets choose
  have hchoose : ∀ picked, Yields (Selects .presence s) (choose picked) := by
    intro picked
    refine .pure ?_
    cases hpick : picked.bind (s.selectRanked .presence) with
    | none => exact selects_nobody _
    | some pick =>
      obtain ⟨r, -, hr⟩ := Option.bind_eq_some_iff.mp hpick
      exact selects_one (ranked_fits hs (by decide) (by decide) hr).1
  split
  · exact .bind fun _ => .bind hchoose
  · exact .bind hchoose

/-- Who accepts first fits. -/
theorem firstAccepted_fits (hs : s.Proper) (ranked : List Presence.Ranked) :
    Yields (Selects .legacy s) (firstAccepted e s ranked) := by
  induction ranked with
  | nil => exact .pure (selects_nobody _)
  | cons r rest ih =>
    unfold firstAccepted
    split
    · exact ih
    · rename_i a ha
      refine .bind fun agreed => ?_
      split
      · exact .pure (selects_one (plain_fits hs (by decide) (by decide) (mem_of_eligibleAvatar ha).1))
      · exact ih

/-- Whatever a tier selects fits the situation and the tier, and is nobody twice. -/
theorem select_fits (h : e.Identifies) (hs : s.Proper) (t : Tier) : Yields (t.Selects s) (t.select e s) := by
  cases t with
  | reply => exact selectReply_fits h
  | thread => exact selectThread_fits hs
  | summon =>
    intro w picks w' hrun
    obtain ⟨hfits, hsub⟩ := spendCredits_fits hs _ _ w picks w' hrun
    refine ⟨hfits, ?_⟩
    have hsorted := (List.mergeSort_perm (s.ranked.filter (·.record.hasSummonCredit)) bySummon).map
      Presence.Ranked.avatarId
    have hsome : ((s.ranked.filter (·.record.hasSummonCredit)).map Presence.Ranked.avatarId).Nodup :=
      hs.ranked.sublist (List.filter_sublist.map _)
    exact (hsorted.nodup_iff.mpr hsome).sublist hsub
  | affinity => exact selectAffinity_fits hs
  | mention => exact selectMention_fits hs
  | activeSpeaker => exact selectActiveSpeaker_fits hs
  | presence => exact selectPresence_fits hs
  | legacy => exact firstAccepted_fits hs _

/-! ## Tiers in their order -/

/-- Selections are those of a tier that applies. -/
theorem selectFirst_fits (h : e.Identifies) (hs : s.Proper) {tiers : List Tier} {picks : List Selection}
    {w w' : World σ} (hrun : (selectFirst e s tiers).run w = (picks, w')) :
    ∃ t : Tier, t.appliesTo e.config.coordination s.trigger = true ∧ t.Selects s picks := by
  induction tiers generalizing w with
  | nil =>
    obtain ⟨rfl, -⟩ := Prod.mk.inj hrun
    exact ⟨.reply, rfl, selects_nobody _⟩
  | cons t rest ih =>
    unfold selectFirst at hrun
    by_cases happlies : t.appliesTo e.config.coordination s.trigger = true
    · rw [if_pos happlies] at hrun
      rcases hselect : (t.select e s).run.run w with ⟨x, v⟩
      rw [run_bind_of hselect] at hrun
      rcases x with f | _ | ⟨pick, more⟩
      · exact ih hrun
      · exact ih hrun
      · obtain ⟨rfl, -⟩ := Prod.mk.inj hrun
        exact ⟨t, happlies, select_fits h hs t _ _ _ hselect⟩
    · rw [if_neg happlies] at hrun
      exact ih hrun

/-- If one of the tiers applies and selects somebody in any world, somebody is selected. -/
theorem selectFirst_ne_nil {t : Tier} (happlies : t.appliesTo e.config.coordination s.trigger = true)
    (hselects : ∀ w, ∃ pick more w', (t.select e s).run.run w = (.ok (pick :: more), w'))
    {tiers : List Tier} (ht : t ∈ tiers) (w : World σ) : ((selectFirst e s tiers).run w).1 ≠ [] := by
  induction tiers generalizing w with
  | nil => cases ht
  | cons t' rest ih =>
    unfold selectFirst
    by_cases hsame : t = t'
    · subst hsame
      obtain ⟨pick, more, w', hselect⟩ := hselects w
      rw [if_pos happlies, run_bind_of hselect]
      exact List.cons_ne_nil _ _
    · have hrest : t ∈ rest := (List.mem_cons.mp ht).resolve_left hsame
      by_cases happlies' : t'.appliesTo e.config.coordination s.trigger = true
      · rw [if_pos happlies']
        rcases hselect : (t'.select e s).run.run w with ⟨x, v⟩
        rw [run_bind_of hselect]
        rcases x with f | _ | ⟨pick, more⟩
        · exact ih hrest v
        · exact ih hrest v
        · exact List.cons_ne_nil _ _
      · rw [if_neg happlies']
        exact ih hrest w

/-- For a message, the tier of presence selects the best ranked avatar without asking anybody. -/
theorem run_selectPresence (hs : s.Covered) (htrigger : s.trigger ≠ .ambient) {r : Presence.Ranked}
    {rest : List Presence.Ranked} (hranked : s.ranked = r :: rest) (w : World σ) :
    ∃ pick more w', (Tier.presence.select e s).run.run w = (.ok (pick :: more), w') := by
  obtain ⟨a, -, hselected⟩ := selectRanked_of_covered .presence (hs r (hranked ▸ List.mem_cons_self))
  refine ⟨.plain a .presence, [], w, ?_⟩
  unfold select selectPresence
  extract_lets choose
  rw [if_neg htrigger, hranked]
  show (choose (some r)).run.run w = _
  simp only [choose, Option.bind_some, hselected]
  rfl

/-- For a person somebody is selected as soon as anybody is ranked, whatever the other tiers do. -/
theorem selectFirst_somebody (hs : s.Covered) (hhuman : s.trigger.isHuman = true) {r : Presence.Ranked}
    {rest : List Presence.Ranked} (hranked : s.ranked = r :: rest) {picks : List Selection}
    {w w' : World σ} (hrun : (selectFirst e s cascade).run w = (picks, w')) : picks ≠ [] := by
  have hambient : s.trigger ≠ .ambient := by
    intro hsame
    rw [hsame] at hhuman
    cases hhuman
  have happlies : Tier.presence.appliesTo e.config.coordination s.trigger = true := by
    cases htrigger : s.trigger <;> simp_all [appliesTo, Trigger.isHuman]
  have hsomebody := selectFirst_ne_nil happlies (run_selectPresence (e := e) hs hambient hranked)
    (show Tier.presence ∈ cascade by decide) w
  rwa [hrun] at hsomebody

/-- A message of a bot is nothing to the tiers that serve people. -/
theorem appliesTo_botMessage {c : Config.Coordination} {t : Tier}
    (h : t.appliesTo c .botMessage = true) : t = .reply ∨ t = .thread ∨ t = .mention := by
  cases t <;> simp_all [appliesTo, Trigger.isHuman]

end Tier

/-! ## Whom a coordination may select from -/

/-- Whether an avatar is present in a channel, by its record as it is or as it would be made now. -/
def Store.Tables.presents (t : Tables) (channel : String) (now : Int) (avatar : String) : Bool :=
  (t.recordOf channel now avatar).any Presence.Record.isPresent

namespace Engine

variable {e : Engine σ} {channel : String} {message : Option Message} {w w' : World σ}

/-- Of the avatars of a channel those that may be selected for a message: the present ones without its
author. -/
def eligibleIn (t : Tables) (channel : String) (author : Option String) (now : Int)
    (avatars : List Avatar) : List Avatar :=
  avatars.filter fun a => author ≠ some a.id && t.presents channel now a.id

theorem counts_presentRecords (channel : String) (author : Option String) (now : Int)
    (avatars : List Avatar) : Counts (presentRecords channel author now avatars) := by
  induction avatars with
  | nil => exact .pure _
  | cons a rest ih =>
    unfold presentRecords
    split
    · exact ih
    · exact (Presence.counts_ensure channel a.id now).bind fun _ => ih.bind fun _ => .pure _

/-- The avatars whose records are found present are those that may be selected. -/
theorem runs_presentRecords_ok {author : Option String} {now : Int} {avatars : List Avatar}
    {present : List (Avatar × Presence.Record)} {s s' : Store}
    (h : (presentRecords channel author now avatars).Runs s (.ok present) s') :
    present.map Prod.fst = eligibleIn s.tables channel author now avatars := by
  induction avatars generalizing present s s' with
  | nil =>
    obtain ⟨rfl, -⟩ := runs_pure_ok h
    rfl
  | cons a rest ih =>
    unfold presentRecords at h
    by_cases hauthor : author = some a.id
    · rw [if_pos hauthor] at h
      rw [ih h, eligibleIn, eligibleIn, List.filter_cons]
      simp [hauthor]
    · rw [if_neg hauthor] at h
      obtain ⟨record, s₁, hensure, h⟩ := runs_bind_ok h
      obtain ⟨more, s₂, hmore, h⟩ := runs_bind_ok h
      obtain ⟨rfl, -⟩ := runs_pure_ok h
      obtain ⟨hrecord, hothers⟩ := Presence.runs_ensure_ok hensure
      -- the record that was made before the others does not change who of them is present
      have hrest : more.map Prod.fst = eligibleIn s.tables channel author now rest := by
        rw [ih hmore, eligibleIn, eligibleIn]
        simp only [Tables.presents, hothers]
      have hpresent : s.tables.presents channel now a.id = record.isPresent := by
        rw [Tables.presents, hrecord, Option.any_some]
      rw [eligibleIn, List.filter_cons, ← eligibleIn, ← hrest, hpresent]
      cases record.isPresent <;> simp [hauthor]

/-- The avatars of a channel, as they are listed; none, where they cannot be. -/
def inChannel (e : Engine σ) (channel : String) (w : World σ) : List Avatar :=
  ((e.outside.listAvatars channel).run.run w).1.toOption.getD []

/-- Whoever is found eligible was listed and is present by the tables that the listing left. -/
theorem run_candidates_eligible {now : Int} {found : Candidates}
    (h : (e.candidates channel message now).run.run w = (.ok found, w')) :
    found.inChannel = e.inChannel channel w ∧
      found.eligible = eligibleIn (e.outside.after (.listAvatars channel) w).store.tables channel
        (message.map Message.authorId) now (e.inChannel channel w) := by
  obtain ⟨w₁, present, w₂, topics, hlisted, hpresent, heligible, -⟩ := run_candidates h
  obtain ⟨hchannel, rfl⟩ := Prod.mk.inj (hlisted.symm.trans (run_orElse rfl))
  obtain ⟨s, hruns, -⟩ := run_onStore hpresent
  refine ⟨hchannel, ?_⟩
  rw [heligible, runs_presentRecords_ok hruns, hchannel]
  rfl

/-- The situation in which a coordination selects is a proper one. -/
theorem candidates_proper (h : e.Identifies) {now : Int} {found : Candidates}
    (hrun : (e.candidates channel message now).run.run w = (.ok found, w')) (trigger : Trigger) :
    (⟨channel, message, trigger, found.eligible, found.ranked, now⟩ : Situation).Proper := by
  obtain ⟨hchannel, heligible⟩ := run_candidates_eligible hrun
  have hlisted : ((e.inChannel channel w).map Avatar.id).Nodup := by
    unfold inChannel
    rcases hlist : (e.outside.listAvatars channel).run.run w with ⟨f | avatars, v⟩
    · exact List.nodup_nil
    · exact h.listed _ _ _ _ hlist
  have hdistinct : (found.eligible.map Avatar.id).Nodup := by
    rw [heligible]
    exact hlisted.sublist (List.filter_sublist.map _)
  constructor
  · exact candidates_covered hrun trigger
  · exact hdistinct
  · exact (candidates_ranked hrun).nodup_iff.mpr hdistinct
  · intro a ha
    rw [heligible] at ha
    have hkept := (List.mem_filter.mp ha).2
    rw [Bool.and_eq_true] at hkept
    exact of_decide_eq_true hkept.1

/-- The preliminaries of a coordination end in a fault only where a statement fails, or where it cannot be
read what the channel is about. -/
theorem preliminaries_fault {f : Fault}
    (h : (e.preliminaries channel message).run.run w = (.error f, w')) :
    (e.outside.after (.listAvatars channel) w).store.tables.topicsOf channel = none ∨
      (e.outside.after (.listAvatars channel) w).store.failures < w'.store.failures := by
  have hlisted : (orElse (e.outside.listAvatars channel) []).run w =
      (e.inChannel channel w, e.outside.after (.listAvatars channel) w) := run_orElse rfl
  have hseen : (presentRecords channel (message.map Message.authorId) w.clock
      (e.inChannel channel w)).Frames (Tables.topicsOf · channel) :=
    presentRecords_frames (Presence.ensure_frames fun _ _ => rfl) _ _ _ _
  rw [preliminaries, run_tryClockNow] at h
  rcases run_tryBind h with ⟨found, w₂, hfound, hkey⟩ | ⟨f', hfound, -⟩
  · -- the key of a message needs no statement, and that of a tick counts the one that fails
    have hcandidates := (e.candidates_writes channel message w.clock w)
    rw [hfound] at hcandidates
    obtain ⟨s, rfl, hmore⟩ := hcandidates
    have hle := hmore.failures
    rcases run_tryBind hkey with ⟨key, w₃, -, hend⟩ | ⟨f', hpeek, -⟩
    · cases (Prod.mk.inj hend).1
    · cases message with
      | some m => cases (Prod.mk.inj hpeek).1
      | none =>
        rcases run_tryBind hpeek with ⟨tick, w₃, -, hend⟩ | ⟨f'', htick, -⟩
        · cases (Prod.mk.inj hend).1
        · obtain ⟨s', hruns, rfl⟩ := run_onStore htick
          have hcounts : Counts (Tick.peek channel w.clock) :=
            (Counts.change _ _).bind fun _ => .query _ _
          exact Or.inr (Nat.lt_of_le_of_lt hle (hcounts.counted hruns))
  · rw [candidates, run_tryLift_ok hlisted] at hfound
    rcases run_tryBind hfound with ⟨present, w₂, hpresent, hrest⟩ | ⟨f'', hpresent, -⟩
    · obtain ⟨s, hruns, rfl⟩ := run_onStore hpresent
      have hunseen := hseen _ _ _ hruns
      rcases run_tryBind hrest with ⟨ranked, w₃, -, hend⟩ | ⟨f'', hranked, -⟩
      · cases (Prod.mk.inj hend).1
      · obtain ⟨s', rfl, -, ⟨_, hx, -⟩ | ⟨-, hnone | hfailed⟩⟩ := run_rankIn hranked
        · cases hx
        · exact Or.inl (hunseen.view ▸ hnone)
        · exact Or.inr (Nat.lt_of_le_of_lt hunseen.failures hfailed)
    · obtain ⟨s, hruns, rfl⟩ := run_onStore hpresent
      exact Or.inr ((counts_presentRecords _ _ _ _).counted hruns)

/-- A coordination that begins in a world comes to select responders for a trigger of a key. -/
def Selects (e : Engine σ) (channel : String) (message : Option Message) (w : World σ) (key : String)
    (picks : List Selection) (w' : World σ) : Prop :=
  ∃ found w₁, (e.preliminaries channel message).run.run w = (.ok (found, key), w₁) ∧
    (e.selectResponders ⟨channel, message, .classify message found.inChannel, found.eligible,
      found.ranked, w.clock⟩).run w₁ = (picks, w')

end Engine

/-- Selections for a message, or for none, are sound by some tables in a channel with these avatars. -/
structure SelectedSoundly (t : Tables) (channel : String) (message : Option Message) (now : Int)
    (inChannel : List Avatar) (picks : List Selection) : Prop where
  distinct : (picks.map (·.avatar.id)).Nodup
  author : ∀ p ∈ picks, message.map Message.authorId ≠ some p.avatar.id
  oneTier : ∃ tier, ∀ p ∈ picks, p.tier = tier
  present : ∀ p ∈ picks, p.tier ≠ .reply → p.avatar ∈ inChannel ∧ t.presents channel now p.avatar.id
  overrides : ∀ p ∈ picks, (p.overridesCooldown = true ↔ p.tier = .reply)
  token : ∀ p ∈ picks, (p.threadToken.isSome = true ↔ p.tier = .thread)
  bots : Trigger.classify message inChannel = .botMessage →
    ∀ p ∈ picks, p.tier = .reply ∨ p.tier = .thread ∨ p.tier = .mention
  people : (Trigger.classify message inChannel).isHuman = true →
    (∃ a ∈ inChannel, message.map Message.authorId ≠ some a.id ∧ t.presents channel now a.id) →
    picks ≠ []

/-- What a coordination selects is sound by the tables in which it listed the avatars of the channel. -/
theorem Engine.Selects.soundly {e : Engine σ} {channel : String} {message : Option Message}
    {w w' : World σ} {key : String} {picks : List Selection} (h : e.Identifies)
    (hselects : e.Selects channel message w key picks w') :
    SelectedSoundly (e.outside.after (.listAvatars channel) w).store.tables channel message w.clock
      (e.inChannel channel w) picks := by
  obtain ⟨found, w₁, hpreliminaries, hrun⟩ := hselects
  obtain ⟨v, hfound, -⟩ := run_preliminaries_ok hpreliminaries
  obtain ⟨hchannel, heligible⟩ := run_candidates_eligible hfound
  have hproper := candidates_proper h hfound (.classify message found.inChannel)
  rw [hchannel] at hrun hproper
  obtain ⟨t, happlies, hfits, hdistinct⟩ := Tier.selectFirst_fits h hproper hrun
  constructor
  · exact hdistinct
  · intro p hp
    exact (hfits p hp).author
  · exact ⟨t, fun p hp => (hfits p hp).tier⟩
  · intro p hp hreply
    rw [(hfits p hp).tier] at hreply
    have hmem := (hfits p hp).eligible hreply
    rw [heligible, eligibleIn, List.mem_filter, Bool.and_eq_true] at hmem
    exact ⟨hmem.1, hmem.2.2⟩
  · intro p hp
    rw [(hfits p hp).tier]
    exact (hfits p hp).overrides
  · intro p hp
    rw [(hfits p hp).tier]
    exact (hfits p hp).token
  · -- only some tiers apply to what a bot wrote
    intro hbot p hp
    rw [(hfits p hp).tier]
    rw [hbot] at happlies
    exact Tier.appliesTo_botMessage happlies
  · rintro hhuman ⟨a, ha, hauthor, hpresent⟩ hnobody
    -- somebody is eligible, and so somebody is ranked
    have hmem : a ∈ found.eligible := by
      rw [heligible, eligibleIn, List.mem_filter]
      simp [ha, hauthor, hpresent]
    cases hranked : found.ranked with
    | nil =>
      have hperm := candidates_ranked hfound
      rw [hranked, List.map_nil, List.nil_perm, List.map_eq_nil_iff] at hperm
      rw [hperm] at hmem
      cases hmem
    | cons r rest =>
      exact Tier.selectFirst_somebody hproper.covered hhuman hranked hrun hnobody

/-- In whatever state the store is, and whatever the services do, as long as avatars are listed under ids of
their own and known by them: where a coordination does not end in a fault before it comes to select, which it
does only if a statement fails or if it cannot be read what the channel is about, the selections are of
different avatars, none of them the author of the message, all by the same tier, and unless they are replies
present avatars that are listed in the channel. They override the cooldown if they are replies, and carry a
token if they continue a thread, and only then. For bots, only these two tiers and that of mentions select
anybody. For a person somebody is selected as soon as anybody but the author is present, whatever fails. -/
theorem selects_soundly {e : Engine σ} (h : e.Identifies) {channel : String} {message : Option Message}
    {context : CoordinationContext} {w w' : World σ} {x : Except Fault (List Response)}
    (hrun : (e.coordinate channel message context).run.run w = (x, w')) :
    let listed := (e.outside.after (.listAvatars channel) w).store
    (∃ f, x = .error f ∧
        (listed.tables.topicsOf channel = none ∨ listed.failures < w'.store.failures)) ∨
      ∃ key picks v responses v', e.Selects channel message w key picks v ∧
        (e.respondAll channel message (.classify message (e.inChannel channel w)) key context
          e.config.coordination.maxResponsesPerMessage picks).run (v.noted (.selected key picks)) =
            (responses, v') ∧
        x = .ok responses ∧
        SelectedSoundly listed.tables channel message w.clock (e.inChannel channel w) picks := by
  intro listed
  rcases Engine.run_coordinate hrun with ⟨f, rfl, hfault⟩ |
    ⟨found, key, w₁, picks, w₂, responses, w₃, hfound, hselect, hresponses, rfl, -⟩
  · exact Or.inl ⟨f, rfl, Engine.preliminaries_fault hfault⟩
  · have hselects : e.Selects channel message w key picks w₂ := ⟨found, w₁, hfound, hselect⟩
    obtain ⟨_, hcandidates, -⟩ := Engine.run_preliminaries_ok hfound
    rw [(Engine.run_candidates_eligible hcandidates).1] at hresponses
    exact Or.inr ⟨key, picks, w₂, responses, w₃, hselects, hresponses, rfl, hselects.soundly h⟩

/-- Services that know the avatars that they list. -/
def Collaborators.introducing (avatars : List Avatar) : Collaborators Unit :=
  { Collaborators.plain avatars "hello" with getAvatar := fun id => return avatars.find? (·.id = id) }

/-- Services that introduce their avatars tell them apart. -/
theorem Collaborators.introducing_identifies {avatars : List Avatar}
    (h : (avatars.map Avatar.id).Nodup) : (Engine.standard (introducing avatars)).Identifies where
  listed channel w listed w' hrun := by
    obtain rfl := Except.ok.inj (Prod.mk.inj hrun).1
    exact h
  known id w a w' hrun := by
    have hfound : avatars.find? (·.id = id) = some a := Except.ok.inj (Prod.mk.inj hrun).1
    have hid := List.find?_some hfound
    exact of_decide_eq_true hid

/-- A channel with a thread whose participants cannot be read. -/
def Store.Tables.tangled : Tables :=
  { Tables.empty with
    threads := some [⟨some "t", "c", "no list", none, .number 1, .number 0, .number 1000⟩] }

/-- The tier of threads fails, and yet a person is answered by the one avatar that is present. -/
theorem selects_soundly_tangled :
    let e : Engine Unit := .standard (.introducing (Avatar.pair.take 1))
    let w : World Unit := .ofTables .tangled ()
    let message := Message.human "m" "c" "u" "hello" 0
    let x := ((e.coordinate "c" (some message) ⟨none, 0⟩).run.run w).1
    let w' := ((e.coordinate "c" (some message) ⟨none, 0⟩).run.run w).2
    w'.store.failures = 1 ∧ x.toOption.map (List.map Response.avatarId) = some ["ada"] ∧
      ∃ key picks v, e.Selects "c" (some message) w key picks v ∧ picks ≠ [] ∧
        SelectedSoundly Tables.tangled "c" (some message) 0 (Avatar.pair.take 1) picks := by
  intro e w message x w'
  have hanswered : x.toOption.map (List.map Response.avatarId) = some ["ada"] := by decide +kernel
  refine ⟨by decide +kernel, hanswered, ?_⟩
  have hrun : (e.coordinate "c" (some message) ⟨none, 0⟩).run.run w = (x, w') := rfl
  rcases selects_soundly (Collaborators.introducing_identifies (by decide)) hrun with
    ⟨f, hx, -⟩ | ⟨key, picks, v, responses, v', hselects, -, -, hsound⟩
  · rw [hx] at hanswered
    cases hanswered
  · have hpresent : Tables.tangled.presents "c" 0 "ada" = true := by decide +kernel
    refine ⟨key, picks, v, hselects, hsound.people (by decide +kernel) ?_, hsound⟩
    exact ⟨_, List.mem_cons_self, by decide, hpresent⟩

end TurnTaking
