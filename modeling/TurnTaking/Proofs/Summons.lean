import TurnTaking.Proofs.Engine.Coordination
import TurnTaking.Proofs.Engine.Course
import TurnTaking.Proofs.Engine.Selection
import TurnTaking.Proofs.Engine.Turn

/-!
# Summons — what credits are spent on

A credit is spent when its avatar is selected, and from then on it is promised to the selection, until
the turn of the selection is run. What is left, what is promised and the turns that were run add up to
the same at all times (`Redeems`). Since no coordination ends with a promise, a credit that is gone was
spent on a turn, one for each credit (`summons_buy_turns`). It is not given back if the turn ends without a
message (`summons_not_given_back`).
-/

namespace TurnTaking

open Store Store.Access

variable {σ : Type}

/-- Whose turn a summon was spent on, by channel and avatar, and how the turn ended. -/
def JournalEntry.summoned? : JournalEntry → Option ((String × String) × Turn.Outcome)
  | .turn r o => if r.options.tier = some .summon then some ((r.channelId, r.avatar.id), o) else none
  | _ => none

/-- The turns that summons were spent on. -/
def summonTurns (journal : List JournalEntry) : List ((String × String) × Turn.Outcome) :=
  journal.filterMap JournalEntry.summoned?

/-- How many of them an avatar had in a channel. -/
def summonTurnsOf (k : String × String) (journal : List JournalEntry) : Nat :=
  (summonTurns journal).countP (·.1 = k)

theorem summonTurnsOf_append (k : String × String) (l l' : List JournalEntry) :
    summonTurnsOf k (l ++ l') = summonTurnsOf k l + summonTurnsOf k l' := by
  rw [summonTurnsOf, summonTurns, List.filterMap_append, List.countP_append]
  rfl

/-- The key of the credit that an entry redeems, if it does. -/
def JournalEntry.redeemed (entry : JournalEntry) : List (String × String) :=
  (entry.summoned?.map Prod.fst).toList

/-- One more entry adds what it redeems. -/
theorem summonTurnsOf_cons (k : String × String) (entry : JournalEntry) (l : List JournalEntry) :
    summonTurnsOf k (entry :: l) = entry.redeemed.count k + summonTurnsOf k l := by
  rw [← List.singleton_append, summonTurnsOf_append]
  congr 1
  rw [summonTurnsOf, summonTurns, JournalEntry.redeemed]
  cases h : entry.summoned? with
  | none => rw [List.filterMap_cons_none h]; rfl
  | some turn =>
    rw [List.filterMap_cons_some h]
    simp [List.count_singleton]

/-- The key of the credit that was spent on a selection, if one was. -/
def Selection.claim? (channel : String) (s : Selection) : Option (String × String) :=
  if s.tier = .summon then some (channel, s.avatar.id) else none

/-- The keys of the credits that are promised to selections. -/
def claims (channel : String) (selections : List Selection) : List (String × String) :=
  selections.filterMap (Selection.claim? channel)

/-- One more selection adds its claim. -/
theorem claims_cons (channel : String) (s : Selection) (rest : List Selection) :
    claims channel (s :: rest) = (s.claim? channel).toList ++ claims channel rest := by
  rw [claims, List.filterMap_cons]
  cases s.claim? channel <;> rfl

/-- Other tiers than that of summons promise nothing. -/
theorem claims_of_marks {t : Tier} (ht : t ≠ .summon) {selections : List Selection}
    (h : t.Marks selections) (channel : String) : claims channel selections = [] := by
  refine List.filterMap_eq_nil_iff.mpr fun s hs => ?_
  rw [Selection.claim?, h s hs, if_neg ht]

/-- The turn of a selection redeems what was promised to it. -/
theorem redeemed_requestOf (channel : String) (message : Option Message) (trigger : Trigger)
    (key : String) (depth : Nat) (s : Selection) (o : Turn.Outcome) :
    (JournalEntry.turn (Engine.requestOf channel message trigger key depth s) o).redeemed =
      (s.claim? channel).toList := by
  rw [JournalEntry.redeemed, JournalEntry.summoned?, Selection.claim?]
  simp only [Engine.requestOf, Option.some.injEq]
  split <;> rfl

/-! ## The sum that stays -/

/-- Under each key, what is left, what is promised and the turns that were run are as many as before. -/
structure Redeemed (promised promised' : List (String × String)) (w w' : World σ) : Prop where
  keyed : w'.store.tables.PresenceKeyed
  balance : ∀ k n, w.store.tables.credits k = some n →
    ∃ left, w'.store.tables.credits k = some left ∧
      left + promised'.count k + summonTurnsOf k w'.journal =
        n + promised.count k + summonTurnsOf k w.journal

theorem Redeemed.trans {p q r : List (String × String)} {u v w : World σ} (h : Redeemed p q u v)
    (h' : Redeemed q r v w) : Redeemed p r u w where
  keyed := h'.keyed
  balance k n hn := by
    obtain ⟨mid, hmid, hfirst⟩ := h.balance k n hn
    obtain ⟨left, hleft, hsecond⟩ := h'.balance k mid hmid
    exact ⟨left, hleft, hsecond.trans hfirst⟩

/-- From one world to another that sum stays, unless a statement failed, and what was promised under some
keys before is promised under others after. -/
structure Redeems (promised promised' : List (String × String)) (w w' : World σ) : Prop where
  grows : w.journal <:+ w'.journal
  failures : w.store.failures ≤ w'.store.failures
  redeemed : w'.store.failures = w.store.failures → w.store.tables.PresenceKeyed →
    Redeemed promised promised' w w'

namespace Redeems

variable {p q r : List (String × String)} {u v w w' : World σ}

theorem trans (h : Redeems p q u v) (h' : Redeems q r v w) : Redeems p r u w where
  grows := h.grows.trans h'.grows
  failures := Nat.le_trans h.failures h'.failures
  redeemed hf hkeyed := by
    have hle := h.failures
    have hle' := h'.failures
    have hfirst := h.redeemed (by omega) hkeyed
    exact hfirst.trans (h'.redeemed (by omega) hfirst.keyed)

/-- Further promises may stand beside. -/
theorem beside (h : Redeems p q w w') (others : List (String × String)) :
    Redeems (p ++ others) (q ++ others) w w' where
  grows := h.grows
  failures := h.failures
  redeemed hf hkeyed := by
    refine ⟨(h.redeemed hf hkeyed).keyed, fun k n hn => ?_⟩
    obtain ⟨left, hleft, hsum⟩ := (h.redeemed hf hkeyed).balance k n hn
    refine ⟨left, hleft, ?_⟩
    rw [List.count_append, List.count_append]
    omega

/-- In what order things are promised does not matter. -/
theorem reordered (h : Redeems p q w w') (hq : q.Perm r) : Redeems p r w w' where
  grows := h.grows
  failures := h.failures
  redeemed hf hkeyed := by
    refine ⟨(h.redeemed hf hkeyed).keyed, fun k n hn => ?_⟩
    rw [← hq.count_eq k]
    exact (h.redeemed hf hkeyed).balance k n hn

/-- After a statement failed, nothing is said any more. -/
theorem of_failure (hgrows : w.journal <:+ w'.journal)
    (hlost : w.store.failures < w'.store.failures) : Redeems p q w w' where
  grows := hgrows
  failures := Nat.le_of_lt hlost
  redeemed hf _ := absurd hf (Nat.ne_of_gt hlost)

/-- Where nothing was noted, and what is owed stayed the same. -/
theorem of_owing (hj : w'.journal = w.journal) (hf : w.store.failures ≤ w'.store.failures)
    (howing : w'.store.tables.owing = w.store.tables.owing) : Redeems p p w w' where
  grows := ⟨[], by rw [hj]; rfl⟩
  failures := hf
  redeemed _ hkeyed := by
    refine ⟨(Tables.keyed_of_owing howing).mpr hkeyed, fun k n hn => ⟨n, ?_, by rw [hj]⟩⟩
    rw [Tables.credits_of_owing howing]
    exact hn

theorem chains : Chains (Redeems (σ := σ) [] []) where
  refl _ := of_owing rfl (Nat.le_refl _) rfl
  trans := trans

theorem calm : Calm Tables.owing (Redeems (σ := σ) [] []) where
  toChains := chains
  unseen hstore hstill := of_owing hstill.journal hstore.failures hstore.view

/-- An entry in the journal redeems what it says. -/
theorem noted (w : World σ) (entry : JournalEntry) : Redeems entry.redeemed [] w (w.noted entry) where
  grows := ⟨[entry], rfl⟩
  failures := Nat.le_refl _
  redeemed _ hkeyed := by
    refine ⟨hkeyed, fun k n hn => ⟨n, hn, ?_⟩⟩
    rw [World.noted_journal, summonTurnsOf_cons, List.count_nil]
    omega

/-- Of an entry that redeems nothing there is nothing to say. -/
theorem note {entry : JournalEntry} (h : entry.summoned? = none) :
    Keeps (Redeems (σ := σ) [] []) (TurnTaking.note entry) := by
  intro w
  have hnoted := noted w entry
  rw [JournalEntry.redeemed, h] at hnoted
  exact hnoted

end Redeems

theorem owing_guiding : GuidingWrites Tables.owing where
  ensure := Presence.owing_ensure
  recordMention := Presence.owing_recordMention
  threads _ _ := rfl
  sessions _ _ := rfl

theorem owing_side : SideWrites Tables.owing where
  recordTurn := Presence.owing_recordTurn
  activity _ _ := rfl
  humans _ _ := rfl
  sent _ _ := rfl

theorem owing_settling : SettlingHidden Tables.owing := .of_leases fun _ _ => rfl

/-! ## Selecting spends, and promises -/

namespace Tier

/-- A credit is spent or not; it is promised under its key if it was. -/
theorem consumeSummon_redeems {channel avatar : String} {x : Except Fault Bool} {w w' : World σ}
    (h : (onStore (Presence.consumeSummon channel avatar) : Try σ Bool).run.run w = (x, w')) :
    (∃ spent, x = .ok spent ∧ Redeems [] (if spent then [(channel, avatar)] else []) w w') ∨
      (∃ f, x = .error f) ∧ ∀ p q, Redeems p q w w' := by
  obtain ⟨s, hruns, rfl⟩ := run_onStore h
  rcases Presence.runs_consumeSummon hruns with ⟨spent, rfl, hfailures, hspent⟩ | ⟨hx, hfault⟩
  · refine Or.inl ⟨spent, rfl, List.suffix_refl _, Nat.le_of_eq hfailures.symm, fun _ hkeyed => ?_⟩
    refine ⟨(hspent hkeyed).keyed, fun k n hn => ?_⟩
    obtain ⟨left, hleft, hsum⟩ := (hspent hkeyed).credits k n hn
    refine ⟨left, hleft, ?_⟩
    rw [hsum, List.count_nil]
    rfl
  · exact Or.inr ⟨hx, fun p q => .of_failure (List.suffix_refl _) hfault.failures⟩

/-- A ranked avatar that is eligible is selected once its credit is spent, and the credit is promised to
its selection. -/
theorem claim_of_covered {s : Situation} {r : Presence.Ranked}
    (h : (s.eligibleAvatar r.avatarId).isSome) :
    ∃ selection, s.selectRanked .summon r = some selection ∧
      selection.claim? s.channelId = some (s.channelId, r.avatarId) := by
  obtain ⟨a, hid, hselected⟩ := selectRanked_of_covered .summon h
  have hmark : (Selection.plain a .summon).tier = .summon := rfl
  refine ⟨.plain a .summon, hselected, ?_⟩
  rw [Selection.claim?, if_pos hmark, ← hid]
  rfl

/-- What is spent on ranked avatars, one after another, is promised to their selections, of which there
are no more than there may be. -/
theorem spendCredits_redeems {s : Situation} {ranked : List Presence.Ranked} {limit : Nat}
    (hcovered : ∀ r ∈ ranked, (s.eligibleAvatar r.avatarId).isSome)
    {x : Except Fault (List Selection)} {w w' : World σ}
    (h : (spendCredits s limit ranked : Try σ _).run.run w = (x, w')) :
    (∃ selections, x = .ok selections ∧ selections.length ≤ limit ∧
        Redeems [] (claims s.channelId selections) w w') ∨
      (∃ f, x = .error f) ∧ ∀ p q, Redeems p q w w' := by
  have hnone : ∀ {limit : Nat} {x : Except Fault (List Selection)} {w w' : World σ},
      ((.ok [] : Except Fault (List Selection)), w) = (x, w') →
        ∃ selections, x = .ok selections ∧ selections.length ≤ limit ∧
          Redeems [] (claims s.channelId selections) w w' := by
    intro limit x w w' hend
    obtain ⟨rfl, rfl⟩ := Prod.mk.inj hend
    exact ⟨[], rfl, Nat.zero_le _, Redeems.chains.refl _⟩
  induction ranked generalizing limit x w w' with
  | nil => cases limit <;> exact Or.inl (hnone h)
  | cons r rest ih =>
    have hrest : ∀ r ∈ rest, (s.eligibleAvatar r.avatarId).isSome := fun r hr =>
      hcovered r (List.mem_cons_of_mem _ hr)
    cases limit with
    | zero => exact Or.inl (hnone h)
    | succ limit =>
      unfold spendCredits at h
      rcases run_tryBind h with ⟨spent, w₁, hspend, h⟩ | ⟨f, hspend, rfl⟩
      · rcases consumeSummon_redeems hspend with ⟨_, hspent, hfirst⟩ | ⟨⟨_, he⟩, -⟩
        · obtain rfl := Except.ok.inj hspent
          cases spent with
          | false =>
            -- nothing was left to spend: it goes on as if the avatar were not there
            rcases ih hrest h with ⟨selections, rfl, hlength, hmore⟩ | ⟨hx, hlost⟩
            · exact Or.inl ⟨selections, rfl, hlength, hfirst.trans hmore⟩
            · exact Or.inr ⟨hx, fun p q => (hfirst.beside p).trans (hlost _ q)⟩
          | true =>
            -- the credit is spent and promises a turn
            obtain ⟨selection, hselected, hclaim⟩ := claim_of_covered (hcovered r List.mem_cons_self)
            simp only [if_true, hselected] at h
            rcases run_tryBind h with ⟨more, w₂, hmore, hend⟩ | ⟨f, hmore, rfl⟩
            · have hend' : ((.ok (selection :: more) : Except Fault _), w₂) = (x, w') := hend
              obtain ⟨rfl, rfl⟩ := Prod.mk.inj hend'
              rcases ih hrest hmore with ⟨_, hx, hlength, hlater⟩ | ⟨⟨_, he⟩, -⟩
              · obtain rfl := Except.ok.inj hx
                refine Or.inl ⟨_, rfl, Nat.succ_le_succ hlength, ?_⟩
                -- the first promise stands beside those that follow
                rw [claims_cons, hclaim]
                exact (hfirst.trans (hlater.beside [(s.channelId, r.avatarId)])).reordered
                  List.perm_append_comm
              · cases he
            · rcases ih hrest hmore with ⟨_, hx, -⟩ | ⟨hx, hlost⟩
              · cases hx
              · exact Or.inr ⟨hx, fun p q => (hfirst.beside p).trans (hlost _ q)⟩
        · cases he
      · -- the statement failed, and nothing is promised
        rcases consumeSummon_redeems hspend with ⟨_, he, -⟩ | ⟨-, hlost⟩
        · cases he
        · exact Or.inr ⟨⟨f, rfl⟩, hlost⟩

/-- Whatever a tier spends is promised to its selections. Where it spends anything, no more avatars are
selected than may respond. -/
theorem select_redeems {e : Engine σ} (h : e.Guided Tables.owing (Redeems [] [])) {s : Situation}
    (hs : s.Covered) {t : Tier} {x : Except Fault (List Selection)} {w w' : World σ}
    (hrun : (t.select e s).run.run w = (x, w')) :
    (∃ selections, x = .ok selections ∧
        (claims s.channelId selections = [] ∨
          selections.length ≤ e.config.coordination.maxResponsesPerMessage) ∧
        Redeems [] (claims s.channelId selections) w w') ∨
      (∃ f, x = .error f) ∧ Redeems [] [] w w' := by
  by_cases ht : t = .summon
  · subst ht
    rcases spendCredits_redeems (covered_summons hs) hrun with ⟨selections, hx, hlength, hspent⟩ | ⟨hx, hlost⟩
    · exact Or.inl ⟨selections, hx, Or.inr hlength, hspent⟩
    · exact Or.inr ⟨hx, hlost [] []⟩
  · have hkept := h.select ht s w
    rw [hrun] at hkept
    cases x with
    | error f => exact Or.inr ⟨⟨f, rfl⟩, hkept⟩
    | ok selections =>
      have hclaims := claims_of_marks ht (select_marked t _ _ _ hrun) s.channelId
      refine Or.inl ⟨selections, rfl, Or.inl hclaims, ?_⟩
      rw [hclaims]
      exact hkept

/-- Of the tiers that are tried, only the one that selects anybody has promised anything. -/
theorem selectFirst_redeems {e : Engine σ} (h : e.Guided Tables.owing (Redeems [] []))
    {s : Situation} (hs : s.Covered) {tiers : List Tier} {selections : List Selection} {w w' : World σ}
    (hrun : (selectFirst e s tiers).run w = (selections, w')) :
    (claims s.channelId selections = [] ∨
        selections.length ≤ e.config.coordination.maxResponsesPerMessage) ∧
      Redeems [] (claims s.channelId selections) w w' := by
  induction tiers generalizing w with
  | nil =>
    obtain ⟨rfl, rfl⟩ := Prod.mk.inj (show (([] : List Selection), w) = (selections, w') from hrun)
    exact ⟨Or.inl rfl, Redeems.chains.refl _⟩
  | cons t rest ih =>
    unfold selectFirst at hrun
    split at hrun
    · rcases hselect : (t.select e s).run.run w with ⟨x, w₁⟩
      rw [run_bind_of hselect] at hrun
      rcases select_redeems h hs hselect with ⟨found, rfl, hlength, hspent⟩ | ⟨⟨f, rfl⟩, hspent⟩
      · cases found with
        | nil =>
          obtain ⟨hlength, hmore⟩ := ih hrun
          exact ⟨hlength, hspent.trans hmore⟩
        | cons selection more =>
          obtain ⟨rfl, rfl⟩ := Prod.mk.inj hrun
          exact ⟨hlength, hspent⟩
      · obtain ⟨hlength, hmore⟩ := ih hrun
        exact ⟨hlength, hspent.trans hmore⟩
    · exact ih hrun

end Tier

/-! ## Turns redeem what was promised -/

namespace Engine

variable {e : Engine σ} {channel : String} {message : Option Message} {trigger : Trigger}
  {key : String} {context : CoordinationContext} {w w' : World σ}

/-- A turn redeems the credit that was spent on it, however it ends. -/
theorem runTurn_redeems (h : e.Voiced Tables.owing (Redeems [] [])) {r : Turn.Request}
    {o : Turn.Outcome} (hrun : (e.runTurn r).run w = (o, w')) :
    Redeems (JournalEntry.turn r o).redeemed [] w w' := by
  obtain ⟨w₁, hbefore, rfl⟩ := h.run_runTurn (fun _ _ => rfl) (Redeems.note rfl) hrun
  exact (hbefore.beside _).trans (Redeems.noted _ _)

/-- So does the answer of a selection. -/
theorem answer_redeems (h : e.Voiced Tables.owing (Redeems [] [])) {depth : Nat} {s : Selection}
    {lease : Option Lease.Guard} {response : Option Response}
    (hrun : (e.answer channel message trigger key depth s lease).run w = (response, w')) :
    Redeems (s.claim? channel).toList [] w w' := by
  obtain ⟨o, w₁, hturn, hlast⟩ := run_answer hrun
  have hredeemed := runTurn_redeems h hturn
  rw [redeemed_requestOf] at hredeemed
  have hsettled := h.settleLease owing_settling lease o w₁
  cases hsent : o.sent? with
  | none =>
    rw [hsent] at hlast
    rw [hlast.2]
    exact hredeemed.trans hsettled
  | some sent =>
    rw [hsent] at hlast
    rw [hlast.2]
    exact (hredeemed.trans hsettled).trans (h.recordResponse channel message trigger s sent _)

/-- No selection to which a credit is promised is passed over: its turn takes precedence. -/
theorem claim_of_passedOver {s : Selection} {tick? : Option Nat} {w₁ : World σ}
    (h : (e.leaseSelection channel message s tick?).run.run w = (.ok .skip, w₁)) :
    s.claim? channel = none := by
  rcases run_leaseSelection h with ⟨hx, -⟩ | ⟨tick, m, -, -, hdecided⟩
  · cases hx
  · obtain ⟨_, -, -, ⟨hx, -⟩ | ⟨-, -, _, -, ⟨-, hlesser, -⟩ | ⟨hx, -⟩⟩ | ⟨⟨_, hx⟩, -⟩⟩ :=
      run_leaseForMessage hdecided
    · cases hx
    · rw [Selection.claim?, if_neg]
      intro hsummon
      rw [hsummon] at hlesser
      exact hlesser rfl
    · cases hx
    · cases hx

/-- A selection has redeemed what was promised to it. -/
theorem respond_redeems (h : e.Voiced Tables.owing (Redeems [] [])) {s : Selection}
    {response : Option Response}
    (hrun : (e.respond channel message trigger key context s).run w = (response, w')) :
    Redeems (s.claim? channel).toList [] w w' := by
  obtain ⟨decision, w₁, hlease, hrest⟩ := run_respond hrun
  have hdecided := h.leaseSelection (fun _ _ => rfl) channel message s context.leaseTick w
  rw [hlease] at hdecided
  rcases hrest with ⟨-, ⟨f, rfl⟩, rfl⟩ | ⟨-, rfl, tick, m, htick, rfl, rfl⟩ | ⟨lease, rfl, hrest⟩
  · obtain ⟨hgrows, hlost⟩ := failures_of_undecided hlease
    exact .of_failure hgrows hlost
  · rw [claim_of_passedOver hlease]
    exact hdecided.trans (Redeems.note rfl w₁)
  · obtain ⟨w₂, hanswer, hnoted⟩ := run_respondLeased hrest
    have hbefore : Redeems [] [] w w₂ := by
      rcases hnoted with ⟨rfl, -⟩ | ⟨tick, m, -, -, rfl⟩
      · exact hdecided
      · exact hdecided.trans (Redeems.note rfl w₁)
    exact (hbefore.beside _).trans (answer_redeems h hanswer)

/-- Selections redeem all that was promised to them, where all of their turns may be run. -/
theorem respondAll_redeems (h : e.Voiced Tables.owing (Redeems [] [])) {limit : Nat}
    {selections : List Selection} {responses : List Response}
    (hlimit : claims channel selections = [] ∨ selections.length ≤ limit)
    (hrun : (e.respondAll channel message trigger key context limit selections).run w =
      (responses, w')) : Redeems (claims channel selections) [] w w' := by
  induction selections generalizing limit responses w with
  | nil =>
    have hend : (([] : List Response), w) = (responses, w') := by
      cases limit <;> exact hrun
    obtain ⟨-, rfl⟩ := Prod.mk.inj hend
    exact Redeems.chains.refl _
  | cons s rest ih =>
    cases limit with
    | zero =>
      -- no turn is run, but then nothing was promised
      rcases hlimit with hnone | hlength
      · obtain ⟨-, rfl⟩ := Prod.mk.inj (show (([] : List Response), w) = (responses, w') from hrun)
        rw [hnone]
        exact Redeems.chains.refl _
      · cases hlength
    | succ limit =>
      rcases hrespond : (e.respond channel message trigger key context s).run w with ⟨response, w₁⟩
      rw [respondAll, run_bind_of hrespond] at hrun
      have hfirst := respond_redeems h hrespond
      have hlimit' : claims channel rest = [] ∨ rest.length ≤ limit := by
        rcases hlimit with hnone | hlength
        · rw [claims_cons] at hnone
          exact Or.inl (List.append_eq_nil_iff.mp hnone).2
        · exact Or.inr (Nat.le_of_succ_le_succ hlength)
      rw [claims_cons]
      refine (hfirst.beside (claims channel rest)).trans ?_
      cases response with
      | some response =>
        -- one response less is left, and one selection
        rcases hmore : (e.respondAll channel message trigger key context limit rest).run w₁
          with ⟨more, w₂⟩
        simp only [run_bind_of hmore] at hrun
        obtain ⟨-, rfl⟩ := Prod.mk.inj hrun
        exact ih hlimit' hmore
      | none =>
        -- no response was used up, so the limit still suffices
        have hlimits : claims channel rest = [] ∨ rest.length ≤ limit + 1 := by
          rcases hlimit' with hnone | hlength
          · exact Or.inl hnone
          · exact Or.inr (Nat.le_succ_of_le hlength)
        exact ih hlimits hrun

/-- The answer to a trigger leaves nothing promised: what its selections were promised, their turns have
redeemed. -/
theorem answerTrigger_redeems (h : e.Voiced Tables.owing (Redeems [] [])) (channel : String)
    (message : Option Message) (context : CoordinationContext) :
    Keeps (Redeems [] []) (e.answerTrigger channel message context).run := by
  intro w
  rcases hrun : (e.answerTrigger channel message context).run.run w with ⟨x, w'⟩
  have hpeek : ∀ channel now, Keeps (Redeems [] []) (onStore (Tick.peek channel now) : Try σ Nat).run :=
    fun channel now => h.onStore (Tick.peek_frames (fun _ _ => rfl) channel now)
  obtain ⟨found?, w₁, hfound, hrest⟩ := run_answerTrigger hrun
  have hcandidates := h.candidates channel message w.clock w
  rw [hfound] at hcandidates
  rcases hrest with ⟨f, rfl, rfl, rfl⟩ | ⟨found, key?, w₂, rfl, hkey, hrest⟩
  · exact hcandidates
  · have hnamed := h.triggerKey message (hpeek channel w.clock) w₁
    rw [hkey] at hnamed
    have hbefore := hcandidates.trans hnamed
    rcases hrest with ⟨f, rfl, rfl, rfl⟩ | ⟨key, selections, w₃, responses, rfl, hselect, hresponses, -⟩
    · exact hbefore
    · have hcovered := candidates_covered hfound (.classify message found.inChannel)
      obtain ⟨hlength, hpromised⟩ := Tier.selectFirst_redeems h.toGuided hcovered hselect
      have hnoted : Redeems [] [] w₃ (w₃.noted (.selected key selections)) := Redeems.note rfl w₃
      have hredeemed := respondAll_redeems h hlength hresponses
      exact (hbefore.trans hpromised).trans ((hnoted.beside _).trans hredeemed)

/-- No turn of a sweep is a summon's. -/
theorem runAmbientTurn_redeems (h : e.Voiced Tables.owing (Redeems [] [])) (sweep : Sweep) (a : Avatar) :
    Keeps (Redeems [] []) (e.runAmbientTurn sweep a).run := by
  refine h.toGuided.runAmbientTurn (fun _ _ => rfl) (Redeems.note rfl) ?_
  exact h.runTurn (fun _ _ => rfl) (Redeems.note rfl) fun _ => Redeems.note rfl

/-- An engine keeps to the sum as soon as its services do. -/
theorem redeems (hservice : ∀ call w, Redeems [] [] w (e.outside.after call w)) :
    e.Directs Tables.owing (Redeems [] []) := by
  have hvoiced : e.Voiced Tables.owing (Redeems [] []) :=
    { Redeems.calm with
      guiding := owing_guiding
      side := owing_side
      service := fun call _ => hservice call
      locks := fun _ _ => rfl
      generate := fun _ _ _ _ => hservice _ }
  have hticks : Relation.ticks.Hidden Tables.owing := fun _ _ => rfl
  exact {
    hvoiced.toGuided with
    grows := Redeems.grows
    hear := fun _ _ _ => hvoiced.hear _ _ _ _
    peek := fun channel now => hvoiced.onStore (Tick.peek_frames hticks channel now)
    openTick := hvoiced.openTick hticks fun _ => Redeems.note rfl
    answerTrigger := answerTrigger_redeems hvoiced
    ambientTurn := fun sweep a => (runAmbientTurn_redeems hvoiced sweep a).once }

end Engine

/-! ## Courses -/

/-- Nobody from outside grants or spends credits, or writes the journal. -/
structure NothingGranted (w w' : World σ) : Prop where
  journal : w'.journal = w.journal
  failures : w.store.failures ≤ w'.store.failures
  owing : w'.store.tables.owing = w.store.tables.owing

/-- Every course redeems what it promises. -/
theorem Course.redeems {w w' : World σ} (course : Course (fun _ => True) NothingGranted w w') :
    Redeems [] [] w w' := by
  refine course.directed Tables.owing Redeems.chains ?_ fun e _ hservice => e.redeems hservice
  intro v v' h
  exact .of_owing h.journal h.failures h.owing

/-- In every course of engines in which no statement fails, whatever its order and however operations are
nested in services: the credits of an avatar in a channel have become fewer by as many as turns of it were
run there that the tier of summons selected, whether these turns ended with a message or in one of the four
ways without. -/
theorem summons_buy_turns {w w' : World σ} (course : Course (fun _ => True) NothingGranted w w')
    (hkeyed : w.store.tables.PresenceKeyed) (hf : w'.store.failures = w.store.failures)
    (channel avatar : String) {n : Nat} (hn : w.store.tables.credits (channel, avatar) = some n) :
    ∃ left, w'.store.tables.credits (channel, avatar) = some left ∧
      left + (summonTurns (w'.since w)).countP (·.1 = (channel, avatar)) = n := by
  have hredeems := course.redeems
  obtain ⟨new, hnew⟩ := hredeems.grows
  obtain ⟨left, hleft, hsum⟩ := (hredeems.redeemed hf hkeyed).balance _ n hn
  refine ⟨left, hleft, ?_⟩
  rw [World.since_eq hnew.symm]
  rw [← hnew, summonTurnsOf_append, List.count_nil] at hsum
  have hturns : (summonTurns new).countP (·.1 = (channel, avatar)) = summonTurnsOf (channel, avatar) new :=
    rfl
  omega

/-- A channel in which an avatar is owed one turn. -/
def Store.Tables.summoned : Tables :=
  { Tables.empty with
    presence := some [{ Presence.blankRow "c" "ada" .present 0 with
      lastSummonedAt := some (.number 0), summonTurns := .number 1 }] }

/-- The generator fails in the turn that was owed. The credit is gone, and that turn is what it bought. -/
theorem summons_buy_turns_failed :
    let w : World Unit := .ofTables .summoned ()
    let w' := (Operation.message "c" (Message.human "m" "c" "u" "?" 0)).after (.standard .wordless) w
    w'.store.tables.credits ("c", "ada") = some 0 ∧
      summonTurns (w'.since w) = [(("c", "ada"), .failed "Generation error: no text")] ∧
      0 + (summonTurns (w'.since w)).countP (·.1 = ("c", "ada")) = 1 := by
  intro w w'
  have hservice : ∀ call (v : World Unit), Course (fun _ => True) NothingGranted v
      (Collaborators.wordless.after call v) := by
    intro call v
    have hsame : Collaborators.wordless.after call v = v := by
      cases call <;> rfl
    rw [hsame]
    exact .outside ⟨rfl, Nat.le_refl _, rfl⟩
  have course : Course (fun _ => True) NothingGranted w w' :=
    .operation (e := .standard .wordless) (.message "c" _) w trivial hservice
  have hkeyed : w.store.tables.PresenceKeyed := List.pairwise_singleton _ _
  have hleft : w'.store.tables.credits ("c", "ada") = some 0 := by decide +kernel
  obtain ⟨left, hleft', hsum⟩ :=
    summons_buy_turns course hkeyed (by decide +kernel) "c" "ada" (n := 1) (by decide +kernel)
  obtain rfl := Option.some.inj (hleft.symm.trans hleft')
  exact ⟨hleft, by decide +kernel, hsum⟩

/-- It is not so that each credit that is gone was spent on a turn that ended with a message: one whose turn
failed is not given back. -/
theorem summons_not_given_back :
    ¬ ∀ (e : Engine Unit) (w : World Unit) (channel avatar : String) (m : Message) (n left : Nat),
      let w' := (Operation.message channel m).after e w
      w'.store.failures = w.store.failures →
        w.store.tables.credits (channel, avatar) = some n →
        w'.store.tables.credits (channel, avatar) = some left →
          left + (summonTurns (w'.since w)).countP (fun turn =>
            turn.1 = (channel, avatar) && turn.2.isResponded) = n := by
  intro h
  have hgone := h (.standard .wordless) (.ofTables .summoned ()) "c" "ada"
    (Message.human "m" "c" "u" "?" 0) 1 0 (by decide +kernel) (by decide +kernel) (by decide +kernel)
  exact absurd hgone (by decide +kernel)

end TurnTaking
