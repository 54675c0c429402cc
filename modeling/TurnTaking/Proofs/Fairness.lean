import Mathlib.Data.List.Perm.Subperm
import TurnTaking.Proofs.Presence
import TurnTaking.Proofs.Ranking
import TurnTaking.Proofs.Store.Reading

/-!
# Fairness — turns that go round

Where no score is above another and pins and mentions are alike, the avatar that has been silent the longest
is ranked first (`head_silent`). If the first avatar takes a turn in each of many rounds, then of those who
have not spoken for a while none is passed over for one who has (`Ahead`), so as many rounds as there are
avatars give each of them one turn (`turns_go_round`), whatever their past. What the rounds do to the
records is read off what a turn does to a row (`readRecord_turn`), so the same is true of the store
(`rounds_are_fair`).

A turn at the earliest moment of all is not told from no turn at all, and whoever takes one may be first
again (`fairness_fails_at_earliest_moment`).
-/

namespace TurnTaking.Presence

open Store Store.Access

/-! ## Level scores -/

/-- An insertion depends on how the avatar compares with the others and on nothing else. -/
theorem insertRanked_map {f : Ranked → Ranked} {a : Ranked} {l : List Ranked}
    (h : ∀ b ∈ l, compareRanked (f a) (f b) = compareRanked a b) :
    insertRanked (f a) (l.map f) = (insertRanked a l).map f := by
  induction l with
  | nil => rfl
  | cons b rest ih =>
    have hrest := ih fun c hc => h c (List.mem_cons_of_mem b hc)
    simp only [insertRanked, List.map_cons, h b List.mem_cons_self, hrest]
    split
    · rfl
    · rfl

/-- Changes that leave every comparison leave the order. -/
theorem sortRanked_map {f : Ranked → Ranked} {l : List Ranked}
    (h : ∀ a ∈ l, ∀ b ∈ l, compareRanked (f a) (f b) = compareRanked a b) :
    sortRanked (l.map f) = (sortRanked l).map f := by
  have hfold : ∀ todo done : List Ranked, (∀ a ∈ todo, a ∈ l) → (∀ a ∈ done, a ∈ l) →
      (todo.map f).foldl (fun done a => insertRanked a done) (done.map f) =
        (todo.foldl (fun done a => insertRanked a done) done).map f := by
    intro todo
    induction todo with
    | nil => exact fun _ _ _ => rfl
    | cons a rest ih =>
      intro done htodo hdone
      have ha := htodo a List.mem_cons_self
      rw [List.map_cons, List.foldl_cons, List.foldl_cons, insertRanked_map fun b hb => h a ha b (hdone b hb)]
      refine ih _ (fun b hb => htodo b (List.mem_cons_of_mem a hb)) fun b hb => ?_
      rcases List.mem_cons.mp ((insertRanked_perm a done).mem_iff.mp hb) with rfl | hb
      · exact ha
      · exact hdone b hb
  have hall := hfold l [] (fun _ ha => ha) fun _ ha => absurd ha List.not_mem_nil
  rw [List.map_nil] at hall
  rw [sortRanked, sortRanked, hall, List.map_reverse]

/-- Scores of which none is above the other. -/
theorem compareScores_level {x y : Float} (h : ¬ x < y) (h' : ¬ y < x) : compareScores x y = .eq := by
  rw [compareScores, if_neg h, if_neg h']

/-- Nothing but their past turns and their ids tells the avatars apart. -/
structure Peers (records : List Record) : Prop where
  ids : (records.map Record.avatarId).Nodup
  pins : ∀ r ∈ records, ∀ r' ∈ records, r.priorityPins = r'.priorityPins
  mentions : ∀ r ∈ records, ∀ r' ∈ records, r.lastMentionedAt = r'.lastMentionedAt

/-- When an avatar spoke last, as rankings see it. -/
def Record.spokenAt (r : Record) : Int := r.lastTurnAt.getD earliestMoment

/-- Where all else is alike, who comes no later has been silent at least as long. -/
theorem spokenAt_le_of_noLater {a b : Ranked} (hscore : ¬ a.score < b.score) (hscore' : ¬ b.score < a.score)
    (hpins : a.record.priorityPins = b.record.priorityPins)
    (hmentions : a.record.lastMentionedAt = b.record.lastMentionedAt) (h : NoLater a b) :
    a.record.spokenAt ≤ b.record.spokenAt := by
  have hsilence : compareRanked a b =
      (compare a.record.spokenAt b.record.spokenAt).then (compare a.avatarId b.avatarId) := by
    have hpin : compare b.record.priorityPins a.record.priorityPins = .eq := Nat.compare_eq_eq.mpr hpins.symm
    have hmention : compareMoments b.record.lastMentionedAt a.record.lastMentionedAt = .eq := by
      rw [compareMoments_eq, hmentions]
      exact Std.ReflCmp.compare_self
    rw [compareRanked, compareScores_level hscore' hscore, hpin, hmention]
    rfl
  by_contra hlater
  have hafter : compare a.record.spokenAt b.record.spokenAt = .gt :=
    Int.compare_eq_gt.mpr (Int.not_le.mp hlater)
  rw [NoLater, hsilence, hafter] at h
  exact h rfl

/-- No record has a score above that of another. -/
def Level (records : List Record) (rule : Initiative) (context : Context) : Prop :=
  ∀ r ∈ records, ∀ r' ∈ records, ¬ rule.score r context < rule.score r' context

/-- Of peers with level scores the first has been silent the longest. -/
theorem head_silent {records : List Record} {rule : Initiative} {context : Context} {first : Ranked}
    (hpeers : Peers records) (hlevel : Level records rule context)
    (hfirst : (rank records rule context).head? = some first) :
    first.record ∈ records ∧ ∀ r ∈ records, first.record.spokenAt ≤ r.spokenAt := by
  -- with one number for all scores, the order is the same, and it is one
  let plain (a : Ranked) : Ranked := { a with score := 0 }
  have hzero : ¬ (0 : Float) < 0 := by decide +kernel
  have hscores : ∀ a ∈ records.map (rule.rate context), ∀ b ∈ records.map (rule.rate context),
      ¬ a.score < b.score := by
    intro a ha b hb
    obtain ⟨r, hr, rfl⟩ := List.mem_map.mp ha
    obtain ⟨r', hr', rfl⟩ := List.mem_map.mp hb
    exact hlevel r hr r' hr'
  have hsame : ∀ a ∈ records.map (rule.rate context), ∀ b ∈ records.map (rule.rate context),
      compareRanked (plain a) (plain b) = compareRanked a b := by
    intro a ha b hb
    rw [compareRanked, compareRanked, compareScores_level hzero hzero,
      compareScores_level (hscores b hb a ha) (hscores a ha b hb)]
    rfl
  have hsorted : ((rank records rule context).map plain).Pairwise NoLater := by
    show ((sortRanked (records.map (rule.rate context))).map plain).Pairwise NoLater
    rw [← sortRanked_map hsame]
    refine pairwise_sortRanked fun a ha => ?_
    obtain ⟨b, -, rfl⟩ := List.mem_map.mp ha
    exact (by decide +kernel : (0 : Float).isNaN = false)
  have hmem := record_of_rank (List.mem_of_head? hfirst)
  refine ⟨hmem, fun r hr => ?_⟩
  obtain ⟨rest, hrank⟩ := List.head?_eq_some_iff.mp hfirst
  rw [hrank, List.map_cons, List.pairwise_cons] at hsorted
  have hrated : rule.rate context r ∈ rank records rule context := mem_rank.mpr ⟨r, hr, rfl⟩
  rw [hrank] at hrated
  rcases List.mem_cons.mp hrated with hself | hrest
  · rw [← hself]
    exact Int.le_refl _
  · have hbefore := hsorted.1 (plain (rule.rate context r)) (List.mem_map_of_mem hrest)
    exact spokenAt_le_of_noLater (a := plain first) (b := plain (rule.rate context r)) hzero hzero
      (hpeers.pins _ hmem r hr) (hpeers.mentions _ hmem r hr) hbefore

/-! ## Rounds -/

/-- A round: by what the avatars are ranked, and what is recorded of the turn that the first of them takes. -/
structure Round where
  rule : Initiative
  context : Context
  time : Int
  cooldown : Int

def Record.afterTurn (r : Record) (now cooldown : Int) : Record :=
  { r with
    state := .present, lastTurnAt := some now, cooldownUntil := some (Numeral.wrapped (now + cooldown)),
    turnsTaken := (r.turnsTaken + 1) % 0x10000000000000000, updatedAt := now }

namespace Round

/-- The avatar that comes first. -/
def pick? (round : Round) (records : List Record) : Option String :=
  (rank records round.rule round.context).head?.map Ranked.avatarId

/-- The records after the turn of an avatar. -/
def played (round : Round) (avatar : String) (records : List Record) : List Record :=
  records.map fun r => if r.avatarId = avatar then r.afterTurn round.time round.cooldown else r

/-- The avatars of a channel are ranked, and the first takes a turn. -/
def access (round : Round) (channel : String) : Access (Option String) := do
  match round.pick? (← inChannel channel) with
  | none => return none
  | some avatar =>
    recordTurn channel avatar round.time round.cooldown
    return some avatar

end Round

/-- Rounds one after another, and who took their turns. -/
def playRounds (channel : String) : List Round → Access (List String)
  | [] => return []
  | round :: rest => do
    let pick ← round.access channel
    let picks ← playRounds channel rest
    return pick.toList ++ picks

def turns : List Record → List Round → List String
  | _, [] => []
  | records, round :: rest =>
    match round.pick? records with
    | none => turns records rest
    | some avatar => avatar :: turns (round.played avatar records) rest

section

variable {records : List Record} {round : Round} {avatar : String}

theorem ids_played : (round.played avatar records).map Record.avatarId = records.map Record.avatarId := by
  rw [Round.played, List.map_map]
  refine List.map_congr_left fun r _ => ?_
  rw [Function.comp_apply]
  split
  · rfl
  · rfl

/-- A record after a round is that of the avatar that spoke, or the one that was there. -/
theorem mem_played {r' : Record} (h : r' ∈ round.played avatar records) :
    ∃ r ∈ records, r'.avatarId = r.avatarId ∧
      (r.avatarId = avatar ∧ r' = r.afterTurn round.time round.cooldown ∨ r.avatarId ≠ avatar ∧ r' = r) := by
  obtain ⟨r, hr, rfl⟩ := List.mem_map.mp h
  refine ⟨r, hr, ?_⟩
  split
  · rename_i hspoke
    exact ⟨rfl, .inl ⟨hspoke, rfl⟩⟩
  · rename_i hsilent
    exact ⟨rfl, .inr ⟨hsilent, rfl⟩⟩

/-- A turn neither pins an avatar nor mentions it. -/
theorem kept_played {r' : Record} (h : r' ∈ round.played avatar records) :
    ∃ r ∈ records, r'.priorityPins = r.priorityPins ∧ r'.lastMentionedAt = r.lastMentionedAt := by
  obtain ⟨r, hr, -, hcase⟩ := mem_played h
  refine ⟨r, hr, ?_⟩
  rcases hcase with ⟨-, rfl⟩ | ⟨-, rfl⟩
  · exact ⟨rfl, rfl⟩
  · exact ⟨rfl, rfl⟩

/-- Peers stay peers after a turn. -/
theorem Peers.played (h : Peers records) (round : Round) (avatar : String) :
    Peers (round.played avatar records) where
  ids := by
    rw [ids_played]
    exact h.ids
  pins r' hr' s' hs' := by
    obtain ⟨r, hr, hpins, -⟩ := kept_played hr'
    obtain ⟨s, hs, hpins', -⟩ := kept_played hs'
    rw [hpins, hpins', h.pins r hr s hs]
  mentions r' hr' s' hs' := by
    obtain ⟨r, hr, -, hmention⟩ := kept_played hr'
    obtain ⟨s, hs, -, hmention'⟩ := kept_played hs'
    rw [hmention, hmention', h.mentions r hr s hs]

end

/-- Each round ranks these avatars without preferring any, and comes after all turns before it. -/
structure Impartial (records : List Record) (rounds : List Round) : Prop where
  level : ∀ round ∈ rounds, ∀ r r' : Record, r.avatarId ∈ records.map Record.avatarId →
    r'.avatarId ∈ records.map Record.avatarId →
    ¬ round.rule.score r round.context < round.rule.score r' round.context
  later : ∀ round ∈ rounds, ∀ r ∈ records, ∀ time, r.lastTurnAt = some time → time < round.time
  inOrder : rounds.Pairwise fun round next => round.time < next.time

section

variable {records : List Record} {round : Round} {rounds rest : List Round} {avatar : String}
  {recent : List String}

/-- What is left of the rounds after the first of them. -/
theorem Impartial.played (h : Impartial records (round :: rest)) :
    Impartial (round.played avatar records) rest where
  level next hnext := by
    rw [ids_played]
    exact h.level next (List.mem_cons_of_mem round hnext)
  later next hnext r' hr' time htime := by
    obtain ⟨r, hr, -, hcase⟩ := mem_played hr'
    rcases hcase with ⟨-, rfl⟩ | ⟨-, rfl⟩
    · obtain rfl := Option.some.inj htime
      exact (List.pairwise_cons.mp h.inOrder).1 next hnext
    · exact h.later next (List.mem_cons_of_mem round hnext) r' hr time htime
  inOrder := (List.pairwise_cons.mp h.inOrder).2

/-! ## Who spoke and who did not -/

/-- Whoever spoke in the latest rounds spoke later than whoever did not. -/
def Ahead (records : List Record) (recent : List String) : Prop :=
  ∀ r ∈ records, r.avatarId ∉ recent → ∀ r' ∈ records, r'.avatarId ∈ recent → r.spokenAt < r'.spokenAt

/-- In an impartial history the present round is level. -/
theorem Impartial.levelNow (h : Impartial records (round :: rest)) :
    Level records round.rule round.context := by
  intro r hr r' hr'
  exact h.level round List.mem_cons_self r r' (List.mem_map_of_mem hr) (List.mem_map_of_mem hr')

/-- Among avatars one is picked. -/
theorem pick?_of_ne_nil (round : Round) (h : records ≠ []) : ∃ avatar, round.pick? records = some avatar := by
  rw [Round.pick?]
  cases hrank : rank records round.rule round.context with
  | nil =>
    have hperm := rank_perm records round.rule round.context
    rw [hrank] at hperm
    exact absurd hperm.nil_eq.symm h
  | cons first others => exact ⟨first.avatarId, rfl⟩

/-- Who is picked is one of the avatars. -/
theorem mem_of_pick? (h : round.pick? records = some avatar) : avatar ∈ records.map Record.avatarId := by
  obtain ⟨first, hfirst, rfl⟩ := Option.map_eq_some_iff.mp h
  exact List.mem_map_of_mem (record_of_rank (List.mem_of_head? hfirst))

/-- As long as someone has not spoken in the latest rounds, nobody who has is picked. -/
theorem pick?_not_recent (hpeers : Peers records) (hlevel : Level records round.rule round.context)
    (hahead : Ahead records recent) (hwaiting : ∃ r ∈ records, r.avatarId ∉ recent)
    (hpick : round.pick? records = some avatar) : avatar ∉ recent := by
  obtain ⟨first, hfirst, rfl⟩ := Option.map_eq_some_iff.mp hpick
  obtain ⟨hmem, hsilent⟩ := head_silent hpeers hlevel hfirst
  obtain ⟨r, hr, hwaits⟩ := hwaiting
  intro hspoke
  have hlater := hahead r hr hwaits first.record hmem hspoke
  have hearlier := hsilent r hr
  omega

/-- Who speaks now has spoken later than all who are still to speak. -/
theorem Ahead.played (h : Ahead records recent) (hlate : earliestMoment < round.time)
    (hlater : ∀ r ∈ records, ∀ time, r.lastTurnAt = some time → time < round.time) :
    Ahead (round.played avatar records) (avatar :: recent) := by
  intro r' hr' hwaits s' hs' hspoke
  obtain ⟨r, hr, hid, hcase⟩ := mem_played hr'
  obtain ⟨s, hs, hid', hcase'⟩ := mem_played hs'
  rw [hid, List.mem_cons, not_or] at hwaits
  rcases hcase with ⟨hspeaks, -⟩ | ⟨-, rfl⟩
  · exact absurd hspeaks hwaits.1
  · rcases hcase' with ⟨-, rfl⟩ | ⟨hother, rfl⟩
    · -- the turn is later than any other, also than none
      show r'.spokenAt < round.time
      rw [Record.spokenAt]
      cases hlast : r'.lastTurnAt with
      | none => exact hlate
      | some time => exact hlater r' hr time hlast
    · rw [List.mem_cons] at hspoke
      exact h r' hr hwaits.2 s' hs (hspoke.resolve_left hother)

/-- Of different avatars not all are among fewer. -/
theorem exists_not_recent (hpeers : Peers records) (recent : List String)
    (h : recent.length < records.length) :
    ∃ r ∈ records, r.avatarId ∉ recent := by
  by_contra hnone
  push Not at hnone
  have hsubset : records.map Record.avatarId ⊆ recent := by
    intro id hid
    obtain ⟨r, hr, rfl⟩ := List.mem_map.mp hid
    exact hnone r hr
  have hle := (hpeers.ids.subperm hsubset).length_le
  rw [List.length_map] at hle
  omega

theorem length_played : (round.played avatar records).length = records.length := List.length_map _

/-! ## Turns -/

/-- Nobody else takes a turn. -/
theorem turns_subset : turns records rounds ⊆ records.map Record.avatarId := by
  induction rounds generalizing records with
  | nil => exact List.nil_subset _
  | cons round rest ih =>
    rw [turns]
    cases hpick : round.pick? records with
    | none => exact ih
    | some avatar =>
      have hrest : turns (round.played avatar records) rest ⊆
          (round.played avatar records).map Record.avatarId := ih
      rw [ids_played] at hrest
      exact List.cons_subset.mpr ⟨mem_of_pick? hpick, hrest⟩

/-- Every round gives a turn. -/
theorem length_turns (h : records ≠ []) : (turns records rounds).length = rounds.length := by
  induction rounds generalizing records with
  | nil => rfl
  | cons round rest ih =>
    obtain ⟨avatar, hpick⟩ := pick?_of_ne_nil round h
    have hstill : round.played avatar records ≠ [] := by
      intro hnone
      exact h (List.map_eq_nil_iff.mp hnone)
    rw [turns, hpick]
    exact congrArg (· + 1) (ih hstill)

/-- Until all have spoken, nobody speaks again. -/
theorem turns_apart (hpeers : Peers records) (himpartial : Impartial records rounds)
    (hlate : ∀ round ∈ rounds, earliestMoment < round.time) (hahead : Ahead records recent) {n : Nat}
    (hn : recent.length + n ≤ records.length) :
    ((turns records rounds).take n).Nodup ∧ ∀ avatar ∈ (turns records rounds).take n, avatar ∉ recent := by
  -- the rounds are counted down from the front, and whoever speaks in one joins those who spoke lately
  induction rounds generalizing records recent n with
  | nil =>
    rw [turns, List.take_nil]
    exact ⟨List.nodup_nil, fun _ h => absurd h List.not_mem_nil⟩
  | cons round rest ih =>
    cases n with
    | zero =>
      rw [List.take_zero]
      exact ⟨List.nodup_nil, fun _ h => absurd h List.not_mem_nil⟩
    | succ n =>
      have hwaiting := exists_not_recent hpeers recent (by omega)
      have hsome : records ≠ [] := by
        obtain ⟨r, hr, -⟩ := hwaiting
        exact List.ne_nil_of_mem hr
      obtain ⟨avatar, hpick⟩ := pick?_of_ne_nil round hsome
      have hnew := pick?_not_recent hpeers himpartial.levelNow hahead hwaiting hpick
      have hstep : Ahead (round.played avatar records) (avatar :: recent) :=
        hahead.played (hlate round List.mem_cons_self) (himpartial.later round List.mem_cons_self)
      obtain ⟨hnodup, hapart⟩ := ih (hpeers.played round avatar) himpartial.played
        (fun next hnext => hlate next (List.mem_cons_of_mem round hnext)) hstep (n := n)
        (by rw [length_played, List.length_cons]; omega)
      rw [turns, hpick, List.take_succ_cons]
      constructor
      · refine List.nodup_cons.mpr ⟨fun hagain => ?_, hnodup⟩
        exact hapart avatar hagain List.mem_cons_self
      · intro other hother
        rcases List.mem_cons.mp hother with rfl | hother
        · exact hnew
        · exact fun hrecent => hapart other hother (List.mem_cons_of_mem avatar hrecent)

/-- As many turns in a row as there are avatars are one turn of each of them. -/
def GoRound (ids picks : List String) : Prop :=
  ∀ i, i + ids.length ≤ picks.length → ((picks.drop i).take ids.length).Perm ids

/-- Among peers, turns go round. -/
theorem turns_go_round (hpeers : Peers records) (himpartial : Impartial records rounds)
    (hlate : ∀ round ∈ rounds, earliestMoment < round.time) :
    GoRound (records.map Record.avatarId) (turns records rounds) := by
  intro i hi
  induction i generalizing records rounds with
  | zero =>
    have hnobody : Ahead records [] := fun _ _ _ _ _ hspoke => absurd hspoke List.not_mem_nil
    obtain ⟨hnodup, -⟩ := turns_apart hpeers himpartial hlate hnobody
      (n := (records.map Record.avatarId).length) (by simp)
    rw [List.drop_zero]
    have hsubset : (turns records rounds).take (records.map Record.avatarId).length ⊆
        records.map Record.avatarId := fun a ha => turns_subset (List.mem_of_mem_take ha)
    refine (hnodup.subperm hsubset).perm_of_length_le ?_
    rw [List.length_take]
    omega
  | succ i ih =>
    -- the turns from here on are the first ones after the first round
    cases rounds with
    | nil =>
      rw [turns, List.length_nil] at hi
      omega
    | cons round rest =>
      cases hpick : round.pick? records with
      | none =>
        have hnobody : records = [] := by
          by_contra hsome
          obtain ⟨avatar, hsomeone⟩ := pick?_of_ne_nil round hsome
          rw [hpick] at hsomeone
          cases hsomeone
        subst hnobody
        simp
      | some avatar =>
        have hstep := ih (hpeers.played round avatar) himpartial.played
          fun next hnext => hlate next (List.mem_cons_of_mem round hnext)
        rw [ids_played] at hstep
        rw [turns, hpick] at hi ⊢
        rw [List.drop_succ_cons]
        refine hstep ?_
        dsimp only at hi
        rw [List.length_cons] at hi
        omega

end

/-! ## What a turn does to a row -/

/-- The row has no room for one more turn. -/
def Full (row : PresenceRow) : Prop := ∃ m, row.turnsTaken = .number m ∧ Numeral.isInt64 (m + 1) = false

/-- The number of turns is one more, unless there is no room for it. -/
theorem readWord_plus_one {row : PresenceRow} {n : Nat}
    (h : readWord 11 "turns_taken" row.turnsTaken = .ok n) :
    readWord 11 "turns_taken" (row.turnsTaken.plus 1) = .ok ((n + 1) % 0x10000000000000000) ∨
      Full row ∧ ∃ f, readWord 11 "turns_taken" (row.turnsTaken.plus 1) = .error f := by
  unfold Full
  cases hcell : row.turnsTaken with
  | number m =>
    rw [hcell] at h
    obtain rfl := Except.ok.inj h
    cases hroom : Numeral.isInt64 (m + 1) with
    | true =>
      -- there is room for one turn more
      left
      rw [Cell.plus_number hroom]
      show Except.ok (toWord (m + 1)) = _
      rw [toWord, toWord]
      congr 1
      omega
    | false =>
      -- the number is the largest, and the sum is none
      right
      refine ⟨⟨m, rfl, hroom⟩, .wrongType .real 11 "turns_taken", ?_⟩
      simp only [Cell.plus, Cell.reading, hroom]
      rfl
  | real x =>
    rw [hcell] at h
    cases h
  | text s =>
    rw [hcell] at h
    cases h

/-- Where a record could be read, the record after a turn can be read as far as the number of turns can. -/
theorem readRecord_turn {row : PresenceRow} {r : Record} (now cooldown : Int) (h : readRecord row = .ok r) :
    readWord 11 "turns_taken" row.turnsTaken = .ok r.turnsTaken ∧
      readRecord ((Change.turn now cooldown).revise row) =
        (readWord 11 "turns_taken" (row.turnsTaken.plus 1)).map fun n =>
          { r.afterTurn now cooldown with turnsTaken := n } := by
  unfold readRecord at h ⊢
  cases hstate : State.ofName? row.state with
  | none =>
    rw [hstate] at h
    cases h
  | some state =>
    simp only [hstate, pure_bind] at h
    obtain ⟨tags, htags, h⟩ := reading_ok h
    obtain ⟨lastTurn, -, h⟩ := reading_ok h
    obtain ⟨mentioned, hmentioned, h⟩ := reading_ok h
    obtain ⟨summoned, hsummoned, h⟩ := reading_ok h
    obtain ⟨summons, hsummons, h⟩ := reading_ok h
    obtain ⟨pins, hpins, h⟩ := reading_ok h
    obtain ⟨cool, -, h⟩ := reading_ok h
    obtain ⟨taken, htaken, h⟩ := reading_ok h
    obtain ⟨updated, -, h⟩ := reading_ok h
    obtain rfl := Except.ok.inj h
    -- the columns that the turn writes
    have hturn : readOptional 3 "last_turn_at" (some (.number now)) = .ok (some now) := rfl
    have hrest : readOptional 10 "cooldown_until" (some (.number (Numeral.wrapped (now + cooldown)))) =
        .ok (some (Numeral.wrapped (now + cooldown))) := rfl
    have htime : readNumber 12 "updated_at" (.number now) = .ok now := rfl
    refine ⟨htaken, ?_⟩
    simp only [Change.revise, State.ofName?_name, pure_bind, htags, hturn, hmentioned, hsummoned, hsummons,
      hpins, hrest, htime]
    cases readWord 11 "turns_taken" (row.turnsTaken.plus 1) with
    | error f => rfl
    | ok n => rfl

section

variable {rows : List PresenceRow} {records : List Record} {round : Round} {channel avatar : String}

/-- The turn of an avatar in a round as a change of its record. -/
def Round.mutation (round : Round) (channel avatar : String) : Mutation :=
  ⟨channel, avatar, .turn round.time round.cooldown⟩

/-- A recorded turn rewrites the presence rows as its mutation says. -/
theorem rewrites_recordTurn (round : Round) (channel avatar : String) :
    Rewrites .presence (fun _ => ()) (round.mutation channel avatar).apply
      (recordTurn channel avatar round.time round.cooldown) := by
  refine (Rewrites.change _).congr (fun _ => rfl) fun rows => ?_
  rw [Mutation.apply_eq rfl]
  have hmade : (round.mutation channel avatar).change.made? = some round.time := rfl
  exact Mutation.put_eq hmade rows

/-- A record of the channel as it is read after a turn, if there is room for one more. -/
theorem readRecord_touch {row : PresenceRow} {r : Record} (hchannel : row.channelId = channel)
    (h : readRecord row = .ok r) :
    readRecord ((round.mutation channel avatar).touch row) =
        .ok (if r.avatarId = avatar then r.afterTurn round.time round.cooldown else r) ∨
      Full row ∧ ∃ f, readRecord ((round.mutation channel avatar).touch row) = .error f := by
  have hkey := key_of_readRecord h
  have hsame : row.key = (round.mutation channel avatar).key ↔ r.avatarId = avatar := by
    rw [← hkey, Mutation.key, Round.mutation, Prod.mk.injEq, ← hchannel]
    exact and_iff_right (congrArg Prod.fst hkey)
  rw [Mutation.touch, Mutation.vacate_of_not_takesFloor (by rfl)]
  by_cases hspeaks : r.avatarId = avatar
  · rw [if_pos (hsame.mpr hspeaks), if_pos hspeaks]
    obtain ⟨htaken, hread⟩ := readRecord_turn round.time round.cooldown h
    have hrevised : readRecord ((round.mutation channel avatar).change.revise row) = _ := hread
    rw [hrevised]
    rcases readWord_plus_one htaken with hone | ⟨hfull, f, hnone⟩
    · rw [hone]
      exact .inl rfl
    · rw [hnone]
      exact .inr ⟨hfull, f, rfl⟩
  · rw [if_neg (mt hsame.mp hspeaks), if_neg hspeaks]
    exact .inl h

/-! ## What a turn does to the records of a channel -/

/-- The rows of a channel in the order in which they are read. -/
def rowsIn (channel : String) (rows : List PresenceRow) : List PresenceRow :=
  (rows.filter (·.channelId = channel)).mergeSort byAvatar

theorem mem_rowsIn {row : PresenceRow} : row ∈ rowsIn channel rows ↔ row ∈ rows ∧ row.channelId = channel := by
  rw [rowsIn, (List.mergeSort_perm _ _).mem_iff, List.mem_filter, decide_eq_true_eq]

/-- A change of a row that is there adds none. -/
theorem apply_of_held {m : Mutation} (hheld : m.key ∈ rows.map PresenceRow.key) :
    m.apply rows = rows.map m.touch := by
  rw [Mutation.apply, Mutation.added, Table.holds_eq_true.mpr hheld, if_pos rfl, List.append_nil]

/-- The rows keep their order where one of them changes. -/
theorem rowsIn_apply {m : Mutation} (hheld : m.key ∈ rows.map PresenceRow.key) :
    rowsIn channel (m.apply rows) = (rowsIn channel rows).map m.touch := by
  have hchannel : ∀ row : PresenceRow, (m.touch row).channelId = row.channelId :=
    fun row => congrArg Prod.fst (Mutation.key_touch row)
  have havatar : ∀ row : PresenceRow, (m.touch row).avatarId = row.avatarId :=
    fun row => congrArg Prod.snd (Mutation.key_touch row)
  have hfilter : (rows.map m.touch).filter (·.channelId = channel) =
      (rows.filter (·.channelId = channel)).map m.touch := by
    rw [List.filter_map]
    congr 2
    funext row
    rw [Function.comp_apply, hchannel]
  rw [rowsIn, rowsIn, apply_of_held hheld, hfilter]
  refine (List.map_mergeSort fun a _ b _ => ?_).symm
  rw [byAvatar, byAvatar, havatar, havatar]

/-- Each avatar that was read has a row in the channel. -/
theorem key_mem_of_read (h : readRows readRecord (rowsIn channel rows) = .ok records)
    (havatar : avatar ∈ records.map Record.avatarId) : (channel, avatar) ∈ rows.map PresenceRow.key := by
  obtain ⟨r, hr, rfl⟩ := List.mem_map.mp havatar
  obtain ⟨row, hrow, hread⟩ := mem_of_readRows h hr
  obtain ⟨hmem, hchannel⟩ := mem_rowsIn.mp hrow
  obtain ⟨-, hid⟩ := Prod.mk.inj (key_of_readRecord hread)
  exact List.mem_map.mpr ⟨row, hmem, Prod.ext hchannel hid.symm⟩

/-- What is read of a channel after a turn of one of its avatars. -/
theorem read_played (round : Round) (h : readRows readRecord (rowsIn channel rows) = .ok records)
    (havatar : avatar ∈ records.map Record.avatarId) :
    readRows readRecord (rowsIn channel ((round.mutation channel avatar).apply rows)) =
        .ok (round.played avatar records) ∨
      (∃ row ∈ rowsIn channel rows, Full row) ∧
        ∃ f, readRows readRecord (rowsIn channel ((round.mutation channel avatar).apply rows)) = .error f := by
  rw [rowsIn_apply (key_mem_of_read h havatar)]
  refine readRows_map h fun row hrow r hr => ?_
  exact readRecord_touch (mem_rowsIn.mp hrow).2 hr

/-! ## Rounds in the store -/

/-- Whoever took the turns of rounds that came to an end took them as the records tell. -/
theorem turns_of_playRounds {rounds : List Round} {picks : List String} {s s' : Store}
    (hrows : s.tables.presence = some rows)
    (hread : ∀ found, readRows readRecord (rowsIn channel rows) = .ok found → found = records)
    (h : (playRounds channel rounds).Runs s (.ok picks) s') : picks = turns records rounds := by
  induction rounds generalizing s s' rows records picks with
  | nil =>
    obtain ⟨rfl, -⟩ := runs_pure_ok h
    rfl
  | cons round rest ih =>
    obtain ⟨pick, s₁, hround, h⟩ := runs_bind_ok h
    obtain ⟨others, s₂, hrest, h⟩ := runs_bind_ok h
    obtain ⟨hpicks, -⟩ := runs_pure_ok h
    rw [hpicks]
    obtain ⟨found, s₃, hfound, hround⟩ := runs_bind_ok hround
    obtain ⟨rows', hrows', hfound, htables⟩ := runs_query_ok hfound
    obtain rfl : rows' = rows := Option.some.inj (hrows'.symm.trans hrows)
    obtain rfl := hread found hfound
    rw [turns]
    cases hpick : round.pick? found with
    | none =>
      -- nobody is there, and the round changes nothing
      simp only [hpick] at hround
      obtain ⟨rfl, rfl⟩ := runs_pure_ok hround
      rw [← htables] at hrows
      have hothers := ih hrows hread hrest
      rw [hothers]
      rfl
    | some avatar =>
      simp only [hpick] at hround
      obtain ⟨_, s₄, hturn, hround⟩ := runs_bind_ok hround
      obtain ⟨rfl, rfl⟩ := runs_pure_ok hround
      obtain ⟨before, hbefore, -, hafter⟩ := (rewrites_recordTurn round channel avatar).result hturn
      have hsame : before = rows' := by
        rw [htables] at hbefore
        exact Option.some.inj (hbefore.symm.trans hrows)
      subst hsame
      have hpresence : s₁.tables.presence = some ((round.mutation channel avatar).apply before) := by
        rw [hafter]
        rfl
      -- what can still be read is what was read, with the turn
      have hstill : ∀ next,
          readRows readRecord (rowsIn channel ((round.mutation channel avatar).apply before)) = .ok next →
          next = round.played avatar found := by
        intro next hnext
        rcases read_played round hfound (mem_of_pick? hpick) with hplayed | ⟨-, f, hfault⟩
        · exact Except.ok.inj (hnext.symm.trans hplayed)
        · rw [hfault] at hnext
          cases hnext
      have hothers := ih hpresence hstill hrest
      rw [hothers]
      rfl

/-- There is room for so many turns in each row of the channel. -/
def Roomy (channel : String) (n : Nat) (rows : List PresenceRow) : Prop :=
  ∀ row ∈ rows, row.channelId = channel →
    ∃ taken : Nat, row.turnsTaken = .number taken ∧ taken + n < 0x8000000000000000

theorem isInt64_natCast {n : Nat} (h : n < 0x8000000000000000) : Numeral.isInt64 (n : Int) = true := by
  simp only [Numeral.isInt64, Bool.and_eq_true, decide_eq_true_eq]
  omega

/-- Where there is room for one more turn, no row is full. -/
theorem Roomy.not_full {n : Nat} (h : Roomy channel (n + 1) rows) {row : PresenceRow}
    (hrow : row ∈ rowsIn channel rows) : ¬ Full row := by
  obtain ⟨hmem, hchannel⟩ := mem_rowsIn.mp hrow
  obtain ⟨taken, htaken, hroom⟩ := h row hmem hchannel
  rintro ⟨m, hm, hfull⟩
  obtain rfl := Cell.number.inj (htaken.symm.trans hm)
  have hone : Numeral.isInt64 ((taken + 1 : Nat) : Int) = true := isInt64_natCast (by omega)
  rw [Int.natCast_add, Int.natCast_one, hfull] at hone
  cases hone

/-- A turn takes the room of one. -/
theorem Roomy.apply {n : Nat} (h : Roomy channel (n + 1) rows)
    (hheld : (channel, avatar) ∈ rows.map PresenceRow.key) :
    Roomy channel n ((round.mutation channel avatar).apply rows) := by
  intro row' hrow' hchannel
  rw [apply_of_held hheld] at hrow'
  obtain ⟨row, hrow, rfl⟩ := List.mem_map.mp hrow'
  have hkey : ((round.mutation channel avatar).touch row).channelId = row.channelId :=
    congrArg Prod.fst (Mutation.key_touch row)
  obtain ⟨taken, htaken, hroom⟩ := h row hrow (hkey.symm.trans hchannel)
  rw [Mutation.touch, Mutation.vacate_of_not_takesFloor (by rfl)]
  split
  · refine ⟨taken + 1, ?_, by omega⟩
    have hone : Numeral.isInt64 ((taken : Int) + 1) = true := isInt64_natCast (n := taken + 1) (by omega)
    show row.turnsTaken.plus 1 = _
    rw [htaken, Cell.plus_number hone]
    rfl
  · exact ⟨taken, htaken, by omega⟩

/-- Where nothing fails and there is room for the turns, the rounds come to an end. -/
theorem playRounds_of_roomy {rounds : List Round} {t : Tables} (hrows : t.presence = some rows)
    (hread : readRows readRecord (rowsIn channel rows) = .ok records)
    (hroom : Roomy channel rounds.length rows) :
    ∃ t', (playRounds channel rounds).Runs (.ofTables t) (.ok (turns records rounds)) (.ofTables t') := by
  induction rounds generalizing t rows records with
  | nil => exact ⟨t, rfl⟩
  | cons round rest ih =>
    have hfound : (inChannel channel).Runs (.ofTables t) (.ok records) (.ofTables t) :=
      runs_query_ofTables (r := .presence) hrows hread
    rw [turns]
    cases hpick : round.pick? records with
    | none =>
      -- the rows have more room than is needed
      have hfewer : Roomy channel rest.length rows := by
        intro row hrow hchannel
        obtain ⟨taken, htaken, hlt⟩ := hroom row hrow hchannel
        exact ⟨taken, htaken, Nat.lt_of_succ_lt hlt⟩
      obtain ⟨t', hrest⟩ := ih hrows hread hfewer
      have hround : (round.access channel).Runs (.ofTables t) (.ok none) (.ofTables t) := by
        refine hfound.bind ?_
        simp only [hpick]
        rfl
      exact ⟨t', hround.bind (hrest.bind rfl)⟩
    | some avatar =>
      have hheld := key_mem_of_read hread (mem_of_pick? hpick)
      have hturn := (rewrites_recordTurn round channel avatar).untroubled (t := t) hrows
      have hround : (round.access channel).Runs (.ofTables t) (.ok (some avatar))
          (.ofTables { t with presence := some ((round.mutation channel avatar).apply rows) }) := by
        refine hfound.bind ?_
        simp only [hpick]
        exact hturn.bind rfl
      have hplayed : readRows readRecord (rowsIn channel ((round.mutation channel avatar).apply rows)) =
          .ok (round.played avatar records) := by
        rcases read_played round hread (mem_of_pick? hpick) with
          hplayed | ⟨⟨row, hrow, hfull⟩, -⟩
        · exact hplayed
        · exact absurd hfull (hroom.not_full hrow)
      obtain ⟨t', hrest⟩ := ih
        (t := { t with presence := some ((round.mutation channel avatar).apply rows) }) rfl hplayed
        (hroom.apply hheld)
      exact ⟨t', hround.bind (hrest.bind rfl)⟩

/-- In a channel of avatars that only their past turns tell apart, let the first in the ranking take a turn,
again and again, each time later than all turns before it, and later than the earliest moment of all. Then
each round gives a turn, and as many turns in a row as there are avatars are one turn of each. Where nothing
fails and there is room to count the turns, the rounds come to an end. -/
theorem rounds_are_fair {channel : String} {records : List Record} {rounds : List Round} {s s₀ : Store}
    (hread : (inChannel channel).Runs s (.ok records) s₀) (hsome : records ≠ []) (hpeers : Peers records)
    (himpartial : Impartial records rounds) (hlate : ∀ round ∈ rounds, earliestMoment < round.time) :
    (∀ picks s', (playRounds channel rounds).Runs s (.ok picks) s' →
      picks.length = rounds.length ∧ GoRound (records.map Record.avatarId) picks) ∧
      ∀ t rows, s = .ofTables t → t.presence = some rows → Roomy channel rounds.length rows →
        ∃ picks t', (playRounds channel rounds).Runs s (.ok picks) (.ofTables t') := by
  obtain ⟨rows, hrows, hfound, -⟩ := runs_query_ok hread
  constructor
  · intro picks s' hrun
    have hpicks := turns_of_playRounds hrows
      (fun found hagain => Except.ok.inj (hagain.symm.trans hfound)) hrun
    rw [hpicks]
    exact ⟨length_turns hsome, turns_go_round hpeers himpartial hlate⟩
  · rintro t rows' rfl hrows' hroom
    obtain rfl : rows' = rows := Option.some.inj (hrows'.symm.trans hrows)
    obtain ⟨t', hrun⟩ := playRounds_of_roomy hrows' hfound hroom
    exact ⟨turns records rounds, t', hrun⟩

end

/-- Rounds at these times in which all scores are alike. -/
def flatRounds (times : List Int) : List Round :=
  times.map fun time => ⟨.flat 0.5, ⟨time, .empty⟩, time, 2000⟩

/-- They prefer none of the avatars. -/
theorem impartial_flatRounds {records : List Record} {times : List Int}
    (hlater : ∀ time ∈ times, ∀ r ∈ records, ∀ last, r.lastTurnAt = some last → last < time)
    (horder : times.Pairwise (· < ·)) : Impartial records (flatRounds times) where
  level := by
    intro round hround r r' _ _
    obtain ⟨time, -, rfl⟩ := List.mem_map.mp hround
    show ¬ (0.5 : Float) < 0.5
    decide +kernel
  later := by
    intro round hround
    obtain ⟨time, htime, rfl⟩ := List.mem_map.mp hround
    exact hlater time htime
  inOrder := List.pairwise_map.mpr horder

/-- The row of an avatar of the lobby of which no more is known than when it spoke, if at all. -/
def lobbyRow (a : String × Option Int) : PresenceRow :=
  { blankRow "lobby" a.1 .present 0 with lastTurnAt := a.2.map Cell.number }

def lobbyRecord (a : String × Option Int) : Record :=
  { Record.fresh "lobby" a.1 0 with lastTurnAt := a.2 }

/-- The tables with the rows of such avatars. -/
def lobbyTables (avatars : List (String × Option Int)) : Tables :=
  { Tables.empty with presence := some (avatars.map lobbyRow) }

theorem readRecord_lobbyRow (a : String × Option Int) : readRecord (lobbyRow a) = .ok (lobbyRecord a) := by
  have htags : readTexts 8 (storedTags .empty) = .ok TagSet.empty.toList := readTexts_ofTexts 8 _
  have hlast : readOptional 3 "last_turn_at" (a.2.map Cell.number) = .ok a.2 := by
    cases a.2 <;> rfl
  simp only [readRecord, lobbyRow, blankRow, State.ofName?_name, pure_bind, htags, hlast]
  rfl

/-- The records of the lobby are read in the order of their ids. -/
theorem read_lobby (avatars : List (String × Option Int))
    (hsorted : avatars.Pairwise fun a b => byAvatar (lobbyRow a) (lobbyRow b) = true) :
    readRows readRecord (rowsIn "lobby" (avatars.map lobbyRow)) = .ok (avatars.map lobbyRecord) := by
  have hall : (avatars.map lobbyRow).filter (·.channelId = "lobby") = avatars.map lobbyRow := by
    refine List.filter_eq_self.mpr fun row hrow => ?_
    obtain ⟨a, -, rfl⟩ := List.mem_map.mp hrow
    exact decide_eq_true rfl
  rw [rowsIn, hall, List.mergeSort_of_pairwise (List.pairwise_map.mpr hsorted)]
  clear hall hsorted
  induction avatars with
  | nil => rfl
  | cons a rest ih =>
    rw [List.map_cons, readRows, readRecord_lobbyRow, ih]
    rfl

/-- No turns have been counted there. -/
theorem roomy_lobby (avatars : List (String × Option Int)) {n : Nat} (h : n < 0x8000000000000000) :
    Roomy "lobby" n (avatars.map lobbyRow) := by
  intro row hrow _
  obtain ⟨a, -, rfl⟩ := List.mem_map.mp hrow
  exact ⟨0, rfl, by omega⟩

/-- Three of whom one has spoken. -/
def trio : List (String × Option Int) := [("ada", some 700), ("bob", none), ("cyd", none)]

/-- The one who has spoken waits for the other two, and then they take turns. -/
theorem rounds_are_fair_trio :
    (inChannel "lobby").Runs (.ofTables (lobbyTables trio)) (.ok (trio.map lobbyRecord))
        (.ofTables (lobbyTables trio)) ∧
      Peers (trio.map lobbyRecord) ∧ Impartial (trio.map lobbyRecord) (flatRounds [800, 801, 900, 950]) ∧
      turns (trio.map lobbyRecord) (flatRounds [800, 801, 900, 950]) = ["bob", "cyd", "ada", "bob"] ∧
      ∃ picks t', (playRounds "lobby" (flatRounds [800, 801, 900, 950])).Runs (.ofTables (lobbyTables trio))
        (.ok picks) (.ofTables t') ∧ GoRound ["ada", "bob", "cyd"] picks := by
  have hread : (inChannel "lobby").Runs (.ofTables (lobbyTables trio)) (.ok (trio.map lobbyRecord))
      (.ofTables (lobbyTables trio)) := runs_query_ofTables (r := .presence) rfl (read_lobby trio (by decide))
  have hpeers : Peers (trio.map lobbyRecord) := by
    constructor <;> decide
  have himpartial : Impartial (trio.map lobbyRecord) (flatRounds [800, 801, 900, 950]) := by
    refine impartial_flatRounds ?_ (by decide)
    simp [trio, lobbyRecord, Record.fresh]
  have hlate : ∀ round ∈ flatRounds [800, 801, 900, 950], earliestMoment < round.time := by
    simp [flatRounds, earliestMoment]
  have hroom : Roomy "lobby" 4 (trio.map lobbyRow) := roomy_lobby trio (by decide)
  obtain ⟨hfair, hends⟩ := rounds_are_fair hread (by decide) hpeers himpartial hlate
  obtain ⟨picks, t', hrun⟩ := hends _ _ rfl rfl hroom
  exact ⟨hread, hpeers, himpartial, by decide +kernel, picks, t', hrun, (hfair _ _ hrun).2⟩

/-- Two who have never spoken. -/
def duo : List (String × Option Int) := [("ada", none), ("bob", none)]

/-- Whoever takes a turn at the earliest moment of all is first again, before one who has never spoken. -/
theorem fairness_fails_at_earliest_moment :
    (inChannel "lobby").Runs (.ofTables (lobbyTables duo)) (.ok (duo.map lobbyRecord))
        (.ofTables (lobbyTables duo)) ∧
      Peers (duo.map lobbyRecord) ∧ Impartial (duo.map lobbyRecord) (flatRounds [earliestMoment, 1000]) ∧
      ∃ t', (playRounds "lobby" (flatRounds [earliestMoment, 1000])).Runs (.ofTables (lobbyTables duo))
        (.ok ["ada", "ada"]) (.ofTables t') ∧ ¬ GoRound ["ada", "bob"] ["ada", "ada"] := by
  have hread := read_lobby duo (by decide)
  have hpeers : Peers (duo.map lobbyRecord) := by
    constructor <;> decide
  have himpartial : Impartial (duo.map lobbyRecord) (flatRounds [earliestMoment, 1000]) := by
    refine impartial_flatRounds ?_ (by decide)
    simp [duo, lobbyRecord, Record.fresh]
  have hroom : Roomy "lobby" 2 (duo.map lobbyRow) := roomy_lobby duo (by decide)
  have hrows : (lobbyTables duo).presence = some (duo.map lobbyRow) := rfl
  have hends : ∃ t', (playRounds "lobby" (flatRounds [earliestMoment, 1000])).Runs
      (.ofTables (lobbyTables duo)) (.ok (turns (duo.map lobbyRecord) (flatRounds [earliestMoment, 1000])))
      (.ofTables t') := playRounds_of_roomy hrows hread hroom
  have hturns : turns (duo.map lobbyRecord) (flatRounds [earliestMoment, 1000]) = ["ada", "ada"] := by
    decide +kernel
  rw [hturns] at hends
  obtain ⟨t', hrun⟩ := hends
  refine ⟨runs_query_ofTables (r := .presence) rfl hread, hpeers, himpartial, t', hrun, fun hfair => ?_⟩
  have hperm := hfair 0 (by decide)
  exact absurd hperm (by decide)

end TurnTaking.Presence
