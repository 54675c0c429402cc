import TurnTaking.Proofs.Credits
import TurnTaking.Proofs.Store.Rewrite

/-!
# Presence — changes as functions of the rows

Every change of a presence record is told by what it does to a row (`Change.revise`) and by whether it makes
a row where there is none (`Change.made?`). A row that is made is the blank one, revised. Besides, whoever
takes the floor in a channel leaves no one else with it (`Mutation.vacate`). From that follows what a change
does to the whole table (`Mutation.apply`), whichever change it is (`Mutation.rewrites`).
-/

namespace TurnTaking.Presence

open Store Store.Access

/-- What may be changed about a presence record. -/
inductive Change where
  | turn (now cooldown : Int)
  | mention (now : Int)
  | grant (turns : Nat) (now : Int)
  | spend
  | role (given : Option Role) (now : Int)
  | pin (now : Int)
  | unpin
  | topics (tags : TagSet) (now : Int)
  | state (new : State) (now : Int)
deriving DecidableEq, Repr

/-- A change of the record of an avatar in a channel. -/
structure Mutation where
  channelId : String
  avatarId : String
  change : Change
deriving DecidableEq, Repr

namespace Change

/-- What is left of owed turns when one is spent. -/
def spent (owed : Cell) : Cell := if (Cell.number 0).below owed then owed.plus (-1) else owed

/-- The record after the change. -/
def revise (c : Change) (r : PresenceRow) : PresenceRow :=
  match c with
  | .turn now cooldown =>
    { r with
      state := State.present.name, lastTurnAt := some now,
      cooldownUntil := some (.number (Numeral.wrapped (now + cooldown))), turnsTaken := r.turnsTaken.plus 1, updatedAt := now }
  | .mention now => { r with lastMentionedAt := some now, updatedAt := now }
  | .grant turns now =>
    { r with
      state := State.present.name, lastSummonedAt := some now, summonTurns := .number turns,
      updatedAt := now }
  | .spend => { r with summonTurns := spent r.summonTurns }
  | .role given now => { r with role := given.map Role.name, updatedAt := now }
  | .pin now => { r with priorityPins := r.priorityPins.plus 1, updatedAt := now }
  | .unpin => { r with priorityPins := .number 0 }
  | .topics tags now => { r with topicTags := storedTags tags, updatedAt := now }
  | .state new now => { r with state := new.name, updatedAt := now }

/-- When the change makes a record, if it makes one. -/
def made? : Change → Option Int
  | .turn now _ | .mention now | .grant _ now | .role _ now | .pin now | .topics _ now | .state _ now =>
    some now
  | .spend | .unpin => none

/-- The change gives the floor to someone. -/
def takesFloor (c : Change) : Bool :=
  match c with
  | .role (some .activeSpeaker) _ => true
  | _ => false

@[simp] theorem key_revise (c : Change) (r : PresenceRow) : (c.revise r).key = r.key := by
  cases c <;> rfl

/-- The change is not about roles. -/
def Impartial (c : Change) : Prop := ∀ given now, c ≠ .role given now

/-- An impartial change leaves the role. -/
theorem role_revise {c : Change} (hc : c.Impartial) (r : PresenceRow) : (c.revise r).role = r.role := by
  cases c with
  | role given now => exact absurd rfl (hc given now)
  | _ => rfl

/-- What does not give the floor to a blank row leaves it without a role. -/
theorem role_of_blank {c : Change} (hfloor : c.takesFloor = false) (channel avatar : String)
    (now : Int) : (c.revise (blankRow channel avatar .present now)).role = none := by
  cases c with
  | role given now =>
    cases given with
    | none => rfl
    | some given => cases given; cases hfloor
  | _ => rfl

/-- An impartial change takes no floor. -/
theorem not_takesFloor {c : Change} (hc : c.Impartial) : c.takesFloor = false := by
  cases c with
  | role given now => exact absurd rfl (hc given now)
  | _ => rfl

end Change

/-! ## The floor -/

/-- The row is that of an active speaker of the channel. -/
def holdsFloor (channel : String) (r : PresenceRow) : Bool :=
  r.channelId = channel && r.role = some Role.activeSpeaker.name

/-- The floor is held by role and channel. -/
theorem holdsFloor_iff {channel : String} {r : PresenceRow} :
    holdsFloor channel r = true ↔ r.channelId = channel ∧ r.role = some Role.activeSpeaker.name := by
  simp [holdsFloor]

/-- A row tells of the floor by its channel and its role. -/
theorem holdsFloor_congr {channel : String} {r r' : PresenceRow} (hkey : r'.key = r.key)
    (hrole : r'.role = r.role) : holdsFloor channel r' = holdsFloor channel r := by
  have hchannel : r'.channelId = r.channelId := congrArg Prod.fst hkey
  rw [holdsFloor, holdsFloor, hchannel, hrole]

/-- A row tells nothing of the floors of other channels. -/
theorem holdsFloor_other {channel : String} {r : PresenceRow} (h : r.channelId ≠ channel) :
    holdsFloor channel r = false := by
  rw [holdsFloor, decide_eq_false h, Bool.false_and]

@[simp] theorem holdsFloor_roleless (channel : String) (r : PresenceRow) :
    holdsFloor channel { r with role := none } = false := by
  simp [holdsFloor]

/-- A role is given, and taken from others, in one step. -/
theorem transactional_setRole (channel avatar : String) (given : Option Role) (now : Int) :
    Transactional (setRole channel avatar given now) := by
  refine Reports.atomically ?_
  show Reports (if _ then _ else _)
  split
  · exact (Reports.change _ _).bind fun _ => .change _ _
  · exact .change _ _

/-! ## Changes of the table -/

namespace Mutation

/-- The program that makes the change; spending an owed turn says whether there was one. -/
def access (m : Mutation) : Access (Option Bool) :=
  match m.change with
  | .turn now cooldown => do
    recordTurn m.channelId m.avatarId now cooldown
    return none
  | .mention now => do
    recordMention m.channelId m.avatarId now
    return none
  | .grant turns now => do
    grantSummon m.channelId m.avatarId turns now
    return none
  | .spend => do return some (← consumeSummon m.channelId m.avatarId)
  | .role given now => do
    setRole m.channelId m.avatarId given now
    return none
  | .pin now => do
    addPin m.channelId m.avatarId now
    return none
  | .unpin => do
    clearPins m.channelId m.avatarId
    return none
  | .topics tags now => do
    setTopics m.channelId m.avatarId tags now
    return none
  | .state new now => do
    setState m.channelId m.avatarId new now
    return none

/-- The key of the record that is changed. -/
def key (m : Mutation) : String × String := (m.channelId, m.avatarId)

/-- A record without the floor of the channel, if the change gives that to someone. -/
def vacate (m : Mutation) (r : PresenceRow) : PresenceRow :=
  if m.change.takesFloor && holdsFloor m.channelId r then { r with role := none } else r

/-- What becomes of a row. -/
def touch (m : Mutation) (r : PresenceRow) : PresenceRow :=
  if r.key = m.key then m.change.revise r else m.vacate r

/-- The record as it is made, if the change makes one. -/
def fresh? (m : Mutation) : Option PresenceRow :=
  m.change.made?.map fun now => m.change.revise (blankRow m.channelId m.avatarId .present now)

def added (m : Mutation) (rows : List PresenceRow) : List PresenceRow :=
  if Table.holds PresenceRow.key m.key rows then [] else m.fresh?.toList

/-- The rows after the change. -/
def apply (m : Mutation) (rows : List PresenceRow) : List PresenceRow :=
  rows.map m.touch ++ m.added rows

def answer (m : Mutation) (rows : List PresenceRow) : Option Bool :=
  match m.change with
  | .spend => some (decide (rows.countP (owes m.channelId m.avatarId) = 1))
  | _ => none

variable {m : Mutation}

@[simp] theorem key_vacate (r : PresenceRow) : (m.vacate r).key = r.key := by
  rw [vacate]
  split <;> rfl

theorem summonTurns_vacate (r : PresenceRow) : (m.vacate r).summonTurns = r.summonTurns := by
  rw [vacate]
  split <;> rfl

@[simp] theorem key_touch (r : PresenceRow) : (m.touch r).key = r.key := by
  rw [touch]
  split
  · exact Change.key_revise m.change r
  · exact key_vacate r

/-- Who takes no floor clears none. -/
theorem vacate_of_not_takesFloor (h : m.change.takesFloor = false) (r : PresenceRow) :
    m.vacate r = r := by
  rw [vacate, h, Bool.false_and, if_neg Bool.false_ne_true]

/-- The floor is given in one channel. -/
theorem vacate_other {r : PresenceRow} (h : r.channelId ≠ m.channelId) : m.vacate r = r := by
  rw [vacate, holdsFloor_other h, Bool.and_false, if_neg Bool.false_ne_true]

/-- What is made is made under the key. -/
theorem key_of_fresh {r : PresenceRow} (h : m.fresh? = some r) : r.key = m.key := by
  rw [fresh?, Option.map_eq_some_iff] at h
  obtain ⟨now, -, rfl⟩ := h
  exact Change.key_revise _ _

/-- A row that is added is the one that is made. -/
theorem fresh_of_mem {r : PresenceRow} {rows : List PresenceRow} (h : r ∈ m.added rows) :
    m.fresh? = some r := by
  rw [added] at h
  split at h
  · cases h
  · exact Option.mem_toList.mp h

/-- Each avatar still has one row in each channel. -/
theorem nodup_apply {rows : List PresenceRow} (h : (rows.map PresenceRow.key).Nodup) :
    ((m.apply rows).map PresenceRow.key).Nodup := by
  have hkeys : (rows.map m.touch).map PresenceRow.key = rows.map PresenceRow.key :=
    Table.map_key key_touch rows
  rw [apply, added]
  cases hholds : Table.holds PresenceRow.key m.key rows with
  | true =>
    rw [if_pos rfl, List.append_nil, hkeys]
    exact h
  | false =>
    rw [if_neg Bool.false_ne_true]
    cases hfresh : m.fresh? with
    | none =>
      rw [Option.toList_none, List.append_nil, hkeys]
      exact h
    | some r =>
      rw [Option.toList_some, Table.nodup_append, hkeys]
      · exact h
      · rw [key_of_fresh hfresh, Table.holds_map key_touch, hholds]

/-! ### Programs -/

/-- To put the revised blank row, or else to revise the row that is there, is to revise the table. -/
theorem put_eq {now : Int} (hmade : m.change.made? = some now) (rows : List PresenceRow) :
    Table.put PresenceRow.key (m.change.revise (blankRow m.channelId m.avatarId .present now))
        m.change.revise rows =
      rows.map (fun r => if r.key = m.key then m.change.revise r else r) ++ m.added rows := by
  have hkey : (m.change.revise (blankRow m.channelId m.avatarId .present now)).key = m.key :=
    Change.key_revise _ _
  rw [Table.put, hkey, added, fresh?, hmade]
  cases hholds : Table.holds PresenceRow.key m.key rows with
  | true => simp only [if_true, List.append_nil]
  | false =>
    -- no row is under the key, so that revising those under it changes none
    have hothers : ∀ r ∈ rows, (if r.key = m.key then m.change.revise r else r) = r := by
      intro r hr
      have hne := List.any_eq_false.mp hholds r hr
      rw [if_neg (by simpa using hne)]
    rw [List.map_congr_left hothers, List.map_id']
    rfl

/-- What a change of one row does to the table, where it does not give the floor to someone. -/
theorem apply_eq (hfloor : m.change.takesFloor = false) (rows : List PresenceRow) :
    m.apply rows = rows.map (fun r => if r.key = m.key then m.change.revise r else r) ++ m.added rows := by
  rw [apply]
  congr 2
  funext r
  rw [touch, vacate_of_not_takesFloor hfloor]

/-- What makes no row changes those that are there. -/
theorem apply_of_not_made (h : m.change.made? = none) (rows : List PresenceRow) :
    m.apply rows = rows.map m.touch := by
  rw [apply, added, fresh?, h, Option.map_none, Option.toList_none, ite_self, List.append_nil]

/-- Putting a row is such a change. -/
theorem rewrites_put {now : Int} {r : PresenceRow} {change : PresenceRow → PresenceRow}
    (hmade : m.change.made? = some now) (hfloor : m.change.takesFloor = false)
    (hanswer : ∀ rows, m.answer rows = none)
    (hr : r = m.change.revise (blankRow m.channelId m.avatarId .present now))
    (hchange : change = m.change.revise) :
    Rewrites .presence m.answer m.apply (do putRow r change; return none) := by
  subst hr hchange
  refine ((Rewrites.change _).map fun _ => none).congr (fun rows => (hanswer rows).symm) fun rows => ?_
  rw [apply_eq hfloor]
  exact put_eq hmade rows

/-- An owed turn is spent by the row that owes it. -/
theorem touch_spend (channel avatar : String) (r : PresenceRow) :
    touch ⟨channel, avatar, .spend⟩ r = spendFrom channel avatar r := by
  rw [touch, vacate_of_not_takesFloor (by rfl), spendFrom]
  by_cases hkey : r.key = (channel, avatar)
  · have howes : owes channel avatar r = (Cell.number 0).below r.summonTurns := by
      obtain ⟨hchannel, havatar⟩ := Prod.mk.inj hkey
      simp [owes, hchannel, havatar]
    rw [if_pos (by exact hkey), howes, Change.revise, Change.spent]
    split
    · rfl
    · rfl
  · rw [if_neg (by exact hkey), owes_other hkey, if_neg Bool.false_ne_true]

/-- Where the floor is given to someone, nobody else in the channel keeps it. -/
theorem put_vacated (channel avatar : String) (now : Int) (rows : List PresenceRow) :
    let m : Mutation := ⟨channel, avatar, .role (some .activeSpeaker) now⟩
    Table.put PresenceRow.key (m.change.revise (blankRow channel avatar .present now)) m.change.revise
        (rows.map m.vacate) =
      m.apply rows := by
  intro m
  have hput := put_eq (m := m) (by rfl) (rows.map m.vacate)
  rw [List.map_map, added, Table.holds_map key_vacate] at hput
  rw [apply, added]
  refine hput.trans (congrArg (· ++ _) (List.map_congr_left fun r _ => ?_))
  rw [Function.comp_apply, key_vacate, touch]
  by_cases hkey : r.key = m.key
  · -- the role of the row itself is written over
    rw [if_pos hkey, if_pos hkey, vacate]
    split
    · rfl
    · rfl
  · rw [if_neg hkey, if_neg hkey]

/-- To take the floor clears it first, in one transaction. -/
theorem rewrites_floor (channel avatar : String) (now : Int) :
    Rewrites .presence (fun _ => none) (apply ⟨channel, avatar, .role (some .activeSpeaker) now⟩)
      (access ⟨channel, avatar, .role (some .activeSpeaker) now⟩) := by
  have hclear := Rewrites.change (r := .presence) <| Table.amend (holdsFloor channel) fun r =>
    { r with role := none }
  have hput := Rewrites.change (r := .presence) fun rows => ((), Table.put PresenceRow.key
    { blankRow channel avatar .present now with role := some Role.activeSpeaker.name }
    (fun r => { r with role := some Role.activeSpeaker.name, updatedAt := now }) rows)
  -- the second statement rewrites what the first has left
  have hgroup := (hclear.bind Relation.lawful_presence fun _ => hput).atomically
  exact (hgroup.map fun _ => none).congr (fun _ => rfl) (put_vacated channel avatar now)

/-- Whichever change it is, it does to the rows what is said of it. -/
theorem rewrites (m : Mutation) : Rewrites .presence m.answer m.apply m.access := by
  obtain ⟨channel, avatar, change⟩ := m
  cases change with
  | turn now cooldown => exact rewrites_put rfl rfl (fun _ => rfl) rfl rfl
  | mention now => exact rewrites_put rfl rfl (fun _ => rfl) rfl rfl
  | grant turns now => exact rewrites_put rfl rfl (fun _ => rfl) rfl rfl
  | pin now => exact rewrites_put rfl rfl (fun _ => rfl) rfl rfl
  | topics tags now => exact rewrites_put rfl rfl (fun _ => rfl) rfl rfl
  | state new now => exact rewrites_put rfl rfl (fun _ => rfl) rfl rfl
  | spend =>
    -- no row is made for a credit to be spent
    refine (((Rewrites.change _).map _).map _).congr (fun _ => rfl) fun rows => ?_
    rw [apply_of_not_made rfl]
    refine List.map_congr_left fun r _ => ?_
    rw [touch_spend]
    rfl
  | unpin =>
    -- nor for pins to be removed
    refine (((Rewrites.change _).map _).map _).congr (fun _ => rfl) fun rows => ?_
    rw [apply_of_not_made rfl]
    refine List.map_congr_left fun r _ => ?_
    rw [touch, vacate_of_not_takesFloor (by rfl)]
    simp [PresenceRow.key, key, Change.revise]
  | role given now =>
    -- the floor is taken from the others first, a role is taken away alone
    cases given with
    | some given =>
      cases given
      exact rewrites_floor channel avatar now
    | none =>
      have hmade : Change.made? (.role none now) = some now := rfl
      refine ((Rewrites.change _).atomically.map _).congr (fun _ => rfl) fun rows => ?_
      rw [apply_eq rfl]
      exact put_eq (m := ⟨channel, avatar, .role none now⟩) hmade rows

/-- It is made as a whole or not at all. -/
theorem transactional (m : Mutation) : Transactional m.access := by
  obtain ⟨channel, avatar, change⟩ := m
  cases change with
  | spend => exact ((Transactional.change _ _).map _).map _
  | unpin => exact ((Transactional.change _ _).map _).map _
  | role given now => exact (transactional_setRole channel avatar given now).map _
  | turn now cooldown => exact (Transactional.change _ _).map _
  | mention now => exact (Transactional.change _ _).map _
  | grant turns now => exact (Transactional.change _ _).map _
  | pin now => exact (Transactional.change _ _).map _
  | topics tags now => exact (Transactional.change _ _).map _
  | state new now => exact (Transactional.change _ _).map _

end Mutation

end TurnTaking.Presence
