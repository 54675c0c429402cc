import TurnTaking.Proofs.Presence

/-!
# Commutation — changes of presence records in either order

Changes of different kinds write different columns of a record, but for two: every change writes when the
record was changed last, and turns and grants make the avatar present besides. So two changes of different
kinds come to the same in either order, up to the time of the last change, unless one of them decides about
presence and the other is a turn or a grant. Changes of different records come to the same anyway; only
giving the floor reaches beyond the record, into the roles of the channel (`Mutation.Independent`).

That holds whether the records are there before or not: whichever change comes first makes the record, the
blank one but for what it is about, and what makes no record changes nothing about a blank one.
-/

namespace TurnTaking.Presence

open Store Store.Access

/-- The record but for the time of its last change. -/
def untimed (r : PresenceRow) : PresenceRow := { r with updatedAt := .number 0 }

/-- What a change is about. -/
inductive Kind where
  | turn
  | mention
  | summon
  | role
  | pins
  | topics
  | state
deriving DecidableEq, Repr

namespace Change

def kind : Change → Kind
  | .turn .. => .turn
  | .mention .. => .mention
  | .grant .. | .spend => .summon
  | .role .. => .role
  | .pin .. | .unpin => .pins
  | .topics .. => .topics
  | .state .. => .state

/-- The change makes the avatar present, whatever it is about. -/
def greets : Change → Bool
  | .turn .. | .grant .. => true
  | _ => false

/-- The changes are of different kinds, and where one makes the avatar present, the other does not decide
about that. -/
structure Compatible (c d : Change) : Prop where
  kind : c.kind ≠ d.kind
  greets : ¬ (c.greets = true ∧ d.kind = .state)
  greeted : ¬ (d.greets = true ∧ c.kind = .state)

variable {c d : Change}

theorem Compatible.symm (h : Compatible c d) : Compatible d c := ⟨h.kind.symm, h.greeted, h.greets⟩

/-- Only a change of roles may touch rows of other avatars. -/
theorem impartial_of_kind (h : c.kind ≠ .role) : c.Impartial := by
  intro given now hc
  rw [hc] at h
  exact h rfl

/-- Who takes the floor changes a role. -/
theorem kind_of_takesFloor (h : c.takesFloor = true) : c.kind = .role := by
  cases c with
  | role => rfl
  | _ => cases h

/-- The columns that one of two compatible changes writes are left alone by the other, but for the time of
the last change. -/
theorem revise_comm (h : Compatible c d) (r : PresenceRow) :
    untimed (c.revise (d.revise r)) = untimed (d.revise (c.revise r)) := by
  cases c <;> cases d <;>
    first
    | rfl
    | exact absurd rfl h.kind
    | exact absurd ⟨rfl, rfl⟩ h.greets
    | exact absurd ⟨rfl, rfl⟩ h.greeted

/-- No change depends on the time of the last one. -/
theorem revise_untimed (c : Change) (r : PresenceRow) :
    untimed (c.revise (untimed r)) = untimed (c.revise r) := by
  cases c <;> rfl

/-- What a change makes of a row does not depend on when the row was last changed. -/
theorem revise_congr (c : Change) {r r' : PresenceRow} (h : untimed r = untimed r') :
    untimed (c.revise r) = untimed (c.revise r') := by
  rw [← revise_untimed c r, h, revise_untimed]

/-- What makes no record changes nothing about a blank one. -/
theorem revise_blankRow (h : c.made? = none) (channel avatar : String) (now : Int) :
    c.revise (blankRow channel avatar .present now) = blankRow channel avatar .present now := by
  cases c with
  | spend => rfl
  | unpin => rfl
  | _ => cases h

/-- Only a summon and its use change the turns that are owed. -/
theorem summonTurns_revise (h : c.kind ≠ .summon) (r : PresenceRow) :
    (c.revise r).summonTurns = r.summonTurns := by
  cases c with
  | grant => exact absurd rfl h
  | spend => exact absurd rfl h
  | _ => rfl

end Change

namespace Mutation

variable {m n : Mutation} {rows : List PresenceRow}

/-- The changes are of different kinds, and compatible where they are about the same record; or they are
about different records, and do not both set a role in the same channel. -/
def Independent (m n : Mutation) : Prop :=
  (m.change.kind ≠ n.change.kind ∧ (m.key = n.key → m.change.Compatible n.change)) ∨
    (m.key ≠ n.key ∧
      ¬ (m.change.kind = .role ∧ n.change.kind = .role ∧ m.channelId = n.channelId))

theorem Independent.symm (h : m.Independent n) : n.Independent m := by
  rcases h with ⟨hkind, hsame⟩ | ⟨hkey, hroles⟩
  · exact Or.inl ⟨hkind.symm, fun hkey => (hsame hkey.symm).symm⟩
  · exact Or.inr ⟨hkey.symm, fun ⟨hn, hm, hchannel⟩ => hroles ⟨hm, hn, hchannel.symm⟩⟩

/-- Independent mutations of one row make compatible changes. -/
theorem Independent.compatible (h : m.Independent n) (hkey : m.key = n.key) :
    m.change.Compatible n.change := by
  rcases h with ⟨-, hsame⟩ | ⟨hother, -⟩
  · exact hsame hkey
  · exact absurd hkey hother

/-- Where one change takes the floor, the other is not about roles or not in the channel. -/
theorem Independent.undisputed (h : m.Independent n) (hfloor : m.change.takesFloor = true) :
    n.change.Impartial ∨ n.channelId ≠ m.channelId := by
  have hrole : m.change.kind = .role := Change.kind_of_takesFloor hfloor
  rcases h with ⟨hkind, -⟩ | ⟨-, hroles⟩
  · exact Or.inl (Change.impartial_of_kind fun hn => hkind (hrole.trans hn.symm))
  · by_cases hn : n.change.kind = .role
    · exact Or.inr fun hchannel => hroles ⟨hrole, hn, hchannel.symm⟩
    · exact Or.inl (Change.impartial_of_kind hn)

/-! ## Rows -/

/-- Two who take the floor clear it in either order. -/
theorem vacate_comm (m n : Mutation) (r : PresenceRow) : m.vacate (n.vacate r) = n.vacate (m.vacate r) := by
  cases hm : m.change.takesFloor && holdsFloor m.channelId r <;>
    cases hn : n.change.takesFloor && holdsFloor n.channelId r <;>
    simp [vacate, hm, hn]

/-- A change that is not about roles does not interfere with giving the floor to someone. -/
theorem vacate_revise_impartial (h : n.change.Impartial) (r : PresenceRow) :
    m.vacate (n.change.revise r) = n.change.revise (m.vacate r) := by
  rw [vacate, vacate, holdsFloor_congr (Change.key_revise _ r) (Change.role_revise h r)]
  split
  · cases hchange : n.change with
    | role given now => exact absurd hchange (h given now)
    | _ => rfl
  · rfl

/-- Whoever is given the floor, the record that the other change is about comes to the same. -/
theorem vacate_revise (h : m.Independent n) {r : PresenceRow} (hr : r.key = n.key) :
    m.vacate (n.change.revise r) = n.change.revise (m.vacate r) := by
  cases hfloor : m.change.takesFloor with
  | false => rw [vacate_of_not_takesFloor hfloor, vacate_of_not_takesFloor hfloor]
  | true =>
    rcases h.undisputed hfloor with himpartial | hchannel
    · exact vacate_revise_impartial himpartial r
    · have hother : r.channelId ≠ m.channelId := by
        rw [show r.channelId = n.channelId from congrArg Prod.fst hr]
        exact hchannel
      have hother' : (n.change.revise r).channelId ≠ m.channelId := by
        rw [show (n.change.revise r).channelId = r.channelId from
          congrArg Prod.fst (Change.key_revise _ r)]
        exact hother
      rw [vacate_other hother, vacate_other hother']

/-- Every row comes to the same in either order. -/
theorem touch_comm (h : m.Independent n) (r : PresenceRow) :
    untimed (m.touch (n.touch r)) = untimed (n.touch (m.touch r)) := by
  have hmkey : (n.touch r).key = r.key := key_touch r
  have hnkey : (m.touch r).key = r.key := key_touch r
  by_cases hm : r.key = m.key
  · by_cases hn : r.key = n.key
    · rw [touch, if_pos (hmkey.trans hm), touch, if_pos hn, touch, if_pos (hnkey.trans hn), touch,
        if_pos hm]
      exact Change.revise_comm (h.compatible (hm.symm.trans hn)) r
    · rw [touch, if_pos (hmkey.trans hm), touch, if_neg hn, touch, if_neg (hnkey ▸ hn), touch,
        if_pos hm, vacate_revise h.symm hm]
  · by_cases hn : r.key = n.key
    · rw [touch, if_neg (hmkey ▸ hm), touch, if_pos hn, touch, if_pos (hnkey.trans hn), touch,
        if_neg hm, vacate_revise h hn]
    · rw [touch, if_neg (hmkey ▸ hm), touch, if_neg hn, touch, if_neg (hnkey ▸ hn), touch,
        if_neg hm, vacate_comm]

/-! ## Tables -/

/-- A row that another change makes is left as it is made. -/
theorem touch_fresh (h : m.Independent n) (hkey : m.key ≠ n.key) {r : PresenceRow}
    (hr : n.fresh? = some r) : m.touch r = r := by
  have hother : r.key ≠ m.key := fun hm => hkey (hm.symm.trans (key_of_fresh hr))
  rw [touch, if_neg hother]
  rw [fresh?, Option.map_eq_some_iff] at hr
  obtain ⟨now, -, rfl⟩ := hr
  -- nobody has the floor by a blank row
  have hblank : holdsFloor m.channelId (blankRow n.channelId n.avatarId .present now) = false := by
    simp [holdsFloor, blankRow]
  rw [vacate_revise h (by rfl), vacate, hblank, Bool.and_false, if_neg Bool.false_ne_true]

/-- The other change makes no record under the key. -/
theorem added_apply_other (hkey : m.key ≠ n.key) (rows : List PresenceRow) :
    m.added (n.apply rows) = m.added rows := by
  have hfree : Table.holds PresenceRow.key m.key (n.added rows) = false := by
    rw [Table.holds, List.any_eq_false]
    intro r hr hm
    exact hkey ((of_decide_eq_true hm).symm.trans (key_of_fresh (fresh_of_mem hr)))
  rw [added, added, apply, Table.holds_append, Table.holds_map key_touch, hfree, Bool.or_false]

/-- The record as two changes of it make it, where there is none. -/
def joint (m n : Mutation) : PresenceRow :=
  untimed (m.change.revise (n.change.revise (blankRow m.channelId m.avatarId .present 0)))

/-- Where the row exists none is added. -/
theorem added_held (h : Table.holds PresenceRow.key m.key rows = true) : m.added rows = [] := by
  rw [added, h, if_pos rfl]

/-- Where the row is missing it is added, if the change makes one. -/
theorem added_free (h : Table.holds PresenceRow.key m.key rows = false) :
    m.added rows = m.fresh?.toList := by
  rw [added, h, if_neg Bool.false_ne_true]

/-- Two changes of a record that is not there make one, if either of them does. -/
theorem added_both (hkey : m.key = n.key) (hfree : Table.holds PresenceRow.key n.key rows = false) :
    ((n.added rows).map m.touch ++ m.added (n.apply rows)).map untimed =
      if m.change.made?.isSome || n.change.made?.isSome then [m.joint n] else [] := by
  have hblank : ∀ now, untimed (blankRow n.channelId n.avatarId .present now) =
      untimed (blankRow m.channelId m.avatarId .present 0) := by
    obtain ⟨hchannel, havatar⟩ := Prod.mk.inj hkey
    intro now
    rw [hchannel, havatar]
    rfl
  rw [added_free hfree]
  cases hmade : n.change.made? with
  | some now =>
    -- the change that comes first makes the record, and the other revises it
    have hfresh : n.fresh? = some (n.change.revise (blankRow n.channelId n.avatarId .present now)) := by
      rw [fresh?, hmade]
      rfl
    have hheld : Table.holds PresenceRow.key m.key (n.apply rows) = true := by
      rw [apply, Table.holds_append, added_free hfree, hfresh, hkey]
      simp [Table.holds, key_of_fresh hfresh]
    have htouch : m.touch (n.change.revise (blankRow n.channelId n.avatarId .present now)) =
        m.change.revise (n.change.revise (blankRow n.channelId n.avatarId .present now)) :=
      if_pos ((key_of_fresh hfresh).trans hkey.symm)
    rw [added_held hheld, hfresh, Option.toList_some, List.append_nil, List.map_singleton,
      List.map_singleton, htouch, Option.isSome_some, Bool.or_true, if_pos rfl]
    exact congrArg (fun r => [r]) (m.change.revise_congr (n.change.revise_congr (hblank now)))
  | none =>
    have hstill : Table.holds PresenceRow.key m.key (n.apply rows) = false := by
      rw [apply_of_not_made hmade, Table.holds_map key_touch, hkey]
      exact hfree
    have hnone : n.fresh? = none := by
      rw [fresh?, hmade]
      rfl
    rw [added_free hstill, hnone, Option.toList_none, List.map_nil, List.nil_append, fresh?]
    cases hmade' : m.change.made? with
    | none => rfl
    | some now =>
      rw [Option.isSome_some, Bool.true_or, if_pos rfl, joint, Change.revise_blankRow hmade]
      exact congrArg (fun r => [r]) (m.change.revise_congr rfl)

/-- What two changes add is the same in either order, up to the order of the rows. -/
theorem added_comm (h : m.Independent n) (rows : List PresenceRow) :
    (((n.added rows).map m.touch ++ m.added (n.apply rows)).map untimed).Perm
      (((m.added rows).map n.touch ++ n.added (m.apply rows)).map untimed) := by
  by_cases hkey : m.key = n.key
  · cases hheld : Table.holds PresenceRow.key n.key rows with
    | true =>
      have hheld' : Table.holds PresenceRow.key m.key rows = true := hkey ▸ hheld
      have hmn : Table.holds PresenceRow.key m.key (n.apply rows) = true := by
        rw [apply, Table.holds_append, Table.holds_map key_touch, hheld', Bool.true_or]
      have hnm : Table.holds PresenceRow.key n.key (m.apply rows) = true := by
        rw [apply, Table.holds_append, Table.holds_map key_touch, hheld, Bool.true_or]
      rw [added_held hheld, added_held hheld', added_held hmn, added_held hnm]
      exact List.Perm.refl _
    | false =>
      have hjoint : m.joint n = n.joint m := by
        obtain ⟨hchannel, havatar⟩ := Prod.mk.inj hkey
        rw [joint, joint, hchannel, havatar]
        exact Change.revise_comm (h.compatible hkey) _
      rw [added_both hkey hheld, added_both hkey.symm (hkey ▸ hheld), hjoint, Bool.or_comm]
  · -- each makes its own record, and leaves the other's alone
    have hm : (n.added rows).map m.touch = n.added rows :=
      (List.map_congr_left fun r hr => touch_fresh h hkey (fresh_of_mem hr)).trans (List.map_id' _)
    have hn : (m.added rows).map n.touch = m.added rows :=
      (List.map_congr_left fun r hr => touch_fresh h.symm (Ne.symm hkey) (fresh_of_mem hr)).trans
        (List.map_id' _)
    rw [hm, hn, added_apply_other hkey, added_apply_other (Ne.symm hkey)]
    exact List.perm_append_comm.map untimed

/-- The tables are the same in either order, up to the times of the last change. -/
theorem apply_comm (h : m.Independent n) (rows : List PresenceRow) :
    ((m.apply (n.apply rows)).map untimed).Perm ((n.apply (m.apply rows)).map untimed) := by
  have hsplit : ∀ k l : Mutation, (k.apply (l.apply rows)).map untimed =
      rows.map (fun r => untimed (k.touch (l.touch r))) ++
        ((l.added rows).map k.touch ++ k.added (l.apply rows)).map untimed := by
    intro k l
    have hrows : (k.apply (l.apply rows)) = (rows.map l.touch ++ l.added rows).map k.touch ++
      k.added (l.apply rows) := rfl
    rw [hrows]
    simp only [List.map_append, List.map_map, List.append_assoc, Function.comp_def]
  rw [hsplit m n, hsplit n m, List.map_congr_left fun r _ => touch_comm h r]
  exact (added_comm h rows).append_left _

/-! ## Answers -/

/-- Where a turn of a record is spent, another change of that record is not about summons. -/
theorem Independent.keeps_turns (h : m.Independent n) (hspend : m.change = .spend)
    (hkey : n.key = m.key) : n.change.kind ≠ .summon := by
  have hkind := (h.compatible hkey.symm).kind
  rw [hspend] at hkind
  exact hkind.symm

/-- The other change leaves it alone whether a row owes the turn. -/
theorem owes_touch (h : m.Independent n) (hspend : m.change = .spend) (r : PresenceRow) :
    owes m.channelId m.avatarId (n.touch r) = owes m.channelId m.avatarId r := by
  by_cases hn : r.key = n.key
  · by_cases hkey : n.key = m.key
    · refine owes_congr (key_touch r) ?_
      rw [touch, if_pos hn]
      exact Change.summonTurns_revise (h.keeps_turns hspend hkey) r
    · -- the row is that of another record
      have hother : r.key ≠ m.key := fun hm => hkey (hn.symm.trans hm)
      have hother' : (n.touch r).key ≠ m.key := by
        rw [key_touch]
        exact hother
      exact (owes_other hother').trans (owes_other hother).symm
  · refine owes_congr (key_touch r) ?_
    rw [touch, if_neg hn, summonTurns_vacate]

/-- A record that the other change makes owes no turn. -/
theorem owes_fresh (h : m.Independent n) (hspend : m.change = .spend) {r : PresenceRow}
    (hr : n.fresh? = some r) : owes m.channelId m.avatarId r = false := by
  by_cases hkey : n.key = m.key
  · rw [fresh?, Option.map_eq_some_iff] at hr
    obtain ⟨now, -, rfl⟩ := hr
    have hturns := Change.summonTurns_revise (h.keeps_turns hspend hkey)
      (blankRow n.channelId n.avatarId .present now)
    rw [owes, hturns]
    simp [blankRow]
  · refine owes_other ?_
    rw [key_of_fresh hr]
    exact hkey

/-- Whether a turn was owed is answered alike before and after the other change. -/
theorem answer_apply (h : m.Independent n) (rows : List PresenceRow) :
    m.answer (n.apply rows) = m.answer rows := by
  cases hchange : m.change with
  | spend =>
    have hadded : (n.added rows).countP (owes m.channelId m.avatarId) = 0 := by
      rw [List.countP_eq_zero]
      intro r hr
      rw [owes_fresh h hchange (fresh_of_mem hr)]
      exact Bool.false_ne_true
    have hrows : (rows.map n.touch).countP (owes m.channelId m.avatarId) =
        rows.countP (owes m.channelId m.avatarId) := by
      rw [List.countP_map]
      exact List.countP_congr fun r _ => by rw [Function.comp_apply, owes_touch h hchange]
    simp only [answer, hchange, apply, List.countP_append, hadded, hrows, Nat.add_zero]
  | _ => simp only [answer, hchange]

end Mutation

/-! ## Programs -/

/-- Two changes that are independent come to the same answers and to the same records in either order,
whatever records there were; only the times of the last change may differ. -/
theorem Mutation.commute {m n : Mutation} (h : m.Independent n) {t : Tables} {rows : List PresenceRow}
    (hrows : t.presence = some rows) :
    ∃ a b, ∃ mn nm : List PresenceRow,
      (do let a ← m.access; let b ← n.access; return (a, b) : Access _).Runs (.ofTables t) (.ok (a, b))
        (.ofTables { t with presence := some mn }) ∧
      (do let b ← n.access; let a ← m.access; return (a, b) : Access _).Runs (.ofTables t) (.ok (a, b))
        (.ofTables { t with presence := some nm }) ∧
      (mn.map untimed).Perm (nm.map untimed) := by
  have hm := m.rewrites.untroubled (t := t) hrows
  have hn := n.rewrites.untroubled (t := t) hrows
  -- each finds, second, what the other has left
  have hmn := n.rewrites.untroubled (t := { t with presence := some (m.apply rows) }) rfl
  have hnm := m.rewrites.untroubled (t := { t with presence := some (n.apply rows) }) rfl
  rw [Mutation.answer_apply h.symm] at hmn
  rw [Mutation.answer_apply h] at hnm
  refine ⟨m.answer rows, n.answer rows, n.apply (m.apply rows), m.apply (n.apply rows), ?_, ?_, ?_⟩
  · exact hm.bind (hmn.bind rfl)
  · exact hn.bind (hnm.bind rfl)
  · exact (Mutation.apply_comm h rows).symm

/-- Giving the floor to one avatar and recording a turn of the one that loses it. -/
theorem floor_and_turn_commute :
    let m : Mutation := ⟨"lobby", "bob", .role (some .activeSpeaker) 5⟩
    let n : Mutation := ⟨"lobby", "ada", .turn 7 100⟩
    let ada := { blankRow "lobby" "ada" .present 1 with role := some Role.activeSpeaker.name }
    let t := { Tables.empty with presence := some [ada] }
    m.Independent n ∧ t.presence = some [ada] ∧
      ∃ a b, ∃ mn nm : List PresenceRow,
        (do let a ← m.access; let b ← n.access; return (a, b) : Access _).Runs (.ofTables t) (.ok (a, b))
          (.ofTables { t with presence := some mn }) ∧
        (do let b ← n.access; let a ← m.access; return (a, b) : Access _).Runs (.ofTables t) (.ok (a, b))
          (.ofTables { t with presence := some nm }) ∧
        (mn.map untimed).Perm (nm.map untimed) := by
  intro m n ada t
  have hindependent : m.Independent n := by
    refine Or.inl ⟨by decide, fun hkey => ?_⟩
    exact absurd hkey (by decide)
  exact ⟨hindependent, rfl, Mutation.commute hindependent rfl⟩

end TurnTaking.Presence
