import TurnTaking.Proofs.Presence

/-!
# The floor — one active speaker in a channel

Who holds the floor of a channel is told by the history of what was done to its records: whoever was given
it last, unless it was taken away again (`floor`). The table tells the same after every operation, whether
it succeeded or failed and whichever handle it came through, and no record but that one says that its avatar
is the active speaker (`Reached.guards`).
-/

namespace TurnTaking

open Store Store.Access

namespace Presence

/-- The avatars that hold the floor of a channel, as their records tell it. -/
def speakers (channel : String) (rows : List PresenceRow) : List String :=
  (rows.filter (holdsFloor channel)).map PresenceRow.avatarId

/-- An operation on the records: one is ensured, or one is changed. -/
inductive Operation where
  | ensure (channel avatar : String) (now : Int)
  | change (m : Mutation)
deriving DecidableEq, Repr

namespace Operation

/-- The operation as a program, without its answer. -/
def access : Operation → Access Unit
  | ensure channel avatar now => do let _ ← Presence.ensure channel avatar now
  | change m => do let _ ← m.access

/-- The role that the operation gives or takes away in a channel: whose it is, and which. -/
def casts? (o : Operation) (channel : String) : Option (String × Option Role) :=
  match o with
  | change ⟨c, avatar, .role given _⟩ => if channel = c then some (avatar, given) else none
  | _ => none

/-- Who holds the floor of a channel after the operation. -/
def floor (o : Operation) (channel : String) (holder : Option String) : Option String :=
  match o.casts? channel with
  | some (avatar, some .activeSpeaker) => some avatar
  | some (avatar, none) => holder.filter (· ≠ avatar)
  | none => holder

end Operation

/-- What happened: an operation that succeeded or failed. -/
structure Deed where
  operation : Operation
  succeeded : Bool
deriving DecidableEq, Repr

/-- Who holds the floor of a channel after all that happened, the latest first. -/
def floor (channel : String) : List Deed → Option String
  | [] => none
  | d :: earlier =>
    if d.succeeded then d.operation.floor channel (floor channel earlier) else floor channel earlier

/-- The tables that are reached from empty ones by operations on the records, each through any handle on
the tables and with any outcome. What happened is listed with the latest first. -/
inductive Reached : List Deed → Tables → Prop where
  | start : Reached [] .empty
  | step {history : List Deed} {s s' : Store} {x : Except Fault Unit} (o : Operation)
      (earlier : Reached history s.tables) (run : o.access.Runs s x s') :
      Reached (⟨o, x.isOk⟩ :: history) s'.tables

/-! ## What becomes of the floor -/

/-- Speakers of two lists of rows are those of each. -/
theorem speakers_append (channel : String) (rows more : List PresenceRow) :
    speakers channel (rows ++ more) = speakers channel rows ++ speakers channel more := by
  rw [speakers, List.filter_append, List.map_append]
  rfl

/-- A change of rows that keeps each with its avatar. -/
theorem speakers_map {f : PresenceRow → PresenceRow} (hf : ∀ r, (f r).key = r.key) (channel : String)
    (rows : List PresenceRow) :
    speakers channel (rows.map f) =
      (rows.filter fun r => holdsFloor channel (f r)).map PresenceRow.avatarId := by
  rw [speakers, List.filter_map, List.map_map]
  exact List.map_congr_left fun r _ => congrArg Prod.snd (hf r)

namespace Mutation

variable {m : Mutation} {channel : String}

/-- The floor of another channel is left alone. -/
theorem holdsFloor_touch_other (h : channel ≠ m.channelId) (r : PresenceRow) :
    holdsFloor channel (m.touch r) = holdsFloor channel r := by
  by_cases hr : r.channelId = channel
  · have helse : r.channelId ≠ m.channelId := fun hsame => h (hr.symm.trans hsame)
    rw [touch, if_neg fun hkey => helse (congrArg Prod.fst hkey), vacate_other helse]
  · have hkept : (m.touch r).channelId = r.channelId := congrArg Prod.fst (key_touch r)
    rw [holdsFloor_other hr, holdsFloor_other (hkept ▸ hr)]

/-- So is the floor of every channel, if the change is not about roles. -/
theorem holdsFloor_touch_impartial (h : m.change.Impartial) (r : PresenceRow) :
    holdsFloor channel (m.touch r) = holdsFloor channel r := by
  refine holdsFloor_congr (key_touch r) ?_
  rw [touch, vacate_of_not_takesFloor (Change.not_takesFloor h)]
  split
  · exact Change.role_revise h r
  · rfl

/-- Whose role is taken away does not hold the floor any more. -/
theorem holdsFloor_touch_dismissed {now : Int} (h : m.change = .role none now) (r : PresenceRow) :
    holdsFloor channel (m.touch r) = (holdsFloor channel r && decide (r.key ≠ m.key)) := by
  rw [touch, vacate_of_not_takesFloor (by rw [h]; rfl), h]
  by_cases hkey : r.key = m.key
  · rw [if_pos hkey, decide_eq_false (not_not_intro hkey), Bool.and_false, holdsFloor, Change.revise]
    simp
  · rw [if_neg hkey, decide_eq_true hkey, Bool.and_true]

/-- Who takes the floor of a channel is the only one to hold it. -/
theorem holdsFloor_touch_takes {now : Int} (h : m.change = .role (some .activeSpeaker) now)
    (r : PresenceRow) : holdsFloor m.channelId (m.touch r) = decide (r.key = m.key) := by
  have hfloor : m.change.takesFloor = true := by
    rw [h]
    rfl
  by_cases hkey : r.key = m.key
  · rw [touch, if_pos hkey, decide_eq_true hkey, holdsFloor_iff, h]
    exact ⟨congrArg Prod.fst hkey, rfl⟩
  · rw [touch, if_neg hkey, decide_eq_false hkey, vacate, hfloor, Bool.true_and]
    cases hheld : holdsFloor m.channelId r with
    | true => exact holdsFloor_roleless m.channelId r
    | false =>
      rw [if_neg Bool.false_ne_true]
      exact hheld

/-- A row that is made is that of an active speaker only where it was made so. -/
theorem speakers_added (h : m.change.takesFloor = false ∨ channel ≠ m.channelId)
    (rows : List PresenceRow) : speakers channel (m.added rows) = [] := by
  rw [added]
  split
  · rfl
  · cases hfresh : m.fresh? with
    | none => rfl
    | some r =>
      have hnone : holdsFloor channel r = false := by
        rcases h with hfloor | hother
        · rw [fresh?, Option.map_eq_some_iff] at hfresh
          obtain ⟨now, -, rfl⟩ := hfresh
          rw [holdsFloor, Change.role_of_blank hfloor]
          simp
        · refine holdsFloor_other fun hr => hother ?_
          exact hr.symm.trans (congrArg Prod.fst (key_of_fresh hfresh))
      rw [Option.toList_some, speakers, List.filter_cons, hnone]
      rfl

/-- After the floor of a channel was given to someone, no one else holds it. -/
theorem speakers_takes {now : Int} (h : m.change = .role (some .activeSpeaker) now)
    {rows : List PresenceRow} (hkeyed : (rows.map PresenceRow.key).Nodup) :
    speakers m.channelId (m.apply rows) = [m.avatarId] := by
  rw [apply, speakers_append, speakers_map key_touch]
  simp only [holdsFloor_touch_takes h]
  rw [Table.filter_key hkeyed, added]
  cases hheld : Table.lookup PresenceRow.key m.key rows with
  | some r =>
    -- the avatar had a row, which is the one under the key
    have hrow : r.avatarId = m.avatarId := congrArg Prod.snd (Table.key_of_lookup hheld)
    have hholds : Table.holds PresenceRow.key m.key rows = true := by
      rw [← Bool.not_eq_false, ← Table.lookup_eq_none, hheld]
      simp
    rw [hholds, if_pos rfl, Option.toList_some, List.map_singleton, hrow]
    rfl
  | none =>
    rw [Table.lookup_eq_none.mp hheld, if_neg Bool.false_ne_true, fresh?, h]
    have hmade : holdsFloor m.channelId (Change.revise (.role (some .activeSpeaker) now)
        (blankRow m.channelId m.avatarId .present now)) = true :=
      holdsFloor_iff.mpr ⟨rfl, rfl⟩
    rw [show Change.made? (.role (some .activeSpeaker) now) = some now from rfl, Option.map_some,
      Option.toList_some, speakers, List.filter_cons, hmade]
    rfl

/-- After a role was taken away, the avatar does not hold the floor, and the others do as before. -/
theorem speakers_dismissed {now : Int} (h : m.change = .role none now) (rows : List PresenceRow) :
    speakers channel (m.apply rows) =
      (speakers channel rows).filter fun a => decide (¬ (channel = m.channelId ∧ a = m.avatarId)) := by
  have hfloor : m.change.takesFloor = false := by
    rw [h]
    rfl
  rw [apply, speakers_append, speakers_added (Or.inl hfloor), List.append_nil, speakers_map key_touch,
    speakers, List.filter_map, List.filter_filter]
  congr 1
  refine List.filter_congr fun r _ => ?_
  rw [holdsFloor_touch_dismissed h, Bool.and_comm]
  cases hheld : holdsFloor channel r with
  | false => rw [Bool.and_false, Bool.and_false]
  | true =>
    obtain ⟨rfl, -⟩ := holdsFloor_iff.mp hheld
    simp [PresenceRow.key, key]

/-- A change that is not about roles leaves the floor alone. -/
theorem speakers_impartial (h : m.change.Impartial) (rows : List PresenceRow) :
    speakers channel (m.apply rows) = speakers channel rows := by
  rw [apply, speakers_append, speakers_added (Or.inl (Change.not_takesFloor h)), List.append_nil,
    speakers_map key_touch]
  simp only [holdsFloor_touch_impartial h]
  rfl

/-- The floor of another channel is left alone. -/
theorem speakers_other (h : channel ≠ m.channelId) (rows : List PresenceRow) :
    speakers channel (m.apply rows) = speakers channel rows := by
  rw [apply, speakers_append, speakers_added (Or.inr h), List.append_nil, speakers_map key_touch]
  simp only [holdsFloor_touch_other h]
  rfl

/-- A change does to the floor of a channel what is said of it. -/
theorem speakers_apply {rows : List PresenceRow} (hkeyed : (rows.map PresenceRow.key).Nodup)
    {holder : Option String} (hholder : speakers channel rows = holder.toList) :
    speakers channel (m.apply rows) = ((Operation.change m).floor channel holder).toList := by
  obtain ⟨c, avatar, change⟩ := m
  cases change with
  | role given now =>
    -- a role in this channel decides its floor
    by_cases hchannel : channel = c
    · have hcast : (Operation.change ⟨c, avatar, .role given now⟩).casts? channel = some (avatar, given) :=
        if_pos hchannel
      rw [Operation.floor, hcast]
      cases given with
      | some given =>
        cases given
        subst hchannel
        exact speakers_takes (m := ⟨channel, avatar, .role (some .activeSpeaker) now⟩) rfl hkeyed
      | none =>
        rw [speakers_dismissed rfl, hholder]
        cases holder with
        | none => rfl
        | some a =>
          by_cases ha : a = avatar
          · simp [hchannel, ha]
          · simp [hchannel, ha, Option.filter]
    · -- a role in another channel leaves the floor
      have hcast : (Operation.change ⟨c, avatar, .role given now⟩).casts? channel = none := if_neg hchannel
      rw [Operation.floor, hcast, speakers_other hchannel]
      exact hholder
  | _ =>
    -- other changes leave every role
    rw [speakers_impartial (by intro given now hgiven; cases hgiven)]
    exact hholder

end Mutation

/-! ## Every state that is reached -/

/-- A row without a role may be added. -/
theorem speakers_add {r : PresenceRow} (hr : r.role = none) (channel : String)
    (rows : List PresenceRow) :
    speakers channel (Table.add PresenceRow.key r rows).2 = speakers channel rows := by
  rw [Table.add]
  split
  · rfl
  · have hnone : holdsFloor channel r = false := by
      rw [holdsFloor, hr]
      simp
    have hmore : speakers channel [r] = [] := by
      rw [speakers, List.filter_cons, hnone]
      rfl
    rw [speakers_append, hmore, List.append_nil]

/-- All that is told of floors: who holds them, and that each avatar has one record in each channel. -/
def floors (t : Tables) : (String → List String) × Prop :=
  (fun channel => speakers channel (t.presence.getD []), t.PresenceKeyed)

/-- A record that is ensured leaves every floor alone. -/
theorem ensure_floors (channel avatar : String) (now : Int) :
    Frames floors (ensure channel avatar now) := by
  refine (Frames.change_of fun t rows hrows => ?_).bind fun _ => .query _ _
  have hpresence : t.presence = some rows := hrows
  refine Prod.ext (funext fun c => ?_) (propext ?_)
  · rw [floors, floors, hpresence]
    exact speakers_add (r := blankRow channel avatar .present now) rfl c rows
  · rw [floors, floors, Tables.PresenceKeyed, Tables.PresenceKeyed, hpresence]
    exact Table.nodup_add (blankRow channel avatar .present now) rows

/-- The records tell of every floor what the history tells: the holder's says that it is held, and no other
does. -/
structure Guards (history : List Deed) (t : Tables) : Prop where
  keyed : t.PresenceKeyed
  speakers : ∀ channel, speakers channel (t.presence.getD []) = (floor channel history).toList

namespace Guards

variable {history : List Deed} {t t' : Tables}

theorem start : Guards [] .empty := ⟨List.nodup_nil, fun _ => rfl⟩

/-- Whatever leaves the floors alone may happen, as long as it is no cast. -/
theorem same (h : Guards history t) (hsame : floors t' = floors t) {d : Deed}
    (hd : ∀ channel holder, d.succeeded = true → d.operation.floor channel holder = holder) :
    Guards (d :: history) t' where
  keyed := (iff_of_eq (congrArg Prod.snd hsame)).mpr h.keyed
  speakers channel := by
    have hspeakers : Presence.speakers channel (t'.presence.getD []) =
        Presence.speakers channel (t.presence.getD []) := congrFun (congrArg Prod.fst hsame) channel
    rw [hspeakers, h.speakers channel, floor]
    split
    · rename_i hsucceeded
      rw [hd channel _ hsucceeded]
    · rfl

/-- An operation that succeeds does to every floor what is said of it, and one that fails does nothing. -/
theorem step {s s' : Store} {x : Except Fault Unit} (h : Guards history s.tables) (o : Operation)
    (run : o.access.Runs s x s') : Guards (⟨o, x.isOk⟩ :: history) s'.tables := by
  cases o with
  | ensure channel avatar now =>
    have hframes : Frames floors (Operation.ensure channel avatar now).access :=
      (ensure_floors channel avatar now).bind fun _ => .pure _
    exact h.same (hframes s x s' run).view fun _ _ _ => rfl
  | change m =>
    rcases runs_bind run with ⟨answer, s₁, hchange, hret⟩ | ⟨f, hchange, rfl⟩
    · obtain ⟨rfl, rfl⟩ := runs_pure hret
      obtain ⟨rows, hrows, -, htables⟩ := m.rewrites.result hchange
      have hpresence : s.tables.presence = some rows := hrows
      have hkeyed : (rows.map PresenceRow.key).Nodup := by
        have hall := h.keyed
        rw [Tables.PresenceKeyed, hpresence] at hall
        exact hall
      constructor
      · rw [htables]
        exact Mutation.nodup_apply hkeyed
      · intro channel
        have hholder := h.speakers channel
        rw [hpresence] at hholder
        rw [htables]
        exact Mutation.speakers_apply hkeyed hholder
    · -- nothing was done, least of all one half of a change of roles
      have htables := m.transactional.restored hchange
      exact h.same (congrArg floors htables) fun _ _ hok => absurd hok Bool.false_ne_true

end Guards

/-- The records tell of the floors what happened, in every state that is reached. -/
theorem Reached.guards {history : List Deed} {t : Tables} (h : Reached history t) : Guards history t := by
  induction h with
  | start => exact .start
  | step o earlier run ih => exact ih.step o run

/-- Whoever was given the floor holds it until a role is given to someone in the channel, or taken away. -/
theorem floor_append {channel avatar : String} {now : Int} {later earlier : List Deed}
    (hlater : ∀ d ∈ later, d.succeeded = true → d.operation.casts? channel = none) :
    floor channel (later ++
        ⟨.change ⟨channel, avatar, .role (some .activeSpeaker) now⟩, true⟩ :: earlier) = some avatar := by
  induction later with
  | nil =>
    have hcast : (Operation.change ⟨channel, avatar, .role (some .activeSpeaker) now⟩).casts? channel =
        some (avatar, some .activeSpeaker) := if_pos rfl
    rw [List.nil_append, floor, if_pos rfl, Operation.floor, hcast]
  | cons d later ih =>
    have hrest := ih fun d' hd' => hlater d' (List.mem_cons_of_mem d hd')
    rw [List.cons_append, floor, hrest]
    split
    · rename_i hsucceeded
      rw [Operation.floor, hlater d List.mem_cons_self hsucceeded]
    · rfl

/-- In every state that is reached from an empty store, a channel has no more than one active speaker. Whom
the floor was given to, that is the one, until the role of someone in the channel is set again. -/
theorem Reached.one_active_speaker {history : List Deed} {t : Tables} (h : Reached history t)
    (channel : String) :
    (speakers channel (t.presence.getD [])).length ≤ 1 ∧
      ∀ later earlier avatar now,
        history = later ++
          ⟨.change ⟨channel, avatar, .role (some .activeSpeaker) now⟩, true⟩ :: earlier →
        (∀ d ∈ later, d.succeeded = true → d.operation.casts? channel = none) →
        speakers channel (t.presence.getD []) = [avatar] := by
  rw [h.guards.speakers channel]
  constructor
  · cases floor channel history with
    | none => exact Nat.zero_le 1
    | some avatar => exact Nat.le_refl 1
  · intro later earlier avatar now hhistory hlater
    rw [hhistory, floor_append hlater]
    rfl

/-- The floor is given to one avatar, and then to another through a handle that fails after the first lost
it. -/
theorem floor_kept_through_failure :
    ∃ t, Reached [⟨.change ⟨"lobby", "bob", .pin 9⟩, true⟩,
        ⟨.change ⟨"lobby", "bob", .role (some .activeSpeaker) 5⟩, false⟩,
        ⟨.change ⟨"lobby", "ada", .role (some .activeSpeaker) 1⟩, true⟩] t ∧
      (speakers "lobby" (t.presence.getD [])).length ≤ 1 ∧
      speakers "lobby" (t.presence.getD []) = ["ada"] := by
  let s₁ := Store.new
  let give : Operation := .change ⟨"lobby", "ada", .role (some .activeSpeaker) 1⟩
  have h₁ : Reached [⟨give, true⟩] (give.access.after s₁).tables :=
    .step give (s := s₁) .start (runs_after _ _)
  -- the statement that would give the floor to the other avatar is refused
  let s₂ : Store := ⟨(give.access.after s₁).tables, false, [none, none, some "disk I/O error"], 0, false⟩
  let pass : Operation := .change ⟨"lobby", "bob", .role (some .activeSpeaker) 5⟩
  have h₂ : Reached [⟨pass, false⟩, ⟨give, true⟩] (pass.access.after s₂).tables :=
    .step pass (s := s₂) h₁ (runs_after _ _)
  let s₃ := Store.ofTables (pass.access.after s₂).tables
  let pin : Operation := .change ⟨"lobby", "bob", .pin 9⟩
  have h₃ : Reached [⟨pin, true⟩, ⟨pass, false⟩, ⟨give, true⟩] (pin.access.after s₃).tables :=
    .step pin (s := s₃) h₂ (runs_after _ _)
  obtain ⟨hone, hholder⟩ := h₃.one_active_speaker "lobby"
  refine ⟨_, h₃, hone, hholder [⟨pin, true⟩, ⟨pass, false⟩] [] "ada" 1 rfl ?_⟩
  decide

end Presence

end TurnTaking
