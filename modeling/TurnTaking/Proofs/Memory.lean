import TurnTaking.Janitor
import TurnTaking.Proofs.Credits
import TurnTaking.Proofs.Engine.Sweep

/-!
# Memory — what is kept of people who were heard and of avatars that took a turn

An activity row tells when people were heard last in a channel, a presence row until when an avatar sits out.
Of all statements only two write there: the one that records a person leaves a time that is no earlier
(`Activity.runs_recordHuman`), the one that records a turn leaves the end of the cooldown
(`Presence.runs_recordTurn`). All others leave the memory as it was, and whoever reads it later finds no less
than was written.

* `Tables.memory` — both columns, as functions of their keys;
* `Tables.Hears`, `Tables.Rests` — what they are known to tell;
* `Activity.quiet_of_find?`, `Presence.rested_of_recordOf` — how they are read.
-/

namespace TurnTaking

open Store Store.Access

variable {σ : Type}

namespace Store.Tables

/-- When people were heard last in a channel, as its activity row tells it. -/
def heardCell (t : Tables) (channel : String) : Option Cell :=
  Table.column ActivityRow.key ActivityRow.lastHumanAt none (t.activity.getD []) (some channel)

/-- Until when an avatar sits out in a channel, as its presence row tells it. -/
def restCell (t : Tables) (k : String × String) : Option Cell :=
  Table.column PresenceRow.key PresenceRow.cooldownUntil none (t.presence.getD []) k

/-- All that is kept of people who were heard and of avatars that took a turn. -/
def memory (t : Tables) : (String → Option Cell) × (String × String → Option Cell) :=
  (t.heardCell, t.restCell)

/-- People are known to have been heard in a channel at a time or later, as far as that can be read. -/
def Hears (t : Tables) (channel : String) (time : Int) : Prop :=
  ∃ cell, t.heardCell channel = some cell ∧ ∀ n, cell = .number n → time ≤ n

/-- An avatar is known to sit out in a channel for a cooldown since it took a turn at a time. -/
def Rests (t : Tables) (cooldown : Int) (k : String × String) (since : Int) : Prop :=
  t.restCell k = some (.number (Numeral.wrapped (since + cooldown)))

/-- What is remembered is determined by what is heard and who rests. -/
theorem memory_eq {t t' : Tables} (hheard : ∀ channel, t'.heardCell channel = t.heardCell channel)
    (hrest : ∀ k, t'.restCell k = t.restCell k) : t'.memory = t.memory :=
  Prod.ext (funext hheard) (funext hrest)

theorem Hears.of_memory {t t' : Tables} {channel : String} {time : Int} (h : t.Hears channel time)
    (hsame : t'.memory = t.memory) : t'.Hears channel time := by
  have hcell : t'.heardCell channel = t.heardCell channel := congrFun (congrArg Prod.fst hsame) channel
  rw [Hears, hcell]
  exact h

theorem Rests.of_memory {t t' : Tables} {cooldown since : Int} {k : String × String}
    (h : t.Rests cooldown k since) (hsame : t'.memory = t.memory) : t'.Rests cooldown k since := by
  have hcell : t'.restCell k = t.restCell k := congrFun (congrArg Prod.snd hsame) k
  rw [Rests, hcell]
  exact h

end Store.Tables

/-! ## Presence -/

namespace Presence

/-- A row without a cooldown may be put, where the change of an older one leaves its cooldown alone. -/
theorem putRow_memory {r : PresenceRow} {change : PresenceRow → PresenceRow} (hr : r.cooldownUntil = none)
    (hkey : ∀ old, (change old).key = old.key)
    (hrest : ∀ old, (change old).cooldownUntil = old.cooldownUntil) :
    Frames Tables.memory (putRow r change) := by
  refine .change_of fun t rows hrows => ?_
  have hpresence : t.presence = some rows := hrows
  apply Tables.memory_eq
  · intro channel
    rfl
  · intro k
    rw [Tables.restCell, Tables.restCell, hpresence]
    exact Table.column_put_same hkey hr hrest rows

theorem ensure_memory (channel avatar : String) (now : Int) :
    Frames Tables.memory (ensure channel avatar now) := by
  refine (Frames.change_of fun t rows hrows => ?_).bind fun _ => .query _ _
  have hpresence : t.presence = some rows := hrows
  have hblank : (blankRow channel avatar .present now).cooldownUntil = none := rfl
  apply Tables.memory_eq
  · intro _
    rfl
  · intro k
    rw [Tables.restCell, Tables.restCell, hpresence]
    exact Table.column_add hblank rows

theorem recordMention_memory (channel avatar : String) (now : Int) :
    Frames Tables.memory (recordMention channel avatar now) :=
  putRow_memory rfl (fun _ => rfl) fun _ => rfl

theorem grantSummon_memory (channel avatar : String) (turns : Nat) (now : Int) :
    Frames Tables.memory (grantSummon channel avatar turns now) :=
  putRow_memory rfl (fun _ => rfl) fun _ => rfl

theorem consumeSummon_memory (channel avatar : String) :
    Frames Tables.memory (consumeSummon channel avatar) := by
  intro s x s' h
  rcases runs_consumeSummon_rows h with ⟨rows, hrows, -, htables, hfailures⟩ | ⟨-, hfault⟩
  · have hcooldown : ∀ r, (spendFrom channel avatar r).cooldownUntil = r.cooldownUntil := by
      intro r
      rw [spendFrom]
      split <;> rfl
    constructor
    · rw [htables]
      apply Tables.memory_eq
      · intro _
        rfl
      · intro k
        rw [Tables.restCell, Tables.restCell, hrows]
        exact Table.column_map (spendFrom_key channel avatar) hcooldown rows
    · omega
  · exact hfault.unseen

/-- A turn that is recorded starts the cooldown of its avatar, and of nobody else. -/
theorem runs_recordTurn {channel avatar : String} {now cooldown : Int} {x : Except Fault Unit}
    {s s' : Store} (h : (recordTurn channel avatar now cooldown).Runs s x s') :
    (s'.failures = s.failures ∧ s'.tables.heardCell = s.tables.heardCell ∧
        ∀ k, s'.tables.restCell k =
          if (channel, avatar) = k then some (.number (Numeral.wrapped (now + cooldown)))
          else s.tables.restCell k) ∨
      Faulted s s' := by
  rcases runs_change h with ⟨rows, hrows, -, htables, hfailures⟩ | ⟨-, hfault⟩
  · have hpresence : s.tables.presence = some rows := hrows
    left
    refine ⟨hfailures, ?_, ?_⟩
    · rw [htables]
      rfl
    · intro k
      rw [htables, Tables.restCell, Tables.restCell, hpresence]
      refine (Table.column_put (by exact fun _ => rfl) rows).trans ?_
      by_cases hk : (channel, avatar) = k
      · have hkey : PresenceRow.key { blankRow channel avatar .present now with
            lastTurnAt := some now, cooldownUntil := some (.number (Numeral.wrapped (now + cooldown))),
            turnsTaken := .number 1 } = k := hk
        rw [if_pos hk, if_pos hkey]
        cases Table.lookup PresenceRow.key k rows <;> rfl
      · exact (if_neg hk).trans (if_neg hk).symm
  · exact Or.inr hfault

end Presence

/-! ## Activity -/

namespace Activity

/-- The later of two times is no earlier than the second, where it is a number. -/
theorem le_laterOf {old : Option Cell} {now n : Int} (h : laterOf old (.number now) = .number n) :
    now ≤ n := by
  rw [laterOf, Cell.greater] at h
  split at h
  · obtain rfl := Cell.number.inj h
    exact Int.le_refl _
  · rename_i hbelow
    rw [h, Cell.below_number] at hbelow
    simpa using hbelow

theorem recordBot_memory (channel key : String) (now : Int) :
    Frames Tables.memory (recordBot channel key now) := by
  refine .change_of fun t rows hrows => ?_
  have hactivity : t.activity = some rows := hrows
  apply Tables.memory_eq
  · intro other
    rw [Tables.heardCell, Tables.heardCell, hactivity]
    exact Table.column_put_same (by exact fun _ => rfl) (by rfl) (by exact fun _ => rfl) rows
  · intro _
    rfl

theorem counts_recordHuman (channel user : String) (now : Int) : Counts (recordHuman channel user now) :=
  ((Counts.change _ _).bind fun _ => .change _ _).atomically

/-- A person who is recorded was heard in the channel by then, and nowhere else. -/
theorem runs_recordHuman {channel user : String} {now : Int} {x : Except Fault Unit} {s s' : Store}
    (h : (recordHuman channel user now).Runs s x s') (hsound : s'.failures = s.failures) :
    s'.tables.Hears channel now ∧ s'.tables.restCell = s.tables.restCell ∧
      ∀ other, other ≠ channel → s'.tables.heardCell other = s.tables.heardCell other := by
  rcases runs_atomically h with ⟨_, s₁, s₂, -, hbegin, hact, hend⟩ | ⟨⟨f, rfl⟩, -⟩
  · obtain ⟨_, s₃, hchannel, hperson⟩ := runs_bind_ok hact
    obtain ⟨rows, hrows, -, hchanged⟩ := runs_change_ok hchannel
    obtain ⟨_, -, -, hseen⟩ := runs_change_ok hperson
    have hstart : s₁.tables = s.tables := hbegin.view
    have hfinish : s'.tables = s₂.tables := hend.view
    have hactivity : s.tables.activity = some rows := by
      rw [← hstart]
      exact hrows
    -- who it was is written elsewhere
    have hcells : s'.tables.heardCell = s₃.tables.heardCell ∧ s'.tables.restCell = s₃.tables.restCell := by
      rw [hfinish, hseen]
      exact ⟨rfl, rfl⟩
    have hkeep : s₃.tables.restCell = s.tables.restCell := by
      rw [hchanged, hstart]
      rfl
    have hheard : ∀ other, s₃.tables.heardCell other =
        if some channel = some other then
          ((Table.lookup ActivityRow.key (some other) rows).map fun old =>
            some (laterOf old.lastHumanAt now)).getD (some (.number now))
        else s.tables.heardCell other := by
      intro other
      rw [hchanged, hstart, Tables.heardCell, Tables.heardCell, hactivity]
      exact Table.column_put (by exact fun _ => rfl) rows
    refine ⟨?_, hcells.2.trans hkeep, ?_⟩
    · rw [Tables.Hears, hcells.1, hheard channel, if_pos rfl]
      cases Table.lookup ActivityRow.key (some channel) rows with
      | none =>
        refine ⟨.number now, rfl, fun n hn => ?_⟩
        exact Int.le_of_eq (Cell.number.inj hn)
      | some old => exact ⟨laterOf old.lastHumanAt now, rfl, fun n hn => le_laterOf hn⟩
    · intro other hother
      have hapart : some channel ≠ some other := fun hsame => hother (Option.some.inj hsame).symm
      rw [hcells.1, hheard other, if_neg hapart]
  · have hcounted := (counts_recordHuman channel user now).counted h
    omega

end Activity

/-! ## Removal -/

/-- A pass of the janitor removes nothing of what is kept of people and of turns. -/
theorem Janitor.pass_memory (c : Config) (now : Int) : Frames Tables.memory (Janitor.pass c now) := by
  unfold Janitor.pass
  refine (Frames.change (r := .locks) (fun _ _ => rfl) _).bind fun _ => ?_
  refine (Frames.change (r := .leases) (fun _ _ => rfl) _).bind fun _ => ?_
  refine (Frames.change (r := .threads) (fun _ _ => rfl) _).bind fun _ => ?_
  refine (Frames.change (r := .responders) (fun _ _ => rfl) _).bind fun _ => ?_
  refine (Frames.change (r := .affinities) (fun _ _ => rfl) _).bind fun _ => ?_
  refine (Frames.change (r := .sent) (fun _ _ => rfl) _).bind fun _ => ?_
  refine (Frames.change (r := .sessions) (fun _ _ => rfl) _).bind fun _ => ?_
  exact (Frames.change (r := .humans) (fun _ _ => rfl) _).bind fun _ => .pure _

/-! ## A turn -/

/-- The records of a message start the cooldown of its avatar, and leave everything else in memory as it
was. -/
theorem Engine.runs_recordRows_memory {e : Engine σ} {r : Turn.Request} {sent : Turn.Sent}
    {x : Except Fault Unit} {s s' : Store} (h : (e.recordRows r sent).Runs s x s')
    (hsound : s'.failures = s.failures) :
    s'.tables.heardCell = s.tables.heardCell ∧ ∀ k, s'.tables.restCell k =
      if (r.channelId, r.avatar.id) = k then
        some (.number (Numeral.wrapped (sent.sentAt + e.config.coordination.turnCooldownMs)))
      else s.tables.restCell k := by
  have hlater : Frames Tables.memory (do
      Activity.recordSent sent.messageId r.channelId r.avatar.id sent.sentAt
      Activity.recordBot r.channelId r.options.triggerKey sent.sentAt) :=
    (Activity.recordSent_frames (fun _ _ => rfl) _ _ _ _).bind fun _ => Activity.recordBot_memory _ _ _
  rcases runs_bind h with ⟨_, s₁, hturn, hrest⟩ | ⟨f, hturn, -⟩
  · have hkept := hlater _ _ _ hrest
    rcases Presence.runs_recordTurn hturn with ⟨-, hheard, hcool⟩ | hfault
    · constructor
      · exact (congrArg Prod.fst hkept.view).trans hheard
      · intro k
        exact (congrFun (congrArg Prod.snd hkept.view) k).trans (hcool k)
    · have hlost := hfault.failures
      have hle := hkept.failures
      omega
  · have hlost := (Counts.change _ _).counted hturn
    omega

/-! ## Reading -/

/-- Where people were heard in a channel, and nothing hinders a sweep of it, that was at least as long ago as
a sweep waits, unless the time that is kept is so far ahead that the difference overflows. -/
theorem Engine.Unhindered.waited {e : Engine σ} {channel : String} {time : Int} {w : World σ}
    (h : e.Unhindered channel w) (hheard : w.store.tables.Hears channel time)
    (hnear : ∀ n, w.store.tables.heardCell channel = some (.number n) → n ≤ w.clock + 0x8000000000000000) :
    time ≤ w.clock - e.config.ambient.humanSuppressionMs := by
  obtain ⟨activity, s, hfind, hquiet⟩ := h
  obtain ⟨cell, hcell, hle⟩ := hheard
  obtain ⟨rows, hrows, hread, -⟩ := runs_query_ok hfind
  have hactivity : w.store.tables.activity = some rows := hrows
  rw [Tables.heardCell, hactivity, Option.getD_some, Table.column] at hcell hnear
  cases hrow : Table.lookup ActivityRow.key (some channel) rows with
  | none =>
    rw [hrow] at hcell
    cases hcell
  | some row =>
    rw [hrow] at hcell hread
    have hlast : row.lastHumanAt = some cell := hcell
    have hmap : (Activity.readActivity row).map some = .ok activity := hread
    cases hact : Activity.readActivity row with
    | error f =>
      rw [hact] at hmap
      cases hmap
    | ok a =>
      rw [hact] at hmap
      obtain rfl := Except.ok.inj hmap
      -- what was written can be read only if it is a number
      unfold Activity.readActivity at hact
      obtain ⟨_, -, hact⟩ := reading_ok hact
      obtain ⟨_, -, hact⟩ := reading_ok hact
      obtain ⟨last, hhuman, hact⟩ := reading_ok hact
      obtain ⟨_, -, hact⟩ := reading_ok hact
      obtain rfl := Except.ok.inj hact
      rw [hlast] at hhuman
      rw [hrow] at hnear
      cases cell with
      | number n =>
        -- the time that was read is the stored one, so the pause since it is over
        obtain rfl := Except.ok.inj hhuman
        have htime := hle n rfl
        have hlong : ¬ Numeral.wrapped (w.clock - n) < e.config.ambient.humanSuppressionMs := by
          simpa using hquiet
        have hahead := hnear n hcell
        have hword := Numeral.wrapped_le (n := w.clock - n) (by omega)
        omega
      | real x => cases hhuman
      | text t => cases hhuman

namespace Presence

/-- The record of an avatar is its own. -/
theorem avatarId_of_recordOf {t : Tables} {channel avatar : String} {now : Int} {record : Record}
    (h : t.recordOf channel now avatar = some record) : record.avatarId = avatar := by
  rw [Tables.recordOf] at h
  cases hrow : Table.lookup PresenceRow.key (channel, avatar) (t.presence.getD []) with
  | none =>
    rw [hrow] at h
    obtain rfl := Option.some.inj h
    rfl
  | some row =>
    rw [hrow] at h
    cases hread : readRecord row with
    | error f =>
      simp only [hread] at h
      cases h
    | ok found =>
      simp only [hread] at h
      obtain rfl := Option.some.inj h
      have hkey := (key_of_readRecord hread).trans (Table.key_of_lookup hrow)
      exact congrArg Prod.snd hkey

/-- A record that is read tells the cooldown of its row. -/
theorem cooldown_of_readRecord {row : PresenceRow} {record : Record} {n : Int}
    (h : readRecord row = .ok record) (hn : row.cooldownUntil = some (.number n)) :
    record.cooldownUntil = some n := by
  unfold readRecord at h
  cases hstate : State.ofName? row.state with
  | none =>
    rw [hstate] at h
    cases h
  | some state =>
    simp only [hstate, pure_bind] at h
    -- the cooldown is the seventh of the columns that are read after the state
    iterate 6 obtain ⟨_, -, h⟩ := reading_ok h
    obtain ⟨last, hlast, h⟩ := reading_ok h
    obtain ⟨_, -, h⟩ := reading_ok h
    obtain ⟨_, -, h⟩ := reading_ok h
    obtain rfl := Except.ok.inj h
    rw [hn] at hlast
    exact (Except.ok.inj hlast).symm

/-- Where the record of an avatar does not cool down, the time until which it was to sit out is over. -/
theorem rested_of_recordOf {t : Tables} {channel avatar : String} {now cooldown since : Int}
    {record : Record} (h : t.recordOf channel now avatar = some record) (hawake : record.coolsAt now = false)
    (hrests : t.Rests cooldown (channel, avatar) since) : Numeral.wrapped (since + cooldown) ≤ now := by
  have hcell := hrests
  rw [Tables.Rests, Tables.restCell, Table.column] at hcell
  rw [Tables.recordOf] at h
  cases hrow : Table.lookup PresenceRow.key (channel, avatar) (t.presence.getD []) with
  | none =>
    rw [hrow] at hcell
    cases hcell
  | some row =>
    rw [hrow] at hcell h
    cases hread : readRecord row with
    | error f =>
      simp only [hread] at h
      cases h
    | ok found =>
      simp only [hread] at h
      obtain rfl := Option.some.inj h
      have hcooldown := cooldown_of_readRecord hread hcell
      rw [Record.coolsAt, hcooldown] at hawake
      simpa using hawake

end Presence

end TurnTaking
