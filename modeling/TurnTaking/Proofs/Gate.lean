import TurnTaking.Gate
import TurnTaking.Proofs.Store.Rows

/-!
# The gate — admissions as rows

An admission adds a row to the responders, and nothing else that the gate says changes any table
(`runs_enter_rows`). So what the gate does is told by the keys of the responder rows, each a trigger key
with an avatar. An admission appends the key of the request, and only where the avatar was not admitted and
room was left (`runs_enter`). Whoever overrides the cooldown and is the first of its trigger is always
admitted (`runs_enter_first`). Taking an admission back removes exactly its key (`runs_revoke`). Everything
else leaves the keys alone.
-/

namespace TurnTaking

open Store Store.Access

/-- The keys of the responder rows; none, if the table is missing. -/
def Store.Tables.responderKeys (t : Tables) : List (String × String) :=
  (t.responders.getD []).map ResponderRow.key

namespace Gate

/-- What an admission needs and what it does, for the responder keys before and after. -/
structure Admits (cap : Nat) (r : Request) (before after : List (String × String)) : Prop where
  absent : (r.triggerKey, r.avatarId) ∉ before
  room : before.countP (·.1 = r.triggerKey) < cap
  appended : after = before ++ [(r.triggerKey, r.avatarId)]

/-- The admitted are counted by the rows of their trigger. -/
theorem length_admitted (rows : List ResponderRow) (key : String) :
    ((rows.filter (·.triggerKey = key)).map ResponderRow.avatarId).length =
      (rows.map ResponderRow.key).countP (·.1 = key) := by
  rw [List.length_map, List.countP_map, List.countP_eq_length_filter]
  rfl

/-- The row of an admission. -/
def admittedRow (r : Request) (now : Int) : ResponderRow :=
  ⟨r.triggerKey, r.avatarId, r.channelId, .number now⟩

/-- What the gate says and what it does to the tables: it admits within the cap and adds the row of the
admission, or says something else and changes nothing. -/
def AnswersRows (cap : Nat) (r : Request) (now : Int) (a : Admission) (before after : Tables) : Prop :=
  (a = .admitted ∧ before.responderKeys.countP (·.1 = r.triggerKey) < cap ∧
      Added .responders ResponderRow.key (admittedRow r now) before after) ∨
    (a ≠ .admitted ∧ after = before)

/-- What an admission answers is what the rows tell. -/
theorem runs_admitResponder_rows {c : Config.Gate} {r : Request} {now : Int} {a : Admission}
    {s s' : Store} (h : (admitResponder c r now).Runs s (.ok a) s') :
    AnswersRows c.maxRespondersPerTrigger r now a s.tables s'.tables := by
  obtain ⟨admitted, s₁, hquery, hrest⟩ := runs_bind_ok h
  obtain ⟨rows, hrows, hfound, htables⟩ := runs_query_ok hquery
  obtain rfl := Except.ok.inj hfound
  rw [← htables] at hrows ⊢
  have hkeys : s₁.tables.responderKeys = rows.map ResponderRow.key := by
    rw [Tables.responderKeys, show s₁.tables.responders = some rows from hrows]
    rfl
  split at hrest
  · obtain ⟨rfl, rfl⟩ := runs_pure_ok hrest
    exact Or.inr ⟨by decide, rfl⟩
  · split at hrest
    · obtain ⟨rfl, rfl⟩ := runs_pure_ok hrest
      exact Or.inr ⟨by simp, rfl⟩
    · rename_i hroom
      obtain ⟨_, s₂, hadd, hret⟩ := runs_bind_ok hrest
      obtain ⟨rfl, rfl⟩ := runs_pure_ok hret
      refine Or.inl ⟨rfl, ?_, runs_insert hadd⟩
      rw [hkeys, ← length_admitted]
      omega

/-- The gate answers a request, or ends in a fault, which changes no table. -/
theorem runs_enter_rows {c : Config.Gate} {r : Request} {now : Int} {x : Except Fault Admission}
    {s s' : Store} (h : (enter c r now).Runs s x s') :
    (∃ a, x = .ok a ∧ AnswersRows c.maxRespondersPerTrigger r now a s.tables s'.tables) ∨
      ((∃ e, x = .error e) ∧ s'.tables = s.tables) := by
  rcases runs_atomically h with ⟨a, s₁, s₂, rfl, hbegin, hact, hend⟩ | ⟨he, htables, -⟩
  · refine Or.inl ⟨a, rfl, ?_⟩
    have h₁ : s₁.tables = s.tables := hbegin.view
    have h₂ : s'.tables = s₂.tables := hend.view
    rw [h₂, ← h₁]
    simp only at hact
    split at hact
    · obtain ⟨last, s₃, hquery, hrest⟩ := runs_bind_ok hact
      obtain ⟨_, -, -, htables⟩ := runs_query_ok hquery
      rw [← htables]
      split at hrest
      · obtain ⟨rfl, rfl⟩ := runs_pure_ok hrest
        exact Or.inr ⟨by simp, rfl⟩
      · exact runs_admitResponder_rows hrest
    · exact runs_admitResponder_rows hact
  · exact Or.inr ⟨he, htables⟩

/-- What the gate says and what it does to the responder keys: it admits within the cap and appends the
admission, or says something else and leaves the keys alone. -/
def Answers (cap : Nat) (r : Request) (a : Admission) (before after : List (String × String)) : Prop :=
  (a = .admitted ∧ Admits cap r before after) ∨ (a ≠ .admitted ∧ after = before)

/-- An answer about rows is one about their keys. -/
theorem AnswersRows.keys {cap : Nat} {r : Request} {now : Int} {a : Admission} {before after : Tables}
    (h : AnswersRows cap r now a before after) :
    Answers cap r a before.responderKeys after.responderKeys := by
  rcases h with ⟨rfl, hroom, rows, hrows, hfree, rfl⟩ | ⟨hother, rfl⟩
  · have hkeys : before.responderKeys = rows.map ResponderRow.key := by
      rw [Tables.responderKeys, show before.responders = some rows from hrows]
      rfl
    refine Or.inl ⟨rfl, ?_, hroom, ?_⟩
    · rw [hkeys, ← Table.holds_eq_true]
      exact ne_true_of_eq_false hfree
    · rw [hkeys]
      exact List.map_append
  · exact Or.inr ⟨hother, rfl⟩

/-- The gate answers a request, or ends in a fault and leaves the responder keys alone. -/
theorem runs_enter {c : Config.Gate} {r : Request} {now : Int} {x : Except Fault Admission}
    {s s' : Store} (h : (enter c r now).Runs s x s') :
    (∃ a, x = .ok a ∧
        Answers c.maxRespondersPerTrigger r a s.tables.responderKeys s'.tables.responderKeys) ∨
      ((∃ e, x = .error e) ∧ s'.tables.responderKeys = s.tables.responderKeys) := by
  rcases runs_enter_rows h with ⟨a, hx, hanswer⟩ | ⟨he, htables⟩
  · exact Or.inl ⟨a, hx, hanswer.keys⟩
  · exact Or.inr ⟨he, by rw [htables]⟩

/-! ## The first of a trigger -/

/-- Nobody was admitted for the trigger of a key. -/
def Unanswered (t : Tables) (key : String) : Prop := ∀ k ∈ t.responderKeys, k.1 ≠ key

/-- Where nobody was admitted for the trigger yet, there is room for one, and nobody was admitted twice. -/
theorem runs_admitResponder_first {c : Config.Gate} {r : Request} {now : Int} {a : Admission}
    {s s' : Store} (hfirst : Unanswered s.tables r.triggerKey) (hroom : 1 ≤ c.maxRespondersPerTrigger)
    (h : (admitResponder c r now).Runs s (.ok a) s') : a = .admitted := by
  obtain ⟨admitted, s₁, hquery, hrest⟩ := runs_bind_ok h
  obtain ⟨rows, hrows, hfound, -⟩ := runs_query_ok hquery
  have hkeys : s.tables.responderKeys = rows.map ResponderRow.key := by
    rw [Tables.responderKeys, show s.tables.responders = some rows from hrows]
    rfl
  have hnone : admitted = [] := by
    rw [← Except.ok.inj hfound, List.map_eq_nil_iff, List.filter_eq_nil_iff]
    intro row hrow
    have hother : row.triggerKey ≠ r.triggerKey := by
      apply hfirst row.key
      rw [hkeys]
      exact List.mem_map_of_mem hrow
    simpa using hother
  subst hnone
  rw [List.contains_nil, if_neg Bool.false_ne_true, List.length_nil, if_neg (by omega)] at hrest
  obtain ⟨_, s₂, -, hret⟩ := runs_bind_ok hrest
  exact (runs_pure_ok hret).1

/-- Every failed statement of an admission is counted. -/
theorem counts_admitResponder (c : Config.Gate) (r : Request) (now : Int) :
    Counts (admitResponder c r now) := by
  refine (Counts.query _ _).bind fun admitted => ?_
  split
  · exact .pure _
  · split
    · exact .pure _
    · exact (Counts.statement _ _).bind fun _ => .pure _

theorem counts_enter (c : Config.Gate) (r : Request) (now : Int) : Counts (enter c r now) := by
  refine Counts.atomically ?_
  extract_lets cooldown
  split
  · refine (Counts.query _ _).bind fun last => ?_
    split
    · exact .pure _
    · exact counts_admitResponder c r now
  · exact counts_admitResponder c r now

/-- Whoever overrides the cooldown and is the first of its trigger is admitted, unless a statement fails. -/
theorem runs_enter_first {c : Config.Gate} {r : Request} {now : Int} {x : Except Fault Admission}
    {s s' : Store} (hfirst : Unanswered s.tables r.triggerKey) (hroom : 1 ≤ c.maxRespondersPerTrigger)
    (hoverrides : r.overridesCooldown = true) (h : (enter c r now).Runs s x s') :
    x = .ok .admitted ∨ s.failures < s'.failures := by
  cases x with
  | error f => exact Or.inr ((counts_enter c r now).counted h)
  | ok a =>
    rcases runs_atomically h with ⟨a', s₁, s₂, ha, hbegin, hact, -⟩ | ⟨⟨f, hf⟩, -⟩
    · obtain rfl := Except.ok.inj ha
      simp only [hoverrides, Bool.not_true, Bool.false_and, Bool.false_eq_true, if_false] at hact
      have hsame : s₁.tables = s.tables := hbegin.view
      rw [← hsame] at hfirst
      rw [runs_admitResponder_first hfirst hroom hact]
      exact Or.inl rfl
    · cases hf

/-! ## Admissions taken back -/

/-- Taking an admission back removes its key and no other, unless the store fails. -/
theorem runs_revoke {key avatar : String} {x : Except Fault Unit} {s s' : Store}
    (h : (revoke key avatar).Runs s x s') :
    s'.tables.responderKeys = s.tables.responderKeys.filter (· ≠ (key, avatar)) ∨
      s'.tables.responderKeys = s.tables.responderKeys := by
  have hchange : ∀ {y}, (change .responders
      (Table.remove fun r : ResponderRow => r.key = (key, avatar))).Runs s y s' →
      s'.tables.responderKeys = s.tables.responderKeys.filter (· ≠ (key, avatar)) ∨
        s'.tables.responderKeys = s.tables.responderKeys := by
    intro y hrun
    rcases runs_change hrun with ⟨rows, hrows, -, htables, -⟩ | ⟨-, hfault⟩
    · left
      rw [htables, Tables.responderKeys, Tables.responderKeys,
        show s.tables.responders = some rows from hrows]
      simp only [Option.getD_some, Table.remove, Relation.responders, List.filter_map]
      congr 2
      funext r
      simp
    · exact .inr (by rw [hfault.tables])
  rcases runs_bind h with ⟨_, s₁, hremove, hret⟩ | ⟨_, hremove, -⟩
  · obtain ⟨-, rfl⟩ := runs_pure hret
    exact hchange hremove
  · exact hchange hremove

end Gate

end TurnTaking
