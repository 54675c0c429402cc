import Mathlib.Data.List.Forall2
import TurnTaking.Config.Environment
import TurnTaking.Proofs.Numeral.Integer

/-!
# Overriding — what the environment does to a configuration

Each variable settles one setting. No two of them touch the same setting, so that after all of them a setting
holds what its own variable spells, or what it held before if that variable is absent (`Overridden`); the
settings that have no variable are kept. Overriding succeeds just if every variable that is present spells a
value of its setting, its result is the one configuration of this kind, and another time it changes nothing
(`variables_settle_settings`).
-/

namespace TurnTaking.Config

open TurnTaking.Text

/-! ## What values variables spell -/

/-- A natural number of 64 bits, between blanks if wanted. -/
def SpellsCount (raw : String) (n : Nat) : Prop :=
  Numeral.SpellsNat (trimChars raw.toList) n ∧ n < 0x10000000000000000

/-- A signed integer of 64 bits, between blanks if wanted. -/
def SpellsSpan (raw : String) (n : Int) : Prop :=
  Numeral.SpellsInt (trimChars raw.toList) n ∧ -0x8000000000000000 ≤ n ∧ n < 0x8000000000000000

/-- The words for a truth value. -/
def wordsFor : Bool → List String
  | true => ["1", "true", "yes", "on"]
  | false => ["0", "false", "no", "off"]

/-- A word for a truth value, in any case and between blanks if wanted. -/
def SpellsTruth (raw : String) (b : Bool) : Prop :=
  ∃ word ∈ wordsFor b, (trimChars raw.toList).map Char.toLower = word.toList

/-- Decimal fractions between commas, each between blanks if wanted. -/
def SpellsDecimals (raw : String) (xs : List Float) : Prop :=
  List.Forall₂ (fun part x => Numeral.readDecimal (String.ofList (trimChars part)) = .ok x)
    (partsBetween ',' raw.toList) xs

/-- A path, which is the text as it is. -/
def SpellsPath (raw : String) (path : Option String) : Prop := path = some raw

/-- A setting after its variable was looked at: what the variable spells, or what the setting was before. -/
def Settled {α : Type} (env : Environment) (name : String) (Spells : String → α → Prop) (old new : α) : Prop :=
  match env name with
  | none => new = old
  | some raw => Spells raw new

/-- The settings that have no variable. -/
def withoutVariable (c : Config) :=
  (c.logLevel,
    (c.ambient.humansPerSlot, c.ambient.activeHumanWindowMs),
    (c.coordination.speakerCacheTtlMs, c.coordination.speakerCacheSize, c.coordination.diversityWindow,
      c.coordination.legacyCandidates, c.coordination.mentionCascadeFanout, c.coordination.threadTurns,
      c.coordination.threadTtlMs),
    (c.janitor.responderRetentionMs, c.janitor.avatarMessageRetentionMs))

/-- A configuration is what another one is in an environment: each variable settles its setting, and the
other settings are kept. -/
structure Overridden (env : Environment) (old new : Config) : Prop where
  dbPath : Settled env "CHORUS_DB_PATH" SpellsPath old.storage.dbPath new.storage.dbPath
  tickInterval : Settled env "AMBIENT_TICK_MS" SpellsCount old.ambient.tickIntervalMs new.ambient.tickIntervalMs
  tickJitter :
    Settled env "AMBIENT_TICK_JITTER_MS" SpellsCount old.ambient.tickJitterMs new.ambient.tickJitterMs
  globalBudget :
    Settled env "AMBIENT_GLOBAL_BUDGET" SpellsCount old.ambient.globalBudget new.ambient.globalBudget
  maxK : Settled env "AMBIENT_MAX_K" SpellsCount old.ambient.maxK new.ambient.maxK
  channelLimit :
    Settled env "AMBIENT_CHANNEL_LIMIT" SpellsCount old.ambient.channelLimit new.ambient.channelLimit
  humanSuppression : Settled env "HUMAN_SUPPRESSION_MS" SpellsSpan
    old.ambient.humanSuppressionMs new.ambient.humanSuppressionMs
  maxResponses : Settled env "MAX_RESPONSES_PER_MESSAGE" SpellsCount
    old.coordination.maxResponsesPerMessage new.coordination.maxResponsesPerMessage
  stickyAffinity : Settled env "STICKY_AFFINITY_EXCLUSIVE" SpellsTruth
    old.coordination.stickyAffinityExclusive new.coordination.stickyAffinityExclusive
  affinityTtl :
    Settled env "AFFINITY_TTL_MS" SpellsSpan old.coordination.affinityTtlMs new.coordination.affinityTtlMs
  turnBased :
    Settled env "TURN_BASED_MODE" SpellsTruth old.coordination.turnBasedMode new.coordination.turnBasedMode
  turnCooldown :
    Settled env "TURN_COOLDOWN_MS" SpellsSpan old.coordination.turnCooldownMs new.coordination.turnCooldownMs
  thresholds : Settled env "FALLBACK_SCORE_THRESHOLDS" SpellsDecimals
    old.coordination.fallbackScoreThresholds new.coordination.fallbackScoreThresholds
  channelCooldown :
    Settled env "CHANNEL_COOLDOWN_MS" SpellsSpan old.gate.channelCooldownMs new.gate.channelCooldownMs
  botReplyCooldown :
    Settled env "BOT_REPLY_COOLDOWN_MS" SpellsSpan old.gate.botReplyCooldownMs new.gate.botReplyCooldownMs
  maxResponders : Settled env "MAX_RESPONDERS_PER_TRIGGER" SpellsCount
    old.gate.maxRespondersPerTrigger new.gate.maxRespondersPerTrigger
  responseLockTtl :
    Settled env "RESPONSE_LOCK_TTL_MS" SpellsSpan old.locks.responseLockTtlMs new.locks.responseLockTtlMs
  leaseTtl : Settled env "TURN_LEASE_TTL_MS" SpellsSpan old.locks.leaseTtlMs new.locks.leaseTtlMs
  janitorInterval : Settled env "JANITOR_INTERVAL_MS" SpellsCount old.janitor.intervalMs new.janitor.intervalMs
  others : withoutVariable new = withoutVariable old

/-- The variables that are natural numbers. -/
def countVariables : List String :=
  ["AMBIENT_TICK_MS", "AMBIENT_TICK_JITTER_MS", "AMBIENT_GLOBAL_BUDGET", "AMBIENT_MAX_K",
    "AMBIENT_CHANNEL_LIMIT", "MAX_RESPONSES_PER_MESSAGE", "MAX_RESPONDERS_PER_TRIGGER", "JANITOR_INTERVAL_MS"]

/-- The variables that are signed integers. -/
def spanVariables : List String :=
  ["HUMAN_SUPPRESSION_MS", "AFFINITY_TTL_MS", "TURN_COOLDOWN_MS", "CHANNEL_COOLDOWN_MS",
    "BOT_REPLY_COOLDOWN_MS", "RESPONSE_LOCK_TTL_MS", "TURN_LEASE_TTL_MS"]

/-- The variables that are truth values. -/
def truthVariables : List String := ["STICKY_AFFINITY_EXCLUSIVE", "TURN_BASED_MODE"]

/-- Every variable that is looked at. -/
def variableNames : List String :=
  "CHORUS_DB_PATH" :: "FALLBACK_SCORE_THRESHOLDS" :: countVariables ++ spanVariables ++ truthVariables

/-- Every variable that is present spells a value of its kind. A path may be any text. -/
structure Legible (env : Environment) : Prop where
  counts : ∀ name ∈ countVariables, ∀ raw ∈ env name, ∃ n, SpellsCount raw n
  spans : ∀ name ∈ spanVariables, ∀ raw ∈ env name, ∃ n, SpellsSpan raw n
  truths : ∀ name ∈ truthVariables, ∀ raw ∈ env name, ∃ b, SpellsTruth raw b
  thresholds : ∀ raw ∈ env "FALLBACK_SCORE_THRESHOLDS", ∃ xs, SpellsDecimals raw xs

namespace Override

/-! ## Readings -/

section

variable {name raw : String}

theorem mapError_eq_ok_iff {ε ε' α : Type} {f : ε → ε'} {x : Except ε α} {a : α} :
    x.mapError f = .ok a ↔ x = .ok a := by
  cases x <;> simp [Except.mapError]

/-- A count is read from what spells it. -/
theorem read_count {get : Config → Nat} {set : Nat → Config → Config} {n : Nat} :
    (count name get set).read raw = .ok n ↔ SpellsCount raw n := by
  refine mapError_eq_ok_iff.trans (Numeral.readNat64_eq_ok_iff.trans ?_)
  rw [trim, String.toList_ofList, SpellsCount]

theorem read_span {get : Config → Int} {set : Int → Config → Config} {n : Int} :
    (span name get set).read raw = .ok n ↔ SpellsSpan raw n := by
  refine mapError_eq_ok_iff.trans (Numeral.readInt64_eq_ok_iff.trans ?_)
  rw [trim, String.toList_ofList, SpellsSpan]

/-- The words for true are tried before those for false. -/
theorem truthOf?_eq (word : String) : truthOf? word =
    if word ∈ wordsFor true then some true else if word ∈ wordsFor false then some false else none := by
  simp only [truthOf?, List.contains_iff_mem]
  rfl

/-- A word is read as the truth value that it stands for. -/
theorem truthOf?_eq_some_iff {word : String} {b : Bool} : truthOf? word = some b ↔ word ∈ wordsFor b := by
  -- no word stands for both truth values
  have hapart : ∀ w ∈ wordsFor true, w ∉ wordsFor false := by decide
  rw [truthOf?_eq]
  by_cases htrue : word ∈ wordsFor true
  · have hfalse := hapart word htrue
    cases b <;> simp [htrue, hfalse]
  · by_cases hfalse : word ∈ wordsFor false
    · cases b <;> simp [htrue, hfalse]
    · cases b <;> simp [htrue, hfalse]

/-- A truth value is read from what spells it. -/
theorem read_truth {get : Config → Bool} {set : Bool → Config → Config} {b : Bool} :
    (truth name get set).read raw = .ok b ↔ SpellsTruth raw b := by
  have hread : (truth name get set).read raw = .ok b ↔ truthOf? (wordOf raw) = some b := by
    simp only [truth]
    split
    · simp_all
    · simp_all
  rw [hread, truthOf?_eq_some_iff, wordOf, SpellsTruth]
  constructor
  · exact fun h => ⟨_, h, String.toList_ofList.symm⟩
  · rintro ⟨word, hword, hraw⟩
    rw [hraw, String.ofList_toList]
    exact hword

/-- A list is read just if each of its members is. -/
theorem mapM_eq_ok_iff {α β ε : Type} {f : α → Except ε β} {l : List α} {ys : List β} :
    l.mapM f = .ok ys ↔ List.Forall₂ (fun a y => f a = .ok y) l ys := by
  induction l generalizing ys with
  | nil => simp [pure, Except.pure, eq_comm]
  | cons a l ih =>
    rw [List.mapM_cons, List.forall₂_cons_left_iff]
    cases hfirst : f a with
    | error e => simp [bind, Except.bind]
    | ok y =>
      cases hrest : l.mapM f with
      | error e => simp [bind, Except.bind, ← ih, hrest]
      | ok ys' => simp [bind, Except.bind, pure, Except.pure, ← ih, hrest, eq_comm]

theorem read_decimals {get : Config → List Float} {set : List Float → Config → Config} {xs : List Float} :
    (decimals name get set).read raw = .ok xs ↔ SpellsDecimals raw xs :=
  mapError_eq_ok_iff.trans mapM_eq_ok_iff

theorem read_path {get : Config → Option String} {set : Option String → Config → Config}
    {p : Option String} : (path name get set).read raw = .ok p ↔ SpellsPath raw p := by
  simp [path, SpellsPath, eq_comm]

end

/-! ## Overriding in general -/

def Lawful (o : Override) : Prop := ∀ v c, o.get (o.set v c) = v

/-- Neither of two overrides touches the setting of the other. -/
def Apart (o p : Override) : Prop :=
  (∀ v c, o.get (p.set v c) = o.get c) ∧ ∀ v c, p.get (o.set v c) = p.get c

/-- The variable, if it is present, spells a value. -/
def Legible (o : Override) (env : Environment) : Prop := ∀ raw ∈ env o.name, ∃ v, o.read raw = .ok v

/-- The variable settles the setting. -/
def Settles (o : Override) (env : Environment) (old new : Config) : Prop :=
  Settled env o.name (fun raw v => o.read raw = .ok v) (o.get old) (o.get new)

variable {o : Override} {env : Environment} {c c' : Config} {os : List Override}

/-- An override does nothing or sets what is read. -/
theorem apply_eq_ok_iff : o.apply env c = .ok c' ↔
    (env o.name = none ∧ c' = c) ∨ ∃ raw v, env o.name = some raw ∧ o.read raw = .ok v ∧ c' = o.set v c := by
  rw [apply]
  cases env o.name with
  | none => simp [eq_comm]
  | some raw => cases hread : o.read raw <;> simp [Except.map, hread, eq_comm]

/-- A variable changes nothing that its setting does not touch. -/
theorem apply_frame {α : Type} {g : Config → α} (hg : ∀ v c, g (o.set v c) = g c)
    (h : o.apply env c = .ok c') : g c' = g c := by
  rcases apply_eq_ok_iff.mp h with ⟨-, rfl⟩ | ⟨raw, v, -, -, rfl⟩
  · rfl
  · exact hg v c

/-- An override that succeeds settles its setting. -/
theorem settles_of_apply (hlawful : o.Lawful) (h : o.apply env c = .ok c') : o.Settles env c c' := by
  rcases apply_eq_ok_iff.mp h with ⟨hnone, rfl⟩ | ⟨raw, v, hsome, hread, rfl⟩
  · rw [Settles, Settled, hnone]
  · rw [Settles, Settled, hsome]
    show o.read raw = .ok (o.get (o.set v c))
    rw [hlawful, hread]

/-- An override succeeds just if its variable is legible. -/
theorem exists_apply_iff : (∃ c', o.apply env c = .ok c') ↔ o.Legible env := by
  rw [apply, Legible]
  cases env o.name with
  | none => simp
  | some raw => cases hread : o.read raw <;> simp [Except.map, hread]

/-- All overrides one after the other. -/
def applyAll (os : List Override) (env : Environment) (c : Config) : Except EnvironmentFault Config :=
  os.foldlM (fun c o => o.apply env c) c

theorem applyAll_cons_eq_ok_iff : applyAll (o :: os) env c = .ok c' ↔
    ∃ c₁, o.apply env c = .ok c₁ ∧ applyAll os env c₁ = .ok c' := by
  rw [applyAll, List.foldlM_cons]
  cases o.apply env c with
  | error e => simp [bind, Except.bind]
  | ok c₁ => simp [bind, Except.bind, applyAll]

/-- What no override touches stays as it was. -/
theorem applyAll_frame {α : Type} {g : Config → α} (hg : ∀ o ∈ os, ∀ v c, g (o.set v c) = g c)
    (h : applyAll os env c = .ok c') : g c' = g c := by
  induction os generalizing c with
  | nil => 
    cases h
    rfl
  | cons o os ih =>
    obtain ⟨hfirst, hrest⟩ := List.forall_mem_cons.mp hg
    obtain ⟨c₁, ho, hos⟩ := applyAll_cons_eq_ok_iff.mp h
    rw [ih hrest hos, apply_frame hfirst ho]

/-- Where overrides are apart each one settles its setting, whatever the others do. -/
theorem settles_of_applyAll (hlawful : ∀ o ∈ os, o.Lawful) (hapart : os.Pairwise Apart)
    (h : applyAll os env c = .ok c') : ∀ o ∈ os, o.Settles env c c' := by
  induction os generalizing c with
  | nil => exact nofun
  | cons o os ih =>
    obtain ⟨ho, hos⟩ := List.forall_mem_cons.mp hlawful
    obtain ⟨hfirst, hrest⟩ := List.pairwise_cons.mp hapart
    obtain ⟨c₁, happly, hall⟩ := applyAll_cons_eq_ok_iff.mp h
    refine List.forall_mem_cons.mpr ⟨?_, fun p hp => ?_⟩
    · have hkept : o.get c' = o.get c₁ := applyAll_frame (fun p hp => (hfirst p hp).1) hall
      rw [Settles, hkept]
      exact settles_of_apply ho happly
    · have hkept : p.get c₁ = p.get c := apply_frame (hfirst p hp).2 happly
      rw [Settles, ← hkept]
      exact ih hos hrest hall p hp

/-- All overrides succeed just if each is legible. -/
theorem exists_applyAll_iff : (∃ c', applyAll os env c = .ok c') ↔ ∀ o ∈ os, o.Legible env := by
  induction os generalizing c with
  | nil => exact ⟨fun _ => nofun, fun _ => ⟨c, rfl⟩⟩
  | cons o os ih =>
    rw [List.forall_mem_cons]
    constructor
    · rintro ⟨c', h⟩
      obtain ⟨c₁, ho, hos⟩ := applyAll_cons_eq_ok_iff.mp h
      exact ⟨exists_apply_iff.mp ⟨c₁, ho⟩, ih.mp ⟨c', hos⟩⟩
    · rintro ⟨ho, hos⟩
      obtain ⟨c₁, hc₁⟩ := exists_apply_iff.mpr ho
      obtain ⟨c', hc'⟩ := ih.mpr hos
      exact ⟨c', applyAll_cons_eq_ok_iff.mpr ⟨c₁, hc₁, hc'⟩⟩

/-- Only the variables of the overrides count. -/
theorem applyAll_congr {env' : Environment} (h : ∀ o ∈ os, env' o.name = env o.name) :
    applyAll os env' c = applyAll os env c := by
  induction os generalizing c with
  | nil => rfl
  | cons o os ih =>
    obtain ⟨ho, hos⟩ := List.forall_mem_cons.mp h
    have hfirst : o.apply env' c = o.apply env c := by rw [apply, apply, ho]
    rw [applyAll, applyAll, List.foldlM_cons, List.foldlM_cons, hfirst]
    cases o.apply env c with
    | error _ => rfl
    | ok c₁ => exact ih hos

/-- What is settled is determined. -/
theorem Settles.get_eq {c₁ c₂ : Config} (h₁ : o.Settles env c c₁) (h₂ : o.Settles env c c₂) :
    o.get c₁ = o.get c₂ := by
  rw [Settles, Settled] at h₁ h₂
  cases henv : env o.name with
  | none =>
    rw [henv] at h₁ h₂
    exact h₁.trans h₂.symm
  | some raw =>
    rw [henv] at h₁ h₂
    exact Except.ok.inj (h₁.symm.trans h₂)

end Override

/-! ## The settings of a configuration -/

/-- In every override, what was set is there. -/
theorem lawful_of_mem_overrides : ∀ o ∈ overrides, o.Lawful := by
  unfold overrides
  repeat refine List.forall_mem_cons.mpr ⟨fun _ _ => rfl, ?_⟩
  exact nofun

/-- No two variables touch the same setting. -/
theorem pairwise_apart_overrides : overrides.Pairwise Override.Apart := by
  unfold overrides
  repeat
    refine List.pairwise_cons.mpr ⟨?_, ?_⟩
    · repeat refine List.forall_mem_cons.mpr ⟨⟨fun _ _ => rfl, fun _ _ => rfl⟩, ?_⟩
      exact nofun
  exact .nil

theorem name_mem_variableNames : ∀ o ∈ overrides, o.name ∈ variableNames := by
  unfold overrides
  repeat refine List.forall_mem_cons.mpr ⟨by decide, ?_⟩
  exact nofun

/-- No variable touches the settings that have none. -/
theorem withoutVariable_set : ∀ o ∈ overrides, ∀ v c, withoutVariable (o.set v c) = withoutVariable c := by
  unfold overrides
  repeat refine List.forall_mem_cons.mpr ⟨fun _ _ => rfl, ?_⟩
  exact nofun

/-- The settings are all that there is to a configuration. -/
theorem eq_of_settings {c₁ c₂ : Config} (hsettings : ∀ o ∈ overrides, o.get c₁ = o.get c₂)
    (hothers : withoutVariable c₁ = withoutVariable c₂) : c₁ = c₂ := by
  obtain ⟨log₁, ⟨db₁⟩, ⟨⟩, ⟨⟩, ⟨⟩, ⟨⟩, ⟨⟩⟩ := c₁
  obtain ⟨log₂, ⟨db₂⟩, ⟨⟩, ⟨⟩, ⟨⟩, ⟨⟩, ⟨⟩⟩ := c₂
  simp only [overrides, List.forall_mem_cons, Override.path, Override.count, Override.span, Override.truth,
    Override.decimals, Override.number] at hsettings
  simp only [withoutVariable, Prod.mk.injEq] at hothers
  simp only [hsettings, hothers]

/-- Settings agree where the same texts spell the same values. -/
theorem settled_congr {α : Type} {env : Environment} {name : String} {Spells Spells' : String → α → Prop}
    {old new : α} (h : ∀ raw, Spells raw new ↔ Spells' raw new) :
    Settled env name Spells old new ↔ Settled env name Spells' old new := by
  rw [Settled, Settled]
  cases env name with
  | none => rfl
  | some raw => exact h raw

namespace Override

section

variable {env : Environment} {name : String} {c c' : Config}

theorem settles_count {get : Config → Nat} {set : Nat → Config → Config} :
    (count name get set).Settles env c c' ↔ Settled env name SpellsCount (get c) (get c') :=
  settled_congr fun _ => read_count

theorem settles_span {get : Config → Int} {set : Int → Config → Config} :
    (span name get set).Settles env c c' ↔ Settled env name SpellsSpan (get c) (get c') :=
  settled_congr fun _ => read_span

theorem settles_truth {get : Config → Bool} {set : Bool → Config → Config} :
    (truth name get set).Settles env c c' ↔ Settled env name SpellsTruth (get c) (get c') :=
  settled_congr fun _ => read_truth

theorem settles_decimals {get : Config → List Float} {set : List Float → Config → Config} :
    (decimals name get set).Settles env c c' ↔ Settled env name SpellsDecimals (get c) (get c') :=
  settled_congr fun _ => read_decimals

theorem settles_path {get : Config → Option String} {set : Option String → Config → Config} :
    (path name get set).Settles env c c' ↔ Settled env name SpellsPath (get c) (get c') :=
  settled_congr fun _ => read_path

theorem legible_count {get : Config → Nat} {set : Nat → Config → Config} :
    (count name get set).Legible env ↔ ∀ raw ∈ env name, ∃ n, SpellsCount raw n :=
  forall₂_congr fun _ _ => exists_congr fun _ => read_count

theorem legible_span {get : Config → Int} {set : Int → Config → Config} :
    (span name get set).Legible env ↔ ∀ raw ∈ env name, ∃ n, SpellsSpan raw n :=
  forall₂_congr fun _ _ => exists_congr fun _ => read_span

theorem legible_truth {get : Config → Bool} {set : Bool → Config → Config} :
    (truth name get set).Legible env ↔ ∀ raw ∈ env name, ∃ b, SpellsTruth raw b :=
  forall₂_congr fun _ _ => exists_congr fun _ => read_truth

theorem legible_decimals {get : Config → List Float} {set : List Float → Config → Config} :
    (decimals name get set).Legible env ↔ ∀ raw ∈ env name, ∃ xs, SpellsDecimals raw xs :=
  forall₂_congr fun _ _ => exists_congr fun _ => read_decimals

/-- Any text is a path. -/
theorem legible_path {get : Config → Option String} {set : Option String → Config → Config} :
    (path name get set).Legible env ↔ True :=
  iff_true_intro fun _ _ => ⟨_, rfl⟩

end

end Override

section

variable {env : Environment} {c c' : Config}

/-- A configuration is what overriding makes of another one just if each variable settles its setting and the
other settings are kept. -/
theorem overridden_iff : Overridden env c c' ↔
    (∀ o ∈ overrides, o.Settles env c c') ∧ withoutVariable c' = withoutVariable c := by
  simp only [overrides, List.forall_mem_cons, Override.settles_path, Override.settles_count,
    Override.settles_span, Override.settles_truth, Override.settles_decimals]
  constructor
  · rintro ⟨h₁, h₂, h₃, h₄, h₅, h₆, h₇, h₈, h₉, h₁₀, h₁₁, h₁₂, h₁₃, h₁₄, h₁₅, h₁₆, h₁₇, h₁₈, h₁₉, hothers⟩
    exact ⟨⟨h₁, h₂, h₃, h₄, h₅, h₆, h₇, h₈, h₉, h₁₀, h₁₁, h₁₂, h₁₃, h₁₄, h₁₅, h₁₆, h₁₇, h₁₈, h₁₉, nofun⟩, hothers⟩
  · rintro ⟨⟨h₁, h₂, h₃, h₄, h₅, h₆, h₇, h₈, h₉, h₁₀, h₁₁, h₁₂, h₁₃, h₁₄, h₁₅, h₁₆, h₁₇, h₁₈, h₁₉, -⟩, hothers⟩
    exact ⟨h₁, h₂, h₃, h₄, h₅, h₆, h₇, h₈, h₉, h₁₀, h₁₁, h₁₂, h₁₃, h₁₄, h₁₅, h₁₆, h₁₇, h₁₈, h₁₉, hothers⟩

/-- The environment is legible just if each variable is for its override. -/
theorem legible_iff : Legible env ↔ ∀ o ∈ overrides, o.Legible env := by
  simp only [overrides, List.forall_mem_cons, Override.legible_path, Override.legible_count,
    Override.legible_span, Override.legible_truth, Override.legible_decimals]
  constructor
  · rintro ⟨hcounts, hspans, htruths, hthresholds⟩
    simp only [countVariables, spanVariables, truthVariables, List.forall_mem_cons] at hcounts hspans htruths
    tauto
  · intro h
    constructor
    · simp only [countVariables, List.forall_mem_cons]
      tauto
    · simp only [spanVariables, List.forall_mem_cons]
      tauto
    · simp only [truthVariables, List.forall_mem_cons]
      tauto
    · tauto

/-- A configuration that was read is overridden field by field. -/
theorem overridden_of_override (h : c.override env = .ok c') : Overridden env c c' :=
  overridden_iff.mpr ⟨Override.settles_of_applyAll lawful_of_mem_overrides pairwise_apart_overrides h,
    Override.applyAll_frame withoutVariable_set h⟩

/-- The variables are read just if each is legible. -/
theorem exists_override_iff : (∃ c', c.override env = .ok c') ↔ Legible env :=
  Override.exists_applyAll_iff.trans legible_iff.symm

/-- A variable that settled a setting is present and legible, or absent. -/
theorem Override.Settles.legible {o : Override} (h : o.Settles env c c') : o.Legible env := by
  intro raw hraw
  rw [Settles, Settled, Option.mem_def.mp hraw] at h
  exact ⟨_, h⟩

/-- There is one configuration that overriding can make of another one, and it does make it. -/
theorem override_eq_ok_iff : c.override env = .ok c' ↔ Overridden env c c' := by
  refine ⟨overridden_of_override, fun h => ?_⟩
  obtain ⟨hsettles, hothers⟩ := overridden_iff.mp h
  obtain ⟨made, hmade⟩ := exists_override_iff.mpr (legible_iff.mpr fun o ho => (hsettles o ho).legible)
  obtain ⟨hmadeSettles, hmadeOthers⟩ := overridden_iff.mp (overridden_of_override hmade)
  rw [hmade, eq_of_settings (fun o ho => (hmadeSettles o ho).get_eq (hsettles o ho))
    (hmadeOthers.trans hothers.symm)]

/-- To settle a setting again changes nothing. -/
theorem Override.Settles.again {o : Override} (h : o.Settles env c c') : o.Settles env c' c' := by
  rw [Settles, Settled] at h ⊢
  split
  · rfl
  · rename_i henv
    rw [henv] at h
    exact h

/-- What was overridden is so once more by itself. -/
theorem Overridden.again (h : Overridden env c c') : Overridden env c' c' :=
  overridden_iff.mpr ⟨fun o ho => ((overridden_iff.mp h).1 o ho).again, rfl⟩

end

/-- Whatever the configuration and the environment, overriding succeeds just if every numeric variable, truth
value and list of thresholds that is present spells a value of its setting. It then gives the configuration in
which each setting holds what its variable spells, or what it held before if that is absent, and the settings
without variables are kept. Done once more it changes nothing, and variables of other names do not count. -/
theorem variables_settle_settings (env : Environment) (c : Config) :
    ((∃ c', c.override env = .ok c') ↔ Legible env) ∧
      (∀ c', c.override env = .ok c' ↔ Overridden env c c') ∧
      (∀ c', c.override env = .ok c' → c'.override env = .ok c') ∧
      ∀ env' : Environment, (∀ name ∈ variableNames, env' name = env name) →
        c.override env' = c.override env := by
  refine ⟨exists_override_iff, fun c' => override_eq_ok_iff, fun c' h => ?_, fun env' h => ?_⟩
  · exact override_eq_ok_iff.mpr (override_eq_ok_iff.mp h).again
  · exact Override.applyAll_congr fun o ho => h o.name (name_mem_variableNames o ho)

/-- A few variables, and one that is not looked at. -/
def tuned : Environment := fun name =>
  [("CHORUS_DB_PATH", " x.db"), ("AMBIENT_MAX_K", " +2 "), ("HUMAN_SUPPRESSION_MS", "-1"),
    ("TURN_BASED_MODE", "Yes "), ("FALLBACK_SCORE_THRESHOLDS", "0.7, .25"), ("HOME", "/")].lookup name

/-- The standard configuration with these variables. -/
def tunedStandard : Config :=
  { standard with
    storage := ⟨some " x.db"⟩
    ambient := { Ambient.standard with maxK := 2, humanSuppressionMs := -1 }
    coordination := { Coordination.standard with turnBasedMode := true, fallbackScoreThresholds := [0.7, 0.25] } }

/-- Variables with blanks, signs and capitals are settled, and another home is not noticed. -/
theorem variables_settle_settings_tuned :
    Legible tuned ∧ standard.override tuned = .ok tunedStandard ∧ Overridden tuned standard tunedStandard ∧
      tunedStandard.override tuned = .ok tunedStandard ∧
      standard.override (fun name => if name = "HOME" then none else tuned name) = .ok tunedStandard := by
  obtain ⟨hsucceeds, hresult, hagain, hothers⟩ := variables_settle_settings tuned standard
  have htuned : standard.override tuned = .ok tunedStandard := by rfl
  refine ⟨hsucceeds.mp ⟨_, htuned⟩, htuned, (hresult _).mp htuned, hagain _ htuned, ?_⟩
  rw [← htuned]
  refine hothers _ fun name hname => if_neg ?_
  rintro rfl
  exact absurd hname (by decide)

end TurnTaking.Config
