import TurnTaking.Store.Table

/-!
# Tables — look-ups after a change

What is under a key after a row was added, put or amended, in terms of what was under it before: the whole
row (`lookup`), or what one of its columns tells (`column`).
-/

namespace TurnTaking.Store.Table

variable {ρ κ : Type} [DecidableEq κ] {key : ρ → κ} {k : κ}

theorem lookup_eq_none {rows : List ρ} : lookup key k rows = none ↔ holds key k rows = false := by
  rw [lookup, List.find?_eq_none, holds, List.any_eq_false]

/-- The row that is under a key has that key. -/
theorem key_of_lookup {rows : List ρ} {r : ρ} (h : lookup key k rows = some r) : key r = k := by
  have hr := List.find?_some h
  exact of_decide_eq_true hr

/-- A row at the end is found if none before it has its key. -/
theorem lookup_append (rows : List ρ) (r : ρ) :
    lookup key k (rows ++ [r]) = (lookup key k rows).or (if key r = k then some r else none) := by
  rw [lookup, lookup, List.find?_append, List.find?_singleton]
  by_cases h : key r = k
  · simp [h]
  · simp [h]

/-- A change that keeps the keys changes what is under each key. -/
theorem lookup_map {f : ρ → ρ} (hf : ∀ r, key (f r) = key r) (rows : List ρ) :
    lookup key k (rows.map f) = (lookup key k rows).map f := by
  rw [lookup, lookup, List.find?_map]
  congr 2
  funext r
  simp [hf r]

/-- What is under a key is found among any rows that include all that are. -/
theorem lookup_filter {p : ρ → Bool} (hp : ∀ r, key r = k → p r = true) (rows : List ρ) :
    lookup key k (rows.filter p) = lookup key k rows := by
  rw [lookup, lookup, List.find?_filter]
  congr 1
  funext r
  by_cases hr : key r = k
  · simp [hp r hr]
  · simp [hr]

theorem holds_filter {p : ρ → Bool} (hp : ∀ r, key r = k → p r = true) (rows : List ρ) :
    holds key k (rows.filter p) = holds key k rows := by
  have hiff : holds key k (rows.filter p) = false ↔ holds key k rows = false := by
    rw [← lookup_eq_none, ← lookup_eq_none, lookup_filter hp]
  cases hall : holds key k rows with
  | true => simpa [hall] using hiff
  | false => exact hiff.mpr hall

/-- Adding a row under a free key puts it there and nowhere else; otherwise nothing changes. -/
theorem lookup_add (r : ρ) (rows : List ρ) :
    lookup key k (add key r rows).2 =
      (lookup key k rows).or (if key r = k then some r else none) := by
  rw [add]
  cases h : holds key (key r) rows with
  | false => exact lookup_append rows r
  | true =>
    rw [if_pos rfl]
    by_cases hk : key r = k
    · subst hk
      cases hl : lookup key (key r) rows with
      | none =>
        rw [lookup_eq_none.mp hl] at h
        cases h
      | some old => rfl
    · rw [if_neg hk, Option.or_none]

/-- A row is added just if its key is free. -/
theorem add_fst (r : ρ) (rows : List ρ) :
    (add key r rows).1 = true ↔ lookup key (key r) rows = none := by
  rw [lookup_eq_none, add]
  cases holds key (key r) rows <;> simp

/-- Putting a row leaves under its key the row itself, or what became of the one that was there. -/
theorem lookup_put {r : ρ} {change : ρ → ρ} (hc : ∀ old, key (change old) = key old) (rows : List ρ) :
    lookup key k (put key r change rows) =
      if key r = k then some (((lookup key k rows).map change).getD r) else lookup key k rows := by
  rw [put]
  cases h : holds key (key r) rows with
  | false =>
    -- the row is added, and no other has its key
    have hnone := lookup_eq_none.mpr h
    rw [if_neg Bool.false_ne_true, lookup_append]
    by_cases hk : key r = k
    · subst hk
      rw [hnone, if_pos rfl, if_pos rfl]
      rfl
    · rw [if_neg hk, if_neg hk, Option.or_none]
  | true =>
    -- the rows of that key are changed, and keep it
    have hkeys : ∀ old, key (if key old = key r then change old else old) = key old := by
      intro old
      split
      · exact hc old
      · rfl
    rw [if_pos rfl, lookup_map hkeys]
    cases hl : lookup key k rows with
    | none =>
      by_cases hk : key r = k
      · subst hk
        rw [lookup_eq_none.mp hl] at h
        cases h
      · rw [if_neg hk]
        rfl
    | some old =>
      have hold := key_of_lookup hl
      by_cases hk : key r = k
      · rw [if_pos hk, Option.map_some, if_pos (hold.trans hk.symm)]
        rfl
      · rw [if_neg hk, Option.map_some, if_neg (fun h' => hk (h'.symm.trans hold))]

section

variable {α : Type} {f : ρ → α} {absent : α}

/-- What a column tells of the row under a key, and `absent` where there is no row. -/
def column (key : ρ → κ) (f : ρ → α) (absent : α) (rows : List ρ) (k : κ) : α :=
  ((lookup key k rows).map f).getD absent

/-- A row that tells what no row tells may be added. -/
theorem column_add {r : ρ} (hr : f r = absent) (rows : List ρ) :
    column key f absent (add key r rows).2 k = column key f absent rows k := by
  rw [column, column, lookup_add]
  cases lookup key k rows with
  | some old => rfl
  | none =>
    rw [Option.none_or]
    by_cases hk : key r = k
    · simp [hk, hr]
    · simp [hk]

/-- Putting a row changes the column under its key alone. -/
theorem column_put {r : ρ} {change : ρ → ρ} (hc : ∀ old, key (change old) = key old) (rows : List ρ) :
    column key f absent (put key r change rows) k =
      if key r = k then ((lookup key k rows).map fun old => f (change old)).getD (f r)
      else column key f absent rows k := by
  rw [column, lookup_put hc]
  by_cases hk : key r = k
  · rw [if_pos hk, if_pos hk]
    cases lookup key k rows with
    | some old => rfl
    | none => rfl
  · rw [if_neg hk, if_neg hk]
    rfl

/-- It does not change it at all, where neither the row nor the change is about the column. -/
theorem column_put_same {r : ρ} {change : ρ → ρ} (hc : ∀ old, key (change old) = key old)
    (hr : f r = absent) (hf : ∀ old, f (change old) = f old) (rows : List ρ) :
    column key f absent (put key r change rows) k = column key f absent rows k := by
  rw [column_put hc, column]
  by_cases hk : key r = k
  · rw [if_pos hk, hr]
    simp only [hf]
  · rw [if_neg hk]

/-- A change of rows that keeps the keys and the column. -/
theorem column_map {g : ρ → ρ} (hg : ∀ r, key (g r) = key r) (hf : ∀ r, f (g r) = f r) (rows : List ρ) :
    column key f absent (rows.map g) k = column key f absent rows k := by
  rw [column, column, lookup_map hg, Option.map_map]
  congr 2
  funext r
  exact hf r

end

theorem holds_append (rows more : List ρ) :
    holds key k (rows ++ more) = (holds key k rows || holds key k more) :=
  List.any_append

/-- A change that keeps the keys leaves a row under each key that had one. -/
theorem holds_map {f : ρ → ρ} (hf : ∀ r, key (f r) = key r) (rows : List ρ) :
    holds key k (rows.map f) = holds key k rows := by
  rw [holds, holds, List.any_map]
  congr 1
  funext r
  rw [Function.comp_apply, hf]

/-- A row is under the key of each row. -/
theorem holds_eq_true {rows : List ρ} : holds key k rows = true ↔ k ∈ rows.map key := by
  rw [holds, List.any_eq_true, List.mem_map]
  constructor
  · rintro ⟨r, hr, hkey⟩
    exact ⟨r, hr, of_decide_eq_true hkey⟩
  · rintro ⟨r, hr, hkey⟩
    exact ⟨r, hr, decide_eq_true hkey⟩

/-- One more row leaves the keys distinct if it comes under a key of its own. -/
theorem nodup_append {rows : List ρ} {r : ρ} (h : holds key (key r) rows = false) :
    ((rows ++ [r]).map key).Nodup ↔ (rows.map key).Nodup := by
  have hnew : key r ∉ rows.map key := by
    rw [← holds_eq_true, h]
    exact Bool.false_ne_true
  rw [List.map_append, List.map_singleton]
  constructor
  · intro hall
    exact (List.nodup_append.mp hall).1
  · intro hrows
    refine List.nodup_append.mpr ⟨hrows, List.pairwise_singleton _ _, ?_⟩
    intro old hold new hsame
    obtain rfl := List.mem_singleton.mp hsame
    exact fun heq => hnew (heq ▸ hold)

/-- Rows with keys of their own stay so when one is added. -/
theorem nodup_add (r : ρ) (rows : List ρ) :
    ((add key r rows).2.map key).Nodup ↔ (rows.map key).Nodup := by
  rw [add]
  cases h : holds key (key r) rows with
  | true => exact Iff.rfl
  | false => exact nodup_append h

omit [DecidableEq κ] in
/-- The keys stay, one by one, where a change keeps the key of each row. -/
theorem map_key {f : ρ → ρ} (hf : ∀ r, key (f r) = key r) (rows : List ρ) :
    (rows.map f).map key = rows.map key := by
  rw [List.map_map]
  exact List.map_congr_left fun r _ => hf r

/-- Rows with keys of their own stay so when one is put. -/
theorem nodup_put {r : ρ} {change : ρ → ρ} (hc : ∀ old, key (change old) = key old) (rows : List ρ) :
    ((put key r change rows).map key).Nodup ↔ (rows.map key).Nodup := by
  rw [put]
  cases h : holds key (key r) rows with
  | false => exact nodup_append h
  | true =>
    rw [if_pos rfl, map_key]
    intro old
    split
    · exact hc old
    · rfl

/-- A row may be put among others before they are all translated, if the translation keeps keys apart. -/
theorem put_map {σ κ' : Type} [DecidableEq κ'] {key' : σ → κ'} {f : σ → ρ} {change : ρ → ρ}
    {change' : σ → σ} (hkey : ∀ a b, key (f a) = key (f b) ↔ key' a = key' b)
    (hchange : ∀ a, change (f a) = f (change' a)) (a : σ) (rows : List σ) :
    put key (f a) change (rows.map f) = (put key' a change' rows).map f := by
  have hholds : holds key (key (f a)) (rows.map f) = holds key' (key' a) rows := by
    rw [holds, holds, List.any_map]
    congr 1
    funext b
    exact decide_eq_decide.mpr (hkey b a)
  rw [put, put, hholds]
  split
  · rw [List.map_map, List.map_map]
    refine List.map_congr_left fun b _ => ?_
    rw [Function.comp_apply, Function.comp_apply]
    by_cases hsame : key' b = key' a
    · rw [if_pos hsame, if_pos ((hkey b a).mpr hsame), hchange]
    · rw [if_neg hsame, if_neg fun h => hsame ((hkey b a).mp h)]
  · rw [List.map_append]
    rfl

/-- Where keys are distinct, no more than one row is under a key. -/
theorem filter_key {rows : List ρ} (hkeys : (rows.map key).Nodup) :
    rows.filter (key · = k) = (lookup key k rows).toList := by
  induction rows with
  | nil => rfl
  | cons r rest ih =>
    rw [List.map_cons, List.nodup_cons] at hkeys
    rw [List.filter_cons, lookup, List.find?_cons]
    by_cases hr : key r = k
    · -- no other row has the key
      have hrest : rest.filter (key · = k) = [] := by
        rw [List.filter_eq_nil_iff]
        intro old hold hmet
        exact hkeys.1 (List.mem_map.mpr ⟨old, hold, (of_decide_eq_true hmet).trans hr.symm⟩)
      rw [decide_eq_true hr, if_pos rfl, hrest]
      rfl
    · rw [decide_eq_false hr, if_neg Bool.false_ne_true]
      exact ih hkeys.2

/-- Where keys are distinct, the row under a key is the one that has it. -/
theorem lookup_eq_some {rows : List ρ} (hkeys : (rows.map key).Nodup) {r : ρ} :
    lookup key k rows = some r ↔ r ∈ rows ∧ key r = k := by
  rw [← Option.mem_toList, ← filter_key hkeys, List.mem_filter, decide_eq_true_eq]

/-- Where keys are distinct, what is under a key among some of the rows is what is under it among all, if that
is one of them. -/
theorem lookup_filter_of_nodup {rows : List ρ} (hkeys : (rows.map key).Nodup) (p : ρ → Bool) :
    lookup key k (rows.filter p) = (lookup key k rows).filter p := by
  have hsome : ((rows.filter p).map key).Nodup := hkeys.sublist (List.filter_sublist.map key)
  have hsame : (lookup key k (rows.filter p)).toList = ((lookup key k rows).filter p).toList := by
    rw [← filter_key hsome, Option.toList_filter, ← filter_key hkeys, List.filter_filter,
      List.filter_filter]
    simp only [Bool.and_comm]
  have hhead := congrArg List.head? hsame
  rwa [Option.head?_toList, Option.head?_toList] at hhead

omit [DecidableEq κ] in
/-- Rows that meet a condition may be counted among any that include them. -/
theorem countP_filter {p condition : ρ → Bool} (hp : ∀ r, condition r = true → p r = true)
    (rows : List ρ) : (rows.filter p).countP condition = rows.countP condition := by
  rw [List.countP_filter]
  congr 1
  funext r
  cases hmet : condition r with
  | false => rw [Bool.false_and]
  | true => rw [Bool.true_and, hp r hmet]

/-- Where keys are distinct, a condition that only the row under one key can meet is met by that row or
by none. -/
theorem countP_eq {rows : List ρ} {p : ρ → Bool} (hkeys : (rows.map key).Nodup)
    (hp : ∀ r, p r = true → key r = k) :
    rows.countP p = if (lookup key k rows).any p then 1 else 0 := by
  rw [← countP_filter fun r hmet => decide_eq_true (hp r hmet), filter_key hkeys]
  cases lookup key k rows with
  | none => rfl
  | some r => cases hmet : p r <;> simp [hmet]

/-! ## Among some of the rows -/

/-- A row of some kind is added among those of its kind as among all. -/
theorem add_filter {p : ρ → Bool} {r : ρ} (hp : ∀ old, key old = key r → p old = true) (rows : List ρ) :
    add key r (rows.filter p) = ((add key r rows).1, (add key r rows).2.filter p) := by
  rw [add, add, holds_filter hp]
  cases holds key (key r) rows with
  | true => rfl
  | false =>
    rw [if_neg Bool.false_ne_true, if_neg Bool.false_ne_true, List.filter_append, List.filter_cons,
      hp r rfl]
    rfl

omit [DecidableEq κ] in
/-- So are rows changed, if they stay of their kind. -/
theorem amend_filter {p condition : ρ → Bool} {change : ρ → ρ}
    (hp : ∀ r, condition r = true → p r = true) (hchange : ∀ r, p (change r) = p r) (rows : List ρ) :
    amend condition change (rows.filter p) =
      ((amend condition change rows).1, (amend condition change rows).2.filter p) := by
  have hkind : ∀ r, p (if condition r then change r else r) = p r := by
    intro r
    split
    · exact hchange r
    · rfl
  rw [amend, amend, countP_filter hp, List.filter_map]
  simp only [Function.comp_def, hkind]

/-- Rows of another kind are added, -/
theorem filter_add {p : ρ → Bool} {r : ρ} (hp : p r = false) (rows : List ρ) :
    (add key r rows).2.filter p = rows.filter p := by
  rw [add]
  split
  · rfl
  · rw [List.filter_append, List.filter_cons, hp]
    exact List.append_nil _

omit [DecidableEq κ] in
/-- or changed, without any of this kind. -/
theorem filter_amend {p condition : ρ → Bool} {change : ρ → ρ}
    (hp : ∀ r, condition r = true → p r = false) (hchange : ∀ r, p (change r) = p r) (rows : List ρ) :
    (amend condition change rows).2.filter p = rows.filter p := by
  induction rows with
  | nil => rfl
  | cons r rest ih =>
    rw [amend, List.map_cons, List.filter_cons, List.filter_cons]
    rw [amend] at ih
    rw [ih]
    cases hmet : condition r with
    | false => rfl
    | true => rw [if_pos rfl, hchange, hp r hmet, if_neg Bool.false_ne_true, if_neg Bool.false_ne_true]

/-- What does not meet the condition is still there when the others are removed. -/
theorem lookup_remove {condition : ρ → Bool} {rows : List ρ} {r : ρ} (h : lookup key k rows = some r)
    (hr : condition r = false) : lookup key k (remove condition rows).2 = some r := by
  unfold lookup at h ⊢
  rw [remove, List.find?_filter]
  rw [List.find?_eq_some_iff_append] at h ⊢
  obtain ⟨hk, before, after, rfl, hbefore⟩ := h
  refine ⟨by simpa [hr] using hk, before, after, rfl, fun old hold => ?_⟩
  have hne := hbefore old hold
  simp only [Bool.not_eq_true', decide_eq_false_iff_not] at hne
  simp [hne]

/-- When the rows under a key are removed, nothing is there any more. -/
theorem lookup_remove_key (rows : List ρ) :
    lookup key k (remove (key · = k) rows).2 = none := by
  rw [lookup, remove, List.find?_eq_none]
  intro r hr
  have hkept := (List.mem_filter.mp hr).2
  simpa using hkept

/-- When the rows under another key are removed, what is under a key stays. -/
theorem lookup_remove_other {k' : κ} (h : k ≠ k') (rows : List ρ) :
    lookup key k (remove (key · = k') rows).2 = lookup key k rows := by
  rw [lookup, lookup, remove, List.find?_filter]
  congr 1
  funext r
  by_cases hr : key r = k
  · simp [hr, h]
  · simp [hr]

end TurnTaking.Store.Table
