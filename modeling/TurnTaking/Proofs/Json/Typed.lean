import TurnTaking.Numeral.Leading
import TurnTaking.Proofs.Json.RoundTrip

/-!
# Typed readings — what a typed value is written as is read as it

Truth values, integers within their bounds, texts, names, and lists, sets and options of them are read from the
JSON values that they are written as. What is read as an integer of some width has that width.
-/

namespace TurnTaking.Json

variable {α : Type} {write : α → Json} {read : Json → Option α}

/-! ## Single values -/

theorem asText?_ofText (s : String) : asText? (ofText s) = some s := rfl

theorem asInt?_ofInt (n : Int) : asInt? (ofInt n) = some n := by
  by_cases hn : n < 0
  · rw [ofInt, decide_eq_true hn, asInt?, decimalValue_digitsOf, if_neg (by omega)]
    exact congrArg some (by omega)
  · rw [ofInt, decide_eq_false hn, asInt?, decimalValue_digitsOf]
    exact congrArg some (Int.natAbs_of_nonneg (Int.not_lt.mp hn))

/-- An integer within bounds is read as such. -/
theorem asIntWithin?_ofInt {low high n : Int} (h : low ≤ n ∧ n ≤ high) :
    asIntWithin? low high (ofInt n) = some n := by
  rw [asIntWithin?, asInt?_ofInt]
  simp [h]

/-- What was read within bounds is within them. -/
theorem bounds_of_asIntWithin? {low high n : Int} {v : Json} (h : asIntWithin? low high v = some n) :
    low ≤ n ∧ n ≤ high := by
  have hbounds := (Option.filter_eq_some_iff.mp h).2
  simpa using hbounds

theorem asInt64?_ofInt {n : Int} (h : Numeral.isInt64 n = true) : asInt64? (ofInt n) = some n := by
  refine asIntWithin?_ofInt ?_
  simp only [Numeral.isInt64, Bool.and_eq_true, decide_eq_true_eq] at h
  omega

theorem isInt64_of_asInt64? {n : Int} {v : Json} (h : asInt64? v = some n) : Numeral.isInt64 n = true := by
  have hbounds := bounds_of_asIntWithin? h
  simp only [Numeral.isInt64, Bool.and_eq_true, decide_eq_true_eq]
  omega

theorem asNat32?_ofInt {n : Nat} (h : n < 0x100000000) : asNat32? (ofInt n) = some n := by
  rw [asNat32?, asIntWithin?_ofInt (by omega)]
  rfl

theorem lt_of_asNat32? {n : Nat} {v : Json} (h : asNat32? v = some n) : n < 0x100000000 := by
  obtain ⟨m, hm, rfl⟩ := Option.map_eq_some_iff.mp h
  have hbounds := bounds_of_asIntWithin? hm
  omega

theorem asNat64?_ofInt {n : Nat} (h : n < 0x10000000000000000) : asNat64? (ofInt n) = some n := by
  rw [asNat64?, asIntWithin?_ofInt (by omega)]
  rfl

theorem lt_of_asNat64? {n : Nat} {v : Json} (h : asNat64? v = some n) : n < 0x10000000000000000 := by
  obtain ⟨m, hm, rfl⟩ := Option.map_eq_some_iff.mp h
  have hbounds := bounds_of_asIntWithin? hm
  omega

/-! ## Values of others -/

/-- An option is read as it was written, if nothing of its type is written as `null`. -/
theorem asOption?_ofOption {o : Option α} (h : ∀ a ∈ o, write a ≠ .null ∧ read (write a) = some a) :
    asOption? read (ofOption write o) = some o := by
  cases o with
  | none => rfl
  | some a =>
    obtain ⟨hnull, hread⟩ := h a rfl
    rw [ofOption, asOption?, hread]
    · rfl
    · exact hnull

/-- What is read as an option is empty or what was read. -/
theorem of_asOption? {o : Option α} {v : Json} (h : asOption? read v = some o) : ∀ a ∈ o, read v = some a := by
  rintro a rfl
  unfold asOption? at h
  split at h
  · cases h
  · obtain ⟨b, hb, heq⟩ := Option.map_eq_some_iff.mp h
    obtain rfl := Option.some.inj heq
    exact hb

/-- Each is read as what it was written for. -/
theorem mapM_map {β : Type} {f : α → β} {g : β → Option α} {l : List α} (h : ∀ a ∈ l, g (f a) = some a) :
    (l.map f).mapM g = some l := by
  induction l with
  | nil => rfl
  | cons a l ih =>
    obtain ⟨hfirst, hrest⟩ := List.forall_mem_cons.mp h
    rw [List.map_cons, List.mapM_cons, hfirst, ih hrest]
    rfl

/-- Lists are read back if their items are. -/
theorem asList?_ofList {l : List α} (h : ∀ a ∈ l, read (write a) = some a) :
    asList? read (ofList write l) = some l :=
  mapM_map h

theorem asTagSet?_ofTagSet (s : TagSet) : asTagSet? (ofTagSet s) = some s := by
  rw [asTagSet?, ofTagSet, asList?_ofList fun t _ => asText?_ofText t, Option.map_some, TagSet.ofList_toList]

/-! ## Plain values -/

theorem Plain.ofOption {o : Option α} (h : ∀ a, Plain (write a)) : Plain (ofOption write o) := by
  cases o with
  | none => exact .null
  | some a => exact h a

theorem Plain.ofList {l : List α} (h : ∀ a, Plain (write a)) : Plain (ofList write l) := by
  refine .array fun v hv => ?_
  obtain ⟨a, -, rfl⟩ := List.mem_map.mp hv
  exact h a

theorem Plain.ofTagSet (s : TagSet) : Plain (ofTagSet s) := .ofList .text

end TurnTaking.Json
