import TurnTaking.Proofs.Json.Typed
import TurnTaking.Proofs.Store.Table

/-!
# Structures in JSON — all their forms

A structure is written as an object with all its members. It is also read from an array with their values in order,
and from an object that has them in any order and among others, where some may be left out (`Form`). However they
come, each field is read as the value that was written for it, or as what it is where it is left out (`Gives`).
-/

namespace TurnTaking.Json

/-- A form of an object with the members of a structure: an array of their values, or an object that has them in any
order and among others, each no more than once. Those that have a standard value may be left out if they have it. -/
inductive Form (standard : String → Option Json) : Json → Json → Prop where
  | positional (members : List (String × Json)) :
      Form standard (ofMembers members) (.array (members.map Prod.snd))
  | named {members given : List (String × Json)}
      (once : ((given.filter fun m => (members.map Prod.fst).contains m.1).map Prod.fst).Nodup)
      (each : ∀ m ∈ members, m ∈ given ∨ m.1 ∉ given.map Prod.fst ∧ standard m.1 = some m.2) :
      Form standard (ofMembers members) (ofMembers given)

theorem ofMembers_inj {members members' : List (String × Json)} (h : ofMembers members = ofMembers members') :
    members = members' := by
  refine (List.map_inj_right ?_).mp (Json.object.inj h)
  rintro ⟨key, v⟩ ⟨key', v'⟩ heq
  obtain ⟨hkey, rfl⟩ := Prod.mk.inj heq
  obtain rfl := Option.some.inj hkey
  rfl

namespace Fields

/-- The fields of a structure are given by its members, or left out of an object where they have standard values. -/
def Gives (standard : String → Option Json) (members : List (String × Json)) (fs : Fields) : Prop :=
  ∀ i m, members[i]? = some m → fs.get? m.1 i = some m.2 ∨
    (∃ known, fs = .named known) ∧ fs.get? m.1 i = none ∧ standard m.1 = some m.2

end Fields

variable {standard : String → Option Json} {members : List (String × Json)}

/-- Members with names of their own are a form of themselves. -/
theorem Form.self (h : (members.map Prod.fst).Nodup) :
    Form standard (ofMembers members) (ofMembers members) := by
  refine .named (h.sublist (List.filter_sublist.map _)) fun m hm => .inl hm

/-- The fields of each form are given by the members. -/
theorem Form.gives {v : Json} (h : Form standard (ofMembers members) v) :
    ∃ fs, fields? (members.map Prod.fst) v = some fs ∧ fs.Gives standard members := by
  generalize hobject : ofMembers members = object at h
  cases h with
  | positional members' =>
    -- the values stand in order, without names
    obtain rfl := ofMembers_inj hobject
    refine ⟨.positional (members.map Prod.snd), if_pos (by simp), fun i m hm => .inl ?_⟩
    rw [Fields.get?, List.getElem?_map, hm]
    rfl
  | named once each =>
    -- each name stands once, in any order, and others may stand between
    rename_i members' given
    obtain rfl := ofMembers_inj hobject
    have hkeyed : (given.map fun m => (some m.1, m.2)).mapM
        (fun m : Option String × Json => m.1.map fun key => (key, m.2)) = some given :=
      mapM_map fun _ _ => rfl
    let known := given.filter fun m => (members.map Prod.fst).contains m.1
    refine ⟨.named known, ?_, fun i m hm => ?_⟩
    · rw [ofMembers, fields?, hkeyed]
      exact if_pos once
    · have hmember := List.mem_of_getElem? hm
      have hknown : ∀ m' : String × Json, m' ∈ known ↔ m' ∈ given ∧ m'.1 ∈ members.map Prod.fst := by
        intro m'
        simp [known]
      rcases each m hmember with hgiven | ⟨habsent, hstandard⟩
      · -- the field is given
        have hmem : m ∈ known := (hknown m).mpr ⟨hgiven, List.mem_map_of_mem hmember⟩
        have hfound : Store.Table.lookup Prod.fst m.1 known = some m :=
          (Store.Table.lookup_eq_some once).mpr ⟨hmem, rfl⟩
        exact .inl (congrArg (Option.map Prod.snd) hfound)
      · -- the field is left out, and has a standard value
        have hnone : Store.Table.lookup Prod.fst m.1 known = none := by
          rw [Store.Table.lookup, List.find?_eq_none]
          intro m' hm' hkey
          exact habsent (List.mem_map.mpr ⟨m', ((hknown m').mp hm').1, of_decide_eq_true hkey⟩)
        exact .inr ⟨⟨known, rfl⟩, congrArg (Option.map Prod.snd) hnone, hstandard⟩

/-! ## Fields -/

namespace Fields

variable {fs : Fields} {i : Nat} {name : String} {v : Json} {α : Type} {f : Json → Option α}

/-- A field that must be given is read. -/
theorem Gives.required (h : fs.Gives standard members) (hi : members[i]? = some (name, v))
    (hnever : standard name = none) {a : α} (hread : f v = some a) : fs.required name i f = some a := by
  rcases h i _ hi with hget | ⟨-, -, hstandard⟩
  · rw [Fields.required, hget, Option.bind_some, hread]
  · rw [hnever] at hstandard
    cases hstandard

/-- A field with a default is read as given or as the default. -/
theorem Gives.withDefault (h : fs.Gives standard members) (hi : members[i]? = some (name, v)) {w : Json}
    (hw : standard name = some w) {d : α} (hdefault : f w = some d) {a : α} (hread : f v = some a) :
    fs.withDefault name i f d = some a := by
  rcases h i _ hi with hget | ⟨-, hget, hstandard⟩
  · rw [Fields.withDefault, hget]
    exact hread
  · obtain rfl := Option.some.inj (hstandard.symm.trans hw)
    rw [Fields.withDefault, hget, ← hdefault, hread]

/-- A field that may be missing is read. -/
theorem Gives.optional (h : fs.Gives standard members) (hi : members[i]? = some (name, v))
    (hnull : standard name = some .null) {o : Option α} (hread : asOption? f v = some o) :
    fs.optional name i f = some o := by
  unfold Fields.optional
  rcases h i _ hi with hget | ⟨⟨known, rfl⟩, hget, hstandard⟩
  · rw [hget]
    cases fs <;> exact hread
  · obtain rfl := Option.some.inj (hstandard.symm.trans hnull)
    rw [hget]
    exact hread

/-- What a field is read as was read from some value. -/
theorem of_required {a : α} (h : fs.required name i f = some a) : ∃ v, f v = some a := by
  obtain ⟨v, -, hv⟩ := Option.bind_eq_some_iff.mp h
  exact ⟨v, hv⟩

theorem of_optional {o : Option α} (h : fs.optional name i f = some o) : ∀ a ∈ o, ∃ v, f v = some a := by
  intro a ha
  unfold Fields.optional at h
  split at h
  · obtain rfl := Option.some.inj h
    cases ha
  · cases h
  · exact ⟨_, of_asOption? h a ha⟩

end Fields

end TurnTaking.Json
