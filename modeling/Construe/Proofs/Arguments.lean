import Mathlib
import Construe.Descriptor

/-! # Arguments are taken exactly

A constructor is handed a list of values and takes it as the arguments of its parameters. It does
so exactly when the values are of the parameters' types, one by one; what it refuses, it refuses
for the number of the values, or else for the first of them that is of another type. -/
namespace Construe

/-- The value at the index is not of the type that is expected there; all before it are. -/
structure FirstMismatch (types : List TypeRef) (values : List (Value α)) (index : Nat)
    (expected : TypeRef) : Prop where
  stands : types[index]? = some expected
  differs : ∃ value, values[index]? = some value ∧ value.type ≠ expected
  before : ∀ earlier < index, values[earlier]?.map Value.type = types[earlier]?

namespace FirstMismatch

theorem zero {value : Value α} (differs : value.type ≠ type) :
    FirstMismatch (type :: types) (value :: values) 0 type where
  stands := rfl
  differs := ⟨value, rfl, differs⟩
  before := by simp

theorem succ {value : Value α} (same : value.type = type)
    (rest : FirstMismatch types values index expected) :
    FirstMismatch (type :: types) (value :: values) (index + 1) expected where
  stands := by simpa using rest.stands
  differs := by simpa using rest.differs
  before earlier below := by
    cases earlier with
    | zero => simpa using same
    | succ earlier => simpa using rest.before earlier (by omega)

theorem map_type_ne {values : List (Value α)}
    (mismatch : FirstMismatch types values index expected) : values.map Value.type ≠ types := by
  rintro rfl
  obtain ⟨value, found, differs⟩ := mismatch.differs
  have stands := mismatch.stands
  rw [List.getElem?_map, found] at stands
  exact differs (Option.some.inj stands)

theorem index_le {values : List (Value α)} (one : FirstMismatch types values i a)
    (other : FirstMismatch types values j b) : i ≤ j := by
  by_contra! later
  obtain ⟨value, found, differs⟩ := other.differs
  have same := one.before j later
  rw [found, other.stands] at same
  exact differs (Option.some.inj same)

/-- There is at most one first mismatch. -/
theorem unique {values : List (Value α)} (one : FirstMismatch types values i a)
    (other : FirstMismatch types values j b) : i = j ∧ a = b := by
  have index : i = j := le_antisymm (one.index_le other) (other.index_le one)
  subst index
  exact ⟨rfl, Option.some.inj (one.stands.symm.trans other.stands)⟩

end FirstMismatch

/-- The check walks both lists and stops at the first mismatch, if there is one. -/
theorem checkTypes_cases {types : List TypeRef} {values : List (Value α)}
    (even : values.length = types.length) (start : Nat) :
    checkTypes start types values = .ok () ∧ values.map Value.type = types ∨
    ∃ index expected, FirstMismatch types values index expected ∧
      checkTypes start types values = .error (.argumentType (start + index) expected) := by
  induction types generalizing values start with
  | nil =>
    have none : values = [] := List.eq_nil_of_length_eq_zero even
    subst none
    exact .inl ⟨rfl, rfl⟩
  | cons type types ih =>
    obtain ⟨value, values, rfl⟩ := List.exists_cons_of_length_eq_add_one even
    by_cases same : value.type = type
    · rw [checkTypes, if_pos same]
      rcases ih (by simpa using even) (start + 1) with
        ⟨passed, rest⟩ | ⟨index, expected, rest, stopped⟩
      · exact .inl ⟨passed, by simp [same, rest]⟩
      · refine .inr ⟨index + 1, expected, rest.succ same, ?_⟩
        rw [stopped, Nat.add_right_comm, Nat.add_assoc]
    · rw [checkTypes, if_neg same]
      exact .inr ⟨0, type, .zero same, rfl⟩

/-- What may come of taking arguments, and when. -/
inductive Taken (types : List TypeRef) (values : List (Value α)) :
    Except ConstructionFailure (List (Value α)) → Prop where
  | all : values.map Value.type = types → Taken types values (.ok values)
  | uneven : values.length ≠ types.length →
      Taken types values (.error (.arity types.length values.length))
  | mismatch {index : Nat} {expected : TypeRef} : values.length = types.length →
      FirstMismatch types values index expected →
      Taken types values (.error (.argumentType index expected))

theorem taken_takeArguments (types : List TypeRef) (values : List (Value α)) :
    Taken types values (takeArguments types values) := by
  rw [takeArguments]
  by_cases even : values.length = types.length
  · rw [if_neg (not_not.mpr even)]
    rcases checkTypes_cases even 0 with ⟨passed, all⟩ | ⟨index, expected, mismatch, stopped⟩
    · rw [passed]
      exact .all all
    · rw [stopped, Nat.zero_add]
      exact .mismatch even mismatch
  · rw [if_pos even]
    exact .uneven even

/-- The three outcomes exclude each other, and each determines all of its data. -/
theorem Taken.unique {types : List TypeRef} {values : List (Value α)}
    (one : Taken types values a) (other : Taken types values b) : a = b := by
  have length (all : values.map Value.type = types) : values.length = types.length := by
    simp [← all]
  cases one with
  | all all =>
    cases other with
    | all => rfl
    | uneven uneven => exact absurd (length all) uneven
    | mismatch _ mismatch => exact absurd all mismatch.map_type_ne
  | uneven uneven =>
    cases other with
    | all all => exact absurd (length all) uneven
    | uneven => rfl
    | mismatch even => exact absurd even uneven
  | mismatch even mismatch =>
    cases other with
    | all all => exact absurd all mismatch.map_type_ne
    | uneven uneven => exact absurd even uneven
    | mismatch _ other =>
      obtain ⟨rfl, rfl⟩ := mismatch.unique other
      rfl

theorem takeArguments_eq_iff {types : List TypeRef} {values : List (Value α)} :
    takeArguments types values = outcome ↔ Taken types values outcome := by
  have taken := taken_takeArguments types values
  exact ⟨fun same => same ▸ taken, taken.unique⟩

end Construe
