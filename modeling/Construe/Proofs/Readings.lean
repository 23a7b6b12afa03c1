import Construe.Proofs.Pattern.Fields
import Construe.Proofs.Refusal
import Construe.Proofs.Transparency

/-! # What declared patterns read

A candidate whose pattern is a row of parts builds a value of every text that is such a row, as long
as its parameters read the words of their groups and the constructor takes the values. -/
namespace Construe

open Pattern (Segment)
open Pattern.Segment (Row captured Unambiguous)

namespace Interpreter

variable {parts : List Segment} {matcher : Pattern} {parameters : List (Interpreter α)}
  {construct : List (Value α) → Except ConstructionFailure (Value α)} {pattern input : String}
  {value : Value α}

theorem attempt_eq_built :
    attempt (.mk pattern matcher parameters construct) input = .built value ↔
      ∃ groups values, matcher.groups? input = some groups ∧
        List.Forall₂ Takes (parameters.zip groups) values ∧ construct values = .ok value := by
  rw [attempt]
  constructor
  · intro built
    split at built
    · contradiction
    · rename_i groups matched
      split at built
      · contradiction
      · rename_i values read
        split at built
        · rename_i made
          cases built
          exact ⟨groups, values, matched, interpretGroups_eq_ok.mp read, made⟩
        · contradiction
  · rintro ⟨groups, values, matched, taken, made⟩
    have read : interpretGroups parameters 0 groups = .ok values :=
      interpretGroups_eq_ok.mpr taken
    simp [matched, read, made]

/-- The parameters read the words of their groups. -/
def ReadsWords (parameters : List (Interpreter α)) (words : List (List Char))
    (values : List (Value α)) : Prop :=
  List.Forall₂ (fun x value => x.1.interpret (String.ofList x.2) = .ok value)
    (parameters.zip words) values

theorem takes_words {words : List (List Char)} {values : List (Value α)} :
    List.Forall₂ Takes (parameters.zip (words.map fun word => some (String.ofList word))) values ↔
      ReadsWords parameters words values := by
  rw [List.zip_map_right, List.forall₂_map_left_iff, ReadsWords]
  simp [Takes]

theorem built_iff (fills : matcher.Fills parts) (clear : Unambiguous parts) :
    attempt (.mk pattern matcher parameters construct) input = .built value ↔
      ∃ row values, Row parts row ∧ input.toList = row.flatten ∧
        ReadsWords parameters (captured parts row) values ∧ construct values = .ok value := by
  simp only [attempt_eq_built, fills.groups?_eq_some clear]
  constructor
  · rintro ⟨_, values, ⟨row, all, split, rfl⟩, taken, made⟩
    exact ⟨row, values, all, split, takes_words.mp taken, made⟩
  · rintro ⟨row, values, all, split, read, made⟩
    exact ⟨_, values, ⟨row, all, split, rfl⟩, takes_words.mpr read, made⟩

theorem noMatch_of_no_row (fills : matcher.Fills parts)
    (none : ∀ row, Row parts row → input.toList ≠ row.flatten) :
    attempt (.mk pattern matcher parameters construct) input = .noMatch := by
  rw [attempt]
  cases found : matcher.groups? input with
  | none => rfl
  | some groups =>
    obtain ⟨row, all, split, -⟩ := fills.row found
    exact absurd split (none row all)

/-- Candidates are tried in order, and the first value counts. -/
theorem interpret_candidates {target : TypeRef} {inOrder : List (Candidate α)} :
    (candidates target inOrder).interpret input = .ok value ↔
      inOrder.findSome? (fun candidate => (attempt candidate input).value?) = some value := by
  rw [← toOption_eq_some, toOption_candidates]

theorem value?_eq_some {attempt : Attempt α} : attempt.value? = some value ↔
    attempt = .built value := by
  cases attempt <;> simp [Attempt.value?]

theorem interpret_single {target : TypeRef} {candidate : Candidate α} :
    (candidates target [candidate]).interpret input = .ok value ↔
      attempt candidate input = .built value := by
  rw [interpret_candidates, List.findSome?_singleton, value?_eq_some]

theorem run_eq_ok {i : Interpreter α} :
    i.run input = .ok value ↔ i.interpret input = .ok value ∧ value.type = i.target := by
  rw [run, Build.bind_eq_ok]
  constructor
  · rintro ⟨v, read, checked⟩
    split at checked
    · rename_i same
      cases checked
      exact ⟨read, same⟩
    · contradiction
  · rintro ⟨read, same⟩
    exact ⟨value, read, if_pos same⟩

theorem interpret_converter {target : TypeRef} {convert : Converter α} :
    (converter target convert).interpret input = .ok value ↔ convert input = some value := by
  rw [interpret]
  cases convert input <;> simp

end Interpreter

/-! ### Drafts by the declarations -/

namespace Draft

variable {schema : Schema α} {serve : Key → Option (Converter α)} {path : Path} {key : Key}
  {fuel : Nat}

theorem resolve_served (served : serve key = some convert) (fresh : key ∉ path.building) :
    resolve schema serve (fuel + 2) path key = .ok (.converter key.type convert) := by
  refine resolve_eq_ok.mpr ⟨fresh, resolveNew_eq_ok.mpr ?_⟩
  rw [served]

theorem resolve_sequence {sequence : Sequence α} {splitter : Pattern} {item : Interpreter α}
    (unserved : serve key = none) (shape : (schema.describe key.type).sequence = some sequence)
    (fresh : key ∉ path.building)
    (compiled : Pattern.ofString (key.separator.getD defaultSeparator) = .ok splitter)
    (resolved : resolve schema serve fuel (path.build key) ⟨sequence.item, key.pattern, none⟩ =
      .ok item) :
    resolve schema serve (fuel + 2) path key =
      .ok (.sequence key.type splitter item sequence.collect) := by
  refine resolve_eq_ok.mpr ⟨fresh, resolveNew_eq_ok.mpr ?_⟩
  rw [unserved, shape]
  exact ⟨splitter, item, compiled, resolved, rfl⟩

/-- A declared type offers its candidates. -/
theorem resolve_declared {type : TypeRef} {candidates : List (Candidate α)}
    (unserved : serve { type } = none) (shape : (schema.describe type).sequence = none)
    (fresh : { type } ∉ path.building)
    (unfolded : unfold schema serve fuel (path.build { type }) type .ok = .ok candidates)
    (some : candidates ≠ []) :
    resolve schema serve (fuel + 2) path { type } = .ok (.candidates type candidates) := by
  refine resolve_eq_ok.mpr ⟨fresh, resolveNew_eq_ok.mpr ?_⟩
  rw [unserved, shape]
  exact ⟨candidates, unfolded, some, rfl⟩

/-- A type without variants and alternates offers one candidate, for its own pattern. -/
theorem unfold_bound {type : TypeRef} {pattern : String} {c : Constructor α} {matcher : Pattern}
    {parameters : List (Interpreter α)} {wrap : Wrap α}
    (declared : schema.describe type = { pattern := some pattern, constructor := some c })
    (fresh : type ∉ path.unfolding) (known : c.unknownOptions = [])
    (compiled : Pattern.whole pattern c.arity = .ok matcher)
    (resolved : List.Forall₂ (fun p i => resolve schema serve fuel path p.key = .ok i)
      c.params parameters) :
    unfold schema serve (fuel + 2) path type wrap =
      .ok [.mk pattern matcher parameters (c.chain type wrap)] := by
  refine unfold_eq_ok.mpr ⟨fresh, by rw [declared]; rfl,
    [.mk pattern matcher parameters (c.chain type wrap)], [], [], ?_, ?_, ?_, rfl⟩
  · rw [declared]
    exact .cons (resolveBinding_eq_ok.mpr ⟨known, matcher, parameters, compiled, resolved, rfl⟩)
      .nil
  · rw [declared]
    exact .nil
  · rw [declared]
    exact .nil

end Draft

namespace Registry

variable {schema : Schema α}

/-- What can be drafted is what a registry without a past answers with. -/
theorem ask_of_draft (quiet : schema.Quiet) (scalars : Bool)
    (converters : List (TypeRef × Converter α)) (names : List String) {key : Key}
    {i : Interpreter α} {fuel : Nat} {path : Path}
    (drafted : Draft.resolve schema (create scalars converters).converterFor? fuel path key =
      .ok i) : ((create scalars converters).ask schema names key).1 = .ok i :=
  (ask_run quiet scalars converters [] (by simp) names key).trans
    (Schema.answer_of_resolve quiet drafted)

end Registry

end Construe
