import Mathlib
import Construe.Proofs.Registration

/-! # Candidates come in the order of declaration

The patterns of an interpreter are those that its type declares, each as often as it is declared:
first the type's own pattern, then the patterns of its variants, one variant after the other, then
its alternates. A variant is passed through whether or not it could be read in another way. With a
pattern that comes with the request, there is that one only. -/
namespace Construe

mutual

/-- The patterns of a type in the order of declaration, those of its variants in the middle. -/
inductive Schema.Flat (schema : Schema α) : TypeRef → List String → Prop where
  | type : FlatAll schema (schema.describe type).variants middle →
      Flat schema type ((schema.describe type).pattern.toList ++ middle ++
        (schema.describe type).alternates.map Binding.pattern)

/-- The patterns of some variants, one after the other. -/
inductive Schema.FlatAll (schema : Schema α) : List (Variant α) → List String → Prop where
  | nil : FlatAll schema [] []
  | cons : Flat schema v.type first → FlatAll schema vs others →
      FlatAll schema (v :: vs) (first ++ others)

end

namespace Schema

variable {schema : Schema α}

mutual

/-- There is one such order. -/
theorem Flat.unique : ∀ {type ps qs}, schema.Flat type ps → schema.Flat type qs → ps = qs
  | _, _, _, .type middle, .type middle' => by rw [middle.unique middle']

theorem FlatAll.unique : ∀ {vs ps qs}, schema.FlatAll vs ps → schema.FlatAll vs qs → ps = qs
  | _, _, _, .nil, .nil => rfl
  | _, _, _, .cons first others, .cons first' others' => by
    rw [first.unique first', others.unique others']

end

theorem flatAll_of_forall₂ {vs : List (Variant α)} {css : List (List (Candidate α))}
    (each : List.Forall₂ (fun v cs => schema.Flat v.type (cs.map Candidate.pattern)) vs css) :
    schema.FlatAll vs (css.flatten.map Candidate.pattern) := by
  induction each with
  | nil => exact .nil
  | cons first _ ih =>
    rw [List.flatten_cons, List.map_append]
    exact .cons first ih

/-- The patterns of an interpreter for a key, that is served by a converter or not. -/
inductive Lists (schema : Schema α) (serve : Key → Option (Converter α)) :
    Key → List String → Prop where
  | converter : serve key = some convert → Lists schema serve key []
  | sequence {sequence : Sequence α} : serve key = none →
      (schema.describe key.type).sequence = some sequence → Lists schema serve key []
  | explicit : serve key = none → (schema.describe key.type).sequence = none →
      key.pattern = some pattern → Lists schema serve key [pattern]
  | flat : serve key = none → (schema.describe key.type).sequence = none →
      key.pattern = none → schema.Flat key.type ps → Lists schema serve key ps

variable {serve more : Key → Option (Converter α)}

/-- What matters about converters is whether there is one for the key itself. -/
theorem Lists.unique (same : (serve key).isSome = (more key).isSome)
    (lists : schema.Lists serve key ps) (lists' : schema.Lists more key qs) : ps = qs := by
  cases lists with
  | converter served => cases lists' <;> simp_all
  | sequence served shape => cases lists' <;> simp_all
  | explicit served shape given => cases lists' <;> simp_all
  | flat served shape given flat =>
    cases lists' with
    | flat _ _ _ flat' => exact flat.unique flat'
    | _ => simp_all

end Schema

namespace Draft

variable {schema : Schema α} {serve more : Key → Option (Converter α)}

theorem pattern_of_resolveBinding : ∀ {fuel : Nat},
    resolveBinding schema serve fuel path type b wrap = .ok c → c.pattern = b.pattern
  | 0, bound => by simp [resolveBinding] at bound
  | _ + 1, bound => by
    obtain ⟨_, matcher, parameters, _, _, rfl⟩ := resolveBinding_eq_ok.mp bound
    rfl

theorem patterns_of_bindings {fuel : Nat} {bs : List (Binding α)} {cs : List (Candidate α)}
    (bound : List.Forall₂ (fun b c => resolveBinding schema serve fuel path type b wrap = .ok c)
      bs cs) : cs.map Candidate.pattern = bs.map Binding.pattern := by
  induction bound with
  | nil => rfl
  | cons first _ ih => rw [List.map_cons, List.map_cons, pattern_of_resolveBinding first, ih]

/-- With a constructor for it, a declared pattern is the pattern of the type's own binding. -/
theorem patterns_of_own {d : Descriptor α} (binds : d.lacksConstructor = false) :
    d.ownBinding?.toList.map Binding.pattern = d.pattern.toList := by
  obtain ⟨pattern, constructor, _, _, _⟩ := d
  rcases pattern with _ | pattern <;> rcases constructor with _ | constructor
  all_goals first | rfl | simp [Descriptor.lacksConstructor] at binds

theorem flat_of_unfold {fuel : Nat} (unfolded : unfold schema serve fuel path type wrap = .ok cs) :
    schema.Flat type (cs.map Candidate.pattern) := by
  induction fuel generalizing path type wrap cs with
  | zero => simp [unfold] at unfolded
  | succ fuel ih =>
    obtain ⟨_, binds, own, variants, alternates, first, inner, last, rfl⟩ :=
      unfold_eq_ok.mp unfolded
    have flat : schema.FlatAll (schema.describe type).variants
        (variants.flatten.map Candidate.pattern) :=
      Schema.flatAll_of_forall₂ (inner.imp fun v cs => ih)
    rw [List.map_append, List.map_append, patterns_of_bindings first, patterns_of_bindings last,
      patterns_of_own binds]
    exact .type flat

theorem lists_of_resolve : ∀ {fuel : Nat}, resolve schema serve fuel path key = .ok i →
    schema.Lists serve key i.patterns
  | 0, resolved => by simp [resolve] at resolved
  | 1, resolved => by simpa [resolveNew] using (resolve_eq_ok.mp resolved).2
  | fuel + 2, resolved => by
    have built := resolveNew_eq_ok.mp (resolve_eq_ok.mp resolved).2
    cases served : serve key with
    | some convert =>
      simp only [served] at built
      subst built
      exact .converter served
    | none =>
      cases shape : (schema.describe key.type).sequence with
      | some sequence =>
        simp only [served, shape] at built
        obtain ⟨_, _, _, _, rfl⟩ := built
        exact .sequence served shape
      | none =>
        cases separator : key.separator with
        | some => simp [served, shape, separator] at built
        | none =>
          cases given : key.pattern with
          | some pattern =>
            simp only [served, shape, separator, given] at built
            obtain ⟨constructor, candidate, _, bound, rfl⟩ := built
            have same : candidate.pattern = pattern := pattern_of_resolveBinding bound
            show schema.Lists serve key [candidate.pattern]
            rw [same]
            exact .explicit served shape given
          | none =>
            simp only [served, shape, separator, given] at built
            obtain ⟨cs, unfolded, _, rfl⟩ := built
            exact .flat served shape given (flat_of_unfold unfolded)

end Draft

/-- Interpreters with the same patterns in the same order are alike. -/
def Likeness.patterns : Likeness α where
  interpreter i i' := i.patterns = i'.patterns
  candidate c c' := c.pattern = c'.pattern
  converter := rfl
  sequence _ := rfl
  bound _ := rfl
  candidates alike := by
    show List.map _ _ = List.map _ _
    induction alike with
    | nil => rfl
    | cons first _ ih => rw [List.map_cons, List.map_cons, first, ih]

namespace Registry

variable {schema : Schema α}

/-- Every interpreter that is kept has the patterns of a draft with the current converters, also
where it is outdated otherwise. -/
abbrev Ordered (schema : Schema α) (r : Registry α) : Prop :=
  Draft.Kept .patterns schema r.converterFor? r

theorem converterFor?_register_of_ne (r : Registry α) (type : TypeRef) (convert : Converter α)
    (other : key ≠ { type }) :
    (r.register type convert).converterFor? key = r.converterFor? key := by
  obtain ⟨t, _ | _, _ | _⟩ := key
  · have apart : t ≠ type := fun same => other (by rw [same])
    simp [apart]
  all_goals rfl

/-- A registration drops the one interpreter that it gives other patterns to. -/
theorem Ordered.register {r : Registry α} (ordered : r.Ordered schema) (type : TypeRef)
    (convert : Converter α) : (r.register type convert).Ordered schema := by
  intro key i found
  rw [cached?_register] at found
  split at found
  · contradiction
  · rename_i other
    obtain ⟨fuel, path, draft, drafted, alike⟩ := ordered key i found
    obtain ⟨draft', redrafted⟩ :=
      Draft.exists_resolve (r.converterFor?_register_isSome type convert) drafted
    have same := congrArg Option.isSome (r.converterFor?_register_of_ne type convert other)
    refine ⟨fuel, path, draft', redrafted, alike.trans ?_⟩
    exact (Draft.lists_of_resolve drafted).unique same.symm (Draft.lists_of_resolve redrafted)

theorem Ordered.run (quiet : schema.Quiet) {r : Registry α} (ordered : r.Ordered schema)
    (ops : List (Operation α)) : (r.run schema ops).Ordered schema := by
  induction ops generalizing r with
  | nil => exact ordered
  | cons op ops ih =>
    cases op with
    | register type convert => exact ih (ordered.register type convert)
    | request names key =>
      obtain ⟨_, same, kept⟩ := ask_of_kept quiet ordered names key
      rw [← same] at kept
      exact ih kept

/-- In any state that a registry has come to, an interpreter has the patterns of its key. -/
theorem lists_of_ask (quiet : schema.Quiet) {r : Registry α} (ordered : r.Ordered schema)
    (answered : (r.ask schema names key).1 = .ok i) :
    schema.Lists r.converterFor? key i.patterns := by
  have agree := (ask_of_kept quiet ordered names key).1
  rw [answered] at agree
  generalize drafted : schema.answer r.converterFor? key = answer at agree
  cases agree with
  | ok alike =>
    rw [show i.patterns = _ from alike]
    exact Draft.lists_of_resolve (Build.settle_eq_ok.mp drafted)

/-- In any state that a registry has come to by registrations and requests, the patterns of a type
that is no list and has no converter are those it declares, in the order of declaration. If a
pattern is asked for, it is the only one. -/
theorem patterns_in_declared_order (quiet : schema.Quiet) (scalars : Bool)
    (converters : List (TypeRef × Converter α)) (ops : List (Operation α)) (names : List String)
    (type : TypeRef) (shape : (schema.describe type).sequence = none) :
    let r := (create scalars converters).run schema ops
    (∀ i, r.converter? type = none → (r.ask schema names { type }).1 = .ok i →
      ∀ patterns, schema.Flat type patterns ↔ i.patterns = patterns) ∧
    ∀ i pattern, (r.ask schema names ⟨type, some pattern, none⟩).1 = .ok i →
      i.patterns = [pattern] := by
  intro r
  have ordered : r.Ordered schema := .run quiet (keeps_create scalars converters) ops
  refine ⟨fun i unserved answered patterns => ?_, fun i pattern answered => ?_⟩
  · have flat : schema.Flat type i.patterns := by
      generalize listed : i.patterns = ps
      have lists := listed ▸ lists_of_ask quiet ordered answered
      cases lists with
      | flat _ _ _ flat => exact flat
      | _ => simp_all
    refine ⟨flat.unique, ?_⟩
    rintro rfl
    exact flat
  · have lists := lists_of_ask quiet ordered answered
    exact lists.unique rfl (.explicit rfl shape rfl)

/-- A shape is round, once more round, or square, and each of these may be a dot. -/
def shapes : Schema Unit where
  declarations := [
    { name := "Shape"
      descriptor := {
        pattern := some "s"
        constructor := some (.ofTypes [] fun _ => .ok ())
        variants := [⟨.declared "Round", fun _ => ()⟩, ⟨.declared "Round", fun _ => ()⟩,
          ⟨.declared "Square", fun _ => ()⟩]
        alternates := [⟨"t", .ofTypes [] fun _ => .ok ()⟩] } },
    { name := "Round"
      descriptor := {
        pattern := some "o"
        constructor := some (.ofTypes [] fun _ => .ok ())
        variants := [⟨.declared "Dot", fun _ => ()⟩]
        alternates := [⟨"c", .ofTypes [] fun _ => .ok ()⟩] } },
    { name := "Square"
      descriptor := {
        variants := [⟨.declared "Dot", fun _ => ()⟩]
        alternates := [⟨"q", .ofTypes [] fun _ => .ok ()⟩] } },
    { name := "Dot"
      descriptor := { alternates := [⟨"d", .ofTypes [] fun _ => .ok ()⟩] } }]

/-- Dots are read by their pattern as variants, though they have a converter, and as often as they
are declared. -/
theorem shapes_in_declared_order :
    let r : Registry Unit := (create true []).run shapes
      [.register (.declared "Dot") fun _ => none, .request [] { type := .declared "Round" }]
    let shape : Key := { type := .declared "Shape" }
    (∃ i, (r.ask shapes [] shape).1 = .ok i ∧
      (∀ patterns, shapes.Flat (.declared "Shape") patterns ↔ i.patterns = patterns) ∧
      i.patterns = ["s", "o", "d", "c", "o", "d", "c", "d", "q", "t"]) ∧
    ∃ i, (r.ask shapes [] { shape with pattern := some "x*" }).1 = .ok i ∧
      i.patterns = ["x*"] := by
  intro r shape
  have quiet : shapes.Quiet := Schema.quiet_of_declarations (by simp [shapes])
  obtain ⟨plain, explicit⟩ := patterns_in_declared_order quiet true []
    [.register (.declared "Dot") fun _ => none, .request [] { type := .declared "Round" }] []
    (.declared "Shape") (by cbv)
  obtain ⟨i, answered⟩ : ∃ i, (r.ask shapes [] shape).1 = .ok i :=
    exists_of_isOk (by unfold r; cbv)
  obtain ⟨i', answered'⟩ : ∃ i, (r.ask shapes [] { shape with pattern := some "x*" }).1 = .ok i :=
    exists_of_isOk (by unfold r; cbv)
  have listed : ((r.ask shapes [] shape).1.toOption.map Interpreter.patterns) =
      some ["s", "o", "d", "c", "o", "d", "c", "d", "q", "t"] := by
    unfold r
    cbv
  rw [answered] at listed
  refine ⟨⟨i, answered, plain i ?_ answered, Option.some.inj listed⟩, i', answered',
    explicit i' _ answered'⟩
  cbv

end Registry

end Construe
