import Mathlib
import Construe.Proofs.Direct
import Construe.Proofs.Typing

/-! # Sums and their variants

A sum has no use for the interpreters of its variants: it takes their candidates into its own
list and follows each of them by the liftings that lead to it. What comes of it is what the
variants' own interpreters would have given, tried one after the other, with their values lifted
and their rejections in a row. -/
namespace Construe

/-- The candidate, followed by a lifting. -/
def Candidate.lift (wrap : Wrap α) : Candidate α → Candidate α
  | .mk pattern matcher parameters construct =>
    .mk pattern matcher parameters fun values => do wrap (← construct values)

/-! ### Liftings can wait -/

theorem Constructor.chain_ok (c : Constructor α) (type : TypeRef) (wrap : Wrap α) :
    (fun values => c.chain type .ok values >>= wrap) = c.chain type wrap := by
  funext values
  unfold chain
  cases c.construct type.ownName values <;> rfl

theorem Variant.chain_ok (v : Variant α) (type : TypeRef) (wrap : Wrap α) (value : Value α) :
    v.chain type .ok value >>= wrap = v.chain type wrap value := by
  unfold chain
  cases v.wrap type.ownName value <;> rfl

theorem Candidate.lift_chain (c : Candidate α) (v : Variant α) (type : TypeRef) (wrap : Wrap α) :
    (c.lift (v.chain type .ok)).lift wrap = c.lift (v.chain type wrap) := by
  obtain ⟨pattern, matcher, parameters, construct⟩ := c
  simp only [lift, bind_assoc, v.chain_ok]

namespace Draft

open Build

theorem outer_map (type : TypeRef) (x : Except Stop β) (f : β → γ) :
    outer type (x.map f) = (outer type x).map f := by
  rcases x with (_ | _) | _ <;> rfl

theorem mapM_map (f : β → Except Stop γ) (g : γ → δ) (xs : List β) :
    (xs.mapM fun x => (f x).map g) = (xs.mapM f).map (List.map g) := by
  induction xs with
  | nil => rfl
  | cons x xs ih =>
    rw [List.mapM_cons, List.mapM_cons, ih]
    cases f x with
    | error => rfl
    | ok y => cases xs.mapM f <;> rfl

variable {schema : Schema α} {serve : Key → Option (Converter α)}

theorem resolveBinding_lift (fuel : Nat) (path : Path) (type : TypeRef) (b : Binding α)
    (wrap : Wrap α) : resolveBinding schema serve fuel path type b wrap =
      (resolveBinding schema serve fuel path type b .ok).map (Candidate.lift wrap) := by
  obtain ⟨pattern, constructor⟩ := b
  cases fuel with
  | zero => rfl
  | succ fuel =>
    rw [resolveBinding, resolveBinding]
    cases constructor.unknownOptions with
    | cons => rfl
    | nil =>
      dsimp only
      cases (compilePattern type pattern constructor.arity : Except Stop Pattern) with
      | error => rfl
      | ok matcher =>
        cases constructor.params.mapM fun p =>
            outer type (resolve schema serve fuel path p.key) with
        | error => rfl
        | ok parameters =>
          show Except.ok _ = Except.ok (Candidate.mk _ _ _ _)
          rw [← constructor.chain_ok]

/-- The candidates that are followed by a lifting are the candidates, followed by the lifting. -/
theorem unfold_lift (fuel : Nat) (path : Path) (type : TypeRef) (wrap : Wrap α) :
    unfold schema serve fuel path type wrap =
      (unfold schema serve fuel path type .ok).map (List.map (Candidate.lift wrap)) := by
  induction fuel generalizing path type wrap with
  | zero => rfl
  | succ fuel ih =>
    have inner (v : Variant α) :
        outer type (unfold schema serve fuel (path.unfold type) v.type (v.chain type wrap)) =
          (outer type (unfold schema serve fuel (path.unfold type) v.type (v.chain type .ok))).map
            (List.map (Candidate.lift wrap)) := by
      rw [ih, ih _ _ (v.chain type .ok), ← outer_map]
      cases unfold schema serve fuel (path.unfold type) v.type .ok with
      | error => rfl
      | ok candidates => simp [Except.map, Function.comp_def, Candidate.lift_chain]
    rw [unfold, unfold]
    split
    · rfl
    · split
      · rfl
      · simp only [resolveBinding_lift fuel path type _ wrap, inner, mapM_map]
        cases (schema.describe type).ownBinding?.toList.mapM fun b =>
            resolveBinding schema serve fuel path type b .ok with
        | error => rfl
        | ok own =>
          cases (schema.describe type).variants.mapM fun v => outer type
              (unfold schema serve fuel (path.unfold type) v.type (v.chain type .ok)) with
          | error => rfl
          | ok variants =>
            cases (schema.describe type).alternates.mapM fun b =>
                resolveBinding schema serve fuel path type b .ok with
            | error => rfl
            | ok alternates => simp [Except.map, bind, Except.bind, pure, Except.pure]

theorem lifted_of_unfold (unfolded : unfold schema serve fuel path type wrap = .ok candidates) :
    ∃ inner, unfold schema serve fuel path type .ok = .ok inner ∧
      candidates = inner.map (Candidate.lift wrap) := by
  rw [unfold_lift] at unfolded
  cases plain : unfold schema serve fuel path type .ok with
  | error => simp [plain, Except.map] at unfolded
  | ok inner =>
    rw [plain] at unfolded
    exact ⟨inner, rfl, (Except.ok.inj unfolded).symm⟩

end Draft

/-! ### Trying candidates block by block -/

namespace Interpreter

/-- A value that was built is what the candidate's last step gave. -/
theorem constructed_of_attempt {construct : List (Value α) → Except ConstructionFailure (Value α)}
    (built : attempt (.mk pattern matcher parameters construct) input = .built value) :
    ∃ values, construct values = .ok value := by
  have given := value?_attempt pattern matcher parameters construct input
  rw [built] at given
  obtain ⟨_, _, rest⟩ := Option.bind_eq_some_iff.mp given.symm
  obtain ⟨values, _, done⟩ := Option.bind_eq_some_iff.mp rest
  exact ⟨values, toOption_eq_some.mp done⟩

/-- What a lifting that accepts the value makes of an attempt. -/
theorem attempt_lift {wrap : Wrap α} {lift : Value α → Value α} {candidate : Candidate α}
    (total : ∀ value, attempt candidate input = .built value → wrap value = .ok (lift value)) :
    attempt (candidate.lift wrap) input = match attempt candidate input with
      | .built value => .built (lift value)
      | other => other := by
  obtain ⟨pattern, matcher, parameters, construct⟩ := candidate
  rw [Candidate.lift, attempt]
  rw [attempt] at total ⊢
  cases found : matcher.groups? input with
  | none => rfl
  | some groups =>
    rw [found] at total
    dsimp only at total ⊢
    cases read : interpretGroups parameters 0 groups with
    | error => rfl
    | ok values =>
      rw [read] at total
      dsimp only at total ⊢
      cases made : construct values with
      | error => rfl
      | ok value =>
        rw [made] at total
        have lifted : Except.ok value >>= wrap = .ok (lift value) := total value rfl
        rw [lifted]

theorem firstSuccess_lift {wrap : Wrap α} {lift : Value α → Value α}
    {candidates : List (Candidate α)}
    (total : ∀ c ∈ candidates, ∀ value, attempt c input = .built value →
      wrap value = .ok (lift value)) :
    firstSuccess (candidates.map (Candidate.lift wrap)) input =
      (firstSuccess candidates input).map lift := by
  induction candidates with
  | nil =>
    rw [List.map_nil, firstSuccess]
    rfl
  | cons candidate candidates ih =>
    obtain ⟨first, others⟩ := List.forall_mem_cons.mp total
    have same : (candidate.lift wrap).pattern = candidate.pattern := by cases candidate; rfl
    rw [List.map_cons, firstSuccess, firstSuccess, attempt_lift first, same, ih others]
    cases attempt candidate input with
    | noMatch => rfl
    | built => rfl
    | rejected =>
      dsimp only
      cases firstSuccess candidates input <;> rfl

/-- Either the first candidates succeed, or the others are tried, and all rejections count. -/
theorem firstSuccess_append (first last : List (Candidate α)) (input : String) :
    firstSuccess (first ++ last) input = match firstSuccess first input with
      | .ok value => .ok value
      | .error rejections => (firstSuccess last input).mapError (rejections ++ ·) := by
  induction first with
  | nil =>
    rw [List.nil_append, firstSuccess.eq_1]
    dsimp only
    cases firstSuccess last input <;> rfl
  | cons candidate first ih =>
    rw [List.cons_append, firstSuccess, firstSuccess]
    cases attempt candidate input with
    | built => rfl
    | noMatch => exact ih
    | rejected reason =>
      dsimp only
      rw [ih]
      cases firstSuccess first input with
      | ok => rfl
      | error => cases firstSuccess last input <;> rfl

/-- The first value in a list of outcomes, or all the rejections. -/
def firstOf : List (Except (List Rejection) β) → Except (List Rejection) β
  | [] => .error []
  | .ok b :: _ => .ok b
  | .error rejections :: rest => (firstOf rest).mapError (rejections ++ ·)

theorem firstOf_of_ok {before : List (Except (List Rejection) β)}
    (refused : ∀ x ∈ before, ∃ rejections, x = .error rejections) (b : β)
    (after : List (Except (List Rejection) β)) : firstOf (before ++ .ok b :: after) = .ok b := by
  induction before with
  | nil => rfl
  | cons x before ih =>
    obtain ⟨⟨rejections, rfl⟩, others⟩ := List.forall_mem_cons.mp refused
    rw [List.cons_append, firstOf, ih others]
    rfl

theorem firstOf_of_errors (rejections : List (List Rejection)) :
    firstOf (rejections.map (.error : _ → Except _ β)) = .error rejections.flatten := by
  induction rejections with
  | nil => rfl
  | cons first others ih =>
    rw [List.map_cons, firstOf, ih]
    rfl

/-- Blocks of candidates are tried one after the other. -/
theorem firstSuccess_flatten (blocks : List (List (Candidate α))) (input : String) :
    firstSuccess blocks.flatten input = firstOf (blocks.map (firstSuccess · input)) := by
  induction blocks with
  | nil =>
    rw [List.flatten_nil, firstSuccess]
    rfl
  | cons block blocks ih =>
    rw [List.flatten_cons, firstSuccess_append, ih, List.map_cons]
    cases firstSuccess block input <;> rfl

/-- Where all candidates make values of the type, no value is lost to the check of types. -/
theorem run_candidates {candidates : List (Candidate α)}
    (typed : ∀ c ∈ candidates, ∀ value, attempt c input = .built value → value.type = type) :
    run (.candidates type candidates) input =
      (firstSuccess candidates input).mapError (.mk type input) := by
  rw [run, interpret]
  cases done : firstSuccess candidates input with
  | error => rfl
  | ok value =>
    have first := toOption_firstSuccess candidates input
    rw [done] at first
    obtain ⟨c, member, built⟩ := List.exists_of_findSome?_eq_some first.symm
    have made : attempt c input = .built value := by
      cases tried : attempt c input with
      | built => simpa [tried, Attempt.value?] using built
      | _ => simp [tried, Attempt.value?] at built
    exact if_pos (typed c member value made)

end Interpreter

/-! ### A sum and the answers for its variants -/

/-- The text is not accepted: there is no interpreter, or it refuses the text. -/
def Declined (answer : Except BuildError (Interpreter α)) (input : String) : Prop :=
  ∀ i, answer = .ok i → ∃ e, i.run input = .error e

/-- The rejections of a text that is not accepted. Without an interpreter there are none. -/
def rejectionsOf (answer : Except BuildError (Interpreter α)) (input : String) : List Rejection :=
  match answer.map (Interpreter.run · input) with
  | .ok (.error e) => e.rejections
  | _ => []

/-- The value of a text, lifted, or the rejections. -/
def verdict (answer : Except BuildError (Interpreter α)) (lift : Value α → Value α)
    (input : String) : Except (List Rejection) (Value α) :=
  match answer with
  | .ok i => ((i.run input).map lift).mapError InterpretError.rejections
  | .error _ => .error []

theorem verdict_of_run {i : Interpreter α} (read : i.run input = .ok value)
    (lift : Value α → Value α) : verdict (.ok i) lift input = .ok (lift value) := by
  rw [verdict, read]
  rfl

theorem Declined.verdict_eq {answer : Except BuildError (Interpreter α)}
    (declined : Declined answer input) (lift : Value α → Value α) :
    verdict answer lift input = .error (rejectionsOf answer input) := by
  cases answer with
  | error => rfl
  | ok i =>
    obtain ⟨e, refused⟩ := declined i rfl
    simp [verdict, rejectionsOf, refused, Except.map, Except.mapError]

namespace Draft

variable {schema : Schema α} {serve : Key → Option (Converter α)}

/-- The candidates of a type that need no further lifting make values of the type. -/
theorem type_of_unfold (unfolded : unfold schema serve fuel path type .ok = .ok candidates)
    (member : c ∈ candidates) (built : Interpreter.attempt c input = .built value) :
    value.type = type := by
  cases fuel with
  | zero => simp [unfold] at unfolded
  | succ fuel =>
    obtain ⟨_, _, own, inner, alternates, first, variants, last, rfl⟩ := unfold_eq_ok.mp unfolded
    have bound {b : Binding α} (declared : b.constructor ∈ (schema.describe type).constructors)
        (resolved : resolveBinding schema serve fuel path type b .ok = .ok c) :
        value.type = type := by
      cases fuel with
      | zero => simp [resolveBinding] at resolved
      | succ fuel =>
        obtain ⟨_, _, _, _, _, rfl⟩ := resolveBinding_eq_ok.mp resolved
        obtain ⟨values, done⟩ := Interpreter.constructed_of_attempt built
        obtain ⟨_, made, same⟩ := Build.bind_eq_ok.mp done
        obtain ⟨_, payload, _, _, rfl⟩ := Constructor.construct_eq_ok.mp made
        cases same
        exact Schema.declared_of_constructor declared
    simp only [List.mem_append, List.mem_flatten] at member
    rcases member with (member | ⟨block, inside, member⟩) | member
    · obtain ⟨b, declared, resolved⟩ := Build.mem_left_of_forall₂ first.flip member
      exact bound (Descriptor.own_mem declared) resolved
    · obtain ⟨v, declared, resolved⟩ := Build.mem_left_of_forall₂ variants.flip inside
      obtain ⟨inner, _, rfl⟩ := lifted_of_unfold resolved
      obtain ⟨⟨pattern, matcher, parameters, construct⟩, _, rfl⟩ := List.mem_map.mp member
      obtain ⟨values, done⟩ := Interpreter.constructed_of_attempt built
      obtain ⟨x, _, lifted⟩ := Build.bind_eq_ok.mp done
      obtain ⟨y, wrapped, same⟩ := Build.bind_eq_ok.mp lifted
      cases same
      rw [Schema.type_wrap wrapped]
      exact Schema.declared_of_variant declared
    · obtain ⟨b, declared, resolved⟩ := Build.mem_left_of_forall₂ last.flip member
      exact bound (Descriptor.alternate_mem declared) resolved

end Draft

theorem map_forall₂ {R : β → γ → Prop} {f : β → δ} {g : γ → δ} {xs : List β} {ys : List γ}
    (related : List.Forall₂ R xs ys) (same : ∀ x ∈ xs, ∀ y, R x y → g y = f x) :
    ys.map g = xs.map f := by
  induction related with
  | nil => rfl
  | cons first _ ih =>
    obtain ⟨one, others⟩ := List.forall_mem_cons.mp same
    rw [List.map_cons, List.map_cons, one _ first, ih others]

namespace Schema

variable {schema : Schema α} {r : Registry α}

/-- A type whose candidates were unfolded once, on whatever path, is answered with them; if there
are none, the answer says so. -/
theorem answer_of_unfold (quiet : schema.Quiet) {fuel : Nat} (unserved : r.converter? type = none)
    (shape : (schema.describe type).sequence = none)
    (unfolded : Draft.unfold schema r.converterFor? fuel path type .ok = .ok candidates) :
    schema.answer r.converterFor? { type } =
      if candidates = [] then
        if (schema.describe type).variants.isEmpty then .error ⟨[type], .noBinding type⟩
        else .error ⟨[type], .emptySumType type⟩
      else .ok (.candidates type candidates) := by
  have grounded := Draft.grounded_of_unfold unfolded
  have leads : schema.Leads r.converterFor? (.key { type }) (.candidates type) :=
    Draft.leads_sum unserved shape rfl rfl
  -- On the way from the key the candidates are the same, for they do not lead back to the key.
  have avoids : Draft.Avoids schema r.converterFor? (Path.start.build { type })
      (.candidates type) := by
    intro m member back
    obtain rfl | member := Path.mem_nodes_build.mp member
    · rcases back.cases_head with same | ⟨n, first, rest⟩
      · contradiction
      · exact grounded.no_return first (rest.tail leads)
    · simp [Path.nodes, Path.start] at member
  have ends := Draft.resolve_ne_exhausted quiet r { type }
  obtain ⟨more, enough⟩ : ∃ more, schema.fuel { type } = more + 2 := ⟨_, rfl⟩
  rw [enough, Draft.resolve, if_neg (by simp [Path.start]), Draft.resolveNew,
    r.converterFor?_plain, unserved] at ends
  rw [answer, enough, Draft.resolve, if_neg (by simp [Path.start]), Draft.resolveNew,
    r.converterFor?_plain, unserved]
  dsimp only at ends ⊢
  rw [shape] at ends ⊢
  dsimp only at ends ⊢
  rcases Draft.steady_unfold grounded avoids candidates unfolded with same | short
  · rw [same]
    cases candidates with
    | nil =>
      show Key.settle _ (ite _ _ _) = _
      split <;> rfl
    | cons => rfl
  · rw [short] at ends
    exact absurd rfl ends

/-- The values that the variant's interpreter gives, lifted, are what its candidates give within
the sum, and so are the rejections. -/
theorem firstSuccess_variant (quiet : schema.Quiet) {fuel : Nat} {v : Variant α}
    (unserved : r.converter? v.type = none) (shape : (schema.describe v.type).sequence = none)
    (unfolded : Draft.unfold schema r.converterFor? fuel path v.type (v.chain type .ok) = .ok block)
    (input : String) : Interpreter.firstSuccess block input =
      verdict (schema.answer r.converterFor? { type := v.type })
        (fun value => .made type.ownName (v.lift value)) input := by
  obtain ⟨inner, plain, rfl⟩ := Draft.lifted_of_unfold unfolded
  have typed c (member : c ∈ inner) value (built : Interpreter.attempt c input = .built value) :
      value.type = v.type := Draft.type_of_unfold plain member built
  have total c (member : c ∈ inner) value (built : Interpreter.attempt c input = .built value) :
      v.chain type .ok value = .ok (.made type.ownName (v.lift value)) := by
    rw [Variant.chain, Variant.wrap, if_pos (typed c member value built)]
    rfl
  rw [Interpreter.firstSuccess_lift total, answer_of_unfold quiet unserved shape plain]
  cases inner with
  | nil =>
    rw [if_pos rfl, Interpreter.firstSuccess]
    split <;> rfl
  | cons c inner =>
    rw [if_neg (List.cons_ne_nil c inner), verdict, Interpreter.run_candidates typed]
    cases Interpreter.firstSuccess (c :: inner) input <;> rfl

/-- What a sum that is answered was put together from. -/
theorem parts_of_answer (unserved : r.converter? type = none)
    (shape : (schema.describe type).sequence = none)
    (patternless : (schema.describe type).pattern = none)
    (answered : schema.answer r.converterFor? { type } = .ok i) :
    ∃ fuel path inner alternates,
      Draft.unfold schema r.converterFor? (fuel + 1) path type .ok =
        .ok (inner.flatten ++ alternates) ∧
      List.Forall₂ (fun v block => Draft.unfold schema r.converterFor? fuel (path.unfold type)
        v.type (v.chain type .ok) = .ok block) (schema.describe type).variants inner ∧
      List.Forall₂ (fun b c => Draft.resolveBinding schema r.converterFor? fuel path type b .ok =
        .ok c) (schema.describe type).alternates alternates ∧
      i = .candidates type (inner.flatten ++ alternates) := by
  obtain ⟨more, enough⟩ : ∃ more, schema.fuel { type } = more + 3 := ⟨_, rfl⟩
  have resolved := Build.settle_eq_ok.mp answered
  rw [enough, Draft.resolve_eq_ok, Draft.resolveNew_eq_ok, r.converterFor?_plain, unserved,
    shape] at resolved
  obtain ⟨_, candidates, unfolded, _, rfl⟩ := resolved
  have ownless : (schema.describe type).ownBinding? = none := by
    simp [Descriptor.ownBinding?, patternless]
  obtain ⟨_, _, own, inner, alternates, first, variants, last, rfl⟩ :=
    Draft.unfold_eq_ok.mp unfolded
  rw [ownless, Option.toList_none, List.forall₂_nil_left_iff] at first
  subst first
  exact ⟨more, _, inner, alternates, unfolded, variants, last, rfl⟩

/-- A sum is its variants' answers and its alternates, tried in order. -/
theorem run_sum (quiet : schema.Quiet) (unserved : r.converter? type = none)
    (shape : (schema.describe type).sequence = none)
    (patternless : (schema.describe type).pattern = none)
    (variants : ∀ v ∈ (schema.describe type).variants,
      (schema.describe v.type).sequence = none ∧ r.converter? v.type = none)
    (answered : schema.answer r.converterFor? { type } = .ok i) :
    (∀ v ∈ (schema.describe type).variants, ∃ candidates,
      schema.answer r.converterFor? { type := v.type } =
        if candidates = [] then
          if (schema.describe v.type).variants.isEmpty then .error ⟨[v.type], .noBinding v.type⟩
          else .error ⟨[v.type], .emptySumType v.type⟩
        else .ok (.candidates v.type candidates)) ∧
    ∃ alternates,
      List.Forall₂ (Bound (fun k j => schema.answer r.converterFor? k = .ok j) type .ok)
        (schema.describe type).alternates alternates ∧
      ∀ input, i.run input = (Interpreter.firstOf (
        ((schema.describe type).variants.map fun v =>
          verdict (schema.answer r.converterFor? { type := v.type })
            (fun value => .made type.ownName (v.lift value)) input) ++
        alternates.map fun c => verdict (.ok (.candidates type [c])) id input)).mapError
          (.mk type input) := by
  obtain ⟨fuel, path, inner, alternates, unfolded, blocks, bound, rfl⟩ :=
    parts_of_answer unserved shape patternless answered
  have typed {input} c (member : c ∈ inner.flatten ++ alternates) value
      (built : Interpreter.attempt c input = .built value) : value.type = type :=
    Draft.type_of_unfold unfolded member built
  refine ⟨fun v declared => ?_, alternates, ?_, fun input => ?_⟩
  · obtain ⟨block, _, inside⟩ := Build.mem_left_of_forall₂ blocks declared
    obtain ⟨candidates, plain, _⟩ := Draft.lifted_of_unfold inside
    obtain ⟨single, free⟩ := variants v declared
    exact ⟨candidates, answer_of_unfold quiet free single plain⟩
  · refine bound.imp fun b c resolved => ?_
    cases fuel with
    | zero => simp [Draft.resolveBinding] at resolved
    | succ fuel =>
      obtain ⟨_, matcher, parameters, compiled, parts, rfl⟩ :=
        Draft.resolveBinding_eq_ok.mp resolved
      exact .intro compiled (parts.imp fun p j drafted => answer_of_resolve quiet drafted)
  · have lifted : inner.map (Interpreter.firstSuccess · input) =
        (schema.describe type).variants.map fun v =>
          verdict (schema.answer r.converterFor? { type := v.type })
            (fun value => .made type.ownName (v.lift value)) input := by
      apply map_forall₂ blocks
      intro v declared block inside
      obtain ⟨single, free⟩ := variants v declared
      exact firstSuccess_variant quiet free single inside input
    have alone : alternates.map (fun c => Interpreter.firstSuccess [c] input) =
        alternates.map fun c => verdict (.ok (.candidates type [c])) id input := by
      apply List.map_congr_left
      intro c member
      have own d (same : d ∈ [c]) value (built : Interpreter.attempt d input = .built value) :
          value.type = type := by
        cases List.mem_singleton.mp same
        exact typed c (List.mem_append_right _ member) value built
      rw [verdict, Interpreter.run_candidates own]
      cases Interpreter.firstSuccess [c] input <;> rfl
    have flat : inner.flatten ++ alternates = (inner ++ alternates.map ([·])).flatten := by
      rw [List.flatten_append, ← List.flatMap_def, List.flatMap_singleton']
    rw [Interpreter.run_candidates typed, flat, Interpreter.firstSuccess_flatten, List.map_append,
      lifted, List.map_map]
    exact congrArg _ (congrArg _ (congrArg _ alone))

end Schema

namespace Registry

variable {schema : Schema α}

/-- A sum agrees with the interpreters of its variants. Each of these is built as well, or there is
nothing in the variant to build. The value of a text is that of the first variant that accepts it,
lifted; if there is none, that of the first alternate that does; and if there is none either, the
error lists the rejections of the variants, one after the other, and then those of the
alternates. -/
theorem sum_agrees_with_variants (quiet : schema.Quiet) (scalars : Bool)
    (converters : List (TypeRef × Converter α)) (ops ops' : List (Operation α))
    (asks : ∀ op ∈ ops, op.asks) (asks' : ∀ op ∈ ops', op.asks) (names names' : List String)
    (type : TypeRef) (unserved : (create scalars converters).converter? type = none)
    (shape : (schema.describe type).sequence = none)
    (patternless : (schema.describe type).pattern = none)
    (variants : ∀ v ∈ (schema.describe type).variants, (schema.describe v.type).sequence = none ∧
      (create scalars converters).converter? v.type = none)
    (i : Interpreter α)
    (answered : (((create scalars converters).run schema ops).ask schema names { type }).1 =
      .ok i) :
    let make key := (((create scalars converters).run schema ops').ask schema names' key).1
    (∀ v ∈ (schema.describe type).variants, (∃ j, make { type := v.type } = .ok j) ∨
      make { type := v.type } = .error ⟨[v.type], .noBinding v.type⟩ ∨
      make { type := v.type } = .error ⟨[v.type], .emptySumType v.type⟩) ∧
    ∃ alternates, List.Forall₂ (Bound (fun k j => make k = .ok j) type .ok)
        (schema.describe type).alternates alternates ∧
      ∀ input,
        (∀ before v after j value, (schema.describe type).variants = before ++ v :: after →
          (∀ w ∈ before, Declined (make { type := w.type }) input) →
          make { type := v.type } = .ok j → j.run input = .ok value →
          i.run input = .ok (.made type.ownName (v.lift value))) ∧
        ((∀ v ∈ (schema.describe type).variants, Declined (make { type := v.type }) input) →
          (∀ before c after value, alternates = before ++ c :: after →
            (∀ d ∈ before, Declined (.ok (.candidates type [d])) input) →
            (Interpreter.candidates type [c]).run input = .ok value →
            i.run input = .ok value) ∧
          ((∀ c ∈ alternates, Declined (.ok (.candidates type [c])) input) →
            i.run input = .error (.mk type input
              (((schema.describe type).variants.flatMap fun v =>
                rejectionsOf (make { type := v.type }) input) ++
              alternates.flatMap fun c => rejectionsOf (.ok (.candidates type [c])) input)))) := by
  intro make
  have answers key : make key = schema.answer (create scalars converters).converterFor? key :=
    ask_run quiet scalars converters ops' asks' names' key
  rw [ask_run quiet scalars converters ops asks names] at answered
  obtain ⟨built, alternates, bound, run⟩ :=
    Schema.run_sum quiet unserved shape patternless variants answered
  simp only [← answers] at built bound run
  refine ⟨fun v declared => ?_, alternates, bound, fun input => ⟨?_, fun declined => ⟨?_, ?_⟩⟩⟩
  · obtain ⟨candidates, same⟩ := built v declared
    rw [same]
    split
    · split
      · exact .inr (.inl rfl)
      · exact .inr (.inr rfl)
    · exact .inl ⟨_, rfl⟩
  · intro before v after j value split refused found read
    rw [run, split, List.map_append, List.map_cons, found, verdict_of_run read, List.append_assoc,
      List.cons_append, Interpreter.firstOf_of_ok]
    · rfl
    · intro x member
      obtain ⟨w, inside, rfl⟩ := List.mem_map.mp member
      exact ⟨_, (refused w inside).verdict_eq _⟩
  · intro before c after value split refused read
    rw [run, split, List.map_append, List.map_cons, verdict_of_run read, ← List.append_assoc,
      Interpreter.firstOf_of_ok]
    · rfl
    · intro x member
      rcases List.mem_append.mp member with member | member
      · obtain ⟨v, inside, rfl⟩ := List.mem_map.mp member
        exact ⟨_, (declined v inside).verdict_eq _⟩
      · obtain ⟨d, inside, rfl⟩ := List.mem_map.mp member
        exact ⟨_, (refused d inside).verdict_eq _⟩
  · intro refused
    have first := List.map_congr_left fun v declared =>
      (declined v declared).verdict_eq fun value => .made type.ownName (v.lift value)
    have last := List.map_congr_left fun c member => (refused c member).verdict_eq id
    let rejections :=
      ((schema.describe type).variants.map fun v => rejectionsOf (make { type := v.type }) input) ++
        alternates.map fun c => rejectionsOf (.ok (.candidates type [c])) input
    calc i.run input
      _ = (Interpreter.firstOf (rejections.map .error)).mapError (.mk type input) := by
        rw [run, first, last, List.map_append, List.map_map, List.map_map]
        rfl
      _ = .error (.mk type input rejections.flatten) := by
        rw [Interpreter.firstOf_of_errors]
        rfl
      _ = _ := by rw [List.flatten_append, ← List.flatMap_def, ← List.flatMap_def]

/-- A signal is dark, which has no text, or a shade, or off. A shade is red or green or plain. -/
def signals : Schema String where
  declarations := [
    { name := "Dark", descriptor := {} },
    { name := "Red"
      descriptor := {
        pattern := some "r", constructor := some (.ofTypes [] fun _ => .ok "red") } },
    { name := "Green"
      descriptor := {
        pattern := some "g", constructor := some (.ofTypes [] fun _ => .ok "green") } },
    { name := "Shade"
      descriptor := {
        variants := [⟨.declared "Red", fun _ => "stop"⟩, ⟨.declared "Green", fun _ => "go"⟩]
        alternates := [⟨"p", .ofTypes [] fun _ => .ok "wait"⟩] } },
    { name := "Signal"
      descriptor := {
        variants := [
          ⟨.declared "Dark", fun _ => "dark"⟩,
          ⟨.declared "Shade", fun | .made _ shade => shade | _ => "none"⟩]
        alternates := [⟨"o", .ofTypes [] fun _ => .ok "off"⟩] } }]

/-- There is nothing to build for dark signals; those of a shade are read as the shade is. -/
theorem signals_agree :
    let signal : Key := { type := .declared "Signal" }
    let make key := (((create false []).run signals [.request [] signal]).ask signals [] key).1
    make { type := .declared "Dark" } =
      .error ⟨[.declared "Dark"], .noBinding (.declared "Dark")⟩ ∧
    ∃ i shade, make signal = .ok i ∧ make { type := .declared "Shade" } = .ok shade ∧
      shade.run "g" = .ok (.made "Shade" "go") ∧ i.run "g" = .ok (.made "Signal" "go") := by
  intro signal make
  have quiet : signals.Quiet := Schema.quiet_of_declarations (by simp [signals])
  have dark : make { type := .declared "Dark" } =
      .error ⟨[.declared "Dark"], .noBinding (.declared "Dark")⟩ := by
    unfold make
    cbv
  obtain ⟨i, answered⟩ : ∃ i, make signal = .ok i := exists_of_isOk (by unfold make; cbv)
  obtain ⟨shade, found⟩ : ∃ shade, make { type := .declared "Shade" } = .ok shade :=
    exists_of_isOk (by unfold make; cbv)
  have read : shade.run "g" = .ok (.made "Shade" "go") := by
    have given : (make { type := .declared "Shade" }).map (·.run "g") =
        .ok (.ok (.made "Shade" "go")) := by
      unfold make
      cbv
    rw [found] at given
    exact Except.ok.inj given
  obtain ⟨_, _, _, agrees⟩ := sum_agrees_with_variants quiet false [] [.request [] signal]
    [.request [] signal] (by simp [Operation.asks]) (by simp [Operation.asks]) [] []
    (.declared "Signal") (by cbv) rfl rfl (by decide +kernel) i answered
  refine ⟨dark, i, shade, answered, found, read, ?_⟩
  refine (agrees "g").1 [_] _ [] shade _ rfl ?_ found read
  intro w member
  cases List.mem_singleton.mp member
  intro j built
  exact absurd (dark.symm.trans built) (by simp)

end Registry

end Construe
