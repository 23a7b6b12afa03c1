import Mathlib
import Construe.Proofs.Typing
import Construe.Proofs.Pattern.Whole

/-! # Groups and parameters

A candidate is compiled for as many groups as its constructor has parameters, but its matcher is
compiled anew from the text of the anchored expression. If the groups of the expression are
numbered without a gap, there is a value for every parameter and the number of arguments is never
wrong. If one is missing, it always is. -/
namespace Construe

open Pattern (exprOf anchored whole NumberedFrom)

/-! ### Where the number of arguments is found wrong -/

theorem checkTypes_ne_arity (index : Nat) (types : List TypeRef) (values : List (Value α))
    (expected actual : Nat) : checkTypes index types values ≠ .error (.arity expected actual) := by
  fun_induction checkTypes index types values with
  | case1 _ _ _ _ ih => exact ih
  | case2 | case3 | case4 => simp

/-- The lifting never finds the number of arguments wrong. -/
def Wrap.Indifferent (wrap : Wrap α) : Prop :=
  ∀ value expected actual, wrap value ≠ .error (.arity expected actual)

theorem Wrap.indifferent_ok : Wrap.Indifferent (Except.ok : Wrap α) := by
  intro value expected actual
  simp

theorem Variant.indifferent_chain {wrap : Wrap α} (indifferent : wrap.Indifferent) (v : Variant α)
    (type : TypeRef) : Wrap.Indifferent (v.chain type wrap) := by
  intro value expected actual
  rw [Variant.chain, Variant.wrap]
  split
  · exact indifferent _ expected actual
  · simp [bind, Except.bind]

/-- Given as many arguments as it takes, only the constructor's own step can find their number
wrong. -/
theorem Constructor.make_eq_arity {c : Constructor α} {wrap : Wrap α} {values : List (Value α)}
    (indifferent : wrap.Indifferent) (even : values.length = c.arity)
    (failed : c.chain type wrap values = .error (.arity expected actual)) :
    c.make values = .error (.arity expected actual) := by
  have even : ¬ values.length ≠ (c.params.map Param.type).length := by simpa [arity] using even
  rw [chain, construct, takeArguments, if_neg even] at failed
  cases checked : checkTypes 0 (c.params.map Param.type) values with
  | error failure =>
    simp only [checked, bind, Except.bind, Except.error.injEq] at failed
    exact absurd (failed ▸ checked) (checkTypes_ne_arity 0 _ values expected actual)
  | ok =>
    cases made : c.make values with
    | error failure =>
      simpa [checked, made, bind, Except.bind, pure, Except.pure] using failed
    | ok payload =>
      simp only [checked, made, bind, Except.bind, pure, Except.pure] at failed
      exact absurd failed (indifferent _ expected actual)

/-! ### How many values there are -/

theorem Pattern.length_groups? {p : Pattern} {input : String} {groups : List (Option String)}
    (matched : p.groups? input = some groups) : groups.length = p.groups := by
  obtain ⟨m, _, rfl⟩ := Option.map_eq_some_iff.mp matched
  simp

theorem Pattern.groups?_congr {p q : Pattern} (program : p.program = q.program)
    (groups : p.groups = q.groups) (input : String) : p.groups? input = q.groups? input := by
  rw [groups?, groups?, program, groups]

theorem Interpreter.length_interpretGroups {parameters : List (Interpreter α)} {index : Nat}
    {groups : List (Option String)} {values : List (Value α)}
    (read : interpretGroups parameters index groups = .ok values) :
    values.length = min parameters.length groups.length := by
  induction parameters generalizing index groups values with
  | nil =>
    rw [interpretGroups_nil] at read
    cases read
    simp
  | cons parameter parameters ih =>
    rcases groups with _ | ⟨_ | group, groups⟩
    · rw [interpretGroups_groups_nil] at read
      cases read
      simp
    · simp [interpretGroups] at read
    · rw [interpretGroups] at read
      split at read
      · contradiction
      · obtain ⟨rest, others, same⟩ := Build.bind_eq_ok.mp read
        cases same
        simp [ih others]

/-! ### Compiled candidates -/

/-- The candidate was compiled from its pattern for as many groups as it has parameters, and
constructs by a declared constructor that takes as many values. -/
inductive Candidate.Compiled (schema : Schema α) : Candidate α → Prop where
  | intro {c : Constructor α} {pattern : String} {matcher : Pattern}
      {parameters : List (Interpreter α)} : c ∈ (schema.describe declaring).constructors →
      whole pattern parameters.length = .ok matcher → c.arity = parameters.length →
      wrap.Indifferent →
      Compiled schema (.mk pattern matcher parameters (c.chain declaring wrap))

/-- All candidates of the interpreter and of its parts are compiled. -/
def Interpreter.Compiled (schema : Schema α) (i : Interpreter α) : Prop :=
  ∀ type inOrder, (Interpreter.candidates type inOrder).PartOf i →
    ∀ candidate ∈ inOrder, candidate.Compiled schema

section

variable {schema : Schema α}

theorem Interpreter.compiled_candidates {inOrder : List (Candidate α)}
    (each : ∀ candidate ∈ inOrder, candidate.Compiled schema ∧
      ∀ parameter ∈ candidate.parameters, parameter.Compiled schema) (type : TypeRef) :
    (Interpreter.candidates type inOrder).Compiled schema := by
  intro other others inside candidate member
  cases inside with
  | self => exact (each candidate member).1
  | parameter outer parameter inside =>
    exact (each _ outer).2 _ parameter other others inside candidate member

theorem Bound.compiled
    (bound : Bound (fun _ i => Interpreter.Compiled schema i) type wrap b candidate)
    (member : b.constructor ∈ (schema.describe type).constructors)
    (indifferent : wrap.Indifferent) :
    candidate.Compiled schema ∧ ∀ parameter ∈ candidate.parameters, parameter.Compiled schema := by
  obtain ⟨compiled, resolved⟩ := bound
  have arity : b.constructor.arity = _ := resolved.length_eq
  refine ⟨.intro member (arity ▸ compiled) arity indifferent, fun parameter inside => ?_⟩
  obtain ⟨_, _, compiled⟩ := Build.mem_left_of_forall₂ resolved.flip inside
  exact compiled

theorem Assembled.compiled
    (assembled : Assembled schema serves (fun _ i => i.Compiled schema) key i) :
    i.Compiled schema := by
  cases assembled with
  | converter =>
    intro type inOrder inside
    cases inside
  | sequence _ _ _ item =>
    intro type inOrder inside
    cases inside with
    | item inside => exact item type inOrder inside
  | explicit _ _ _ _ found bound =>
    refine Interpreter.compiled_candidates (List.forall_mem_singleton.mpr ?_) _
    exact bound.compiled (Descriptor.primary_mem found) Wrap.indifferent_ok
  | sum _ _ _ _ offered =>
    refine Interpreter.compiled_candidates ?_ _
    exact offered.forall_mem (fun _ => Wrap.Indifferent)
      (fun _ indifferent => Variant.indifferent_chain indifferent _ _)
      (fun member indifferent bound => bound.compiled member indifferent) Wrap.indifferent_ok

end

namespace Registry

variable {schema : Schema α} {r : Registry α}

/-- The account of a request: all that is kept and built is compiled. -/
def compiledAccount (schema : Schema α) (generation : Nat) : Account schema generation where
  session s := s.registry.Keeps fun _ => Interpreter.Compiled schema
  current _ := True
  serves _ _ := True
  part _ := Interpreter.Compiled schema
  perform := by
    intro s type r keeps _
    refine ⟨?_, id⟩
    unfold Session.perform
    split
    · exact keeps.register _ _
    · exact keeps
  live _ _ := trivial
  keep keeps _ _ assembled := keeps.keep assembled.compiled
  cached keeps _ found := keeps _ _ found
  served _ _ := trivial
  assembled assembled := assembled.compiled

theorem keeps_compiled (schema : Schema α) (ops : List (Operation α))
    (keeps : r.Keeps fun _ => Interpreter.Compiled schema) :
    (r.run schema ops).Keeps fun _ => Interpreter.Compiled schema := by
  induction ops generalizing r with
  | nil => exact keeps
  | cons op ops ih =>
    refine ih ?_
    cases op with
    | register type convert => exact keeps.register type convert
    | request names key =>
      exact ((compiledAccount schema _).request (s := ⟨names, r, []⟩) keeps key).1

/-- Whatever was registered and asked for before, each candidate is compiled from a pattern with as
many groups as it has parameters, counted by the highest index. Its matcher has the groups that the
expression of the pattern has kept, and these are as many if none is missing in between. Then every
parameter gets a value, so that nothing but the constructor's own step finds their number wrong,
and if the expression is legible, each group takes just what it takes in the expression itself. If
a group is missing, the construction always fails. -/
theorem candidate_groups (schema : Schema α) (scalars : Bool)
    (converters : List (TypeRef × Converter α)) (ops : List (Operation α)) (names : List String)
    (key : Key) (i : Interpreter α)
    (answered : (((create scalars converters).run schema ops).ask schema names key).1 = .ok i)
    (type : TypeRef) (inOrder : List (Candidate α))
    (inside : (Interpreter.candidates type inOrder).PartOf i)
    (pattern : String) (matcher : Pattern) (parameters : List (Interpreter α))
    (construct : List (Value α) → Except ConstructionFailure (Value α))
    (member : .mk pattern matcher parameters construct ∈ inOrder) :
    ∃ e, exprOf pattern = .ok e ∧ e.groupCount = parameters.length ∧
      matcher.groups = e.captures.length ∧
      (matcher.groups = parameters.length ↔ NumberedFrom 0 e.captures) ∧
      (NumberedFrom 0 e.captures → e.legible = true → ∀ input,
        matcher.groups? input =
          Pattern.groups? ⟨pattern, e.groupCount, (anchored e).program⟩ input) ∧
      ∃ declaring, ∃ c ∈ (schema.describe declaring).constructors, c.arity = parameters.length ∧
        ∀ input groups values, matcher.groups? input = some groups →
          Interpreter.interpretGroups parameters 0 groups = .ok values →
          values.length = matcher.groups ∧
          (NumberedFrom 0 e.captures → ∀ expected actual,
            construct values = .error (.arity expected actual) →
            c.make values = .error (.arity expected actual)) ∧
          (¬ NumberedFrom 0 e.captures →
            construct values = .error (.arity parameters.length matcher.groups)) := by
  have kept := keeps_compiled schema ops (keeps_create scalars converters)
  have compiled : i.Compiled schema :=
    ((compiledAccount schema _).request (s := ⟨names, _, []⟩) kept key).2 trivial i answered
  obtain ⟨declared, whole, arity, indifferent⟩ := compiled type inOrder inside _ member
  rename_i declaring wrap c
  obtain ⟨e, read, count, _⟩ := Pattern.whole_eq_ok whole
  have groups := Pattern.groups_whole whole read
  have gapless := Pattern.groupCount_eq_length_iff read
  have even : matcher.groups = parameters.length ↔ NumberedFrom 0 e.captures := by
    rw [groups, ← count, ← gapless, eq_comm]
  refine ⟨e, read, count, groups, even, fun numbered legible => ?_, declaring, c, declared, arity,
    fun input texts values matched taken => ?_⟩
  · exact Pattern.groups?_congr (Pattern.program_whole whole read numbered legible)
      ((even.mpr numbered).trans count.symm)
  · -- There are never more groups than parameters, so that every group gets a value.
    have length : values.length = matcher.groups := by
      have kept := Pattern.length_captures_le read
      rw [Interpreter.length_interpretGroups taken, Pattern.length_groups? matched]
      omega
    refine ⟨length, fun numbered expected actual failed => ?_, fun gap => ?_⟩
    · exact Constructor.make_eq_arity indifferent (by rw [length, even.mpr numbered, arity]) failed
    · have uneven : values.length ≠ c.arity := by
        rw [length, arity]
        exact mt even.mp gap
      rw [Constructor.chain_eq_arity uneven, length, arity]

/-- A span is two texts with a hyphen between them. -/
def spans : Schema Unit where
  declarations := [
    { name := "Span"
      descriptor := {
        pattern := some "(a*)-(b+)"
        constructor := some (.ofTypes [.scalar .text, .scalar .text] fun _ => .ok ()) } }]

theorem spans_make (declared : c ∈ (spans.describe type).constructors)
    (values : List (Value Unit)) : c.make values = .ok () := by
  rcases spans.describe_cases type with ⟨d, listed, -, same⟩ | ⟨_, -, same⟩ | same
  · obtain rfl : d = _ := List.mem_singleton.mp listed
    simp only [same, Descriptor.constructors, Option.toList, List.map_nil, List.append_nil,
      List.mem_singleton] at declared
    rw [declared]
    rfl
  · simp [same, Descriptor.constructors, Descriptor.ofSequence] at declared
  · simp [same, Descriptor.constructors, Descriptor.bare] at declared

/-- A span that was asked for in a list first is made of the texts of its pattern's two groups. -/
theorem spans_groups :
    ∃ type matcher parameters construct e,
      (((create true []).run spans [.request [] ⟨.list (.declared "Span"), none, some ";"⟩]).ask
        spans [] { type := .declared "Span" }).1 =
          .ok (.candidates type [.mk "(a*)-(b+)" matcher parameters construct]) ∧
      exprOf "(a*)-(b+)" = .ok e ∧
      (∀ input, matcher.groups? input =
        Pattern.groups? ⟨"(a*)-(b+)", 2, (anchored e).program⟩ input) ∧
      ∀ input groups values, matcher.groups? input = some groups →
        Interpreter.interpretGroups parameters 0 groups = .ok values →
        values.length = 2 ∧
        ∀ expected actual, construct values ≠ .error (.arity expected actual) := by
  generalize asked : (((create true []).run spans
    [.request [] ⟨.list (.declared "Span"), none, some ";"⟩]).ask spans []
      { type := .declared "Span" }).1 = answer
  have patterns : answer.toOption.map Interpreter.patterns = some ["(a*)-(b+)"] := by
    rw [← asked]
    cbv
  obtain ⟨i, built, listed⟩ := Option.map_eq_some_iff.mp patterns
  obtain rfl := toOption_eq_some.mp built
  cases i with
  | converter | sequence => simp [Interpreter.patterns] at listed
  | candidates type inOrder =>
    obtain ⟨⟨_, matcher, parameters, construct⟩, rfl, rfl⟩ :=
      List.map_eq_singleton_iff.mp listed
    obtain ⟨e, read, count, groups, even, same, declaring, c, declared, arity, made⟩ :=
      candidate_groups spans true [] _ [] _ _ asked type _ .self _ _ _ _
        (List.mem_singleton_self _)
    have known : (exprOf "(a*)-(b+)").toOption.map
        (fun e => (e.captures.map Prod.fst, e.legible)) = some ([1, 2], true) := by cbv
    obtain ⟨indices, legible⟩ : e.captures.map Prod.fst = [1, 2] ∧ e.legible = true := by
      simpa [read, Except.toOption] using known
    have length : e.captures.length = 2 := by simpa using congrArg List.length indices
    have numbered : NumberedFrom 0 e.captures := by
      rw [NumberedFrom, length, indices]
      rfl
    have two : e.groupCount = 2 := by rw [count, ← even.mpr numbered, groups, length]
    refine ⟨type, matcher, parameters, construct, e, rfl, read, two ▸ same numbered legible,
      fun input texts values matched taken => ?_⟩
    obtain ⟨total, refused, _⟩ := made input texts values matched taken
    refine ⟨total.trans (groups.trans length), fun expected actual failed => ?_⟩
    simpa [spans_make declared] using refused numbered expected actual failed

/-- A group that is repeated no times is lost with its number, and a question mark after a
repeated group makes the repetition reluctant where its text is read again: then the groups take
other texts than they take in the expression itself. -/
theorem groups_go_astray :
    (∃ m, whole "(a){0}(b)" 2 = .ok m ∧ m.groups = 1) ∧
    ∃ m e, whole "(?:(a)+)?(a*)" 2 = .ok m ∧ exprOf "(?:(a)+)?(a*)" = .ok e ∧
      m.groups? "aa" = some [some "a", some "a"] ∧
      Pattern.groups? ⟨"(?:(a)+)?(a*)", 2, (anchored e).program⟩ "aa" =
        some [some "a", some ""] := by
  obtain ⟨gapped, compiled⟩ : ∃ m, whole "(a){0}(b)" 2 = .ok m := exists_of_isOk (by cbv)
  have one : (whole "(a){0}(b)" 2).toOption.map Pattern.groups = some 1 := by cbv
  obtain ⟨m, again⟩ : ∃ m, whole "(?:(a)+)?(a*)" 2 = .ok m := exists_of_isOk (by cbv)
  have reluctant : (whole "(?:(a)+)?(a*)" 2).toOption.bind (·.groups? "aa") =
      some [some "a", some "a"] := by cbv
  obtain ⟨e, read⟩ : ∃ e, exprOf "(?:(a)+)?(a*)" = .ok e := exists_of_isOk (by cbv)
  have direct : (exprOf "(?:(a)+)?(a*)").toOption.bind (fun e =>
      Pattern.groups? ⟨"(?:(a)+)?(a*)", 2, (anchored e).program⟩ "aa") =
      some [some "a", some ""] := by cbv
  rw [compiled] at one
  rw [again] at reluctant
  rw [read] at direct
  exact ⟨⟨gapped, compiled, Option.some.inj one⟩, m, e, again, read, reluctant, direct⟩

end Registry

end Construe
