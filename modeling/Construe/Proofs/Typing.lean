import Mathlib
import Construe.Proofs.Outcome
import Construe.Proofs.History

/-! # Values are of the types that are asked for

Values pass between the steps of an interpretation without their types, and each step checks what
it is given. If the converters and the makers of lists keep to their types, these checks never
fail: not in the constructors, not in the liftings of variants, not in collecting the items of a
list, whatever was registered and asked for before, and in whatever order. -/
namespace Construe

/-- The converter reads nothing but values of the type. -/
def Converter.Typed (convert : Converter α) (type : TypeRef) : Prop :=
  ∀ input value, convert input = some value → value.HasType type

/-- Items of the right type are put together to a value of the declaring type. -/
def Sequence.Typed (s : Sequence α) (type : TypeRef) : Prop :=
  ∀ values, (∀ value ∈ values, value.HasType s.item) → (s.gather values).HasType type

/-- What the declarations bring along keeps to its types. -/
structure Declaration.Typed (d : Declaration α) : Prop where
  sequence : ∀ s, d.descriptor.sequence = some s → s.Typed (.declared d.name)
  onDescribe : ∀ r ∈ d.onDescribe, Converter.Typed r.convert r.type

def Schema.Typed (schema : Schema α) : Prop := ∀ d ∈ schema.declarations, d.Typed

def Operation.Typed : Operation α → Prop
  | .register type convert => Converter.Typed convert type
  | .request _ _ => True

theorem Scalar.typed_convert (kind : Scalar) :
    Converter.Typed (kind.convert : Converter α) (.scalar kind) := by
  intro input value read
  cases kind with
  | text =>
    cases read
    exact .text
  | bool | char | int | float =>
    obtain ⟨content, _, rfl⟩ := Option.map_eq_some_iff.mp read
    constructor

namespace Schema

theorem Typed.sequence {schema : Schema α} (typed : schema.Typed)
    (shape : (schema.describe type).sequence = some s) : s.Typed type := by
  rcases schema.describe_cases type with ⟨d, declared, rfl, eq⟩ | ⟨item, rfl, eq⟩ | eq
  · exact (typed d declared).sequence s (eq ▸ shape)
  · rw [eq] at shape
    cases shape
    exact fun values items => .list items
  · rw [eq] at shape
    contradiction

theorem Typed.registrations {schema : Schema α} (typed : schema.Typed)
    (member : r ∈ schema.registrations type) : Converter.Typed r.convert r.type := by
  obtain ⟨d, declared, listed⟩ := mem_registrations member
  exact (typed d declared).onDescribe r listed

end Schema

/-! ### Checks of types that hold -/

theorem checkTypes_eq_ok {types : List TypeRef} {values : List (Value α)}
    (typed : List.Forall₂ Value.HasType values types) (index : Nat) :
    checkTypes index types values = .ok () := by
  induction typed generalizing index with
  | nil => rfl
  | cons first _ ih => rw [checkTypes, if_pos first.type_eq, ih]

theorem takeArguments_eq_ok {types : List TypeRef} {values : List (Value α)}
    (typed : List.Forall₂ Value.HasType values types) :
    takeArguments types values = .ok values := by
  rw [takeArguments, if_neg (not_not.mpr typed.length_eq), checkTypes_eq_ok typed]
  rfl

theorem takeArguments_eq_arity {types : List TypeRef} {values : List (Value α)}
    (uneven : values.length ≠ types.length) :
    takeArguments types values = .error (.arity types.length values.length) := by
  rw [takeArguments, if_pos uneven]

theorem Sequence.collect_eq_ok {s : Sequence α} {values : List (Value α)}
    (typed : ∀ value ∈ values, value.HasType s.item) :
    s.collect values = .ok (s.gather values) := by
  have items : List.Forall₂ Value.HasType values (values.map fun _ => s.item) := by
    rw [List.forall₂_map_right_iff, List.forall₂_same]
    exact typed
  rw [Sequence.collect, checkTypes_eq_ok items]
  rfl

/-! ### Sound interpreters -/

def Descriptor.constructors (d : Descriptor α) : List (Constructor α) :=
  d.constructor.toList ++ d.alternates.map Binding.constructor

theorem Descriptor.primary_mem {d : Descriptor α} (found : d.constructor = some c) :
    c ∈ d.constructors :=
  List.mem_append_left _ (Option.mem_toList.mpr found)

theorem Descriptor.own_mem {d : Descriptor α} (member : b ∈ d.ownBinding?.toList) :
    b.constructor ∈ d.constructors :=
  primary_mem (constructor_of_ownBinding? (Option.mem_toList.mp member))

theorem Descriptor.alternate_mem {d : Descriptor α} (member : b ∈ d.alternates) :
    b.constructor ∈ d.constructors :=
  List.mem_append_right _ (List.mem_map_of_mem member)

theorem Schema.declared_of_constructor {schema : Schema α}
    (member : c ∈ (schema.describe type).constructors) : .declared type.ownName = type := by
  rcases schema.declared_or_plain type with declared | ⟨bare, _, single⟩
  · exact declared
  · simp [Descriptor.constructors, bare, single] at member

theorem Schema.declared_of_variant {schema : Schema α}
    (member : v ∈ (schema.describe type).variants) : .declared type.ownName = type := by
  rcases schema.declared_or_plain type with declared | ⟨_, childless, _⟩
  · exact declared
  · simp [childless] at member

/-- The values are of the given types, unless there are too few or too many of them. -/
def Fill (types : List TypeRef) (values : List (Value α)) : Prop :=
  values.length ≠ types.length ∨ List.Forall₂ Value.HasType values types

/-- What may come of a construction: the number of arguments is wrong, the constructor's own step
refuses them, or it takes them and the result is a value of the target. -/
inductive Constructor.Yields (c : Constructor α) (target : TypeRef) (values : List (Value α)) :
    Except ConstructionFailure (Value α) → Prop where
  | arity : values.length ≠ c.arity → c.Yields target values (.error (.arity c.arity values.length))
  | refused {failure : ConstructionFailure} :
      List.Forall₂ Value.HasType values (c.params.map Param.type) →
      c.make values = .error failure → c.Yields target values (.error failure)
  | made {payload : α} {value : Value α} :
      List.Forall₂ Value.HasType values (c.params.map Param.type) →
      c.make values = .ok payload → value.HasType target → c.Yields target values (.ok value)

theorem Constructor.chain_eq_arity {c : Constructor α} {values : List (Value α)}
    (uneven : values.length ≠ c.arity) (type : TypeRef) (wrap : Wrap α) :
    c.chain type wrap values = .error (.arity c.arity values.length) := by
  have uneven : values.length ≠ (c.params.map Param.type).length := by simpa [arity] using uneven
  simp [chain, construct, takeArguments_eq_arity uneven, bind, Except.bind, arity]

theorem Constructor.yields_chain {c : Constructor α} {wrap : Wrap α}
    (lifts : wrap.Lifts type root) (declared : .declared type.ownName = type)
    (fill : Fill (c.params.map Param.type) values) :
    c.Yields root values (c.chain type wrap values) := by
  rcases fill with uneven | typed
  · have uneven : values.length ≠ c.arity := by simpa [arity] using uneven
    rw [chain_eq_arity uneven]
    exact .arity uneven
  · have taken := takeArguments_eq_ok typed
    cases made : c.make values with
    | error failure =>
      have refused : c.chain type wrap values = .error failure := by
        simp [chain, construct, taken, made, bind, Except.bind]
      rw [refused]
      exact .refused typed made
    | ok payload =>
      obtain ⟨lifted, done, final⟩ := lifts (.made type.ownName payload) (declared ▸ .made)
      have built : c.chain type wrap values = .ok lifted := by
        simpa [chain, construct, taken, made, bind, Except.bind, pure, Except.pure] using done
      rw [built]
      exact .made typed made final

def Candidate.parameters : Candidate α → List (Interpreter α)
  | .mk _ _ parameters _ => parameters

/-- The candidate constructs by one of the declared constructors, for which its parameters are. -/
def Candidate.Fits (schema : Schema α) (target : TypeRef) : Candidate α → Prop
  | .mk _ _ parameters construct => ∃ type, ∃ c ∈ (schema.describe type).constructors,
      parameters.map Interpreter.target = c.params.map Param.type ∧
      ∀ values, Fill (c.params.map Param.type) values → c.Yields target values (construct values)

/-- An interpreter whose steps, and those of its parts, keep to their types. -/
inductive Interpreter.Sound (schema : Schema α) : Interpreter α → Prop where
  | converter {type : TypeRef} :
      Converter.Typed convert type → Sound schema (.converter type convert)
  | sequence {type : TypeRef} : item.Sound schema →
      (∀ values, (∀ value ∈ values, value.HasType item.target) →
        ∃ value, collect values = .ok value ∧ value.HasType type) →
      Sound schema (.sequence type separator item collect)
  | candidates {type : TypeRef} :
      (∀ candidate ∈ inOrder, ∀ parameter ∈ candidate.parameters, parameter.Sound schema) →
      (∀ candidate ∈ inOrder, candidate.Fits schema type) →
      Sound schema (.candidates type inOrder)

/-! ### What sound interpreters answer -/

mutual

/-- An error all of whose reasons have a cause outside of the engine. -/
inductive InterpretError.Justified (schema : Schema α) : InterpretError → Prop where
  | mk : (∀ rejection ∈ rejections, rejection.reason.Justified schema) →
      InterpretError.Justified schema (.mk target input rejections)

/-- A type is never mistaken for another. A construction fails for the number of its arguments, or
because a declared constructor was given what it takes and refused it. -/
inductive Reason.Justified (schema : Schema α) : Reason → Prop where
  | parameter : error.Justified schema → Reason.Justified schema (.parameter index error)
  | unmatchedGroup : Reason.Justified schema (.unmatchedGroup index)
  | arity : Reason.Justified schema (.construction (.arity expected actual))
  | refused {c : Constructor α} {failure : ConstructionFailure} :
      c ∈ (schema.describe type).constructors →
      List.Forall₂ Value.HasType values (c.params.map Param.type) →
      c.make values = .error failure → Reason.Justified schema (.construction failure)
  | converterDeclined : Reason.Justified schema .converterDeclined
  | item : error.Justified schema → Reason.Justified schema (.item index error)

end

/-- A result is good, or an error of the given kind. -/
def Delivers (good : β → Prop) (bad : ε → Prop) : Except ε β → Prop
  | .ok b => good b
  | .error e => bad e

theorem Delivers.mapError {bad' : ε' → Prop} {f : ε → ε'} {result : Except ε β}
    (delivers : Delivers good bad result) (worse : ∀ e, bad e → bad' (f e)) :
    Delivers good bad' (result.mapError f) := by
  cases result with
  | error e => exact worse e delivers
  | ok => exact delivers

theorem Delivers.bind {result : Except ε β} {next : β → Except ε γ} {better : γ → Prop}
    (delivers : Delivers good bad result) (step : ∀ b, good b → Delivers better bad (next b)) :
    Delivers better bad (result >>= next) := by
  cases result with
  | error => exact delivers
  | ok b => exact step b delivers

/-- The interpreter gives values of its type, and justified errors. -/
def Interpreter.Answers (schema : Schema α) (i : Interpreter α) : Prop :=
  ∀ input, Delivers (·.HasType i.target) (·.Justified schema) (i.interpret input)

namespace Interpreter

variable {schema : Schema α}

theorem Answers.items {item : Interpreter α} (answers : item.Answers schema) (pieces : List String)
    (index : Nat) :
    Delivers (fun values => ∀ value ∈ values, value.HasType item.target) (·.Justified schema)
      (interpretItems item.interpret index pieces) := by
  induction pieces generalizing index with
  | nil => exact fun value member => by simp at member
  | cons piece pieces ih =>
    have first := answers piece
    rw [interpretItems]
    cases read : item.interpret piece with
    | error e =>
      rw [read] at first
      exact .item first
    | ok value =>
      rw [read] at first
      exact (ih (index + 1)).bind fun values others => List.forall_mem_cons.mpr ⟨first, others⟩

/-- Each value is of the type of its parameter; some may be missing at the end. -/
theorem interpretGroups_delivers {parameters : List (Interpreter α)}
    (answers : ∀ parameter ∈ parameters, parameter.Answers schema) (index : Nat)
    (groups : List (Option String)) :
    Delivers (Fill (parameters.map target)) (·.Justified schema)
      (interpretGroups parameters index groups) := by
  induction parameters generalizing index groups with
  | nil =>
    rw [interpretGroups_nil]
    exact .inr .nil
  | cons parameter parameters ih =>
    obtain ⟨one, others⟩ := List.forall_mem_cons.mp answers
    rcases groups with _ | ⟨_ | group, groups⟩
    · rw [interpretGroups_groups_nil]
      exact .inl (by simp)
    · rw [interpretGroups]
      exact .unmatchedGroup
    · have first := one group
      rw [interpretGroups]
      cases read : parameter.interpret group with
      | error e =>
        rw [read] at first
        exact .parameter first
      | ok value =>
        rw [read] at first
        refine (ih others (index + 1) groups).bind fun values fill => ?_
        rcases fill with uneven | typed
        · exact .inl (by simpa using uneven)
        · exact .inr (.cons first typed)

/-- What becomes of a candidate: a value of the type, or a justified rejection. -/
def Allows (schema : Schema α) (type : TypeRef) : Attempt α → Prop
  | .noMatch => True
  | .rejected reason => reason.Justified schema
  | .built value => value.HasType type

theorem attempt_allowed {candidate : Candidate α} (fits : candidate.Fits schema type)
    (answers : ∀ parameter ∈ candidate.parameters, parameter.Answers schema) (input : String) :
    Allows schema type (attempt candidate input) := by
  obtain ⟨pattern, matcher, parameters, construct⟩ := candidate
  obtain ⟨declaring, c, declared, targets, yields⟩ := fits
  rw [attempt]
  cases matcher.groups? input with
  | none => trivial
  | some groups =>
    have delivers : Delivers _ _ (interpretGroups parameters 0 groups) :=
      interpretGroups_delivers answers 0 groups
    dsimp only
    cases read : interpretGroups parameters 0 groups with
    | error reason =>
      rw [read] at delivers
      exact delivers
    | ok values =>
      rw [read] at delivers
      have fill : Fill (parameters.map target) values := delivers
      have outcome := yields values (targets ▸ fill)
      dsimp only
      cases done : construct values with
      | error failure =>
        rw [done] at outcome
        cases outcome with
        | arity => exact .arity
        | refused typed refused => exact .refused declared typed refused
      | ok value =>
        rw [done] at outcome
        cases outcome with
        | made _ _ final => exact final

theorem firstSuccess_delivers {inOrder : List (Candidate α)} {input : String}
    (allowed : ∀ candidate ∈ inOrder, Allows schema type (attempt candidate input)) :
    Delivers (·.HasType type) (fun rejections => ∀ r ∈ rejections, r.reason.Justified schema)
      (firstSuccess inOrder input) := by
  induction inOrder with
  | nil =>
    rw [firstSuccess]
    exact fun r member => by simp at member
  | cons candidate inOrder ih =>
    obtain ⟨one, others⟩ := List.forall_mem_cons.mp allowed
    rw [firstSuccess]
    cases tried : attempt candidate input with
    | noMatch => exact ih others
    | rejected reason =>
      rw [tried] at one
      exact (ih others).mapError fun rejections justified =>
        List.forall_mem_cons.mpr ⟨one, justified⟩
    | built value =>
      rw [tried] at one
      exact one

theorem Sound.answers {i : Interpreter α} (sound : i.Sound schema) : i.Answers schema := by
  intro input
  induction sound generalizing input with
  | @converter convert type typed =>
    rw [interpret]
    cases read : convert input with
    | none => exact .mk (by simpa [Rejection.reason] using .converterDeclined)
    | some value => exact typed input value read
  | sequence _ collects ih =>
    rw [interpret]
    refine Delivers.mapError ((Answers.items ih _ 0).bind fun values typed => ?_)
      fun reason justified => .mk (by simpa [Rejection.reason] using justified)
    obtain ⟨value, done, final⟩ := collects values typed
    rw [done]
    exact final
  | candidates _ fits ih =>
    rw [interpret]
    refine (firstSuccess_delivers fun candidate member => ?_).mapError fun _ justified =>
      .mk justified
    exact attempt_allowed (fits candidate member) (ih candidate member) input

/-- An interpreter is put together from others, directly or through its parts. -/
inductive PartOf : Interpreter α → Interpreter α → Prop where
  | self : PartOf i i
  | item : PartOf part item → PartOf part (.sequence type separator item collect)
  | parameter : candidate ∈ inOrder → parameter ∈ candidate.parameters → PartOf part parameter →
      PartOf part (.candidates type inOrder)

/-- No check of types fails in the interpreter's own steps: items that were read are collected, and
the values of groups are refused by nothing but the constructor's own step, if they are as many as
it takes. -/
def Faultless (schema : Schema α) : Interpreter α → Prop
  | .converter type convert => Converter.Typed convert type
  | .sequence type separator item collect => ∀ input values,
      interpretItems item.interpret 0 (separator.split input) = .ok values →
      ∃ value, collect values = .ok value ∧ value.HasType type
  | .candidates type inOrder => ∀ pattern matcher parameters construct,
      .mk pattern matcher parameters construct ∈ inOrder →
      ∃ declaring, ∃ c ∈ (schema.describe declaring).constructors, ∀ input groups values,
        matcher.groups? input = some groups → interpretGroups parameters 0 groups = .ok values →
        c.Yields type values (construct values)

theorem Sound.faultless {i : Interpreter α} (sound : i.Sound schema) : i.Faultless schema := by
  cases sound with
  | converter typed => exact typed
  | sequence item collects =>
    intro input values read
    have delivers : Delivers _ _ (.ok values) := read ▸ item.answers.items _ 0
    exact collects values delivers
  | candidates parameters fits =>
    intro pattern matcher parts construct member
    obtain ⟨declaring, c, declared, targets, yields⟩ := fits _ member
    refine ⟨declaring, c, declared, fun input groups values _ read => ?_⟩
    have answers : ∀ p ∈ parts, p.Answers schema := fun p inside =>
      (parameters _ member p inside).answers
    have fill : Delivers _ _ (.ok values) := read ▸ interpretGroups_delivers answers 0 groups
    exact yields values (targets ▸ fill)

theorem Sound.part {i part : Interpreter α} (sound : i.Sound schema) (inside : part.PartOf i) :
    part.Sound schema := by
  induction inside with
  | self => exact sound
  | item _ ih =>
    cases sound with
    | sequence item => exact ih item
  | parameter member parameter _ ih =>
    cases sound with
    | candidates parameters => exact ih (parameters _ member _ parameter)

end Interpreter

/-! ### Sound registries -/

/-- A sound interpreter for the type of the key. -/
def Interpreter.Suits (schema : Schema α) (key : Key) (i : Interpreter α) : Prop :=
  i.target = key.type ∧ i.Sound schema

/-- A candidate with sound parameters, which fit its construction. -/
def Candidate.Sound (schema : Schema α) (target : TypeRef) (candidate : Candidate α) : Prop :=
  (∀ parameter ∈ candidate.parameters, parameter.Sound schema) ∧ candidate.Fits schema target

section

variable {schema : Schema α}

theorem Interpreter.targets_eq {params : List Param} {parameters : List (Interpreter α)}
    (resolved : List.Forall₂ (fun p i => Suits schema (Param.key p) i) params parameters) :
    parameters.map target = params.map Param.type := by
  induction resolved with
  | nil => rfl
  | cons first _ ih => rw [List.map_cons, List.map_cons, first.1, ih, Param.key]

theorem Bound.sound (bound : Bound (Interpreter.Suits schema) type wrap b candidate)
    (member : b.constructor ∈ (schema.describe type).constructors)
    (lifts : wrap.Lifts type root) : candidate.Sound schema root := by
  obtain ⟨_, resolved⟩ := bound
  constructor
  · intro parameter inside
    obtain ⟨p, _, suits⟩ := Build.mem_left_of_forall₂ resolved.flip inside
    exact suits.2
  · have declared := Schema.declared_of_constructor member
    exact ⟨type, _, member, Interpreter.targets_eq resolved, fun values fill =>
      Constructor.yields_chain lifts declared fill⟩

/-- Every candidate of a type is bound to one of the declared constructors, followed by a lifting
that comes of the type's own through variants. -/
theorem Offered.forall_mem {part : Key → Interpreter α → Prop} {good : Candidate α → Prop}
    (fair : TypeRef → Wrap α → Prop)
    (step : ∀ {type wrap} {v : Variant α}, v ∈ (schema.describe type).variants →
      fair type wrap → fair v.type (v.chain type wrap))
    (bound : ∀ {type wrap b candidate}, b.constructor ∈ (schema.describe type).constructors →
      fair type wrap → Bound part type wrap b candidate → good candidate)
    (offered : Offered schema part type wrap candidates) (start : fair type wrap) :
    ∀ candidate ∈ candidates, good candidate := by
  induction offered with
  | @intro type wrap own inner alternates first aligned _ last ih =>
    intro candidate member
    simp only [List.mem_append, List.mem_flatten] at member
    rcases member with (own | ⟨candidates, inside, member⟩) | alternate
    · obtain ⟨b, found, made⟩ := Build.mem_left_of_forall₂ first.flip own
      exact bound (Descriptor.own_mem found) start made
    · have variants := List.forall₂_iff_zip.mpr ⟨aligned, fun {v cs} => ih (v, cs)⟩
      obtain ⟨v, found, each⟩ := Build.mem_left_of_forall₂ variants.flip inside
      exact each (step found start) candidate member
    · obtain ⟨b, found, made⟩ := Build.mem_left_of_forall₂ last.flip alternate
      exact bound (Descriptor.alternate_mem found) start made

theorem Offered.sound (offered : Offered schema (Interpreter.Suits schema) type wrap candidates)
    (lifts : wrap.Lifts type root) : ∀ candidate ∈ candidates, candidate.Sound schema root := by
  refine offered.forall_mem (fun type wrap => wrap.Lifts type root) (fun member lifts => ?_)
    (fun member lifts bound => ?_) lifts
  · exact Variant.lifts_chain lifts (Schema.declared_of_variant member) _
  · exact bound.sound member lifts

/-- What is put together from sound parts is sound. -/
theorem Assembled.suits (typed : schema.Typed)
    (assembled : Assembled schema (fun k found => ∀ convert ∈ found, Converter.Typed convert k.type)
      (Interpreter.Suits schema) key i) : i.Suits schema key := by
  refine ⟨assembled.target, ?_⟩
  cases assembled with
  | converter found => exact .converter (found _ rfl)
  | sequence _ shape _ item =>
    refine .sequence item.2 fun values typedItems => ?_
    have items := item.1 ▸ typedItems
    exact ⟨_, Sequence.collect_eq_ok items, typed.sequence shape values items⟩
  | explicit _ _ _ _ found bound =>
    have sound := bound.sound (Descriptor.primary_mem found) (Wrap.lifts_ok _)
    exact .candidates (List.forall_mem_singleton.mpr sound.1)
      (List.forall_mem_singleton.mpr sound.2)
  | sum _ _ _ _ offered =>
    have each := offered.sound (Wrap.lifts_ok _)
    exact .candidates (fun c member => (each c member).1) fun c member => (each c member).2

end

namespace Registry

variable {schema : Schema α} {r : Registry α}

/-- The converters keep to their types and the interpreters that are kept are sound. -/
structure Sound (schema : Schema α) (r : Registry α) : Prop where
  converters : ∀ type convert, r.converter? type = some convert → Converter.Typed convert type
  kept : r.Keeps (Interpreter.Suits schema)

theorem Sound.register (sound : r.Sound schema) (typed : Converter.Typed convert type) :
    (r.register type convert).Sound schema where
  converters := by
    intro t other found
    rw [converter?_register] at found
    split at found
    · rename_i same
      cases found
      exact same ▸ typed
    · exact sound.converters t other found
  kept := sound.kept.register _ _

theorem Sound.keep (sound : r.Sound schema) (built : i.Suits schema key) :
    (r.keep key i).Sound schema := ⟨sound.converters, sound.kept.keep built⟩

/-- The account of a request: the registry stays sound, and so is all that is built. -/
def soundAccount (typed : schema.Typed) (generation : Nat) : Account schema generation where
  session s := s.registry.Sound schema
  current _ := True
  serves k found := ∀ convert ∈ found, Converter.Typed convert k.type
  part := Interpreter.Suits schema
  perform := by
    intro s type r sound member
    refine ⟨?_, id⟩
    unfold Session.perform
    split
    · exact sound.register (typed.registrations member)
    · exact sound
  live _ _ := trivial
  keep sound _ _ assembled := sound.keep (assembled.suits typed)
  cached sound _ found := sound.kept _ _ found
  served sound _ := fun convert found =>
    sound.converters _ convert (converterFor?_eq_some.mp found).2
  assembled assembled := assembled.suits typed

theorem Sound.perform (typed : schema.Typed) (sound : r.Sound schema) (keeps : op.Typed) :
    (r.perform schema op).Sound schema := by
  cases op with
  | register type convert => exact sound.register keeps
  | request names key => exact ((soundAccount typed _).request (s := ⟨names, r, []⟩) sound key).1

theorem Sound.run (typed : schema.Typed) (ops : List (Operation α)) (keeps : ∀ op ∈ ops, op.Typed)
    (sound : r.Sound schema) : (r.run schema ops).Sound schema := by
  induction ops generalizing r with
  | nil => exact sound
  | cons op ops ih =>
    obtain ⟨first, others⟩ := List.forall_mem_cons.mp keeps
    exact ih others (sound.perform typed first)

theorem sound_create (scalars : Bool) (converters : List (TypeRef × Converter α))
    (keeps : ∀ c ∈ converters, Converter.Typed c.2 c.1) :
    (create scalars converters).Sound schema where
  converters := by
    have folded (cs : List (TypeRef × Converter α)) (keeps : ∀ c ∈ cs, Converter.Typed c.2 c.1)
        (r : Registry α)
        (before : ∀ type convert, r.converter? type = some convert → Converter.Typed convert type) :
        ∀ type convert, (cs.foldl (fun r c => r.setConverter c.1 c.2) r).converter? type =
          some convert → Converter.Typed convert type := by
      induction cs generalizing r with
      | nil => exact before
      | cons c cs ih =>
        obtain ⟨first, others⟩ := List.forall_mem_cons.mp keeps
        refine ih others _ fun type convert found => ?_
        rw [converter?_setConverter] at found
        split at found
        · rename_i same
          cases found
          exact same ▸ first
        · exact before type convert found
    refine folded _ ?_ empty fun type convert found => by simp [empty, converter?] at found
    intro c member
    rcases List.mem_append.mp member with seeded | given
    · cases scalars with
      | false => simp [seeds] at seeded
      | true =>
        obtain ⟨kind, _, rfl⟩ := List.mem_map.mp seeded
        exact kind.typed_convert
    · exact keeps c given
  kept := keeps_create scalars converters

/-- Whatever was registered and asked for before, an interpreter that is built gives values of the
type it was asked for, so that the check of its results never fails. In none of its parts does a
check of types fail, and every error it gives has a cause outside of the engine. -/
theorem interpret_type_sound (typed : schema.Typed) (scalars : Bool)
    (converters : List (TypeRef × Converter α)) (keeps : ∀ c ∈ converters, Converter.Typed c.2 c.1)
    (ops : List (Operation α)) (opsKeep : ∀ op ∈ ops, op.Typed) (names : List String) (key : Key)
    (i : Interpreter α)
    (answered : (((create scalars converters).run schema ops).ask schema names key).1 = .ok i) :
    i.target = key.type ∧
    (∀ input value, i.interpret input = .ok value → value.HasType key.type) ∧
    (∀ input, i.run input = i.interpret input) ∧
    (∀ part : Interpreter α, part.PartOf i → part.Faultless schema) ∧
    ∀ input e, i.interpret input = .error e → e.Justified schema := by
  have registry : ((create scalars converters).run schema ops).Sound schema :=
    (sound_create scalars converters keeps).run typed ops opsKeep
  obtain ⟨target, sound⟩ := ((soundAccount typed _).request (s := ⟨names, _, []⟩) registry key).2
    trivial i answered
  have values (input : String) (value : Value α) (read : i.interpret input = .ok value) :
      value.HasType i.target := by
    have delivers := sound.answers input
    rwa [read] at delivers
  refine ⟨target, target ▸ values, ?_, fun part inside => (sound.part inside).faultless, ?_⟩
  · intro input
    rw [Interpreter.run]
    cases read : i.interpret input with
    | error => rfl
    | ok value => exact if_pos (values input value read).type_eq
  · intro input e read
    have delivers := sound.answers input
    rwa [read] at delivers

/-- A panel is a switch. Asking for a switch makes booleans readable. -/
def panels : Schema Unit where
  declarations := [
    { name := "Switch"
      descriptor := { pattern := some "s", constructor := some (.ofTypes [] fun _ => .ok ()) }
      onDescribe := [⟨"main", .scalar .bool, Scalar.bool.convert⟩] },
    { name := "Panel", descriptor := { variants := [⟨.declared "Switch", fun _ => ()⟩] } }]

theorem panels_typed : panels.Typed := by
  intro d member
  simp only [panels, List.mem_cons, List.not_mem_nil, or_false] at member
  rcases member with rfl | rfl
  · exact ⟨by simp, by simpa using Scalar.typed_convert .bool⟩
  · exact ⟨by simp, by simp⟩

/-- A list of panels is built while booleans become readable. -/
theorem panels_type_sound :
    ∃ i, (((create false []).run panels [.register (.scalar .char) Scalar.char.convert]).ask panels
        ["main"] ⟨.list (.declared "Panel"), none, some ";"⟩).1 = .ok i ∧
      i.target = .list (.declared "Panel") ∧
      (∀ input value, i.interpret input = .ok value → value.HasType (.list (.declared "Panel"))) ∧
      (∀ input, i.run input = i.interpret input) ∧
      (∀ part : Interpreter Unit, part.PartOf i → part.Faultless panels) ∧
      ∀ input e, i.interpret input = .error e → e.Justified panels := by
  obtain ⟨i, answered⟩ : ∃ i, (((create false []).run panels
      [.register (.scalar .char) Scalar.char.convert]).ask panels ["main"]
        ⟨.list (.declared "Panel"), none, some ";"⟩).1 = .ok i := exists_of_isOk (by cbv)
  exact ⟨i, answered, interpret_type_sound panels_typed false [] (by simp) _
    (by simpa [Operation.Typed] using Scalar.typed_convert .char) _ _ i answered⟩

end Registry

end Construe
