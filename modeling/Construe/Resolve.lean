import Construe.Registry

/-! # Building interpreters

A request is resolved by recursion over the types it leads to. Candidates come in the order of
declaration: a type's own binding, those of its variants, its alternates. Everything built on the
way is kept in the registry; asking for a descriptor may change the registry as well. A type that
leads back to itself is an error, found on the path of keys being built and of variants being
unfolded. -/
namespace Construe

/-- The separator of lists that are given none. -/
def defaultSeparator : String := ",\\s*"

/-- What a request does to registries: a converter is registered here, an interpreter is kept
here, or a registration is meant for another registry. -/
inductive Event (α : Type) where
  | registered (type : TypeRef) (convert : Converter α)
  | kept (key : Key) (built : Interpreter α)
  | passedOn (r : Registration α)

def Registry.apply (r : Registry α) : Event α → Registry α
  | .registered type convert => r.register type convert
  | .kept key built => r.keep key built
  | .passedOn _ => r

/-- The registry a request works on, with the names it goes by, and what the request has done so
far, in order. -/
structure Session (α : Type) where
  names : List String
  registry : Registry α
  journal : List (Event α)

namespace Session

def record (s : Session α) (e : Event α) : Session α :=
  { s with registry := s.registry.apply e, journal := s.journal ++ [e] }

def perform (s : Session α) (r : Registration α) : Session α :=
  s.record (if r.registry ∈ s.names then .registered r.type r.convert else .passedOn r)

/-- The registrations that are meant for other registries. -/
def elsewhere (s : Session α) : List (Registration α) :=
  s.journal.filterMap fun
    | .passedOn r => some r
    | _ => none

end Session

/-- What ends a build early: an error, or the end of the fuel. -/
inductive Stop where
  | failed (error : BuildError)
  | exhausted
deriving DecidableEq, Repr

/-- Building steps change the session whether they succeed or not. -/
abbrev Build (α : Type) := ExceptT Stop (StateM (Session α))

namespace Build

def fail [MonadExceptOf Stop m] (type : TypeRef) (kind : BuildErrorKind) : m β :=
  throw (.failed (.raised type kind))

/-- Errors of the step are found on the way through `outer`. -/
def within (outer : TypeRef) (step : Build α β) : Build α β :=
  ExceptT.mk do
    match ← step.run with
    | .error (.failed e) => return .error (.failed (e.within outer))
    | other => return other

def registry : Build α (Registry α) := do return (← get).registry

/-- A type's descriptor, after the registrations that come with asking for it. -/
def describe (schema : Schema α) (type : TypeRef) : Build α (Descriptor α) := do
  modify fun s => (schema.registrations type).foldl Session.perform s
  return schema.describe type

/-- Keeps a new interpreter, unless a converter has been registered since `generation` or the key
has an interpreter already. Gives the interpreter to use. -/
def keep (key : Key) (built : Interpreter α) (generation : Nat) : Build α (Interpreter α) := do
  let registry ← registry
  if registry.generation ≠ generation then return built
  else
    match registry.cached? key with
    | some kept => return kept
    | none =>
      modify (·.record (.kept key built))
      return built

def compileSeparator [Monad m] [MonadExceptOf Stop m] (type : TypeRef) (source : String) :
    m Pattern :=
  match Pattern.ofString source with
  | .ok p => return p
  | .error e => fail type (.invalidSeparator source e.message)

def compilePattern [Monad m] [MonadExceptOf Stop m] (type : TypeRef) (source : String)
    (arity : Nat) : m Pattern :=
  match Pattern.whole source arity with
  | .ok p => return p
  | .error (.invalid e) => fail type (.invalidPattern source e.message)
  | .error (.groupCount actual) => fail type (.arityMismatch source arity actual)

end Build

/-- Lifts a value to the types that lead to it through variants, innermost first. -/
abbrev Wrap (α : Type) := Value α → Except ConstructionFailure (Value α)

/-- The types on the path of a request: keys being built and types whose variants are being
unfolded, innermost first. -/
structure Path where
  building : List Key
  unfolding : List TypeRef

namespace Path

def start : Path := ⟨[], []⟩

def build (path : Path) (key : Key) : Path := { path with building := key :: path.building }

def unfold (path : Path) (type : TypeRef) : Path :=
  { path with unfolding := type :: path.unfolding }

end Path

/-- The name under which values of a type are made. Only declared types make any. -/
def TypeRef.ownName : TypeRef → String
  | .declared name => name
  | _ => ""

/-- Lifts a variant's value to the declaring type, and on by `wrap`. -/
def Variant.chain (v : Variant α) (type : TypeRef) (wrap : Wrap α) : Wrap α :=
  fun value => do wrap (← v.wrap type.ownName value)

/-- Makes a value of the declaring type of arguments, and lifts it by `wrap`. -/
def Constructor.chain (c : Constructor α) (type : TypeRef) (wrap : Wrap α)
    (values : List (Value α)) : Except ConstructionFailure (Value α) := do
  wrap (← c.construct type.ownName values)

open Build in
mutual

/-- The interpreter of a key: the one that is kept, or a new one. -/
def resolve (schema : Schema α) (generation : Nat) :
    (fuel : Nat) → Path → Key → Build α (Interpreter α)
  | 0, _, _ => throw .exhausted
  | fuel + 1, path, key => do
    match (← registry).cached? key with
    | some kept => return kept
    | none =>
      if key ∈ path.building then fail key.type (.cyclicType key.type)
      else
        let built ← resolveNew schema generation fuel (path.build key) key
        keep key built generation

/-- A new interpreter. A converter serves plain keys only. -/
def resolveNew (schema : Schema α) (generation : Nat) :
    (fuel : Nat) → Path → Key → Build α (Interpreter α)
  | 0, _, _ => throw .exhausted
  | fuel + 1, path, key => do
    match (← registry).converterFor? key with
    | some convert => return .converter key.type convert
    | none =>
      let descriptor ← describe schema key.type
      match descriptor.sequence, key.separator, key.pattern with
      | some sequence, separator, pattern =>
        let separator ← compileSeparator key.type (separator.getD defaultSeparator)
        let item ← within key.type <|
          resolve schema generation fuel path ⟨sequence.item, pattern, none⟩
        return .sequence key.type separator item sequence.collect
      | none, some separator, _ => fail key.type (.unexpectedSeparator key.type separator)
      | none, none, some pattern =>
        match descriptor.constructor with
        | none => fail key.type (.noConstructor key.type)
        | some constructor =>
          let candidate ←
            resolveBinding schema generation fuel path key.type ⟨pattern, constructor⟩ .ok
          return .candidates key.type [candidate]
      | none, none, none =>
        match ← unfold schema generation fuel path key.type descriptor .ok with
        | [] =>
          if descriptor.variants.isEmpty then fail key.type (.noBinding key.type)
          else fail key.type (.emptySumType key.type)
        | candidates => return .candidates key.type candidates

/-- The candidates of a type in the order of declaration, each followed by the lifting `wrap`. -/
def unfold (schema : Schema α) (generation : Nat) :
    (fuel : Nat) → Path → TypeRef → Descriptor α → Wrap α → Build α (List (Candidate α))
  | 0, _, _, _, _ => throw .exhausted
  | fuel + 1, path, type, descriptor, wrap => do
    if type ∈ path.unfolding then fail type (.cyclicType type)
    else if descriptor.lacksConstructor then fail type (.noConstructor type)
    else
      let own ← descriptor.ownBinding?.toList.mapM fun binding =>
        resolveBinding schema generation fuel path type binding wrap
      let variants ← descriptor.variants.mapM fun variant => do
        let variantDescriptor ← describe schema variant.type
        within type <| unfold schema generation fuel (path.unfold type) variant.type
          variantDescriptor (variant.chain type wrap)
      let alternates ← descriptor.alternates.mapM fun binding =>
        resolveBinding schema generation fuel path type binding wrap
      return own ++ variants.flatten ++ alternates

/-- A binding as a candidate. Options are checked first, then the pattern, then the parameters
from left to right. -/
def resolveBinding (schema : Schema α) (generation : Nat) :
    (fuel : Nat) → Path → TypeRef → Binding α → Wrap α → Build α (Candidate α)
  | 0, _, _, _, _ => throw .exhausted
  | fuel + 1, path, type, ⟨pattern, constructor⟩, wrap => do
    match constructor.unknownOptions with
    | index :: _ => fail type (.unknownParameter index constructor.arity)
    | [] =>
      let matcher ← compilePattern type pattern constructor.arity
      let parameters ← constructor.params.mapM fun p =>
        within type (resolve schema generation fuel path p.key)
      return .mk pattern matcher parameters (constructor.chain type wrap)

end

namespace Descriptor

/-- The parameters of all constructors. -/
def params (d : Descriptor α) : List Param :=
  d.constructor.elim [] Constructor.params ++ d.alternates.flatMap (·.constructor.params)

/-- The types a descriptor names. -/
def types (d : Descriptor α) : List TypeRef :=
  d.params.map Param.type ++ d.variants.map Variant.type ++ (d.sequence.map Sequence.item).toList

end Descriptor

/-- The types that a request for `type` can lead to. -/
def Schema.typesFrom (schema : Schema α) (type : TypeRef) : List TypeRef :=
  ((type :: schema.declarations.flatMap (·.descriptor.types)).flatMap TypeRef.layers)
    |>.eraseDups

/-- The patterns that parameters are given. -/
def Schema.patterns (schema : Schema α) : List String :=
  ((schema.declarations.flatMap (·.descriptor.params)).filterMap Param.pattern).eraseDups

/-- The separators that parameters are given. -/
def Schema.separators (schema : Schema α) : List String :=
  ((schema.declarations.flatMap (·.descriptor.params)).filterMap Param.separator).eraseDups

/-- The keys that a request can lead to, no more than this many. -/
def Schema.keyBound (schema : Schema α) (key : Key) : Nat :=
  (schema.typesFrom key.type).length * (schema.patterns.length + 2)
    * (schema.separators.length + 2)

/-- Each key on a path takes four steps at most and each unfolded variant one. -/
def Schema.fuel (schema : Schema α) (key : Key) : Nat :=
  4 * (schema.keyBound key + (schema.typesFrom key.type).length + 2)

/-- The end of a request. -/
def Key.settle (key : Key) : Except Stop β → Except BuildError β
  | .ok built => .ok built
  | .error (.failed e) => .error e
  | .error .exhausted => .error (.raised key.type (.cyclicType key.type))

/-- Answers a request in a session. -/
def Session.request (schema : Schema α) (key : Key) (s : Session α) :
    Except BuildError (Interpreter α) × Session α :=
  let (result, s) := ((resolve schema s.registry.generation (schema.fuel key) .start key).run).run s
  (key.settle result, s)

end Construe
