import Construe.Text.Quoted
import Construe.TypeRef

/-! # Errors

Building an interpreter and running one fail in different ways. A `BuildError` says what is wrong
with the declarations and through which types it was found; an `InterpretError` lists the
candidates that matched an input and were refused later. Types are named by a `Naming` when an
error is put into words. -/
namespace Construe

/-- Why a construction step refused its arguments. -/
inductive ConstructionFailure where
  | arity (expected actual : Nat)
  | missingArgument (index : Nat)
  | argumentType (index : Nat) (expected : TypeRef)
  | rejected (message : String)
deriving DecidableEq, Repr

def ConstructionFailure.message (names : Naming) : ConstructionFailure → String
  | .arity expected actual => s!"expected {expected} arguments, got {actual}"
  | .missingArgument index => s!"argument {index} is missing"
  | .argumentType index expected =>
    let expected := expected.name names
    s!"argument {index} is not a `{expected}`"
  | .rejected message => message

inductive BuildErrorKind where
  | noBinding (type : TypeRef)
  | emptySumType (type : TypeRef)
  | noConstructor (type : TypeRef)
  | arityMismatch (pattern : String) (expected actual : Nat)
  | invalidPattern (pattern : String) (detail : String)
  | invalidSeparator (separator : String) (detail : String)
  | unexpectedSeparator (type : TypeRef) (separator : String)
  | unknownParameter (index arity : Nat)
  | cyclicType (type : TypeRef)
deriving DecidableEq, Repr

def BuildErrorKind.message (names : Naming) : BuildErrorKind → String
  | .noBinding type =>
    let type := type.name names
    s!"no pattern binding or converter for `{type}`: declare a pattern, "
      ++ "an alternate builder or variants, or register a converter"
  | .emptySumType type =>
    let type := type.name names
    s!"no variant of sum type `{type}` declares a pattern binding"
  | .noConstructor type =>
    let type := type.name names
    s!"`{type}` has no constructor to bind a pattern to"
  | .arityMismatch pattern expected actual =>
    s!"pattern `{pattern}` has {actual} capture groups, "
      ++ s!"but its constructor takes {expected} parameters"
  | .invalidPattern pattern detail => s!"invalid pattern `{pattern}`: {detail}"
  | .invalidSeparator separator detail => s!"invalid separator `{separator}`: {detail}"
  | .unexpectedSeparator type separator =>
    let type := type.name names
    s!"separator `{separator}` given for `{type}`, which is not a list type"
  | .unknownParameter index arity =>
    s!"parameter option names index {index}, but the constructor takes {arity} parameters"
  | .cyclicType type =>
    let type := type.name names
    s!"`{type}` is reachable from itself"

/-- The chain holds the types being resolved, outermost first. -/
structure BuildError where
  chain : List TypeRef
  kind : BuildErrorKind
deriving DecidableEq, Repr

namespace BuildError

def raised (type : TypeRef) (kind : BuildErrorKind) : BuildError := ⟨[type], kind⟩

/-- The failure happened while a part of `outer` was resolved. -/
def within (e : BuildError) (outer : TypeRef) : BuildError := { e with chain := outer :: e.chain }

def target? (e : BuildError) : Option TypeRef := e.chain.head?

def message (names : Naming) (e : BuildError) : String :=
  let chain := String.intercalate " -> " (e.chain.map fun type => "`" ++ type.name names ++ "`")
  let kind := e.kind.message names
  s!"cannot build interpreter for {chain}: {kind}"

end BuildError

mutual

/-- Refused candidates stand in the order of trial. -/
inductive InterpretError where
  | mk (target : TypeRef) (input : String) (rejections : List Rejection)

/-- A candidate is named by its pattern. -/
inductive Rejection where
  | mk (candidate : String) (reason : Reason)

/-- Why a candidate that matched the input still failed. -/
inductive Reason where
  | parameter (index : Nat) (error : InterpretError)
  | unmatchedGroup (index : Nat)
  | construction (failure : ConstructionFailure)
  | converterDeclined
  | item (index : Nat) (error : InterpretError)
  | typeConfusion (expected : TypeRef)

end

def InterpretError.target : InterpretError → TypeRef
  | .mk target _ _ => target

def InterpretError.input : InterpretError → String
  | .mk _ input _ => input

def InterpretError.rejections : InterpretError → List Rejection
  | .mk _ _ rejections => rejections

def Rejection.candidate : Rejection → String
  | .mk candidate _ => candidate

def Rejection.reason : Rejection → Reason
  | .mk _ reason => reason

mutual

def InterpretError.message (names : Naming) : InterpretError → String
  | .mk target input rejections =>
    let input := Text.quote input
    let target := target.name names
    let details := match Rejection.messages names rejections with
      | [] => "no candidate matched"
      | details => String.intercalate "; " details
    s!"unable to interpret {input} as `{target}`: {details}"

def Rejection.messages (names : Naming) : List Rejection → List String
  | [] => []
  | rejection :: rejections => rejection.message names :: Rejection.messages names rejections

def Rejection.message (names : Naming) : Rejection → String
  | .mk candidate reason =>
    let reason := reason.message names
    s!"[{candidate}] {reason}"

def Reason.message (names : Naming) : Reason → String
  | .parameter index error =>
    let error := error.message names
    s!"parameter {index} rejected: {error}"
  | .unmatchedGroup index => s!"capture group {index} did not participate in the match"
  | .construction failure =>
    let failure := failure.message names
    s!"construction failed: {failure}"
  | .converterDeclined => "converter declined the input"
  | .item index error =>
    let error := error.message names
    s!"item {index} rejected: {error}"
  | .typeConfusion expected =>
    let expected := expected.name names
    s!"interpreted value is not a `{expected}`"

end

/-- Either way of failing. -/
inductive Failure where
  | build (error : BuildError)
  | interpret (error : InterpretError)

end Construe
