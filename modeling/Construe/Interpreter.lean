import Construe.Descriptor

/-! # Interpreters

An interpreter turns texts into values of one type: by trying candidates in order, by a
converter, or by splitting the text into items. A candidate is a pattern for whole texts with an
interpreter for each capture group and the step that puts their values together. -/
namespace Construe

mutual

inductive Interpreter (α : Type) where
  | candidates (target : TypeRef) (inOrder : List (Candidate α))
  | converter (target : TypeRef) (convert : Converter α)
  | sequence (target : TypeRef) (separator : Pattern) (item : Interpreter α)
      (collect : List (Value α) → Except ConstructionFailure (Value α))

/-- `pattern` is the declared text, `matcher` what matches whole texts with it. -/
inductive Candidate (α : Type) where
  | mk (pattern : String) (matcher : Pattern) (parameters : List (Interpreter α))
      (construct : List (Value α) → Except ConstructionFailure (Value α))

end

def Candidate.pattern : Candidate α → String
  | .mk pattern _ _ _ => pattern

/-- What becomes of one candidate on one input. -/
inductive Attempt (α : Type) where
  | noMatch
  | rejected (reason : Reason)
  | built (value : Value α)

/-- Interprets pieces in order, up to the first that is refused. -/
def interpretItems (run : String → Except InterpretError (Value α)) :
    (index : Nat) → List String → Except Reason (List (Value α))
  | _, [] => .ok []
  | index, piece :: pieces =>
    match run piece with
    | .error e => .error (.item index e)
    | .ok value => do return value :: (← interpretItems run (index + 1) pieces)

namespace Interpreter

def target : Interpreter α → TypeRef
  | .candidates target _ | .converter target _ | .sequence target _ _ _ => target

/-- Patterns in the order of trial; there are none but for candidates. -/
def patterns : Interpreter α → List String
  | .candidates _ inOrder => inOrder.map Candidate.pattern
  | _ => []

def converterLabel : String := "<converter>"

def resultLabel : String := "<result>"

def itemsLabel (separator : String) : String := s!"items separated by `{separator}`"

mutual

/-- The value of a text, or why there is none. -/
def interpret : Interpreter α → String → Except InterpretError (Value α)
  | .candidates target inOrder, input =>
    (firstSuccess inOrder input).mapError fun rejections => .mk target input rejections
  | .converter target convert, input =>
    match convert input with
    | some value => .ok value
    | none => .error (.mk target input [.mk converterLabel .converterDeclined])
  | .sequence target separator item collect, input =>
    let result := do
      let values ← interpretItems item.interpret 0 (separator.split input)
      (collect values).mapError .construction
    result.mapError fun reason =>
      .mk target input [.mk (itemsLabel separator.source) reason]

/-- The value of the first candidate that succeeds, or the rejections of all that matched. -/
def firstSuccess : List (Candidate α) → String → Except (List Rejection) (Value α)
  | [], _ => .error []
  | candidate :: rest, input =>
    match attempt candidate input with
    | .built value => .ok value
    | .noMatch => firstSuccess rest input
    | .rejected reason =>
      (firstSuccess rest input).mapError (.mk candidate.pattern reason :: ·)

/-- Matches, interprets every group, then constructs. -/
def attempt : Candidate α → String → Attempt α
  | .mk _ matcher parameters construct, input =>
    match matcher.groups? input with
    | none => .noMatch
    | some groups =>
      match interpretGroups parameters 0 groups with
      | .error reason => .rejected reason
      | .ok values =>
        match construct values with
        | .ok value => .built value
        | .error failure => .rejected (.construction failure)

/-- Interprets capture groups in order, up to the first that took no part or is refused. -/
def interpretGroups : List (Interpreter α) → (index : Nat) → List (Option String) →
    Except Reason (List (Value α))
  | _ :: _, index, none :: _ => .error (.unmatchedGroup index)
  | parameter :: parameters, index, some group :: groups =>
    match parameter.interpret group with
    | .error e => .error (.parameter index e)
    | .ok value => do return value :: (← interpretGroups parameters (index + 1) groups)
  | _, _, _ => .ok []

end

/-- The value of a text, which has to be of the interpreter's own type. -/
def run (i : Interpreter α) (input : String) : Except InterpretError (Value α) := do
  let value ← i.interpret input
  if value.type = i.target then return value
  else .error (.mk i.target input [.mk resultLabel (.typeConfusion i.target)])

/-- The values of several texts, up to the first that is refused. -/
def runAll (i : Interpreter α) (inputs : List String) : Except InterpretError (List (Value α)) :=
  inputs.mapM i.run

/-- A short account for display. -/
def summary (names : Naming) (i : Interpreter α) : String :=
  let target := i.target.name names
  let body := match i with
    | .candidates _ inOrder =>
      let count := inOrder.length
      s!"{count} candidates"
    | .converter _ _ => "converter"
    | .sequence _ _ item _ => "list of " ++ item.target.name names
  s!"Interpreter({target}: {body})"

end Interpreter

/-- Inputs that wait to be interpreted one by one. -/
structure Pending (α : Type) where
  interpreter : Interpreter α
  inputs : List String

/-- The result for the next input, if there is one. -/
def Pending.next? (p : Pending α) : Option (Except InterpretError (Value α) × Pending α) :=
  match p.inputs with
  | [] => none
  | input :: inputs => some (p.interpreter.run input, { p with inputs })

end Construe
