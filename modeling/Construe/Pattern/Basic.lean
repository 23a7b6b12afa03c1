import Construe.Pattern.Reader
import Construe.Pattern.Meaning
import Construe.Pattern.Render
import Construe.Pattern.Footprint
import Construe.Pattern.Search

/-! # Compiled patterns

`Pattern.ofString` compiles a pattern for searching; `Pattern.whole` compiles one that has to
match a whole text and to have a given number of capture groups. -/
namespace Construe

/-- A compiled pattern with the text it was made from. -/
structure Pattern where
  source : String
  groups : Nat
  program : Pattern.Program

namespace Pattern

def exprOf (source : String) : Except Fault Expr := do
  (← Ast.ofString source).toExpr

def ofString (source : String) : Except Fault Pattern := do
  let e ← exprOf source
  if e.fits then return ⟨source, e.groupCount, e.program⟩ else .error .tooLarge

/-- Compiles patterns without groups to be looked for at once, which share one limit. -/
def ofStrings (sources : List String) : Except Fault (List Pattern) := do
  let es ← sources.mapM exprOf
  if Expr.fitTogether es then
    return (sources.zip es).map fun (source, e) => ⟨source, e.groupCount, e.program⟩
  else .error .tooLarge

/-- A pattern's expression between the two ends of the text. -/
def anchored (e : Expr) : Expr := .sequence [.look .textStart, e, .look .textEnd]

/-- Why a pattern cannot be bound to a number of parameters. -/
inductive WholeFault where
  | invalid (cause : Fault)
  | groupCount (actual : Nat)
deriving DecidableEq, Repr

def asInvalid (x : Except Fault α) : Except WholeFault α := x.mapError .invalid

/-- Compiles a pattern to match whole texts. The ends are put around the expression, not around
the source, so that the source cannot swallow them; the result is compiled from its text. -/
def whole (source : String) (arity : Nat) : Except WholeFault Pattern := do
  let bare ← asInvalid (ofString source)
  if bare.groups ≠ arity then .error (.groupCount bare.groups)
  else
    let e ← asInvalid (exprOf source)
    asInvalid (ofString (String.ofList (anchored e).render))

/-- The texts of the capture groups of the first match; a group that took no part has none. -/
def groups? (p : Pattern) (input : String) : Option (List (Option String)) :=
  let text := input.toList.toArray
  (p.program.search text 0).map fun m =>
    (List.range p.groups).map fun i =>
      (m.group? (i + 1)).map fun (start, stop) =>
        String.ofList (text.extract start stop).toList

def isMatch (p : Pattern) (input : String) : Bool :=
  (p.program.search input.toList.toArray 0).isSome

/-- The pieces of an input between the matches of the pattern; there is always one at least. -/
def split (p : Pattern) (input : String) : List String :=
  let text := input.toList.toArray
  (pieces text 0 (p.program.matchList text)).map fun piece => String.ofList piece.toList

/-- The source of a pattern that matches just this text. -/
def escape (text : String) : String := String.ofList (text.toList.flatMap renderChar)

end Pattern

end Construe
