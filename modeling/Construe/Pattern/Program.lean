import Construe.Pattern.Expr

/-! # Expressions as programs

A program is a table of nodes that name their successors by address. The code of an expression
is laid out from a base address, is entered there, and leaves to a given exit. Alternatives are
listed in the order of preference. -/
namespace Construe.Pattern

inductive Node where
  /-- Take one character of the set. -/
  | take (set : CharSet) (next : Nat)
  /-- Go on if the condition holds here. -/
  | check (kind : Look) (next : Nat)
  /-- Note the position in a slot. -/
  | mark (slot : Nat) (next : Nat)
  /-- Try the successors in order. -/
  | split (next : List Nat)
  | accept

/-- The two ways on from a loop, by preference. -/
def Node.loop (greedy : Bool) (body exit : Nat) : Node :=
  .split (if greedy then [body, exit] else [exit, body])

/-- Whether every match takes at least one character. -/
def Expr.takesSome (e : Expr) : Bool := e.minLength?.any (0 < ·)

/-- `count` copies of code of the same size, one after the other. -/
def copies (size : Nat) (code : Nat → Nat → List Node) (exit : Nat) :
    (count : Nat) → (base : Nat) → List Node
  | 0, _ => []
  | count + 1, base =>
    let next := if count = 0 then exit else base + size
    code base next ++ copies size code exit count (base + size)

/-- Optional copies: each may be skipped together with all that follow it. -/
def optionalCopies (size : Nat) (greedy : Bool) (code : Nat → Nat → List Node) (exit : Nat) :
    (count : Nat) → (base : Nat) → List Node
  | 0, _ => []
  | count + 1, base =>
    let next := if count = 0 then exit else base + 1 + size
    .loop greedy (base + 1) exit ::
      (code (base + 1) next ++ optionalCopies size greedy code exit count (base + 1 + size))

/-- The number of nodes of a repetition, from its body's. -/
def repSize (body : Nat) (takesSome : Bool) : (min : Nat) → (max : Option Nat) → Nat
  | 0, none => if takesSome then body + 1 else body + 2
  | min + 1, none => (min + 1) * body + 1
  | 0, some 0 => 1
  | min, some max => min * body + (max - min) * (body + 1)

/-- The code of a repetition, from its body's. A loop whose body can match the empty text is
entered by a choice of its own, so that one empty round is tried. -/
def repCode (size : Nat) (takesSome greedy : Bool) (code : Nat → Nat → List Node)
    (base exit : Nat) : (min : Nat) → (max : Option Nat) → List Node
  | 0, none =>
    if takesSome then .loop greedy (base + 1) exit :: code (base + 1) base
    else
      .loop greedy (base + 1) exit ::
        (code (base + 1) (base + 1 + size) ++ [.loop greedy (base + 1) exit])
  | min + 1, none =>
    copies size code (base + min * size) min base ++
      (code (base + min * size) (base + (min + 1) * size) ++
        [.loop greedy (base + min * size) exit])
  | 0, some 0 => [.split [exit]]
  | min, some max =>
    let middle := base + min * size
    copies size code (if max ≤ min then exit else middle) min base ++
      optionalCopies size greedy code exit (max - min) middle

mutual

/-- The number of nodes of an expression's code. -/
def Expr.size : Expr → Nat
  | .empty | .chars _ | .bytes _ | .look _ => 1
  | .literal text => text.length + 1
  | .rep min max _ body => repSize body.size body.takesSome min max
  | .capture _ _ body => body.size + 2
  | .concat parts => Expr.sizeAll parts + 1
  | .alt branches => Expr.sizeAll branches + 1

def Expr.sizeAll : List Expr → Nat
  | [] => 0
  | e :: es => e.size + Expr.sizeAll es

end

/-- The code of a literal, with a jump to the exit at its end. -/
def literalCode (exit : Nat) : (base : Nat) → List Char → List Node
  | _, [] => [.split [exit]]
  | base, c :: cs => .take (.singleton c) (base + 1) :: literalCode exit (base + 1) cs

/-- Where the branches of a choice begin. -/
def Expr.entries (base : Nat) : List Expr → List Nat
  | [] => []
  | e :: es => base :: Expr.entries (base + e.size) es

mutual

def Expr.code : Expr → (base exit : Nat) → List Node
  | .empty, _, exit => [.split [exit]]
  | .literal text, base, exit => literalCode exit base text
  | .chars set, _, exit | .bytes set, _, exit => [.take set exit]
  | .look kind, _, exit => [.check kind exit]
  | .rep min max greedy body, base, exit =>
    repCode body.size body.takesSome greedy body.code base exit min max
  | .capture index _ body, base, exit =>
    .mark (2 * index) (base + 1) ::
      (body.code (base + 1) (base + 1 + body.size) ++ [.mark (2 * index + 1) exit])
  | .concat parts, base, exit => Expr.codeAll parts base exit
  | .alt branches, base, exit =>
    .split (Expr.entries (base + 1) branches) :: Expr.codeBranches branches (base + 1) exit

/-- The code of a sequence, with a jump to the exit at its end. -/
def Expr.codeAll : List Expr → (base exit : Nat) → List Node
  | [], _, exit => [.split [exit]]
  | e :: es, base, exit => e.code base (base + e.size) ++ Expr.codeAll es (base + e.size) exit

def Expr.codeBranches : List Expr → (base exit : Nat) → List Node
  | [], _, _ => []
  | e :: es, base, exit => e.code base exit ++ Expr.codeBranches es (base + e.size) exit

end

/-- Node 0 is the entry. -/
structure Program where
  nodes : Array Node

def Expr.program (e : Expr) : Program := ⟨(e.code 0 e.size ++ [Node.accept]).toArray⟩

end Construe.Pattern
