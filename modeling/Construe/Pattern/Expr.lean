import Construe.CharSet

/-! # Regular expressions

`Expr` is what a pattern means, free of flags. Expressions are built by `letters`, `charClass`,
`repeated`, `sequence` and `choice`, which keep them in a reduced form: no empty parts in a
sequence, adjacent literals joined, choices of characters made into one class, a common start of
all branches taken out in front. -/
namespace Construe.Pattern

/-- Conditions on a position in the text. -/
inductive Look where
  | textStart
  | textEnd
  | lineStart
  | lineEnd
  | lineStartCrlf
  | lineEndCrlf
  | wordBoundary (ascii : Bool)
  | notWordBoundary (ascii : Bool)
  | wordStart (ascii : Bool)
  | wordEnd (ascii : Bool)
  | wordStartHalf (ascii : Bool)
  | wordEndHalf (ascii : Bool)
deriving DecidableEq, Repr

inductive Expr where
  | empty
  | literal (text : List Char)
  | chars (set : CharSet)
  /-- A class written outside Unicode mode; all its members are ASCII. -/
  | bytes (set : CharSet)
  | look (kind : Look)
  | rep (min : Nat) (max : Option Nat) (greedy : Bool) (body : Expr)
  | capture (index : Nat) (name : Option String) (body : Expr)
  | concat (parts : List Expr)
  | alt (branches : List Expr)
deriving Repr

namespace Expr

mutual

def beq : Expr → Expr → Bool
  | .empty, .empty => true
  | .literal s, .literal t => s == t
  | .chars s, .chars t => s == t
  | .bytes s, .bytes t => s == t
  | .look k, .look l => k == l
  | .rep m n g b, .rep m' n' g' b' => m == m' && n == n' && g == g' && beq b b'
  | .capture i n b, .capture i' n' b' => i == i' && n == n' && beq b b'
  | .concat xs, .concat ys => beqAll xs ys
  | .alt xs, .alt ys => beqAll xs ys
  | _, _ => false

def beqAll : List Expr → List Expr → Bool
  | [], [] => true
  | x :: xs, y :: ys => beq x y && beqAll xs ys
  | _, _ => false

end

instance : BEq Expr := ⟨beq⟩

/-- The expression that matches nothing. -/
def fail : Expr := .bytes .empty

mutual

/-- The least number of characters matched; none where some part can match nothing at all. -/
def minLength? : Expr → Option Nat
  | .empty | .look _ => some 0
  | .literal text => some text.length
  | .chars set | .bytes set => if set.isEmpty then none else some 1
  | .rep min _ _ body => body.minLength?.map (· * min)
  | .capture _ _ body => body.minLength?
  | .concat parts => sumMin parts
  | .alt branches => leastMin branches

def sumMin : List Expr → Option Nat
  | [] => some 0
  | e :: es => do return (← e.minLength?) + (← sumMin es)

def leastMin : List Expr → Option Nat
  | [] => none
  | [e] => e.minLength?
  | e :: es => do return min (← e.minLength?) (← leastMin es)

end

mutual

/-- The greatest number of characters matched; none where there is no bound, or where some part
can match nothing at all. -/
def maxLength? : Expr → Option Nat
  | .empty | .look _ => some 0
  | .literal text => some text.length
  | .chars set | .bytes set => if set.isEmpty then none else some 1
  | .rep _ max _ body => do return (← body.maxLength?) * (← max)
  | .capture _ _ body => body.maxLength?
  | .concat parts => sumMax parts
  | .alt branches => greatestMax branches

def sumMax : List Expr → Option Nat
  | [] => some 0
  | e :: es => do return (← e.maxLength?) + (← sumMax es)

def greatestMax : List Expr → Option Nat
  | [] => none
  | [e] => e.maxLength?
  | e :: es => do return max (← e.maxLength?) (← greatestMax es)

end

mutual

/-- The number of capture groups, counted by the highest index that occurs. -/
def groupCount : Expr → Nat
  | .rep _ _ _ body => body.groupCount
  | .capture index _ body => max index body.groupCount
  | .concat parts => groupCountAll parts
  | .alt branches => groupCountAll branches
  | _ => 0

def groupCountAll : List Expr → Nat
  | [] => 0
  | e :: es => max e.groupCount (groupCountAll es)

end

mutual

/-- The number of constructors. -/
def nodes : Expr → Nat
  | .rep _ _ _ body => body.nodes + 1
  | .capture _ _ body => body.nodes + 1
  | .concat parts => nodesAll parts + 1
  | .alt branches => nodesAll branches + 1
  | _ => 1

def nodesAll : List Expr → Nat
  | [] => 0
  | e :: es => e.nodes + nodesAll es

end

def letters : List Char → Expr
  | [] => .empty
  | text => .literal text

/-- A Unicode class. A class of one character is that character. -/
def charClass (set : CharSet) : Expr :=
  if set.isEmpty then fail else
  match set.single? with
  | some c => .literal [c]
  | none => .chars set

/-- A class of ASCII characters, written outside Unicode mode. -/
def byteClass (set : CharSet) : Expr :=
  if set.isEmpty then fail else
  match set.single? with
  | some c => .literal [c]
  | none => .bytes set

/-- A body that matches only the empty text is repeated at most once. -/
def repeated (min : Nat) (max : Option Nat) (greedy : Bool) (body : Expr) : Expr :=
  let hollow := body.maxLength? == some 0
  let low := if hollow then Nat.min min 1 else min
  let high := if hollow then some (Nat.min (max.getD 1) 1) else max
  if low == 0 && high == some 0 then .empty
  else if low == 1 && high == some 1 then body
  else .rep low high greedy body

/-- The parts an expression adds to a sequence. -/
def flatParts : Expr → List Expr
  | .empty => []
  | .concat parts => parts
  | e => [e]

/-- Joins literals that stand side by side. -/
def joinLiterals : List Expr → List Expr
  | [] => []
  | .literal s :: rest =>
    match joinLiterals rest with
    | .literal t :: rest' => .literal (s ++ t) :: rest'
    | rest' => .literal s :: rest'
  | e :: rest => e :: joinLiterals rest

def sequence (parts : List Expr) : Expr :=
  match joinLiterals (parts.flatMap flatParts) with
  | [] => .empty
  | [e] => e
  | es => .concat es

/-- The branches an expression adds to a choice. -/
def flatBranches : Expr → List Expr
  | .alt branches => branches
  | e => [e]

def singleChar? : Expr → Option Char
  | .literal [c] => some c
  | _ => none

def classSet? : Expr → Option CharSet
  | .chars set | .bytes set => some set
  | _ => none

def commonStart : List Expr → List Expr → List Expr
  | x :: xs, y :: ys => if x == y then x :: commonStart xs ys else []
  | _, _ => []

def parts? : Expr → Option (List Expr)
  | .concat parts => some parts
  | _ => none

/-- What all branches begin with, when every branch is a sequence. -/
def sharedStart (branches : List Expr) : List Expr :=
  match branches.mapM parts? with
  | some (first :: others) => others.foldl commonStart first
  | _ => []

/-- A choice, reduced. Taking out a common start leaves fewer constructors, so the number of
constructors is enough fuel. -/
def choiceFrom : (fuel : Nat) → List Expr → Expr
  | 0, branches => .alt branches
  | fuel + 1, branches =>
    match branches.flatMap flatBranches with
    | [] => fail
    | [e] => e
    | es =>
      match es.mapM singleChar? with
      | some cs => charClass (.ofList cs)
      | none =>
        match es.mapM classSet? with
        | some sets => charClass (sets.foldl CharSet.union .empty)
        | none =>
          match sharedStart es with
          | [] => .alt es
          | start =>
            let ends := es.map fun e => sequence ((flatParts e).drop start.length)
            sequence (start ++ [choiceFrom fuel ends])

def choice (branches : List Expr) : Expr := choiceFrom (nodesAll branches + 1) branches

end Expr

end Construe.Pattern
