/-! # Patterns as written

The structure of a pattern's text, before flags are applied and sets are looked up. -/
namespace Construe.Pattern

inductive Flag where
  | ignoreCase
  | multiLine
  | dotAll
  | swapGreed
  | unicode
  | crlf
  | verbose
deriving DecidableEq, Repr

/-- Flags in the order written, each with whether it is switched on. -/
abbrev FlagChange := List (Flag × Bool)

/-- A single character. `byte` marks the two-digit form `\xNN`, which outside Unicode mode names
a byte. -/
structure Letter where
  char : Char
  byte : Bool
deriving DecidableEq, Repr

inductive Shorthand where
  | digit
  | space
  | word
deriving DecidableEq, Repr

inductive Posix where
  | alnum
  | alpha
  | ascii
  | blank
  | cntrl
  | digit
  | graph
  | lower
  | print
  | punct
  | space
  | upper
  | word
  | xdigit
deriving DecidableEq, Repr

def Posix.ofName? : String → Option Posix
  | "alnum" => some .alnum
  | "alpha" => some .alpha
  | "ascii" => some .ascii
  | "blank" => some .blank
  | "cntrl" => some .cntrl
  | "digit" => some .digit
  | "graph" => some .graph
  | "lower" => some .lower
  | "print" => some .print
  | "punct" => some .punct
  | "space" => some .space
  | "upper" => some .upper
  | "word" => some .word
  | "xdigit" => some .xdigit
  | _ => none

/-- The name inside `\p`, with the value after `=`, `:` or `!=` if there is one. -/
structure PropertyName where
  name : String
  value : Option String
deriving DecidableEq, Repr

inductive SetOp where
  | inter
  | diff
  | symmDiff
deriving DecidableEq, Repr

/-- The inside of a bracketed class. -/
inductive ClassSet where
  | empty
  | letter (c : Letter)
  | range (first last : Letter)
  | posix (negated : Bool) (kind : Posix)
  | shorthand (negated : Bool) (kind : Shorthand)
  | property (negated : Bool) (name : PropertyName)
  | bracketed (negated : Bool) (inner : ClassSet)
  | union (items : List ClassSet)
  | op (kind : SetOp) (left right : ClassSet)
deriving Repr

/-- One item stands for itself. -/
def ClassSet.ofItems : List ClassSet → ClassSet
  | [] => .empty
  | [item] => item
  | items => .union items

inductive Assertion where
  | lineStart
  | lineEnd
  | textStart
  | textEnd
  | wordBoundary
  | notWordBoundary
  | wordStart
  | wordEnd
  | wordStartHalf
  | wordEndHalf
deriving DecidableEq, Repr

inductive GroupKind where
  | capture (index : Nat) (name : Option String)
  | plain (flags : FlagChange)
deriving DecidableEq, Repr

inductive Ast where
  | empty
  | flags (change : FlagChange)
  | letter (c : Letter)
  | dot
  | assertion (kind : Assertion)
  | shorthand (negated : Bool) (kind : Shorthand)
  | property (negated : Bool) (name : PropertyName)
  | bracketed (negated : Bool) (inner : ClassSet)
  | repetition (min : Nat) (max : Option Nat) (greedy : Bool) (body : Ast)
  | group (kind : GroupKind) (body : Ast)
  | concat (items : List Ast)
  | alternation (branches : List Ast)
deriving Repr

/-- One item stands for itself. -/
def Ast.ofItems : List Ast → Ast
  | [] => .empty
  | [item] => item
  | items => .concat items

/-- One branch stands for itself. -/
def Ast.ofBranches : List Ast → Ast
  | [] => .empty
  | [branch] => branch
  | branches => .alternation branches

mutual

/-- How many brackets, unions and operators enclose the innermost item. -/
def ClassSet.depth : ClassSet → Nat
  | .bracketed _ inner => inner.depth + 1
  | .union items => ClassSet.depthAll items + 1
  | .op _ left right => max left.depth right.depth + 1
  | _ => 0

def ClassSet.depthAll : List ClassSet → Nat
  | [] => 0
  | item :: items => max item.depth (ClassSet.depthAll items)

end

mutual

/-- How many classes, repetitions, groups, sequences and choices enclose the innermost item. -/
def Ast.depth : Ast → Nat
  | .bracketed _ inner => inner.depth + 1
  | .repetition _ _ _ body => body.depth + 1
  | .group _ body => body.depth + 1
  | .concat items => Ast.depthAll items + 1
  | .alternation branches => Ast.depthAll branches + 1
  | _ => 0

def Ast.depthAll : List Ast → Nat
  | [] => 0
  | item :: items => max item.depth (Ast.depthAll items)

end

end Construe.Pattern
