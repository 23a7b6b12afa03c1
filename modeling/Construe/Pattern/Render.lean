import Construe.Pattern.Escape
import Construe.Pattern.Expr

/-! # Expressions as pattern text

Sequences, choices and literals of several characters are enclosed in plain groups; a repetition
is its body followed by a suffix. -/
namespace Construe.Pattern

def renderChar (c : Char) : List Char := if isMeta c then ['\\', c] else [c]

def renderRange (r : CharRange) : List Char :=
  let lo := renderChar (Char.ofNat r.lo)
  if r.lo == r.hi then lo
  else if r.lo + 1 == r.hi then lo ++ renderChar (Char.ofNat r.hi)
  else lo ++ '-' :: renderChar (Char.ofNat r.hi)

def renderSet (s : CharSet) : List Char := '[' :: s.ranges.flatMap renderRange ++ [']']

/-- A class without members, written as the meeting of two characters. -/
def renderEmptySet : List Char := "[a&&b]".toList

def Look.render : Look → String
  | .textStart => "\\A"
  | .textEnd => "\\z"
  | .lineStart => "(?m:^)"
  | .lineEnd => "(?m:$)"
  | .lineStartCrlf => "(?mR:^)"
  | .lineEndCrlf => "(?mR:$)"
  | .wordBoundary false => "\\b"
  | .wordBoundary true => "(?-u:\\b)"
  | .notWordBoundary false => "\\B"
  | .notWordBoundary true => "(?-u:\\B)"
  | .wordStart false => "\\b\x7bstart\x7d"
  | .wordStart true => "(?-u:\\b\x7bstart\x7d)"
  | .wordEnd false => "\\b\x7bend\x7d"
  | .wordEnd true => "(?-u:\\b\x7bend\x7d)"
  | .wordStartHalf false => "\\b\x7bstart-half\x7d"
  | .wordStartHalf true => "(?-u:\\b\x7bstart-half\x7d)"
  | .wordEndHalf false => "\\b\x7bend-half\x7d"
  | .wordEndHalf true => "(?-u:\\b\x7bend-half\x7d)"

def lazyMark (greedy : Bool) : List Char := if greedy then [] else ['?']

/-- The suffix of a repetition. A fixed count has no greed. -/
def renderBounds (min : Nat) (max : Option Nat) (greedy : Bool) : List Char :=
  match min, max with
  | 0, some 1 => '?' :: lazyMark greedy
  | 0, none => '*' :: lazyMark greedy
  | 1, none => '+' :: lazyMark greedy
  | 1, some 1 => []
  | m, none => "\x7b".toList ++ Nat.toDigits 10 m ++ ",\x7d".toList ++ lazyMark greedy
  | m, some n =>
    if m == n then "\x7b".toList ++ Nat.toDigits 10 m ++ "\x7d".toList
    else "\x7b".toList ++ Nat.toDigits 10 m ++ ',' :: Nat.toDigits 10 n ++ "\x7d".toList
      ++ lazyMark greedy

def enclose (inner : List Char) : List Char := "(?:".toList ++ inner ++ [')']

mutual

def Expr.render : Expr → List Char
  | .empty => enclose []
  | .literal [c] => renderChar c
  | .literal text => enclose (text.flatMap renderChar)
  | .chars set => if set.isEmpty then renderEmptySet else renderSet set
  | .bytes set =>
    if set.isEmpty then renderEmptySet else "(?-u:".toList ++ renderSet set ++ [')']
  | .look kind => kind.render.toList
  | .rep min max greedy body => body.render ++ renderBounds min max greedy
  | .capture _ none body => '(' :: body.render ++ [')']
  | .capture _ (some name) body => "(?P<".toList ++ name.toList ++ '>' :: body.render ++ [')']
  | .concat parts => enclose (Expr.renderAll parts)
  | .alt branches => enclose (Expr.renderBranches branches)

def Expr.renderAll : List Expr → List Char
  | [] => []
  | e :: es => e.render ++ Expr.renderAll es

def Expr.renderBranches : List Expr → List Char
  | [] => []
  | [e] => e.render
  | e :: es => e.render ++ '|' :: Expr.renderBranches es

end

end Construe.Pattern
