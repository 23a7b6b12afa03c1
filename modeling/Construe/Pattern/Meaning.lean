import Construe.Unicode.Folding
import Construe.Unicode.Property
import Construe.Pattern.Ast
import Construe.Pattern.Expr
import Construe.Pattern.Fault

/-! # From text structure to expressions

Flags in force are carried from left to right through a group and fall back at its end. Outside
Unicode mode sets are sets of bytes; a set that could match part of a character is refused. -/
namespace Construe.Pattern

structure Flags where
  ignoreCase : Bool := false
  multiLine : Bool := false
  dotAll : Bool := false
  swapGreed : Bool := false
  unicode : Bool := true
  crlf : Bool := false
deriving DecidableEq, Repr

def Flags.set (f : Flags) : Flag → Bool → Flags
  | .ignoreCase, on => { f with ignoreCase := on }
  | .multiLine, on => { f with multiLine := on }
  | .dotAll, on => { f with dotAll := on }
  | .swapGreed, on => { f with swapGreed := on }
  | .unicode, on => { f with unicode := on }
  | .crlf, on => { f with crlf := on }
  | .verbose, _ => f

def Flags.change (f : Flags) (changes : FlagChange) : Flags :=
  changes.foldl (fun f c => f.set c.1 c.2) f

def Posix.set : Posix → CharSet
  | .alnum => .ofRanges [⟨0x30, 0x39⟩, ⟨0x41, 0x5A⟩, ⟨0x61, 0x7A⟩]
  | .alpha => .ofRanges [⟨0x41, 0x5A⟩, ⟨0x61, 0x7A⟩]
  | .ascii => .ofRanges [⟨0x00, 0x7F⟩]
  | .blank => .ofRanges [⟨0x09, 0x09⟩, ⟨0x20, 0x20⟩]
  | .cntrl => .ofRanges [⟨0x00, 0x1F⟩, ⟨0x7F, 0x7F⟩]
  | .digit => .ofRanges [⟨0x30, 0x39⟩]
  | .graph => .ofRanges [⟨0x21, 0x7E⟩]
  | .lower => .ofRanges [⟨0x61, 0x7A⟩]
  | .print => .ofRanges [⟨0x20, 0x7E⟩]
  | .punct => .ofRanges [⟨0x21, 0x2F⟩, ⟨0x3A, 0x40⟩, ⟨0x5B, 0x60⟩, ⟨0x7B, 0x7E⟩]
  | .space => .ofRanges [⟨0x09, 0x0D⟩, ⟨0x20, 0x20⟩]
  | .upper => .ofRanges [⟨0x41, 0x5A⟩]
  | .word => .ofRanges [⟨0x30, 0x39⟩, ⟨0x41, 0x5A⟩, ⟨0x5F, 0x5F⟩, ⟨0x61, 0x7A⟩]
  | .xdigit => .ofRanges [⟨0x30, 0x39⟩, ⟨0x41, 0x46⟩, ⟨0x61, 0x66⟩]

def Shorthand.unicodeSet : Shorthand → CharSet
  | .digit => Unicode.digit
  | .space => Unicode.space
  | .word => Unicode.word

def Shorthand.asciiSet : Shorthand → CharSet
  | .digit => Posix.digit.set
  | .space => Posix.space.set
  | .word => Posix.word.set

/-- Adds the other letter case of every ASCII letter of the set. -/
def closeAscii (s : CharSet) : CharSet :=
  let moved (lo hi target : Nat) : List CharRange :=
    (s.ranges.filterMap (CharRange.inter? ⟨lo, hi⟩)).map fun r =>
      ⟨target + (r.lo - lo), target + (r.hi - lo)⟩
  s.union (.ofRanges (moved 0x41 0x5A 0x61 ++ moved 0x61 0x7A 0x41))

/-- Closes a set under letter case if case is ignored. -/
def Flags.foldSet (f : Flags) (s : CharSet) : CharSet :=
  if !f.ignoreCase then s else if f.unicode then Unicode.Folding.close s else closeAscii s

/-- A complement of ASCII characters among the bytes holds bytes that are no characters. -/
def Flags.negate (f : Flags) (negated : Bool) (s : CharSet) : Except Fault CharSet :=
  if negated && !f.unicode then .error .notText else .ok (s.negateIf negated)

def Flags.foldNegate (f : Flags) (negated : Bool) (s : CharSet) : Except Fault CharSet :=
  f.negate negated (f.foldSet s)

/-- The character of a letter. Outside Unicode mode `\xNN` is a byte and must be ASCII. -/
def Flags.letterChar (f : Flags) (l : Letter) : Except Fault Char :=
  if !f.unicode && l.byte && 0x7F < l.char.toNat then .error .notText else .ok l.char

/-- A letter in a class. Outside Unicode mode it must be ASCII. -/
def Flags.classChar (f : Flags) (l : Letter) : Except Fault Char :=
  if !f.unicode && 0x7F < l.char.toNat then .error .notText else .ok l.char

def PropertyName.set? (p : PropertyName) : Option CharSet :=
  match p.value with
  | none => Unicode.Property.named? p.name
  | some value => Unicode.Property.valued? p.name value

def Flags.propertySet (f : Flags) (negated : Bool) (p : PropertyName) : Except Fault CharSet :=
  if !f.unicode then .error .notText else
  match p.set? with
  | some s => f.foldNegate negated s
  | none => .error .unknownProperty

def Flags.shorthandSet (f : Flags) (negated : Bool) (kind : Shorthand) : Except Fault CharSet :=
  f.negate negated (if f.unicode then kind.unicodeSet else kind.asciiSet)

def SetOp.apply : SetOp → CharSet → CharSet → CharSet
  | .inter, s, t => s.inter t
  | .diff, s, t => s.diff t
  | .symmDiff, s, t => s.symmDiff t

mutual

def ClassSet.set (f : Flags) : ClassSet → Except Fault CharSet
  | .empty => .ok .empty
  | .letter l => do return .singleton (← f.classChar l)
  | .range first last => do return .ofRange (← f.classChar first) (← f.classChar last)
  | .posix negated kind => f.foldNegate negated kind.set
  | .shorthand negated kind => f.shorthandSet negated kind
  | .property negated name => f.propertySet negated name
  | .bracketed negated inner => do f.foldNegate negated (← inner.set f)
  | .union items => ClassSet.setAll f items
  | .op kind left right => do
    return kind.apply (f.foldSet (← left.set f)) (f.foldSet (← right.set f))

def ClassSet.setAll (f : Flags) : List ClassSet → Except Fault CharSet
  | [] => .ok .empty
  | item :: items => do return (← ClassSet.setAll f items).union (← item.set f)

end

/-- The class of a set, in the form of the mode at hand. -/
def Flags.toClass (f : Flags) (s : CharSet) : Expr :=
  if f.unicode then .charClass s else .byteClass s

/-- A letter; where case is ignored and matters, the class of its case variants. -/
def Flags.letter (f : Flags) (l : Letter) : Except Fault Expr := do
  let c ← f.letterChar l
  let variants := f.foldSet (.singleton c)
  if variants == .singleton c then return .literal [c] else return f.toClass variants

/-- Any character but the ends of lines, which `dotAll` admits too. -/
def Flags.dot (f : Flags) : Except Fault Expr :=
  if !f.unicode then .error .notText
  else if f.dotAll then .ok (.charClass .all)
  else if f.crlf then .ok (.charClass (CharSet.ofList ['\n', '\r']).complement)
  else .ok (.charClass (CharSet.singleton '\n').complement)

def Flags.look (f : Flags) : Assertion → Look
  | .lineStart =>
    if !f.multiLine then .textStart else if f.crlf then .lineStartCrlf else .lineStart
  | .lineEnd => if !f.multiLine then .textEnd else if f.crlf then .lineEndCrlf else .lineEnd
  | .textStart => .textStart
  | .textEnd => .textEnd
  | .wordBoundary => .wordBoundary !f.unicode
  | .notWordBoundary => .notWordBoundary !f.unicode
  | .wordStart => .wordStart !f.unicode
  | .wordEnd => .wordEnd !f.unicode
  | .wordStartHalf => .wordStartHalf !f.unicode
  | .wordEndHalf => .wordEndHalf !f.unicode

mutual

/-- The expression of a structure under the given flags, and the flags in force after it. -/
def Ast.expr (f : Flags) : Ast → Except Fault (Expr × Flags)
  | .empty => .ok (.empty, f)
  | .flags change => .ok (.empty, f.change change)
  | .letter l => do return (← f.letter l, f)
  | .dot => do return (← f.dot, f)
  | .assertion kind => .ok (.look (f.look kind), f)
  | .shorthand negated kind => do return (f.toClass (← f.shorthandSet negated kind), f)
  | .property negated name => do return (f.toClass (← f.propertySet negated name), f)
  | .bracketed negated inner => do
    return (f.toClass (← f.foldNegate negated (← inner.set f)), f)
  | .repetition min max greedy body => do
    let (body, f) ← body.expr f
    return (.repeated min max (greedy != f.swapGreed) body, f)
  | .group (.capture index name) body => do
    let (body, _) ← body.expr f
    return (.capture index name body, f)
  | .group (.plain change) body => do
    let (body, _) ← body.expr (f.change change)
    return (body, f)
  | .concat items => do
    let (parts, f) ← Ast.exprAll f items
    return (.sequence parts, f)
  | .alternation branches => do
    let (branches, f) ← Ast.exprAll f branches
    return (.choice branches, f)

def Ast.exprAll (f : Flags) : List Ast → Except Fault (List Expr × Flags)
  | [] => .ok ([], f)
  | item :: items => do
    let (e, f) ← item.expr f
    let (es, f) ← Ast.exprAll f items
    return (e :: es, f)

end

/-- The expression of a pattern's text. -/
def Ast.toExpr (ast : Ast) : Except Fault Expr := do
  let (e, _) ← ast.expr {}
  return e

end Construe.Pattern
