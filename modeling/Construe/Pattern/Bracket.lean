import Construe.Pattern.Escape

/-! # Bracketed classes

A class is read with a stack of the brackets that are still open and the set operations that
wait for their right side. Operations associate to the left and bind weaker than juxtaposition. -/
namespace Construe.Pattern

/-- A bracket waits for its end, holding the items before it; an operation waits for its right
side. -/
inductive ClassFrame where
  | opened (before : List ClassSet) (negated : Bool)
  | pending (kind : SetOp) (left : ClassSet)

/-- A class in the middle of being read: items newest first, frames innermost first. -/
structure ClassState where
  items : List ClassSet
  frames : List ClassFrame

def Item.toClassSet : Item → Except Fault ClassSet
  | .letter c => .ok (.letter c)
  | .shorthand negated kind => .ok (.shorthand negated kind)
  | .property negated name => .ok (.property negated name)
  | .dot | .assertion _ => .error .badClass

def Item.toLetter : Item → Except Fault Letter
  | .letter c => .ok c
  | _ => .error .badClass

def readClassItem (verbose : Bool) : List Char → Except Fault (Item × List Char)
  | [] => .error .unclosedClass
  | '\\' :: rest => readEscape verbose rest
  | c :: rest => plainLetter c rest

/-- The first character of a list that is no blank. Once a comment has begun, every character
that is no blank counts. -/
def peekBlanks : (inComment : Bool) → List Char → Option Char
  | _, [] => none
  | inComment, c :: cs =>
    if isBlank c then peekBlanks inComment cs
    else if !inComment && c == '#' then peekBlanks true cs
    else some c

/-- The character after the one at hand, as far as ranges look ahead. -/
def peek (verbose : Bool) (cs : List Char) : Option Char :=
  if verbose then peekBlanks false cs <|> cs.head? else cs.head?

/-- One item, or two items joined by a hyphen to a range. A hyphen before the closing bracket or
before another hyphen joins nothing. -/
def readClassRange (verbose : Bool) (cs : List Char) : Except Fault (ClassSet × List Char) := do
  let (first, rest) ← readClassItem verbose cs
  let rest := skip verbose rest
  match rest with
  | [] => .error .unclosedClass
  | '-' :: after =>
    let next := peek verbose after
    if next == some ']' || next == some '-' then
      return (← first.toClassSet, rest)
    else
      let (last, rest) ← readClassItem verbose (skip verbose after)
      let lo ← first.toLetter
      let hi ← last.toLetter
      if lo.char ≤ hi.char then return (.range lo hi, rest) else .error .badClass
  | _ => return (← first.toClassSet, rest)

/-- A named class such as `[:alpha:]`, if the text is one. -/
def posixClass? (cs : List Char) : Option (ClassSet × List Char) :=
  match cs with
  | '[' :: ':' :: rest =>
    let (negated, rest) := match rest with
      | '^' :: rest => (true, rest)
      | rest => (false, rest)
    let name := rest.takeWhile (· != ':')
    match rest.dropWhile (· != ':') with
    | ':' :: ']' :: rest =>
      (Posix.ofName? (String.ofList name)).map fun kind => (.posix negated kind, rest)
    | _ => none
  | _ => none

/-- Leading hyphens stand for themselves. -/
def readHyphens (verbose : Bool) : (inComment : Bool) → (items : List ClassSet) → List Char →
    List ClassSet × List Char
  | _, items, [] => (items, [])
  | inComment, items, c :: cs =>
    if inComment then readHyphens verbose (c != '\n') items cs
    else if verbose && isBlank c then readHyphens verbose false items cs
    else if verbose && c == '#' then readHyphens verbose true items cs
    else if c == '-' then readHyphens verbose false (.letter ⟨'-', false⟩ :: items) cs
    else (items, c :: cs)

/-- Whether the class is negated, and the items that stand for themselves only because they come
first: hyphens, or else a closing bracket. The opening bracket has been read. -/
def readOpening (verbose : Bool) (cs : List Char) :
    Except Fault ((Bool × List ClassSet) × List Char) :=
  let cs := skip verbose cs
  let (negated, cs) := match cs with
    | '^' :: rest => (true, skip verbose rest)
    | cs => (false, cs)
  match readHyphens verbose false [] cs with
  | (_, []) => .error .unclosedClass
  | ([], ']' :: rest) =>
    match skip verbose rest with
    | [] => .error .unclosedClass
    | rest => .ok ((negated, [.letter ⟨']', false⟩]), rest)
  | (items, rest) => .ok ((negated, items), rest)

/-- Gives a waiting operation its right side. -/
def applyPending (right : ClassSet) : List ClassFrame → ClassSet × List ClassFrame
  | .pending kind left :: frames => (.op kind left right, frames)
  | frames => (right, frames)

def ClassState.pushOp (s : ClassState) (kind : SetOp) : ClassState :=
  let (left, frames) := applyPending (.ofItems s.items.reverse) s.frames
  ⟨[], .pending kind left :: frames⟩

/-- Closes the innermost bracket: the whole class when it was the last one. -/
def ClassState.close (s : ClassState) : Except Fault ((Bool × ClassSet) ⊕ ClassState) :=
  let (set, frames) := applyPending (.ofItems s.items.reverse) s.frames
  match frames with
  | [.opened _ negated] => .ok (.inl (negated, set))
  | .opened before negated :: frames => .ok (.inr ⟨.bracketed negated set :: before, frames⟩)
  | _ => .error .unclosedClass

/-- Reads on until the outermost bracket closes. Every round takes at least one character. -/
def readClassFrom (verbose : Bool) : (fuel : Nat) → ClassState → List Char →
    Except Fault ((Bool × ClassSet) × List Char)
  | 0, _, _ => .error .unclosedClass
  | fuel + 1, s, cs =>
    match skip verbose cs with
    | [] => .error .unclosedClass
    | '[' :: rest =>
      match posixClass? ('[' :: rest) with
      | some (set, rest) => readClassFrom verbose fuel ⟨set :: s.items, s.frames⟩ rest
      | none => do
        let ((negated, items), rest) ← readOpening verbose rest
        readClassFrom verbose fuel ⟨items, .opened s.items negated :: s.frames⟩ rest
    | ']' :: rest => do
      match ← s.close with
      | .inl result => return (result, rest)
      | .inr s => readClassFrom verbose fuel s rest
    | '&' :: '&' :: rest => readClassFrom verbose fuel (s.pushOp .inter) rest
    | '-' :: '-' :: rest => readClassFrom verbose fuel (s.pushOp .diff) rest
    | '~' :: '~' :: rest => readClassFrom verbose fuel (s.pushOp .symmDiff) rest
    | cs => do
      let (item, rest) ← readClassRange verbose cs
      readClassFrom verbose fuel ⟨item :: s.items, s.frames⟩ rest

/-- A bracketed class whose opening bracket has been read: whether it is negated, and its
inside. -/
def readClass (verbose : Bool) (cs : List Char) : Except Fault ((Bool × ClassSet) × List Char) := do
  let ((negated, items), rest) ← readOpening verbose cs
  readClassFrom verbose (rest.length + 1) ⟨items, [.opened [] negated]⟩ rest

end Construe.Pattern
