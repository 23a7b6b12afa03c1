import Construe.Unicode.Newest
import Construe.Pattern.Bracket

/-! # Reading a pattern

The reader keeps a stack of the groups that are still open. It goes through the text once, and
every round takes at least one character, so the length of the text bounds the rounds. -/
namespace Construe.Pattern

/-- The part of a pattern between two parentheses, as far as it has been read: finished branches
and the items of the current one, newest first. -/
structure Level where
  branches : List Ast
  items : List Ast

def Level.empty : Level := ⟨[], []⟩

def Level.push (l : Level) (item : Ast) : Level := { l with items := item :: l.items }

/-- Ends the current branch. -/
def Level.nextBranch (l : Level) : Level := ⟨.ofItems l.items.reverse :: l.branches, []⟩

def Level.toAst (l : Level) : Ast := .ofBranches l.nextBranch.branches.reverse

/-- An open group: what surrounds it, its kind, and whether its surroundings are verbose. -/
structure Frame where
  outer : Level
  kind : GroupKind
  verbose : Bool

/-- `captures` groups have been numbered so far. -/
structure ReadState where
  level : Level
  frames : List Frame
  verbose : Bool
  captures : Nat
  names : List String

def ReadState.initial : ReadState := ⟨.empty, [], false, 0, []⟩

def ReadState.push (s : ReadState) (item : Ast) : ReadState := { s with level := s.level.push item }

def Flag.ofLetter? : Char → Option Flag
  | 'i' => some .ignoreCase
  | 'm' => some .multiLine
  | 's' => some .dotAll
  | 'U' => some .swapGreed
  | 'u' => some .unicode
  | 'R' => some .crlf
  | 'x' => some .verbose
  | _ => none

/-- Flags up to the `:` or `)` that ends them, which is given back too. One hyphen switches the
flags after it off, and no flag is written twice. -/
def readFlags : (on : Bool) → (hyphenLast : Bool) → FlagChange → List Char →
    Except Fault (FlagChange × Char × List Char)
  | _, _, _, [] => .error .badFlags
  | on, hyphenLast, flags, c :: cs =>
    if c == ':' || c == ')' then
      if hyphenLast then .error .badFlags else .ok (flags.reverse, c, cs)
    else if c == '-' then
      if on then readFlags false true flags cs else .error .badFlags
    else match Flag.ofLetter? c with
      | none => .error .badFlags
      | some flag =>
        if flags.any (·.1 == flag) then .error .badFlags
        else readFlags on false ((flag, on) :: flags) cs

/-- The state of the verbose flag after a change. -/
def verboseAfter (verbose : Bool) (flags : FlagChange) : Bool :=
  (flags.lookup .verbose).getD verbose

def isNameStart (c : Char) : Bool := c == '_' || Unicode.Newest.isAlphabetic c

def isNameChar (c : Char) : Bool :=
  isNameStart c || c == '.' || c == '[' || c == ']' || Unicode.Newest.isNumber c

/-- A group name up to its closing angle bracket. -/
def readGroupName (used : List String) (cs : List Char) : Except Fault (String × List Char) :=
  let name := cs.takeWhile (· != '>')
  match name, cs.dropWhile (· != '>') with
  | first :: others, '>' :: rest =>
    let text := String.ofList name
    if isNameStart first && others.all isNameChar && !used.contains text then .ok (text, rest)
    else .error .badGroupName
  | _, _ => .error .badGroupName

def ReadState.openCapture (s : ReadState) (name : Option String) : ReadState where
  level := .empty
  frames := ⟨s.level, .capture (s.captures + 1) name, s.verbose⟩ :: s.frames
  verbose := s.verbose
  captures := s.captures + 1
  names := name.toList ++ s.names

def ReadState.openNamed (s : ReadState) (cs : List Char) :
    Except Fault (ReadState × List Char) := do
  let (name, rest) ← readGroupName s.names cs
  return (s.openCapture (some name), rest)

/-- What an opening parenthesis begins: a capture, a plain group, or a change of flags that lasts
to the end of the surrounding group. -/
def ReadState.openGroup (s : ReadState) (cs : List Char) :
    Except Fault (ReadState × List Char) :=
  match skip s.verbose cs with
  | '?' :: '=' :: _ | '?' :: '!' :: _ | '?' :: '<' :: '=' :: _ | '?' :: '<' :: '!' :: _ =>
    .error .lookAround
  | '?' :: 'P' :: '<' :: rest => s.openNamed rest
  | '?' :: '<' :: rest => s.openNamed rest
  | '?' :: rest => do
    let (flags, stop, rest) ← readFlags true false [] rest
    let verbose := verboseAfter s.verbose flags
    if stop == ')' then
      if flags.isEmpty then .error .nothingToRepeat
      else return ({ s.push (.flags flags) with verbose }, rest)
    else
      let frame := ⟨s.level, .plain flags, s.verbose⟩
      return ({ s with level := .empty, frames := frame :: s.frames, verbose }, rest)
  | rest => .ok (s.openCapture none, rest)

def ReadState.closeGroup (s : ReadState) : Except Fault ReadState :=
  match s.frames with
  | [] => .error .unopenedGroup
  | frame :: frames =>
    .ok { s with
      level := frame.outer.push (.group frame.kind s.level.toAst)
      frames := frames
      verbose := frame.verbose }

/-- Repeats the newest item. Nothing, and a change of flags, cannot be repeated. -/
def Level.repeatLast (l : Level) (min : Nat) (max : Option Nat) (greedy : Bool) :
    Except Fault Level :=
  match l.items with
  | [] | .empty :: _ | .flags _ :: _ => .error .nothingToRepeat
  | item :: items => .ok { l with items := .repetition min max greedy item :: items }

/-- A question mark after a repetition makes it lazy. -/
def readGreed : List Char → Bool × List Char
  | '?' :: rest => (false, rest)
  | rest => (true, rest)

/-- Decimal digits, in verbose mode with blanks between them. -/
def readDigits (verbose : Bool) : (inComment : Bool) → (digits : List Char) → List Char →
    List Char × List Char
  | _, digits, [] => (digits.reverse, [])
  | inComment, digits, c :: cs =>
    if inComment then readDigits verbose (c != '\n') digits cs
    else if verbose && isBlank c && !digits.isEmpty then readDigits verbose false digits cs
    else if verbose && c == '#' && !digits.isEmpty then readDigits verbose true digits cs
    else if c.isDigit then readDigits verbose false (c :: digits) cs
    else (digits.reverse, c :: cs)

/-- Blanks after a count. In verbose mode comments may follow them. -/
def skipAfterCount (verbose : Bool) (cs : List Char) : List Char :=
  match cs with
  | c :: _ => if isBlank c then skip verbose (cs.dropWhile isBlank) else cs
  | [] => []

def decimalValue (digits : List Char) : Nat :=
  digits.foldl (fun value c => value * 10 + (c.toNat - '0'.toNat)) 0

/-- A repetition count, below `2 ^ 32`, with white space around it. There is none when no digit
is found. -/
def readCount (verbose : Bool) (cs : List Char) : Except Fault (Option Nat × List Char) :=
  let (digits, rest) := readDigits verbose false [] (cs.dropWhile isBlank)
  let rest := skipAfterCount verbose rest
  if digits.isEmpty then .ok (none, rest)
  else if decimalValue digits < 4294967296 then .ok (some (decimalValue digits), rest)
  else .error .badCount

/-- The bounds of a counted repetition, after its opening brace. -/
def readBounds (verbose : Bool) (cs : List Char) :
    Except Fault ((Nat × Option Nat) × List Char) := do
  let (low, rest) ← readCount verbose (skip verbose cs)
  let some low := low | .error .badCount
  match rest with
  | '\x7d' :: rest => return ((low, some low), rest)
  | ',' :: rest =>
    match skip verbose rest with
    | '\x7d' :: rest => return ((low, none), rest)
    | rest =>
      let (high, rest) ← readCount verbose rest
      match high, rest with
      | some high, '\x7d' :: rest =>
        if low ≤ high then return ((low, some high), rest) else .error .badCount
      | _, _ => .error .badCount
  | _ => .error .badCount

/-- Repeats the newest item, reading how greedily. -/
def ReadState.quantify (s : ReadState) (min : Nat) (max : Option Nat) (rest : List Char) :
    Except Fault (ReadState × List Char) := do
  let (greedy, rest) := readGreed rest
  return ({ s with level := ← s.level.repeatLast min max greedy }, rest)

/-- One round of reading, on text that is not empty and starts with no blank to be ignored. -/
def ReadState.step (s : ReadState) : List Char → Except Fault (ReadState × List Char)
  | [] => .ok (s, [])
  | '(' :: rest => s.openGroup rest
  | ')' :: rest => do return (← s.closeGroup, rest)
  | '|' :: rest => .ok ({ s with level := s.level.nextBranch }, rest)
  | '[' :: rest => do
    let ((negated, inner), rest) ← readClass s.verbose rest
    return (s.push (.bracketed negated inner), rest)
  | '?' :: rest => s.quantify 0 (some 1) rest
  | '*' :: rest => s.quantify 0 none rest
  | '+' :: rest => s.quantify 1 none rest
  | '\x7b' :: rest => do
    let ((low, high), rest) ← readBounds s.verbose rest
    s.quantify low high (skip s.verbose rest)
  | cs => do
    let (item, rest) ← readItem s.verbose cs
    return (s.push item.toAst, rest)

def ReadState.finish (s : ReadState) : Except Fault Ast :=
  if s.frames.isEmpty then .ok s.level.toAst else .error .unclosedGroup

def readFrom : (fuel : Nat) → ReadState → List Char → Except Fault Ast
  | 0, s, _ => s.finish
  | fuel + 1, s, cs =>
    match skip s.verbose cs with
    | [] => s.finish
    | cs => do
      let (s, rest) ← s.step cs
      readFrom fuel s rest

/-- Patterns may be nested this deep. -/
def nestLimit : Nat := 250

def Ast.ofString (pattern : String) : Except Fault Ast := do
  let cs := pattern.toList
  let ast ← readFrom (cs.length + 1) .initial cs
  if ast.depth ≤ nestLimit then return ast else .error .tooDeep

end Construe.Pattern
