import Construe.Unicode.Property
import Construe.Pattern.Program
import Construe.Pattern.Slots

/-! # Running a program over a text

The search follows the program depth first in the order of preference and never enters a node
twice at the same position: whatever a second visit could reach, the first one has reached or
will reach. -/
namespace Construe.Pattern

abbrev Text := Array Char

def Text.before? (text : Text) (pos : Nat) : Option Char :=
  if pos = 0 then none else text[pos - 1]?

def isWordChar (ascii : Bool) (c : Char) : Bool :=
  if ascii then c.isAlphanum || c == '_' else Unicode.word.contains c

def Text.wordBefore (text : Text) (ascii : Bool) (pos : Nat) : Bool :=
  (text.before? pos).any (isWordChar ascii)

def Text.wordAfter (text : Text) (ascii : Bool) (pos : Nat) : Bool :=
  text[pos]?.any (isWordChar ascii)

def Look.holds (text : Text) (pos : Nat) : Look → Bool
  | .textStart => pos == 0
  | .textEnd => pos == text.size
  | .lineStart => pos == 0 || text.before? pos == some '\n'
  | .lineEnd => pos == text.size || text[pos]? == some '\n'
  | .lineStartCrlf => pos == 0 || text.before? pos == some '\n'
    || (text.before? pos == some '\r' && text[pos]? != some '\n')
  | .lineEndCrlf => pos == text.size || text[pos]? == some '\r'
    || (text[pos]? == some '\n' && text.before? pos != some '\r')
  | .wordBoundary ascii => text.wordBefore ascii pos != text.wordAfter ascii pos
  | .notWordBoundary ascii => text.wordBefore ascii pos == text.wordAfter ascii pos
  | .wordStart ascii => !text.wordBefore ascii pos && text.wordAfter ascii pos
  | .wordEnd ascii => text.wordBefore ascii pos && !text.wordAfter ascii pos
  | .wordStartHalf ascii => !text.wordBefore ascii pos
  | .wordEndHalf ascii => !text.wordAfter ascii pos

/-- A place in the program and in the text, with the positions noted on the way, newest first. -/
structure Thread where
  address : Nat
  pos : Nat
  start : Nat
  marks : List (Nat × Nat)

structure Match where
  start : Nat
  stop : Nat
  marks : List (Nat × Nat)
deriving Repr

/-- Where a capture group begins and ends, if it took part in the match. -/
def Match.group? (m : Match) (index : Nat) : Option (Nat × Nat) := do
  return (← m.marks.lookup (2 * index), ← m.marks.lookup (2 * index + 1))

/-- The threads that follow a thread, preferred ones first. -/
def Node.step (text : Text) (t : Thread) : Node → List Thread
  | .take set next =>
    match text[t.pos]? with
    | some c => if set.contains c then [{ t with address := next, pos := t.pos + 1 }] else []
    | none => []
  | .check kind next => if kind.holds text t.pos then [{ t with address := next }] else []
  | .mark slot next => [{ t with address := next, marks := (slot, t.pos) :: t.marks }]
  | .split next => next.map fun address => { t with address }
  | .accept => []

/-- How many threads a node can hand on. -/
def Node.degree : Node → Nat
  | .split next => next.length
  | .accept => 0
  | _ => 1

/-- The nodes visited at each position, as the bits of a number. -/
abbrev Visits := Slots Nat

namespace Visits

def has (v : Visits) (t : Thread) : Bool := ((v.get? t.pos).getD 0).testBit t.address

/-- A position has no more bits than its own number. -/
def add (v : Visits) (t : Thread) : Visits :=
  v.set ((v.get? t.pos).getD 0 ||| 1 <<< t.address) t.pos t.pos

end Visits

namespace Program

/-- Follows the waiting threads in order until one accepts. When none is left, another one sets
out from the position `next`. -/
def explore (p : Program) (text : Text) :
    (fuel : Nat) → Visits → (next : Nat) → List Thread → Option Match
  | 0, _, _, _ => none
  | fuel + 1, seen, next, [] =>
    if next ≤ text.size then p.explore text fuel seen (next + 1) [⟨0, next, next, []⟩] else none
  | fuel + 1, seen, next, t :: waiting =>
    if seen.has t then p.explore text fuel seen next waiting
    else match p.nodes[t.address]? with
      | none => p.explore text fuel seen next waiting
      | some .accept => some ⟨t.start, t.pos, t.marks⟩
      | some node => p.explore text fuel (seen.add t) next (node.step text t ++ waiting)

/-- Every position sends out one thread; every pair of node and position is entered once and
hands on as many threads as the node's degree. So this many rounds are enough. -/
def rounds (p : Program) (text : Text) : Nat :=
  (text.size + 1) * (p.nodes.foldl (fun n node => n + node.degree) 2) + 1

/-- The preferred match among those that start first, at `start` or later. -/
def search (p : Program) (text : Text) (start : Nat) : Option Match :=
  p.explore text (p.rounds text) .empty start []

/-- The next match at `pos` or later. An empty match where the last one ended does not count. -/
def nextMatch (p : Program) (text : Text) (pos : Nat) (lastStop : Option Nat) : Option Match :=
  match p.search text pos with
  | none => none
  | some m =>
    if m.start == m.stop && some m.stop == lastStop then p.search text (pos + 1) else some m

/-- All matches from left to right, none overlapping. -/
def matchesFrom (p : Program) (text : Text) : (fuel : Nat) → (pos : Nat) →
    (lastStop : Option Nat) → List Match
  | 0, _, _ => []
  | fuel + 1, pos, lastStop =>
    match p.nextMatch text pos lastStop with
    | none => []
    | some m => m :: p.matchesFrom text fuel m.stop (some m.stop)

def matchList (p : Program) (text : Text) : List Match :=
  p.matchesFrom text (text.size + 2) 0 none

end Program

/-- The pieces of a text between matches. -/
def pieces (text : Text) : (pos : Nat) → List Match → List Text
  | pos, [] => [text.extract pos text.size]
  | pos, m :: ms => text.extract pos m.start :: pieces text m.stop ms

end Construe.Pattern
