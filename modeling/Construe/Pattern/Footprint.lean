import Construe.Pattern.Program
import Construe.Pattern.Slots
import Construe.Pattern.Utf8

/-! # The size of a compiled pattern

A pattern is refused when its automaton over UTF-8 bytes would take more than ten mebibytes, read
forwards or backwards. A state takes 32 bytes, a byte range of a state with several of them 8
more, and a way out of a branching state 4 more. The automaton is not built: its states are
counted in the order in which they would be numbered. -/
namespace Construe.Pattern

inductive Direction where
  | forward
  | backward
deriving DecidableEq, Repr

/-- States counted so far, and the bytes they take beyond their own. -/
structure Tally where
  states : Nat
  extra : Nat
deriving DecidableEq, Repr

def sizeLimit : Nat := 10 * 1024 * 1024

namespace Tally

def zero : Tally := ⟨0, 0⟩

def bytes (t : Tally) : Nat := 32 * t.states + t.extra

def plus (t u : Tally) : Tally := ⟨t.states + u.states, t.extra + u.extra⟩

def sum (ts : List Tally) : Tally := ts.foldl plus zero

end Tally

/-- Counting, which gives up beyond the limit. -/
abbrev Count := StateT Tally Option

def count (more : Tally) : Count Unit := fun t =>
  if (t.plus more).bytes ≤ sizeLimit then some ((), t.plus more) else none

/-- Counts a state; the result is its number. -/
def newState (extra : Nat) : Count Nat := do
  let t ← get
  count ⟨1, extra⟩
  return t.states

/-- Counts ways out of a branching state. -/
def ways (n : Nat) : Count Unit := count ⟨0, 4 * n⟩

/-- How code ends: in a state that has one way out anyway, or in a branching one. -/
inductive Exit where
  | single
  | branching
deriving DecidableEq, Repr

/-- Joins code to what follows it. -/
def Exit.link : Exit → Count Unit
  | .single => pure ()
  | .branching => ways 1

/-- Counting with a memory of states that may be used again. A state is remembered in the slot of
its hash until another one takes the slot. -/
abbrev Sharing (κ : Type) := StateT (Slots (κ × Nat)) Count

/-- The hash of a list of numbers. -/
def hashOf (key : List Nat) : UInt64 :=
  key.foldl (fun h n => (h ^^^ n.toUInt64) * 1099511628211) 14695981039346656037

/-- Counts a state that is not remembered, and remembers it. -/
def freshState (slot : Nat) (key : κ) (extra : Nat) : Sharing κ Nat := do
  let id ← newState extra
  modify fun slots => slots.set (key, id) 16 slot
  return id

/-- The number of the state with this key, remembered or new. -/
def sharedState [BEq κ] (slots : Nat) (numbers : List Nat) (key : κ) (extra : Nat) :
    Sharing κ Nat := do
  let slot := (hashOf numbers).toNat % slots
  match (← get).get? slot with
  | some (known, id) => if known == key then return id else freshState slot key extra
  | none => freshState slot key extra

/-- Byte ranges with the state each leads to. -/
abbrev ByteNode := List (ByteRange × Nat)

/-- Gathers neighbours that begin with the same byte range. -/
def groupByHead (seqs : List (List ByteRange)) : List (ByteRange × List (List ByteRange)) :=
  seqs.foldr (fun seq groups =>
    match seq, groups with
    | head :: tail, (head', tails) :: rest =>
      if head == head' then (head, tail :: tails) :: rest else (head, [tail]) :: groups
    | head :: tail, [] => [(head, [tail])]
    | [], _ => groups) []

/-- Counts the states that read some sequences forwards up to the state `target`. Sequences have
fewer than `fuel` bytes. -/
def shareNode (target : Nat) : (fuel : Nat) → List (List ByteRange) → Sharing ByteNode Nat
  | 0, _ => pure target
  | fuel + 1, seqs =>
    if seqs.all List.isEmpty then pure target else do
      let node ← (groupByHead seqs).mapM fun (head, tails) => do
        return (head, ← shareNode target fuel tails)
      sharedState 10000 (node.flatMap fun (range, next) => [range.1, range.2, next]) node
        (8 * node.length)

/-- Counts the states that read one sequence backwards; `next` is the state after it. -/
def shareChain (next : Nat) : List ByteRange → Sharing (Nat × ByteRange) Unit
  | [] => ways 1
  | range :: rest => do
    let id ← sharedState 1000 [next, range.1, range.2] (next, range) 0
    shareChain id rest

def countClass (d : Direction) (s : CharSet) : Count Exit := do
  if s.isAscii then count ⟨2, 8 * s.ranges.length⟩
  else
    match d with
    | .forward =>
      let target ← newState 0
      let _ ← (shareNode target 5 (utf8Of s)).run .empty
    | .backward =>
      let _ ← newState 0
      let last ← newState 0
      let _ ← ((utf8Of s).forM (shareChain last)).run .empty
  return .single

/-- Cuts a list of words at the empty ones. At the front a second empty word says nothing new. -/
def cutAtEmpty : List (List Nat) → List (List (List Nat))
  | [] => [[]]
  | [] :: rest => [] :: cutAtEmpty rest
  | word :: rest =>
    match cutAtEmpty rest with
    | chunk :: chunks => (word :: chunk) :: chunks
    | [] => [[word]]

def trieChunks (words : List (List Nat)) : List (List (List Nat)) :=
  match words with
  | [] :: rest => [] :: cutAtEmpty (rest.dropWhile List.isEmpty)
  | words => cutAtEmpty words

/-- What follows each of the bytes that some word begins with. -/
def restsByByte (words : List (List Nat)) : List (List (List Nat)) :=
  (words.filterMap List.head?).eraseDups.map fun byte =>
    words.filterMap fun word => if word.head? = some byte then some word.tail else none

/-- Counts the states that read one of several words, the earlier the better. Words begin alike
share states as long as no word between them ends there. Words have fewer than `fuel` bytes. -/
def countTrie : (fuel : Nat) → List (List Nat) → Tally
  | 0, _ => .zero
  | fuel + 1, words =>
    if words.all List.isEmpty then .zero else
    let chunks := (trieChunks words).map restsByByte
    let below := Tally.sum (chunks.map fun chunk => .sum (chunk.map (countTrie fuel)))
    let heads := chunks.filter (!·.isEmpty)
    let ranges := Tally.sum (heads.map fun chunk =>
      ⟨1, if chunk.length = 1 then 0 else 8 * chunk.length⟩)
    below.plus (ranges.plus ⟨1, 4 * (heads.length + (chunks.length - 1))⟩)

def countWords (d : Direction) (texts : List (List Char)) : Count Exit := do
  let words := texts.map fun text =>
    if d = .forward then textBytes text else (textBytes text).reverse
  let longest := words.foldl (fun n word => max n word.length) 0
  count ⟨1, 0⟩
  count (countTrie (longest + 1) words)
  return .single

/-- Counts copies that follow code with the given exit. -/
def countCopies (body : Count Exit) : (n : Nat) → Exit → Count Exit
  | 0, exit => pure exit
  | n + 1, exit => do
    let next ← body
    exit.link
    countCopies body n next

def countExactly (body : Count Exit) : (n : Nat) → Count Exit
  | 0 => do
    count ⟨1, 0⟩
    return .single
  | n + 1 => do
    let exit ← body
    countCopies body n exit

/-- Counts copies each of which may be skipped with all that follow it. -/
def countOptional (body : Count Exit) : (n : Nat) → Exit → Count Exit
  | 0, exit => do
    exit.link
    return .single
  | n + 1, exit => do
    count ⟨1, 8⟩
    let next ← body
    exit.link
    countOptional body n next

/-- Counts a repetition, by its body's count and by whether the body always takes some text. -/
def countRep (body : Count Exit) (takesSome : Bool) (min : Nat) (max : Option Nat) :
    Count Exit := do
  match min, max with
  | 0, some 1 =>
    count ⟨2, 8⟩
    (← body).link
    return .single
  | 0, none =>
    if takesSome then
      count ⟨1, 4⟩
      (← body).link
      return .branching
    else
      (← body).link
      count ⟨3, 16⟩
      return .single
  | 1, none =>
    (← body).link
    count ⟨1, 4⟩
    return .branching
  | min, none =>
    (← countExactly body (min - 1)).link
    (← body).link
    count ⟨1, 4⟩
    return .branching
  | min, some max =>
    let exit ← countExactly body min
    if min = max then return exit
    else
      count ⟨1, 0⟩
      countOptional body (max - min) exit

def Expr.text? : Expr → Option (List Char)
  | .literal text => some text
  | _ => none

mutual

def Expr.count (d : Direction) : Expr → Count Exit
  | .empty | .look _ => do
    Pattern.count ⟨1, 0⟩
    return .single
  | .literal text => do
    Pattern.count ⟨(textBytes text).length, 0⟩
    return .single
  | .chars set | .bytes set => countClass d set
  | .rep min max _ body => countRep (body.count d) body.takesSome min max
  | .capture _ _ body => do
    match d with
    | .forward =>
      Pattern.count ⟨1, 0⟩
      (← body.count d).link
      Pattern.count ⟨1, 0⟩
      return .single
    | .backward => body.count d
  | .concat parts => do
    match ← Expr.countAll d parts none with
    | some exit => return exit
    | none =>
      Pattern.count ⟨1, 0⟩
      return .single
  | .alt branches => do
    match branches.mapM Expr.text? with
    | some texts => countWords d texts
    | none =>
      Expr.countBranches d 0 branches
      return .single

/-- Counts a sequence in the direction of reading, after code with the exit `before`. -/
def Expr.countAll (d : Direction) : List Expr → (before : Option Exit) → Count (Option Exit)
  | [], before => pure before
  | e :: es, before => do
    match d with
    | .forward =>
      let exit ← e.count d
      before.forM Exit.link
      Expr.countAll d es (some exit)
    | .backward =>
      let before ← Expr.countAll d es before
      let exit ← e.count d
      before.forM Exit.link
      return some exit

/-- Counts branches; the states that open and close the choice come after the second one. -/
def Expr.countBranches (d : Direction) : (index : Nat) → List Expr → Count Unit
  | _, [] => pure ()
  | index, e :: es => do
    (← e.count d).link
    Pattern.count ⟨if index = 1 then 2 else 0, 4⟩
    Expr.countBranches d (index + 1) es

end

/-- Whether one of the first parts is bound to the end of the text, the parts before it taking
no text. -/
def leadsBound : List (Bool × Bool) → Bool
  | [] => false
  | (bound, hollow) :: rest => bound || (hollow && leadsBound rest)

mutual

/-- Whether every match begins, in the direction of reading, at the end of the text. -/
def Expr.isBound (d : Direction) : Expr → Bool
  | .look .textStart => d == .forward
  | .look .textEnd => d == .backward
  | .rep min _ _ body => 0 < min && body.isBound d
  | .capture _ _ body => body.isBound d
  | .concat parts =>
    let marks := (Expr.boundAll d parts).zip (parts.map fun e => e.maxLength? == some 0)
    leadsBound (if d = .forward then marks else marks.reverse)
  | .alt branches => !branches.isEmpty && (Expr.boundAll d branches).all id
  | _ => false

def Expr.boundAll (d : Direction) : List Expr → List Bool
  | [] => []
  | e :: es => e.isBound d :: Expr.boundAll d es

end

/-- Counts a whole automaton: a loop in front to find the match unless its place is bound, the
expression, forwards between two states that note the match, and the end. -/
def Expr.countWhole (d : Direction) (e : Expr) : Count Unit := do
  Pattern.count (if e.isBound d then ⟨1, 0⟩ else ⟨3, 16⟩)
  match d with
  | .forward =>
    Pattern.count ⟨1, 0⟩
    (← e.count d).link
    Pattern.count ⟨2, 0⟩
  | .backward =>
    (← e.count d).link
    Pattern.count ⟨1, 0⟩

/-- Counts several expressions without groups, each with the state that notes its match; the
states that lead to them and on from them come after the second one. -/
def Expr.countEach (d : Direction) : (index : Nat) → List Expr → Count Unit
  | _, [] => pure ()
  | index, e :: es => do
    (← e.count d).link
    Pattern.count ⟨if index = 1 then 3 else 1, 4⟩
    Expr.countEach d (index + 1) es

/-- Counts an automaton that looks for several expressions without groups at once. -/
def Expr.countTogether (d : Direction) (es : List Expr) : Count Unit := do
  Pattern.count (if es.all (·.isBound d) then ⟨1, 0⟩ else ⟨3, 16⟩)
  match es with
  | [] => Pattern.count ⟨1, 0⟩
  | [e] =>
    (← e.count d).link
    Pattern.count ⟨1, 0⟩
  | es => Expr.countEach d 0 es

/-- Whether the automaton keeps to the limit in both directions. -/
def Expr.fits (e : Expr) : Bool :=
  ((e.countWhole .forward).run .zero).isSome && ((e.countWhole .backward).run .zero).isSome

/-- Whether expressions that are looked for at once keep to the limit together. -/
def Expr.fitTogether (es : List Expr) : Bool :=
  ((Expr.countTogether .forward es).run .zero).isSome
    && ((Expr.countTogether .backward es).run .zero).isSome

end Construe.Pattern
