/-! # Sets of characters

A set is written as its inclusive code-point ranges, in ascending order. A range may run across
the surrogates, which are no characters; `next` and `prev` step over them. Ranges whose code
points touch are joined, so U+D7FF and U+E000 stay two ranges although no character lies between
them. -/
namespace Construe

structure CharRange where
  lo : Nat
  hi : Nat
deriving DecidableEq, Repr

/-- The last code point. -/
def maxCode : Nat := 0x10FFFF

/-- The character after a character. -/
def nextCode (n : Nat) : Nat := if n = 0xD7FF then 0xE000 else n + 1

/-- The character before a character. -/
def prevCode (n : Nat) : Nat := if n = 0xE000 then 0xD7FF else n - 1

namespace CharRange

/-- The range with these two ends, whichever is the lower one. -/
def between (m n : Nat) : CharRange := ⟨min m n, max m n⟩

def covers (r : CharRange) (n : Nat) : Bool := r.lo ≤ n && n ≤ r.hi

/-- The common part of two ranges. -/
def inter? (r s : CharRange) : Option CharRange :=
  if max r.lo s.lo ≤ min r.hi s.hi then some ⟨max r.lo s.lo, min r.hi s.hi⟩ else none

/-- What is left of a range below and above another one. -/
def minus (r s : CharRange) : List CharRange :=
  if r.hi < s.lo || s.hi < r.lo then [r]
  else
    (if r.lo < s.lo then [⟨r.lo, prevCode s.lo⟩] else [])
      ++ (if s.hi < r.hi then [⟨nextCode s.hi, r.hi⟩] else [])

end CharRange

structure CharSet where
  ranges : List CharRange
deriving DecidableEq, Repr

namespace CharSet

def contains (s : CharSet) (c : Char) : Bool := s.ranges.any (·.covers c.toNat)

instance : Membership Char CharSet := ⟨fun s c => s.contains c = true⟩

instance (c : Char) (s : CharSet) : Decidable (c ∈ s) :=
  inferInstanceAs (Decidable (s.contains c = true))

def empty : CharSet := ⟨[]⟩

def isEmpty (s : CharSet) : Bool := s.ranges.isEmpty

def all : CharSet := ⟨[⟨0, maxCode⟩]⟩

/-- Puts a range in front of the first one of a list that starts later; `rest` goes on after it. -/
def placeThen (r : CharRange) (rest : List CharRange → List CharRange) :
    List CharRange → List CharRange
  | [] => r :: rest []
  | s :: ss => if r.lo ≤ s.lo then r :: rest (s :: ss) else s :: placeThen r rest ss

/-- Two lists of ranges by ascending start. -/
def merge : List CharRange → List CharRange → List CharRange
  | [] => id
  | r :: rs => placeThen r (merge rs)

/-- Joins a range with those after it that it overlaps or touches. -/
def joinInto (r : CharRange) : List CharRange → List CharRange
  | [] => [r]
  | s :: rest =>
    if s.lo ≤ r.hi + 1 then joinInto ⟨r.lo, max r.hi s.hi⟩ rest else r :: joinInto s rest

/-- Joins ranges, given by ascending start, that overlap or touch. -/
def join : List CharRange → List CharRange
  | [] => []
  | r :: rest => joinInto r rest

def union (s t : CharSet) : CharSet := ⟨join (merge s.ranges t.ranges)⟩

/-- The set covered by arbitrary ranges, whatever their order. -/
def ofRanges (rs : List CharRange) : CharSet :=
  ⟨join (rs.foldr (fun r sorted => placeThen r id sorted) [])⟩

def ofRange (lo hi : Char) : CharSet := ⟨[⟨lo.toNat, hi.toNat⟩]⟩

def singleton (c : Char) : CharSet := .ofRange c c

def ofList (cs : List Char) : CharSet := .ofRanges (cs.map fun c => ⟨c.toNat, c.toNat⟩)

def inter (s t : CharSet) : CharSet :=
  ⟨s.ranges.flatMap fun r => t.ranges.filterMap r.inter?⟩

def diff (s t : CharSet) : CharSet :=
  ⟨s.ranges.flatMap fun r => t.ranges.foldl (fun parts u => parts.flatMap (·.minus u)) [r]⟩

def symmDiff (s t : CharSet) : CharSet := diff (union s t) (inter s t)

/-- The gaps after a range that ends at `last`. Between U+D7FF and U+E000 no character is left;
the gap between ranges that end and start there consists of just these two. -/
def gapsAfter : (last : Nat) → List CharRange → List CharRange
  | last, [] => if last < maxCode then [⟨nextCode last, maxCode⟩] else []
  | last, r :: rest => .between (nextCode last) (prevCode r.lo) :: gapsAfter r.hi rest

/-- The gaps before, between and after the ranges. -/
def complement (s : CharSet) : CharSet :=
  match s.ranges with
  | [] => all
  | r :: rest => ⟨(if 0 < r.lo then [⟨0, prevCode r.lo⟩] else []) ++ gapsAfter r.hi rest⟩

/-- The complement when `negated`, else the set itself. -/
def negateIf (negated : Bool) (s : CharSet) : CharSet := if negated then s.complement else s

/-- Whether every member is an ASCII character. -/
def isAscii (s : CharSet) : Bool := s.ranges.all (·.hi ≤ 0x7F)

/-- The only member, when there is exactly one. -/
def single? (s : CharSet) : Option Char :=
  match s.ranges with
  | [r] => if r.lo = r.hi then some (Char.ofNat r.lo) else none
  | _ => none

/-- Tables are written as numerals that hold several ranges each, a bound being six hexadecimal
digits and the first range standing leftmost. `fuel` bounds the ranges of one numeral. -/
def unpack : (fuel : Nat) → Nat → List CharRange → List CharRange
  | 0, _, acc => acc
  | fuel + 1, n, acc =>
    if n = 0 then acc
    else unpack fuel (n / 0x1000000000000) (⟨n / 0x1000000 % 0x1000000, n % 0x1000000⟩ :: acc)

/-- The set of a table of packed ranges. The ranges ascend from numeral to numeral. -/
def ofPacked (rows : List Nat) : CharSet := ⟨rows.flatMap fun row => unpack 8 row []⟩

/-- The union of several sets. -/
def unionAll (sets : List CharSet) : CharSet := sets.foldl union empty

end CharSet

end Construe
