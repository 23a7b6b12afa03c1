import Construe.CharSet

/-! # Sets as UTF-8

A range of code points is cut into parts whose UTF-8 forms are products of byte ranges. -/
namespace Construe.Pattern

/-- An inclusive range of bytes. -/
abbrev ByteRange := Nat × Nat

/-- Where a range of code points has to be cut so that its UTF-8 forms are a product of byte
ranges: the end of the first part and the start of the second. -/
def cutPoint? (lo hi : Nat) : Option (Nat × Nat) :=
  if lo < 0xE000 && 0xD7FF < hi then some (0xD7FF, 0xE000) else
  match [0x7F, 0x7FF, 0xFFFF].find? fun m => lo ≤ m && m < hi with
  | some m => some (m, m + 1)
  | none =>
    if hi ≤ 0x7F then none else
    ([0x40, 0x1000, 0x40000].findSome? fun block =>
      if lo / block == hi / block then none
      else if lo % block != 0 then some (lo / block * block + (block - 1))
      else if hi % block != block - 1 then some (hi / block * block - 1)
      else none).map fun m => (m, m + 1)

def utf8Bytes (n : Nat) : List Nat :=
  if n ≤ 0x7F then [n]
  else if n ≤ 0x7FF then [0xC0 + n / 0x40, 0x80 + n % 0x40]
  else if n ≤ 0xFFFF then [0xE0 + n / 0x1000, 0x80 + n / 0x40 % 0x40, 0x80 + n % 0x40]
  else [0xF0 + n / 0x40000, 0x80 + n / 0x1000 % 0x40, 0x80 + n / 0x40 % 0x40, 0x80 + n % 0x40]

/-- A range of code points as sequences of byte ranges, in ascending order. -/
def utf8Sequences : (fuel : Nat) → (lo hi : Nat) → List (List ByteRange)
  | 0, _, _ => []
  | fuel + 1, lo, hi =>
    if hi < lo then [] else
    match cutPoint? lo hi with
    | some (last, first) => utf8Sequences fuel lo last ++ utf8Sequences fuel first hi
    | none => [(utf8Bytes lo).zip (utf8Bytes hi)]

/-- A set as sequences of byte ranges, in ascending order. -/
def utf8Of (s : CharSet) : List (List ByteRange) :=
  s.ranges.flatMap fun r => utf8Sequences 32 r.lo r.hi

/-- The bytes of a text. -/
def textBytes (text : List Char) : List Nat := text.flatMap fun c => utf8Bytes c.toNat

end Construe.Pattern
