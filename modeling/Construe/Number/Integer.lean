/-! # Integers of fixed width as text -/
namespace Construe

/-- A kind of machine integer. `size` kinds have the width of an address. -/
structure IntKind where
  signed : Bool
  width : Option Nat
deriving DecidableEq, Repr

namespace IntKind

/-- Bits of an integer; an address has 64. -/
def bits (k : IntKind) : Nat := k.width.getD 64

def name (k : IntKind) : String :=
  (if k.signed then "i" else "u") ++ (k.width.elim "size" toString)

def least (k : IntKind) : Int := if k.signed then -(Nat.pow 2 (k.bits - 1) : Int) else 0

def greatest (k : IntKind) : Int :=
  (Nat.pow 2 (if k.signed then k.bits - 1 else k.bits) : Int) - 1

def holds (k : IntKind) (n : Int) : Bool := k.least ≤ n && n ≤ k.greatest

/-- The value of ASCII digits; none without digits or with other characters. -/
def digitsValue? : List Char → Option Nat
  | [] => none
  | cs => if cs.all Char.isDigit then
      some (cs.foldl (fun n c => n * 10 + (c.toNat - '0'.toNat)) 0)
    else none

/-- A decimal number in the range of its kind. A plus sign is allowed, a minus sign for signed
kinds only. -/
def read? (k : IntKind) (text : String) : Option Int := do
  let n : Int ← match text.toList with
    | '+' :: cs => (digitsValue? cs).map Int.ofNat
    | '-' :: cs => if k.signed then (digitsValue? cs).map fun n => -(n : Int) else none
    | cs => (digitsValue? cs).map Int.ofNat
  if k.holds n then some n else none

/-- All kinds, the signed ones first. -/
def all : List IntKind :=
  [true, false].flatMap fun signed =>
    [some 8, some 16, some 32, some 64, some 128, none].map fun width => ⟨signed, width⟩

end IntKind

end Construe
