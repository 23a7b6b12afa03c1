import Construe.Number.Integer

/-! # Decimal text as binary floating point

A decimal is read exactly, as a fraction, and rounded once: to the nearest number of the format,
a tie going to the even one. Numbers are kept as the bits of the format. -/
namespace Construe

/-- A binary interchange format by the widths of its fields. -/
structure FloatKind where
  exponentBits : Nat
  fractionBits : Nat
deriving DecidableEq, Repr

namespace FloatKind

def single : FloatKind := ⟨8, 23⟩
def double : FloatKind := ⟨11, 52⟩

def width (k : FloatKind) : Nat := 1 + k.exponentBits + k.fractionBits

def name (k : FloatKind) : String := "f" ++ toString k.width

def infinity (k : FloatKind) : Nat := (Nat.pow 2 k.exponentBits - 1) * Nat.pow 2 k.fractionBits

def nan (k : FloatKind) : Nat := k.infinity + Nat.pow 2 (k.fractionBits - 1)

def signBit (k : FloatKind) : Nat := Nat.pow 2 (k.width - 1)

def isNaN (k : FloatKind) (bits : Nat) : Bool := k.infinity < bits % k.signBit

/-- A quotient rounded to the nearest whole number, a tie to the even one. -/
def roundQuotient (num den : Nat) : Nat :=
  let q := num / den
  let twice := 2 * (num % den)
  if twice < den then q else if den < twice then q + 1 else q + q % 2

/-- The exponent of the lowest bit that a number of the format keeps, when the number is the
fraction `num / den`. It is shifted by `shift` to be a natural number. -/
def shift (k : FloatKind) : Nat := Nat.pow 2 (k.exponentBits - 1) - 2 + k.fractionBits

/-- The bits of `num / den`, both positive. The number is measured in units of the least one of
the format, `2 ^ - shift`; above the first binades the unit is doubled until the quotient fits
the fraction field with its leading bit. -/
def ofFraction (k : FloatKind) (num den : Nat) : Nat :=
  let scaled := num * Nat.pow 2 k.shift
  let excess := (scaled / den).log2 - k.fractionBits
  let q := roundQuotient scaled (den * Nat.pow 2 excess)
  min k.infinity (q + excess * Nat.pow 2 k.fractionBits)

/-- Decimal exponents beyond this, counted from the first digit, are off the scale of every
format. -/
def exponentBound : Int := 1000

/-- The bits of `mantissa * 10 ^ exponent`, where `digits` bounds the digits of the mantissa. -/
def ofDecimal (k : FloatKind) (mantissa : Nat) (digits : Nat) (exponent : Int) : Nat :=
  if mantissa = 0 then 0
  else if exponentBound < exponent then k.infinity
  else if exponent + digits < -exponentBound then 0
  else if 0 ≤ exponent then k.ofFraction (mantissa * Nat.pow 10 exponent.toNat) 1
  else k.ofFraction mantissa (Nat.pow 10 (-exponent).toNat)

def lowerText (cs : List Char) : String := String.ofList (cs.map Char.toLower)

/-- An exponent with an optional sign. -/
def readExponent? : List Char → Option Int
  | [] => some 0
  | c :: cs =>
    if c != 'e' && c != 'E' then none else
    match cs with
    | '+' :: ds => (IntKind.digitsValue? ds).map Int.ofNat
    | '-' :: ds => (IntKind.digitsValue? ds).map fun n => -(n : Int)
    | ds => (IntKind.digitsValue? ds).map Int.ofNat

/-- Digits with a point and an exponent, both optional; at least one digit is needed. -/
def readDecimal? (k : FloatKind) (cs : List Char) : Option Nat := do
  let whole := cs.takeWhile Char.isDigit
  let rest := cs.dropWhile Char.isDigit
  let (fraction, rest) := match rest with
    | '.' :: rest => (rest.takeWhile Char.isDigit, rest.dropWhile Char.isDigit)
    | rest => ([], rest)
  let mantissa ← IntKind.digitsValue? (whole ++ fraction)
  let exponent ← readExponent? rest
  return k.ofDecimal mantissa (whole ++ fraction).length (exponent - fraction.length)

/-- The magnitude of an unsigned text. -/
def readMagnitude? (k : FloatKind) (cs : List Char) : Option Nat :=
  match lowerText cs with
  | "inf" | "infinity" => some k.infinity
  | "nan" => some k.nan
  | _ => k.readDecimal? cs

/-- The bits of a number's text. -/
def read? (k : FloatKind) (text : String) : Option Nat :=
  match text.toList with
  | '+' :: cs => k.readMagnitude? cs
  | '-' :: cs => (k.readMagnitude? cs).map (k.signBit + ·)
  | cs => k.readMagnitude? cs

end FloatKind

end Construe
