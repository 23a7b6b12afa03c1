/-! # Why a pattern is refused -/
namespace Construe.Pattern

inductive Fault where
  | unclosedGroup
  | unopenedGroup
  | lookAround
  | badGroupName
  | badFlags
  | nothingToRepeat
  | badCount
  | badEscape
  | unclosedClass
  | badClass
  | unknownProperty
  | notText
  | tooDeep
  | tooLarge
deriving DecidableEq, Repr

def Fault.message : Fault → String
  | .unclosedGroup => "unclosed group"
  | .unopenedGroup => "unopened group"
  | .lookAround => "look-around is not supported"
  | .badGroupName => "invalid group name"
  | .badFlags => "invalid flags"
  | .nothingToRepeat => "repetition operator missing expression"
  | .badCount => "invalid repetition count"
  | .badEscape => "invalid escape sequence"
  | .unclosedClass => "unclosed character class"
  | .badClass => "invalid character class"
  | .unknownProperty => "unknown character property"
  | .notText => "pattern can match part of a character"
  | .tooDeep => "pattern is nested too deeply"
  | .tooLarge => "pattern is too large"

end Construe.Pattern
