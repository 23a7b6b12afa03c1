import Construe.TypeRef

/-! # Converters of the scalar types -/
namespace Construe.Scalar

/-- `true` or `false` in any letter case. -/
def readBool? (input : String) : Option Bool :=
  match input.toList.map Char.toLower with
  | ['t', 'r', 'u', 'e'] => some true
  | ['f', 'a', 'l', 's', 'e'] => some false
  | _ => none

/-- Exactly one character. -/
def readChar? (input : String) : Option Char :=
  match input.toList with
  | [c] => some c
  | _ => none

def convert (kind : Scalar) : Converter α := fun input =>
  match kind with
  | .text => some (.text input)
  | .bool => (readBool? input).map .bool
  | .char => (readChar? input).map .char
  | .int kind => (kind.read? input).map (.int kind)
  | .float kind => (kind.read? input).map (.float kind)

def all : List Scalar :=
  [.text, .bool, .char] ++ IntKind.all.map .int ++ [.float .single, .float .double]

end Construe.Scalar
