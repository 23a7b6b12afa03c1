import Construe.Number.Binary

/-! # Types and values

A type is a scalar, a list, or declared by name. Declared types carry payloads of the host's
choosing, so values are generic in them. -/
namespace Construe

inductive Scalar where
  | text
  | bool
  | char
  | int (kind : IntKind)
  | float (kind : FloatKind)
deriving DecidableEq, Repr

inductive TypeRef where
  | scalar (kind : Scalar)
  | list (item : TypeRef)
  | declared (name : String)
deriving DecidableEq, Repr

/-- How the types without a declaration are called in messages. -/
structure Naming where
  text : String
  list : String → String

def TypeRef.name (names : Naming) : TypeRef → String
  | .scalar .text => names.text
  | .scalar .bool => "bool"
  | .scalar .char => "char"
  | .scalar (.int kind) => kind.name
  | .scalar (.float kind) => kind.name
  | .list item => names.list (item.name names)
  | .declared name => name

/-- A type with the types it is a list of. -/
def TypeRef.layers : TypeRef → List TypeRef
  | .list item => .list item :: item.layers
  | t => [t]

/-- Floating-point numbers are kept as their bits. -/
inductive Value (α : Type) where
  | text (content : String)
  | bool (content : Bool)
  | char (content : Char)
  | int (kind : IntKind) (content : Int)
  | float (kind : FloatKind) (bits : Nat)
  | list (item : TypeRef) (items : List (Value α))
  | made (type : String) (payload : α)

def Value.type : Value α → TypeRef
  | .text _ => .scalar .text
  | .bool _ => .scalar .bool
  | .char _ => .scalar .char
  | .int kind _ => .scalar (.int kind)
  | .float kind _ => .scalar (.float kind)
  | .list item _ => .list item
  | .made type _ => .declared type

/-- Reads a text as a value; none if it is not the text of one. -/
abbrev Converter (α : Type) := String → Option (Value α)

end Construe
