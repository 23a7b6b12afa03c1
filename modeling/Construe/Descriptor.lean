import Construe.Pattern.Basic
import Construe.Error

/-! # What a type declares about its texts

A descriptor lists a type's own binding (a pattern over its primary constructor), the variants it
is made of, further bindings, or the items it is a list of. Nothing is looked up here; resolution
does that. -/
namespace Construe

/-- A constructor parameter. `pattern` replaces the bindings its type declares, for a list those
of its items; `separator` is what the items of a list stand between. -/
structure Param where
  type : TypeRef
  pattern : Option String := none
  separator : Option String := none
deriving DecidableEq, Repr

/-- Checks types from the given index on. -/
def checkTypes : (index : Nat) → List TypeRef → List (Value α) → Except ConstructionFailure Unit
  | index, type :: types, value :: values =>
    if value.type = type then checkTypes (index + 1) types values
    else .error (.argumentType index type)
  | index, _ :: _, [] => .error (.missingArgument index)
  | _, [], _ => .ok ()

/-- Values as the arguments of parameters of the given types. -/
def takeArguments (types : List TypeRef) (values : List (Value α)) :
    Except ConstructionFailure (List (Value α)) := do
  if values.length ≠ types.length then .error (.arity types.length values.length)
  else
    checkTypes 0 types values
    return values

/-- Parameters with the step that makes a payload of their values. `unknownOptions` keeps the
indices of options that named no parameter. -/
structure Constructor (α : Type) where
  params : List Param
  make : List (Value α) → Except ConstructionFailure α
  unknownOptions : List Nat := []

namespace Constructor

def ofTypes (types : List TypeRef) (make : List (Value α) → Except ConstructionFailure α) :
    Constructor α where
  params := types.map fun type => { type }
  make

def arity (c : Constructor α) : Nat := c.params.length

def modifyParam (c : Constructor α) (index : Nat) (f : Param → Param) : Constructor α :=
  if index < c.arity then { c with params := c.params.modify index f }
  else { c with unknownOptions := c.unknownOptions ++ [index] }

/-- Gives a parameter a pattern of its own. -/
def paramPattern (c : Constructor α) (index : Nat) (pattern : String) : Constructor α :=
  c.modifyParam index fun p => { p with pattern := some pattern }

/-- Gives a list parameter a separator of its own. -/
def paramSeparator (c : Constructor α) (index : Nat) (separator : String) : Constructor α :=
  c.modifyParam index fun p => { p with separator := some separator }

/-- Makes a value of the named type of interpreted arguments. -/
def construct (c : Constructor α) (type : String) (values : List (Value α)) :
    Except ConstructionFailure (Value α) := do
  let arguments ← takeArguments (c.params.map Param.type) values
  return .made type (← c.make arguments)

end Constructor

structure Binding (α : Type) where
  pattern : String
  constructor : Constructor α

/-- A type whose values can be lifted to those of the declaring type. -/
structure Variant (α : Type) where
  type : TypeRef
  lift : Value α → α

/-- Makes a value of the named type of a variant's value. -/
def Variant.wrap (v : Variant α) (type : String) (value : Value α) :
    Except ConstructionFailure (Value α) :=
  if value.type = v.type then .ok (.made type (v.lift value))
  else .error (.argumentType 0 v.type)

/-- A list type: its items, and how they are put together. -/
structure Sequence (α : Type) where
  item : TypeRef
  gather : List (Value α) → Value α

def Sequence.collect (s : Sequence α) (values : List (Value α)) :
    Except ConstructionFailure (Value α) := do
  checkTypes 0 (values.map fun _ => s.item) values
  return s.gather values

structure Descriptor (α : Type) where
  pattern : Option String := none
  constructor : Option (Constructor α) := none
  variants : List (Variant α) := []
  alternates : List (Binding α) := []
  sequence : Option (Sequence α) := none

namespace Descriptor

/-- Nothing is declared: only a converter can make such values. -/
def bare : Descriptor α := {}

def withPattern (d : Descriptor α) (pattern : String) : Descriptor α :=
  { d with pattern := some pattern }

def withConstructor (d : Descriptor α) (c : Constructor α) : Descriptor α :=
  { d with constructor := some c }

def addVariant (d : Descriptor α) (v : Variant α) : Descriptor α :=
  { d with variants := d.variants ++ [v] }

def addAlternate (d : Descriptor α) (b : Binding α) : Descriptor α :=
  { d with alternates := d.alternates ++ [b] }

def isBare (d : Descriptor α) : Bool :=
  d.pattern.isNone && d.variants.isEmpty && d.alternates.isEmpty && d.sequence.isNone

/-- The declared pattern over the primary constructor. -/
def ownBinding? (d : Descriptor α) : Option (Binding α) := do
  return ⟨← d.pattern, ← d.constructor⟩

theorem constructor_of_ownBinding? {d : Descriptor α} (own : d.ownBinding? = some b) :
    d.constructor = some b.constructor := by
  simp only [ownBinding?, Option.bind_eq_bind, Option.bind_eq_some_iff] at own
  obtain ⟨_, _, constructor, found, same⟩ := own
  cases same
  exact found

/-- A pattern is declared and nothing to bind it to. -/
def lacksConstructor (d : Descriptor α) : Bool := d.pattern.isSome && d.constructor.isNone

def parameterTypes (d : Descriptor α) : List TypeRef :=
  d.constructor.elim [] fun c => c.params.map Param.type

def ofSequence (s : Sequence α) : Descriptor α := { sequence := some s }

/-- The pattern that matches any of some words in any letter case, and captures it. -/
def keywordPattern (words : List String) : String :=
  "(?i)(" ++ String.intercalate "|" (words.map Pattern.escape) ++ ")"

/-- The pattern that matches a whole text if it is the word, in any letter case. -/
def wordPattern (word : String) : String := "(?i)\\A(?:" ++ Pattern.escape word ++ ")\\z"

/-- What is said when the words are too many to be compiled. -/
def wordsTooLarge : String :=
  s!"Compiled regex exceeds size limit of {Pattern.sizeLimit} bytes."

/-- The payload of the first word whose matcher matches the input. -/
def findKeyword (type : String) (matchers : Except Pattern.Fault (List Pattern))
    (payloads : List α) (input : String) : Except ConstructionFailure α :=
  match matchers with
  | .error _ => .error (.rejected wordsTooLarge)
  | .ok matchers =>
    match (matchers.zip payloads).find? fun m => m.1.isMatch input with
    | some (_, payload) => .ok payload
    | none => .error (.rejected s!"`{input}` is not a keyword of `{type}`")

/-- Every word has a matcher of its own, compiled once. -/
def keywordConstructor (type : String) (words : List (String × α)) : Constructor α :=
  let matchers := Pattern.ofStrings (words.map fun w => wordPattern w.1)
  .ofTypes [.scalar .text] fun
    | [.text input] => findKeyword type matchers (words.map Prod.snd) input
    | _ => .error (.missingArgument 0)

/-- A type of words, each with its payload; letter case does not count. -/
def keywords (type : String) (words : List (String × α)) : Descriptor α :=
  (bare.withConstructor (keywordConstructor type words)).withPattern
    (keywordPattern (words.map Prod.fst))

end Descriptor

/-- A converter to be registered for a type in the named registry. -/
structure Registration (α : Type) where
  registry : String
  type : TypeRef
  convert : Converter α

/-- A declared type. Whenever its descriptor is asked for, its registrations are made first. -/
structure Declaration (α : Type) where
  name : String
  descriptor : Descriptor α
  onDescribe : List (Registration α) := []

structure Schema (α : Type) where
  declarations : List (Declaration α)

namespace Schema

def find? (s : Schema α) (name : String) : Option (Declaration α) :=
  s.declarations.find? (·.name == name)

/-- Lists describe themselves; scalars and unknown names declare nothing. -/
def describe (s : Schema α) : TypeRef → Descriptor α
  | .scalar _ => .bare
  | .list item => .ofSequence ⟨item, .list item⟩
  | .declared name => ((s.find? name).map Declaration.descriptor).getD .bare

/-- A descriptor is declared, or that of a list, or bare. -/
theorem describe_cases (schema : Schema α) (type : TypeRef) :
    (∃ d ∈ schema.declarations, type = .declared d.name ∧ schema.describe type = d.descriptor) ∨
    (∃ item, type = .list item ∧ schema.describe type = .ofSequence ⟨item, .list item⟩) ∨
    schema.describe type = .bare := by
  cases type with
  | scalar => exact .inr (.inr rfl)
  | list item => exact .inr (.inl ⟨item, rfl, rfl⟩)
  | declared name =>
    cases found : schema.find? name with
    | none => exact .inr (.inr (by simp [describe, found]))
    | some d =>
      have same : d.name = name := by simpa using List.find?_some found
      exact .inl ⟨d, List.mem_of_find?_eq_some found, by rw [same], by simp [describe, found]⟩

/-- What asking for a type's descriptor registers. -/
def registrations (s : Schema α) : TypeRef → List (Registration α)
  | .declared name => ((s.find? name).map Declaration.onDescribe).getD []
  | _ => []

theorem mem_registrations {schema : Schema α} {r : Registration α}
    (member : r ∈ schema.registrations type) : ∃ d ∈ schema.declarations, r ∈ d.onDescribe := by
  cases type with
  | scalar | list => contradiction
  | declared name =>
    cases found : schema.find? name with
    | none => simp [registrations, found] at member
    | some d =>
      exact ⟨d, List.mem_of_find?_eq_some found, by simpa [registrations, found] using member⟩

end Schema

end Construe
