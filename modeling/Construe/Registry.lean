import Construe.Interpreter
import Construe.Scalar

/-! # Registries

A registry holds converters and the interpreters built so far. Registering a converter drops the
interpreter it replaces and starts a new generation; what was being built in an older generation
is handed out but not kept. -/
namespace Construe

/-- What an interpreter was built for: a type and the options that came with it. -/
structure Key where
  type : TypeRef
  pattern : Option String := none
  separator : Option String := none
deriving DecidableEq, Repr

def Key.isPlain (k : Key) : Bool := k.pattern.isNone && k.separator.isNone

/-- What a parameter asks for. -/
def Param.key (p : Param) : Key := ⟨p.type, p.pattern, p.separator⟩

structure Registry (α : Type) where
  cache : List (Key × Interpreter α)
  converters : List (TypeRef × Converter α)
  generation : Nat

namespace Registry

/-- A registry without converters. -/
def empty : Registry α := ⟨[], [], 0⟩

def setConverter (r : Registry α) (type : TypeRef) (convert : Converter α) : Registry α :=
  { r with converters := (type, convert) :: r.converters.filter (·.1 ≠ type) }

/-- The converters to start from: those of the scalars, if wanted. -/
def seeds (scalars : Bool) : List (TypeRef × Converter α) :=
  if scalars then Scalar.all.map fun s => (.scalar s, s.convert) else []

/-- A registry to start from: the scalar converters if wanted, then the given ones, of which the
last for a type counts. -/
def create (scalars : Bool) (converters : List (TypeRef × Converter α)) : Registry α :=
  let all : List (TypeRef × Converter α) := seeds scalars ++ converters
  all.foldl (fun r c => r.setConverter c.1 c.2) empty

/-- A registry with the scalar converters. -/
def standard : Registry α := create true []

def converter? (r : Registry α) (type : TypeRef) : Option (Converter α) :=
  r.converters.lookup type

/-- The converter that serves a key. Options ask for more than a converter gives. -/
def converterFor? (r : Registry α) (key : Key) : Option (Converter α) :=
  if key.isPlain then r.converter? key.type else none

def cached? (r : Registry α) (key : Key) : Option (Interpreter α) := r.cache.lookup key

/-- Makes a converter the way to read its type from now on. -/
def register (r : Registry α) (type : TypeRef) (convert : Converter α) : Registry α where
  cache := r.cache.filter (·.1 ≠ { type })
  converters := (r.setConverter type convert).converters
  generation := r.generation + 1

/-- Keeps an interpreter for later requests. -/
def keep (r : Registry α) (key : Key) (built : Interpreter α) : Registry α :=
  { r with cache := (key, built) :: r.cache }

@[simp] theorem generation_register (r : Registry α) (type : TypeRef) (convert : Converter α) :
    (r.register type convert).generation = r.generation + 1 := rfl

theorem lookup_cons_ite [DecidableEq κ] (entries : List (κ × β)) (k key : κ) (x : β) :
    ((k, x) :: entries).lookup key = if key = k then some x else entries.lookup key := by
  by_cases same : key = k
  · simp [same]
  · simp [List.lookup_cons, same, beq_eq_false_iff_ne.mpr same]

theorem lookup_filter_ne [DecidableEq κ] (entries : List (κ × β)) (removed key : κ) :
    (entries.filter (·.1 ≠ removed)).lookup key =
      if key = removed then none else entries.lookup key := by
  induction entries with
  | nil => simp
  | cons entry entries ih =>
    obtain ⟨k, x⟩ := entry
    by_cases gone : k = removed
    · subst gone
      rw [List.filter_cons_of_neg (by simp), ih, lookup_cons_ite]
      split <;> rfl
    · rw [List.filter_cons_of_pos (by simp [gone]), lookup_cons_ite, lookup_cons_ite, ih]
      by_cases same : key = k
      · subst same
        simp [gone]
      · simp [same]

@[simp] theorem cached?_register (r : Registry α) (type : TypeRef) (convert : Converter α)
    (key : Key) :
    (r.register type convert).cached? key = if key = { type } then none else r.cached? key :=
  lookup_filter_ne _ _ _

@[simp] theorem cached?_keep (r : Registry α) (kept key : Key) (built : Interpreter α) :
    (r.keep kept built).cached? key = if key = kept then some built else r.cached? key := by
  simp only [cached?, keep, lookup_cons_ite]

@[simp] theorem converter?_setConverter (r : Registry α) (type t : TypeRef)
    (convert : Converter α) :
    (r.setConverter type convert).converter? t =
      if t = type then some convert else r.converter? t := by
  simp only [converter?, setConverter, lookup_cons_ite, lookup_filter_ne]
  split <;> rfl

@[simp] theorem converter?_register (r : Registry α) (type t : TypeRef) (convert : Converter α) :
    (r.register type convert).converter? t = if t = type then some convert else r.converter? t :=
  r.converter?_setConverter type t convert

@[simp] theorem converter?_keep (r : Registry α) (key : Key) (built : Interpreter α) :
    (r.keep key built).converter? = r.converter? := rfl

@[simp] theorem converterFor?_plain (r : Registry α) (type : TypeRef) :
    r.converterFor? { type } = r.converter? type := rfl

/-- A converter serves none but plain keys. -/
theorem converterFor?_eq_some {r : Registry α} {key : Key} {convert : Converter α} :
    r.converterFor? key = some convert ↔
      key = { type := key.type } ∧ r.converter? key.type = some convert := by
  obtain ⟨type, _ | _, _ | _⟩ := key <;> simp [converterFor?, Key.isPlain]

def cachedCount (r : Registry α) : Nat := r.cache.length

/-- A short account for display. -/
def summary (r : Registry α) : String :=
  let cached := r.cache.length
  let converters := r.converters.length
  s!"Context \x7b cached: {cached}, converters: {converters} \x7d"

end Registry

end Construe
