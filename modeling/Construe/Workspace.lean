import Construe.Resolve

/-! # Workspaces

A schema with registries, which are told apart by number. A name is bound to one registry at a
time; a registry that loses its name stays in use where its number is known. Requests go to one
registry; the registrations that descriptors bring along reach the registries they name, where
those exist. -/
namespace Construe

structure Workspace (α : Type) where
  schema : Schema α
  registries : Array (Registry α)
  names : List (String × Nat)

namespace Workspace

def ofSchema (schema : Schema α) : Workspace α := ⟨schema, #[], []⟩

def registry? (w : Workspace α) (id : Nat) : Option (Registry α) := w.registries[id]?

/-- The number of the registry a name is bound to. -/
def find? (w : Workspace α) (name : String) : Option Nat := w.names.lookup name

/-- The names bound to a registry. -/
def namesOf (w : Workspace α) (id : Nat) : List String :=
  w.names.filterMap fun (name, bound) => if bound = id then some name else none

/-- Adds a registry, which takes the next number and has no name. -/
def add (w : Workspace α) (r : Registry α) : Workspace α × Nat :=
  ({ w with registries := w.registries.push r }, w.registries.size)

/-- Binds a name to a registry, and to no other. -/
def bind (w : Workspace α) (name : String) (id : Nat) : Workspace α :=
  { w with names := (name, id) :: w.names.filter (·.1 ≠ name) }

/-- Adds a registry under a name. -/
def addNamed (w : Workspace α) (name : String) (r : Registry α) : Workspace α :=
  let (w, id) := w.add r
  w.bind name id

def modifyRegistry (w : Workspace α) (id : Nat) (f : Registry α → Registry α) : Workspace α :=
  { w with registries := w.registries.modify id f }

/-- A registration for a name that is not bound has no effect. -/
def register (w : Workspace α) (r : Registration α) : Workspace α :=
  match w.find? r.registry with
  | some id => w.modifyRegistry id (·.register r.type r.convert)
  | none => w

/-- A type's descriptor, after the registrations that come with asking for it. -/
def describe (w : Workspace α) (type : TypeRef) : Descriptor α × Workspace α :=
  (w.schema.describe type, (w.schema.registrations type).foldl register w)

/-- Asks a registry for an interpreter. A registry that does not exist is empty. -/
def request (w : Workspace α) (id : Nat) (key : Key) :
    Except BuildError (Interpreter α) × Workspace α :=
  let (result, s) :=
    Session.request w.schema key ⟨w.namesOf id, (w.registry? id).getD .empty, []⟩
  (result, s.elsewhere.foldl register (w.modifyRegistry id fun _ => s.registry))

/-- Interprets one text as a value of a type. -/
def interpret (w : Workspace α) (id : Nat) (key : Key) (input : String) :
    Except Failure (Value α) × Workspace α :=
  match w.request id key with
  | (.error e, w) => (.error (.build e), w)
  | (.ok i, w) => ((i.run input).mapError .interpret, w)

/-- Interprets several texts, up to the first that is refused. -/
def interpretAll (w : Workspace α) (id : Nat) (key : Key) (inputs : List String) :
    Except Failure (List (Value α)) × Workspace α :=
  match w.request id key with
  | (.error e, w) => (.error (.build e), w)
  | (.ok i, w) => ((i.runAll inputs).mapError .interpret, w)

/-- Prepares texts to be interpreted one by one. The interpreter is built at once. -/
def interpretEach (w : Workspace α) (id : Nat) (key : Key) (inputs : List String) :
    Except BuildError (Pending α) × Workspace α :=
  match w.request id key with
  | (.error e, w) => (.error e, w)
  | (.ok i, w) => (.ok ⟨i, inputs⟩, w)

end Workspace

end Construe
