import Construe.Proofs.Assembly
import Construe.Workspace

/-! # Histories of registries

A registry changes by registrations and requests. The events of a history are what these did to
it, one by one, those in the middle of a build included; the states of a registry are what the
beginnings of its history make of it. -/
namespace Construe

/-- What is done to a registry from outside. A request comes under the names that the registry
goes by at the time. Interpreting a text is a request as far as the registry is concerned. -/
inductive Operation (α : Type) where
  | register (type : TypeRef) (convert : Converter α)
  | request (names : List String) (key : Key)

/-- The operation asks for an interpreter. -/
def Operation.asks : Operation α → Bool
  | .register _ _ => false
  | .request _ _ => true

namespace Registry

/-- What comes of some events, one after the other. -/
def replay (r : Registry α) (events : List (Event α)) : Registry α := events.foldl apply r

@[simp] theorem replay_nil (r : Registry α) : r.replay [] = r := rfl

@[simp] theorem replay_cons (r : Registry α) (e : Event α) (events : List (Event α)) :
    r.replay (e :: events) = (r.apply e).replay events := rfl

@[simp] theorem replay_append (r : Registry α) (first last : List (Event α)) :
    r.replay (first ++ last) = (r.replay first).replay last := List.foldl_append

/-- A request for a key, under some names. -/
def ask (schema : Schema α) (r : Registry α) (names : List String) (key : Key) :
    Except BuildError (Interpreter α) × Session α :=
  Session.request schema key ⟨names, r, []⟩

def events (schema : Schema α) (r : Registry α) : Operation α → List (Event α)
  | .register type convert => [.registered type convert]
  | .request names key => (r.ask schema names key).2.journal

def perform (schema : Schema α) (r : Registry α) : Operation α → Registry α
  | .register type convert => r.register type convert
  | .request names key => (r.ask schema names key).2.registry

def run (schema : Schema α) (r : Registry α) (ops : List (Operation α)) : Registry α :=
  ops.foldl (perform schema) r

def history (schema : Schema α) : Registry α → List (Operation α) → List (Event α)
  | _, [] => []
  | r, op :: ops => r.events schema op ++ (r.perform schema op).history schema ops

/-- A request changes the registry by the events of its journal and in no other way. -/
theorem replay_journal (schema : Schema α) (r : Registry α) (names : List String) (key : Key) :
    r.replay (r.ask schema names key).2.journal = (r.ask schema names key).2.registry := by
  have recorded {s : Session α} (e : Event α) (holds : r.replay s.journal = s.registry) :
      r.replay (s.record e).journal = (s.record e).registry := by
    simp [Session.record, holds]
  let account : Account schema r.generation := {
    session := fun s => r.replay s.journal = s.registry
    current := fun _ => True
    serves := fun _ _ => True
    part := fun _ _ => True
    perform := fun holds _ => ⟨recorded _ holds, id⟩
    live := fun _ _ => trivial
    keep := fun holds _ _ _ => recorded _ holds
    cached := fun _ _ _ => trivial
    served := fun _ _ => trivial
    assembled := fun _ => trivial }
  exact (account.request (s := ⟨names, r, []⟩) rfl key).1

theorem replay_events (schema : Schema α) (r : Registry α) (op : Operation α) :
    r.replay (r.events schema op) = r.perform schema op := by
  cases op with
  | register => rfl
  | request names key => exact r.replay_journal schema names key

theorem replay_history (schema : Schema α) (r : Registry α) (ops : List (Operation α)) :
    r.replay (r.history schema ops) = r.run schema ops := by
  induction ops generalizing r with
  | nil => rfl
  | cons op ops ih =>
    rw [history, replay_append, replay_events]
    exact ih _

theorem history_append (schema : Schema α) (r : Registry α) (first last : List (Operation α)) :
    r.history schema (first ++ last) =
      r.history schema first ++ (r.run schema first).history schema last := by
  induction first generalizing r with
  | nil => rfl
  | cons op first ih => simp [history, ih, run]

end Registry

namespace Workspace

/-- The workspaces that come of a schema by adding registries, naming them, registering converters
and asking for descriptors and interpreters. -/
inductive Reached (schema : Schema α) : Workspace α → Prop where
  | start : Reached schema (ofSchema schema)
  | add : Reached schema w → Reached schema (w.add (.create scalars converters)).1
  | bind (id : Nat) : Reached schema w → Reached schema (w.bind name id)
  | register : Reached schema w → Reached schema (w.register r)
  | describe : Reached schema w → Reached schema (w.describe type).2
  | request (id : Nat) : Reached schema w → Reached schema (w.request id key).2

variable {schema : Schema α} {w : Workspace α}

/-- Every registry of the workspace has a history. -/
def Storied (schema : Schema α) (w : Workspace α) : Prop :=
  w.schema = schema ∧ ∀ id r, w.registry? id = some r →
    ∃ scalars converters ops, r = (Registry.create scalars converters).run schema ops

theorem Storied.modify {id : Nat} (storied : w.Storied schema)
    (step : ∀ r, w.registry? id = some r → ∃ op, f r = r.perform schema op) :
    (w.modifyRegistry id f).Storied schema := by
  refine ⟨storied.1, fun other r found => ?_⟩
  simp only [modifyRegistry, registry?, Array.getElem?_modify] at found
  split at found
  · rename_i same
    obtain ⟨before, known, rfl⟩ := Option.map_eq_some_iff.mp found
    obtain ⟨scalars, converters, ops, rfl⟩ := storied.2 other before known
    obtain ⟨op, done⟩ := step _ (same ▸ known)
    refine ⟨scalars, converters, ops ++ [op], done.trans ?_⟩
    simp only [Registry.run, List.foldl_append, List.foldl_cons, List.foldl_nil]
  · exact storied.2 other r found

theorem Storied.register (storied : w.Storied schema) (r : Registration α) :
    (w.register r).Storied schema := by
  unfold Workspace.register
  split
  · exact storied.modify fun _ _ => ⟨.register r.type r.convert, rfl⟩
  · exact storied

theorem Storied.registerAll (storied : w.Storied schema)
    (rs : List (Registration α)) : (rs.foldl Workspace.register w).Storied schema := by
  induction rs generalizing w with
  | nil => exact storied
  | cons r rs ih => exact ih (storied.register r)

/-- Whatever is done to a workspace, each of its registries was created with some converters and
has come to its state by registrations and requests of its own. -/
theorem Reached.storied (reached : w.Reached schema) : w.Storied schema := by
  induction reached with
  | start => exact ⟨rfl, fun id r found => by simp [ofSchema, registry?] at found⟩
  | @add w scalars converters _ ih =>
    refine ⟨ih.1, fun id r found => ?_⟩
    simp only [Workspace.add, registry?, Array.getElem?_push] at found
    split at found
    · exact ⟨scalars, converters, [], (Option.some.inj found).symm⟩
    · exact ih.2 id r found
  | bind _ _ ih => exact ih
  | register _ ih => exact ih.register _
  | describe _ ih => exact ih.registerAll _
  | @request w key id _ ih =>
    apply Storied.registerAll
    refine ih.modify fun r found => ⟨.request (w.namesOf id) key, ?_⟩
    show (Session.request w.schema key
      ⟨w.namesOf id, (w.registry? id).getD .empty, []⟩).2.registry = _
    rw [found, ih.1]
    rfl

end Workspace

end Construe
