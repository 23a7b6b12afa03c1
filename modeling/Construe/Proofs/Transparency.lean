import Construe.Proofs.Guidance
import Construe.Proofs.History

/-! # Keeping interpreters cannot be told from the outside

With declarations that register nothing, and no registration from outside, the answer to a request
is the same after any history of requests, whether they succeeded or failed: an error with its
kind and its chain, or an interpreter. -/
namespace Construe

/-- Declarations that come without registrations make a quiet schema. -/
theorem Schema.quiet_of_declarations {schema : Schema α}
    (silent : ∀ d ∈ schema.declarations, d.onDescribe = []) : schema.Quiet := by
  intro type
  apply List.eq_nil_iff_forall_not_mem.mpr
  intro r member
  obtain ⟨d, declared, listed⟩ := mem_registrations member
  simp [silent d declared] at listed

namespace Registry

variable {like : Likeness α} {schema : Schema α}

theorem ask_of_kept (quiet : schema.Quiet) {r : Registry α}
    (kept : Draft.Kept like schema r.converterFor? r) (names : List String) (key : Key) :
    Agree like.interpreter (r.ask schema names key).1 (schema.answer r.converterFor? key) ∧
    (r.perform schema (.request names key)).converterFor? = r.converterFor? ∧
    Draft.Kept like schema r.converterFor? (r.perform schema (.request names key)) :=
  request_of_kept quiet (s := ⟨names, r, []⟩) kept key

/-- Requests leave the converters as they are and keep nothing but what is like a draft. -/
theorem run_of_kept (quiet : schema.Quiet) {r : Registry α}
    (kept : Draft.Kept like schema r.converterFor? r) (ops : List (Operation α))
    (asks : ∀ op ∈ ops, op.asks) :
    (r.run schema ops).converterFor? = r.converterFor? ∧
    Draft.Kept like schema r.converterFor? (r.run schema ops) := by
  induction ops generalizing r with
  | nil => exact ⟨rfl, kept⟩
  | cons op ops ih =>
    cases op with
    | register => exact absurd (asks _ List.mem_cons_self) (by simp [Operation.asks])
    | request names key =>
      obtain ⟨_, same, next⟩ := ask_of_kept quiet kept names key
      have later := ih (same.symm ▸ next) fun op member => asks op (List.mem_cons_of_mem _ member)
      rw [same] at later
      exact later

/-- The answer to a request after any history of requests, by the declarations and the converters
that the registry was created with. -/
theorem ask_run (quiet : schema.Quiet) (scalars : Bool) (converters : List (TypeRef × Converter α))
    (ops : List (Operation α)) (asks : ∀ op ∈ ops, op.asks) (names : List String) (key : Key) :
    (((create scalars converters).run schema ops).ask schema names key).1 =
      schema.answer (create scalars converters).converterFor? key := by
  let r := create scalars converters
  have created : Draft.Kept .same schema r.converterFor? r := keeps_create scalars converters
  obtain ⟨same, kept⟩ := run_of_kept quiet created ops asks
  have answered := (ask_of_kept quiet (same.symm ▸ kept) names key).1.eq
  rwa [same] at answered

/-- Two registries created with the same converters answer alike, after any two histories of
requests. -/
theorem ask_run_eq_ask_run (quiet : schema.Quiet) (scalars : Bool)
    (converters : List (TypeRef × Converter α)) (ops ops' : List (Operation α))
    (asks : ∀ op ∈ ops, op.asks) (asks' : ∀ op ∈ ops', op.asks) (names names' : List String)
    (key : Key) :
    (((create scalars converters).run schema ops).ask schema names key).1 =
      (((create scalars converters).run schema ops').ask schema names' key).1 :=
  (ask_run quiet scalars converters ops asks names key).trans
    (ask_run quiet scalars converters ops' asks' names' key).symm

/-- A chain of characters, which names itself, and a pair of characters. -/
def chains : Schema Unit where
  declarations := [
    { name := "Chain"
      descriptor := {
        pattern := some "(.)(.*)"
        constructor := some (.ofTypes [.scalar .char, .declared "Chain"] fun _ => .ok ()) } },
    { name := "Pair"
      descriptor := {
        pattern := some "(.)(.)"
        constructor := some (.ofTypes [.scalar .char, .scalar .char] fun _ => .ok ()) } }]

/-- A request that fails and one that succeeds leave nothing behind that a later request could
tell. -/
theorem ask_run_chains :
    (((create true []).run chains
        [.request [] { type := .declared "Chain" }, .request [] { type := .declared "Pair" }]).ask
          chains [] { type := .declared "Pair" }).1 =
      (((create true []).run chains []).ask chains [] { type := .declared "Pair" }).1 :=
  ask_run_eq_ask_run (Schema.quiet_of_declarations (by simp [chains])) true [] _ _
    (by simp [Operation.asks]) (by simp) [] [] _

end Registry

end Construe
