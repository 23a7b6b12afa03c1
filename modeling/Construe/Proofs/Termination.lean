import Construe.Proofs.Fuel

/-! # Requests end

Fuel is no part of an answer: a step that ends with some fuel ends in the same way with more. A
request has a bound on its fuel that counts types, patterns and separators, so it ends with an
interpreter or a build error, whatever the registry holds and whatever is registered on the way. -/
namespace Construe

namespace Build

/-- Where the first step does not run out of fuel, the second one does the same. -/
def Extends (step further : Build α β) : Prop :=
  ∀ s, (exec step s).1 ≠ .error .exhausted → exec further s = exec step s

namespace Extends

theorem refl (step : Build α β) : Extends step step := fun _ _ => rfl

theorem exhausted : Extends (throw .exhausted) (further : Build α β) :=
  fun _ ends => absurd rfl ends

theorem bind {step further : Build α β} {next next' : β → Build α γ}
    (first : Extends step further) (rest : ∀ a, Extends (next a) (next' a)) :
    Extends (step >>= next) (further >>= next') := by
  intro s ends
  rw [exec_bind] at ends ⊢
  rw [exec_bind]
  have same := first s
  cases done : exec step s with
  | mk result s' =>
    rw [done] at ends same
    cases result with
    | error stop => rw [same (by simpa using ends)]
    | ok a =>
      rw [same (by simp)]
      exact rest a s' ends

theorem registry {next next' : Registry α → Build α β} (rest : ∀ r, Extends (next r) (next' r)) :
    Extends (registry >>= next) (registry >>= next') := fun s => rest s.registry s

theorem describe {schema : Schema α} {next next' : Descriptor α → Build α β}
    (rest : Extends (next (schema.describe type)) (next' (schema.describe type))) :
    Extends (describe schema type >>= next) (describe schema type >>= next') := fun _ => rest _

theorem within {step further : Build α β} (extends_ : Extends step further) :
    Extends (within type step) (within type further) := by
  intro s ends
  rw [exec_within] at ends ⊢
  rw [exec_within, extends_ s fun short => ends (outer_eq_exhausted.mpr short)]

theorem mapM {step further : γ → Build α β} {xs : List γ}
    (each : ∀ x ∈ xs, Extends (step x) (further x)) : Extends (xs.mapM step) (xs.mapM further) :=
  mapM_related (fun _ => refl _) bind each

end Extends

variable {schema : Schema α} {generation : Nat}

mutual

theorem extends_resolve : ∀ {fuel more path key}, fuel ≤ more →
    Extends (resolve schema generation fuel path key) (resolve schema generation more path key)
  | 0, _, _, _, _ => .exhausted
  | fuel + 1, more + 1, path, key, enough => by
    rw [resolve, resolve]
    apply Extends.registry
    intro r
    split
    · exact .refl _
    · split
      · exact .refl _
      · apply (extends_resolveNew (Nat.le_of_succ_le_succ enough)).bind
        exact fun _ => .refl _

theorem extends_resolveNew : ∀ {fuel more path key}, fuel ≤ more →
    Extends (resolveNew schema generation fuel path key)
      (resolveNew schema generation more path key)
  | 0, _, _, _, _ => .exhausted
  | fuel + 1, more + 1, path, key, enough => by
    have enough := Nat.le_of_succ_le_succ enough
    rw [resolveNew, resolveNew]
    apply Extends.registry
    intro r
    split
    · exact .refl _
    · apply Extends.describe
      split
      · apply (Extends.refl _).bind
        intro splitter
        exact (extends_resolve enough).within.bind fun _ => .refl _
      · exact .refl _
      · split
        · exact .refl _
        · exact (extends_resolveBinding enough).bind fun _ => .refl _
      · exact (extends_unfold enough).bind fun _ => .refl _

theorem extends_unfold : ∀ {fuel more path type descriptor wrap}, fuel ≤ more →
    Extends (unfold schema generation fuel path type descriptor wrap)
      (unfold schema generation more path type descriptor wrap)
  | 0, _, _, _, _, _, _ => .exhausted
  | fuel + 1, more + 1, path, type, descriptor, wrap, enough => by
    have enough := Nat.le_of_succ_le_succ enough
    rw [unfold, unfold]
    split
    · exact .refl _
    · split
      · exact .refl _
      · apply (Extends.mapM fun b _ => extends_resolveBinding enough).bind
        intro own
        apply (Extends.mapM fun v _ => .describe (extends_unfold enough).within).bind
        intro variants
        exact (Extends.mapM fun b _ => extends_resolveBinding enough).bind fun _ => .refl _

theorem extends_resolveBinding : ∀ {fuel more path type b wrap}, fuel ≤ more →
    Extends (resolveBinding schema generation fuel path type b wrap)
      (resolveBinding schema generation more path type b wrap)
  | 0, _, _, _, _, _, _ => .exhausted
  | fuel + 1, more + 1, path, type, ⟨pattern, constructor⟩, wrap, enough => by
    have enough := Nat.le_of_succ_le_succ enough
    rw [resolveBinding, resolveBinding]
    split
    · exact .refl _
    · apply (Extends.refl _).bind
      intro matcher
      exact (Extends.mapM fun p _ => (extends_resolve enough).within).bind fun _ => .refl _

end

end Build

/-- From any session, with any fuel from the bound on, resolution ends with the answer of the
request, which is an interpreter or a build error, and leaves the same session behind. So the bound
is never exhausted, and no chain of nested steps goes deeper than it. -/
theorem Session.resolve_eq_request (schema : Schema α) (key : Key) (s : Session α) (more : Nat) :
    Build.exec (resolve schema s.registry.generation (schema.fuel key + more) .start key) s =
      ((Session.request schema key s).1.mapError .failed, (Session.request schema key s).2) := by
  have ends := total_request schema s.registry.generation key s
  have enough : schema.fuel key ≤ schema.fuel key + more := Nat.le_add_right _ _
  rw [Build.extends_resolve enough s ends, Build.request_eq, Build.mapError_settle ends]

end Construe
