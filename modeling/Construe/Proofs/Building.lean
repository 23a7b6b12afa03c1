import Mathlib.Data.List.Forall2
import Construe.Resolve

/-! # Running building steps

A building step takes a session to a result and the session it leaves behind. The equations here
say so for each step that resolution is made of. They come after what holds of everything that a
registry keeps. -/
namespace Construe

namespace Registry

theorem create_cache (scalars : Bool) (converters : List (TypeRef × Converter α)) :
    (create scalars converters).cache = [] := by
  have unchanged (cs : List (TypeRef × Converter α)) (r : Registry α) :
      (cs.foldl (fun r c => r.setConverter c.1 c.2) r).cache = r.cache := by
    induction cs generalizing r with
    | nil => rfl
    | cons c cs ih => exact ih _
  exact unchanged _ _

/-- Every interpreter that is kept is one of a kind. -/
def Keeps (r : Registry α) (kind : Key → Interpreter α → Prop) : Prop :=
  ∀ key i, r.cached? key = some i → kind key i

theorem keeps_create (scalars : Bool) (converters : List (TypeRef × Converter α)) :
    (create scalars converters).Keeps kind := by
  intro key i found
  simp [cached?, create_cache] at found

theorem Keeps.register {r : Registry α} (keeps : r.Keeps kind) (type : TypeRef)
    (convert : Converter α) : (r.register type convert).Keeps kind := by
  intro key i found
  rw [cached?_register] at found
  split at found
  · contradiction
  · exact keeps key i found

theorem Keeps.keep {r : Registry α} (keeps : r.Keeps kind) (new : kind key built) :
    (r.keep key built).Keeps kind := by
  intro k i found
  rw [cached?_keep] at found
  split at found
  · rename_i same
    cases found
    exact same ▸ new
  · exact keeps k i found

end Registry

namespace Build

/-- The result of a step, with the session it leaves behind. -/
def exec (step : Build α β) (s : Session α) : Except Stop β × Session α := step.run.run s

@[simp] theorem exec_pure (a : β) (s : Session α) : exec (pure a) s = (.ok a, s) := rfl

@[simp] theorem exec_throw (stop : Stop) (s : Session α) :
    exec (throw stop : Build α β) s = (.error stop, s) := rfl

@[simp] theorem exec_fail (type : TypeRef) (kind : BuildErrorKind) (s : Session α) :
    exec (fail type kind : Build α β) s = (.error (.failed (.raised type kind)), s) := rfl

theorem exec_bind (step : Build α β) (next : β → Build α γ) (s : Session α) :
    exec (step >>= next) s = match exec step s with
      | (.ok a, s) => exec (next a) s
      | (.error stop, s) => (.error stop, s) := by
  show ExceptT.bindCont next (exec step s).1 (exec step s).2 = _
  rcases exec step s with ⟨_ | _, _⟩ <;> rfl

theorem exec_bind_eq_ok {step : Build α β} {next : β → Build α γ} {s t : Session α} {c : γ} :
    exec (step >>= next) s = (.ok c, t) ↔
      ∃ a u, exec step s = (.ok a, u) ∧ exec (next a) u = (.ok c, t) := by
  rw [exec_bind]
  rcases exec step s with ⟨_ | a, u⟩ <;> simp

@[simp] theorem exec_registry (next : Registry α → Build α β) (s : Session α) :
    exec (registry >>= next) s = exec (next s.registry) s := rfl

@[simp] theorem exec_describe (schema : Schema α) (type : TypeRef)
    (next : Descriptor α → Build α β) (s : Session α) :
    exec (describe schema type >>= next) s =
      exec (next (schema.describe type)) ((schema.registrations type).foldl .perform s) := rfl

/-- Errors get the outer type put in front of their chain. -/
def outer (type : TypeRef) : Except Stop β → Except Stop β
  | .error (.failed e) => .error (.failed (e.within type))
  | result => result

@[simp] theorem exec_within (type : TypeRef) (step : Build α β) (s : Session α) :
    exec (within type step) s = (outer type (exec step s).1, (exec step s).2) := by
  unfold within
  simp only [exec, ExceptT.run, ExceptT.mk, StateT.run_bind]
  rcases StateT.run step s with ⟨(_ | _) | _, _⟩ <;> rfl

theorem outer_eq_ok {type : TypeRef} {result : Except Stop β} {a : β} :
    outer type result = .ok a ↔ result = .ok a := by
  rcases result with (_ | _) | _ <;> simp [outer]

theorem outer_eq_exhausted {type : TypeRef} {result : Except Stop β} :
    outer type result = .error .exhausted ↔ result = .error .exhausted := by
  rcases result with (_ | _) | _ <;> simp [outer]

theorem exec_keep (key : Key) (built : Interpreter α) (generation : Nat) (s : Session α) :
    exec (keep key built generation) s =
      if s.registry.generation ≠ generation then (.ok built, s)
      else match s.registry.cached? key with
        | some kept => (.ok kept, s)
        | none => (.ok built, s.record (.kept key built)) := by
  unfold keep
  rw [exec_registry]
  split
  · rfl
  · cases s.registry.cached? key <;> rfl

/-- Compiling a pattern leaves the session alone. -/
theorem exec_compilePattern (type : TypeRef) (source : String) (arity : Nat) (s : Session α) :
    exec (compilePattern type source arity) s = (compilePattern type source arity, s) := by
  unfold compilePattern
  rcases Pattern.whole source arity with (_ | _) | _ <;> rfl

theorem exec_compileSeparator (type : TypeRef) (source : String) (s : Session α) :
    exec (compileSeparator type source) s = (compileSeparator type source, s) := by
  unfold compileSeparator
  rcases Pattern.ofString source with _ | _ <;> rfl

theorem fail_eq (type : TypeRef) (kind : BuildErrorKind) :
    (fail type kind : Except Stop β) = .error (.failed (.raised type kind)) := rfl

theorem compilePattern_eq_ok {type : TypeRef} {source : String} {arity : Nat} {p : Pattern} :
    (compilePattern type source arity : Except Stop Pattern) = .ok p ↔
      Pattern.whole source arity = .ok p := by
  unfold compilePattern
  rcases Pattern.whole source arity with (_ | _) | _ <;> simp [fail_eq, pure, Except.pure]

theorem compileSeparator_eq_ok {type : TypeRef} {source : String} {p : Pattern} :
    (compileSeparator type source : Except Stop Pattern) = .ok p ↔
      Pattern.ofString source = .ok p := by
  unfold compileSeparator
  rcases Pattern.ofString source with _ | _ <;> simp [fail_eq, pure, Except.pure]

theorem bind_eq_ok {x : Except ε β} {f : β → Except ε γ} {c : γ} :
    x >>= f = .ok c ↔ ∃ b, x = .ok b ∧ f b = .ok c := by
  rcases x with _ | _ <;> simp [bind, Except.bind]

theorem bind_eq_error {x : Except ε β} {f : β → Except ε γ} {e : ε} :
    x >>= f = .error e ↔ x = .error e ∨ ∃ b, x = .ok b ∧ f b = .error e := by
  rcases x with _ | _ <;> simp [bind, Except.bind]

theorem mapM_eq_ok {f : β → Except Stop γ} {xs : List β} {ys : List γ} :
    xs.mapM f = .ok ys ↔ List.Forall₂ (fun x y => f x = .ok y) xs ys := by
  induction xs generalizing ys with
  | nil => cases ys <;> simp [pure, Except.pure]
  | cons x xs ih =>
    rw [List.mapM_cons, bind_eq_ok]
    constructor
    · rintro ⟨y, first, rest⟩
      obtain ⟨ys, others, eq⟩ := bind_eq_ok.mp rest
      cases eq
      exact .cons first (ih.mp others)
    · rintro (_ | ⟨first, rest⟩)
      exact ⟨_, first, bind_eq_ok.mpr ⟨_, ih.mpr rest, rfl⟩⟩

/-- Two traversals are related when their steps are, by a relation that holds of equal results and
goes along with taking one step after another. -/
theorem mapM_related {m : Type u → Type v} [Monad m] [LawfulMonad m]
    {R : ∀ {β : Type u}, m β → m β → Prop} (pure : ∀ {β : Type u} (a : β), R (pure a) (pure a))
    (bind : ∀ {β γ : Type u} {x y : m β} {f g : β → m γ}, R x y → (∀ a, R (f a) (g a)) →
      R (x >>= f) (y >>= g))
    {f g : γ → m β} {xs : List γ} (each : ∀ x ∈ xs, R (f x) (g x)) :
    R (xs.mapM f) (xs.mapM g) := by
  induction xs with
  | nil => exact pure []
  | cons x xs ih =>
    simp only [List.mapM_cons]
    apply bind (each x List.mem_cons_self)
    intro y
    apply bind (ih fun z member => each z (List.mem_cons_of_mem _ member))
    exact fun ys => pure (y :: ys)

/-- What holds of returning, and of one step after another, holds of a traversal. -/
theorem mapM_holds {m : Type u → Type v} [Monad m] [LawfulMonad m]
    {P : ∀ {β : Type u}, m β → Prop} (pure : ∀ {β : Type u} (a : β), P (pure a))
    (bind : ∀ {β γ : Type u} {x : m β} {f : β → m γ}, P x → (∀ a, P (f a)) → P (x >>= f))
    {f : γ → m β} {xs : List γ} (each : ∀ x ∈ xs, P (f x)) : P (xs.mapM f) :=
  mapM_related (R := fun x _ => P x) pure bind (g := f) each

theorem mem_left_of_forall₂ {R : β → γ → Prop} {xs : List β} {ys : List γ}
    (related : List.Forall₂ R xs ys) (member : x ∈ xs) : ∃ y ∈ ys, R x y := by
  induction related with
  | nil => simp at member
  | cons head _ ih =>
    rcases List.mem_cons.mp member with rfl | member
    · exact ⟨_, by simp, head⟩
    · obtain ⟨y, found, holds⟩ := ih member
      exact ⟨y, by simp [found], holds⟩

theorem settle_eq_ok {key : Key} {result : Except Stop β} {a : β} :
    key.settle result = .ok a ↔ result = .ok a := by
  rcases result with (_ | _) | _ <;> simp [Key.settle]

/-- What ends without running out of fuel is an answer or an error. -/
theorem mapError_settle {key : Key} {result : Except Stop β} (ends : result ≠ .error .exhausted) :
    (key.settle result).mapError .failed = result := by
  rcases result with (_ | _) | _
  · rfl
  · exact absurd rfl ends
  · rfl

theorem request_eq (schema : Schema α) (key : Key) (s : Session α) :
    Session.request schema key s =
      (key.settle (exec (resolve schema s.registry.generation (schema.fuel key) .start key) s).1,
        (exec (resolve schema s.registry.generation (schema.fuel key) .start key) s).2) := rfl

end Build

end Construe
