import Mathlib
import Construe.Proofs.Outcome
import Construe.Proofs.Transparency

/-! # Registering a converter breaks no build

Whether a request succeeds depends on the declarations and on which types have a converter, not on
the interpreters that are kept, outdated ones included. With more converters there is less to
build, so what could be built before can be built after a registration. -/
namespace Construe

namespace Draft

open Build

/-- What holds of every pair of two lists gives a third list. -/
theorem exists_forall₂ {R : β → γ → Prop} {S : β → δ → Prop} {T : γ → δ → Prop} {xs : List β}
    {ys : List γ} (related : List.Forall₂ R xs ys) (each : ∀ x y, R x y → ∃ z, S x z ∧ T y z) :
    ∃ zs, List.Forall₂ S xs zs ∧ List.Forall₂ T ys zs := by
  induction related with
  | nil => exact ⟨[], .nil, .nil⟩
  | cons head _ ih =>
    obtain ⟨z, first, first'⟩ := each _ _ head
    obtain ⟨zs, others, others'⟩ := ih
    exact ⟨z :: zs, .cons first others, .cons first' others'⟩

variable {schema : Schema α} {serve more : Key → Option (Converter α)}

mutual

/-- With converters for the same keys or more, what can be drafted still can. -/
theorem exists_resolve (extend : ∀ key, (serve key).isSome → (more key).isSome) :
    ∀ {fuel path key i}, resolve schema serve fuel path key = .ok i →
      ∃ i', resolve schema more fuel path key = .ok i'
  | 0, _, _, _, resolved => by simp [resolve] at resolved
  | fuel + 1, path, key, i, resolved => by
    obtain ⟨absent, resolved⟩ := resolve_eq_ok.mp resolved
    obtain ⟨i', built⟩ := exists_resolveNew extend resolved
    exact ⟨i', resolve_eq_ok.mpr ⟨absent, built⟩⟩

theorem exists_resolveNew (extend : ∀ key, (serve key).isSome → (more key).isSome) :
    ∀ {fuel path key i}, resolveNew schema serve fuel path key = .ok i →
      ∃ i', resolveNew schema more fuel path key = .ok i'
  | 0, _, _, _, resolved => by simp [resolveNew] at resolved
  | fuel + 1, path, key, i, resolved => by
    simp only [resolveNew_eq_ok] at resolved ⊢
    cases newly : more key with
    | some convert => exact ⟨_, rfl⟩
    | none =>
      have unserved : serve key = none := by
        simpa [newly] using extend key
      cases shape : (schema.describe key.type).sequence with
      | some sequence =>
        simp only [unserved, shape] at resolved
        obtain ⟨splitter, item, compiled, resolved, _⟩ := resolved
        obtain ⟨item', built⟩ := exists_resolve extend resolved
        exact ⟨_, splitter, item', compiled, built, rfl⟩
      | none =>
        cases separator : key.separator with
        | some separator => simp [unserved, shape, separator] at resolved
        | none =>
          cases given : key.pattern with
          | some pattern =>
            simp only [unserved, shape, separator, given] at resolved
            obtain ⟨constructor, candidate, declared, bound, _⟩ := resolved
            obtain ⟨candidate', built⟩ := exists_resolveBinding extend bound
            exact ⟨_, constructor, candidate', declared, built, rfl⟩
          | none =>
            simp only [unserved, shape, separator, given] at resolved
            obtain ⟨cs, unfolded, nonempty, _⟩ := resolved
            obtain ⟨cs', built, paired⟩ := exists_unfold extend unfolded
            refine ⟨_, cs', built, ?_, rfl⟩
            rintro rfl
            exact nonempty (List.forall₂_nil_right_iff.mp paired)

/-- The candidates are as many as before. -/
theorem exists_unfold (extend : ∀ key, (serve key).isSome → (more key).isSome) :
    ∀ {fuel path type wrap cs}, unfold schema serve fuel path type wrap = .ok cs →
      ∃ cs', unfold schema more fuel path type wrap = .ok cs' ∧
        List.Forall₂ (fun _ _ => True) cs cs'
  | 0, _, _, _, _, unfolded => by simp [unfold] at unfolded
  | fuel + 1, path, type, wrap, cs, unfolded => by
    obtain ⟨absent, binds, own, variants, alternates, first, inner, last, rfl⟩ :=
      unfold_eq_ok.mp unfolded
    have again b c (bound : resolveBinding schema serve fuel path type b wrap = .ok c) :
        ∃ c', resolveBinding schema more fuel path type b wrap = .ok c' ∧ True := by
      obtain ⟨c', built⟩ := exists_resolveBinding extend bound
      exact ⟨c', built, trivial⟩
    obtain ⟨own', first', paired⟩ := exists_forall₂ first again
    obtain ⟨variants', inner', paired'⟩ := exists_forall₂ inner fun v cs => exists_unfold extend
    obtain ⟨alternates', last', paired''⟩ := exists_forall₂ last again
    refine ⟨_, unfold_eq_ok.mpr ⟨absent, binds, own', variants', alternates', first', inner', last',
      rfl⟩, ?_⟩
    exact List.rel_append (List.rel_append paired (List.rel_flatten paired')) paired''

theorem exists_resolveBinding (extend : ∀ key, (serve key).isSome → (more key).isSome) :
    ∀ {fuel path type b wrap c}, resolveBinding schema serve fuel path type b wrap = .ok c →
      ∃ c', resolveBinding schema more fuel path type b wrap = .ok c'
  | 0, _, _, _, _, _, bound => by simp [resolveBinding] at bound
  | fuel + 1, path, type, b, wrap, c, bound => by
    obtain ⟨options, matcher, parameters, compiled, resolved, _⟩ := resolveBinding_eq_ok.mp bound
    have again (p : Param) i (resolved : resolve schema serve fuel path p.key = .ok i) :
        ∃ i', resolve schema more fuel path p.key = .ok i' ∧ True := by
      obtain ⟨i', built⟩ := exists_resolve extend resolved
      exact ⟨i', built, trivial⟩
    obtain ⟨parameters', resolved', _⟩ := exists_forall₂ resolved again
    exact ⟨_, resolveBinding_eq_ok.mpr ⟨options, matcher, parameters', compiled, resolved', rfl⟩⟩

end

end Draft

theorem Schema.answer_isOk_of_extend {schema : Schema α} {serve more : Key → Option (Converter α)}
    (extend : ∀ key, (serve key).isSome → (more key).isSome)
    (ok : schema.answer serve key = .ok i) : ∃ i', schema.answer more key = .ok i' := by
  obtain ⟨i', built⟩ := Draft.exists_resolve extend (Build.settle_eq_ok.mp ok)
  exact ⟨i', Build.settle_eq_ok.mpr built⟩

namespace Registry

variable {schema : Schema α}

/-- A registration leaves no key without a converter that had one. -/
theorem converterFor?_register_isSome (r : Registry α) (type : TypeRef) (convert : Converter α)
    (key : Key) (served : (r.converterFor? key).isSome) :
    ((r.register type convert).converterFor? key).isSome := by
  obtain ⟨current, found⟩ := Option.isSome_iff_exists.mp served
  obtain ⟨plain, registered⟩ := converterFor?_eq_some.mp found
  rw [plain, converterFor?_plain, converter?_register]
  split
  · rfl
  · simp [registered]

/-- Every key that has an interpreter can be drafted with the current converters, also where the
interpreter that is kept is outdated. -/
abbrev Draftable (schema : Schema α) (r : Registry α) : Prop :=
  Draft.Kept .any schema r.converterFor? r

theorem Draftable.register {r : Registry α} (draftable : r.Draftable schema) (type : TypeRef)
    (convert : Converter α) : (r.register type convert).Draftable schema := by
  intro key i found
  rw [cached?_register] at found
  split at found
  · contradiction
  · obtain ⟨fuel, path, draft, drafted, _⟩ := draftable key i found
    obtain ⟨draft', redrafted⟩ :=
      Draft.exists_resolve (r.converterFor?_register_isSome type convert) drafted
    exact ⟨fuel, path, draft', redrafted, trivial⟩

theorem Draftable.run (quiet : schema.Quiet) {r : Registry α} (draftable : r.Draftable schema)
    (ops : List (Operation α)) : (r.run schema ops).Draftable schema := by
  induction ops generalizing r with
  | nil => exact draftable
  | cons op ops ih =>
    cases op with
    | register type convert => exact ih (draftable.register type convert)
    | request names key =>
      obtain ⟨_, same, kept⟩ := ask_of_kept quiet draftable names key
      rw [← same] at kept
      exact ih kept

/-- A request succeeds exactly if the declarations and the current converters allow it. -/
theorem Draftable.ask_isOk_iff (quiet : schema.Quiet) {r : Registry α}
    (draftable : r.Draftable schema) (names : List String) (key : Key) :
    (∃ i, (r.ask schema names key).1 = .ok i) ↔
      ∃ i, schema.answer r.converterFor? key = .ok i :=
  (ask_of_kept quiet draftable names key).1.ok_iff

/-- In any state that a registry has come to by registrations and requests, a request that would
succeed still does after a converter has been registered, for whatever type. -/
theorem ask_register_of_ask (quiet : schema.Quiet) (scalars : Bool)
    (converters : List (TypeRef × Converter α)) (ops : List (Operation α)) (type : TypeRef)
    (convert : Converter α) (names names' : List String) (key : Key) :
    let r := (create scalars converters).run schema ops
    (∃ i, (r.ask schema names key).1 = .ok i) →
      ∃ i, ((r.register type convert).ask schema names' key).1 = .ok i := by
  intro r
  have draftable : r.Draftable schema := .run quiet (keeps_create scalars converters) ops
  rw [draftable.ask_isOk_iff quiet, (draftable.register type convert).ask_isOk_iff quiet]
  rintro ⟨i, ok⟩
  exact Schema.answer_isOk_of_extend (r.converterFor?_register_isSome type convert) ok

/-- A pair of characters can still be read by a pattern when characters are read in another way. -/
theorem ask_pair_of_register :
    let r := (create true []).run chains [.register (.scalar .bool) fun _ => none]
    let pair : Key := { type := .declared "Pair", pattern := some "(a)(b)" }
    (∃ i, (r.ask chains [] pair).1 = .ok i) ∧
      ∃ i, ((r.register (.scalar .char) fun _ => none).ask chains [] pair).1 = .ok i := by
  intro r pair
  have quiet : chains.Quiet := Schema.quiet_of_declarations (by simp [chains])
  have built : ∃ i, (r.ask chains [] pair).1 = .ok i := exists_of_isOk (by cbv)
  exact ⟨built, ask_register_of_ask quiet true [] _ _ _ [] [] pair built⟩

end Registry

end Construe
