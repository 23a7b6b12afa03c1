import Mathlib
import Construe.Proofs.Outcome
import Construe.Proofs.Transparency

/-! # Cycles are found exactly

The dependency graph has a point for every key and one for the candidates of every type. From a
registry without interpreters, a request that succeeds reaches no cycle of the graph, and one that
fails with a cyclic type reaches a cycle through that type. -/
namespace Construe

/-- The type that a point of a build is about. -/
def Node.type : Node → TypeRef
  | .key k => k.type
  | .candidates type => type

/-- The dependency graph of a schema and the converters of a registry. Options that a key combines
in vain, a pattern and a separator for a type that is no list, still depend on what the pattern
asks for. -/
inductive Schema.Depends (schema : Schema α) (r : Registry α) : Node → Node → Prop where
  | item {sequence : Sequence α} : r.converterFor? k = none →
      (schema.describe k.type).sequence = some sequence →
      Depends schema r (.key k) (.key ⟨sequence.item, k.pattern, none⟩)
  | explicit : (schema.describe k.type).sequence = none → k.pattern = some pattern →
      (schema.describe k.type).constructor = some constructor → p ∈ constructor.params →
      Depends schema r (.key k) (.key p.key)
  | expansion : r.converter? type = none → (schema.describe type).sequence = none →
      Depends schema r (.key { type }) (.candidates type)
  | parameter : b ∈ (schema.describe type).bindings → p ∈ b.constructor.params →
      Depends schema r (.candidates type) (.key p.key)
  | variant : v ∈ (schema.describe type).variants →
      Depends schema r (.candidates type) (.candidates v.type)

namespace Draft

open Build

section Needs

variable {schema : Schema α} {serve : Key → Option (Converter α)}

variable (schema serve) in
/-- The point has been drafted, on some path and with some fuel. -/
def Drafted : Node → Prop
  | .key k => ∃ fuel path i, resolve schema serve fuel path k = .ok i
  | .candidates type => ∃ fuel path wrap cs, unfold schema serve fuel path type wrap = .ok cs

/-- The steps that a successful draft of a key can have taken. -/
theorem Drafted.new (drafted : Drafted schema serve (.key k)) :
    ∃ fuel path i, resolveNew schema serve (fuel + 1) path k = .ok i := by
  obtain ⟨_ | _ | fuel, path, i, resolved⟩ := drafted
  · simp [resolve] at resolved
  · simp [resolve_eq_ok, resolveNew] at resolved
  · exact ⟨fuel, _, i, (resolve_eq_ok.mp resolved).2⟩

theorem drafted_of_resolveBinding
    (bound : resolveBinding schema serve fuel path type b wrap = .ok c)
    (asked : p ∈ b.constructor.params) : Drafted schema serve (.key p.key) := by
  cases fuel with
  | zero => simp [resolveBinding] at bound
  | succ fuel =>
    obtain ⟨_, _, _, _, parameters, _⟩ := resolveBinding_eq_ok.mp bound
    obtain ⟨i, _, resolved⟩ := mem_left_of_forall₂ parameters asked
    exact ⟨fuel, path, i, resolved⟩

end Needs

section Graph

variable {schema : Schema α} {r : Registry α}

theorem depends_of_leads (leads : schema.Leads r.converterFor? a b) : schema.Depends r a b := by
  cases a with
  | candidates type =>
    rcases leads_candidates.mp leads with ⟨b, declared, k, asked, rfl⟩ | ⟨v, declared, rfl⟩
    · obtain ⟨p, listed, rfl⟩ := List.mem_map.mp asked
      exact .parameter declared listed
    · exact .variant declared
  | key k =>
    simp only [Schema.Leads, Schema.needs] at leads
    cases served : r.converterFor? k with
    | some convert => simp [served] at leads
    | none =>
      cases shape : (schema.describe k.type).sequence with
      | some sequence =>
        simp only [served, shape, List.mem_singleton] at leads
        exact leads ▸ .item served shape
      | none =>
        obtain ⟨type, pattern, separator⟩ := k
        cases separator with
        | some separator => simp [served, shape] at leads
        | none =>
          cases pattern with
          | some pattern =>
            simp only [served, shape, List.mem_flatMap, Option.mem_toList, List.mem_map] at leads
            obtain ⟨constructor, declared, key, asked, rfl⟩ := leads
            obtain ⟨p, listed, rfl⟩ := List.mem_map.mp asked
            exact .explicit shape rfl declared listed
          | none =>
            simp only [served, shape, List.mem_singleton] at leads
            exact leads ▸ .expansion served shape

/-- What a drafted point depends on, its draft needed, and it has been drafted as well. -/
theorem Drafted.need (drafted : Drafted schema r.converterFor? a) (depends : schema.Depends r a b) :
    schema.Leads r.converterFor? a b ∧ Drafted schema r.converterFor? b := by
  cases depends with
  | item unserved shape =>
    refine ⟨leads_item unserved shape, ?_⟩
    obtain ⟨fuel, path, i, resolved⟩ := drafted.new
    simp only [resolveNew_eq_ok, unserved, shape] at resolved
    obtain ⟨_, item, _, resolved, _⟩ := resolved
    exact ⟨fuel, path, item, resolved⟩
  | @explicit pattern constructor p k shape given declared listed =>
    have unserved : r.converterFor? k = none := by simp [Registry.converterFor?, Key.isPlain, given]
    obtain ⟨fuel, path, i, resolved⟩ := drafted.new
    rw [resolveNew_eq_ok] at resolved
    cases separator : k.separator with
    | some separator => simp [unserved, shape, separator] at resolved
    | none =>
      simp only [unserved, shape, separator, given, declared, Option.some.injEq] at resolved
      obtain ⟨_, candidate, rfl, bound, _⟩ := resolved
      exact ⟨leads_explicit unserved shape separator given declared (List.mem_map_of_mem listed),
        drafted_of_resolveBinding bound listed⟩
  | expansion unserved shape =>
    refine ⟨leads_sum unserved shape rfl rfl, ?_⟩
    obtain ⟨fuel, path, i, resolved⟩ := drafted.new
    simp only [resolveNew_eq_ok, Registry.converterFor?_plain, unserved, shape] at resolved
    obtain ⟨cs, unfolded, _⟩ := resolved
    exact ⟨fuel, path, _, cs, unfolded⟩
  | parameter declared listed =>
    refine ⟨leads_binding _ declared (List.mem_map_of_mem listed), ?_⟩
    obtain ⟨_ | fuel, path, wrap, cs, unfolded⟩ := drafted
    · simp [unfold] at unfolded
    · obtain ⟨_, _, _, _, _, own, _, alternates, _⟩ := unfold_eq_ok.mp unfolded
      rcases List.mem_append.mp declared with first | last
      · obtain ⟨_, _, bound⟩ := mem_left_of_forall₂ own first
        exact drafted_of_resolveBinding bound listed
      · obtain ⟨_, _, bound⟩ := mem_left_of_forall₂ alternates last
        exact drafted_of_resolveBinding bound listed
  | variant declared =>
    refine ⟨leads_variant _ declared, ?_⟩
    obtain ⟨_ | fuel, path, wrap, cs, unfolded⟩ := drafted
    · simp [unfold] at unfolded
    · obtain ⟨_, _, _, _, _, _, variants, _, _⟩ := unfold_eq_ok.mp unfolded
      obtain ⟨inner, _, unfolded⟩ := mem_left_of_forall₂ variants declared
      exact ⟨fuel, _, _, inner, unfolded⟩

theorem Drafted.grounded (drafted : Drafted schema r.converterFor? n) :
    schema.Grounded r.converterFor? n := by
  cases n with
  | key =>
    obtain ⟨_, _, _, resolved⟩ := drafted
    exact grounded_of_resolve resolved
  | candidates =>
    obtain ⟨_, _, _, _, unfolded⟩ := drafted
    exact grounded_of_unfold unfolded

theorem Drafted.reached (drafted : Drafted schema r.converterFor? a)
    (reaches : Relation.ReflTransGen (schema.Depends r) a b) :
    schema.Reaches r.converterFor? a b ∧ Drafted schema r.converterFor? b := by
  induction reaches with
  | refl => exact ⟨.refl, drafted⟩
  | tail _ step ih =>
    obtain ⟨leads, next⟩ := ih.2.need step
    exact ⟨ih.1.tail leads, next⟩

/-- A drafted point is on no cycle. -/
theorem Drafted.acyclic (drafted : Drafted schema r.converterFor? n) :
    ¬ Relation.TransGen (schema.Depends r) n n := by
  intro cycle
  obtain ⟨m, first, rest⟩ := Relation.TransGen.head'_iff.mp cycle
  obtain ⟨leads, next⟩ := drafted.need first
  exact drafted.grounded.no_return leads (next.reached rest).1

end Graph

section Blame

variable {schema : Schema α} {serve : Key → Option (Converter α)}

variable (schema serve) in
/-- A cyclic type that the draft of a point fails with is on a cycle that the point reaches. -/
def Blames (n : Node) (draft : Except Stop β) : Prop :=
  ∀ chain type, draft = .error (.failed ⟨chain, .cyclicType type⟩) →
    ∃ m, m.type = type ∧ schema.Reaches serve n m ∧ Relation.TransGen (schema.Leads serve) m m

namespace Blames

theorem ok (a : β) : Blames schema serve n (.ok a) := fun _ _ failed => by contradiction

theorem exhausted : Blames schema serve n (.error .exhausted : Except Stop β) :=
  fun _ _ failed => by simp at failed

/-- Failures of another kind blame nobody. -/
theorem fail (other : ∀ t, kind ≠ .cyclicType t) :
    Blames schema serve n (fail type kind : Except Stop β) := by
  intro chain t failed
  simp only [fail_eq, BuildError.raised, Except.error.injEq, Stop.failed.injEq,
    BuildError.mk.injEq] at failed
  exact absurd failed.2 (other t)

/-- A point that its own path leads to is on a cycle. -/
theorem cyclic (leadsTo : LeadsTo schema serve path n) (present : n ∈ path.nodes)
    (same : n.type = type) :
    Blames schema serve n (Build.fail type (.cyclicType type) : Except Stop β) := by
  intro chain t failed
  simp only [fail_eq, BuildError.raised, Except.error.injEq, Stop.failed.injEq,
    BuildError.mk.injEq, BuildErrorKind.cyclicType.injEq] at failed
  exact ⟨n, same.trans failed.2, .refl, leadsTo n present⟩

theorem need {draft : Except Stop β} (blames : Blames schema serve b draft)
    (leads : schema.Leads serve a b) : Blames schema serve a draft := by
  intro chain type failed
  obtain ⟨m, same, reaches, cycle⟩ := blames chain type failed
  exact ⟨m, same, .head leads reaches, cycle⟩

theorem outer {draft : Except Stop β} (blames : Blames schema serve n draft) :
    Blames schema serve n (outer outermost draft) := by
  intro chain type failed
  rcases draft with (e | _) | _
  · simp only [Build.outer, BuildError.within, Except.error.injEq, Stop.failed.injEq,
      BuildError.mk.injEq] at failed
    exact blames e.chain type (by rw [← failed.2])
  · simp [Build.outer] at failed
  · simp [Build.outer] at failed

theorem bind {draft : Except Stop β} {next : β → Except Stop γ}
    (first : Blames schema serve n draft) (rest : ∀ a, Blames schema serve n (next a)) :
    Blames schema serve n (draft >>= next) := by
  cases draft with
  | error stop =>
    intro chain type failed
    exact first chain type (congrArg Except.error (Except.error.inj failed))
  | ok a => exact rest a

theorem mapM {draft : γ → Except Stop β} {xs : List γ}
    (each : ∀ x ∈ xs, Blames schema serve n (draft x)) :
    Blames schema serve n (xs.mapM draft) :=
  Build.mapM_holds (P := Blames schema serve n) ok bind each

theorem compilePattern : Blames schema serve n (compilePattern type source arity) := by
  unfold Build.compilePattern
  rcases Pattern.whole source arity with (_ | _) | p
  · exact fail (by simp)
  · exact fail (by simp)
  · exact ok p

theorem compileSeparator : Blames schema serve n (compileSeparator type source) := by
  unfold Build.compileSeparator
  rcases Pattern.ofString source with _ | p
  · exact fail (by simp)
  · exact ok p

end Blames

mutual

theorem blames_resolve : ∀ {fuel path key}, LeadsTo schema serve path (.key key) →
    Blames schema serve (.key key) (resolve schema serve fuel path key)
  | 0, _, _, _ => .exhausted
  | fuel + 1, path, key, leadsTo => by
    rw [resolve]
    split
    next present => exact .cyclic leadsTo (Path.mem_nodes_key.mpr present) rfl
    next => exact blames_resolveNew fun n leads => leadsTo.build leads

theorem blames_resolveNew : ∀ {fuel path key},
    (∀ n, schema.Leads serve (.key key) n → LeadsTo schema serve path n) →
    Blames schema serve (.key key) (resolveNew schema serve fuel path key)
  | 0, _, _, _ => .exhausted
  | fuel + 1, path, key, leadsTo => by
    rw [resolveNew]
    cases served : serve key with
    | some convert => exact .ok _
    | none =>
      cases shape : (schema.describe key.type).sequence with
      | some sequence =>
        have leads := leads_item served shape
        apply Blames.compileSeparator.bind
        intro splitter
        exact ((blames_resolve (leadsTo _ leads)).need leads).outer.bind fun _ => .ok _
      | none =>
        cases separator : key.separator with
        | some separator => exact .fail (by simp)
        | none =>
          cases given : key.pattern with
          | some pattern =>
            cases declared : (schema.describe key.type).constructor with
            | none => exact .fail (by simp)
            | some constructor =>
              have leads k (asked : k ∈ Binding.keys ⟨pattern, constructor⟩) :=
                leads_explicit served shape separator given declared asked
              apply (blames_resolveBinding fun k asked =>
                ⟨leads k asked, leadsTo _ (leads k asked)⟩).bind
              exact fun _ => .ok _
          | none =>
            have leads := leads_sum served shape separator given
            apply ((blames_unfold (leadsTo _ leads)).need leads).bind
            intro candidates
            cases candidates with
            | nil =>
              dsimp only
              split <;> exact .fail (by simp)
            | cons => exact .ok _

theorem blames_unfold : ∀ {fuel path type wrap}, LeadsTo schema serve path (.candidates type) →
    Blames schema serve (.candidates type) (unfold schema serve fuel path type wrap)
  | 0, _, _, _, _ => .exhausted
  | fuel + 1, path, type, wrap, leadsTo => by
    have bindings b (declared : b ∈ (schema.describe type).bindings) :
        Blames schema serve (.candidates type)
          (resolveBinding schema serve fuel path type b wrap) := by
      apply blames_resolveBinding
      intro k asked
      have leads := leads_binding serve declared asked
      exact ⟨leads, leadsTo.need leads⟩
    rw [unfold]
    split
    next present => exact .cyclic leadsTo (Path.mem_nodes_candidates.mpr present) rfl
    next =>
      split
      · exact .fail (by simp)
      · apply (Blames.mapM fun b member => bindings b (List.mem_append_left _ member)).bind
        intro own
        refine (Blames.mapM fun v member => ?_).bind fun variants => ?_
        · have leads := leads_variant serve member
          exact ((blames_unfold (leadsTo.unfold leads)).need leads).outer
        · apply (Blames.mapM fun b member => bindings b (List.mem_append_right _ member)).bind
          exact fun _ => .ok _

theorem blames_resolveBinding : ∀ {fuel path type b wrap},
    (∀ k ∈ b.keys, schema.Leads serve n (.key k) ∧ LeadsTo schema serve path (.key k)) →
    Blames schema serve n (resolveBinding schema serve fuel path type b wrap)
  | 0, _, _, _, _, _ => .exhausted
  | fuel + 1, path, type, ⟨pattern, constructor⟩, wrap, needs => by
    rw [resolveBinding]
    split
    · exact .fail (by simp)
    · apply Blames.compilePattern.bind
      intro matcher
      refine (Blames.mapM fun p declared => ?_).bind fun _ => .ok _
      obtain ⟨leads, leadsTo⟩ := needs p.key (List.mem_map_of_mem declared)
      exact ((blames_resolve leadsTo).need leads).outer

end

end Blame

end Draft

namespace Registry

variable {schema : Schema α}

/-- Asked of a registry without interpreters, a request that succeeds reaches no cycle of the
dependency graph; one that fails with a cyclic type reaches a cycle through that type. So a type
that leads back to itself nowhere is not reported, however often it is used. -/
theorem cyclic_type_exact (quiet : schema.Quiet) (scalars : Bool)
    (converters : List (TypeRef × Converter α)) (names : List String) (key : Key) :
    let r := create scalars converters
    let Depends := schema.Depends r
    (∀ i, (r.ask schema names key).1 = .ok i →
      ∀ n, Relation.ReflTransGen Depends (.key key) n → ¬ Relation.TransGen Depends n n) ∧
    (∀ chain type, (r.ask schema names key).1 = .error ⟨chain, .cyclicType type⟩ →
      ∃ n : Node, n.type = type ∧ Relation.ReflTransGen Depends (.key key) n ∧
        Relation.TransGen Depends n n) ∧
    ∀ type, (∀ n : Node, n.type = type → ¬ Relation.TransGen Depends n n) →
      ∀ chain, (r.ask schema names key).1 ≠ .error ⟨chain, .cyclicType type⟩ := by
  intro r Depends
  have answered : (r.ask schema names key).1 = schema.answer r.converterFor? key :=
    ask_run quiet scalars converters [] (by simp) names key
  have onCycle (chain : List TypeRef) (type : TypeRef)
      (failed : (r.ask schema names key).1 = .error ⟨chain, .cyclicType type⟩) :
      ∃ n : Node, n.type = type ∧ Relation.ReflTransGen Depends (.key key) n ∧
        Relation.TransGen Depends n n := by
    have drafted : (schema.answer r.converterFor? key).mapError Stop.failed = _ :=
      Build.mapError_settle (Draft.resolve_ne_exhausted quiet r key)
    rw [← answered, failed] at drafted
    obtain ⟨n, same, reaches, cycle⟩ :=
      Draft.blames_resolve Draft.leadsTo_start chain type drafted.symm
    exact ⟨n, same, reaches.lift id fun _ _ => Draft.depends_of_leads,
      cycle.lift id fun _ _ => Draft.depends_of_leads⟩
  refine ⟨?_, onCycle, ?_⟩
  · intro i ok n reaches
    rw [answered, Schema.answer, Build.settle_eq_ok] at ok
    have drafted : Draft.Drafted schema r.converterFor? (.key key) := ⟨_, _, i, ok⟩
    exact (drafted.reached reaches).2.acyclic
  · intro type apart chain failed
    obtain ⟨n, same, _, cycle⟩ := onCycle chain type failed
    exact apart n same cycle

/-- A badge is written in two ways, both of them a mark; a nest holds a nest. -/
def badges : Schema Unit where
  declarations := [
    { name := "Mark"
      descriptor := {
        pattern := some "(m)"
        constructor := some (.ofTypes [.scalar .char] fun _ => .ok ()) } },
    { name := "Badge"
      descriptor := {
        variants := [⟨.declared "Mark", fun _ => ()⟩, ⟨.declared "Mark", fun _ => ()⟩] } },
    { name := "Nest"
      descriptor := {
        pattern := some "n(n*)"
        constructor := some (.ofTypes [.declared "Nest"] fun _ => .ok ()) } }]

/-- The same variant twice is no cycle, and the cycle that is reported is there. -/
theorem badges_cycles :
    let r : Registry Unit := create false [(.scalar .char, Scalar.char.convert)]
    let Depends := badges.Depends r
    (∃ i, (r.ask badges [] { type := .declared "Badge" }).1 = .ok i) ∧
    (∀ n, Relation.ReflTransGen Depends (.key { type := .declared "Badge" }) n →
      ¬ Relation.TransGen Depends n n) ∧
    ∃ n : Node, n.type = .declared "Nest" ∧
      Relation.ReflTransGen Depends (.key { type := .declared "Nest" }) n ∧
      Relation.TransGen Depends n n := by
  intro r Depends
  have quiet : badges.Quiet := Schema.quiet_of_declarations (by simp [badges])
  have built : ∃ i, (r.ask badges [] { type := .declared "Badge" }).1 = .ok i :=
    exists_of_isOk (by cbv)
  have failed : (r.ask badges [] { type := .declared "Nest" }).1 =
      .error ⟨[.declared "Nest", .declared "Nest"], .cyclicType (.declared "Nest")⟩ := by cbv
  refine ⟨built, ?_, (cyclic_type_exact quiet false _ [] _).2.1 _ _ failed⟩
  obtain ⟨i, built⟩ := built
  exact (cyclic_type_exact quiet false _ [] _).1 i built

end Registry

end Construe
