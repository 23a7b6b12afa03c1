import Mathlib.Logic.Relation
import Mathlib.Data.List.Forall2
import Construe.Proofs.Building

/-! # Interpreters from declarations alone

A draft is what a request answers when nothing is kept and asking for a descriptor does nothing:
a function of the schema and of the converters. Drafts are stated with the same fuel and the same
path as resolution. What a successful draft needs has no cycle, so its answer does not depend on
the path that led to it. -/
namespace Construe

/-- A point of a build: a key, or the candidates of a type. -/
inductive Node where
  | key (k : Key)
  | candidates (type : TypeRef)
deriving DecidableEq, Repr

def Binding.keys (b : Binding α) : List Key := b.constructor.params.map Param.key

/-- The bindings a type declares itself, in the order of trial. -/
def Descriptor.bindings (d : Descriptor α) : List (Binding α) :=
  d.ownBinding?.toList ++ d.alternates

/-- What a point of a build needs next. A key that a converter serves needs nothing. -/
def Schema.needs (schema : Schema α) (serve : Key → Option (Converter α)) : Node → List Node
  | .key k =>
    let d := schema.describe k.type
    match serve k, d.sequence, k.separator, k.pattern with
    | some _, _, _, _ => []
    | none, some sequence, _, pattern => [.key ⟨sequence.item, pattern, none⟩]
    | none, none, some _, _ => []
    | none, none, none, some pattern =>
      d.constructor.toList.flatMap fun c => (Binding.keys ⟨pattern, c⟩).map .key
    | none, none, none, none => [.candidates k.type]
  | .candidates type =>
    let d := schema.describe type
    d.bindings.flatMap (fun b => b.keys.map .key) ++ d.variants.map fun v => .candidates v.type

section Graph

variable (schema : Schema α) (serve : Key → Option (Converter α))

def Schema.Leads (a b : Node) : Prop := b ∈ schema.needs serve a

/-- One point needs another, at once or after some steps. -/
abbrev Schema.Reaches : Node → Node → Prop := Relation.ReflTransGen (schema.Leads serve)

/-- Whatever a point needs, the chain of needs ends. -/
def Schema.Grounded : Node → Prop := Acc fun b a => schema.Leads serve a b

end Graph

section Grounded

variable {schema : Schema α} {serve : Key → Option (Converter α)}

theorem Schema.Grounded.need (grounded : schema.Grounded serve a) (leads : schema.Leads serve a b) :
    schema.Grounded serve b := Acc.inv grounded leads

theorem Schema.Grounded.no_return (grounded : schema.Grounded serve a)
    (leads : schema.Leads serve a b) : ¬ schema.Reaches serve b a := by
  induction grounded generalizing b with
  | intro a _ ih =>
    intro back
    rcases back.cases_head with rfl | ⟨c, first, rest⟩
    · exact ih b leads leads .refl
    · exact ih b leads first (rest.tail leads)

end Grounded

/-- The points of a build that are in progress on a path. -/
def Path.nodes (path : Path) : List Node :=
  path.building.map .key ++ path.unfolding.map .candidates

@[simp] theorem Path.mem_nodes_key {path : Path} {k : Key} :
    .key k ∈ path.nodes ↔ k ∈ path.building := by
  simp [Path.nodes]

@[simp] theorem Path.mem_nodes_candidates {path : Path} {type : TypeRef} :
    .candidates type ∈ path.nodes ↔ type ∈ path.unfolding := by
  simp [Path.nodes]

namespace Path

theorem mem_nodes_build {path : Path} {key : Key} {n : Node} :
    n ∈ (path.build key).nodes ↔ n = .key key ∨ n ∈ path.nodes := by
  simp [nodes, build]

theorem mem_nodes_unfold {path : Path} {type : TypeRef} {n : Node} :
    n ∈ (path.unfold type).nodes ↔ n = .candidates type ∨ n ∈ path.nodes := by
  simp only [nodes, unfold, List.map_cons, List.mem_append, List.mem_cons]
  tauto

end Path

namespace Draft

open Build

mutual

def resolve (schema : Schema α) (serve : Key → Option (Converter α)) :
    (fuel : Nat) → Path → Key → Except Stop (Interpreter α)
  | 0, _, _ => .error .exhausted
  | fuel + 1, path, key =>
    if key ∈ path.building then fail key.type (.cyclicType key.type)
    else resolveNew schema serve fuel (path.build key) key

def resolveNew (schema : Schema α) (serve : Key → Option (Converter α)) :
    (fuel : Nat) → Path → Key → Except Stop (Interpreter α)
  | 0, _, _ => .error .exhausted
  | fuel + 1, path, key =>
    match serve key with
    | some convert => .ok (.converter key.type convert)
    | none =>
      match (schema.describe key.type).sequence, key.separator, key.pattern with
      | some sequence, separator, pattern => do
        let separator ← compileSeparator key.type (separator.getD defaultSeparator)
        let item ← outer key.type (resolve schema serve fuel path ⟨sequence.item, pattern, none⟩)
        return .sequence key.type separator item sequence.collect
      | none, some separator, _ => fail key.type (.unexpectedSeparator key.type separator)
      | none, none, some pattern =>
        match (schema.describe key.type).constructor with
        | none => fail key.type (.noConstructor key.type)
        | some constructor => do
          let candidate ← resolveBinding schema serve fuel path key.type ⟨pattern, constructor⟩ .ok
          return .candidates key.type [candidate]
      | none, none, none => do
        match ← unfold schema serve fuel path key.type .ok with
        | [] =>
          if (schema.describe key.type).variants.isEmpty then fail key.type (.noBinding key.type)
          else fail key.type (.emptySumType key.type)
        | candidates => return .candidates key.type candidates

def unfold (schema : Schema α) (serve : Key → Option (Converter α)) :
    (fuel : Nat) → Path → TypeRef → Wrap α → Except Stop (List (Candidate α))
  | 0, _, _, _ => .error .exhausted
  | fuel + 1, path, type, wrap =>
    if type ∈ path.unfolding then fail type (.cyclicType type)
    else if (schema.describe type).lacksConstructor then fail type (.noConstructor type)
    else do
      let own ← (schema.describe type).ownBinding?.toList.mapM fun binding =>
        resolveBinding schema serve fuel path type binding wrap
      let variants ← (schema.describe type).variants.mapM fun v =>
        outer type (unfold schema serve fuel (path.unfold type) v.type (v.chain type wrap))
      let alternates ← (schema.describe type).alternates.mapM fun binding =>
        resolveBinding schema serve fuel path type binding wrap
      return own ++ variants.flatten ++ alternates

def resolveBinding (schema : Schema α) (serve : Key → Option (Converter α)) :
    (fuel : Nat) → Path → TypeRef → Binding α → Wrap α → Except Stop (Candidate α)
  | 0, _, _, _, _ => .error .exhausted
  | fuel + 1, path, type, ⟨pattern, constructor⟩, wrap => do
    match constructor.unknownOptions with
    | index :: _ => fail type (.unknownParameter index constructor.arity)
    | [] =>
      let matcher ← compilePattern type pattern constructor.arity
      let parameters ← constructor.params.mapM fun p =>
        outer type (resolve schema serve fuel path p.key)
      return .mk pattern matcher parameters (constructor.chain type wrap)

end

variable {schema : Schema α} {serve : Key → Option (Converter α)}

theorem resolve_eq_ok : resolve schema serve (fuel + 1) path key = .ok i ↔
    key ∉ path.building ∧ resolveNew schema serve fuel (path.build key) key = .ok i := by
  rw [resolve]
  split
  next found => simp [found, fail_eq]
  next absent => simp [absent]

theorem resolveBinding_eq_ok :
    resolveBinding schema serve (fuel + 1) path type b wrap = .ok c ↔
      b.constructor.unknownOptions = [] ∧ ∃ matcher parameters,
        Pattern.whole b.pattern b.constructor.arity = .ok matcher ∧
        List.Forall₂ (fun p i => resolve schema serve fuel path p.key = .ok i)
          b.constructor.params parameters ∧
        c = .mk b.pattern matcher parameters (b.constructor.chain type wrap) := by
  obtain ⟨pattern, constructor⟩ := b
  rw [resolveBinding]
  cases constructor.unknownOptions with
  | cons => simp [fail_eq]
  | nil =>
    simp only [bind_eq_ok, mapM_eq_ok, outer_eq_ok, compilePattern_eq_ok, pure, Except.pure,
      Except.ok.injEq, true_and, eq_comm (a := c)]
    constructor
    · rintro ⟨matcher, compiled, parameters, resolved, made⟩
      exact ⟨matcher, parameters, compiled, resolved, made⟩
    · rintro ⟨matcher, parameters, compiled, resolved, made⟩
      exact ⟨matcher, compiled, parameters, resolved, made⟩

theorem unfold_eq_ok :
    unfold schema serve (fuel + 1) path type wrap = .ok cs ↔
      type ∉ path.unfolding ∧ (schema.describe type).lacksConstructor = false ∧
      ∃ own variants alternates,
        List.Forall₂ (fun b c => resolveBinding schema serve fuel path type b wrap = .ok c)
          (schema.describe type).ownBinding?.toList own ∧
        List.Forall₂ (fun v cs =>
          unfold schema serve fuel (path.unfold type) v.type (v.chain type wrap) = .ok cs)
          (schema.describe type).variants variants ∧
        List.Forall₂ (fun b c => resolveBinding schema serve fuel path type b wrap = .ok c)
          (schema.describe type).alternates alternates ∧
        cs = own ++ variants.flatten ++ alternates := by
  rw [unfold]
  split
  next found => simp [found, fail_eq]
  next absent =>
    split
    next lacks => simp [lacks, fail_eq]
    next binds =>
      simp only [bind_eq_ok, mapM_eq_ok, outer_eq_ok, pure, Except.pure, Except.ok.injEq]
      simp only [absent, binds, not_false_eq_true, true_and]
      constructor
      · rintro ⟨own, first, variants, inner, alternates, last, rfl⟩
        exact ⟨own, variants, alternates, first, inner, last, rfl⟩
      · rintro ⟨own, variants, alternates, first, inner, last, rfl⟩
        exact ⟨own, first, variants, inner, alternates, last, rfl⟩

theorem resolveNew_eq_ok : resolveNew schema serve (fuel + 1) path key = .ok i ↔
    match serve key, (schema.describe key.type).sequence, key.separator, key.pattern with
    | some convert, _, _, _ => i = .converter key.type convert
    | none, some sequence, separator, pattern => ∃ splitter item,
        Pattern.ofString (separator.getD defaultSeparator) = .ok splitter ∧
        resolve schema serve fuel path ⟨sequence.item, pattern, none⟩ = .ok item ∧
        i = .sequence key.type splitter item sequence.collect
    | none, none, some _, _ => False
    | none, none, none, some pattern => ∃ constructor candidate,
        (schema.describe key.type).constructor = some constructor ∧
        resolveBinding schema serve fuel path key.type ⟨pattern, constructor⟩ .ok = .ok candidate ∧
        i = .candidates key.type [candidate]
    | none, none, none, none => ∃ cs,
        unfold schema serve fuel path key.type .ok = .ok cs ∧ cs ≠ [] ∧
        i = .candidates key.type cs := by
  rw [resolveNew]
  cases serve key with
  | some convert => simp [eq_comm]
  | none =>
    cases (schema.describe key.type).sequence with
    | some sequence =>
      simp only [bind_eq_ok, outer_eq_ok, compileSeparator_eq_ok, pure, Except.pure,
        Except.ok.injEq]
      constructor
      · rintro ⟨splitter, compiled, item, resolved, rfl⟩
        exact ⟨splitter, item, compiled, resolved, rfl⟩
      · rintro ⟨splitter, item, compiled, resolved, rfl⟩
        exact ⟨splitter, compiled, item, resolved, rfl⟩
    | none =>
      cases key.separator with
      | some separator => simp [fail_eq]
      | none =>
        cases key.pattern with
        | some pattern =>
          cases (schema.describe key.type).constructor with
          | none => simp [fail_eq]
          | some constructor =>
            simp only [bind_eq_ok, pure, Except.pure, Except.ok.injEq, Option.some.injEq]
            constructor
            · rintro ⟨candidate, resolved, rfl⟩
              exact ⟨constructor, candidate, rfl, resolved, rfl⟩
            · rintro ⟨_, candidate, rfl, resolved, rfl⟩
              exact ⟨candidate, resolved, rfl⟩
        | none =>
          simp only [bind_eq_ok]
          constructor
          · rintro ⟨_ | ⟨c, cs⟩, unfolded, rest⟩
            · simp only [fail_eq] at rest
              split at rest <;> contradiction
            · exact ⟨_, unfolded, by simp, (Except.ok.inj rest).symm⟩
          · rintro ⟨_ | ⟨c, cs⟩, unfolded, nonempty, rfl⟩
            · contradiction
            · exact ⟨_, unfolded, rfl⟩

/-- Every need of a binding's parameters is one of the declaring type. -/
theorem leads_binding (serve : Key → Option (Converter α))
    (declared : b ∈ (schema.describe type).bindings) (asked : k ∈ b.keys) :
    schema.Leads serve (.candidates type) (.key k) := by
  simp only [Schema.Leads, Schema.needs, List.mem_append, List.mem_flatMap, List.mem_map]
  exact .inl ⟨b, declared, k, asked, rfl⟩

theorem leads_variant (serve : Key → Option (Converter α))
    (declared : v ∈ (schema.describe type).variants) :
    schema.Leads serve (.candidates type) (.candidates v.type) := by
  simp only [Schema.Leads, Schema.needs, List.mem_append, List.mem_map]
  exact .inr ⟨v, declared, rfl⟩

theorem leads_candidates : schema.Leads serve (.candidates type) n ↔
    (∃ b ∈ (schema.describe type).bindings, ∃ k ∈ b.keys, n = .key k) ∨
    ∃ v ∈ (schema.describe type).variants, n = .candidates v.type := by
  simp only [Schema.Leads, Schema.needs, List.mem_append, List.mem_flatMap, List.mem_map, eq_comm]

mutual

theorem grounded_of_resolve : ∀ {fuel path key i},
    resolve schema serve fuel path key = .ok i → schema.Grounded serve (.key key)
  | 0, _, _, _, resolved => by simp [resolve] at resolved
  | _ + 1, _, _, _, resolved => grounded_of_resolveNew (resolve_eq_ok.mp resolved).2

theorem grounded_of_resolveNew : ∀ {fuel path key i},
    resolveNew schema serve fuel path key = .ok i → schema.Grounded serve (.key key)
  | 0, _, _, _, resolved => by simp [resolveNew] at resolved
  | fuel + 1, path, key, i, resolved => by
    rw [resolveNew_eq_ok] at resolved
    constructor
    intro n leads
    simp only [Schema.Leads, Schema.needs] at leads
    cases served : serve key with
    | some convert => simp [served] at leads
    | none =>
      cases shape : (schema.describe key.type).sequence with
      | some sequence =>
        simp only [served, shape, List.mem_singleton] at leads resolved
        obtain ⟨_, _, _, item, _⟩ := resolved
        exact leads ▸ grounded_of_resolve item
      | none =>
        cases separator : key.separator with
        | some _ => simp [served, shape, separator] at leads
        | none =>
          cases pattern : key.pattern with
          | some pattern =>
            simp only [served, shape, separator, pattern] at leads resolved
            obtain ⟨constructor, _, declared, bound, _⟩ := resolved
            simp only [declared, Option.toList_some, List.flatMap_singleton, List.mem_map] at leads
            obtain ⟨k, asked, rfl⟩ := leads
            exact grounded_of_resolveBinding bound k asked
          | none =>
            simp only [served, shape, separator, pattern, List.mem_singleton] at leads resolved
            obtain ⟨_, unfolded, _⟩ := resolved
            exact leads ▸ grounded_of_unfold unfolded

theorem grounded_of_unfold : ∀ {fuel path type wrap cs},
    unfold schema serve fuel path type wrap = .ok cs → schema.Grounded serve (.candidates type)
  | 0, _, _, _, _, unfolded => by simp [unfold] at unfolded
  | fuel + 1, path, type, wrap, cs, unfolded => by
    obtain ⟨_, _, _, _, _, own, variants, alternates, _⟩ := unfold_eq_ok.mp unfolded
    constructor
    intro n leads
    rcases leads_candidates.mp leads with ⟨b, declared, k, asked, rfl⟩ | ⟨v, declared, rfl⟩
    · rcases List.mem_append.mp declared with first | last
      · obtain ⟨_, _, bound⟩ := mem_left_of_forall₂ own first
        exact grounded_of_resolveBinding bound k asked
      · obtain ⟨_, _, bound⟩ := mem_left_of_forall₂ alternates last
        exact grounded_of_resolveBinding bound k asked
    · obtain ⟨_, _, inner⟩ := mem_left_of_forall₂ variants declared
      exact grounded_of_unfold inner

theorem grounded_of_resolveBinding : ∀ {fuel path type b wrap c},
    resolveBinding schema serve fuel path type b wrap = .ok c →
    ∀ k ∈ b.keys, schema.Grounded serve (.key k)
  | 0, _, _, _, _, _, bound, _, _ => by simp [resolveBinding] at bound
  | fuel + 1, path, type, b, wrap, c, bound, k, asked => by
    obtain ⟨_, _, _, _, parameters, _⟩ := resolveBinding_eq_ok.mp bound
    obtain ⟨p, declared, rfl⟩ := List.mem_map.mp asked
    obtain ⟨_, _, resolved⟩ := mem_left_of_forall₂ parameters declared
    exact grounded_of_resolve resolved

end

theorem leads_item {sequence : Sequence α} (unserved : serve k = none)
    (shape : (schema.describe k.type).sequence = some sequence) :
    schema.Leads serve (.key k) (.key ⟨sequence.item, k.pattern, none⟩) := by
  simp [Schema.Leads, Schema.needs, unserved, shape]

theorem leads_explicit (unserved : serve k = none)
    (shape : (schema.describe k.type).sequence = none) (separator : k.separator = none)
    (given : k.pattern = some pattern)
    (declared : (schema.describe k.type).constructor = some constructor)
    (asked : n ∈ Binding.keys ⟨pattern, constructor⟩) :
    schema.Leads serve (.key k) (.key n) := by
  simp [Schema.Leads, Schema.needs, unserved, shape, separator, given, declared, asked]

theorem leads_sum (unserved : serve k = none)
    (shape : (schema.describe k.type).sequence = none) (separator : k.separator = none)
    (pattern : k.pattern = none) : schema.Leads serve (.key k) (.candidates k.type) := by
  simp [Schema.Leads, Schema.needs, unserved, shape, separator, pattern]

/-- What succeeds once gives the same again, short of fuel. -/
def Steady (a b : Except Stop β) : Prop := ∀ y, a = .ok y → b = .ok y ∨ b = .error .exhausted

namespace Steady

theorem refl (a : Except Stop β) : Steady a a := fun _ ok => .inl ok

theorem of_error {e : Stop} : Steady (.error e) (b : Except Stop β) := by
  intro _ ok
  contradiction

theorem exhausted : Steady (a : Except Stop β) (.error .exhausted) := fun _ _ => .inr rfl

theorem outer (steady : Steady (a : Except Stop β) b) :
    Steady (outer type a) (outer type b) := by
  intro y ok
  rcases steady y (outer_eq_ok.mp ok) with same | short
  · exact .inl (outer_eq_ok.mpr same)
  · exact .inr (outer_eq_exhausted.mpr short)

theorem bind {f g : β → Except Stop γ} (first : Steady a b)
    (next : ∀ y, a = .ok y → Steady (f y) (g y)) : Steady (a >>= f) (b >>= g) := by
  intro z ok
  obtain ⟨y, done, rest⟩ := bind_eq_ok.mp ok
  rcases first y done with rfl | rfl
  · exact next y done z rest
  · exact .inr rfl

theorem mapM {f g : β → Except Stop γ} {xs : List β} (each : ∀ x ∈ xs, Steady (f x) (g x)) :
    Steady (xs.mapM f) (xs.mapM g) :=
  Build.mapM_related (fun _ => refl _) (fun first next => first.bind fun y _ => next y) each

end Steady

variable (schema serve) in
/-- Nothing on the path is needed by the point. -/
def Avoids (path : Path) (n : Node) : Prop := ∀ m ∈ path.nodes, ¬ schema.Reaches serve n m

theorem Avoids.need (avoids : Avoids schema serve path a) (leads : schema.Leads serve a b) :
    Avoids schema serve path b :=
  fun m member reaches => avoids m member (.head leads reaches)

theorem Avoids.build (avoids : Avoids schema serve path (.key k))
    (grounded : schema.Grounded serve (.key k)) (leads : schema.Leads serve (.key k) b) :
    Avoids schema serve (path.build k) b := by
  intro m member
  rcases Path.mem_nodes_build.mp member with rfl | member
  · exact grounded.no_return leads
  · exact avoids.need leads m member

theorem Avoids.unfold (avoids : Avoids schema serve path (.candidates type))
    (grounded : schema.Grounded serve (.candidates type))
    (leads : schema.Leads serve (.candidates type) b) :
    Avoids schema serve (path.unfold type) b := by
  intro m member
  rcases Path.mem_nodes_unfold.mp member with rfl | member
  · exact grounded.no_return leads
  · exact avoids.need leads m member

mutual

/-- A draft does not depend on the path and the fuel, as long as the path has nothing to do with
what is drafted. -/
theorem steady_resolve : ∀ {fuel fuel' path path' key}, schema.Grounded serve (.key key) →
    Avoids schema serve path' (.key key) →
    Steady (resolve schema serve fuel path key) (resolve schema serve fuel' path' key)
  | 0, _, _, _, _, _, _ => .of_error
  | _ + 1, 0, _, _, _, _, _ => .exhausted
  | fuel + 1, fuel' + 1, path, path', key, grounded, avoids => by
    -- On the other path the key cannot be in progress: it would need itself.
    have absent : key ∉ path'.building :=
      fun member => avoids _ (Path.mem_nodes_key.mpr member) .refl
    simp only [resolve, if_neg absent]
    split
    · exact .of_error
    · exact steady_resolveNew grounded fun n leads => avoids.build grounded leads

theorem steady_resolveNew : ∀ {fuel fuel' path path' key}, schema.Grounded serve (.key key) →
    (∀ n, schema.Leads serve (.key key) n → Avoids schema serve path' n) →
    Steady (resolveNew schema serve fuel path key) (resolveNew schema serve fuel' path' key)
  | 0, _, _, _, _, _, _ => .of_error
  | _ + 1, 0, _, _, _, _, _ => .exhausted
  | fuel + 1, fuel' + 1, path, path', key, grounded, avoids => by
    simp only [resolveNew]
    cases served : serve key with
    | some convert => exact .refl _
    | none =>
      cases shape : (schema.describe key.type).sequence with
      | some sequence =>
        have leads := leads_item served shape
        apply (Steady.refl _).bind
        intro splitter _
        apply (steady_resolve (grounded.need leads) (avoids _ leads)).outer.bind
        exact fun _ _ => .refl _
      | none =>
        cases separator : key.separator with
        | some separator => exact .refl _
        | none =>
          cases given : key.pattern with
          | some pattern =>
            cases declared : (schema.describe key.type).constructor with
            | none => exact .refl _
            | some constructor =>
              have leads k (asked : k ∈ Binding.keys ⟨pattern, constructor⟩) :=
                leads_explicit served shape separator given declared asked
              refine (steady_resolveBinding fun k asked => ⟨?_, ?_⟩).bind fun _ _ => .refl _
              · exact grounded.need (leads k asked)
              · exact avoids _ (leads k asked)
          | none =>
            have leads := leads_sum served shape separator given
            apply (steady_unfold (grounded.need leads) (avoids _ leads)).bind
            exact fun _ _ => .refl _

theorem steady_unfold : ∀ {fuel fuel' path path' type wrap},
    schema.Grounded serve (.candidates type) → Avoids schema serve path' (.candidates type) →
    Steady (unfold schema serve fuel path type wrap) (unfold schema serve fuel' path' type wrap)
  | 0, _, _, _, _, _, _, _ => .of_error
  | _ + 1, 0, _, _, _, _, _, _ => .exhausted
  | fuel + 1, fuel' + 1, path, path', type, wrap, grounded, avoids => by
    have absent : type ∉ path'.unfolding :=
      fun member => avoids _ (Path.mem_nodes_candidates.mpr member) .refl
    have bindings b (declared : b ∈ (schema.describe type).bindings) :
        Steady (resolveBinding schema serve fuel path type b wrap)
          (resolveBinding schema serve fuel' path' type b wrap) := by
      apply steady_resolveBinding
      intro k asked
      have leads := leads_binding serve declared asked
      exact ⟨grounded.need leads, avoids.need leads⟩
    simp only [unfold, if_neg absent]
    split
    · exact .of_error
    · split
      · exact .of_error
      · apply (Steady.mapM fun b member => bindings b (List.mem_append_left _ member)).bind
        intro own _
        refine (Steady.mapM fun v member => ?_).bind fun variants _ => ?_
        · have leads := leads_variant serve member
          exact (steady_unfold (grounded.need leads) (avoids.unfold grounded leads)).outer
        · apply (Steady.mapM fun b member => bindings b (List.mem_append_right _ member)).bind
          exact fun _ _ => .refl _

theorem steady_resolveBinding : ∀ {fuel fuel' path path' type b wrap},
    (∀ k ∈ b.keys, schema.Grounded serve (.key k) ∧ Avoids schema serve path' (.key k)) →
    Steady (resolveBinding schema serve fuel path type b wrap)
      (resolveBinding schema serve fuel' path' type b wrap)
  | 0, _, _, _, _, _, _, _ => .of_error
  | _ + 1, 0, _, _, _, _, _, _ => .exhausted
  | fuel + 1, fuel' + 1, path, path', type, ⟨pattern, constructor⟩, wrap, apart => by
    simp only [resolveBinding]
    split
    · exact .of_error
    · apply (Steady.refl _).bind
      intro matcher _
      refine (Steady.mapM fun p declared => ?_).bind fun _ _ => .refl _
      obtain ⟨grounded, avoids⟩ := apart p.key (List.mem_map_of_mem declared)
      exact (steady_resolve grounded avoids).outer

end

variable (schema serve) in
/-- Every point on the path needs the given one. -/
def LeadsTo (path : Path) (n : Node) : Prop :=
  ∀ m ∈ path.nodes, Relation.TransGen (schema.Leads serve) m n

/-- An interpreter that was drafted once is what is drafted on any path that leads to its key. -/
theorem resolve_of_resolve (drafted : resolve schema serve fuel path key = .ok i)
    (leads : LeadsTo schema serve path' (.key key))
    (enough : resolve schema serve fuel' path' key ≠ .error .exhausted) :
    resolve schema serve fuel' path' key = .ok i := by
  -- A point of the path that the key needed would need itself, through the key.
  have grounded := grounded_of_resolve drafted
  refine (steady_resolve grounded ?_ i drafted).resolve_right enough
  intro m member reaches
  obtain ⟨n, first, rest⟩ := Relation.TransGen.head'_iff.mp (.trans_right reaches (leads m member))
  exact grounded.no_return first rest

end Draft

end Construe
