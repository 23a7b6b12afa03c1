import Mathlib.Data.List.Perm.Subperm
import Mathlib.Tactic.Ring
import Construe.Proofs.Draft

/-! # The fuel of a request suffices

The keys and types that a request can come to form finite lists. A path repeats none of them, so
the room left on it bounds the depth of the recursion, whatever the registry holds and whatever
is registered on the way. -/
namespace Construe

namespace Build

/-- The step does not run out of fuel, from any session. -/
def Total (step : Build α β) : Prop := ∀ s, (exec step s).1 ≠ .error .exhausted

namespace Total

theorem pure (a : β) : Total (pure a : Build α β) := fun _ => by simp

theorem fail (type : TypeRef) (kind : BuildErrorKind) : Total (fail type kind : Build α β) :=
  fun _ => by simp

theorem bind {step : Build α β} {next : β → Build α γ} (first : Total step)
    (rest : ∀ a, Total (next a)) : Total (step >>= next) := by
  intro s
  rw [exec_bind]
  cases done : exec step s with
  | mk result s' =>
    cases result with
    | error stop => simpa [done] using first s
    | ok a => exact rest a s'

theorem registry {next : Registry α → Build α β} (rest : ∀ r, Total (next r)) :
    Total (registry >>= next) := fun s => rest s.registry s

theorem describe {schema : Schema α} {next : Descriptor α → Build α β}
    (rest : Total (next (schema.describe type))) : Total (describe schema type >>= next) :=
  fun _ => rest _

theorem within {step : Build α β} (total : Total step) : Total (within type step) := by
  intro s
  rw [exec_within]
  exact fun short => total s (outer_eq_exhausted.mp short)

theorem keep (key : Key) (built : Interpreter α) (generation : Nat) :
    Total (keep key built generation) := by
  intro s
  rw [exec_keep]
  split
  · simp
  · split <;> simp

theorem compilePattern (type : TypeRef) (source : String) (arity : Nat) :
    Total (compilePattern type source arity : Build α Pattern) := by
  intro s
  unfold Build.compilePattern
  rcases Pattern.whole source arity with (_ | _) | _ <;> simp

theorem compileSeparator (type : TypeRef) (source : String) :
    Total (compileSeparator type source : Build α Pattern) := by
  intro s
  unfold Build.compileSeparator
  rcases Pattern.ofString source with _ | _ <;> simp

theorem mapM {f : γ → Build α β} {xs : List γ} (each : ∀ x ∈ xs, Total (f x)) :
    Total (xs.mapM f) :=
  mapM_holds pure bind each

end Total

end Build

theorem TypeRef.mem_layers (t : TypeRef) : t ∈ t.layers := by
  cases t <;> simp [layers]

theorem TypeRef.item_mem_layers {t item : TypeRef} (member : .list item ∈ t.layers) :
    item ∈ t.layers := by
  induction t with
  | scalar => simp [layers] at member
  | declared => simp [layers] at member
  | list inner ih =>
    simp only [layers, List.mem_cons] at member ⊢
    rcases member with same | deeper
    · cases same
      exact .inr (mem_layers _)
    · exact .inr (ih deeper)

namespace Schema

variable {schema : Schema α}

theorem mem_typesFrom_self (schema : Schema α) (type : TypeRef) : type ∈ schema.typesFrom type := by
  simp [typesFrom, TypeRef.mem_layers]

/-- The types of a request are closed under what their descriptors name. -/
theorem mem_typesFrom {type t : TypeRef} (known : t ∈ schema.typesFrom type)
    (named : x ∈ (schema.describe t).types) : x ∈ schema.typesFrom type := by
  rcases schema.describe_cases t with ⟨d, declared, rfl, eq⟩ | ⟨item, rfl, eq⟩ | eq
  · rw [eq] at named
    simp only [typesFrom, List.mem_eraseDups, List.mem_flatMap, List.mem_cons]
    exact ⟨x, .inr ⟨d, declared, named⟩, x.mem_layers⟩
  · have same : x = item := by
      simpa [eq, Descriptor.ofSequence, Descriptor.types, Descriptor.params] using named
    simp only [typesFrom, List.mem_eraseDups, List.mem_flatMap] at known ⊢
    obtain ⟨y, source, layer⟩ := known
    exact ⟨y, source, same ▸ TypeRef.item_mem_layers layer⟩
  · simp [eq, Descriptor.bare, Descriptor.types, Descriptor.params] at named

theorem mem_declared_params (asked : p ∈ (schema.describe t).params) :
    p ∈ schema.declarations.flatMap (·.descriptor.params) := by
  rcases schema.describe_cases t with ⟨d, declared, rfl, eq⟩ | ⟨item, rfl, eq⟩ | eq
  · exact List.mem_flatMap.mpr ⟨d, declared, eq ▸ asked⟩
  · simp [eq, Descriptor.ofSequence, Descriptor.params] at asked
  · simp [eq, Descriptor.bare, Descriptor.params] at asked

theorem mem_patterns (asked : p ∈ (schema.describe t).params) (given : p.pattern = some x) :
    x ∈ schema.patterns := by
  simp only [patterns, List.mem_eraseDups, List.mem_filterMap]
  exact ⟨p, mem_declared_params asked, given⟩

theorem mem_separators (asked : p ∈ (schema.describe t).params) (given : p.separator = some x) :
    x ∈ schema.separators := by
  simp only [separators, List.mem_eraseDups, List.mem_filterMap]
  exact ⟨p, mem_declared_params asked, given⟩

/-- The keys that a request for `root` can come to. -/
def keysFrom (schema : Schema α) (root : Key) : List Key :=
  (schema.typesFrom root.type).flatMap fun type =>
    (none :: root.pattern :: schema.patterns.map some).flatMap fun pattern =>
      (none :: root.separator :: schema.separators.map some).map fun separator =>
        ⟨type, pattern, separator⟩

theorem length_keysFrom (schema : Schema α) (root : Key) :
    (schema.keysFrom root).length = schema.keyBound root := by
  simp [keysFrom, keyBound, List.length_flatMap, Function.comp_def, Nat.mul_assoc]
  left
  ring

theorem mem_keysFrom : k ∈ schema.keysFrom root ↔ k.type ∈ schema.typesFrom root.type ∧
    (k.pattern = none ∨ k.pattern = root.pattern ∨ ∃ p ∈ schema.patterns, k.pattern = some p) ∧
    (k.separator = none ∨ k.separator = root.separator ∨
      ∃ p ∈ schema.separators, k.separator = some p) := by
  obtain ⟨type, pattern, separator⟩ := k
  simp only [keysFrom, List.mem_flatMap, List.mem_map, List.mem_cons, Key.mk.injEq]
  constructor
  · rintro ⟨t, known, p, pattern, q, separator, rfl, rfl, rfl⟩
    exact ⟨known, by simpa [eq_comm] using pattern, by simpa [eq_comm] using separator⟩
  · rintro ⟨known, pattern, separator⟩
    exact ⟨_, known, _, by simpa [eq_comm] using pattern, _, by simpa [eq_comm] using separator,
      rfl, rfl, rfl⟩

theorem self_mem_keysFrom (schema : Schema α) (root : Key) : root ∈ schema.keysFrom root :=
  mem_keysFrom.mpr ⟨schema.mem_typesFrom_self root.type, .inr (.inl rfl), .inr (.inl rfl)⟩

/-- An item is asked for with the pattern of its list. -/
theorem item_mem_keysFrom {sequence : Sequence α} (known : k ∈ schema.keysFrom root)
    (shape : (schema.describe k.type).sequence = some sequence) :
    ⟨sequence.item, k.pattern, none⟩ ∈ schema.keysFrom root := by
  obtain ⟨type, pattern, _⟩ := mem_keysFrom.mp known
  refine mem_keysFrom.mpr ⟨mem_typesFrom type ?_, pattern, .inl rfl⟩
  simp [Descriptor.types, shape]

theorem param_mem_keysFrom (known : t ∈ schema.typesFrom root.type)
    (asked : p ∈ (schema.describe t).params) : p.key ∈ schema.keysFrom root := by
  refine mem_keysFrom.mpr ⟨mem_typesFrom known ?_, ?_, ?_⟩
  · simp only [Descriptor.types, List.mem_append, List.mem_map]
    exact .inl (.inl ⟨p, asked, rfl⟩)
  · cases given : p.pattern with
    | none => exact .inl given
    | some x => exact .inr (.inr ⟨x, mem_patterns asked given, given⟩)
  · cases given : p.separator with
    | none => exact .inl given
    | some x => exact .inr (.inr ⟨x, mem_separators asked given, given⟩)

theorem binding_mem_keysFrom (known : t ∈ schema.typesFrom root.type)
    (declared : b ∈ (schema.describe t).bindings) :
    ∀ k ∈ b.keys, k ∈ schema.keysFrom root := by
  intro k asked
  obtain ⟨p, listed, rfl⟩ := List.mem_map.mp asked
  apply param_mem_keysFrom known
  rcases List.mem_append.mp declared with own | alternate
  · have primary := Descriptor.constructor_of_ownBinding? (Option.mem_toList.mp own)
    simp [Descriptor.params, primary, listed]
  · simp only [Descriptor.params, List.mem_append, List.mem_flatMap]
    exact .inr ⟨b, alternate, listed⟩

theorem explicit_mem_keysFrom (known : t ∈ schema.typesFrom root.type)
    (declared : (schema.describe t).constructor = some constructor) :
    ∀ k ∈ Binding.keys ⟨pattern, constructor⟩, k ∈ schema.keysFrom root := by
  intro k asked
  obtain ⟨p, listed, rfl⟩ := List.mem_map.mp asked
  exact param_mem_keysFrom known (by simp [Descriptor.params, declared, listed])

theorem variant_mem_typesFrom (known : t ∈ schema.typesFrom type)
    (declared : v ∈ (schema.describe t).variants) : v.type ∈ schema.typesFrom type := by
  apply mem_typesFrom known
  simp only [Descriptor.types, List.mem_append, List.mem_map]
  exact .inl (.inr ⟨v, declared, rfl⟩)

end Schema

/-- A path of a request for `root`: no key and no type stands on it twice. -/
structure Path.Inside (schema : Schema α) (root : Key) (path : Path) : Prop where
  buildingNodup : path.building.Nodup
  unfoldingNodup : path.unfolding.Nodup
  building : path.building ⊆ schema.keysFrom root
  unfolding : path.unfolding ⊆ schema.typesFrom root.type

/-- How much further a path can go: four steps for a key, one for a variant. -/
def Path.room (schema : Schema α) (root : Key) (path : Path) : Nat :=
  4 * ((schema.keysFrom root).length - path.building.length) +
    ((schema.typesFrom root.type).length - path.unfolding.length)

namespace Path.Inside

variable {schema : Schema α} {root : Key} {path : Path}

theorem start : Path.Inside schema root .start := by
  constructor <;> simp [Path.start]

theorem build (inside : path.Inside schema root) (known : key ∈ schema.keysFrom root)
    (absent : key ∉ path.building) : (path.build key).Inside schema root where
  buildingNodup := List.nodup_cons.mpr ⟨absent, inside.buildingNodup⟩
  unfoldingNodup := inside.unfoldingNodup
  building := List.cons_subset.mpr ⟨known, inside.building⟩
  unfolding := inside.unfolding

theorem unfold (inside : path.Inside schema root) (known : type ∈ schema.typesFrom root.type)
    (absent : type ∉ path.unfolding) : (path.unfold type).Inside schema root where
  buildingNodup := inside.buildingNodup
  unfoldingNodup := List.nodup_cons.mpr ⟨absent, inside.unfoldingNodup⟩
  building := inside.building
  unfolding := List.cons_subset.mpr ⟨known, inside.unfolding⟩

theorem room_build (inside : (path.build key).Inside schema root) :
    (path.build key).room schema root + 4 ≤ path.room schema root := by
  have bound := (List.subperm_of_subset inside.buildingNodup inside.building).length_le
  simp only [Path.room, Path.build, List.length_cons] at bound ⊢
  omega

theorem room_unfold (inside : (path.unfold type).Inside schema root) :
    (path.unfold type).room schema root + 1 ≤ path.room schema root := by
  have bound := (List.subperm_of_subset inside.unfoldingNodup inside.unfolding).length_le
  simp only [Path.room, Path.unfold, List.length_cons] at bound ⊢
  omega

end Path.Inside

section Total

open Build

variable {schema : Schema α} {root : Key} {generation : Nat}

mutual

theorem total_resolve : ∀ {fuel path key}, path.Inside schema root → key ∈ schema.keysFrom root →
    path.room schema root + 1 ≤ fuel → Total (resolve schema generation fuel path key)
  | 0, _, _, _, _, enough => by omega
  | fuel + 1, path, key, inside, known, enough => by
    rw [resolve]
    apply Total.registry
    intro r
    split
    · exact .pure _
    · split
      · exact .fail _ _
      · rename_i absent
        have deeper := inside.build known absent
        have room := deeper.room_build
        apply (total_resolveNew deeper known (by omega)).bind
        exact fun built => .keep key built generation

theorem total_resolveNew : ∀ {fuel path key}, path.Inside schema root →
    key ∈ schema.keysFrom root → path.room schema root + 4 ≤ fuel →
    Total (resolveNew schema generation fuel path key)
  | 0, _, _, _, _, enough => by omega
  | fuel + 1, path, key, inside, known, enough => by
    have type := (Schema.mem_keysFrom.mp known).1
    rw [resolveNew]
    apply Total.registry
    intro r
    split
    · exact .pure _
    · apply Total.describe
      split
      · rename_i shape
        apply (Total.compileSeparator _ _).bind
        intro splitter
        apply (total_resolve inside (Schema.item_mem_keysFrom known shape) (by omega)).within.bind
        exact fun item => .pure _
      · exact .fail _ _
      · split
        · exact .fail _ _
        · rename_i constructor declared
          apply (total_resolveBinding inside (Schema.explicit_mem_keysFrom type declared)
            (by omega)).bind
          exact fun candidate => .pure _
      · apply (total_unfold inside type (by omega)).bind
        intro candidates
        split
        · split <;> exact .fail _ _
        · exact .pure _

theorem total_unfold : ∀ {fuel path type wrap}, path.Inside schema root →
    type ∈ schema.typesFrom root.type → path.room schema root + 3 ≤ fuel →
    Total (unfold schema generation fuel path type (schema.describe type) wrap)
  | 0, _, _, _, _, _, enough => by omega
  | fuel + 1, path, type, wrap, inside, known, enough => by
    have bindings b (declared : b ∈ (schema.describe type).bindings) :
        Total (resolveBinding schema generation fuel path type b wrap) :=
      total_resolveBinding inside (Schema.binding_mem_keysFrom known declared) (by omega)
    rw [unfold]
    split
    · exact .fail _ _
    · rename_i absent
      split
      · exact .fail _ _
      · have deeper := inside.unfold known absent
        have room := deeper.room_unfold
        apply (Total.mapM fun b member => bindings b (List.mem_append_left _ member)).bind
        intro own
        refine (Total.mapM fun v member => .describe ?_).bind fun variants => ?_
        · exact (total_unfold deeper (Schema.variant_mem_typesFrom known member) (by omega)).within
        · apply (Total.mapM fun b member => bindings b (List.mem_append_right _ member)).bind
          exact fun alternates => .pure _

theorem total_resolveBinding : ∀ {fuel path type b wrap}, path.Inside schema root →
    (∀ k ∈ b.keys, k ∈ schema.keysFrom root) → path.room schema root + 2 ≤ fuel →
    Total (resolveBinding schema generation fuel path type b wrap)
  | 0, _, _, _, _, _, _, enough => by omega
  | fuel + 1, path, type, ⟨pattern, constructor⟩, wrap, inside, known, enough => by
    rw [resolveBinding]
    split
    · exact .fail _ _
    · apply (Total.compilePattern _ _ _).bind
      intro matcher
      refine (Total.mapM fun p declared => ?_).bind fun parameters => .pure _
      exact (total_resolve inside (known p.key (List.mem_map_of_mem declared)) (by omega)).within

end

/-- A request never runs out of fuel: in every session, whatever is registered on the way. -/
theorem total_request (schema : Schema α) (generation : Nat) (key : Key) :
    Total (resolve schema generation (schema.fuel key) .start key) := by
  apply total_resolve .start (schema.self_mem_keysFrom key)
  have bound := schema.length_keysFrom key
  simp only [Path.room, Path.start, Schema.fuel, List.length_nil]
  omega

end Total

end Construe
