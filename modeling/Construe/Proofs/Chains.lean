import Mathlib
import Construe.Proofs.Cycles

/-! # The chain of an error leads to the type at fault

A request that fails gives the chain of the types it went through. The chain is a trail of
declared dependencies from the requested type to the one at fault: parameters, items and variants
add a name each, building and unfolding the same type adds none. A cyclic type stands on its own
chain twice. Nothing is assumed of the registry or of what descriptors register on the way. -/
namespace Construe

/-- The type that an error speaks of, where it names one. -/
def BuildErrorKind.type? : BuildErrorKind → Option TypeRef
  | .noBinding type | .emptySumType type | .noConstructor type | .unexpectedSeparator type _
  | .cyclicType type => some type
  | .arityMismatch _ _ _ | .invalidPattern _ _ | .invalidSeparator _ _ | .unknownParameter _ _ =>
    none

/-- What can be wrong with a binding: an option for no parameter, or its pattern. -/
inductive Binding.Wrong (b : Binding α) : BuildErrorKind → Prop where
  | option : b.constructor.unknownOptions = index :: others →
      Wrong b (.unknownParameter index b.constructor.arity)
  | pattern : Pattern.whole b.pattern b.constructor.arity = .error (.invalid fault) →
      Wrong b (.invalidPattern b.pattern fault.message)
  | groups : Pattern.whole b.pattern b.constructor.arity = .error (.groupCount actual) →
      Wrong b (.arityMismatch b.pattern b.constructor.arity actual)

/-- What can be wrong with a point of a build, its parts left aside. A key is at fault for the
options it was asked for with, the candidates of a type for what the type declares. -/
inductive Schema.AtFault (schema : Schema α) : Node → BuildErrorKind → Prop where
  | noBinding : (schema.describe type).sequence = none → (schema.describe type).variants = [] →
      AtFault schema (.key { type }) (.noBinding type)
  | emptySum : (schema.describe type).sequence = none → (schema.describe type).variants ≠ [] →
      AtFault schema (.key { type }) (.emptySumType type)
  | unbound : (schema.describe k.type).sequence = none → k.pattern = some pattern →
      (schema.describe k.type).constructor = none →
      AtFault schema (.key k) (.noConstructor k.type)
  | separated : (schema.describe k.type).sequence = none → k.separator = some separator →
      AtFault schema (.key k) (.unexpectedSeparator k.type separator)
  | separator {sequence : Sequence α} : (schema.describe k.type).sequence = some sequence →
      Pattern.ofString (k.separator.getD defaultSeparator) = .error fault →
      AtFault schema (.key k)
        (.invalidSeparator (k.separator.getD defaultSeparator) fault.message)
  | asked : (schema.describe k.type).sequence = none → k.pattern = some pattern →
      (schema.describe k.type).constructor = some constructor →
      Binding.Wrong ⟨pattern, constructor⟩ kind → AtFault schema (.key k) kind
  | lacking : (schema.describe type).lacksConstructor = true →
      AtFault schema (.candidates type) (.noConstructor type)
  | declared : b ∈ (schema.describe type).bindings → b.Wrong kind →
      AtFault schema (.candidates type) kind
  | cyclic (n : Node) : AtFault schema n (.cyclicType n.type)

/-- The types that are passed on the way from one point of a build to another. -/
inductive Schema.Trail (schema : Schema α) : Node → List TypeRef → Node → Prop where
  | here (n : Node) : Trail schema n [n.type] n
  | item {sequence : Sequence α} : (schema.describe k.type).sequence = some sequence →
      Trail schema (.key ⟨sequence.item, k.pattern, none⟩) chain n →
      Trail schema (.key k) (k.type :: chain) n
  | explicit : (schema.describe k.type).sequence = none → k.pattern = some pattern →
      (schema.describe k.type).constructor = some constructor → p ∈ constructor.params →
      Trail schema (.key p.key) chain n → Trail schema (.key k) (k.type :: chain) n
  | expansion : (schema.describe type).sequence = none → Trail schema (.candidates type) chain n →
      Trail schema (.key { type }) chain n
  | parameter : b ∈ (schema.describe type).bindings → p ∈ b.constructor.params →
      Trail schema (.key p.key) chain n → Trail schema (.candidates type) (type :: chain) n
  | variant : v ∈ (schema.describe type).variants → Trail schema (.candidates v.type) chain n →
      Trail schema (.candidates type) (type :: chain) n

namespace Schema

variable {schema : Schema α}

theorem AtFault.type_eq (fault : schema.AtFault n kind) (named : kind.type? = some type) :
    n.type = type := by
  have unnamed {b : Binding α} (wrong : b.Wrong kind) : kind.type? = none := by
    cases wrong <;> rfl
  cases fault with
  | asked _ _ _ wrong | declared _ wrong => simp [unnamed wrong] at named
  | separator => simp [BuildErrorKind.type?] at named
  | _ => simpa [BuildErrorKind.type?, Node.type] using named

namespace Trail

theorem head? (trail : schema.Trail a chain b) : chain.head? = some a.type := by
  induction trail with
  | expansion _ _ ih => exact ih
  | _ => rfl

theorem getLast? (trail : schema.Trail a chain b) : chain.getLast? = some b.type := by
  have longer {outer last : TypeRef} {chain : List TypeRef} (ends : chain.getLast? = some last) :
      (outer :: chain).getLast? = some last := by
    simp [List.getLast?_cons, ends]
  induction trail with
  | here => rfl
  | expansion _ _ ih => exact ih
  | item _ _ ih | explicit _ _ _ _ _ ih | parameter _ _ _ ih | variant _ _ ih => exact longer ih

theorem named_of_parameter (declared : b ∈ (schema.describe type).bindings)
    (listed : p ∈ b.constructor.params) : p.type ∈ (schema.describe type).types := by
  have known : p ∈ (schema.describe type).params := by
    rcases List.mem_append.mp declared with own | alternate
    · have primary := Descriptor.constructor_of_ownBinding? (Option.mem_toList.mp own)
      simp [Descriptor.params, primary, listed]
    · simp only [Descriptor.params, List.mem_append, List.mem_flatMap]
      exact .inr ⟨b, alternate, listed⟩
  simp only [Descriptor.types, List.mem_append, List.mem_map]
  exact .inl (.inl ⟨p, known, rfl⟩)

/-- Every type of a trail names the one after it. -/
theorem isChain (trail : schema.Trail a chain b) :
    chain.IsChain fun outer inner => inner ∈ (schema.describe outer).types := by
  have longer {outer : TypeRef} {chain : List TypeRef} {a b : Node}
      (trail : schema.Trail a chain b) (named : a.type ∈ (schema.describe outer).types)
      (rest : chain.IsChain fun outer inner => inner ∈ (schema.describe outer).types) :
      (outer :: chain).IsChain fun outer inner => inner ∈ (schema.describe outer).types := by
    refine List.isChain_cons.mpr ⟨fun inner first => ?_, rest⟩
    rw [trail.head?] at first
    cases first
    exact named
  induction trail with
  | here => exact .singleton _
  | expansion _ _ ih => exact ih
  | item shape trail ih =>
    refine longer trail ?_ ih
    simp [Descriptor.types, shape, Node.type]
  | explicit _ _ declared listed trail ih =>
    refine longer trail ?_ ih
    simp only [Descriptor.types, Descriptor.params, declared, Option.elim_some, List.mem_append,
      List.mem_map]
    exact .inl (.inl ⟨_, .inl listed, rfl⟩)
  | parameter declared listed trail ih => exact longer trail (named_of_parameter declared listed) ih
  | variant declared trail ih =>
    refine longer trail ?_ ih
    simp only [Descriptor.types, List.mem_append, List.mem_map]
    exact .inl (.inr ⟨_, declared, rfl⟩)

end Trail

end Schema

/-! ### The errors of building steps -/

namespace Build

/-- Whatever error the step ends with is one of a kind. -/
def Fails (step : Build α β) (kind : BuildError → Prop) : Prop :=
  ∀ s e, (exec step s).1 = .error (.failed e) → kind e

namespace Fails

variable {kind : BuildError → Prop}

theorem pure (a : β) : Fails (pure a : Build α β) kind := by
  intro s e failed
  simp at failed

theorem exhausted : Fails (throw .exhausted : Build α β) kind := by
  intro s e failed
  simp at failed

theorem fail (raised : kind (.raised type why)) : Fails (fail type why : Build α β) kind := by
  intro s e failed
  simp only [exec_fail, Except.error.injEq, Stop.failed.injEq] at failed
  exact failed ▸ raised

theorem bind {step : Build α β} {next : β → Build α γ} (first : Fails step kind)
    (rest : ∀ a, Fails (next a) kind) : Fails (step >>= next) kind := by
  intro s e failed
  rw [exec_bind] at failed
  cases done : exec step s with
  | mk result s' =>
    rw [done] at failed
    cases result with
    | error stop =>
      obtain rfl : stop = .failed e := Except.error.inj failed
      exact first s e (by rw [done])
    | ok a => exact rest a s' e failed

theorem registry {next : Registry α → Build α β} (rest : ∀ r, Fails (next r) kind) :
    Fails (registry >>= next) kind := fun s => rest s.registry s

theorem describe {schema : Schema α} {next : Descriptor α → Build α β}
    (rest : Fails (next (schema.describe type)) kind) :
    Fails (describe schema type >>= next) kind := fun _ => rest _

theorem within {step : Build α β} {inner : BuildError → Prop} (fails : Fails step inner)
    (further : ∀ e, inner e → kind (e.within type)) : Fails (within type step) kind := by
  intro s e failed
  rw [exec_within] at failed
  cases result : (exec step s).1 with
  | ok => simp [result, outer] at failed
  | error stop =>
    cases stop with
    | exhausted => simp [result, outer] at failed
    | failed found =>
      simp only [result, outer, Except.error.injEq, Stop.failed.injEq] at failed
      exact failed ▸ further found (fails s found result)

theorem mapM {step : γ → Build α β} {xs : List γ} (each : ∀ x ∈ xs, Fails (step x) kind) :
    Fails (xs.mapM step) kind :=
  mapM_holds (P := fun step => Fails step kind) pure bind each

theorem keep (key : Key) (built : Interpreter α) (generation : Nat) :
    Fails (keep key built generation) kind := by
  intro s e failed
  rw [exec_keep] at failed
  split at failed
  · simp at failed
  · split at failed <;> simp at failed

theorem compilePattern
    (wrong : ∀ why, Binding.Wrong ⟨pattern, constructor⟩ why → kind (.raised type why)) :
    Fails (compilePattern type pattern constructor.arity : Build α Pattern) kind := by
  unfold Build.compilePattern
  split
  · exact pure _
  · rename_i invalid
    exact fail (wrong _ (.pattern invalid))
  · rename_i miscounted
    exact fail (wrong _ (.groups miscounted))

theorem compileSeparator
    (wrong : ∀ fault, Pattern.ofString source = .error fault →
      kind (.raised type (.invalidSeparator source fault.message))) :
    Fails (compileSeparator type source : Build α Pattern) kind := by
  unfold Build.compileSeparator
  split
  · exact pure _
  · rename_i invalid
    exact fail (wrong _ invalid)

end Fails

end Build

/-! ### The trail of a request -/

/-- The chain of the error is a trail from the point to one at fault, and a cyclic type stands
before the end of it, or else among the types above the point. -/
structure BuildError.Blames (schema : Schema α) (above : List TypeRef) (n : Node)
    (e : BuildError) : Prop where
  trail : ∃ m, schema.Trail n e.chain m ∧ schema.AtFault m e.kind
  cyclic : ∀ type, e.kind = .cyclicType type → type ∈ e.chain.dropLast ∨ type ∈ above

/-- The types of the keys being built are `type` or above it, and so are those being unfolded,
which come from above. -/
structure Path.Beneath (path : Path) (above : List TypeRef) (type : TypeRef) : Prop where
  building : ∀ k ∈ path.building, k.type ∈ type :: above
  unfolding : path.unfolding ⊆ above

namespace BuildError.Blames

variable {schema : Schema α} {above : List TypeRef}

theorem raised (n : Node) {kind : BuildErrorKind} (fault : schema.AtFault n kind)
    (acyclic : ∀ type, kind ≠ .cyclicType type) : Blames schema above n (.raised n.type kind) where
  trail := ⟨n, .here n, fault⟩
  cyclic type same := absurd same (acyclic type)

theorem returned (n : Node) (present : n.type ∈ above) :
    Blames schema above n (.raised n.type (.cyclicType n.type)) where
  trail := ⟨n, .here n, .cyclic n⟩
  cyclic type same := by
    cases same
    exact .inr present

/-- A step to a part puts a name in front, which is no longer needed above. -/
theorem within {outer : TypeRef}
    (step : ∀ {chain m}, schema.Trail b chain m → schema.Trail a (outer :: chain) m)
    (blames : Blames schema (outer :: above) b e) : Blames schema above a (e.within outer) where
  trail := by
    obtain ⟨m, trail, fault⟩ := blames.trail
    exact ⟨m, step trail, fault⟩
  cyclic type same := by
    obtain ⟨m, trail, _⟩ := blames.trail
    have some : e.chain ≠ [] := by
      intro none
      simpa [none] using trail.head?
    have front : (e.within outer).chain.dropLast = outer :: e.chain.dropLast :=
      List.dropLast_cons_of_ne_nil some
    rw [front]
    rcases blames.cyclic type same with earlier | higher
    · exact .inl (List.mem_cons_of_mem _ earlier)
    · rcases List.mem_cons.mp higher with rfl | higher
      · exact .inl List.mem_cons_self
      · exact .inr higher

theorem expand (shape : (schema.describe type).sequence = none)
    (blames : Blames schema above (.candidates type) e) :
    Blames schema above (.key { type }) e where
  trail := by
    obtain ⟨m, trail, fault⟩ := blames.trail
    exact ⟨m, .expansion shape trail, fault⟩
  cyclic := blames.cyclic

end BuildError.Blames

namespace Build

variable {schema : Schema α} {generation : Nat} {above : List TypeRef}

theorem Fails.imp {step : Build α β} {kind kind' : BuildError → Prop} (fails : Fails step kind)
    (weaker : ∀ e, kind e → kind' e) : Fails step kind' :=
  fun s e failed => weaker e (fails s e failed)

mutual

theorem fails_resolve : ∀ {fuel path key above}, (∀ k ∈ path.building, k.type ∈ above) →
    path.unfolding ⊆ above →
    Fails (resolve schema generation fuel path key) (·.Blames schema above (.key key))
  | 0, _, _, _, _, _ => .exhausted
  | fuel + 1, path, key, above, building, unfolding => by
    rw [resolve]
    apply Fails.registry
    intro r
    split
    · exact .pure _
    · split
      · rename_i present
        exact .fail (.returned (.key key) (building key present))
      · have beneath : (path.build key).Beneath above key.type := by
          refine ⟨fun k member => ?_, unfolding⟩
          rcases List.mem_cons.mp member with rfl | member
          · exact List.mem_cons_self
          · exact List.mem_cons_of_mem _ (building k member)
        exact (fails_resolveNew beneath).bind fun built => .keep key built generation

theorem fails_resolveNew : ∀ {fuel path key above}, path.Beneath above key.type →
    Fails (resolveNew schema generation fuel path key) (·.Blames schema above (.key key))
  | 0, _, _, _, _ => .exhausted
  | fuel + 1, path, key, above, beneath => by
    have unfolding : path.unfolding ⊆ key.type :: above := fun type member =>
      List.mem_cons_of_mem _ (beneath.unfolding member)
    rw [resolveNew]
    apply Fails.registry
    intro r
    split
    · exact .pure _
    · apply Fails.describe
      split
      · rename_i sequence separator pattern shape
        refine .bind (.compileSeparator fun fault invalid => ?_) fun splitter => ?_
        · exact .raised (.key key) (.separator shape invalid) (by simp)
        · refine .bind (.within (fails_resolve beneath.building unfolding) fun e blames => ?_)
            fun _ => .pure _
          exact blames.within fun trail => .item shape trail
      · rename_i shape given
        exact .fail (.raised (.key key) (.separated shape given) (by simp))
      · rename_i shape separator given
        split
        · rename_i missing
          exact .fail (.raised (.key key) (.unbound shape given missing) (by simp))
        · rename_i constructor declared
          refine .bind (fails_resolveBinding beneath ?_ ?_ rfl) fun _ => .pure _
          · exact fun kind wrong => .asked shape given declared wrong
          · exact fun p listed chain m trail => .explicit shape given declared listed trail
      · rename_i shape separator given
        obtain ⟨type, _, _⟩ := key
        dsimp only at shape separator given
        subst separator given
        refine .bind ((fails_unfold beneath).imp fun e blames => blames.expand shape) ?_
        intro candidates
        split
        · split
          · rename_i none
            exact .fail (.raised (.key _) (.noBinding shape (List.isEmpty_iff.mp none)) (by simp))
          · rename_i some
            exact .fail (.raised (.key _)
              (.emptySum shape fun none => some (List.isEmpty_iff.mpr none)) (by simp))
        · exact .pure _

theorem fails_unfold : ∀ {fuel path type wrap above}, path.Beneath above type →
    Fails (unfold schema generation fuel path type (schema.describe type) wrap)
      (·.Blames schema above (.candidates type))
  | 0, _, _, _, _, _ => .exhausted
  | fuel + 1, path, type, wrap, above, beneath => by
    have bindings b (declared : b ∈ (schema.describe type).bindings) :
        Fails (resolveBinding schema generation fuel path type b wrap)
          (·.Blames schema above (.candidates type)) :=
      fails_resolveBinding beneath (fun kind wrong => .declared declared wrong)
        (fun p listed chain m trail => .parameter declared listed trail) rfl
    rw [unfold]
    split
    · rename_i present
      exact .fail (.returned (.candidates type) (beneath.unfolding present))
    · split
      · rename_i lacks
        exact .fail (.raised (.candidates type) (.lacking lacks) (by simp))
      · apply (Fails.mapM fun b member => bindings b (List.mem_append_left _ member)).bind
        intro own
        refine (Fails.mapM fun v member => ?_).bind fun variants => ?_
        · have deeper : (path.unfold type).Beneath (type :: above) v.type :=
            ⟨fun k built => List.mem_cons_of_mem _ (beneath.building k built),
              List.cons_subset_cons _ beneath.unfolding⟩
          refine .describe (.within (fails_unfold deeper) fun e blames => ?_)
          exact blames.within fun trail => .variant member trail
        · apply (Fails.mapM fun b member => bindings b (List.mem_append_right _ member)).bind
          exact fun _ => .pure _

/-- A binding is refused at the point that brings it in, or one of its parameters is. -/
theorem fails_resolveBinding : ∀ {fuel path type b wrap above n}, path.Beneath above type →
    (∀ kind, b.Wrong kind → schema.AtFault n kind) →
    (∀ p ∈ b.constructor.params, ∀ chain m, schema.Trail (.key p.key) chain m →
      schema.Trail n (type :: chain) m) → n.type = type →
    Fails (resolveBinding schema generation fuel path type b wrap) (·.Blames schema above n)
  | 0, _, _, _, _, _, _, _, _, _, _ => .exhausted
  | fuel + 1, path, type, ⟨pattern, constructor⟩, wrap, above, n, beneath, fault, step, same => by
    subst same
    have wrong kind (wrong : Binding.Wrong ⟨pattern, constructor⟩ kind) :
        (BuildError.raised n.type kind).Blames schema above n := by
      refine .raised n (fault kind wrong) fun type => ?_
      cases wrong <;> simp
    have unfolding : path.unfolding ⊆ n.type :: above := fun type member =>
      List.mem_cons_of_mem _ (beneath.unfolding member)
    rw [resolveBinding]
    split
    · rename_i option
      exact .fail (wrong _ (.option option))
    · refine .bind (.compilePattern wrong) fun matcher => ?_
      refine .bind (.mapM fun p listed => ?_) fun _ => .pure _
      refine .within (fails_resolve beneath.building unfolding) fun e blames => ?_
      exact blames.within fun trail => step p listed _ _ trail

end

end Build

/-- Whatever the session, a request that fails names the requested type first, and each further
type of its chain is a parameter, a variant or the item of the one before. The chain is the trail
to a point of the build that is at fault: the type that the error speaks of, the type that
declares the refused pattern or option or was asked for with it, the list that has no splitter. A
cyclic type has been on the chain before. -/
theorem Session.chain_leads_to_fault (schema : Schema α) (key : Key) (s : Session α)
    (e : BuildError) (failed : (Session.request schema key s).1 = .error e) :
    e.target? = some key.type ∧
    e.chain.IsChain (fun outer inner => inner ∈ (schema.describe outer).types) ∧
    (∃ n, schema.Trail (.key key) e.chain n ∧ e.chain.getLast? = some n.type ∧
      schema.AtFault n e.kind) ∧
    (∀ type, e.kind.type? = some type → e.chain.getLast? = some type) ∧
    ∀ type, e.kind = .cyclicType type → type ∈ e.chain.dropLast := by
  have stopped : (Build.exec (resolve schema s.registry.generation (schema.fuel key) .start key)
      s).1 = .error (.failed e) := by
    have ends := total_request schema s.registry.generation key s
    have settled : (key.settle _).mapError Stop.failed = _ := Build.mapError_settle ends
    rw [← settled]
    exact congrArg (Except.mapError Stop.failed) failed
  have blames : e.Blames schema [] (.key key) :=
    Build.fails_resolve (by simp [Path.start]) (by simp [Path.start]) s e stopped
  obtain ⟨n, trail, fault⟩ := blames.trail
  refine ⟨trail.head?, trail.isChain, ⟨n, trail, trail.getLast?, fault⟩, ?_, ?_⟩
  · intro type named
    rw [trail.getLast?, fault.type_eq named]
  · intro type cyclic
    simpa using blames.cyclic type cyclic

/-- A crate holds boxes, a box is a carton, and a carton is labelled by a crate or written with a
group too many. -/
def crates : Schema Unit where
  declarations := [
    { name := "Crate"
      descriptor := {
        pattern := some "<(b*)>"
        constructor := some (.ofTypes [.list (.declared "Box")] fun _ => .ok ()) } },
    { name := "Box"
      descriptor := { variants := [⟨.declared "Carton", fun _ => ()⟩] } },
    { name := "Carton"
      descriptor := {
        alternates := [
          ⟨"c(b)", .ofTypes [.declared "Crate"] fun _ => .ok ()⟩,
          ⟨"(a)(b)", .ofTypes [.scalar .char] fun _ => .ok ()⟩] } }]

/-- A crate leads back to itself through a list, its item, a variant and an alternate. A converter
for crates takes the cycle away; then a pattern of the carton has a group too many. -/
theorem crates_chains :
    let cycle : List TypeRef := [.declared "Crate", .list (.declared "Box"), .declared "Box",
      .declared "Carton", .declared "Crate"]
    let s : Session Unit := ⟨[], .standard, []⟩
    let later : Session Unit := ⟨[], s.registry.register (.declared "Crate") fun _ => none, []⟩
    let boxes : Key := { type := .list (.declared "Box") }
    (Session.request crates { type := .declared "Crate" } s).1 =
      .error ⟨cycle, .cyclicType (.declared "Crate")⟩ ∧
    cycle.IsChain (fun outer inner => inner ∈ (crates.describe outer).types) ∧
    TypeRef.declared "Crate" ∈ cycle.dropLast ∧
    ∃ e n, (Session.request crates boxes later).1 = .error e ∧
      crates.Trail (.key boxes) e.chain n ∧ n.type = .declared "Carton" ∧
      crates.AtFault n (.arityMismatch "(a)(b)" 1 2) := by
  intro cycle s later boxes
  have cyclic : (Session.request crates { type := .declared "Crate" } s).1 =
      .error ⟨cycle, .cyclicType (.declared "Crate")⟩ := by
    unfold s
    cbv
  have refused : (Session.request crates boxes later).1 =
      .error ⟨[.list (.declared "Box"), .declared "Box", .declared "Carton"],
        .arityMismatch "(a)(b)" 1 2⟩ := by
    unfold later s
    cbv
  obtain ⟨_, linked, _, _, again⟩ := Session.chain_leads_to_fault crates _ s _ cyclic
  obtain ⟨_, _, ⟨n, trail, last, fault⟩, _⟩ :=
    Session.chain_leads_to_fault crates boxes later _ refused
  exact ⟨cyclic, linked, again _ rfl, _, n, refused, trail, (Option.some.inj last).symm, fault⟩

end Construe
