import Construe.Proofs.Chains

/-! # Types with nothing to try

A plain request can end with no candidate at all. It does so exactly where neither the type nor
any type it unfolds to declares a binding and the unfolding has no cycle: what lists, converters
and constructors without a pattern have to offer is not reached through variants. The registry may
be in any state, and descriptors may register what they like. -/
namespace Construe

open Relation (ReflTransGen TransGen)

/-- One type has the other for a variant. -/
def Schema.HasVariant (schema : Schema α) (type part : TypeRef) : Prop :=
  ∃ v ∈ (schema.describe type).variants, v.type = part

/-- Neither the type nor any that it unfolds to declares a pattern of its own or an alternate. -/
def Schema.Barren (schema : Schema α) (type : TypeRef) : Prop :=
  ∀ t, ReflTransGen schema.HasVariant type t →
    (schema.describe t).pattern = none ∧ (schema.describe t).alternates = []

/-- Unfolding the type never comes back to a type it has been at. -/
def Schema.Unwinds (schema : Schema α) (type : TypeRef) : Prop :=
  ∀ t, ReflTransGen schema.HasVariant type t → ¬ TransGen schema.HasVariant t t

namespace Schema

variable {schema : Schema α}

theorem barren_iff : schema.Barren type ↔
    (schema.describe type).pattern = none ∧ (schema.describe type).alternates = [] ∧
      ∀ v ∈ (schema.describe type).variants, schema.Barren v.type := by
  constructor
  · intro barren
    obtain ⟨pattern, alternates⟩ := barren type .refl
    refine ⟨pattern, alternates, fun v declared t reached => ?_⟩
    exact barren t (.head ⟨v, declared, rfl⟩ reached)
  · rintro ⟨pattern, alternates, parts⟩ t reached
    rcases reached.cases_head with rfl | ⟨part, ⟨v, declared, rfl⟩, rest⟩
    · exact ⟨pattern, alternates⟩
    · exact parts v declared t rest

theorem Unwinds.variant (unwinds : schema.Unwinds type)
    (declared : v ∈ (schema.describe type).variants) : schema.Unwinds v.type :=
  fun t reached => unwinds t (.head ⟨v, declared, rfl⟩ reached)

/-- A type whose unfolding ends does not come back. -/
theorem unwinds_of_acc (ends : Acc (fun part type => schema.HasVariant type part) type) :
    schema.Unwinds type := by
  induction ends with
  | intro type _ ih =>
    intro t reached back
    rcases reached.cases_head with rfl | ⟨part, first, rest⟩
    · obtain ⟨part, first, rest⟩ := TransGen.head'_iff.mp back
      exact ih part first part .refl (.tail' rest first)
    · exact ih part first t rest back

/-- The kinds of error that are about having no candidate. -/
inductive Wanting (type : TypeRef) : BuildErrorKind → Prop where
  | noBinding : Wanting type (.noBinding type)
  | emptySum : Wanting type (.emptySumType type)

/-- What is said of a type without a candidate. -/
def want (schema : Schema α) (type : TypeRef) : BuildErrorKind :=
  if (schema.describe type).variants = [] then .noBinding type else .emptySumType type

theorem want_eq_noBinding :
    .noBinding type = schema.want type ↔ (schema.describe type).variants = [] := by
  unfold want
  split <;> simp_all

theorem want_eq_emptySum :
    .emptySumType type = schema.want type ↔ (schema.describe type).variants ≠ [] := by
  unfold want
  split <;> simp_all

theorem Trail.eq_of_candidates (trail : schema.Trail (.candidates type) [t] n) :
    n = .candidates type := by
  cases trail with
  | here => rfl
  | parameter _ _ rest | variant _ rest => simpa using rest.head?

theorem AtFault.not_wanting (fault : schema.AtFault (.candidates type) kind) :
    ¬ Wanting t kind := by
  rintro (_ | _)
  all_goals
    cases fault with
    | declared _ wrong => cases wrong

/-- A type can be found wanting by a request for it alone. -/
theorem AtFault.of_short (trail : schema.Trail (.key { type }) [type] n)
    (fault : schema.AtFault n kind) (wanting : Wanting type kind) :
    (schema.describe type).sequence = none ∧ kind = schema.want type := by
  have whole : n = .key { type } := by
    cases trail with
    | here => rfl
    | item _ rest | explicit _ _ _ _ rest => simpa using rest.head?
    | expansion _ rest =>
      cases rest.eq_of_candidates
      exact absurd wanting fault.not_wanting
  subst whole
  cases wanting with
  | noBinding =>
    cases fault with
    | noBinding shape none => exact ⟨shape, want_eq_noBinding.mpr none⟩
    | asked _ given => simp at given
  | emptySum =>
    cases fault with
    | emptySum shape some => exact ⟨shape, want_eq_emptySum.mpr some⟩
    | asked _ given => simp at given

end Schema

/-! ### What building steps give -/

namespace Build

/-- Whatever the step gives is one of a kind. -/
def Gives (step : Build α β) (kind : β → Prop) : Prop :=
  ∀ s a, (exec step s).1 = .ok a → kind a

namespace Gives

theorem pure {kind : β → Prop} (holds : kind a) : Gives (pure a : Build α β) kind := by
  intro s b given
  cases given
  exact holds

theorem fail {kind : β → Prop} (type : TypeRef) (why : BuildErrorKind) :
    Gives (fail type why : Build α β) kind := by
  intro s b given
  simp at given

theorem exhausted {kind : β → Prop} : Gives (throw .exhausted : Build α β) kind := by
  intro s b given
  simp at given

theorem bind {step : Build α β} {next : β → Build α γ} {kind : β → Prop} {last : γ → Prop}
    (first : Gives step kind) (rest : ∀ a, kind a → Gives (next a) last) :
    Gives (step >>= next) last := by
  intro s c given
  rw [exec_bind] at given
  cases done : exec step s with
  | mk result s' =>
    rw [done] at given
    cases result with
    | error => simp at given
    | ok a => exact rest a (first s a (by rw [done])) s' c given

theorem describe {schema : Schema α} {next : Descriptor α → Build α β} {kind : β → Prop}
    (rest : Gives (next (schema.describe type)) kind) :
    Gives (describe schema type >>= next) kind := fun _ => rest _

theorem within {step : Build α β} {kind : β → Prop} (gives : Gives step kind) :
    Gives (within type step) kind := by
  intro s a given
  rw [exec_within] at given
  exact gives s a (outer_eq_ok.mp given)

theorem mapM {step : γ → Build α β} {kind : γ → β → Prop} {xs : List γ}
    (each : ∀ x ∈ xs, Gives (step x) (kind x)) :
    Gives (xs.mapM step) (List.Forall₂ kind xs) := by
  induction xs with
  | nil => exact pure .nil
  | cons x xs ih =>
    rw [List.mapM_cons]
    refine (each x (by simp)).bind fun y first => ?_
    refine (ih fun z member => each z (by simp [member])).bind fun ys rest => ?_
    exact pure (.cons first rest)

theorem any (step : Build α β) : Gives step fun _ => True := fun _ _ _ => trivial

end Gives

/-! ### Unfolding to nothing -/

variable {schema : Schema α} {generation : Nat}

theorem ownBinding?_eq_none {d : Descriptor α} (binds : d.lacksConstructor = false) :
    d.ownBinding? = none ↔ d.pattern = none := by
  obtain ⟨_ | pattern, _ | constructor, _, _, _⟩ := d <;>
    simp_all [Descriptor.ownBinding?, Descriptor.lacksConstructor]

theorem flatten_eq_nil_iff {xs : List β} {lists : List (List γ)} {kind : β → Prop}
    (related : List.Forall₂ (fun x list => list = [] ↔ kind x) xs lists) :
    lists.flatten = [] ↔ ∀ x ∈ xs, kind x := by
  induction related with
  | nil => simp
  | cons head _ ih => simp [head, ih]

/-- Unfolding that succeeds has come to an end, and gives nothing just for barren types. -/
theorem gives_unfold : ∀ {fuel path type wrap},
    Gives (unfold schema generation fuel path type (schema.describe type) wrap) fun candidates =>
      Acc (fun part type => schema.HasVariant type part) type ∧
      (candidates = [] ↔ schema.Barren type)
  | 0, _, _, _ => .exhausted
  | fuel + 1, path, type, wrap => by
    rw [unfold]
    split
    · exact .fail _ _
    · split
      · exact .fail _ _
      · rename_i binds
        refine (Gives.mapM fun b _ => .any _).bind fun own bound => ?_
        refine (Gives.mapM fun v _ => .describe gives_unfold.within).bind fun variants inner => ?_
        refine (Gives.mapM fun b _ => .any _).bind fun alternates further => .pure ⟨?_, ?_⟩
        · constructor
          rintro part ⟨v, declared, rfl⟩
          obtain ⟨_, _, ended, _⟩ := mem_left_of_forall₂ inner declared
          exact ended
        · have first : own = [] ↔ (schema.describe type).pattern = none := by
            rw [← ownBinding?_eq_none (by simpa using binds), ← List.length_eq_zero_iff,
              ← bound.length_eq]
            cases (schema.describe type).ownBinding? <;> simp
          have last : alternates = [] ↔ (schema.describe type).alternates = [] := by
            rw [← List.length_eq_zero_iff, ← further.length_eq, List.length_eq_zero_iff]
          have between := flatten_eq_nil_iff (inner.imp fun _ _ holds => holds.2)
          rw [Schema.barren_iff, List.append_eq_nil_iff, List.append_eq_nil_iff, first, between,
            last]
          tauto

/-- Where no binding is declared, nothing but a cycle can go wrong. -/
theorem fails_unfold_barren : ∀ {fuel path type wrap}, schema.Barren type → schema.Unwinds type →
    (∀ t ∈ path.unfolding, TransGen schema.HasVariant t type) →
    Fails (unfold schema generation fuel path type (schema.describe type) wrap) fun _ => False
  | 0, _, _, _, _, _, _ => .exhausted
  | fuel + 1, path, type, wrap, barren, unwinds, above => by
    obtain ⟨pattern, alternates, parts⟩ := Schema.barren_iff.mp barren
    have binds : (schema.describe type).lacksConstructor = false := by
      simp [Descriptor.lacksConstructor, pattern]
    have own := (ownBinding?_eq_none binds).mpr pattern
    have absent : type ∉ path.unfolding := fun present => unwinds type .refl (above type present)
    rw [unfold, if_neg absent, if_neg (by simp [binds]), own, alternates]
    refine Fails.bind (.pure _) fun _ => ?_
    refine (Fails.mapM fun v declared => ?_).bind fun _ => .pure _
    have deeper : ∀ t ∈ (path.unfold type).unfolding, TransGen schema.HasVariant t v.type := by
      intro t member
      have next : schema.HasVariant type v.type := ⟨v, declared, rfl⟩
      rcases List.mem_cons.mp member with rfl | member
      · exact .single next
      · exact (above t member).tail next
    exact .describe (.within (fails_unfold_barren (parts v declared) (unwinds.variant declared)
      deeper) fun _ => False.elim)

theorem exec_keep_ne_error (key : Key) (built : Interpreter α) (s : Session α) :
    (exec (keep key built generation) s).1 ≠ .error stop := by
  rw [exec_keep]
  split
  · simp
  · split <;> simp

theorem settle_eq_error {key : Key} {result : Except Stop β} {e : BuildError}
    (ends : result ≠ .error .exhausted) :
    key.settle result = .error e ↔ result = .error (.failed e) := by
  rcases result with (_ | _) | _
  · simp [Key.settle]
  · exact absurd rfl ends
  · simp [Key.settle]

/-- A plain key that nothing serves fails as the unfolding of its type does, or for want of a
candidate. -/
theorem resolve_plain_eq_error {s : Session α} (missing : s.registry.cached? { type } = none)
    (unserved : s.registry.converter? type = none)
    (shape : (schema.describe type).sequence = none) {unfolded : Except Stop (List (Candidate α))}
    (done : (exec (unfold schema generation fuel (Path.start.build { type }) type
      (schema.describe type) .ok) ((schema.registrations type).foldl .perform s)).1 = unfolded) :
    (exec (resolve schema generation (fuel + 2) .start { type }) s).1 = .error stop ↔
      unfolded = .error stop ∨
      unfolded = .ok [] ∧ stop = .failed (.raised type (schema.want type)) := by
  subst done
  rw [resolve, exec_registry, missing]
  simp only [Path.start, List.not_mem_nil, if_false]
  rw [exec_bind, resolveNew, exec_registry, Registry.converterFor?_plain, unserved, exec_describe]
  simp only [shape]
  rw [exec_bind]
  rcases exec (unfold schema generation fuel _ type _ .ok) _ with ⟨_ | _ | ⟨c, cs⟩, s'⟩
  · simp
  · by_cases none : (schema.describe type).variants = []
    all_goals
      simp only [Schema.want, none, List.isEmpty_iff, if_true, if_false, exec_fail]
      simp [eq_comm (b := stop)]
  · simp [exec_keep_ne_error]

end Build

namespace Registry

variable {schema : Schema α} {r : Registry α}

/-- A plain request fails as the unfolding of its type does, or for want of a candidate. -/
theorem ask_plain_eq_error (names : List String) (unserved : r.converter? type = none)
    (missing : r.cached? { type } = none) (shape : (schema.describe type).sequence = none) :
    ∃ fuel s, ∃ unfolded, (Build.exec (unfold schema r.generation fuel
        (Path.start.build { type }) type (schema.describe type) .ok) s).1 = unfolded ∧
      unfolded ≠ .error .exhausted ∧
      ∀ e, (r.ask schema names { type }).1 = .error e ↔ unfolded = .error (.failed e) ∨
        unfolded = .ok [] ∧ e = .raised type (schema.want type) := by
  obtain ⟨fuel, enough⟩ : ∃ fuel, schema.fuel { type } = fuel + 2 :=
    ⟨schema.fuel { type } - 2, by simp only [Schema.fuel]; omega⟩
  have total := total_request schema r.generation { type } ⟨names, r, []⟩
  rw [enough] at total
  refine ⟨fuel, (schema.registrations type).foldl .perform ⟨names, r, []⟩, _, rfl,
    fun short => total ?_, fun e => ?_⟩
  · exact (Build.resolve_plain_eq_error (s := ⟨names, r, []⟩) missing unserved shape rfl).mpr
      (.inl short)
  · rw [Registry.ask, Build.request_eq, enough, Build.settle_eq_error total,
      Build.resolve_plain_eq_error missing unserved shape rfl, Stop.failed.injEq]

/-- A plain request is told that its type has nothing to offer just if unfolding the type comes
to an end without a candidate. -/
theorem ask_wanting_iff (names : List String) (unserved : r.converter? type = none)
    (missing : r.cached? { type } = none) (wanting : Schema.Wanting type kind) :
    (r.ask schema names { type }).1 = .error (.raised type kind) ↔
      (schema.describe type).sequence = none ∧ schema.Barren type ∧ schema.Unwinds type ∧
      kind = schema.want type := by
  have beneath : (Path.start.build { type }).Beneath [] type := by
    constructor <;> simp [Path.start, Path.build]
  constructor
  · intro failed
    obtain ⟨_, _, ⟨n, trail, _, fault⟩, _⟩ := Session.chain_leads_to_fault schema _ _ _ failed
    obtain ⟨shape, same⟩ := fault.of_short trail wanting
    obtain ⟨fuel, s, unfolded, done, _, failed_iff⟩ :=
      ask_plain_eq_error names unserved missing shape
    rcases (failed_iff _).mp failed with rfl | ⟨rfl, _⟩
    · -- An error of the unfolding with this chain is one of the type's own bindings.
      obtain ⟨m, trail, fault⟩ := (Build.fails_unfold beneath s _ done).trail
      cases trail.eq_of_candidates
      exact absurd wanting fault.not_wanting
    · obtain ⟨ended, barren⟩ := Build.gives_unfold s [] done
      exact ⟨shape, barren.mp rfl, Schema.unwinds_of_acc ended, same⟩
  · rintro ⟨shape, barren, unwinds, rfl⟩
    obtain ⟨fuel, s, unfolded, done, ends, failed_iff⟩ :=
      ask_plain_eq_error names unserved missing shape
    refine (failed_iff _).mpr (.inr ⟨?_, rfl⟩)
    rcases unfolded with (e | _) | candidates
    · refine (Build.fails_unfold_barren barren unwinds ?_ s e done).elim
      simp [Path.start, Path.build]
    · exact absurd rfl ends
    · rw [(Build.gives_unfold s candidates done).2.mpr barren]

/-- In whatever state the registry is, a plain request for a type that no converter serves and no
interpreter is kept for is told that there is no binding just if the type's descriptor is bare. It
is told that the sum is empty just if the type is no list, has variants, and neither it nor any
type that it unfolds to declares a pattern or an alternate or is met again on the way. -/
theorem nothing_to_try (schema : Schema α) (r : Registry α) (names : List String) (type : TypeRef)
    (unserved : r.converter? type = none) (missing : r.cached? { type } = none) :
    ((r.ask schema names { type }).1 = .error ⟨[type], .noBinding type⟩ ↔
      (schema.describe type).isBare = true) ∧
    ((r.ask schema names { type }).1 = .error ⟨[type], .emptySumType type⟩ ↔
      (schema.describe type).sequence = none ∧ (schema.describe type).variants ≠ [] ∧
      (∀ t, ReflTransGen schema.HasVariant type t →
        (schema.describe t).pattern = none ∧ (schema.describe t).alternates = []) ∧
      ∀ t, ReflTransGen schema.HasVariant type t → ¬ TransGen schema.HasVariant t t) := by
  constructor
  · refine (ask_wanting_iff names unserved missing .noBinding).trans ⟨?_, fun bare => ?_⟩
    · rintro ⟨shape, barren, _, same⟩
      obtain ⟨pattern, alternates, _⟩ := Schema.barren_iff.mp barren
      have none := Schema.want_eq_noBinding.mp same
      simp [Descriptor.isBare, pattern, none, alternates, shape]
    · simp only [Descriptor.isBare, Bool.and_eq_true, Option.isNone_iff_eq_none,
        List.isEmpty_iff] at bare
      obtain ⟨⟨⟨pattern, none⟩, alternates⟩, shape⟩ := bare
      have unwinds : schema.Unwinds type := by
        refine Schema.unwinds_of_acc ⟨type, ?_⟩
        rintro part ⟨v, declared, _⟩
        simp [none] at declared
      have barren := Schema.barren_iff.mpr ⟨pattern, alternates, by simp [none]⟩
      exact ⟨shape, barren, unwinds, Schema.want_eq_noBinding.mpr none⟩
  · refine (ask_wanting_iff names unserved missing .emptySum).trans ?_
    rw [Schema.want_eq_emptySum]
    constructor
    · rintro ⟨shape, barren, unwinds, some⟩
      exact ⟨shape, some, barren, unwinds⟩
    · rintro ⟨shape, some, barren, unwinds⟩
      exact ⟨shape, barren, unwinds, some⟩

/-- A shell is a husk or a list of kernels, and a husk is a shard, which only a converter makes. A
ring is a band, and a band is a ring. -/
def husks : Schema Unit where
  declarations := [
    { name := "Shell"
      descriptor := {
        variants := [
          ⟨.declared "Husk", fun _ => ()⟩, ⟨.list (.declared "Kernel"), fun _ => ()⟩] } },
    { name := "Husk"
      descriptor := { variants := [⟨.declared "Shard", fun _ => ()⟩] } },
    { name := "Ring"
      descriptor := { variants := [⟨.declared "Band", fun _ => ()⟩] } },
    { name := "Band"
      descriptor := { variants := [⟨.declared "Ring", fun _ => ()⟩] } }]

/-- A kernel is not even declared. The shell unfolds to nothing, though shards are served. The ring
has no candidate either, but is not told so, as it unfolds to itself. -/
theorem husks_try_nothing :
    let r : Registry Unit := .create true [(.declared "Shard", fun _ => none)]
    (r.ask husks [] { type := .declared "Kernel" }).1 =
      .error ⟨[.declared "Kernel"], .noBinding (.declared "Kernel")⟩ ∧
    (∀ t, ReflTransGen husks.HasVariant (.declared "Shell") t →
      (husks.describe t).pattern = none ∧ ¬ TransGen husks.HasVariant t t) ∧
    (r.ask husks [] { type := .declared "Ring" }).1 ≠
      .error ⟨[.declared "Ring"], .emptySumType (.declared "Ring")⟩ := by
  intro r
  have kernel := nothing_to_try husks r [] (.declared "Kernel") rfl rfl
  have shell := nothing_to_try husks r [] (.declared "Shell") rfl rfl
  have ring := nothing_to_try husks r [] (.declared "Ring") rfl rfl
  refine ⟨kernel.1.mpr rfl, ?_, fun failed => ?_⟩
  · obtain ⟨_, _, barren, unwinds⟩ := shell.2.mp (by unfold r; cbv)
    exact fun t reached => ⟨(barren t reached).1, unwinds t reached⟩
  · obtain ⟨_, _, _, unwinds⟩ := ring.2.mp failed
    have forth : husks.HasVariant (.declared "Ring") (.declared "Band") :=
      ⟨_, List.mem_singleton.mpr rfl, rfl⟩
    have back : husks.HasVariant (.declared "Band") (.declared "Ring") :=
      ⟨_, List.mem_singleton.mpr rfl, rfl⟩
    exact unwinds _ .refl (.tail (.single forth) back)

end Registry

end Construe
