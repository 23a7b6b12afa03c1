import Mathlib
import Construe.Proofs.Outcome
import Construe.Proofs.Aftermath

/-! # What a successful request leaves behind

A request that succeeds keeps an interpreter for its own key and for every key that is used on the
way to it, and for no others. A key is used by the one before it as a parameter or as the item of a
list; the parameters of a variant are used by whoever it is a variant of, while the variant itself
is no key at all. Keys that have an interpreter already are not looked into. However many times a
key is used, it is kept once. -/
namespace Construe

namespace Registry

/-- The keys that have an interpreter, latest first. -/
def keys (r : Registry α) : List Key := r.cache.map Prod.fst

@[simp] theorem keys_keep (r : Registry α) (key : Key) (built : Interpreter α) :
    (r.keep key built).keys = key :: r.keys := rfl

theorem length_keys (r : Registry α) : r.keys.length = r.cachedCount := List.length_map _

theorem mem_keys {r : Registry α} {key : Key} : key ∈ r.keys ↔ (r.cached? key).isSome := by
  unfold keys cached?
  induction r.cache with
  | nil => simp
  | cons entry entries ih =>
    obtain ⟨k, i⟩ := entry
    rw [lookup_cons_ite]
    by_cases same : key = k
    · simp [same]
    · simp [same, ih]

theorem not_mem_keys {r : Registry α} {key : Key} : key ∉ r.keys ↔ r.cached? key = none := by
  simp [mem_keys]

end Registry

namespace Schema

/-- The keys that the candidates of a type are made of: the parameters of its bindings, and those
of its variants. -/
inductive Offers (schema : Schema α) : TypeRef → Key → Prop where
  | own {b : Binding α} : b ∈ (schema.describe type).bindings → k ∈ b.keys → Offers schema type k
  | variant : v ∈ (schema.describe type).variants → Offers schema v.type k → Offers schema type k

/-- One key is used to build another: it is the item of a list, with the pattern that the list was
asked for with, a parameter of the primary constructor if a pattern is given, or one of the keys
that the type offers. A key that a converter serves uses none. -/
inductive Uses (schema : Schema α) (serve : Key → Option (Converter α)) : Key → Key → Prop where
  | item {sequence : Sequence α} : serve key = none →
      (schema.describe key.type).sequence = some sequence →
      Uses schema serve key ⟨sequence.item, key.pattern, none⟩
  | explicit : serve key = none → (schema.describe key.type).sequence = none →
      key.separator = none → key.pattern = some pattern →
      (schema.describe key.type).constructor = some constructor → p ∈ constructor.params →
      Uses schema serve key p.key
  | offered : serve { type } = none → (schema.describe type).sequence = none →
      schema.Offers type k → Uses schema serve { type } k

/-- A key without an interpreter leads to another, by uses of keys that have none either. -/
def Resolves (schema : Schema α) (serve : Key → Option (Converter α)) (r : Registry α)
    (key k : Key) : Prop :=
  r.cached? key = none ∧
    Relation.ReflTransGen (fun a b => schema.Uses serve a b ∧ r.cached? b = none) key k

variable {schema : Schema α} {serve : Key → Option (Converter α)} {r r' : Registry α}

theorem Resolves.self (absent : r.cached? key = none) : schema.Resolves serve r key key :=
  ⟨absent, .refl⟩

theorem Resolves.head (absent : r.cached? key = none) (uses : schema.Uses serve key a)
    (further : schema.Resolves serve r a k) : schema.Resolves serve r key k :=
  ⟨absent, .head ⟨uses, further.1⟩ further.2⟩

theorem Resolves.mono (fewer : ∀ k, r'.cached? k = none → r.cached? k = none)
    (resolves : schema.Resolves serve r' key k) : schema.Resolves serve r key k :=
  ⟨fewer _ resolves.1,
    Relation.ReflTransGen.mono (fun _ b step => ⟨step.1, fewer b step.2⟩) _ _ resolves.2⟩

end Schema

/-! ### Sessions that are filled -/

/-- From one session to the other, interpreters are kept for new keys. Each is reached from a key
that was asked for, and has all that it uses; so do the keys that were asked for. -/
structure Session.Filled (schema : Schema α) (serve : Key → Option (Converter α))
    (asked : Key → Prop) (new : List Key) (s t : Session α) : Prop extends s.Grows t where
  keys : t.registry.keys = new ++ s.registry.keys
  once : new.Nodup
  fresh : ∀ k ∈ new, s.registry.cached? k = none
  reached : ∀ k ∈ new, ∃ a, asked a ∧ schema.Resolves serve s.registry a k
  closed : ∀ k ∈ new, ∀ used, schema.Uses serve k used → used ∈ t.registry.keys
  covers : ∀ k, asked k → k ∈ t.registry.keys

namespace Session

variable {schema : Schema α} {serve : Key → Option (Converter α)} {asked asked' : Key → Prop}
  {s t u : Session α}

theorem Grows.mem_keys (grows : s.Grows t) (member : k ∈ s.registry.keys) :
    k ∈ t.registry.keys := by
  rw [Registry.mem_keys, Option.isSome_iff_exists] at member ⊢
  obtain ⟨i, found⟩ := member
  exact ⟨i, grows.retains found⟩

theorem Grows.absent (grows : s.Grows t) (missing : t.registry.cached? k = none) :
    s.registry.cached? k = none := by
  rw [← Registry.not_mem_keys] at missing ⊢
  exact fun member => missing (grows.mem_keys member)

namespace Filled

/-- A session is filled as it is if all that is asked for is there. -/
theorem refl (present : ∀ k, asked k → k ∈ s.registry.keys) : Filled schema serve asked [] s s where
  toGrows := .refl s
  keys := rfl
  once := .nil
  fresh := by simp
  reached := by simp
  closed := by simp
  covers := present

theorem congr (same : ∀ k, asked k ↔ asked' k) (filled : Filled schema serve asked new s t) :
    Filled schema serve asked' new s t := by
  obtain rfl : asked = asked' := funext fun k => propext (same k)
  exact filled

theorem trans (first : Filled schema serve asked new s t)
    (next : Filled schema serve asked' new' t u) :
    Filled schema serve (fun k => asked k ∨ asked' k) (new' ++ new) s u where
  toGrows := first.toGrows.trans next.toGrows
  keys := by rw [next.keys, first.keys, List.append_assoc]
  once := by
    refine next.once.append first.once fun k later earlier => ?_
    have present : k ∈ t.registry.keys := by simp [first.keys, earlier]
    exact Registry.not_mem_keys.mpr (next.fresh k later) present
  fresh k member := by
    rcases List.mem_append.mp member with later | earlier
    · exact first.toGrows.absent (next.fresh k later)
    · exact first.fresh k earlier
  reached k member := by
    rcases List.mem_append.mp member with later | earlier
    · obtain ⟨a, wanted, resolves⟩ := next.reached k later
      exact ⟨a, .inr wanted, resolves.mono fun _ => first.toGrows.absent⟩
    · obtain ⟨a, wanted, resolves⟩ := first.reached k earlier
      exact ⟨a, .inl wanted, resolves⟩
  closed k member used uses := by
    rcases List.mem_append.mp member with later | earlier
    · exact next.closed k later used uses
    · exact next.toGrows.mem_keys (first.closed k earlier used uses)
  covers k wanted := by
    rcases wanted with earlier | later
    · exact next.toGrows.mem_keys (first.covers k earlier)
    · exact next.covers k later

/-- A key has been built from all that it uses. -/
theorem built (absent : s.registry.cached? key = none)
    (filled : Filled schema serve (schema.Uses serve key) new s t) (i : Interpreter α) :
    ∃ new', match t.registry.cached? key with
      | some _ => Filled schema serve (· = key) new' s t
      | none => Filled schema serve (· = key) new' s (t.record (.kept key i)) := by
  have reached k (member : k ∈ new) : schema.Resolves serve s.registry key k := by
    obtain ⟨a, uses, resolves⟩ := filled.reached k member
    exact resolves.head absent uses
  cases found : t.registry.cached? key with
  | some kept =>
    have present : key ∈ t.registry.keys := by simp [Registry.mem_keys, found]
    exact ⟨new, { filled with
      reached := fun k member => ⟨key, rfl, reached k member⟩
      covers := fun k same => same ▸ present }⟩
  | none =>
    have grows := grows_kept found i
    have outside : key ∉ new := by
      intro member
      exact Registry.not_mem_keys.mpr found (by simp [filled.keys, member])
    refine ⟨key :: new, ?_⟩
    constructor
    · exact filled.toGrows.trans grows
    · show key :: t.registry.keys = _
      rw [filled.keys]
      rfl
    · exact filled.once.cons outside
    · exact List.forall_mem_cons.mpr ⟨absent, filled.fresh⟩
    · exact List.forall_mem_cons.mpr
        ⟨⟨key, rfl, .self absent⟩, fun k member => ⟨key, rfl, reached k member⟩⟩
    · exact List.forall_mem_cons.mpr ⟨fun used uses => grows.mem_keys (filled.covers used uses),
        fun k member used uses => grows.mem_keys (filled.closed k member used uses)⟩
    · rintro k rfl
      exact List.mem_cons_self

/-- What is new is what the key leads to: nothing is missing, nothing is too much. -/
theorem mem_iff (filled : Filled schema serve (· = key) new s t) :
    k ∈ new ↔ schema.Resolves serve s.registry key k := by
  constructor
  · intro member
    obtain ⟨_, rfl, resolves⟩ := filled.reached k member
    exact resolves
  · -- Along a path of keys without interpreters each is new, so all that it uses is there.
    rintro ⟨absent, path⟩
    have vacant_new {k : Key} (vacant : s.registry.cached? k = none)
        (present : k ∈ t.registry.keys) : k ∈ new := by
      rw [filled.keys, List.mem_append] at present
      exact present.resolve_right (Registry.not_mem_keys.mpr vacant)
    induction path with
    | refl => exact vacant_new absent (filled.covers key rfl)
    | tail _ step ih => exact vacant_new step.2 (filled.closed _ ih _ step.1)

end Filled

end Session

/-! ### Steps that fill sessions -/

namespace Build

/-- Wherever the step succeeds, it fills the session with what is asked for. -/
def Fills (schema : Schema α) (serve : Key → Option (Converter α)) (generation : Nat)
    (asked : Key → Prop) (step : Build α β) : Prop :=
  ∀ s a t, exec step s = (.ok a, t) → s.registry.converterFor? = serve →
    s.registry.generation = generation → ∃ new, s.Filled schema serve asked new t

namespace Fills

variable {schema : Schema α} {serve : Key → Option (Converter α)} {generation : Nat}
  {asked asked' : Key → Prop}

/-- A step that leaves the session alone fills it with nothing. -/
theorem still {step : Build α β} (still : ∀ s, (exec step s).2 = s) (nothing : ∀ k, ¬ asked k) :
    Fills schema serve generation asked step := by
  intro s a t done _ _
  have same : t = s := by simpa [done] using still s
  subst same
  exact ⟨[], .refl fun k wanted => absurd wanted (nothing k)⟩

theorem pure (a : β) : Fills schema serve generation (fun _ => False) (pure a : Build α β) :=
  .still (fun _ => rfl) (by simp)

theorem never {step : Build α β} (stops : ∀ s, ∃ stop t, exec step s = (.error stop, t)) :
    Fills schema serve generation asked step := by
  intro s a t done _ _
  obtain ⟨stop, u, stopped⟩ := stops s
  rw [stopped] at done
  cases done

theorem fail (type : TypeRef) (kind : BuildErrorKind) :
    Fills schema serve generation asked (fail type kind : Build α β) :=
  .never fun s => ⟨_, _, exec_fail type kind s⟩

theorem exhausted : Fills schema serve generation asked (throw .exhausted : Build α β) :=
  .never fun s => ⟨_, _, exec_throw _ s⟩

theorem congr {step : Build α β} (fills : Fills schema serve generation asked step)
    (same : ∀ k, asked k ↔ asked' k) : Fills schema serve generation asked' step := by
  intro s a t done served live
  obtain ⟨new, filled⟩ := fills s a t done served live
  exact ⟨new, filled.congr same⟩

theorem bind {step : Build α β} {next : β → Build α γ}
    (first : Fills schema serve generation asked step)
    (rest : ∀ a, Fills schema serve generation asked' (next a)) :
    Fills schema serve generation (fun k => asked k ∨ asked' k) (step >>= next) := by
  intro s c t done served live
  obtain ⟨a, u, begun, ended⟩ := exec_bind_eq_ok.mp done
  obtain ⟨new, filled⟩ := first s a u begun served live
  have served' := filled.toGrows.converters.trans served
  have live' := filled.toGrows.generation.trans live
  obtain ⟨new', filled'⟩ := rest a u c t ended served' live'
  exact ⟨new' ++ new, filled.trans filled'⟩

/-- What comes after the step asks for nothing. -/
theorem andThen {step : Build α β} {next : β → Build α γ}
    (first : Fills schema serve generation asked step)
    (rest : ∀ a, Fills schema serve generation (fun _ => False) (next a)) :
    Fills schema serve generation asked (step >>= next) :=
  (first.bind rest).congr (by simp)

/-- What comes before the step asks for nothing. -/
theorem before {step : Build α β} {next : β → Build α γ}
    (first : Fills schema serve generation (fun _ => False) step)
    (rest : ∀ a, Fills schema serve generation asked (next a)) :
    Fills schema serve generation asked (step >>= next) :=
  (first.bind rest).congr (by simp)

theorem within {step : Build α β} (fills : Fills schema serve generation asked step) :
    Fills schema serve generation asked (within type step) := by
  intro s a t done served live
  rw [exec_within, Prod.mk.injEq, outer_eq_ok] at done
  exact fills s a t (Prod.ext done.1 done.2) served live

theorem mapM {step : γ → Build α β} {asks : γ → Key → Prop} {xs : List γ}
    (each : ∀ x ∈ xs, Fills schema serve generation (asks x) (step x)) :
    Fills schema serve generation (fun k => ∃ x ∈ xs, asks x k) (xs.mapM step) := by
  induction xs with
  | nil => exact (pure []).congr (by simp)
  | cons x xs ih =>
    rw [List.mapM_cons]
    have others := ih fun z member => each z (List.mem_cons_of_mem _ member)
    have whole := (each x List.mem_cons_self).bind fun y => others.andThen fun ys => pure (y :: ys)
    exact whole.congr (by simp)

theorem describe (quiet : schema.Quiet) {next : Descriptor α → Build α β}
    (rest : Fills schema serve generation asked (next (schema.describe type))) :
    Fills schema serve generation asked (describe schema type >>= next) := by
  intro s a t done
  rw [exec_describe, quiet type] at done
  exact rest s a t done

/-- A key that was built from all that it uses is kept, so it is there. -/
theorem built {build : Build α (Interpreter α)}
    (fills : Fills schema serve generation (schema.Uses serve key) build) (s t : Session α)
    (absent : s.registry.cached? key = none) (served : s.registry.converterFor? = serve)
    (live : s.registry.generation = generation)
    (done : exec (build >>= fun i => keep key i generation) s = (.ok i, t)) :
    (∃ new, s.Filled schema serve (· = key) new t) ∧ t.registry.cached? key = some i := by
  obtain ⟨i, u, begun, ended⟩ := exec_bind_eq_ok.mp done
  obtain ⟨new, filled⟩ := fills s i u begun served live
  obtain ⟨new', result⟩ := filled.built absent i
  rw [exec_keep, if_neg (not_not.mpr (filled.toGrows.generation.trans live))] at ended
  cases found : u.registry.cached? key with
  | some kept =>
    rw [found] at ended result
    cases ended
    exact ⟨⟨new', result⟩, found⟩
  | none =>
    rw [found] at ended result
    cases ended
    exact ⟨⟨new', result⟩, by simp [Session.record, Registry.apply]⟩

end Fills

section

variable {schema : Schema α} {serve : Key → Option (Converter α)} {generation : Nat}

/-- A key that is resolved is one that has been kept, now or before. -/
theorem resolve_eq_ok (done : exec (resolve schema generation (fuel + 1) path key) s = (.ok i, t)) :
    s.registry.cached? key = some i ∧ t = s ∨
    s.registry.cached? key = none ∧ exec (resolveNew schema generation fuel (path.build key) key >>=
      fun built => keep key built generation) s = (.ok i, t) := by
  rw [resolve, exec_registry] at done
  cases found : s.registry.cached? key with
  | some kept =>
    rw [found] at done
    cases done
    exact .inl ⟨rfl, rfl⟩
  | none =>
    rw [found] at done
    dsimp only at done
    split at done
    · cases done
    · exact .inr ⟨rfl, done⟩

mutual

theorem fills_resolve (quiet : schema.Quiet) : ∀ {fuel path key},
    Fills schema serve generation (· = key) (resolve schema generation fuel path key)
  | 0, _, _ => .exhausted
  | fuel + 1, path, key => by
    intro s i t done served live
    rcases resolve_eq_ok done with ⟨found, rfl⟩ | ⟨absent, done⟩
    · refine ⟨[], .refl fun k same => ?_⟩
      simp [same, Registry.mem_keys, found]
    · exact ((fills_resolveNew quiet).built s t absent served live done).1

theorem fills_resolveNew (quiet : schema.Quiet) : ∀ {fuel path key},
    Fills schema serve generation (schema.Uses serve key)
      (resolveNew schema generation fuel path key)
  | 0, _, _ => .exhausted
  | fuel + 1, path, key => by
    intro s i t done same live
    rw [resolveNew, exec_registry, same] at done
    cases served : serve key with
    | some convert =>
      rw [served] at done
      have none k : ¬ schema.Uses serve key k := by
        rintro (⟨unserved, _⟩ | ⟨unserved, _⟩ | ⟨unserved, _⟩) <;> simp [served] at unserved
      exact Fills.still (fun _ => rfl) none s i t done same live
    | none =>
      rw [served] at done
      refine Fills.describe quiet ?_ s i t done same live
      split
      · rename_i sequence shape
        have only k : k = ⟨sequence.item, key.pattern, none⟩ ↔ schema.Uses serve key k := by
          constructor
          · rintro rfl
            exact .item served shape
          · rintro (⟨_, other⟩ | ⟨_, other, _⟩ | ⟨_, other, _⟩) <;> simp_all
        refine .before (.still (fun s => by rw [exec_compileSeparator]) (by simp))
          fun splitter => ?_
        exact ((fills_resolve quiet).within.andThen fun _ => .pure _).congr only
      · exact .fail _ _
      · rename_i pattern shape separator given
        split
        · exact .fail _ _
        · rename_i constructor declared
          have only k : k ∈ Binding.keys ⟨pattern, constructor⟩ ↔ schema.Uses serve key k := by
            constructor
            · intro member
              obtain ⟨p, listed, rfl⟩ := List.mem_map.mp member
              exact .explicit served shape separator given declared listed
            · rintro (⟨_, other⟩ | ⟨_, _, _, _, primary, listed⟩ | _)
              · simp_all
              · rw [declared] at primary
                cases primary
                exact List.mem_map_of_mem listed
              · simp at given
          exact ((fills_resolveBinding quiet).andThen fun _ => .pure _).congr only
      · rename_i shape separator given
        obtain ⟨type, _, _⟩ := key
        dsimp only at shape separator given
        subst separator given
        have only k : schema.Offers type k ↔ schema.Uses serve { type } k := by
          constructor
          · exact .offered served shape
          · rintro (⟨_, other⟩ | ⟨_, _, _, other, _⟩ | ⟨_, _, offers⟩)
            · simp_all
            · simp at other
            · exact offers
        refine ((fills_unfold quiet).andThen fun candidates => ?_).congr only
        split
        · split <;> exact .fail _ _
        · exact .pure _

theorem fills_unfold (quiet : schema.Quiet) : ∀ {fuel path type wrap},
    Fills schema serve generation (schema.Offers type)
      (unfold schema generation fuel path type (schema.describe type) wrap)
  | 0, _, _, _ => .exhausted
  | fuel + 1, path, type, wrap => by
    rw [unfold]
    split
    · exact .fail _ _
    · split
      · exact .fail _ _
      · have bindings (bs : List (Binding α)) : Fills schema serve generation
            (fun k => ∃ b ∈ bs, k ∈ b.keys)
            (bs.mapM fun b => resolveBinding schema generation fuel path type b wrap) :=
          .mapM fun b _ => fills_resolveBinding quiet
        have variants : Fills schema serve generation
            (fun k => ∃ v ∈ (schema.describe type).variants, schema.Offers v.type k)
            ((schema.describe type).variants.mapM fun v => do
              let descriptor ← describe schema v.type
              Build.within type <| unfold schema generation fuel (path.unfold type) v.type
                descriptor (v.chain type wrap)) :=
          .mapM fun v _ => .describe quiet (fills_unfold quiet).within
        refine ((bindings _).bind fun own => variants.bind fun inner =>
          (bindings _).andThen fun _ => .pure _).congr fun k => ?_
        constructor
        · rintro (⟨b, own, asked⟩ | ⟨v, declared, offers⟩ | ⟨b, alternate, asked⟩)
          · exact .own (List.mem_append_left _ own) asked
          · exact .variant declared offers
          · exact .own (List.mem_append_right _ alternate) asked
        · rintro (⟨declared, asked⟩ | ⟨declared, offers⟩)
          · rcases List.mem_append.mp declared with own | alternate
            · exact .inl ⟨_, own, asked⟩
            · exact .inr (.inr ⟨_, alternate, asked⟩)
          · exact .inr (.inl ⟨_, declared, offers⟩)

theorem fills_resolveBinding (quiet : schema.Quiet) : ∀ {fuel path type b wrap},
    Fills schema serve generation (· ∈ b.keys)
      (resolveBinding schema generation fuel path type b wrap)
  | 0, _, _, _, _ => .exhausted
  | fuel + 1, path, type, ⟨pattern, constructor⟩, wrap => by
    rw [resolveBinding]
    split
    · exact .fail _ _
    · refine .before (.still (fun s => by rw [exec_compilePattern]) (by simp)) fun matcher => ?_
      have each : ∀ p ∈ constructor.params, Fills schema serve generation (· = p.key)
          (Build.within type (resolve schema generation fuel path p.key)) :=
        fun p _ => (fills_resolve quiet).within
      refine ((Fills.mapM each).andThen fun _ => .pure _).congr fun k => ?_
      simp [Binding.keys, eq_comm]

end

end

end Build

namespace Registry

variable {schema : Schema α}

/-- A request that succeeds fills its session and has its key kept. -/
theorem filled_of_ask (quiet : schema.Quiet) {r : Registry α}
    (answered : (r.ask schema names key).1 = .ok i) :
    (∃ new, Session.Filled schema r.converterFor? (· = key) new ⟨names, r, []⟩
      (r.ask schema names key).2) ∧
    (r.ask schema names key).2.registry.cached? key = some i := by
  have done : Build.exec (resolve schema r.generation (schema.fuel key) .start key) ⟨names, r, []⟩ =
      (.ok i, (r.ask schema names key).2) :=
    Prod.ext (Build.settle_eq_ok.mp answered) rfl
  obtain ⟨fuel, enough⟩ : ∃ fuel, schema.fuel key = fuel + 1 := ⟨schema.fuel key - 1, rfl⟩
  rw [enough] at done
  refine ⟨Build.fills_resolve quiet _ _ _ done rfl rfl, ?_⟩
  rcases Build.resolve_eq_ok done with ⟨found, same⟩ | ⟨absent, done⟩
  · rw [same]
    exact found
  · exact ((Build.fills_resolveNew quiet).built _ _ absent rfl rfl done).2

/-- A request that succeeds keeps an interpreter for every key it leads to by way of keys that had
none, its own included, and for no others; each is counted once. -/
theorem request_keeps_exactly (quiet : schema.Quiet) (r : Registry α) (names : List String)
    (key : Key) (i : Interpreter α) (answered : (r.ask schema names key).1 = .ok i) :
    let after := r.perform schema (.request names key)
    (after.cached? key).isSome ∧
    (∀ k, (after.cached? k).isSome ↔
      (r.cached? k).isSome ∨ schema.Resolves r.converterFor? r key k) ∧
    ∃ new : List Key, new.Nodup ∧ (∀ k, k ∈ new ↔ schema.Resolves r.converterFor? r key k) ∧
      after.cachedCount = r.cachedCount + new.length := by
  intro after
  obtain ⟨⟨new, filled⟩, found⟩ := filled_of_ask quiet answered
  have keys : after.keys = new ++ r.keys := filled.keys
  refine ⟨Option.isSome_of_eq_some found, fun k => ?_, new, filled.once, fun k => filled.mem_iff,
    ?_⟩
  · rw [← mem_keys, ← mem_keys, keys, List.mem_append, filled.mem_iff, or_comm]
  · rw [← length_keys, ← length_keys, keys, List.length_append, Nat.add_comm]

/-- A shelf of two books and a list of leaves that are read in a way of their own. A book is a
novel or an atlas, and both have a leaf. -/
def shelves : Schema Unit where
  declarations := [
    { name := "Shelf"
      descriptor := {
        pattern := some "(a)(b)(c*)"
        constructor := some {
          params := [{ type := .declared "Book" }, { type := .declared "Book" },
            { type := .list (.declared "Leaf"), pattern := some "(c)", separator := some ";" }]
          make := fun _ => .ok () } } },
    { name := "Book"
      descriptor := {
        variants := [⟨.declared "Novel", fun _ => ()⟩, ⟨.declared "Atlas", fun _ => ()⟩] } },
    { name := "Novel"
      descriptor := {
        pattern := some "(a)"
        constructor := some (.ofTypes [.declared "Leaf"] fun _ => .ok ()) } },
    { name := "Atlas"
      descriptor := { alternates := [⟨"(b)", .ofTypes [.declared "Leaf"] fun _ => .ok ()⟩] } },
    { name := "Leaf"
      descriptor := {
        pattern := some "(l)"
        constructor := some (.ofTypes [.scalar .char] fun _ => .ok ()) } }]

/-- With the leaf there already, a shelf brings in itself, the book, the list of leaves and the
leaf that is read in its own way: four keys, and neither the novel nor the atlas. -/
theorem shelf_request_keeps :
    let leaf : Key := { type := .declared "Leaf" }
    let shelf : Key := { type := .declared "Shelf" }
    let r : Registry Unit := (create true []).perform shelves (.request [] leaf)
    let after := r.perform shelves (.request [] shelf)
    (∃ i, (r.ask shelves [] shelf).1 = .ok i) ∧
    (∀ k, (after.cached? k).isSome ↔
      (r.cached? k).isSome ∨ shelves.Resolves r.converterFor? r shelf k) ∧
    (∃ new : List Key, new.Nodup ∧ (∀ k, k ∈ new ↔ shelves.Resolves r.converterFor? r shelf k) ∧
      new.length = 4) ∧
    shelves.Resolves r.converterFor? r shelf ⟨.declared "Leaf", some "(c)", none⟩ ∧
    ¬ shelves.Resolves r.converterFor? r shelf { type := .declared "Novel" } := by
  intro leaf shelf r after
  have quiet : shelves.Quiet := Schema.quiet_of_declarations (by simp [shelves])
  have before : r.keys = [leaf, { type := .scalar .char }] := by
    unfold r
    cbv
  have later : after.keys = [shelf, ⟨.list (.declared "Leaf"), some "(c)", some ";"⟩,
      ⟨.declared "Leaf", some "(c)", none⟩, { type := .declared "Book" }] ++ r.keys := by
    unfold after r
    cbv
  obtain ⟨i, answered⟩ : ∃ i, (r.ask shelves [] shelf).1 = .ok i :=
    exists_of_isOk (by unfold r; cbv)
  obtain ⟨_, precise, new, once, members, count⟩ :=
    request_keeps_exactly quiet r [] shelf i answered
  have four : new.length = 4 := by
    have lengths := congrArg List.length later
    rw [List.length_append, length_keys, length_keys] at lengths
    simp only [List.length_cons, List.length_nil] at lengths
    have count : after.cachedCount = r.cachedCount + new.length := count
    omega
  have kept k : k ∈ after.keys ↔ k ∈ r.keys ∨ shelves.Resolves r.converterFor? r shelf k := by
    rw [mem_keys, mem_keys]
    exact precise k
  refine ⟨⟨i, answered⟩, precise, ⟨new, once, members, four⟩, ?_, fun resolves => ?_⟩
  · have present : ⟨.declared "Leaf", some "(c)", none⟩ ∈ after.keys := by simp [later]
    refine ((kept _).mp present).resolve_left ?_
    simp [before, leaf]
  · have present := (kept _).mpr (.inr resolves)
    simp [later, before, shelf, leaf] at present

end Registry

end Construe
