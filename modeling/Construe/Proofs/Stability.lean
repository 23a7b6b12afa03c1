import Mathlib
import Construe.Proofs.Currency
import Construe.Proofs.Cycles

/-! # What is kept stays

An interpreter that is kept for a key stays there, and answers every request for the key, until a
converter is registered for a plain key's type. Such a registration takes away that one entry. A
request adds entries where there are none; whatever else it changes, it changes by registrations
that come with descriptors its key leads to. -/
namespace Construe

/-! ### Events and the entries they touch -/

def Event.isKept : Event α → Bool
  | .kept _ _ => true
  | _ => false

/-- What a registration does to a registry that goes by some names. -/
def Registration.event (names : List String) (r : Registration α) : Event α :=
  if r.registry ∈ names then .registered r.type r.convert else .passedOn r

theorem Session.perform_eq (s : Session α) (r : Registration α) :
    s.perform r = s.record (r.event s.names) := rfl

theorem Registration.isKept_event (names : List String) (r : Registration α) :
    (r.event names).isKept = false := by
  unfold event
  split <;> rfl

namespace Registry

/-- Events leave an entry alone, but for a registration of the type of a plain key. -/
theorem cached?_replay {schema : Schema α} {events : List (Event α)} {key : Key}
    {i : Interpreter α}
    (lasting : ∀ convert, .registered key.type convert ∈ events → key ≠ { type := key.type }) :
    ∀ {r : Registry α}, r.AdmitsAll schema events → r.cached? key = some i →
      (r.replay events).cached? key = some i := by
  induction events with
  | nil => exact fun _ found => found
  | cons e events ih =>
    intro r admits found
    refine ih (fun convert member => lasting convert (List.mem_cons_of_mem _ member)) admits.2 ?_
    cases e with
    | registered type convert =>
      have other : key ≠ { type } := by
        rintro rfl
        exact lasting convert List.mem_cons_self rfl
      simp [apply, other, found]
    | kept k built =>
      have other : key ≠ k := by
        rintro rfl
        simpa [found] using admits.1.1
      simp [apply, other, found]
    | passedOn => exact found

theorem converter?_replay {events : List (Event α)} {type : TypeRef}
    (lasting : ∀ convert, .registered type convert ∉ events) (r : Registry α) :
    (r.replay events).converter? type = r.converter? type := by
  induction events generalizing r with
  | nil => rfl
  | cons e events ih =>
    rw [replay_cons, ih fun convert member => lasting convert (List.mem_cons_of_mem _ member)]
    cases e with
    | registered t convert =>
      have other : type ≠ t := by
        rintro rfl
        exact lasting convert List.mem_cons_self
      simp [apply, other]
    | kept | passedOn => rfl

end Registry

/-- A key that has an interpreter gets it, on whatever path it is asked for. -/
theorem resolve_of_cached {schema : Schema α} {s : Session α}
    (found : s.registry.cached? key = some i) (generation fuel : Nat) (path : Path) :
    Build.exec (resolve schema generation (fuel + 1) path key) s = (.ok i, s) := by
  rw [resolve, Build.exec_registry, found]
  rfl

/-! ### What a request may do to its session -/

namespace Build

/-- Whatever comes of the step, it leaves a session of the given kind behind. -/
def Preserves (session : Session α → Prop) (step : Build α β) : Prop :=
  ∀ s, session s → session (exec step s).2

namespace Preserves

variable {session : Session α → Prop}

theorem pure (a : β) : Preserves session (pure a) := fun _ holds => holds

theorem throw (stop : Stop) : Preserves session (throw stop : Build α β) := fun _ holds => holds

theorem fail (type : TypeRef) (kind : BuildErrorKind) :
    Preserves session (fail type kind : Build α β) := fun _ holds => holds

/-- What comes after a step starts from where the step ended. -/
theorem andThen {step : Build α β} {next : β → Build α γ} (first : Preserves session step)
    (rest : ∀ a s t, exec step s = (.ok a, t) → session t → session (exec (next a) t).2) :
    Preserves session (step >>= next) := by
  intro s holds
  have kept := first s holds
  rw [exec_bind]
  cases done : exec step s with
  | mk result s' =>
    rw [done] at kept
    cases result with
    | error stop => exact kept
    | ok a => exact rest a s s' done kept

theorem bind {step : Build α β} {next : β → Build α γ} (first : Preserves session step)
    (rest : ∀ a, Preserves session (next a)) : Preserves session (step >>= next) :=
  first.andThen fun a _ t _ => rest a t

theorem registry {next : Registry α → Build α β} (rest : ∀ r, Preserves session (next r)) :
    Preserves session (registry >>= next) := fun s => rest s.registry s

theorem within {step : Build α β} (preserves : Preserves session step) :
    Preserves session (within type step) := by
  intro s holds
  rw [exec_within]
  exact preserves s holds

theorem mapM {step : γ → Build α β} {xs : List γ}
    (each : ∀ x ∈ xs, Preserves session (step x)) : Preserves session (xs.mapM step) :=
  mapM_holds (P := Preserves session) pure bind each

theorem compilePattern (type : TypeRef) (source : String) (arity : Nat) :
    Preserves session (compilePattern type source arity) := by
  intro s holds
  rwa [exec_compilePattern]

theorem compileSeparator (type : TypeRef) (source : String) :
    Preserves session (compileSeparator type source) := by
  intro s holds
  rwa [exec_compileSeparator]

end Preserves

end Build

/-- The declarations lead from one point of a build to another, converters left aside. -/
abbrev Schema.Concerns (schema : Schema α) : Node → Node → Prop :=
  schema.Reaches fun _ => none

/-- One thing that a request from a point does to its session: it asks for the descriptor of a type
that the point concerns, or as long as its generation lasts, it keeps what it has just built for a
key that has no interpreter. -/
inductive Session.Turn (schema : Schema α) (generation : Nat) (start : Node) :
    Session α → Session α → Prop
  | describe {s : Session α} (known : schema.Concerns start n) :
      Turn schema generation start s ((schema.registrations n.type).foldl .perform s)
  | keep {s : Session α} (live : s.registry.generation = generation)
      (absent : s.registry.cached? key = none)
      (build : Build.exec (resolveNew schema generation fuel path key) before = (.ok built, s)) :
      Turn schema generation start s (s.record (.kept key built))

namespace Build

variable {schema : Schema α} {generation : Nat} {start : Node} {session : Session α → Prop}

/-- Every turn of a request from the point leaves a session of the kind behind if it finds one. -/
def Lasts (schema : Schema α) (generation : Nat) (start : Node) (session : Session α → Prop) :
    Prop :=
  ∀ s t, Session.Turn schema generation start s t → session s → session t

theorem preserves_describe (lasts : Lasts schema generation start session)
    (known : schema.Concerns start n) {next : Descriptor α → Build α β}
    (rest : Preserves session (next (schema.describe n.type))) :
    Preserves session (describe schema n.type >>= next) :=
  fun _ holds => rest _ (lasts _ _ (.describe known) holds)

theorem preserves_keep (lasts : Lasts schema generation start session)
    (built : Preserves session (resolveNew schema generation fuel path key)) :
    Preserves session
      (resolveNew schema generation fuel path key >>= fun i => keep key i generation) := by
  apply built.andThen
  intro i s t build holds
  rw [exec_keep]
  split
  · exact holds
  · rename_i live
    split
    · exact holds
    · rename_i absent
      exact lasts _ _ (.keep (not_not.mp live) absent build) holds

mutual

theorem preserves_resolve (lasts : Lasts schema generation start session) :
    ∀ {fuel path key}, schema.Concerns start (.key key) →
      Preserves session (resolve schema generation fuel path key)
  | 0, _, _, _ => .throw _
  | fuel + 1, path, key, known => by
    rw [resolve]
    apply Preserves.registry
    intro r
    split
    · exact .pure _
    · split
      · exact .fail _ _
      · exact preserves_keep lasts (preserves_resolveNew lasts known)

theorem preserves_resolveNew (lasts : Lasts schema generation start session) :
    ∀ {fuel path key}, schema.Concerns start (.key key) →
      Preserves session (resolveNew schema generation fuel path key)
  | 0, _, _, _ => .throw _
  | fuel + 1, path, key, known => by
    rw [resolveNew]
    apply Preserves.registry
    intro r
    split
    · exact .pure _
    · apply preserves_describe lasts known
      split
      · rename_i shape
        refine .bind (.compileSeparator _ _) fun splitter => ?_
        have further := known.tail (Draft.leads_item rfl shape)
        exact (preserves_resolve lasts further).within.bind fun _ => .pure _
      · exact .fail _ _
      · rename_i shape separator given
        split
        · exact .fail _ _
        · rename_i declared
          apply (preserves_resolveBinding lasts fun k asked => known.tail
            (Draft.leads_explicit rfl shape separator given declared asked)).bind
          exact fun _ => .pure _
      · rename_i shape separator given
        apply (preserves_unfold lasts
          (known.tail (Draft.leads_sum rfl shape separator given))).bind
        intro candidates
        split
        · split <;> exact .fail _ _
        · exact .pure _

theorem preserves_unfold (lasts : Lasts schema generation start session) :
    ∀ {fuel path type wrap}, schema.Concerns start (.candidates type) →
      Preserves session (unfold schema generation fuel path type (schema.describe type) wrap)
  | 0, _, _, _, _ => .throw _
  | fuel + 1, path, type, wrap, known => by
    have bindings b (declared : b ∈ (schema.describe type).bindings) :
        Preserves session (resolveBinding schema generation fuel path type b wrap) :=
      preserves_resolveBinding lasts fun k asked =>
        known.tail (Draft.leads_binding _ declared asked)
    rw [unfold]
    split
    · exact .fail _ _
    · split
      · exact .fail _ _
      · apply (Preserves.mapM fun b member => bindings b (List.mem_append_left _ member)).bind
        intro own
        refine (Preserves.mapM fun v member => ?_).bind fun variants => ?_
        · have further := known.tail (Draft.leads_variant _ member)
          exact preserves_describe lasts further (preserves_unfold lasts further).within
        · apply (Preserves.mapM fun b member => bindings b (List.mem_append_right _ member)).bind
          exact fun _ => .pure _

theorem preserves_resolveBinding (lasts : Lasts schema generation start session) :
    ∀ {fuel path type b wrap}, (∀ k ∈ b.keys, schema.Concerns start (.key k)) →
      Preserves session (resolveBinding schema generation fuel path type b wrap)
  | 0, _, _, _, _, _ => .throw _
  | fuel + 1, path, type, ⟨pattern, constructor⟩, wrap, known => by
    rw [resolveBinding]
    split
    · exact .fail _ _
    · refine .bind (.compilePattern _ _ _) fun matcher => ?_
      refine (Preserves.mapM fun p declared => ?_).bind fun _ => .pure _
      exact (preserves_resolve lasts (known p.key (List.mem_map_of_mem declared))).within

end

end Build

/-! ### The journal of a request -/

/-- Interpreters that were kept left aside, the events are what comes of asking for descriptors,
for each all that its type registers, of types that the key concerns. -/
def Schema.Announced (schema : Schema α) (names : List String) (key : Key)
    (events : List (Event α)) : Prop :=
  ∃ described : List TypeRef,
    (∀ type ∈ described, ∃ n : Node, n.type = type ∧ schema.Concerns (.key key) n) ∧
    events.filter (!·.isKept) =
      described.flatMap fun type => (schema.registrations type).map (·.event names)

namespace Schema

variable {schema : Schema α}

theorem Announced.kept (announced : schema.Announced names key events) (k : Key)
    (built : Interpreter α) : schema.Announced names key (events ++ [.kept k built]) := by
  obtain ⟨described, known, same⟩ := announced
  exact ⟨described, known, by simpa [Event.isKept] using same⟩

theorem Announced.describe (announced : schema.Announced names key events)
    (known : schema.Concerns (.key key) n) :
    schema.Announced names key (events ++ (schema.registrations n.type).map (·.event names)) := by
  obtain ⟨described, before, same⟩ := announced
  refine ⟨described ++ [n.type], ?_, ?_⟩
  · intro type member
    rcases List.mem_append.mp member with old | new
    · exact before type old
    · exact ⟨n, (List.mem_singleton.mp new).symm, known⟩
  · have fresh : ((schema.registrations n.type).map (·.event names)).filter (!·.isKept) =
        (schema.registrations n.type).map (·.event names) := by
      simp [List.filter_eq_self, Registration.isKept_event]
    simp [same, fresh]

end Schema

theorem Session.foldl_perform (rs : List (Registration α)) (s : Session α) :
    (rs.foldl .perform s).names = s.names ∧
    (rs.foldl .perform s).journal = s.journal ++ rs.map (·.event s.names) := by
  induction rs generalizing s with
  | nil => simp
  | cons r rs ih =>
    rw [List.foldl_cons, perform_eq]
    obtain ⟨names, journal⟩ := ih (s.record (r.event s.names))
    exact ⟨names, journal.trans (List.append_assoc _ _ _)⟩

theorem Schema.announced_lasts (schema : Schema α) (generation : Nat) (names : List String)
    (key : Key) : Build.Lasts schema generation (.key key)
      fun s => s.names = names ∧ schema.Announced names key s.journal := by
  rintro s t turn ⟨rfl, announced⟩
  cases turn with
  | describe known =>
    obtain ⟨same, journal⟩ := Session.foldl_perform _ s
    exact ⟨same, journal ▸ announced.describe known⟩
  | keep => exact ⟨rfl, announced.kept _ _⟩

namespace Registry

variable {schema : Schema α}

/-- What a request registers comes with descriptors that its key leads to. -/
theorem announced_journal (schema : Schema α) (r : Registry α) (names : List String) (key : Key) :
    schema.Announced names key (r.ask schema names key).2.journal := by
  have start : schema.Announced names key [] := ⟨[], by simp, rfl⟩
  have lasts := schema.announced_lasts r.generation names key
  rw [ask, Build.request_eq]
  exact (Build.preserves_resolve lasts .refl ⟨names, r, []⟩ ⟨rfl, start⟩).2

theorem ask_of_cached {r : Registry α} (found : r.cached? key = some i) (names : List String) :
    r.ask schema names key = (.ok i, ⟨names, r, []⟩) := by
  obtain ⟨fuel, enough⟩ : ∃ fuel, schema.fuel key = fuel + 1 := ⟨_, rfl⟩
  rw [ask, Build.request_eq, enough, resolve_of_cached (s := ⟨names, r, []⟩) found]
  rfl

/-- Once an interpreter is kept for a key, it is there in every later state of the history, those in
the middle of a request included, and answers each request for the key without any effect, until a
converter is registered for the type of a plain key. In any state, a registration takes away the
plain key's entry and changes no other entry and no other type's converter; and a request leaves
every entry and every converter as it is, but for those types that a descriptor registers which
its key leads to. -/
theorem cached_entry_stable (schema : Schema α) (scalars : Bool)
    (converters : List (TypeRef × Converter α)) (ops : List (Operation α))
    (before later rest : List (Event α))
    (split : (create scalars converters).history schema ops = before ++ later ++ rest)
    (key : Key) (i : Interpreter α)
    (found : ((create scalars converters).replay before).cached? key = some i)
    (lasting : ∀ convert, .registered key.type convert ∈ later → key ≠ { type := key.type }) :
    let now := (create scalars converters).replay (before ++ later)
    now.cached? key = some i ∧
    (∀ names, now.ask schema names key = (.ok i, ⟨names, now, []⟩)) ∧
    (∀ s : Session α, s.registry = now → ∀ generation fuel path,
      Build.exec (resolve schema generation (fuel + 1) path key) s = (.ok i, s)) ∧
    (∀ type convert, let next := now.apply (.registered type convert)
      next.cached? { type } = none ∧ (∀ k, k ≠ { type } → next.cached? k = now.cached? k) ∧
      next.converter? type = some convert ∧
      ∀ t, t ≠ type → next.converter? t = now.converter? t) ∧
    ∀ names asked, let after := (now.ask schema names asked).2
      (∀ k j, now.cached? k = some j → after.registry.cached? k = some j ∨
        k = { type := k.type } ∧ ∃ convert, .registered k.type convert ∈ after.journal) ∧
      (∀ type, after.registry.converter? type = now.converter? type ∨
        ∃ convert, .registered type convert ∈ after.journal) ∧
      schema.Announced names asked after.journal := by
  intro now
  have admitted : AdmitsAll schema _ (history schema _ ops) :=
    (create_current scalars converters).history
  rw [split, admitsAll_append, admitsAll_append] at admitted
  obtain ⟨⟨first, second⟩, _⟩ := admitted
  have current : now.Current := by
    have whole := admitsAll_append.mpr ⟨first, second⟩
    exact (create_current scalars converters).replay whole
  have stays : now.cached? key = some i := by
    simpa [now] using cached?_replay lasting second found
  refine ⟨stays, ask_of_cached stays, ?_, ?_, fun names asked => ⟨?_, ?_, ?_⟩⟩
  · rintro s same generation fuel path
    exact resolve_of_cached (same ▸ stays) generation fuel path
  · intro type convert
    refine ⟨by simp [apply], fun k other => ?_, by simp [apply], fun t other => ?_⟩
    · simp [apply, other]
    · simp [apply, other]
  · intro k j present
    have admits : now.AdmitsAll schema (now.ask schema names asked).2.journal :=
      current.events (.request names asked)
    rw [← replay_journal]
    by_cases lost : k = { type := k.type } ∧
        ∃ convert, .registered k.type convert ∈ (now.ask schema names asked).2.journal
    · exact .inr lost
    · refine .inl (cached?_replay (fun convert member plain => ?_) admits present)
      exact lost ⟨plain, convert, member⟩
  · intro type
    rw [← replay_journal]
    by_cases lost : ∃ convert, .registered type convert ∈ (now.ask schema names asked).2.journal
    · exact .inr lost
    · exact .inl (converter?_replay (not_exists.mp lost) now)
  · exact announced_journal schema now names asked

/-- A pair, read by a pattern that is asked for with it. -/
def explicitPair : Key := { type := .declared "Pair", pattern := some "(a)(b)" }

/-- The interpreter of a pair by a pattern of its own stays when a converter for pairs is
registered and pairs are asked for again. -/
theorem explicit_pair_stable :
    let r := (create true []).perform chains (.request [] explicitPair)
    let now := r.run chains
      [.register (.declared "Pair") fun _ => none, .request [] { type := .declared "Pair" }]
    ∃ i, r.cached? explicitPair = some i ∧ now.cached? explicitPair = some i ∧
      ∀ names, (now.ask chains names explicitPair).1 = .ok i := by
  intro r now
  obtain ⟨i, found⟩ : ∃ i, r.cached? explicitPair = some i :=
    Option.isSome_iff_exists.mp (by unfold r; cbv)
  let first := (create true []).events chains (.request [] explicitPair)
  let later := r.history chains
    [.register (.declared "Pair") fun _ => none, .request [] { type := .declared "Pair" }]
  have asked : (create true []).replay first = r := replay_events _ _ _
  have done : (create true []).replay (first ++ later) = now := by
    rw [replay_append, asked, replay_history]
  have split : (create true []).history chains [.request [] explicitPair,
      .register (.declared "Pair") fun _ => none, .request [] { type := .declared "Pair" }] =
      first ++ later ++ [] := by
    rw [history, List.append_nil]
  obtain ⟨stays, answers, _⟩ := cached_entry_stable chains true [] _ first later [] split
    explicitPair i (asked ▸ found) (by simp [explicitPair])
  rw [done] at stays answers
  exact ⟨i, found, stays, fun names => congrArg Prod.fst (answers names)⟩

end Registry

end Construe
