import Construe.Proofs.Outcome
import Construe.Proofs.History

/-! # The current converter wins

In every state of every history, those in the middle of a build included, a plain key has a
converter's interpreter in the registry exactly if its type has a converter, and then that of the
converter registered last. Whatever is kept was put together with the converters that were current
at that moment. -/
namespace Construe

/-- The converter that a list of registrations leaves a type with: the last one. -/
def latest (type : TypeRef) (registrations : List (TypeRef × Converter α)) :
    Option (Converter α) := registrations.reverse.lookup type

theorem latest_append (type : TypeRef) (first last : List (TypeRef × Converter α)) :
    latest type (first ++ last) = (latest type last).or (latest type first) := by
  simp [latest, List.lookup_append]

theorem latest_cons_or (type : TypeRef) (c : TypeRef × Converter α)
    (cs : List (TypeRef × Converter α)) (before : Option (Converter α)) :
    (latest type (c :: cs)).or before =
      (latest type cs).or (if type = c.1 then some c.2 else before) := by
  rw [← List.singleton_append, latest_append, Option.or_assoc]
  obtain ⟨t, convert⟩ := c
  by_cases same : type = t
  · simp [latest, same]
  · simp [latest, Registry.lookup_cons_ite, same]

/-- A type with one converter, given once or more often, is left with it. -/
theorem latest_eq_some {registrations : List (TypeRef × Converter α)}
    (member : (type, convert) ∈ registrations)
    (only : ∀ c, (type, c) ∈ registrations → c = convert) :
    latest type registrations = some convert := by
  cases found : latest type registrations with
  | none =>
    have apart := List.lookup_eq_none_iff.mp found _ (List.mem_reverse.mpr member)
    simp at apart
  | some c =>
    obtain ⟨before, after, split, _⟩ := List.lookup_eq_some_iff.mp found
    have given : (type, c) ∈ registrations := by
      rw [← List.mem_reverse, split]
      simp
    rw [only c given]

/-- The registrations among some events, in order. -/
def registered (events : List (Event α)) : List (TypeRef × Converter α) :=
  events.filterMap fun
    | .registered type convert => some (type, convert)
    | _ => none

theorem mem_registered {events : List (Event α)} :
    (type, convert) ∈ registered events ↔ .registered type convert ∈ events := by
  simp only [registered, List.mem_filterMap]
  constructor
  · rintro ⟨e, member, same⟩
    split at same
    · cases same
      exact member
    · contradiction
  · exact fun member => ⟨_, member, rfl⟩

namespace Registry

/-- An interpreter asked for with a key that a converter serves is that converter's own. -/
def Honours (r : Registry α) (key : Key) (i : Interpreter α) : Prop :=
  ∀ convert, r.converterFor? key = some convert → i = .converter key.type convert

/-- What is kept for plain keys agrees with the converters. -/
def Current (r : Registry α) : Prop :=
  ∀ type i, r.cached? { type } = some i →
    ((∃ t convert, i = .converter t convert) ↔ (r.converter? type).isSome) ∧
    ∀ convert, r.converter? type = some convert → i = .converter type convert

/-- A new interpreter, put together from interpreters that honour the converters. -/
def Fresh (schema : Schema α) (r : Registry α) (key : Key) (built : Interpreter α) : Prop :=
  r.cached? key = none ∧
    Assembled schema (fun k found => r.converterFor? k = found) r.Honours key built

/-- An event that a request can bring: interpreters are kept where they are fresh. -/
def Admits (schema : Schema α) (r : Registry α) : Event α → Prop
  | .kept key built => r.Fresh schema key built
  | _ => True

/-- Every event is admitted by the state it comes to. -/
def AdmitsAll (schema : Schema α) : Registry α → List (Event α) → Prop
  | _, [] => True
  | r, e :: events => r.Admits schema e ∧ (r.apply e).AdmitsAll schema events

theorem admitsAll_append {schema : Schema α} {first last : List (Event α)} :
    ∀ {r : Registry α}, r.AdmitsAll schema (first ++ last) ↔
      r.AdmitsAll schema first ∧ (r.replay first).AdmitsAll schema last := by
  induction first with
  | nil => simp [AdmitsAll]
  | cons e first ih => simp [AdmitsAll, ih, and_assoc]

/-- What is kept for a type without a converter is no converter's. -/
theorem Current.ne_converter {r : Registry α} (current : r.Current)
    (found : r.cached? { type } = some i) (unserved : r.converter? type = none)
    (t : TypeRef) (convert : Converter α) : i ≠ .converter t convert := by
  rintro rfl
  have served := (current type _ found).1.mp ⟨t, convert, rfl⟩
  rw [unserved] at served
  contradiction

theorem Current.cached_honours {r : Registry α} (current : r.Current)
    (found : r.cached? key = some i) : r.Honours key i := by
  intro convert serves
  obtain ⟨plain, registered⟩ := converterFor?_eq_some.mp serves
  rw [plain] at found ⊢
  exact (current _ i found).2 convert registered

theorem honours_of_assembled {r : Registry α}
    (assembled : Assembled schema (fun k found => r.converterFor? k = found) part key i) :
    r.Honours key i := by
  intro convert serves
  cases assembled with
  | converter found =>
    rw [found] at serves
    cases serves
    rfl
  | sequence none | explicit none | sum none =>
    rw [none] at serves
    contradiction

theorem Current.register {r : Registry α} (current : r.Current) (type : TypeRef)
    (convert : Converter α) : (r.register type convert).Current := by
  intro t i found
  rw [cached?_register] at found
  split at found
  · contradiction
  · rename_i other
    have apart : t ≠ type := fun same => other (by rw [same])
    simpa [apart] using current t i found

theorem Current.keep {r : Registry α} (current : r.Current)
    (assembled : Assembled schema (fun k found => r.converterFor? k = found) part key built) :
    (r.keep key built).Current := by
  intro t i found
  rw [cached?_keep] at found
  rw [converter?_keep]
  split at found
  · rename_i same
    cases found
    have honours := honours_of_assembled assembled
    subst same
    refine ⟨?_, fun convert registered => honours convert registered⟩
    rw [Option.isSome_iff_exists]
    constructor
    · rintro ⟨_, _, rfl⟩
      cases assembled with
      | converter found => exact ⟨_, found⟩
    · rintro ⟨convert, registered⟩
      exact ⟨t, convert, honours convert registered⟩
  · exact current t i found

theorem Current.apply {r : Registry α} (current : r.Current) (admits : r.Admits schema e) :
    (r.apply e).Current := by
  cases e with
  | registered type convert => exact current.register type convert
  | kept key built => exact current.keep admits.2
  | passedOn => exact current

theorem Current.replay {schema : Schema α} {events : List (Event α)} :
    ∀ {r : Registry α}, r.Current → r.AdmitsAll schema events → (r.replay events).Current := by
  induction events with
  | nil => exact fun current _ => current
  | cons e events ih => exact fun current admits => ih (current.apply admits.1) admits.2

/-- As long as its generation lasts, a request finds the converters it started with. -/
structure Proceeds (schema : Schema α) (r : Registry α) (s : Session α) : Prop where
  journal : r.replay s.journal = s.registry
  admits : r.AdmitsAll schema s.journal
  generation : r.generation ≤ s.registry.generation
  converters : s.registry.generation = r.generation →
    s.registry.converterFor? = r.converterFor?

theorem Proceeds.record {r : Registry α} {s : Session α} (proceeds : Proceeds schema r s)
    (admits : s.registry.Admits schema e)
    (converters : ∀ type convert, e ≠ .registered type convert) :
    Proceeds schema r (s.record e) where
  journal := by simp [Session.record, proceeds.journal]
  admits := by
    have now : (r.replay s.journal).Admits schema e := proceeds.journal ▸ admits
    exact admitsAll_append.mpr ⟨proceeds.admits, now, trivial⟩
  generation := by
    cases e with
    | registered type convert => exact absurd rfl (converters type convert)
    | kept | passedOn => exact proceeds.generation
  converters := by
    cases e with
    | registered type convert => exact absurd rfl (converters type convert)
    | kept | passedOn => exact proceeds.converters

theorem Proceeds.register {r : Registry α} {s : Session α} (proceeds : Proceeds schema r s)
    (type : TypeRef) (convert : Converter α) :
    Proceeds schema r (s.record (.registered type convert)) where
  journal := by simp [Session.record, proceeds.journal]
  admits := admitsAll_append.mpr ⟨proceeds.admits, trivial, trivial⟩
  generation := Nat.le_succ_of_le proceeds.generation
  converters := by
    intro same
    have before := proceeds.generation
    simp only [Session.record, apply, generation_register] at same
    omega

/-- A registration ends the generation of the request. -/
theorem Proceeds.perform {r : Registry α} {s : Session α} (proceeds : Proceeds schema r s)
    (change : Registration α) : Proceeds schema r (s.perform change) ∧
      ((s.perform change).registry.generation = r.generation →
        s.registry.generation = r.generation) := by
  unfold Session.perform
  split
  · refine ⟨proceeds.register _ _, fun same => ?_⟩
    have before := proceeds.generation
    simp only [Session.record, apply, generation_register] at same
    omega
  · exact ⟨proceeds.record trivial (by simp), id⟩

theorem Proceeds.keep {r : Registry α} {s : Session α} (proceeds : Proceeds schema r s)
    (same : s.registry.generation = r.generation) (absent : s.registry.cached? key = none)
    (assembled : Assembled schema (fun k found => r.converterFor? k = found) r.Honours key built) :
    Proceeds schema r (s.record (.kept key built)) := by
  refine proceeds.record ⟨absent, ?_⟩ (by simp)
  unfold Honours
  rw [proceeds.converters same]
  exact assembled

theorem Proceeds.cached_honours {r : Registry α} {s : Session α} (proceeds : Proceeds schema r s)
    (current : r.Current) (same : s.registry.generation = r.generation)
    (found : s.registry.cached? key = some i) : r.Honours key i := by
  have now : s.registry.Current := proceeds.journal ▸ current.replay proceeds.admits
  have honours := now.cached_honours found
  unfold Honours at honours
  rwa [proceeds.converters same] at honours

/-- The account of a request: as long as its generation lasts, all it finds and builds honours the
converters. -/
def currencyAccount (schema : Schema α) {r : Registry α} (current : r.Current) :
    Account schema r.generation where
  session := Proceeds schema r
  current s := s.registry.generation = r.generation
  serves k found := r.converterFor? k = found
  part := r.Honours
  perform proceeds _ := proceeds.perform _
  live _ same := same
  keep proceeds := proceeds.keep
  cached proceeds := proceeds.cached_honours current
  served proceeds same := congrFun (proceeds.converters same).symm _
  assembled := honours_of_assembled

theorem Current.proceeds {schema : Schema α} {r : Registry α} (current : r.Current)
    (names : List String) (key : Key) : Proceeds schema r (r.ask schema names key).2 := by
  have start : Proceeds schema r ⟨names, r, []⟩ := ⟨rfl, trivial, Nat.le_refl _, fun _ => rfl⟩
  exact ((currencyAccount schema current).request (s := ⟨names, r, []⟩) start key).1

/-- What an operation does to a registry is admitted step by step. -/
theorem Current.events {schema : Schema α} {r : Registry α} (current : r.Current)
    (op : Operation α) : r.AdmitsAll schema (r.events schema op) := by
  cases op with
  | register => exact ⟨trivial, trivial⟩
  | request names key => exact (current.proceeds names key).admits

theorem Current.history {schema : Schema α} {ops : List (Operation α)} :
    ∀ {r : Registry α}, r.Current → r.AdmitsAll schema (r.history schema ops) := by
  induction ops with
  | nil => exact fun _ => trivial
  | cons op ops ih =>
    intro r current
    have now : r.AdmitsAll schema _ := current.events op
    refine admitsAll_append.mpr ⟨now, ?_⟩
    rw [replay_events]
    exact ih (replay_events schema r op ▸ current.replay now)

theorem create_current (scalars : Bool) (converters : List (TypeRef × Converter α)) :
    (create scalars converters).Current := by
  intro type i found
  simp [cached?, create_cache] at found

/-- All converters that a registry has been given, at creation and by some events, in order. -/
def given (scalars : Bool) (converters : List (TypeRef × Converter α)) (events : List (Event α)) :
    List (TypeRef × Converter α) := seeds scalars ++ converters ++ registered events

theorem converter?_replay_create (scalars : Bool) (converters : List (TypeRef × Converter α))
    (events : List (Event α)) (type : TypeRef) :
    ((create scalars converters).replay events).converter? type =
      latest type (given scalars converters events) := by
  have created (cs : List (TypeRef × Converter α)) (r : Registry α) :
      (cs.foldl (fun r c => r.setConverter c.1 c.2) r).converter? type =
        (latest type cs).or (r.converter? type) := by
    induction cs generalizing r with
    | nil => rfl
    | cons c cs ih => rw [List.foldl_cons, ih, converter?_setConverter, latest_cons_or]
  have replayed (r : Registry α) : (r.replay events).converter? type =
      (latest type (registered events)).or (r.converter? type) := by
    induction events generalizing r with
    | nil => rfl
    | cons e events ih =>
      rw [replay_cons, ih]
      cases e with
      | registered t convert =>
        exact (latest_cons_or type (t, convert) _ _ ▸ converter?_register r t type convert ▸ rfl)
      | kept | passedOn => rfl
  rw [replayed, given, latest_append]
  congr 1
  exact (created _ _).trans (by simp [empty, converter?])

/-- A plain request for a type with a converter answers with that converter. -/
theorem Current.ask {schema : Schema α} {r : Registry α} (current : r.Current)
    (registered : r.converter? type = some convert) (names : List String) :
    (r.ask schema names { type }).1 = .ok (.converter type convert) := by
  have enough : ∃ fuel, schema.fuel { type } = fuel + 2 := ⟨_, rfl⟩
  obtain ⟨fuel, enough⟩ := enough
  rw [Registry.ask, Build.request_eq, enough, resolve, Build.exec_registry]
  cases found : r.cached? { type } with
  | some i =>
    rw [(current type i found).2 convert registered]
    rfl
  | none =>
    rw [resolveNew]
    simp only [Path.start, List.not_mem_nil, if_false, Build.exec_bind (_ >>= _),
      Build.exec_registry, converterFor?_plain, registered, Build.exec_pure, Build.exec_keep, found,
      ne_eq, not_true, Key.settle]

/-- In every state of every history, in the middle of a request or at the end: what is kept for a
plain key is a converter's interpreter exactly if the type has a converter, and then the last
one's; what is kept next consists of parts that honour the converters of that moment; and a plain
request for a type with a converter gets what the last converter makes of texts. -/
theorem current_converter_wins (schema : Schema α) (scalars : Bool)
    (converters : List (TypeRef × Converter α)) (ops : List (Operation α))
    (events rest : List (Event α))
    (split : (create scalars converters).history schema ops = events ++ rest) :
    (rest = [] → (create scalars converters).replay events =
      (create scalars converters).run schema ops) ∧
    (∀ type i, ((create scalars converters).replay events).cached? { type } = some i →
      ((∃ t convert, i = .converter t convert) ↔
        (latest type (given scalars converters events)).isSome) ∧
      ∀ convert, latest type (given scalars converters events) = some convert →
        i = .converter type convert) ∧
    (∀ key built later, rest = .kept key built :: later →
      ((create scalars converters).replay events).Fresh schema key built) ∧
    ∀ type convert, latest type (given scalars converters events) = some convert →
      ∀ names, ∃ i,
        (((create scalars converters).replay events).ask schema names { type }).1 = .ok i ∧
        i.target = type ∧ (∀ input, (i.interpret input).toOption = convert input) ∧
        ∀ input, (i.run input).toOption = (convert input).filter (·.type = type) := by
  have admitted : AdmitsAll schema _ (history schema _ ops) :=
    (create_current scalars converters).history
  rw [split, admitsAll_append] at admitted
  have current := (create_current scalars converters).replay admitted.1
  refine ⟨?_, ?_, ?_, ?_⟩
  · rintro rfl
    rw [← replay_history, split, List.append_nil]
  · intro type i found
    rw [← converter?_replay_create]
    exact current type i found
  · rintro key built later rfl
    exact admitted.2.1
  · intro type convert last names
    rw [← converter?_replay_create] at last
    have converted := Interpreter.toOption_converter type convert
    refine ⟨_, current.ask last names, rfl, converted, fun input => ?_⟩
    rw [Interpreter.toOption_run, converted]
    rfl

def readFlag? : Converter Unit := fun input =>
  if input = "on" then some (.made "Flag" ()) else none

/-- A type that declares nothing, but registers a converter for itself when it is asked for. -/
def flags : Schema Unit where
  declarations := [
    { name := "Flag"
      descriptor := .bare
      onDescribe := [⟨"main", .declared "Flag", readFlag?⟩] }]

/-- The first request for a flag fails, but not without leaving the converter to the next one. -/
theorem flag_converter_wins :
    (create true []).history flags [.request ["main"] { type := .declared "Flag" }] =
      [.registered (.declared "Flag") readFlag?] ∧
    ∃ i, (((create true []).replay [.registered (.declared "Flag") readFlag?]).ask
        flags ["main"] { type := .declared "Flag" }).1 = .ok i ∧
      i.target = .declared "Flag" ∧
      (∀ input, (i.interpret input).toOption = readFlag? input) ∧
      ∀ input, (i.run input).toOption = (readFlag? input).filter (·.type = .declared "Flag") :=
  ⟨rfl, (current_converter_wins flags true [] [.request ["main"] { type := .declared "Flag" }]
    [.registered (.declared "Flag") readFlag?] [] rfl).2.2.2
      (.declared "Flag") readFlag? rfl ["main"]⟩

end Registry

end Construe
