import Mathlib
import Construe.Proofs.Transparency

/-! # What a failed request leaves behind

A request that fails has kept the interpreters that were complete by then, and no others: none of
the keys that were being built has an entry. `Watched` resolution is resolution that tells, when it
stops, which keys these are. Run again from the registry it left behind, it finds everything it
kept, comes to the same failure and changes nothing. -/
namespace Construe

/-! ### Resolution that tells where it stops -/

/-- Building steps that stop together with the keys being built, innermost first. -/
abbrev Watched (α : Type) := ExceptT (Stop × List Key) (StateM (Session α))

/-- The step is taken while the keys of the path are being built. -/
def Path.watch (path : Path) (step : Build α β) : Watched α β :=
  ExceptT.adapt (·, path.building) step

/-- The stop, found on the way through `outer`. -/
def Stop.within (outer : TypeRef) : Stop → Stop
  | .failed e => .failed (e.within outer)
  | .exhausted => .exhausted

namespace Watched

open Build (registry describe fail keep compilePattern compileSeparator)

def within (outer : TypeRef) (step : Watched α β) : Watched α β :=
  ExceptT.adapt (fun (stop, building) => (stop.within outer, building)) step

mutual

def resolve (schema : Schema α) (generation : Nat) :
    (fuel : Nat) → Path → Key → Watched α (Interpreter α)
  | 0, path, _ => path.watch (throw .exhausted)
  | fuel + 1, path, key => do
    match (← path.watch registry).cached? key with
    | some kept => return kept
    | none =>
      if key ∈ path.building then path.watch (fail key.type (.cyclicType key.type))
      else
        let built ← resolveNew schema generation fuel (path.build key) key
        path.watch (keep key built generation)

def resolveNew (schema : Schema α) (generation : Nat) :
    (fuel : Nat) → Path → Key → Watched α (Interpreter α)
  | 0, path, _ => path.watch (throw .exhausted)
  | fuel + 1, path, key => do
    match (← path.watch registry).converterFor? key with
    | some convert => return .converter key.type convert
    | none =>
      let descriptor ← path.watch (describe schema key.type)
      match descriptor.sequence, key.separator, key.pattern with
      | some sequence, separator, pattern =>
        let separator ← path.watch
          (compileSeparator key.type (separator.getD defaultSeparator))
        let item ← within key.type <|
          resolve schema generation fuel path ⟨sequence.item, pattern, none⟩
        return .sequence key.type separator item sequence.collect
      | none, some separator, _ =>
        path.watch (fail key.type (.unexpectedSeparator key.type separator))
      | none, none, some pattern =>
        match descriptor.constructor with
        | none => path.watch (fail key.type (.noConstructor key.type))
        | some constructor =>
          let candidate ←
            resolveBinding schema generation fuel path key.type ⟨pattern, constructor⟩ .ok
          return .candidates key.type [candidate]
      | none, none, none =>
        match ← unfold schema generation fuel path key.type descriptor .ok with
        | [] =>
          if descriptor.variants.isEmpty then path.watch (fail key.type (.noBinding key.type))
          else path.watch (fail key.type (.emptySumType key.type))
        | candidates => return .candidates key.type candidates

def unfold (schema : Schema α) (generation : Nat) :
    (fuel : Nat) → Path → TypeRef → Descriptor α → Wrap α → Watched α (List (Candidate α))
  | 0, path, _, _, _ => path.watch (throw .exhausted)
  | fuel + 1, path, type, descriptor, wrap => do
    if type ∈ path.unfolding then path.watch (fail type (.cyclicType type))
    else if descriptor.lacksConstructor then path.watch (fail type (.noConstructor type))
    else
      let own ← descriptor.ownBinding?.toList.mapM fun binding =>
        resolveBinding schema generation fuel path type binding wrap
      let variants ← descriptor.variants.mapM fun variant => do
        let variantDescriptor ← path.watch (describe schema variant.type)
        within type <| unfold schema generation fuel (path.unfold type) variant.type
          variantDescriptor (variant.chain type wrap)
      let alternates ← descriptor.alternates.mapM fun binding =>
        resolveBinding schema generation fuel path type binding wrap
      return own ++ variants.flatten ++ alternates

def resolveBinding (schema : Schema α) (generation : Nat) :
    (fuel : Nat) → Path → TypeRef → Binding α → Wrap α → Watched α (Candidate α)
  | 0, path, _, _, _ => path.watch (throw .exhausted)
  | fuel + 1, path, type, ⟨pattern, constructor⟩, wrap => do
    match constructor.unknownOptions with
    | index :: _ => path.watch (fail type (.unknownParameter index constructor.arity))
    | [] =>
      let matcher ← path.watch (compilePattern type pattern constructor.arity)
      let parameters ← constructor.params.mapM fun p =>
        within type (resolve schema generation fuel path p.key)
      return .mk pattern matcher parameters (constructor.chain type wrap)

end

/-- The step without what it tells. -/
def forget (step : Watched α β) : Build α β := ExceptT.adapt Prod.fst step

/-- The result of a step, with the session it leaves behind. -/
def exec (step : Watched α β) (s : Session α) : Except (Stop × List Key) β × Session α :=
  step.run.run s

theorem exec_pure (a : β) (s : Session α) : exec (pure a) s = (.ok a, s) := rfl

theorem exec_bind (step : Watched α β) (next : β → Watched α γ) (s : Session α) :
    exec (step >>= next) s = match exec step s with
      | (.ok a, s) => exec (next a) s
      | (.error stop, s) => (.error stop, s) := by
  show ExceptT.bindCont next (exec step s).1 (exec step s).2 = _
  rcases exec step s with ⟨_ | _, _⟩ <;> rfl

theorem exec_watch (path : Path) (step : Build α β) (s : Session α) :
    exec (path.watch step) s =
      ((Build.exec step s).1.mapError (·, path.building), (Build.exec step s).2) := rfl

theorem exec_within (type : TypeRef) (step : Watched α β) (s : Session α) :
    exec (within type step) s =
      ((exec step s).1.mapError fun x => (x.1.within type, x.2), (exec step s).2) := rfl

theorem exec_forget (step : Watched α β) (s : Session α) :
    Build.exec (forget step) s = ((exec step s).1.mapError Prod.fst, (exec step s).2) := rfl

/-! ### Watching changes nothing -/

theorem forget_ext {step : Watched α β} {plain : Build α β}
    (same : ∀ s, Build.exec (forget step) s = Build.exec plain s) : forget step = plain :=
  funext same

theorem forget_pure (a : β) : forget (pure a : Watched α β) = pure a := rfl

theorem forget_bind (step : Watched α β) (next : β → Watched α γ) :
    forget (step >>= next) = forget step >>= fun a => forget (next a) := by
  apply forget_ext
  intro s
  rw [exec_forget, exec_bind, Build.exec_bind, exec_forget]
  rcases exec step s with ⟨_ | _, _⟩ <;> rfl

theorem forget_watch (path : Path) (step : Build α β) : forget (path.watch step) = step := by
  apply forget_ext
  intro s
  rw [exec_forget, exec_watch]
  rcases Build.exec step s with ⟨_ | _, _⟩ <;> rfl

theorem forget_within (type : TypeRef) (step : Watched α β) :
    forget (within type step) = Build.within type (forget step) := by
  apply forget_ext
  intro s
  rw [exec_forget, exec_within, Build.exec_within, exec_forget]
  rcases exec step s with ⟨⟨_ | _, _⟩ | _, _⟩ <;> rfl

theorem forget_mapM (step : γ → Watched α β) (xs : List γ) :
    forget (xs.mapM step) = xs.mapM fun x => forget (step x) := by
  induction xs with
  | nil => rfl
  | cons x xs ih => simp only [List.mapM_cons, forget_bind, forget_pure, ih]

mutual

theorem forget_resolve (schema : Schema α) (generation : Nat) : ∀ fuel path key,
    forget (resolve schema generation fuel path key) =
      Construe.resolve schema generation fuel path key
  | 0, _, _ => forget_watch _ _
  | fuel + 1, path, key => by
    rw [resolve, Construe.resolve, forget_bind, forget_watch]
    apply bind_congr
    intro r
    cases r.cached? key with
    | some kept => rfl
    | none =>
      dsimp only
      split
      · exact forget_watch _ _
      · simp only [forget_bind, forget_watch, forget_resolveNew]

theorem forget_resolveNew (schema : Schema α) (generation : Nat) : ∀ fuel path key,
    forget (resolveNew schema generation fuel path key) =
      Construe.resolveNew schema generation fuel path key
  | 0, _, _ => forget_watch _ _
  | fuel + 1, path, key => by
    rw [resolveNew, Construe.resolveNew, forget_bind, forget_watch]
    apply bind_congr
    intro r
    cases r.converterFor? key with
    | some convert => rfl
    | none =>
      dsimp only
      rw [forget_bind, forget_watch]
      apply bind_congr
      intro descriptor
      cases descriptor.sequence with
      | some sequence =>
        simp only [forget_bind, forget_watch, forget_within, forget_pure, forget_resolve]
      | none =>
        cases key.separator with
        | some separator => exact forget_watch _ _
        | none =>
          cases key.pattern with
          | some pattern =>
            cases descriptor.constructor with
            | none => exact forget_watch _ _
            | some constructor => simp only [forget_bind, forget_pure, forget_resolveBinding]
          | none =>
            dsimp only
            rw [forget_bind, forget_unfold]
            apply bind_congr
            intro candidates
            cases candidates with
            | cons => rfl
            | nil =>
              dsimp only
              split <;> exact forget_watch _ _

theorem forget_unfold (schema : Schema α) (generation : Nat) : ∀ fuel path type descriptor wrap,
    forget (unfold schema generation fuel path type descriptor wrap) =
      Construe.unfold schema generation fuel path type descriptor wrap
  | 0, _, _, _, _ => forget_watch _ _
  | fuel + 1, path, type, descriptor, wrap => by
    rw [unfold, Construe.unfold]
    split
    · exact forget_watch _ _
    · split
      · exact forget_watch _ _
      · simp only [forget_bind, forget_mapM, forget_watch, forget_within, forget_pure,
          forget_unfold, forget_resolveBinding]

theorem forget_resolveBinding (schema : Schema α) (generation : Nat) : ∀ fuel path type b wrap,
    forget (resolveBinding schema generation fuel path type b wrap) =
      Construe.resolveBinding schema generation fuel path type b wrap
  | 0, _, _, _, _ => forget_watch _ _
  | fuel + 1, path, type, ⟨pattern, constructor⟩, wrap => by
    rw [resolveBinding, Construe.resolveBinding]
    cases constructor.unknownOptions with
    | cons => exact forget_watch _ _
    | nil =>
      simp only [forget_bind, forget_mapM, forget_watch, forget_within, forget_pure,
        forget_resolve]

end

end Watched

/-! ### Stopping in order -/

/-- What is kept at one time is there at the other, and nothing is registered in between. -/
structure Session.Grows (s t : Session α) : Prop where
  converters : t.registry.converterFor? = s.registry.converterFor?
  generation : t.registry.generation = s.registry.generation
  retains : ∀ {key i}, s.registry.cached? key = some i → t.registry.cached? key = some i

/-- None of the keys has an interpreter. -/
def Session.Lacks (s : Session α) (keys : List Key) : Prop :=
  ∀ key ∈ keys, s.registry.cached? key = none

namespace Session

variable {s t u : Session α}

theorem Grows.refl (s : Session α) : s.Grows s := ⟨rfl, rfl, id⟩

theorem Grows.trans (first : s.Grows t) (next : t.Grows u) : s.Grows u :=
  ⟨next.converters.trans first.converters, next.generation.trans first.generation,
    fun found => next.retains (first.retains found)⟩

theorem grows_kept (absent : s.registry.cached? key = none) (built : Interpreter α) :
    s.Grows (s.record (.kept key built)) where
  converters := rfl
  generation := rfl
  retains := by
    intro k i found
    have other : k ≠ key := by
      rintro rfl
      simp [absent] at found
    simpa [record, Registry.apply, other] using found

theorem Lacks.kept (lacks : s.Lacks keys) (other : key ∉ keys) (built : Interpreter α) :
    (s.record (.kept key built)).Lacks keys := by
  intro k member
  have apart : k ≠ key := by
    rintro rfl
    exact other member
  simpa [record, Registry.apply, apart] using lacks k member

end Session

namespace Watched

open Build (registry describe fail keep compilePattern compileSeparator)

/-- The keys that a step which stops leaves unfinished. -/
def unfinished : Except (Stop × List Key) β → List Key
  | .ok _ => []
  | .error (_, keys) => keys

/-- What comes of a step taken while the keys of `building` have no interpreters. It leaves more
interpreters behind, none of them for these keys or for any that it leaves unfinished. Taken again
from any later session that has more interpreters, but none for the unfinished keys, it ends in the
same way and has no effect. -/
structure Settles (building : List Key) (step : Watched α β) (s : Session α) : Prop where
  grows : s.Grows (exec step s).2
  lacks : (exec step s).2.Lacks building
  absent : (exec step s).2.Lacks (unfinished (exec step s).1)
  includes : ∀ x, (exec step s).1 = .error x → building ⊆ x.2
  again : ∀ {t}, (exec step s).2.Grows t → t.Lacks (unfinished (exec step s).1) →
    exec step t = ((exec step s).1, t)

/-- The step settles in every session of the generation that has no interpreters for the keys. -/
def Orderly (generation : Nat) (building : List Key) (step : Watched α β) : Prop :=
  ∀ s, s.registry.generation = generation → s.Lacks building → Settles building step s

/-- A step that has no effect settles, as long as it ends in the same way later. -/
theorem settles_of_still {step : Watched α β} {result : Except (Stop × List Key) β}
    (lacks : s.Lacks building) (includes : ∀ x, result = .error x → building = x.2)
    (still : ∀ {t}, s.Grows t → t.Lacks (unfinished result) → exec step t = (result, t)) :
    Settles building step s := by
  have missing : s.Lacks (unfinished result) := by
    cases result with
    | ok => exact fun k member => by simp [unfinished] at member
    | error x =>
      rw [includes x rfl] at lacks
      exact lacks
  have ends := still (.refl s) missing
  refine ⟨?_, ?_, ?_, ?_, ?_⟩ <;> rw [ends]
  · exact .refl s
  · exact lacks
  · exact missing
  · intro x stopped
    rw [includes x stopped]
    exact List.Subset.refl _
  · exact still

namespace Orderly

variable {generation : Nat} {building : List Key}

theorem pure (a : β) : Orderly generation building (pure a : Watched α β) :=
  fun _ _ lacks => settles_of_still lacks (by simp) fun _ _ => exec_pure a _

theorem watch {step : Build α β} (still : ∀ s, Build.exec step s = (result, s)) (path : Path) :
    Orderly generation path.building (path.watch step) := by
  intro s _ lacks
  have ends t : exec (path.watch step) t = (result.mapError (·, path.building), t) := by
    rw [exec_watch, still]
  refine settles_of_still lacks ?_ fun _ _ => ends _
  intro x stopped
  cases result with
  | ok => contradiction
  | error =>
    cases stopped
    rfl

theorem fail (type : TypeRef) (kind : BuildErrorKind) (path : Path) :
    Orderly generation path.building (path.watch (fail type kind) : Watched α β) :=
  .watch (Build.exec_fail type kind) path

theorem describe {schema : Schema α} (quiet : schema.Quiet) (type : TypeRef) (path : Path) :
    Orderly generation path.building (path.watch (describe schema type)) := by
  have still s : Build.exec (Build.describe schema type) s = (.ok (schema.describe type), s) := by
    show (_, (schema.registrations type).foldl Session.perform s) = _
    rw [quiet type]
    rfl
  exact .watch still path

theorem bind {step : Watched α β} {next : β → Watched α γ}
    (first : Orderly generation building step) (rest : ∀ a, Orderly generation building (next a)) :
    Orderly generation building (step >>= next) := by
  intro s live lacks
  obtain ⟨grows, lacks, absent, includes, again⟩ := first s live lacks
  have opened := exec_bind step next
  cases done : exec step s with
  | mk result s' =>
    rw [done] at grows lacks absent includes again
    cases result with
    | error x =>
      have ends : exec (step >>= next) s = (.error x, s') := by rw [opened s, done]
      refine ⟨?_, ?_, ?_, ?_, ?_⟩ <;> rw [ends]
      · exact grows
      · exact lacks
      · exact absent
      · rintro _ ⟨⟩
        exact includes x rfl
      · intro t later missing
        rw [opened t, again later missing]
    | ok a =>
      have second := rest a s' (grows.generation.trans live) lacks
      have ends : exec (step >>= next) s = exec (next a) s' := by rw [opened s, done]
      refine ⟨?_, ?_, ?_, ?_, ?_⟩ <;> rw [ends]
      · exact grows.trans second.grows
      · exact second.lacks
      · exact second.absent
      · exact second.includes
      · intro t later missing
        have nothing : t.Lacks [] := fun k member => by simp at member
        rw [opened t, again (second.grows.trans later) nothing]
        exact second.again later missing

theorem within {step : Watched α β} (orderly : Orderly generation building step) :
    Orderly generation building (within type step) := by
  intro s live lacks
  obtain ⟨grows, lacks, absent, includes, again⟩ := orderly s live lacks
  have opened := exec_within type step
  have same (result : Except (Stop × List Key) β) :
      unfinished (result.mapError fun x => (x.1.within type, x.2)) = unfinished result := by
    cases result <;> rfl
  refine ⟨grows, lacks, ?_, ?_, ?_⟩ <;> rw [opened]
  · rwa [same]
  · intro x stopped
    cases result : (exec step s).1 with
    | ok => simp [result, Except.mapError] at stopped
    | error inner =>
      rw [result] at stopped
      cases stopped
      exact includes inner result
  · intro t later missing
    rw [same] at missing
    rw [opened, again later missing]

theorem mapM {step : γ → Watched α β} {xs : List γ}
    (each : ∀ x ∈ xs, Orderly generation building (step x)) :
    Orderly generation building (xs.mapM step) :=
  Build.mapM_holds (P := Orderly generation building) pure bind each

/-- What a step reads of the registry must not change. -/
theorem registry {next : Registry α → Watched α β} {path : Path}
    (steady : ∀ r r', r.converterFor? = r'.converterFor? → next r = next r')
    (rest : ∀ r, Orderly generation building (next r)) :
    Orderly generation building (path.watch registry >>= next) := by
  intro s live lacks
  have opened t : exec (path.watch Build.registry >>= next) t = exec (next t.registry) t := rfl
  obtain ⟨grows, lacks, absent, includes, again⟩ := rest s.registry s live lacks
  refine ⟨?_, ?_, ?_, ?_, ?_⟩ <;> rw [opened]
  · exact grows
  · exact lacks
  · exact absent
  · exact includes
  · intro t later missing
    rw [opened, steady _ _ (grows.trans later).converters]
    exact again later missing

end Orderly

variable {schema : Schema α} {generation : Nat}

/-- A key has an interpreter, is being built already, or is built and kept. -/
theorem exec_resolve (schema : Schema α) (generation fuel : Nat) (path : Path) (key : Key)
    (s : Session α) :
    exec (resolve schema generation (fuel + 1) path key) s =
      match s.registry.cached? key with
      | some kept => (.ok kept, s)
      | none =>
        if key ∈ path.building then
          (.error (.failed (.raised key.type (.cyclicType key.type)), path.building), s)
        else exec (resolveNew schema generation fuel (path.build key) key >>=
          fun built => path.watch (keep key built generation)) s := by
  rw [resolve]
  show exec (match s.registry.cached? key with | some kept => _ | none => _) s = _
  cases s.registry.cached? key with
  | some kept => rfl
  | none =>
    dsimp only
    split <;> rfl

/-- An interpreter that is built for a key is kept. From then on it is found; a build that stopped
is made again. -/
theorem settles_of_build {build whole : Watched α (Interpreter α)} {path : Path}
    (live : s.registry.generation = generation) (found : s.registry.cached? key = none)
    (outside : key ∉ path.building) (inner : Settles (path.build key).building build s)
    (present : ∀ t kept, t.registry.cached? key = some kept → exec whole t = (.ok kept, t))
    (missing : ∀ t, t.registry.cached? key = none → exec whole t =
      exec (build >>= fun built => path.watch (keep key built generation)) t) :
    Settles path.building whole s := by
  obtain ⟨grows, lacks, absent, includes, again⟩ := inner
  have steps := exec_bind build fun built => path.watch (keep key built generation)
  cases done : exec build s with
  | mk result s' =>
    rw [done] at grows lacks absent includes again
    have vacant : s'.registry.cached? key = none := lacks key (List.mem_cons_self ..)
    have others : s'.Lacks path.building := fun k member => lacks k (List.mem_cons_of_mem _ member)
    cases result with
    | error x =>
      have ends : exec whole s = (.error x, s') := by rw [missing s found, steps, done]
      have inside := List.cons_subset.mp (includes x rfl)
      refine ⟨?_, ?_, ?_, ?_, ?_⟩ <;> rw [ends]
      · exact grows
      · exact others
      · exact absent
      · rintro _ ⟨⟩
        exact inside.2
      · intro t later without
        rw [missing t (without key inside.1), steps, again later without]
    | ok built =>
      have kept : Build.exec (keep key built generation) s' =
          (.ok built, s'.record (.kept key built)) := by
        rw [Build.exec_keep, if_neg (not_not.mpr (grows.generation.trans live)), vacant]
      have ends : exec whole s = (.ok built, s'.record (.kept key built)) := by
        rw [missing s found, steps, done]
        dsimp only
        rw [exec_watch, kept]
        rfl
      refine ⟨?_, ?_, ?_, ?_, ?_⟩ <;> rw [ends]
      · exact grows.trans (Session.grows_kept vacant built)
      · exact others.kept outside built
      · exact fun k member => by simp [unfinished] at member
      · exact fun _ stopped => by simp at stopped
      · intro t later _
        apply present
        exact later.retains (by simp [Session.record, Registry.apply])

mutual

theorem orderly_resolve (quiet : schema.Quiet) : ∀ {fuel path key},
    Orderly generation path.building (resolve schema generation fuel path key)
  | 0, path, _ => .watch (Build.exec_throw _) path
  | fuel + 1, path, key => by
    intro s live lacks
    have opened := exec_resolve schema generation fuel path key
    cases found : s.registry.cached? key with
    | some kept =>
      have ends {t : Session α} (later : s.Grows t) :
          exec (resolve schema generation (fuel + 1) path key) t = (.ok kept, t) := by
        rw [opened t, later.retains found]
      exact settles_of_still lacks (by simp) fun later _ => ends later
    | none =>
      by_cases present : key ∈ path.building
      · have ends {t : Session α} (missing : t.Lacks path.building) :
            exec (resolve schema generation (fuel + 1) path key) t =
              (.error (.failed (.raised key.type (.cyclicType key.type)), path.building), t) := by
          rw [opened t, missing key present]
          exact if_pos present
        refine settles_of_still lacks ?_ fun _ missing => ends missing
        rintro _ ⟨⟩
        rfl
      · have building : s.Lacks (path.build key).building :=
          List.forall_mem_cons.mpr ⟨found, lacks⟩
        apply settles_of_build live found present (orderly_resolveNew quiet s live building)
        · intro t kept there
          rw [opened t, there]
        · intro t missing
          rw [opened t, missing]
          exact if_neg present

theorem orderly_resolveNew (quiet : schema.Quiet) : ∀ {fuel path key},
    Orderly generation path.building (resolveNew schema generation fuel path key)
  | 0, path, _ => .watch (Build.exec_throw _) path
  | fuel + 1, path, key => by
    rw [resolveNew]
    apply Orderly.registry
    · intro r r' same
      rw [same]
    · intro r
      split
      · exact .pure _
      · refine .bind (.describe quiet key.type path) fun descriptor => ?_
        split
        · refine .bind (.watch (Build.exec_compileSeparator _ _) path) fun splitter => ?_
          exact (orderly_resolve quiet).within.bind fun _ => .pure _
        · exact .fail _ _ path
        · split
          · exact .fail _ _ path
          · exact (orderly_resolveBinding quiet).bind fun _ => .pure _
        · apply (orderly_unfold quiet).bind
          intro candidates
          split
          · split <;> exact .fail _ _ path
          · exact .pure _

theorem orderly_unfold (quiet : schema.Quiet) : ∀ {fuel path type descriptor wrap},
    Orderly generation path.building (unfold schema generation fuel path type descriptor wrap)
  | 0, path, _, _, _ => .watch (Build.exec_throw _) path
  | fuel + 1, path, type, descriptor, wrap => by
    rw [unfold]
    split
    · exact .fail _ _ path
    · split
      · exact .fail _ _ path
      · apply (Orderly.mapM fun b _ => orderly_resolveBinding quiet).bind
        intro own
        refine (Orderly.mapM fun v _ => ?_).bind fun variants => ?_
        · refine .bind (.describe quiet v.type path) fun inner => ?_
          show Orderly generation (path.unfold type).building _
          exact (orderly_unfold quiet).within
        · apply (Orderly.mapM fun b _ => orderly_resolveBinding quiet).bind
          exact fun _ => .pure _

theorem orderly_resolveBinding (quiet : schema.Quiet) : ∀ {fuel path type b wrap},
    Orderly generation path.building (resolveBinding schema generation fuel path type b wrap)
  | 0, path, _, _, _ => .watch (Build.exec_throw _) path
  | fuel + 1, path, type, ⟨pattern, constructor⟩, wrap => by
    rw [resolveBinding]
    split
    · exact .fail _ _ path
    · refine .bind (.watch (Build.exec_compilePattern _ _ _) path) fun matcher => ?_
      exact (Orderly.mapM fun p _ => (orderly_resolve quiet).within).bind fun _ => .pure _

end

/-- Where a request stops, its key is left unfinished: with an interpreter for the key it would not
stop there again. -/
theorem mem_of_stopped (settles : Settles building
      (resolve schema generation (fuel + 1) path key) s)
    (stopped : exec (resolve schema generation (fuel + 1) path key) s = (.error x, s')) :
    key ∈ x.2 := by
  obtain ⟨_, _, absent, _, again⟩ := settles
  rw [stopped] at absent again
  by_contra outside
  have opened := exec_resolve schema generation fuel path key
  cases found : s'.registry.cached? key with
  | some kept =>
    have ends := again (.refl s') absent
    simp [opened, found] at ends
  | none =>
    let kept : Interpreter α := .candidates key.type []
    have ends := again (Session.grows_kept found kept) (absent.kept outside kept)
    simp [opened, Session.record, Registry.apply] at ends

/-- A request that fails stops while some keys are being built. -/
theorem exec_of_failed {s : Session α} (failed : (Session.request schema key s).1 = .error e) :
    ∃ building, exec (resolve schema s.registry.generation (schema.fuel key) .start key) s =
      (.error (.failed e, building), (Session.request schema key s).2) := by
  have ends := total_request schema s.registry.generation key s
  have plain := exec_forget (resolve schema s.registry.generation (schema.fuel key) .start key) s
  rw [forget_resolve] at plain
  rw [Build.request_eq] at failed ⊢
  dsimp only at failed ⊢
  have stopped : (key.settle _).mapError Stop.failed = _ := Build.mapError_settle ends
  rw [failed, plain] at stopped
  rw [plain]
  cases done : exec (resolve schema s.registry.generation (schema.fuel key) .start key) s with
  | mk result s' =>
    rw [done] at stopped
    cases result with
    | ok => contradiction
    | error x =>
      obtain ⟨stop, building⟩ := x
      cases stopped
      exact ⟨building, rfl⟩

end Watched

namespace Registry

variable {schema : Schema α}

/-- The interpreters that requests keep are what a new registry answers. -/
theorem ask_of_cached_run (quiet : schema.Quiet) (scalars : Bool)
    (converters : List (TypeRef × Converter α)) (ops : List (Operation α))
    (asks : ∀ op ∈ ops, op.asks)
    (found : ((create scalars converters).run schema ops).cached? key = some i)
    (names : List String) : ((create scalars converters).ask schema names key).1 = .ok i := by
  let r : Registry α := create scalars converters
  have created : Draft.Kept .same schema r.converterFor? r := keeps_create scalars converters
  obtain ⟨_, kept⟩ := run_of_kept quiet created ops asks
  obtain ⟨fuel, path, draft, drafted, same⟩ := kept key i found
  have answered : (r.ask schema names key).1 = schema.answer r.converterFor? key :=
    ask_run quiet scalars converters [] (by simp) names key
  rw [answered, schema.answer_of_resolve quiet drafted]
  exact congrArg Except.ok same.symm

/-- The request in detail: it stops while some keys are being built, its own among them, and leaves
more interpreters behind, but none for these keys. A later request for the same key does the
same. -/
theorem stopped_of_failed (quiet : schema.Quiet) {r : Registry α} {names : List String}
    (failed : (r.ask schema names key).1 = .error e) :
    let after := r.perform schema (.request names key)
    ∃ building, Watched.exec (Watched.resolve schema r.generation (schema.fuel key) .start key)
        ⟨names, r, []⟩ = (.error (.failed e, building), (r.ask schema names key).2) ∧
      key ∈ building ∧ (∀ k ∈ building, after.cached? k = none) ∧
      ∀ names', after.ask schema names' key = (.error e, ⟨names', after, []⟩) := by
  intro after
  obtain ⟨building, stopped⟩ := Watched.exec_of_failed failed
  let step : Watched α (Interpreter α) :=
    Watched.resolve schema r.generation (schema.fuel key) .start key
  have orderly : Watched.Orderly r.generation Path.start.building step :=
    Watched.orderly_resolve quiet
  have settles := orderly ⟨names, r, []⟩ rfl fun k member => by simp [Path.start] at member
  have own : key ∈ building := Watched.mem_of_stopped settles stopped
  obtain ⟨grows, _, absent, _, again⟩ := settles
  rw [stopped] at grows absent again
  refine ⟨building, stopped, own, absent, fun names' => ?_⟩
  let s' : Session α := ⟨names', after, []⟩
  have repeated : Watched.exec step s' = (.error (.failed e, building), s') :=
    again ⟨rfl, rfl, id⟩ absent
  have same : after.generation = r.generation := grows.generation
  have plain := Watched.exec_forget step s'
  rw [Watched.forget_resolve, repeated] at plain
  rw [ask, Build.request_eq]
  show (key.settle (Build.exec (resolve schema after.generation _ _ _) s').1, _) = _
  rw [same, plain]
  rfl

theorem run_of_still {r : Registry α} (still : ∀ names, (r.ask schema names key).2.registry = r)
    (retries : List (List String)) : r.run schema (retries.map (.request · key)) = r := by
  induction retries with
  | nil => rfl
  | cons names retries ih =>
    have first : r.perform schema (.request names key) = r := still names
    rw [List.map_cons, run, List.foldl_cons, first]
    exact ih

/-- A request that fails leaves nothing half-built. None of the keys being built when it stopped,
its own among them, has an interpreter afterwards; whatever it has kept is what a new registry with
the same converters answers; and the request, made again any number of times, fails in the same way
and leaves the registry as it is. -/
theorem failed_request_settles (quiet : schema.Quiet) (scalars : Bool)
    (converters : List (TypeRef × Converter α)) (ops : List (Operation α))
    (asks : ∀ op ∈ ops, op.asks) (names : List String) (key : Key) (e : BuildError)
    (failed : (((create scalars converters).run schema ops).ask schema names key).1 = .error e) :
    let before := (create scalars converters).run schema ops
    let after := before.perform schema (.request names key)
    (∃ building,
      Watched.exec (Watched.resolve schema before.generation (schema.fuel key) .start key)
        ⟨names, before, []⟩ =
          (.error (.failed e, building), (before.ask schema names key).2) ∧
      key ∈ building ∧ ∀ k ∈ building, after.cached? k = none) ∧
    (∀ k i, before.cached? k = none → after.cached? k = some i →
      ∀ names', ((create scalars converters).ask schema names' k).1 = .ok i) ∧
    ∀ retries : List (List String), let later := after.run schema (retries.map (.request · key))
      later = after ∧ ∀ names', (later.ask schema names' key).1 = .error e := by
  intro before after
  obtain ⟨building, stopped, own, absent, again⟩ := stopped_of_failed quiet failed
  refine ⟨⟨building, stopped, own, absent⟩, fun k i _ found => ?_, fun retries => ?_⟩
  · have longer : ∀ op ∈ ops ++ [.request names key], op.asks := by
      simpa [Operation.asks, or_imp, forall_and] using asks
    apply ask_of_cached_run quiet scalars converters _ longer
    rwa [run, List.foldl_append]
  · have same : after.run schema (retries.map (.request · key)) = after :=
      run_of_still (fun names' => congrArg (·.2.registry) (again names')) retries
    rw [same]
    exact ⟨rfl, fun names' => congrArg Prod.fst (again names')⟩

/-- A kit of a part and a tool. There is no way to read the handle of the tool. -/
def kits : Schema Unit where
  declarations := [
    { name := "Kit"
      descriptor := {
        pattern := some "(a)(b)"
        constructor := some (.ofTypes [.declared "Part", .declared "Tool"] fun _ => .ok ()) } },
    { name := "Part"
      descriptor := {
        pattern := some "(a)"
        constructor := some (.ofTypes [.scalar .char] fun _ => .ok ()) } },
    { name := "Tool"
      descriptor := {
        pattern := some "(b)"
        constructor := some (.ofTypes [.declared "Handle"] fun _ => .ok ()) } },
    { name := "Handle", descriptor := {} }]

/-- The part is kept, the kit, the tool and the handle are not, and nothing changes from then
on. -/
theorem kit_request_settles :
    let before : Registry Unit := create true []
    let kit : Key := { type := .declared "Kit" }
    let part : Key := { type := .declared "Part" }
    let after := before.perform kits (.request [] kit)
    let e : BuildError := ⟨[.declared "Kit", .declared "Tool", .declared "Handle"],
      .noBinding (.declared "Handle")⟩
    (before.ask kits [] kit).1 = .error e ∧
    (∃ i, after.cached? part = some i ∧ (before.ask kits [] part).1 = .ok i) ∧
    (∀ name ∈ ["Kit", "Tool", "Handle"], after.cached? { type := .declared name } = none) ∧
    ∀ retries : List (List String), let later := after.run kits (retries.map (.request · kit))
      later = after ∧ ∀ names, (later.ask kits names kit).1 = .error e := by
  intro before kit part after e
  have quiet : kits.Quiet := Schema.quiet_of_declarations (by simp [kits])
  have failed : (before.ask kits [] kit).1 = .error e := by cbv
  obtain ⟨⟨building, stopped, _, absent⟩, kept, again⟩ :=
    failed_request_settles quiet true [] [] (by simp) [] kit e failed
  have unfinished : Watched.unfinished (Watched.exec (Watched.resolve kits before.generation
      (kits.fuel kit) .start kit) ⟨[], before, []⟩).1 =
        ["Handle", "Tool", "Kit"].map fun name => { type := .declared name } := by cbv
  obtain ⟨i, found⟩ : ∃ i, after.cached? part = some i :=
    Option.isSome_iff_exists.mp (by unfold after; cbv)
  have fresh : before.cached? part = none := by cbv
  refine ⟨failed, ⟨i, found, kept part i fresh found []⟩, ?_, again⟩
  have same : building = ["Handle", "Tool", "Kit"].map fun name => { type := .declared name } := by
    rw [← unfinished]
    exact (congrArg (Watched.unfinished ·.1) stopped).symm
  intro name member
  apply absent
  rw [same]
  simpa [or_comm, or_left_comm] using member

end Registry

end Construe
