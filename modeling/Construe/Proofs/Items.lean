import Construe.Proofs.Filling
import Construe.Proofs.Stability
import Construe.Proofs.Termination
import Construe.Proofs.Keywords
import Construe.Proofs.Pattern.Pieces

/-! # Lists are built on their items

A request for a list asks for its item below the list. The item is built there just as it is built
on its own: it cannot need the list, which needs it. So a list can be built whenever its item can,
unless it has a converter, and it is built on the interpreter that a request for the item answers
with. A list that is kept stays on the interpreter that was kept for its item at the time. -/
namespace Construe

theorem TypeRef.ne_list (type : TypeRef) : type ≠ .list type := by
  intro same
  have := congrArg sizeOf same
  simp at this

namespace Session

variable {s : Session α} {keys : List Key}

theorem Lacks.perform (lacks : s.Lacks keys) (r : Registration α) : (s.perform r).Lacks keys := by
  intro key member
  unfold Session.perform
  split
  · show (s.registry.register _ _).cached? key = none
    rw [Registry.cached?_register, lacks key member, ite_self]
  · exact lacks key member

theorem Lacks.performAll (lacks : s.Lacks keys) (rs : List (Registration α)) :
    (rs.foldl Session.perform s).Lacks keys := by
  induction rs generalizing s with
  | nil => exact lacks
  | cons r rs ih => exact ih (lacks.perform r)

end Session

/-- The interpreter of a list without a separator of its own, on that of its item. -/
def Interpreter.listOf (item : TypeRef) (i : Interpreter α) : Interpreter α :=
  .sequence (.list item) Pattern.defaultSplitter i (Sequence.collect ⟨item, .list item⟩)

/-- The path as it is below a request for `key`. -/
def Path.beyond (path : Path) (key : Key) : Path := { path with building := path.building ++ [key] }

namespace Build

/-! ### The same steps below the list -/

theorem converter?_exec_keep (key : Key) (built : Interpreter α) (generation : Nat)
    (s : Session α) :
    (exec (keep key built generation) s).2.registry.converter? = s.registry.converter? := by
  rw [exec_keep]
  split
  · rfl
  · split <;> rfl

/-- Keeping leaves the session alone, or adds the one interpreter that it gives. -/
theorem keep_eq_ok {s t : Session α} {key : Key} {built i : Interpreter α} {generation : Nat}
    (done : exec (keep key built generation) s = (.ok i, t)) :
    t = s ∧ (s.registry.generation = generation → s.registry.cached? key = some i) ∨
      t = s.record (.kept key i) := by
  rw [exec_keep] at done
  split at done
  · rename_i outdated
    cases done
    exact .inl ⟨rfl, fun live => absurd live outdated⟩
  · split at done
    · rename_i found
      cases done
      exact .inl ⟨rfl, fun _ => found⟩
    · cases done
      exact .inr rfl

/-- Wherever the first step succeeds and leaves the list without a converter, the second one does
the same. Neither the item nor the list gets an interpreter. -/
structure Mirrors (item : TypeRef) (s : Session α) (step below : Build α β) : Prop where
  back : (exec step s).2.registry.converter? (.list item) = none →
    s.registry.converter? (.list item) = none
  same : ∀ a t, s.Lacks [{ type := item }, { type := .list item }] → exec step s = (.ok a, t) →
    t.registry.converter? (.list item) = none →
    t.Lacks [{ type := item }, { type := .list item }] ∧ exec below s = (.ok a, t)

namespace Mirrors

variable {item : TypeRef} {s : Session α}

/-- A step that leaves the session alone. -/
theorem still {step : Build α β} (still : (exec step s).2 = s) : Mirrors item s step step where
  back free := still ▸ free
  same a t lacks done _ := by
    have unchanged : t = s := by simpa [done] using still
    subst unchanged
    exact ⟨lacks, done⟩

theorem stops {step below : Build α β} (stops : ∃ stop, exec step s = (.error stop, s)) :
    Mirrors item s step below := by
  obtain ⟨stop, stopped⟩ := stops
  refine ⟨fun free => ?_, fun a t _ done => ?_⟩
  · rwa [stopped] at free
  · rw [stopped] at done
    cases done

theorem bind {step below : Build α β} {next next' : β → Build α γ}
    (first : Mirrors item s step below) (rest : ∀ a t, Mirrors item t (next a) (next' a)) :
    Mirrors item s (step >>= next) (below >>= next') where
  back free := by
    apply first.back
    rw [exec_bind] at free
    cases begun : exec step s with
    | mk result t =>
      rw [begun] at free
      cases result with
      | error stop => exact free
      | ok a => exact (rest a t).back free
  same c u lacks done free := by
    obtain ⟨a, t, begun, ended⟩ := exec_bind_eq_ok.mp done
    have middle : t.registry.converter? (.list item) = none :=
      (rest a t).back (by rwa [ended])
    obtain ⟨lacks, begun⟩ := first.same a t lacks begun middle
    obtain ⟨lacks, ended⟩ := (rest a t).same c u lacks ended free
    exact ⟨lacks, exec_bind_eq_ok.mpr ⟨a, t, begun, ended⟩⟩

theorem within {step below : Build α β} (mirrors : Mirrors item s step below) :
    Mirrors item s (within type step) (within type below) where
  back free := mirrors.back (by rwa [exec_within] at free)
  same a t lacks done free := by
    rw [exec_within, Prod.mk.injEq, outer_eq_ok] at done
    obtain ⟨lacks, same⟩ := mirrors.same a t lacks (Prod.ext done.1 done.2) free
    exact ⟨lacks, by rw [exec_within, same]; rfl⟩

theorem mapM {step below : γ → Build α β} {xs : List γ}
    (each : ∀ x ∈ xs, ∀ s, Mirrors item s (step x) (below x)) :
    Mirrors item s (xs.mapM step) (xs.mapM below) :=
  mapM_related (R := fun step below => ∀ s, Mirrors item s step below) (fun _ _ => .still rfl)
    (fun first rest s => (first s).bind rest) each s

theorem registry {next next' : Registry α → Build α β}
    (rest : Mirrors item s (next s.registry) (next' s.registry)) :
    Mirrors item s (registry >>= next) (registry >>= next') := ⟨rest.back, rest.same⟩

theorem describe {schema : Schema α} {next next' : Descriptor α → Build α β}
    (rest : ∀ s, Mirrors item s (next (schema.describe type)) (next' (schema.describe type))) :
    Mirrors item s (describe schema type >>= next) (describe schema type >>= next') where
  back free := by
    have later := (rest ((schema.registrations type).foldl .perform s)).back free
    rw [← Option.not_isSome_iff_eq_none] at later ⊢
    exact fun served => later (Registry.isSome_converter?_performAll _ served)
  same a t lacks done free :=
    (rest ((schema.registrations type).foldl .perform s)).same a t (lacks.performAll _) done free

theorem keep (other : key ∉ [{ type := item }, { type := .list item }]) (built : Interpreter α)
    (generation : Nat) :
    Mirrors item s (Build.keep key built generation) (Build.keep key built generation) where
  back free := by rwa [converter?_exec_keep] at free
  same i t lacks done _ := by
    refine ⟨?_, done⟩
    obtain ⟨rfl, -⟩ | rfl := keep_eq_ok done
    · exact lacks
    · exact lacks.kept other i

end Mirrors

variable {schema : Schema α} {generation : Nat} {item : TypeRef}

/-- A list that has no converter in the end is built on what its item is resolved to. -/
theorem resolveNew_list_eq_ok {path : Path}
    (done : exec (resolveNew schema generation fuel path { type := .list item }) s =
      (.ok built, t))
    (free : t.registry.converter? (.list item) = none) : ∃ fewer i,
      exec (resolve schema generation fewer path { type := item }) s = (.ok i, t) ∧
        built = .listOf item i := by
  cases fuel with
  | zero => cases done
  | succ fuel =>
    rw [resolveNew, exec_registry, Registry.converterFor?_plain] at done
    cases served : s.registry.converter? (.list item) with
    | some convert =>
      rw [served] at done
      cases done
      rw [served] at free
      contradiction
    | none =>
      rw [served, exec_describe] at done
      obtain ⟨splitter, u, compiled, done⟩ := exec_bind_eq_ok.mp done
      obtain ⟨i, v, resolved, done⟩ := exec_bind_eq_ok.mp done
      rw [exec_compileSeparator] at compiled
      have default : splitter = Pattern.defaultSplitter := by
        have compiled := compileSeparator_eq_ok.mp (congrArg Prod.fst compiled)
        exact Except.ok.inj (compiled.symm.trans Pattern.ofString_defaultSeparator)
      cases done
      obtain rfl : u = s := (congrArg Prod.snd compiled).symm
      rw [exec_within, Prod.mk.injEq, outer_eq_ok] at resolved
      exact ⟨fuel, i, Prod.ext resolved.1 resolved.2, by rw [default]; rfl⟩

/-- While its item is being built, a list cannot be built. -/
theorem not_resolveNew_list {path : Path} (inside : { type := item } ∈ path.building)
    (lacks : s.Lacks [{ type := item }, { type := .list item }])
    (free : t.registry.converter? (.list item) = none) :
    exec (resolveNew schema generation fuel path { type := .list item }) s ≠ (.ok a, t) := by
  intro done
  obtain ⟨fewer, i, resolved, -⟩ := resolveNew_list_eq_ok done free
  have absent : s.registry.cached? { type := item } = none := lacks _ List.mem_cons_self
  cases fewer with
  | zero => cases resolved
  | succ fewer =>
    rw [resolve, exec_registry, absent] at resolved
    simp [inside, exec_fail] at resolved

mutual

theorem mirrors_resolve : ∀ {fuel path key s}, { type := item } ∈ path.building →
    Mirrors item s (resolve schema generation fuel path key)
      (resolve schema generation fuel (path.beyond { type := .list item }) key)
  | 0, _, _, _, _ => .stops ⟨_, rfl⟩
  | fuel + 1, path, key, s, inside => by
    rw [resolve, resolve]
    apply Mirrors.registry
    cases found : s.registry.cached? key with
    | some kept => exact .still rfl
    | none =>
      by_cases present : key ∈ path.building
      · exact .stops ⟨_, by simp [present]; rfl⟩
      · have inner : { type := item } ∈ (path.build key).building := List.mem_cons_of_mem _ inside
        have steps : Mirrors item s (resolveNew schema generation fuel (path.build key) key)
            (resolveNew schema generation fuel ((path.build key).beyond { type := .list item })
              key) :=
          mirrors_resolveNew inner
        by_cases self : key = { type := .list item }
        · subst self
          rw [if_neg present]
          refine ⟨fun free => steps.back ?_, fun a t lacks done free => ?_⟩
          · rw [exec_bind] at free
            cases begun : exec (resolveNew schema generation fuel _ { type := .list item }) s with
            | mk result u =>
              rw [begun] at free
              cases result with
              | error => exact free
              | ok built => rwa [converter?_exec_keep] at free
          · obtain ⟨built, u, begun, kept⟩ := exec_bind_eq_ok.mp done
            have free : u.registry.converter? (.list item) = none := by
              rw [← converter?_exec_keep { type := .list item } built generation, kept]
              exact free
            exact absurd begun (not_resolveNew_list inner lacks free)
        · have other : key ∉ [{ type := item }, { type := .list item }] := by
            have apart : key ≠ { type := item } := fun same => present (same ▸ inside)
            simp [apart, self]
          have outside : key ∉ (path.beyond { type := .list item }).building := by
            simp [Path.beyond, present, self]
          simp only [present, outside, if_false]
          exact steps.bind fun built t => .keep other built generation

theorem mirrors_resolveNew : ∀ {fuel path key s}, { type := item } ∈ path.building →
    Mirrors item s (resolveNew schema generation fuel path key)
      (resolveNew schema generation fuel (path.beyond { type := .list item }) key)
  | 0, _, _, _, _ => .stops ⟨_, rfl⟩
  | fuel + 1, path, key, s, inside => by
    rw [resolveNew, resolveNew]
    apply Mirrors.registry
    split
    · exact .still rfl
    · apply Mirrors.describe
      intro s
      split
      · apply (Mirrors.still (by rw [exec_compileSeparator])).bind
        intro splitter t
        exact (mirrors_resolve inside).within.bind fun _ _ => .still rfl
      · exact .still rfl
      · split
        · exact .still rfl
        · exact (mirrors_resolveBinding inside).bind fun _ _ => .still rfl
      · apply (mirrors_unfold inside).bind
        intro candidates t
        refine .still ?_
        split
        · split <;> rfl
        · rfl

theorem mirrors_unfold : ∀ {fuel path type descriptor wrap s}, { type := item } ∈ path.building →
    Mirrors item s (unfold schema generation fuel path type descriptor wrap)
      (unfold schema generation fuel (path.beyond { type := .list item }) type descriptor wrap)
  | 0, _, _, _, _, _, _ => .stops ⟨_, rfl⟩
  | fuel + 1, path, type, descriptor, wrap, s, inside => by
    rw [unfold, unfold]
    by_cases cyclic : type ∈ path.unfolding
    · exact .stops ⟨_, by rw [if_pos cyclic]; rfl⟩
    · have cyclic' : type ∉ (path.beyond { type := .list item }).unfolding := cyclic
      rw [if_neg cyclic, if_neg cyclic']
      split
      · exact .still rfl
      · apply (Mirrors.mapM fun b _ s => mirrors_resolveBinding inside).bind
        intro own t
        have inside' : { type := item } ∈ (path.unfold type).building := inside
        apply (Mirrors.mapM fun v _ s => .describe fun s => (mirrors_unfold inside').within).bind
        intro variants t
        exact (Mirrors.mapM fun b _ s => mirrors_resolveBinding inside).bind fun _ _ => .still rfl

theorem mirrors_resolveBinding : ∀ {fuel path type b wrap s}, { type := item } ∈ path.building →
    Mirrors item s (resolveBinding schema generation fuel path type b wrap)
      (resolveBinding schema generation fuel (path.beyond { type := .list item }) type b wrap)
  | 0, _, _, _, _, _, _ => .stops ⟨_, rfl⟩
  | fuel + 1, path, type, ⟨pattern, constructor⟩, wrap, s, inside => by
    rw [resolveBinding, resolveBinding]
    split
    · exact .still rfl
    · apply (Mirrors.still (by rw [exec_compilePattern])).bind
      intro matcher t
      exact (Mirrors.mapM fun p _ s => (mirrors_resolve inside).within).bind fun _ _ => .still rfl

end

/-- Below a request for the list, the item is resolved as it is on its own. -/
theorem resolve_below_list (absent : s.registry.cached? { type := .list item } = none)
    (done : exec (resolve schema generation (fuel + 1) .start { type := item }) s = (.ok i, t))
    (free : t.registry.converter? (.list item) = none) :
    exec (resolve schema generation (fuel + 1) (Path.start.build { type := .list item })
      { type := item }) s = (.ok i, t) ∧
    s.registry.converter? (.list item) = none ∧
    t.registry.cached? { type := .list item } = none := by
  rcases resolve_eq_ok done with ⟨found, rfl⟩ | ⟨vacant, done⟩
  · exact ⟨resolve_of_cached found _ _ _, free, absent⟩
  · obtain ⟨built, u, begun, kept⟩ := exec_bind_eq_ok.mp done
    have free : u.registry.converter? (.list item) = none := by
      rw [← converter?_exec_keep { type := item } built generation, kept]
      exact free
    have lacks : s.Lacks [{ type := item }, { type := .list item }] := by
      simpa [Session.Lacks] using ⟨vacant, absent⟩
    have steps : Mirrors item s
        (resolveNew schema generation fuel (Path.start.build { type := item }) { type := item })
        (resolveNew schema generation fuel
          ((Path.start.build { type := .list item }).build { type := item }) { type := item }) :=
      mirrors_resolveNew List.mem_cons_self
    obtain ⟨lacks, below⟩ := steps.same built u lacks begun free
    have apart : ({ type := item } : Key) ≠ { type := .list item } := by
      simpa using item.ne_list
    refine ⟨?_, steps.back (by rwa [begun]), ?_⟩
    · have outside : { type := item } ∉ (Path.start.build { type := .list item }).building := by
        simpa [Path.build, Path.start] using item.ne_list
      rw [resolve, exec_registry, vacant]
      simp only [outside, if_false]
      exact exec_bind_eq_ok.mpr ⟨built, u, below, kept⟩
    · have still : u.registry.cached? { type := .list item } = none :=
        lacks _ (List.mem_cons_of_mem _ List.mem_cons_self)
      obtain ⟨rfl, -⟩ | rfl := keep_eq_ok kept
      · exact still
      · simp [Session.record, Registry.apply, apart.symm, still]

end Build

namespace Registry

open Build

variable {schema : Schema α} {r : Registry α} {item : TypeRef}

/-- A list that has neither an interpreter nor a converter is built on what a request for its item
answers with. -/
theorem ask_list (absent : r.cached? { type := .list item } = none)
    (answered : (r.ask schema names { type := item }).1 = .ok i)
    (free : (r.ask schema names { type := item }).2.registry.converter? (.list item) = none) :
    (r.ask schema names { type := .list item }).1 = .ok (.listOf item i) := by
  let s : Session α := ⟨names, r, []⟩
  obtain ⟨more, enough⟩ : ∃ more, schema.fuel { type := .list item } = more + 2 := ⟨_, rfl⟩
  obtain ⟨few, some⟩ : ∃ few, schema.fuel { type := item } = few + 1 := ⟨_, rfl⟩
  have alone : exec (resolve schema r.generation (few + more + 1) .start { type := item }) s =
      (.ok i, (r.ask schema names { type := item }).2) := by
    have ends := total_request schema r.generation { type := item } s
    rw [extends_resolve (by omega) s ends]
    exact Prod.ext (settle_eq_ok.mp answered) rfl
  obtain ⟨below, free, vacant⟩ := resolve_below_list absent alone free
  have built : exec (resolveNew schema r.generation (few + more + 2)
      (Path.start.build { type := .list item }) { type := .list item }) s =
        (.ok (.listOf item i), (r.ask schema names { type := item }).2) := by
    rw [resolveNew, exec_registry, converterFor?_plain, free, exec_describe]
    refine exec_bind_eq_ok.mpr ⟨Pattern.defaultSplitter, s, ?_, ?_⟩
    · rw [exec_compileSeparator]
      exact Prod.ext (compileSeparator_eq_ok.mpr Pattern.ofString_defaultSeparator) rfl
    · refine exec_bind_eq_ok.mpr ⟨i, _, ?_, rfl⟩
      rw [exec_within, below]
      rfl
  have ends := total_request schema r.generation { type := .list item } s
  have within : schema.fuel { type := .list item } ≤ few + more + 3 := by omega
  have whole : exec (resolve schema r.generation (schema.fuel { type := .list item }) .start
      { type := .list item }) s =
      exec (Build.keep { type := .list item } (.listOf item i) r.generation)
        (r.ask schema names { type := item }).2 := by
    rw [← extends_resolve within s ends, resolve, exec_registry, absent]
    simp only [Path.start, List.not_mem_nil, if_false]
    rw [exec_bind]
    simp only [Path.start] at built
    rw [built]
  rw [ask, request_eq, settle_eq_ok]
  show (exec (resolve schema r.generation _ _ _) s).1 = _
  rw [whole, exec_keep, vacant]
  split <;> rfl

end Registry

/-! ### Lists that are kept -/

/-- The event keeps a list on the interpreter that is kept for its item. -/
def Registry.Grounds (r : Registry α) (e : Event α) : Prop :=
  ∀ item l, e = .kept { type := .list item } l → r.converter? (.list item) = none →
    ∃ j, l = .listOf item j ∧ r.cached? { type := item } = some j

namespace Build

variable {schema : Schema α} {generation : Nat} {session : Session α → Prop}

/-- As long as the generation lasts, what a key is resolved to is kept for it. -/
theorem cached_of_resolve
    (done : exec (resolve schema generation fuel path key) s = (.ok i, t))
    (live : t.registry.generation = generation) : t.registry.cached? key = some i := by
  cases fuel with
  | zero => cases done
  | succ fuel =>
    rcases resolve_eq_ok done with ⟨found, rfl⟩ | ⟨_, done⟩
    · exact found
    · obtain ⟨built, u, _, kept⟩ := exec_bind_eq_ok.mp done
      obtain ⟨rfl, found⟩ | rfl := keep_eq_ok kept
      · exact found live
      · simp [Session.record, Registry.apply]

/-- A list that is built without a converter is built on what is kept for its item. -/
theorem grounds_of_resolveNew
    (done : exec (resolveNew schema generation fuel path key) s = (.ok built, t))
    (live : t.registry.generation = generation) : t.registry.Grounds (.kept key built) := by
  rintro item l same free
  cases same
  obtain ⟨fewer, i, resolved, same⟩ := resolveNew_list_eq_ok done free
  exact ⟨i, same, cached_of_resolve resolved live⟩

end Build

namespace Registry

variable {schema : Schema α} {r : Registry α} {events : List (Event α)}

/-- An interpreter is kept for the item, and then the list on it. -/
def laid (item : TypeRef) (i : Interpreter α) : List (Event α) :=
  [.kept { type := item } i, .kept { type := .list item } (.listOf item i)]

/-- Every list that is kept without a converter was laid on the interpreter that is still kept for
its item, or for which a converter was registered since. -/
structure Founded (r : Registry α) (events : List (Event α)) : Prop where
  kept : r.cached? key = some i → .kept key i ∈ events
  lists : r.cached? { type := .list item } = some l → r.converter? (.list item) = none →
    ∃ j, l = .listOf item j ∧ (laid item j).Sublist events ∧ (r.cached? { type := item } = some j ∨
      ∃ convert, (laid item j ++ [Event.registered item convert]).Sublist events)

namespace Founded

theorem create (scalars : Bool) (converters : List (TypeRef × Converter α)) :
    (create scalars converters).Founded [] where
  kept found := by simp [cached?, create_cache] at found
  lists found := by simp [cached?, create_cache] at found

theorem register (founded : r.Founded events) (type : TypeRef) (convert : Converter α) :
    (r.register type convert).Founded (events ++ [.registered type convert]) where
  kept found := by
    rw [cached?_register] at found
    split at found
    · contradiction
    · exact List.mem_append_left _ (founded.kept found)
  lists := by
    intro item l found free
    rw [cached?_register] at found
    rw [converter?_register] at free
    split at found
    · contradiction
    · split at free
      · contradiction
      · obtain ⟨j, same, order, held | ⟨convert', late⟩⟩ := founded.lists found free
        · refine ⟨j, same, order.trans (List.sublist_append_left _ _), ?_⟩
          by_cases hit : item = type
          · subst hit
            exact .inr ⟨convert, order.append (.refl _)⟩
          · exact .inl (by simp [hit, held])
        · exact ⟨j, same, order.trans (List.sublist_append_left _ _),
            .inr ⟨convert', late.trans (List.sublist_append_left _ _)⟩⟩

theorem keep (founded : r.Founded events) (absent : r.cached? key = none)
    (grounds : r.Grounds (.kept key built)) :
    (r.keep key built).Founded (events ++ [.kept key built]) where
  kept := by
    intro k i found
    rw [cached?_keep] at found
    split at found
    · cases found
      simp_all
    · exact List.mem_append_left _ (founded.kept found)
  lists := by
    intro item l found free
    rw [cached?_keep] at found ⊢
    have free : r.converter? (.list item) = none := free
    split at found
    · rename_i same
      subst same
      cases found
      obtain ⟨j, same, held⟩ := grounds item _ rfl free
      have apart : ({ type := item } : Key) ≠ { type := .list item } := by
        simpa using item.ne_list
      refine ⟨j, same, ?_, .inl (by rw [if_neg apart]; exact held)⟩
      rw [same]
      exact (List.singleton_sublist.mpr (founded.kept held)).append (.refl _)
    · obtain ⟨j, same, order, held | ⟨convert, late⟩⟩ := founded.lists found free
      · have other : { type := item } ≠ key := by
          rintro rfl
          simp [held] at absent
        exact ⟨j, same, order.trans (List.sublist_append_left _ _),
          .inl (by rw [if_neg other]; exact held)⟩
      · exact ⟨j, same, order.trans (List.sublist_append_left _ _),
          .inr ⟨convert, late.trans (List.sublist_append_left _ _)⟩⟩

theorem passedOn (founded : r.Founded events) (change : Registration α) :
    r.Founded (events ++ [.passedOn change]) where
  kept found := List.mem_append_left _ (founded.kept found)
  lists found free := by
    obtain ⟨j, same, order, held | ⟨convert, late⟩⟩ := founded.lists found free
    · exact ⟨j, same, order.trans (List.sublist_append_left _ _), .inl held⟩
    · exact ⟨j, same, order.trans (List.sublist_append_left _ _),
        .inr ⟨convert, late.trans (List.sublist_append_left _ _)⟩⟩

theorem performAll (changes : List (Registration α)) : ∀ {s : Session α},
    s.registry.Founded (past ++ s.journal) →
    (changes.foldl Session.perform s).registry.Founded
      (past ++ (changes.foldl Session.perform s).journal) := by
  induction changes with
  | nil => exact fun founded => founded
  | cons change changes ih =>
    intro s founded
    refine ih ?_
    unfold Session.perform
    split <;> rw [Session.record, ← List.append_assoc]
    · exact founded.register _ _
    · exact founded.passedOn change

theorem lasts (schema : Schema α) (generation : Nat) (start : Node) (past : List (Event α)) :
    Build.Lasts schema generation start fun s => s.registry.Founded (past ++ s.journal) := by
  intro s t turn founded
  cases turn with
  | describe => exact performAll _ founded
  | keep live absent build =>
    rw [Session.record, ← List.append_assoc]
    exact founded.keep absent (Build.grounds_of_resolveNew build live)

theorem perform (founded : r.Founded past) (op : Operation α) :
    (r.perform schema op).Founded (past ++ r.events schema op) := by
  cases op with
  | register type convert => exact founded.register type convert
  | request names key =>
    have start : r.Founded (past ++ []) := by rwa [List.append_nil]
    rw [Registry.perform, Registry.events, ask, Build.request_eq]
    have lasts := Founded.lasts schema r.generation (.key key) past
    exact Build.preserves_resolve lasts .refl ⟨names, r, []⟩ start

theorem run (ops : List (Operation α)) : ∀ {r : Registry α} {past : List (Event α)},
    r.Founded past → (r.run schema ops).Founded (past ++ r.history schema ops) := by
  induction ops with
  | nil =>
    intro r past founded
    rwa [history, List.append_nil]
  | cons op ops ih =>
    intro r past founded
    rw [history, ← List.append_assoc]
    exact ih (founded.perform op)

end Founded

/-- Converters are replaced, but never taken away. -/
theorem isSome_converter?_replay {type : TypeRef} (served : (r.converter? type).isSome) :
    ((r.replay events).converter? type).isSome := by
  induction events generalizing r with
  | nil => exact served
  | cons e events ih =>
    refine ih ?_
    cases e with
    | registered t convert =>
      rw [apply, converter?_register]
      split
      · rfl
      · exact served
    | kept | passedOn => exact served

/-- Whatever has happened before, a list without a converter can be built if its item can. It is
built on what a request for the item answers with, unless it has been kept since before a converter
was registered for the item. -/
theorem ask_list_run (schema : Schema α) (scalars : Bool)
    (converters : List (TypeRef × Converter α)) (ops : List (Operation α)) (names : List String)
    {item : TypeRef} {i : Interpreter α}
    (answered : (((create scalars converters).run schema ops).ask schema names
      { type := item }).1 = .ok i)
    (free : (((create scalars converters).run schema ops).ask schema names
      { type := item }).2.registry.converter? (.list item) = none) :
    ∃ j, (((create scalars converters).run schema ops).ask schema names
        { type := .list item }).1 = .ok (.listOf item j) ∧
      (j = i ∨ ∃ convert, (laid item j ++ [Event.registered item convert]).Sublist
        ((create scalars converters).history schema ops)) := by
  let r := (create scalars converters).run schema ops
  cases found : r.cached? { type := .list item } with
  | none => exact ⟨i, ask_list found answered free, .inl rfl⟩
  | some l =>
    have founded : r.Founded ((create scalars converters).history schema ops) :=
      (Founded.create scalars converters).run ops
    have before : r.converter? (.list item) = none := by
      rw [← replay_journal] at free
      rw [← Option.not_isSome_iff_eq_none] at free ⊢
      exact fun served => free (isSome_converter?_replay served)
    obtain ⟨j, rfl, -, held | late⟩ := founded.lists found before
    · have same := (congrArg Prod.fst (ask_of_cached held names)).symm.trans answered
      exact ⟨j, congrArg Prod.fst (ask_of_cached found names), .inl (Except.ok.inj same)⟩
    · exact ⟨j, congrArg Prod.fst (ask_of_cached found names), .inr late⟩

end Registry

end Construe
