import Construe.Proofs.Fuel

/-! # Resolution follows drafts

With a schema that registers nothing, resolution in a registry answers what the draft says: the
same error, or an interpreter like the draft's. The interpreters that are kept have to be like
drafts themselves; then they stay so, since nothing else is kept. -/
namespace Construe

/-- The same error, or results that are alike. -/
inductive Agree (alike : β → γ → Prop) : Except ε β → Except ε γ → Prop where
  | ok : alike a b → Agree alike (.ok a) (.ok b)
  | error (e : ε) : Agree alike (.error e) (.error e)

theorem Agree.eq {x y : Except ε β} (agree : Agree Eq x y) : x = y := by
  cases agree with
  | ok same => rw [same]
  | error => rfl

theorem Agree.ok_iff {x : Except ε β} {y : Except ε γ} (agree : Agree alike x y) :
    (∃ a, x = .ok a) ↔ ∃ b, y = .ok b := by
  cases agree <;> simp

theorem Agree.settle {x : Except Stop β} {y : Except Stop γ} (agree : Agree alike x y) (key : Key) :
    Agree alike (key.settle x) (key.settle y) := by
  cases agree with
  | ok holds => exact .ok holds
  | error stop => cases stop <;> exact .error _

theorem Agree.outer {x : Except Stop β} {y : Except Stop γ} (agree : Agree alike x y)
    (type : TypeRef) : Agree alike (Build.outer type x) (Build.outer type y) := by
  cases agree with
  | ok holds => exact .ok holds
  | error stop => cases stop <;> exact .error _

namespace Build

/-- From good sessions the step answers like the draft and leaves a good session behind. It may
have to be known that the draft has fuel enough. -/
def Follows (good : Session α → Prop) (strict : Prop) (alike : β → γ → Prop) (step : Build α β)
    (draft : Except Stop γ) : Prop :=
  strict ∨ draft ≠ .error .exhausted →
    ∀ s, good s → Agree alike (exec step s).1 draft ∧ good (exec step s).2

namespace Follows

variable {good : Session α → Prop} {strict : Prop} {alike : β → γ → Prop}

theorem pure (same : alike a b) : Follows good strict alike (pure a) (.ok b) :=
  fun _ _ holds => ⟨.ok same, holds⟩

theorem fail (type : TypeRef) (kind : BuildErrorKind) :
    Follows good strict alike (fail type kind) (Build.fail type kind) :=
  fun _ _ holds => ⟨.error _, holds⟩

theorem exhausted : Follows good strict alike (throw .exhausted) (.error .exhausted) :=
  fun _ _ holds => ⟨.error _, holds⟩

theorem bind {step : Build α β} {draft : Except Stop γ} {next : β → Build α β'}
    {further : γ → Except Stop γ'} {alike' : β' → γ' → Prop}
    (first : Follows good strict alike step draft)
    (rest : ∀ a b, alike a b → draft = .ok b → Follows good strict alike' (next a) (further b)) :
    Follows good strict alike' (step >>= next) (draft >>= further) := by
  intro enough s holds
  have sooner : strict ∨ draft ≠ .error .exhausted := by
    rcases enough with exact | fueled
    · exact .inl exact
    · right
      rintro rfl
      exact fueled rfl
  obtain ⟨same, kept⟩ := first sooner s holds
  rw [exec_bind]
  cases done : exec step s with
  | mk result s' =>
    rw [done] at same kept
    dsimp only at same
    cases same with
    | error stop => exact ⟨.error stop, kept⟩
    | ok holds => exact rest _ _ holds rfl enough s' kept

theorem registry {next : Registry α → Build α β} {draft : Except Stop γ}
    (rest : strict ∨ draft ≠ .error .exhausted → ∀ s, good s →
      Agree alike (exec (next s.registry) s).1 draft ∧ good (exec (next s.registry) s).2) :
    Follows good strict alike (registry >>= next) draft := rest

theorem within {step : Build α β} {draft : Except Stop γ}
    (follows : Follows good strict alike step draft) :
    Follows good strict alike (within type step) (outer type draft) := by
  intro enough s holds
  rw [Ne, outer_eq_exhausted] at enough
  obtain ⟨same, kept⟩ := follows enough s holds
  rw [exec_within]
  exact ⟨same.outer type, kept⟩

theorem mapM {step : δ → Build α β} {draft : δ → Except Stop γ} {xs : List δ}
    (each : ∀ x ∈ xs, Follows good strict alike (step x) (draft x)) :
    Follows good strict (List.Forall₂ alike) (xs.mapM step) (xs.mapM draft) := by
  induction xs with
  | nil => exact pure .nil
  | cons x xs ih =>
    simp only [List.mapM_cons]
    apply (each x (by simp)).bind
    intro y y' first _
    apply (ih fun z member => each z (by simp [member])).bind
    exact fun ys ys' others _ => pure (.cons first others)

theorem compilePattern (type : TypeRef) (source : String) (arity : Nat) :
    Follows good strict Eq (compilePattern type source arity)
      (Build.compilePattern type source arity) := by
  intro _ s holds
  rw [exec_compilePattern]
  refine ⟨?_, holds⟩
  cases (Build.compilePattern type source arity : Except Stop Pattern) with
  | ok p => exact .ok rfl
  | error stop => exact .error stop

theorem compileSeparator (type : TypeRef) (source : String) :
    Follows good strict Eq (compileSeparator type source)
      (Build.compileSeparator type source) := by
  intro _ s holds
  rw [exec_compileSeparator]
  refine ⟨?_, holds⟩
  cases (Build.compileSeparator type source : Except Stop Pattern) with
  | ok p => exact .ok rfl
  | error stop => exact .error stop

end Follows

end Build

/-- Asking for a descriptor registers nothing. -/
def Schema.Quiet (schema : Schema α) : Prop := ∀ type, schema.registrations type = []

theorem Build.Follows.describe {schema : Schema α} {good : Session α → Prop} {strict : Prop}
    {alike : β → γ → Prop} {next : Descriptor α → Build α β} {draft : Except Stop γ}
    (quiet : schema.Quiet) (rest : Follows good strict alike (next (schema.describe type)) draft) :
    Follows good strict alike (describe schema type >>= next) draft := by
  intro enough s holds
  rw [exec_describe, quiet type]
  exact rest enough s holds

/-- A likeness of interpreters and candidates that passes through every way to put them together
from alike parts. -/
structure Likeness (α : Type) where
  interpreter : Interpreter α → Interpreter α → Prop
  candidate : Candidate α → Candidate α → Prop
  converter : interpreter (.converter target convert) (.converter target convert)
  sequence : interpreter item item' →
    interpreter (.sequence target separator item collect) (.sequence target separator item' collect)
  bound : List.Forall₂ interpreter parameters parameters' →
    candidate (.mk pattern matcher parameters construct)
      (.mk pattern matcher parameters' construct)
  candidates : List.Forall₂ candidate inOrder inOrder' →
    interpreter (.candidates target inOrder) (.candidates target inOrder')

namespace Likeness

/-- Only the same interpreters are alike. -/
def same : Likeness α where
  interpreter := Eq
  candidate := Eq
  converter := rfl
  sequence := by
    rintro item _ target separator collect rfl
    rfl
  bound := by
    intro parameters parameters' pattern matcher construct equal
    rw [List.forall₂_eq_eq_eq] at equal
    rw [equal]
  candidates := by
    intro inOrder inOrder' target equal
    rw [List.forall₂_eq_eq_eq] at equal
    rw [equal]

/-- All interpreters are alike: what counts is that there is one. -/
def any : Likeness α where
  interpreter _ _ := True
  candidate _ _ := True
  converter := trivial
  sequence _ := trivial
  bound _ := trivial
  candidates _ := trivial

end Likeness

namespace Draft

open Build

section LeadsTo

variable {schema : Schema α} {serve : Key → Option (Converter α)} {path : Path}

theorem LeadsTo.need (leadsTo : LeadsTo schema serve path a) (leads : schema.Leads serve a b) :
    LeadsTo schema serve path b := fun m member => (leadsTo m member).tail leads

theorem LeadsTo.build (leadsTo : LeadsTo schema serve path (.key key))
    (leads : schema.Leads serve (.key key) b) : LeadsTo schema serve (path.build key) b := by
  intro m member
  rcases Path.mem_nodes_build.mp member with rfl | member
  · exact .single leads
  · exact leadsTo.need leads m member

theorem LeadsTo.unfold (leadsTo : LeadsTo schema serve path (.candidates type))
    (leads : schema.Leads serve (.candidates type) b) :
    LeadsTo schema serve (path.unfold type) b := by
  intro m member
  rcases Path.mem_nodes_unfold.mp member with rfl | member
  · exact .single leads
  · exact leadsTo.need leads m member

end LeadsTo

/-- What makes sessions good: their registry has the converters, keeps nothing but what is like a
draft, and may keep whatever is. -/
structure Guides (like : Likeness α) (schema : Schema α) (serve : Key → Option (Converter α))
    (generation : Nat) (good : Session α → Prop) (strict : Prop) : Prop where
  serves : ∀ {s}, good s → s.registry.converterFor? = serve
  cached : ∀ {s fuel path key i}, good s → s.registry.cached? key = some i →
    LeadsTo schema serve path (.key key) →
    (strict ∨ resolve schema serve fuel path key ≠ .error .exhausted) →
    ∃ draft, resolve schema serve fuel path key = .ok draft ∧ like.interpreter i draft
  kept : ∀ {s fuel path key built draft}, good s → s.registry.generation = generation →
    resolve schema serve fuel path key = .ok draft → like.interpreter built draft →
    good (s.record (.kept key built))

variable {like : Likeness α} {schema : Schema α} {serve : Key → Option (Converter α)}
  {generation : Nat} {good : Session α → Prop} {strict : Prop}

theorem follows_keep (guides : Guides like schema serve generation good strict)
    (leadsTo : LeadsTo schema serve path (.key key))
    (drafted : resolve schema serve fuel path key = .ok draft)
    (alike : like.interpreter built draft) :
    Follows good strict like.interpreter (keep key built generation) (.ok draft) := by
  intro _ s holds
  rw [exec_keep]
  split
  · exact ⟨.ok alike, holds⟩
  · rename_i current
    split
    · rename_i found
      obtain ⟨again, redrafted, alike⟩ :=
        guides.cached holds found leadsTo (.inr (by rw [drafted]; simp))
      cases drafted.symm.trans redrafted
      exact ⟨.ok alike, holds⟩
    · exact ⟨.ok alike, guides.kept holds (not_not.mp current) drafted alike⟩

mutual

theorem follows_resolve (quiet : schema.Quiet)
    (guides : Guides like schema serve generation good strict) :
    ∀ {fuel path key}, LeadsTo schema serve path (.key key) →
      Follows good strict like.interpreter (Construe.resolve schema generation fuel path key)
        (resolve schema serve fuel path key)
  | 0, _, _, _ => .exhausted
  | fuel + 1, path, key, leadsTo => by
    rw [Construe.resolve]
    apply Follows.registry
    intro enough s holds
    split
    · rename_i found
      obtain ⟨draft, drafted, alike⟩ := guides.cached holds found leadsTo enough
      rw [drafted]
      exact ⟨.ok alike, holds⟩
    · have opened := resolve.eq_2 schema serve path key fuel
      split
      · rename_i present
        rw [if_pos present] at opened
        rw [opened]
        exact ⟨.error _, holds⟩
      · rename_i absent
        rw [if_neg absent] at opened
        have built : Follows good strict like.interpreter
            (Construe.resolveNew schema generation fuel (path.build key) key >>=
              fun built => keep key built generation)
            (resolveNew schema serve fuel (path.build key) key >>= .ok) := by
          apply (follows_resolveNew quiet guides fun n leads => leadsTo.build leads).bind
          intro built draft alike drafted
          exact follows_keep guides leadsTo (opened.trans drafted) alike
        have same : resolveNew schema serve fuel (path.build key) key >>= .ok =
            resolve schema serve (fuel + 1) path key := by
          rw [opened]
          cases resolveNew schema serve fuel (path.build key) key <;> rfl
        rw [same] at built
        exact built enough s holds

theorem follows_resolveNew (quiet : schema.Quiet)
    (guides : Guides like schema serve generation good strict) :
    ∀ {fuel path key}, (∀ n, schema.Leads serve (.key key) n → LeadsTo schema serve path n) →
      Follows good strict like.interpreter (Construe.resolveNew schema generation fuel path key)
        (resolveNew schema serve fuel path key)
  | 0, _, _, _ => .exhausted
  | fuel + 1, path, key, leadsTo => by
    rw [Construe.resolveNew, resolveNew]
    apply Follows.registry
    intro enough s holds
    rw [guides.serves holds]
    revert enough s holds
    change Follows good strict like.interpreter _ _
    cases served : serve key with
    | some convert => exact .pure like.converter
    | none =>
      apply Follows.describe quiet
      cases shape : (schema.describe key.type).sequence with
      | some sequence =>
        have leads := leadsTo _ (leads_item served shape)
        apply (Follows.compileSeparator _ _).bind
        rintro splitter _ rfl _
        apply (follows_resolve quiet guides leads).within.bind
        exact fun item item' alike _ => .pure (like.sequence alike)
      | none =>
        cases separator : key.separator with
        | some separator => exact .fail _ _
        | none =>
          cases given : key.pattern with
          | some pattern =>
            cases declared : (schema.describe key.type).constructor with
            | none => exact .fail _ _
            | some constructor =>
              apply (follows_resolveBinding quiet guides fun k asked => leadsTo _
                (leads_explicit served shape separator given declared asked)).bind
              exact fun c c' alike _ => .pure (like.candidates (.cons alike .nil))
          | none =>
            have leads := leadsTo _ (leads_sum served shape separator given)
            apply (follows_unfold quiet guides leads).bind
            intro candidates candidates' alike _
            cases alike with
            | nil =>
              dsimp only
              split <;> exact .fail _ _
            | cons first others => exact .pure (like.candidates (.cons first others))

theorem follows_unfold (quiet : schema.Quiet)
    (guides : Guides like schema serve generation good strict) :
    ∀ {fuel path type wrap}, LeadsTo schema serve path (.candidates type) →
      Follows good strict (List.Forall₂ like.candidate)
        (Construe.unfold schema generation fuel path type (schema.describe type) wrap)
        (unfold schema serve fuel path type wrap)
  | 0, _, _, _, _ => .exhausted
  | fuel + 1, path, type, wrap, leadsTo => by
    have bindings b (declared : b ∈ (schema.describe type).bindings) :
        Follows good strict like.candidate
          (Construe.resolveBinding schema generation fuel path type b wrap)
          (resolveBinding schema serve fuel path type b wrap) :=
      follows_resolveBinding quiet guides fun k asked =>
        leadsTo.need (leads_binding serve declared asked)
    rw [Construe.unfold, unfold]
    split
    · exact .fail _ _
    · split
      · exact .fail _ _
      · apply (Follows.mapM fun b member => bindings b (List.mem_append_left _ member)).bind
        intro own own' first _
        apply (Follows.mapM fun v member => .describe quiet (follows_unfold quiet guides
          (leadsTo.unfold (leads_variant serve member))).within).bind
        intro variants variants' inner _
        apply (Follows.mapM fun b member => bindings b (List.mem_append_right _ member)).bind
        intro alternates alternates' last _
        exact .pure (List.rel_append (List.rel_append first (List.rel_flatten inner)) last)

theorem follows_resolveBinding (quiet : schema.Quiet)
    (guides : Guides like schema serve generation good strict) :
    ∀ {fuel path type b wrap}, (∀ k ∈ b.keys, LeadsTo schema serve path (.key k)) →
      Follows good strict like.candidate
        (Construe.resolveBinding schema generation fuel path type b wrap)
        (resolveBinding schema serve fuel path type b wrap)
  | 0, _, _, _, _, _ => .exhausted
  | fuel + 1, path, type, ⟨pattern, constructor⟩, wrap, leadsTo => by
    rw [Construe.resolveBinding, resolveBinding]
    cases constructor.unknownOptions with
    | cons => exact .fail _ _
    | nil =>
      apply (Follows.compilePattern _ _ _).bind
      rintro matcher _ rfl _
      refine (Follows.mapM fun p declared => ?_).bind fun parameters _ alike _ =>
        .pure (like.bound alike)
      exact (follows_resolve quiet guides (leadsTo p.key (List.mem_map_of_mem declared))).within

end

/-- Every interpreter that is kept is like one that has been drafted at some time. -/
def Kept (like : Likeness α) (schema : Schema α) (serve : Key → Option (Converter α))
    (r : Registry α) : Prop :=
  r.Keeps fun key i =>
    ∃ fuel path draft, resolve schema serve fuel path key = .ok draft ∧ like.interpreter i draft

/-- A registry that keeps only what is like a draft guides resolution, wherever fuel suffices. -/
theorem guides_kept (like : Likeness α) (schema : Schema α)
    (serve : Key → Option (Converter α)) (generation : Nat) :
    Guides like schema serve generation
      (fun s => s.registry.converterFor? = serve ∧ Kept like schema serve s.registry) False where
  serves := And.left
  cached := by
    intro s fuel path key i holds found leadsTo enough
    obtain ⟨_, _, draft, drafted, alike⟩ := holds.2 key i found
    exact ⟨draft, resolve_of_resolve drafted leadsTo (enough.resolve_left not_false), alike⟩
  kept := fun holds _ drafted alike => ⟨holds.1, holds.2.keep ⟨_, _, _, drafted, alike⟩⟩

/-- An outdated request of an empty registry is its draft, step by step. -/
theorem guides_outdated (schema : Schema α) (serve : Key → Option (Converter α))
    (generation : Nat) :
    Guides .same schema serve generation (fun s => s.registry.converterFor? = serve ∧
      s.registry.cache = [] ∧ s.registry.generation ≠ generation) True where
  serves := And.left
  cached := by
    intro s fuel path key i holds found
    simp [Registry.cached?, holds.2.1] at found
  kept := fun holds current => absurd current holds.2.2

theorem leadsTo_start : LeadsTo schema serve .start n := by
  intro m member
  simp [Path.nodes, Path.start] at member

/-- The draft of a request has fuel enough. -/
theorem resolve_ne_exhausted (quiet : schema.Quiet) (r : Registry α) (key : Key) :
    resolve schema r.converterFor? (schema.fuel key) .start key ≠ .error .exhausted := by
  let s : Session α := ⟨[], ⟨[], r.converters, 0⟩, []⟩
  have follows : Follows _ True Eq (Construe.resolve schema 1 (schema.fuel key) .start key) _ :=
    follows_resolve quiet (guides_outdated schema r.converterFor? 1) leadsTo_start
  have agree := (follows (.inl trivial) s ⟨rfl, rfl, Nat.zero_ne_one⟩).1
  rw [← agree.eq]
  exact total_request schema 1 key s

end Draft

/-- What a request answers, by the declarations and the converters alone. -/
def Schema.answer (schema : Schema α) (serve : Key → Option (Converter α)) (key : Key) :
    Except BuildError (Interpreter α) :=
  key.settle (Draft.resolve schema serve (schema.fuel key) .start key)

/-- An interpreter that was drafted once, on whatever path, is the answer. -/
theorem Schema.answer_of_resolve {schema : Schema α} (quiet : schema.Quiet) {r : Registry α}
    {fuel : Nat}
    (drafted : Draft.resolve schema r.converterFor? fuel path key = .ok i) :
    schema.answer r.converterFor? key = .ok i := by
  have enough := Draft.resolve_ne_exhausted quiet r key
  rw [answer, Draft.resolve_of_resolve drafted Draft.leadsTo_start enough]
  rfl

/-- A request of a registry that keeps only what is like a draft answers like the declarations and
the converters alone, and leaves such a registry with the same converters behind. -/
theorem request_of_kept {like : Likeness α} {schema : Schema α} {s : Session α}
    (quiet : schema.Quiet) (kept : Draft.Kept like schema s.registry.converterFor? s.registry)
    (key : Key) :
    Agree like.interpreter (Session.request schema key s).1
      (schema.answer s.registry.converterFor? key) ∧
    (Session.request schema key s).2.registry.converterFor? = s.registry.converterFor? ∧
    Draft.Kept like schema s.registry.converterFor? (Session.request schema key s).2.registry := by
  have follows := Draft.follows_resolve quiet
    (Draft.guides_kept like schema s.registry.converterFor? s.registry.generation)
    Draft.leadsTo_start (.inr (Draft.resolve_ne_exhausted quiet s.registry key)) s ⟨rfl, kept⟩
  exact ⟨follows.1.settle key, follows.2⟩

end Construe
