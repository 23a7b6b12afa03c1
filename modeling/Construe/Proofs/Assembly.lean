import Construe.Proofs.Building

/-! # What interpreters are made of

`Assembled` says what an interpreter of a key consists of, in terms of what is known of its direct
parts. An account claims something of sessions and of interpreters; if the claims pass through
registrations, through assembling and through keeping, they hold of all that a request does,
also where descriptors register converters in the middle of it. -/
namespace Construe

/-- A candidate made from a binding, with an interpreter for every parameter. -/
inductive Bound (part : Key → Interpreter α → Prop) (type : TypeRef) (wrap : Wrap α) :
    Binding α → Candidate α → Prop where
  | intro : Pattern.whole b.pattern b.constructor.arity = .ok matcher →
      List.Forall₂ (fun p i => part p.key i) b.constructor.params parameters →
      Bound part type wrap b (.mk b.pattern matcher parameters (b.constructor.chain type wrap))

/-- The candidates of a type: its own binding, those of its variants, its alternates. -/
inductive Offered (schema : Schema α) (part : Key → Interpreter α → Prop) :
    TypeRef → Wrap α → List (Candidate α) → Prop where
  | intro {own : List (Candidate α)} {inner : List (List (Candidate α))}
      {alternates : List (Candidate α)} :
      List.Forall₂ (Bound part type wrap) (schema.describe type).ownBinding?.toList own →
      (schema.describe type).variants.length = inner.length →
      (∀ x ∈ (schema.describe type).variants.zip inner,
        Offered schema part x.1.type (x.1.chain type wrap) x.2) →
      List.Forall₂ (Bound part type wrap) (schema.describe type).alternates alternates →
      Offered schema part type wrap (own ++ inner.flatten ++ alternates)

/-- An interpreter as it is built for a key. `serves` tells which converter, if any, was found for
a key at the time, and `part` what is known of the interpreters it is put together from. -/
inductive Assembled (schema : Schema α) (serves : Key → Option (Converter α) → Prop)
    (part : Key → Interpreter α → Prop) (key : Key) : Interpreter α → Prop where
  | converter : serves key (some convert) →
      Assembled schema serves part key (.converter key.type convert)
  | sequence {sequence : Sequence α} :
      serves key none → (schema.describe key.type).sequence = some sequence →
      Pattern.ofString (key.separator.getD defaultSeparator) = .ok splitter →
      part ⟨sequence.item, key.pattern, none⟩ item →
      Assembled schema serves part key (.sequence key.type splitter item sequence.collect)
  | explicit : serves key none → (schema.describe key.type).sequence = none →
      key.separator = none → key.pattern = some pattern →
      (schema.describe key.type).constructor = some constructor →
      Bound part key.type .ok ⟨pattern, constructor⟩ candidate →
      Assembled schema serves part key (.candidates key.type [candidate])
  | sum : serves key none → (schema.describe key.type).sequence = none →
      key.separator = none → key.pattern = none → Offered schema part key.type .ok candidates →
      candidates ≠ [] → Assembled schema serves part key (.candidates key.type candidates)

theorem Assembled.target (assembled : Assembled schema serves part key i) :
    i.target = key.type := by
  cases assembled <;> rfl

/-! ### Values and liftings -/

/-- A type that makes values is one that is declared. -/
theorem Schema.declared_or_plain (schema : Schema α) (type : TypeRef) :
    .declared type.ownName = type ∨
    (schema.describe type).constructor = none ∧ (schema.describe type).variants = [] ∧
      (schema.describe type).alternates = [] := by
  cases type with
  | scalar | list => exact .inr ⟨rfl, rfl, rfl⟩
  | declared => exact .inl rfl

theorem Constructor.construct_eq_ok {c : Constructor α} :
    c.construct name values = .ok value ↔ ∃ arguments payload,
      takeArguments (c.params.map Param.type) values = .ok arguments ∧
      c.make arguments = .ok payload ∧ value = .made name payload := by
  unfold construct
  simp only [Build.bind_eq_ok, pure, Except.pure, Except.ok.injEq]
  constructor
  · rintro ⟨arguments, taken, payload, made, rfl⟩
    exact ⟨arguments, payload, taken, made, rfl⟩
  · rintro ⟨arguments, payload, taken, made, rfl⟩
    exact ⟨arguments, taken, payload, made, rfl⟩

/-- A value of a type, the items of lists included. -/
inductive Value.HasType : Value α → TypeRef → Prop where
  | text : HasType (.text content) (.scalar .text)
  | bool : HasType (.bool content) (.scalar .bool)
  | char : HasType (.char content) (.scalar .char)
  | int : HasType (.int kind content) (.scalar (.int kind))
  | float : HasType (.float kind bits) (.scalar (.float kind))
  | list : (∀ value ∈ items, HasType value item) → HasType (.list item items) (.list item)
  | made : HasType (.made name payload) (.declared name)

theorem Value.HasType.type_eq {value : Value α} (typed : value.HasType t) : value.type = t := by
  cases typed <;> rfl

theorem Value.hasType_of_declared {value : Value α} (declared : value.type = .declared name) :
    value.HasType (.declared name) := by
  cases value with
  | made =>
    cases declared
    exact .made
  | _ => contradiction

/-- The lifting takes every value of a type to one of `root`. -/
def Wrap.Lifts (wrap : Wrap α) (type root : TypeRef) : Prop :=
  ∀ value : Value α, value.HasType type → ∃ lifted, wrap value = .ok lifted ∧ lifted.HasType root

theorem Wrap.lifts_ok (type : TypeRef) : Wrap.Lifts (Except.ok : Wrap α) type type :=
  fun value typed => ⟨value, rfl, typed⟩

theorem Variant.lifts_chain {type root : TypeRef} {wrap : Wrap α} (lifts : wrap.Lifts type root)
    (declared : .declared type.ownName = type) (v : Variant α) :
    Wrap.Lifts (v.chain type wrap) v.type root := by
  intro value typed
  have made : Value.HasType (.made type.ownName (v.lift value)) type :=
    declared ▸ .made
  obtain ⟨lifted, done, final⟩ := lifts _ made
  refine ⟨lifted, ?_, final⟩
  rw [Variant.chain, Variant.wrap, if_pos typed.type_eq]
  exact done

/-! ### Accounts -/

/-- Claims about sessions and interpreters that pass through every step of a request of the given
generation. What is built counts only where the session it leaves behind is `current`. -/
structure Account (schema : Schema α) (generation : Nat) where
  session : Session α → Prop
  current : Session α → Prop
  serves : Key → Option (Converter α) → Prop
  part : Key → Interpreter α → Prop
  perform : session s → r ∈ schema.registrations type →
    session (s.perform r) ∧ (current (s.perform r) → current s)
  live : session s → s.registry.generation = generation → current s
  keep : session s → s.registry.generation = generation → s.registry.cached? key = none →
    Assembled schema serves part key built → session (s.record (.kept key built))
  cached : session s → current s → s.registry.cached? key = some i → part key i
  served : session s → current s → serves key (s.registry.converterFor? key)
  assembled : Assembled schema serves part key i → part key i

namespace Account

open Build

variable {schema : Schema α} {generation : Nat} {account : Account schema generation}

/-- A step taken from a session keeps the account, and its result is as claimed. -/
structure Yields (account : Account schema generation) (s : Session α) (step : Build α β)
    (claim : β → Prop) : Prop where
  session : account.session (exec step s).2
  back : account.current (exec step s).2 → account.current s
  result : account.current (exec step s).2 → ∀ a, (exec step s).1 = .ok a → claim a

namespace Yields

variable {s : Session α}

theorem pure {a : β} (holds : account.session s) (claimed : account.current s → claim a) :
    account.Yields s (pure a) claim :=
  ⟨holds, id, fun current _ same => Except.ok.inj same ▸ claimed current⟩

theorem throw (holds : account.session s) : account.Yields s (throw stop : Build α β) claim :=
  ⟨holds, id, fun _ _ same => by simp at same⟩

theorem fail (holds : account.session s) : account.Yields s (fail type kind : Build α β) claim :=
  throw holds

theorem bind {step : Build α β} {next : β → Build α γ} {further : γ → Prop}
    (first : account.Yields s step claim)
    (rest : ∀ a s', account.session s' → (account.current s' → account.current s) →
      (account.current s' → claim a) → account.Yields s' (next a) further) :
    account.Yields s (step >>= next) further := by
  obtain ⟨session, back, result⟩ := first
  have opened := exec_bind step next s
  cases done : exec step s with
  | mk outcome s' =>
    rw [done] at session back result opened
    cases outcome with
    | error stop =>
      refine ⟨?_, ?_, ?_⟩ <;> rw [opened]
      · exact session
      · exact back
      · exact fun _ _ same => by simp at same
    | ok a =>
      have later := rest a s' session back fun current => result current a rfl
      refine ⟨?_, ?_, ?_⟩ <;> rw [opened]
      · exact later.session
      · exact back ∘ later.back
      · exact later.result

theorem within {step : Build α β} (yields : account.Yields s step claim) :
    account.Yields s (within type step) claim := by
  refine ⟨?_, ?_, ?_⟩ <;> rw [exec_within]
  · exact yields.session
  · exact yields.back
  · exact fun current a same => yields.result current a (outer_eq_ok.mp same)

theorem mapM {step : γ → Build α β} {xs : List γ} {claim : γ → β → Prop}
    (each : ∀ x ∈ xs, ∀ s, account.session s → account.Yields s (step x) (claim x))
    (holds : account.session s) : account.Yields s (xs.mapM step) (List.Forall₂ claim xs) := by
  induction xs generalizing s with
  | nil => exact pure holds fun _ => .nil
  | cons x xs ih =>
    rw [List.mapM_cons]
    apply (each x (by simp) s holds).bind
    intro y s₁ holds₁ _ first
    apply (ih (fun z member => each z (by simp [member])) holds₁).bind
    intro ys s₂ holds₂ back others
    exact pure holds₂ fun current => .cons (first (back current)) (others current)

theorem registry {next : Registry α → Build α β}
    (rest : account.Yields s (next s.registry) claim) :
    account.Yields s (registry >>= next) claim := ⟨rest.session, rest.back, rest.result⟩

theorem describe {next : Descriptor α → Build α β} (holds : account.session s)
    (rest : ∀ s', account.session s' → (account.current s' → account.current s) →
      account.Yields s' (next (schema.describe type)) claim) :
    account.Yields s (describe schema type >>= next) claim := by
  have performed : ∀ rs ⊆ schema.registrations type, ∀ s, account.session s →
      account.session (rs.foldl .perform s) ∧
      (account.current (rs.foldl .perform s) → account.current s) := by
    intro rs
    induction rs with
    | nil => exact fun _ s holds => ⟨holds, id⟩
    | cons r rs ih =>
      intro known s holds
      obtain ⟨next, back⟩ := account.perform holds (known List.mem_cons_self)
      obtain ⟨final, further⟩ := ih (fun x member => known (by simp [member])) _ next
      exact ⟨final, back ∘ further⟩
  obtain ⟨session, back⟩ := performed _ (List.Subset.refl _) s holds
  have later := rest _ session back
  exact ⟨later.session, back ∘ later.back, later.result⟩

theorem compilePattern (holds : account.session s) :
    account.Yields s (compilePattern type source arity)
      fun p => Pattern.whole source arity = .ok p := by
  refine ⟨?_, ?_, ?_⟩ <;> rw [exec_compilePattern]
  · exact holds
  · exact id
  · exact fun _ p same => compilePattern_eq_ok.mp same

theorem compileSeparator (holds : account.session s) :
    account.Yields s (compileSeparator type source) fun p => Pattern.ofString source = .ok p := by
  refine ⟨?_, ?_, ?_⟩ <;> rw [exec_compileSeparator]
  · exact holds
  · exact id
  · exact fun _ p same => compileSeparator_eq_ok.mp same

/-- A new interpreter is kept in a live session only, and there it is as claimed. -/
theorem keep (holds : account.session s)
    (assembled : account.current s → Assembled schema account.serves account.part key built) :
    account.Yields s (Build.keep key built generation) (account.part key) := by
  have opened := exec_keep key built generation s
  split at opened
  · refine ⟨?_, ?_, ?_⟩ <;> rw [opened]
    · exact holds
    · exact id
    · exact fun current _ same => Except.ok.inj same ▸ account.assembled (assembled current)
  · rename_i live
    have current := account.live holds (not_not.mp live)
    split at opened <;> rename_i found <;> refine ⟨?_, ?_, ?_⟩ <;> rw [opened]
    · exact holds
    · exact id
    · exact fun _ _ same => Except.ok.inj same ▸ account.cached holds current found
    · exact account.keep holds (not_not.mp live) found (assembled current)
    · exact fun _ => current
    · exact fun _ _ same => Except.ok.inj same ▸ account.assembled (assembled current)

end Yields

mutual

theorem yields_resolve (account : Account schema generation) :
    ∀ {fuel path key s}, account.session s →
      account.Yields s (resolve schema generation fuel path key) (account.part key)
  | 0, _, _, _, holds => .throw holds
  | fuel + 1, path, key, s, holds => by
    rw [resolve]
    apply Yields.registry
    split
    · rename_i found
      exact .pure holds fun current => account.cached holds current found
    · split
      · exact .fail holds
      · apply (yields_resolveNew account holds).bind
        intro built s₁ holds₁ _ assembled
        exact .keep holds₁ assembled

theorem yields_resolveNew (account : Account schema generation) :
    ∀ {fuel path key s}, account.session s →
      account.Yields s (resolveNew schema generation fuel path key)
        (Assembled schema account.serves account.part key)
  | 0, _, _, _, holds => .throw holds
  | fuel + 1, path, key, s, holds => by
    have served (current : account.current s) : account.serves key _ :=
      account.served holds current
    rw [resolveNew]
    apply Yields.registry
    cases found : s.registry.converterFor? key with
    | some convert => exact .pure holds fun current => .converter (found ▸ served current)
    | none =>
      have unserved (current : account.current s) : account.serves key none :=
        found ▸ served current
      apply Yields.describe holds
      intro s₁ holds₁ back₁
      cases shape : (schema.describe key.type).sequence with
      | some sequence =>
        apply (Yields.compileSeparator holds₁).bind
        intro splitter s₂ holds₂ back₂ compiled
        apply (yields_resolve account holds₂).within.bind
        intro item s₃ holds₃ back₃ resolved
        refine .pure holds₃ fun current => ?_
        have current₂ := back₃ current
        exact .sequence (unserved (back₁ (back₂ current₂))) shape (compiled current₂)
          (resolved current)
      | none =>
        cases separator : key.separator with
        | some separator => exact .fail holds₁
        | none =>
          cases given : key.pattern with
          | some pattern =>
            cases declared : (schema.describe key.type).constructor with
            | none => exact .fail holds₁
            | some constructor =>
              apply (yields_resolveBinding account holds₁).bind
              intro candidate s₂ holds₂ back₂ bound
              refine .pure holds₂ fun current => ?_
              exact .explicit (unserved (back₁ (back₂ current))) shape separator given declared
                (bound current)
          | none =>
            apply (yields_unfold account holds₁).bind
            intro candidates s₂ holds₂ back₂ offered
            cases candidates with
            | nil =>
              dsimp only
              split <;> exact .fail holds₂
            | cons candidate candidates =>
              refine .pure holds₂ fun current => ?_
              exact .sum (unserved (back₁ (back₂ current))) shape separator given
                (offered current) (by simp)

theorem yields_unfold (account : Account schema generation) :
    ∀ {fuel path type wrap s}, account.session s →
      account.Yields s (unfold schema generation fuel path type (schema.describe type) wrap)
        (Offered schema account.part type wrap)
  | 0, _, _, _, _, holds => .throw holds
  | fuel + 1, path, type, wrap, s, holds => by
    rw [unfold]
    split
    · exact .fail holds
    · split
      · exact .fail holds
      · apply (Yields.mapM (fun b _ s holds => yields_resolveBinding account holds) holds).bind
        intro own s₁ holds₁ _ first
        apply (Yields.mapM (fun v _ s holds => .describe holds fun s' holds' _ =>
          (yields_unfold account holds').within) holds₁).bind
        intro inner s₂ holds₂ back₂ offered
        apply (Yields.mapM (fun b _ s holds => yields_resolveBinding account holds) holds₂).bind
        intro alternates s₃ holds₃ back₃ last
        refine .pure holds₃ fun current => ?_
        obtain ⟨aligned, each⟩ := List.forall₂_iff_zip.mp (offered (back₃ current))
        exact .intro (first (back₂ (back₃ current))) aligned (fun x member => each member)
          (last current)

theorem yields_resolveBinding (account : Account schema generation) :
    ∀ {fuel path type b wrap s}, account.session s →
      account.Yields s (resolveBinding schema generation fuel path type b wrap)
        (Bound account.part type wrap b)
  | 0, _, _, _, _, _, holds => .throw holds
  | fuel + 1, path, type, ⟨pattern, constructor⟩, wrap, s, holds => by
    rw [resolveBinding]
    cases constructor.unknownOptions with
    | cons => exact .fail holds
    | nil =>
      apply (Yields.compilePattern holds).bind
      intro matcher s₁ holds₁ _ compiled
      apply (Yields.mapM (fun p _ s holds => (yields_resolve account holds).within) holds₁).bind
      intro parameters s₂ holds₂ back₂ resolved
      refine .pure holds₂ fun current => ?_
      exact .intro (compiled (back₂ current)) (resolved current)

end

/-- An account holds of the session that a request leaves behind, and of the interpreter it
answers with. -/
theorem request (account : Account schema s.registry.generation) (holds : account.session s)
    (key : Key) :
    account.session (Session.request schema key s).2 ∧
    (account.current (Session.request schema key s).2 →
      ∀ i, (Session.request schema key s).1 = .ok i → account.part key i) := by
  have yields : account.Yields s (resolve schema _ (schema.fuel key) .start key) _ :=
    account.yields_resolve holds
  rw [request_eq]
  exact ⟨yields.session, fun current i answered =>
    yields.result current i (settle_eq_ok.mp answered)⟩

end Account

end Construe
