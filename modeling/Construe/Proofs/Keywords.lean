import Construe.Proofs.Stability
import Construe.Proofs.Pattern.Words

/-! # Types of words

A type of words has two matchers: the pattern, which finds out whether a text is one of the words,
and those of the single words, by which the constructor finds the payload. They agree on every
text, so the type reads the texts that are one of its words in some letter case, each as the
payload of the first such word, and no others. -/
namespace Construe

open Unicode.Folding (sameText)
open Build (exec)

theorem Unicode.Folding.sameText_empty (input : String) :
    sameText "" input = decide (input = "") := by
  rw [Bool.eq_iff_iff, Pattern.sameText_iff, String.toList_empty, List.map_nil, eq_comm,
    List.map_eq_nil_iff, String.toList_eq_nil_iff, decide_eq_true_iff]

namespace Descriptor

/-- Unless it is too large, the pattern of some words captures each of them in any letter case. No
words are written like the empty word alone. -/
theorem exists_matcher (words : List String)
    (small : Pattern.whole (keywordPattern words) 1 ≠ .error (.invalid .tooLarge)) :
    ∃ matcher, Pattern.whole (keywordPattern words) 1 = .ok matcher ∧
      ∀ input, matcher.groups? input =
        if words.any (sameText · input) ∨ words = [] ∧ input = "" then some [some input]
        else none := by
  have compiled (ws : List String) (nonempty : ws ≠ [])
      (same : keywordPattern words = keywordPattern ws) :
      Pattern.whole (keywordPattern words) 1 = .ok (Pattern.keywordMatcher ws) := by
    have either := Pattern.whole_keywordPattern nonempty
    rw [← same] at either
    split at either
    · exact either
    · exact absurd either small
  cases words with
  | nil =>
    refine ⟨_, compiled [""] (by simp) rfl, fun input => ?_⟩
    rw [Pattern.groups?_keywordMatcher, List.any_cons, Unicode.Folding.sameText_empty]
    simp
  | cons w words =>
    refine ⟨_, compiled (w :: words) (by simp) rfl, fun input => ?_⟩
    rw [Pattern.groups?_keywordMatcher]
    simp

theorem map_wordPattern (words : List (String × α)) :
    (words.map fun w => wordPattern w.1) = (words.map Prod.fst).map wordPattern := by
  rw [List.map_map]
  rfl

/-- The constructor finds the payload of the first word that the input is, in any letter case. -/
theorem findKeyword_words {words : List (String × α)} (type input : String)
    (small : Pattern.ofStrings (words.map fun w => wordPattern w.1) ≠ .error .tooLarge) :
    findKeyword type (Pattern.ofStrings (words.map fun w => wordPattern w.1))
        (words.map Prod.snd) input =
      match words.find? fun w => sameText w.1 input with
      | some w => .ok w.2
      | none => .error (.rejected s!"`{input}` is not a keyword of `{type}`") := by
  rw [map_wordPattern, Pattern.ofStrings_wordPatterns] at small ⊢
  split at small
  · rename_i fits
    have tells (w : String) : (Pattern.wordMatcher w).isMatch input = sameText w input :=
      Pattern.isSome_search_wordExpr w input
    rw [if_pos fits, findKeyword, List.map_map, List.zip_map', List.find?_map]
    simp only [Function.comp_def, tells]
    cases words.find? fun w => sameText w.1 input <;> rfl
  · contradiction

end Descriptor

/-! ### The interpreter of words -/

/-- Texts are read as they are. -/
def Interpreter.verbatim : Interpreter α := .converter (.scalar .text) Scalar.text.convert

/-- The pattern of the words over the constructor that finds the payload. -/
def Interpreter.ofWords (name : String) (words : List (String × α)) (matcher : Pattern) :
    Interpreter α :=
  .candidates (.declared name) [.mk (Descriptor.keywordPattern (words.map Prod.fst)) matcher
    [.verbatim] ((Descriptor.keywordConstructor name words).chain (.declared name) .ok)]

/-- The constructor makes a value of a text that is one of the words, in any letter case. -/
theorem chain_keywordConstructor {words : List (String × α)} (name input : String)
    (small : Pattern.ofStrings (words.map fun w => Descriptor.wordPattern w.1) ≠
      .error .tooLarge) :
    (Descriptor.keywordConstructor name words).chain (.declared name) .ok [.text input] =
      match words.find? fun w => sameText w.1 input with
      | some w => .ok (.made name w.2)
      | none => .error (.rejected s!"`{input}` is not a keyword of `{name}`") := by
  have found := Descriptor.findKeyword_words name input small
  have opened : (Descriptor.keywordConstructor name words).chain (.declared name) .ok
      [.text input] = ((Descriptor.findKeyword name
        (Pattern.ofStrings (words.map fun w => Descriptor.wordPattern w.1))
        (words.map Prod.snd) input) >>= fun payload => pure (.made name payload)) >>= .ok := rfl
  rw [opened, found]
  cases words.find? fun w => sameText w.1 input <;> rfl

namespace Interpreter

variable {name : String} {words : List (String × α)} {matcher : Pattern}

/-- Where the pattern captures the whole text, the construction decides. -/
theorem attempt_verbatim {construct : List (Value α) → Except ConstructionFailure (Value α)}
    {input : String} (matched : matcher.groups? input = some [some input]) :
    attempt (.mk pattern matcher [verbatim] construct) input =
      match construct [.text input] with
      | .ok value => .built value
      | .error failure => .rejected (.construction failure) := by
  have read : interpretGroups [verbatim] 0 [some input] = .ok [(.text input : Value α)] := by
    simp only [interpretGroups, verbatim, interpret, Scalar.convert]
    rfl
  cases made : construct [.text input] <;> simp only [attempt, matched, read, made]

/-- A text that is one of the words is read as the payload of the first such word. Any other text
is refused by the pattern already, unless there are no words at all. -/
theorem run_ofWords
    (small : Pattern.ofStrings (words.map fun w => Descriptor.wordPattern w.1) ≠ .error .tooLarge)
    (groups : ∀ input, matcher.groups? input =
      if (words.map Prod.fst).any (sameText · input) ∨ words.map Prod.fst = [] ∧ input = ""
      then some [some input] else none) (input : String) :
    (∀ w, words.find? (fun w => sameText w.1 input) = some w →
      (ofWords name words matcher).run input = .ok (.made name w.2)) ∧
    (words.find? (fun w => sameText w.1 input) = none → ∃ rejections,
      (ofWords name words matcher).run input =
        .error (.mk (.declared name) input rejections) ∧ (words ≠ [] → rejections = [])) := by
  have constructed := chain_keywordConstructor name input small
  constructor
  · intro w found
    have listed : (words.map Prod.fst).any (sameText · input) = true := by
      have same := List.find?_some found
      have member := List.mem_of_find?_eq_some found
      exact List.any_eq_true.mpr ⟨w.1, List.mem_map_of_mem member, same⟩
    have matched := groups input
    rw [if_pos (.inl listed)] at matched
    rw [found] at constructed
    rw [run, ofWords, interpret, firstSuccess, attempt_verbatim matched, constructed]
    simp only [Except.mapError, bind, Except.bind, Value.type, target, if_true]
    rfl
  · intro missing
    rw [missing] at constructed
    have unlisted : ¬(words.map Prod.fst).any (sameText · input) = true := by
      intro listed
      obtain ⟨_, mapped, same⟩ := List.any_eq_true.mp listed
      obtain ⟨w, member, rfl⟩ := List.mem_map.mp mapped
      exact List.find?_eq_none.mp missing w member same
    have matched := groups input
    by_cases empty : words.map Prod.fst = [] ∧ input = ""
    · rw [if_pos (.inr empty)] at matched
      rw [run, ofWords, interpret, firstSuccess, attempt_verbatim matched, constructed]
      exact ⟨_, rfl, fun nonempty => absurd (List.map_eq_nil_iff.mp empty.1) nonempty⟩
    · rw [if_neg (not_or.mpr ⟨unlisted, empty⟩)] at matched
      rw [run, ofWords, interpret, firstSuccess, attempt, matched]
      exact ⟨[], rfl, fun _ => rfl⟩

end Interpreter

/-! ### Registries that read texts as they are -/

/-- No event gives texts another meaning. -/
def Verbatim (events : List (Event α)) : Prop :=
  ∀ convert, .registered (.scalar .text) convert ∈ events → convert = Scalar.text.convert

theorem verbatim_append {first last : List (Event α)} :
    Verbatim (first ++ last) ↔ Verbatim first ∧ Verbatim last := by
  simp only [Verbatim, List.mem_append, or_imp, forall_and]

/-- The type is one of words, with a pattern that is compiled to the matcher. -/
structure Schema.DeclaresWords (schema : Schema α) (name : String) (words : List (String × α))
    (matcher : Pattern) : Prop where
  described : schema.describe (.declared name) = .keywords name words
  compiled : Pattern.whole (Descriptor.keywordPattern (words.map Prod.fst)) 1 = .ok matcher

namespace Registry

variable {schema : Schema α} {name : String} {words : List (String × α)} {matcher : Pattern}

/-- What is built for texts reads them as they are, and what is built for the words by them is their
interpreter. -/
def Spells (name : String) (words : List (String × α)) (matcher : Pattern) (key : Key)
    (i : Interpreter α) : Prop :=
  (key = { type := .scalar .text } → i = .verbatim) ∧
  (key = { type := .declared name } →
    (∃ convert, i = .converter (.declared name) convert) ∨ i = .ofWords name words matcher)

/-- Texts are read as they are, also where this is kept in interpreters. -/
structure Literate (name : String) (words : List (String × α)) (matcher : Pattern)
    (r : Registry α) : Prop where
  text : r.converter? (.scalar .text) = some Scalar.text.convert
  keeps : r.Keeps (Spells name words matcher)

theorem Literate.apply {r : Registry α} (literate : r.Literate name words matcher)
    (verbatim : Verbatim [e]) (spells : ∀ key built, e = .kept key built →
      Spells name words matcher key built) : (r.apply e).Literate name words matcher := by
  cases e with
  | registered type convert =>
    refine ⟨?_, literate.keeps.register type convert⟩
    show (r.register type convert).converter? _ = _
    rw [converter?_register]
    split
    · rename_i same
      rw [verbatim convert (by simp [same])]
    · exact literate.text
  | kept key built => exact ⟨literate.text, literate.keeps.keep (spells key built rfl)⟩
  | passedOn => exact literate

/-- The one parameter of the binding is the text itself. -/
theorem eq_of_bound (declared : schema.DeclaresWords name words matcher)
    (bound : Bound (Spells name words matcher) (.declared name) .ok
      ⟨Descriptor.keywordPattern (words.map Prod.fst), Descriptor.keywordConstructor name words⟩
      candidate) :
    .candidates (.declared name) [candidate] = Interpreter.ofWords name words matcher := by
  cases bound with
  | intro whole parameters =>
    cases whole.symm.trans declared.compiled
    obtain ⟨parameter, rest, spells, none, rfl⟩ := List.forall₂_cons_left_iff.mp parameters
    cases none
    rw [spells.1 rfl]
    rfl

theorem spells_of_assembled
    (declared : schema.DeclaresWords name words matcher)
    (assembled : Assembled schema
      (fun key found => key = { type := .scalar .text } → found = some Scalar.text.convert)
      (Spells name words matcher) key i) : Spells name words matcher key i := by
  refine ⟨?_, ?_⟩
  · rintro rfl
    cases assembled with
    | converter served =>
      cases served rfl
      rfl
    | sequence served | explicit served | sum served => exact absurd (served rfl) (by simp)
  · rintro rfl
    cases assembled with
    | converter => exact .inl ⟨_, rfl⟩
    | sequence _ shape =>
      rw [declared.described] at shape
      contradiction
    | explicit _ _ _ given => contradiction
    | sum _ _ _ _ offered =>
      obtain ⟨own, aligned, _, alternates⟩ := offered
      rw [declared.described] at own aligned alternates
      obtain ⟨candidate, _, bound, none, rfl⟩ := List.forall₂_cons_left_iff.mp own
      cases none
      cases alternates
      cases List.eq_nil_of_length_eq_zero aligned.symm
      exact .inr (eq_of_bound declared bound)

/-- As long as texts are read as they are, the words are spelled by them. As long as the generation
of the request lasts, nothing has been registered. -/
structure Unspoilt (name : String) (words : List (String × α)) (matcher : Pattern)
    (r : Registry α) (s : Session α) : Prop where
  generation : r.generation ≤ s.registry.generation
  live : s.registry.generation = r.generation → Verbatim s.journal
  literate : Verbatim s.journal → s.registry.Literate name words matcher

theorem Unspoilt.record {r : Registry α} {s : Session α}
    (unspoilt : Unspoilt name words matcher r s)
    (spells : ∀ key built, e = .kept key built → Spells name words matcher key built) :
    Unspoilt name words matcher r (s.record e) where
  generation := by
    have before := unspoilt.generation
    cases e with
    | registered => exact Nat.le_succ_of_le before
    | kept | passedOn => exact before
  live same := by
    have before := unspoilt.generation
    cases e with
    | registered =>
      simp only [Session.record, Registry.apply, generation_register] at same
      omega
    | kept | passedOn => exact verbatim_append.mpr ⟨unspoilt.live same, by simp [Verbatim]⟩
  literate verbatim := by
    obtain ⟨before, now⟩ := verbatim_append.mp verbatim
    exact (unspoilt.literate before).apply now spells

/-- The account of a request: as long as texts are read as they are, the words are spelled by
them. -/
def spellingAccount
    (declared : schema.DeclaresWords name words matcher)
    (r : Registry α) : Account schema r.generation where
  session := Unspoilt name words matcher r
  current s := Verbatim s.journal
  serves key found := key = { type := .scalar .text } → found = some Scalar.text.convert
  part := Spells name words matcher
  perform unspoilt _ := by
    refine ⟨unspoilt.record fun key built same => ?_, fun after => (verbatim_append.mp after).1⟩
    split at same <;> contradiction
  live unspoilt := unspoilt.live
  keep unspoilt _ _ assembled := by
    refine unspoilt.record fun key built same => ?_
    cases same
    exact spells_of_assembled declared assembled
  cached unspoilt verbatim := (unspoilt.literate verbatim).keeps _ _
  served unspoilt verbatim := by
    rintro rfl
    exact (unspoilt.literate verbatim).text
  assembled := spells_of_assembled declared

theorem Literate.unspoilt {r : Registry α} (literate : r.Literate name words matcher)
    (names : List String) : Unspoilt name words matcher r ⟨names, r, []⟩ :=
  ⟨Nat.le_refl _, fun _ => by simp [Verbatim], fun _ => literate⟩

/-- A request that leaves texts alone is answered with what the words are spelled by. -/
theorem Literate.ask {r : Registry α} (literate : r.Literate name words matcher)
    (declared : schema.DeclaresWords name words matcher)
    (verbatim : Verbatim (r.ask schema names key).2.journal) :
    (r.ask schema names key).2.registry.Literate name words matcher ∧
    ∀ i, (r.ask schema names key).1 = .ok i → Spells name words matcher key i := by
  have account := (spellingAccount declared r).request (s := ⟨names, r, []⟩)
    (literate.unspoilt names) key
  exact ⟨account.1.literate verbatim, account.2 verbatim⟩

theorem Literate.perform {r : Registry α} (literate : r.Literate name words matcher)
    (declared : schema.DeclaresWords name words matcher)
    (op : Operation α) (verbatim : Verbatim (r.events schema op)) :
    (r.perform schema op).Literate name words matcher := by
  cases op with
  | register type convert =>
    exact literate.apply (e := .registered type convert) verbatim (by simp)
  | request names key => exact (literate.ask declared verbatim).1

theorem Literate.run {ops : List (Operation α)}
    (declared : schema.DeclaresWords name words matcher) :
    ∀ {r : Registry α}, r.Literate name words matcher → Verbatim (r.history schema ops) →
      (r.run schema ops).Literate name words matcher := by
  induction ops with
  | nil => exact fun literate _ => literate
  | cons op ops ih =>
    intro r literate verbatim
    obtain ⟨now, later⟩ := verbatim_append.mp verbatim
    exact ih (literate.perform declared op now) later

/-- Texts are left alone where neither operations nor descriptors register a converter for them. -/
theorem verbatim_history {ops : List (Operation α)}
    (spared : ∀ type, ∀ c ∈ schema.registrations type, c.type ≠ .scalar .text)
    (unregistered : ∀ convert, .register (.scalar .text) convert ∉ ops) :
    ∀ r : Registry α, Verbatim (r.history schema ops) := by
  induction ops with
  | nil => exact fun _ _ member => absurd member List.not_mem_nil
  | cons op ops ih =>
    intro r
    refine verbatim_append.mpr
      ⟨?_, ih (fun convert member => unregistered convert (List.mem_cons_of_mem _ member)) _⟩
    intro convert member
    cases op with
    | register type c =>
      cases List.mem_singleton.mp member
      exact absurd List.mem_cons_self (unregistered convert)
    | request names key =>
      obtain ⟨described, _, same⟩ := announced_journal schema r names key
      have other : .registered (.scalar .text) convert ∈
          described.flatMap fun type => (schema.registrations type).map (·.event names) :=
        same ▸ List.mem_filter.mpr ⟨member, rfl⟩
      simp only [List.mem_flatMap, List.mem_map] at other
      obtain ⟨type, _, change, given, made⟩ := other
      unfold Registration.event at made
      split at made
      · injection made with same
        exact absurd same (spared type change given)
      · contradiction

/-! ### The request -/

/-- A registration takes no type its converter. -/
theorem isSome_converter?_perform {s : Session α} (change : Registration α)
    (served : (s.registry.converter? type).isSome) :
    ((s.perform change).registry.converter? type).isSome := by
  unfold Session.perform
  split
  · show ((s.registry.register _ _).converter? type).isSome
    rw [converter?_register]
    split
    · rfl
    · exact served
  · exact served

theorem isSome_converter?_performAll (changes : List (Registration α)) {type : TypeRef} :
    ∀ {s : Session α}, (s.registry.converter? type).isSome →
      ((changes.foldl Session.perform s).registry.converter? type).isSome := by
  induction changes with
  | nil => exact fun served => served
  | cons change changes ih => exact fun served => ih (isSome_converter?_perform change served)

/-- A type with a converter can be asked for on any path that does not come from it. -/
theorem exists_resolve_of_converter (schema : Schema α) {s : Session α} {type : TypeRef}
    {path : Path} (served : (s.registry.converter? type).isSome)
    (new : { type } ∉ path.building) (generation fuel : Nat) :
    ∃ i s', exec (resolve schema generation (fuel + 2) path { type }) s = (.ok i, s') := by
  obtain ⟨convert, served⟩ := Option.isSome_iff_exists.mp served
  rw [resolve, Build.exec_registry]
  cases found : s.registry.cached? { type } with
  | some i => exact ⟨i, s, rfl⟩
  | none =>
    have built : exec (resolveNew schema generation (fuel + 1) (path.build { type }) { type }) s =
        (.ok (.converter type convert), s) := by
      rw [resolveNew, Build.exec_registry, converterFor?_plain, served]
      rfl
    simp only [new, if_false, Build.exec_bind, built, Build.exec_keep, found]
    split <;> exact ⟨_, _, rfl⟩

/-- The binding of the words needs nothing but texts. -/
theorem exists_resolveBinding_keywords {s : Session α} {path : Path}
    (declared : schema.DeclaresWords name words matcher)
    (text : (s.registry.converter? (.scalar .text)).isSome)
    (new : { type := .scalar .text } ∉ path.building) (generation fuel : Nat) :
    ∃ candidate s', exec (resolveBinding schema generation (fuel + 3) path (.declared name)
      ⟨Descriptor.keywordPattern (words.map Prod.fst), Descriptor.keywordConstructor name words⟩
      .ok) s = (.ok candidate, s') := by
  obtain ⟨i, s', resolved⟩ := exists_resolve_of_converter schema text new generation fuel
  have unknown : (Descriptor.keywordConstructor name words).unknownOptions = [] := rfl
  have params : (Descriptor.keywordConstructor name words).params =
      [{ type := .scalar .text }] := rfl
  have arity : (Descriptor.keywordConstructor name words).arity = 1 := rfl
  have pattern : (Build.compilePattern (.declared name) _ 1 : Except Stop Pattern) = _ :=
    Build.compilePattern_eq_ok.mpr declared.compiled
  rw [resolveBinding, unknown]
  simp only [Build.exec_bind, Build.exec_compilePattern, arity, pattern, params, List.mapM_cons,
    List.mapM_nil, Build.exec_within, Param.key, resolved, Build.outer]
  exact ⟨_, _, rfl⟩

theorem exists_unfold_keywords {s : Session α} {path : Path}
    (declared : schema.DeclaresWords name words matcher)
    (text : (s.registry.converter? (.scalar .text)).isSome)
    (new : { type := .scalar .text } ∉ path.building) (free : .declared name ∉ path.unfolding)
    (generation fuel : Nat) :
    ∃ candidate s', exec (unfold schema generation (fuel + 4) path (.declared name)
      (.keywords name words) .ok) s = (.ok [candidate], s') := by
  obtain ⟨candidate, s', bound⟩ :=
    exists_resolveBinding_keywords declared text new generation fuel
  refine ⟨candidate, s', ?_⟩
  have binds : (Descriptor.keywords name words).lacksConstructor = false := rfl
  have own : (Descriptor.keywords name words).ownBinding?.toList =
    [⟨Descriptor.keywordPattern (words.map Prod.fst),
      Descriptor.keywordConstructor name words⟩] := rfl
  have variants : (Descriptor.keywords name words).variants = [] := rfl
  have alternates : (Descriptor.keywords name words).alternates = [] := rfl
  rw [unfold, if_neg free, binds, own, variants, alternates]
  simp only [List.mapM_cons, List.mapM_nil, Build.exec_bind, bound, Build.exec_pure,
    Bool.false_eq_true, if_false]
  rfl

theorem exists_resolveNew_keywords {s : Session α} {path : Path}
    (declared : schema.DeclaresWords name words matcher)
    (text : (s.registry.converter? (.scalar .text)).isSome)
    (unserved : s.registry.converter? (.declared name) = none)
    (new : { type := .scalar .text } ∉ path.building) (free : .declared name ∉ path.unfolding)
    (generation fuel : Nat) :
    ∃ candidates s', exec (resolveNew schema generation (fuel + 5) path
      { type := .declared name }) s = (.ok (.candidates (.declared name) candidates), s') := by
  obtain ⟨candidate, s', offered⟩ := exists_unfold_keywords declared
    (isSome_converter?_performAll (schema.registrations (.declared name)) text) new free
    generation fuel
  refine ⟨[candidate], s', ?_⟩
  have sequence : (Descriptor.keywords name words).sequence = none := rfl
  rw [resolveNew, Build.exec_registry, converterFor?_plain, unserved, Build.exec_describe,
    declared.described, sequence]
  dsimp only
  rw [Build.exec_bind, offered]
  rfl

/-- Words can be asked for wherever texts have a converter. Without a converter of their own, they
are read by their pattern. -/
theorem ask_keywords {r : Registry α} (names : List String)
    (declared : schema.DeclaresWords name words matcher)
    (current : r.Current) (text : (r.converter? (.scalar .text)).isSome)
    (unserved : r.converter? (.declared name) = none) :
    ∃ i, (r.ask schema names { type := .declared name }).1 = .ok i ∧
      ∀ convert, i ≠ .converter (.declared name) convert := by
  let key : Key := { type := .declared name }
  obtain ⟨fuel, enough⟩ : ∃ fuel, schema.fuel key = fuel + 6 := ⟨_, rfl⟩
  have proceeds : Proceeds schema r (r.ask schema names key).2 := current.proceeds names key
  show ∃ i, (r.ask schema names key).1 = .ok i ∧ _
  rw [Registry.ask, Build.request_eq, enough, resolve, Build.exec_registry] at proceeds ⊢
  cases found : r.cached? key with
  | some i =>
    exact ⟨i, rfl, current.ne_converter found unserved _⟩
  | none =>
    obtain ⟨candidates, s', built⟩ : ∃ candidates s', exec (resolveNew schema r.generation
        (fuel + 5) (Path.start.build key) key) ⟨names, r, []⟩ =
          (.ok (.candidates (.declared name) candidates), s') :=
      exists_resolveNew_keywords declared text unserved
        (by simp [key, Path.build, Path.start]) (by simp [Path.build, Path.start]) _ _
    have outside : key ∉ Path.start.building := by simp [Path.start]
    simp only [found, outside, if_false, Build.exec_bind, built, Build.exec_keep] at proceeds ⊢
    -- What is kept meanwhile is no converter's either, as long as the generation lasts.
    split
    · exact ⟨_, rfl, by simp⟩
    · rename_i same
      rw [if_neg same] at proceeds
      cases kept : s'.registry.cached? key with
      | none => exact ⟨_, rfl, by simp⟩
      | some i =>
        rw [kept] at proceeds
        have unserved' : s'.registry.converter? (.declared name) = none :=
          (congrFun (proceeds.converters (not_not.mp same)) key).trans unserved
        have current' : s'.registry.Current := proceeds.journal ▸ current.replay proceeds.admits
        exact ⟨i, rfl, current'.ne_converter kept unserved' _⟩

/-- In any state that a registry has come to, with the converter of texts that it was created with
and none for a type of words: the type reads a text that is one of its words, character by
character under case folding, as the payload of the first such word, and refuses any other text.
Whatever the pattern matches is constructed, unless there are no words. -/
theorem words_read_in_any_case (schema : Schema α) (name : String) (words : List (String × α))
    (described : schema.describe (.declared name) = .keywords name words)
    (patternFits : Pattern.whole (Descriptor.keywordPattern (words.map Prod.fst)) 1 ≠
      .error (.invalid .tooLarge))
    (wordsFit : Pattern.ofStrings (words.map fun w => Descriptor.wordPattern w.1) ≠
      .error .tooLarge)
    (converters : List (TypeRef × Converter α)) (ops : List (Operation α)) (names : List String)
    (verbatim : ∀ convert, (.scalar .text, convert) ∈ given true converters
      ((create true converters).history schema
        (ops ++ [.request names { type := .declared name }])) → convert = Scalar.text.convert)
    (unserved : ((create true converters).run schema ops).converter? (.declared name) = none) :
    ∃ i, (((create true converters).run schema ops).ask schema names
        { type := .declared name }).1 = .ok i ∧
      ∀ input,
        (∀ w, words.find? (fun w => sameText w.1 input) = some w →
          i.run input = .ok (.made name w.2)) ∧
        (words.find? (fun w => sameText w.1 input) = none → ∃ rejections,
          i.run input = .error (.mk (.declared name) input rejections) ∧
          (words ≠ [] → rejections = [])) := by
  obtain ⟨matcher, compiled, groups⟩ := Descriptor.exists_matcher _ patternFits
  have all : Verbatim ((create true converters).history schema
      (ops ++ [.request names { type := .declared name }])) :=
    fun convert member => verbatim convert (List.mem_append_right _ (mem_registered.mpr member))
  rw [history_append, verbatim_append] at all
  have declared : schema.DeclaresWords name words matcher := ⟨described, compiled⟩
  have created : (create true converters).Literate name words matcher := by
    refine ⟨?_, keeps_create true converters⟩
    refine (converter?_replay_create true converters [] _).trans (latest_eq_some ?_ ?_)
    · simp [given, seeds, Scalar.all]
    · exact fun convert member =>
        verbatim convert (List.mem_append_left _ (by simpa [given, registered] using member))
  have literate := created.run declared all.1
  have current : ((create true converters).run schema ops).Current := by
    rw [← replay_history]
    exact (create_current true converters).replay (create_current true converters).history
  obtain ⟨i, answered, other⟩ := ask_keywords names declared current
    (Option.isSome_of_eq_some literate.text) unserved
  have now : Verbatim _ := (verbatim_append.mp all.2).1
  rcases ((literate.ask declared now).2 i answered).2 rfl with ⟨convert, rfl⟩ | rfl
  · exact absurd rfl (other convert)
  · exact ⟨_, answered, Interpreter.run_ofWords wordsFit groups⟩

def answerWords : List (String × Nat) := [("k", 1), ("K", 2), ("k+", 3), ("", 4)]

/-- Answers, of which two are the same word in different letter case. -/
def answers : Schema Nat where
  declarations := [
    { name := "Answer"
      descriptor := .keywords "Answer" answerWords
      onDescribe := [⟨"main", .scalar .bool, fun _ => none⟩] }]

/-- The sign for kelvin is the letter in another case, and gets the payload of the first word that
it is. An operator of patterns is a character like any other, and the empty text is a word. -/
theorem answers_read_in_any_case :
    let ops : List (Operation Nat) :=
      [.request ["main"] { type := .scalar .char }, .register (.declared "Reply") fun _ => none]
    ∃ i, (((create true []).run answers ops).ask answers ["main"]
        { type := .declared "Answer" }).1 = .ok i ∧
      i.run "K" = .ok (.made "Answer" 1) ∧ i.run "\u212A" = .ok (.made "Answer" 1) ∧
      i.run "K+" = .ok (.made "Answer" 3) ∧ i.run "" = .ok (.made "Answer" 4) ∧
      i.run "kk" = .error (.mk (.declared "Answer") "kk" []) := by
  intro ops
  have patternFits : Pattern.whole (Descriptor.keywordPattern (answerWords.map Prod.fst)) 1 ≠
      .error (.invalid .tooLarge) := by
    rw [Pattern.whole_keywordPattern (by decide), if_pos (by decide +kernel)]
    simp
  have wordsFit : Pattern.ofStrings (answerWords.map fun w => Descriptor.wordPattern w.1) ≠
      .error .tooLarge := by
    rw [Descriptor.map_wordPattern, Pattern.ofStrings_wordPatterns, if_pos (by decide +kernel)]
    simp
  have spared : ∀ type, ∀ c ∈ answers.registrations type, c.type ≠ .scalar .text := by
    intro type c member
    obtain ⟨d, declared, listed⟩ := Schema.mem_registrations member
    cases List.mem_singleton.mp declared
    cases List.mem_singleton.mp listed
    decide
  have verbatim (convert : Converter Nat) (member : (.scalar .text, convert) ∈ given true []
      ((create true []).history answers
        (ops ++ [.request ["main"] { type := .declared "Answer" }]))) :
      convert = Scalar.text.convert := by
    rcases List.mem_append.mp member with created | later
    · simpa [seeds, Scalar.all] using created
    · exact verbatim_history spared (by simp [ops]) _ convert (mem_registered.mp later)
  obtain ⟨i, answered, reads⟩ := words_read_in_any_case answers "Answer" answerWords rfl
    patternFits wordsFit [] ops ["main"] verbatim (by unfold ops; cbv)
  have refused : i.run "kk" = .error (.mk (.declared "Answer") "kk" []) := by
    obtain ⟨rejections, refused, none⟩ := (reads "kk").2 (by decide +kernel)
    rw [refused, none (by decide)]
  exact ⟨i, answered, (reads "K").1 ("k", 1) (by decide +kernel),
    (reads "\u212A").1 ("k", 1) (by decide +kernel), (reads "K+").1 ("k+", 3) (by decide +kernel),
    (reads "").1 ("", 4) (by decide +kernel), refused⟩

end Registry

end Construe
