import Construe.Proofs.Items
import Construe.Proofs.Refusal

/-! # Lists undo joining

Texts without commas, joined by commas and white space, are read as a list of what they are read as
one by one: the list has their values in order, or is refused for the first of them that is. A list
that was kept before a converter was registered for its items goes on to read them as it did. -/
namespace Construe

/-! ### Joined texts -/

/-- Texts put together, each but the first after a comma and some space. -/
def joinTexts : (first : String) → (links : List (String × String)) → String
  | first, [] => first
  | first, (space, next) :: links => first ++ "," ++ space ++ joinTexts next links

/-- No text holds a comma, and only space stands between a comma and the text that follows. -/
structure Joinable (first : String) (links : List (String × String)) : Prop where
  first : ',' ∉ first.toList
  spaces : ∀ link ∈ links, ∀ c ∈ link.1.toList, Unicode.space.contains c = true
  texts : ∀ link ∈ links, ',' ∉ link.2.toList
  heads : ∀ link ∈ links, ∀ c ∈ link.2.toList.head?, Unicode.space.contains c = false

theorem toList_joinTexts (first : String) (links : List (String × String)) :
    (joinTexts first links).toList =
      Pattern.joined ',' first.toList (links.map fun link => (link.1.toList, link.2.toList)) := by
  fun_induction joinTexts first links with
  | case1 first => rfl
  | case2 first space next links ih => simp [Pattern.joined, ih]

/-- Where the next text is empty, the comma that ends it is no space either. -/
theorem Joinable.parted {first : String} {links : List (String × String)}
    (joinable : Joinable first links) :
    Pattern.Parted ',' Pattern.Program.SpaceGap first.toList
      (links.map fun link => (link.1.toList, link.2.toList)) := by
  obtain ⟨clean, spaces, texts, heads⟩ := joinable
  induction links generalizing first with
  | nil => exact .last clean
  | cons link links ih =>
    obtain ⟨space, next⟩ := link
    simp only [List.forall_mem_cons] at spaces texts heads
    refine .link clean ⟨spaces.1, fun c here => ?_⟩ (ih texts.1 spaces.2 texts.2 heads.2)
    cases letters : next.toList with
    | cons d rest =>
      refine heads.1 c ?_
      rw [letters] at here ⊢
      cases links <;> exact here
    | nil =>
      rw [letters] at here
      cases links with
      | nil => cases here
      | cons =>
        cases here
        decide +kernel

theorem Joinable.split {first : String} {links : List (String × String)}
    (joinable : Joinable first links) :
    Pattern.defaultSplitter.split (joinTexts first links) = first :: links.map Prod.snd := by
  have cut : Pattern.defaultSplitter.split _ = _ :=
    Pattern.split_joined Pattern.Program.divides_commaSpaces joinable.parted
  rw [← toList_joinTexts, String.ofList_toList] at cut
  simpa [Function.comp_def] using cut

/-! ### Reading the pieces -/

namespace Interpreter

variable {schema : Schema α} {item : TypeRef} {i : Interpreter α} {input : String}
  {texts : List String}

theorem interpret_sequence_eq_ok {target : TypeRef} {separator : Pattern}
    {collect : List (Value α) → Except ConstructionFailure (Value α)} {value : Value α} :
    (sequence target separator i collect).interpret input = .ok value ↔ ∃ values,
      List.Forall₂ (fun text value => i.interpret text = .ok value) (separator.split input) values ∧
        collect values = .ok value := by
  simp only [interpret, mapError_eq_ok, Build.bind_eq_ok, interpretItems_eq_ok]

/-- What items are collected to is the list of them. -/
theorem collect_list {values : List (Value α)} {value : Value α}
    (done : Sequence.collect ⟨item, .list item⟩ values = .ok value) :
    value = .list item values := by
  obtain ⟨_, _, same⟩ := Build.bind_eq_ok.mp done
  exact (Except.ok.inj same).symm

/-- The input is read as the list of what `i` reads the texts as: it has all of their values in
order, or is refused for the first text that is. -/
structure ReadsEach (l : Interpreter α) (item : TypeRef) (i : Interpreter α) (input : String)
    (texts : List String) : Prop where
  values (values : List (Value α)) :
    List.Forall₂ (fun text value => i.run text = .ok value) texts values →
    l.run input = .ok (.list item values)
  refusal (before after : List String) (text : String) (values : List (Value α))
    (e : InterpretError) : texts = before ++ text :: after →
    List.Forall₂ (fun text value => i.run text = .ok value) before values →
    i.run text = .error e →
    l.run input = .error (.mk (.list item) input
      [.mk (itemsLabel defaultSeparator) (.item before.length e)])

theorem Sound.readsEach (sound : (listOf item i).Sound schema)
    (split : Pattern.defaultSplitter.split input = texts) :
    (listOf item i).ReadsEach item i input texts := by
  obtain ⟨items, collects⟩ : i.Sound schema ∧ ∀ values,
      (∀ value ∈ values, value.HasType i.target) → ∃ value,
        Sequence.collect ⟨item, .list item⟩ values = .ok value ∧ value.HasType (.list item) := by
    cases sound with
    | sequence items collects => exact ⟨items, collects⟩
  constructor
  · intro values read
    simp only [items.run_eq_interpret] at read
    have typed : ∀ value ∈ values, value.HasType i.target := by
      have delivers := items.answers.items texts 0
      rwa [interpretItems_eq_ok.mpr read] at delivers
    obtain ⟨value, done, _⟩ := collects values typed
    rw [sound.run_eq_interpret, ← collect_list done]
    exact interpret_sequence_eq_ok.mpr ⟨values, split ▸ read, done⟩
  · intro before after text values e cut read refused
    simp only [items.run_eq_interpret] at read refused
    have stops : interpretItems i.interpret 0 texts = .error (.item before.length e) :=
      interpretItems_eq_error.mpr ⟨_, _, _, _, _, cut, read, refused, rfl⟩
    rw [sound.run_eq_interpret, listOf, interpret, split, stops]
    rfl

end Interpreter

/-! ### Lists of what has been registered -/

namespace Registry

variable {schema : Schema α}

/-- Whatever has happened before, a list without a converter can be asked for if its item can, and
then undoes the joining of texts. It reads them as the item does, or did when the list was kept, if
a converter was registered for the item since. -/
theorem lists_undo_joining (typed : schema.Typed) (scalars : Bool)
    (converters : List (TypeRef × Converter α)) (keeps : ∀ c ∈ converters, Converter.Typed c.2 c.1)
    (ops : List (Operation α)) (opsKeep : ∀ op ∈ ops, op.Typed) (names : List String)
    (item : TypeRef) (i : Interpreter α)
    (answered : (((create scalars converters).run schema ops).ask schema names
      { type := item }).1 = .ok i)
    (free : (((create scalars converters).run schema ops).ask schema names
      { type := item }).2.registry.converter? (.list item) = none) :
    ∃ j l, (j = i ∨ ∃ convert, (laid item j ++ [Event.registered item convert]).Sublist
        ((create scalars converters).history schema ops)) ∧
      (((create scalars converters).run schema ops).ask schema names
        { type := .list item }).1 = .ok l ∧
      ∀ first links, Joinable first links →
        l.ReadsEach item j (joinTexts first links) (first :: links.map Prod.snd) := by
  obtain ⟨j, built, current⟩ := ask_list_run schema scalars converters ops names answered free
  have registry : ((create scalars converters).run schema ops).Sound schema :=
    (sound_create scalars converters keeps).run typed ops opsKeep
  obtain ⟨-, sound⟩ := ((soundAccount typed _).request (s := ⟨names, _, []⟩) registry
    { type := .list item }).2 trivial _ built
  exact ⟨j, _, current, built, fun first links joinable => sound.readsEach joinable.split⟩

def undeclared : Schema Unit := ⟨[]⟩

/-- A list that is kept reads texts as its item does, up to the first that is refused. -/
theorem bools_undo_joining :
    ∃ l, (((create true []).run undeclared [.request [] { type := .list (.scalar .bool) }]).ask
        undeclared [] { type := .list (.scalar .bool) }).1 = .ok l ∧
      l.run "true, false,true" =
        .ok (.list (.scalar .bool) [.bool true, .bool false, .bool true]) ∧
      l.run "true,\t,oh" = .error (.mk (.list (.scalar .bool)) "true,\t,oh"
        [.mk "items separated by `,\\s*`" (.item 1
          (.mk (.scalar .bool) "" [.mk "<converter>" .converterDeclined]))]) := by
  have declared : undeclared.Typed := List.forall_mem_nil _
  obtain ⟨j, l, current, built, reads⟩ := lists_undo_joining declared true []
    (List.forall_mem_nil _) [.request [] { type := .list (.scalar .bool) }]
    (by simp [Operation.Typed]) [] (.scalar .bool)
    (.converter (.scalar .bool) Scalar.bool.convert) rfl rfl
  rcases current with rfl | ⟨_, late⟩
  · have trues : Joinable "true" [(" ", "false"), ("", "true")] :=
      ⟨by decide, by simp; decide +kernel, by decide, by simp; decide +kernel⟩
    have gaps : Joinable "true" [("\t", ""), ("", "oh")] :=
      ⟨by decide, by simp; decide +kernel, by decide, by simp; decide +kernel⟩
    exact ⟨l, built, (reads _ _ trues).values _ (.cons rfl (.cons rfl (.cons rfl .nil))),
      (reads _ _ gaps).refusal ["true"] ["oh"] "" [.bool true] _ rfl (.cons rfl .nil) rfl⟩
  · exact absurd late.length_le (show ¬3 ≤ 2 by decide)

def readYes? : Converter Unit := fun input => if input = "yes" then some (.bool true) else none

/-- A list is kept, and then a converter is registered for its items. -/
def lateYes : List (Operation Unit) :=
  [.request [] { type := .list (.scalar .bool) }, .register (.scalar .bool) readYes?]

/-- The list that was kept before does not read what its item reads by now. -/
theorem kept_list_reads_as_before :
    ∃ i l, (((create true []).run undeclared lateYes).ask undeclared []
        { type := .scalar .bool }).1 = .ok i ∧
      ((create true []).run undeclared lateYes).converter? (.list (.scalar .bool)) = none ∧
      (((create true []).run undeclared lateYes).ask undeclared []
        { type := .list (.scalar .bool) }).1 = .ok l ∧
      Joinable "yes" [] ∧ i.run "yes" = .ok (.bool true) ∧
      l.run (joinTexts "yes" []) ≠ .ok (.list (.scalar .bool) [.bool true]) := by
  have joinable : Joinable "yes" [] := ⟨by decide, by simp, by simp, by simp⟩
  have split := joinable.split
  refine ⟨_, .listOf (.scalar .bool) (.converter (.scalar .bool) Scalar.bool.convert), rfl, rfl,
    rfl, joinable, rfl, ?_⟩
  rw [Interpreter.run, Interpreter.listOf, Interpreter.interpret, split]
  intro same
  contradiction

end Registry

end Construe
