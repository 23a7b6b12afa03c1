import Construe.Proofs.Readings

/-! # Creatures

A creature is a person or a dog, and a dog is written in two ways: by its name and its owner, or the
other way round. Each pattern splits a text in one way only, and none of them takes a text that is
written for another, so that both ways say the same. -/
namespace Construe.Creatures

open Pattern (Expr Segment exprOf)
open Pattern.Segment (Row captured Unambiguous)

structure Person where
  first : String
  last : String
deriving DecidableEq, Repr, Inhabited

structure Dog where
  name : String
  owner : Person
deriving DecidableEq, Repr

inductive Creature where
  | person (p : Person)
  | dog (d : Dog)
deriving DecidableEq, Repr, Inhabited

/-- What the declared types make. -/
inductive Being where
  | creature (c : Creature)
  | person (p : Person)
  | dog (d : Dog)
deriving DecidableEq, Repr, Inhabited

def makePerson : List (Value Being) → Except ConstructionFailure Being
  | [.text first, .text last] => .ok (.person ⟨first, last⟩)
  | _ => .error (.missingArgument 0)

def makeDog : List (Value Being) → Except ConstructionFailure Being
  | [.text name, .made _ (.person owner)] => .ok (.dog ⟨name, owner⟩)
  | _ => .error (.missingArgument 0)

/-- The owner comes first. -/
def makeOwned : List (Value Being) → Except ConstructionFailure Being
  | [.made _ (.person owner), .text name] => .ok (.dog ⟨name, owner⟩)
  | _ => .error (.missingArgument 0)

/-- Only persons and dogs are lifted. -/
def toCreature : Value Being → Being
  | .made _ (.person p) => .creature (.person p)
  | .made _ (.dog d) => .creature (.dog d)
  | _ => default

def personPattern : String := "(\\w+)\\s+(\\w+)"

def dogPattern : String := "(\\w+), owned by (.*)"

def ownedPattern : String := "(\\w+\\s+\\w+)'s dog, (\\w+)"

def personConstructor : Constructor Being := .ofTypes [.scalar .text, .scalar .text] makePerson

def dogConstructor : Constructor Being := .ofTypes [.scalar .text, .declared "Person"] makeDog

def ownedConstructor : Constructor Being := .ofTypes [.declared "Person", .scalar .text] makeOwned

def kennel : Schema Being where
  declarations := [
    { name := "Person"
      descriptor := { pattern := some personPattern, constructor := some personConstructor } },
    { name := "Dog"
      descriptor := {
        pattern := some dogPattern
        constructor := some dogConstructor
        alternates := [⟨ownedPattern, ownedConstructor⟩] } },
    { name := "Creature"
      descriptor := {
        variants := [⟨.declared "Person", toCreature⟩, ⟨.declared "Dog", toCreature⟩] } }]

/-! ### Words and spaces -/

/-- The sets share no character. -/
def apart (s t : CharSet) : Bool :=
  s.ranges.all fun r => t.ranges.all fun q => r.hi < q.lo || q.hi < r.lo

theorem not_contains_of_apart {s t : CharSet} (sets : apart s t = true) {c : Char}
    (inside : s.contains c = true) : t.contains c = false := by
  rw [Bool.eq_false_iff]
  intro other
  obtain ⟨r, left, covers⟩ := List.any_eq_true.mp inside
  obtain ⟨q, right, covers'⟩ := List.any_eq_true.mp other
  have far := List.all_eq_true.mp (List.all_eq_true.mp sets r left) q right
  simp only [CharRange.covers, Bool.and_eq_true, Bool.or_eq_true, decide_eq_true_eq]
    at covers covers' far
  omega

/-- All that has to be known of the characters of words, evaluated at once. -/
theorem word_checked : Unicode.word.isCanonical = true ∧
    Pattern.classWeight Unicode.word ≤ 140000 ∧ apart Unicode.space Unicode.word = true ∧
    Unicode.word.contains ',' = false ∧ Unicode.word.contains '\'' = false := by
  decide +kernel

theorem not_word_of_space {c : Char} (space : Unicode.space.contains c = true) :
    Unicode.word.contains c = false :=
  not_contains_of_apart word_checked.2.2.1 space

/-! ### The patterns -/

def words : Expr := .rep 1 none true (.chars Unicode.word)

def spaces : Expr := .rep 1 none true (.chars Unicode.space)

def personParts : List Expr := [.capture 1 none words, spaces, .capture 2 none words]

def dogParts : List Expr :=
  [.capture 1 none words, .literal ", owned by ".toList, .capture 2 none .oneLine]

def ownedParts : List Expr :=
  [.capture 1 none (.concat [words, spaces, words]), .literal "'s dog, ".toList,
    .capture 2 none words]

theorem exprOf_personPattern : exprOf personPattern = .ok (.concat personParts) := rfl

theorem exprOf_dogPattern : exprOf dogPattern = .ok (.concat dogParts) := rfl

set_option maxRecDepth 1000 in
theorem exprOf_ownedPattern : exprOf ownedPattern = .ok (.concat ownedParts) := rfl

/-- One character of the set or more. -/
def Run (set : CharSet) (word : List Char) : Prop :=
  1 ≤ word.length ∧ ∀ c ∈ word, set.contains c = true

def personSegments : List Segment :=
  [⟨true, Run Unicode.word⟩, ⟨false, Run Unicode.space⟩, ⟨true, Run Unicode.word⟩]

def dogSegments : List Segment :=
  [⟨true, Run Unicode.word⟩, ⟨false, (· = ", owned by ".toList)⟩, ⟨true, ('\n' ∉ ·)⟩]

/-- A person's two words with what is between them, which are one group here. -/
def FullName (word : List Char) : Prop :=
  ∃ row, Row [⟨false, Run Unicode.word⟩, ⟨false, Run Unicode.space⟩,
    ⟨false, Run Unicode.word⟩] row ∧ word = row.flatten

def ownedSegments : List Segment :=
  [⟨true, FullName⟩, ⟨false, (· = "'s dog, ".toList)⟩, ⟨true, Run Unicode.word⟩]

theorem reads_words : words.Reads (Run Unicode.word) := Expr.reads_run 1 true Unicode.word

theorem reads_spaces : spaces.Reads (Run Unicode.space) := Expr.reads_run 1 true Unicode.space

theorem reads_fullName : (Expr.concat [words, spaces, words]).Reads FullName := by
  have lays : Expr.Lays 0 [words, spaces, words] _ :=
    .plain reads_words (.plain reads_spaces (.plain reads_words .nil))
  exact lays.reads rfl

theorem costs_words : words.Costs 141000 :=
  fun d => (Expr.costs_plus (Expr.costs_chars _) true d).mono
    (Nat.le_trans (Nat.add_le_add_right word_checked.2.1 40) (by decide))

theorem costs_spaces : spaces.Costs 2000 :=
  fun d => (Expr.costs_plus (Expr.costs_chars _) true d).mono (by decide +kernel)

theorem legible_words : words.legible = true :=
  Expr.legible_rep.mpr ⟨word_checked.1, by simp, by simp⟩

theorem legible_spaces : spaces.legible = true :=
  Expr.legible_rep.mpr ⟨Unicode.canonical_space, by simp, by simp⟩

theorem exists_personMatcher :
    ∃ m, Pattern.whole personPattern 2 = .ok m ∧ m.Fills personSegments := by
  have costs : Expr.CostsAll personParts _ :=
    .cons (Expr.costs_capture _ _ costs_words) (.cons costs_spaces
      (.cons (Expr.costs_capture _ _ costs_words) .nil))
  refine Pattern.exists_fills exprOf_personPattern
    (.group reads_words (.plain reads_spaces (.group reads_words .nil))) ?_ rfl rfl rfl rfl
    (by decide +kernel) costs (by decide +kernel)
  simp [personParts, Expr.legible, Expr.legibleAll, legible_words, legible_spaces]

theorem exists_dogMatcher : ∃ m, Pattern.whole dogPattern 2 = .ok m ∧ m.Fills dogSegments := by
  have costs : Expr.CostsAll dogParts _ :=
    .cons (Expr.costs_capture _ _ costs_words) (.cons (Expr.costs_literal _)
      (.cons (Expr.costs_capture _ _ Expr.costs_oneLine) .nil))
  have line : Expr.oneLine.legible = true := by decide +kernel
  refine Pattern.exists_fills exprOf_dogPattern
    (.group reads_words (.plain (Expr.reads_literal _) (.group Expr.reads_oneLine .nil))) ?_
    rfl rfl rfl rfl (by decide +kernel) costs (by decide +kernel)
  simp [dogParts, Expr.legible, Expr.legibleAll, legible_words, line]

theorem exists_ownedMatcher :
    ∃ m, Pattern.whole ownedPattern 2 = .ok m ∧ m.Fills ownedSegments := by
  have inner : Expr.CostsAll [words, spaces, words] _ :=
    .cons costs_words (.cons costs_spaces (.cons costs_words .nil))
  have costs : Expr.CostsAll ownedParts _ :=
    .cons (Expr.costs_capture _ _ inner.concat) (.cons (Expr.costs_literal _)
      (.cons (Expr.costs_capture _ _ costs_words) .nil))
  refine Pattern.exists_fills exprOf_ownedPattern
    (.group reads_fullName (.plain (Expr.reads_literal _) (.group reads_words .nil))) ?_
    rfl rfl rfl rfl (by decide +kernel) costs (by decide +kernel)
  simp [ownedParts, Expr.legible, Expr.legibleAll, legible_words, legible_spaces]

/-! ### Telling the parts from the text -/

theorem Run.head {set : CharSet} {word : List Char} (run : Run set word) (rest : List Char)
    {c : Char} (here : c ∈ (word ++ rest).head?) : set.contains c = true := by
  obtain ⟨some, all⟩ := run
  cases word with
  | nil => contradiction
  | cons d word =>
    cases here
    exact all _ List.mem_cons_self

theorem not_word_of_head {space : List Char} (run : Run Unicode.space space) (rest : List Char) :
    ∀ c ∈ (space ++ rest).head?, ¬Unicode.word.contains c = true := by
  intro c here
  simp [not_word_of_space (run.head rest here)]

theorem unambiguous_personSegments : Unambiguous personSegments := by
  refine Unambiguous.run (Unambiguous.run (Segment.unambiguous_last _)
    (Unicode.space.contains · = true) (fun _ run => run.2) ?_)
    (Unicode.word.contains · = true) (fun _ run => run.2) ?_
  · rintro _ (_ | ⟨run, ⟨⟩⟩) c here space
    have word := run.head [] here
    rw [not_word_of_space space] at word
    contradiction
  · rintro _ (_ | ⟨run, _⟩)
    exact not_word_of_head run _

theorem not_word_comma : ¬Unicode.word.contains ',' = true := by
  simp [word_checked.2.2.2.1]

theorem unambiguous_dogSegments : Unambiguous dogSegments := by
  refine Unambiguous.run (Unambiguous.literal (Segment.unambiguous_last _) _ _)
    (Unicode.word.contains · = true) (fun _ run => run.2) ?_
  rintro _ (_ | ⟨rfl, _⟩) c here
  cases here
  exact not_word_comma

/-- Letters and spaces. -/
def Plain (c : Char) : Prop := Unicode.word.contains c = true ∨ Unicode.space.contains c = true

theorem FullName.plain {word : List Char} (named : FullName word) : ∀ c ∈ word, Plain c := by
  obtain ⟨_, _ | ⟨first, _ | ⟨space, _ | ⟨last, ⟨⟩⟩⟩⟩, rfl⟩ := named
  intro c member
  simp only [List.flatten_cons, List.flatten_nil, List.append_nil, List.mem_append] at member
  rcases member with member | member | member
  · exact .inl (first.2 c member)
  · exact .inr (space.2 c member)
  · exact .inl (last.2 c member)

theorem not_plain_comma : ¬Plain ',' := by
  have space : Unicode.space.contains ',' = false := by decide +kernel
  rintro (word | other)
  · exact not_word_comma word
  · simp [space] at other

theorem not_plain_apostrophe : ¬Plain '\'' := by
  have space : Unicode.space.contains '\'' = false := by decide +kernel
  simp [Plain, word_checked.2.2.2.2, space]

theorem unambiguous_ownedSegments : Unambiguous ownedSegments := by
  refine Unambiguous.run (Unambiguous.literal (Segment.unambiguous_last _) _ _) Plain
    (fun _ named => named.plain) ?_
  rintro _ (_ | ⟨rfl, _⟩) c here
  cases here
  exact not_plain_apostrophe

/-! ### Readers -/

def text : Interpreter Being := .converter (.scalar .text) (Scalar.convert .text)

def personCandidate (person : Pattern) (wrap : Wrap Being) : Candidate Being :=
  .mk personPattern person [text, text] (personConstructor.chain (.declared "Person") wrap)

def personReader (person : Pattern) : Interpreter Being :=
  .candidates (.declared "Person") [personCandidate person .ok]

/-- Lifts persons and dogs. -/
def lift (name : String) : Wrap Being :=
  (Variant.mk (.declared name) toCreature).chain (.declared "Creature") .ok

def dogCandidate (dog person : Pattern) : Candidate Being :=
  .mk dogPattern dog [text, personReader person]
    (dogConstructor.chain (.declared "Dog") (lift "Dog"))

def ownedCandidate (owned person : Pattern) : Candidate Being :=
  .mk ownedPattern owned [personReader person, text]
    (ownedConstructor.chain (.declared "Dog") (lift "Dog"))

def creatureReader (person dog owned : Pattern) : Interpreter Being :=
  .candidates (.declared "Creature") [personCandidate person (lift "Person"),
    dogCandidate dog person, ownedCandidate owned person]

/-- The owner is read wherever nothing that it needs is being built. -/
theorem resolve_person {person : Pattern} (compiled : Pattern.whole personPattern 2 = .ok person)
    (path : Path) (fresh : { type := .declared "Person" } ∉ path.building)
    (plain : { type := .scalar .text } ∉ path.building)
    (unseen : .declared "Person" ∉ path.unfolding) :
    Draft.resolve kennel Registry.standard.converterFor? 6 path { type := .declared "Person" } =
      .ok (personReader person) := by
  have word : Draft.resolve kennel Registry.standard.converterFor? 2
      (path.build { type := .declared "Person" }) { type := .scalar .text } = .ok text :=
    Draft.resolve_served rfl (by simpa [Path.build] using plain)
  exact Draft.resolve_declared rfl rfl fresh
    (Draft.unfold_bound rfl (by simpa [Path.build] using unseen) rfl compiled
      (.cons word (.cons word .nil))) (by simp)

theorem ask_creature (names : List String) : ∃ person dog owned,
    (Registry.standard.ask kennel names { type := .declared "Creature" }).1 =
      .ok (creatureReader person dog owned) ∧
    person.Fills personSegments ∧ dog.Fills dogSegments ∧ owned.Fills ownedSegments := by
  obtain ⟨person, compiledPerson, fillsPerson⟩ := exists_personMatcher
  obtain ⟨dog, compiledDog, fillsDog⟩ := exists_dogMatcher
  obtain ⟨owned, compiledOwned, fillsOwned⟩ := exists_ownedMatcher
  have quiet : kennel.Quiet := Schema.quiet_of_declarations (by simp [kennel])
  let path := (Path.start.build { type := .declared "Creature" }).unfold (.declared "Creature")
  have word : Draft.resolve kennel Registry.standard.converterFor? 6 path
      { type := .scalar .text } = .ok text :=
    Draft.resolve_served rfl (by decide)
  have owner := resolve_person compiledPerson path (by decide) (by decide) (by decide)
  have persons : Draft.unfold kennel Registry.standard.converterFor? 8 path (.declared "Person")
      (lift "Person") = .ok _ :=
    Draft.unfold_bound rfl (by decide) rfl compiledPerson (.cons word (.cons word .nil))
  have dogs : Draft.unfold kennel Registry.standard.converterFor? 8 path (.declared "Dog")
      (lift "Dog") = .ok _ :=
    Draft.unfold_eq_ok.mpr ⟨by decide, rfl, _, _, _,
      .cons (Draft.resolveBinding_eq_ok.mpr ⟨rfl, dog, _, compiledDog,
        .cons word (.cons owner .nil), rfl⟩) .nil, .nil,
      .cons (Draft.resolveBinding_eq_ok.mpr ⟨rfl, owned, _, compiledOwned,
        .cons owner (.cons word .nil), rfl⟩) .nil, rfl⟩
  have unfolded : Draft.unfold kennel Registry.standard.converterFor? 9
      (Path.start.build { type := .declared "Creature" }) (.declared "Creature") .ok = .ok _ :=
    Draft.unfold_eq_ok.mpr ⟨by decide, rfl, _, _, _, .nil, .cons persons (.cons dogs .nil), .nil,
      rfl⟩
  have drafted : Draft.resolve kennel Registry.standard.converterFor? 11 .start
      { type := .declared "Creature" } = .ok (creatureReader person dog owned) :=
    Draft.resolve_declared rfl rfl (by decide) unfolded (by simp)
  exact ⟨person, dog, owned, Registry.ask_of_draft quiet true [] names drafted, fillsPerson,
    fillsDog, fillsOwned⟩

/-! ### What is read -/

/-- Two words, with spaces between them. -/
structure Written (first space last : String) : Prop where
  first : Run Unicode.word first.toList
  space : Run Unicode.space space.toList
  last : Run Unicode.word last.toList

section

variable {first space last name input : String} {person dog owned : Pattern} {wrap : Wrap Being}

theorem Written.fullName (written : Written first space last) :
    FullName (first ++ space ++ last).toList :=
  ⟨[first.toList, space.toList, last.toList],
    .cons written.first (.cons written.space (.cons written.last .nil)), by simp⟩

/-- With spaces on one line the whole name is on one line: no word has an end of line. -/
theorem Written.oneLine (written : Written first space last) (line : '\n' ∉ space.toList) :
    '\n' ∉ (first ++ space ++ last).toList := by
  have letters : Unicode.word.contains '\n' = false := not_word_of_space (by decide +kernel)
  have word {word : List Char} (run : Run Unicode.word word) : '\n' ∉ word := by
    intro member
    simp [run.2 _ member] at letters
  simp [word written.first, word written.last, line]

theorem text_eq_ok (word : String) : text.interpret (String.ofList word.toList) =
    .ok (.text word) := by
  rw [String.ofList_toList]
  rfl

theorem attempt_person (fills : person.Fills personSegments) (written : Written first space last)
    (lifted : wrap (.made "Person" (.person ⟨first, last⟩)) = .ok value) :
    Interpreter.attempt (personCandidate person wrap) (first ++ space ++ last) = .built value :=
  (Interpreter.built_iff fills unambiguous_personSegments).mpr
    ⟨[first.toList, space.toList, last.toList], [.text first, .text last],
      .cons written.first (.cons written.space (.cons written.last .nil)), by simp,
      .cons (text_eq_ok first) (.cons (text_eq_ok last) .nil), lifted⟩

theorem personReader_eq_ok (fills : person.Fills personSegments)
    (written : Written first space last) :
    (personReader person).interpret (String.ofList (first ++ space ++ last).toList) =
      .ok (.made "Person" (.person ⟨first, last⟩)) := by
  rw [String.ofList_toList]
  exact Interpreter.interpret_single.mpr (attempt_person fills written rfl)

/-- Persons are written with letters and spaces only. -/
theorem person_noMatch (fills : person.Fills personSegments) {c : Char}
    (member : c ∈ input.toList) (other : ¬Plain c) :
    Interpreter.attempt (personCandidate person wrap) input = .noMatch := by
  refine Interpreter.noMatch_of_no_row fills ?_
  rintro _ (_ | ⟨one, _ | ⟨gap, _ | ⟨two, ⟨⟩⟩⟩⟩) split
  have named : FullName input.toList := ⟨_, .cons one (.cons gap (.cons two .nil)), split⟩
  exact other (named.plain c member)

theorem attempt_dog (fills : dog.Fills dogSegments) (personFills : person.Fills personSegments)
    (word : Run Unicode.word name.toList) (written : Written first space last)
    (line : '\n' ∉ space.toList) :
    Interpreter.attempt (dogCandidate dog person)
        (name ++ ", owned by " ++ (first ++ space ++ last)) =
      .built (.made "Creature" (.creature (.dog ⟨name, first, last⟩))) :=
  (Interpreter.built_iff fills unambiguous_dogSegments).mpr
    ⟨[name.toList, ", owned by ".toList, (first ++ space ++ last).toList],
      [.text name, .made "Person" (.person ⟨first, last⟩)],
      .cons word (.cons rfl (.cons (written.oneLine line) .nil)), by simp,
      .cons (text_eq_ok name) (.cons (personReader_eq_ok personFills written) .nil), rfl⟩

/-- Behind the first word of a person there is a space, and no comma. -/
theorem dog_noMatch (fills : dog.Fills dogSegments) (written : Written first space last)
    (rest : String) (starts : input = first ++ space ++ rest) :
    Interpreter.attempt (dogCandidate dog person) input = .noMatch := by
  subst starts
  refine Interpreter.noMatch_of_no_row fills ?_
  rintro _ (_ | ⟨run, _ | ⟨rfl, _ | ⟨line, ⟨⟩⟩⟩⟩) split
  rename_i word owner
  have same : first.toList ++ (space.toList ++ rest.toList) =
      word ++ (", owned by ".toList ++ owner) := by
    simpa using split
  have comma : ∀ c ∈ (", owned by ".toList ++ owner).head?, ¬Unicode.word.contains c = true := by
    intro c here
    cases here
    exact not_word_comma
  obtain rfl := Segment.eq_of_append_of_heads same written.first.2 run.2
    (not_word_of_head written.space _) comma
  have gap := written.space.head (c := ',') rest.toList
    (by rw [List.append_cancel_left same]; rfl)
  exact not_plain_comma (.inr gap)

theorem attempt_owned (fills : owned.Fills ownedSegments)
    (personFills : person.Fills personSegments) (word : Run Unicode.word name.toList)
    (written : Written first space last) :
    Interpreter.attempt (ownedCandidate owned person)
        (first ++ space ++ last ++ "'s dog, " ++ name) =
      .built (.made "Creature" (.creature (.dog ⟨name, first, last⟩))) :=
  (Interpreter.built_iff fills unambiguous_ownedSegments).mpr
    ⟨[(first ++ space ++ last).toList, "'s dog, ".toList, name.toList],
      [.made "Person" (.person ⟨first, last⟩), .text name],
      .cons written.fullName (.cons rfl (.cons word .nil)), by simp,
      .cons (personReader_eq_ok personFills written) (.cons (text_eq_ok name) .nil), rfl⟩

end

/-- Both spellings of a dog give the same dog, and its owner alone is a person. -/
theorem spellings_agree (names : List String) : ∃ i,
    (Registry.standard.ask kennel names { type := .declared "Creature" }).1 = .ok i ∧
    ∀ name first space last : String, Run Unicode.word name.toList →
      Run Unicode.word first.toList → Run Unicode.word last.toList →
      Run Unicode.space space.toList → '\n' ∉ space.toList →
        i.run (name ++ ", owned by " ++ first ++ space ++ last) =
          .ok (.made "Creature" (.creature (.dog ⟨name, ⟨first, last⟩⟩))) ∧
        i.run (first ++ space ++ last ++ "'s dog, " ++ name) =
          .ok (.made "Creature" (.creature (.dog ⟨name, ⟨first, last⟩⟩))) ∧
        i.run (first ++ space ++ last) =
          .ok (.made "Creature" (.creature (.person ⟨first, last⟩))) := by
  obtain ⟨person, dog, owned, answered, fillsPerson, fillsDog, fillsOwned⟩ := ask_creature names
  refine ⟨_, answered, ?_⟩
  intro name first space last word one two gap line
  have written : Written first space last := ⟨one, gap, two⟩
  have joined : name ++ ", owned by " ++ first ++ space ++ last =
      name ++ ", owned by " ++ (first ++ space ++ last) := by
    simp only [String.append_assoc]
  rw [joined]
  simp only [Interpreter.run_eq_ok, creatureReader, Interpreter.interpret_candidates,
    List.findSome?_cons]
  refine ⟨⟨?_, rfl⟩, ⟨?_, rfl⟩, ⟨?_, rfl⟩⟩
  · rw [person_noMatch (c := ',') fillsPerson (by simp) not_plain_comma,
      attempt_dog fillsDog fillsPerson word written line]
    rfl
  · rw [person_noMatch (c := '\'') fillsPerson (by simp) not_plain_apostrophe,
      dog_noMatch fillsDog written (last ++ "'s dog, " ++ name)
        (by simp only [String.append_assoc]),
      attempt_owned fillsOwned fillsPerson word written]
    rfl
  · have lifted : lift "Person" (.made "Person" (.person ⟨first, last⟩)) =
        .ok (.made "Creature" (.creature (.person ⟨first, last⟩))) := rfl
    rw [attempt_person fillsPerson written lifted]
    rfl

/-- Words of any script, and spaces of any width. -/
theorem spellings_of_fido : ∃ i,
    (Registry.standard.ask kennel [] { type := .declared "Creature" }).1 = .ok i ∧
    i.run "Fido, owned by Åsa \u2003Łoś_2" =
      .ok (.made "Creature" (.creature (.dog ⟨"Fido", ⟨"Åsa", "Łoś_2"⟩⟩))) ∧
    i.run "Åsa \u2003Łoś_2's dog, Fido" =
      .ok (.made "Creature" (.creature (.dog ⟨"Fido", ⟨"Åsa", "Łoś_2"⟩⟩))) ∧
    i.run "Åsa \u2003Łoś_2" =
      .ok (.made "Creature" (.creature (.person ⟨"Åsa", "Łoś_2"⟩))) := by
  have letters : "FidoÅsaŁoś_2".toList.all Unicode.word.contains = true := by decide +kernel
  have spaces : " \u2003".toList.all Unicode.space.contains = true := by decide +kernel
  have word {word : String} (some : word ≠ "")
      (among : word.toList ⊆ "FidoÅsaŁoś_2".toList) : Run Unicode.word word.toList :=
    ⟨List.length_pos_iff.mpr (by simpa using some),
      fun c member => List.all_eq_true.mp letters c (among member)⟩
  obtain ⟨i, answered, reads⟩ := spellings_agree []
  exact ⟨i, answered, reads "Fido" "Åsa" " \u2003" "Łoś_2" (word (by decide) (by decide))
    (word (by decide) (by decide)) (word (by decide) (by decide))
    ⟨by decide, List.all_eq_true.mp spaces⟩ (by decide)⟩

end Construe.Creatures
