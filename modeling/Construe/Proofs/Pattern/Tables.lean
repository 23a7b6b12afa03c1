import Construe.Proofs.Pattern.Ranges

/-! # The sets of properties

Every set that a property stands for is tame. The tables that are written out are checked range by
range, by evaluation; the sets that are put together from tables are tame by the way in which they
are put together. -/
namespace Construe

namespace CharSet

theorem tame_unionAll {sets : List CharSet} (each : ∀ s ∈ sets, Upto top s) (bound : Nat) :
    Tame top bound (unionAll sets) := by
  have grows (s : CharSet) (tame : Tame top bound s) : Tame top bound (sets.foldl union s) := by
    induction sets generalizing s with
    | nil => exact tame
    | cons t sets ih =>
      obtain ⟨next, others⟩ := List.forall_mem_cons.mp each
      exact ih others _ (tame_union tame.toUpto next bound)
  exact grows .empty ⟨⟨by simp [CharSet.Proper, empty], by simp [empty]⟩, .nil⟩

theorem upto_unionAll {sets : List CharSet} (each : ∀ s ∈ sets, Upto top s) :
    Upto top (unionAll sets) :=
  (tame_unionAll each 0).toUpto

theorem upto_union {s t : CharSet} (left : Upto top s) (right : Upto top t) :
    Upto top (s.union t) :=
  (tame_union left right 0).toUpto

theorem upto_of_isCanonical {s : CharSet} (canonical : s.isCanonical = true) : Upto maxCode s :=
  upto_of_proper (proper_of_isCanonical canonical)

end CharSet

namespace Unicode

open CharSet

/-- A set of characters in disorder at most around the surrogates. -/
abbrev Orderly (s : CharSet) : Prop := Tame maxCode 0xE001 s

theorem orderly_of_isCanonical {s : CharSet} (canonical : s.isCanonical = true) : Orderly s :=
  tame_of_isCanonical canonical _

theorem orderly_union {s t : CharSet} (left : Upto maxCode s) (right : Upto maxCode t) :
    Orderly (s.union t) :=
  tame_union left right _

theorem orderly_unionAll {sets : List CharSet} (each : ∀ s ∈ sets, Upto maxCode s) :
    Orderly (unionAll sets) :=
  tame_unionAll each _

theorem orderly_complement {s : CharSet} (tame : Tame maxCode 0xE000 s) : Orderly s.complement :=
  tame_complement (Nat.le_refl _) (by decide) tame

/-! ### General categories -/

namespace Category

/-- The categories that are written out. -/
def written : List CharSet := [uppercaseLetter, lowercaseLetter, titlecaseLetter, modifierLetter,
  otherLetter, nonspacingMark, spacingMark, enclosingMark, decimalNumber, letterNumber, otherNumber,
  connectorPunctuation, dashPunctuation, openPunctuation, closePunctuation, initialPunctuation,
  finalPunctuation, otherPunctuation, mathSymbol, currencySymbol, modifierSymbol, otherSymbol,
  spaceSeparator, lineSeparator, paragraphSeparator, control, format, privateUse]

theorem canonical_written : ∀ s ∈ written, s.isCanonical = true :=
  List.all_eq_true.mp (by decide +kernel)

theorem upto_written : ∀ s ∈ written, Upto maxCode s :=
  fun s member => upto_of_isCanonical (canonical_written s member)

/-- The categories that join others. -/
def joined : List CharSet := [casedLetter, letter, mark, number, punctuation, symbol, separator]

theorem orderly_joined : ∀ s ∈ joined, Orderly s := by
  have parts := upto_written
  simp only [written, List.forall_mem_cons] at parts
  simp [joined, casedLetter, letter, mark, number, punctuation, symbol, separator, parts,
    upto_unionAll, orderly_unionAll]

/-- The surrogates are no characters, but what touches them on both sides is unassigned or for
private use. -/
theorem canonical_unassigned : unassigned.isCanonical = true ∧ other.isCanonical = true := by
  decide +kernel

theorem upto_parts : ∀ s ∈ written ++ joined, Upto maxCode s :=
  List.forall_mem_append.mpr ⟨upto_written, fun s member => (orderly_joined s member).toUpto⟩

end Category

open Category in
theorem Property.orderly_category? {name : String} (named : category? name = some s) :
    Orderly s := by
  have written : ∀ s ∈ written, Orderly s := fun s member =>
    orderly_of_isCanonical (canonical_written s member)
  have joined := orderly_joined
  have others : Orderly unassigned ∧ Orderly assigned ∧ Orderly other ∧ Orderly .all ∧
      Orderly (.ofRanges [⟨0, 0x7F⟩]) :=
    ⟨orderly_of_isCanonical canonical_unassigned.1,
      orderly_complement (tame_of_isCanonical canonical_unassigned.1 _),
      orderly_of_isCanonical canonical_unassigned.2, orderly_of_isCanonical rfl,
      orderly_of_isCanonical rfl⟩
  simp only [Category.written, Category.joined, List.forall_mem_cons] at written joined
  unfold category? at named
  split at named <;> simp only [Option.some.injEq, reduceCtorEq] at named <;> subst named <;>
    simp only [written, joined, others]

/-! ### Binary properties -/

namespace Binary

/-- The properties that are written out. -/
def written : List CharSet := [asciiHexDigit, bidiControl, bidiMirrored, dash, deprecated,
  diacritic, emoji, emojiComponent, emojiModifier, emojiModifierBase, emojiPresentation,
  extendedPictographic, extender, graphemeLink, hexDigit, hyphen, idsBinaryOperator,
  idsTrinaryOperator, idsUnaryOperator, idCompatMathStart, ideographic, joinControl,
  logicalOrderException, modifierCombiningMark, noncharacterCodePoint, otherAlphabetic,
  otherDefaultIgnorableCodePoint, otherGraphemeExtend, otherIdContinue, otherIdStart,
  otherLowercase, otherMath, otherUppercase, patternSyntax, patternWhiteSpace,
  prependedConcatenationMark, quotationMark, radical, regionalIndicator, sentenceTerminal,
  softDotted, terminalPunctuation, unifiedIdeograph, variationSelector, whiteSpace]

theorem canonical_written : ∀ s ∈ written, s.isCanonical = true :=
  List.all_eq_true.mp (by decide +kernel)

theorem upto_parts : ∀ s ∈ Category.written ++ Category.joined ++ written, Upto maxCode s :=
  List.forall_mem_append.mpr ⟨Category.upto_parts, fun s member =>
    upto_of_isCanonical (canonical_written s member)⟩

theorem orderly_adjust {base : CharSet} {add remove : List Nat} (upto : Upto maxCode base)
    (added : (ofPacked add).isCanonical = true) (removed : (ofPacked remove).isCanonical = true) :
    Orderly (adjust base add remove) :=
  tame_diff (tame_union upto (upto_of_isCanonical added) _) (proper_of_isCanonical removed)

/-- The properties that join others and categories. -/
def joined : List CharSet := [lowercase, uppercase, alphabetic, cased, math, graphemeExtend]

theorem orderly_joined : ∀ s ∈ joined, Orderly s := by
  have parts := upto_parts
  simp only [written, Category.written, Category.joined, List.cons_append, List.nil_append,
    List.forall_mem_cons] at parts
  simp [joined, lowercase, uppercase, alphabetic, cased, math, graphemeExtend, parts, upto_union,
    orderly_union, orderly_unionAll]

/-- The properties that add something to others, or leave something out. -/
def adjusted : List CharSet := [caseIgnorable, defaultIgnorableCodePoint, graphemeBase, idStart,
  idContinue, xidStart, xidContinue, idCompatMathContinue, changesWhenLowercased,
  changesWhenUppercased, changesWhenTitlecased, changesWhenCasemapped, changesWhenCasefolded]

theorem orderly_adjusted : ∀ s ∈ adjusted, Orderly s := by
  have parts := upto_parts
  simp only [written, Category.written, Category.joined, List.cons_append, List.nil_append,
    List.forall_mem_cons] at parts
  have marks : Upto maxCode graphemeExtend := (orderly_joined _ (by simp [joined])).toUpto
  have excluded : Upto maxCode patternSyntax := by simp [parts]
  have start : Orderly idStart := tame_diff (tame_unionAll (by simp [parts]) _) excluded.proper
  have inside : Orderly idContinue := orderly_unionAll (by simp [parts, start.toUpto])
  have lower : Orderly changesWhenLowercased :=
    orderly_adjust (upto_union (by simp [parts]) (by simp [parts])) (by decide +kernel)
      (by decide +kernel)
  have upper : Orderly changesWhenUppercased :=
    orderly_adjust (by simp [parts]) (by decide +kernel) (by decide +kernel)
  have title : Orderly changesWhenTitlecased :=
    orderly_adjust upper.toUpto (by decide +kernel) (by decide +kernel)
  simp only [adjusted, List.forall_mem_cons]
  refine ⟨?_, ?_, ?_, start, inside, ?_, ?_, ?_, lower, upper, title, ?_, ?_, by simp⟩
  · exact orderly_union (upto_unionAll (by simp [parts])) (upto_of_isCanonical (by decide +kernel))
  · exact orderly_adjust (upto_unionAll (by simp [parts])) (by decide +kernel) (by decide +kernel)
  · refine orderly_complement (tame_unionAll ?_ _)
    simp [parts, marks, upto_of_isCanonical Category.canonical_unassigned.2]
  · exact orderly_adjust start.toUpto (by decide +kernel) (by decide +kernel)
  · exact orderly_adjust inside.toUpto (by decide +kernel) (by decide +kernel)
  · exact orderly_union (by simp [parts]) (upto_of_isCanonical (by decide +kernel))
  · exact orderly_unionAll (by simp [lower.toUpto, upper.toUpto, title.toUpto])
  · exact orderly_adjust lower.toUpto (by decide +kernel) (by decide +kernel)

end Binary

open Binary in
theorem Property.orderly_binary? {name : String} (named : binary? name = some s) : Orderly s := by
  have written : ∀ s ∈ written, Orderly s := fun s member =>
    orderly_of_isCanonical (canonical_written s member)
  have joined := orderly_joined
  have adjusted := orderly_adjusted
  simp only [Binary.written, Binary.joined, Binary.adjusted, List.forall_mem_cons]
    at written joined adjusted
  unfold binary? at named
  split at named <;> simp only [Option.some.injEq, reduceCtorEq] at named <;> subst named <;>
    simp only [written, joined, adjusted]

/-! ### Scripts, ages and segmentation -/

theorem Script.canonical_table : ∀ script ∈ table,
    (ofPacked script.own).isCanonical = true ∧ (ofPacked script.shared).isCanonical = true := by
  have all : (table.all fun script =>
      (ofPacked script.own).isCanonical && (ofPacked script.shared).isCanonical) = true := by
    decide +kernel
  simpa using all

theorem Script.orderly_set {script : Script} (listed : script ∈ table) : Orderly script.set :=
  orderly_of_isCanonical (canonical_table script listed).1

theorem Script.orderly_extended {script : Script} (listed : script ∈ table) :
    Orderly script.extended := by
  have own := orderly_set listed
  unfold extended
  split
  · have shrinks (scripts : List Script) (each : ∀ t ∈ scripts, t ∈ table) (s : CharSet)
        (orderly : Orderly s) :
        Orderly (scripts.foldl (fun acc t => acc.diff (.ofPacked t.shared)) s) := by
      induction scripts generalizing s with
      | nil => exact orderly
      | cons t scripts ih =>
        obtain ⟨first, others⟩ := List.forall_mem_cons.mp each
        exact ih others _
          (tame_diff orderly (proper_of_isCanonical (canonical_table t first).2))
    exact shrinks table (fun _ member => member) _ own
  · exact orderly_union own.toUpto (upto_of_isCanonical (canonical_table script listed).2)

theorem Script.orderly_find? {pick : Script → CharSet} {name : String}
    (each : ∀ {script : Script}, script ∈ table → Orderly (pick script))
    (named : (find? name).map pick = some s) : Orderly s := by
  obtain ⟨script, found, rfl⟩ := Option.map_eq_some_iff.mp named
  exact each (List.mem_of_find?_eq_some found)

theorem Edition.canonical_table : ∀ e ∈ table, (ofPacked e.added).isCanonical = true :=
  List.all_eq_true.mp (by decide +kernel)

theorem Edition.mem_of_upTo? {name : String} {all editions : List Edition}
    (found : upTo? name all = some editions) : ∀ e ∈ editions, e ∈ all := by
  fun_induction upTo? name all generalizing editions with
  | case1 => contradiction
  | case2 e rest called =>
    cases found
    simp
  | case3 e rest other ih =>
    obtain ⟨others, later, rfl⟩ := Option.map_eq_some_iff.mp found
    exact List.forall_mem_cons.mpr ⟨List.mem_cons_self, fun e' member =>
      List.mem_cons_of_mem e (ih later e' member)⟩

theorem orderly_age? {name : String} (named : age? name = some s) : Orderly s := by
  obtain ⟨editions, found, rfl⟩ := Option.map_eq_some_iff.mp named
  refine orderly_unionAll fun s member => ?_
  obtain ⟨e, listed, rfl⟩ := List.mem_map.mp member
  exact upto_of_isCanonical (Edition.canonical_table e (Edition.mem_of_upTo? found e listed))

theorem BreakClass.canonical_tables : ∀ b ∈ grapheme ++ word ++ sentence,
    b.set.isCanonical = true :=
  List.all_eq_true.mp (by decide +kernel)

theorem BreakClass.orderly_find? {name : String} {table : List BreakClass}
    (known : table ⊆ grapheme ++ word ++ sentence) (named : find? name table = some s) :
    Orderly s := by
  obtain ⟨b, found, rfl⟩ := Option.map_eq_some_iff.mp named
  exact orderly_of_isCanonical (canonical_tables b (known (List.mem_of_find?_eq_some found)))

/-! ### Properties by name -/

namespace Property

theorem orderly_named? {name : String} (named : named? name = some s) : Orderly s := by
  simp only [named?, Option.orElse_eq_orElse, Option.orElse_eq_or, Option.or_eq_some_iff] at named
  rcases named with first | ⟨_, next | ⟨_, last⟩⟩
  · exact orderly_binary? first
  · exact orderly_category? next
  · exact Script.orderly_find? Script.orderly_set last

theorem orderly_valued? {name value : String} (named : valued? name value = some s) :
    Orderly s := by
  unfold valued? at named
  dsimp only at named
  split at named
  · exact orderly_category? named
  · exact orderly_category? named
  · exact Script.orderly_find? Script.orderly_set named
  · exact Script.orderly_find? Script.orderly_set named
  · exact Script.orderly_find? Script.orderly_extended named
  · exact Script.orderly_find? Script.orderly_extended named
  · exact orderly_age? named
  · exact BreakClass.orderly_find? (by simp) named
  · exact BreakClass.orderly_find? (by simp) named
  · exact BreakClass.orderly_find? (by simp) named
  · exact BreakClass.orderly_find? (by simp) named
  · exact BreakClass.orderly_find? (by simp) named
  · exact BreakClass.orderly_find? (by simp) named
  · exact absurd named (by simp)

end Property

theorem canonical_digit : digit.isCanonical = true :=
  Category.canonical_written _ (by simp [Category.written, digit])

theorem canonical_space : space.isCanonical = true :=
  Binary.canonical_written _ (by simp [Binary.written, space])

theorem orderly_word : Orderly word := by
  have parts := Binary.upto_parts
  have joined := Binary.orderly_joined
  simp only [Binary.written, Category.written, Category.joined, Binary.joined, List.cons_append,
    List.nil_append, List.forall_mem_cons] at parts joined
  simp [word, parts, joined.2.2.1.toUpto, orderly_unionAll]

end Unicode

end Construe
