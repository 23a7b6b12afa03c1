import Mathlib
import Construe.Pattern.Render
import Construe.Proofs.Pattern.Numbering

/-! # Rendered parts, read back

Outside verbose mode the reader takes the text of a character for that character, the text of a
class for the items of its ranges, and the text of a suffix for its bounds, whatever follows, if
it accepts the text at all. -/
namespace Construe.Pattern

open Build (bind_eq_ok)

/-! ### Characters -/

def metaChars : List Char :=
  ['\\', '.', '+', '*', '?', '(', ')', '|', '[', ']', '\x7b', '\x7d', '^', '$', '#', '&', '-', '~']

theorem isMeta_iff {c : Char} : isMeta c = true ↔ c ∈ metaChars := by
  simp [isMeta, String.contains_char_eq, metaChars]

theorem readEscape_of_isMeta (special : isMeta c = true) (verbose : Bool) (rest : List Char) :
    readEscape verbose (c :: rest) = plainLetter c rest := by
  have escapable : isEscapable c = true := by simp [isEscapable, special]
  simp only [isMeta_iff, metaChars, List.mem_cons, List.not_mem_nil, or_false] at special
  rcases special with rfl | rfl | rfl | rfl | rfl | rfl | rfl | rfl | rfl | rfl | rfl | rfl | rfl |
    rfl | rfl | rfl | rfl | rfl <;> exact if_pos escapable

/-- A rendered character begins with a backslash or stands for itself. -/
theorem renderChar_cons (c : Char) :
    ∃ d ds, renderChar c = d :: ds ∧ (d = '\\' ∨ d ∉ metaChars) := by
  unfold renderChar
  split
  · exact ⟨'\\', [c], rfl, .inl rfl⟩
  · rename_i ordinary
    exact ⟨c, [], rfl, .inr (isMeta_iff.not.mp ordinary)⟩

theorem ReadState.step_escape (s : ReadState) (rest : List Char) :
    s.step ('\\' :: rest) = do
      let (item, rest) ← readEscape s.verbose rest
      return (s.push item.toAst, rest) := rfl

theorem ReadState.step_ordinary (s : ReadState) {c : Char} (ordinary : ¬ isMeta c = true)
    (rest : List Char) : s.step (c :: rest) = .ok (s.push (.letter ⟨c, false⟩), rest) := by
  simp only [isMeta_iff, metaChars, List.mem_cons, List.not_mem_nil, or_false, not_or] at ordinary
  have item : readItem s.verbose (c :: rest) = plainLetter c rest := by
    unfold readItem
    split <;> simp_all
  unfold step
  split <;> simp_all only [List.cons.injEq, reduceCtorEq, false_and]
  rfl

theorem ReadState.step_renderChar (s : ReadState) (c : Char) (rest : List Char) :
    s.step (renderChar c ++ rest) = .ok (s.push (.letter ⟨c, false⟩), rest) := by
  unfold renderChar
  split
  · rename_i special
    rw [List.cons_append, List.cons_append, step_escape, readEscape_of_isMeta special]
    rfl
  · exact s.step_ordinary ‹_› rest

/-! ### Classes -/

/-- The items that the text of a range is read as. -/
def rangeItems (r : CharRange) : List ClassSet :=
  let lo : Letter := ⟨Char.ofNat r.lo, false⟩
  let hi : Letter := ⟨Char.ofNat r.hi, false⟩
  if r.lo == r.hi then [.letter lo]
  else if r.lo + 1 == r.hi then [.letter lo, .letter hi]
  else [.range lo hi]

theorem readClassItem_renderChar (c : Char) (rest : List Char) :
    readClassItem false (renderChar c ++ rest) = plainLetter c rest := by
  unfold renderChar
  split
  · exact readEscape_of_isMeta ‹_› false rest
  · rename_i ordinary
    have plain : c ≠ '\\' := by
      rintro rfl
      exact ordinary (isMeta_iff.mpr (by simp [metaChars]))
    rw [List.cons_append, List.nil_append, readClassItem]
    exact plain

/-- A text that ends a class or goes on with a rendered character. -/
def GoesOn (rest : List Char) : Prop :=
  ∃ d ds, rest = d :: ds ∧ (d = ']' ∨ d = '\\' ∨ d ∉ metaChars)

theorem goesOn_renderChar (c : Char) (rest : List Char) : GoesOn (renderChar c ++ rest) := by
  obtain ⟨d, ds, same, first⟩ := renderChar_cons c
  exact ⟨d, ds ++ rest, by simp [same], .inr first⟩

theorem GoesOn.ne_hyphen (goes : GoesOn rest) (after : List Char) : rest ≠ '-' :: after := by
  rintro rfl
  obtain ⟨d, ds, same, first⟩ := goes
  cases same
  simp [metaChars] at first

theorem readClassRange_letter (c : Char) (goes : GoesOn rest) :
    readClassRange false (renderChar c ++ rest) = .ok (.letter ⟨c, false⟩, rest) := by
  rw [readClassRange, readClassItem_renderChar]
  dsimp only [plainLetter, bind, Except.bind]
  rw [show skip false rest = rest from rfl]
  split
  · obtain ⟨d, ds, same, _⟩ := goes
    cases same
  · exact absurd rfl (goes.ne_hyphen _)
  · rfl

theorem readClassRange_range (a b : Char) (rest : List Char) :
    readClassRange false (renderChar a ++ '-' :: (renderChar b ++ rest)) =
      if a ≤ b then .ok (.range ⟨a, false⟩ ⟨b, false⟩, rest) else .error .badClass := by
  obtain ⟨d, ds, same, first⟩ := renderChar_cons b
  have joins : ¬ ((some d == some ']' || some d == some '-') = true) := by
    rcases first with rfl | ordinary
    · decide
    · simp only [metaChars, List.mem_cons, not_or] at ordinary
      simp [ordinary]
  rw [readClassRange, readClassItem_renderChar]
  show (if (peek false (renderChar b ++ rest) == some ']' ||
    peek false (renderChar b ++ rest) == some '-') = true then _ else _) = _
  have next : peek false (renderChar b ++ rest) = some d := by simp [peek, same]
  rw [next, if_neg joins, show skip false (renderChar b ++ rest) = renderChar b ++ rest from rfl,
    readClassItem_renderChar]
  rfl

theorem readClassFrom_renderChar (fuel : Nat) (s : ClassState) (c : Char) (rest : List Char) :
    readClassFrom false (fuel + 1) s (renderChar c ++ rest) = (do
      let (item, rest) ← readClassRange false (renderChar c ++ rest)
      readClassFrom false fuel ⟨item :: s.items, s.frames⟩ rest) := by
  unfold renderChar
  split
  · rfl
  · rename_i ordinary
    simp only [isMeta_iff, metaChars, List.mem_cons, List.not_mem_nil, or_false, not_or] at ordinary
    rw [List.cons_append, List.nil_append, readClassFrom]
    rw [show skip false (c :: rest) = c :: rest from rfl]
    split <;> simp_all only [List.cons.injEq, reduceCtorEq, false_and]

theorem readClassFrom_letter {fuel : Nat} {items : List ClassSet} {frames : List ClassFrame}
    (c : Char) (goes : GoesOn rest)
    (read : readClassFrom false fuel ⟨items, frames⟩ (renderChar c ++ rest) = .ok x) :
    ∃ fuel, readClassFrom false fuel ⟨.letter ⟨c, false⟩ :: items, frames⟩ rest = .ok x := by
  cases fuel with
  | zero => contradiction
  | succ fuel =>
    rw [readClassFrom_renderChar, readClassRange_letter c goes] at read
    exact ⟨fuel, read⟩

theorem readClassFrom_renderRange {fuel : Nat} {items : List ClassSet} {frames : List ClassFrame}
    (r : CharRange) (goes : GoesOn rest)
    (read : readClassFrom false fuel ⟨items, frames⟩ (renderRange r ++ rest) = .ok x) :
    ∃ fuel, readClassFrom false fuel ⟨(rangeItems r).reverse ++ items, frames⟩ rest = .ok x := by
  unfold renderRange at read
  unfold rangeItems
  dsimp only at read ⊢
  split at read
  · rename_i single
    rw [if_pos single]
    exact readClassFrom_letter _ goes read
  · rename_i several
    rw [if_neg several]
    split at read
    · rename_i pair
      rw [if_pos pair]
      rw [List.append_assoc] at read
      obtain ⟨_, read⟩ := readClassFrom_letter _ (goesOn_renderChar _ _) read
      exact readClassFrom_letter _ goes read
    · rename_i long
      rw [if_neg long]
      cases fuel with
      | zero => contradiction
      | succ fuel =>
        rw [List.append_assoc, List.cons_append, readClassFrom_renderChar,
          readClassRange_range] at read
        split at read
        · exact ⟨fuel, read⟩
        · contradiction

theorem renderRange_eq (r : CharRange) :
    ∃ tail, renderRange r = renderChar (Char.ofNat r.lo) ++ tail := by
  unfold renderRange
  dsimp only
  split
  · exact ⟨[], by simp⟩
  · split
    · exact ⟨_, rfl⟩
    · exact ⟨_, rfl⟩

theorem goesOn_ranges (rs : List CharRange) (rest : List Char) :
    GoesOn (rs.flatMap renderRange ++ ']' :: rest) := by
  cases rs with
  | nil => exact ⟨']', rest, rfl, .inl rfl⟩
  | cons r rs =>
    obtain ⟨tail, same⟩ := renderRange_eq r
    rw [List.flatMap_cons, same, List.append_assoc, List.append_assoc]
    exact goesOn_renderChar _ _

theorem readClassFrom_ranges {fuel : Nat} {items : List ClassSet} {frames : List ClassFrame}
    (rs : List CharRange)
    (read : readClassFrom false fuel ⟨items, frames⟩ (rs.flatMap renderRange ++ ']' :: rest) =
      .ok x) :
    ∃ fuel, readClassFrom false fuel ⟨(rs.flatMap rangeItems).reverse ++ items, frames⟩
      (']' :: rest) = .ok x := by
  induction rs generalizing fuel items with
  | nil => exact ⟨fuel, read⟩
  | cons r rs ih =>
    rw [List.flatMap_cons, List.append_assoc] at read
    obtain ⟨_, read⟩ := readClassFrom_renderRange r (goesOn_ranges rs rest) read
    obtain ⟨fuel, read⟩ := ih read
    exact ⟨fuel, by simpa using read⟩

/-- The structure that the text of a class with members is read as. -/
def retoldSet (set : CharSet) : Ast :=
  .bracketed false (.ofItems (set.ranges.flatMap rangeItems))

/-- The structure that the text of a class without members is read as. -/
def retoldEmptySet : Ast :=
  .bracketed false (.op .inter (.letter ⟨'a', false⟩) (.letter ⟨'b', false⟩))

theorem readOpening_renderChar (c : Char) (rest : List Char) :
    readOpening false (renderChar c ++ rest) = .ok ((false, []), renderChar c ++ rest) := by
  unfold renderChar
  split
  · rfl
  · rename_i ordinary
    simp only [isMeta_iff, metaChars, List.mem_cons, List.not_mem_nil, or_false, not_or] at ordinary
    have hyphens : readHyphens false false [] (c :: rest) = ([], c :: rest) := by
      simp [readHyphens, ordinary]
    simp [readOpening, skip, hyphens, ordinary]

theorem readClass_ranges {rs : List CharRange} (some : rs ≠ [])
    (read : readClass false (rs.flatMap renderRange ++ ']' :: rest) = .ok x) :
    x = ((false, .ofItems (rs.flatMap rangeItems)), rest) := by
  obtain ⟨r, others, rfl⟩ := List.exists_cons_of_ne_nil some
  obtain ⟨tail, same⟩ := renderRange_eq r
  unfold readClass at read
  rw [List.flatMap_cons, same, List.append_assoc, List.append_assoc, readOpening_renderChar,
    ← List.append_assoc, ← same, ← List.append_assoc, ← List.flatMap_cons] at read
  obtain ⟨fuel, read⟩ := readClassFrom_ranges _ read
  cases fuel with
  | zero => contradiction
  | succ fuel =>
    rw [List.append_nil, readClassFrom] at read
    cases read
    rw [List.reverse_reverse]

theorem ReadState.step_renderSet {s : ReadState} (plain : s.verbose = false) {set : CharSet}
    (some : set.isEmpty = false) (done : s.step (renderSet set ++ rest) = .ok x) :
    x = (s.push (retoldSet set), rest) := by
  have members : set.ranges ≠ [] := by simpa [CharSet.isEmpty] using some
  rw [renderSet, List.append_assoc, List.cons_append, List.singleton_append] at done
  obtain ⟨_, read, same⟩ := bind_eq_ok.mp done
  rw [plain] at read
  rw [readClass_ranges members read] at same
  cases same
  rfl

theorem ReadState.step_renderEmptySet {s : ReadState} (plain : s.verbose = false)
    (rest : List Char) :
    s.step (renderEmptySet ++ rest) = .ok (s.push retoldEmptySet, rest) := by
  have read : readClass false ("a&&b]".toList ++ rest) = .ok ((false,
      .op .inter (.letter ⟨'a', false⟩) (.letter ⟨'b', false⟩)), rest) := rfl
  obtain ⟨level, frames, verbose, captures, names⟩ := s
  cases plain
  exact bind_eq_ok.mpr ⟨_, read, rfl⟩

/-! ### Counts -/

theorem toNat_of_isDigit (digit : Char.isDigit c = true) : 48 ≤ c.toNat ∧ c.toNat ≤ 57 := by
  simpa [Char.isDigit, UInt32.le_iff_toNat_le] using digit

theorem toDigits_cons (n : Nat) : ∃ d ds, Nat.toDigits 10 n = d :: ds ∧ d.isDigit = true := by
  obtain ⟨d, ds, same⟩ := List.exists_cons_of_ne_nil (Nat.toDigits_ne_nil (b := 10) (n := n))
  refine ⟨d, ds, same, Nat.isDigit_of_mem_toDigits (b := 10) (n := n) ?_ ?_ ?_⟩
  · decide
  · decide
  · simp [same]

theorem isBlank_of_isDigit (digit : Char.isDigit c = true) : isBlank c = false := by
  have low := toNat_of_isDigit digit
  have blanks : Unicode.space.ranges = [⟨9, 13⟩, ⟨32, 32⟩, ⟨133, 133⟩, ⟨160, 160⟩, ⟨5760, 5760⟩,
      ⟨8192, 8202⟩, ⟨8232, 8233⟩, ⟨8239, 8239⟩, ⟨8287, 8287⟩, ⟨12288, 12288⟩] := by
    decide
  simp only [isBlank, CharSet.contains, blanks, CharRange.covers, List.any_cons, List.any_nil]
  grind

theorem readDigits_digits (before digits : List Char) (all : ∀ c ∈ digits, c.isDigit = true)
    {c : Char} (stop : c.isDigit = false) (rest : List Char) :
    readDigits false false before (digits ++ c :: rest) =
      (before.reverse ++ digits, c :: rest) := by
  induction digits generalizing before with
  | nil => simp [readDigits, stop]
  | cons d digits ih =>
    obtain ⟨first, others⟩ := List.forall_mem_cons.mp all
    rw [List.cons_append, readDigits]
    simp [first, ih _ others]

theorem decimalValue_toDigits (n : Nat) : decimalValue (Nat.toDigits 10 n) = n := by
  have same (digits : List Char) (value : Nat) :
      digits.foldl (fun value c => value * 10 + (c.toNat - '0'.toNat)) value =
        Nat.ofDigitChars 10 digits value := by
    simp only [Nat.ofDigitChars, Nat.mul_comm]
  rw [decimalValue, same, Nat.ofDigitChars_toDigits (by decide) (by decide)]

/-- A decimal number is read back, if it is small enough for a count. -/
theorem readCount_toDigits (n : Nat) {c : Char} (stop : c.isDigit = false)
    (solid : isBlank c = false) (rest : List Char) :
    readCount false (Nat.toDigits 10 n ++ c :: rest) =
      if n < 4294967296 then .ok (some n, c :: rest) else .error .badCount := by
  have all : ∀ d ∈ Nat.toDigits 10 n, d.isDigit = true := fun d =>
    Nat.isDigit_of_mem_toDigits (by decide) (by decide)
  have blanks : (Nat.toDigits 10 n ++ c :: rest).dropWhile isBlank =
      Nat.toDigits 10 n ++ c :: rest := by
    obtain ⟨d, ds, same, digit⟩ := toDigits_cons n
    rw [same, List.cons_append, List.dropWhile_cons_of_neg]
    simp [isBlank_of_isDigit digit]
  rw [readCount, blanks, readDigits_digits [] _ all stop]
  simp [skipAfterCount, solid, decimalValue_toDigits]

theorem eq_of_readCount {n : Nat} {c : Char} (stop : c.isDigit = false)
    (solid : isBlank c = false)
    (read : readCount false (Nat.toDigits 10 n ++ c :: rest) = .ok y) :
    y = (some n, c :: rest) := by
  rw [readCount_toDigits n stop solid] at read
  split at read
  · cases read
    rfl
  · contradiction

theorem eq_of_readBounds_exactly {m : Nat}
    (read : readBounds false (Nat.toDigits 10 m ++ '\x7d' :: rest) = .ok x) :
    x = ((m, some m), rest) := by
  obtain ⟨_, low, read⟩ := bind_eq_ok.mp read
  cases eq_of_readCount (by decide) (by decide) low
  cases read
  rfl

theorem eq_of_readBounds_atLeast {m : Nat}
    (read : readBounds false (Nat.toDigits 10 m ++ ',' :: '\x7d' :: rest) = .ok x) :
    x = ((m, none), rest) := by
  obtain ⟨_, low, read⟩ := bind_eq_ok.mp read
  cases eq_of_readCount (by decide) (by decide) low
  cases read
  rfl

theorem eq_of_readBounds_between {m n : Nat}
    (read : readBounds false (Nat.toDigits 10 m ++ ',' :: (Nat.toDigits 10 n ++ '\x7d' :: rest)) =
      .ok x) : x = ((m, some n), rest) := by
  obtain ⟨_, low, read⟩ := bind_eq_ok.mp read
  cases eq_of_readCount (by decide) (by decide) low
  simp only [skip, Bool.false_eq_true, if_false] at read
  split at read
  · rename_i closed
    obtain ⟨d, ds, same, digit⟩ := toDigits_cons n
    rw [same] at closed
    cases closed
    contradiction
  · obtain ⟨_, high, read⟩ := bind_eq_ok.mp read
    cases eq_of_readCount (by decide) (by decide) high
    simp only at read
    split at read
    · cases read
      rfl
    · contradiction

/-! ### Suffixes of repetitions -/

/-- The suffixes that a repetition is written with, each of which the reader takes for itself. One
round needs none, and the mark of laziness is a suffix too. -/
def suffixes (min : Nat) (max : Option Nat) (greedy : Bool) : List Bounds :=
  if some min = max then if min = 1 then [] else [(min, max)]
  else (min, max) :: if greedy then [] else [(0, some 1)]

theorem suffixes_eq (min : Nat) (max : Option Nat) (greedy : Bool) :
    (suffixes min max greedy = [] ∧ min = 1 ∧ max = some 1) ∨
    (min, max) ≠ (1, some 1) ∧
      (((greedy || max == some min) = true ∧ suffixes min max greedy = [(min, max)]) ∨
      ((greedy || max == some min) = false ∧
        suffixes min max greedy = [(min, max), (0, some 1)])) := by
  unfold suffixes
  split
  · rename_i fixed
    subst fixed
    split
    · rename_i one
      exact .inl ⟨rfl, one, by rw [one]⟩
    · rename_i several
      exact .inr ⟨by simp [several], .inl ⟨by simp, rfl⟩⟩
  · rename_i varying
    refine .inr ⟨?_, ?_⟩
    · rintro same
      cases same
      contradiction
    · cases greedy with
      | true => exact .inl ⟨rfl, rfl⟩
      | false => exact .inr ⟨by simpa using Ne.symm varying, rfl⟩

def renderSuffix (b : Bounds) : List Char := renderBounds b.1 b.2 true

theorem renderBounds_eq_flatMap (min : Nat) (max : Option Nat) (greedy : Bool) :
    renderBounds min max greedy = (suffixes min max greedy).flatMap renderSuffix := by
  fun_cases renderBounds min max greedy <;>
    cases greedy <;> simp_all [suffixes, renderSuffix, renderBounds, lazyMark]

theorem ReadState.step_renderSuffix {s : ReadState} (plain : s.verbose = false) {b : Bounds}
    (several : b ≠ (1, some 1)) (done : s.step (renderSuffix b ++ rest) = .ok x) :
    s.quantify b.1 b.2 rest = .ok x := by
  have braces (cs : List Char) (read : s.step ('\x7b' :: cs) = .ok x) :
      ∃ y, readBounds false cs = .ok y ∧ s.quantify y.1.1 y.1.2 y.2 = .ok x := by
    obtain ⟨y, read, done⟩ := bind_eq_ok.mp read
    rw [plain] at read done
    exact ⟨y, read, done⟩
  obtain ⟨min, max⟩ := b
  dsimp only [renderSuffix] at done ⊢
  unfold renderBounds at done
  split at done
  · exact done
  · exact done
  · exact done
  · contradiction
  · simp only [String.reduceToList, List.cons_append, List.nil_append, List.append_assoc] at done
    obtain ⟨y, read, done⟩ := braces _ done
    rw [eq_of_readBounds_atLeast read] at done
    exact done
  · split at done
    · rename_i same
      simp only [String.reduceToList, List.cons_append, List.nil_append, List.append_assoc] at done
      obtain ⟨y, read, done⟩ := braces _ done
      rw [eq_of_readBounds_exactly read] at done
      exact beq_iff_eq.mp same ▸ done
    · simp only [String.reduceToList, List.cons_append, List.nil_append, List.append_assoc] at done
      obtain ⟨y, read, done⟩ := braces _ done
      rw [eq_of_readBounds_between read] at done
      exact done

/-- A suffix begins with a question mark just if it is one. -/
theorem renderSuffix_cons {b : Bounds} (several : b ≠ (1, some 1)) :
    ∃ d ds, renderSuffix b = d :: ds ∧ (b ≠ (0, some 1) → d ≠ '?') := by
  obtain ⟨min, max⟩ := b
  dsimp only [renderSuffix]
  unfold renderBounds
  split
  · exact ⟨_, _, rfl, by simp⟩
  · exact ⟨_, _, rfl, by simp⟩
  · exact ⟨_, _, rfl, by simp⟩
  · contradiction
  · exact ⟨'\x7b', _, rfl, fun _ => by decide⟩
  · split
    · exact ⟨'\x7b', _, rfl, fun _ => by decide⟩
    · exact ⟨'\x7b', _, rfl, fun _ => by decide⟩

end Construe.Pattern
