import Construe.Proofs.Anchoring
import Construe.Proofs.Pattern.Budget
import Construe.Proofs.Pattern.Plain
import Construe.Proofs.Pattern.Pieces

/-! # Patterns that are made of fields

Many patterns are a row of parts, some of them groups, and each part takes texts of one kind
wherever it stands. Such a pattern matches a whole text if the text is a row of words of these
kinds, and the groups then have their words. -/
namespace Construe.Pattern

namespace Expr

/-! ### Expressions without groups -/

/-- From any place the expression leads over just the words of the language, and nothing is noted
on the way. -/
def Reads (e : Expr) (words : List Char → Prop) : Prop :=
  ∀ (before rest : List Char) (notes : List (Nat × Nat)) (b : Spot),
    e.Takes (before ++ rest).toArray (before.length, notes) b ↔
      ∃ word after, words word ∧ rest = word ++ after ∧ b = (before.length + word.length, notes)

theorem Reads.congr {e : Expr} {words others : List Char → Prop} (reads : e.Reads words)
    (same : ∀ word, words word ↔ others word) : e.Reads others := by
  obtain rfl : words = others := funext fun word => propext (same word)
  exact reads

theorem getElem?_here (before rest : List Char) :
    (before ++ rest).toArray[before.length]? = rest.head? := by
  simpa [List.head?_eq_getElem?] using Program.getElem?_toArray_append before rest 0

theorem reads_literal (cs : List Char) : (literal cs).Reads (· = cs) := by
  intro before rest notes b
  rw [Takes]
  induction cs generalizing before rest with
  | nil => simp [TakesLetters, eq_comm]
  | cons c cs ih =>
    rw [TakesLetters, getElem?_here]
    cases rest with
    | nil => simp
    | cons d rest =>
      have onward := ih (before ++ [d]) rest
      simp only [List.append_assoc, List.singleton_append, List.length_append,
        List.length_singleton] at onward
      simp only [List.head?_cons, Option.some.injEq, onward, exists_and_left, exists_eq_left,
        List.cons_append, List.cons.injEq, List.length_cons]
      constructor
      · rintro ⟨rfl, after, rfl, rfl⟩
        exact ⟨after, ⟨rfl, rfl⟩, by rw [Nat.add_assoc, Nat.add_comm 1]⟩
      · rintro ⟨after, ⟨rfl, rfl⟩, rfl⟩
        exact ⟨rfl, after, rfl, by rw [Nat.add_assoc, Nat.add_comm 1]⟩

/-- As many characters of the set as there are rounds. -/
theorem rounds_takesOne {set : CharSet} (n : Nat) (before rest : List Char)
    (notes : List (Nat × Nat)) (b : Spot) :
    Rounds (TakesOne (before ++ rest).toArray set) n (before.length, notes) b ↔
      ∃ word after, (word.length = n ∧ ∀ c ∈ word, set.contains c = true) ∧ rest = word ++ after ∧
        b = (before.length + word.length, notes) := by
  induction n generalizing before rest with
  | zero =>
    constructor
    · rintro rfl
      exact ⟨[], rest, by simp⟩
    · rintro ⟨word, after, ⟨none, _⟩, _, rfl⟩
      rw [none]
      rfl
  | succ n ih =>
    simp only [Rounds, TakesOne, getElem?_here]
    cases rest with
    | nil => simp
    | cons d rest =>
      have onward := ih (before ++ [d]) rest
      simp only [List.append_assoc, List.singleton_append, List.length_append,
        List.length_singleton] at onward
      constructor
      · rintro ⟨_, ⟨c, here, inside, rfl⟩, others⟩
        cases here
        obtain ⟨word, after, ⟨rfl, all⟩, rfl, rfl⟩ := onward.mp others
        exact ⟨d :: word, after, ⟨rfl, List.forall_mem_cons.mpr ⟨inside, all⟩⟩, rfl,
          by rw [List.length_cons, Nat.add_assoc, Nat.add_comm 1]⟩
      · rintro ⟨_ | ⟨c, word⟩, after, ⟨length, all⟩, same, rfl⟩
        · contradiction
        · cases same
          obtain ⟨inside, all⟩ := List.forall_mem_cons.mp all
          refine ⟨_, ⟨d, rfl, inside, rfl⟩, onward.mpr ⟨word, after, ⟨?_, all⟩, rfl, ?_⟩⟩
          · exact Nat.succ.inj length
          · rw [List.length_cons, Nat.add_assoc, Nat.add_comm 1]

theorem reads_run (min : Nat) (greedy : Bool) (set : CharSet) :
    (rep min none greedy (chars set)).Reads
      fun word => min ≤ word.length ∧ ∀ c ∈ word, set.contains c = true := by
  intro before rest notes b
  have rounds (n : Nat) : Rounds (TakesOne (before ++ rest).toArray set) n _ _ ↔ _ :=
    rounds_takesOne n before rest notes b
  simp only [Takes, rounds]
  constructor
  · rintro ⟨_, least, -, word, after, ⟨rfl, all⟩, split, ends⟩
    exact ⟨word, after, ⟨least, all⟩, split, ends⟩
  · rintro ⟨word, after, ⟨least, all⟩, split, ends⟩
    exact ⟨_, least, by simp, word, after, ⟨rfl, all⟩, split, ends⟩

/-- Any characters but the end of a line. -/
def oneLine : Expr := rep 0 none true (chars (CharSet.singleton '\n').complement)

theorem reads_oneLine : oneLine.Reads ('\n' ∉ ·) := by
  refine (reads_run 0 true _).congr fun word => ?_
  have others (c : Char) : (CharSet.singleton '\n').complement.contains c = true ↔ c ≠ '\n' := by
    have ranges : (CharSet.singleton '\n').complement = ⟨[⟨0, 9⟩, ⟨11, maxCode⟩]⟩ := by decide
    have bound : c.toNat ≤ maxCode := le_maxCode c.valid
    have line : '\n'.toNat = 10 := rfl
    rw [ranges, ne_eq, ← Char.toNat_inj, line]
    simp only [CharSet.contains, CharRange.covers, List.any_cons, List.any_nil, Bool.or_false,
      Bool.or_eq_true, Bool.and_eq_true, decide_eq_true_eq]
    omega
  simp only [others, Nat.zero_le, true_and]
  exact ⟨fun each line => each _ line rfl, fun none c member line => none (line ▸ member)⟩

theorem costs_oneLine : oneLine.Costs 2000 :=
  fun d => (costs_star (costs_chars _) true d).mono (by decide +kernel)

theorem Reads.option {e : Expr} {words : List Char → Prop} (reads : e.Reads words)
    (greedy : Bool) : (rep 0 (some 1) greedy e).Reads fun word => word = [] ∨ words word := by
  intro before rest notes b
  have once := reads before rest notes b
  rw [Takes]
  constructor
  · rintro ⟨n, -, few, rounds⟩
    have few : n ≤ 1 := few 1 rfl
    obtain rfl | rfl : n = 0 ∨ n = 1 := by omega
    · cases rounds
      exact ⟨[], rest, .inl rfl, rfl, rfl⟩
    · obtain ⟨word, after, inside, split, ends⟩ := once.mp (Rounds.one.mp rounds)
      exact ⟨word, after, .inr inside, split, ends⟩
  · rintro ⟨word, after, rfl | inside, split, rfl⟩
    · exact ⟨0, by simp [Rounds]⟩
    · exact ⟨1, by simp, by simp,
        Rounds.one.mpr (once.mpr ⟨word, after, inside, split, rfl⟩)⟩

end Expr

/-! ### Rows of parts -/

/-- A part of a pattern: whether it is a group, and the words it takes. -/
structure Segment where
  held : Bool
  words : List Char → Prop

/-- One word for each part. -/
abbrev Segment.Row (parts : List Segment) (row : List (List Char)) : Prop :=
  List.Forall₂ (fun part word => part.words word) parts row

namespace Segment

/-- The words of the groups. -/
def captured : List Segment → List (List Char) → List (List Char)
  | ⟨true, _⟩ :: parts, word :: row => word :: captured parts row
  | ⟨false, _⟩ :: parts, _ :: row => captured parts row
  | _, _ => []

/-- What is noted of the words of the groups, the first of which has the given index. -/
def noted : (index pos : Nat) → List Segment → List (List Char) → List (Nat × Nat) →
    List (Nat × Nat)
  | index, pos, ⟨true, _⟩ :: parts, word :: row, notes =>
    noted (index + 1) (pos + word.length) parts row
      ((2 * index + 1, pos + word.length) :: (2 * index, pos) :: notes)
  | index, pos, ⟨false, _⟩ :: parts, word :: row, notes =>
    noted index (pos + word.length) parts row notes
  | _, _, _, _, notes => notes

/-- What was noted before stays, for groups with a lower index. -/
theorem lookup_noted {index pos : Nat} {parts : List Segment} {row : List (List Char)}
    {notes : List (Nat × Nat)} (lower : slot < 2 * index) :
    (noted index pos parts row notes).lookup slot = notes.lookup slot := by
  fun_induction noted index pos parts row notes with
  | case1 index pos words parts word row notes ih =>
    have opened : (slot == 2 * index) = false := by simp; omega
    have closed : (slot == 2 * index + 1) = false := by simp; omega
    rw [ih (by omega), List.lookup_cons, List.lookup_cons, opened, closed]
  | case2 index pos words parts word row notes ih => exact ih lower
  | case3 => rfl

/-- What a match has for a group. -/
def textOf (text : Text) (notes : List (Nat × Nat)) (index : Nat) : Option String :=
  ((⟨0, 0, notes⟩ : Match).group? index).map fun (start, stop) =>
    String.ofList (text.extract start stop).toList

theorem length_captured {parts : List Segment} {row : List (List Char)} (all : Row parts row) :
    (captured parts row).length = (parts.filter held).length := by
  induction all with
  | nil => rfl
  | @cons part word parts row _ _ ih =>
    obtain ⟨_ | _, _⟩ := part
    · simpa [captured] using ih
    · simpa [captured] using ih

theorem noted_of_free {index pos : Nat} {parts : List Segment} {row : List (List Char)}
    {notes : List (Nat × Nat)} (free : parts.filter held = []) :
    noted index pos parts row notes = notes := by
  fun_induction noted index pos parts row notes with
  | case1 => simp at free
  | case2 index pos words parts word row notes ih => exact ih (by simpa using free)
  | case3 => rfl

theorem extract_word (before word after : List Char) :
    ((before ++ (word ++ after)).toArray.extract before.length
      (before.length + word.length)).toList = word := by
  simp

/-- The groups have their words. -/
theorem textOf_noted (index pos : Nat) (parts : List Segment) (row : List (List Char))
    (notes : List (Nat × Nat)) {before : List Char} (here : before.length = pos)
    (after : List Char) :
    (List.range' index (captured parts row).length).map
      (textOf (before ++ (row.flatten ++ after)).toArray (noted index pos parts row notes)) =
    (captured parts row).map fun word => some (String.ofList word) := by
  fun_induction noted index pos parts row notes generalizing before with
  | case1 index pos words parts word row notes ih =>
    have onward := ih (show (before ++ word).length = _ by rw [List.length_append, here])
    have opened : (noted (index + 1) (pos + word.length) parts row
        ((2 * index + 1, pos + word.length) :: (2 * index, pos) :: notes)).lookup (2 * index) =
        some pos := by
      have apart : (2 * index == 2 * index + 1) = false := by simp
      rw [lookup_noted (by omega), List.lookup_cons, apart, List.lookup_cons_self]
    have closed : (noted (index + 1) (pos + word.length) parts row
        ((2 * index + 1, pos + word.length) :: (2 * index, pos) :: notes)).lookup
          (2 * index + 1) = some (pos + word.length) := by
      rw [lookup_noted (by omega), List.lookup_cons_self]
    rw [captured, List.length_cons, List.range'_succ, List.map_cons, List.map_cons]
    refine congrArg₂ _ ?_ ?_
    · subst here
      simp only [textOf, Match.group?, opened, closed, List.flatten_cons, List.append_assoc]
      exact congrArg some (congrArg String.ofList (extract_word before word _))
    · rw [← onward]
      simp [List.append_assoc]
  | case2 index pos words parts word row notes ih =>
    have onward := ih (show (before ++ word).length = _ by rw [List.length_append, here])
    rw [captured, ← onward]
    simp [List.append_assoc]
  | case3 index pos notes parts row none some =>
    rw [captured]
    · rfl
    · exact none
    · exact some

/-! ### Rows that can be told from the text -/

/-- No text is a row of words in two ways. -/
def Unambiguous (parts : List Segment) : Prop :=
  ∀ row row', Row parts row → Row parts row' → row.flatten = row'.flatten → row = row'

theorem unambiguous_nil : Unambiguous [] := by
  rintro _ _ ⟨⟩ ⟨⟩ _
  rfl

variable {part : Segment} {parts : List Segment}

/-- The first word can be told, and then the others. -/
theorem Unambiguous.cons (others : Unambiguous parts)
    (first : ∀ word word' row row', part.words word → part.words word' → Row parts row →
      Row parts row' → word ++ row.flatten = word' ++ row'.flatten → word = word') :
    Unambiguous (part :: parts) := by
  intro _ _ all all' same
  obtain ⟨word, row, inside, rest, rfl⟩ := List.forall₂_cons_left_iff.mp all
  obtain ⟨word', row', inside', rest', rfl⟩ := List.forall₂_cons_left_iff.mp all'
  rw [List.flatten_cons, List.flatten_cons] at same
  obtain rfl := first word word' row row' inside inside' rest rest' same
  rw [others row row' rest rest' (List.append_cancel_left same)]

theorem Unambiguous.literal (others : Unambiguous parts) (held : Bool) (cs : List Char) :
    Unambiguous (⟨held, (· = cs)⟩ :: parts) := by
  refine others.cons ?_
  rintro _ _ _ _ rfl rfl _ _ _
  rfl

theorem unambiguous_last (part : Segment) : Unambiguous [part] := by
  refine unambiguous_nil.cons ?_
  rintro word word' _ _ _ _ ⟨⟩ ⟨⟩ same
  simpa using same

/-- What stands before a fixed end. -/
theorem unambiguous_before (part : Segment) (held : Bool) (cs : List Char) :
    Unambiguous [part, ⟨held, (· = cs)⟩] := by
  refine (unambiguous_last _).cons ?_
  rintro word word' _ _ _ _ (_ | ⟨rfl, ⟨⟩⟩) (_ | ⟨rfl, ⟨⟩⟩) same
  exact List.append_cancel_right same

theorem eq_of_append_of_heads {S : Char → Prop} {word word' rest rest' : List Char}
    (same : word ++ rest = word' ++ rest') (inside : ∀ c ∈ word, S c) (inside' : ∀ c ∈ word', S c)
    (ends : ∀ c ∈ rest.head?, ¬S c) (ends' : ∀ c ∈ rest'.head?, ¬S c) : word = word' := by
  induction word generalizing word' with
  | nil =>
    cases word' with
    | nil => rfl
    | cons c word' =>
      rw [List.nil_append] at same
      subst same
      exact absurd (inside' c List.mem_cons_self) (ends c rfl)
  | cons c word ih =>
    cases word' with
    | nil =>
      rw [List.nil_append] at same
      subst same
      exact absurd (inside c List.mem_cons_self) (ends' c rfl)
    | cons d word' =>
      obtain ⟨rfl, later⟩ := List.cons.inj same
      rw [ih later (fun x member => inside x (List.mem_cons_of_mem _ member))
        fun x member => inside' x (List.mem_cons_of_mem _ member)]

/-- A run of characters of one kind, up to one that is not. -/
theorem Unambiguous.run (others : Unambiguous parts) (S : Char → Prop)
    (inside : ∀ word, part.words word → ∀ c ∈ word, S c)
    (ends : ∀ row, Row parts row → ∀ c ∈ row.flatten.head?, ¬S c) :
    Unambiguous (part :: parts) :=
  others.cons fun _ _ _ _ word word' rest rest' same =>
    eq_of_append_of_heads same (inside _ word) (inside _ word') (ends _ rest) (ends _ rest')

end Segment

open Segment (Row captured noted textOf textOf_noted)

namespace Expr

/-- The expressions are those of the parts; groups are numbered in order. -/
inductive Lays : (index : Nat) → List Expr → List Segment → Prop where
  | nil : Lays index [] []
  | plain : e.Reads words → Lays index es parts → Lays index (e :: es) (⟨false, words⟩ :: parts)
  | group : e.Reads words → Lays (index + 1) es parts →
      Lays index (.capture index name e :: es) (⟨true, words⟩ :: parts)

/-- Expressions one after the other lead over a word for each part. -/
theorem Lays.takesAll {es : List Expr} {parts : List Segment} (lays : Lays index es parts)
    (before rest : List Char) (notes : List (Nat × Nat)) (b : Spot) :
    TakesAll (before ++ rest).toArray es (before.length, notes) b ↔
      ∃ row after, Row parts row ∧ rest = row.flatten ++ after ∧
        b = (before.length + row.flatten.length, noted index before.length parts row notes) := by
  induction lays generalizing before rest notes with
  | nil =>
    constructor
    · rintro rfl
      exact ⟨[], rest, .nil, rfl, rfl⟩
    · rintro ⟨_, after, ⟨⟩, rfl, rfl⟩
      rfl
  | plain reads lays ih =>
    constructor
    · rintro ⟨c, first, others⟩
      obtain ⟨word, after, inside, rfl, rfl⟩ := (reads before rest notes c).mp first
      rw [← List.append_assoc, ← List.length_append] at others
      obtain ⟨row, after, all, rfl, rfl⟩ := (ih (before ++ word) after notes).mp others
      exact ⟨word :: row, after, .cons inside all, by simp, by simp [noted, Nat.add_assoc]⟩
    · rintro ⟨_, after, all, rfl, rfl⟩
      obtain ⟨word, row, inside, others, rfl⟩ := List.forall₂_cons_left_iff.mp all
      refine ⟨_, (reads before _ notes _).mpr ⟨word, row.flatten ++ after, inside, by simp, rfl⟩,
        ?_⟩
      rw [← List.length_append, List.flatten_cons, List.append_assoc, ← List.append_assoc]
      exact (ih _ _ _).mpr ⟨row, after, others, rfl, by simp [noted, Nat.add_assoc]⟩
  | group reads lays ih =>
    constructor
    · rintro ⟨_, ⟨c, first, rfl⟩, others⟩
      obtain ⟨word, after, inside, rfl, rfl⟩ := (reads before rest _ c).mp first
      rw [← List.append_assoc] at others
      dsimp only at others
      rw [← List.length_append] at others
      obtain ⟨row, after, all, rfl, rfl⟩ := (ih (before ++ word) after _).mp others
      exact ⟨word :: row, after, .cons inside all, by simp, by simp [noted, Nat.add_assoc]⟩
    · rintro ⟨_, after, all, rfl, rfl⟩
      obtain ⟨word, row, inside, others, rfl⟩ := List.forall₂_cons_left_iff.mp all
      refine ⟨_, ⟨_, (reads before _ _ _).mpr ⟨word, row.flatten ++ after, inside, by simp, rfl⟩,
        rfl⟩, ?_⟩
      dsimp only
      rw [← List.length_append, List.flatten_cons, List.append_assoc, ← List.append_assoc]
      exact (ih _ _ _).mpr ⟨row, after, others, rfl, by simp [noted, Nat.add_assoc]⟩

/-- A sequence without groups. -/
theorem Lays.reads {es : List Expr} {parts : List Segment} (lays : Lays index es parts)
    (free : parts.filter Segment.held = []) :
    (concat es).Reads fun word => ∃ row, Row parts row ∧ word = row.flatten := by
  intro before rest notes b
  rw [Takes, lays.takesAll]
  simp only [Segment.noted_of_free free]
  constructor
  · rintro ⟨row, after, all, split, ends⟩
    exact ⟨_, after, ⟨row, all, rfl⟩, split, ends⟩
  · rintro ⟨_, after, ⟨row, all, rfl⟩, split, ends⟩
    exact ⟨row, after, all, split, ends⟩

/-- Between its ends an expression is taken from end to end. -/
theorem takes_anchored {e : Expr} {text : Text} {start : Nat} {b : Spot} :
    (anchored e).Takes text (start, []) b ↔
      start = 0 ∧ e.Takes text (0, []) b ∧ b.1 = text.size := by
  rw [anchored, takes_sequence]
  constructor
  · rintro ⟨_, ⟨first, rfl⟩, c, inner, _, ⟨last, rfl⟩, rfl⟩
    obtain rfl : start = 0 := by simpa [Look.holds] using first
    exact ⟨rfl, inner, by simpa [Look.holds] using last⟩
  · rintro ⟨rfl, inner, last⟩
    exact ⟨_, ⟨rfl, rfl⟩, b, inner, b, ⟨by simpa [Look.holds] using last, rfl⟩, rfl⟩

end Expr

/-! ### Matching whole texts -/

/-- Matches whole texts that have a word for each part; the groups have their words. -/
structure Fills (m : Pattern) (parts : List Segment) : Prop where
  row {input : String} {texts : List (Option String)} : m.groups? input = some texts →
    ∃ row, Row parts row ∧ input.toList = row.flatten ∧
      texts = (captured parts row).map fun word => some (String.ofList word)
  found {input : String} {row : List (List Char)} : Row parts row → input.toList = row.flatten →
    ∃ texts, m.groups? input = some texts

variable {parts : List Segment} {es : List Expr} {m : Pattern} {source : String}

theorem fills_of_lays (lays : Expr.Lays 1 es parts)
    (program : m.program = (anchored (.concat es)).program)
    (count : m.groups = (parts.filter Segment.held).length) : m.Fills parts where
  row := by
    intro input texts found
    rw [groups?, program] at found
    obtain ⟨got, search, rfl⟩ := Option.map_eq_some_iff.mp found
    obtain ⟨-, -, taken⟩ := Program.takes_of_search search
    obtain ⟨-, taken, whole⟩ := Expr.takes_anchored.mp taken
    obtain ⟨row, after, all, split, ends⟩ := (lays.takesAll [] input.toList [] _).mp taken
    obtain ⟨stop, marks⟩ := Prod.mk.inj ends
    -- The match ends where the text does, so that nothing is left behind the words.
    obtain rfl : after = [] := by
      have length := congrArg List.length split
      simp only [List.size_toArray, List.length_append, List.length_nil] at whole stop length
      exact List.length_eq_zero_iff.mp (by omega)
    rw [List.append_nil] at split
    refine ⟨row, all, split, ?_⟩
    have texts : (List.range' 1 m.groups).map (textOf input.toList.toArray got.marks) =
        (captured parts row).map fun word => some (String.ofList word) := by
      have noted := textOf_noted 1 0 parts row [] List.length_nil []
      rw [List.append_nil, List.nil_append] at noted
      rw [marks, split, count, ← Segment.length_captured all]
      exact noted
    rw [← texts, List.range'_eq_map_range, List.map_map]
    refine List.map_congr_left fun i _ => ?_
    rw [Function.comp_apply, Nat.add_comm 1 i]
    rfl
  found := by
    intro input row all split
    have taken := (lays.takesAll [] input.toList [] _).mpr ⟨row, [], all, by simpa using split, rfl⟩
    have search : (m.program.search input.toList.toArray 0).isSome := by
      rw [program]
      refine Program.isSome_search_iff.mpr ⟨0, _, Nat.le_refl 0, Nat.zero_le _,
        Expr.takes_anchored.mpr ⟨rfl, taken, ?_⟩⟩
      simp [split]
    obtain ⟨got, search⟩ := Option.isSome_iff_exists.mp search
    exact ⟨_, by rw [groups?, search]; rfl⟩

theorem Fills.groups?_eq_some (fills : m.Fills parts) (clear : Segment.Unambiguous parts)
    {input : String} {texts : List (Option String)} :
    m.groups? input = some texts ↔ ∃ row, Row parts row ∧ input.toList = row.flatten ∧
      texts = (captured parts row).map fun word => some (String.ofList word) := by
  refine ⟨fills.row, ?_⟩
  rintro ⟨row, all, split, rfl⟩
  obtain ⟨texts, found⟩ := fills.found all split
  obtain ⟨row', all', split', rfl⟩ := fills.row found
  rwa [clear row row' all all' (split.symm.trans split')]

/-- A legible pattern is compiled for whole texts as it is, unless it is too large. -/
theorem whole_of_legible {e : Expr} (read : exprOf source = .ok e) (legible : e.legible = true)
    (numbered : NumberedFrom 0 e.captures) (low : (anchored e).height ≤ nestLimit)
    (fits : e.fits = true) (ends : (anchored e).fits = true) : ∃ m,
      whole source e.captures.length = .ok m ∧ m.groups = e.captures.length ∧
        m.program = (anchored e).program := by
  have count : e.groupCount = e.captures.length := (groupCount_eq_length_iff read).mpr numbered
  have meant := Expr.expr_retold (anchored e) 0 (reduced_anchored (reduced_exprOf read))
    (Expr.legible_sequence (by simpa [Expr.legible] using legible))
    (captures_anchored e ▸ numbered)
  have shallow := Expr.depth_retold_le (anchored e) 0 []
  rw [List.length_nil] at shallow
  have compiled := whole_of_accepted read fits meant
  rw [if_neg (by omega), if_pos ends, count] at compiled
  exact ⟨_, compiled, groups_whole compiled read, rfl⟩

/-- A light pattern that is a row of parts is compiled for whole texts that are such rows. -/
theorem exists_fills {most arity : Nat} (read : exprOf source = .ok (.concat es))
    (lays : Expr.Lays 1 es parts) (legible : (Expr.concat es).legible = true)
    (numbered : NumberedFrom 0 (Expr.concat es).captures)
    (count : (Expr.concat es).captures.length = arity)
    (held : (parts.filter Segment.held).length = arity)
    (ends : anchored (.concat es) = .concat (.look .textStart :: (es ++ [.look .textEnd])))
    (low : (anchored (.concat es)).height ≤ nestLimit)
    (costs : Expr.CostsAll es most) (light : most + 316 ≤ sizeLimit) :
    ∃ m, whole source arity = .ok m ∧ m.Fills parts := by
  have fits : (Expr.concat es).fits = true := Expr.fits_of_costs costs.concat (by omega)
  have whole : (anchored (.concat es)).fits = true := by
    rw [ends]
    exact Expr.fits_of_costs costs.anchored.concat (by omega)
  obtain ⟨m, compiled, groups, program⟩ := whole_of_legible read legible numbered low fits whole
  rw [count] at compiled groups
  exact ⟨m, compiled, fills_of_lays lays program (groups.trans held.symm)⟩

end Construe.Pattern
