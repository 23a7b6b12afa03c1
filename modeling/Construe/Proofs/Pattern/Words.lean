import Construe.Descriptor
import Construe.Proofs.Pattern.Plain

/-! # Words in any letter case

The pattern of a word, and that of several words, is read as an expression of characters closed
under letter case. It takes a text just if the text is the word, or one of the words, character by
character under case folding. -/
namespace Construe.Pattern

open Build (bind_eq_ok)
open Unicode.Folding (fold close)

/-- The flags under which letter case does not count. -/
def caseless : Flags := { ignoreCase := true }

namespace Expr

variable {text : Text}

/-- A character in any letter case. -/
def anyCase (c : Char) : Expr :=
  if close (.singleton c) == .singleton c then .literal [c] else charClass (close (.singleton c))

/-- A text in any letter case. -/
def word (cs : List Char) : Expr := sequence (cs.map anyCase)

/-! ### What words take -/

theorem takes_anyCase (c : Char) (a b : Spot) : (anyCase c).Takes text a b ↔
    ∃ d, text[a.1]? = some d ∧ fold d = fold c ∧ b = (a.1 + 1, a.2) := by
  have canonical := (Unicode.Folding.covers_close c).1
  have closed : (anyCase c).Takes text a b ↔ TakesOne text (close (.singleton c)) a b := by
    unfold anyCase
    split
    · rename_i alone
      rw [beq_iff_eq.mp alone, takesOne_singleton]
    · exact takes_charClass canonical a b
  simp only [closed, TakesOne, Unicode.Folding.contains_close]

theorem takes_word (cs : List Char) (a b : Spot) : (word cs).Takes text a b ↔
    b = (a.1 + cs.length, a.2) ∧
      ((text.toList.drop a.1).take cs.length).map fold = cs.map fold := by
  rw [word, takes_sequence]
  induction cs generalizing a with
  | nil => simp [TakesAll, Prod.ext_iff, eq_comm]
  | cons c cs ih =>
    simp only [List.map_cons, TakesAll, takes_anyCase, ih]
    by_cases inside : a.1 < text.size
    · have here : text[a.1]? = some text[a.1] := Array.getElem?_eq_getElem inside
      have next : text.toList.drop a.1 = text[a.1] :: text.toList.drop (a.1 + 1) := by
        rw [List.drop_eq_getElem_cons (by simpa using inside), Array.getElem_toList]
      rw [next, List.length_cons, List.take_succ_cons, List.map_cons, List.cons.injEq]
      constructor
      · rintro ⟨_, ⟨d, found, same, rfl⟩, rfl, others⟩
        obtain rfl : text[a.1] = d := Option.some.inj (here.symm.trans found)
        exact ⟨by simp only [Prod.mk.injEq, and_true]; omega, same, others⟩
      · rintro ⟨rfl, same, others⟩
        exact ⟨_, ⟨_, here, same, rfl⟩, by simp only [Prod.mk.injEq, and_true]; omega, others⟩
    · have missing : text[a.1]? = none := Array.getElem?_eq_none (by omega)
      have beyond : text.toList.drop a.1 = [] := List.drop_eq_nil_of_le (by simp; omega)
      simp [missing, beyond]

/-- A word from the start of a text to its end is the text, up to letter case. -/
theorem takes_word_whole (cs : List Char) (marks : List (Nat × Nat)) (b : Spot) :
    (word cs).Takes text (0, marks) b ∧ b.1 = text.size ↔
      b = (text.size, marks) ∧ cs.map fold = text.toList.map fold := by
  rw [takes_word, List.drop_zero]
  constructor
  · rintro ⟨⟨rfl, same⟩, length⟩
    have size : cs.length = text.size := by simpa using length
    rw [size, ← Array.length_toList, List.take_length] at same
    exact ⟨by simp [size], same.symm⟩
  · rintro ⟨rfl, same⟩
    have size : cs.length = text.size := by simpa using congrArg List.length same
    refine ⟨⟨by simp [size], ?_⟩, rfl⟩
    rw [size, ← Array.length_toList, List.take_length, same]

/-! ### The form of words -/

theorem plain_anyCase (c : Char) : (anyCase c).plain = true := by
  unfold anyCase
  split
  · rfl
  · exact plain_charClass (Unicode.Folding.covers_close c).1

theorem captures_anyCase (c : Char) : (anyCase c).captures = [] := by
  unfold anyCase
  split
  · rfl
  · exact captures_charClass _

theorem plain_word (cs : List Char) : (word cs).plain = true := by
  refine plain_sequence fun p member => ?_
  obtain ⟨c, _, rfl⟩ := List.mem_map.mp member
  exact plain_anyCase c

theorem reduced_word (cs : List Char) : (word cs).Reduced := by
  refine reduced_sequence fun p member => ?_
  obtain ⟨c, _, rfl⟩ := List.mem_map.mp member
  unfold anyCase
  split
  · exact .literal (by simp)
  · exact reduced_charClass _

theorem captures_word (cs : List Char) : (word cs).captures = [] := by
  rw [word, captures_sequence]
  refine capturesAll_eq_nil fun e member => ?_
  obtain ⟨c, _, rfl⟩ := List.mem_map.mp member
  exact captures_anyCase c

/-! ### Nesting of choices between words -/

/-- A part without parts of its own. -/
structure IsLeaf (e : Expr) : Prop where
  part : flatParts e = [e]
  branch : flatBranches e = [e]
  low : e.height ≤ 3

theorem IsLeaf.literal (cs : List Char) : IsLeaf (.literal cs) := ⟨rfl, rfl, Nat.le_refl 3⟩

theorem isLeaf_anyCase (c : Char) : IsLeaf (anyCase c) := by
  have chars (set : CharSet) : IsLeaf (.chars set) := ⟨rfl, rfl, Nat.le_refl 3⟩
  have bytes (set : CharSet) : IsLeaf (.bytes set) := ⟨rfl, rfl, Nat.le_refl 3⟩
  unfold anyCase charClass
  split
  · exact .literal [c]
  · split
    · exact bytes .empty
    · split
      · exact .literal _
      · exact chars _

/-- A leaf, nothing at all, or a sequence of leaves. -/
structure Short (e : Expr) : Prop where
  parts : ∀ p ∈ flatParts e, p.IsLeaf
  branch : flatBranches e = [e]

theorem Short.height_le {e : Expr} (short : e.Short) : e.height ≤ 5 := by
  cases e with
  | empty => exact Nat.le_of_ble_eq_true rfl
  | concat parts =>
    have low : heightAll parts ≤ 3 := heightAll_le_iff.mpr fun p member =>
      (short.parts p member).low
    rw [height]
    omega
  | _ => exact (short.parts _ List.mem_cons_self).low.trans (by omega)

theorem short_sequence {parts : List Expr} (leaves : ∀ p ∈ parts, p.IsLeaf) :
    (sequence parts).Short := by
  have flat : ∀ e ∈ parts, ∀ p ∈ flatParts e, p.IsLeaf := by
    intro e inside p member
    rw [(leaves e inside).part] at member
    exact List.mem_singleton.mp member ▸ leaves e inside
  refine of_sequence Short flat (fun s t _ _ => .literal (s ++ t)) ⟨by simp [flatParts], rfl⟩
    (fun e leaf => ⟨fun p member => ?_, leaf.branch⟩) fun _ leaves => ⟨leaves, rfl⟩
  rw [leaf.part] at member
  exact List.mem_singleton.mp member ▸ leaf

theorem short_word (cs : List Char) : (word cs).Short := by
  refine short_sequence fun p member => ?_
  obtain ⟨c, _, rfl⟩ := List.mem_map.mp member
  exact isLeaf_anyCase c

theorem height_flatParts {e p : Expr} (member : p ∈ flatParts e) : p.height ≤ e.height := by
  rcases mem_flatParts member with rfl | ⟨parts, rfl, member⟩
  · exact Nat.le_refl _
  · have := heightAll_le_iff.mp (Nat.le_refl (heightAll parts)) p member
    rw [height]
    omega

theorem height_sequence_le {parts : List Expr} (base : 3 ≤ n)
    (each : ∀ p ∈ parts, ∀ q ∈ flatParts p, q.height ≤ n) : (sequence parts).height ≤ n + 2 := by
  refine of_sequence (·.height ≤ n + 2) each (fun _ _ _ _ => base) ?_ (fun _ low => ?_)
    fun _ low => ?_
  · rw [height]
    omega
  · omega
  · rw [height]
    have := heightAll_le_iff.mpr low
    omega

theorem height_charClass (set : CharSet) : (charClass set).height = 3 := by
  unfold charClass
  split
  · rfl
  · split <;> rfl

theorem heightAll_short {es : List Expr} (short : ∀ e ∈ es, e.Short) : heightAll es ≤ 5 :=
  heightAll_le_iff.mpr fun e member => (short e member).height_le

theorem flatBranches_short {es : List Expr} (short : ∀ e ∈ es, e.Short) :
    es.flatMap flatBranches = es := by
  rw [List.flatMap_congr (g := fun b => [b]) fun e member => (short e member).branch]
  simp

theorem short_restsAfter {es : List Expr} (short : ∀ e ∈ es, e.Short) :
    ∀ e ∈ restsAfter (sharedStart es) es, e.Short := by
  intro r member
  obtain ⟨e, inside, rfl⟩ := List.mem_map.mp member
  exact short_sequence fun p member => (short e inside).parts p (List.mem_of_mem_drop member)

theorem sharedStart_short {es : List Expr} (short : ∀ e ∈ es, e.Short) (nonempty : es ≠ []) :
    ∀ p ∈ sharedStart es, p.IsLeaf := by
  intro p member
  obtain ⟨e, inside⟩ := List.exists_mem_of_ne_nil es nonempty
  obtain ⟨parts, rfl, shorter⟩ := sharedStart_isPrefix (List.ne_nil_of_mem member) e inside
  exact (short _ inside).parts p (shorter.subset member)

theorem height_choiceFrom_le (fuel : Nat) {es : List Expr} (short : ∀ e ∈ es, e.Short)
    (base : 7 ≤ n) (rests : sharedStart es ≠ [] → ∀ fuel,
      (choiceFrom fuel (restsAfter (sharedStart es) es)).height + 2 ≤ n) :
    (choiceFrom fuel es).height ≤ n := by
  have branches := heightAll_short short
  cases fuel with
  | zero =>
    rw [choiceFrom, height]
    omega
  | succ fuel =>
    have ways := choiceFrom_cases fuel es
    rw [flatBranches_short short] at ways
    generalize choiceFrom (fuel + 1) es = c at ways ⊢
    cases ways with
    | none =>
      rw [fail, height]
      omega
    | one single =>
      have := (short c (by simp [single])).height_le
      omega
    | letters | classes =>
      rw [height_charClass]
      omega
    | apart =>
      rw [height]
      omega
    | shared two shared =>
      have inner := rests shared fuel
      have low : (sequence (sharedStart es ++
          [choiceFrom fuel (restsAfter (sharedStart es) es)])).height ≤ n - 2 + 2 := by
        refine height_sequence_le (by omega) fun p member q part => ?_
        rcases List.mem_append.mp member with start | rest
        · have leaf := sharedStart_short short (by rintro rfl; simp at two) p start
          rw [leaf.part, List.mem_singleton] at part
          have := leaf.low
          rw [part]
          omega
        · rw [List.mem_singleton.mp rest] at part
          have := height_flatParts part
          omega
      omega

/-- A choice between words is never nested deeply: a start is taken out once at most. -/
theorem height_choice_le {es : List Expr} (short : ∀ e ∈ es, e.Short)
    (reduced : ∀ e ∈ es, e.Reduced) : (choice es).height ≤ 9 := by
  refine height_choiceFrom_le _ short (by omega) fun shared fuel => ?_
  have nonempty : es ≠ [] := by
    rintro rfl
    exact shared rfl
  have apart := sharedStart_restsAfter reduced nonempty shared
  exact Nat.add_le_add_right (height_choiceFrom_le (n := 7) fuel (short_restsAfter short)
    (Nat.le_refl 7) fun more => absurd apart more) 2

end Expr

/-! ### Reading words -/

/-- The items that a text of plain letters is read as. -/
def letterItems (cs : List Char) : List Ast := cs.map fun c => .letter ⟨c, false⟩

theorem letter_caseless (c : Char) : caseless.letter ⟨c, false⟩ = .ok (Expr.anyCase c) := by
  show (if close (.singleton c) == .singleton c then Except.ok (Expr.literal [c])
    else .ok (.charClass (close (.singleton c)))) = _
  unfold Expr.anyCase
  split <;> rfl

theorem exprAll_cons {f f' f'' : Flags} {item : Ast} {items : List Ast}
    (first : item.expr f = .ok (e, f')) (others : Ast.exprAll f' items = .ok (es, f'')) :
    Ast.exprAll f (item :: items) = .ok (e :: es, f'') := by
  rw [Ast.exprAll, first]
  simp only [bind, Except.bind]
  rw [others]
  rfl

theorem exprAll_letterItems (cs : List Char) :
    Ast.exprAll caseless (letterItems cs) = .ok (cs.map Expr.anyCase, caseless) := by
  induction cs with
  | nil => rfl
  | cons c cs ih =>
    have first : (Ast.letter ⟨c, false⟩).expr caseless = .ok (Expr.anyCase c, caseless) := by
      rw [Ast.expr, letter_caseless]
      rfl
    exact exprAll_cons first ih

theorem expr_letterItems (cs : List Char) :
    (Ast.ofItems (letterItems cs)).expr caseless = .ok (Expr.word cs, caseless) := by
  rcases cs with _ | ⟨c, _ | ⟨d, cs⟩⟩
  · rfl
  · rw [Expr.word, List.map_singleton, Expr.sequence_singleton (Expr.isLeaf_anyCase c).part]
    show (do return (← caseless.letter ⟨c, false⟩, caseless)) = _
    rw [letter_caseless]
    rfl
  · rw [Expr.ofItems_eq_concat (by simp [letterItems]), Ast.expr, exprAll_letterItems]
    rfl

theorem depthAll_letterItems (cs : List Char) : Ast.depthAll (letterItems cs) = 0 :=
  Expr.depthAll_letters cs

namespace ReadState

theorem step_textStart (s : ReadState) (cs : List Char) :
    s.step ("\\A".toList ++ cs) = .ok (s.push (.assertion .textStart), cs) := rfl

theorem step_textEnd (s : ReadState) (cs : List Char) :
    s.step ("\\z".toList ++ cs) = .ok (s.push (.assertion .textEnd), cs) := rfl

theorem step_ignoreCase {s : ReadState} (plain : s.verbose = false) (cs : List Char) :
    s.step ("(?i)".toList ++ cs) = .ok (s.push (.flags [(.ignoreCase, true)]), cs) := by
  obtain ⟨level, frames, verbose, captures, names⟩ := s
  cases plain
  rfl

theorem step_close (s : ReadState) (kind : GroupKind) (l : Level) (captures : Nat)
    (names : List String) (rest : List Char) :
    (s.inside kind l captures names).step (')' :: rest) =
      .ok ({ s with captures, names }.push (.group kind l.toAst), rest) := rfl

/-- Letters in a plain group. -/
theorem Becomes.enclosed_letters (cs : List Char) {s : ReadState} (plain : s.verbose = false)
    (rest : List Char) : s.Becomes (enclose (cs.flatMap renderChar) ++ rest)
      (s.push (.group (.plain []) (.ofItems (letterItems cs)))) rest := by
  rw [enclose, List.append_assoc, List.append_assoc, List.singleton_append]
  let t := s.enter (.plain []) s.captures s.names
  have letters : t.Becomes _ (t.pushAll (letterItems cs)) (')' :: rest) :=
    .letters (s := t) cs plain _
  have level : t.pushAll (letterItems cs) =
      s.inside (.plain []) ⟨[], (letterItems cs).reverse⟩ s.captures s.names :=
    pushAll_enter s (.plain []) s.captures 0 s.names s.names (letterItems cs)
  have closed := step_close s (.plain []) ⟨[], (letterItems cs).reverse⟩ s.captures s.names rest
  rw [toAst_items] at closed
  rw [level] at letters
  exact (Becomes.token plain (by decide) (step_open_plain plain) _).trans
    (letters.trans (.of_step plain (by simp) closed))

end ReadState

/-- The structure of a pattern that is read to its end, unless it is nested too deeply. -/
theorem ofString_of_becomes {source : String} {s : ReadState}
    (becomes : ReadState.initial.Becomes source.toList s []) (plain : s.verbose = false)
    (outside : s.frames = []) (shallow : s.level.toAst.depth ≤ nestLimit) :
    Ast.ofString source = .ok s.level.toAst :=
  bind_eq_ok.mpr ⟨_, becomes.readFrom plain outside, if_pos shallow⟩

open ReadState

theorem toList_wordPattern (w : String) : (Descriptor.wordPattern w).toList =
    "(?i)".toList ++ ("\\A".toList ++
      (enclose (w.toList.flatMap renderChar) ++ ("\\z".toList ++ []))) := by
  simp [Descriptor.wordPattern, escape, enclose]

/-- The pattern of a word means the word between the two ends of the text. -/
theorem exprOf_wordPattern (w : String) : exprOf (Descriptor.wordPattern w) =
    .ok (.sequence [.empty, .look .textStart, .word w.toList, .look .textEnd]) := by
  let items : List Ast := [.flags [(.ignoreCase, true)], .assertion .textStart,
    .group (.plain []) (.ofItems (letterItems w.toList)), .assertion .textEnd]
  have becomes : ReadState.initial.Becomes (Descriptor.wordPattern w).toList
      (ReadState.initial.pushAll items) [] := by
    rw [toList_wordPattern]
    refine (Becomes.token rfl (by decide) (step_ignoreCase rfl) _).trans ?_
    refine (Becomes.token rfl (by decide) (step_textStart _) _).trans ?_
    refine (Becomes.enclosed_letters w.toList rfl _).trans ?_
    exact Becomes.token rfl (by decide) (step_textEnd _) []
  have structured : Ast.ofString (Descriptor.wordPattern w) = .ok (.concat items) := by
    refine ofString_of_becomes becomes rfl rfl ?_
    have letters := Ast.depth_ofItems_le (letterItems w.toList)
    rw [depthAll_letterItems] at letters
    show (Ast.concat items).depth ≤ 250
    simp only [items, Ast.depth, Ast.depthAll]
    omega
  refine exprOf_eq_ok.mpr ⟨_, caseless, structured, ?_⟩
  have group : (Ast.group (.plain []) (.ofItems (letterItems w.toList))).expr caseless =
      .ok (.word w.toList, caseless) := by
    rw [Ast.expr, show caseless.change [] = caseless from rfl, expr_letterItems]
    rfl
  have all : Ast.exprAll {} items =
      .ok ([.empty, .look .textStart, .word w.toList, .look .textEnd], caseless) :=
    exprAll_cons rfl (exprAll_cons rfl (exprAll_cons group (exprAll_cons rfl rfl)))
  rw [Ast.expr, all]
  rfl

/-! ### Reading several words -/

/-- The text of words with bars between them. -/
def branchesText : List String → List Char
  | [] => []
  | [w] => w.toList.flatMap renderChar
  | w :: words => w.toList.flatMap renderChar ++ '|' :: branchesText words

/-- The branches that the text of words is read as. -/
def wordBranches (words : List String) : List Ast :=
  words.map fun w => .ofItems (letterItems w.toList)

theorem toList_keywordPattern (words : List String) : (Descriptor.keywordPattern words).toList =
    "(?i)".toList ++ (['('] ++ (branchesText words ++ [')'])) := by
  have text : (String.intercalate "|" (words.map escape)).toList = branchesText words := by
    rw [String.toList_intercalate, List.map_map]
    fun_induction branchesText words with
    | case1 => rfl
    | case2 w => simp [escape]
    | case3 w words several ih =>
      obtain ⟨v, words, rfl⟩ := List.exists_cons_of_ne_nil several
      rw [← ih]
      simp [escape]
  simp [Descriptor.keywordPattern, text]

theorem becomes_branches (rest : List Char) : ∀ words : List String, words ≠ [] →
    ∀ {s : ReadState}, s.verbose = false → s.level.items = [] →
    ∃ l, s.Becomes (branchesText words ++ rest) { s with level := l } rest ∧
      l.toAst = .ofBranches (s.level.branches.reverse ++ wordBranches words)
  | [], nonempty, _, _, _ => absurd rfl nonempty
  | [w], _, s, plain, start => by
    refine ⟨⟨s.level.branches, (letterItems w.toList).reverse⟩, ?_, ?_⟩
    · have letters := Becomes.letters w.toList plain rest
      rw [pushAll_eq, start, List.append_nil] at letters
      exact letters
    · simp [Level.toAst, Level.nextBranch, wordBranches]
  | w :: v :: words, _, s, plain, start => by
    have letters := Becomes.letters w.toList plain ('|' :: (branchesText (v :: words) ++ rest))
    rw [pushAll_eq, start, List.append_nil] at letters
    let l : Level := ⟨s.level.branches, (letterItems w.toList).reverse⟩
    have next (cs : List Char) : ReadState.Becomes { s with level := l } ('|' :: cs)
        { s with level := l.nextBranch } cs := .of_step plain (Nat.lt_succ_self _) rfl
    obtain ⟨l', others, built⟩ := becomes_branches rest (v :: words) (by simp)
      (s := { s with level := l.nextBranch }) plain rfl
    refine ⟨l', ?_, ?_⟩
    · rw [branchesText, List.append_assoc, List.cons_append]
      · exact letters.trans ((next _).trans others)
      · simp
    · rw [built]
      simp [l, Level.nextBranch, wordBranches]

theorem closes_letters (cs : List Char) (closes : Closes rest) :
    Closes (cs.flatMap renderChar ++ rest) := by
  cases cs with
  | nil => exact closes
  | cons c cs =>
    rw [List.flatMap_cons, List.append_assoc]
    exact Closes.renderChar c _

theorem closes_branchesText (words : List String) (closes : Closes rest) :
    Closes (branchesText words ++ rest) := by
  fun_cases branchesText words with
  | case1 => exact closes
  | case2 w => exact closes_letters w.toList closes
  | case3 w words several =>
    rw [List.append_assoc, List.cons_append]
    exact closes_letters w.toList (.of_ne (by decide) (by decide))

theorem depth_wordBranches (words : List String) :
    (Ast.ofBranches (wordBranches words)).depth ≤ 2 := by
  have each : Ast.depthAll (wordBranches words) ≤ 1 := by
    refine Ast.depthAll_le_iff.mpr fun branch member => ?_
    obtain ⟨w, _, rfl⟩ := List.mem_map.mp member
    have letters := Ast.depth_ofItems_le (letterItems w.toList)
    rwa [depthAll_letterItems] at letters
  have := Ast.depth_ofBranches_le (wordBranches words)
  omega

theorem exprAll_wordBranches (words : List String) :
    Ast.exprAll caseless (wordBranches words) =
      .ok (words.map fun w => .word w.toList, caseless) := by
  induction words with
  | nil => rfl
  | cons w words ih => exact exprAll_cons (expr_letterItems w.toList) ih

theorem expr_wordBranches {words : List String} (nonempty : words ≠ []) :
    (Ast.ofBranches (wordBranches words)).expr caseless =
      .ok (.choice (words.map fun w => .word w.toList), caseless) := by
  rcases words with _ | ⟨w, _ | ⟨v, words⟩⟩
  · contradiction
  · have alone : Expr.choice [.word w.toList] = .word w.toList := by
      rw [Expr.choice, Expr.choiceFrom, List.flatMap_singleton,
        (Expr.short_word w.toList).branch]
    rw [List.map_singleton, alone]
    exact expr_letterItems w.toList
  · rw [Expr.ofBranches_eq_alternation (by simp [wordBranches]), Ast.expr, exprAll_wordBranches]
    rfl

/-- The pattern of some words means a choice between them, in a group. -/
theorem exprOf_keywordPattern {words : List String} (nonempty : words ≠ []) :
    exprOf (Descriptor.keywordPattern words) =
      .ok (.capture 1 none (.choice (words.map fun w => .word w.toList))) := by
  let items : List Ast := [.flags [(.ignoreCase, true)],
    .group (.capture 1 none) (.ofBranches (wordBranches words))]
  have becomes : ReadState.initial.Becomes (Descriptor.keywordPattern words).toList
      { ReadState.initial.pushAll items with captures := 1 } [] := by
    rw [toList_keywordPattern]
    let s := ReadState.initial.push (.flags [(.ignoreCase, true)])
    let t := s.enter (.capture 1 none) 1 []
    have flags : ReadState.initial.Becomes ("(?i)".toList ++ ('(' :: (branchesText words ++ [')'])))
        s _ := .token rfl (by decide) (step_ignoreCase rfl) _
    have opened : s.Becomes ('(' :: (branchesText words ++ [')'])) t _ :=
      .of_step rfl (Nat.lt_succ_self _) (step_open_capture rfl
        (closes_branchesText words (.of_ne (by decide) (by decide))).1)
    obtain ⟨l, inner, built⟩ := becomes_branches [')'] words nonempty (s := t) rfl rfl
    have body : l.toAst = .ofBranches (wordBranches words) := built
    have closed := step_close s (.capture 1 none) l 1 [] []
    rw [body] at closed
    exact flags.trans (opened.trans (inner.trans (.of_step rfl (by simp) closed)))
  have structured : Ast.ofString (Descriptor.keywordPattern words) = .ok (.concat items) := by
    refine ofString_of_becomes becomes rfl rfl ?_
    have branches := depth_wordBranches words
    show (Ast.concat items).depth ≤ 250
    simp only [items, Ast.depth, Ast.depthAll]
    omega
  refine exprOf_eq_ok.mpr ⟨_, caseless, structured, ?_⟩
  have group : (Ast.group (.capture 1 none) (.ofBranches (wordBranches words))).expr caseless =
      .ok (.capture 1 none (.choice (words.map fun w => .word w.toList)), caseless) := by
    rw [Ast.expr, expr_wordBranches nonempty]
    rfl
  have all : Ast.exprAll {} items =
      .ok ([.empty, .capture 1 none (.choice (words.map fun w => .word w.toList))], caseless) :=
    exprAll_cons rfl (exprAll_cons group rfl)
  rw [Ast.expr, all]
  rfl

/-! ### What the patterns match -/

open Unicode.Folding (sameText)

theorem sameText_iff {s t : String} :
    sameText s t = true ↔ s.toList.map fold = t.toList.map fold := by
  simp [sameText]

/-- The expression of a word between the two ends of the text. -/
def wordExpr (w : String) : Expr :=
  .sequence [.empty, .look .textStart, .word w.toList, .look .textEnd]

theorem takes_ends {text : Text} {e : Expr} {s : Nat} {b : Spot} :
    Expr.TakesAll text [.look .textStart, e, .look .textEnd] (s, []) b ↔
      s = 0 ∧ e.Takes text (0, []) b ∧ b.1 = text.size := by
  simp only [Expr.TakesAll, Expr.Takes, Look.holds, beq_iff_eq]
  constructor
  · rintro ⟨_, ⟨rfl, rfl⟩, c, inner, _, ⟨last, rfl⟩, rfl⟩
    exact ⟨rfl, inner, last⟩
  · rintro ⟨rfl, inner, last⟩
    exact ⟨_, ⟨rfl, rfl⟩, b, inner, b, ⟨last, rfl⟩, rfl⟩

/-- The pattern of a word matches the word in any letter case and nothing else. -/
theorem isSome_search_wordExpr (w input : String) :
    ((wordExpr w).program.search input.toList.toArray 0).isSome = sameText w input := by
  rw [Bool.eq_iff_iff, Program.isSome_search_iff, sameText_iff]
  simp only [wordExpr, Expr.takes_sequence]
  constructor
  · rintro ⟨s, b, _, _, c, same, taken⟩
    cases same
    obtain ⟨rfl, inner, last⟩ := takes_ends.mp taken
    exact ((Expr.takes_word_whole _ _ _).mp ⟨inner, last⟩).2
  · intro same
    have taken : (Expr.word w.toList).Takes input.toList.toArray (0, [])
        (input.toList.toArray.size, []) ∧ _ := (Expr.takes_word_whole _ _ _).mpr ⟨rfl, same⟩
    exact ⟨0, _, Nat.zero_le _, Nat.zero_le _, _, rfl, takes_ends.mpr ⟨rfl, taken⟩⟩

/-- The matcher of a word. -/
def wordMatcher (w : String) : Pattern :=
  ⟨Descriptor.wordPattern w, (wordExpr w).groupCount, (wordExpr w).program⟩

/-- The patterns of some words are compiled to their matchers, unless these are too large. -/
theorem ofStrings_wordPatterns (words : List String) :
    ofStrings (words.map Descriptor.wordPattern) =
      if Expr.fitTogether (words.map wordExpr) then .ok (words.map wordMatcher)
      else .error .tooLarge := by
  have read : (words.map Descriptor.wordPattern).mapM exprOf = .ok (words.map wordExpr) := by
    induction words with
    | nil => rfl
    | cons w words ih =>
      rw [List.map_cons, List.mapM_cons, exprOf_wordPattern, ih]
      rfl
  have matchers : ((words.map Descriptor.wordPattern).zip (words.map wordExpr)).map
      (fun x => (⟨x.1, x.2.groupCount, x.2.program⟩ : Pattern)) =
        words.map wordMatcher := by
    rw [List.zip_map', List.map_map]
    rfl
  rw [ofStrings, read, ← matchers]
  rfl

/-! ### What the pattern of several words captures -/

/-- The expression of a choice between words. -/
def wordChoice (words : List String) : Expr := .choice (words.map fun w => .word w.toList)

theorem forall_mem_words (words : List String) {P : Expr → Prop} (each : ∀ cs, P (.word cs)) :
    ∀ e ∈ words.map fun w => Expr.word w.toList, P e := by
  intro e member
  obtain ⟨w, _, rfl⟩ := List.mem_map.mp member
  exact each w.toList

theorem plain_wordChoice (words : List String) : (wordChoice words).plain = true :=
  Expr.plain_choiceFrom _ (forall_mem_words words Expr.plain_word)

theorem captures_wordChoice (words : List String) : (wordChoice words).captures = [] := by
  have none : Expr.capturesAll (words.map fun w => .word w.toList) = [] :=
    Expr.capturesAll_eq_nil (forall_mem_words words Expr.captures_word)
  rw [wordChoice, Expr.choice, Expr.captures_choiceFrom _ _ (none ▸ List.nodup_nil), none]

theorem height_wordChoice_le (words : List String) : (wordChoice words).height ≤ 9 :=
  Expr.height_choice_le (forall_mem_words words Expr.short_word)
    (forall_mem_words words Expr.reduced_word)

theorem takes_wordChoice {text : Text} {words : List String} {marks : List (Nat × Nat)} {b : Spot} :
    (wordChoice words).Takes text (0, marks) b ∧ b.1 = text.size ↔
      b = (text.size, marks) ∧ ∃ w ∈ words, w.toList.map fold = text.toList.map fold := by
  have made : ∀ e ∈ words.map fun w => Expr.word w.toList, e.Made .canonical :=
    forall_mem_words words fun cs =>
      Expr.made_of_legible (Expr.legible_of_plain (Expr.plain_word cs))
  rw [wordChoice, Expr.takes_choice made]
  constructor
  · rintro ⟨⟨_, member, taken⟩, last⟩
    obtain ⟨w, listed, rfl⟩ := List.mem_map.mp member
    obtain ⟨rfl, same⟩ := (Expr.takes_word_whole _ _ _).mp ⟨taken, last⟩
    exact ⟨rfl, w, listed, same⟩
  · rintro ⟨rfl, w, listed, same⟩
    have taken := ((Expr.takes_word_whole w.toList marks _).mpr ⟨rfl, same⟩).1
    exact ⟨⟨_, List.mem_map_of_mem listed, taken⟩, rfl⟩

/-- The choice in its group, between the two ends of the text. -/
def keywordExpr (words : List String) : Expr := anchored (.capture 1 none (wordChoice words))

theorem height_keywordExpr_le (words : List String) : (keywordExpr words).height ≤ nestLimit := by
  have choice := height_wordChoice_le words
  have low : (keywordExpr words).height ≤ 10 + 2 := by
    rw [keywordExpr, anchored]
    refine Expr.height_sequence_le (by omega) fun p member q part => ?_
    refine (Expr.height_flatParts part).trans ?_
    simp only [List.mem_cons, List.not_mem_nil, or_false] at member
    rcases member with rfl | rfl | rfl
    · rw [Expr.height]
      omega
    · rw [Expr.height]
      omega
    · rw [Expr.height]
      omega
  exact low.trans (by decide)

theorem takes_keywordExpr {text : Text} {words : List String} {s : Nat} {b : Spot} :
    (keywordExpr words).Takes text (s, []) b ↔
      s = 0 ∧ b = (text.size, [(3, text.size), (2, 0)]) ∧
        ∃ w ∈ words, w.toList.map fold = text.toList.map fold := by
  rw [keywordExpr, anchored, Expr.takes_sequence, takes_ends]
  simp only [Expr.Takes]
  constructor
  · rintro ⟨rfl, ⟨c, inner, rfl⟩, last⟩
    obtain ⟨rfl, listed⟩ := takes_wordChoice.mp ⟨inner, last⟩
    exact ⟨rfl, rfl, listed⟩
  · rintro ⟨rfl, rfl, listed⟩
    exact ⟨rfl, ⟨_, (takes_wordChoice.mpr ⟨rfl, listed⟩).1, rfl⟩, rfl⟩

theorem search_keywordExpr (words : List String) (input : String) :
    (keywordExpr words).program.search input.toList.toArray 0 =
      if words.any (sameText · input) then
        some ⟨0, input.toList.length, [(3, input.toList.length), (2, 0)]⟩
      else none := by
  have listed : words.any (sameText · input) = true ↔
      ∃ w ∈ words, w.toList.map fold = input.toList.map fold := by
    simp [sameText_iff]
  cases found : (keywordExpr words).program.search input.toList.toArray 0 with
  | none =>
    rw [if_neg]
    intro any
    have taken : (keywordExpr words).Takes input.toList.toArray (0, []) _ :=
      takes_keywordExpr.mpr ⟨rfl, rfl, listed.mp any⟩
    have some := Program.isSome_search_iff.mpr ⟨0, _, Nat.le_refl 0, Nat.zero_le _, taken⟩
    rw [found] at some
    contradiction
  | some m =>
    obtain ⟨_, _, taken⟩ := Program.takes_of_search found
    obtain ⟨first, same, any⟩ := takes_keywordExpr.mp taken
    obtain ⟨stop, marks⟩ := Prod.mk.inj same
    rw [if_pos (listed.mpr any)]
    obtain ⟨s, e, ms⟩ := m
    simp_all

/-- The matcher of some words. -/
def keywordMatcher (words : List String) : Pattern :=
  ⟨String.ofList (keywordExpr words).render, 1, (keywordExpr words).program⟩

/-- The pattern of some words is compiled to their matcher, unless that is too large. -/
theorem whole_keywordPattern {words : List String} (nonempty : words ≠ []) :
    whole (Descriptor.keywordPattern words) 1 =
      if (Expr.capture 1 none (wordChoice words)).fits ∧ (keywordExpr words).fits then
        .ok (keywordMatcher words)
      else .error (.invalid .tooLarge) := by
  have read := exprOf_keywordPattern nonempty
  rw [← wordChoice] at read
  have captures : (Expr.capture 1 none (wordChoice words)).captures = [(1, none)] := by
    rw [Expr.captures, captures_wordChoice]
  have count : (Expr.capture 1 none (wordChoice words)).groupCount = 1 := by
    rw [Expr.groupCount_eq_highest, captures]
    rfl
  have compiled := whole_of_plain read (plain_wordChoice words) (by rw [captures]; rfl)
    (height_keywordExpr_le words)
  rwa [count] at compiled

/-- The matcher of some words captures a text that is one of them in some letter case, and matches
nothing else. -/
theorem groups?_keywordMatcher (words : List String) (input : String) :
    (keywordMatcher words).groups? input =
      if words.any (sameText · input) then some [some input] else none := by
  unfold groups? keywordMatcher
  dsimp only
  rw [search_keywordExpr]
  split
  · have group : Match.group? ⟨0, input.toList.length, [(3, input.toList.length), (2, 0)]⟩ 1 =
        some (0, input.toList.length) := rfl
    simp [group]
  · rfl

end Construe.Pattern
