import Construe.Proofs.Pattern.Tokens

/-! # Rendered expressions, read back

`Expr.retold` is the structure that the reader makes of an expression's text, if it accepts the
text at all. Every expression is one item. Suffixes of repetitions that follow each other without
a group in between are read anew: a question mark after a suffix makes that suffix lazy, whatever
it was written for. -/
namespace Construe.Pattern

open Build (bind_eq_ok)

/-- An item with suffixes, as the reader takes them. -/
def Ast.suffixed : Ast → List Bounds → Ast
  | item, [] => item
  | item, [b] => .repetition b.1 b.2 true item
  | item, b :: (0, some 1) :: bs => suffixed (.repetition b.1 b.2 false item) bs
  | item, b :: c :: bs => suffixed (.repetition b.1 b.2 true item) (c :: bs)

/-! ### The course of reading -/

theorem length_lt_append {text : List Char} (some : text ≠ []) (rest : List Char) :
    rest.length < (text ++ rest).length := by
  simpa using List.length_pos_iff.mpr some

namespace ReadState

/-- If the text can be read at all, the reader gets to a state with a rest of the text left. -/
def Reads (s : ReadState) (cs : List Char) (s' : ReadState) (rest : List Char) : Prop :=
  ∀ fuel ast, cs.length < fuel → readFrom fuel s cs = .ok ast →
    ∃ fuel, rest.length < fuel ∧ readFrom fuel s' rest = .ok ast

theorem Reads.refl (s : ReadState) (cs : List Char) : s.Reads cs s cs :=
  fun fuel _ enough read => ⟨fuel, enough, read⟩

theorem Reads.trans {s t u : ReadState} (first : s.Reads cs t ds) (second : t.Reads ds u es) :
    s.Reads cs u es := by
  intro fuel ast enough read
  obtain ⟨fuel, enough, read⟩ := first fuel ast enough read
  exact second fuel ast enough read

theorem Reads.of_step {s s' : ReadState} (plain : s.verbose = false)
    (shorter : rest.length < cs.length) (only : ∀ x, s.step cs = .ok x → x = (s', rest)) :
    s.Reads cs s' rest := by
  intro fuel ast enough read
  cases fuel with
  | zero => omega
  | succ fuel =>
    rw [readFrom, plain, show skip false cs = cs from rfl] at read
    split at read
    · simp at shorter
    · obtain ⟨x, stepped, read⟩ := bind_eq_ok.mp read
      rw [only x stepped] at read
      exact ⟨fuel, by omega, read⟩

/-- The reader gets to a state with a rest of the text left and has refused nothing. -/
def Becomes (s : ReadState) (cs : List Char) (s' : ReadState) (rest : List Char) : Prop :=
  ∀ fuel, cs.length < fuel → ∃ fuel', rest.length < fuel' ∧
    readFrom fuel s cs = readFrom fuel' s' rest

theorem Becomes.refl (s : ReadState) (cs : List Char) : s.Becomes cs s cs :=
  fun fuel enough => ⟨fuel, enough, rfl⟩

theorem Becomes.trans {s t u : ReadState} (first : s.Becomes cs t ds) (second : t.Becomes ds u es) :
    s.Becomes cs u es := by
  intro fuel enough
  obtain ⟨fuel, enough, same⟩ := first fuel enough
  obtain ⟨fuel, enough, same'⟩ := second fuel enough
  exact ⟨fuel, enough, same.trans same'⟩

theorem Becomes.of_step {s s' : ReadState} (plain : s.verbose = false)
    (shorter : rest.length < cs.length) (stepped : s.step cs = .ok (s', rest)) :
    s.Becomes cs s' rest := by
  intro fuel enough
  cases fuel with
  | zero => omega
  | succ fuel =>
    rw [readFrom, plain, show skip false cs = cs from rfl]
    split
    · simp at shorter
    · rw [stepped]
      exact ⟨fuel, by omega, rfl⟩

theorem Becomes.token {s s' : ReadState} {text : List Char} (plain : s.verbose = false)
    (some : text ≠ []) (steps : ∀ cs, s.step (text ++ cs) = .ok (s', cs)) (rest : List Char) :
    s.Becomes (text ++ rest) s' rest :=
  .of_step plain (length_lt_append some rest) (steps rest)

theorem Becomes.reads {s t : ReadState} (becomes : s.Becomes cs t rest) : s.Reads cs t rest := by
  intro fuel ast enough read
  obtain ⟨fuel', enough, same⟩ := becomes fuel enough
  exact ⟨fuel', enough, same.symm.trans read⟩

theorem eq_of_step {s : ReadState} (stepped : s.step cs = .ok y) :
    ∀ x, s.step cs = .ok x → x = y :=
  fun _ done => Except.ok.inj (done.symm.trans stepped)

/-- An item that a suffix can follow. -/
def Repeatable : Ast → Prop
  | .empty | .flags _ => False
  | _ => True

theorem quantify_push (s : ReadState) {item : Ast} (fit : Repeatable item) (min : Nat)
    (max : Option Nat) (rest : List Char) :
    (s.push item).quantify min max rest =
      .ok (s.push (.repetition min max (readGreed rest).1 item), (readGreed rest).2) := by
  cases item with
  | empty | flags => exact fit.elim
  | _ => rfl

theorem readGreed_eq (apart : rest.head? ≠ some '?') : readGreed rest = (true, rest) := by
  unfold readGreed
  split
  · simp at apart
  · rfl

theorem reads_suffix {s : ReadState} (plain : s.verbose = false) {item : Ast}
    (fit : Repeatable item) {b : Bounds} (several : b ≠ (1, some 1)) (rest : List Char) :
    (s.push item).Reads (renderSuffix b ++ rest)
      (s.push (.repetition b.1 b.2 (readGreed rest).1 item)) (readGreed rest).2 := by
  refine .of_step plain ?_ fun x done => ?_
  · obtain ⟨d, ds, same, _⟩ := renderSuffix_cons several
    have shorter : (readGreed rest).2.length ≤ rest.length := by
      unfold readGreed
      split <;> simp
    exact Nat.lt_of_le_of_lt shorter (length_lt_append (by simp [same]) rest)
  · have repeated := (s.push item).step_renderSuffix plain several done
    rw [quantify_push s fit] at repeated
    exact (Except.ok.inj repeated).symm

/-- Suffixes are read one after the other, each with the question mark that follows it. `R` is how
the course of reading is followed. -/
theorem suffixes_of {R : ReadState → List Char → ReadState → List Char → Prop}
    (refl : ∀ s cs, R s cs s cs)
    (trans : ∀ {s t u cs ds es}, R s cs t ds → R t ds u es → R s cs u es)
    {s : ReadState} {P : Bounds → Prop} (several : ∀ {b}, P b → b ≠ (1, some 1))
    (one : ∀ {item b}, Repeatable item → P b → ∀ rest, R (s.push item) (renderSuffix b ++ rest)
      (s.push (.repetition b.1 b.2 (readGreed rest).1 item)) (readGreed rest).2)
    {item : Ast} (fit : Repeatable item) {bs : List Bounds} (each : ∀ b ∈ bs, P b)
    (apart : rest.head? ≠ some '?') :
    R (s.push item) (bs.flatMap renderSuffix ++ rest) (s.push (item.suffixed bs)) rest := by
  fun_induction Ast.suffixed item bs with
  | case1 => exact refl _ _
  | case2 item b =>
    have read := one fit (each b (by simp)) rest
    rw [readGreed_eq apart] at read
    simpa using read
  | case3 item b bs ih =>
    -- The question mark is taken by the suffix in front of it, whatever it was written for.
    have read := one fit (each b (by simp)) ('?' :: (bs.flatMap renderSuffix ++ rest))
    rw [List.flatMap_cons, List.flatMap_cons, List.append_assoc, List.append_assoc]
    exact trans read (ih trivial fun b member => each b (by simp [member]))
  | case4 item b c bs other ih =>
    obtain ⟨d, ds, same, mark⟩ := renderSuffix_cons (several (each c (by simp)))
    have next : (renderSuffix c ++ (bs.flatMap renderSuffix ++ rest)).head? ≠ some '?' := by
      simpa [same] using mark other
    have read := one fit (each b (by simp)) (renderSuffix c ++ (bs.flatMap renderSuffix ++ rest))
    rw [readGreed_eq next] at read
    have more := ih trivial fun b member => each b (List.mem_cons_of_mem _ member)
    rw [List.flatMap_cons, List.append_assoc] at more
    rw [List.flatMap_cons, List.flatMap_cons, List.append_assoc, List.append_assoc]
    exact trans read more

theorem reads_suffixes {s : ReadState} (plain : s.verbose = false) {item : Ast}
    (fit : Repeatable item) {bs : List Bounds} (several : ∀ b ∈ bs, b ≠ (1, some 1))
    (apart : rest.head? ≠ some '?') :
    (s.push item).Reads (bs.flatMap renderSuffix ++ rest) (s.push (item.suffixed bs)) rest :=
  suffixes_of Reads.refl Reads.trans id (fun fit => reads_suffix plain fit) fit several apart

/-! ### Groups -/

/-- In a group that was opened in the state `s`, with the level `l` inside. -/
def inside (s : ReadState) (kind : GroupKind) (l : Level) (captures : Nat) (names : List String) :
    ReadState :=
  ⟨l, ⟨s.level, kind, s.verbose⟩ :: s.frames, s.verbose, captures, names⟩

/-- At the start of a group. -/
def enter (s : ReadState) (kind : GroupKind) (captures : Nat) (names : List String) : ReadState :=
  s.inside kind .empty captures names

/-- After some more groups have been numbered. -/
def counted (s : ReadState) (more : Nat) (names : List String) : ReadState :=
  { s with captures := s.captures + more, names }

def pushAll (s : ReadState) (items : List Ast) : ReadState := items.foldl push s

theorem pushAll_eq (s : ReadState) (items : List Ast) :
    s.pushAll items = { s with level := ⟨s.level.branches, items.reverse ++ s.level.items⟩ } := by
  induction items generalizing s with
  | nil => rfl
  | cons item items ih =>
    rw [pushAll, List.foldl_cons, ← pushAll, ih]
    simp [push, Level.push]

/-- What is read between the parentheses of a group becomes its body. -/
theorem reads_group {s : ReadState} (plain : s.verbose = false) {kind : GroupKind}
    {opening inner rest : List Char} {count total : Nat} {earlier names : List String} {l : Level}
    (opens : ∀ x, s.step (opening ++ (inner ++ ')' :: rest)) = .ok x →
      x = (s.enter kind count earlier, inner ++ ')' :: rest)) (some : opening ≠ [])
    (reads : (s.enter kind count earlier).Reads (inner ++ ')' :: rest)
      (s.inside kind l (s.captures + total) names) (')' :: rest)) :
    s.Reads (opening ++ (inner ++ ')' :: rest))
      ((s.counted total names).push (.group kind l.toAst)) rest := by
  have opened : s.Reads (opening ++ (inner ++ ')' :: rest)) _ _ :=
    .of_step plain (length_lt_append some _) opens
  refine opened.trans (reads.trans (.of_step plain (by simp) fun x done => ?_))
  obtain ⟨_, closed, same⟩ := bind_eq_ok.mp done
  cases closed
  cases same
  rfl

/-- Inside a group, items are pushed on the level. -/
theorem pushAll_enter (s : ReadState) (kind : GroupKind) (count more : Nat)
    (earlier names : List String) (items : List Ast) :
    ((s.enter kind count earlier).counted more names).pushAll items =
      s.inside kind ⟨[], items.reverse⟩ (count + more) names := by
  rw [pushAll_eq]
  simp [enter, inside, counted, Level.empty]

theorem toAst_items (items : List Ast) : Level.toAst ⟨[], items.reverse⟩ = .ofItems items := by
  simp [Level.toAst, Level.nextBranch, Ast.ofBranches]

/-- A group that holds a sequence of items. -/
theorem reads_items {s : ReadState} (plain : s.verbose = false) {kind : GroupKind}
    {opening inner rest : List Char} {count total : Nat} {earlier names : List String}
    (more : Nat) (items : List Ast)
    (opens : ∀ x, s.step (opening ++ (inner ++ ')' :: rest)) = .ok x →
      x = (s.enter kind count earlier, inner ++ ')' :: rest)) (some : opening ≠ [])
    (reads : (s.enter kind count earlier).Reads (inner ++ ')' :: rest)
      (((s.enter kind count earlier).counted more names).pushAll items) (')' :: rest))
    (sum : count + more = s.captures + total) :
    s.Reads (opening ++ (inner ++ ')' :: rest))
      ((s.counted total names).push (.group kind (.ofItems items))) rest := by
  rw [pushAll_enter, sum] at reads
  rw [← toAst_items]
  exact reads_group plain opens some reads

theorem step_open_plain {s : ReadState} (plain : s.verbose = false) (cs : List Char) :
    s.step ("(?:".toList ++ cs) = .ok (s.enter (.plain []) s.captures s.names, cs) := by
  obtain ⟨level, frames, verbose, captures, names⟩ := s
  cases plain
  rfl

theorem step_open_capture {s : ReadState} (plain : s.verbose = false)
    (bare : cs.head? ≠ some '?') :
    s.step ('(' :: cs) = .ok (s.enter (.capture (s.captures + 1) none) (s.captures + 1) s.names,
      cs) := by
  obtain ⟨level, frames, verbose, captures, names⟩ := s
  cases plain
  cases cs with
  | nil => rfl
  | cons c cs =>
    have mark : c ≠ '?' := by simpa using bare
    simp [step, openGroup, skip, mark]
    rfl

theorem eq_of_readGroupName {used : List String} {name : String} (proper : '>' ∉ name.toList)
    (read : readGroupName used (name.toList ++ '>' :: cs) = .ok y) : y = (name, cs) := by
  have inside : ∀ c ∈ name.toList, (c != '>') = true := by
    intro c member
    simp only [bne_iff_ne]
    rintro rfl
    exact proper member
  unfold readGroupName at read
  rw [List.takeWhile_append_of_pos inside, List.dropWhile_append_of_pos inside] at read
  simp only [bne_self_eq_false, Bool.false_eq_true, not_false_eq_true, List.takeWhile_cons_of_neg,
    List.append_nil, String.ofList_toList, List.dropWhile_cons_of_neg] at read
  split at read
  · rename_i closed
    cases closed
    split at read
    · cases read
      rfl
    · contradiction
  · contradiction

theorem step_open_named {s : ReadState} (plain : s.verbose = false) {name : String}
    (proper : '>' ∉ name.toList) {cs : List Char}
    (done : s.step ("(?P<".toList ++ (name.toList ++ '>' :: cs)) = .ok x) :
    x = (s.enter (.capture (s.captures + 1) (some name)) (s.captures + 1) (name :: s.names),
      cs) := by
  obtain ⟨level, frames, verbose, captures, names⟩ := s
  cases plain
  obtain ⟨_, read, same⟩ := bind_eq_ok.mp done
  rw [eq_of_readGroupName proper read] at same
  cases same
  rfl

end ReadState

/-- A rest of text that cannot be taken for a continuation of what is in front of it. -/
def Closes (rest : List Char) : Prop := rest.head? ≠ some '?' ∧ rest.head? ≠ some '\x7b'

/-- The flags a condition is written under. -/
def Look.flags : Look → FlagChange
  | .textStart | .textEnd => []
  | .lineStart | .lineEnd => [(.multiLine, true)]
  | .lineStartCrlf | .lineEndCrlf => [(.multiLine, true), (.crlf, true)]
  | .wordBoundary ascii | .notWordBoundary ascii | .wordStart ascii | .wordEnd ascii
  | .wordStartHalf ascii | .wordEndHalf ascii => if ascii then [(.unicode, false)] else []

def Look.assertion : Look → Assertion
  | .textStart => .textStart
  | .textEnd => .textEnd
  | .lineStart | .lineStartCrlf => .lineStart
  | .lineEnd | .lineEndCrlf => .lineEnd
  | .wordBoundary _ => .wordBoundary
  | .notWordBoundary _ => .notWordBoundary
  | .wordStart _ => .wordStart
  | .wordEnd _ => .wordEnd
  | .wordStartHalf _ => .wordStartHalf
  | .wordEndHalf _ => .wordEndHalf

/-- The structure that the text of a condition is read as. -/
def Look.retold (kind : Look) : Ast :=
  if kind.flags = [] then .assertion kind.assertion
  else .group (.plain kind.flags) (.assertion kind.assertion)

mutual

/-- The structure that the text of an expression is read as, if suffixes follow it. `count` groups
have been numbered before it. -/
def Expr.retold (count : Nat) : Expr → List Bounds → Ast
  | .empty, bs => (Ast.group (.plain []) .empty).suffixed bs
  | .literal [c], bs => (Ast.letter ⟨c, false⟩).suffixed bs
  | .literal text, bs =>
    (Ast.group (.plain []) (.ofItems (text.map fun c => .letter ⟨c, false⟩))).suffixed bs
  | .chars set, bs => (if set.isEmpty then retoldEmptySet else retoldSet set).suffixed bs
  | .bytes set, bs =>
    (if set.isEmpty then retoldEmptySet
      else .group (.plain [(.unicode, false)]) (retoldSet set)).suffixed bs
  | .look kind, bs => kind.retold.suffixed bs
  | .rep min max greedy body, bs => body.retold count (suffixes min max greedy ++ bs)
  | .capture _ name body, bs =>
    (Ast.group (.capture (count + 1) name) (body.retold (count + 1) [])).suffixed bs
  | .concat parts, bs =>
    (Ast.group (.plain []) (.ofItems (Expr.retoldAll count parts))).suffixed bs
  | .alt branches, bs =>
    (Ast.group (.plain []) (.ofBranches (Expr.retoldAll count branches))).suffixed bs

def Expr.retoldAll (count : Nat) : List Expr → List Ast
  | [] => []
  | e :: es => e.retold count [] :: Expr.retoldAll (count + e.captures.length) es

end

namespace ReadState

/-- A group that only changes flags around a single item. -/
theorem reads_flagged {s : ReadState} (plain : s.verbose = false) {flags : FlagChange}
    {opening inner rest : List Char} (some : opening ≠ [])
    (opens : ∀ cs, s.step (opening ++ cs) =
      .ok (s.enter (.plain flags) s.captures s.names, cs))
    (reads : ∀ t : ReadState, t.verbose = false →
      t.Reads (inner ++ ')' :: rest) (t.push item) (')' :: rest)) :
    s.Reads (opening ++ (inner ++ ')' :: rest)) (s.push (.group (.plain flags) item)) rest :=
  reads_items plain 0 [item] (eq_of_step (opens _)) some (reads _ plain) rfl

theorem step_open_ascii {s : ReadState} (plain : s.verbose = false) (cs : List Char) :
    s.step ("(?-u:".toList ++ cs) =
      .ok (s.enter (.plain [(.unicode, false)]) s.captures s.names, cs) := by
  obtain ⟨level, frames, verbose, captures, names⟩ := s
  cases plain
  rfl

/-- The text of a condition under the right flags. -/
def assertionText : Assertion → List Char
  | .lineStart => ['^']
  | .lineEnd => ['$']
  | .textStart => "\\A".toList
  | .textEnd => "\\z".toList
  | .wordBoundary => "\\b".toList
  | .notWordBoundary => "\\B".toList
  | .wordStart => "\\b\x7bstart\x7d".toList
  | .wordEnd => "\\b\x7bend\x7d".toList
  | .wordStartHalf => "\\b\x7bstart-half\x7d".toList
  | .wordEndHalf => "\\b\x7bend-half\x7d".toList

def flagsText : Look → List Char
  | .lineStart | .lineEnd => "(?m:".toList
  | .lineStartCrlf | .lineEndCrlf => "(?mR:".toList
  | _ => "(?-u:".toList

theorem render_look (kind : Look) : kind.render.toList =
    if kind.flags = [] then assertionText kind.assertion
    else flagsText kind ++ (assertionText kind.assertion ++ [')']) := by
  cases kind with
  | textStart | textEnd | lineStart | lineEnd | lineStartCrlf | lineEndCrlf => rfl
  | wordBoundary ascii | notWordBoundary ascii | wordStart ascii | wordEnd ascii
  | wordStartHalf ascii | wordEndHalf ascii => cases ascii <;> rfl

/-- A word boundary in front of the text is not mistaken for a special one. -/
def Ends (rest : List Char) : Prop :=
  readBoundary false rest = .ok (.assertion .wordBoundary, rest)

theorem step_assertion (kind : Assertion) {s : ReadState} (plain : s.verbose = false)
    (ends : Ends rest) :
    s.step (assertionText kind ++ rest) = .ok (s.push (.assertion kind), rest) := by
  obtain ⟨level, frames, verbose, captures, names⟩ := s
  cases plain
  cases kind with
  | wordBoundary => exact bind_eq_ok.mpr ⟨_, ends, rfl⟩
  | _ => rfl

theorem step_flags (kind : Look) (some : kind.flags ≠ []) {s : ReadState}
    (plain : s.verbose = false) (cs : List Char) :
    s.step (flagsText kind ++ cs) = .ok (s.enter (.plain kind.flags) s.captures s.names, cs) := by
  obtain ⟨level, frames, verbose, captures, names⟩ := s
  cases plain
  cases kind with
  | textStart | textEnd => contradiction
  | lineStart | lineEnd | lineStartCrlf | lineEndCrlf => rfl
  | wordBoundary ascii | notWordBoundary ascii | wordStart ascii | wordEnd ascii
  | wordStartHalf ascii | wordEndHalf ascii =>
    cases ascii with
    | false => contradiction
    | true => rfl

theorem reads_assertion (kind : Assertion) {s : ReadState} (plain : s.verbose = false)
    (ends : Ends rest) : s.Reads (assertionText kind ++ rest) (s.push (.assertion kind)) rest := by
  have some : assertionText kind ≠ [] := by cases kind <;> decide
  exact .of_step plain (length_lt_append some rest) (eq_of_step (step_assertion kind plain ends))

theorem reads_look (kind : Look) {s : ReadState} (plain : s.verbose = false) (ends : Ends rest) :
    s.Reads (kind.render.toList ++ rest) (s.push kind.retold) rest := by
  rw [render_look, Look.retold]
  split
  · exact reads_assertion kind.assertion plain ends
  · rename_i some
    rw [List.append_assoc, List.append_assoc, List.singleton_append]
    have opening : flagsText kind ≠ [] := by cases kind <;> simp [flagsText]
    exact reads_flagged plain opening (step_flags kind some plain) fun t still =>
      reads_assertion kind.assertion still rfl

theorem isBoundaryChar_of_isDigit (digit : Char.isDigit c = true) : isBoundaryChar c = false := by
  have low := toNat_of_isDigit digit
  have letter : c ≠ '-' := by
    rintro rfl
    contradiction
  simp only [isBoundaryChar, Char.isAlpha, Char.isUpper, Char.isLower, UInt32.le_iff_toNat_le,
    ge_iff_le, beq_eq_false_iff_ne.mpr letter, Bool.or_false]
  simp
  omega

theorem ends_of_head (closes : rest.head? ≠ some '\x7b') : Ends rest := by
  unfold Ends readBoundary
  split
  · simp at closes
  · rfl

theorem ends_suffixes {bs : List Bounds} (several : ∀ b ∈ bs, b ≠ (1, some 1))
    (closes : Closes rest) : Ends (bs.flatMap renderSuffix ++ rest) := by
  cases bs with
  | nil => exact ends_of_head closes.2
  | cons b bs =>
    rw [List.flatMap_cons, List.append_assoc]
    generalize bs.flatMap renderSuffix ++ rest = rest
    obtain ⟨min, max⟩ := b
    have count (n : Nat) (more : List Char) : Ends ('\x7b' :: (Nat.toDigits 10 n ++ more)) := by
      obtain ⟨d, ds, same, digit⟩ := toDigits_cons n
      simp [Ends, readBoundary, skip, same, isBoundaryChar_of_isDigit digit]
    dsimp only [renderSuffix]
    unfold renderBounds
    split
    · rfl
    · rfl
    · rfl
    · exact absurd rfl (several _ List.mem_cons_self)
    · simpa using count min _
    · split
      · simpa using count min _
      · simpa using count min _

end ReadState

/-! ### Expressions -/

theorem Closes.renderChar (c : Char) (rest : List Char) : Closes (renderChar c ++ rest) := by
  obtain ⟨d, ds, same, first⟩ := renderChar_cons c
  rw [same]
  rcases first with rfl | ordinary
  · simp [Closes]
  · simp only [metaChars, List.mem_cons, not_or] at ordinary
    simp [Closes, ordinary]

/-- The text of an expression cannot be taken for a suffix of what stands before it. -/
theorem Expr.closes_render (rest : List Char) : ∀ e : Expr, Closes (e.render ++ rest)
  | .empty | .literal [] | .literal (_ :: _ :: _) | .concat _ | .alt _ => by
    simp [Expr.render, enclose, Closes]
  | .literal [c] => Closes.renderChar c rest
  | .chars set => by
    rw [Expr.render]
    split <;> simp [Closes, renderEmptySet, renderSet]
  | .bytes set => by
    rw [Expr.render]
    split <;> simp [Closes, renderEmptySet]
  | .look kind => by
    cases kind with
    | textStart | textEnd | lineStart | lineEnd | lineStartCrlf | lineEndCrlf =>
      simp [Expr.render, Look.render, Closes]
    | wordBoundary ascii | notWordBoundary ascii | wordStart ascii | wordEnd ascii
    | wordStartHalf ascii | wordEndHalf ascii =>
      cases ascii <;> simp [Expr.render, Look.render, Closes]
  | .rep min max greedy body => by
    rw [Expr.render, List.append_assoc]
    exact closes_render _ body
  | .capture _ none _ => by simp [Expr.render, Closes]
  | .capture _ (some _) _ => by simp [Expr.render, Closes]

namespace ReadState

theorem Becomes.letters (text : List Char) {s : ReadState} (plain : s.verbose = false)
    (rest : List Char) : s.Becomes (text.flatMap renderChar ++ rest)
      (s.pushAll (text.map fun c => .letter ⟨c, false⟩)) rest := by
  induction text generalizing s with
  | nil => exact .refl _ _
  | cons c text ih =>
    rw [List.flatMap_cons, List.append_assoc]
    obtain ⟨d, ds, same, _⟩ := renderChar_cons c
    exact (Becomes.token plain (by simp [same]) (step_renderChar s c) _).trans (ih plain)

theorem reads_letters (text : List Char) {s : ReadState} (plain : s.verbose = false)
    (rest : List Char) : s.Reads (text.flatMap renderChar ++ rest)
      (s.pushAll (text.map fun c => .letter ⟨c, false⟩)) rest :=
  (Becomes.letters text plain rest).reads

/-- Suffixes after an expression that is one item. -/
theorem Reads.suffixed {s t : ReadState}
    (reads : s.Reads (text ++ (bs.flatMap renderSuffix ++ rest)) (t.push item)
      (bs.flatMap renderSuffix ++ rest)) (still : t.verbose = false)
    (fit : Repeatable item) (several : ∀ b ∈ bs, b ≠ (1, some 1)) (closes : Closes rest) :
    s.Reads (text ++ (bs.flatMap renderSuffix ++ rest)) (t.push (item.suffixed bs)) rest :=
  reads.trans (reads_suffixes still fit several closes.1)

/-- Text in a plain group. -/
theorem reads_enclose {s : ReadState} (plain : s.verbose = false) {inner rest : List Char}
    {total : Nat} {names : List String} (items : List Ast)
    (reads : (s.enter (.plain []) s.captures s.names).Reads (inner ++ ')' :: rest)
      (((s.enter (.plain []) s.captures s.names).counted total names).pushAll items)
      (')' :: rest)) :
    s.Reads (enclose inner ++ rest)
      ((s.counted total names).push (.group (.plain []) (.ofItems items))) rest := by
  rw [enclose, List.append_assoc, List.append_assoc, List.singleton_append]
  exact reads_items plain _ items (eq_of_step (step_open_plain plain _)) (by decide) reads rfl

end ReadState

theorem suffixes_ne {min : Nat} {max : Option Nat} {greedy : Bool} :
    ∀ b ∈ suffixes min max greedy, b ≠ (1, some 1) := by
  rcases suffixes_eq min max greedy with ⟨none, _⟩ | ⟨several, ⟨_, one⟩ | ⟨_, two⟩⟩
  · simp [none]
  · simpa [one] using several
  · simpa [two] using several

theorem Closes.of_ne {c : Char} (mark : c ≠ '?') (brace : c ≠ '\x7b') : Closes (c :: rest) := by
  simp [Closes, mark, brace]

namespace ReadState

theorem reads_set {s : ReadState} (plain : s.verbose = false) {set : CharSet}
    (some : set.isEmpty = false) (rest : List Char) :
    s.Reads (renderSet set ++ rest) (s.push (retoldSet set)) rest :=
  .of_step plain (length_lt_append (by simp [renderSet]) rest) fun _ done =>
    step_renderSet plain some done

theorem reads_emptySet {s : ReadState} (plain : s.verbose = false) (rest : List Char) :
    s.Reads (renderEmptySet ++ rest) (s.push retoldEmptySet) rest :=
  .of_step plain (length_lt_append (by decide) rest) (eq_of_step (step_renderEmptySet plain rest))

theorem counted_push (s : ReadState) (item : Ast) (m n : Nat) (names later : List String) :
    ((s.counted m names).push item).counted n later = (s.counted (m + n) later).push item := by
  simp [counted, push, Nat.add_assoc]

end ReadState

theorem Expr.closes_renderAll (es : List Expr) (closes : Closes rest) :
    Closes (renderAll es ++ rest) := by
  cases es with
  | nil => exact closes
  | cons e es =>
    rw [renderAll, List.append_assoc]
    exact closes_render _ e

open ReadState

mutual

theorem Expr.reads_render : ∀ (e : Expr) (s : ReadState), s.verbose = false → Proper e.captures →
    ∀ bs : List Bounds, (∀ b ∈ bs, b ≠ (1, some 1)) → ∀ rest : List Char, Closes rest →
    ∃ names, s.Reads (e.render ++ (bs.flatMap renderSuffix ++ rest))
      ((s.counted e.captures.length names).push (e.retold s.captures bs)) rest
  | .empty, s, plain, _, bs, several, rest, closes => by
    refine ⟨s.names, Reads.suffixed ?_ plain trivial several closes⟩
    exact reads_enclose plain [] (.refl _ _)
  | .literal [c], s, plain, _, bs, several, rest, closes => by
    refine ⟨s.names, Reads.suffixed ?_ plain trivial several closes⟩
    have reads := reads_letters [c] plain (bs.flatMap renderSuffix ++ rest)
    rw [List.flatMap_singleton] at reads
    exact reads
  | .literal [], s, plain, _, bs, several, rest, closes => by
    refine ⟨s.names, Reads.suffixed ?_ plain trivial several closes⟩
    exact reads_enclose plain [] (.refl _ _)
  | .literal (c :: d :: text), s, plain, _, bs, several, rest, closes => by
    refine ⟨s.names, Reads.suffixed ?_ plain trivial several closes⟩
    exact reads_enclose plain _
      (reads_letters (s := s.enter _ s.captures s.names) (c :: d :: text) plain _)
  | .chars set, s, plain, _, bs, several, rest, closes => by
    rw [render, retold]
    split
    · exact ⟨s.names, (reads_emptySet plain _).suffixed plain trivial several closes⟩
    · rename_i some
      have members : set.isEmpty = false := by simpa using some
      exact ⟨s.names, (reads_set plain members _).suffixed plain trivial several closes⟩
  | .bytes set, s, plain, _, bs, several, rest, closes => by
    rw [render, retold]
    split
    · exact ⟨s.names, (reads_emptySet plain _).suffixed plain trivial several closes⟩
    · rename_i some
      have members : set.isEmpty = false := by simpa using some
      refine ⟨s.names, Reads.suffixed ?_ plain trivial several closes⟩
      rw [List.append_assoc, List.append_assoc, List.singleton_append]
      exact reads_flagged plain (by decide) (step_open_ascii plain) fun t still =>
        reads_set still members _
  | .look kind, s, plain, _, bs, several, rest, closes => by
    refine ⟨s.names, Reads.suffixed ?_ plain ?_ several closes⟩
    · exact reads_look kind plain (ends_suffixes several closes)
    · unfold Look.retold
      split <;> trivial
  | .rep min max greedy body, s, plain, proper, bs, several, rest, closes => by
    -- A repetition has no parentheses of its own: its suffixes run into those that follow.
    obtain ⟨names, reads⟩ := reads_render body s plain proper (suffixes min max greedy ++ bs)
      (fun b member => (List.mem_append.mp member).elim (suffixes_ne b) (several b)) rest closes
    refine ⟨names, ?_⟩
    rw [List.flatMap_append, ← renderBounds_eq_flatMap, List.append_assoc,
      ← List.append_assoc] at reads
    exact reads
  | .capture index none body, s, plain, proper, bs, several, rest, closes => by
    obtain ⟨names, reads⟩ := reads_render body
      (s.enter (.capture (s.captures + 1) none) (s.captures + 1) s.names) plain
      (fun g member => proper g (List.mem_cons_of_mem _ member)) [] (by simp)
      (')' :: (bs.flatMap renderSuffix ++ rest)) (.of_ne (by decide) (by decide))
    refine ⟨names, Reads.suffixed ?_ plain trivial several closes⟩
    have opens := step_open_capture plain (closes_render
      (')' :: (bs.flatMap renderSuffix ++ rest)) body).1
    rw [render, List.append_assoc, List.singleton_append, List.cons_append, ← List.singleton_append]
    exact reads_items plain _ [body.retold (s.captures + 1) []]
      (eq_of_step opens) (by decide) reads (by rw [captures, List.length_cons]; omega)
  | .capture index (some name) body, s, plain, proper, bs, several, rest, closes => by
    obtain ⟨names, reads⟩ := reads_render body
      (s.enter (.capture (s.captures + 1) (some name)) (s.captures + 1) (name :: s.names)) plain
      (fun g member => proper g (List.mem_cons_of_mem _ member)) [] (by simp)
      (')' :: (bs.flatMap renderSuffix ++ rest)) (.of_ne (by decide) (by decide))
    refine ⟨names, Reads.suffixed ?_ plain trivial several closes⟩
    have named : '>' ∉ name.toList := proper _ List.mem_cons_self name rfl
    have opening : render (.capture index (some name) body) ++ (bs.flatMap renderSuffix ++ rest) =
        ("(?P<".toList ++ (name.toList ++ ['>'])) ++
          (body.render ++ ')' :: (bs.flatMap renderSuffix ++ rest)) := by
      simp [render]
    rw [opening]
    refine reads_items plain _ [body.retold (s.captures + 1) []] (fun x done => ?_) (by simp) reads
      (by rw [captures, List.length_cons]; omega)
    rw [List.append_assoc, List.append_assoc, List.singleton_append] at done
    exact step_open_named plain named done
  | .concat parts, s, plain, proper, bs, several, rest, closes => by
    obtain ⟨names, reads⟩ := reads_renderAll parts (s.enter (.plain []) s.captures s.names)
      plain proper (')' :: (bs.flatMap renderSuffix ++ rest)) (.of_ne (by decide) (by decide))
    refine ⟨names, Reads.suffixed ?_ plain trivial several closes⟩
    exact reads_enclose plain _ reads
  | .alt [], s, plain, proper, bs, several, rest, closes => by
    refine ⟨s.names, Reads.suffixed ?_ plain trivial several closes⟩
    exact reads_enclose plain [] (.refl _ _)
  | .alt (e :: es), s, plain, proper, bs, several, rest, closes => by
    obtain ⟨names, l, reads, built⟩ := reads_renderBranches (e :: es) (by simp)
      (s.enter (.plain []) s.captures s.names) plain rfl proper
      (')' :: (bs.flatMap renderSuffix ++ rest)) (.of_ne (by decide) (by decide))
    refine ⟨names, Reads.suffixed ?_ plain trivial several closes⟩
    have body : l.toAst = .ofBranches (retoldAll s.captures (e :: es)) := built
    rw [render, enclose, List.append_assoc, List.append_assoc, List.singleton_append, ← body]
    exact reads_group plain (eq_of_step (step_open_plain plain _)) (by decide) reads

theorem Expr.reads_renderAll : ∀ (es : List Expr) (s : ReadState), s.verbose = false →
    Proper (Expr.capturesAll es) → ∀ rest : List Char, Closes rest →
    ∃ names, s.Reads (Expr.renderAll es ++ rest)
      ((s.counted (Expr.capturesAll es).length names).pushAll (Expr.retoldAll s.captures es)) rest
  | [], s, plain, _, rest, _ => ⟨s.names, .refl _ _⟩
  | e :: es, s, plain, proper, rest, closes => by
    rw [capturesAll, proper_append] at proper
    obtain ⟨first, reads⟩ := reads_render e s plain proper.1 [] (by simp) (renderAll es ++ rest)
      (closes_renderAll es closes)
    obtain ⟨names, more⟩ := reads_renderAll es
      ((s.counted e.captures.length first).push (e.retold s.captures [])) plain proper.2 rest closes
    refine ⟨names, ?_⟩
    rw [counted_push] at more
    rw [renderAll, List.append_assoc, capturesAll, List.length_append, retoldAll]
    exact reads.trans more

theorem Expr.reads_renderBranches : ∀ es : List Expr, es ≠ [] → ∀ s : ReadState,
    s.verbose = false → s.level.items = [] → Proper (Expr.capturesAll es) →
    ∀ rest : List Char, Closes rest →
    ∃ names l, s.Reads (Expr.renderBranches es ++ rest)
      { s.counted (Expr.capturesAll es).length names with level := l } rest ∧
      l.toAst = .ofBranches (s.level.branches.reverse ++ Expr.retoldAll s.captures es)
  | [], nonempty, _, _, _, _, _, _ => absurd rfl nonempty
  | [e], _, s, plain, start, proper, rest, closes => by
    rw [capturesAll, capturesAll, List.append_nil] at proper ⊢
    obtain ⟨names, reads⟩ := reads_render e s plain proper [] (by simp) rest closes
    refine ⟨names, s.level.push (e.retold s.captures []), reads, ?_⟩
    simp [Level.push, Level.toAst, Level.nextBranch, start, Ast.ofItems, retoldAll]
  | e :: f :: es, _, s, plain, start, proper, rest, closes => by
    rw [capturesAll, proper_append] at proper
    obtain ⟨first, reads⟩ := reads_render e s plain proper.1 [] (by simp)
      ('|' :: (renderBranches (f :: es) ++ rest)) (.of_ne (by decide) (by decide))
    let t : ReadState := { s.counted e.captures.length first with
      level := (s.level.push (e.retold s.captures [])).nextBranch }
    have next : ReadState.Reads _ ('|' :: (renderBranches (f :: es) ++ rest)) t _ :=
      .of_step (s := (s.counted e.captures.length first).push (e.retold s.captures [])) plain
        (by simp) fun x done => (Except.ok.inj done).symm
    obtain ⟨names, l, more, built⟩ := reads_renderBranches (f :: es) (by simp) t plain rfl proper.2
      rest closes
    refine ⟨names, l, ?_, ?_⟩
    · rw [show renderBranches (e :: f :: es) = e.render ++ '|' :: renderBranches (f :: es) from rfl,
        List.append_assoc, List.cons_append, capturesAll, List.length_append]
      have total : t.counted (capturesAll (f :: es)).length names = { s.counted
          (e.captures.length + (capturesAll (f :: es)).length) names with level := t.level } := by
        simp [t, counted, Nat.add_assoc]
      rw [total] at more
      exact reads.trans (next.trans more)
    · rw [built]
      simp [t, Level.push, Level.nextBranch, start, Ast.ofItems, retoldAll, counted]

end

theorem Expr.readFrom_render {e : Expr} (proper : Proper e.captures)
    (read : readFrom (e.render.length + 1) .initial e.render = .ok ast) : ast = e.retold 0 [] := by
  obtain ⟨names, reads⟩ := reads_render e .initial rfl proper [] (by simp) [] (by simp [Closes])
  simp only [List.flatMap_nil, List.append_nil] at reads
  obtain ⟨fuel, enough, read⟩ := reads _ _ (Nat.lt_succ_self _) read
  cases fuel with
  | zero => contradiction
  | succ fuel =>
    cases read
    rfl

/-- The text of an expression is read as the structure that retells it, or not at all. -/
theorem Expr.ofString_render {e : Expr} (proper : Proper e.captures)
    (read : Ast.ofString (String.ofList e.render) = .ok ast) : ast = e.retold 0 [] := by
  obtain ⟨_, read, shallow⟩ := bind_eq_ok.mp read
  rw [String.toList_ofList] at read
  split at shallow
  · cases shallow
    exact readFrom_render proper read
  · contradiction

end Construe.Pattern
