import Construe.Proofs.Lists
import Construe.Proofs.Numerals
import Construe.Proofs.Readings

/-! # Paths of points

A point is written by its two coordinates, a path by its points between brackets. The patterns alone
take more than that: digits of all scripts, and numbers of any size. What is read in the end are the
texts that are written in this way, and nothing else. -/
namespace Construe.Drawing

open Pattern (Expr Segment exprOf)
open Pattern.Segment (Row captured Unambiguous)

structure Point where
  x : Int
  y : Int
deriving DecidableEq, Repr

/-- What is drawn. -/
inductive Figure where
  | point (p : Point)
  | path (points : List Point)
deriving DecidableEq, Repr

def coordinate : IntKind := ⟨true, some 64⟩

def pointPattern : String := "x=(-?\\d+),y=(-?\\d+)"

def pathPattern : String := "path\\((.*)\\)"

def makePoint : List (Value Figure) → Except ConstructionFailure Figure
  | [.int _ x, .int _ y] => .ok (.point ⟨x, y⟩)
  | _ => .error (.missingArgument 0)

def point? : Value Figure → Option Point
  | .made _ (.point p) => some p
  | _ => none

def makePath : List (Value Figure) → Except ConstructionFailure Figure
  | [.list _ items] => .ok (.path (items.filterMap point?))
  | _ => .error (.missingArgument 0)

def pointConstructor : Constructor Figure :=
  .ofTypes [.scalar (.int coordinate), .scalar (.int coordinate)] makePoint

def pathConstructor : Constructor Figure :=
  (Constructor.ofTypes [.list (.declared "Point")] makePath).paramSeparator 0 ";"

/-- Points, and paths with their points behind one another. -/
def drawing : Schema Figure where
  declarations := [
    { name := "Point"
      descriptor := { pattern := some pointPattern, constructor := some pointConstructor } },
    { name := "Path"
      descriptor := { pattern := some pathPattern, constructor := some pathConstructor } }]

/-! ### The patterns -/

/-- Digits of any script, at least one. -/
def manyDigits : Expr := .rep 1 none true (.chars Unicode.digit)

/-- A sign or none, and digits. -/
def signedDigits : Expr := .concat [.rep 0 (some 1) true (.literal ['-']), manyDigits]

def pointParts : List Expr :=
  [.literal "x=".toList, .capture 1 none signedDigits, .literal ",y=".toList,
    .capture 2 none signedDigits]

def pathParts : List Expr :=
  [.literal "path(".toList, .capture 1 none .oneLine, .literal ")".toList]

theorem exprOf_pointPattern : exprOf pointPattern = .ok (.concat pointParts) := rfl

theorem exprOf_pathPattern : exprOf pathPattern = .ok (.concat pathParts) := by cbv

/-- A number as the pattern takes it. -/
def SignedDigits (word : List Char) : Prop :=
  ∃ digits, (word = digits ∨ word = '-' :: digits) ∧ digits ≠ [] ∧
    ∀ c ∈ digits, Unicode.digit.contains c = true

theorem reads_signedDigits : signedDigits.Reads SignedDigits := by
  have lays : Expr.Lays 0 [.rep 0 (some 1) true (.literal ['-']), manyDigits] _ :=
    .plain ((Expr.reads_literal ['-']).option true) (.plain (Expr.reads_run 1 true _) .nil)
  refine (lays.reads rfl).congr fun word => ?_
  constructor
  · rintro ⟨_, _ | ⟨rfl | rfl, _ | ⟨⟨some, all⟩, ⟨⟩⟩⟩, rfl⟩
    · exact ⟨_, .inl (List.append_nil _), List.length_pos_iff.mp some, all⟩
    · exact ⟨_, .inr (congrArg _ (List.append_nil _)), List.length_pos_iff.mp some, all⟩
  · rintro ⟨digits, rfl | rfl, some, all⟩
    · exact ⟨[[], word], .cons (.inl rfl) (.cons ⟨List.length_pos_iff.mpr some, all⟩ .nil),
        by simp⟩
    · exact ⟨[['-'], digits], .cons (.inr rfl) (.cons ⟨List.length_pos_iff.mpr some, all⟩ .nil),
        by simp⟩

def pointSegments : List Segment :=
  [⟨false, (· = "x=".toList)⟩, ⟨true, SignedDigits⟩, ⟨false, (· = ",y=".toList)⟩,
    ⟨true, SignedDigits⟩]

def pathSegments : List Segment :=
  [⟨false, (· = "path(".toList)⟩, ⟨true, ('\n' ∉ ·)⟩, ⟨false, (· = ")".toList)⟩]

theorem costs_signedDigits : signedDigits.Costs 11000 := by
  have weight : Pattern.classWeight Unicode.digit ≤ 10100 := by decide +kernel
  have digits : manyDigits.Costs 10140 :=
    Expr.costs_plus (fun d => (Expr.costs_chars Unicode.digit d).mono weight) true
  exact fun d => ((Expr.CostsAll.cons (Expr.costs_option (Expr.costs_literal ['-']) true)
    (.cons digits .nil)).concat d).mono (by decide +kernel)

theorem exists_pointMatcher :
    ∃ m, Pattern.whole pointPattern 2 = .ok m ∧ m.Fills pointSegments := by
  have costs : Expr.CostsAll pointParts _ :=
    .cons (Expr.costs_literal _) (.cons (Expr.costs_capture _ _ costs_signedDigits)
      (.cons (Expr.costs_literal _) (.cons (Expr.costs_capture _ _ costs_signedDigits) .nil)))
  refine Pattern.exists_fills exprOf_pointPattern
    (.plain (Expr.reads_literal _) (.group reads_signedDigits (.plain (Expr.reads_literal _)
      (.group reads_signedDigits .nil)))) ?_ rfl rfl rfl rfl (by decide +kernel) costs
    (by decide +kernel)
  decide +kernel

theorem exists_pathMatcher :
    ∃ m, Pattern.whole pathPattern 1 = .ok m ∧ m.Fills pathSegments := by
  have costs : Expr.CostsAll pathParts _ :=
    .cons (Expr.costs_literal _) (.cons (Expr.costs_capture _ _ Expr.costs_oneLine)
      (.cons (Expr.costs_literal _) .nil))
  refine Pattern.exists_fills exprOf_pathPattern
    (.plain (Expr.reads_literal _) (.group Expr.reads_oneLine (.plain (Expr.reads_literal _)
      .nil))) ?_ rfl rfl rfl rfl (by decide +kernel) costs (by decide +kernel)
  decide +kernel

/-! ### Telling the parts from the text -/

theorem SignedDigits.not_mem {word : List Char} (signed : SignedDigits word) {c : Char}
    (other : Unicode.digit.contains c = false) (plain : c ≠ '-') : c ∉ word := by
  obtain ⟨digits, rfl | rfl, -, all⟩ := signed
  · intro member
    simp [all c member] at other
  · intro member
    rcases List.mem_cons.mp member with same | member
    · exact plain same
    · simp [all c member] at other

theorem unambiguous_pointSegments : Unambiguous pointSegments := by
  refine Unambiguous.literal (Unambiguous.run (Unambiguous.literal
    (Segment.unambiguous_last _) _ _) (· ≠ ',') ?_ ?_) _ _
  · rintro word signed c member rfl
    exact signed.not_mem (by decide +kernel) (by decide) member
  · rintro _ (_ | ⟨rfl, _⟩) c here
    cases here
    exact not_not.mpr rfl

theorem unambiguous_pathSegments : Unambiguous pathSegments :=
  (Segment.unambiguous_before _ _ _).literal _ _

/-! ### Texts of points and paths -/

/-- The range of the coordinates. -/
def InRange (n : Int) : Prop := -2 ^ 63 ≤ n ∧ n < 2 ^ 63

theorem holds_coordinate {n : Int} : coordinate.holds n = true ↔ InRange n := by
  have least : coordinate.least = -2 ^ 63 := by decide
  have greatest : coordinate.greatest = 2 ^ 63 - 1 := by decide
  simp only [IntKind.holds, least, greatest, Bool.and_eq_true, decide_eq_true_eq, InRange]
  omega

/-- A point as it is written: `x=`, a number, `,y=` and a number. -/
inductive PointText : String → Point → Prop where
  | mk {a b : String} : Numeral a.toList x → InRange x → Numeral b.toList y → InRange y →
      PointText ("x=" ++ a ++ ",y=" ++ b) ⟨x, y⟩

/-- A path as it is written: one point or more, with semicolons between them. -/
def PathText (text : String) (points : List Point) : Prop :=
  ∃ texts, texts ≠ [] ∧ List.Forall₂ PointText texts points ∧
    text = "path(" ++ ";".intercalate texts ++ ")"

/-- A point is written with digits, signs and a few other characters. -/
theorem PointText.not_mem {text : String} {p : Point} (written : PointText text p) {c : Char}
    (other : c.isDigit = false) (plain : c ∉ "x=-,y=".toList) : c ∉ text.toList := by
  have sign : c ≠ '-' := by
    rintro rfl
    exact plain (by decide)
  obtain @⟨x, y, a, b, numeralX, -, numeralY, -⟩ := written
  have first := numeralX.not_mem other sign
  have second := numeralY.not_mem other sign
  simp_all [String.toList_append]

/-- A point is written by its coordinates in decimal. -/
def Point.text (p : Point) : String := "x=" ++ toString p.x ++ ",y=" ++ toString p.y

def pathText (points : List Point) : String :=
  "path(" ++ ";".intercalate (points.map Point.text) ++ ")"

theorem pathText_written {points : List Point} (some : points ≠ [])
    (range : ∀ p ∈ points, InRange p.x ∧ InRange p.y) : PathText (pathText points) points := by
  refine ⟨points.map Point.text, by simpa using some, ?_, rfl⟩
  rw [List.forall₂_map_left_iff, List.forall₂_same]
  intro p member
  exact .mk (numeral_toString p.x) (range p member).1 (numeral_toString p.y) (range p member).2

/-! ### Reading numbers -/

theorem contains_digit {c : Char} (ascii : c.isDigit = true) : Unicode.digit.contains c = true := by
  have first : ⟨48, 57⟩ ∈ Unicode.digit.ranges := List.mem_of_mem_head? (by decide +kernel)
  refine List.any_eq_true.mpr ⟨_, first, ?_⟩
  have bounds : 48 ≤ c.toNat ∧ c.toNat ≤ 57 := by
    simpa [Char.isDigit, UInt32.le_iff_toNat_le] using ascii
  simpa [CharRange.covers] using bounds

theorem signedDigits_of_numeral {word : List Char} {n : Int} (numeral : Numeral word n) :
    SignedDigits word := by
  cases numeral with
  | natural digits =>
    exact ⟨_, .inl rfl, digits.some, fun c member => contains_digit (digits.ascii c member)⟩
  | negative digits =>
    exact ⟨_, .inr rfl, digits.some, fun c member => contains_digit (digits.ascii c member)⟩

/-- Of what the pattern takes, the converter reads the numerals in range. -/
theorem convert_coordinate {word : List Char} (signed : SignedDigits word) {value : Value Figure} :
    Scalar.convert (.int coordinate) (String.ofList word) = some value ↔
      ∃ n, Numeral word n ∧ InRange n ∧ value = .int coordinate n := by
  have unmarked : (String.ofList word).toList.head? ≠ some '+' := by
    rw [String.toList_ofList]
    intro first
    exact signed.not_mem (by decide +kernel) (by decide) (List.mem_of_mem_head? first)
  have read (n : Int) := IntKind.read?_eq_some (k := coordinate) (n := n) rfl unmarked
  simp only [Scalar.convert, Option.map_eq_some_iff, read, String.toList_ofList, holds_coordinate]
  constructor
  · rintro ⟨n, ⟨range, numeral⟩, rfl⟩
    exact ⟨n, numeral, range, rfl⟩
  · rintro ⟨n, numeral, range, rfl⟩
    exact ⟨n, ⟨range, numeral⟩, rfl⟩

/-! ### Reading points -/

def number : Interpreter Figure :=
  .converter (.scalar (.int coordinate)) (Scalar.convert (.int coordinate))

def pointValue (p : Point) : Value Figure := .made "Point" (.point p)

def pointReader (matcher : Pattern) : Interpreter Figure :=
  .candidates (.declared "Point") [.mk pointPattern matcher [number, number]
    (pointConstructor.chain (.declared "Point") .ok)]

theorem makePoint_eq_ok {x y : Int} :
    pointConstructor.chain (.declared "Point") .ok [.int coordinate x, .int coordinate y] =
      .ok (pointValue ⟨x, y⟩) := rfl

theorem pointReader_eq_ok {matcher : Pattern} (fills : matcher.Fills pointSegments)
    {text : String} {value : Value Figure} :
    (pointReader matcher).interpret text = .ok value ↔
      ∃ p, PointText text p ∧ value = pointValue p := by
  rw [pointReader, Interpreter.interpret_single,
    Interpreter.built_iff fills unambiguous_pointSegments]
  constructor
  · rintro ⟨_, _, _ | ⟨rfl, _ | ⟨first, _ | ⟨rfl, _ | ⟨second, ⟨⟩⟩⟩⟩⟩, split,
      _ | ⟨readX, _ | ⟨readY, ⟨⟩⟩⟩, made⟩
    rename_i a b _ _
    obtain ⟨x, numeralX, rangeX, rfl⟩ :=
      (convert_coordinate first).mp (Interpreter.interpret_converter.mp readX)
    obtain ⟨y, numeralY, rangeY, rfl⟩ :=
      (convert_coordinate second).mp (Interpreter.interpret_converter.mp readY)
    rw [makePoint_eq_ok] at made
    cases made
    have whole : text = "x=" ++ String.ofList a ++ ",y=" ++ String.ofList b := by
      rw [← String.toList_inj, split]
      simp
    rw [whole]
    exact ⟨⟨x, y⟩, .mk (by simpa) rangeX (by simpa) rangeY, rfl⟩
  · rintro ⟨_, @⟨x, y, a, b, numeralX, rangeX, numeralY, rangeY⟩, rfl⟩
    have first := signedDigits_of_numeral numeralX
    have second := signedDigits_of_numeral numeralY
    refine ⟨["x=".toList, a.toList, ",y=".toList, b.toList], [.int coordinate x, .int coordinate y],
      .cons rfl (.cons first (.cons rfl (.cons second .nil))), by simp, ?_, makePoint_eq_ok⟩
    exact .cons (Interpreter.interpret_converter.mpr
        ((convert_coordinate first).mpr ⟨x, numeralX, rangeX, rfl⟩))
      (.cons (Interpreter.interpret_converter.mpr
        ((convert_coordinate second).mpr ⟨y, numeralY, rangeY, rfl⟩)) .nil)

/-! ### Reading paths -/

/-- The separator of the points of a path. -/
def semicolons : Pattern := ⟨";", 0, (Expr.literal [';']).program⟩

theorem ofString_semicolon : Pattern.ofString ";" = .ok semicolons := by
  have read : exprOf ";" = .ok (.literal [';']) := rfl
  have fits : (Expr.literal [';']).fits = true := by decide +kernel
  rw [Pattern.ofString_of_exprOf read, if_pos fits]
  rfl

def pointsReader (matcher : Pattern) : Interpreter Figure :=
  .sequence (.list (.declared "Point")) semicolons (pointReader matcher)
    (Sequence.collect ⟨.declared "Point", .list (.declared "Point")⟩)

theorem not_mem_intercalate {c : Char} {separator : List Char} {words : List (List Char)}
    (apart : c ∉ separator) (clean : ∀ word ∈ words, c ∉ word) :
    c ∉ separator.intercalate words := by
  induction words with
  | nil => simp [List.intercalate]
  | cons word words ih =>
    obtain ⟨first, others⟩ := List.forall_mem_cons.mp clean
    cases words with
    | nil => simpa [List.intercalate] using first
    | cons next words =>
      have later := ih others
      simp_all [List.intercalate]

theorem forall₂_map_iff {R : β → γ → Prop} {f : γ → δ} {xs : List β} {zs : List δ} :
    List.Forall₂ (fun x z => ∃ y, R x y ∧ z = f y) xs zs ↔
      ∃ ys, List.Forall₂ R xs ys ∧ zs = ys.map f := by
  constructor
  · intro each
    induction each with
    | nil => exact ⟨[], .nil, rfl⟩
    | cons first _ ih =>
      obtain ⟨y, related, rfl⟩ := first
      obtain ⟨ys, others, rfl⟩ := ih
      exact ⟨y :: ys, .cons related others, rfl⟩
  · rintro ⟨ys, each, rfl⟩
    exact List.forall₂_map_right_iff.mpr (each.imp fun _ y related => ⟨y, related, rfl⟩)

theorem pointsReader_eq_ok {matcher : Pattern} (fills : matcher.Fills pointSegments)
    {text : String} {value : Value Figure} :
    (pointsReader matcher).interpret text = .ok value ↔ ∃ texts points,
      texts ≠ [] ∧ List.Forall₂ PointText texts points ∧ text = ";".intercalate texts ∧
        value = .list (.declared "Point") (points.map pointValue) := by
  rw [pointsReader, Interpreter.interpret_sequence_eq_ok, Pattern.split_character rfl]
  simp only [pointReader_eq_ok fills, forall₂_map_iff]
  constructor
  · rintro ⟨_, ⟨points, each, rfl⟩, done⟩
    refine ⟨_, points, ?_, each, ?_, Interpreter.collect_list done⟩
    · simp [List.splitOn_ne_nil]
    · rw [← String.toList_inj, String.toList_intercalate]
      simp [Function.comp_def, List.intercalate_splitOn]
  · rintro ⟨texts, points, some, each, rfl, rfl⟩
    have clean : ∀ text ∈ texts.map String.toList, ';' ∉ text := by
      intro _ listed
      obtain ⟨text, member, rfl⟩ := List.mem_map.mp listed
      obtain ⟨p, -, written⟩ := Build.mem_left_of_forall₂ each member
      exact written.not_mem (by decide) (by decide)
    have split : (";".intercalate texts).toList.splitOn ';' = texts.map String.toList := by
      rw [String.toList_intercalate]
      exact List.splitOn_intercalate ';' clean (by simpa using some)
    have typed : ∀ value ∈ points.map pointValue, value.HasType (.declared "Point") := by
      intro _ listed
      obtain ⟨p, -, rfl⟩ := List.mem_map.mp listed
      exact .made
    refine ⟨points.map pointValue, ⟨points, ?_, rfl⟩, Sequence.collect_eq_ok typed⟩
    rw [split]
    simpa [Function.comp_def] using each

def pathReader (matcher inner : Pattern) : Interpreter Figure :=
  .candidates (.declared "Path") [.mk pathPattern matcher [pointsReader inner]
    (pathConstructor.chain (.declared "Path") .ok)]

theorem makePath_eq_ok (points : List Point) :
    pathConstructor.chain (.declared "Path") .ok
        [.list (.declared "Point") (points.map pointValue)] =
      .ok (.made "Path" (.path points)) := by
  have same : (points.map pointValue).filterMap point? = points := by
    rw [List.filterMap_map]
    exact List.filterMap_some
  have made : pathConstructor.chain (.declared "Path") .ok
      [.list (.declared "Point") (points.map pointValue)] =
        .ok (.made "Path" (.path ((points.map pointValue).filterMap point?))) := rfl
  rw [made, same]

theorem pathReader_eq_ok {matcher inner : Pattern} (fills : matcher.Fills pathSegments)
    (innerFills : inner.Fills pointSegments) {text : String} {value : Value Figure} :
    (pathReader matcher inner).interpret text = .ok value ↔
      ∃ points, PathText text points ∧ value = .made "Path" (.path points) := by
  rw [pathReader, Interpreter.interpret_single,
    Interpreter.built_iff fills unambiguous_pathSegments]
  constructor
  · rintro ⟨_, _, _ | ⟨rfl, _ | ⟨line, _ | ⟨rfl, ⟨⟩⟩⟩⟩, split, _ | ⟨read, ⟨⟩⟩, made⟩
    rename_i inside _
    obtain ⟨texts, points, some, each, same, rfl⟩ := (pointsReader_eq_ok innerFills).mp read
    rw [makePath_eq_ok] at made
    cases made
    refine ⟨points, ⟨texts, some, each, ?_⟩, rfl⟩
    rw [← same, ← String.toList_inj, split]
    simp
  · rintro ⟨points, ⟨texts, some, each, rfl⟩, rfl⟩
    have line : '\n' ∉ (";".intercalate texts).toList := by
      rw [String.toList_intercalate]
      refine not_mem_intercalate (by decide) fun _ listed => ?_
      obtain ⟨text, member, rfl⟩ := List.mem_map.mp listed
      obtain ⟨p, -, written⟩ := Build.mem_left_of_forall₂ each member
      exact written.not_mem (by decide) (by decide)
    refine ⟨["path(".toList, (";".intercalate texts).toList, ")".toList],
      [.list (.declared "Point") (points.map pointValue)],
      .cons rfl (.cons line (.cons rfl .nil)), by simp, .cons ?_ .nil, makePath_eq_ok points⟩
    exact (pointsReader_eq_ok innerFills).mpr
      ⟨texts, points, some, each, String.ofList_toList, rfl⟩

/-! ### The answer to a request -/

theorem quiet_drawing : drawing.Quiet :=
  Schema.quiet_of_declarations (by simp [drawing])

theorem ask_path (names : List String) : ∃ matcher inner,
    (Registry.standard.ask drawing names { type := .declared "Path" }).1 =
      .ok (pathReader matcher inner) ∧
    matcher.Fills pathSegments ∧ inner.Fills pointSegments := by
  obtain ⟨matcher, compiled, fills⟩ := exists_pathMatcher
  obtain ⟨inner, innerCompiled, innerFills⟩ := exists_pointMatcher
  have point : Draft.resolve drawing Registry.standard.converterFor? 8
      ((Path.start.build { type := .declared "Path" }).build
        ⟨.list (.declared "Point"), none, some ";"⟩)
      { type := .declared "Point" } = .ok (pointReader inner) :=
    Draft.resolve_declared rfl rfl (by decide) (Draft.unfold_bound rfl (by decide) rfl innerCompiled
      (.cons (Draft.resolve_served rfl (by decide)) (.cons (Draft.resolve_served rfl (by decide))
        .nil))) (by simp)
  have drafted : Draft.resolve drawing Registry.standard.converterFor? 14 .start
      { type := .declared "Path" } = .ok (pathReader matcher inner) :=
    Draft.resolve_declared rfl rfl (by decide) (Draft.unfold_bound rfl (by decide) rfl compiled
      (.cons (Draft.resolve_sequence rfl rfl (by decide) ofString_semicolon point) .nil)) (by simp)
  exact ⟨matcher, inner, Registry.ask_of_draft quiet_drawing true [] names drafted, fills,
    innerFills⟩

/-- A path is read just if it is written as one, in any way in which its numbers can be written,
and then it has the points that are written. So every path that has points is read back from its
text. -/
theorem paths_read_exactly (names : List String) : ∃ i,
    (Registry.standard.ask drawing names { type := .declared "Path" }).1 = .ok i ∧
    (∀ text value, i.run text = .ok value ↔
      ∃ points, PathText text points ∧ value = .made "Path" (.path points)) ∧
    ∀ points, points ≠ [] → (∀ p ∈ points, InRange p.x ∧ InRange p.y) →
      i.run (pathText points) = .ok (.made "Path" (.path points)) := by
  obtain ⟨matcher, inner, answered, fills, innerFills⟩ := ask_path names
  have reads (text : String) (value : Value Figure) :
      (pathReader matcher inner).run text = .ok value ↔
        ∃ points, PathText text points ∧ value = .made "Path" (.path points) := by
    rw [Interpreter.run_eq_ok, pathReader_eq_ok fills innerFills]
    refine and_iff_left_of_imp ?_
    rintro ⟨points, -, rfl⟩
    rfl
  exact ⟨_, answered, reads, fun points some range =>
    (reads _ _).mpr ⟨points, pathText_written some range, rfl⟩⟩

/-- The limits of the range are read, and so are zeros and a sign that say nothing. -/
theorem paths_at_the_limits : ∃ i,
    (Registry.standard.ask drawing [] { type := .declared "Path" }).1 = .ok i ∧
    i.run "path(x=-9223372036854775808,y=9223372036854775807;x=0,y=7)" =
      .ok (.made "Path" (.path [⟨-2 ^ 63, 2 ^ 63 - 1⟩, ⟨0, 7⟩])) ∧
    i.run "path(x=-0,y=007)" = .ok (.made "Path" (.path [⟨0, 7⟩])) := by
  obtain ⟨i, answered, reads, formatted⟩ := paths_read_exactly []
  have limits := formatted [⟨-2 ^ 63, 2 ^ 63 - 1⟩, ⟨0, 7⟩] (by simp) (by simp [InRange])
  have text : pathText [⟨-2 ^ 63, 2 ^ 63 - 1⟩, ⟨0, 7⟩] =
      "path(x=-9223372036854775808,y=9223372036854775807;x=0,y=7)" := by decide +kernel
  have zero : Digits ['0'] 0 := ⟨by simp, by simp, rfl⟩
  have seven : Digits ['0', '0', '7'] 7 := ⟨by simp, by simp, rfl⟩
  have zeros : PointText ("x=" ++ "-0" ++ ",y=" ++ "007") ⟨-(0 : Nat), (7 : Nat)⟩ :=
    .mk (.negative zero) (by simp [InRange]) (.natural seven) (by simp [InRange])
  exact ⟨i, answered, text ▸ limits,
    (reads _ _).mpr ⟨_, ⟨["x=-0,y=007"], by simp, .cons zeros .nil, by decide⟩, rfl⟩⟩

end Construe.Drawing
