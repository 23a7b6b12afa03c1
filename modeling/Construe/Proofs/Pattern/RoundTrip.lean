import Construe.Proofs.Pattern.Reduced
import Construe.Proofs.Pattern.Retelling

/-! # Expressions that survive their own text

A legible expression is read back from its text as it was. What makes a text illegible are classes
that are not written out in order, a question mark right after a suffix that it would make lazy,
and a fixed count marked as lazy. -/
namespace Construe

namespace CharSet

/-- The ranges ascend from `low` on, neither meeting nor touching, and end in characters. -/
def ascendFrom : (low : Nat) → List CharRange → Bool
  | _, [] => true
  | low, r :: rs => low ≤ r.lo && r.lo ≤ r.hi && decide r.lo.isValidChar &&
      decide r.hi.isValidChar && ascendFrom (r.hi + 2) rs

/-- A set in the form in which its ranges are written. -/
def isCanonical (s : CharSet) : Bool := ascendFrom 0 s.ranges

theorem ascendFrom_cons {low : Nat} {r : CharRange} {rs : List CharRange} :
    ascendFrom low (r :: rs) = true ↔ low ≤ r.lo ∧ r.lo ≤ r.hi ∧ r.lo.isValidChar ∧
      r.hi.isValidChar ∧ ascendFrom (r.hi + 2) rs = true := by
  simp [ascendFrom, and_assoc]

theorem ascendFrom_mono {low low' : Nat} {rs : List CharRange} (lower : low' ≤ low)
    (ascend : ascendFrom low rs = true) : ascendFrom low' rs = true := by
  cases rs with
  | nil => rfl
  | cons r rs =>
    rw [ascendFrom_cons] at ascend ⊢
    exact ⟨by omega, ascend.2⟩

theorem joinInto_eq_cons {r : CharRange} {rs : List CharRange}
    (ascend : ascendFrom (r.hi + 2) rs = true) : joinInto r rs = r :: rs := by
  induction rs generalizing r with
  | nil => rfl
  | cons s rs ih =>
    obtain ⟨above, _, _, _, ascend⟩ := ascendFrom_cons.mp ascend
    rw [joinInto, if_neg (by omega), ih ascend]

theorem merge_nil (rs : List CharRange) : merge rs [] = rs := by
  induction rs with
  | nil => rfl
  | cons r rs ih => rw [merge, placeThen, ih]

/-- A range goes in front of ranges that start later. -/
theorem merge_singleton {r : CharRange} {rs : List CharRange}
    (ascend : ascendFrom (r.lo + 1) rs = true) : merge rs [r] = r :: rs := by
  cases rs with
  | nil => rfl
  | cons s rs =>
    obtain ⟨above, _⟩ := ascendFrom_cons.mp ascend
    rw [merge, placeThen, if_neg (by omega), placeThen, merge_nil]

theorem union_singleton {r : CharRange} {rs : List CharRange} (proper : r.lo ≤ r.hi)
    (ascend : ascendFrom (r.hi + 2) rs = true) : union ⟨rs⟩ ⟨[r]⟩ = ⟨r :: rs⟩ := by
  rw [union, merge_singleton (ascendFrom_mono (by omega) ascend), join, joinInto_eq_cons ascend]

theorem union_touching {low high : Nat} {rs : List CharRange} (touching : low + 1 = high)
    (ascend : ascendFrom (high + 2) rs = true) :
    union ⟨⟨high, high⟩ :: rs⟩ ⟨[⟨low, low⟩]⟩ = ⟨⟨low, high⟩ :: rs⟩ := by
  have later : merge (⟨high, high⟩ :: rs) [⟨low, low⟩] = ⟨low, low⟩ :: ⟨high, high⟩ :: rs := by
    rw [merge, placeThen, if_neg (by simp; omega), placeThen, merge_nil]
  rw [union, later, join, joinInto, if_pos (by simp; omega)]
  simp only [show max low high = high by omega]
  rw [joinInto_eq_cons ascend]

end CharSet

namespace Pattern

open Build (bind_eq_ok)

/-! ### Classes -/

theorem toNat_ofNat_of_isValidChar {n : Nat} (valid : n.isValidChar) :
    (Char.ofNat n).toNat = n := by
  rw [Char.ofNat, dif_pos valid]
  rfl

theorem Flags.classChar_ofNat {f : Flags} {n : Nat} (valid : n.isValidChar)
    (takes : f.unicode = true ∨ n ≤ 0x7F) :
    f.classChar ⟨Char.ofNat n, false⟩ = .ok (Char.ofNat n) := by
  refine if_neg ?_
  rw [toNat_ofNat_of_isValidChar valid]
  rcases takes with unicode | ascii
  · simp [unicode]
  · simp
    omega

theorem ofRange_ofNat {m n : Nat} (low : m.isValidChar) (high : n.isValidChar) :
    CharSet.ofRange (Char.ofNat m) (Char.ofNat n) = ⟨[⟨m, n⟩]⟩ := by
  rw [CharSet.ofRange, toNat_ofNat_of_isValidChar low, toNat_ofNat_of_isValidChar high]

theorem set_letter_ofNat {f : Flags} {n : Nat} (valid : n.isValidChar)
    (takes : f.unicode = true ∨ n ≤ 0x7F) :
    (ClassSet.letter ⟨Char.ofNat n, false⟩).set f = .ok ⟨[⟨n, n⟩]⟩ := by
  rw [ClassSet.set, Flags.classChar_ofNat valid takes, ← ofRange_ofNat valid valid]
  rfl

theorem set_range_ofNat {f : Flags} {m n : Nat} (low : m.isValidChar) (high : n.isValidChar)
    (below : m ≤ n) (takes : f.unicode = true ∨ n ≤ 0x7F) :
    (ClassSet.range ⟨Char.ofNat m, false⟩ ⟨Char.ofNat n, false⟩).set f = .ok ⟨[⟨m, n⟩]⟩ := by
  rw [ClassSet.set, Flags.classChar_ofNat low (takes.imp_right (by omega)),
    Flags.classChar_ofNat high takes, ← ofRange_ofNat low high]
  rfl

theorem setAll_cons {f : Flags} {item : ClassSet} {items : List ClassSet}
    (first : item.set f = .ok s) (others : ClassSet.setAll f items = .ok t) :
    ClassSet.setAll f (item :: items) = .ok (t.union s) := by
  rw [ClassSet.setAll, first, others]
  rfl

/-- The items of a canonical set make that set, in Unicode mode or if they are ASCII. -/
theorem setAll_ranges {f : Flags} {rs : List CharRange} (ascend : CharSet.ascendFrom low rs = true)
    (takes : ∀ r ∈ rs, f.unicode = true ∨ r.hi ≤ 0x7F) :
    ClassSet.setAll f (rs.flatMap rangeItems) = .ok ⟨rs⟩ := by
  induction rs generalizing low with
  | nil => rfl
  | cons r rs ih =>
    obtain ⟨first, others⟩ := List.forall_mem_cons.mp takes
    obtain ⟨_, proper, low, high, ascend⟩ := CharSet.ascendFrom_cons.mp ascend
    have rest := ih ascend others
    obtain ⟨m, n⟩ := r
    dsimp only at first proper low high ascend
    rw [List.flatMap_cons, rangeItems]
    dsimp only
    split
    · rename_i single
      obtain rfl : m = n := by simpa using single
      rw [← CharSet.union_singleton proper ascend]
      exact setAll_cons (set_letter_ofNat low first) rest
    · split
      · rename_i pair
        have touching : m + 1 = n := by simpa using pair
        rw [← CharSet.union_touching touching ascend]
        refine setAll_cons (set_letter_ofNat low (first.imp_right (by omega))) ?_
        rw [← CharSet.union_singleton (r := ⟨n, n⟩) (Nat.le_refl n) ascend]
        exact setAll_cons (set_letter_ofNat high first) rest
      · rw [← CharSet.union_singleton proper ascend]
        exact setAll_cons (set_range_ofNat low high proper first) rest

theorem singleton_of_rangeItems {f : Flags} {item : ClassSet} (member : item ∈ rangeItems r)
    (read : item.set f = .ok s) : ∃ q, s = ⟨[q]⟩ := by
  have kind : (∃ l, item = .letter l) ∨ ∃ first last, item = .range first last := by
    unfold rangeItems at member
    dsimp only at member
    split at member
    · exact .inl ⟨_, List.mem_singleton.mp member⟩
    · split at member
      · rcases List.mem_pair.mp member with rfl | rfl <;> exact .inl ⟨_, rfl⟩
      · exact .inr ⟨_, _, List.mem_singleton.mp member⟩
  rcases kind with ⟨l, rfl⟩ | ⟨first, last, rfl⟩
  · obtain ⟨c, _, same⟩ := bind_eq_ok.mp read
    cases same
    exact ⟨_, rfl⟩
  · obtain ⟨a, _, read⟩ := bind_eq_ok.mp read
    obtain ⟨b, _, same⟩ := bind_eq_ok.mp read
    cases same
    exact ⟨_, rfl⟩

/-- Items of ranges make the same set with or without a union around them. -/
theorem set_ofItems {f : Flags} {rs : List CharRange}
    (all : ClassSet.setAll f (rs.flatMap rangeItems) = .ok s) :
    (ClassSet.ofItems (rs.flatMap rangeItems)).set f = .ok s := by
  unfold ClassSet.ofItems
  split
  · rename_i none
    rwa [none] at all
  · rename_i item one
    obtain ⟨r, _, member⟩ := List.mem_flatMap.mp (one ▸ List.mem_singleton_self item)
    obtain ⟨s, rest, all⟩ := bind_eq_ok.mp (one ▸ all)
    obtain ⟨t, read, all⟩ := bind_eq_ok.mp all
    cases rest
    obtain ⟨q, rfl⟩ := singleton_of_rangeItems member read
    exact read.trans all
  · exact all

/-! ### Suffixes -/

namespace Expr

/-- Whether the text ends in a suffix that a question mark after it would make lazy. -/
def endsOpen : Expr → Bool
  | .rep min max greedy _ => greedy || max == some min
  | _ => false

mutual

/-- Whether the text says what the expression is. -/
def legible : Expr → Bool
  | .chars set => set.isCanonical
  | .bytes set => set.isCanonical && set.isAscii
  | .rep min max greedy body => body.legible && (greedy || max != some min) &&
      !(min == 0 && max == some 1 && body.endsOpen)
  | .capture _ _ body => body.legible
  | .concat parts => legibleAll parts
  | .alt branches => legibleAll branches
  | _ => true

def legibleAll : List Expr → Bool
  | [] => true
  | e :: es => e.legible && legibleAll es

end

theorem suffixed_cons_of_ne (item : Ast) (b : Bounds) {bs : List Bounds}
    (apart : bs.head? ≠ some (0, some 1)) :
    item.suffixed (b :: bs) = (Ast.repetition b.1 b.2 true item).suffixed bs := by
  cases bs with
  | nil => rfl
  | cons c bs =>
    rw [Ast.suffixed]
    simpa using apart

theorem suffixed_append (item : Ast) {min : Nat} {max : Option Nat} {greedy : Bool}
    {bs : List Bounds} (apart : (greedy || max == some min) = true → bs.head? ≠ some (0, some 1)) :
    item.suffixed (suffixes min max greedy ++ bs) =
      (item.suffixed (suffixes min max greedy)).suffixed bs := by
  rcases suffixes_eq min max greedy with ⟨none, _⟩ | ⟨_, ⟨open_, one⟩ | ⟨_, two⟩⟩
  · rw [none]
    rfl
  · rw [one]
    exact suffixed_cons_of_ne item _ (apart open_)
  · rw [two]
    rfl

theorem legible_rep {min : Nat} {max : Option Nat} {greedy : Bool} {body : Expr} :
    (rep min max greedy body).legible = true ↔ body.legible = true ∧
      (max = some min → greedy = true) ∧ ((min, max) = (0, some 1) → body.endsOpen = false) := by
  simp only [legible, Bool.and_eq_true, Bool.or_eq_true, bne_iff_ne, Bool.not_eq_true',
    Bool.and_eq_false_imp, beq_iff_eq, and_assoc, and_imp, Prod.mk.injEq]
  grind

/-- The suffixes of a legible repetition do not begin with a mark that its body would take. -/
theorem head_suffixes_ne {min : Nat} {max : Option Nat} {greedy : Bool} {body : Expr}
    (legible : (rep min max greedy body).legible = true) {bs : List Bounds}
    (apart : (rep min max greedy body).endsOpen = true → bs.head? ≠ some (0, some 1))
    (open_ : body.endsOpen = true) :
    (suffixes min max greedy ++ bs).head? ≠ some (0, some 1) := by
  have other : (min, max) ≠ (0, some 1) := by
    intro same
    have := (legible_rep.mp legible).2.2 same
    simp [open_] at this
  rcases suffixes_eq min max greedy with ⟨none, rfl, rfl⟩ | ⟨_, ⟨_, one⟩ | ⟨_, two⟩⟩
  · rw [none]
    exact apart (by simp [endsOpen])
  · simpa [one] using other
  · simpa [two] using other

/-- Suffixes after a legible expression apply to all of it. -/
theorem retold_eq_suffixed (count : Nat) : ∀ (e : Expr), e.legible = true → ∀ bs : List Bounds,
    (e.endsOpen = true → bs.head? ≠ some (0, some 1)) →
    e.retold count bs = (e.retold count []).suffixed bs
  | .rep min max greedy body, legible, bs, apart => by
    have inner := (legible_rep.mp legible).1
    rw [retold, retold, retold_eq_suffixed count body inner _ (head_suffixes_ne legible apart),
      retold_eq_suffixed count body inner _ (head_suffixes_ne legible (by simp)),
      List.append_nil, suffixed_append _ apart]
  | .literal [], _, _, _ | .literal [_], _, _, _ | .literal (_ :: _ :: _), _, _, _
  | .empty, _, _, _ | .chars _, _, _, _ | .bytes _, _, _, _ | .look _, _, _, _
  | .capture _ _ _, _, _, _ | .concat _, _, _, _ | .alt _, _, _, _ => rfl

/-- A legible repetition is read back as one repetition. -/
theorem retold_rep {count min : Nat} {max : Option Nat} {greedy : Bool} {body : Expr}
    (legible : (rep min max greedy body).legible = true)
    (several : ¬ (min = 1 ∧ max = some 1)) :
    retold count (.rep min max greedy body) [] =
      .repetition min max greedy (body.retold count []) := by
  obtain ⟨inner, fixed, _⟩ := legible_rep.mp legible
  rw [retold, retold_eq_suffixed count body inner _ (head_suffixes_ne legible (by simp)),
    List.append_nil]
  rcases suffixes_eq min max greedy with ⟨_, one⟩ | ⟨_, ⟨open_, one⟩ | ⟨closed, two⟩⟩
  · exact absurd one several
  · obtain rfl : greedy = true := by
      cases greedy with
      | true => rfl
      | false => exact fixed (by simpa using open_)
    rw [one]
    rfl
  · obtain rfl : greedy = false := by
      cases greedy with
      | true => simp at closed
      | false => rfl
    rw [two]
    rfl

/-! ### Reading back -/

theorem expr_letter (c : Char) : (Ast.letter ⟨c, false⟩).expr {} = .ok (.literal [c], {}) := by
  have letter : Flags.letter {} ⟨c, false⟩ = .ok (.literal [c]) := by
    simp [Flags.letter, Flags.letterChar, Flags.foldSet, bind, Except.bind, pure, Except.pure]
  rw [Ast.expr, letter]
  rfl

theorem exprAll_letters (text : List Char) :
    Ast.exprAll {} (text.map fun c => .letter ⟨c, false⟩) =
      .ok (text.map fun c => .literal [c], {}) := by
  induction text with
  | nil => rfl
  | cons c text ih =>
    rw [List.map_cons, Ast.exprAll, expr_letter]
    simp only [bind, Except.bind]
    rw [ih]
    rfl

theorem sequence_letters (c : Char) (text : List Char) :
    sequence ((c :: text).map fun c => .literal [c]) = .literal (c :: text) := by
  have flat (text : List Char) : (text.map fun c => literal [c]).flatMap flatParts =
      text.map fun c => literal [c] := by
    rw [List.flatMap_map, List.map_eq_flatMap]
    rfl
  have joined (c : Char) (text : List Char) :
      joinLiterals ((c :: text).map fun c => .literal [c]) = [.literal (c :: text)] := by
    induction text generalizing c with
    | nil => rfl
    | cons d text ih =>
      rw [List.map_cons, joinLiterals, ih d]
      rfl
  rw [sequence, flat, joined]

theorem expr_retoldSet {f : Flags} {set s : CharSet}
    (all : ClassSet.setAll f (set.ranges.flatMap rangeItems) = .ok s)
    (cased : f.ignoreCase = false) : (retoldSet set).expr f = .ok (f.toClass s, f) := by
  rw [retoldSet, Ast.expr, set_ofItems all]
  simp [Flags.foldNegate, Flags.negate, Flags.foldSet, cased, CharSet.negateIf, bind, Except.bind,
    pure, Except.pure]

theorem expr_look (kind : Look) : kind.retold.expr {} = .ok (.look kind, {}) := by
  cases kind with
  | textStart | textEnd | lineStart | lineEnd | lineStartCrlf | lineEndCrlf => rfl
  | wordBoundary ascii | notWordBoundary ascii | wordStart ascii | wordEnd ascii
  | wordStartHalf ascii | wordEndHalf ascii => cases ascii <;> rfl

theorem expr_plain {items : Ast} {change : FlagChange}
    (read : items.expr (Flags.change {} change) = .ok (e, f)) :
    (Ast.group (.plain change) items).expr {} = .ok (e, {}) := by
  rw [Ast.expr, read]
  rfl

theorem expr_concat {items : List Ast} (read : Ast.exprAll {} items = .ok (es, {})) :
    (Ast.concat items).expr {} = .ok (sequence es, {}) := by
  rw [Ast.expr, read]
  rfl

theorem expr_alternation {branches : List Ast} (read : Ast.exprAll {} branches = .ok (es, {})) :
    (Ast.alternation branches).expr {} = .ok (choice es, {}) := by
  rw [Ast.expr, read]
  rfl

theorem ofItems_eq_concat {items : List Ast} (several : 2 ≤ items.length) :
    Ast.ofItems items = .concat items := by
  unfold Ast.ofItems
  split
  · simp at several
  · simp at several
  · rfl

theorem ofBranches_eq_alternation {branches : List Ast} (several : 2 ≤ branches.length) :
    Ast.ofBranches branches = .alternation branches := by
  unfold Ast.ofBranches
  split
  · simp at several
  · simp at several
  · rfl

theorem length_retoldAll (count : Nat) (es : List Expr) :
    (retoldAll count es).length = es.length := by
  induction es generalizing count with
  | nil => rfl
  | cons e es ih => simp [retoldAll, ih]

mutual

/-- A legible expression is read back from its text. -/
theorem expr_retold : ∀ (e : Expr) (count : Nat), e.Reduced → e.legible = true →
    NumberedFrom count e.captures → (e.retold count []).expr {} = .ok (e, {})
  | .empty, _, _, _, _ => rfl
  | .literal [], _, reduced, _, _ => by
    cases reduced
    contradiction
  | .literal [c], _, _, _, _ => expr_letter c
  | .literal (c :: d :: text), _, _, _, _ => by
    refine expr_plain (f := {}) ?_
    rw [ofItems_eq_concat (by simp), ← sequence_letters]
    exact expr_concat (exprAll_letters _)
  | .chars set, count, reduced, legible, _ => by
    cases reduced with
    | chars some single =>
      rw [retold, if_neg (by simp [some])]
      refine (expr_retoldSet (setAll_ranges legible fun _ _ => .inl rfl) rfl).trans ?_
      simp [Flags.toClass, charClass, some, single]
  | .bytes set, count, reduced, legible, _ => by
    cases reduced with
    | fail => rfl
    | bytes some single =>
      simp only [Expr.legible, Bool.and_eq_true] at legible
      rw [retold, if_neg (by simp [some])]
      have built : Flags.toClass (Flags.change {} [(.unicode, false)]) set = .bytes set := by
        simp [Flags.toClass, Flags.change, Flags.set, byteClass, some, single]
      have items := setAll_ranges (f := Flags.change {} [(.unicode, false)]) legible.1
        fun r member => .inr (by simpa using List.all_eq_true.mp legible.2 r member)
      rw [← built]
      exact expr_plain (expr_retoldSet items rfl)
  | .look kind, _, _, _, _ => expr_look kind
  | .rep min max greedy body, count, reduced, legible, numbered => by
    cases reduced with
    | rep inner lasting several hollow =>
      rw [retold_rep legible several, Ast.expr,
        expr_retold body count inner (legible_rep.mp legible).1 numbered]
      show Except.ok (repeated min max (greedy != false) body, _) = _
      rw [Bool.bne_false, repeated_eq_rep lasting several hollow]
  | .capture index name body, count, reduced, legible, numbered => by
    cases reduced with
    | capture inner =>
      obtain ⟨first, others⟩ := List.cons.inj numbered
      have read := expr_retold body (count + 1) inner legible others
      obtain rfl : index = count + 1 := first
      rw [retold, Ast.suffixed, Ast.expr, read]
      rfl
  | .concat parts, count, reduced, legible, numbered => by
    cases reduced with
    | concat each several flat joined =>
      refine expr_plain (f := {}) ?_
      rw [ofItems_eq_concat (by rwa [length_retoldAll]), ← sequence_eq_concat several flat joined]
      exact expr_concat (exprAll_retold parts count each legible numbered)
  | .alt branches, count, reduced, legible, numbered => by
    cases reduced with
    | alt each several flat letters classes apart =>
      refine expr_plain (f := {}) ?_
      rw [ofBranches_eq_alternation (by rwa [length_retoldAll]),
        ← choice_eq_alt several flat letters classes apart]
      exact expr_alternation (exprAll_retold branches count each legible numbered)

theorem exprAll_retold : ∀ (es : List Expr) (count : Nat), (∀ e ∈ es, e.Reduced) →
    legibleAll es = true → NumberedFrom count (capturesAll es) →
    Ast.exprAll {} (retoldAll count es) = .ok (es, {})
  | [], _, _, _, _ => rfl
  | e :: es, count, reduced, legible, numbered => by
    obtain ⟨first, others⟩ := List.forall_mem_cons.mp reduced
    simp only [legibleAll, Bool.and_eq_true] at legible
    rw [capturesAll, numberedFrom_append] at numbered
    rw [retoldAll, Ast.exprAll, expr_retold e count first legible.1 numbered.1]
    simp only [bind, Except.bind]
    rw [exprAll_retold es _ others legible.2 numbered.2]
    rfl

end

theorem legibleAll_iff {es : List Expr} : legibleAll es = true ↔ ∀ e ∈ es, e.legible = true := by
  induction es with
  | nil => simp [legibleAll]
  | cons e es ih => simp [legibleAll, ih]

theorem legible_sequence {parts : List Expr} (each : ∀ p ∈ parts, p.legible = true) :
    (sequence parts).legible = true := by
  have flat : ∀ e ∈ parts, ∀ p ∈ flatParts e, p.legible = true := by
    intro e inside p member
    rcases mem_flatParts member with rfl | ⟨inner, rfl, member⟩
    · exact each p inside
    · exact legibleAll_iff.mp (each _ inside) p member
  exact of_sequence (·.legible = true) flat (fun _ _ _ _ => rfl) rfl (fun _ legible => legible)
    fun _ legible => legibleAll_iff.mpr legible

end Expr

end Pattern

end Construe
