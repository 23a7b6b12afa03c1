import Construe.Proofs.Pattern.Makeup
import Construe.Proofs.Pattern.Tables
import Construe.Proofs.Pattern.Whole

/-! # What patterns are made of

The classes in the expression of a pattern have proper ranges, those written outside Unicode mode
are ASCII, and all bounds can be counts. Classes are nested no deeper than patterns may be, so that
complements of complements stay tame. -/
namespace Construe.Pattern

open Build (bind_eq_ok)
open CharSet (Upto Tame)

/-! ### Letter case -/

theorem upto_moved {s : CharSet} (proper : s.Proper) (lo hi target : Nat)
    (source : CharRange.Proper ⟨lo, hi⟩) (ascii : target + (hi - lo) ≤ 0x7F) :
    Upto 0x7F ⟨(s.ranges.filterMap (CharRange.inter? ⟨lo, hi⟩)).map fun r =>
      ⟨target + (r.lo - lo), target + (r.hi - lo)⟩⟩ := by
  have each : ∀ p ∈ (s.ranges.filterMap (CharRange.inter? ⟨lo, hi⟩)).map fun r =>
      (⟨target + (r.lo - lo), target + (r.hi - lo)⟩ : CharRange), p.lo ≤ p.hi ∧ p.hi ≤ 0x7F := by
    intro p member
    obtain ⟨r, inside, rfl⟩ := List.mem_map.mp member
    obtain ⟨q, listed, meets⟩ := List.mem_filterMap.mp inside
    obtain ⟨⟨order, _⟩, ⟨_, last⟩, _⟩ := CharRange.of_inter? source (proper q listed) meets
    dsimp only at last ⊢
    omega
  refine ⟨fun p member => ?_, fun p member => (each p member).2⟩
  obtain ⟨order, top⟩ := each p member
  exact ⟨order, isValidChar_iff.mpr (by omega), isValidChar_iff.mpr (by omega)⟩

theorem tame_closeAscii {s : CharSet} (upto : Upto 0x7F s) (bound : Nat) :
    Tame 0x7F bound (closeAscii s) := by
  have upper := upto_moved upto.proper 0x41 0x5A 0x61 ⟨by decide, by decide, by decide⟩ (by decide)
  have lower := upto_moved upto.proper 0x61 0x7A 0x41 ⟨by decide, by decide, by decide⟩ (by decide)
  refine CharSet.tame_union upto (CharSet.tame_ofRanges ⟨?_, ?_⟩ bound).toUpto bound
  · exact List.forall_mem_append.mpr ⟨upper.proper, lower.proper⟩
  · exact List.forall_mem_append.mpr ⟨upper.below, lower.below⟩

/-- A character that is not ASCII has no ASCII variants. -/
theorem closeAscii_singleton {c : Char} (other : 0x7F < c.toNat) :
    closeAscii (.singleton c) = .singleton c := by
  have apart (lo hi : Nat) (low : hi ≤ 0x7F) :
      CharRange.inter? ⟨lo, hi⟩ ⟨c.toNat, c.toNat⟩ = none := by
    refine if_neg ?_
    simp only
    omega
  simp only [closeAscii, CharSet.singleton, CharSet.ofRange, List.filterMap_cons,
    apart 0x41 0x5A (by decide), apart 0x61 0x7A (by decide)]
  rfl

theorem tame_close {s : CharSet} (proper : s.Proper) (bound : Nat) :
    Tame maxCode bound (Unicode.Folding.close s) := by
  have codes (pairs : List (Nat × Nat)) (pick : Nat × Nat → Nat)
      (valid : ∀ p ∈ pairs, (pick p).isValidChar) :
      Upto maxCode (.ofRanges (pairs.map fun p => ⟨pick p, pick p⟩)) := by
    refine CharSet.upto_of_isCanonical (CharSet.isCanonical_ofRanges fun r member => ?_)
    obtain ⟨p, listed, rfl⟩ := List.mem_map.mp member
    exact ⟨Nat.le_refl _, valid p listed, valid p listed⟩
  unfold Unicode.Folding.close
  extract_lets touched targets sources
  refine CharSet.tame_union (CharSet.upto_union (CharSet.upto_of_proper proper) ?_) ?_ bound
  · exact codes touched Prod.snd fun p listed =>
      (Unicode.Folding.valid_pairs p (List.mem_filter.mp listed).1).2
  · exact codes sources Prod.fst fun p listed =>
      (Unicode.Folding.valid_pairs p (List.mem_filter.mp listed).1).1

/-! ### Sets in the mode at hand -/

namespace Flags

/-- The last code a set may hold. -/
def top (f : Flags) : Nat := if f.unicode then maxCode else 0x7F

theorem ascii_le_top (f : Flags) : 0x7F ≤ f.top := by
  unfold top
  split
  · decide
  · exact Nat.le_refl _

theorem tame_foldSet {f : Flags} {s : CharSet} (tame : Tame f.top bound s) :
    Tame f.top bound (f.foldSet s) := by
  unfold foldSet
  split
  · exact tame
  · unfold top at tame ⊢
    split
    · exact tame_close tame.proper bound
    · rename_i ascii
      rw [if_neg ascii] at tame
      exact tame_closeAscii tame.toUpto bound

theorem tame_negate {f : Flags} {s t : CharSet} (tame : Tame f.top bound s)
    (surrogates : 0xE000 ≤ bound) (small : bound < maxCode) (done : f.negate negated s = .ok t) :
    Tame f.top (bound + 1) t := by
  unfold negate at done
  split at done
  · contradiction
  · rename_i allowed
    cases done
    unfold CharSet.negateIf
    split
    · rename_i negated
      have unicode : f.unicode = true := by simpa [negated] using allowed
      rw [top, if_pos unicode] at tame ⊢
      exact CharSet.tame_complement surrogates small tame
    · exact tame.mono (Nat.le_refl _) (Nat.le_succ _)

theorem tame_foldNegate {f : Flags} {s t : CharSet} (tame : Tame f.top bound s)
    (surrogates : 0xE000 ≤ bound) (small : bound < maxCode)
    (done : f.foldNegate negated s = .ok t) : Tame f.top (bound + 1) t :=
  tame_negate (tame_foldSet tame) surrogates small done

theorem of_classChar {f : Flags} {l : Letter} (read : f.classChar l = .ok c) :
    c = l.char ∧ l.char.toNat ≤ f.top := by
  unfold classChar at read
  split at read
  · contradiction
  · rename_i allowed
    cases read
    refine ⟨rfl, ?_⟩
    unfold top
    split
    · exact le_maxCode l.char.valid
    · rename_i ascii
      simpa [ascii] using allowed

theorem tame_propertySet {f : Flags} {s : CharSet} (read : f.propertySet negated p = .ok s) :
    Tame f.top 0xE002 s := by
  unfold propertySet at read
  split at read
  · contradiction
  · rename_i allowed
    have unicode : f.unicode = true := by simpa using allowed
    split at read
    · rename_i t named
      have orderly : Unicode.Orderly t := by
        unfold PropertyName.set? at named
        split at named
        · exact Unicode.Property.orderly_named? named
        · exact Unicode.Property.orderly_valued? named
      rw [Unicode.Orderly, ← show f.top = maxCode from if_pos unicode] at orderly
      exact tame_foldNegate orderly (by decide) (by decide) read
    · contradiction

end Flags

theorem Posix.canonical_set (kind : Posix) :
    kind.set.isCanonical = true ∧ ∀ r ∈ kind.set.ranges, r.hi ≤ 0x7F := by
  cases kind <;> decide

theorem Posix.tame_set (kind : Posix) (bound : Nat) : Tame 0x7F bound kind.set :=
  ⟨⟨CharSet.proper_of_isCanonical kind.canonical_set.1, kind.canonical_set.2⟩,
    CharSet.apart_of_isCanonical kind.canonical_set.1 bound⟩

theorem Shorthand.orderly_unicodeSet (kind : Shorthand) : Unicode.Orderly kind.unicodeSet := by
  cases kind with
  | digit => exact Unicode.orderly_of_isCanonical Unicode.canonical_digit
  | space => exact Unicode.orderly_of_isCanonical Unicode.canonical_space
  | word => exact Unicode.orderly_word

theorem Shorthand.tame_asciiSet (kind : Shorthand) (bound : Nat) :
    Tame 0x7F bound kind.asciiSet := by
  cases kind with
  | digit => exact Posix.digit.tame_set bound
  | space => exact Posix.space.tame_set bound
  | word => exact Posix.word.tame_set bound

theorem Flags.tame_shorthandSet {f : Flags} {s : CharSet}
    (read : f.shorthandSet negated kind = .ok s) : Tame f.top 0xE002 s := by
  have tame : Tame f.top 0xE001 (if f.unicode then kind.unicodeSet else kind.asciiSet) := by
    unfold top
    split
    · exact kind.orderly_unicodeSet
    · exact kind.tame_asciiSet _
  exact tame_negate tame (by decide) (by decide) read

theorem SetOp.tame_apply {kind : SetOp} {s t : CharSet} (left : Tame top bound s)
    (right : Tame top bound t) : Tame top bound (kind.apply s t) := by
  cases kind with
  | inter => exact CharSet.tame_inter left right
  | diff => exact CharSet.tame_diff left right.proper
  | symmDiff => exact CharSet.tame_symmDiff left right

mutual

/-- The set of a class is tame, the less so the deeper complements are nested. -/
theorem ClassSet.tame_set : ∀ {c : ClassSet} {f : Flags} {s : CharSet}, c.Ordered →
    c.depth ≤ nestLimit → c.set f = .ok s → Tame f.top (0xE002 + c.depth) s
  | .empty, _, _, _, _, read => by
    cases read
    exact ⟨⟨by simp [CharSet.Proper, CharSet.empty], by simp [CharSet.empty]⟩, .nil⟩
  | .letter l, _, _, _, _, read => by
    obtain ⟨c, allowed, same⟩ := bind_eq_ok.mp read
    obtain ⟨rfl, upto⟩ := Flags.of_classChar allowed
    cases same
    exact CharSet.tame_singleton ⟨Nat.le_refl _, l.char.valid, l.char.valid⟩ upto _
  | .range first last, _, _, ordered, _, read => by
    obtain ⟨a, low, read⟩ := bind_eq_ok.mp read
    obtain ⟨b, high, same⟩ := bind_eq_ok.mp read
    obtain ⟨rfl, _⟩ := Flags.of_classChar low
    obtain ⟨rfl, upto⟩ := Flags.of_classChar high
    cases same
    cases ordered with
    | range order => exact CharSet.tame_singleton ⟨order, first.char.valid, last.char.valid⟩ upto _
  | .posix _ kind, f, _, _, _, read =>
    Flags.tame_foldNegate ((kind.tame_set 0xE001).mono f.ascii_le_top (Nat.le_refl _)) (by decide)
      (by decide) read
  | .shorthand _ _, _, _, _, _, read => Flags.tame_shorthandSet read
  | .property _ _, _, _, _, _, read => Flags.tame_propertySet read
  | .bracketed _ inner, _, _, ordered, shallow, read => by
    obtain ⟨t, inside, read⟩ := bind_eq_ok.mp read
    cases ordered with
    | bracketed ordered =>
      rw [depth] at shallow ⊢
      have small : 0xE002 + inner.depth < maxCode := by
        unfold nestLimit at shallow
        unfold maxCode
        omega
      have large : 0xE000 ≤ 0xE002 + inner.depth := Nat.le_trans (by decide) (Nat.le_add_right _ _)
      exact Flags.tame_foldNegate (tame_set ordered (by omega) inside) large small read
  | .union items, _, _, ordered, shallow, read => by
    cases ordered with
    | union each =>
      rw [depth] at shallow
      exact ClassSet.tame_setAll each (by omega) read _
  | .op kind left right, _, _, ordered, shallow, read => by
    obtain ⟨s, first, read⟩ := bind_eq_ok.mp read
    obtain ⟨t, second, same⟩ := bind_eq_ok.mp read
    cases same
    cases ordered with
    | op one two =>
      rw [depth] at shallow ⊢
      have first := Flags.tame_foldSet (tame_set one (by omega) first)
      have second := Flags.tame_foldSet (tame_set two (by omega) second)
      exact SetOp.tame_apply (first.mono (Nat.le_refl _) (by omega))
        (second.mono (Nat.le_refl _) (by omega))

theorem ClassSet.tame_setAll : ∀ {items : List ClassSet} {f : Flags} {s : CharSet},
    (∀ item ∈ items, item.Ordered) → ClassSet.depthAll items ≤ nestLimit →
    ClassSet.setAll f items = .ok s → ∀ bound, Tame f.top bound s
  | [], _, _, _, _, read, bound => by
    cases read
    exact ⟨⟨by simp [CharSet.Proper, CharSet.empty], by simp [CharSet.empty]⟩, .nil⟩
  | item :: items, _, _, ordered, shallow, read, bound => by
    obtain ⟨first, others⟩ := List.forall_mem_cons.mp ordered
    rw [depthAll] at shallow
    obtain ⟨s, rest, read⟩ := bind_eq_ok.mp read
    obtain ⟨t, this, same⟩ := bind_eq_ok.mp read
    cases same
    exact CharSet.tame_union (tame_setAll others (by omega) rest bound).toUpto
      (tame_set first (by omega) this).toUpto bound

end

/-! ### Expressions -/

/-- Proper ranges, ASCII outside Unicode mode, and bounds that can be counts. -/
def Makeup.clean : Makeup where
  classes := CharSet.Proper
  bytes := Upto 0x7F
  bounds := Bounds.Fine

theorem Makeup.lawful_clean : clean.Lawful where
  proper meets := meets
  proper_bytes meets := meets.proper
  joined := CharSet.proper_of_isCanonical
  nothing := ⟨by simp [CharSet.Proper, CharSet.empty], by simp [CharSet.empty]⟩
  ordered meets := meets.ordered
  option := ⟨by simp [Bounds.Ordered], by simp, by simp⟩

namespace Flags

theorem made_toClass {f : Flags} {s : CharSet} (upto : Upto f.top s) :
    (f.toClass s).Made .clean := by
  unfold toClass
  unfold top at upto
  split at upto
  · rename_i unicode
    rw [if_pos unicode]
    exact Expr.made_charClass Makeup.lawful_clean upto.proper
  · rename_i ascii
    rw [if_neg ascii]
    exact Expr.made_byteClass Makeup.lawful_clean upto

theorem made_letter {f : Flags} {l : Letter} (read : f.letter l = .ok e) : e.Made .clean := by
  obtain ⟨c, _, built⟩ := bind_eq_ok.mp read
  dsimp only at built
  split at built
  · cases built
    exact .literal
  · rename_i several
    cases built
    have known : c.toNat ≤ f.top := by
      by_contra other
      have ascii : f.unicode = false ∧ 0x7F < c.toNat := by
        unfold top at other
        split at other
        · exact absurd (le_maxCode c.valid) other
        · simp_all
      apply several
      unfold foldSet
      simp [ascii.1, closeAscii_singleton ascii.2]
    have proper : CharRange.Proper ⟨c.toNat, c.toNat⟩ := ⟨Nat.le_refl _, c.valid, c.valid⟩
    exact made_toClass (tame_foldSet (CharSet.tame_singleton proper known 0)).toUpto

theorem made_dot {f : Flags} (read : f.dot = .ok e) : e.Made .clean := by
  have complement {s : CharSet} (canonical : s.isCanonical = true) :
      (Expr.charClass s.complement).Made .clean :=
    Expr.made_charClass Makeup.lawful_clean
      (Unicode.orderly_complement (CharSet.tame_of_isCanonical canonical _)).proper
  unfold dot at read
  split at read
  · contradiction
  · split at read
    · cases read
      exact Expr.made_charClass Makeup.lawful_clean (CharSet.proper_of_isCanonical rfl)
    · split at read
      · cases read
        exact complement (CharSet.isCanonical_ofList _)
      · cases read
        exact complement (CharSet.isCanonical_singleton _)

end Flags

mutual

theorem Ast.made_of_expr : ∀ {ast : Ast} {f f' : Flags} {e : Expr}, ast.Sound →
    ast.depth ≤ nestLimit → ast.expr f = .ok (e, f') → e.Made .clean
  | .empty, _, _, _, _, _, read => by
    cases read
    exact .empty
  | .flags _, _, _, _, _, _, read => by
    cases read
    exact .empty
  | .letter _, _, _, _, _, _, read => by
    rw [expr] at read
    obtain ⟨e, letter, same⟩ := bind_eq_ok.mp read
    cases same
    exact Flags.made_letter letter
  | .dot, _, _, _, _, _, read => by
    rw [expr] at read
    obtain ⟨e, dot, same⟩ := bind_eq_ok.mp read
    cases same
    exact Flags.made_dot dot
  | .assertion _, _, _, _, _, _, read => by
    cases read
    exact .look
  | .shorthand _ _, _, _, _, _, _, read => by
    rw [expr] at read
    obtain ⟨set, built, same⟩ := bind_eq_ok.mp read
    cases same
    exact Flags.made_toClass (Flags.tame_shorthandSet built).toUpto
  | .property _ _, _, _, _, _, _, read => by
    rw [expr] at read
    obtain ⟨set, built, same⟩ := bind_eq_ok.mp read
    cases same
    exact Flags.made_toClass (Flags.tame_propertySet built).toUpto
  | .bracketed negated inner, _, _, _, sound, shallow, read => by
    rw [expr] at read
    obtain ⟨s, inside, read⟩ := bind_eq_ok.mp read
    obtain ⟨t, built, same⟩ := bind_eq_ok.mp read
    cases same
    cases sound with
    | bracketed ordered =>
      -- A class between brackets is the set of what a bracketed item of a class would be.
      rw [depth] at shallow
      have bracketed : (ClassSet.bracketed negated inner).set _ = .ok t :=
        bind_eq_ok.mpr ⟨s, inside, built⟩
      exact Flags.made_toClass (ClassSet.tame_set (.bracketed ordered) shallow bracketed).toUpto
  | .repetition min max _ body, _, _, _, sound, shallow, read => by
    rw [expr] at read
    obtain ⟨⟨b, f⟩, inner, same⟩ := bind_eq_ok.mp read
    cases same
    cases sound with
    | repetition fine sound =>
      rw [depth] at shallow
      exact Expr.made_repeated (b := (min, max)) Makeup.lawful_clean fine
        (made_of_expr sound (by omega) inner)
  | .group (.capture _ _) body, _, _, _, sound, shallow, read => by
    rw [expr] at read
    obtain ⟨⟨b, f⟩, inner, same⟩ := bind_eq_ok.mp read
    cases same
    cases sound with
    | group sound =>
      rw [depth] at shallow
      exact .capture (made_of_expr sound (by omega) inner)
  | .group (.plain _) body, _, _, _, sound, shallow, read => by
    rw [expr] at read
    obtain ⟨⟨b, f⟩, inner, same⟩ := bind_eq_ok.mp read
    cases same
    cases sound with
    | group sound =>
      rw [depth] at shallow
      exact made_of_expr sound (by omega) inner
  | .concat items, _, _, _, sound, shallow, read => by
    rw [expr] at read
    obtain ⟨⟨parts, f⟩, inner, same⟩ := bind_eq_ok.mp read
    cases same
    cases sound with
    | concat each =>
      rw [depth] at shallow
      exact Expr.made_sequence (made_of_exprAll each (by omega) inner)
  | .alternation branches, _, _, _, sound, shallow, read => by
    rw [expr] at read
    obtain ⟨⟨parts, f⟩, inner, same⟩ := bind_eq_ok.mp read
    cases same
    cases sound with
    | alternation each =>
      rw [depth] at shallow
      exact Expr.made_choice Makeup.lawful_clean (made_of_exprAll each (by omega) inner)

theorem Ast.made_of_exprAll : ∀ {items : List Ast} {f f' : Flags} {es : List Expr},
    (∀ item ∈ items, item.Sound) → Ast.depthAll items ≤ nestLimit →
    Ast.exprAll f items = .ok (es, f') → ∀ e ∈ es, e.Made .clean
  | [], _, _, _, _, _, read => by
    cases read
    simp
  | item :: items, _, _, _, sound, shallow, read => by
    rw [exprAll] at read
    obtain ⟨⟨e, f⟩, first, read⟩ := bind_eq_ok.mp read
    obtain ⟨⟨es, f⟩, others, same⟩ := bind_eq_ok.mp read
    cases same
    obtain ⟨this, rest⟩ := List.forall_mem_cons.mp sound
    rw [depthAll] at shallow
    exact List.forall_mem_cons.mpr
      ⟨made_of_expr this (by omega) first, made_of_exprAll rest (by omega) others⟩

end

/-- The expression of a pattern is clean. -/
theorem clean_exprOf {source : String} {e : Expr} (read : exprOf source = .ok e) :
    e.Made .clean := by
  obtain ⟨ast, f, structured, meant⟩ := exprOf_eq_ok.mp read
  exact Ast.made_of_expr (Ast.sound_ofString structured) (Ast.ofString_eq_ok structured).2 meant

end Construe.Pattern
