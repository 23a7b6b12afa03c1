import Construe.Pattern.Meaning
import Construe.Proofs.Pattern.Classes

/-! # Ranges between characters

What class operations make of proper ranges is proper. Only a complement needs more: none of the
ranges but the last may end at the last character. Ranges that keep apart have this property, and
those that do not keep apart lie low: complements leave disorder only around the surrogates, and a
further complement widens it by one. -/
namespace Construe

theorem isValidChar_iff {n : Nat} : n.isValidChar ↔ n < 0xD800 ∨ 0xDFFF < n ∧ n ≤ maxCode := by
  simp only [Nat.isValidChar, maxCode]
  omega

theorem le_maxCode {n : Nat} (valid : n.isValidChar) : n ≤ maxCode := by
  have := isValidChar_iff.mp valid
  unfold maxCode at *
  omega

theorem isValidChar_nextCode {n : Nat} (valid : n.isValidChar) (below : n < maxCode) :
    (nextCode n).isValidChar := by
  rw [isValidChar_iff] at valid ⊢
  unfold nextCode
  split
  · decide
  · omega

theorem isValidChar_prevCode {n : Nat} (valid : n.isValidChar) : (prevCode n).isValidChar := by
  rw [isValidChar_iff] at valid ⊢
  unfold prevCode
  split
  · decide
  · omega

theorem nextCode_le {m n : Nat} (below : m < n) (valid : n.isValidChar) : nextCode m ≤ n := by
  rw [isValidChar_iff] at valid
  unfold nextCode
  split <;> omega

theorem le_prevCode {m n : Nat} (below : m < n) (valid : m.isValidChar) : m ≤ prevCode n := by
  rw [isValidChar_iff] at valid
  unfold prevCode
  split <;> omega

theorem lt_nextCode (n : Nat) : n < nextCode n := by
  unfold nextCode
  split <;> omega

theorem prevCode_lt {n : Nat} (positive : 0 < n) : prevCode n < n := by
  unfold prevCode
  split <;> omega

namespace CharRange

/-- A range that is part of another one. -/
def Within (r p : CharRange) : Prop := r.lo ≤ p.lo ∧ p.hi ≤ r.hi

/-- The first range ends low, or well before the second one. -/
def Apart (bound : Nat) (r q : CharRange) : Prop := r.hi ≤ bound ∨ r.hi + 1 < q.lo

theorem Apart.within {r q p o : CharRange} (apart : Apart bound r q) (left : r.Within p)
    (right : q.Within o) : Apart bound p o :=
  apart.imp (fun low => Nat.le_trans left.2 low) fun gap => by
    have := left.2
    have := right.1
    omega

theorem proper_between {m n : Nat} (first : m.isValidChar) (last : n.isValidChar) :
    (between m n).Proper := by
  unfold between
  refine ⟨by simp only; omega, ?_⟩
  rcases Nat.le_total m n with order | order
  · simpa [order] using ⟨first, last⟩
  · simpa [order] using ⟨last, first⟩

theorem of_inter? {r s p : CharRange} (left : r.Proper) (right : s.Proper)
    (meets : r.inter? s = some p) : p.Proper ∧ r.Within p ∧ s.Within p := by
  unfold inter? at meets
  split at meets
  · rename_i order
    cases meets
    obtain ⟨_, first, last⟩ := left
    obtain ⟨_, first', last'⟩ := right
    refine ⟨⟨order, ?_, ?_⟩, ⟨?_, ?_⟩, ?_, ?_⟩
    · rcases Nat.le_total r.lo s.lo with order | order <;> simpa [order]
    · rcases Nat.le_total r.hi s.hi with order | order <;> simpa [order]
    · exact Nat.le_max_left ..
    · exact Nat.min_le_left ..
    · exact Nat.le_max_right ..
    · exact Nat.min_le_right ..
  · contradiction

theorem of_mem_minus {r s p : CharRange} (left : r.Proper) (right : s.Proper)
    (member : p ∈ r.minus s) : p.Proper ∧ r.Within p := by
  obtain ⟨order, first, last⟩ := left
  obtain ⟨order', first', last'⟩ := right
  unfold minus at member
  split at member
  · obtain rfl := List.mem_singleton.mp member
    exact ⟨⟨order, first, last⟩, Nat.le_refl _, Nat.le_refl _⟩
  · rename_i meets
    simp only [Bool.or_eq_true, decide_eq_true_eq, not_or, Nat.not_lt] at meets
    rcases List.mem_append.mp member with below | above
    · split at below
      · rename_i some
        obtain rfl := List.mem_singleton.mp below
        have := prevCode_lt (Nat.zero_lt_of_lt some)
        exact ⟨⟨le_prevCode some first, first, isValidChar_prevCode first'⟩, Nat.le_refl _,
          by simp only; omega⟩
      · contradiction
    · split at above
      · rename_i some
        obtain rfl := List.mem_singleton.mp above
        have := lt_nextCode s.hi
        have top := le_maxCode last
        exact ⟨⟨nextCode_le some last, isValidChar_nextCode last' (by omega), last⟩,
          by simp only; omega, Nat.le_refl _⟩
      · contradiction

/-- What is left of a range below another one ends well before what is left above it. -/
theorem pairwise_minus {r s : CharRange} (bound : Nat) (right : s.Proper) :
    (r.minus s).Pairwise (Apart bound) := by
  unfold minus
  split
  · exact List.pairwise_singleton _ r
  · split
    · split
      · rename_i below _
        have := prevCode_lt (Nat.zero_lt_of_lt below)
        have := lt_nextCode s.hi
        have := right.1
        refine List.pairwise_pair.mpr (.inr ?_)
        simp only
        omega
      · exact List.pairwise_singleton ..
    · split
      · exact List.pairwise_singleton ..
      · exact .nil

end CharRange

namespace CharSet

open CharRange (Apart Within)

/-- Proper ranges up to a code. -/
structure Upto (top : Nat) (s : CharSet) : Prop where
  proper : s.Proper
  below : ∀ r ∈ s.ranges, r.hi ≤ top

/-- Ranges up to a code that keep apart, but for those that end low. -/
structure Tame (top bound : Nat) (s : CharSet) : Prop extends Upto top s where
  apart : s.ranges.Pairwise (Apart bound)

theorem upto_of_proper {s : CharSet} (proper : s.Proper) : Upto maxCode s :=
  ⟨proper, fun r member => le_maxCode (proper r member).2.2⟩

theorem Tame.mono {s : CharSet} (tame : Tame top bound s) (wider : top ≤ top')
    (lower : bound ≤ bound') : Tame top' bound' s :=
  ⟨⟨tame.proper, fun r member => Nat.le_trans (tame.below r member) wider⟩,
    tame.apart.imp fun apart => apart.imp_left fun low => Nat.le_trans low lower⟩

theorem tame_singleton {r : CharRange} (proper : r.Proper) (below : r.hi ≤ top) (bound : Nat) :
    Tame top bound ⟨[r]⟩ :=
  ⟨⟨by simpa [CharSet.Proper] using proper, by simpa using below⟩, List.pairwise_singleton ..⟩

theorem apart_of_isCanonical {s : CharSet} (canonical : s.isCanonical = true) (bound : Nat) :
    s.ranges.Pairwise (Apart bound) := by
  obtain ⟨ranges⟩ := s
  suffices ∀ low, ascendFrom low ranges = true → ranges.Pairwise (Apart bound) from
    this 0 canonical
  clear canonical
  induction ranges with
  | nil => simp
  | cons r rs ih =>
    intro low ascend
    obtain ⟨_, _, _, _, ascend⟩ := ascendFrom_cons.mp ascend
    refine List.pairwise_cons.mpr ⟨fun q member => .inr ?_, ih _ ascend⟩
    have := (Ascending.of_ascendFrom ascend).2 q member
    omega

theorem tame_of_isCanonical {s : CharSet} (canonical : s.isCanonical = true) (bound : Nat) :
    Tame maxCode bound s :=
  ⟨upto_of_proper (proper_of_isCanonical canonical), apart_of_isCanonical canonical bound⟩

/-- Parts of ranges keep apart as the ranges do. -/
theorem Tame.flatMap {s : CharSet} (tame : Tame top bound s) {parts : CharRange → List CharRange}
    (each : ∀ r ∈ s.ranges, (∀ p ∈ parts r, p.Proper ∧ r.Within p) ∧
      (parts r).Pairwise (Apart bound)) : Tame top bound ⟨s.ranges.flatMap parts⟩ := by
  refine ⟨⟨fun p member => ?_, fun p member => ?_⟩, ?_⟩
  · obtain ⟨r, inside, member⟩ := List.mem_flatMap.mp member
    exact ((each r inside).1 p member).1
  · obtain ⟨r, inside, member⟩ := List.mem_flatMap.mp member
    exact Nat.le_trans ((each r inside).1 p member).2.2 (tame.below r inside)
  · refine List.pairwise_flatMap.mpr ⟨fun r inside => (each r inside).2, ?_⟩
    refine tame.apart.imp_of_mem fun left right apart p member q member' => ?_
    exact apart.within ((each _ left).1 p member).2 ((each _ right).1 q member').2

theorem tame_inter {s t : CharSet} (left : Tame top bound s) (right : Tame top' bound t) :
    Tame top bound (s.inter t) := by
  refine left.flatMap fun r inside => ⟨fun p member => ?_, ?_⟩
  · obtain ⟨q, inside', meets⟩ := List.mem_filterMap.mp member
    have part := CharRange.of_inter? (left.proper r inside) (right.proper q inside') meets
    exact ⟨part.1, part.2.1⟩
  · refine List.pairwise_filterMap.mpr (right.apart.imp_of_mem ?_)
    intro u v one two apart p meets o meets'
    exact apart.within (CharRange.of_inter? (left.proper r inside) (right.proper _ one) meets).2.2
      (CharRange.of_inter? (left.proper r inside) (right.proper _ two) meets').2.2

/-- What is left of a range when others are taken away one by one. -/
theorem of_foldl_minus {r : CharRange} {us parts : List CharRange} (bound : Nat)
    (proper : ∀ u ∈ us, u.Proper) (each : ∀ p ∈ parts, p.Proper ∧ r.Within p)
    (apart : parts.Pairwise (Apart bound)) :
    (∀ p ∈ us.foldl (fun parts u => parts.flatMap (·.minus u)) parts, p.Proper ∧ r.Within p) ∧
      (us.foldl (fun parts u => parts.flatMap (·.minus u)) parts).Pairwise (Apart bound) := by
  induction us generalizing parts with
  | nil => exact ⟨each, apart⟩
  | cons u us ih =>
    obtain ⟨first, others⟩ := List.forall_mem_cons.mp proper
    have tame : Tame r.hi bound ⟨parts⟩ :=
      ⟨⟨fun p member => (each p member).1, fun p member => (each p member).2.2⟩, apart⟩
    have next := tame.flatMap fun p member =>
      ⟨fun q inside => CharRange.of_mem_minus (each p member).1 first inside,
        CharRange.pairwise_minus bound first⟩
    refine ih others (fun q member => ⟨next.proper q member, ?_, next.below q member⟩) next.apart
    obtain ⟨p, inside, member⟩ := List.mem_flatMap.mp member
    have inner := (CharRange.of_mem_minus (each p inside).1 first member).2
    exact Nat.le_trans (each p inside).2.1 inner.1

theorem tame_diff {s t : CharSet} (left : Tame top bound s) (right : t.Proper) :
    Tame top bound (s.diff t) :=
  left.flatMap fun r inside => of_foldl_minus bound right
    (by simpa using ⟨left.proper r inside, Nat.le_refl _, Nat.le_refl _⟩)
    (List.pairwise_singleton ..)

theorem below_joinInto {r : CharRange} {rs : List CharRange} (below : ∀ q ∈ r :: rs, q.hi ≤ top) :
    ∀ q ∈ joinInto r rs, q.hi ≤ top := by
  induction rs generalizing r with
  | nil => exact below
  | cons s rs ih =>
    obtain ⟨this, others⟩ := List.forall_mem_cons.mp below
    obtain ⟨next, rest⟩ := List.forall_mem_cons.mp others
    rw [joinInto]
    split
    · exact ih (List.forall_mem_cons.mpr ⟨Nat.max_le.mpr ⟨this, next⟩, rest⟩)
    · exact List.forall_mem_cons.mpr ⟨this, ih others⟩

theorem below_join {rs : List CharRange} (below : ∀ q ∈ rs, q.hi ≤ top) :
    ∀ q ∈ join rs, q.hi ≤ top := by
  cases rs with
  | nil => exact below
  | cons r rs => exact below_joinInto below

theorem tame_union {s t : CharSet} (left : Upto top s) (right : Upto top t) (bound : Nat) :
    Tame top bound (s.union t) := by
  have canonical := isCanonical_union left.proper right.proper
  refine ⟨⟨proper_of_isCanonical canonical, below_join fun q member => ?_⟩,
    apart_of_isCanonical canonical bound⟩
  exact (List.mem_append.mp ((merge_perm s.ranges t.ranges).subset member)).elim
    (left.below q) (right.below q)

theorem tame_ofRanges {rs : List CharRange} (upto : Upto top ⟨rs⟩) (bound : Nat) :
    Tame top bound (ofRanges rs) := by
  have canonical := isCanonical_ofRanges upto.proper
  exact ⟨⟨proper_of_isCanonical canonical,
    below_join fun q member => upto.below q ((sorted_perm rs).subset member)⟩,
    apart_of_isCanonical canonical bound⟩

theorem tame_symmDiff {s t : CharSet} (left : Tame top bound s) (right : Tame top bound t) :
    Tame top bound (s.symmDiff t) :=
  tame_diff (tame_union left.toUpto right.toUpto bound) (tame_inter left right).proper

/-! ### Complements -/

/-- Gaps behind a range that ends high lie behind it. Gaps that do not keep apart end low. -/
theorem tame_gapsAfter {r : CharRange} {rs : List CharRange} (surrogates : 0xE000 ≤ bound)
    (small : bound < maxCode) (proper : ∀ q ∈ r :: rs, q.Proper)
    (apart : (r :: rs).Pairwise (Apart bound)) :
    (∀ g ∈ gapsAfter r.hi rs, g.Proper) ∧ (gapsAfter r.hi rs).Pairwise (Apart (bound + 1)) ∧
      (bound < r.hi → ∀ g ∈ gapsAfter r.hi rs, r.hi < g.lo) := by
  induction rs generalizing r with
  | nil =>
    obtain ⟨_, _, last⟩ := proper r List.mem_cons_self
    have final : maxCode.isValidChar := by decide
    rw [gapsAfter]
    split
    · rename_i some
      refine ⟨List.forall_mem_singleton.mpr ?_, List.pairwise_singleton .., fun _ => ?_⟩
      · exact ⟨nextCode_le some final, isValidChar_nextCode last some, final⟩
      · exact List.forall_mem_singleton.mpr (lt_nextCode r.hi)
    · simp
  | cons q rs ih =>
    obtain ⟨this, others⟩ := List.forall_mem_cons.mp proper
    obtain ⟨gaps, rest⟩ := List.pairwise_cons.mp apart
    obtain ⟨behind, behind', above⟩ := ih others rest
    have next := others q List.mem_cons_self
    have order := next.1
    have gap : r.hi ≤ bound ∨ r.hi + 1 < q.lo := gaps q List.mem_cons_self
    have top := le_maxCode next.2.1
    -- Above the bound there are no surrogates to step over.
    have up : r.hi ≤ bound ∧ nextCode r.hi ≤ bound + 1 ∨ nextCode r.hi = r.hi + 1 := by
      unfold nextCode
      split <;> omega
    have down : q.lo ≤ bound ∧ prevCode q.lo ≤ bound ∨ prevCode q.lo = q.lo - 1 := by
      unfold prevCode
      split <;> omega
    refine ⟨List.forall_mem_cons.mpr ⟨?_, behind⟩,
      List.pairwise_cons.mpr ⟨fun g member => ?_, behind'⟩, fun high => ?_⟩
    · exact CharRange.proper_between (isValidChar_nextCode this.2.2 (by omega))
        (isValidChar_prevCode next.2.1)
    · by_cases low : max (nextCode r.hi) (prevCode q.lo) ≤ bound + 1
      · exact .inl low
      · have := above (by omega) g member
        refine .inr (show max (nextCode r.hi) (prevCode q.lo) + 1 < g.lo from ?_)
        omega
    · refine List.forall_mem_cons.mpr ⟨?_, fun g member => ?_⟩
      · have inside : r.hi < prevCode q.lo := by omega
        exact Nat.lt_min.mpr ⟨lt_nextCode r.hi, inside⟩
      · have := above (by omega) g member
        omega

theorem tame_complement {s : CharSet} (surrogates : 0xE000 ≤ bound) (small : bound < maxCode)
    (tame : Tame top bound s) : Tame maxCode (bound + 1) s.complement := by
  obtain ⟨ranges⟩ := s
  cases ranges with
  | nil => exact tame_of_isCanonical rfl _
  | cons r rs =>
    obtain ⟨behind, behind', above⟩ := tame_gapsAfter surrogates small tame.proper tame.apart
    obtain ⟨order, first, _⟩ := tame.proper r List.mem_cons_self
    rw [complement]
    dsimp only
    split
    · rename_i some
      have zero : Nat.isValidChar 0 := by decide
      refine ⟨upto_of_proper (List.forall_mem_cons.mpr
        ⟨⟨Nat.zero_le _, zero, isValidChar_prevCode first⟩, behind⟩),
        List.pairwise_cons.mpr ⟨fun g member => ?_, behind'⟩⟩
      by_cases low : prevCode r.lo ≤ bound + 1
      · exact .inl low
      · have := prevCode_lt some
        have := above (by omega) g member
        exact .inr (show prevCode r.lo + 1 < g.lo by omega)
    · exact ⟨upto_of_proper behind, behind'⟩

end CharSet

end Construe
