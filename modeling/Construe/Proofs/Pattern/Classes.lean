import Construe.Unicode.Folding
import Construe.Proofs.Pattern.RoundTrip

/-! # Classes joined and closed under letter case

Unions are in the form in which their ranges are written, if their parts are, and have the members
of both. A character closed under letter case has just those members that fold to the same
character. -/
namespace Construe

/-- A range between two characters. -/
def CharRange.Proper (r : CharRange) : Prop :=
  r.lo ≤ r.hi ∧ r.lo.isValidChar ∧ r.hi.isValidChar

theorem CharRange.Proper.join {r s : CharRange} (left : r.Proper) (right : s.Proper) :
    CharRange.Proper ⟨r.lo, max r.hi s.hi⟩ := by
  refine ⟨Nat.le_trans left.1 (Nat.le_max_left ..), left.2.1, ?_⟩
  rcases Nat.le_total r.hi s.hi with order | order
  · simpa [order] using right.2.2
  · simpa [order] using left.2.2

namespace CharSet

/-- All ranges lie between two characters. -/
def Proper (s : CharSet) : Prop := ∀ r ∈ s.ranges, r.Proper

theorem covers_iff {r : CharRange} : r.covers n = true ↔ r.lo ≤ n ∧ n ≤ r.hi := by
  simp [CharRange.covers]

/-- Proper ranges by ascending start, which may overlap. -/
structure Ascending (rs : List CharRange) : Prop where
  starts : rs.Pairwise (·.lo ≤ ·.lo)
  proper : ∀ r ∈ rs, r.Proper

theorem ascending_cons {r : CharRange} {rs : List CharRange} :
    Ascending (r :: rs) ↔ r.Proper ∧ (∀ s ∈ rs, r.lo ≤ s.lo) ∧ Ascending rs := by
  constructor
  · rintro ⟨starts, proper⟩
    obtain ⟨first, others⟩ := List.pairwise_cons.mp starts
    exact ⟨proper r List.mem_cons_self, first, others, fun s member =>
      proper s (List.mem_cons_of_mem r member)⟩
  · rintro ⟨proper, first, others⟩
    exact ⟨List.pairwise_cons.mpr ⟨first, others.starts⟩,
      List.forall_mem_cons.mpr ⟨proper, others.proper⟩⟩

theorem Ascending.of_ascendFrom {rs : List CharRange} (ascend : ascendFrom low rs = true) :
    Ascending rs ∧ ∀ r ∈ rs, low ≤ r.lo := by
  induction rs generalizing low with
  | nil => exact ⟨⟨.nil, by simp⟩, by simp⟩
  | cons r rs ih =>
    obtain ⟨above, proper, first, last, ascend⟩ := ascendFrom_cons.mp ascend
    obtain ⟨others, higher⟩ := ih ascend
    refine ⟨ascending_cons.mpr ⟨⟨proper, first, last⟩, fun s member => ?_, others⟩, ?_⟩
    · have := higher s member
      omega
    · refine List.forall_mem_cons.mpr ⟨above, fun s member => ?_⟩
      have := higher s member
      omega

/-! ### Merging -/

theorem placeThen_perm {r : CharRange} {rest : List CharRange → List CharRange}
    {rs : List CharRange} (perm : ∀ ss, (rest ss).Perm (rs ++ ss)) (ss : List CharRange) :
    (placeThen r rest ss).Perm (r :: rs ++ ss) := by
  induction ss with
  | nil => exact (perm []).cons r
  | cons s ss ih =>
    rw [placeThen]
    split
    · exact (perm (s :: ss)).cons r
    · exact (ih.cons s).trans List.perm_middle.symm

theorem merge_perm (rs ss : List CharRange) : (merge rs ss).Perm (rs ++ ss) := by
  induction rs generalizing ss with
  | nil => exact .refl _
  | cons r rs ih => exact placeThen_perm ih ss

theorem ascending_merge {rs ss : List CharRange} (left : Ascending rs) (right : Ascending ss) :
    Ascending (merge rs ss) := by
  have proper : ∀ q ∈ merge rs ss, q.Proper := fun q member =>
    (List.mem_append.mp ((merge_perm rs ss).subset member)).elim (left.proper q) (right.proper q)
  refine ⟨?_, proper⟩
  clear proper
  induction rs generalizing ss with
  | nil => exact right.starts
  | cons r rs ih =>
    obtain ⟨_, lower, others⟩ := ascending_cons.mp left
    induction ss with
    | nil =>
      refine List.pairwise_cons.mpr ⟨fun q member => ?_, ih others right⟩
      exact lower q (by simpa using (merge_perm rs []).subset member)
    | cons s ss inner =>
      obtain ⟨_, next, tail⟩ := ascending_cons.mp right
      rw [merge, placeThen]
      split
      · rename_i first
        refine List.pairwise_cons.mpr ⟨fun q member => ?_, ih others right⟩
        rcases List.mem_append.mp ((merge_perm rs _).subset member) with mine | theirs
        · exact lower q mine
        · rcases List.mem_cons.mp theirs with rfl | later
          · exact first
          · exact first.trans (next q later)
      · rename_i later
        refine List.pairwise_cons.mpr ⟨fun q member => ?_, inner tail⟩
        rcases List.mem_append.mp ((placeThen_perm (merge_perm rs) ss).subset member) with
          mine | theirs
        · rcases List.mem_cons.mp mine with rfl | after
          · omega
          · have := lower q after
            omega
        · exact next q theirs

/-! ### Joining -/

/-- A range that reaches into the next one takes it in. -/
theorem Ascending.absorb {r s : CharRange} {rs : List CharRange}
    (ascending : Ascending (r :: s :: rs)) : Ascending (⟨r.lo, max r.hi s.hi⟩ :: rs) := by
  obtain ⟨this, lower, rest⟩ := ascending_cons.mp ascending
  obtain ⟨next, _, tail⟩ := ascending_cons.mp rest
  exact ascending_cons.mpr ⟨this.join next,
    fun q member => lower q (List.mem_cons_of_mem s member), tail⟩

/-- Joined ranges ascend, whatever the order of the ranges was. -/
theorem ascendFrom_joinInto {r : CharRange} {rs : List CharRange}
    (proper : ∀ q ∈ r :: rs, q.Proper) : ascendFrom r.lo (joinInto r rs) = true := by
  induction rs generalizing r with
  | nil =>
    obtain ⟨order, first, last⟩ := proper r List.mem_cons_self
    exact ascendFrom_cons.mpr ⟨Nat.le_refl _, order, first, last, rfl⟩
  | cons s rs ih =>
    obtain ⟨this, others⟩ := List.forall_mem_cons.mp proper
    obtain ⟨next, rest⟩ := List.forall_mem_cons.mp others
    rw [joinInto]
    split
    · exact ih (List.forall_mem_cons.mpr ⟨this.join next, rest⟩)
    · refine ascendFrom_cons.mpr ⟨Nat.le_refl _, this.1, this.2.1, this.2.2, ?_⟩
      exact ascendFrom_mono (by omega) (ih others)

theorem exists_covers_joinInto {r : CharRange} {rs : List CharRange}
    (ascending : Ascending (r :: rs)) (n : Nat) :
    (∃ q ∈ joinInto r rs, q.covers n = true) ↔ ∃ q ∈ r :: rs, q.covers n = true := by
  induction rs generalizing r with
  | nil => rfl
  | cons s rs ih =>
    obtain ⟨⟨proper, _⟩, lower, rest⟩ := ascending_cons.mp ascending
    have next := lower s List.mem_cons_self
    rw [joinInto]
    split
    · have both : (CharRange.mk r.lo (max r.hi s.hi)).covers n = true ↔
          r.covers n = true ∨ s.covers n = true := by
        simp only [covers_iff]
        omega
      simp only [ih ascending.absorb, List.exists_mem_cons_iff, both, or_assoc]
    · simp only [List.exists_mem_cons_iff, ih rest]

/-- A set has a member with this code. -/
def covers (s : CharSet) (n : Nat) : Prop := ∃ r ∈ s.ranges, r.covers n = true

theorem contains_iff {s : CharSet} {c : Char} : s.contains c = true ↔ s.covers c.toNat := by
  simp [contains, covers]

theorem isCanonical_join {rs : List CharRange} (proper : ∀ r ∈ rs, r.Proper) :
    isCanonical ⟨join rs⟩ = true := by
  cases rs with
  | nil => rfl
  | cons r rs => exact ascendFrom_mono (Nat.zero_le _) (ascendFrom_joinInto proper)

theorem covers_join {rs : List CharRange} (ascending : Ascending rs) (n : Nat) :
    covers ⟨join rs⟩ n ↔ ∃ r ∈ rs, r.covers n = true := by
  cases rs with
  | nil => rfl
  | cons r rs => exact exists_covers_joinInto ascending n

/-! ### Unions -/

theorem Ascending.of_isCanonical {s : CharSet} (canonical : s.isCanonical = true) :
    Ascending s.ranges :=
  (Ascending.of_ascendFrom canonical).1

theorem proper_of_isCanonical {s : CharSet} (canonical : s.isCanonical = true) : s.Proper :=
  (Ascending.of_isCanonical canonical).proper

theorem isCanonical_union {s t : CharSet} (left : s.Proper) (right : t.Proper) :
    (s.union t).isCanonical = true :=
  isCanonical_join fun q member =>
    (List.mem_append.mp ((merge_perm s.ranges t.ranges).subset member)).elim (left q) (right q)

theorem covers_union {s t : CharSet} (left : s.isCanonical = true) (right : t.isCanonical = true)
    (n : Nat) : (s.union t).covers n ↔ s.covers n ∨ t.covers n := by
  refine (covers_join (ascending_merge (.of_isCanonical left) (.of_isCanonical right)) n).trans ?_
  simp only [(merge_perm s.ranges t.ranges).mem_iff, List.mem_append, covers]
  constructor
  · rintro ⟨r, mine | theirs, inside⟩
    · exact .inl ⟨r, mine, inside⟩
    · exact .inr ⟨r, theirs, inside⟩
  · rintro (⟨r, mine, inside⟩ | ⟨r, theirs, inside⟩)
    · exact ⟨r, .inl mine, inside⟩
    · exact ⟨r, .inr theirs, inside⟩

/-- Ranges put in order one by one. -/
def sorted (rs : List CharRange) : List CharRange :=
  rs.foldr (fun r sorted => placeThen r id sorted) []

theorem sorted_perm (rs : List CharRange) : (sorted rs).Perm rs := by
  induction rs with
  | nil => exact .refl _
  | cons r rs ih => exact (merge_perm [r] _).trans (ih.cons r)

theorem ascending_sorted {rs : List CharRange} (proper : ∀ r ∈ rs, r.Proper) :
    Ascending (sorted rs) := by
  induction rs with
  | nil => exact ⟨.nil, by simp [sorted]⟩
  | cons r rs ih =>
    obtain ⟨first, others⟩ := List.forall_mem_cons.mp proper
    have one : Ascending [r] := ⟨List.pairwise_singleton _ r, by simpa using first⟩
    exact ascending_merge one (ih others)

theorem isCanonical_ofRanges {rs : List CharRange} (proper : ∀ r ∈ rs, r.Proper) :
    (ofRanges rs).isCanonical = true :=
  isCanonical_join (ascending_sorted proper).proper

theorem covers_ofRanges {rs : List CharRange} (proper : ∀ r ∈ rs, r.Proper) (n : Nat) :
    (ofRanges rs).covers n ↔ ∃ r ∈ rs, r.covers n = true := by
  refine (covers_join (ascending_sorted proper) n).trans ?_
  simp only [(sorted_perm rs).mem_iff]

/-- Single codes as a set. -/
theorem covers_ofCodes {codes : List Nat} (valid : ∀ m ∈ codes, m.isValidChar) :
    (ofRanges (codes.map fun m => ⟨m, m⟩)).isCanonical = true ∧
      ∀ n, (ofRanges (codes.map fun m => ⟨m, m⟩)).covers n ↔ n ∈ codes := by
  have proper : ∀ r ∈ codes.map fun m => (⟨m, m⟩ : CharRange), r.Proper := by
    intro r member
    obtain ⟨m, listed, rfl⟩ := List.mem_map.mp member
    exact ⟨Nat.le_refl m, valid m listed, valid m listed⟩
  refine ⟨isCanonical_ofRanges proper, fun n => (covers_ofRanges proper n).trans ?_⟩
  simp only [List.mem_map, covers_iff]
  constructor
  · rintro ⟨_, ⟨m, listed, rfl⟩, low, high⟩
    obtain rfl : m = n := Nat.le_antisymm low high
    exact listed
  · intro listed
    exact ⟨_, ⟨n, listed, rfl⟩, Nat.le_refl n, Nat.le_refl n⟩

theorem isValidChar_of_mem {cs : List Char} : ∀ n ∈ cs.map Char.toNat, n.isValidChar := by
  intro n member
  obtain ⟨c, _, rfl⟩ := List.mem_map.mp member
  exact c.valid

theorem ofList_eq (cs : List Char) :
    ofList cs = ofRanges ((cs.map Char.toNat).map fun n => ⟨n, n⟩) := by
  rw [ofList, List.map_map]
  rfl

theorem isCanonical_ofList (cs : List Char) : (ofList cs).isCanonical = true := by
  rw [ofList_eq]
  exact (covers_ofCodes isValidChar_of_mem).1

theorem contains_ofList {cs : List Char} {c : Char} : (ofList cs).contains c = true ↔ c ∈ cs := by
  rw [contains_iff, ofList_eq, (covers_ofCodes isValidChar_of_mem).2, List.mem_map]
  constructor
  · rintro ⟨d, member, same⟩
    exact Char.toNat_inj.mp same ▸ member
  · intro member
    exact ⟨c, member, rfl⟩

theorem isCanonical_singleton (c : Char) : (singleton c).isCanonical = true :=
  ascendFrom_cons.mpr ⟨Nat.zero_le _, Nat.le_refl _, c.valid, c.valid, rfl⟩

theorem covers_singleton {c : Char} : (singleton c).covers n ↔ n = c.toNat := by
  simp only [covers, singleton, ofRange, List.exists_mem_cons_iff, covers_iff]
  constructor
  · rintro (⟨low, high⟩ | ⟨_, none, _⟩)
    · exact Nat.le_antisymm high low
    · contradiction
  · rintro rfl
    exact .inl ⟨Nat.le_refl _, Nat.le_refl _⟩

/-- The union of canonical sets. -/
theorem foldl_union {sets : List CharSet} {s : CharSet} (first : s.isCanonical = true)
    (each : ∀ t ∈ sets, t.isCanonical = true) :
    (sets.foldl union s).isCanonical = true ∧
      ∀ n, (sets.foldl union s).covers n ↔ s.covers n ∨ ∃ t ∈ sets, t.covers n := by
  induction sets generalizing s with
  | nil => simpa using first
  | cons t sets ih =>
    obtain ⟨next, others⟩ := List.forall_mem_cons.mp each
    have both := isCanonical_union (proper_of_isCanonical first) (proper_of_isCanonical next)
    obtain ⟨canonical, members⟩ := ih both others
    refine ⟨canonical, fun n => (members n).trans ?_⟩
    simp only [covers_union first next, List.exists_mem_cons_iff, or_assoc]

end CharSet

/-! ### Letter case -/

namespace Unicode.Folding

/-- Codes as the bits of a number. -/
def codeBits (codes : List Nat) : Nat := codes.foldl (fun bits n => bits ||| 1 <<< n) 0

theorem testBit_codeBits {codes : List Nat} (member : n ∈ codes) :
    (codeBits codes).testBit n = true := by
  have grows (codes : List Nat) (bits : Nat) (set : bits.testBit n = true ∨ n ∈ codes) :
      (codes.foldl (fun bits n => bits ||| 1 <<< n) bits).testBit n = true := by
    induction codes generalizing bits with
    | nil => simpa using set
    | cons m codes ih =>
      refine ih _ ?_
      simp only [Nat.testBit_or, Nat.one_shiftLeft, Nat.testBit_two_pow, Bool.or_eq_true,
        decide_eq_true_eq]
      rcases set with set | listed
      · exact .inl (.inl set)
      · rcases List.mem_cons.mp listed with rfl | later
        · exact .inl (.inr rfl)
        · exact .inr later
  exact grows codes 0 (.inr member)

/-- The codes that fold to another one stand in ascending order. -/
theorem ascending_sources : (pairs.map Prod.fst).IsChain (· < ·) := by decide +kernel

theorem valid_pairs : ∀ p ∈ pairs, p.1.isValidChar ∧ p.2.isValidChar := by
  have all : (pairs.all fun p => decide p.1.isValidChar && decide p.2.isValidChar) = true := by
    decide +kernel
  simpa using all

/-- What something folds to folds no further. -/
theorem target_not_source (member : p ∈ pairs) : p.2 ∉ pairs.map Prod.fst := by
  have apart : (pairs.all fun p => !(codeBits (pairs.map Prod.fst)).testBit p.2) = true := by
    decide +kernel
  intro source
  have := List.all_eq_true.mp apart p member
  simp [testBit_codeBits source] at this

theorem foldCode_of_mem (member : (n, t) ∈ pairs) : foldCode n = t := by
  have distinct : (pairs.map Prod.fst).Nodup :=
    (List.isChain_iff_pairwise.mp ascending_sources).imp Nat.ne_of_lt
  have found : pairs.lookup n = some t := by
    obtain ⟨before, after, split⟩ := List.append_of_mem member
    refine List.lookup_eq_some_iff.mpr ⟨before, after, split, fun p earlier => ?_⟩
    rw [split, List.map_append, List.map_cons] at distinct
    have := (List.nodup_append.mp distinct).2.2 p.1 (List.mem_map_of_mem earlier) n (by simp)
    simpa using Ne.symm this
  rw [foldCode, found, Option.getD_some]

theorem foldCode_of_not_mem (other : n ∉ pairs.map Prod.fst) : foldCode n = n := by
  have missing : pairs.lookup n = none := by
    refine List.lookup_eq_none_iff.mpr fun p member => ?_
    have apart : n ≠ p.1 := by
      rintro rfl
      exact other (List.mem_map_of_mem member)
    simpa using apart
  rw [foldCode, missing, Option.getD_none]

theorem foldCode_cases (n : Nat) : (n, foldCode n) ∈ pairs ∨ foldCode n = n := by
  by_cases source : n ∈ pairs.map Prod.fst
  · obtain ⟨⟨m, t⟩, member, rfl⟩ := List.mem_map.mp source
    exact .inl (foldCode_of_mem member ▸ member)
  · exact .inr (foldCode_of_not_mem source)

theorem isValidChar_foldCode (c : Char) : (foldCode c.toNat).isValidChar := by
  rcases foldCode_cases c.toNat with member | same
  · exact (valid_pairs _ member).2
  · rw [same]
    exact c.valid

theorem fold_eq_fold_iff {c d : Char} : fold c = fold d ↔ foldCode c.toNat = foldCode d.toNat := by
  constructor
  · intro same
    have codes := congrArg Char.toNat same
    rwa [fold, fold, Pattern.toNat_ofNat_of_isValidChar (isValidChar_foldCode c),
      Pattern.toNat_ofNat_of_isValidChar (isValidChar_foldCode d)] at codes
  · intro same
    rw [fold, fold, same]

/-- The codes that are put together with a code. -/
theorem foldCode_eq_iff {m n : Nat} : foldCode n = foldCode m ↔
    n = m ∨ (∃ p ∈ pairs, (p.1 = m ∨ p.2 = m) ∧ p.2 = n) ∨
      ∃ q ∈ pairs, (∃ p ∈ pairs, (p.1 = m ∨ p.2 = m) ∧ p.2 = q.2) ∧ q.1 = n := by
  constructor
  · intro same
    rcases foldCode_cases n with folds | stays <;> rcases foldCode_cases m with folds' | stays'
    · exact .inr (.inr ⟨_, folds, ⟨_, folds', .inl rfl, same.symm⟩, rfl⟩)
    · exact .inr (.inr ⟨_, folds, ⟨_, folds, .inr (same.trans stays'), rfl⟩, rfl⟩)
    · exact .inr (.inl ⟨_, folds', .inl rfl, same.symm.trans stays⟩)
    · exact .inl (stays.symm.trans (same.trans stays'))
  · have target {p : Nat × Nat} (member : p ∈ pairs) (touches : p.1 = m ∨ p.2 = m) :
        foldCode m = p.2 := by
      rcases touches with rfl | rfl
      · exact foldCode_of_mem member
      · exact foldCode_of_not_mem (target_not_source member)
    rintro (rfl | ⟨p, member, touches, rfl⟩ | ⟨q, source, ⟨p, member, touches, same⟩, rfl⟩)
    · rfl
    · rw [target member touches, foldCode_of_not_mem (target_not_source member)]
    · rw [target member touches, same]
      exact foldCode_of_mem source

/-- A closed character holds what folds to the same character, in canonical form. -/
theorem covers_close (c : Char) : (close (.singleton c)).isCanonical = true ∧
    ∀ n, (close (.singleton c)).covers n ↔ foldCode n = foldCode c.toNat := by
  have touches (p : Nat × Nat) : ((CharSet.singleton c).ranges.any fun r =>
      r.covers p.1 || r.covers p.2) = true ↔ p.1 = c.toNat ∨ p.2 = c.toNat := by
    simp only [← CharSet.covers_singleton (c := c), CharSet.covers, List.any_eq_true,
      Bool.or_eq_true, ← exists_or, ← and_or_left]
  unfold close
  extract_lets touched targets sources
  have valid : ∀ n ∈ touched.map Prod.snd, n.isValidChar := by
    intro n member
    obtain ⟨p, listed, rfl⟩ := List.mem_map.mp member
    exact (valid_pairs p (List.mem_filter.mp listed).1).2
  have targeted := CharSet.covers_ofCodes valid
  have valid' : ∀ n ∈ sources.map Prod.fst, n.isValidChar := by
    intro n member
    obtain ⟨p, listed, rfl⟩ := List.mem_map.mp member
    exact (valid_pairs p (List.mem_filter.mp listed).1).1
  have sourced := CharSet.covers_ofCodes valid'
  rw [List.map_map] at targeted sourced
  have member_targets (n : Nat) : targets.covers n ↔
      ∃ p ∈ pairs, (p.1 = c.toNat ∨ p.2 = c.toNat) ∧ p.2 = n := by
    refine (targeted.2 n).trans ?_
    simp only [touched, List.mem_map, List.mem_filter, touches, and_assoc]
  have member_sources (n : Nat) : n ∈ sources.map Prod.fst ↔
      ∃ q ∈ pairs, targets.covers q.2 ∧ q.1 = n := by
    simp only [sources, List.mem_map, List.mem_filter, and_assoc, CharSet.covers,
      List.any_eq_true]
  have letter := CharSet.isCanonical_singleton c
  have inner := CharSet.isCanonical_union (CharSet.proper_of_isCanonical letter)
    (CharSet.proper_of_isCanonical targeted.1)
  refine ⟨CharSet.isCanonical_union (CharSet.proper_of_isCanonical inner)
    (CharSet.proper_of_isCanonical sourced.1), fun n => ?_⟩
  rw [foldCode_eq_iff, ← or_assoc, ← member_targets, ← CharSet.covers_singleton]
  refine (CharSet.covers_union inner sourced.1 n).trans (or_congr ?_ ?_)
  · exact CharSet.covers_union letter targeted.1 n
  · refine (sourced.2 n).trans ((member_sources n).trans ?_)
    simp only [member_targets]

theorem contains_close {c d : Char} :
    (close (.singleton c)).contains d = true ↔ fold d = fold c := by
  rw [CharSet.contains_iff, (covers_close c).2, fold_eq_fold_iff]

end Unicode.Folding

end Construe
