import Construe.Pattern.Basic
import Construe.Proofs.Pattern.RoundTrip

/-! # The groups of a pattern for whole texts

A pattern for whole texts is compiled from the text of its anchored expression. It has as many
groups as the expression, which are as many as were asked for just if the expression's groups are
numbered without a gap; if the expression is legible too, the program is that of the expression
itself. -/
namespace Construe.Pattern

open Build (bind_eq_ok)

namespace Ast

theorem kept_ofItems (items : List Ast) : (ofItems items).kept = keptAll items := by
  unfold ofItems
  split
  · rfl
  · simp [keptAll]
  · rfl

theorem kept_ofBranches (branches : List Ast) : (ofBranches branches).kept = keptAll branches := by
  unfold ofBranches
  split
  · rfl
  · simp [keptAll]
  · rfl

theorem keptAll_letters (text : List Char) :
    keptAll (text.map fun c => .letter ⟨c, false⟩) = [] := by
  induction text with
  | nil => rfl
  | cons c text ih => exact ih

theorem kept_suffixed (item : Ast) {bs : List Bounds} (lasting : ∀ b ∈ bs, b ≠ (0, some 0)) :
    (item.suffixed bs).kept = item.kept := by
  have once (item : Ast) {b : Bounds} (lasting : b ≠ (0, some 0)) (greedy : Bool) :
      (Ast.repetition b.1 b.2 greedy item).kept = item.kept := by
    rw [kept, if_neg]
    rintro ⟨min, max⟩
    exact lasting (Prod.ext min max)
  fun_induction suffixed item bs with
  | case1 => rfl
  | case2 item b => exact once item (lasting b (by simp)) true
  | case3 item b bs ih =>
    rw [ih fun c member => lasting c (by simp [member])]
    exact once item (lasting b (by simp)) false
  | case4 item b c bs _ ih =>
    rw [ih fun d member => lasting d (List.mem_cons_of_mem _ member)]
    exact once item (lasting b (by simp)) true

end Ast

namespace Expr

theorem suffixes_ne_null {min : Nat} {max : Option Nat} {greedy : Bool}
    (lasting : ¬ (min = 0 ∧ max = some 0)) : ∀ b ∈ suffixes min max greedy, b ≠ (0, some 0) := by
  have other : (min, max) ≠ (0, some 0) := by simpa using lasting
  rcases suffixes_eq min max greedy with ⟨none, _⟩ | ⟨_, ⟨_, one⟩ | ⟨_, two⟩⟩
  · simp [none]
  · simpa [one] using lasting
  · simpa [two] using lasting

mutual

/-- The text of an expression is read with all its groups, numbered anew. -/
theorem kept_retold : ∀ (e : Expr) (count : Nat) (bs : List Bounds), e.Reduced →
    (∀ b ∈ bs, b ≠ (0, some 0)) →
    (e.retold count bs).kept.map Prod.fst = List.range' (count + 1) e.captures.length
  | .empty, _, _, _, lasting | .literal [], _, _, _, lasting | .literal [_], _, _, _, lasting =>
    congrArg (List.map Prod.fst) (Ast.kept_suffixed _ lasting)
  | .literal (c :: d :: text), count, bs, _, lasting => by
    have none := Ast.kept_suffixed (.group (.plain [])
      (.ofItems ((c :: d :: text).map fun c => .letter ⟨c, false⟩))) lasting
    rw [Ast.kept, Ast.kept_ofItems, Ast.keptAll_letters] at none
    exact congrArg (List.map Prod.fst) none
  | .chars set, _, _, _, lasting => by
    rw [retold, Ast.kept_suffixed _ lasting]
    split <;> rfl
  | .bytes set, _, _, _, lasting => by
    rw [retold, Ast.kept_suffixed _ lasting]
    split <;> rfl
  | .look kind, _, _, _, lasting => by
    rw [retold, Ast.kept_suffixed _ lasting, Look.retold]
    split <;> rfl
  | .rep min max greedy body, count, bs, reduced, lasting => by
    cases reduced with
    | rep inner some =>
      rw [retold]
      refine kept_retold body count _ inner fun b member => ?_
      exact (List.mem_append.mp member).elim (suffixes_ne_null some b) (lasting b)
  | .capture _ _ body, count, bs, reduced, lasting => by
    cases reduced with
    | capture inner =>
      rw [retold, Ast.kept_suffixed _ lasting, Ast.kept, List.map_cons,
        kept_retold body (count + 1) [] inner (by simp), captures, List.length_cons,
        List.range'_succ]
  | .concat parts, count, bs, reduced, lasting => by
    cases reduced with
    | concat each =>
      rw [retold, Ast.kept_suffixed _ lasting, Ast.kept, Ast.kept_ofItems, captures]
      exact keptAll_retold parts count each
  | .alt branches, count, bs, reduced, lasting => by
    cases reduced with
    | alt each =>
      rw [retold, Ast.kept_suffixed _ lasting, Ast.kept, Ast.kept_ofBranches, captures]
      exact keptAll_retold branches count each

theorem keptAll_retold : ∀ (es : List Expr) (count : Nat), (∀ e ∈ es, e.Reduced) →
    (Ast.keptAll (retoldAll count es)).map Prod.fst =
      List.range' (count + 1) (capturesAll es).length
  | [], _, _ => rfl
  | e :: es, count, reduced => by
    obtain ⟨first, others⟩ := List.forall_mem_cons.mp reduced
    rw [retoldAll, Ast.keptAll, List.map_append, kept_retold e count [] first (by simp),
      keptAll_retold es _ others, capturesAll, List.length_append, ← List.range'_append_1,
      Nat.add_right_comm]

end

end Expr

/-! ### Compiling -/

theorem ofString_eq_ok {source : String} {p : Pattern} (compiled : ofString source = .ok p) :
    ∃ e, exprOf source = .ok e ∧ p = ⟨source, e.groupCount, e.program⟩ := by
  obtain ⟨e, read, fits⟩ := bind_eq_ok.mp compiled
  split at fits
  · cases fits
    exact ⟨e, read, rfl⟩
  · contradiction

theorem exprOf_eq_ok {source : String} {e : Expr} :
    exprOf source = .ok e ↔ ∃ ast f, Ast.ofString source = .ok ast ∧ ast.expr {} = .ok (e, f) := by
  constructor
  · intro read
    obtain ⟨ast, structured, read⟩ := bind_eq_ok.mp read
    obtain ⟨⟨e, f⟩, meant, same⟩ := bind_eq_ok.mp read
    cases same
    exact ⟨ast, f, structured, meant⟩
  · rintro ⟨ast, f, structured, meant⟩
    exact bind_eq_ok.mpr ⟨ast, structured, bind_eq_ok.mpr ⟨(e, f), meant, rfl⟩⟩

theorem asInvalid_eq_ok {x : Except Fault β} : asInvalid x = .ok b ↔ x = .ok b := by
  cases x <;> simp [asInvalid, Except.mapError]

theorem whole_eq_ok {source : String} {arity : Nat} {m : Pattern}
    (compiled : whole source arity = .ok m) :
    ∃ e, exprOf source = .ok e ∧ e.groupCount = arity ∧
      ofString (String.ofList (anchored e).render) = .ok m := by
  obtain ⟨bare, counted, compiled⟩ := bind_eq_ok.mp compiled
  obtain ⟨e, read, rfl⟩ := ofString_eq_ok (asInvalid_eq_ok.mp counted)
  split at compiled
  · contradiction
  · rename_i same
    obtain ⟨e', again, compiled⟩ := bind_eq_ok.mp compiled
    obtain rfl : e = e' := Except.ok.inj (read.symm.trans (asInvalid_eq_ok.mp again))
    exact ⟨e, read, Decidable.not_not.mp same, asInvalid_eq_ok.mp compiled⟩

theorem ofString_of_exprOf {source : String} {e : Expr} (read : exprOf source = .ok e) :
    ofString source =
      if e.fits then .ok ⟨source, e.groupCount, e.program⟩ else .error .tooLarge := by
  rw [ofString, read]
  rfl

theorem whole_of_exprOf {source : String} {e : Expr} (read : exprOf source = .ok e) :
    whole source e.groupCount =
      if e.fits then asInvalid (ofString (String.ofList (anchored e).render))
      else .error (.invalid .tooLarge) := by
  rw [whole, ofString_of_exprOf read, read]
  by_cases fits : e.fits
  · simp [fits, asInvalid, Except.mapError, bind, Except.bind]
  · simp [fits, asInvalid, Except.mapError, bind, Except.bind]

theorem reduced_exprOf {source : String} {e : Expr} (read : exprOf source = .ok e) : e.Reduced := by
  obtain ⟨ast, f, _, meant⟩ := exprOf_eq_ok.mp read
  exact (Ast.means_of_expr meant).reduced

/-- The groups of an expression are some of those that its pattern numbers, in their order. -/
theorem captures_exprOf {source : String} {e : Expr} (read : exprOf source = .ok e) :
    Proper e.captures ∧ ∃ last, (e.captures.map Prod.fst).Sublist (List.range' 1 last) := by
  obtain ⟨ast, f, structured, meant⟩ := exprOf_eq_ok.mp read
  obtain ⟨indices, names⟩ := Ast.numbered_ofString structured
  have kept := ast.kept_sublist
  rw [(Ast.means_of_expr meant).captures (Ast.nodup_kept structured)]
  exact ⟨fun g member => names g (kept.subset member), ast.groups.length, indices ▸ kept.map _⟩

theorem captures_anchored (e : Expr) : (anchored e).captures = e.captures := by
  simp [anchored, Expr.captures_sequence, Expr.capturesAll, Expr.captures]

theorem reduced_anchored {e : Expr} (reduced : e.Reduced) : (anchored e).Reduced :=
  Expr.reduced_sequence (by simpa using ⟨.look, reduced, .look⟩)

/-! ### Counting groups by the highest index -/

namespace Expr

theorem highest_le_iff {groups : List Group} :
    highest groups ≤ n ↔ ∀ k ∈ groups.map Prod.fst, k ≤ n := by
  induction groups with
  | nil => simp [highest]
  | cons g groups ih =>
    rw [List.map_cons, List.forall_mem_cons, ← ih]
    exact Nat.max_le

theorem highest_of_numberedFrom {groups : List Group} (numbered : NumberedFrom 0 groups) :
    highest groups = groups.length := by
  apply Nat.le_antisymm
  · refine highest_le_iff.mpr fun k member => ?_
    rw [numbered] at member
    have := (List.mem_range'_1.mp member).2
    omega
  · rcases Nat.eq_zero_or_pos groups.length with none | some
    · omega
    · refine highest_le_iff.mp le_rfl _ (numbered ▸ List.mem_range'_1.mpr ?_)
      omega

/-- Groups in the order of their indices are at most as many as the highest of these. -/
theorem sublist_highest {groups : List Group} {last : Nat}
    (ordered : (groups.map Prod.fst).Sublist (List.range' 1 last)) :
    (groups.map Prod.fst).Sublist (List.range' 1 (highest groups)) := by
  have increasing (n : Nat) : (List.range' 1 n).Pairwise (· ≤ ·) :=
    (List.pairwise_lt_range' ..).imp Nat.le_of_lt
  have distinct : (groups.map Prod.fst).Nodup := ordered.nodup (List.nodup_range' ..)
  refine List.sublist_of_subperm_of_pairwise (List.subperm_of_subset distinct ?_)
    ((increasing last).sublist ordered) (increasing _)
  intro k member
  have positive := (List.mem_range'_1.mp (ordered.subset member)).1
  have bounded := highest_le_iff.mp le_rfl k member
  exact List.mem_range'_1.mpr ⟨positive, by omega⟩

theorem highest_eq_length_iff {groups : List Group} {last : Nat}
    (ordered : (groups.map Prod.fst).Sublist (List.range' 1 last)) :
    highest groups = groups.length ↔ NumberedFrom 0 groups := by
  refine ⟨fun same => ?_, highest_of_numberedFrom⟩
  have inside := sublist_highest ordered
  rw [same] at inside
  exact inside.eq_of_length (by simp)

end Expr

/-! ### Patterns for whole texts -/

theorem length_captures_le {source : String} {e : Expr} (read : exprOf source = .ok e) :
    e.captures.length ≤ e.groupCount := by
  obtain ⟨_, _, ordered⟩ := captures_exprOf read
  simpa [Expr.groupCount_eq_highest] using (Expr.sublist_highest ordered).length_le

theorem groupCount_eq_length_iff {source : String} {e : Expr} (read : exprOf source = .ok e) :
    e.groupCount = e.captures.length ↔ NumberedFrom 0 e.captures := by
  obtain ⟨_, _, ordered⟩ := captures_exprOf read
  rw [Expr.groupCount_eq_highest]
  exact Expr.highest_eq_length_iff ordered

/-- A pattern for whole texts is compiled from the structure that retells its expression. -/
theorem whole_eq_retold {source : String} {arity : Nat} {m : Pattern} {e : Expr}
    (compiled : whole source arity = .ok m) (read : exprOf source = .ok e) :
    ∃ ast inner f, Ast.ofString (String.ofList (anchored e).render) = .ok ast ∧
      ast = (anchored e).retold 0 [] ∧ ast.expr {} = .ok (inner, f) ∧
      m.groups = inner.groupCount ∧ m.program = inner.program := by
  obtain ⟨_, again, _, compiled⟩ := whole_eq_ok compiled
  obtain rfl := Except.ok.inj (read.symm.trans again)
  obtain ⟨inner, reread, rfl⟩ := ofString_eq_ok compiled
  obtain ⟨ast, f, structured, meant⟩ := exprOf_eq_ok.mp reread
  have proper : Proper (anchored e).captures := captures_anchored e ▸ (captures_exprOf read).1
  exact ⟨ast, inner, f, structured, Expr.ofString_render proper structured, meant, rfl, rfl⟩

/-- A pattern for whole texts has the groups that its expression has kept. -/
theorem groups_whole {source : String} {arity : Nat} {m : Pattern} {e : Expr}
    (compiled : whole source arity = .ok m) (read : exprOf source = .ok e) :
    m.groups = e.captures.length := by
  obtain ⟨ast, inner, f, structured, retold, meant, count, _⟩ := whole_eq_retold compiled read
  have indices := Expr.kept_retold (anchored e) 0 [] (reduced_anchored (reduced_exprOf read))
    (by simp)
  have same := (Ast.means_of_expr meant).captures (Ast.nodup_kept structured)
  rw [← retold, ← same, captures_anchored] at indices
  have length : inner.captures.length = e.captures.length := by
    simpa using congrArg List.length indices
  -- The groups were numbered anew in reading, so that the highest index counts them all.
  have numbered : NumberedFrom 0 inner.captures := by
    rw [NumberedFrom, length]
    exact indices
  rw [count, Expr.groupCount_eq_highest, Expr.highest_of_numberedFrom numbered, length]

/-- If its groups are numbered without a gap and it is legible, an expression is compiled as it
is. -/
theorem program_whole {source : String} {arity : Nat} {m : Pattern} {e : Expr}
    (compiled : whole source arity = .ok m) (read : exprOf source = .ok e)
    (numbered : NumberedFrom 0 e.captures) (legible : e.legible = true) :
    m.program = (anchored e).program := by
  obtain ⟨_, inner, f, _, rfl, meant, _, program⟩ := whole_eq_retold compiled read
  have ends : (anchored e).legible = true :=
    Expr.legible_sequence (by simpa [Expr.legible] using legible)
  have again := Expr.expr_retold (anchored e) 0 (reduced_anchored (reduced_exprOf read)) ends
    (captures_anchored e ▸ numbered)
  obtain ⟨rfl, -⟩ := Prod.mk.inj (Except.ok.inj (meant.symm.trans again))
  exact program

end Construe.Pattern
