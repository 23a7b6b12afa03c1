import Construe.Proofs.Pattern.Captures

/-! # Expressions in reduced form

Every expression that is made from a structure is reduced: put together once more from its own
parts, a sequence, a choice or a repetition comes out as it was. -/
namespace Construe.Pattern

namespace Expr

/-- Nothing is left to reduce. A sequence has several parts, none of them empty or a sequence, and
no literals side by side; a choice has several branches, none of them a choice, which make no
class and share no start; a repetition has a number of rounds that makes a difference. -/
inductive Reduced : Expr → Prop where
  | empty : Reduced .empty
  | literal : text ≠ [] → Reduced (.literal text)
  | chars {set : CharSet} : set.isEmpty = false → set.single? = none → Reduced (.chars set)
  | fail : Reduced fail
  | bytes {set : CharSet} : set.isEmpty = false → set.single? = none → Reduced (.bytes set)
  | look : Reduced (.look kind)
  | rep {min : Nat} {max : Option Nat} : body.Reduced → ¬ (min = 0 ∧ max = some 0) →
      ¬ (min = 1 ∧ max = some 1) →
      (body.maxLength? = some 0 → min = Nat.min min 1 ∧ max = some (Nat.min (max.getD 1) 1)) →
      Reduced (.rep min max greedy body)
  | capture : body.Reduced → Reduced (.capture index name body)
  | concat : (∀ p ∈ parts, p.Reduced) → 2 ≤ parts.length → (∀ p ∈ parts, flatParts p = [p]) →
      joinLiterals parts = parts → Reduced (.concat parts)
  | alt : (∀ b ∈ branches, b.Reduced) → 2 ≤ branches.length →
      (∀ b ∈ branches, flatBranches b = [b]) → branches.mapM singleChar? = none →
      branches.mapM classSet? = none → sharedStart branches = [] → Reduced (.alt branches)

/-! ### Classes and repetitions -/

theorem reduced_charClass (set : CharSet) : (charClass set).Reduced := by
  unfold charClass
  split
  · exact .fail
  · rename_i some
    split
    · exact .literal (by simp)
    · exact .chars (by simpa using some) ‹_›

theorem reduced_byteClass (set : CharSet) : (byteClass set).Reduced := by
  unfold byteClass
  split
  · exact .fail
  · rename_i some
    split
    · exact .literal (by simp)
    · exact .bytes (by simpa using some) ‹_›

theorem reduced_repeated (min : Nat) (max : Option Nat) (greedy : Bool) (body : Expr)
    (reduced : body.Reduced) : (repeated min max greedy body).Reduced := by
  rcases repeated_cases min max greedy body with ⟨rfl, rfl, null⟩ | ⟨_, one⟩ |
    ⟨low, high, _, some, several, hollow, many⟩
  · rw [null]
    exact .empty
  · rw [one]
    exact reduced
  · rw [many]
    exact .rep reduced some several hollow

theorem repeated_eq_rep {min : Nat} {max : Option Nat} {greedy : Bool} {body : Expr}
    (lasting : ¬ (min = 0 ∧ max = some 0)) (several : ¬ (min = 1 ∧ max = some 1))
    (hollow : body.maxLength? = some 0 →
      min = Nat.min min 1 ∧ max = some (Nat.min (max.getD 1) 1)) :
    repeated min max greedy body = .rep min max greedy body := by
  unfold repeated
  extract_lets flat low high
  have same : low = min ∧ high = max := by
    by_cases h : body.maxLength? = some 0
    · obtain ⟨left, right⟩ := hollow h
      exact ⟨by simp [low, flat, h, ← left], by simp [high, flat, h, ← right]⟩
    · exact ⟨by simp [low, flat, h], by simp [high, flat, h]⟩
  rw [same.1, same.2, if_neg (by simpa using lasting), if_neg (by simpa using several)]

/-! ### Sequences -/

theorem length_joinLiterals_le (es : List Expr) : (joinLiterals es).length ≤ es.length := by
  fun_induction joinLiterals es with
  | case1 => exact Nat.le_refl _
  | case2 s rest t rest' joined ih =>
    rw [joined] at ih
    simp only [List.length_cons] at ih ⊢
    omega
  | case3 s rest _ ih => simpa using ih
  | case4 e rest _ ih => simpa using ih

/-- A literal in front of joined parts stays for itself just if no literal follows. -/
theorem joinLiterals_literal_cons {s : List Char} {es : List Expr} :
    joinLiterals (.literal s :: es) = .literal s :: es ↔
      joinLiterals es = es ∧ ∀ t fs, es ≠ .literal t :: fs := by
  rw [joinLiterals]
  constructor
  · intro same
    split at same
    · rename_i t fs joined
      have shorter := length_joinLiterals_le es
      simp only [List.cons.injEq] at same
      rw [joined, List.length_cons, same.2] at shorter
      omega
    · rename_i apart
      have joined : joinLiterals es = es := by simpa using same
      exact ⟨joined, fun t fs eq => apart t fs (joined.trans eq)⟩
  · rintro ⟨joined, apart⟩
    split
    · rename_i t fs eq
      exact absurd (joined.symm.trans eq) (apart t fs)
    · rw [joined]

theorem joinLiterals_joinLiterals (es : List Expr) :
    joinLiterals (joinLiterals es) = joinLiterals es := by
  fun_induction joinLiterals es with
  | case1 => rfl
  | case2 s rest t rest' joined ih =>
    rw [joined, joinLiterals_literal_cons] at ih
    exact joinLiterals_literal_cons.mpr ih
  | case3 s rest apart ih => exact joinLiterals_literal_cons.mpr ⟨ih, apart⟩
  | case4 e rest other ih =>
    rw [joinLiterals, ih]
    exact other

theorem forall_mem_joinLiterals {es : List Expr} {p : Expr → Prop} (each : ∀ e ∈ es, p e)
    (join : ∀ s t, p (.literal s) → p (.literal t) → p (.literal (s ++ t))) :
    ∀ e ∈ joinLiterals es, p e := by
  fun_induction joinLiterals es with
  | case1 => exact each
  | case2 s rest t rest' joined ih =>
    obtain ⟨first, others⟩ := List.forall_mem_cons.mp each
    obtain ⟨next, others⟩ := List.forall_mem_cons.mp (joined ▸ ih others)
    exact List.forall_mem_cons.mpr ⟨join s t first next, others⟩
  | case3 s rest _ ih =>
    obtain ⟨first, others⟩ := List.forall_mem_cons.mp each
    exact List.forall_mem_cons.mpr ⟨first, ih others⟩
  | case4 e rest _ ih =>
    obtain ⟨first, others⟩ := List.forall_mem_cons.mp each
    exact List.forall_mem_cons.mpr ⟨first, ih others⟩

theorem mem_flatParts {e p : Expr} (member : p ∈ flatParts e) :
    p = e ∨ ∃ parts, e = .concat parts ∧ p ∈ parts := by
  cases e with
  | empty => simp [flatParts] at member
  | concat parts => exact .inr ⟨parts, rfl, member⟩
  | _ => exact .inl (by simpa [flatParts] using member)

/-- A sequence is nothing, a single part, or several parts. -/
theorem of_sequence {es : List Expr} {part : Expr → Prop} (whole : Expr → Prop)
    (each : ∀ e ∈ es, ∀ p ∈ flatParts e, part p)
    (join : ∀ s t, part (.literal s) → part (.literal t) → part (.literal (s ++ t)))
    (empty : whole .empty) (one : ∀ e, part e → whole e)
    (several : ∀ parts, (∀ p ∈ parts, part p) → whole (.concat parts)) :
    whole (sequence es) := by
  have joined : ∀ p ∈ joinLiterals (es.flatMap flatParts), part p := by
    refine forall_mem_joinLiterals (fun p member => ?_) join
    obtain ⟨e, inside, member⟩ := List.mem_flatMap.mp member
    exact each e inside p member
  rw [sequence]
  split
  · exact empty
  · rename_i e single
    exact one e (joined e (by simp [single]))
  · exact several _ joined

/-- A reduced expression that can be a part of a sequence. -/
def IsPart (e : Expr) : Prop := e.Reduced ∧ flatParts e = [e]

theorem Reduced.isPart {e p : Expr} (reduced : e.Reduced) (member : p ∈ flatParts e) :
    p.IsPart := by
  cases e with
  | empty => simp [flatParts] at member
  | concat =>
    cases reduced with
    | concat parts _ flat => exact ⟨parts p member, flat p member⟩
  | _ =>
    obtain rfl : p = _ := by simpa [flatParts] using member
    exact ⟨reduced, rfl⟩

theorem reduced_sequence {parts : List Expr} (reduced : ∀ p ∈ parts, p.Reduced) :
    (sequence parts).Reduced := by
  have each : ∀ p ∈ joinLiterals (parts.flatMap flatParts), p.IsPart := by
    refine forall_mem_joinLiterals ?_ ?_
    · intro p member
      obtain ⟨e, inside, member⟩ := List.mem_flatMap.mp member
      exact (reduced e inside).isPart member
    · rintro s t ⟨left, _⟩ _
      cases left with
      | literal some => exact ⟨.literal (by simp [some]), rfl⟩
  rw [sequence]
  split
  · exact .empty
  · rename_i e one
    exact (each e (by simp [one])).1
  · rename_i several single
    refine .concat (fun p member => (each p member).1) ?_ (fun p member => (each p member).2)
      (joinLiterals_joinLiterals _)
    rcases joined : joinLiterals (parts.flatMap flatParts) with _ | ⟨e, _ | ⟨f, es⟩⟩
    · exact absurd joined several
    · exact absurd joined (single e)
    · simp

theorem sequence_eq_concat {parts : List Expr} (several : 2 ≤ parts.length)
    (flat : ∀ p ∈ parts, flatParts p = [p]) (joined : joinLiterals parts = parts) :
    sequence parts = .concat parts := by
  have same : parts.flatMap flatParts = parts := by
    rw [List.flatMap_congr (g := fun p => [p]) flat]
    simp
  rw [sequence, same, joined]
  split
  · simp at several
  · simp at several
  · rfl

/-! ### Choices -/

theorem nodesAll_append (es fs : List Expr) : nodesAll (es ++ fs) = nodesAll es + nodesAll fs := by
  induction es with
  | nil => simp [nodesAll]
  | cons e es ih => simp [nodesAll, ih, Nat.add_assoc]

theorem nodes_pos (e : Expr) : 0 < e.nodes := by
  cases e <;> simp [nodes]

theorem nodesAll_joinLiterals_le (es : List Expr) : nodesAll (joinLiterals es) ≤ nodesAll es := by
  fun_induction joinLiterals es with
  | case1 => exact Nat.le_refl _
  | case2 s rest t rest' joined ih =>
    rw [joined] at ih
    simp only [nodesAll, nodes] at ih ⊢
    omega
  | case3 s rest _ ih => simpa [nodesAll] using ih
  | case4 e rest _ ih => simpa [nodesAll] using ih

theorem nodesAll_flatMap_le {f : Expr → List Expr} (fewer : ∀ e, nodesAll (f e) ≤ e.nodes)
    (es : List Expr) : nodesAll (es.flatMap f) ≤ nodesAll es := by
  induction es with
  | nil => exact Nat.le_refl _
  | cons e es ih =>
    rw [List.flatMap_cons, nodesAll_append, nodesAll]
    exact Nat.add_le_add (fewer e) ih

theorem nodesAll_flatParts_le (e : Expr) : nodesAll (flatParts e) ≤ e.nodes := by
  cases e <;> simp [flatParts, nodes, nodesAll]

theorem nodesAll_flatBranches_le (e : Expr) : nodesAll (flatBranches e) ≤ e.nodes := by
  cases e <;> simp [flatBranches, nodes, nodesAll]

theorem nodes_sequence_le (parts : List Expr) : (sequence parts).nodes ≤ nodesAll parts + 1 := by
  have fewer : nodesAll (joinLiterals (parts.flatMap flatParts)) ≤ nodesAll parts :=
    Nat.le_trans (nodesAll_joinLiterals_le _) (nodesAll_flatMap_le nodesAll_flatParts_le _)
  rw [sequence]
  split
  · simp [nodes]
  · rename_i e one
    simp only [one, nodesAll] at fewer
    omega
  · rw [nodes]
    omega

theorem nodesAll_map_add_length_le {f : Expr → Expr} {es : List Expr}
    (fewer : ∀ e ∈ es, (f e).nodes < e.nodes) : nodesAll (es.map f) + es.length ≤ nodesAll es := by
  induction es with
  | nil => exact Nat.le_refl _
  | cons e es ih =>
    obtain ⟨first, others⟩ := List.forall_mem_cons.mp fewer
    have rest := ih others
    simp only [List.map_cons, nodesAll, List.length_cons]
    omega

/-- What is left behind a shared start has fewer constructors. -/
theorem nodesAll_restsAfter_lt {es : List Expr} (two : 2 ≤ es.length)
    (shared : sharedStart es ≠ []) : nodesAll (restsAfter (sharedStart es) es) < nodesAll es := by
  have each : ∀ e ∈ es,
      (sequence ((flatParts e).drop (sharedStart es).length)).nodes < e.nodes := by
    intro e member
    obtain ⟨parts, rfl, ⟨others, whole⟩⟩ := sharedStart_isPrefix shared e member
    have fewer := nodes_sequence_le others
    obtain ⟨first, start, split⟩ := List.exists_cons_of_ne_nil shared
    have := nodes_pos first
    rw [flatParts, nodes, ← whole, List.drop_left, nodesAll_append, split, nodesAll]
    omega
  have fewer := nodesAll_map_add_length_le each
  rw [restsAfter]
  omega

theorem mem_flatBranches {e b : Expr} (member : b ∈ flatBranches e) :
    b = e ∨ ∃ branches, e = .alt branches ∧ b ∈ branches := by
  cases e with
  | alt branches => exact .inr ⟨branches, rfl, member⟩
  | _ => exact .inl (by simpa [flatBranches] using member)

/-- A reduced expression that can be a branch of a choice. -/
def IsBranch (e : Expr) : Prop := e.Reduced ∧ flatBranches e = [e]

theorem Reduced.isBranch {e b : Expr} (reduced : e.Reduced) (member : b ∈ flatBranches e) :
    b.IsBranch := by
  cases e with
  | alt =>
    cases reduced with
    | alt branches _ flat => exact ⟨branches b member, flat b member⟩
  | _ =>
    obtain rfl : b = _ := by simpa [flatBranches] using member
    exact ⟨reduced, rfl⟩

theorem Reduced.of_mem_concat {parts : List Expr} (reduced : (Expr.concat parts).Reduced)
    (member : p ∈ parts) : p.Reduced := by
  cases reduced with
  | concat each => exact each p member

theorem reduced_choiceFrom {fuel : Nat} {branches : List Expr} (enough : nodesAll branches < fuel)
    (reduced : ∀ b ∈ branches, b.Reduced) : (choiceFrom fuel branches).Reduced := by
  induction fuel generalizing branches with
  | zero => omega
  | succ fuel ih =>
    have flat : nodesAll (branches.flatMap flatBranches) ≤ nodesAll branches :=
      nodesAll_flatMap_le nodesAll_flatBranches_le _
    have each : ∀ b ∈ branches.flatMap flatBranches, b.IsBranch := by
      intro b member
      obtain ⟨e, inside, member⟩ := List.mem_flatMap.mp member
      exact (reduced e inside).isBranch member
    generalize built : choiceFrom (fuel + 1) branches = c
    cases built ▸ choiceFrom_cases fuel branches with
    | none => exact .fail
    | one single => exact (each c (by simp [single])).1
    | letters => exact reduced_charClass _
    | classes => exact reduced_charClass _
    | apart two letters classes apart =>
      exact .alt (fun b member => (each b member).1) two (fun b member => (each b member).2)
        letters classes apart
    | shared two shared =>
      have fewer := nodesAll_restsAfter_lt two shared
      refine reduced_sequence fun p member => ?_
      rcases List.mem_append.mp member with start | rest
      · obtain ⟨e, inside⟩ := List.exists_mem_of_length_pos (Nat.lt_of_lt_of_le Nat.two_pos two)
        obtain ⟨parts, rfl, shorter⟩ := sharedStart_isPrefix shared e inside
        exact (each _ inside).1.of_mem_concat (shorter.subset start)
      · rw [List.mem_singleton.mp rest]
        refine ih (by omega) fun r member => ?_
        obtain ⟨e, inside, rfl⟩ := List.mem_map.mp member
        obtain ⟨parts, rfl, _⟩ := sharedStart_isPrefix shared e inside
        exact reduced_sequence fun p member =>
          (each _ inside).1.of_mem_concat (List.mem_of_mem_drop member)

theorem reduced_choice {branches : List Expr} (reduced : ∀ b ∈ branches, b.Reduced) :
    (choice branches).Reduced :=
  reduced_choiceFrom (Nat.lt_succ_self _) reduced

theorem choice_eq_alt {branches : List Expr} (several : 2 ≤ branches.length)
    (flat : ∀ b ∈ branches, flatBranches b = [b]) (letters : branches.mapM singleChar? = none)
    (classes : branches.mapM classSet? = none) (apart : sharedStart branches = []) :
    choice branches = .alt branches := by
  have same : branches.flatMap flatBranches = branches := by
    rw [List.flatMap_congr (g := fun b => [b]) flat]
    simp
  rw [choice, choiceFrom, same]
  split
  · simp at several
  · simp at several
  · simp only [letters, classes, apart]

/-! ### Expressions of structures -/

theorem Atom.reduced {e : Expr} (atom : e.Atom) : e.Reduced := by
  cases atom with
  | empty => exact .empty
  | letter => exact .literal (by simp)
  | look => exact .look
  | charClass => exact reduced_charClass _
  | byteClass => exact reduced_byteClass _

end Expr

theorem Ast.forall_mem_reduced {items : List Ast} {es : List Expr}
    (aligned : items.length = es.length) (each : ∀ x ∈ items.zip es, x.2.Reduced) :
    ∀ e ∈ es, e.Reduced := by
  have related := List.forall₂_iff_zip.mpr ⟨aligned, fun {item e} => each (item, e)⟩
  intro e member
  obtain ⟨_, _, reduced⟩ := Build.mem_left_of_forall₂ related.flip member
  exact reduced

theorem Ast.Means.reduced {ast : Ast} {e : Expr} (means : ast.Means e) : e.Reduced := by
  induction means with
  | atom _ atom => exact atom.reduced
  | repetition _ ih => exact Expr.reduced_repeated _ _ _ _ ih
  | capture _ ih => exact .capture ih
  | plain _ ih => exact ih
  | concat aligned _ ih => exact Expr.reduced_sequence (forall_mem_reduced aligned ih)
  | alternation aligned _ ih => exact Expr.reduced_choice (forall_mem_reduced aligned ih)

end Construe.Pattern
