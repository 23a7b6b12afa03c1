import Construe.Proofs.Pattern.Makeup
import Construe.Proofs.Pattern.Language

/-! # What sequences and choices take

Reducing an expression changes its form but not what it takes: a sequence takes what its parts take
one after the other, a choice what one of its branches takes. A start that branches share is taken
out once: what is left of them shares no start any more. -/
namespace Construe.Pattern.Expr

variable {text : Text}

/-! ### Sequences -/

theorem takesLetters_append (s t : List Char) (a b : Spot) :
    TakesLetters text (s ++ t) a b ↔ ∃ c, TakesLetters text s a c ∧ TakesLetters text t c b := by
  induction s generalizing a with
  | nil => simp [TakesLetters]
  | cons c s ih => simp [TakesLetters, ih, and_assoc]

theorem takesAll_append (es fs : List Expr) (a b : Spot) :
    TakesAll text (es ++ fs) a b ↔ ∃ c, TakesAll text es a c ∧ TakesAll text fs c b := by
  induction es generalizing a with
  | nil => simp [TakesAll]
  | cons e es ih =>
    simp only [List.cons_append, TakesAll, ih]
    constructor
    · rintro ⟨c, first, d, others, rest⟩
      exact ⟨d, ⟨c, first, others⟩, rest⟩
    · rintro ⟨d, ⟨c, first, others⟩, rest⟩
      exact ⟨c, first, d, others, rest⟩

theorem takesAll_singleton (e : Expr) (a b : Spot) : TakesAll text [e] a b ↔ e.Takes text a b := by
  simp [TakesAll]

theorem takesAll_flatParts (e : Expr) (a b : Spot) :
    TakesAll text (flatParts e) a b ↔ e.Takes text a b := by
  cases e with
  | empty => simp [flatParts, TakesAll, Takes]
  | concat parts => simp [flatParts, Takes]
  | _ => exact takesAll_singleton _ a b

theorem takesAll_flatMap (es : List Expr) (a b : Spot) :
    TakesAll text (es.flatMap flatParts) a b ↔ TakesAll text es a b := by
  induction es generalizing a with
  | nil => rfl
  | cons e es ih =>
    simp only [List.flatMap_cons, takesAll_append, takesAll_flatParts, ih, TakesAll]

theorem takesAll_joinLiterals (es : List Expr) (a b : Spot) :
    TakesAll text (joinLiterals es) a b ↔ TakesAll text es a b := by
  fun_induction joinLiterals es generalizing a with
  | case1 => rfl
  | case2 s rest t rest' joined ih =>
    simp only [TakesAll, ← ih, joined, Takes, takesLetters_append]
    constructor
    · rintro ⟨d, ⟨c, first, next⟩, others⟩
      exact ⟨c, first, d, next, others⟩
    · rintro ⟨c, first, d, next, others⟩
      exact ⟨d, ⟨c, first, next⟩, others⟩
  | case3 s rest _ ih => simp only [TakesAll, ih]
  | case4 e rest _ ih => simp only [TakesAll, ih]

theorem takes_sequence (parts : List Expr) (a b : Spot) :
    (sequence parts).Takes text a b ↔ TakesAll text parts a b := by
  rw [← takesAll_flatMap, ← takesAll_joinLiterals, sequence]
  split
  · rename_i none
    simp [none, Takes, TakesAll]
  · rename_i e one
    rw [one, takesAll_singleton]
  · simp [Takes]

/-! ### Classes -/

theorem takesOne_singleton (c : Char) (a b : Spot) :
    TakesOne text (.singleton c) a b ↔ (literal [c]).Takes text a b := by
  simp only [TakesOne, Takes, TakesLetters, Program.contains_singleton]
  constructor
  · rintro ⟨_, found, rfl, rfl⟩
    exact ⟨found, rfl⟩
  · rintro ⟨found, rfl⟩
    exact ⟨c, found, rfl, rfl⟩

theorem single?_eq_some {set : CharSet} (canonical : set.isCanonical = true)
    (single : set.single? = some c) : set = .singleton c := by
  obtain ⟨ranges⟩ := set
  unfold CharSet.single? at single
  split at single
  · rename_i r one
    obtain rfl : ranges = [r] := one
    obtain ⟨_, _, valid, _⟩ := CharSet.ascendFrom_cons.mp canonical
    split at single
    · rename_i same
      obtain ⟨lo, hi⟩ := r
      obtain rfl : lo = hi := same
      cases single
      rw [CharSet.singleton, ofRange_ofNat valid valid]
    · contradiction
  · contradiction

theorem takes_charClass {set : CharSet} (canonical : set.isCanonical = true) (a b : Spot) :
    (charClass set).Takes text a b ↔ TakesOne text set a b := by
  unfold charClass
  split
  · rename_i none
    have same : set = .empty := by
      obtain ⟨ranges⟩ := set
      simpa [CharSet.isEmpty, CharSet.empty] using none
    rw [same]
    rfl
  · split
    · rename_i c single
      rw [single?_eq_some canonical single, takesOne_singleton]
    · rfl

/-! ### Choices -/

theorem takesAny_iff {es : List Expr} {a b : Spot} :
    TakesAny text es a b ↔ ∃ e ∈ es, e.Takes text a b := by
  induction es with
  | nil => simp [TakesAny]
  | cons e es ih => simp [TakesAny, ih]

theorem takesAny_flatBranches (es : List Expr) (a b : Spot) :
    TakesAny text (es.flatMap flatBranches) a b ↔ TakesAny text es a b := by
  have branches (e : Expr) : TakesAny text (flatBranches e) a b ↔ e.Takes text a b := by
    cases e with
    | alt => rfl
    | _ => simp [flatBranches, TakesAny]
  simp only [takesAny_iff, List.mem_flatMap] at branches ⊢
  constructor
  · rintro ⟨f, ⟨e, member, inside⟩, taken⟩
    exact ⟨e, member, (branches e).mp ⟨f, inside, taken⟩⟩
  · rintro ⟨e, member, taken⟩
    obtain ⟨f, inside, taken⟩ := (branches e).mpr taken
    exact ⟨f, ⟨e, member, inside⟩, taken⟩

/-- Branches that are all read as something take what is taken by one of the things read. -/
theorem takesAny_of_mapM {read : Expr → Option β} {R : β → Prop} {a b : Spot}
    (means : ∀ e y, read e = some y → (e.Takes text a b ↔ R y)) :
    ∀ {es : List Expr} {ys : List β}, es.mapM read = some ys →
      (TakesAny text es a b ↔ ∃ y ∈ ys, R y)
  | [], ys, done => by
    cases done
    simp [TakesAny]
  | e :: es, ys, done => by
    simp only [List.mapM_cons, Option.bind_eq_bind, Option.bind_eq_some_iff] at done
    obtain ⟨y, head, others, tail, same⟩ := done
    cases same
    rw [TakesAny, means e y head, takesAny_of_mapM means tail, List.exists_mem_cons_iff]

theorem takesAny_letters {es : List Expr} {cs : List Char} (read : es.mapM singleChar? = some cs)
    (a b : Spot) :
    (charClass (.ofList cs)).Takes text a b ↔ TakesAny text es a b := by
  have means (e : Expr) (c : Char) (single : e.singleChar? = some c) :
      e.Takes text a b ↔ TakesOne text (.singleton c) a b := by
    rw [takesOne_singleton]
    unfold singleChar? at single
    split at single
    · cases single
      rfl
    · contradiction
  rw [takes_charClass (CharSet.isCanonical_ofList cs), takesAny_of_mapM means read]
  simp only [TakesOne, CharSet.contains_ofList, Program.contains_singleton]
  constructor
  · rintro ⟨c, found, member, rfl⟩
    exact ⟨c, member, c, found, rfl, rfl⟩
  · rintro ⟨c, member, _, found, rfl, rfl⟩
    exact ⟨_, found, member, rfl⟩

theorem takesAny_classes {es : List Expr} {sets : List CharSet}
    (made : ∀ e ∈ es, e.Made .canonical) (read : es.mapM classSet? = some sets) (a b : Spot) :
    (charClass (sets.foldl CharSet.union .empty)).Takes text a b ↔ TakesAny text es a b := by
  have means (e : Expr) (set : CharSet) (single : e.classSet? = some set) :
      e.Takes text a b ↔ TakesOne text set a b := by
    unfold classSet? at single
    split at single
    · cases single
      rfl
    · cases single
      rfl
    · contradiction
  have canonical : ∀ set ∈ sets, set.isCanonical = true := by
    intro set member
    obtain ⟨e, inside, single⟩ := exists_mem_of_mapM read set member
    exact (made e inside).isCanonical single
  have union := CharSet.foldl_union (s := .empty) rfl canonical
  rw [takes_charClass union.1, takesAny_of_mapM means read]
  simp only [TakesOne, CharSet.contains_iff, union.2]
  constructor
  · rintro ⟨c, found, none | ⟨set, member, inside⟩, rfl⟩
    · simp [CharSet.covers, CharSet.empty] at none
    · exact ⟨set, member, c, found, inside, rfl⟩
  · rintro ⟨set, member, c, found, inside, rfl⟩
    exact ⟨c, found, .inr ⟨set, member, inside⟩, rfl⟩

/-- What branches share is taken first, then what is left of one of them. -/
theorem takesAny_shared {es : List Expr} (shared : sharedStart es ≠ []) (a b : Spot) :
    TakesAny text es a b ↔
      ∃ c, TakesAll text (sharedStart es) a c ∧
        TakesAny text (restsAfter (sharedStart es) es) c b := by
  have each (e : Expr) (member : e ∈ es) : e.Takes text a b ↔
      ∃ c, TakesAll text (sharedStart es) a c ∧
        (sequence ((flatParts e).drop (sharedStart es).length)).Takes text c b := by
    obtain ⟨parts, rfl, ⟨others, whole⟩⟩ := sharedStart_isPrefix shared e member
    rw [Takes, flatParts, ← whole, List.drop_left, takesAll_append]
    simp only [takes_sequence]
  simp only [takesAny_iff, restsAfter, List.mem_map]
  constructor
  · rintro ⟨e, member, taken⟩
    obtain ⟨c, start, rest⟩ := (each e member).mp taken
    exact ⟨c, start, _, ⟨e, member, rfl⟩, rest⟩
  · rintro ⟨c, start, _, ⟨e, member, rfl⟩, rest⟩
    exact ⟨e, member, (each e member).mpr ⟨c, start, rest⟩⟩

theorem takes_choiceFrom (fuel : Nat) {es : List Expr} (made : ∀ e ∈ es, e.Made .canonical)
    (a b : Spot) : (choiceFrom fuel es).Takes text a b ↔ TakesAny text es a b := by
  induction fuel generalizing es a with
  | zero => rfl
  | succ fuel ih =>
    have flat := made_flatBranches made
    rw [← takesAny_flatBranches]
    generalize built : choiceFrom (fuel + 1) es = c
    cases built ▸ choiceFrom_cases fuel es with
    | none empty => simp [empty, TakesAny, fail, Takes, TakesOne, CharSet.contains, CharSet.empty]
    | one single => simp [single, TakesAny]
    | letters read => exact takesAny_letters read a b
    | classes read => exact takesAny_classes flat read a b
    | apart => rfl
    | shared two shared =>
      rw [takes_sequence, takesAll_append, takesAny_shared shared]
      simp only [takesAll_singleton, ih (made_restsAfter shared flat)]

/-- A choice takes what one of its branches takes. -/
theorem takes_choice {es : List Expr} (made : ∀ e ∈ es, e.Made .canonical) (a b : Spot) :
    (choice es).Takes text a b ↔ ∃ e ∈ es, e.Takes text a b :=
  (takes_choiceFrom _ made a b).trans takesAny_iff

/-! ### The longest start -/

mutual

theorem beq_self : ∀ e : Expr, beq e e = true
  | .empty => rfl
  | .literal _ | .chars _ | .bytes _ | .look _ => by simp [beq]
  | .rep _ _ _ body => by simp [beq, beq_self body]
  | .capture _ _ body => by simp [beq, beq_self body]
  | .concat parts => by simp [beq, beqAll_self parts]
  | .alt branches => by simp [beq, beqAll_self branches]

theorem beqAll_self : ∀ es : List Expr, beqAll es es = true
  | [] => rfl
  | e :: es => by simp [beqAll, beq_self e, beqAll_self es]

end

theorem isPrefix_commonStart {start xs ys : List Expr} (left : start <+: xs)
    (right : start <+: ys) : start <+: commonStart xs ys := by
  induction start generalizing xs ys with
  | nil => exact List.nil_prefix
  | cons e start ih =>
    obtain ⟨xs, rfl⟩ := left
    obtain ⟨ys, rfl⟩ := right
    have same : (e == e) = true := beq_self e
    simp only [List.cons_append, commonStart, same, if_true]
    exact List.prefix_cons_inj e |>.mpr (ih (List.prefix_append ..) (List.prefix_append ..))

theorem isPrefix_foldl_commonStart {start first : List Expr} {others : List (List Expr)}
    (left : start <+: first) (each : ∀ parts ∈ others, start <+: parts) :
    start <+: others.foldl commonStart first := by
  induction others generalizing first with
  | nil => exact left
  | cons next others ih =>
    obtain ⟨right, each⟩ := List.forall_mem_cons.mp each
    exact ih (isPrefix_commonStart left right) each

/-- What is in front of all branches is part of what they share. -/
theorem isPrefix_sharedStart {start es : List Expr} (nonempty : es ≠ [])
    (each : ∀ e ∈ es, ∃ parts, e = .concat parts ∧ start <+: parts) : start <+: sharedStart es := by
  obtain ⟨lists, read, begin⟩ : ∃ lists, es.mapM parts? = some lists ∧
      ∀ parts ∈ lists, start <+: parts := by
    clear nonempty
    induction es with
    | nil => exact ⟨[], rfl, by simp⟩
    | cons e es ih =>
      obtain ⟨⟨parts, rfl, first⟩, others⟩ := List.forall_mem_cons.mp each
      obtain ⟨lists, read, begin⟩ := ih others
      exact ⟨parts :: lists, by simp [List.mapM_cons, parts?, read],
        List.forall_mem_cons.mpr ⟨first, begin⟩⟩
  cases lists with
  | nil =>
    obtain ⟨e, others, rfl⟩ := List.exists_cons_of_ne_nil nonempty
    obtain ⟨_, absent, _⟩ := mem_of_mapM_eq_some read List.mem_cons_self
    contradiction
  | cons first others =>
    obtain ⟨left, right⟩ := List.forall_mem_cons.mp begin
    rw [sharedStart, read]
    exact isPrefix_foldl_commonStart left right

theorem joinLiterals_of_append {es fs : List Expr} (joined : joinLiterals (es ++ fs) = es ++ fs) :
    joinLiterals fs = fs := by
  induction es with
  | nil => exact joined
  | cons e es ih =>
    apply ih
    cases e with
    | literal s => exact (joinLiterals_literal_cons.mp joined).1
    | _ => exact (List.cons.inj joined).2

theorem sequence_singleton {e : Expr} (flat : flatParts e = [e]) : sequence [e] = e := by
  have joined : joinLiterals [e] = [e] := by
    cases e <;> rfl
  rw [sequence, List.flatMap_singleton, flat, joined]

/-- What is left of a reduced sequence is a sequence of the same parts. -/
theorem parts_of_rest {start others parts : List Expr}
    (reduced : (concat (start ++ others)).Reduced)
    (rest : sequence others = concat parts) : parts = others := by
  cases reduced with
  | concat _ _ flat joined =>
    have flat : ∀ p ∈ others, flatParts p = [p] := fun p member =>
      flat p (List.mem_append_right start member)
    rcases others with _ | ⟨e, _ | ⟨f, others⟩⟩
    · contradiction
    · have alone := flat e (by simp)
      rw [sequence_singleton alone] at rest
      subst rest
      have endless : nodesAll parts = nodesAll [concat parts] := congrArg nodesAll alone
      simp only [nodesAll, nodes] at endless
      omega
    · rw [sequence_eq_concat (by simp) flat (joinLiterals_of_append joined)] at rest
      cases rest
      rfl

/-- What is left of branches behind the start they share has no start in common. -/
theorem sharedStart_restsAfter {es : List Expr} (reduced : ∀ e ∈ es, e.Reduced) (nonempty : es ≠ [])
    (shared : sharedStart es ≠ []) : sharedStart (restsAfter (sharedStart es) es) = [] := by
  by_contra more
  have longer : sharedStart es ++ sharedStart (restsAfter (sharedStart es) es) <+:
      sharedStart es := by
    refine isPrefix_sharedStart nonempty fun e member => ?_
    obtain ⟨parts, rfl, ⟨others, whole⟩⟩ := sharedStart_isPrefix shared e member
    refine ⟨parts, rfl, ?_⟩
    have rest : sequence others ∈ restsAfter (sharedStart es) es := by
      refine List.mem_map.mpr ⟨_, member, ?_⟩
      rw [flatParts, ← whole, List.drop_left]
    obtain ⟨parts', same, further⟩ := sharedStart_isPrefix more _ rest
    rw [← whole] at member
    rw [parts_of_rest (reduced _ member) same] at further
    rw [← whole]
    exact (List.prefix_append_right_inj _).mpr further
  have length := longer.length_le
  rw [List.length_append] at length
  exact more (List.length_eq_zero_iff.mp (by omega))

end Construe.Pattern.Expr
