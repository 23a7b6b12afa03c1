import Construe.Proofs.Pattern.Acceptance
import Construe.Proofs.Pattern.Choices

/-! # Plain expressions

A plain expression, one without repetitions and names, is read back from its text, unless it is
nested too deeply. Compiled for whole texts, such an expression can only be too large. -/
namespace Construe.Pattern

/-! ### Plain expressions -/

namespace Expr

mutual

/-- No repetitions, no names, no conditions but the two ends of the text, and classes in the form
in which they are written. -/
def plain : Expr → Bool
  | .empty | .literal _ => true
  | .chars set => set.isCanonical
  | .bytes set => set.isEmpty
  | .look kind => kind == .textStart || kind == .textEnd
  | .rep _ _ _ _ => false
  | .capture _ name body => name.isNone && body.plain
  | .concat parts => plainAll parts
  | .alt branches => plainAll branches

def plainAll : List Expr → Bool
  | [] => true
  | e :: es => e.plain && plainAll es

end

theorem plainAll_iff {es : List Expr} : plainAll es = true ↔ ∀ e ∈ es, e.plain = true := by
  induction es with
  | nil => simp [plainAll]
  | cons e es ih => simp [plainAll, ih]

mutual

theorem legible_of_plain : ∀ {e : Expr}, e.plain = true → e.legible = true
  | .empty, _ | .literal _, _ | .look _, _ => rfl
  | .chars _, plain => plain
  | .bytes ⟨[]⟩, _ => rfl
  | .capture _ _ body, plain => legible_of_plain (e := body) (Bool.and_eq_true_iff.mp plain).2
  | .concat _, plain => legibleAll_of_plainAll plain
  | .alt _, plain => legibleAll_of_plainAll plain

theorem legibleAll_of_plainAll : ∀ {es : List Expr}, plainAll es = true → legibleAll es = true
  | [], _ => rfl
  | e :: es, plain => by
    obtain ⟨first, others⟩ := Bool.and_eq_true_iff.mp plain
    simp [legibleAll, legible_of_plain first, legibleAll_of_plainAll others]

end

mutual

theorem clean_of_plain : ∀ {e : Expr}, e.plain = true → e.Made .clean
  | .empty, _ => .empty
  | .literal _, _ => .literal
  | .chars _, plain => .chars (CharSet.proper_of_isCanonical plain)
  | .bytes ⟨[]⟩, _ => .bytes Makeup.lawful_clean.nothing
  | .look _, _ => .look
  | .capture _ _ _, plain => .capture (clean_of_plain (Bool.and_eq_true_iff.mp plain).2)
  | .concat _, plain => .concat (clean_of_plainAll plain)
  | .alt _, plain => .alt (clean_of_plainAll plain)

theorem clean_of_plainAll : ∀ {es : List Expr}, plainAll es = true → ∀ e ∈ es, e.Made .clean
  | [], _ => by simp
  | _ :: _, plain =>
    have both := Bool.and_eq_true_iff.mp plain
    List.forall_mem_cons.mpr ⟨clean_of_plain both.1, clean_of_plainAll both.2⟩

end

mutual

theorem namesOf_of_plain : ∀ {e : Expr}, e.plain = true → ReadState.namesOf e.captures = []
  | .empty, _ | .literal _, _ | .chars _, _ | .bytes _, _ | .look _, _ => rfl
  | .capture _ none body, plain => namesOf_of_plain (e := body) plain
  | .concat _, plain => namesOf_of_plainAll plain
  | .alt _, plain => namesOf_of_plainAll plain

theorem namesOf_of_plainAll : ∀ {es : List Expr}, plainAll es = true →
    ReadState.namesOf (capturesAll es) = []
  | [], _ => rfl
  | e :: es, plain => by
    obtain ⟨first, others⟩ := Bool.and_eq_true_iff.mp plain
    have first := namesOf_of_plain first
    have others := namesOf_of_plainAll others
    rw [ReadState.namesOf] at first others ⊢
    rw [capturesAll, List.filterMap_append, first, others]
    rfl

end

theorem fresh_of_plain {e : Expr} (plain : e.plain = true) : ReadState.Fresh [] e.captures := by
  have none := namesOf_of_plain plain
  exact ⟨by simp [none], by simp [none], by simp [none]⟩

/-! ### Nesting -/

mutual

/-- A bound on the nesting of the structure that an expression's text is read as. -/
def height : Expr → Nat
  | .empty | .literal _ | .chars _ | .bytes _ | .look _ => 3
  | .rep _ _ _ body => body.height + 2
  | .capture _ _ body => body.height + 1
  | .concat parts => heightAll parts + 2
  | .alt branches => heightAll branches + 2

def heightAll : List Expr → Nat
  | [] => 0
  | e :: es => max e.height (heightAll es)

end

theorem heightAll_le_iff {es : List Expr} : heightAll es ≤ n ↔ ∀ e ∈ es, e.height ≤ n := by
  induction es with
  | nil => simp [heightAll]
  | cons e es ih => simp [heightAll, ih]

end Expr

theorem Ast.depthAll_le_iff {items : List Ast} :
    Ast.depthAll items ≤ n ↔ ∀ item ∈ items, item.depth ≤ n := by
  induction items with
  | nil => simp [Ast.depthAll]
  | cons item items ih => simp [Ast.depthAll, ih]

theorem Ast.depth_ofItems_le (items : List Ast) :
    (Ast.ofItems items).depth ≤ Ast.depthAll items + 1 := by
  unfold Ast.ofItems
  split
  · simp [Ast.depth]
  · simp [Ast.depthAll]
  · exact Nat.le_refl _

theorem Ast.depth_ofBranches_le (branches : List Ast) :
    (Ast.ofBranches branches).depth ≤ Ast.depthAll branches + 1 := by
  unfold Ast.ofBranches
  split
  · simp [Ast.depth]
  · simp [Ast.depthAll]
  · exact Nat.le_refl _

theorem Ast.depth_suffixed_le (item : Ast) (bs : List Bounds) :
    (item.suffixed bs).depth ≤ item.depth + bs.length := by
  fun_induction Ast.suffixed item bs with
  | case1 => exact Nat.le_refl _
  | case2 item b => simp [Ast.depth]
  | case3 item b bs ih =>
    simp only [Ast.depth, List.length_cons] at ih ⊢
    omega
  | case4 item b c bs _ ih =>
    simp only [Ast.depth, List.length_cons] at ih ⊢
    omega

theorem ClassSet.depthAll_eq_zero {items : List ClassSet} (flat : ∀ item ∈ items, item.depth = 0) :
    ClassSet.depthAll items = 0 := by
  induction items with
  | nil => rfl
  | cons item items ih =>
    obtain ⟨first, others⟩ := List.forall_mem_cons.mp flat
    simp [ClassSet.depthAll, first, ih others]

theorem depth_retoldSet_le (set : CharSet) : (retoldSet set).depth ≤ 2 := by
  have flat : ∀ item ∈ set.ranges.flatMap rangeItems, item.depth = 0 := by
    intro item member
    obtain ⟨r, _, member⟩ := List.mem_flatMap.mp member
    unfold rangeItems at member
    dsimp only at member
    split at member
    · simp_all [ClassSet.depth]
    · split at member
      · rcases List.mem_pair.mp member with rfl | rfl <;> rfl
      · simp_all [ClassSet.depth]
  rw [retoldSet, Ast.depth]
  unfold ClassSet.ofItems
  split
  · simp [ClassSet.depth]
  · rename_i item one
    simp [flat item (by simp [one])]
  · simp [ClassSet.depth, ClassSet.depthAll_eq_zero flat]

namespace Expr

theorem depthAll_letters (text : List Char) :
    Ast.depthAll (text.map fun c => .letter ⟨c, false⟩) = 0 := by
  induction text with
  | nil => rfl
  | cons c text ih => simp [Ast.depthAll, Ast.depth, ih]

theorem depth_suffixed_le {item : Ast} (low : item.depth ≤ n) (bs : List Bounds) :
    (item.suffixed bs).depth ≤ n + bs.length := by
  have := item.depth_suffixed_le bs
  omega

theorem length_suffixes_le (min : Nat) (max : Option Nat) (greedy : Bool) :
    (suffixes min max greedy).length ≤ 2 := by
  rcases suffixes_eq min max greedy with ⟨none, _⟩ | ⟨_, ⟨_, one⟩ | ⟨_, two⟩⟩
  · simp [none]
  · simp [one]
  · simp [two]

mutual

theorem depth_retold_le : ∀ (e : Expr) (count : Nat) (bs : List Bounds),
    (e.retold count bs).depth ≤ e.height + bs.length
  | .empty, _, bs | .literal [], _, bs | .literal [_], _, bs =>
    depth_suffixed_le (by simp [Ast.depth, Ast.ofItems, height]) bs
  | .literal (c :: d :: text), _, bs => by
    refine depth_suffixed_le ?_ bs
    have items := Ast.depth_ofItems_le ((c :: d :: text).map fun c => .letter ⟨c, false⟩)
    rw [depthAll_letters] at items
    rw [Ast.depth, height]
    omega
  | .chars set, _, bs => by
    refine depth_suffixed_le ?_ bs
    have := depth_retoldSet_le set
    rw [height]
    split
    · decide
    · omega
  | .bytes set, _, bs => by
    refine depth_suffixed_le ?_ bs
    have := depth_retoldSet_le set
    rw [height]
    split
    · decide
    · rw [Ast.depth]
      omega
  | .look kind, _, bs => by
    refine depth_suffixed_le ?_ bs
    unfold Look.retold
    split <;> simp [Ast.depth, height]
  | .rep min max greedy body, count, bs => by
    have inner := depth_retold_le body count (suffixes min max greedy ++ bs)
    have few := length_suffixes_le min max greedy
    rw [List.length_append] at inner
    rw [retold, height]
    omega
  | .capture _ name body, count, bs => by
    refine depth_suffixed_le ?_ bs
    have inner := depth_retold_le body (count + 1) []
    rw [Ast.depth, height]
    simpa using inner
  | .concat parts, count, bs => by
    refine depth_suffixed_le ?_ bs
    have items := Ast.depth_ofItems_le (retoldAll count parts)
    have inner := depthAll_retoldAll_le parts count
    rw [Ast.depth, height]
    omega
  | .alt branches, count, bs => by
    refine depth_suffixed_le ?_ bs
    have items := Ast.depth_ofBranches_le (retoldAll count branches)
    have inner := depthAll_retoldAll_le branches count
    rw [Ast.depth, height]
    omega

theorem depthAll_retoldAll_le : ∀ (es : List Expr) (count : Nat),
    Ast.depthAll (retoldAll count es) ≤ heightAll es
  | [], _ => Nat.le_refl _
  | e :: es, count => by
    have first := depth_retold_le e count []
    have others := depthAll_retoldAll_le es (count + e.captures.length)
    simp only [retoldAll, Ast.depthAll, heightAll, List.length_nil] at first ⊢
    omega

end

/-- A plain expression is read back from its text, unless it is nested too deeply. -/
theorem exprOf_render {e : Expr} (plain : e.plain = true) (reduced : e.Reduced)
    (numbered : NumberedFrom 0 e.captures) (low : e.height ≤ nestLimit) :
    exprOf (String.ofList e.render) = .ok e := by
  have shallow := depth_retold_le e 0 []
  rw [List.length_nil] at shallow
  have structured := ofString_render_eq (clean_of_plain plain) (fresh_of_plain plain)
  rw [if_pos (by omega)] at structured
  exact exprOf_eq_ok.mpr ⟨_, {}, structured,
    expr_retold e 0 reduced (legible_of_plain plain) numbered⟩

/-! ### Plain sequences and choices -/

theorem plain_sequence {parts : List Expr} (each : ∀ p ∈ parts, p.plain = true) :
    (sequence parts).plain = true := by
  have flat : ∀ e ∈ parts, ∀ p ∈ flatParts e, p.plain = true := by
    intro e inside p member
    rcases mem_flatParts member with rfl | ⟨inner, rfl, member⟩
    · exact each p inside
    · exact plainAll_iff.mp (each _ inside) p member
  exact of_sequence (·.plain = true) flat (fun _ _ _ _ => rfl) rfl (fun _ plain => plain)
    fun _ plain => plainAll_iff.mpr plain

theorem plain_charClass {set : CharSet} (canonical : set.isCanonical = true) :
    (charClass set).plain = true := by
  unfold charClass
  split
  · rfl
  · split
    · rfl
    · exact canonical

theorem plain_choiceFrom (fuel : Nat) {es : List Expr} (each : ∀ e ∈ es, e.plain = true) :
    (choiceFrom fuel es).plain = true := by
  induction fuel generalizing es with
  | zero => exact plainAll_iff.mpr each
  | succ fuel ih =>
    have flat : ∀ e ∈ es.flatMap flatBranches, e.plain = true := by
      intro b member
      obtain ⟨e, inside, member⟩ := List.mem_flatMap.mp member
      rcases mem_flatBranches member with rfl | ⟨branches, rfl, member⟩
      · exact each b inside
      · exact plainAll_iff.mp (each _ inside) b member
    generalize built : choiceFrom (fuel + 1) es = c
    cases built ▸ choiceFrom_cases fuel es with
    | none => rfl
    | one single => exact flat c (by simp [single])
    | letters => exact plain_charClass (CharSet.isCanonical_ofList _)
    | classes read =>
      refine plain_charClass (CharSet.foldl_union rfl fun set member => ?_).1
      obtain ⟨e, inside, single⟩ := exists_mem_of_mapM read set member
      exact (made_of_legible (legible_of_plain (flat e inside))).isCanonical single
    | apart => exact plainAll_iff.mpr flat
    | shared two shared =>
      refine plain_sequence fun p member => ?_
      rcases List.mem_append.mp member with start | rest
      · obtain ⟨e, inside⟩ := List.exists_mem_of_length_pos (Nat.lt_of_lt_of_le Nat.two_pos two)
        obtain ⟨parts, rfl, shorter⟩ := sharedStart_isPrefix shared e inside
        exact plainAll_iff.mp (flat _ inside) p (shorter.subset start)
      · rw [List.mem_singleton.mp rest]
        refine ih fun r member => ?_
        obtain ⟨e, inside, rfl⟩ := List.mem_map.mp member
        obtain ⟨parts, rfl, _⟩ := sharedStart_isPrefix shared e inside
        exact plain_sequence fun p member =>
          plainAll_iff.mp (flat _ inside) p (List.mem_of_mem_drop member)

end Expr

/-! ### Compiling for whole texts -/

/-- A plain expression is compiled for whole texts as it is, unless that is too large. -/
theorem whole_of_plain {source : String} {e : Expr} (read : exprOf source = .ok e)
    (plain : e.plain = true) (numbered : NumberedFrom 0 e.captures)
    (low : (anchored e).height ≤ nestLimit) :
    whole source e.groupCount =
      if e.fits ∧ (anchored e).fits then
        .ok ⟨String.ofList (anchored e).render, e.groupCount, (anchored e).program⟩
      else .error (.invalid .tooLarge) := by
  have reread : exprOf (String.ofList (anchored e).render) = .ok (anchored e) :=
    Expr.exprOf_render (Expr.plain_sequence (by simpa [Expr.plain] using plain))
      (reduced_anchored (reduced_exprOf read)) (captures_anchored e ▸ numbered) low
  have count : (anchored e).groupCount = e.groupCount := by
    rw [Expr.groupCount_eq_highest, captures_anchored, Expr.groupCount_eq_highest]
  rw [whole_of_exprOf read, ofString_of_exprOf reread, count]
  by_cases bare : e.fits
  · by_cases ends : (anchored e).fits
    · simp [bare, ends, asInvalid, Except.mapError]
    · simp [bare, ends, asInvalid, Except.mapError]
  · simp [bare]

end Construe.Pattern
