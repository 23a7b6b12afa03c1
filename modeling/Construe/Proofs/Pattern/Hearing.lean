import Construe.Proofs.Pattern.Acceptance
import Construe.Proofs.Pattern.Spans

/-! # What is heard of an expression

The text of an expression is read back as one that may span less: where an option follows a suffix,
its question mark is taken for a mark of laziness and the option is lost. `Expr.heard` is the
expression without the options that get lost. The text of every expression is read back as
something that spans just what is heard of it; what is heard spans nothing that the expression does
not span, and of a legible expression all is heard. -/
namespace Construe.Pattern

open Build (bind_eq_ok)

/-! ### Suffixes -/

/-- What suffixes make of a stretch. Each repeats what is in front of it, but a question mark behind
a suffix that is ready for it is taken by that suffix. -/
def Suffixed : (ready : Bool) → List Bounds → (Nat → Nat → Prop) → Nat → Nat → Prop
  | _, [], R => R
  | ready, b :: bs, R =>
    if ready && b == (0, some 1) then Suffixed false bs R else Suffixed true bs (Repeats b R)

theorem suffixed_taken (bs : List Bounds) (R : Nat → Nat → Prop) :
    Suffixed true ((0, some 1) :: bs) R = Suffixed false bs R := rfl

theorem suffixed_repeats {ready : Bool} {b : Bounds} (apart : ready = true → b ≠ (0, some 1))
    (bs : List Bounds) (R : Nat → Nat → Prop) :
    Suffixed ready (b :: bs) R = Suffixed true bs (Repeats b R) := by
  rw [Suffixed, if_neg]
  rw [Bool.and_eq_true, beq_iff_eq]
  rintro ⟨ready, same⟩
  exact apart ready same

/-- In every text, a structure means an expression that spans these stretches. -/
def Ast.Conveys (ast : Ast) (R : Text → Nat → Nat → Prop) : Prop :=
  ∃ e, ast.expr {} = .ok (e, {}) ∧ e.Made .neat ∧ ∀ text a c, e.Spans text a c ↔ R text a c

namespace Ast.Conveys

variable {item : Ast} {R S : Text → Nat → Nat → Prop}

theorem congr (conveys : item.Conveys R) (same : ∀ text, R text = S text) : item.Conveys S := by
  obtain ⟨e, meant, made, spans⟩ := conveys
  exact ⟨e, meant, made, fun text => same text ▸ spans text⟩

theorem repetition {b : Bounds} (ordered : b.Ordered) (greedy : Bool) (conveys : item.Conveys R) :
    (Ast.repetition b.1 b.2 greedy item).Conveys fun text => Repeats b (R text) := by
  obtain ⟨e, meant, made, spans⟩ := conveys
  refine ⟨.repeated b.1 b.2 greedy e, ?_, Expr.made_repeated Makeup.lawful_neat ordered made,
    fun text a c => ?_⟩
  · rw [Ast.expr, meant]
    show Except.ok (Expr.repeated b.1 b.2 (greedy != false) e, _) = _
    rw [Bool.bne_false]
  · have same : e.Spans text = R text := funext₂ fun a c => propext (spans text a c)
    show _ ↔ Repeats b (R text) a c
    rw [← same]
    exact Expr.spans_repeated ordered made greedy a c

/-- Suffixes that are read for themselves. -/
theorem suffixed {bs : List Bounds} (conveys : item.Conveys R)
    (ordered : ∀ b ∈ bs, b.Ordered) :
    (item.suffixed bs).Conveys fun text => Suffixed false bs (R text) := by
  fun_induction Ast.suffixed item bs generalizing R with
  | case1 => exact conveys
  | case2 item b => exact conveys.repetition (ordered b (by simp)) true
  | case3 item b bs ih =>
    obtain ⟨first, others⟩ := List.forall_mem_cons.mp ordered
    exact ih (conveys.repetition first false) fun c member =>
      others c (List.mem_cons_of_mem _ member)
  | case4 item b c bs other ih =>
    obtain ⟨first, others⟩ := List.forall_mem_cons.mp ordered
    have apart : c ≠ (0, some 1) := other
    refine (ih (conveys.repetition first true) others).congr fun text => ?_
    rw [suffixed_repeats (by simp), suffixed_repeats (by simp), suffixed_repeats fun _ => apart]

theorem capture (conveys : item.Conveys R) (index : Nat) (name : Option String) :
    (Ast.group (.capture index name) item).Conveys R := by
  obtain ⟨e, meant, made, spans⟩ := conveys
  refine ⟨.capture index name e, ?_, .capture made, spans⟩
  rw [Ast.expr, meant]
  rfl

theorem plain (conveys : item.Conveys R) : (Ast.group (.plain []) item).Conveys R := by
  obtain ⟨e, meant, made, spans⟩ := conveys
  exact ⟨e, Expr.expr_plain meant, made, spans⟩

end Ast.Conveys

/-! ### Classes -/

theorem setAll_rangeItems {f : Flags} {r : CharRange} (proper : r.Proper)
    (takes : f.unicode = true ∨ r.hi ≤ 0x7F) {items : List ClassSet} {t : CharSet}
    (canonical : t.isCanonical = true) (others : ClassSet.setAll f items = .ok t) :
    ∃ s : CharSet, ClassSet.setAll f (rangeItems r ++ items) = .ok s ∧ s.isCanonical = true ∧
      ∀ n, s.covers n ↔ r.covers n = true ∨ t.covers n := by
  obtain ⟨m, n⟩ := r
  obtain ⟨order, low, high⟩ := proper
  dsimp only at order low high takes
  have single {m n : Nat} {t : CharSet} (order : m ≤ n) (low : m.isValidChar)
      (high : n.isValidChar) (canonical : t.isCanonical = true) :
      (t.union ⟨[⟨m, n⟩]⟩).isCanonical = true ∧
        ∀ k, (t.union ⟨[⟨m, n⟩]⟩).covers k ↔ t.covers k ∨ m ≤ k ∧ k ≤ n := by
    have one : CharSet.isCanonical ⟨[⟨m, n⟩]⟩ = true :=
      CharSet.ascendFrom_cons.mpr ⟨Nat.zero_le _, order, low, high, rfl⟩
    refine ⟨CharSet.isCanonical_union (CharSet.proper_of_isCanonical canonical)
      (CharSet.proper_of_isCanonical one), fun k => (CharSet.covers_union canonical one k).trans ?_⟩
    simp [CharSet.covers, CharSet.covers_iff]
  unfold rangeItems
  dsimp only
  split
  · rename_i same
    obtain rfl : m = n := by simpa using same
    obtain ⟨joined, members⟩ := single order low high canonical
    refine ⟨_, setAll_cons (set_letter_ofNat low takes) others, joined, fun k => ?_⟩
    rw [members, CharSet.covers_iff, or_comm]
  · split
    · rename_i pair
      have touching : m + 1 = n := by simpa using pair
      obtain ⟨second, last⟩ := single (Nat.le_refl n) high high canonical
      obtain ⟨joined, members⟩ := single (Nat.le_refl m) low low second
      refine ⟨_, setAll_cons (set_letter_ofNat low (takes.imp_right (by omega)))
        (setAll_cons (set_letter_ofNat high takes) others), joined, fun k => ?_⟩
      rw [members, last, CharSet.covers_iff]
      dsimp only
      constructor
      · rintro ((inside | bounds) | bounds)
        · exact .inr inside
        · exact .inl (by omega)
        · exact .inl (by omega)
      · rintro (bounds | inside)
        · rcases Nat.lt_or_ge k n with before | after
          · exact .inr (by omega)
          · exact .inl (.inr (by omega))
        · exact .inl (.inl inside)
    · obtain ⟨joined, members⟩ := single order low high canonical
      refine ⟨_, setAll_cons (set_range_ofNat low high order takes) others, joined, fun k => ?_⟩
      rw [members, CharSet.covers_iff, or_comm]

/-- The items of proper ranges make a set with the same members, in Unicode mode or if they are
ASCII. -/
theorem setAll_propers {f : Flags} {rs : List CharRange} (proper : ∀ r ∈ rs, r.Proper)
    (takes : ∀ r ∈ rs, f.unicode = true ∨ r.hi ≤ 0x7F) :
    ∃ s : CharSet, ClassSet.setAll f (rs.flatMap rangeItems) = .ok s ∧ s.isCanonical = true ∧
      ∀ n, s.covers n ↔ CharSet.covers ⟨rs⟩ n := by
  induction rs with
  | nil => exact ⟨.empty, rfl, rfl, fun n => Iff.rfl⟩
  | cons r rs ih =>
    obtain ⟨first, others⟩ := List.forall_mem_cons.mp proper
    obtain ⟨here, later⟩ := List.forall_mem_cons.mp takes
    obtain ⟨t, rest, canonical, members⟩ := ih others later
    obtain ⟨s, all, canonical, more⟩ := setAll_rangeItems first here canonical rest
    refine ⟨s, all, canonical, fun n => (more n).trans ?_⟩
    rw [members]
    simp [CharSet.covers]

theorem takesOne_congr {s t : CharSet} (same : ∀ n, s.covers n ↔ t.covers n) {text : Text}
    {a b : Spot} : TakesOne text s a b ↔ TakesOne text t a b := by
  simp only [TakesOne, CharSet.contains_iff, same]

theorem conveys_retoldSet {set : CharSet} (proper : set.Proper) :
    (retoldSet set).Conveys fun text a c => TakesOne text set (a, []) (c, []) := by
  obtain ⟨s, all, canonical, same⟩ := setAll_propers (f := {}) proper fun _ _ => .inl rfl
  refine ⟨.charClass s, Expr.expr_retoldSet all rfl,
    Expr.made_charClass Makeup.lawful_neat canonical, fun text a c => ?_⟩
  rw [Expr.spans_charClass canonical]
  exact takesOne_congr same

theorem conveys_retoldBytes {set : CharSet} (upto : CharSet.Upto 0x7F set) :
    (Ast.group (.plain [(.unicode, false)]) (retoldSet set)).Conveys fun text a c =>
      TakesOne text set (a, []) (c, []) := by
  obtain ⟨s, all, canonical, same⟩ := setAll_propers (f := Flags.change {} [(.unicode, false)])
    upto.proper fun r member => .inr (upto.below r member)
  refine ⟨.byteClass s, Expr.expr_plain (Expr.expr_retoldSet all rfl),
    Expr.made_byteClass Makeup.lawful_neat canonical, fun text a c => ?_⟩
  rw [Expr.spans_byteClass canonical]
  exact takesOne_congr same

theorem conveys_retoldEmptySet : retoldEmptySet.Conveys fun _ _ _ => False := by
  refine ⟨.fail, rfl, .bytes Makeup.lawful_neat.nothing, fun text a c => ?_⟩
  simp [Expr.fail, Expr.Spans, TakesOne, CharSet.contains, CharSet.empty]

/-! ### Lists -/

namespace Expr

theorem spansAll_congr {text : Text} : ∀ {es fs : List Expr},
    List.Forall₂ (fun e f => ∀ a c, e.Spans text a c ↔ f.Spans text a c) es fs →
    ∀ a c, SpansAll text es a c ↔ SpansAll text fs a c
  | _, _, .nil, _, _ => Iff.rfl
  | _, _, .cons first others, a, c => by
    simp only [SpansAll, first, spansAll_congr others]

theorem spansAny_congr {text : Text} : ∀ {es fs : List Expr},
    List.Forall₂ (fun e f => ∀ a c, e.Spans text a c ↔ f.Spans text a c) es fs →
    ∀ a c, SpansAny text es a c ↔ SpansAny text fs a c
  | _, _, .nil, _, _ => Iff.rfl
  | _, _, .cons first others, a, c => by
    simp only [SpansAny, first, spansAny_congr others]

/-! ### Hearing -/

/-- Whether the text is read as an item whose last suffix a question mark would make lazy. -/
def opens : Expr → Bool
  | .rep min max greedy body =>
    if min = 1 ∧ max = some 1 then body.opens
    else (greedy || max == some min) != (body.opens && (min, max) == (0, some 1))
  | _ => false

mutual

/-- The expression without the options whose question mark is taken by a suffix. -/
def heard : Expr → Expr
  | .rep min max greedy body =>
    if greedy && (body.opens && (min, max) == (0, some 1)) then body.heard
    else .rep min max greedy body.heard
  | .capture index name body => .capture index name body.heard
  | .concat parts => .concat (heardAll parts)
  | .alt branches => .alt (heardAll branches)
  | .empty => .empty
  | .literal text => .literal text
  | .chars set => .chars set
  | .bytes set => .bytes set
  | .look kind => .look kind

def heardAll : List Expr → List Expr
  | [] => []
  | e :: es => e.heard :: heardAll es

end

/-- The suffixes of a repetition, read behind those of its body. -/
theorem suffixed_heard (min : Nat) (max : Option Nat) (greedy : Bool) (body : Expr)
    (bs : List Bounds) (text : Text) :
    Suffixed body.opens (suffixes min max greedy ++ bs) (body.heard.Spans text) =
      Suffixed (rep min max greedy body).opens bs ((rep min max greedy body).heard.Spans text) := by
  have kept (apart : body.opens = true → (min, max) ≠ (0, some 1)) :
      (rep min max greedy body).heard.Spans text = Repeats (min, max) (body.heard.Spans text) := by
    rw [heard, if_neg]
    · rfl
    · simpa using fun _ => apart
  rcases suffixes_eq min max greedy with ⟨none, rfl, rfl⟩ | ⟨several, ⟨ready, one⟩ | ⟨lazy, two⟩⟩
  · have once : Repeats (1, some 1) (body.heard.Spans text) = body.heard.Spans text :=
      funext₂ fun a c => propext (repeats_once _ a c)
    rw [none, List.nil_append, kept (by simp), once, opens, if_pos ⟨rfl, rfl⟩]
  · have several : ¬ (min = 1 ∧ max = some 1) := by simpa using several
    by_cases taken : body.opens = true ∧ (min, max) = (0, some 1)
    · obtain ⟨opens, same⟩ := taken
      cases same
      obtain rfl : greedy = true := by simpa using ready
      simp [one, Expr.opens, heard, opens, suffixed_taken]
    · rw [not_and] at taken
      have free : (body.opens && (min, max) == (0, some 1)) = false := by simpa using taken
      rw [one, List.singleton_append, suffixed_repeats taken, kept taken, opens, if_neg several,
        ready, free]
      rfl
  · have several : ¬ (min = 1 ∧ max = some 1) := by simpa using several
    by_cases taken : body.opens = true ∧ (min, max) = (0, some 1)
    · obtain ⟨opens, same⟩ := taken
      cases same
      obtain rfl : greedy = false := by simpa using lazy
      simp [two, Expr.opens, heard, opens, suffixed_taken, suffixed_repeats, Spans]
    · rw [not_and] at taken
      have free : (body.opens && (min, max) == (0, some 1)) = false := by simpa using taken
      rw [two, List.cons_append, suffixed_repeats taken, List.singleton_append, suffixed_taken,
        kept taken, opens, if_neg several, lazy, free]
      rfl

theorem ordered_suffixes {min : Nat} {max : Option Nat} (ordered : Bounds.Ordered (min, max))
    (greedy : Bool) : ∀ b ∈ suffixes min max greedy, Bounds.Ordered b := by
  rcases suffixes_eq min max greedy with ⟨none, _⟩ | ⟨_, ⟨_, one⟩ | ⟨_, two⟩⟩
  · simp [none]
  · simpa [one] using ordered
  · simpa [two, Bounds.Ordered] using ordered

mutual

/-- The text of an expression is read back as what is heard of it. -/
theorem conveys_retold : ∀ (e : Expr) (count : Nat) (bs : List Bounds), e.Made .clean →
    e.Reduced → (∀ b ∈ bs, b.Ordered) →
    (e.retold count bs).Conveys fun text => Suffixed e.opens bs (e.heard.Spans text)
  | .empty, _, _, _, _, ordered =>
    Ast.Conveys.suffixed ⟨.empty, rfl, .empty, fun _ _ _ => Iff.rfl⟩ ordered
  | .literal [], _, _, _, reduced, _ => by
    cases reduced
    contradiction
  | .literal [c], _, _, _, _, ordered =>
    Ast.Conveys.suffixed ⟨.literal [c], expr_letter c, .literal, fun _ _ _ => Iff.rfl⟩ ordered
  | .literal (c :: d :: text), _, _, _, _, ordered => by
    refine Ast.Conveys.suffixed ⟨.literal (c :: d :: text), expr_plain (f := {}) ?_, .literal,
      fun _ _ _ => Iff.rfl⟩ ordered
    rw [ofItems_eq_concat (by simp), ← sequence_letters]
    exact expr_concat (exprAll_letters _)
  | .chars set, _, _, made, reduced, ordered => by
    cases made with
    | chars proper =>
      cases reduced with
      | chars some =>
        rw [retold, if_neg (by simp [some])]
        exact (conveys_retoldSet proper).suffixed ordered
  | .bytes set, _, _, made, _, ordered => by
    cases made with
    | bytes upto =>
      rw [retold]
      split
      · rename_i none
        refine Ast.Conveys.suffixed (conveys_retoldEmptySet.congr fun text => ?_) ordered
        have same : set.ranges = [] := by simpa [CharSet.isEmpty] using none
        funext a c
        simp [heard, Spans, TakesOne, CharSet.contains, same]
      · exact (conveys_retoldBytes upto).suffixed ordered
  | .look kind, _, _, _, _, ordered =>
    Ast.Conveys.suffixed ⟨.look kind, expr_look kind, .look, fun _ _ _ => Iff.rfl⟩ ordered
  | .rep min max greedy body, count, bs, made, reduced, ordered => by
    cases made with
    | rep fine made =>
      cases reduced with
      | rep reduced =>
        have inner := conveys_retold body count (suffixes min max greedy ++ bs) made reduced
          (List.forall_mem_append.mpr ⟨ordered_suffixes fine.ordered greedy, ordered⟩)
        exact inner.congr (suffixed_heard min max greedy body bs)
  | .capture index name body, count, bs, made, reduced, ordered => by
    cases made with
    | capture made =>
      cases reduced with
      | capture reduced =>
        have inner := conveys_retold body (count + 1) [] made reduced (by simp)
        exact (inner.capture (count + 1) name).suffixed ordered
  | .concat parts, count, bs, made, reduced, ordered => by
    cases made with
    | concat made =>
      cases reduced with
      | concat reduced several =>
        obtain ⟨fs, meant, neat, same⟩ := conveysAll_retold parts count made reduced
        refine Ast.Conveys.suffixed (.plain ⟨sequence fs, ?_, made_sequence neat,
          fun text a c => ?_⟩) ordered
        · rw [ofItems_eq_concat (by rwa [length_retoldAll])]
          exact expr_concat meant
        · rw [spans_sequence, spansAll_congr (same text)]
          rfl
  | .alt branches, count, bs, made, reduced, ordered => by
    cases made with
    | alt made =>
      cases reduced with
      | alt reduced several =>
        obtain ⟨fs, meant, neat, same⟩ := conveysAll_retold branches count made reduced
        refine Ast.Conveys.suffixed (.plain ⟨choice fs, ?_, made_choice Makeup.lawful_neat neat,
          fun text a c => ?_⟩) ordered
        · rw [ofBranches_eq_alternation (by rwa [length_retoldAll])]
          exact expr_alternation meant
        · rw [spans_choice fun f member => (neat f member).canonical, spansAny_congr (same text)]
          rfl

theorem conveysAll_retold : ∀ (es : List Expr) (count : Nat), (∀ e ∈ es, e.Made .clean) →
    (∀ e ∈ es, e.Reduced) → ∃ fs, Ast.exprAll {} (retoldAll count es) = .ok (fs, {}) ∧
      (∀ f ∈ fs, f.Made .neat) ∧ ∀ text, List.Forall₂
        (fun f h => ∀ a c, f.Spans text a c ↔ h.Spans text a c) fs (heardAll es)
  | [], _, _, _ => ⟨[], rfl, by simp, fun _ => .nil⟩
  | e :: es, count, made, reduced => by
    obtain ⟨here, later⟩ := List.forall_mem_cons.mp made
    obtain ⟨first, others⟩ := List.forall_mem_cons.mp reduced
    obtain ⟨f, meant, neat, same⟩ := conveys_retold e count [] here first (by simp)
    obtain ⟨fs, rest, neats, more⟩ := conveysAll_retold es (count + e.captures.length) later others
    refine ⟨f :: fs, ?_, List.forall_mem_cons.mpr ⟨neat, neats⟩,
      fun text => .cons (same text) (more text)⟩
    rw [retoldAll, Ast.exprAll, meant]
    simp only [bind, Except.bind]
    rw [rest]
    rfl

end

/-! ### What is lost -/

theorem Repeats.imp {R S : Nat → Nat → Prop} (also : ∀ a c, R a c → S a c) {b : Bounds} {a c : Nat}
    (repeats : Repeats b R a c) : Repeats b S a c := by
  obtain ⟨n, least, few, rounds⟩ := repeats
  refine ⟨n, least, few, ?_⟩
  clear least few
  induction n generalizing a with
  | zero => exact rounds
  | succ n ih =>
    obtain ⟨d, first, others⟩ := rounds
    exact ⟨d, also a d first, ih others⟩

mutual

/-- Nothing is heard that is not there. -/
theorem spans_of_heard {text : Text} : ∀ {e : Expr} {a c : Nat}, e.heard.Spans text a c →
    e.Spans text a c
  | .rep min max greedy body, a, c, spans => by
    rw [heard] at spans
    split at spans
    · rename_i taken
      obtain ⟨_, _, same⟩ : greedy = true ∧ body.opens = true ∧ (min, max) = (0, some 1) := by
        simpa using taken
      cases same
      exact ⟨1, by simp, by simp, Rounds.one.mpr (spans_of_heard spans)⟩
    · exact Repeats.imp (fun a c => spans_of_heard) spans
  | .capture _ _ body, _, _, spans => spans_of_heard (e := body) spans
  | .concat _, _, _, spans => spansAll_of_heard spans
  | .alt _, _, _, spans => spansAny_of_heard spans
  | .empty, _, _, spans | .literal _, _, _, spans | .chars _, _, _, spans
  | .bytes _, _, _, spans | .look _, _, _, spans => spans

theorem spansAll_of_heard {text : Text} : ∀ {es : List Expr} {a c : Nat},
    SpansAll text (heardAll es) a c → SpansAll text es a c
  | [], _, _, spans => spans
  | _ :: _, _, _, ⟨d, first, others⟩ => ⟨d, spans_of_heard first, spansAll_of_heard others⟩

theorem spansAny_of_heard {text : Text} : ∀ {es : List Expr} {a c : Nat},
    SpansAny text (heardAll es) a c → SpansAny text es a c
  | [], _, _, spans => spans
  | _ :: _, _, _, spans => spans.imp spans_of_heard spansAny_of_heard

end

theorem opens_of_legible : ∀ {e : Expr}, e.legible = true → e.endsOpen = false → e.opens = false
  | .rep min max greedy body, legible, closed => by
    obtain ⟨inner, _, apart⟩ := legible_rep.mp legible
    have lazy : (greedy || max == some min) = false := closed
    rw [opens, if_neg]
    · rw [lazy, Bool.false_bne, Bool.and_eq_false_imp, beq_eq_false_iff_ne]
      intro ready same
      rw [opens_of_legible inner (apart same)] at ready
      contradiction
    · rintro ⟨rfl, rfl⟩
      simp at lazy
  | .empty, _, _ | .literal _, _, _ | .chars _, _, _ | .bytes _, _, _ | .look _, _, _
  | .capture _ _ _, _, _ | .concat _, _, _ | .alt _, _, _ => rfl

mutual

/-- All of a legible expression is heard. -/
theorem heard_of_legible : ∀ {e : Expr}, e.legible = true → e.heard = e
  | .rep min max greedy body, legible => by
    obtain ⟨inner, _, apart⟩ := legible_rep.mp legible
    rw [heard, if_neg, heard_of_legible inner]
    simp only [Bool.and_eq_true, beq_iff_eq]
    rintro ⟨_, ready, same⟩
    rw [opens_of_legible inner (apart same)] at ready
    contradiction
  | .capture _ _ body, legible => by rw [heard, heard_of_legible (e := body) legible]
  | .concat _, legible => by rw [heard, heardAll_of_legibleAll legible]
  | .alt _, legible => by rw [heard, heardAll_of_legibleAll legible]
  | .empty, _ | .literal _, _ | .chars _, _ | .bytes _, _ | .look _, _ => rfl

theorem heardAll_of_legibleAll : ∀ {es : List Expr}, legibleAll es = true → heardAll es = es
  | [], _ => rfl
  | e :: es, legible => by
    obtain ⟨first, others⟩ := Bool.and_eq_true_iff.mp legible
    rw [heardAll, heard_of_legible first, heardAll_of_legibleAll others]

end

/-! ### Sequences -/

variable {text : Text}

theorem heardAll_append (es fs : List Expr) :
    heardAll (es ++ fs) = heardAll es ++ heardAll fs := by
  induction es with
  | nil => rfl
  | cons e es ih => rw [List.cons_append, heardAll, ih, heardAll, List.cons_append]

theorem spansAll_append (es fs : List Expr) (a b : Nat) :
    SpansAll text (es ++ fs) a b ↔ ∃ c, SpansAll text es a c ∧ SpansAll text fs c b := by
  induction es generalizing a with
  | nil => simp [SpansAll]
  | cons e es ih =>
    simp only [List.cons_append, SpansAll, ih]
    constructor
    · rintro ⟨c, first, d, others, rest⟩
      exact ⟨d, ⟨c, first, others⟩, rest⟩
    · rintro ⟨d, ⟨c, first, others⟩, rest⟩
      exact ⟨c, first, d, others, rest⟩

theorem spansAll_heard_flatParts (e : Expr) (a b : Nat) :
    SpansAll text (heardAll (flatParts e)) a b ↔ e.heard.Spans text a b := by
  have single (h : Expr) : SpansAll text [h] a b ↔ h.Spans text a b := by simp [SpansAll]
  cases e with
  | empty => rfl
  | concat parts => rfl
  | _ => exact single _

theorem spansAll_heard_flatMap (es : List Expr) (a b : Nat) :
    SpansAll text (heardAll (es.flatMap flatParts)) a b ↔ SpansAll text (heardAll es) a b := by
  induction es generalizing a with
  | nil => rfl
  | cons e es ih =>
    simp only [List.flatMap_cons, heardAll_append, spansAll_append, spansAll_heard_flatParts, ih,
      heardAll, SpansAll]

theorem spans_literal_append (s t : List Char) (a b : Nat) :
    (literal (s ++ t)).Spans text a b ↔
      ∃ c, (literal s).Spans text a c ∧ (literal t).Spans text c b := by
  simp only [Spans, takesLetters_append]
  constructor
  · rintro ⟨⟨c, m⟩, first, second⟩
    obtain ⟨rfl, first⟩ := takesLetters_notes.mp first
    exact ⟨c, first, second⟩
  · rintro ⟨c, first, second⟩
    exact ⟨(c, []), first, second⟩

theorem spansAll_heard_joinLiterals (es : List Expr) (a b : Nat) :
    SpansAll text (heardAll (joinLiterals es)) a b ↔ SpansAll text (heardAll es) a b := by
  fun_induction joinLiterals es generalizing a with
  | case1 => rfl
  | case2 s rest t rest' joined ih =>
    simp only [heardAll, SpansAll, ← ih, joined, heard, spans_literal_append]
    constructor
    · rintro ⟨d, ⟨c, first, next⟩, others⟩
      exact ⟨c, first, d, next, others⟩
    · rintro ⟨c, first, d, next, others⟩
      exact ⟨d, ⟨c, first, next⟩, others⟩
  | case3 s rest _ ih => simp only [heardAll, SpansAll, ih]
  | case4 e rest _ ih => simp only [heardAll, SpansAll, ih]

/-- What is heard of a sequence is what is heard of its parts, one after the other. -/
theorem spans_heard_sequence (parts : List Expr) (a b : Nat) :
    (sequence parts).heard.Spans text a b ↔ SpansAll text (heardAll parts) a b := by
  rw [← spansAll_heard_flatMap, ← spansAll_heard_joinLiterals, sequence]
  split
  · rename_i none
    simp [none, heard, heardAll, Spans, SpansAll]
  · rename_i e one
    simp [one, heardAll, SpansAll]
  · simp [heard, Spans]

end Expr

/-- Between the two ends of the text, what is heard is all of the text or nothing. -/
theorem spans_heard_anchored {text : Text} (e : Expr) (a b : Nat) :
    (anchored e).heard.Spans text a b ↔ a = 0 ∧ b = text.size ∧ e.heard.Spans text 0 text.size := by
  rw [anchored, Expr.spans_heard_sequence]
  simp only [Expr.heardAll, Expr.SpansAll, Expr.heard, Expr.Spans, Look.holds, beq_iff_eq]
  constructor
  · rintro ⟨c, ⟨rfl, rfl⟩, d, spans, _, ⟨rfl, rfl⟩, rfl⟩
    exact ⟨rfl, rfl, spans⟩
  · rintro ⟨rfl, rfl, spans⟩
    exact ⟨0, ⟨rfl, rfl⟩, _, spans, _, ⟨rfl, rfl⟩, rfl⟩

end Construe.Pattern
