import Construe.Proofs.Pattern.Choices

/-! # Stretches of the text

`Expr.Spans` says from which position of a text to which an expression leads, without the positions
that are noted on the way. A sequence, a choice, a class and a repetition, reduced or not, span what
their parts span together. -/
namespace Construe.Pattern

/-- From one to the other in as many rounds as the bounds allow. -/
def Repeats (b : Bounds) (R : β → β → Prop) (a c : β) : Prop :=
  ∃ n, b.1 ≤ n ∧ (∀ m ∈ b.2, n ≤ Nat.max b.1 m) ∧ Rounds R n a c

mutual

/-- From which position to which an expression leads. -/
def Expr.Spans (text : Text) : Expr → Nat → Nat → Prop
  | .empty, a, b => a = b
  | .literal cs, a, b => TakesLetters text cs (a, []) (b, [])
  | .chars set, a, b | .bytes set, a, b => TakesOne text set (a, []) (b, [])
  | .look kind, a, b => kind.holds text a = true ∧ a = b
  | .rep min max _ body, a, b => Repeats (min, max) (body.Spans text) a b
  | .capture _ _ body, a, b => body.Spans text a b
  | .concat parts, a, b => Expr.SpansAll text parts a b
  | .alt branches, a, b => Expr.SpansAny text branches a b

/-- Expressions lead on one after the other. -/
def Expr.SpansAll (text : Text) : List Expr → Nat → Nat → Prop
  | [], a, b => a = b
  | e :: es, a, b => ∃ c, e.Spans text a c ∧ Expr.SpansAll text es c b

/-- One of the expressions leads on. -/
def Expr.SpansAny (text : Text) : List Expr → Nat → Nat → Prop
  | [], _, _ => False
  | e :: es, a, b => e.Spans text a b ∨ Expr.SpansAny text es a b

end

variable {text : Text}

/-! ### Without notes -/

theorem takesLetters_notes {cs : List Char} {a b : Nat} {m m' : List (Nat × Nat)} :
    TakesLetters text cs (a, m) (b, m') ↔ m' = m ∧ TakesLetters text cs (a, []) (b, []) := by
  induction cs generalizing a with
  | nil => simp [TakesLetters, and_comm, eq_comm]
  | cons c cs ih =>
    simp only [TakesLetters, ih]
    tauto

theorem takesOne_notes {s : CharSet} {a b : Nat} {m m' : List (Nat × Nat)} :
    TakesOne text s (a, m) (b, m') ↔ m' = m ∧ TakesOne text s (a, []) (b, []) := by
  simp only [TakesOne, Prod.mk.injEq, and_true]
  tauto

theorem exists_rounds_iff {T : Spot → Spot → Prop} {S : Nat → Nat → Prop}
    (same : ∀ a b m, (∃ m', T (a, m) (b, m')) ↔ S a b) (n : Nat) {a b : Nat}
    {m : List (Nat × Nat)} : (∃ m', Rounds T n (a, m) (b, m')) ↔ Rounds S n a b := by
  induction n generalizing a m with
  | zero => simp [Rounds]
  | succ n ih =>
    simp only [Rounds]
    constructor
    · rintro ⟨m', ⟨c, k⟩, first, others⟩
      exact ⟨c, (same a c m).mp ⟨k, first⟩, ih.mp ⟨m', others⟩⟩
    · rintro ⟨c, first, others⟩
      obtain ⟨k, first⟩ := (same a c m).mpr first
      obtain ⟨m', others⟩ := ih.mpr others
      exact ⟨m', ⟨c, k⟩, first, others⟩

namespace Expr

mutual

/-- Whatever has been noted before, an expression leads on from where it spans. -/
theorem exists_takes_iff : ∀ (e : Expr) (a b : Nat) (m : List (Nat × Nat)),
    (∃ m', e.Takes text (a, m) (b, m')) ↔ e.Spans text a b
  | .empty, a, b, m => by simp [Takes, Spans]
  | .literal cs, a, b, m => by
    simp only [Takes, Spans]
    rw [exists_congr fun m' => takesLetters_notes]
    simp
  | .chars s, a, b, m | .bytes s, a, b, m => by
    simp only [Takes, Spans]
    rw [exists_congr fun m' => takesOne_notes]
    simp
  | .look kind, a, b, m => by simp [Takes, Spans]
  | .rep min max _ body, a, b, m => by
    simp only [Takes, Spans, Repeats]
    rw [exists_comm]
    refine exists_congr fun n => ?_
    simp only [exists_and_left, exists_rounds_iff (exists_takes_iff body)]
  | .capture index _ body, a, b, m => by
    simp only [Takes, Spans]
    constructor
    · rintro ⟨m', ⟨c, k⟩, inner, same⟩
      cases same
      exact (exists_takes_iff body a c _).mp ⟨k, inner⟩
    · intro inner
      obtain ⟨k, inner⟩ := (exists_takes_iff body a b ((2 * index, a) :: m)).mpr inner
      exact ⟨_, (b, k), inner, rfl⟩
  | .concat parts, a, b, m => exists_takesAll_iff parts a b m
  | .alt branches, a, b, m => exists_takesAny_iff branches a b m

theorem exists_takesAll_iff : ∀ (es : List Expr) (a b : Nat) (m : List (Nat × Nat)),
    (∃ m', TakesAll text es (a, m) (b, m')) ↔ SpansAll text es a b
  | [], a, b, m => by simp [TakesAll, SpansAll]
  | e :: es, a, b, m => by
    simp only [TakesAll, SpansAll]
    constructor
    · rintro ⟨m', ⟨c, k⟩, first, others⟩
      exact ⟨c, (exists_takes_iff e a c m).mp ⟨k, first⟩,
        (exists_takesAll_iff es c b k).mp ⟨m', others⟩⟩
    · rintro ⟨c, first, others⟩
      obtain ⟨k, first⟩ := (exists_takes_iff e a c m).mpr first
      obtain ⟨m', others⟩ := (exists_takesAll_iff es c b k).mpr others
      exact ⟨m', (c, k), first, others⟩

theorem exists_takesAny_iff : ∀ (es : List Expr) (a b : Nat) (m : List (Nat × Nat)),
    (∃ m', TakesAny text es (a, m) (b, m')) ↔ SpansAny text es a b
  | [], a, b, m => by simp [TakesAny, SpansAny]
  | e :: es, a, b, m => by
    simp only [TakesAny, SpansAny, exists_or, exists_takes_iff e, exists_takesAny_iff es]

end

/-- Expressions that take the same span the same. -/
theorem spans_congr {e : Expr} {T : Spot → Spot → Prop} {S : Nat → Nat → Prop}
    (takes : ∀ a b, e.Takes text a b ↔ T a b)
    (spans : ∀ a b, (∃ m', T (a, []) (b, m')) ↔ S a b) (a b : Nat) :
    e.Spans text a b ↔ S a b := by
  rw [← exists_takes_iff e a b [], ← spans]
  exact exists_congr fun m' => takes _ _

/-! ### Sequences, classes and choices -/

theorem spans_sequence (parts : List Expr) (a b : Nat) :
    (sequence parts).Spans text a b ↔ SpansAll text parts a b :=
  spans_congr (takes_sequence parts) (fun a b => exists_takesAll_iff parts a b []) a b

theorem exists_takesOne_iff (s : CharSet) (a b : Nat) :
    (∃ m', TakesOne text s (a, []) (b, m')) ↔ TakesOne text s (a, []) (b, []) := by
  rw [exists_congr fun m' => takesOne_notes]
  simp

theorem spans_charClass {s : CharSet} (canonical : s.isCanonical = true) (a b : Nat) :
    (charClass s).Spans text a b ↔ TakesOne text s (a, []) (b, []) :=
  spans_congr (takes_charClass canonical) (exists_takesOne_iff s) a b

/-- A class outside Unicode mode differs from one inside in name only. -/
theorem takes_byteClass (s : CharSet) (a b : Spot) :
    (byteClass s).Takes text a b ↔ (charClass s).Takes text a b := by
  unfold byteClass charClass
  split
  · rfl
  · split <;> rfl

theorem spans_byteClass {s : CharSet} (canonical : s.isCanonical = true) (a b : Nat) :
    (byteClass s).Spans text a b ↔ TakesOne text s (a, []) (b, []) :=
  spans_congr (fun a b => (takes_byteClass s a b).trans (takes_charClass canonical a b))
    (exists_takesOne_iff s) a b

theorem spans_choice {es : List Expr} (made : ∀ e ∈ es, e.Made .canonical) (a b : Nat) :
    (choice es).Spans text a b ↔ SpansAny text es a b :=
  spans_congr (takes_choiceFrom _ made) (fun a b => exists_takesAny_iff es a b []) a b

end Expr

/-! ### Repetitions -/

/-- Classes in the form in which their ranges are written, and bounds in their order. -/
def Makeup.neat : Makeup where
  classes s := s.isCanonical = true
  bytes s := s.isCanonical = true
  bounds := Bounds.Ordered

theorem Makeup.lawful_neat : neat.Lawful where
  proper := CharSet.proper_of_isCanonical
  proper_bytes := CharSet.proper_of_isCanonical
  joined canonical := canonical
  nothing := rfl
  ordered ordered := ordered
  option := by simp [neat, Bounds.Ordered]

theorem Expr.Made.canonical {e : Expr} (neat : e.Made .neat) : e.Made .canonical := by
  refine neat.imp ?_ ?_ ?_
  · exact fun _ canonical => canonical
  · exact fun _ canonical => canonical
  · exact fun _ _ => trivial

theorem repeats_null (R : β → β → Prop) (a c : β) : Repeats (0, some 0) R a c ↔ a = c := by
  constructor
  · rintro ⟨n, _, few, rounds⟩
    obtain rfl : n = 0 := by simpa using few 0 rfl
    exact rounds
  · rintro rfl
    exact ⟨0, by simp [Rounds]⟩

theorem repeats_once (R : β → β → Prop) (a c : β) : Repeats (1, some 1) R a c ↔ R a c := by
  constructor
  · rintro ⟨n, least, few, rounds⟩
    obtain rfl : n = 1 := by
      have := few 1 rfl
      simp only [Nat.max_self] at this
      omega
    exact Rounds.one.mp rounds
  · intro round
    exact ⟨1, Nat.le_refl 1, by simp, Rounds.one.mpr round⟩

/-- Rounds that lead nowhere. -/
theorem rounds_still {R : β → β → Prop} (still : ∀ a c, R a c → a = c) {n : Nat} {a c : β} :
    Rounds R n a c ↔ a = c ∧ (n = 0 ∨ R a a) := by
  induction n generalizing a with
  | zero => simp [Rounds]
  | succ n ih =>
    simp only [Rounds, ih]
    constructor
    · rintro ⟨d, first, rfl, _⟩
      obtain rfl := still a d first
      exact ⟨rfl, .inr first⟩
    · rintro ⟨rfl, none | first⟩
      · contradiction
      · exact ⟨a, first, rfl, .inr first⟩

namespace Expr

mutual

/-- What can take nothing leads nowhere. -/
theorem still_of_maxLength? : ∀ {e : Expr} {a b : Nat}, e.Made .neat → e.maxLength? = some 0 →
    e.Spans text a b → a = b
  | .empty, _, _, _, _, spans => spans
  | .literal [], _, _, _, _, spans => congrArg Prod.fst spans
  | .look _, _, _, _, _, spans => spans.2
  | .chars s, _, _, _, hollow, _ | .bytes s, _, _, _, hollow, _ => by
    rw [maxLength?] at hollow
    split at hollow <;> contradiction
  | .rep min max _ body, _, _, made, hollow, ⟨n, _, few, rounds⟩ => by
    cases made with
    | rep ordered made =>
      obtain ⟨inner, length, high, some, zero⟩ : ∃ inner, body.maxLength? = some inner ∧
          ∃ high, max = some high ∧ inner * high = 0 := by
        simpa [maxLength?, Option.bind_eq_some_iff] using hollow
      rcases Nat.mul_eq_zero.mp zero with rfl | rfl
      · exact (rounds_still fun a c => still_of_maxLength? made length).mp rounds |>.1
      · subst some
        obtain rfl : min = 0 := Nat.le_zero.mp (ordered 0 rfl)
        exact (repeats_null _ _ _).mp ⟨n, Nat.zero_le n, few, rounds⟩
  | .capture _ _ body, _, _, made, hollow, spans => by
    cases made with
    | capture made => exact still_of_maxLength? (e := body) made hollow spans
  | .concat parts, _, _, made, hollow, spans =>
    still_of_sumMax (fun _ member => made.of_mem_concat member) hollow spans
  | .alt branches, _, _, made, hollow, spans =>
    still_of_greatestMax (fun _ member => made.of_mem_alt member) hollow spans

theorem still_of_sumMax : ∀ {es : List Expr} {a b : Nat}, (∀ e ∈ es, e.Made .neat) →
    sumMax es = some 0 → SpansAll text es a b → a = b
  | [], _, _, _, _, spans => spans
  | e :: es, _, _, made, hollow, ⟨c, first, others⟩ => by
    obtain ⟨here, later⟩ := List.forall_mem_cons.mp made
    obtain ⟨x, length, y, sum, zero⟩ : ∃ x, e.maxLength? = some x ∧
        ∃ y, sumMax es = some y ∧ x + y = 0 := by
      simpa [sumMax, Option.bind_eq_some_iff] using hollow
    obtain ⟨rfl, rfl⟩ := Nat.add_eq_zero_iff.mp zero
    exact (still_of_maxLength? here length first).trans (still_of_sumMax later sum others)

theorem still_of_greatestMax : ∀ {es : List Expr} {a b : Nat}, (∀ e ∈ es, e.Made .neat) →
    greatestMax es = some 0 → SpansAny text es a b → a = b
  | [], _, _, _, _, spans => spans.elim
  | [e], _, _, made, hollow, spans =>
    still_of_maxLength? (made e List.mem_cons_self) hollow (spans.resolve_right id)
  | e :: f :: es, _, _, made, hollow, spans => by
    obtain ⟨here, later⟩ := List.forall_mem_cons.mp made
    obtain ⟨x, length, y, greatest, zero⟩ : ∃ x, e.maxLength? = some x ∧
        ∃ y, greatestMax (f :: es) = some y ∧ max x y = 0 := by
      simpa [greatestMax, Option.bind_eq_some_iff] using hollow
    obtain ⟨rfl, rfl⟩ : x = 0 ∧ y = 0 := by omega
    exact spans.elim (still_of_maxLength? here length) (still_of_greatestMax later greatest)

end

/-- A repetition spans as many rounds as its bounds allow, reduced or not. -/
theorem spans_repeated {b : Bounds} (ordered : b.Ordered) {body : Expr} (made : body.Made .neat)
    (greedy : Bool) (a c : Nat) :
    (repeated b.1 b.2 greedy body).Spans text a c ↔ Repeats b (body.Spans text) a c := by
  rcases repeated_ordered ordered greedy body with
    ⟨rfl, null⟩ | ⟨rfl | ⟨hollow, needed⟩, one⟩ | ⟨hollow, free, option⟩ | many
  · rw [null, repeats_null]
    rfl
  · rw [one, repeats_once]
  · have rounds (n : Nat) : Rounds (body.Spans text) n a c ↔
        a = c ∧ (n = 0 ∨ body.Spans text a a) :=
      rounds_still fun a c => still_of_maxLength? made hollow
    rw [one]
    constructor
    · intro spans
      obtain rfl := still_of_maxLength? made hollow spans
      exact ⟨b.1, Nat.le_refl _, fun m _ => Nat.le_max_left _ m, (rounds _).mpr ⟨rfl, .inr spans⟩⟩
    · rintro ⟨n, least, _, taken⟩
      obtain ⟨rfl, none | spans⟩ := (rounds n).mp taken
      · omega
      · exact spans
  · -- Without rounds that lead somewhere it does not matter how many there are.
    have stays (b : Bounds) (free : b.1 = 0) : Repeats b (body.Spans text) a c ↔ a = c := by
      constructor
      · rintro ⟨n, _, _, taken⟩
        exact ((rounds_still fun a c => still_of_maxLength? made hollow).mp taken).1
      · rintro rfl
        exact ⟨0, by simp [free], by simp, rfl⟩
    rw [option, Spans, stays _ rfl, stays b free]
  · rw [many]
    rfl

end Expr

end Construe.Pattern
