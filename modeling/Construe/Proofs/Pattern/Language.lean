import Mathlib
import Construe.Proofs.Pattern.Exploration

/-! # What expressions take

An expression leads from spots of a text to spots of the text: `Expr.Takes` says so by the form of
the expression, without a program. The code of an expression realizes just that, wherever it is laid
out: threads get from its entry to its exit in this way and in no other. So a search for an
expression finds what the expression takes, and finds something whenever there is something to
take. -/
namespace Construe.Pattern

/-- A position in the text, with the positions noted on the way there. -/
abbrev Spot := Nat × List (Nat × Nat)

/-- From one to the other in a number of rounds. -/
def Rounds (R : β → β → Prop) : Nat → β → β → Prop
  | 0, a, b => a = b
  | n + 1, a, b => ∃ c, R a c ∧ Rounds R n c b

/-- The characters stand in the text, one after the other. -/
def TakesLetters (text : Text) : List Char → Spot → Spot → Prop
  | [], a, b => a = b
  | c :: cs, a, b => text[a.1]? = some c ∧ TakesLetters text cs (a.1 + 1, a.2) b

/-- A character of the set stands in the text. -/
def TakesOne (text : Text) (set : CharSet) (a b : Spot) : Prop :=
  ∃ c, text[a.1]? = some c ∧ set.contains c = true ∧ b = (a.1 + 1, a.2)

mutual

/-- From which spot to which an expression leads. -/
def Expr.Takes (text : Text) : Expr → Spot → Spot → Prop
  | .empty, a, b => a = b
  | .literal cs, a, b => TakesLetters text cs a b
  | .chars set, a, b | .bytes set, a, b => TakesOne text set a b
  | .look kind, a, b => kind.holds text a.1 = true ∧ a = b
  | .rep min max _ body, a, b =>
    ∃ n, min ≤ n ∧ (∀ m ∈ max, n ≤ Nat.max min m) ∧ Rounds (body.Takes text) n a b
  | .capture index _ body, a, b =>
    ∃ c, body.Takes text (a.1, (2 * index, a.1) :: a.2) c ∧ b = (c.1, (2 * index + 1, c.1) :: c.2)
  | .concat parts, a, b => Expr.TakesAll text parts a b
  | .alt branches, a, b => Expr.TakesAny text branches a b

/-- Expressions lead on one after the other. -/
def Expr.TakesAll (text : Text) : List Expr → Spot → Spot → Prop
  | [], a, b => a = b
  | e :: es, a, b => ∃ c, e.Takes text a c ∧ Expr.TakesAll text es c b

/-- One of the expressions leads on. -/
def Expr.TakesAny (text : Text) : List Expr → Spot → Spot → Prop
  | [], _, _ => False
  | e :: es, a, b => e.Takes text a b ∨ Expr.TakesAny text es a b

end

theorem Rounds.add {R : β → β → Prop} {m n : Nat} :
    Rounds R (m + n) a b ↔ ∃ c, Rounds R m a c ∧ Rounds R n c b := by
  induction m generalizing a with
  | zero => simp [Rounds]
  | succ m ih =>
    rw [Nat.add_right_comm]
    simp only [Rounds, ih]
    constructor
    · rintro ⟨c, first, d, rounds, rest⟩
      exact ⟨d, ⟨c, first, rounds⟩, rest⟩
    · rintro ⟨d, ⟨c, first, rounds⟩, rest⟩
      exact ⟨c, first, d, rounds, rest⟩

theorem Rounds.one {R : β → β → Prop} : Rounds R 1 a b ↔ R a b := by
  simp [Rounds]

/-! ### Code that realizes a relation -/

/-- A thread at an address, in a spot of the text. -/
def Spot.thread (address start : Nat) (a : Spot) : Thread := ⟨address, a.1, start, a.2⟩

namespace Program

variable {p : Program} {text : Text}

/-- The code stands in the program from an address on. -/
def Holds (p : Program) (base : Nat) (code : List Node) : Prop :=
  ∀ i node, code[i]? = some node → p.nodes[base + i]? = some node

theorem Holds.append {first rest : List Node} (holds : p.Holds base (first ++ rest)) :
    p.Holds base first ∧ p.Holds (base + first.length) rest := by
  refine ⟨fun i node found => holds i node ?_, fun i node found => ?_⟩
  · have inside := (List.getElem?_eq_some_iff.mp found).1
    rwa [List.getElem?_append_left inside]
  · rw [Nat.add_assoc]
    refine holds _ node ?_
    rwa [List.getElem?_append_right (by omega), Nat.add_sub_cancel_left]

theorem Holds.cons {node : Node} {rest : List Node} (holds : p.Holds base (node :: rest)) :
    p.nodes[base]? = some node ∧ p.Holds (base + 1) rest :=
  have split : p.Holds base ([node] ++ rest) := holds
  ⟨holds 0 node rfl, split.append.2⟩

/-- Threads get from `base` to `exit` as the relation says, and whoever comes to the end of the
program from `base` passes `exit` so. -/
structure Realizes (p : Program) (text : Text) (base exit : Nat) (R : Spot → Spot → Prop) :
    Prop where
  follows {a b : Spot} : R a b → ∀ start, ∃ n,
    p.Runs text n (a.thread base start) (b.thread exit start)
  leads {n : Nat} {a : Spot} {start : Nat} {t : Thread} :
    p.Runs text n (a.thread base start) t → p.Accepts t →
    ∃ m ≤ n, ∃ b : Spot, R a b ∧ p.Runs text m (b.thread exit start) t

namespace Realizes

variable {R S : Spot → Spot → Prop}

theorem congr (realizes : p.Realizes text base exit R) (same : ∀ a b, R a b ↔ S a b) :
    p.Realizes text base exit S := by
  obtain rfl : R = S := funext fun a => funext fun b => propext (same a b)
  exact realizes

/-- Nothing is to be done where the exit is the entry. -/
theorem refl (p : Program) (text : Text) (base : Nat) : p.Realizes text base base Eq where
  follows := by
    rintro a _ rfl start
    exact ⟨0, .here _⟩
  leads runs _ := ⟨_, Nat.le_refl _, _, rfl, runs⟩

theorem seq (first : p.Realizes text base middle R) (next : p.Realizes text middle exit S) :
    p.Realizes text base exit fun a b => ∃ c, R a c ∧ S c b where
  follows := by
    rintro a b ⟨c, one, two⟩ start
    obtain ⟨m, begun⟩ := first.follows one start
    obtain ⟨n, ended⟩ := next.follows two start
    exact ⟨m + n, begun.trans ended⟩
  leads runs accepts := by
    obtain ⟨m, fewer, c, one, rest⟩ := first.leads runs accepts
    obtain ⟨k, fewer', b, two, rest⟩ := next.leads rest accepts
    exact ⟨k, fewer'.trans fewer, b, ⟨c, one, two⟩, rest⟩

/-- A thread at a node other than the end has come there before taking a step. -/
theorem leads_step {node : Node} (there : p.nodes[base]? = some node) (goes : node ≠ .accept)
    (runs : p.Runs text n (Spot.thread base start a) t) (accepts : p.Accepts t) :
    ∃ m, n = m + 1 ∧ ∃ u ∈ node.step text (a.thread base start), p.Runs text m u t := by
  cases runs with
  | here =>
    have final : p.nodes[base]? = some .accept := accepts
    rw [there] at final
    exact absurd (Option.some.inj final) goes
  | step head rest =>
    obtain ⟨other, found, member⟩ := head
    have found : p.nodes[base]? = some other := found
    rw [there] at found
    cases found
    exact ⟨_, rfl, _, member, rest⟩

theorem follows_step {node : Node} (there : p.nodes[base]? = some node)
    (member : u ∈ node.step text (Spot.thread base start a)) :
    p.Runs text 1 (a.thread base start) u := .step ⟨node, there, member⟩ (.here u)

/-- A single node with one way out. -/
theorem node {node : Node} (there : p.nodes[base]? = some node) (goes : node ≠ .accept)
    (steps : ∀ start a u, u ∈ node.step text (a.thread base start) ↔
      ∃ b, R a b ∧ u = b.thread exit start) : p.Realizes text base exit R where
  follows := by
    intro a b related start
    exact ⟨1, follows_step there ((steps start a _).mpr ⟨b, related, rfl⟩)⟩
  leads runs accepts := by
    obtain ⟨m, rfl, u, member, rest⟩ := leads_step there goes runs accepts
    obtain ⟨b, related, rfl⟩ := (steps _ _ u).mp member
    exact ⟨m, Nat.le_succ m, b, related, rest⟩

theorem jump (there : p.nodes[base]? = some (.split [exit])) : p.Realizes text base exit Eq := by
  refine node there (by simp) fun start a u => ?_
  simp [Node.step, Spot.thread]

theorem take {set : CharSet} (there : p.nodes[base]? = some (.take set exit)) :
    p.Realizes text base exit (TakesOne text set) := by
  refine node there (by simp) fun start a u => ?_
  simp only [Node.step, Spot.thread, TakesOne]
  cases text[a.1]? with
  | none => simp
  | some c => by_cases inside : set.contains c <;> simp [inside]

theorem check (there : p.nodes[base]? = some (.check kind exit)) :
    p.Realizes text base exit fun a b => kind.holds text a.1 = true ∧ a = b := by
  refine node there (by simp) fun start a u => ?_
  by_cases holds : kind.holds text a.1 <;> simp [Node.step, Spot.thread, holds]

theorem mark (there : p.nodes[base]? = some (.mark slot exit)) :
    p.Realizes text base exit fun a b => b = (a.1, (slot, a.1) :: a.2) := by
  refine node there (by simp) fun start a u => ?_
  simp [Node.step, Spot.thread]

/-! ### Loops -/

theorem mem_step_loop {greedy : Bool} :
    u ∈ (Node.loop greedy body exit).step text (Spot.thread base start a) ↔
      u = a.thread body start ∨ u = a.thread exit start := by
  cases greedy <;> simp [Node.loop, Node.step, Spot.thread, or_comm]

theorem enters {greedy : Bool} (there : p.nodes[base]? = some (.loop greedy body exit))
    (text : Text) (start : Nat) (a : Spot) :
    p.Runs text 1 (a.thread base start) (a.thread body start) :=
  follows_step there (mem_step_loop.mpr (.inl rfl))

theorem leaves {greedy : Bool} (there : p.nodes[base]? = some (.loop greedy body exit))
    (text : Text) (start : Nat) (a : Spot) :
    p.Runs text 1 (a.thread base start) (a.thread exit start) :=
  follows_step there (mem_step_loop.mpr (.inr rfl))

theorem leads_loop {greedy : Bool} (there : p.nodes[base]? = some (.loop greedy body exit))
    (runs : p.Runs text n (Spot.thread base start a) t) (accepts : p.Accepts t) :
    ∃ m, n = m + 1 ∧
      (p.Runs text m (a.thread body start) t ∨ p.Runs text m (a.thread exit start) t) := by
  obtain ⟨m, same, u, member, rest⟩ := leads_step there (by simp [Node.loop]) runs accepts
  rcases mem_step_loop.mp member with rfl | rfl
  · exact ⟨m, same, .inl rest⟩
  · exact ⟨m, same, .inr rest⟩

/-- A loop back to a body that ends in it. -/
theorem star {greedy : Bool} (there : p.nodes[base]? = some (.loop greedy body exit))
    (realizes : p.Realizes text body base R) :
    p.Realizes text base exit fun a b => ∃ n, Rounds R n a b where
  follows := by
    rintro a b ⟨rounds, taken⟩ start
    induction rounds generalizing a with
    | zero =>
      obtain rfl : a = b := taken
      exact ⟨1, leaves there text start a⟩
    | succ rounds ih =>
      obtain ⟨c, one, others⟩ := taken
      obtain ⟨m, round⟩ := realizes.follows one start
      obtain ⟨k, rest⟩ := ih others
      exact ⟨1 + (m + k), (enters there text start a).trans (round.trans rest)⟩
  leads := by
    intro n a start t runs accepts
    -- Every round through the body takes at least the step into it.
    induction n using Nat.strong_induction_on generalizing a with
    | _ n ih =>
      obtain ⟨m, rfl, inside | outside⟩ := leads_loop there runs accepts
      · obtain ⟨k, fewer, c, one, rest⟩ := realizes.leads inside accepts
        obtain ⟨l, fewer', b, ⟨rounds, others⟩, rest⟩ := ih k (by omega) rest
        exact ⟨l, by omega, b, ⟨rounds + 1, c, one, others⟩, rest⟩
      · exact ⟨m, by omega, a, ⟨0, rfl⟩, outside⟩

/-- A body with a loop at its end. -/
theorem plus {greedy : Bool} (realizes : p.Realizes text body back R)
    (there : p.nodes[back]? = some (.loop greedy body exit)) :
    p.Realizes text body exit fun a b => ∃ n, Rounds R (n + 1) a b := by
  refine (realizes.seq (star there realizes)).congr fun a b => ?_
  constructor
  · rintro ⟨c, one, n, others⟩
    exact ⟨n, c, one, others⟩
  · rintro ⟨n, c, one, others⟩
    exact ⟨c, one, n, others⟩

/-- What may be skipped. -/
theorem optional {greedy : Bool} (there : p.nodes[base]? = some (.loop greedy body exit))
    (realizes : p.Realizes text body exit R) :
    p.Realizes text base exit fun a b => a = b ∨ R a b where
  follows := by
    rintro a b (rfl | related) start
    · exact ⟨1, leaves there text start a⟩
    · obtain ⟨n, runs⟩ := realizes.follows related start
      exact ⟨1 + n, (enters there text start a).trans runs⟩
  leads := by
    intro n a start t runs accepts
    obtain ⟨m, rfl, inside | outside⟩ := leads_loop there runs accepts
    · obtain ⟨k, fewer, b, related, rest⟩ := realizes.leads inside accepts
      exact ⟨k, by omega, b, .inr related, rest⟩
    · exact ⟨m, by omega, a, .inl rfl, outside⟩

end Realizes

/-! ### Repetitions -/

section Repetition

variable {R : Spot → Spot → Prop} {size : Nat} {code : Nat → Nat → List Node}
  (length : ∀ base exit, (code base exit).length = size)
  (body : ∀ base exit, p.Holds base (code base exit) → p.Realizes text base exit R)

include length

theorem length_copies (exit count base : Nat) :
    (copies size code exit count base).length = count * size := by
  induction count generalizing base with
  | zero => simp [copies]
  | succ count ih =>
    rw [copies, List.length_append, length, ih]
    ring

theorem length_optionalCopies (greedy : Bool) (exit count base : Nat) :
    (optionalCopies size greedy code exit count base).length = count * (size + 1) := by
  induction count generalizing base with
  | zero => simp [optionalCopies]
  | succ count ih =>
    rw [optionalCopies, List.length_cons, List.length_append, length, ih]
    ring

theorem length_repCode (takesSome greedy : Bool) (base exit min : Nat) (max : Option Nat) :
    (repCode size takesSome greedy code base exit min max).length =
      repSize size takesSome min max := by
  unfold repCode repSize
  split
  · split <;> simp [length]
  · simp only [List.length_append, length_copies length, length, List.length_singleton]
    ring
  · rfl
  · simp [length_copies length, length_optionalCopies length]

include body

/-- Copies lead to the exit, or nowhere if there are none. -/
theorem realizes_copies : ∀ {count base : Nat}, p.Holds base (copies size code exit count base) →
    p.Realizes text base (if count = 0 then base else exit) (Rounds R count)
  | 0, base, _ => .refl p text base
  | count + 1, base, holds => by
    obtain ⟨first, rest⟩ := holds.append
    rw [length] at rest
    have others := realizes_copies rest
    have one := body _ _ first
    rw [if_neg (Nat.succ_ne_zero count)]
    by_cases last : count = 0
    · subst last
      exact one.congr fun a b => Rounds.one.symm
    · rw [if_neg last] at one others
      exact one.seq others

theorem realizes_optionalCopies : ∀ {count base : Nat},
    p.Holds base (optionalCopies size greedy code exit count base) →
    p.Realizes text base (if count = 0 then base else exit) fun a b =>
      ∃ n ≤ count, Rounds R n a b
  | 0, base, _ => (Realizes.refl p text base).congr fun a b => by simp [Rounds]
  | count + 1, base, holds => by
    obtain ⟨there, holds⟩ := holds.cons
    obtain ⟨first, rest⟩ := holds.append
    rw [length] at rest
    have others := realizes_optionalCopies rest
    have one := body _ _ first
    rw [if_neg (Nat.succ_ne_zero count)]
    have further : p.Realizes text (base + 1) exit fun a b =>
        ∃ c, R a c ∧ ∃ n ≤ count, Rounds R n c b := by
      by_cases last : count = 0
      · subst last
        exact one.congr fun a b => by simp [Rounds]
      · rw [if_neg last] at one others
        exact one.seq others
    refine (Realizes.optional there further).congr fun a b => ?_
    constructor
    · rintro (rfl | ⟨c, one, n, fewer, others⟩)
      · exact ⟨0, by omega, rfl⟩
      · exact ⟨n + 1, by omega, c, one, others⟩
    · rintro ⟨_ | n, fewer, taken⟩
      · exact .inl taken
      · obtain ⟨c, one, others⟩ := taken
        exact .inr ⟨c, one, n, by omega, others⟩

/-- The code of a repetition goes through the body as many times as the bounds allow. -/
theorem realizes_repCode {takesSome greedy : Bool} {min : Nat} {max : Option Nat}
    (holds : p.Holds base (repCode size takesSome greedy code base exit min max)) :
    p.Realizes text base exit fun a b =>
      ∃ n, min ≤ n ∧ (∀ m ∈ max, n ≤ Nat.max min m) ∧ Rounds R n a b := by
  unfold repCode at holds
  split at holds
  · split at holds
    · obtain ⟨there, holds⟩ := holds.cons
      exact (Realizes.star there (body _ _ holds)).congr fun a b => by simp
    · obtain ⟨there, holds⟩ := holds.cons
      obtain ⟨first, last⟩ := holds.append
      rw [length] at last
      refine (Realizes.optional there (.plus (body _ _ first) last.cons.1)).congr fun a b => ?_
      constructor
      · rintro (rfl | ⟨n, taken⟩)
        · exact ⟨0, by simp [Rounds]⟩
        · exact ⟨n + 1, by simpa using taken⟩
      · rintro ⟨_ | n, _, _, taken⟩
        · exact .inl taken
        · exact .inr ⟨n, taken⟩
  · rename_i min
    obtain ⟨first, holds⟩ := holds.append
    rw [length_copies length] at holds
    obtain ⟨second, last⟩ := holds.append
    rw [length] at last
    have front := realizes_copies length body first
    have back : base + (min + 1) * size = base + min * size + size := by ring
    rw [back] at second
    have loop := Realizes.plus (body _ _ second) last.cons.1
    have middle : (if min = 0 then base else base + min * size) = base + min * size := by
      split <;> simp_all
    rw [middle] at front
    refine (front.seq loop).congr fun a b => ?_
    constructor
    · rintro ⟨c, one, n, others⟩
      exact ⟨min + (n + 1), by omega, by simp, Rounds.add.mpr ⟨c, one, others⟩⟩
    · rintro ⟨n, least, _, taken⟩
      obtain ⟨k, rfl⟩ := Nat.exists_eq_add_of_le least
      rw [show min + 1 + k = min + (k + 1) by omega] at taken
      obtain ⟨c, one, others⟩ := Rounds.add.mp taken
      exact ⟨c, one, k, others⟩
  · refine (Realizes.jump holds.cons.1).congr fun a b => ?_
    constructor
    · rintro rfl
      exact ⟨0, by simp [Rounds]⟩
    · rintro ⟨n, _, most, taken⟩
      obtain rfl : n = 0 := by simpa using most 0 rfl
      exact taken
  · rename_i max some
    obtain ⟨first, second⟩ := holds.append
    rw [length_copies length] at second
    have front := realizes_copies length body first
    have rear := realizes_optionalCopies length body second
    by_cases fixed : max ≤ min
    · have several : min ≠ 0 := by
        rintro rfl
        exact some rfl (by omega)
      rw [if_pos fixed, if_neg several] at front
      refine front.congr fun a b => ?_
      constructor
      · intro taken
        exact ⟨min, Nat.le_refl _, by simp, taken⟩
      · rintro ⟨n, least, most, taken⟩
        have bound := most max rfl
        obtain rfl : n = min := by
          have : Nat.max min max = min := Nat.max_eq_left fixed
          omega
        exact taken
    · have middle : (if min = 0 then base else if max ≤ min then exit else base + min * size) =
          base + min * size := by
        rw [if_neg fixed]
        split <;> simp_all
      rw [middle] at front
      rw [if_neg (by omega)] at rear
      have limit : Nat.max min max = max := Nat.max_eq_right (by omega)
      refine (front.seq rear).congr fun a b => ?_
      constructor
      · rintro ⟨c, one, n, fewer, others⟩
        refine ⟨min + n, by omega, ?_, Rounds.add.mpr ⟨c, one, others⟩⟩
        rintro _ ⟨⟩
        omega
      · rintro ⟨n, least, most, taken⟩
        have bound := most max rfl
        obtain ⟨k, rfl⟩ := Nat.exists_eq_add_of_le least
        obtain ⟨c, one, others⟩ := Rounds.add.mp taken
        exact ⟨c, one, k, by omega, others⟩

end Repetition

/-! ### Code of expressions -/

theorem length_literalCode (exit base : Nat) (cs : List Char) :
    (literalCode exit base cs).length = cs.length + 1 := by
  induction cs generalizing base with
  | nil => rfl
  | cons c cs ih => simp [literalCode, ih]

mutual

theorem length_code (e : Expr) (base exit : Nat) : (e.code base exit).length = e.size := by
  cases e with
  | empty | chars | bytes | look => rfl
  | literal cs => exact length_literalCode exit base cs
  | rep min max greedy body => exact length_repCode (length_code body) ..
  | capture index name body => simp [Expr.code, Expr.size, length_code body]
  | concat parts => exact length_codeAll parts base exit
  | alt branches => simp [Expr.code, Expr.size, length_codeBranches branches]

theorem length_codeAll (es : List Expr) (base exit : Nat) :
    (Expr.codeAll es base exit).length = Expr.sizeAll es + 1 := by
  cases es with
  | nil => rfl
  | cons e es =>
    rw [Expr.codeAll, List.length_append, length_code e, length_codeAll es, Expr.sizeAll]
    omega

theorem length_codeBranches (es : List Expr) (base exit : Nat) :
    (Expr.codeBranches es base exit).length = Expr.sizeAll es := by
  cases es with
  | nil => rfl
  | cons e es =>
    rw [Expr.codeBranches, List.length_append, length_code e, length_codeBranches es, Expr.sizeAll]

end

theorem contains_singleton {c d : Char} : (CharSet.singleton c).contains d = true ↔ d = c := by
  rw [← Char.toNat_inj]
  simp only [CharSet.contains, CharSet.singleton, CharSet.ofRange, CharRange.covers, List.any_cons,
    List.any_nil, Bool.or_false, Bool.and_eq_true, decide_eq_true_eq]
  omega

theorem realizes_literalCode : ∀ {cs : List Char} {base : Nat},
    p.Holds base (literalCode exit base cs) → p.Realizes text base exit (TakesLetters text cs)
  | [], base, holds => .jump holds.cons.1
  | c :: cs, base, holds => by
    obtain ⟨there, rest⟩ := holds.cons
    refine ((Realizes.take there).seq (realizes_literalCode rest)).congr fun a b => ?_
    simp only [TakesOne, TakesLetters, contains_singleton]
    constructor
    · rintro ⟨_, ⟨d, found, rfl, rfl⟩, others⟩
      exact ⟨found, others⟩
    · rintro ⟨found, others⟩
      exact ⟨_, ⟨c, found, rfl, rfl⟩, others⟩

/-- A choice between entries, each of which leads to the exit in its own way. -/
theorem Realizes.split {ways : List (Nat × (Spot → Spot → Prop))}
    (there : p.nodes[base]? = some (.split (ways.map (·.1))))
    (each : ∀ way ∈ ways, p.Realizes text way.1 exit way.2) :
    p.Realizes text base exit fun a b => ∃ way ∈ ways, way.2 a b where
  follows := by
    rintro a b ⟨way, listed, related⟩ start
    obtain ⟨n, runs⟩ := (each way listed).follows related start
    have chosen : p.Runs text 1 (a.thread base start) (a.thread way.1 start) := by
      refine follows_step there ?_
      simp only [Node.step, Spot.thread, List.map_map, List.mem_map]
      exact ⟨way, listed, rfl⟩
    exact ⟨1 + n, chosen.trans runs⟩
  leads := by
    intro n a start t runs accepts
    obtain ⟨m, rfl, u, member, rest⟩ := leads_step there (by simp) runs accepts
    simp only [Node.step, List.map_map, List.mem_map] at member
    obtain ⟨way, listed, rfl⟩ := member
    obtain ⟨k, fewer, b, related, rest⟩ := (each way listed).leads rest accepts
    exact ⟨k, by omega, b, ⟨way, listed, related⟩, rest⟩

/-- Where the branches of a choice begin and where they lead. -/
def ways (text : Text) (base : Nat) : List Expr → List (Nat × (Spot → Spot → Prop))
  | [] => []
  | e :: es => (base, e.Takes text) :: ways text (base + e.size) es

theorem map_ways (text : Text) (base : Nat) (es : List Expr) :
    (ways text base es).map (·.1) = Expr.entries base es := by
  induction es generalizing base with
  | nil => rfl
  | cons e es ih => simp [ways, Expr.entries, ih]

theorem exists_ways (text : Text) (base : Nat) (es : List Expr) (a b : Spot) :
    (∃ way ∈ ways text base es, way.2 a b) ↔ Expr.TakesAny text es a b := by
  induction es generalizing base with
  | nil => simp [ways, Expr.TakesAny]
  | cons e es ih => simp [ways, Expr.TakesAny, ih]

mutual

/-- The code of an expression leads on just as the expression does. -/
theorem realizes_code (e : Expr) (base exit : Nat) (holds : p.Holds base (e.code base exit)) :
    p.Realizes text base exit (e.Takes text) := by
  cases e with
  | empty => exact .jump holds.cons.1
  | literal cs => exact realizes_literalCode holds
  | chars set | bytes set => exact .take holds.cons.1
  | look kind => exact .check holds.cons.1
  | rep min max greedy body =>
    exact realizes_repCode (length_code body) (realizes_code body) holds
  | capture index name body =>
    obtain ⟨opens, holds⟩ := holds.cons
    obtain ⟨inside, closes⟩ := holds.append
    rw [length_code] at closes
    refine ((Realizes.mark opens).seq ((realizes_code body _ _ inside).seq
      (.mark closes.cons.1))).congr fun a b => ?_
    simp [Expr.Takes]
  | concat parts => exact realizes_codeAll parts base exit holds
  | alt branches =>
    obtain ⟨there, holds⟩ := holds.cons
    rw [← map_ways text] at there
    refine (Realizes.split there (realizes_codeBranches branches _ _ holds)).congr fun a b => ?_
    exact exists_ways text _ branches a b

theorem realizes_codeAll (es : List Expr) (base exit : Nat)
    (holds : p.Holds base (Expr.codeAll es base exit)) :
    p.Realizes text base exit (Expr.TakesAll text es) := by
  cases es with
  | nil => exact .jump holds.cons.1
  | cons e es =>
    obtain ⟨first, rest⟩ := holds.append
    rw [length_code] at rest
    exact (realizes_code e _ _ first).seq (realizes_codeAll es _ _ rest)

theorem realizes_codeBranches (es : List Expr) (base exit : Nat)
    (holds : p.Holds base (Expr.codeBranches es base exit)) :
    ∀ way ∈ ways text base es, p.Realizes text way.1 exit way.2 := by
  cases es with
  | nil => simp [ways]
  | cons e es =>
    obtain ⟨first, rest⟩ := holds.append
    rw [length_code] at rest
    exact List.forall_mem_cons.mpr
      ⟨realizes_code e _ _ first, realizes_codeBranches es _ _ rest⟩

end

/-! ### Searching for an expression -/

theorem holds_program (e : Expr) : e.program.Holds 0 (e.code 0 e.size) := by
  intro i node found
  have inside := (List.getElem?_eq_some_iff.mp found).1
  simpa [Expr.program, List.getElem?_append_left inside] using found

theorem accepts_program (e : Expr) (start : Nat) (b : Spot) :
    e.program.Accepts (b.thread e.size start) := by
  simp [Accepts, Spot.thread, Expr.program, length_code]

/-- The threads that come to the end of an expression's program are those that went as the
expression takes them. -/
theorem reached_accepts_iff {e : Expr} : e.program.Reached text low t ∧ e.program.Accepts t ↔
    ∃ s b, low ≤ s ∧ s ≤ text.size ∧ e.Takes text (s, []) b ∧ t = b.thread e.size s := by
  have realizes : e.program.Realizes text 0 e.size (e.Takes text) :=
    realizes_code e 0 e.size (holds_program e)
  constructor
  · rintro ⟨⟨s, n, after, inside, runs⟩, accepts⟩
    have begun : e.program.Runs text n (Spot.thread 0 s (s, [])) t := runs
    obtain ⟨m, _, b, taken, rest⟩ := realizes.leads begun accepts
    refine ⟨s, b, after, inside, taken, ?_⟩
    cases rest with
    | here => rfl
    | step head _ =>
      -- No step leads away from the end.
      obtain ⟨node, found, member⟩ := head
      have final : e.program.nodes[(b.thread e.size s).address]? = some .accept :=
        accepts_program e s b
      rw [final] at found
      cases found
      simp [Node.step] at member
  · rintro ⟨s, b, after, inside, taken, rfl⟩
    obtain ⟨n, runs⟩ := realizes.follows taken s
    exact ⟨⟨s, n, after, inside, runs⟩, accepts_program e s b⟩

/-- A search finds what the expression takes from some position on. -/
theorem takes_of_search {e : Expr} (found : e.program.search text low = some m) :
    low ≤ m.start ∧ m.start ≤ text.size ∧ e.Takes text (m.start, []) (m.stop, m.marks) := by
  obtain ⟨t, reached, accepts, rfl⟩ := search_eq_some found
  obtain ⟨s, b, after, inside, taken, rfl⟩ := reached_accepts_iff.mp ⟨reached, accepts⟩
  exact ⟨after, inside, taken⟩

/-- A search finds something just if there is something that the expression takes. -/
theorem isSome_search_iff {e : Expr} : (e.program.search text low).isSome ↔
    ∃ s b, low ≤ s ∧ s ≤ text.size ∧ e.Takes text (s, []) b := by
  simp only [isSome_search, reached_accepts_iff]
  constructor
  · rintro ⟨t, s, b, after, inside, taken, _⟩
    exact ⟨s, b, after, inside, taken⟩
  · rintro ⟨s, b, after, inside, taken⟩
    exact ⟨_, s, b, after, inside, taken, rfl⟩

end Program

end Construe.Pattern
