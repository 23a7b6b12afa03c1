import Mathlib
import Construe.Proofs.Pattern.Whole

/-! # Patterns that keep to the limit

Counting gives up beyond a limit. What counting an expression adds can be told from its parts, and
what counting a class adds from the byte sequences of its characters, all of which may be states
of their own. So an expression whose parts are light enough fits, and nothing has to be counted. -/
namespace Construe.Pattern

/-! ### Counting within bounds -/

/-- Counting adds at most so many bytes, whatever has been counted before, and comes to a result
with a property. -/
def Costs (m : Count β) (most : Nat) (post : β → Prop) : Prop :=
  ∀ t : Tally, t.bytes + most ≤ sizeLimit →
    ∃ b u, m t = some (b, u) ∧ post b ∧ u.bytes ≤ t.bytes + most

namespace Costs

variable {m : Count β} {post : β → Prop} {f : β → Count γ} {post' : γ → Prop}

theorem mono (costs : Costs m few post) (fewer : few ≤ most) : Costs m most post := by
  intro t enough
  obtain ⟨b, u, done, holds, low⟩ := costs t (by omega)
  exact ⟨b, u, done, holds, by omega⟩

theorem pure {b : β} (holds : post b) : Costs (Pure.pure b) 0 post :=
  fun t _ => ⟨b, t, rfl, holds, Nat.le_refl _⟩

theorem bind (first : Costs m few post) (next : ∀ b, post b → Costs (f b) more post') :
    Costs (m >>= f) (few + more) post' := by
  intro t enough
  obtain ⟨b, u, done, holds, low⟩ := first t (by omega)
  obtain ⟨c, v, done', holds', low'⟩ := next b holds u (by omega)
  refine ⟨c, v, ?_, holds', by omega⟩
  show (m t).bind _ = _
  rw [done]
  exact done'

theorem bind_pure {g : β → γ} (first : Costs m most post) (last : ∀ b, post b → post' (g b)) :
    Costs (m >>= fun b => Pure.pure (g b)) most post' := by
  rw [← Nat.add_zero most]
  exact first.bind fun b holds => .pure (last b holds)

theorem count (more : Tally) : Costs (Pattern.count more) more.bytes fun _ => True := by
  intro t enough
  have sum : (t.plus more).bytes = t.bytes + more.bytes := by
    simp only [Tally.bytes, Tally.plus]
    ring
  exact ⟨(), t.plus more, if_pos (by omega), trivial, by omega⟩

theorem newState (extra : Nat) : Costs (Pattern.newState extra) (32 + extra) fun _ => True := by
  intro t enough
  obtain ⟨_, u, done, _, low⟩ := count ⟨1, extra⟩ t (by simpa [Tally.bytes] using enough)
  refine ⟨t.states, u, ?_, trivial, by simpa [Tally.bytes] using low⟩
  show ((Pattern.count ⟨1, extra⟩) t).bind _ = _
  rw [done]
  rfl

theorem link (exit : Exit) : Costs exit.link 4 fun _ => True := by
  cases exit with
  | single => exact (pure trivial).mono (Nat.zero_le _)
  | branching => exact count ⟨0, 4⟩

end Costs

/-! ### Shared states -/

/-- The same for counting that remembers states, whatever it remembers. -/
def Shares (m : Sharing κ β) (most : Nat) (post : β → Prop) : Prop :=
  ∀ slots, Costs (m slots) most fun result => post result.1

namespace Shares

variable {m : Sharing κ β} {post : β → Prop} {f : β → Sharing κ γ} {post' : γ → Prop}

theorem mono (shares : Shares m few post) (fewer : few ≤ most) : Shares m most post :=
  fun slots => (shares slots).mono fewer

theorem pure {b : β} (holds : post b) : Shares (Pure.pure b : Sharing κ β) 0 post :=
  fun _ => .pure holds

theorem bind (first : Shares m few post) (next : ∀ b, post b → Shares (f b) more post') :
    Shares (m >>= f) (few + more) post' :=
  fun slots => (first slots).bind fun result holds => next result.1 holds result.2

theorem bind_pure {g : β → γ} (first : Shares m most post) (last : ∀ b, post b → post' (g b)) :
    Shares (m >>= fun b => Pure.pure (g b)) most post' := by
  rw [← Nat.add_zero most]
  exact first.bind fun b holds => .pure (last b holds)

theorem mapM {f : β → Sharing κ γ} {cost : β → Nat} {xs : List β}
    (each : ∀ x ∈ xs, Shares (f x) (cost x) fun _ => True) :
    Shares (xs.mapM f) (xs.map cost).sum fun ys => ys.length = xs.length := by
  induction xs with
  | nil => exact .pure rfl
  | cons x xs ih =>
    obtain ⟨first, others⟩ := List.forall_mem_cons.mp each
    rw [List.mapM_cons, List.map_cons, List.sum_cons]
    exact first.bind fun y _ => (ih others).bind_pure fun ys length => by simp [length]

theorem lift {m : Count β} (costs : Costs m most post) :
    Shares (liftM m : Sharing κ β) most post :=
  fun slots => costs.bind_pure (g := (·, slots)) fun _ holds => holds

theorem get {f : Slots (κ × Nat) → Sharing κ γ} (each : ∀ slots, Shares (f slots) most post') :
    Shares (MonadState.get >>= f) most post' := fun slots => each slots slots

theorem freshState (slot : Nat) (key : κ) (extra : Nat) :
    Shares (Pattern.freshState slot key extra) (32 + extra) fun _ => True := by
  rw [← Nat.add_zero (32 + extra)]
  exact (lift (Costs.newState extra)).bind fun id _ slots => .pure trivial

theorem sharedState [BEq κ] (slots : Nat) (numbers : List Nat) (key : κ) (extra : Nat) :
    Shares (Pattern.sharedState slots numbers key extra) (32 + extra) fun _ => True := by
  refine get fun memory => ?_
  split
  · split
    · exact (pure trivial).mono (Nat.zero_le _)
    · exact freshState _ _ _
  · exact freshState _ _ _

end Shares

/-- The number of bytes in byte sequences. -/
def totalLength (seqs : List (List ByteRange)) : Nat := (seqs.map List.length).sum

/-- Sequences in one group share a byte. -/
theorem sum_groupByHead_le (seqs : List (List ByteRange)) :
    ((groupByHead seqs).map fun group => totalLength group.2 + 1).sum ≤ totalLength seqs := by
  unfold groupByHead
  induction seqs with
  | nil => exact Nat.le_refl _
  | cons seq seqs ih =>
    rw [List.foldr_cons]
    generalize seqs.foldr _ [] = groups at ih ⊢
    split
    · split <;> simp [totalLength] at ih ⊢ <;> omega
    · simp [totalLength] at ih ⊢
    · simpa [totalLength] using ih

theorem all_isEmpty_of_groupByHead {seqs : List (List ByteRange)} (none : groupByHead seqs = []) :
    seqs.all List.isEmpty = true := by
  unfold groupByHead at none
  induction seqs with
  | nil => rfl
  | cons seq seqs ih =>
    rw [List.foldr_cons] at none
    split at none
    · split at none <;> contradiction
    · contradiction
    · exact ih none

/-- A state has as many ways out as there are groups, and each group uses up a byte. -/
theorem shares_shareNode (target fuel : Nat) (seqs : List (List ByteRange)) :
    Shares (shareNode target fuel seqs) (40 * totalLength seqs) fun _ => True := by
  induction fuel generalizing seqs with
  | zero => exact (Shares.pure trivial).mono (Nat.zero_le _)
  | succ fuel ih =>
    rw [shareNode]
    split
    · exact (Shares.pure trivial).mono (Nat.zero_le _)
    · rename_i some
      have nonempty : 0 < (groupByHead seqs).length :=
        List.length_pos_iff.mpr fun none => some (all_isEmpty_of_groupByHead none)
      have below : Shares ((groupByHead seqs).mapM fun group => do
          return (group.1, ← shareNode target fuel group.2))
          ((groupByHead seqs).map fun group => 40 * totalLength group.2).sum
          fun node => node.length = (groupByHead seqs).length := by
        refine .mapM fun group _ => ?_
        exact (ih group.2).bind_pure fun id _ => trivial
      have groups := sum_groupByHead_le seqs
      have split : ((groupByHead seqs).map fun group => 40 * totalLength group.2).sum +
          40 * (groupByHead seqs).length ≤ 40 * totalLength seqs := by
        simp only [List.sum_map_add, List.map_const', List.sum_replicate, smul_eq_mul,
          mul_one] at groups
        rw [List.sum_map_mul_left]
        omega
      refine (below.bind fun node length => (Shares.sharedState _ _ _ _).mono ?_).mono split
      rw [length]
      omega

theorem shares_shareChain (next : Nat) (seq : List ByteRange) :
    Shares (shareChain next seq) (32 * seq.length + 4) fun _ => True := by
  induction seq generalizing next with
  | nil => exact .lift (Costs.count ⟨0, 4⟩)
  | cons range seq ih =>
    refine ((Shares.sharedState _ _ _ _).bind fun id _ => ih id).mono ?_
    rw [List.length_cons]
    omega

theorem shares_chains (last : Nat) (seqs : List (List ByteRange)) :
    Shares (seqs.forM (shareChain last)) (32 * totalLength seqs + 4 * seqs.length)
      fun _ => True := by
  induction seqs with
  | nil => exact .pure trivial
  | cons seq seqs ih =>
    refine ((shares_shareChain last seq).bind fun _ _ => ih).mono ?_
    simp only [totalLength, List.map_cons, List.sum_cons, List.length_cons]
    omega

/-! ### Expressions -/

/-- Bytes that are enough for a class. -/
def classWeight (s : CharSet) : Nat :=
  64 + (if s.isAscii then 8 * s.ranges.length
    else 40 * totalLength (utf8Of s) + 4 * (utf8Of s).length)

theorem costs_countClass (d : Direction) (s : CharSet) :
    Costs (countClass d s) (classWeight s) fun _ => True := by
  unfold countClass classWeight
  split
  · refine ((Costs.count _).bind_pure fun _ _ => trivial).mono ?_
    simp [Tally.bytes]
  · cases d with
    | forward =>
      refine ((Costs.newState 0).bind fun target _ =>
        (shares_shareNode target 5 _ .empty).bind_pure fun _ _ => trivial).mono ?_
      omega
    | backward =>
      refine ((Costs.newState 0).bind fun _ _ => (Costs.newState 0).bind fun last _ =>
        (shares_chains last _ .empty).bind_pure fun _ _ => trivial).mono ?_
      omega

namespace Expr

/-- Counting the expression in either direction adds at most so many bytes. -/
def Costs (e : Expr) (most : Nat) : Prop := ∀ d, Pattern.Costs (e.count d) most fun _ => True

theorem costs_look (kind : Look) : (look kind).Costs 32 :=
  fun _ => (Pattern.Costs.count ⟨1, 0⟩).bind_pure fun _ _ => trivial

theorem costs_literal (cs : List Char) : (literal cs).Costs (32 * (textBytes cs).length) :=
  fun _ => (Pattern.Costs.count ⟨(textBytes cs).length, 0⟩).bind_pure fun _ _ => trivial

theorem costs_chars (set : CharSet) : (chars set).Costs (classWeight set) :=
  fun d => costs_countClass d set

variable {body : Expr}

theorem costs_star (costs : body.Costs most) (greedy : Bool) :
    (rep 0 none greedy body).Costs (most + 116) := by
  intro d
  show Pattern.Costs (if body.takesSome then _ else _) _ _
  split
  · refine ((Pattern.Costs.count ⟨1, 4⟩).bind fun _ _ => (costs d).bind fun exit _ =>
      (Pattern.Costs.link exit).bind_pure fun _ _ => trivial).mono ?_
    simp only [Tally.bytes]
    omega
  · refine ((costs d).bind fun exit _ => (Pattern.Costs.link exit).bind fun _ _ =>
      (Pattern.Costs.count ⟨3, 16⟩).bind_pure fun _ _ => trivial).mono ?_
    simp only [Tally.bytes]
    omega

theorem costs_plus (costs : body.Costs most) (greedy : Bool) :
    (rep 1 none greedy body).Costs (most + 40) :=
  fun d => (costs d).bind fun exit _ => (Pattern.Costs.link exit).bind fun _ _ =>
    (Pattern.Costs.count ⟨1, 4⟩).bind_pure fun _ _ => trivial

theorem costs_option (costs : body.Costs most) (greedy : Bool) :
    (rep 0 (some 1) greedy body).Costs (most + 76) := by
  intro d
  refine ((Pattern.Costs.count ⟨2, 8⟩).bind fun _ _ => (costs d).bind fun exit _ =>
    (Pattern.Costs.link exit).bind_pure fun _ _ => trivial).mono ?_
  simp only [Tally.bytes]
  omega

theorem costs_capture (index : Nat) (name : Option String) (costs : body.Costs most) :
    (capture index name body).Costs (most + 68) := by
  intro d
  cases d with
  | forward =>
    refine ((Pattern.Costs.count ⟨1, 0⟩).bind fun _ _ => (costs .forward).bind fun exit _ =>
      (Pattern.Costs.link exit).bind fun _ _ =>
        (Pattern.Costs.count ⟨1, 0⟩).bind_pure fun _ _ => trivial).mono ?_
    simp only [Tally.bytes]
    omega
  | backward => exact (costs .backward).mono (Nat.le_add_right _ _)

/-- Expressions that are counted one after the other. -/
inductive CostsAll : List Expr → Nat → Prop where
  | nil : CostsAll [] 0
  | cons : Costs e few → CostsAll es more → CostsAll (e :: es) (few + 4 + more)

theorem costs_before (before : Option Exit) :
    Pattern.Costs (before.forM Exit.link) 4 fun _ => True := by
  cases before with
  | none => exact (Pattern.Costs.pure trivial).mono (Nat.zero_le _)
  | some exit => exact .link exit

theorem CostsAll.countAll {es : List Expr} (costs : CostsAll es most) (d : Direction)
    (before : Option Exit) : Pattern.Costs (Expr.countAll d es before) most fun _ => True := by
  induction costs generalizing before with
  | nil => exact .pure trivial
  | cons first _ ih =>
    cases d with
    | forward =>
      refine ((first .forward).bind fun exit _ => (costs_before before).bind fun _ _ =>
        ih (some exit)).mono ?_
      omega
    | backward =>
      refine ((ih before).bind fun before _ => (first .backward).bind fun exit _ =>
        (costs_before before).bind_pure fun _ _ => trivial).mono ?_
      omega

theorem CostsAll.concat {es : List Expr} (costs : CostsAll es most) :
    (concat es).Costs (most + 32) := by
  intro d
  refine (costs.countAll d none).bind fun exit _ => ?_
  cases exit with
  | some exit => exact (Pattern.Costs.pure trivial).mono (Nat.zero_le _)
  | none => exact (Pattern.Costs.count ⟨1, 0⟩).bind_pure fun _ _ => trivial

/-- An expression that is light enough fits. -/
theorem fits_of_costs {e : Expr} (costs : e.Costs most) (light : most + 212 ≤ sizeLimit) :
    e.fits = true := by
  have whole (d : Direction) : Pattern.Costs (e.countWhole d) (most + 212) fun _ => True := by
    have lead : Pattern.Costs (Pattern.count (if e.isBound d then ⟨1, 0⟩ else ⟨3, 16⟩)) 112
        fun _ => True := by
      split
      · exact (Pattern.Costs.count ⟨1, 0⟩).mono (by decide)
      · exact .count ⟨3, 16⟩
    cases d with
    | forward =>
      refine (lead.bind fun _ _ => (Pattern.Costs.count ⟨1, 0⟩).bind fun _ _ =>
        (costs .forward).bind fun exit _ => (Pattern.Costs.link exit).bind fun _ _ =>
          Pattern.Costs.count ⟨2, 0⟩).mono ?_
      simp only [Tally.bytes]
      omega
    | backward =>
      refine (lead.bind fun _ _ => (costs .backward).bind fun exit _ =>
        (Pattern.Costs.link exit).bind fun _ _ => Pattern.Costs.count ⟨1, 0⟩).mono ?_
      simp only [Tally.bytes]
      omega
  have some (d : Direction) : ((e.countWhole d).run .zero).isSome = true := by
    obtain ⟨_, _, done, _⟩ := whole d .zero (by simpa [Tally.zero, Tally.bytes] using light)
    exact Option.isSome_iff_exists.mpr ⟨_, done⟩
  rw [fits, some .forward, some .backward]
  rfl

/-- The ends of the text weigh little. -/
theorem CostsAll.anchored {es : List Expr} (costs : CostsAll es most) :
    CostsAll (look .textStart :: (es ++ [look .textEnd])) (most + 72) := by
  have last : CostsAll (es ++ [look .textEnd]) (most + 36) := by
    induction costs with
    | nil => exact .cons (costs_look _) .nil
    | cons first _ ih =>
      rw [List.cons_append, Nat.add_assoc]
      exact .cons first ih
  have both := CostsAll.cons (costs_look .textStart) last
  rwa [show 32 + 4 + (most + 36) = most + 72 by omega] at both

end Expr

end Construe.Pattern
