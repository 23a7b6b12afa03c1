import Mathlib
import Construe.Pattern.Search

/-! # What a search finds

A thread runs through the program step by step. A search finds a match just if some thread that
sets out within the text comes to the end of the program, and the match it finds is what such a
thread has noted. No place is entered twice, so nothing is missed by not entering it again, and the
rounds of a search are enough to go through all places. -/
namespace Construe.Pattern

/-! ### Visited places -/

namespace Slots

theorem get?_eq (t : Slots α) (n : Nat) :
    t.get? n = if n = 0 then t.here? else if n % 2 = 0 then t.even.get? (n / 2)
      else t.odd.get? (n / 2) := by
  cases t with
  | empty => simp [get?, here?, even, odd]
  | fork => rfl

theorem get?_root (value : α) (t : Slots α) (m : Nat) :
    (fork (some value) t.even t.odd).get? m = if m = 0 then some value else t.get? m := by
  rw [get?, t.get?_eq m]
  split <;> rfl

theorem get?_set (value : α) (bits : Nat) (t : Slots α) {n : Nat} (small : n < 2 ^ bits) (m : Nat) :
    (t.set value bits n).get? m = if m = n then some value else t.get? m := by
  induction bits generalizing t n m with
  | zero =>
    obtain rfl : n = 0 := by omega
    exact get?_root value t m
  | succ bits ih =>
    have half : n / 2 < 2 ^ bits := by omega
    rw [set]
    split
    · rename_i first
      subst first
      exact get?_root value t m
    · rename_i later
      by_cases first : m = 0
      · subst first
        split <;> simp [get?, t.get?_eq 0, Ne.symm later]
      · by_cases same : m = n
        · subst same
          split <;> simp_all [get?]
        · -- Numbers of the same parity differ in their halves.
          rw [t.get?_eq m]
          split <;> by_cases parity : m % 2 = 0
          all_goals simp only [get?, first, parity, if_false, if_true]
          · rw [ih _ half, if_neg (by omega)]
          · rw [ih _ half, if_neg (by omega)]

end Slots

/-- Where a thread is, in the program and in the text. -/
def Thread.place (t : Thread) : Nat × Nat := (t.address, t.pos)

namespace Visits

def met (v : Visits) (place : Nat × Nat) : Bool := ((v.get? place.2).getD 0).testBit place.1

theorem has_eq_met (v : Visits) (t : Thread) : v.has t = v.met t.place := rfl

theorem met_empty (place : Nat × Nat) : met .empty place = false := by
  simp [met, Slots.get?]

theorem met_add (v : Visits) (t : Thread) (place : Nat × Nat) :
    (v.add t).met place = true ↔ place = t.place ∨ v.met place = true := by
  obtain ⟨address, pos⟩ := place
  unfold met add
  rw [Slots.get?_set _ _ _ Nat.lt_two_pow_self]
  by_cases here : pos = t.pos
  · subst here
    simp only [if_true, Option.getD_some, Nat.testBit_or, Nat.one_shiftLeft, Nat.testBit_two_pow,
      Bool.or_eq_true, decide_eq_true_eq, Thread.place, Prod.mk.injEq, and_true]
    tauto
  · simp [here, Thread.place]

end Visits

/-! ### Threads that run -/

/-- The thread that sets out at a position. -/
def Thread.setOut (pos : Nat) : Thread := ⟨0, pos, pos, []⟩

namespace Program

variable {p : Program} {text : Text}

def Step (p : Program) (text : Text) (t t' : Thread) : Prop :=
  ∃ node, p.nodes[t.address]? = some node ∧ t' ∈ node.step text t

/-- A thread becomes another one in some steps. -/
inductive Runs (p : Program) (text : Text) : Nat → Thread → Thread → Prop where
  | here (t : Thread) : Runs p text 0 t t
  | step : p.Step text t u → Runs p text n u v → Runs p text (n + 1) t v

/-- The thread is at the end of the program. -/
def Accepts (p : Program) (t : Thread) : Prop := p.nodes[t.address]? = some .accept

theorem Runs.trans (first : p.Runs text m t u) (next : p.Runs text n u v) :
    p.Runs text (m + n) t v := by
  induction first with
  | here => simpa using next
  | step head _ ih =>
    rw [Nat.add_right_comm]
    exact .step head (ih next)

theorem Runs.snoc (runs : p.Runs text n t u) (step : p.Step text u v) : p.Runs text (n + 1) t v :=
  runs.trans (.step step (.here v))

/-- Where a thread can go depends on its place alone. -/
theorem Step.of_place (step : p.Step text t t') (same : t.place = u.place) :
    ∃ u', p.Step text u u' ∧ t'.place = u'.place := by
  obtain ⟨address, pos, start, marks⟩ := t
  obtain ⟨address', pos', start', marks'⟩ := u
  obtain ⟨rfl, rfl⟩ : address = address' ∧ pos = pos' := by simpa [Thread.place] using same
  obtain ⟨node, found, member⟩ := step
  suffices ∃ u' ∈ node.step text ⟨address, pos, start', marks'⟩, t'.place = u'.place by
    obtain ⟨u', member, same⟩ := this
    exact ⟨u', ⟨node, found, member⟩, same⟩
  cases node with
  | take set next =>
    simp only [Node.step] at member ⊢
    split at member
    · split at member
      · simp_all [Thread.place]
      · simp at member
    · simp at member
  | check kind next =>
    simp only [Node.step] at member ⊢
    split at member
    · simp_all [Thread.place]
    · simp at member
  | mark slot next => simp_all [Node.step, Thread.place]
  | split next =>
    simp only [Node.step, List.mem_map] at member ⊢
    obtain ⟨a, listed, rfl⟩ := member
    exact ⟨_, ⟨a, listed, rfl⟩, rfl⟩
  | accept => simp [Node.step] at member

theorem length_step_le (text : Text) (node : Node) (t : Thread) :
    (node.step text t).length ≤ node.degree := by
  cases node with
  | take =>
    simp only [Node.step, Node.degree]
    split
    · split <;> simp
    · simp
  | check =>
    simp only [Node.step, Node.degree]
    split <;> simp
  | mark | split | accept => simp [Node.step, Node.degree]

/-- A thread inside the text stays there. -/
theorem pos_le_of_step {node : Node} (inside : t.pos ≤ text.size) (member : t' ∈ node.step text t) :
    t'.pos ≤ text.size := by
  cases node with
  | take =>
    simp only [Node.step] at member
    split at member
    · rename_i found
      have below : t.pos < text.size := (Array.getElem?_eq_some_iff.mp found).1
      split at member
      · simp_all
      · simp at member
    · simp at member
  | check =>
    simp only [Node.step] at member
    split at member
    · simp_all
    · simp at member
  | mark => simp_all [Node.step]
  | split =>
    simp only [Node.step, List.mem_map] at member
    obtain ⟨_, _, rfl⟩ := member
    exact inside
  | accept => simp [Node.step] at member

/-! ### Nothing else is found -/

/-- The thread comes from one that set out within the text, at `low` or later. -/
def Reached (p : Program) (text : Text) (low : Nat) (t : Thread) : Prop :=
  ∃ s n, low ≤ s ∧ s ≤ text.size ∧ p.Runs text n (.setOut s) t

theorem explore_sound : ∀ {fuel seen next waiting}, low ≤ next →
    (∀ t ∈ waiting, p.Reached text low t) → p.explore text fuel seen next waiting = some m →
    ∃ t, p.Reached text low t ∧ p.Accepts t ∧ m = ⟨t.start, t.pos, t.marks⟩
  | 0, _, _, _, _, _, found => by simp [explore] at found
  | fuel + 1, seen, next, [], later, _, found => by
    rw [explore] at found
    split at found
    · rename_i inside
      refine explore_sound (Nat.le_succ_of_le later) (fun t member => ?_) found
      rw [List.mem_singleton.mp member]
      exact ⟨next, 0, later, inside, .here _⟩
    · contradiction
  | fuel + 1, seen, next, t :: waiting, later, reached, found => by
    obtain ⟨first, others⟩ := List.forall_mem_cons.mp reached
    rw [explore] at found
    split at found
    · exact explore_sound later others found
    · split at found
      · exact explore_sound later others found
      · rename_i accepts
        exact ⟨t, first, accepts, (Option.some.inj found).symm⟩
      · rename_i node _ there
        refine explore_sound later (fun u member => ?_) found
        rcases List.mem_append.mp member with new | old
        · obtain ⟨s, n, low, high, runs⟩ := first
          exact ⟨s, n + 1, low, high, runs.snoc ⟨node, there, new⟩⟩
        · exact others u old

/-! ### Nothing is missed -/

/-- A place has been visited, is waited for, or is not in the program. -/
def Met (p : Program) (seen : Visits) (waiting : List Thread) (t : Thread) : Prop :=
  seen.has t = true ∨ t.place ∈ waiting.map Thread.place ∨ p.nodes[t.address]? = none

/-- No visited place is the end of the program, and from each of them all places next to it are
met. So are the places where threads have set out. -/
structure Explored (p : Program) (text : Text) (low next : Nat) (seen : Visits)
    (waiting : List Thread) : Prop where
  unfinished : ∀ t, seen.has t = true → ¬ p.Accepts t
  onward : ∀ t u, seen.has t = true → p.Step text t u → p.Met seen waiting u
  begun : ∀ s, low ≤ s → s < next → p.Met seen waiting (.setOut s)

namespace Explored

variable {low next : Nat} {seen : Visits} {waiting : List Thread}

theorem imp (explored : p.Explored text low next seen waiting)
    (met : ∀ t, p.Met seen waiting t → p.Met seen waiting' t) :
    p.Explored text low next seen waiting' where
  unfinished := explored.unfinished
  onward t u visited step := met u (explored.onward t u visited step)
  begun s after before := met _ (explored.begun s after before)

/-- A thread that is done with need not be waited for any longer. -/
theorem drop (explored : p.Explored text low next seen (t :: waiting))
    (done : seen.has t = true ∨ p.nodes[t.address]? = none) :
    p.Explored text low next seen waiting := by
  apply explored.imp
  rintro u (visited | waits | outside)
  · exact .inl visited
  · rw [List.map_cons, List.mem_cons] at waits
    rcases waits with same | waits
    · rcases done with visited | outside
      · left
        rwa [Visits.has_eq_met, same]
      · right
        right
        rwa [show u.address = t.address from congrArg Prod.fst same]
    · exact .inr (.inl waits)
  · exact .inr (.inr outside)

theorem setOut (explored : p.Explored text low next seen []) :
    p.Explored text low (next + 1) seen [.setOut next] where
  unfinished := explored.unfinished
  onward t u visited step := by
    rcases explored.onward t u visited step with visited | waits | outside
    · exact .inl visited
    · simp at waits
    · exact .inr (.inr outside)
  begun s after before := by
    rcases Nat.lt_succ_iff_lt_or_eq.mp before with earlier | rfl
    · rcases explored.begun s after earlier with visited | waits | outside
      · exact .inl visited
      · simp at waits
      · exact .inr (.inr outside)
    · exact .inr (.inl (by simp))

/-- A thread is followed: its place counts as visited, and those after it are waited for. -/
theorem follow {node : Node} (explored : p.Explored text low next seen (t :: waiting))
    (there : p.nodes[t.address]? = some node) (goes : node ≠ .accept) :
    p.Explored text low next (seen.add t) (node.step text t ++ waiting) := by
  have keeps u (met : p.Met seen (t :: waiting) u) :
      p.Met (seen.add t) (node.step text t ++ waiting) u := by
    rcases met with visited | waits | outside
    · exact .inl ((Visits.met_add seen t u.place).mpr (.inr visited))
    · rw [List.map_cons, List.mem_cons] at waits
      rcases waits with same | waits
      · exact .inl ((Visits.met_add seen t u.place).mpr (.inl same))
      · refine .inr (.inl ?_)
        rw [List.map_append]
        exact List.mem_append_right _ waits
    · exact .inr (.inr outside)
  have visits u (visited : (seen.add t).has u = true) : u.place = t.place ∨ seen.has u = true :=
    (Visits.met_add seen t _).mp visited
  refine ⟨fun u visited => ?_, fun u v visited step => ?_, fun s after before => ?_⟩
  · rcases visits u visited with same | visited
    · rw [Accepts, show u.address = t.address from congrArg Prod.fst same, there]
      simpa using goes
    · exact explored.unfinished u visited
  · rcases visits u visited with same | visited
    · obtain ⟨w, ⟨other, found, member⟩, place⟩ := step.of_place same
      rw [there] at found
      cases found
      refine .inr (.inl ?_)
      rw [place, List.map_append]
      exact List.mem_append_left _ (List.mem_map_of_mem member)
    · exact keeps v (explored.onward u v visited step)
  · exact keeps _ (explored.begun s after before)

/-- When nothing is waited for, no thread has come to the end of the program. -/
theorem not_accepts (explored : p.Explored text low next seen []) (after : low ≤ s)
    (before : s < next) (runs : p.Runs text n (.setOut s) t) : ¬ p.Accepts t := by
  have met {t : Thread} {n : Nat} {u : Thread} (runs : p.Runs text n t u)
      (met : p.Met seen [] t) : p.Met seen [] u := by
    induction runs with
    | here => exact met
    | step head _ ih =>
      apply ih
      rcases met with visited | waits | outside
      · exact explored.onward _ _ visited head
      · simp at waits
      · obtain ⟨node, found, _⟩ := head
        simp [outside] at found
  rcases met runs (explored.begun s after before) with visited | waits | outside
  · exact explored.unfinished t visited
  · simp at waits
  · simp [Accepts, outside]

end Explored

/-! ### Rounds enough -/

/-- How many threads the node at an address can hand on. -/
def degreeAt (p : Program) (address : Nat) : Nat := (p.nodes[address]?).elim 0 Node.degree

/-- All places of the program within the text. -/
def grid (p : Program) (text : Text) : Finset (Nat × Nat) :=
  Finset.range p.nodes.size ×ˢ Finset.range (text.size + 1)

/-- How many threads can still be handed on. -/
def ahead (p : Program) (text : Text) (seen : Visits) : Nat :=
  ∑ place ∈ p.grid text with seen.met place = false, p.degreeAt place.1

theorem ahead_add {node : Node} {seen : Visits} (fresh : seen.has t = false)
    (inside : t.pos ≤ text.size) (there : p.nodes[t.address]? = some node) :
    p.ahead text (seen.add t) + node.degree = p.ahead text seen := by
  have known : t.place ∈ (p.grid text).filter fun place => seen.met place = false := by
    have bound : t.address < p.nodes.size := (Array.getElem?_eq_some_iff.mp there).1
    simp only [grid, Thread.place, Finset.mem_filter, Finset.mem_product, Finset.mem_range]
    exact ⟨⟨bound, by omega⟩, fresh⟩
  have fewer : ((p.grid text).filter fun place => (seen.add t).met place = false) =
      ((p.grid text).filter fun place => seen.met place = false).erase t.place := by
    ext place
    have visited := Visits.met_add seen t place
    simp only [Finset.mem_filter, Finset.mem_erase, ← Bool.not_eq_true, visited]
    tauto
  have degree : p.degreeAt t.place.1 = node.degree := by simp [degreeAt, Thread.place, there]
  rw [ahead, fewer, ← degree]
  exact Finset.sum_erase_add _ _ known

theorem foldl_degree (nodes : List Node) (start : Nat) :
    nodes.foldl (fun n node => n + node.degree) start =
      start + ∑ address ∈ Finset.range nodes.length, (nodes[address]?).elim 0 Node.degree := by
  induction nodes generalizing start with
  | nil => simp
  | cons node nodes ih =>
    rw [List.foldl_cons, ih, List.length_cons, Finset.sum_range_succ']
    simp only [List.getElem?_cons_succ, List.getElem?_cons_zero, Option.elim_some]
    omega

theorem ahead_empty (p : Program) (text : Text) :
    p.rounds text = 2 * (text.size + 1) + p.ahead text .empty + 1 := by
  have everything : p.ahead text .empty =
      (text.size + 1) * ∑ address ∈ Finset.range p.nodes.size, p.degreeAt address := by
    unfold ahead grid
    rw [Finset.filter_true_of_mem fun place _ => Visits.met_empty place, Finset.sum_product,
      Finset.mul_sum]
    simp
  have degrees : p.nodes.foldl (fun n node => n + node.degree) 2 =
      2 + ∑ address ∈ Finset.range p.nodes.size, p.degreeAt address := by
    rw [← Array.foldl_toList, foldl_degree]
    simp [degreeAt]
  rw [rounds, degrees, everything]
  ring

theorem explore_complete : ∀ {fuel seen next waiting}, p.Explored text low next seen waiting →
    (∀ t ∈ waiting, t.pos ≤ text.size) →
    waiting.length + 2 * (text.size + 1 - next) + p.ahead text seen < fuel →
    p.explore text fuel seen next waiting = none → ∀ t, p.Reached text low t → ¬ p.Accepts t
  | 0, _, _, _, _, _, enough, _ => by omega
  | fuel + 1, seen, next, [], explored, _, enough, missed => by
    rw [explore] at missed
    split at missed
    · rename_i inside
      refine explore_complete explored.setOut (by simpa [Thread.setOut] using inside) ?_ missed
      simp only [List.length_singleton, List.length_nil] at enough ⊢
      omega
    · rintro t ⟨s, n, after, within, runs⟩
      exact explored.not_accepts after (by omega) runs
  | fuel + 1, seen, next, t :: waiting, explored, inside, enough, missed => by
    obtain ⟨first, others⟩ := List.forall_mem_cons.mp inside
    rw [List.length_cons] at enough
    rw [explore] at missed
    split at missed
    · rename_i visited
      exact explore_complete (explored.drop (.inl visited)) others (by omega) missed
    · rename_i fresh
      split at missed
      · rename_i outside
        exact explore_complete (explored.drop (.inr outside)) others (by omega) missed
      · contradiction
      · rename_i node goes there
        refine explore_complete (explored.follow there goes) (fun u member => ?_) ?_ missed
        · rcases List.mem_append.mp member with new | old
          · exact pos_le_of_step first new
          · exact others u old
        · have spent := ahead_add (by simpa using fresh) first there
          have handed := length_step_le text node t
          rw [List.length_append]
          omega

/-! ### Searching -/

/-- What a search finds was noted by a thread that has come to the end of the program. -/
theorem search_eq_some (found : p.search text start = some m) :
    ∃ t, p.Reached text start t ∧ p.Accepts t ∧ m = ⟨t.start, t.pos, t.marks⟩ :=
  explore_sound (Nat.le_refl start) (by simp) found

theorem search_eq_none (missed : p.search text start = none) (t : Thread)
    (reached : p.Reached text start t) : ¬ p.Accepts t := by
  have explored : p.Explored text start start .empty [] := by
    refine ⟨fun t visited => ?_, fun t u visited => ?_, fun s after before => by omega⟩
    · simp [Visits.has_eq_met, Visits.met_empty] at visited
    · simp [Visits.has_eq_met, Visits.met_empty] at visited
  refine explore_complete explored (by simp) ?_ missed t reached
  rw [ahead_empty]
  simp only [List.length_nil]
  omega

/-- A search finds something just if a thread can come to the end of the program. -/
theorem isSome_search : (p.search text start).isSome ↔
    ∃ t, p.Reached text start t ∧ p.Accepts t := by
  cases found : p.search text start with
  | none => simpa using search_eq_none found
  | some m =>
    obtain ⟨t, reached, accepts, _⟩ := search_eq_some found
    simpa using ⟨t, reached, accepts⟩

end Program

end Construe.Pattern
