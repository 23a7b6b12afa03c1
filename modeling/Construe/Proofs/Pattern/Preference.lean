import Construe.Proofs.Pattern.Exploration

/-! # Which match is found

Of all matches a search finds one that starts leftmost, and of those the one that the program
prefers: at every choice the first way that leads to the end at all. Threads that get nowhere are
followed and given up, and leave no trace but the places they have been to, from where nothing
leads to the end either. -/
namespace Construe.Pattern

variable {p : Program} {text : Text}

theorem Node.map_place_step (text : Text) (node : Node) (same : t.place = u.place) :
    (node.step text t).map Thread.place = (node.step text u).map Thread.place := by
  obtain ⟨address, pos, start, marks⟩ := t
  obtain ⟨address', pos', start', marks'⟩ := u
  obtain ⟨rfl, rfl⟩ : address = address' ∧ pos = pos' := by simpa [Thread.place] using same
  cases node with
  | take set next =>
    simp only [Node.step]
    split
    · split <;> rfl
    · rfl
  | check kind next =>
    simp only [Node.step]
    split <;> rfl
  | mark | accept => rfl
  | split next => simp [Node.step, Thread.place]

namespace Program

/-! ### Lost threads -/

/-- The thread never comes to the end of the program. -/
def Lost (p : Program) (text : Text) (t : Thread) : Prop :=
  ∀ n u, p.Runs text n t u → ¬ p.Accepts u

theorem Runs.of_place (runs : p.Runs text n t u) (same : t.place = t'.place) :
    ∃ u', p.Runs text n t' u' ∧ u.place = u'.place := by
  induction runs generalizing t' with
  | here => exact ⟨t', .here t', same⟩
  | step head _ ih =>
    obtain ⟨v, step, same⟩ := head.of_place same
    obtain ⟨u', rest, same⟩ := ih same
    exact ⟨u', .step step rest, same⟩

namespace Lost

theorem of_place (lost : p.Lost text t) (same : t.place = u.place) : p.Lost text u := by
  intro n v runs accepts
  obtain ⟨v', runs, place⟩ := runs.of_place same.symm
  refine lost n v' runs ?_
  rwa [Accepts, ← show v.address = v'.address from congrArg Prod.fst place]

theorem step (lost : p.Lost text t) (step : p.Step text t u) : p.Lost text u :=
  fun n v runs => lost (n + 1) v (.step step runs)

/-- A thread is lost if it is not at the end and all that follow it are lost. -/
theorem intro (unfinished : ¬ p.Accepts t) (onward : ∀ u, p.Step text t u → p.Lost text u) :
    p.Lost text t := by
  intro n v runs
  cases runs with
  | here => exact unfinished
  | step head rest => exact onward _ head _ _ rest

end Lost

/-! ### The preferred way -/

/-- The thread comes to the end in some steps, and at each of them the ways that would have been
preferred are lost. -/
inductive Prefers (p : Program) (text : Text) : Nat → Thread → Thread → Prop where
  | here : p.Accepts t → Prefers p text 0 t t
  | step {node : Node} {lost others : List Thread} : p.nodes[t.address]? = some node →
      node.step text t = lost ++ u :: others → (∀ d ∈ lost, p.Lost text d) →
      Prefers p text n u v → Prefers p text (n + 1) t v

namespace Prefers

theorem runs (prefers : p.Prefers text n t v) : p.Runs text n t v ∧ p.Accepts v := by
  induction prefers with
  | here accepts => exact ⟨.here _, accepts⟩
  | step there steps _ _ ih =>
    exact ⟨.step ⟨_, there, by simp [steps]⟩ ih.1, ih.2⟩

theorem not_lost (prefers : p.Prefers text n t v) : ¬ p.Lost text t :=
  fun lost => lost n v prefers.runs.1 prefers.runs.2

theorem node_ne_accept (prefers : p.Prefers text (n + 1) t v)
    (there : p.nodes[t.address]? = some node) : node ≠ .accept := by
  rintro rfl
  cases prefers with
  | step found steps =>
    rw [there] at found
    cases found
    simp [Node.step] at steps

/-- The first thread that is not lost is at the same place in both lists. -/
theorem place_of_first {lost lost' others others' : List Thread}
    (same : (lost ++ u :: others).map Thread.place = (lost' ++ u' :: others').map Thread.place)
    (before : ∀ d ∈ lost, p.Lost text d) (before' : ∀ d ∈ lost', p.Lost text d)
    (found : ¬ p.Lost text u) (found' : ¬ p.Lost text u') : u.place = u'.place := by
  induction lost generalizing lost' with
  | nil =>
    cases lost' with
    | nil => exact (List.cons.inj same).1
    | cons d lost' =>
      have lost : p.Lost text d := before' d List.mem_cons_self
      exact absurd (lost.of_place (List.cons.inj same).1.symm) found
  | cons d lost ih =>
    cases lost' with
    | nil =>
      have lost : p.Lost text d := before d List.mem_cons_self
      exact absurd (lost.of_place (List.cons.inj same).1) found'
    | cons d' lost' =>
      exact ih (List.cons.inj same).2 (fun e member => before e (List.mem_cons_of_mem _ member))
        (fun e member => before' e (List.mem_cons_of_mem _ member))

/-- How many steps the preferred way takes depends on the place alone. -/
theorem length_eq (one : p.Prefers text n t v) (other : p.Prefers text m u w)
    (same : t.place = u.place) : n = m := by
  have address {t u : Thread} (same : t.place = u.place) : t.address = u.address :=
    congrArg Prod.fst same
  induction one generalizing m u with
  | here accepts =>
    cases other with
    | here => rfl
    | step there steps lost rest =>
      refine absurd rfl ((Prefers.step there steps lost rest).node_ne_accept ?_)
      rwa [← address same]
  | @step _ _ _ _ node _ _ there steps lost rest ih =>
    cases other with
    | here accepts =>
      refine absurd rfl ((Prefers.step there steps lost rest).node_ne_accept ?_)
      rwa [address same]
    | step there' steps' lost' rest' =>
      rw [← address same, there] at there'
      cases there'
      have places := node.map_place_step text same
      rw [steps, steps'] at places
      rw [ih rest' (place_of_first places lost lost' rest.not_lost rest'.not_lost)]

end Prefers

/-! ### The search takes it -/

/-- From a visited place nothing leads to the end, or more steps than are left to be taken. -/
def Behind (p : Program) (text : Text) (n : Nat) (seen : Visits) : Prop :=
  ∀ u, seen.has u = true →
    p.Lost text u ∨ ∃ m t v, n < m ∧ p.Prefers text m t v ∧ t.place = u.place

theorem Behind.add_lost (behind : p.Behind text n seen) (lost : p.Lost text d) :
    p.Behind text n (seen.add d) := by
  intro u visited
  rcases (Visits.met_add seen d u.place).mp visited with same | visited
  · exact .inl (lost.of_place same.symm)
  · exact behind u visited

theorem Behind.add_passed (behind : p.Behind text (n + 1) seen)
    (prefers : p.Prefers text (n + 1) t v) : p.Behind text n (seen.add t) := by
  intro u visited
  rcases (Visits.met_add seen t u.place).mp visited with same | visited
  · exact .inr ⟨n + 1, t, v, Nat.lt_succ_self n, prefers, same.symm⟩
  · refine (behind u visited).imp id ?_
    rintro ⟨m, t, v, more, prefers, same⟩
    exact ⟨m, t, v, by omega, prefers, same⟩

theorem Behind.fresh (behind : p.Behind text n seen) (prefers : p.Prefers text n t v) :
    ¬ seen.has t = true := by
  intro visited
  rcases behind t visited with lost | ⟨m, u, w, more, other, same⟩
  · exact prefers.not_lost lost
  · have := other.length_eq prefers same
    omega

/-- One round on a lost thread leaves lost threads in its place. -/
theorem explore_lost (lost : p.Lost text d)
    (found : p.explore text (fuel + 1) seen next (d :: waiting) = some m) :
    ∃ seen' new, p.explore text fuel seen' next (new ++ waiting) = some m ∧
      (seen' = seen ∨ seen' = seen.add d) ∧ ∀ u ∈ new, p.Lost text u := by
  rw [explore] at found
  split at found
  · exact ⟨seen, [], found, .inl rfl, by simp⟩
  · split at found
    · exact ⟨seen, [], found, .inl rfl, by simp⟩
    · rename_i accepts
      exact absurd accepts (lost 0 d (.here d))
    · rename_i node _ there
      exact ⟨seen.add d, node.step text d, found, .inr rfl,
        fun u member => lost.step ⟨node, there, member⟩⟩

/-- Once a thread that is not lost is waited for, with none but lost ones before it, the search ends
where that thread prefers to. -/
theorem explore_prefers : ∀ {fuel seen next n lost t rest}, p.Behind text n seen →
    (∀ d ∈ lost, p.Lost text d) → p.Prefers text n t v →
    p.explore text fuel seen next (lost ++ t :: rest) = some m → m = ⟨v.start, v.pos, v.marks⟩
  | 0, _, _, _, _, _, _, _, _, _, found => by simp [explore] at found
  | fuel + 1, seen, next, n, d :: lost, t, rest, behind, before, prefers, found => by
    obtain ⟨here, later⟩ := List.forall_mem_cons.mp before
    obtain ⟨seen', new, found, visits, gone⟩ := explore_lost here found
    have behind : p.Behind text n seen' := by
      rcases visits with rfl | rfl
      · exact behind
      · exact behind.add_lost here
    have found : p.explore text fuel seen' next (new ++ (lost ++ t :: rest)) = some m := found
    rw [← List.append_assoc] at found
    exact explore_prefers behind (List.forall_mem_append.mpr ⟨gone, later⟩) prefers found
  | fuel + 1, seen, next, n, [], t, rest, behind, _, prefers, found => by
    rw [List.nil_append, explore, if_neg (behind.fresh prefers)] at found
    cases prefers with
    | here accepts =>
      rw [Accepts] at accepts
      rw [accepts] at found
      exact (Option.some.inj found).symm
    | step there steps lost onward =>
      have whole := Prefers.step there steps lost onward
      have goes := whole.node_ne_accept there
      rw [there] at found
      split at found
      · contradiction
      · rename_i accept
        exact absurd (Option.some.inj accept) goes
      · rename_i node _ same
        cases same
        rw [steps, List.append_assoc] at found
        exact explore_prefers (behind.add_passed whole) lost onward found

/-- Threads that set out too early are lost, and the first that is not decides. -/
theorem explore_leftmost (prefers : p.Prefers text n (.setOut s) v) :
    ∀ {fuel seen next waiting}, (∀ u, seen.has u = true → p.Lost text u) →
    (∀ d ∈ waiting, p.Lost text d) → next ≤ s → (∀ i, next ≤ i → i < s → p.Lost text (.setOut i)) →
    p.explore text fuel seen next waiting = some m → m = ⟨v.start, v.pos, v.marks⟩
  | 0, _, _, _, _, _, _, _, found => by simp [explore] at found
  | fuel + 1, seen, next, [], visits, _, before, early, found => by
    rw [explore] at found
    split at found
    · rcases Nat.lt_or_eq_of_le before with earlier | rfl
      · have lost : p.Lost text (.setOut next) := early next (Nat.le_refl next) earlier
        exact explore_leftmost prefers visits (List.forall_mem_singleton.mpr lost) earlier
          (fun i after => early i (by omega)) found
      · have found : p.explore text fuel seen (next + 1) ([] ++ [.setOut next]) = some m := found
        exact explore_prefers (fun u visited => .inl (visits u visited)) (by simp) prefers found
    · contradiction
  | fuel + 1, seen, next, d :: waiting, visits, gone, before, early, found => by
    obtain ⟨here, later⟩ := List.forall_mem_cons.mp gone
    obtain ⟨seen', new, found, grown, lost⟩ := explore_lost here found
    refine explore_leftmost prefers ?_ (List.forall_mem_append.mpr ⟨lost, later⟩) before early found
    intro u visited
    rcases grown with rfl | rfl
    · exact visits u visited
    · rcases (Visits.met_add seen d u.place).mp visited with same | visited
      · exact here.of_place same.symm
      · exact visits u visited

/-- A search finds the preferred way of the first thread that is not lost. -/
theorem search_eq_of_prefers (after : low ≤ s) (inside : s ≤ text.size)
    (early : ∀ i, low ≤ i → i < s → p.Lost text (.setOut i))
    (prefers : p.Prefers text n (.setOut s) v) :
    p.search text low = some ⟨v.start, v.pos, v.marks⟩ := by
  obtain ⟨runs, accepts⟩ := prefers.runs
  have some : (p.search text low).isSome :=
    isSome_search.mpr ⟨v, ⟨s, n, after, inside, runs⟩, accepts⟩
  obtain ⟨m, found⟩ := Option.isSome_iff_exists.mp some
  have none u (visited : Visits.has .empty u = true) : p.Lost text u := by
    simp [Visits.has_eq_met, Visits.met_empty] at visited
  rw [found, explore_leftmost prefers none (by simp) after early found]

/-- A search finds nothing if all threads that set out are lost. -/
theorem search_eq_none_of_lost (lost : ∀ s, low ≤ s → s ≤ text.size → p.Lost text (.setOut s)) :
    p.search text low = none := by
  cases found : p.search text low with
  | none => rfl
  | some m =>
    obtain ⟨t, ⟨s, n, after, inside, runs⟩, accepts, _⟩ := search_eq_some found
    exact absurd accepts (lost s after inside n t runs)

end Program

end Construe.Pattern
