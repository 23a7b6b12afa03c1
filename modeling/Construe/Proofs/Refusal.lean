import Mathlib
import Construe.Proofs.Groups

/-! # Why a text is refused

`Refuses` tells which error an interpreter owes for a text that it refuses, cause by cause down to
the last one: candidates that match are rejected one by one, and in each list of groups or items
the first that fails counts. An interpretation fails with these errors and with no others. -/
namespace Construe

/-! ### The first failure in a list -/

/-- Takes elements in order, up to the first that fails. A failure may name its index. -/
def takeInOrder (take : Nat → β → Except ε γ) : (index : Nat) → List β → Except ε (List γ)
  | _, [] => .ok []
  | index, x :: xs => do return (← take index x) :: (← takeInOrder take (index + 1) xs)

section TakeInOrder

variable {take : Nat → β → Except ε γ} {good : β → γ → Prop}

theorem takeInOrder_eq_ok (taken : ∀ index x y, take index x = .ok y ↔ good x y) {index : Nat}
    {xs : List β} {ys : List γ} :
    takeInOrder take index xs = .ok ys ↔ List.Forall₂ good xs ys := by
  induction xs generalizing index ys with
  | nil => simp [takeInOrder, eq_comm]
  | cons x xs ih =>
    simp only [takeInOrder, Build.bind_eq_ok, taken, ih, pure, Except.pure, Except.ok.injEq]
    constructor
    · rintro ⟨y, first, ys, others, rfl⟩
      exact .cons first others
    · rintro (_ | ⟨first, others⟩)
      exact ⟨_, first, _, others, rfl⟩

theorem takeInOrder_cons_eq_error {index : Nat} {x : β} {xs : List β} {e : ε} :
    takeInOrder take index (x :: xs) = .error e ↔ take index x = .error e ∨
      ∃ y, take index x = .ok y ∧ takeInOrder take (index + 1) xs = .error e := by
  simp [takeInOrder, Build.bind_eq_error, pure, Except.pure]

/-- Before the first failure all elements are taken, and none is tried after it. -/
theorem takeInOrder_eq_error (taken : ∀ index x y, take index x = .ok y ↔ good x y) {index : Nat}
    {xs : List β} {e : ε} :
    takeInOrder take index xs = .error e ↔ ∃ before x after ys, xs = before ++ x :: after ∧
      List.Forall₂ good before ys ∧ take (index + before.length) x = .error e := by
  constructor
  · intro failed
    induction xs generalizing index with
    | nil => simp [takeInOrder] at failed
    | cons x xs ih =>
      rcases takeInOrder_cons_eq_error.mp failed with here | ⟨y, first, later⟩
      · exact ⟨[], x, xs, [], rfl, .nil, here⟩
      · obtain ⟨before, z, after, ys, rfl, all, last⟩ := ih later
        refine ⟨x :: before, z, after, y :: ys, rfl, .cons ((taken _ _ _).mp first) all, ?_⟩
        rwa [List.length_cons, ← Nat.add_assoc, Nat.add_right_comm]
  · rintro ⟨before, x, after, ys, rfl, all, failed⟩
    induction all generalizing index with
    | nil => exact takeInOrder_cons_eq_error.mpr (.inl failed)
    | cons first _ ih =>
      refine takeInOrder_cons_eq_error.mpr (.inr ⟨_, (taken _ _ _).mpr first, ih ?_⟩)
      rwa [List.length_cons, ← Nat.add_assoc, Nat.add_right_comm] at failed

end TakeInOrder

/-! ### Causes -/

/-- The parameter reads the text of its group. -/
def Interpreter.Takes (x : Interpreter α × Option String) (value : Value α) : Prop :=
  ∃ text, x.2 = some text ∧ x.1.interpret text = .ok value

def Candidate.isMatch : Candidate α → String → Bool
  | .mk _ matcher _ _, input => matcher.isMatch input

open Interpreter (converterLabel itemsLabel Takes) in
mutual

/-- The interpreter refuses the text for the causes that the error names. -/
inductive Interpreter.Refuses : Interpreter α → String → InterpretError → Prop where
  | declined : convert input = none →
      Interpreter.Refuses (.converter target convert) input
        (.mk target input [.mk converterLabel .converterDeclined])
  | item {item : Interpreter α} {before after : List String} :
      separator.split input = before ++ piece :: after →
      List.Forall₂ (fun text value => item.interpret text = .ok value) before values →
      item.Refuses piece e →
      Interpreter.Refuses (.sequence target separator item collect) input
        (.mk target input [.mk (itemsLabel separator.source) (.item before.length e)])
  | collection {item : Interpreter α} {failure : ConstructionFailure} :
      List.Forall₂ (fun text value => item.interpret text = .ok value)
        (separator.split input) values →
      collect values = .error failure →
      Interpreter.Refuses (.sequence target separator item collect) input
        (.mk target input [.mk (itemsLabel separator.source) (.construction failure)])
  | candidates {inOrder : List (Candidate α)} :
      (inOrder.filter (·.isMatch input)).length = rejections.length →
      (∀ x ∈ (inOrder.filter (·.isMatch input)).zip rejections, x.1.Rejects input x.2) →
      Interpreter.Refuses (.candidates target inOrder) input (.mk target input rejections)

/-- The candidate matches the text and is rejected, for the cause that the rejection names. -/
inductive Candidate.Rejects : Candidate α → String → Rejection → Prop where
  | unmatched {parameters before after} : matcher.groups? input = some groups →
      parameters.zip groups = before ++ (parameter, none) :: after →
      List.Forall₂ Takes before values →
      Candidate.Rejects (.mk pattern matcher parameters construct) input
        (.mk pattern (.unmatchedGroup before.length))
  | parameter {parameters before after} : matcher.groups? input = some groups →
      parameters.zip groups = before ++ (parameter, some text) :: after →
      List.Forall₂ Takes before values → parameter.Refuses text e →
      Candidate.Rejects (.mk pattern matcher parameters construct) input
        (.mk pattern (.parameter before.length e))
  | construction {parameters : List (Interpreter α)} {failure : ConstructionFailure} :
      matcher.groups? input = some groups →
      List.Forall₂ Takes (parameters.zip groups) values → construct values = .error failure →
      Candidate.Rejects (.mk pattern matcher parameters construct) input
        (.mk pattern (.construction failure))

end

/-! ### Interpretation fails for these causes -/

namespace Interpreter

theorem interpretItems_eq_takeInOrder (run : String → Except InterpretError (Value α))
    (index : Nat) (pieces : List String) :
    interpretItems run index pieces =
      takeInOrder (fun n piece => (run piece).mapError (.item n)) index pieces := by
  induction pieces generalizing index with
  | nil => rfl
  | cons piece pieces ih =>
    rw [interpretItems, takeInOrder, ih]
    cases run piece <;> rfl

/-- What a parameter makes of its group. -/
def takeGroup (index : Nat) : Interpreter α × Option String → Except Reason (Value α)
  | (_, none) => .error (.unmatchedGroup index)
  | (parameter, some text) => (parameter.interpret text).mapError (.parameter index)

theorem interpretGroups_eq_takeInOrder (parameters : List (Interpreter α)) (index : Nat)
    (groups : List (Option String)) :
    interpretGroups parameters index groups =
      takeInOrder takeGroup index (parameters.zip groups) := by
  induction parameters generalizing index groups with
  | nil => exact interpretGroups_nil index groups
  | cons parameter parameters ih =>
    rcases groups with _ | ⟨_ | text, groups⟩
    · exact interpretGroups_groups_nil _ index
    · rw [interpretGroups]
      rfl
    · rw [interpretGroups, List.zip_cons_cons, takeInOrder, ih, takeGroup]
      cases parameter.interpret text <;> rfl

theorem mapError_eq_ok {x : Except ε β} {f : ε → ε'} : x.mapError f = .ok b ↔ x = .ok b := by
  cases x <;> simp [Except.mapError]

theorem mapError_eq_error {x : Except ε β} {f : ε → ε'} :
    x.mapError f = .error e' ↔ ∃ e, x = .error e ∧ e' = f e := by
  cases x <;> simp [Except.mapError, eq_comm]

theorem takeGroup_eq_ok (index : Nat) (x : Interpreter α × Option String) (value : Value α) :
    takeGroup index x = .ok value ↔ Takes x value := by
  obtain ⟨parameter, _ | text⟩ := x <;> simp [takeGroup, Takes, mapError_eq_ok]

theorem interpretItems_eq_ok {run : String → Except InterpretError (Value α)} {index : Nat} :
    interpretItems run index pieces = .ok values ↔
      List.Forall₂ (fun piece value => run piece = .ok value) pieces values := by
  rw [interpretItems_eq_takeInOrder]
  exact takeInOrder_eq_ok fun _ _ _ => mapError_eq_ok

theorem interpretItems_eq_error {run : String → Except InterpretError (Value α)} :
    interpretItems run 0 pieces = .error reason ↔ ∃ before piece after values e,
      pieces = before ++ piece :: after ∧
      List.Forall₂ (fun piece value => run piece = .ok value) before values ∧
      run piece = .error e ∧ reason = .item before.length e := by
  rw [interpretItems_eq_takeInOrder, takeInOrder_eq_error fun _ _ _ => mapError_eq_ok]
  simp [mapError_eq_error]

theorem interpretGroups_eq_ok {parameters : List (Interpreter α)} :
    interpretGroups parameters index groups = .ok values ↔
      List.Forall₂ Takes (parameters.zip groups) values := by
  rw [interpretGroups_eq_takeInOrder]
  exact takeInOrder_eq_ok takeGroup_eq_ok

theorem interpretGroups_eq_error {parameters : List (Interpreter α)} :
    interpretGroups parameters 0 groups = .error reason ↔ ∃ before x after values,
      parameters.zip groups = before ++ x :: after ∧ List.Forall₂ Takes before values ∧
      takeGroup before.length x = .error reason := by
  rw [interpretGroups_eq_takeInOrder, takeInOrder_eq_error takeGroup_eq_ok]
  simp

theorem interpretGroups_of_unmatched {parameters : List (Interpreter α)}
    (split : parameters.zip groups = before ++ (parameter, none) :: after)
    (taken : List.Forall₂ Takes before values) :
    interpretGroups parameters 0 groups = .error (.unmatchedGroup before.length) :=
  interpretGroups_eq_error.mpr ⟨_, _, _, _, split, taken, rfl⟩

theorem interpretGroups_of_refused {parameters : List (Interpreter α)}
    (split : parameters.zip groups = before ++ (parameter, some text) :: after)
    (taken : List.Forall₂ Takes before values) (refused : parameter.interpret text = .error e) :
    interpretGroups parameters 0 groups = .error (.parameter before.length e) :=
  interpretGroups_eq_error.mpr
    ⟨_, _, _, _, split, taken, mapError_eq_error.mpr ⟨e, refused, rfl⟩⟩

theorem isSome_groups? (p : Pattern) (input : String) :
    (p.groups? input).isSome = p.isMatch input := by
  simp [Pattern.groups?, Pattern.isMatch]

theorem attempt_eq_noMatch {candidate : Candidate α} :
    attempt candidate input = .noMatch ↔ candidate.isMatch input = false := by
  obtain ⟨pattern, matcher, parameters, construct⟩ := candidate
  rw [attempt, Candidate.isMatch, ← isSome_groups?]
  cases matcher.groups? input with
  | none => simp
  | some groups =>
    dsimp only
    cases interpretGroups parameters 0 groups with
    | error => simp
    | ok values =>
      dsimp only
      cases construct values <;> simp

theorem isMatch_of_attempt {candidate : Candidate α}
    (tried : attempt candidate input ≠ .noMatch) : candidate.isMatch input = true := by
  rwa [Ne, attempt_eq_noMatch, Bool.not_eq_false] at tried

theorem mem_of_zip_eq {parameters : List (Interpreter α)} {groups : List (Option String)}
    (split : parameters.zip groups = before ++ (parameter, group) :: after) :
    parameter ∈ parameters := by
  have paired : (parameter, group) ∈ parameters.zip groups := by simp [split]
  exact (List.of_mem_zip paired).1

/-- What is claimed of an interpreter: it fails with the errors that it owes. -/
def Exact (i : Interpreter α) : Prop := ∀ input e, i.interpret input = .error e ↔ i.Refuses input e

section Attempt

variable {candidate : Candidate α}

theorem rejects_of_attempt (parts : ∀ parameter ∈ candidate.parameters, parameter.Exact)
    (rejected : attempt candidate input = .rejected reason) :
    candidate.Rejects input (.mk candidate.pattern reason) := by
  obtain ⟨pattern, matcher, parameters, construct⟩ := candidate
  rw [attempt] at rejected
  cases matched : matcher.groups? input with
  | none => simp [matched] at rejected
  | some groups =>
    cases read : interpretGroups parameters 0 groups with
    | error cause =>
      simp only [matched, read, Attempt.rejected.injEq] at rejected
      subst rejected
      obtain ⟨before, ⟨parameter, _ | text⟩, after, values, split, taken, failed⟩ :=
        interpretGroups_eq_error.mp read
      · cases failed
        exact .unmatched matched split taken
      · obtain ⟨e, refused, rfl⟩ := mapError_eq_error.mp failed
        exact .parameter matched split taken ((parts _ (mem_of_zip_eq split) text e).mp refused)
    | ok values =>
      cases made : construct values with
      | ok value => simp [matched, read, made] at rejected
      | error failure =>
        simp only [matched, read, made, Attempt.rejected.injEq] at rejected
        exact rejected ▸ .construction matched (interpretGroups_eq_ok.mp read) made

theorem attempt_of_rejects (parts : ∀ parameter ∈ candidate.parameters, parameter.Exact)
    (rejects : candidate.Rejects input rejection) :
    attempt candidate input = .rejected rejection.reason ∧
      rejection.candidate = candidate.pattern := by
  cases rejects with
  | unmatched matched split taken =>
    simp [attempt, matched, interpretGroups_of_unmatched split taken, Rejection.reason,
      Rejection.candidate, Candidate.pattern]
  | parameter matched split taken refuses =>
    have refused := (parts _ (mem_of_zip_eq split) _ _).mpr refuses
    simp [attempt, matched, interpretGroups_of_refused split taken refused, Rejection.reason,
      Rejection.candidate, Candidate.pattern]
  | construction matched taken made =>
    simp [attempt, matched, interpretGroups_eq_ok.mpr taken, made, Rejection.reason,
      Rejection.candidate, Candidate.pattern]

end Attempt

/-- All candidates that match are rejected, each with a rejection of its own. -/
theorem firstSuccess_eq_error {inOrder : List (Candidate α)} :
    firstSuccess inOrder input = .error rejections ↔
      List.Forall₂ (fun candidate rejection =>
        attempt candidate input = .rejected rejection.reason ∧
          rejection.candidate = candidate.pattern)
        (inOrder.filter (·.isMatch input)) rejections := by
  induction inOrder generalizing rejections with
  | nil => simp [firstSuccess, eq_comm]
  | cons candidate inOrder ih =>
    rw [firstSuccess]
    cases tried : attempt candidate input with
    | noMatch =>
      rw [List.filter_cons_of_neg (by simpa using attempt_eq_noMatch.mp tried)]
      exact ih
    | rejected reason =>
      have matched := isMatch_of_attempt (by simp [tried] : attempt candidate input ≠ .noMatch)
      simp only [List.filter_cons, matched, if_true, mapError_eq_error, List.forall₂_cons_left_iff,
        ih, tried, Attempt.rejected.injEq]
      constructor
      · rintro ⟨others, each, rfl⟩
        exact ⟨_, others, ⟨rfl, rfl⟩, each, rfl⟩
      · rintro ⟨⟨label, cause⟩, others, ⟨rfl, rfl⟩, each, rfl⟩
        exact ⟨others, each, rfl⟩
    | built value =>
      have matched := isMatch_of_attempt (by simp [tried] : attempt candidate input ≠ .noMatch)
      simp [matched, List.forall₂_cons_left_iff, tried]

/-- Induction over an interpreter and the interpreters it is put together from. -/
@[elab_as_elim]
theorem byParts {motive : Interpreter α → Prop}
    (candidates : ∀ target inOrder,
      (∀ candidate ∈ inOrder, ∀ parameter ∈ candidate.parameters, motive parameter) →
      motive (.candidates target inOrder))
    (converter : ∀ target convert, motive (.converter target convert))
    (sequence : ∀ target separator item collect, motive item →
      motive (.sequence target separator item collect)) (i : Interpreter α) : motive i :=
  @Interpreter.rec α motive (fun candidate => ∀ parameter ∈ candidate.parameters, motive parameter)
    (fun inOrder => ∀ candidate ∈ inOrder, ∀ parameter ∈ candidate.parameters, motive parameter)
    (fun parameters => ∀ parameter ∈ parameters, motive parameter) candidates converter sequence
    (fun _ _ _ _ each => each) (List.forall_mem_nil _)
    (fun _ _ first others => List.forall_mem_cons.mpr ⟨first, others⟩) (List.forall_mem_nil _)
    (fun _ _ first others => List.forall_mem_cons.mpr ⟨first, others⟩) i

/-- A sequence fails at the first item that is refused, or when its items are put together. -/
theorem exact_sequence {item : Interpreter α} (exact_ : item.Exact) (target : TypeRef)
    (separator : Pattern) (collect : List (Value α) → Except ConstructionFailure (Value α)) :
    (sequence target separator item collect).Exact := by
  intro input e
  simp only [interpret, mapError_eq_error, Build.bind_eq_error, interpretItems_eq_error,
    interpretItems_eq_ok]
  constructor
  · rintro ⟨_, ⟨before, piece, after, values, e, split, taken, refused, rfl⟩ |
      ⟨values, taken, failure, failed, rfl⟩, rfl⟩
    · exact .item split taken ((exact_ piece e).mp refused)
    · exact .collection taken failed
  · intro refuses
    cases refuses with
    | item split taken refuses =>
      exact ⟨_, .inl ⟨_, _, _, _, _, split, taken, (exact_ _ _).mpr refuses, rfl⟩, rfl⟩
    | collection taken failed => exact ⟨_, .inr ⟨_, taken, _, failed, rfl⟩, rfl⟩

theorem exact_candidates {inOrder : List (Candidate α)}
    (parts : ∀ candidate ∈ inOrder, ∀ parameter ∈ candidate.parameters, parameter.Exact)
    (target : TypeRef) : (candidates target inOrder).Exact := by
  intro input e
  rw [interpret, mapError_eq_error]
  have parts' candidate (member : candidate ∈ inOrder.filter (·.isMatch input)) :=
    parts candidate (List.mem_filter.mp member).1
  constructor
  · rintro ⟨rejections, failed, rfl⟩
    obtain ⟨even, each⟩ := List.forall₂_iff_zip.mp (firstSuccess_eq_error.mp failed)
    refine .candidates even fun x member => ?_
    obtain ⟨candidate, label, cause⟩ := x
    obtain ⟨rejected, labelled⟩ := each member
    have rejects := rejects_of_attempt (parts' candidate (List.of_mem_zip member).1) rejected
    rwa [← labelled] at rejects
  · intro refuses
    cases refuses with
    | candidates even each =>
      refine ⟨_, firstSuccess_eq_error.mpr (List.forall₂_iff_zip.mpr ⟨even, ?_⟩), rfl⟩
      intro candidate rejection member
      exact attempt_of_rejects (parts' candidate (List.of_mem_zip member).1) (each _ member)

/-- An interpreter fails with the errors that it owes, and with no others. -/
theorem exact_interpret (i : Interpreter α) : i.Exact := by
  induction i using byParts with
  | candidates target inOrder parts => exact exact_candidates parts target
  | converter target convert =>
    intro input e
    rw [interpret]
    cases read : convert input with
    | none =>
      constructor
      · intro failed
        cases failed
        exact .declined read
      · intro refuses
        cases refuses with
        | declined => rfl
    | some value =>
      constructor
      · intro failed
        contradiction
      · intro refuses
        cases refuses with
        | declined declined => simp [read] at declined
  | sequence target separator item collect part =>
    exact exact_sequence part target separator collect

theorem Refuses.names (refuses : Refuses (i : Interpreter α) input e) :
    e.target = i.target ∧ e.input = input := by
  cases refuses <;> exact ⟨rfl, rfl⟩

/-- Values of a sound interpreter pass the check of their type. -/
theorem Sound.run_eq_interpret {schema : Schema α} {i : Interpreter α} (sound : i.Sound schema)
    (input : String) : i.run input = i.interpret input := by
  have delivers := sound.answers input
  rw [run]
  cases read : i.interpret input with
  | error => rfl
  | ok value =>
    rw [read] at delivers
    have typed : value.HasType i.target := delivers
    exact if_pos typed.type_eq

end Interpreter

namespace Registry

/-- Whatever was registered and asked for before, an interpreter that is built refuses texts with
the errors that it owes, and with no others: they name its target and the text, and the causes in
`Refuses`. Each of its candidates, and of those of its parts, is compiled from the pattern by which
rejections call it, and constructs by a declared constructor and the liftings that follow. If the
converters and the makers of lists keep to their types, these are also the errors of results. -/
theorem refusal_exact (schema : Schema α) (scalars : Bool)
    (converters : List (TypeRef × Converter α)) (ops : List (Operation α)) (names : List String)
    (key : Key) (i : Interpreter α)
    (answered : (((create scalars converters).run schema ops).ask schema names key).1 = .ok i) :
    (∀ input e, i.interpret input = .error e ↔ i.Refuses input e) ∧
    (∀ input e, i.interpret input = .error e → e.target = i.target ∧ e.input = input) ∧
    (∀ type inOrder, (Interpreter.candidates type inOrder).PartOf i →
      ∀ candidate ∈ inOrder, candidate.Compiled schema) ∧
    (schema.Typed → (∀ c ∈ converters, Converter.Typed c.2 c.1) → (∀ op ∈ ops, op.Typed) →
      ∀ input, i.run input = i.interpret input) := by
  refine ⟨i.exact_interpret, fun input e failed => ((i.exact_interpret input e).mp failed).names,
    ?_, fun typed keeps opsKeep => ?_⟩
  · have kept := keeps_compiled schema ops (keeps_create scalars converters)
    exact ((compiledAccount schema _).request (s := ⟨names, _, []⟩) kept key).2 trivial i answered
  · have registry : ((create scalars converters).run schema ops).Sound schema :=
      (sound_create scalars converters keeps).run typed ops opsKeep
    have suits : i.Suits schema key :=
      ((soundAccount typed _).request (s := ⟨names, _, []⟩) registry key).2 trivial i answered
    exact suits.2.run_eq_interpret

/-- A mark is a letter, which may have a second one; a gap lies between two marks. -/
def gaps : Schema Unit where
  declarations := [
    { name := "Mark"
      descriptor := {
        pattern := some "(a+)(b)?"
        constructor := some (.ofTypes [.scalar .char, .scalar .char] fun _ => .ok ()) } },
    { name := "Gap"
      descriptor := {
        pattern := some "([ab]+)-([ab]+)"
        constructor := some (.ofTypes [.declared "Mark", .declared "Mark"] fun _ => .ok ()) } }]

theorem gaps_typed : gaps.Typed := by
  intro d member
  simp only [gaps, List.mem_cons, List.not_mem_nil, or_false] at member
  rcases member with rfl | rfl <;> exact ⟨by simp, by simp⟩

/-- A gap is refused for its second mark, and that for the two letters that stand for one. -/
theorem gaps_refusal :
    ∃ i, (((create true []).run gaps [.request [] { type := .declared "Mark" }]).ask gaps []
        { type := .declared "Gap" }).1 = .ok i ∧
      i.Refuses "ab-aa" (.mk (.declared "Gap") "ab-aa"
        [.mk "([ab]+)-([ab]+)" (.parameter 1 (.mk (.declared "Mark") "aa"
          [.mk "(a+)(b)?" (.parameter 0 (.mk (.scalar .char) "aa"
            [.mk "<converter>" .converterDeclined]))]))]) ∧
      i.run "ab-aa" = i.interpret "ab-aa" := by
  generalize asked : (((create true []).run gaps [.request [] { type := .declared "Mark" }]).ask
    gaps [] { type := .declared "Gap" }).1 = answer
  have refused : answer.toOption.map (·.interpret "ab-aa") =
      some (.error (.mk (.declared "Gap") "ab-aa"
        [.mk "([ab]+)-([ab]+)" (.parameter 1 (.mk (.declared "Mark") "aa"
          [.mk "(a+)(b)?" (.parameter 0 (.mk (.scalar .char) "aa"
            [.mk "<converter>" .converterDeclined]))]))])) := by
    rw [← asked]
    cbv
  obtain ⟨i, built, failed⟩ := Option.map_eq_some_iff.mp refused
  obtain rfl := toOption_eq_some.mp built
  obtain ⟨owed, _, _, typed⟩ := refusal_exact gaps true [] _ [] _ i asked
  exact ⟨i, rfl, (owed _ _).mp failed, typed gaps_typed (by simp) (by simp [Operation.Typed]) _⟩

end Registry

end Construe
