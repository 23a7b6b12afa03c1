import Construe.Interpreter

/-! # The values that interpreters give

Errors left aside, an interpreter is a partial function from texts to values. The equations here
say which one it is, by the values of its parts. -/
namespace Construe

theorem toOption_ok (b : β) : (.ok b : Except ε β).toOption = some b := rfl

theorem toOption_eq_some {x : Except ε β} {b : β} : x.toOption = some b ↔ x = .ok b := by
  cases x <;> simp [Except.toOption]

theorem exists_of_isOk {x : Except ε β} (ok : x.isOk = true) : ∃ b, x = .ok b := by
  cases x with
  | error => contradiction
  | ok b => exact ⟨b, rfl⟩

theorem toOption_bind (x : Except ε β) (f : β → Except ε γ) :
    (x >>= f).toOption = x.toOption.bind fun b => (f b).toOption := by
  cases x <;> rfl

theorem toOption_mapError (x : Except ε β) (f : ε → ε') : (x.mapError f).toOption = x.toOption := by
  cases x <;> rfl

/-- The value of an attempt that succeeds. -/
def Attempt.value? : Attempt α → Option (Value α)
  | .built value => some value
  | _ => none

namespace Interpreter

theorem toOption_firstSuccess (inOrder : List (Candidate α)) (input : String) :
    (firstSuccess inOrder input).toOption =
      inOrder.findSome? fun candidate => (attempt candidate input).value? := by
  induction inOrder with
  | nil =>
    rw [firstSuccess]
    rfl
  | cons candidate rest ih =>
    rw [firstSuccess, List.findSome?_cons, ← ih]
    cases attempt candidate input with
    | noMatch => rfl
    | rejected => exact toOption_mapError _ _
    | built => rfl

theorem toOption_candidates (target : TypeRef) (inOrder : List (Candidate α)) (input : String) :
    ((candidates target inOrder).interpret input).toOption =
      inOrder.findSome? fun candidate => (attempt candidate input).value? := by
  rw [interpret, toOption_mapError, toOption_firstSuccess]

theorem toOption_interpretItems (run : String → Except InterpretError (Value α))
    (pieces : List String) (index : Nat) :
    (interpretItems run index pieces).toOption = pieces.mapM fun piece => (run piece).toOption := by
  induction pieces generalizing index with
  | nil => rfl
  | cons piece pieces ih =>
    rw [interpretItems, List.mapM_cons, ← ih (index + 1)]
    cases run piece with
    | error => rfl
    | ok value => exact toOption_bind _ _

theorem toOption_sequence (target : TypeRef) (separator : Pattern) (item : Interpreter α)
    (collect : List (Value α) → Except ConstructionFailure (Value α)) (input : String) :
    ((sequence target separator item collect).interpret input).toOption =
      ((separator.split input).mapM fun piece => (item.interpret piece).toOption).bind
        fun values => (collect values).toOption := by
  rw [interpret, toOption_mapError, toOption_bind, toOption_interpretItems]
  simp only [toOption_mapError]

/-- Parameters and groups are taken in pairs, as far as there are both. -/
theorem interpretGroups_nil (index : Nat) (groups : List (Option String)) :
    interpretGroups ([] : List (Interpreter α)) index groups = .ok [] := by
  rw [interpretGroups] <;> simp

theorem interpretGroups_groups_nil (parameters : List (Interpreter α)) (index : Nat) :
    interpretGroups parameters index [] = .ok [] := by
  rw [interpretGroups] <;> simp

theorem toOption_interpretGroups (parameters : List (Interpreter α)) (index : Nat)
    (groups : List (Option String)) :
    (interpretGroups parameters index groups).toOption =
      (parameters.zip groups).mapM fun x => x.2.bind fun group =>
        (x.1.interpret group).toOption := by
  induction parameters generalizing index groups with
  | nil =>
    rw [interpretGroups_nil]
    rfl
  | cons parameter parameters ih =>
    rcases groups with _ | ⟨_ | group, groups⟩
    · rw [interpretGroups_groups_nil]
      rfl
    · rw [interpretGroups, List.zip_cons_cons, List.mapM_cons, Option.bind_none]
      rfl
    · rw [interpretGroups, List.zip_cons_cons, List.mapM_cons, ← ih (index + 1), Option.bind_some]
      cases parameter.interpret group with
      | error => rfl
      | ok value => exact toOption_bind _ _

theorem value?_attempt (pattern : String) (matcher : Pattern) (parameters : List (Interpreter α))
    (construct : List (Value α) → Except ConstructionFailure (Value α)) (input : String) :
    (attempt (.mk pattern matcher parameters construct) input).value? =
      (matcher.groups? input).bind fun groups =>
        Option.bind ((parameters.zip groups).mapM fun x => x.2.bind fun group =>
          (x.1.interpret group).toOption) fun values => (construct values).toOption := by
  rw [attempt]
  cases matcher.groups? input with
  | none => rfl
  | some groups =>
    rw [Option.bind_some, ← toOption_interpretGroups parameters 0]
    dsimp only
    cases interpretGroups parameters 0 groups with
    | error => rfl
    | ok values =>
      dsimp only [Except.toOption, Option.bind_some]
      cases construct values <;> rfl

theorem toOption_converter (target : TypeRef) (convert : Converter α) (input : String) :
    ((converter target convert).interpret input).toOption = convert input := by
  rw [interpret]
  cases convert input <;> rfl

theorem toOption_run (i : Interpreter α) (input : String) :
    (i.run input).toOption = (i.interpret input).toOption.filter (·.type = i.target) := by
  unfold run
  cases i.interpret input with
  | error => rfl
  | ok value =>
    show Except.toOption (if value.type = i.target then _ else _) = _
    by_cases typed : value.type = i.target
    · rw [if_pos typed]
      exact (Option.filter_some_pos (by simpa using typed)).symm
    · rw [if_neg typed]
      exact (Option.filter_some_neg (by simpa using typed)).symm

end Interpreter

end Construe
