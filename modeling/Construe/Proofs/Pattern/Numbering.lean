import Mathlib.Data.List.Nodup
import Construe.Proofs.Pattern.Captures
import Construe.Proofs.Pattern.Moves

/-! # The numbering of capture groups

Whatever the text, the reader numbers capture groups from one in the order in which they open, and
no two of them have one name. One round of reading opens at most one group. -/
namespace Construe.Pattern

mutual

/-- All capture groups of a structure, from left to right. -/
def Ast.groups : Ast → List Group
  | .repetition _ _ _ body => body.groups
  | .group (.capture index name) body => (index, name) :: body.groups
  | .group (.plain _) body => body.groups
  | .concat items => Ast.groupsAll items
  | .alternation branches => Ast.groupsAll branches
  | _ => []

def Ast.groupsAll : List Ast → List Group
  | [] => []
  | item :: items => item.groups ++ Ast.groupsAll items

end

namespace Ast

theorem groupsAll_append (xs ys : List Ast) :
    groupsAll (xs ++ ys) = groupsAll xs ++ groupsAll ys := by
  induction xs with
  | nil => rfl
  | cons x xs ih => rw [List.cons_append, groupsAll, groupsAll, ih, List.append_assoc]

theorem groups_ofItems (items : List Ast) : (ofItems items).groups = groupsAll items := by
  unfold ofItems
  split
  · rfl
  · simp [groupsAll]
  · rfl

theorem groups_ofBranches (branches : List Ast) :
    (ofBranches branches).groups = groupsAll branches := by
  unfold ofBranches
  split
  · rfl
  · simp [groupsAll]
  · rfl

mutual

theorem kept_sublist : ∀ ast : Ast, ast.kept.Sublist ast.groups
  | .empty | .flags _ | .letter _ | .dot | .assertion _ | .shorthand _ _ | .property _ _
  | .bracketed _ _ => .refl _
  | .repetition _ _ _ body => by
    rw [kept, groups]
    split
    · exact List.nil_sublist _
    · exact kept_sublist body
  | .group (.capture _ _) body => (kept_sublist body).cons_cons _
  | .group (.plain _) body => kept_sublist body
  | .concat items => keptAll_sublist items
  | .alternation branches => keptAll_sublist branches

theorem keptAll_sublist : ∀ items : List Ast, (keptAll items).Sublist (groupsAll items)
  | [] => .refl _
  | item :: items => (kept_sublist item).append (keptAll_sublist items)

end

end Ast

theorem Item.groups_toAst (item : Item) : item.toAst.groups = [] := by
  cases item <;> rfl

/-! ### Groups in the middle of reading -/

def Level.groups (l : Level) : List Group :=
  Ast.groupsAll l.branches.reverse ++ Ast.groupsAll l.items.reverse

/-- The group that a parenthesis opened, if it captures. -/
def GroupKind.groups : GroupKind → List Group
  | .capture index name => [(index, name)]
  | .plain _ => []

def Frame.groups (f : Frame) : List Group := f.outer.groups ++ f.kind.groups

/-- The groups that have been opened so far. -/
def ReadState.groups (s : ReadState) : List Group :=
  s.frames.reverse.flatMap Frame.groups ++ s.level.groups

theorem Level.groups_push (l : Level) (item : Ast) :
    (l.push item).groups = l.groups ++ item.groups := by
  simp [groups, push, Ast.groupsAll_append, Ast.groupsAll]

theorem Level.groups_nextBranch (l : Level) : l.nextBranch.groups = l.groups := by
  simp [groups, nextBranch, Ast.groupsAll_append, Ast.groupsAll, Ast.groups_ofItems]

theorem Level.groups_toAst (l : Level) : l.toAst.groups = l.groups := by
  simp [toAst, groups, nextBranch, Ast.groups_ofBranches, Ast.groupsAll_append, Ast.groupsAll,
    Ast.groups_ofItems]

theorem Ast.groups_group (kind : GroupKind) (body : Ast) :
    (Ast.group kind body).groups = kind.groups ++ body.groups := by
  cases kind <;> rfl

namespace ReadState

/-- What a round of reading does to the groups: it leaves them, or opens the next one. -/
def Continues (s s' : ReadState) : Prop :=
  (s'.groups = s.groups ∧ s'.captures = s.captures ∧ s'.names = s.names) ∨
  ∃ name : Option String, s'.groups = s.groups ++ [(s.captures + 1, name)] ∧
    s'.captures = s.captures + 1 ∧ s'.names = name.toList ++ s.names ∧
    ∀ n ∈ name, IsName n ∧ n ∉ s.names

theorem groups_push (s : ReadState) {item : Ast} (plain : item.groups = []) :
    (s.push item).groups = s.groups := by
  simp [groups, push, Level.groups_push, plain]

theorem continues_of_moves {s s' : ReadState} (moves : s.Move s') : s.Continues s' := by
  cases moves with
  | stay => exact .inl ⟨rfl, rfl, rfl⟩
  | item item => exact .inl ⟨s.groups_push item.groups_toAst, rfl, rfl⟩
  | bracketed => exact .inl ⟨s.groups_push rfl, rfl, rfl⟩
  | flags => exact .inl ⟨s.groups_push rfl, rfl, rfl⟩
  | plain =>
    refine .inl ⟨?_, rfl, rfl⟩
    simp [groups, Frame.groups, GroupKind.groups, Level.groups, Level.empty, Ast.groupsAll]
  | capture named =>
    refine .inr ⟨_, ?_, rfl, rfl, named⟩
    simp [groups, openCapture, Frame.groups, GroupKind.groups, Level.groups, Level.empty,
      Ast.groupsAll]
  | close shape =>
    refine .inl ⟨?_, rfl, rfl⟩
    simp [groups, shape, Level.groups_push, Ast.groups_group, Level.groups_toAst, Frame.groups]
  | branch => exact .inl ⟨by simp [groups, Level.groups_nextBranch], rfl, rfl⟩
  | repeats newest =>
    refine .inl ⟨?_, rfl, rfl⟩
    simp [groups, Level.groups, newest, Ast.groupsAll_append, Ast.groupsAll, Ast.groups]

/-- The groups so far are numbered in their order; their names are kept, and all different. -/
structure Numbered (s : ReadState) : Prop where
  count : s.groups.length = s.captures
  indices : NumberedFrom 0 s.groups
  names : ∀ g ∈ s.groups, ∀ n ∈ g.2, IsName n
  used : s.names = (s.groups.filterMap Prod.snd).reverse
  distinct : s.names.Nodup

theorem Numbered.step {s s' : ReadState} (numbered : s.Numbered) (moves : s.Move s') :
    s'.Numbered := by
  rcases continues_of_moves moves with
    ⟨groups, captures, names⟩ | ⟨name, groups, captures, names, named⟩
  · exact ⟨by rw [groups, captures, numbered.count], groups ▸ numbered.indices,
      groups ▸ numbered.names, by rw [names, groups, numbered.used], names ▸ numbered.distinct⟩
  · constructor
    · rw [groups, captures, List.length_append, numbered.count]
      rfl
    · rw [groups, numberedFrom_append, numbered.count]
      exact ⟨numbered.indices, by simp [NumberedFrom]⟩
    · rw [groups, List.forall_mem_append]
      exact ⟨numbered.names, List.forall_mem_singleton.mpr fun n member => (named n member).1⟩
    · rw [names, groups, List.filterMap_append, List.reverse_append, numbered.used]
      cases name <;> rfl
    · rw [names]
      cases name with
      | none => exact numbered.distinct
      | some n => exact List.nodup_cons.mpr ⟨(named n rfl).2, numbered.distinct⟩

theorem numbered_initial : initial.Numbered := by
  have none : initial.groups = [] := rfl
  exact ⟨rfl, none ▸ rfl, by simp [none], by rw [none]; rfl, .nil⟩

theorem groups_eq_toAst {s : ReadState} (outside : s.frames = []) :
    s.groups = s.level.toAst.groups := by
  rw [groups, outside, Level.groups_toAst]
  rfl

end ReadState

/-- The groups of a pattern are numbered from one; their names are names, and all different. -/
theorem Ast.names_ofString {pattern : String} {ast : Ast} (read : ofString pattern = .ok ast) :
    NumberedFrom 0 ast.groups ∧ (∀ g ∈ ast.groups, ∀ n ∈ g.2, IsName n) ∧
      (ast.groups.filterMap Prod.snd).Nodup := by
  obtain ⟨s, numbered, outside, rfl⟩ := ReadState.readFrom_of_moves (P := ReadState.Numbered) .step
    ReadState.numbered_initial (ofString_eq_ok read).1
  rw [← ReadState.groups_eq_toAst outside]
  exact ⟨numbered.indices, numbered.names,
    List.nodup_reverse.mp (numbered.used ▸ numbered.distinct)⟩

theorem Ast.numbered_ofString {pattern : String} {ast : Ast} (read : ofString pattern = .ok ast) :
    NumberedFrom 0 ast.groups ∧ Proper ast.groups := by
  obtain ⟨indices, names, _⟩ := names_ofString read
  exact ⟨indices, fun g member n named => (names g member n named).proper⟩

theorem Ast.nodup_kept {pattern : String} {ast : Ast} (read : ofString pattern = .ok ast) :
    ast.kept.Nodup := by
  have indices := (numbered_ofString read).1
  exact (List.Nodup.of_map _ (indices ▸ List.nodup_range')).sublist ast.kept_sublist

end Construe.Pattern
