import Mathlib.Data.List.TakeWhile
import Construe.Pattern.Reader
import Construe.Proofs.Building

/-! # What a round of reading does

A round puts an item or a class down, opens or closes a group, ends a branch or repeats the newest
item. What it puts down is sound: the ranges of a class are in order, bounds are in order and small
enough to be counts, and a name is a new one. So everything that is read is sound. -/
namespace Construe.Pattern

open Build (bind_eq_ok)

/-- How often a repetition goes round. -/
abbrev Bounds := Nat × Option Nat

/-- Bounds in their order. -/
def Bounds.Ordered (b : Bounds) : Prop := ∀ m ∈ b.2, b.1 ≤ m

/-- Bounds that can be counts. -/
structure Bounds.Fine (b : Bounds) : Prop where
  ordered : b.Ordered
  low : b.1 < 4294967296
  high : ∀ m ∈ b.2, m < 4294967296

theorem lt_of_readCount {n : Nat} (read : readCount verbose cs = .ok (some n, rest)) :
    n < 4294967296 := by
  unfold readCount at read
  dsimp only at read
  split at read
  · cases read
  · split at read
    · cases read
      assumption
    · contradiction

theorem fine_readBounds {b : Bounds} (read : readBounds verbose cs = .ok (b, rest)) : b.Fine := by
  obtain ⟨⟨low, _⟩, first, read⟩ := bind_eq_ok.mp read
  cases low with
  | none => contradiction
  | some low =>
    have small := lt_of_readCount first
    dsimp only at read
    split at read
    · cases read
      exact ⟨by simp [Bounds.Ordered], small, by simpa using small⟩
    · split at read
      · cases read
        exact ⟨by simp [Bounds.Ordered], small, by simp⟩
      · obtain ⟨⟨high, _⟩, second, read⟩ := bind_eq_ok.mp read
        dsimp only at read
        split at read
        · split at read
          · rename_i order
            cases read
            exact ⟨by simpa [Bounds.Ordered] using order, small,
              by simpa using lt_of_readCount second⟩
          · contradiction
        · contradiction
    · contradiction

/-! ### Classes -/

/-- The ranges that are written with a hyphen go up. -/
inductive ClassSet.Ordered : ClassSet → Prop where
  | empty : Ordered .empty
  | letter : Ordered (.letter c)
  | range : first.char ≤ last.char → Ordered (.range first last)
  | posix : Ordered (.posix negated kind)
  | shorthand : Ordered (.shorthand negated kind)
  | property : Ordered (.property negated name)
  | bracketed {inner : ClassSet} : Ordered inner → Ordered (.bracketed negated inner)
  | union : (∀ item ∈ items, Ordered item) → Ordered (.union items)
  | op : Ordered left → Ordered right → Ordered (.op kind left right)

theorem ClassSet.ordered_ofItems {items : List ClassSet} (each : ∀ item ∈ items, item.Ordered) :
    (ClassSet.ofItems items).Ordered := by
  unfold ofItems
  split
  · exact .empty
  · exact each _ List.mem_cons_self
  · exact .union each

theorem Item.ordered_toClassSet {item : Item} {set : ClassSet} (made : item.toClassSet = .ok set) :
    set.Ordered := by
  cases item with
  | letter =>
    cases made
    exact .letter
  | shorthand =>
    cases made
    exact .shorthand
  | property =>
    cases made
    exact .property
  | dot => contradiction
  | assertion => contradiction

theorem ordered_readClassRange {set : ClassSet}
    (read : readClassRange verbose cs = .ok (set, rest)) : set.Ordered := by
  have single {item : Item} {after : List Char}
      (made : (do return (← item.toClassSet, after)) = Except.ok (set, rest)) : set.Ordered := by
    obtain ⟨_, fits, same⟩ := bind_eq_ok.mp made
    cases same
    exact item.ordered_toClassSet fits
  obtain ⟨⟨first, _⟩, _, read⟩ := bind_eq_ok.mp read
  dsimp only at read
  split at read
  · contradiction
  · split at read
    · exact single read
    · obtain ⟨⟨last, _⟩, _, read⟩ := bind_eq_ok.mp read
      obtain ⟨lo, _, read⟩ := bind_eq_ok.mp read
      obtain ⟨hi, _, read⟩ := bind_eq_ok.mp read
      split at read
      · cases read
        exact .range ‹_›
      · contradiction
  · exact single read

theorem ordered_posixClass? {set : ClassSet} (read : posixClass? cs = some (set, rest)) :
    set.Ordered := by
  unfold posixClass? at read
  split at read
  · dsimp only at read
    split at read
    · obtain ⟨_, _, same⟩ := Option.map_eq_some_iff.mp read
      cases same
      exact .posix
    · contradiction
  · contradiction

theorem ordered_readHyphens {items items' : List ClassSet} (each : ∀ item ∈ items, item.Ordered)
    (read : readHyphens verbose inComment items cs = (items', rest)) :
    ∀ item ∈ items', item.Ordered := by
  fun_induction readHyphens verbose inComment items cs with
  | case1 =>
    cases read
    exact each
  | case2 _ _ _ ih => exact ih each read
  | case3 _ _ _ _ _ _ ih => exact ih each read
  | case4 _ _ _ _ _ _ _ ih => exact ih each read
  | case5 _ _ _ _ _ _ _ _ ih => exact ih (List.forall_mem_cons.mpr ⟨.letter, each⟩) read
  | case6 =>
    cases read
    exact each

theorem ordered_readOpening (read : readOpening verbose cs = .ok ((negated, items), rest)) :
    ∀ item ∈ items, item.Ordered := by
  unfold readOpening at read
  dsimp only at read
  split at read
  · contradiction
  · split at read
    · contradiction
    · cases read
      exact List.forall_mem_singleton.mpr .letter
  · rename_i hyphens
    cases read
    exact ordered_readHyphens (by simp) hyphens

/-- What waits in a frame is in order. -/
def ClassFrame.Ordered : ClassFrame → Prop
  | .opened before _ => ∀ item ∈ before, item.Ordered
  | .pending _ left => left.Ordered

/-- All that has been read of a class is in order. -/
structure ClassState.Ordered (s : ClassState) : Prop where
  items : ∀ item ∈ s.items, item.Ordered
  frames : ∀ frame ∈ s.frames, frame.Ordered

theorem ordered_applyPending {right : ClassSet} {frames : List ClassFrame} (last : right.Ordered)
    (each : ∀ frame ∈ frames, frame.Ordered) :
    (applyPending right frames).1.Ordered ∧
      ∀ frame ∈ (applyPending right frames).2, frame.Ordered := by
  unfold applyPending
  split
  · obtain ⟨first, others⟩ := List.forall_mem_cons.mp each
    exact ⟨.op first last, others⟩
  · exact ⟨last, each⟩

namespace ClassState.Ordered

theorem applied {s : ClassState} (ordered : s.Ordered) :
    (applyPending (.ofItems s.items.reverse) s.frames).1.Ordered ∧
      ∀ frame ∈ (applyPending (.ofItems s.items.reverse) s.frames).2, frame.Ordered :=
  ordered_applyPending (ClassSet.ordered_ofItems (by simpa using ordered.items)) ordered.frames

theorem push {s : ClassState} (ordered : s.Ordered) {item : ClassSet} (new : item.Ordered) :
    ClassState.Ordered ⟨item :: s.items, s.frames⟩ :=
  ⟨List.forall_mem_cons.mpr ⟨new, ordered.items⟩, ordered.frames⟩

theorem pushOp {s : ClassState} (ordered : s.Ordered) (kind : SetOp) : (s.pushOp kind).Ordered :=
  ⟨by simp [ClassState.pushOp], List.forall_mem_cons.mpr ordered.applied⟩

theorem close {s : ClassState} (ordered : s.Ordered) (closed : s.close = .ok x) :
    (∀ negated set, x = .inl (negated, set) → set.Ordered) ∧ ∀ t, x = .inr t → t.Ordered := by
  obtain ⟨made, others⟩ := ordered.applied
  unfold ClassState.close at closed
  dsimp only at closed
  split at closed
  · cases closed
    refine ⟨?_, by simp⟩
    rintro _ _ ⟨⟩
    exact made
  · rename_i frames _ shape
    cases closed
    rw [shape] at others
    obtain ⟨before, rest⟩ := List.forall_mem_cons.mp others
    refine ⟨by simp, ?_⟩
    rintro _ ⟨⟩
    exact ⟨List.forall_mem_cons.mpr ⟨.bracketed made, before⟩, rest⟩
  · contradiction

theorem readClassFrom {fuel : Nat} {s : ClassState} {set : ClassSet} (ordered : s.Ordered)
    (read : readClassFrom verbose fuel s cs = .ok ((negated, set), rest)) : set.Ordered := by
  induction fuel generalizing s cs with
  | zero => contradiction
  | succ fuel ih =>
    rw [Pattern.readClassFrom] at read
    split at read
    · contradiction
    · split at read
      · rename_i named
        exact ih (ordered.push (ordered_posixClass? named)) read
      · obtain ⟨⟨⟨_, items⟩, _⟩, opened, read⟩ := bind_eq_ok.mp read
        refine ih ⟨ordered_readOpening opened, ?_⟩ read
        exact List.forall_mem_cons.mpr ⟨ordered.items, ordered.frames⟩
    · obtain ⟨x, closed, read⟩ := bind_eq_ok.mp read
      obtain ⟨last, inner⟩ := ordered.close closed
      cases x with
      | inl result =>
        cases read
        exact last _ _ rfl
      | inr t => exact ih (inner t rfl) read
    · exact ih (ordered.pushOp .inter) read
    · exact ih (ordered.pushOp .diff) read
    · exact ih (ordered.pushOp .symmDiff) read
    · obtain ⟨⟨item, _⟩, ranged, read⟩ := bind_eq_ok.mp read
      exact ih (ordered.push (ordered_readClassRange ranged)) read

end ClassState.Ordered

theorem ordered_readClass {inner : ClassSet}
    (read : readClass verbose cs = .ok ((negated, inner), rest)) : inner.Ordered := by
  obtain ⟨⟨⟨_, items⟩, _⟩, opened, read⟩ := bind_eq_ok.mp read
  have start : ClassState.Ordered ⟨items, [.opened [] ‹_›]⟩ :=
    ⟨ordered_readOpening opened, by simp [ClassFrame.Ordered]⟩
  exact start.readClassFrom read

/-! ### Rounds -/

/-- A name that a group can have. -/
structure IsName (name : String) : Prop where
  proper : '>' ∉ name.toList
  letters : ∃ first others, name.toList = first :: others ∧ isNameStart first = true ∧
    others.all isNameChar = true

theorem isName_readGroupName {used : List String} {name : String}
    (read : readGroupName used cs = .ok (name, rest)) : IsName name ∧ name ∉ used := by
  unfold readGroupName at read
  dsimp only at read
  split at read
  · rename_i first others rest' start _
    split at read
    · rename_i fit
      cases read
      simp only [Bool.and_eq_true, Bool.not_eq_true', List.contains_eq_mem, decide_eq_false_iff_not]
        at fit
      refine ⟨⟨fun member => ?_, first, others, ?_, fit.1.1, fit.1.2⟩, fit.2⟩
      · rw [String.toList_ofList] at member
        simpa using List.mem_takeWhile_imp member
      · rw [String.toList_ofList, start]
    · contradiction
  · contradiction

namespace ReadState

/-- What one round of reading makes of a state. -/
inductive Move (s : ReadState) : ReadState → Prop where
  | stay : Move s s
  | item (item : Item) : Move s (s.push item.toAst)
  | bracketed {inner : ClassSet} : inner.Ordered → Move s (s.push (.bracketed negated inner))
  | flags {change : FlagChange} {verbose : Bool} : Move s { s.push (.flags change) with verbose }
  | plain {change : FlagChange} {verbose : Bool} : Move s { s with
      level := .empty, frames := ⟨s.level, .plain change, s.verbose⟩ :: s.frames, verbose }
  | capture : (∀ n ∈ name, IsName n ∧ n ∉ s.names) → Move s (s.openCapture name)
  | close {frame : Frame} {others : List Frame} : s.frames = frame :: others → Move s { s with
      level := frame.outer.push (.group frame.kind s.level.toAst), frames := others,
      verbose := frame.verbose }
  | branch : Move s { s with level := s.level.nextBranch }
  | repeats {b : Bounds} : s.level.items = item :: items → b.Fine → Move s { s with
      level := { s.level with items := .repetition b.1 b.2 greedy item :: items } }

theorem moves_openNamed {s s' : ReadState} (done : s.openNamed cs = .ok (s', rest)) :
    s.Move s' := by
  obtain ⟨⟨name, _⟩, read, same⟩ := bind_eq_ok.mp done
  cases same
  exact .capture (by simpa using isName_readGroupName read)

theorem moves_openGroup {s s' : ReadState} (done : s.openGroup cs = .ok (s', rest)) :
    s.Move s' := by
  unfold openGroup at done
  split at done
  · contradiction
  · contradiction
  · contradiction
  · contradiction
  · exact moves_openNamed done
  · exact moves_openNamed done
  · obtain ⟨⟨flags, stop, _⟩, _, done⟩ := bind_eq_ok.mp done
    dsimp only at done
    split at done
    · split at done
      · contradiction
      · cases done
        exact .flags
    · cases done
      exact .plain
  · cases done
    exact .capture (by simp)

theorem moves_quantify {s s' : ReadState} {b : Bounds} (fine : b.Fine)
    (done : s.quantify b.1 b.2 cs = .ok (s', rest)) : s.Move s' := by
  unfold quantify at done
  obtain ⟨level, repeated, same⟩ := bind_eq_ok.mp done
  cases same
  unfold Level.repeatLast at repeated
  split at repeated
  · contradiction
  · contradiction
  · contradiction
  · rename_i newest
    cases repeated
    exact .repeats newest fine

theorem moves_step {s s' : ReadState} (done : s.step cs = .ok (s', rest)) : s.Move s' := by
  unfold step at done
  split at done
  · cases done
    exact .stay
  · exact moves_openGroup done
  · obtain ⟨_, closed, same⟩ := bind_eq_ok.mp done
    cases same
    unfold closeGroup at closed
    split at closed
    · contradiction
    · cases closed
      exact .close ‹_›
  · cases done
    exact .branch
  · obtain ⟨⟨⟨negated, inner⟩, _⟩, read, same⟩ := bind_eq_ok.mp done
    cases same
    exact .bracketed (ordered_readClass read)
  · exact moves_quantify (b := (0, some 1)) ⟨by simp [Bounds.Ordered], by simp, by simp⟩ done
  · exact moves_quantify (b := (0, none)) ⟨by simp [Bounds.Ordered], by simp, by simp⟩ done
  · exact moves_quantify (b := (1, none)) ⟨by simp [Bounds.Ordered], by simp, by simp⟩ done
  · obtain ⟨⟨b, _⟩, read, done⟩ := bind_eq_ok.mp done
    exact moves_quantify (fine_readBounds read) done
  · obtain ⟨⟨item, _⟩, _, same⟩ := bind_eq_ok.mp done
    cases same
    exact .item item

/-- What every round keeps holds at the end. -/
theorem readFrom_of_moves {P : ReadState → Prop} (keeps : ∀ {s s'}, P s → s.Move s' → P s')
    {fuel : Nat} {s : ReadState} (holds : P s) (read : readFrom fuel s cs = .ok ast) :
    ∃ s', P s' ∧ s'.frames = [] ∧ ast = s'.level.toAst := by
  have finished {s : ReadState} (holds : P s) (done : s.finish = .ok ast) :
      ∃ s', P s' ∧ s'.frames = [] ∧ ast = s'.level.toAst := by
    unfold finish at done
    split at done
    · rename_i closed
      cases done
      exact ⟨s, holds, List.isEmpty_iff.mp closed, rfl⟩
    · contradiction
  induction fuel generalizing s cs with
  | zero => exact finished holds read
  | succ fuel ih =>
    rw [readFrom] at read
    split at read
    · exact finished holds read
    · obtain ⟨⟨s', rest⟩, stepped, read⟩ := bind_eq_ok.mp read
      exact ih (keeps holds (moves_step stepped)) read

end ReadState

theorem Ast.ofString_eq_ok {pattern : String} {ast : Ast} (read : ofString pattern = .ok ast) :
    readFrom (pattern.toList.length + 1) .initial pattern.toList = .ok ast ∧
      ast.depth ≤ nestLimit := by
  obtain ⟨_, read, shallow⟩ := bind_eq_ok.mp read
  split at shallow
  · cases shallow
    exact ⟨read, ‹_›⟩
  · contradiction

/-! ### Structures -/

/-- The classes are in order, and so are the bounds, which can be counts. -/
inductive Ast.Sound : Ast → Prop where
  | empty : Sound .empty
  | flags : Sound (.flags change)
  | letter : Sound (.letter c)
  | dot : Sound .dot
  | assertion : Sound (.assertion kind)
  | shorthand : Sound (.shorthand negated kind)
  | property : Sound (.property negated name)
  | bracketed {inner : ClassSet} : inner.Ordered → Sound (.bracketed negated inner)
  | repetition {min : Nat} {max : Option Nat} : Bounds.Fine (min, max) → Sound body →
      Sound (.repetition min max greedy body)
  | group : Sound body → Sound (.group kind body)
  | concat : (∀ item ∈ items, Sound item) → Sound (.concat items)
  | alternation : (∀ branch ∈ branches, Sound branch) → Sound (.alternation branches)

theorem Item.sound_toAst (item : Item) : item.toAst.Sound := by
  cases item with
  | letter => exact .letter
  | dot => exact .dot
  | assertion => exact .assertion
  | shorthand => exact .shorthand
  | property => exact .property

theorem Ast.sound_ofItems {items : List Ast} (each : ∀ item ∈ items, item.Sound) :
    (Ast.ofItems items).Sound := by
  unfold ofItems
  split
  · exact .empty
  · exact each _ List.mem_cons_self
  · exact .concat each

theorem Ast.sound_ofBranches {branches : List Ast} (each : ∀ branch ∈ branches, branch.Sound) :
    (Ast.ofBranches branches).Sound := by
  unfold ofBranches
  split
  · exact .empty
  · exact each _ List.mem_cons_self
  · exact .alternation each

/-- All that has been read between two parentheses is sound. -/
structure Level.Sound (l : Level) : Prop where
  branches : ∀ branch ∈ l.branches, branch.Sound
  items : ∀ item ∈ l.items, item.Sound

theorem Level.Sound.push {l : Level} (sound : l.Sound) {item : Ast} (new : item.Sound) :
    (l.push item).Sound :=
  ⟨sound.branches, List.forall_mem_cons.mpr ⟨new, sound.items⟩⟩

theorem Level.Sound.nextBranch {l : Level} (sound : l.Sound) : l.nextBranch.Sound :=
  ⟨List.forall_mem_cons.mpr ⟨Ast.sound_ofItems (by simpa using sound.items), sound.branches⟩,
    by simp [Level.nextBranch]⟩

theorem Level.Sound.toAst {l : Level} (sound : l.Sound) : l.toAst.Sound :=
  Ast.sound_ofBranches (by simpa using sound.nextBranch.branches)

theorem Level.sound_empty : Level.empty.Sound := ⟨by simp [empty], by simp [empty]⟩

/-- All that has been read is sound. -/
structure ReadState.Sound (s : ReadState) : Prop where
  level : s.level.Sound
  frames : ∀ frame ∈ s.frames, frame.outer.Sound

theorem ReadState.Sound.step {s s' : ReadState} (sound : s.Sound) (moves : s.Move s') :
    s'.Sound := by
  cases moves with
  | stay => exact sound
  | item item => exact ⟨sound.level.push item.sound_toAst, sound.frames⟩
  | bracketed ordered => exact ⟨sound.level.push (.bracketed ordered), sound.frames⟩
  | flags => exact ⟨sound.level.push .flags, sound.frames⟩
  | plain | capture =>
    exact ⟨Level.sound_empty, List.forall_mem_cons.mpr ⟨sound.level, sound.frames⟩⟩
  | close shape =>
    obtain ⟨outer, others⟩ := List.forall_mem_cons.mp (shape ▸ sound.frames)
    exact ⟨outer.push (.group sound.level.toAst), others⟩
  | branch => exact ⟨sound.level.nextBranch, sound.frames⟩
  | repeats newest fine =>
    obtain ⟨last, others⟩ := List.forall_mem_cons.mp (newest ▸ sound.level.items)
    exact ⟨⟨sound.level.branches, List.forall_mem_cons.mpr ⟨.repetition fine last, others⟩⟩,
      sound.frames⟩

/-- The structure of a pattern is sound. -/
theorem Ast.sound_ofString {pattern : String} {ast : Ast} (read : ofString pattern = .ok ast) :
    ast.Sound := by
  have start : ReadState.initial.Sound := ⟨Level.sound_empty, by simp [ReadState.initial]⟩
  obtain ⟨s, sound, _, rfl⟩ :=
    ReadState.readFrom_of_moves (P := ReadState.Sound) .step start (ofString_eq_ok read).1
  exact sound.level.toAst

end Construe.Pattern
