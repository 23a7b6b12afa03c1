import Construe.Proofs.Building

/-! # The capture groups of an expression

Expressions are built from the structure of a pattern without losing or moving a capture group,
except that a repetition of no rounds leaves nothing of its body. -/
namespace Construe.Pattern

open Build (bind_eq_ok)

/-- A capture group: its index and its name. -/
abbrev Group := Nat × Option String

/-- Groups are numbered in their order, after `count` others. -/
def NumberedFrom (count : Nat) (groups : List Group) : Prop :=
  groups.map Prod.fst = List.range' (count + 1) groups.length

theorem numberedFrom_append {count : Nat} {gs hs : List Group} :
    NumberedFrom count (gs ++ hs) ↔
      NumberedFrom count gs ∧ NumberedFrom (count + gs.length) hs := by
  unfold NumberedFrom
  rw [List.map_append, List.length_append, ← List.range'_append_1,
    show count + 1 + gs.length = count + gs.length + 1 by omega]
  constructor
  · exact fun same => List.append_inj same (by simp)
  · rintro ⟨left, right⟩
    rw [left, right]

/-- The names of groups do not hold the bracket that ends names. -/
def Proper (groups : List Group) : Prop := ∀ g ∈ groups, ∀ n ∈ g.2, '>' ∉ n.toList

theorem proper_append {gs hs : List Group} : Proper (gs ++ hs) ↔ Proper gs ∧ Proper hs := by
  simp [Proper, or_imp, forall_and]

mutual

/-- The capture groups of a structure that can take part in a match, from left to right. -/
def Ast.kept : Ast → List Group
  | .repetition min max _ body => if min = 0 ∧ max = some 0 then [] else body.kept
  | .group (.capture index name) body => (index, name) :: body.kept
  | .group (.plain _) body => body.kept
  | .concat items => Ast.keptAll items
  | .alternation branches => Ast.keptAll branches
  | _ => []

def Ast.keptAll : List Ast → List Group
  | [] => []
  | item :: items => item.kept ++ Ast.keptAll items

end

namespace Expr

mutual

/-- The capture groups of an expression, from left to right. -/
def captures : Expr → List Group
  | .rep _ _ _ body => body.captures
  | .capture index name body => (index, name) :: body.captures
  | .concat parts => capturesAll parts
  | .alt branches => capturesAll branches
  | _ => []

def capturesAll : List Expr → List Group
  | [] => []
  | e :: es => e.captures ++ capturesAll es

end

theorem capturesAll_eq_flatMap (es : List Expr) : capturesAll es = es.flatMap captures := by
  induction es with
  | nil => rfl
  | cons e es ih => rw [capturesAll, ih, List.flatMap_cons]

@[simp] theorem capturesAll_append (es fs : List Expr) :
    capturesAll (es ++ fs) = capturesAll es ++ capturesAll fs := by
  simp [capturesAll_eq_flatMap]

/-! ### Equality -/

mutual

theorem eq_of_beq : ∀ {e f : Expr}, beq e f = true → e = f
  | .empty, f, same => by cases f <;> simp_all [beq]
  | .literal _, f, same => by cases f <;> simp_all [beq]
  | .chars _, f, same => by cases f <;> simp_all [beq]
  | .bytes _, f, same => by cases f <;> simp_all [beq]
  | .look _, f, same => by cases f <;> simp_all [beq]
  | .rep _ _ _ b, f, same => by
    cases f with
    | rep =>
      simp only [beq, Bool.and_eq_true, beq_iff_eq] at same
      obtain ⟨⟨⟨rfl, rfl⟩, rfl⟩, body⟩ := same
      rw [eq_of_beq body]
    | _ => simp [beq] at same
  | .capture _ _ b, f, same => by
    cases f with
    | capture =>
      simp only [beq, Bool.and_eq_true, beq_iff_eq] at same
      obtain ⟨⟨rfl, rfl⟩, body⟩ := same
      rw [eq_of_beq body]
    | _ => simp [beq] at same
  | .concat es, f, same => by
    cases f with
    | concat =>
      rw [beq] at same
      rw [eq_of_beqAll same]
    | _ => simp [beq] at same
  | .alt es, f, same => by
    cases f with
    | alt =>
      rw [beq] at same
      rw [eq_of_beqAll same]
    | _ => simp [beq] at same

theorem eq_of_beqAll : ∀ {es fs : List Expr}, beqAll es fs = true → es = fs
  | [], fs, same => by cases fs <;> simp_all [beqAll]
  | e :: es, fs, same => by
    cases fs with
    | nil => simp [beqAll] at same
    | cons =>
      simp only [beqAll, Bool.and_eq_true] at same
      rw [eq_of_beq same.1, eq_of_beqAll same.2]

end

/-! ### Sequences and repetitions -/

theorem capturesAll_flatParts (e : Expr) : capturesAll (flatParts e) = e.captures := by
  cases e <;> simp [flatParts, capturesAll, captures]

theorem capturesAll_joinLiterals (es : List Expr) :
    capturesAll (joinLiterals es) = capturesAll es := by
  fun_induction joinLiterals es with
  | case1 => rfl
  | case2 s rest t rest' joined ih =>
    rw [capturesAll, capturesAll, ← ih, joined, capturesAll]
    rfl
  | case3 s rest _ ih => rw [capturesAll, capturesAll, ih]
  | case4 e rest _ ih => rw [capturesAll, capturesAll, ih]

theorem captures_sequence (parts : List Expr) : (sequence parts).captures = capturesAll parts := by
  have flat : capturesAll (joinLiterals (parts.flatMap flatParts)) = capturesAll parts := by
    rw [capturesAll_joinLiterals]
    induction parts with
    | nil => rfl
    | cons e es ih =>
      rw [List.flatMap_cons, capturesAll_append, ih, capturesAll_flatParts, capturesAll]
  rw [← flat, sequence]
  split
  · rename_i none
    rw [none]
    rfl
  · rename_i one
    simp [one, capturesAll]
  · rfl

/-- How a repetition is reduced: with no rounds it is empty, with one it is its body, and else it
repeats as often as its body can differ. -/
theorem repeated_cases (min : Nat) (max : Option Nat) (greedy : Bool) (body : Expr) :
    (min = 0 ∧ max = some 0 ∧ repeated min max greedy body = .empty) ∨
    (¬ (min = 0 ∧ max = some 0) ∧ repeated min max greedy body = body) ∨
    ∃ low high, ¬ (min = 0 ∧ max = some 0) ∧ ¬ (low = 0 ∧ high = some 0) ∧
      ¬ (low = 1 ∧ high = some 1) ∧
      (body.maxLength? = some 0 → low = Nat.min low 1 ∧ high = some (Nat.min (high.getD 1) 1)) ∧
      repeated min max greedy body = .rep low high greedy body := by
  unfold repeated
  extract_lets hollow low high
  have null : (low == 0 && high == some 0) = true ↔ min = 0 ∧ max = some 0 := by
    cases h : hollow <;> cases max <;> simp [low, high, h]
  split
  · rename_i none
    obtain ⟨rfl, rfl⟩ := null.mp none
    exact .inl ⟨rfl, rfl, rfl⟩
  · rename_i some
    rw [null] at some
    split
    · exact .inr (.inl ⟨some, rfl⟩)
    · rename_i several
      refine .inr (.inr ⟨low, high, some, ?_, ?_, ?_, rfl⟩)
      · rw [← null] at some
        simpa using some
      · simpa using several
      · intro flat
        have : hollow = true := by simp [hollow, flat]
        cases max <;> simp [low, high, this]

theorem captures_repeated (min : Nat) (max : Option Nat) (greedy : Bool) (body : Expr) :
    (repeated min max greedy body).captures =
      if min = 0 ∧ max = some 0 then [] else body.captures := by
  rcases repeated_cases min max greedy body with ⟨rfl, rfl, null⟩ | ⟨some, one⟩ |
    ⟨low, high, some, _, _, _, many⟩
  · rw [null, if_pos ⟨rfl, rfl⟩]
    rfl
  · rw [one, if_neg some]
  · rw [many, if_neg some]
    rfl

/-! ### Choices -/

theorem mem_of_mapM_eq_some {f : β → Option γ} {xs : List β} {ys : List γ}
    (read : xs.mapM f = some ys) (member : x ∈ xs) : ∃ y ∈ ys, f x = some y := by
  induction xs generalizing ys with
  | nil => simp at member
  | cons z xs ih =>
    simp only [List.mapM_cons, Option.bind_eq_bind, Option.bind_eq_some_iff] at read
    obtain ⟨y, head, others, tail, same⟩ := read
    cases same
    rcases List.mem_cons.mp member with rfl | later
    · exact ⟨y, List.mem_cons_self, head⟩
    · obtain ⟨y', inside, found⟩ := ih tail later
      exact ⟨y', List.mem_cons_of_mem _ inside, found⟩

theorem commonStart_isPrefix_left (xs ys : List Expr) : commonStart xs ys <+: xs := by
  fun_induction commonStart xs ys with
  | case1 x xs y ys same ih => simpa using ih
  | case2 => exact List.nil_prefix
  | case3 => exact List.nil_prefix

theorem commonStart_isPrefix_right (xs ys : List Expr) : commonStart xs ys <+: ys := by
  fun_induction commonStart xs ys with
  | case1 x xs y ys same ih =>
    rw [eq_of_beq same]
    simpa using ih
  | case2 => exact List.nil_prefix
  | case3 => exact List.nil_prefix

theorem foldl_commonStart_isPrefix (first : List Expr) (others : List (List Expr)) :
    others.foldl commonStart first <+: first ∧
      ∀ parts ∈ others, others.foldl commonStart first <+: parts := by
  induction others generalizing first with
  | nil => simp
  | cons next others ih =>
    obtain ⟨shorter, within⟩ := ih (commonStart first next)
    rw [List.foldl_cons]
    refine ⟨shorter.trans (commonStart_isPrefix_left _ _), ?_⟩
    intro parts member
    rcases List.mem_cons.mp member with rfl | later
    · exact shorter.trans (commonStart_isPrefix_right _ _)
    · exact within parts later

/-- What branches share in front is in front of each of them. -/
theorem sharedStart_isPrefix {branches : List Expr} (shared : sharedStart branches ≠ []) :
    ∀ e ∈ branches, ∃ parts, e = .concat parts ∧ sharedStart branches <+: parts := by
  unfold sharedStart at shared ⊢
  split at shared
  · rename_i first others read
    intro e member
    obtain ⟨parts, inside, found⟩ := mem_of_mapM_eq_some read member
    obtain ⟨shorter, within⟩ := foldl_commonStart_isPrefix first others
    have concat : e = .concat parts := by
      cases e <;> simp_all [parts?]
    refine ⟨parts, concat, ?_⟩
    rcases List.mem_cons.mp inside with rfl | later
    · exact shorter
    · exact within parts later
  · contradiction

theorem capturesAll_flatBranches (branches : List Expr) :
    capturesAll (branches.flatMap flatBranches) = capturesAll branches := by
  induction branches with
  | nil => rfl
  | cons e es ih =>
    rw [List.flatMap_cons, capturesAll_append, ih, capturesAll]
    cases e <;> simp [flatBranches, capturesAll, captures]

theorem capturesAll_eq_nil {es : List Expr} (none : ∀ e ∈ es, e.captures = []) :
    capturesAll es = [] := by
  simpa [capturesAll_eq_flatMap] using none

@[simp] theorem captures_charClass (set : CharSet) : (charClass set).captures = [] := by
  unfold charClass
  split
  · rfl
  · split <;> rfl

@[simp] theorem captures_byteClass (set : CharSet) : (byteClass set).captures = [] := by
  unfold byteClass
  split
  · rfl
  · split <;> rfl

/-- What is left of branches behind the start they share. -/
def restsAfter (start : List Expr) (branches : List Expr) : List Expr :=
  branches.map fun e => sequence ((flatParts e).drop start.length)

/-- The ways in which a choice of the branches `es` is reduced, once they are flat. -/
inductive Choice (fuel : Nat) (es : List Expr) : Expr → Prop where
  | none : es = [] → Choice fuel es fail
  | one : es = [e] → Choice fuel es e
  | letters : es.mapM singleChar? = some cs → Choice fuel es (charClass (.ofList cs))
  | classes : es.mapM classSet? = some sets →
      Choice fuel es (charClass (sets.foldl CharSet.union .empty))
  | apart : 2 ≤ es.length → es.mapM singleChar? = Option.none → es.mapM classSet? = Option.none →
      sharedStart es = [] → Choice fuel es (.alt es)
  | shared : 2 ≤ es.length → sharedStart es ≠ [] → Choice fuel es
      (sequence (sharedStart es ++ [choiceFrom fuel (restsAfter (sharedStart es) es)]))

theorem choiceFrom_cases (fuel : Nat) (branches : List Expr) :
    Choice fuel (branches.flatMap flatBranches) (choiceFrom (fuel + 1) branches) := by
  rw [choiceFrom]
  split
  · exact .none ‹_›
  · exact .one ‹_›
  · rename_i several single
    have two : 2 ≤ (branches.flatMap flatBranches).length := by
      rcases flat : branches.flatMap flatBranches with _ | ⟨e, _ | ⟨f, es⟩⟩
      · exact absurd flat several
      · exact absurd flat (single e)
      · simp
    split
    · exact .letters ‹_›
    · split
      · exact .classes ‹_›
      · split
        · exact .apart two ‹_› ‹_› ‹_›
        · exact .shared two ‹_›

/-- What branches share holds no group, since groups are distinct. -/
theorem capturesAll_sharedStart {es : List Expr} (two : 2 ≤ es.length)
    (distinct : (capturesAll es).Nodup) (shared : sharedStart es ≠ []) :
    capturesAll (sharedStart es) = [] := by
  obtain ⟨e, f, others, rfl⟩ : ∃ e f others, es = e :: f :: others := by
    rcases es with _ | ⟨e, _ | ⟨f, others⟩⟩
    · simp at two
    · simp at two
    · exact ⟨e, f, others, rfl⟩
  obtain ⟨first, rfl, ⟨_, left⟩⟩ := sharedStart_isPrefix shared e (by simp)
  obtain ⟨second, rfl, ⟨_, right⟩⟩ := sharedStart_isPrefix shared f (by simp)
  rw [List.eq_nil_iff_forall_not_mem]
  intro g member
  refine (List.nodup_append.mp distinct).2.2 g ?_ g ?_ rfl
  · rw [captures, ← left, capturesAll_append]
    exact List.mem_append_left _ member
  · rw [capturesAll, captures, ← right, capturesAll_append]
    exact List.mem_append_left _ (List.mem_append_left _ member)

theorem capturesAll_restsAfter {es : List Expr} (shared : sharedStart es ≠ [])
    (none : capturesAll (sharedStart es) = []) :
    capturesAll (restsAfter (sharedStart es) es) = capturesAll es := by
  rw [capturesAll_eq_flatMap, capturesAll_eq_flatMap, restsAfter, List.flatMap_map]
  refine List.flatMap_congr fun e member => ?_
  obtain ⟨parts, rfl, ⟨others, whole⟩⟩ := sharedStart_isPrefix shared e member
  rw [captures_sequence, flatParts, captures, ← whole, List.drop_left, capturesAll_append, none,
    List.nil_append]

theorem captures_choiceFrom (fuel : Nat) (branches : List Expr)
    (distinct : (capturesAll branches).Nodup) :
    (choiceFrom fuel branches).captures = capturesAll branches := by
  induction fuel generalizing branches with
  | zero => rfl
  | succ fuel ih =>
    rw [← capturesAll_flatBranches] at distinct ⊢
    generalize built : choiceFrom (fuel + 1) branches = c
    cases built ▸ choiceFrom_cases fuel branches with
    | none empty =>
      rw [empty]
      rfl
    | one single => simp [single, capturesAll]
    | letters read =>
      rw [captures_charClass, capturesAll_eq_nil]
      intro e member
      obtain ⟨c, _, found⟩ := mem_of_mapM_eq_some read member
      cases e <;> simp_all [singleChar?, captures]
    | classes read =>
      rw [captures_charClass, capturesAll_eq_nil]
      intro e member
      obtain ⟨c, _, found⟩ := mem_of_mapM_eq_some read member
      cases e <;> simp_all [classSet?, captures]
    | apart => rfl
    | shared two shared =>
      -- The start is kept once for all branches, which loses nothing only if it holds no group.
      have none := capturesAll_sharedStart two distinct shared
      have rests := capturesAll_restsAfter shared none
      rw [captures_sequence, capturesAll_append, none, List.nil_append, capturesAll, capturesAll,
        List.append_nil, ih _ (rests ▸ distinct), rests]

end Expr

/-! ### Expressions of structures -/

/-- An expression without parts. -/
inductive Expr.Atom : Expr → Prop where
  | empty : Atom .empty
  | letter : Atom (.literal [c])
  | look : Atom (.look kind)
  | charClass {set : CharSet} : Atom (.charClass set)
  | byteClass {set : CharSet} : Atom (.byteClass set)

theorem Expr.Atom.captures {e : Expr} (atom : e.Atom) : e.captures = [] := by
  cases atom with
  | charClass => exact captures_charClass _
  | byteClass => exact captures_byteClass _
  | _ => rfl

/-- How expressions follow the structures they are made from, whatever flags are in force. -/
inductive Ast.Means : Ast → Expr → Prop where
  | atom : ast.kept = [] → e.Atom → Means ast e
  | repetition {min : Nat} {max : Option Nat} : Means body e →
      Means (.repetition min max greedy body) (.repeated min max greedy' e)
  | capture : Means body e → Means (.group (.capture index name) body) (.capture index name e)
  | plain : Means body e → Means (.group (.plain change) body) e
  | concat : items.length = es.length → (∀ x ∈ items.zip es, Means x.1 x.2) →
      Means (.concat items) (.sequence es)
  | alternation : branches.length = es.length → (∀ x ∈ branches.zip es, Means x.1 x.2) →
      Means (.alternation branches) (.choice es)

theorem Flags.atom_toClass (f : Flags) (set : CharSet) : (f.toClass set).Atom := by
  unfold toClass
  split
  · exact .charClass
  · exact .byteClass

theorem Flags.atom_letter {f : Flags} {l : Letter} (read : f.letter l = .ok e) : e.Atom := by
  obtain ⟨c, _, built⟩ := bind_eq_ok.mp read
  dsimp only at built
  split at built
  · cases built
    exact .letter
  · cases built
    exact f.atom_toClass _

theorem Flags.atom_dot {f : Flags} (read : f.dot = .ok e) : e.Atom := by
  unfold dot at read
  split at read
  · contradiction
  · split at read
    · cases read
      exact .charClass
    · split at read <;> cases read <;> exact .charClass

mutual

theorem Ast.means_of_expr : ∀ {ast : Ast} {f f' : Flags} {e : Expr}, ast.expr f = .ok (e, f') →
    ast.Means e
  | .empty, _, _, _, read => by
    cases read
    exact .atom rfl .empty
  | .flags _, _, _, _, read => by
    cases read
    exact .atom rfl .empty
  | .letter _, _, _, _, read => by
    rw [expr] at read
    obtain ⟨e, letter, same⟩ := bind_eq_ok.mp read
    cases same
    exact .atom rfl (Flags.atom_letter letter)
  | .dot, _, _, _, read => by
    rw [expr] at read
    obtain ⟨e, dot, same⟩ := bind_eq_ok.mp read
    cases same
    exact .atom rfl (Flags.atom_dot dot)
  | .assertion _, _, _, _, read => by
    cases read
    exact .atom rfl .look
  | .shorthand _ _, _, _, _, read => by
    rw [expr] at read
    obtain ⟨set, _, same⟩ := bind_eq_ok.mp read
    cases same
    exact .atom rfl (Flags.atom_toClass _ _)
  | .property _ _, _, _, _, read => by
    rw [expr] at read
    obtain ⟨set, _, same⟩ := bind_eq_ok.mp read
    cases same
    exact .atom rfl (Flags.atom_toClass _ _)
  | .bracketed _ _, _, _, _, read => by
    rw [expr] at read
    obtain ⟨inner, _, read⟩ := bind_eq_ok.mp read
    obtain ⟨set, _, same⟩ := bind_eq_ok.mp read
    cases same
    exact .atom rfl (Flags.atom_toClass _ _)
  | .repetition _ _ _ body, _, _, _, read => by
    rw [expr] at read
    obtain ⟨⟨b, f⟩, inner, same⟩ := bind_eq_ok.mp read
    cases same
    exact .repetition (means_of_expr inner)
  | .group (.capture _ _) body, _, _, _, read => by
    rw [expr] at read
    obtain ⟨⟨b, f⟩, inner, same⟩ := bind_eq_ok.mp read
    cases same
    exact .capture (means_of_expr inner)
  | .group (.plain _) body, _, _, _, read => by
    rw [expr] at read
    obtain ⟨⟨b, f⟩, inner, same⟩ := bind_eq_ok.mp read
    cases same
    exact .plain (means_of_expr inner)
  | .concat items, _, _, _, read => by
    rw [expr] at read
    obtain ⟨⟨parts, f⟩, inner, same⟩ := bind_eq_ok.mp read
    cases same
    obtain ⟨aligned, each⟩ := List.forall₂_iff_zip.mp (means_of_exprAll inner)
    exact .concat aligned fun x => each
  | .alternation branches, _, _, _, read => by
    rw [expr] at read
    obtain ⟨⟨parts, f⟩, inner, same⟩ := bind_eq_ok.mp read
    cases same
    obtain ⟨aligned, each⟩ := List.forall₂_iff_zip.mp (means_of_exprAll inner)
    exact .alternation aligned fun x => each

theorem Ast.means_of_exprAll : ∀ {items : List Ast} {f f' : Flags} {es : List Expr},
    Ast.exprAll f items = .ok (es, f') → List.Forall₂ Ast.Means items es
  | [], _, _, _, read => by
    cases read
    exact .nil
  | item :: items, _, _, _, read => by
    rw [exprAll] at read
    obtain ⟨⟨e, f⟩, first, read⟩ := bind_eq_ok.mp read
    obtain ⟨⟨es, f⟩, others, same⟩ := bind_eq_ok.mp read
    cases same
    exact .cons (means_of_expr first) (means_of_exprAll others)

end

theorem Ast.capturesAll_eq_keptAll {items : List Ast} {es : List Expr}
    (related : List.Forall₂ (fun item e => item.kept.Nodup → e.captures = item.kept) items es)
    (distinct : (keptAll items).Nodup) : Expr.capturesAll es = keptAll items := by
  induction related with
  | nil => rfl
  | cons first _ ih =>
    obtain ⟨left, right, _⟩ := List.nodup_append.mp distinct
    rw [Expr.capturesAll, keptAll, first left, ih right]

/-- An expression has the groups of the structure it is made from, if these are distinct. -/
theorem Ast.Means.captures {ast : Ast} {e : Expr} (means : ast.Means e)
    (distinct : ast.kept.Nodup) : e.captures = ast.kept := by
  induction means with
  | atom none atom => rw [none, atom.captures]
  | repetition _ ih =>
    rw [Expr.captures_repeated, kept]
    rw [kept] at distinct
    split
    · rfl
    · rename_i lasting
      rw [if_neg lasting] at distinct
      exact ih distinct
  | capture _ ih => rw [Expr.captures, kept, ih distinct.of_cons]
  | plain _ ih => exact ih distinct
  | concat aligned _ ih =>
    have related := List.forall₂_iff_zip.mpr ⟨aligned, fun {item e} => ih (item, e)⟩
    rw [Expr.captures_sequence, kept, capturesAll_eq_keptAll related distinct]
  | alternation aligned _ ih =>
    have related := List.forall₂_iff_zip.mpr ⟨aligned, fun {item e} => ih (item, e)⟩
    have all := capturesAll_eq_keptAll related distinct
    rw [Expr.choice, Expr.captures_choiceFrom _ _ (all ▸ distinct), all, kept]

/-! ### The number of groups -/

namespace Expr

/-- The highest index among groups. -/
def highest (groups : List Group) : Nat := groups.foldr (fun g n => max g.1 n) 0

theorem highest_append (gs hs : List Group) :
    highest (gs ++ hs) = max (highest gs) (highest hs) := by
  induction gs with
  | nil => simp [highest]
  | cons g gs ih => simp_all [highest, Nat.max_assoc]

mutual

theorem groupCount_eq_highest : ∀ e : Expr, e.groupCount = highest e.captures
  | .empty | .literal _ | .chars _ | .bytes _ | .look _ => rfl
  | .rep _ _ _ body => by rw [groupCount, captures, groupCount_eq_highest body]
  | .capture _ _ body => by rw [groupCount, captures, groupCount_eq_highest body]; rfl
  | .concat parts => by rw [groupCount, captures, groupCountAll_eq_highest parts]
  | .alt branches => by rw [groupCount, captures, groupCountAll_eq_highest branches]

theorem groupCountAll_eq_highest : ∀ es : List Expr, groupCountAll es = highest (capturesAll es)
  | [] => rfl
  | e :: es => by
    rw [groupCountAll, capturesAll, highest_append, groupCount_eq_highest e,
      groupCountAll_eq_highest es]

end

end Expr

end Construe.Pattern
