import Construe.Proofs.Pattern.Clean

/-! # Texts that are accepted

The text of a clean expression whose groups have different names is accepted by the reader, unless
it is nested too deeply. What it is read as is known already, so that only refusals have to be
ruled out. -/
namespace Construe.Pattern

open Build (bind_eq_ok)

namespace ReadState

/-- A text that is read to its end outside all groups. -/
theorem Becomes.readFrom {s : ReadState} (becomes : initial.Becomes cs s [])
    (plain : s.verbose = false) (outside : s.frames = []) :
    readFrom (cs.length + 1) .initial cs = .ok s.level.toAst := by
  obtain ⟨fuel, enough, same⟩ := becomes (cs.length + 1) (Nat.lt_succ_self _)
  cases fuel with
  | zero => contradiction
  | succ fuel => simpa [Pattern.readFrom, skip, plain, finish, outside] using same

/-! ### Suffixes -/

theorem readBounds_exactly {m : Nat} (small : m < 4294967296) (rest : List Char) :
    readBounds false (Nat.toDigits 10 m ++ '\x7d' :: rest) = .ok ((m, some m), rest) := by
  have low := readCount_toDigits m (c := '\x7d') (by decide) (by decide) rest
  rw [if_pos small] at low
  exact bind_eq_ok.mpr ⟨_, low, rfl⟩

theorem readBounds_atLeast {m : Nat} (small : m < 4294967296) (rest : List Char) :
    readBounds false (Nat.toDigits 10 m ++ ',' :: '\x7d' :: rest) = .ok ((m, none), rest) := by
  have low := readCount_toDigits m (c := ',') (by decide) (by decide) ('\x7d' :: rest)
  rw [if_pos small] at low
  exact bind_eq_ok.mpr ⟨_, low, rfl⟩

theorem readBounds_between {m n : Nat} (order : m ≤ n) (small : n < 4294967296)
    (rest : List Char) :
    readBounds false (Nat.toDigits 10 m ++ ',' :: (Nat.toDigits 10 n ++ '\x7d' :: rest)) =
      .ok ((m, some n), rest) := by
  have low := readCount_toDigits m (c := ',') (by decide) (by decide)
    (Nat.toDigits 10 n ++ '\x7d' :: rest)
  have high := readCount_toDigits n (c := '\x7d') (by decide) (by decide) rest
  rw [if_pos (by omega)] at low
  rw [if_pos small] at high
  refine bind_eq_ok.mpr ⟨_, low, ?_⟩
  simp only [skip, Bool.false_eq_true, if_false]
  split
  · rename_i closed
    obtain ⟨d, ds, same, digit⟩ := toDigits_cons n
    rw [same] at closed
    cases closed
    contradiction
  · exact bind_eq_ok.mpr ⟨_, high, if_pos order⟩

/-- The suffix of bounds that can be counts is read as these bounds. -/
theorem step_suffix {s : ReadState} (plain : s.verbose = false) {b : Bounds} (fine : b.Fine)
    (several : b ≠ (1, some 1)) (rest : List Char) :
    s.step (renderSuffix b ++ rest) = s.quantify b.1 b.2 rest := by
  have braces {cs : List Char} {b : Bounds} (read : readBounds false cs = .ok (b, rest)) :
      s.step ('\x7b' :: cs) = s.quantify b.1 b.2 rest := by
    have opened : s.step ('\x7b' :: cs) = (readBounds s.verbose cs).bind fun found =>
        s.quantify found.1.1 found.1.2 (skip s.verbose found.2) := rfl
    rw [opened, plain, read]
    rfl
  obtain ⟨min, max⟩ := b
  dsimp only [renderSuffix]
  unfold renderBounds
  split
  · rfl
  · rfl
  · rfl
  · contradiction
  · simp only [String.reduceToList, List.cons_append, List.nil_append, List.append_assoc]
    exact braces (readBounds_atLeast fine.low rest)
  · rename_i n _ _
    split
    · rename_i same
      obtain rfl := beq_iff_eq.mp same
      simp only [String.reduceToList, List.cons_append, List.nil_append, List.append_assoc]
      exact braces (readBounds_exactly fine.low rest)
    · simp only [String.reduceToList, List.cons_append, List.nil_append, List.append_assoc]
      exact braces (readBounds_between (fine.ordered n rfl) (fine.high n rfl) rest)

theorem length_readGreed_le (cs : List Char) : (readGreed cs).2.length ≤ cs.length := by
  unfold readGreed
  split <;> simp

/-- Bounds that are written as a suffix which the reader accepts. -/
def Written (b : Bounds) : Prop := b.Fine ∧ b ≠ (1, some 1)

theorem Becomes.suffixes {s : ReadState} (plain : s.verbose = false) {item : Ast}
    (fit : Repeatable item) {bs : List Bounds} (written : ∀ b ∈ bs, Written b)
    (apart : rest.head? ≠ some '?') :
    (s.push item).Becomes (bs.flatMap renderSuffix ++ rest) (s.push (item.suffixed bs)) rest := by
  refine suffixes_of Becomes.refl Becomes.trans And.right (fun {item b} fit written rest => ?_) fit
    written apart
  have stepped := step_suffix (s := s.push item) plain written.1 written.2 rest
  refine .of_step plain ?_ (stepped.trans (quantify_push s fit ..))
  obtain ⟨d, ds, same, _⟩ := renderSuffix_cons written.2
  exact Nat.lt_of_le_of_lt (length_readGreed_le rest) (length_lt_append (by simp [same]) rest)

theorem written_suffixes {min : Nat} {max : Option Nat} (fine : Bounds.Fine (min, max))
    (greedy : Bool) : ∀ b ∈ suffixes min max greedy, Written b := by
  have option : Bounds.Fine (0, some 1) := ⟨by simp [Bounds.Ordered], by simp, by simp⟩
  rcases suffixes_eq min max greedy with ⟨none, _⟩ | ⟨several, ⟨_, one⟩ | ⟨_, two⟩⟩
  · simp [none]
  · rw [one]
    exact List.forall_mem_singleton.mpr ⟨fine, several⟩
  · rw [two]
    exact List.forall_mem_cons.mpr
      ⟨⟨fine, several⟩, List.forall_mem_singleton.mpr ⟨option, by decide⟩⟩

/-! ### Names -/

theorem readGroupName_of_isName {used : List String} {name : String} (named : IsName name)
    (new : name ∉ used) (cs : List Char) :
    readGroupName used (name.toList ++ '>' :: cs) = .ok (name, cs) := by
  have inside : ∀ c ∈ name.toList, (c != '>') = true := by
    intro c member
    simp only [bne_iff_ne]
    rintro rfl
    exact named.proper member
  obtain ⟨first, others, same, start, more⟩ := named.letters
  have text : String.ofList (first :: others) = name := by rw [← same, String.ofList_toList]
  unfold readGroupName
  rw [List.takeWhile_append_of_pos inside, List.dropWhile_append_of_pos inside]
  simp [same, text, start, more, new]

theorem step_open_isName {s : ReadState} (plain : s.verbose = false) {name : String}
    (named : IsName name) (new : name ∉ s.names) (cs : List Char) :
    s.step ("(?P<".toList ++ (name.toList ++ '>' :: cs)) =
      .ok (s.enter (.capture (s.captures + 1) (some name)) (s.captures + 1) (name :: s.names),
        cs) := by
  obtain ⟨level, frames, verbose, captures, names⟩ := s
  cases plain
  exact bind_eq_ok.mpr ⟨_, readGroupName_of_isName named new cs, rfl⟩

/-- The names of groups. -/
def namesOf (groups : List Group) : List String := groups.filterMap Prod.snd

/-- Groups whose names can be given when some names have been used. -/
structure Fresh (used : List String) (groups : List Group) : Prop where
  named : ∀ n ∈ namesOf groups, IsName n
  distinct : (namesOf groups).Nodup
  new : ∀ n ∈ namesOf groups, n ∉ used

theorem fresh_append {used : List String} (groups : List Group) {others : List Group}
    (fresh : Fresh used (groups ++ others)) :
    Fresh used groups ∧ Fresh (namesOf groups ++ used) others := by
  obtain ⟨named, distinct, new⟩ := fresh
  rw [namesOf, List.filterMap_append] at named distinct new
  obtain ⟨first, second, apart⟩ := List.nodup_append.mp distinct
  refine ⟨⟨fun n member => named n (List.mem_append_left _ member), first,
    fun n member => new n (List.mem_append_left _ member)⟩,
    fun n member => named n (List.mem_append_right _ member), second, fun n member => ?_⟩
  rw [List.mem_append, not_or]
  exact ⟨fun earlier => apart n earlier n member rfl, new n (List.mem_append_right _ member)⟩

theorem namesOf_append_subset (groups others : List Group) (used : List String) :
    namesOf others ++ (namesOf groups ++ used) ⊆ namesOf (groups ++ others) ++ used := by
  intro n member
  simp only [namesOf, List.filterMap_append, List.mem_append] at member ⊢
  tauto

theorem Fresh.proper {used : List String} {groups : List Group} (fresh : Fresh used groups) :
    Proper groups := fun g member n named =>
  (fresh.named n (List.mem_filterMap.mpr ⟨g, member, named⟩)).proper

theorem fresh_named {used : List String} {groups : List Group} {index : Nat} {name : String}
    (fresh : Fresh used ((index, some name) :: groups)) :
    IsName name ∧ name ∉ used ∧ Fresh (name :: used) groups := by
  obtain ⟨first, others⟩ := fresh_append [(index, some name)] fresh
  exact ⟨first.named name List.mem_cons_self, first.new name List.mem_cons_self, others⟩

/-! ### Getting through -/

/-- Outside verbose mode, with some groups open, none of them in verbose surroundings, and only
some names used. -/
structure Calm (depth : Nat) (used : List String) (s : ReadState) : Prop where
  plain : s.verbose = false
  length : s.frames.length = depth
  around : ∀ frame ∈ s.frames, frame.verbose = false
  names : s.names ⊆ used

theorem Calm.mono {s : ReadState} (calm : Calm depth used s) (wider : used ⊆ used') :
    Calm depth used' s :=
  ⟨calm.plain, calm.length, calm.around, List.Subset.trans calm.names wider⟩

theorem Calm.push {s : ReadState} (calm : Calm depth used s) (item : Ast) :
    Calm depth used (s.push item) :=
  ⟨calm.plain, calm.length, calm.around, calm.names⟩

theorem Calm.enter {s : ReadState} (calm : Calm depth used s) (kind : GroupKind) (captures : Nat)
    {names : List String} (known : names ⊆ used') :
    Calm (depth + 1) used' (s.enter kind captures names) where
  plain := calm.plain
  length := by simp [ReadState.enter, inside, calm.length]
  around := List.forall_mem_cons.mpr ⟨calm.plain, calm.around⟩
  names := known

/-- Whatever has been read before, the reader gets to the rest, with a number of groups open and
some names used. -/
def Passes (depth : Nat) (used : List String) (cs : List Char) (depth' : Nat)
    (used' : List String) (rest : List Char) : Prop :=
  ∀ s, Calm depth used s → ∃ s', Calm depth' used' s' ∧ s.Becomes cs s' rest

/-- The reader gets to the rest and has put down an item that a suffix can follow. -/
def Puts (depth : Nat) (used : List String) (cs : List Char) (used' : List String)
    (rest : List Char) : Prop :=
  ∀ s, Calm depth used s → ∃ t item, Calm depth used' t ∧ Repeatable item ∧
    s.Becomes cs (t.push item) rest

theorem Puts.passes (puts : Puts depth used cs used' rest) :
    Passes depth used cs depth used' rest := by
  intro s calm
  obtain ⟨t, item, calm, _, becomes⟩ := puts s calm
  exact ⟨_, calm.push item, becomes⟩

namespace Passes

theorem refl (depth : Nat) (used : List String) (cs : List Char) :
    Passes depth used cs depth used cs :=
  fun s calm => ⟨s, calm, .refl s cs⟩

theorem trans (first : Passes k used cs m used' ds) (second : Passes m used' ds n used'' es) :
    Passes k used cs n used'' es := by
  intro s calm
  obtain ⟨t, calm, becomes⟩ := first s calm
  obtain ⟨u, calm, becomes'⟩ := second t calm
  exact ⟨u, calm, becomes.trans becomes'⟩

theorem mono (passes : Passes m used cs n used' rest) (wider : used' ⊆ used'') :
    Passes m used cs n used'' rest := by
  intro s calm
  obtain ⟨t, calm, becomes⟩ := passes s calm
  exact ⟨t, calm.mono wider, becomes⟩

theorem of_step (shorter : rest.length < cs.length)
    (steps : ∀ s, Calm m used s → ∃ s', s.step cs = .ok (s', rest) ∧ Calm n used' s') :
    Passes m used cs n used' rest := by
  intro s calm
  obtain ⟨s', stepped, calm'⟩ := steps s calm
  exact ⟨s', calm', .of_step calm.plain shorter stepped⟩

theorem letters (text rest : List Char) :
    Passes n used (text.flatMap renderChar ++ rest) n used rest := by
  intro s calm
  refine ⟨_, ?_, .letters text calm.plain rest⟩
  rw [pushAll_eq]
  exact ⟨calm.plain, calm.length, calm.around, calm.names⟩

theorem opening (rest : List Char) :
    Passes n used ("(?:".toList ++ rest) (n + 1) used rest :=
  of_step (length_lt_append (by decide) rest) fun s calm =>
    ⟨_, step_open_plain calm.plain rest, calm.enter _ _ calm.names⟩

theorem ascii (rest : List Char) : Passes n used ("(?-u:".toList ++ rest) (n + 1) used rest :=
  of_step (length_lt_append (by decide) rest) fun s calm =>
    ⟨_, step_open_ascii calm.plain rest, calm.enter _ _ calm.names⟩

theorem flags {kind : Look} (some : kind.flags ≠ []) (rest : List Char) :
    Passes n used (flagsText kind ++ rest) (n + 1) used rest := by
  have opening : flagsText kind ≠ [] := by cases kind <;> simp [flagsText]
  exact of_step (length_lt_append opening rest) fun s calm =>
    ⟨_, step_flags kind some calm.plain rest, calm.enter _ _ calm.names⟩

theorem capturing (bare : rest.head? ≠ some '?') :
    Passes n used ('(' :: rest) (n + 1) used rest :=
  of_step (by simp) fun s calm =>
    ⟨_, step_open_capture calm.plain bare, calm.enter _ _ calm.names⟩

theorem naming {name : String} (named : IsName name) (new : name ∉ used) (rest : List Char) :
    Passes n used ("(?P<".toList ++ (name.toList ++ '>' :: rest)) (n + 1) (name :: used) rest :=
  of_step (by simp; omega) fun s calm =>
    ⟨_, step_open_isName calm.plain named (fun member => new (calm.names member)) rest,
      calm.enter _ _ (List.cons_subset_cons name calm.names)⟩

theorem branching (rest : List Char) : Passes n used ('|' :: rest) n used rest :=
  of_step (by simp) fun s calm => ⟨_, rfl, calm.plain, calm.length, calm.around, calm.names⟩

end Passes

namespace Puts

theorem of_step (item : Ast) (fit : Repeatable item) (shorter : rest.length < cs.length)
    (steps : ∀ s : ReadState, s.verbose = false → s.step cs = .ok (s.push item, rest)) :
    Puts n used cs used rest :=
  fun s calm => ⟨s, item, calm, fit, .of_step calm.plain shorter (steps s calm.plain)⟩

theorem mono (puts : Puts n used cs used' rest) (wider : used' ⊆ used'') :
    Puts n used cs used'' rest := by
  intro s calm
  obtain ⟨t, item, calm, fit, becomes⟩ := puts s calm
  exact ⟨t, item, calm.mono wider, fit, becomes⟩

/-- A group is an item, once it is closed. -/
theorem closed (passes : Passes n used cs (n + 1) used' (')' :: rest)) :
    Puts n used cs used' rest := by
  intro s calm
  obtain ⟨⟨level, frames, verbose, captures, names⟩, calm, becomes⟩ := passes s calm
  cases frames with
  | nil => simpa using calm.length
  | cons frame frames =>
    obtain ⟨outer, around⟩ := List.forall_mem_cons.mp calm.around
    refine ⟨⟨frame.outer, frames, frame.verbose, captures, names⟩, .group frame.kind level.toAst,
      ⟨outer, by simpa using calm.length, around, calm.names⟩, trivial, ?_⟩
    exact becomes.trans (.of_step calm.plain (by simp) rfl)

theorem enclosed {inner : List Char}
    (passes : Passes (n + 1) used (inner ++ ')' :: rest) (n + 1) used' (')' :: rest)) :
    Puts n used (enclose inner ++ rest) used' rest := by
  rw [enclose, List.append_assoc, List.append_assoc, List.singleton_append]
  exact closed ((Passes.opening _).trans passes)

theorem repeatable_suffixed {item : Ast} (fit : Repeatable item) (bs : List Bounds) :
    Repeatable (item.suffixed bs) := by
  fun_induction Ast.suffixed item bs with
  | case1 => exact fit
  | case2 => trivial
  | case3 _ _ _ ih => exact ih trivial
  | case4 _ _ _ _ _ ih => exact ih trivial

theorem suffixed {bs : List Bounds} (puts : Puts n used cs used' (bs.flatMap renderSuffix ++ rest))
    (written : ∀ b ∈ bs, Written b) (closes : Closes rest) : Puts n used cs used' rest := by
  intro s calm
  obtain ⟨t, item, calm, fit, becomes⟩ := puts s calm
  exact ⟨t, item.suffixed bs, calm, repeatable_suffixed fit bs,
    becomes.trans (.suffixes calm.plain fit written closes.1)⟩

theorem letter (c : Char) (rest : List Char) : Puts n used (renderChar c ++ rest) used rest := by
  obtain ⟨d, ds, same, _⟩ := renderChar_cons c
  exact of_step (.letter ⟨c, false⟩) trivial (length_lt_append (by simp [same]) rest)
    fun s _ => step_renderChar s c rest

theorem assertion (kind : Assertion) (ends : Ends rest) :
    Puts n used (assertionText kind ++ rest) used rest := by
  have some : assertionText kind ≠ [] := by cases kind <;> decide
  exact of_step (.assertion kind) trivial (length_lt_append some rest)
    fun s plain => step_assertion kind plain ends

theorem look (kind : Look) (ends : Ends rest) :
    Puts n used (kind.render.toList ++ rest) used rest := by
  rw [render_look]
  split
  · exact assertion kind.assertion ends
  · rename_i some
    rw [List.append_assoc, List.append_assoc, List.singleton_append]
    refine closed ((Passes.flags some _).trans (assertion kind.assertion ?_).passes)
    exact ends_of_head (by simp)

end Puts

/-! ### Classes -/

theorem ofNat_le_ofNat {m n : Nat} (low : m.isValidChar) (high : n.isValidChar) (below : m ≤ n) :
    Char.ofNat m ≤ Char.ofNat n := by
  rw [Char.le_def, UInt32.le_iff_toNat_le]
  show (Char.ofNat m).toNat ≤ (Char.ofNat n).toNat
  rwa [toNat_ofNat_of_isValidChar low, toNat_ofNat_of_isValidChar high]

theorem length_renderChar_pos (c : Char) : 0 < (renderChar c).length := by
  obtain ⟨d, ds, same, _⟩ := renderChar_cons c
  simp [same]

/-- The text of a proper range is taken as its items. -/
theorem readClassFrom_proper {fuel : Nat} {r : CharRange} (proper : r.Proper) (goes : GoesOn rest)
    (items : List ClassSet) (frames : List ClassFrame)
    (enough : (renderRange r ++ rest).length < fuel) : ∃ fuel', rest.length < fuel' ∧
      readClassFrom false fuel ⟨items, frames⟩ (renderRange r ++ rest) =
        readClassFrom false fuel' ⟨(rangeItems r).reverse ++ items, frames⟩ rest := by
  have letter {fuel : Nat} {items : List ClassSet} (c : Char) {rest : List Char}
      (goes : GoesOn rest) :
      readClassFrom false (fuel + 1) ⟨items, frames⟩ (renderChar c ++ rest) =
        readClassFrom false fuel ⟨.letter ⟨c, false⟩ :: items, frames⟩ rest := by
    rw [readClassFrom_renderChar, readClassRange_letter c goes]
    rfl
  have first := length_renderChar_pos (Char.ofNat r.lo)
  have last := length_renderChar_pos (Char.ofNat r.hi)
  obtain ⟨fuel, rfl⟩ : ∃ n, fuel = n + 2 := by
    obtain ⟨_, _, rfl, _⟩ := goes
    obtain ⟨_, same⟩ := renderRange_eq r
    rw [same, List.length_append, List.length_append, List.length_cons] at enough
    exact Nat.exists_eq_add_of_le' (by omega)
  unfold renderRange at enough ⊢
  unfold rangeItems
  dsimp only at enough ⊢
  split
  · rename_i single
    rw [if_pos single, List.length_append] at enough
    exact ⟨fuel + 1, by omega, letter _ goes⟩
  · rename_i several
    rw [if_neg several] at enough
    split
    · rename_i pair
      rw [if_pos pair, List.length_append, List.length_append] at enough
      rw [List.append_assoc, letter _ (goesOn_renderChar _ _), letter _ goes]
      exact ⟨fuel, by omega, rfl⟩
    · rename_i long
      rw [if_neg long, List.length_append, List.length_append] at enough
      rw [List.append_assoc, List.cons_append, readClassFrom_renderChar, readClassRange_range,
        if_pos (ofNat_le_ofNat proper.2.1 proper.2.2 proper.1)]
      exact ⟨fuel + 1, by simp at enough; omega, rfl⟩

theorem readClassFrom_propers {rs : List CharRange} (proper : ∀ r ∈ rs, r.Proper) {fuel : Nat}
    (items : List ClassSet) (frames : List ClassFrame)
    (enough : (rs.flatMap renderRange ++ ']' :: rest).length < fuel) :
    ∃ fuel', (']' :: rest).length < fuel' ∧
      readClassFrom false fuel ⟨items, frames⟩ (rs.flatMap renderRange ++ ']' :: rest) =
        readClassFrom false fuel' ⟨(rs.flatMap rangeItems).reverse ++ items, frames⟩
          (']' :: rest) := by
  induction rs generalizing fuel items with
  | nil => exact ⟨fuel, enough, rfl⟩
  | cons r rs ih =>
    obtain ⟨first, others⟩ := List.forall_mem_cons.mp proper
    rw [List.flatMap_cons, List.append_assoc] at enough ⊢
    obtain ⟨fuel, enough, same⟩ := readClassFrom_proper first (goesOn_ranges rs rest) items frames
      enough
    obtain ⟨fuel, enough, same'⟩ := ih others _ enough
    refine ⟨fuel, enough, same.trans (same'.trans ?_)⟩
    rw [List.flatMap_cons, List.reverse_append, List.append_assoc]

theorem readClass_propers {rs : List CharRange} (some : rs ≠ []) (proper : ∀ r ∈ rs, r.Proper)
    (rest : List Char) : ∃ x, readClass false (rs.flatMap renderRange ++ ']' :: rest) = .ok x := by
  obtain ⟨fuel, enough, same⟩ := readClassFrom_propers proper [] [.opened [] false]
    (Nat.lt_succ_self (rs.flatMap renderRange ++ ']' :: rest).length)
  obtain ⟨r, others, rfl⟩ := List.exists_cons_of_ne_nil some
  obtain ⟨tail, split⟩ := renderRange_eq r
  unfold readClass
  rw [List.flatMap_cons, split, List.append_assoc, List.append_assoc, readOpening_renderChar,
    ← List.append_assoc, ← split, ← List.append_assoc, ← List.flatMap_cons]
  cases fuel with
  | zero => contradiction
  | succ fuel => exact ⟨_, same⟩

namespace Puts

theorem set {set : CharSet} (proper : set.Proper) (some : set.isEmpty = false)
    (rest : List Char) : Puts n used (renderSet set ++ rest) used rest := by
  have members : set.ranges ≠ [] := by simpa [CharSet.isEmpty] using some
  obtain ⟨x, read⟩ := readClass_propers members proper rest
  refine of_step (retoldSet set) trivial (length_lt_append (by simp [renderSet]) rest)
    fun s plain => ?_
  have stepped : s.step (renderSet set ++ rest) = .ok (s.push (.bracketed x.1.1 x.1.2), x.2) := by
    rw [renderSet, List.append_assoc, List.cons_append, List.singleton_append]
    exact bind_eq_ok.mpr ⟨x, plain ▸ read, rfl⟩
  rw [step_renderSet plain some stepped] at stepped
  exact stepped

theorem emptySet (rest : List Char) : Puts n used (renderEmptySet ++ rest) used rest :=
  of_step retoldEmptySet trivial (length_lt_append (by decide) rest)
    fun _ plain => step_renderEmptySet plain rest

end Puts

end ReadState

/-! ### Expressions -/

namespace Expr

open ReadState

mutual

theorem puts_render : ∀ (e : Expr) (n : Nat) (used : List String), e.Made .clean →
    Fresh used e.captures → ∀ bs : List Bounds, (∀ b ∈ bs, Written b) →
    ∀ rest : List Char, Closes rest →
    Puts n used (e.render ++ (bs.flatMap renderSuffix ++ rest)) (namesOf e.captures ++ used) rest
  | .empty, _, _, _, _, _, written, _, closes | .literal [], _, _, _, _, _, written, _, closes =>
    (Puts.enclosed (.refl _ _ _)).suffixed written closes
  | .literal [c], _, _, _, _, _, written, _, closes => (Puts.letter c _).suffixed written closes
  | .literal (c :: d :: text), _, _, _, _, _, written, _, closes =>
    (Puts.enclosed (.letters (c :: d :: text) _)).suffixed written closes
  | .chars set, _, _, made, _, _, written, _, closes => by
    cases made with
    | chars proper =>
      rw [render]
      split
      · exact (Puts.emptySet _).suffixed written closes
      · rename_i some
        exact (Puts.set proper (by simpa using some) _).suffixed written closes
  | .bytes set, _, _, made, _, _, written, _, closes => by
    cases made with
    | bytes upto =>
      rw [render]
      split
      · exact (Puts.emptySet _).suffixed written closes
      · rename_i some
        rw [List.append_assoc, List.append_assoc, List.singleton_append]
        refine (Puts.closed ((Passes.ascii _).trans ?_)).suffixed written closes
        exact (Puts.set upto.proper (by simpa using some) _).passes
  | .look kind, _, _, _, _, _, written, _, closes => by
    have ends := ends_suffixes (fun b member => (written b member).2) closes
    exact (Puts.look kind ends).suffixed written closes
  | .rep min max greedy body, n, used, made, fresh, bs, written, rest, closes => by
    cases made with
    | rep fine inner =>
      have puts := puts_render body n used inner fresh (suffixes min max greedy ++ bs)
        (List.forall_mem_append.mpr ⟨written_suffixes fine greedy, written⟩) rest closes
      rw [List.flatMap_append, ← renderBounds_eq_flatMap, List.append_assoc,
        ← List.append_assoc] at puts
      exact puts
  | .capture index none body, n, used, made, fresh, bs, written, rest, closes => by
    cases made with
    | capture inner =>
      have puts := puts_render body (n + 1) used inner (fresh_append [(index, none)] fresh).2 []
        (by simp) (')' :: (bs.flatMap renderSuffix ++ rest)) (.of_ne (by decide) (by decide))
      rw [render, List.append_assoc, List.singleton_append, List.cons_append]
      refine (Puts.closed ((Passes.capturing ?_).trans puts.passes)).suffixed written closes
      exact (closes_render _ body).1
  | .capture index (some name) body, n, used, made, fresh, bs, written, rest, closes => by
    cases made with
    | capture inner =>
      obtain ⟨named, new, others⟩ := fresh_named fresh
      have puts := puts_render body (n + 1) (name :: used) inner others [] (by simp)
        (')' :: (bs.flatMap renderSuffix ++ rest)) (.of_ne (by decide) (by decide))
      have opening : render (.capture index (some name) body) ++ (bs.flatMap renderSuffix ++ rest) =
          "(?P<".toList ++ (name.toList ++ '>' ::
            (body.render ++ ')' :: (bs.flatMap renderSuffix ++ rest))) := by
        simp [render]
      rw [opening]
      have group := Puts.closed ((Passes.naming named new _).trans puts.passes)
      refine (group.mono ?_).suffixed written closes
      simp [captures, namesOf]
  | .concat parts, n, used, made, fresh, bs, written, rest, closes => by
    cases made with
    | concat each =>
      exact (Puts.enclosed (passes_renderAll parts (n + 1) used each fresh _
        (.of_ne (by decide) (by decide)))).suffixed written closes
  | .alt branches, n, used, made, fresh, bs, written, rest, closes => by
    cases made with
    | alt each =>
      exact (Puts.enclosed (passes_renderBranches branches (n + 1) used each fresh _
        (.of_ne (by decide) (by decide)))).suffixed written closes

theorem passes_renderAll : ∀ (es : List Expr) (n : Nat) (used : List String),
    (∀ e ∈ es, e.Made .clean) → Fresh used (capturesAll es) → ∀ rest : List Char, Closes rest →
    Passes n used (renderAll es ++ rest) n (namesOf (capturesAll es) ++ used) rest
  | [], n, used, _, _, rest, _ => .refl n used rest
  | e :: es, n, used, made, fresh, rest, closes => by
    obtain ⟨first, others⟩ := List.forall_mem_cons.mp made
    obtain ⟨here, later⟩ := fresh_append _ fresh
    have puts := puts_render e n used first here [] (by simp) _ (closes_renderAll es closes)
    have passes := passes_renderAll es n _ others later rest closes
    rw [renderAll, List.append_assoc]
    exact (puts.passes.trans passes).mono (namesOf_append_subset _ _ _)

theorem passes_renderBranches : ∀ (es : List Expr) (n : Nat) (used : List String),
    (∀ e ∈ es, e.Made .clean) → Fresh used (capturesAll es) → ∀ rest : List Char, Closes rest →
    Passes n used (renderBranches es ++ rest) n (namesOf (capturesAll es) ++ used) rest
  | [], n, used, _, _, rest, _ => .refl n used rest
  | [e], n, used, made, fresh, rest, closes => by
    rw [capturesAll, capturesAll, List.append_nil] at fresh ⊢
    exact (puts_render e n used (made e List.mem_cons_self) fresh [] (by simp) rest closes).passes
  | e :: f :: es, n, used, made, fresh, rest, closes => by
    obtain ⟨first, others⟩ := List.forall_mem_cons.mp made
    obtain ⟨here, later⟩ := fresh_append _ fresh
    have puts := puts_render e n used first here [] (by simp)
      ('|' :: (renderBranches (f :: es) ++ rest)) (.of_ne (by decide) (by decide))
    have passes := (Passes.branching _).trans
      (passes_renderBranches (f :: es) n _ others later rest closes)
    rw [renderBranches, List.append_assoc, List.cons_append]
    · exact (puts.passes.trans passes).mono (namesOf_append_subset _ _ _)
    · simp

end

/-- The text of a clean expression is read as the structure that retells it. -/
theorem readFrom_render_eq {e : Expr} (clean : e.Made .clean) (fresh : Fresh [] e.captures) :
    readFrom (e.render.length + 1) .initial e.render = .ok (e.retold 0 []) := by
  have calm : Calm 0 [] .initial := ⟨rfl, rfl, by simp [initial], by simp [initial]⟩
  have puts := puts_render e 0 [] clean fresh [] (by simp) [] (by simp [Closes])
  simp only [List.flatMap_nil, List.append_nil] at puts
  obtain ⟨s, calm, becomes⟩ := puts.passes .initial calm
  have read := becomes.readFrom calm.plain (List.length_eq_zero_iff.mp calm.length)
  rwa [readFrom_render fresh.proper read] at read

/-- The text of a clean expression is accepted unless it is nested too deeply. -/
theorem ofString_render_eq {e : Expr} (clean : e.Made .clean) (fresh : Fresh [] e.captures) :
    Ast.ofString (String.ofList e.render) =
      if (e.retold 0 []).depth ≤ nestLimit then .ok (e.retold 0 []) else .error .tooDeep := by
  rw [Ast.ofString, String.toList_ofList, readFrom_render_eq clean fresh]
  rfl

end Expr

end Construe.Pattern
