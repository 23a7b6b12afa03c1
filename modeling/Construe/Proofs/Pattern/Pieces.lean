import Construe.Proofs.Pattern.Preference
import Construe.Proofs.Pattern.Language
import Construe.Proofs.Pattern.Whole
import Construe.Resolve

/-! # Splitting undoes joining

A separator whose matches begin with one character, and which goes on over a gap that depends on
what follows, cuts a text just where it was joined: the pieces hold the character nowhere, and every
gap ends where the next piece begins. The default separator of lists is such a one, with
white space for its gaps; a single character is another, with no gaps at all. -/
namespace Construe.Pattern

/-! ### Joined texts -/

/-- Pieces put together, each but the first after the character and a gap. -/
def joined (c : Char) : (piece : List Char) → List (List Char × List Char) → List Char
  | piece, [] => piece
  | piece, (gap, next) :: links => piece ++ c :: (gap ++ joined c next links)

/-- No piece holds the character, and every gap is one before the text that follows it. -/
inductive Parted (c : Char) (Gap : List Char → List Char → Prop) :
    List Char → List (List Char × List Char) → Prop where
  | last : c ∉ piece → Parted c Gap piece []
  | link : c ∉ piece → Gap gap (joined c next links) → Parted c Gap next links →
      Parted c Gap piece ((gap, next) :: links)

namespace Program

variable {p : Program} {text : Text} {c : Char} {Gap : List Char → List Char → Prop}

/-- All matches begin with the character, and one that does goes on over the gap. -/
structure Divides (p : Program) (c : Char) (Gap : List Char → List Char → Prop) : Prop where
  entry : ∃ next, p.nodes[0]? = some (.take (.singleton c) next)
  reach (before : List Char) {gap after : List Char} : Gap gap after → ∃ n v,
    p.Prefers (before ++ c :: (gap ++ after)).toArray n (.setOut before.length) v ∧
      v.start = before.length ∧ v.pos = before.length + (gap.length + 1)

/-- No match begins where the character does not stand. -/
theorem Divides.lost (divides : p.Divides c Gap) (elsewhere : text[s]? ≠ some c) :
    p.Lost text (.setOut s) := by
  obtain ⟨next, there⟩ := divides.entry
  have there : p.nodes[(Thread.setOut s).address]? = some (.take (.singleton c) next) := there
  refine Lost.intro (by simp [Accepts, there]) ?_
  rintro u ⟨node, found, member⟩
  rw [there] at found
  cases found
  simp only [Node.step] at member
  split at member
  · rename_i d stands
    split at member
    · rename_i same
      rw [contains_singleton.mp same] at stands
      exact absurd stands elsewhere
    · contradiction
  · contradiction

theorem getElem?_toArray_append (before rest : List Char) (i : Nat) :
    (before ++ rest).toArray[before.length + i]? = rest[i]? := by
  rw [List.getElem?_toArray, List.getElem?_append_right (by omega), Nat.add_sub_cancel_left]

/-- Nothing is found in a piece. -/
theorem Divides.lost_in_piece (divides : p.Divides c Gap) {before piece rest : List Char}
    (clean : c ∉ piece) (after : before.length ≤ i) (inside : i < before.length + piece.length) :
    p.Lost (before ++ (piece ++ rest)).toArray (.setOut i) := by
  obtain ⟨k, rfl⟩ := Nat.exists_eq_add_of_le after
  refine divides.lost fun stands => clean ?_
  rw [getElem?_toArray_append, List.getElem?_append_left (by omega)] at stands
  exact List.mem_of_getElem? stands

theorem Divides.search_last (divides : p.Divides c Gap) (before : List Char) {piece : List Char}
    (clean : c ∉ piece) : p.search (before ++ piece).toArray before.length = none := by
  refine search_eq_none_of_lost fun s after inside => ?_
  by_cases within : s < before.length + piece.length
  · rw [← List.append_nil piece]
    exact divides.lost_in_piece clean after within
  · have outside : (before ++ piece).toArray[s]? = none :=
      Array.getElem?_eq_none (by simpa using within)
    exact divides.lost (by simp [outside])

theorem Divides.search_link (divides : p.Divides c Gap) (before : List Char)
    {piece gap after : List Char} (clean : c ∉ piece) (fits : Gap gap after) : ∃ m,
      p.search (before ++ (piece ++ c :: (gap ++ after))).toArray before.length = some m ∧
      m.start = before.length + piece.length ∧ m.stop = m.start + (gap.length + 1) := by
  obtain ⟨n, v, prefers, start, stop⟩ := divides.reach (before ++ piece) fits
  rw [List.append_assoc, List.length_append] at prefers
  rw [List.length_append] at start stop
  refine ⟨_, search_eq_of_prefers (Nat.le_add_right _ _) (by simp) ?_ prefers, start,
    by rw [start, stop]⟩
  exact fun i low inside => divides.lost_in_piece clean low inside

/-- What a match ends behind is not empty, so it is never passed over. -/
theorem nextMatch_eq (found : p.search text pos = some m) (some : m.start < m.stop) :
    p.nextMatch text pos lastStop = Option.some m := by
  have proper : ¬ (m.start == m.stop && Option.some m.stop == lastStop) = true := by
    simp [Nat.ne_of_lt some]
  rw [nextMatch, found]
  exact if_neg proper

/-- The matches in a joined text leave its pieces. -/
theorem Divides.pieces_matchesFrom (divides : p.Divides c Gap) {piece : List Char}
    {links : List (List Char × List Char)} (parted : Parted c Gap piece links)
    (before : List Char) (lastStop : Option Nat) {fuel : Nat}
    (enough : (joined c piece links).length < fuel) :
    let text := (before ++ joined c piece links).toArray
    pieces text before.length (p.matchesFrom text fuel before.length lastStop) =
      (piece :: links.map Prod.snd).map List.toArray := by
  induction parted generalizing before lastStop fuel with
  | @last piece clean =>
    cases fuel with
    | zero => contradiction
    | succ fuel =>
      simp only [joined, matchesFrom, nextMatch, divides.search_last before clean, pieces]
      simp
  | @link piece gap next links clean fits _ ih =>
    cases fuel with
    | zero => contradiction
    | succ fuel =>
      obtain ⟨m, found, start, stop⟩ := divides.search_link before clean fits
      have again : before ++ (piece ++ c :: (gap ++ joined c next links)) =
          before ++ (piece ++ c :: gap) ++ joined c next links := by simp
      have length : m.stop = (before ++ (piece ++ c :: gap)).length := by
        simp [stop, start, Nat.add_assoc]
      have first : (before ++ (piece ++ c :: (gap ++ joined c next links))).toArray.extract
          before.length m.start = piece.toArray := by
        simp [start]
      have fewer : (joined c next links).length < fuel := by
        simp only [joined, List.length_append, List.length_cons] at enough
        omega
      simp only [joined, matchesFrom, nextMatch_eq found (by omega), pieces, first]
      rw [length, again, ih (before ++ (piece ++ c :: gap)) _ fewer]
      rfl

/-! ### Separators -/

theorem lost_take {set : CharSet} {t : Thread} (there : p.nodes[t.address]? = some (.take set next))
    (outside : ∀ x, text[t.pos]? = some x → set.contains x = false) : p.Lost text t := by
  refine Lost.intro (by simp [Accepts, there]) ?_
  rintro u ⟨node, found, member⟩
  rw [there] at found
  cases found
  simp only [Node.step] at member
  split at member
  · rename_i x stands
    simp [outside x stands] at member
  · contradiction

/-- Where there is one way on, it is preferred. -/
theorem Prefers.only {node : Node} (there : p.nodes[t.address]? = some node)
    (way : node.step text t = [u]) (rest : p.Prefers text n u v) : p.Prefers text (n + 1) t v := by
  have way : node.step text t = [] ++ u :: [] := way
  exact .step there way (by simp) rest

theorem Prefers.take {set : CharSet} (there : p.nodes[t.address]? = some (.take set next))
    (stands : text[t.pos]? = some x) (inside : set.contains x = true)
    (rest : p.Prefers text n { t with address := next, pos := t.pos + 1 } v) :
    p.Prefers text (n + 1) t v :=
  .only there (by simp [Node.step, stands, inside]) rest

/-- A greedy loop over a class takes as many characters as there are. -/
theorem Prefers.greedy {set : CharSet} {count : Nat}
    (loop : p.nodes[entry]? = some (.split [body, exit]))
    (one : p.nodes[body]? = some (.take set entry))
    (inside : ∀ i < count, ∃ x, text[pos + i]? = some x ∧ set.contains x = true)
    (outside : ∀ x, text[pos + count]? = some x → set.contains x = false)
    (rest : p.Prefers text n ⟨exit, pos + count, start, marks⟩ v) :
    ∃ m, p.Prefers text m ⟨entry, pos, start, marks⟩ v := by
  induction count generalizing pos with
  | zero =>
    have stuck : p.Lost text ⟨body, pos, start, marks⟩ := lost_take one outside
    exact ⟨_, .step loop (show _ = [_] ++ _ :: [] from rfl) (by simpa using stuck) rest⟩
  | succ count ih =>
    have shift (i : Nat) : pos + (i + 1) = pos + 1 + i := by omega
    obtain ⟨x, stands, taken⟩ := inside 0 (by omega)
    rw [shift] at rest outside
    obtain ⟨m, onward⟩ := ih (fun i few => shift i ▸ inside (i + 1) (by omega)) outside rest
    have round : p.Prefers text (m + 1) ⟨body, pos, start, marks⟩ v := .take one stands taken onward
    exact ⟨_, .step loop (show _ = [] ++ _ :: [_] from rfl) (by simp) round⟩

/-- A single character separates without a gap. -/
theorem divides_literal (c : Char) :
    (Expr.literal [c]).program.Divides c fun gap _ => gap = [] where
  entry := ⟨1, rfl⟩
  reach := by
    rintro before _ after rfl
    have stands : (before ++ c :: ([] ++ after)).toArray[before.length]? = some c :=
      getElem?_toArray_append before (c :: after) 0
    have ends : (Expr.literal [c]).program.Prefers (before ++ c :: ([] ++ after)).toArray 1
        ⟨1, before.length + 1, before.length, []⟩ ⟨2, before.length + 1, before.length, []⟩ :=
      .only rfl rfl (.here rfl)
    exact ⟨2, _, .take rfl stands (contains_singleton.mpr rfl) ends, rfl, rfl⟩

/-- White space, all of it up to the text that follows. -/
def SpaceGap (gap after : List Char) : Prop :=
  (∀ x ∈ gap, Unicode.space.contains x = true) ∧
    ∀ x ∈ after.head?, Unicode.space.contains x = false

/-- A comma, and what white space comes after it. -/
def commaSpaces : Expr := .concat [.literal [','], .rep 0 none true (.chars Unicode.space)]

theorem divides_commaSpaces : commaSpaces.program.Divides ',' SpaceGap where
  entry := ⟨1, rfl⟩
  reach := by
    rintro before gap after ⟨inside, outside⟩
    have stands : (before ++ ',' :: (gap ++ after)).toArray[before.length]? = some ',' :=
      getElem?_toArray_append before (',' :: (gap ++ after)) 0
    have next (i : Nat) :
        (before ++ ',' :: (gap ++ after)).toArray[before.length + 1 + i]? = (gap ++ after)[i]? := by
      rw [Nat.add_assoc, Nat.add_comm 1 i, getElem?_toArray_append, List.getElem?_cons_succ]
    have ends : commaSpaces.program.Prefers (before ++ ',' :: (gap ++ after)).toArray 1
        ⟨4, before.length + 1 + gap.length, before.length, []⟩
        ⟨5, before.length + 1 + gap.length, before.length, []⟩ :=
      .only rfl rfl (.here rfl)
    obtain ⟨n, spaces⟩ : ∃ n, commaSpaces.program.Prefers (before ++ ',' :: (gap ++ after)).toArray
        n ⟨2, before.length + 1, before.length, []⟩
        ⟨5, before.length + 1 + gap.length, before.length, []⟩ := by
      refine Prefers.greedy rfl rfl (fun i few => ?_) (fun x here => ?_) ends
      · rw [next, List.getElem?_append_left few]
        exact ⟨gap[i], by simp [few], inside _ (List.getElem_mem few)⟩
      · rw [next, List.getElem?_append_right (Nat.le_refl _), Nat.sub_self] at here
        exact outside x (by rwa [List.head?_eq_getElem?])
    have jump : commaSpaces.program.Prefers (before ++ ',' :: (gap ++ after)).toArray (n + 1)
        ⟨1, before.length + 1, before.length, []⟩
        ⟨5, before.length + 1 + gap.length, before.length, []⟩ := .only rfl rfl spaces
    refine ⟨n + 2, _, .take rfl stands (contains_singleton.mpr rfl) jump, rfl, ?_⟩
    simp only
    omega

end Program

/-- What lists without a separator of their own are split by. -/
def defaultSplitter : Pattern := ⟨defaultSeparator, 0, Program.commaSpaces.program⟩

theorem ofString_defaultSeparator : ofString defaultSeparator = .ok defaultSplitter := by
  have read : exprOf defaultSeparator = .ok Program.commaSpaces := rfl
  have fits : Program.commaSpaces.fits = true := by decide +kernel
  rw [ofString_of_exprOf read, if_pos fits]
  rfl

/-- Splitting gives the pieces back that were joined. -/
theorem split_joined {pattern : Pattern} (divides : pattern.program.Divides c Gap)
    {piece : List Char} {links : List (List Char × List Char)} (parted : Parted c Gap piece links) :
    pattern.split (String.ofList (joined c piece links)) =
      (piece :: links.map Prod.snd).map String.ofList := by
  have cut := divides.pieces_matchesFrom parted [] none
    (show (joined c piece links).length < (joined c piece links).length + 2 by omega)
  simp only [List.nil_append, List.length_nil] at cut
  simp only [split, String.toList_ofList, Program.matchList, List.size_toArray, cut, List.map_map]
  rfl

/-! ### Single characters -/

theorem not_mem_of_mem_splitOn {c : Char} {text piece : List Char}
    (member : piece ∈ text.splitOn c) : c ∉ piece := by
  induction text generalizing piece with
  | nil =>
    rw [List.splitOn_nil, List.mem_singleton] at member
    simp [member]
  | cons d text ih =>
    rw [List.splitOn_cons_eq_if_modifyHead] at member
    split at member
    · rcases List.mem_cons.mp member with rfl | later
      · simp
      · exact ih later
    · rename_i other
      obtain ⟨first, others, split⟩ := List.exists_cons_of_ne_nil (List.splitOn_ne_nil c text)
      rw [split] at member ih
      rcases List.mem_cons.mp member with rfl | later
      · have other : c ≠ d := fun same => other (by simp [same])
        exact List.not_mem_cons_of_ne_of_not_mem other (ih List.mem_cons_self)
      · exact ih (List.mem_cons_of_mem _ later)

theorem joined_without_gaps (c : Char) (piece : List Char) (pieces : List (List Char)) :
    joined c piece (pieces.map fun next => ([], next)) = [c].intercalate (piece :: pieces) := by
  induction pieces generalizing piece with
  | nil => simp [joined, List.intercalate]
  | cons next pieces ih => simp [joined, ih, List.intercalate]

/-- A character as a separator cuts a text wherever it stands. -/
theorem split_character {pattern : Pattern} {c : Char}
    (program : pattern.program = (Expr.literal [c]).program) (input : String) :
    pattern.split input = (input.toList.splitOn c).map String.ofList := by
  obtain ⟨piece, pieces, cut⟩ := List.exists_cons_of_ne_nil (List.splitOn_ne_nil c input.toList)
  have clean (p : List Char) (member : p ∈ piece :: pieces) : c ∉ p :=
    not_mem_of_mem_splitOn (cut ▸ member)
  have parted : Parted c (fun gap _ => gap = []) piece (pieces.map fun next => ([], next)) := by
    clear cut
    induction pieces generalizing piece with
    | nil => exact .last (clean piece List.mem_cons_self)
    | cons next pieces ih =>
      exact .link (clean piece List.mem_cons_self) rfl
        (ih next fun p member => clean p (List.mem_cons_of_mem _ member))
  have whole : joined c piece (pieces.map fun next => ([], next)) = input.toList := by
    rw [joined_without_gaps, ← cut, List.intercalate_splitOn]
  have split := split_joined (program ▸ Program.divides_literal c) parted
  rw [whole, String.ofList_toList] at split
  rw [split, cut]
  simp

end Construe.Pattern
