import Construe.Proofs.Building
import Construe.Proofs.Outcome
import Construe.Proofs.Pattern.Hearing

/-! # Patterns between the ends of the text

A pattern for whole texts is compiled from the text of its anchored expression. That text is
refused only if it is nested too deeply or becomes too large, never for what it says; what it is
read as matches whole texts only, those that are spanned by what is heard of the pattern. -/
namespace Construe

namespace Pattern

open Build (bind_eq_ok)

/-! ### The text of a pattern between the ends -/

/-- The groups of a pattern have different names. -/
theorem fresh_exprOf {source : String} {e : Expr} (read : exprOf source = .ok e) :
    ReadState.Fresh [] e.captures := by
  obtain ⟨ast, f, structured, meant⟩ := exprOf_eq_ok.mp read
  obtain ⟨_, named, distinct⟩ := Ast.names_ofString structured
  have kept := ast.kept_sublist
  rw [(Ast.means_of_expr meant).captures (Ast.nodup_kept structured)]
  refine ⟨fun n member => ?_, distinct.sublist (kept.filterMap _), by simp⟩
  obtain ⟨g, inside, name⟩ := List.mem_filterMap.mp member
  exact named g (kept.subset inside) n name

theorem clean_anchored {e : Expr} (clean : e.Made .clean) : (anchored e).Made .clean :=
  Expr.made_sequence (by simpa using ⟨.look, clean, .look⟩)

/-- The text of a pattern between the ends is read as what is heard of it. -/
theorem conveys_anchored {source : String} {e : Expr} (read : exprOf source = .ok e) :
    ((anchored e).retold 0 []).Conveys fun text => (anchored e).heard.Spans text :=
  Expr.conveys_retold (anchored e) 0 [] (clean_anchored (clean_exprOf read))
    (reduced_anchored (reduced_exprOf read)) (by simp)

/-- The text of a pattern between the ends is refused only beyond a limit. -/
theorem ofString_anchored {source : String} {e inner : Expr} (read : exprOf source = .ok e)
    (meant : ((anchored e).retold 0 []).expr {} = .ok (inner, {})) :
    ofString (String.ofList (anchored e).render) =
      if nestLimit < ((anchored e).retold 0 []).depth then .error .tooDeep
      else if inner.fits then
        .ok ⟨String.ofList (anchored e).render, inner.groupCount, inner.program⟩
      else .error .tooLarge := by
  have structured := Expr.ofString_render_eq (clean_anchored (clean_exprOf read))
    (captures_anchored e ▸ fresh_exprOf read)
  by_cases deep : nestLimit < ((anchored e).retold 0 []).depth
  · rw [if_neg (by omega)] at structured
    rw [if_pos deep, ofString, exprOf, structured]
    rfl
  · rw [if_pos (by omega)] at structured
    rw [if_neg deep]
    exact ofString_of_exprOf (exprOf_eq_ok.mpr ⟨_, {}, structured, meant⟩)

/-! ### Whole texts -/

/-- An expression leads from the first position of a text to its last. -/
def Expr.TakesWhole (e : Expr) (input : String) : Prop :=
  ∃ marks, e.Takes input.toList.toArray (0, []) (input.toList.toArray.size, marks)

theorem takesWhole_iff {e : Expr} {input : String} : e.TakesWhole input ↔
    e.Spans input.toList.toArray 0 input.toList.toArray.size :=
  e.exists_takes_iff _ _ []

/-- A search for what is read back finds the whole text or nothing. -/
theorem of_search {e inner : Expr} {text : Text}
    (same : ∀ a c, inner.Spans text a c ↔ (anchored e).heard.Spans text a c)
    (found : inner.program.search text 0 = some m) :
    m.start = 0 ∧ m.stop = text.size ∧ e.heard.Spans text 0 text.size := by
  obtain ⟨_, _, taken⟩ := Program.takes_of_search found
  have spans := (inner.exists_takes_iff _ _ []).mp ⟨_, taken⟩
  exact (spans_heard_anchored e _ _).mp ((same _ _).mp spans)

theorem isSome_search_anchored {e inner : Expr} {text : Text}
    (same : ∀ a c, inner.Spans text a c ↔ (anchored e).heard.Spans text a c) :
    (inner.program.search text 0).isSome ↔ e.heard.Spans text 0 text.size := by
  constructor
  · intro some
    obtain ⟨m, found⟩ := Option.isSome_iff_exists.mp some
    exact (of_search same found).2.2
  · intro spans
    have ends := (same 0 text.size).mpr ((spans_heard_anchored e _ _).mpr ⟨rfl, rfl, spans⟩)
    obtain ⟨marks, taken⟩ := (inner.exists_takes_iff 0 text.size []).mpr ends
    exact Program.isSome_search_iff.mpr ⟨0, _, Nat.le_refl 0, Nat.zero_le _, taken⟩

/-- A pattern for whole texts matches a text as a whole or not at all, and just those texts that
what is heard of the pattern takes as a whole. The pattern itself takes these too; if it is legible,
all of it is heard. -/
theorem whole_matches {source : String} {arity : Nat} {m : Pattern}
    (compiled : whole source arity = .ok m) :
    ∃ e, exprOf source = .ok e ∧ (e.legible = true → e.heard = e) ∧ ∀ input : String,
      (∀ found, m.program.search input.toList.toArray 0 = some found →
        found.start = 0 ∧ found.stop = input.toList.toArray.size) ∧
      (m.isMatch input = true ↔ e.heard.TakesWhole input) ∧
      (m.isMatch input = true → e.TakesWhole input) := by
  obtain ⟨e, read, _⟩ := whole_eq_ok compiled
  obtain ⟨_, inner, f, _, rfl, meant, _, program⟩ := whole_eq_retold compiled read
  obtain ⟨inner', meant', _, same⟩ := conveys_anchored read
  obtain ⟨rfl, -⟩ := Prod.mk.inj (Except.ok.inj (meant.symm.trans meant'))
  refine ⟨e, read, Expr.heard_of_legible, fun input => ?_⟩
  have exactly : m.isMatch input = true ↔ e.heard.TakesWhole input := by
    rw [isMatch, program, isSome_search_anchored (same _), takesWhole_iff]
  refine ⟨fun found searched => ?_, exactly, fun hit => ?_⟩
  · rw [program] at searched
    obtain ⟨start, stop, _⟩ := of_search (same _) searched
    exact ⟨start, stop⟩
  · exact takesWhole_iff.mpr (Expr.spans_of_heard (takesWhole_iff.mp (exactly.mp hit)))

/-- The second of two branches is found where the first one, which is tried before, would leave
a rest. -/
theorem branches_match_whole :
    ∃ m e, whole "a|ab" 0 = .ok m ∧ exprOf "a|ab" = .ok e ∧ m.isMatch "ab" = true ∧
      m.isMatch "ab\n" = false ∧ ∀ input, m.isMatch input = true ↔ e.TakesWhole input := by
  obtain ⟨m, compiled⟩ : ∃ m, whole "a|ab" 0 = .ok m := exists_of_isOk (by cbv)
  obtain ⟨e, read, heard, matched⟩ := whole_matches compiled
  have legible : (exprOf "a|ab").toOption.map Expr.legible = some true := by cbv
  have two : (whole "a|ab" 0).toOption.map (fun m => (m.isMatch "ab", m.isMatch "ab\n")) =
      some (true, false) := by cbv
  rw [read] at legible
  rw [compiled] at two
  obtain ⟨longer, broken⟩ := Prod.mk.inj (Option.some.inj two)
  refine ⟨m, e, compiled, read, longer, broken, fun input => ?_⟩
  have all := (matched input).2.1
  rwa [heard (Option.some.inj legible)] at all

/-- Where an option follows a suffix, its question mark is read as a mark of laziness, and the
empty text, which the pattern takes, is matched no more. -/
theorem option_gets_lost :
    ∃ m e, whole "(?:a+)?" 0 = .ok m ∧ exprOf "(?:a+)?" = .ok e ∧ e.TakesWhole "" ∧
      m.isMatch "" = false := by
  obtain ⟨m, compiled⟩ : ∃ m, whole "(?:a+)?" 0 = .ok m := exists_of_isOk (by cbv)
  obtain ⟨e, read⟩ : ∃ e, exprOf "(?:a+)?" = .ok e := exists_of_isOk (by cbv)
  have missed : (whole "(?:a+)?" 0).toOption.map (·.isMatch "") = some false := by cbv
  have found : (exprOf "(?:a+)?").toOption.bind
      (fun e => (e.program.search #[] 0).map fun m => (m.start, m.stop)) = some (0, 0) := by cbv
  rw [compiled] at missed
  rw [read] at found
  obtain ⟨hit, searched, place⟩ := Option.map_eq_some_iff.mp found
  obtain ⟨start, stop⟩ := Prod.mk.inj place
  have taken := (Program.takes_of_search searched).2.2
  rw [start, stop] at taken
  exact ⟨m, e, compiled, read, ⟨_, taken⟩, Option.some.inj missed⟩

/-! ### Outcomes -/

theorem whole_of_refused {source : String} (refused : ofString source = .error f) (arity : Nat) :
    whole source arity = .error (.invalid f) := by
  rw [whole, refused]
  rfl

theorem whole_of_ne {source : String} {bare : Pattern} (accepted : ofString source = .ok bare)
    (other : bare.groups ≠ arity) : whole source arity = .error (.groupCount bare.groups) := by
  rw [whole, accepted]
  exact if_pos other

theorem fits_of_ofString {source : String} {e : Expr} {bare : Pattern}
    (accepted : ofString source = .ok bare) (read : exprOf source = .ok e) :
    e.fits = true ∧ bare.groups = e.groupCount := by
  rw [ofString_of_exprOf read] at accepted
  split at accepted
  · cases accepted
    exact ⟨‹_›, rfl⟩
  · contradiction

/-- A pattern that is accepted with the right number of groups is compiled for whole texts unless
its text between the ends is beyond a limit. -/
theorem whole_of_accepted {source : String} {e inner : Expr} (read : exprOf source = .ok e)
    (fits : e.fits = true) (meant : ((anchored e).retold 0 []).expr {} = .ok (inner, {})) :
    whole source e.groupCount =
      if nestLimit < ((anchored e).retold 0 []).depth then .error (.invalid .tooDeep)
      else if inner.fits then
        .ok ⟨String.ofList (anchored e).render, inner.groupCount, inner.program⟩
      else .error (.invalid .tooLarge) := by
  rw [whole_of_exprOf read, if_pos fits, ofString_anchored read meant]
  split
  · rfl
  · split <;> rfl

end Pattern

namespace Build

open Pattern (ofString exprOf anchored nestLimit)

variable (type : TypeRef) {source : String} {arity : Nat} {bare : Pattern}

theorem compilePattern_of_refused {f : Pattern.Fault} (refused : ofString source = .error f) :
    (compilePattern type source arity : Except Stop Pattern) =
      fail type (.invalidPattern source f.message) := by
  rw [compilePattern, Pattern.whole_of_refused refused]

theorem compilePattern_of_ne (accepted : ofString source = .ok bare)
    (other : bare.groups ≠ arity) : (compilePattern type source arity : Except Stop Pattern) =
      fail type (.arityMismatch source arity bare.groups) := by
  rw [compilePattern, Pattern.whole_of_ne accepted other]

/-- A pattern with the right number of groups is compiled unless its text between the ends is
nested too deeply or becomes too large. -/
theorem compilePattern_of_accepted (accepted : ofString source = .ok bare)
    (same : bare.groups = arity) : ∃ e inner, exprOf source = .ok e ∧
      ((anchored e).retold 0 []).expr {} = .ok (inner, {}) ∧
      (compilePattern type source arity : Except Stop Pattern) =
        if nestLimit < ((anchored e).retold 0 []).depth then
          fail type (.invalidPattern source Pattern.Fault.tooDeep.message)
        else if inner.fits then
          .ok ⟨String.ofList (anchored e).render, inner.groupCount, inner.program⟩
        else fail type (.invalidPattern source Pattern.Fault.tooLarge.message) := by
  obtain ⟨e, read, _⟩ := Pattern.ofString_eq_ok accepted
  obtain ⟨fits, count⟩ := Pattern.fits_of_ofString accepted read
  obtain ⟨inner, meant, _⟩ := Pattern.conveys_anchored read
  refine ⟨e, inner, read, meant, ?_⟩
  rw [compilePattern, ← same, count, Pattern.whole_of_accepted read fits meant]
  by_cases deep : nestLimit < ((anchored e).retold 0 []).depth
  · simp only [if_pos deep]
  · simp only [if_neg deep]
    cases inner.fits <;> rfl

/-- A pattern has the wrong number of groups just if it is accepted by itself with another number,
and is invalid if it is refused by itself. With the right number of groups it is compiled, unless
the text between the ends is nested too deeply or becomes too large. -/
theorem compilePattern_outcome (type : TypeRef) (source : String) (arity : Nat) :
    (∀ actual, (compilePattern type source arity : Except Stop Pattern) =
        fail type (.arityMismatch source arity actual) ↔
      ∃ bare, ofString source = .ok bare ∧ bare.groups = actual ∧ actual ≠ arity) ∧
    (∀ f, ofString source = .error f →
      (compilePattern type source arity : Except Stop Pattern) =
        fail type (.invalidPattern source f.message)) ∧
    ∀ bare, ofString source = .ok bare → bare.groups = arity → ∃ e inner,
      exprOf source = .ok e ∧ ((anchored e).retold 0 []).expr {} = .ok (inner, {}) ∧
      (compilePattern type source arity : Except Stop Pattern) =
        if nestLimit < ((anchored e).retold 0 []).depth then
          fail type (.invalidPattern source Pattern.Fault.tooDeep.message)
        else if inner.fits then
          .ok ⟨String.ofList (anchored e).render, inner.groupCount, inner.program⟩
        else fail type (.invalidPattern source Pattern.Fault.tooLarge.message) := by
  refine ⟨fun actual => ⟨fun failed => ?_, ?_⟩, fun f => compilePattern_of_refused type,
    fun bare => compilePattern_of_accepted type⟩
  · cases compiled : ofString source with
    | error f =>
      rw [compilePattern_of_refused type compiled] at failed
      cases failed
    | ok bare =>
      refine ⟨bare, rfl, ?_⟩
      by_cases same : bare.groups = arity
      · obtain ⟨e, inner, _, _, outcome⟩ := compilePattern_of_accepted type compiled same
        rw [outcome] at failed
        split at failed
        · cases failed
        · split at failed <;> cases failed
      · rw [compilePattern_of_ne type compiled same] at failed
        cases failed
        exact ⟨rfl, same⟩
  · rintro ⟨bare, accepted, rfl, other⟩
    exact compilePattern_of_ne type accepted other

/-- A group is compiled for one parameter and not for two; one that is left open is no pattern. -/
theorem compilePattern_group :
    (∃ p, (compilePattern (.declared "Letter") "(a)" 1 : Except Stop Pattern) = .ok p) ∧
    (compilePattern (.declared "Letter") "(a)" 2 : Except Stop Pattern) =
      fail (.declared "Letter") (.arityMismatch "(a)" 2 1) ∧
    (compilePattern (.declared "Letter") "(a" 1 : Except Stop Pattern) =
      fail (.declared "Letter") (.invalidPattern "(a" "unclosed group") := by
  obtain ⟨bare, accepted⟩ : ∃ bare, ofString "(a)" = .ok bare := exists_of_isOk (by cbv)
  have one : (ofString "(a)").toOption.map Pattern.groups = some 1 := by cbv
  have refused : ofString "(a" = .error .unclosedGroup := by cbv
  have known : (exprOf "(a)").toOption.map (fun e => (((anchored e).retold 0 []).depth,
      (((anchored e).retold 0 []).expr {}).toOption.map (·.1.fits))) = some (3, some true) := by cbv
  rw [accepted] at one
  have count : bare.groups = 1 := Option.some.inj one
  refine ⟨?_, ?_, ?_⟩
  · obtain ⟨e, inner, read, meant, outcome⟩ :=
      (compilePattern_outcome (.declared "Letter") "(a)" 1).2.2 bare accepted count
    rw [read] at known
    obtain ⟨depth, fits⟩ := Prod.mk.inj (Option.some.inj known)
    rw [meant] at fits
    have fits : inner.fits = true := Option.some.inj fits
    rw [outcome, depth, if_neg (by decide), if_pos fits]
    exact ⟨_, rfl⟩
  · exact ((compilePattern_outcome _ _ 2).1 1).mpr ⟨bare, accepted, count, by decide⟩
  · exact (compilePattern_outcome _ _ 1).2.1 _ refused

/-- A letter with stars one behind the other. -/
def manyStars : List Char := 'a' :: List.replicate 249 '*'

/-- Stars that are nested just less deeply than patterns may be are too many between the ends. -/
theorem ends_nest_too_deeply :
    (∃ bare, ofString (String.ofList manyStars) = .ok bare ∧ bare.groups = 0) ∧
    (compilePattern (.declared "Star") (String.ofList manyStars) 0 : Except Stop Pattern) =
      fail (.declared "Star")
        (.invalidPattern (String.ofList manyStars) "pattern is nested too deeply") := by
  have known : (exprOf (String.ofList manyStars)).toOption.map (fun e =>
      (e.fits, e.groupCount, ((anchored e).retold 0 []).depth)) = some (true, 0, 251) := by
    simp only [exprOf, Pattern.Ast.ofString, String.toList_ofList]
    decide +kernel
  obtain ⟨e, read, facts⟩ := Option.map_eq_some_iff.mp known
  have read := toOption_eq_some.mp read
  obtain ⟨fits, count, depth⟩ : e.fits = true ∧ e.groupCount = 0 ∧
      ((anchored e).retold 0 []).depth = 251 := by simpa using facts
  have accepted := Pattern.ofString_of_exprOf read
  rw [if_pos fits] at accepted
  refine ⟨⟨_, accepted, count⟩, ?_⟩
  obtain ⟨e', inner, again, _, outcome⟩ :=
    compilePattern_of_accepted (.declared "Star") accepted count
  obtain rfl := Except.ok.inj (read.symm.trans again)
  rw [outcome, depth]
  rfl

end Build

end Construe
