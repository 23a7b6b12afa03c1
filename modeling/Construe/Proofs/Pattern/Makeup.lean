import Construe.Proofs.Pattern.Classes

/-! # What expressions are made of

Conditions on the classes and on the bounds that occur in an expression pass from parts to what is
built from them, as long as they allow for the classes and bounds that reducing brings in. -/
namespace Construe.Pattern

/-- Conditions on the Unicode classes, the ASCII classes and the bounds of an expression. -/
structure Makeup where
  classes : CharSet → Prop
  bytes : CharSet → Prop
  bounds : Bounds → Prop

/-- Classes have proper ranges and may be any joined ones; bounds are in order and may be those of
an option. -/
structure Makeup.Lawful (m : Makeup) : Prop where
  proper {set : CharSet} : m.classes set → set.Proper
  proper_bytes {set : CharSet} : m.bytes set → set.Proper
  joined {set : CharSet} : set.isCanonical = true → m.classes set
  nothing : m.bytes .empty
  ordered {b : Bounds} : m.bounds b → b.Ordered
  option : m.bounds (0, some 1)

namespace Expr

/-- All classes and bounds that occur meet their conditions. -/
inductive Made (m : Makeup) : Expr → Prop where
  | empty : Made m .empty
  | literal : Made m (.literal text)
  | chars {set : CharSet} : m.classes set → Made m (.chars set)
  | bytes {set : CharSet} : m.bytes set → Made m (.bytes set)
  | look : Made m (.look kind)
  | rep {min : Nat} {max : Option Nat} : m.bounds (min, max) → Made m body →
      Made m (.rep min max greedy body)
  | capture : Made m body → Made m (.capture index name body)
  | concat : (∀ p ∈ parts, Made m p) → Made m (.concat parts)
  | alt : (∀ b ∈ branches, Made m b) → Made m (.alt branches)

variable {m : Makeup}

theorem Made.imp {m' : Makeup} (classes : ∀ set, m.classes set → m'.classes set)
    (bytes : ∀ set, m.bytes set → m'.bytes set) (bounds : ∀ b, m.bounds b → m'.bounds b)
    {e : Expr} (made : e.Made m) : e.Made m' := by
  induction made with
  | empty => exact .empty
  | literal => exact .literal
  | chars meets => exact .chars (classes _ meets)
  | bytes meets => exact .bytes (bytes _ meets)
  | look => exact .look
  | rep meets _ ih => exact .rep (bounds _ meets) ih
  | capture _ ih => exact .capture ih
  | concat _ ih => exact .concat ih
  | alt _ ih => exact .alt ih

theorem Made.of_mem_concat {parts : List Expr} (made : (Expr.concat parts).Made m)
    (member : p ∈ parts) : p.Made m := by
  cases made with
  | concat each => exact each p member

theorem Made.of_mem_alt {branches : List Expr} (made : (Expr.alt branches).Made m)
    (member : b ∈ branches) : b.Made m := by
  cases made with
  | alt each => exact each b member

/-! ### Building -/

theorem made_sequence {parts : List Expr} (each : ∀ p ∈ parts, p.Made m) :
    (sequence parts).Made m := by
  have flat : ∀ e ∈ parts, ∀ p ∈ flatParts e, p.Made m := by
    intro e inside p member
    rcases mem_flatParts member with rfl | ⟨inner, rfl, member⟩
    · exact each p inside
    · exact (each _ inside).of_mem_concat member
  exact of_sequence (Made m) flat (fun _ _ _ _ => .literal) .empty (fun _ made => made)
    fun _ made => .concat made

theorem made_charClass (lawful : m.Lawful) {set : CharSet} (meets : m.classes set) :
    (charClass set).Made m := by
  unfold charClass
  split
  · exact .bytes lawful.nothing
  · split
    · exact .literal
    · exact .chars meets

theorem made_byteClass (lawful : m.Lawful) {set : CharSet} (meets : m.bytes set) :
    (byteClass set).Made m := by
  unfold byteClass
  split
  · exact .bytes lawful.nothing
  · split
    · exact .literal
    · exact .bytes meets

/-- The bounds of a repetition stay, unless its body takes nothing anyway. -/
theorem repeated_ordered {b : Bounds} (ordered : b.Ordered) (greedy : Bool) (body : Expr) :
    (b = (0, some 0) ∧ repeated b.1 b.2 greedy body = .empty) ∨
    ((b = (1, some 1) ∨ body.maxLength? = some 0 ∧ 1 ≤ b.1) ∧
      repeated b.1 b.2 greedy body = body) ∨
    (body.maxLength? = some 0 ∧ b.1 = 0 ∧
      repeated b.1 b.2 greedy body = .rep 0 (some 1) greedy body) ∨
    repeated b.1 b.2 greedy body = .rep b.1 b.2 greedy body := by
  obtain ⟨min, max⟩ := b
  unfold repeated
  by_cases hollow : body.maxLength? = some 0
  · -- A body that takes nothing is there at most once: it is needed, or it can be left out.
    rcases Nat.eq_zero_or_pos min with rfl | positive
    · rcases max with _ | _ | max <;> simp [hollow]
    · have one : Nat.min min 1 = 1 := Nat.min_eq_right positive
      have top : Nat.min (max.getD 1) 1 = 1 := by
        cases max with
        | none => rfl
        | some max =>
          have : min ≤ max := ordered max rfl
          exact Nat.min_eq_right (Nat.le_trans positive this)
      refine .inr (.inl ⟨.inr ⟨hollow, positive⟩, ?_⟩)
      simp [hollow, one, top]
  · simp only [hollow, beq_iff_eq, if_false, Bool.and_eq_true]
    split
    · simp_all
    · split
      · simp_all
      · simp

theorem made_repeated (lawful : m.Lawful) {b : Bounds} (meets : m.bounds b) {greedy : Bool}
    {body : Expr} (made : body.Made m) : (repeated b.1 b.2 greedy body).Made m := by
  rcases repeated_ordered (lawful.ordered meets) greedy body with
    ⟨_, null⟩ | ⟨_, one⟩ | ⟨_, _, option⟩ | many
  · rw [null]
    exact .empty
  · rw [one]
    exact made
  · rw [option]
    exact .rep lawful.option made
  · rw [many]
    exact .rep meets made

/-! ### Choices -/

theorem exists_mem_of_mapM {f : β → Option γ} : ∀ {xs : List β} {ys : List γ},
    xs.mapM f = some ys → ∀ y ∈ ys, ∃ x ∈ xs, f x = some y
  | [], ys, done, y, member => by
    cases done
    contradiction
  | x :: xs, ys, done, y, member => by
    simp only [List.mapM_cons, Option.bind_eq_bind, Option.bind_eq_some_iff] at done
    obtain ⟨z, head, others, tail, same⟩ := done
    cases same
    rcases List.mem_cons.mp member with rfl | later
    · exact ⟨x, List.mem_cons_self, head⟩
    · obtain ⟨x', inside, found⟩ := exists_mem_of_mapM tail y later
      exact ⟨x', List.mem_cons_of_mem x inside, found⟩

theorem made_flatBranches {es : List Expr} (each : ∀ e ∈ es, e.Made m) :
    ∀ e ∈ es.flatMap flatBranches, e.Made m := by
  intro b member
  obtain ⟨e, inside, member⟩ := List.mem_flatMap.mp member
  rcases mem_flatBranches member with rfl | ⟨branches, rfl, member⟩
  · exact each b inside
  · exact (each _ inside).of_mem_alt member

theorem made_restsAfter {es : List Expr} (shared : sharedStart es ≠ [])
    (each : ∀ e ∈ es, e.Made m) : ∀ e ∈ restsAfter (sharedStart es) es, e.Made m := by
  intro r member
  obtain ⟨e, inside, rfl⟩ := List.mem_map.mp member
  obtain ⟨parts, rfl, _⟩ := sharedStart_isPrefix shared e inside
  exact made_sequence fun p member =>
    (each _ inside).of_mem_concat (List.mem_of_mem_drop member)

theorem Made.of_classSet? {e : Expr} {set : CharSet} (made : e.Made m)
    (read : e.classSet? = some set) :
    m.classes set ∨ m.bytes set := by
  cases made with
  | chars meets =>
    cases read
    exact .inl meets
  | bytes meets =>
    cases read
    exact .inr meets
  | _ => contradiction

theorem canonical_foldl_union {sets : List CharSet} {s : CharSet} (first : s.isCanonical = true)
    (each : ∀ t ∈ sets, t.Proper) : (sets.foldl CharSet.union s).isCanonical = true := by
  induction sets generalizing s with
  | nil => exact first
  | cons t sets ih =>
    obtain ⟨next, others⟩ := List.forall_mem_cons.mp each
    exact ih (CharSet.isCanonical_union (CharSet.proper_of_isCanonical first) next) others

theorem made_choiceFrom (lawful : m.Lawful) (fuel : Nat) {es : List Expr}
    (each : ∀ e ∈ es, e.Made m) : (choiceFrom fuel es).Made m := by
  induction fuel generalizing es with
  | zero => exact .alt each
  | succ fuel ih =>
    have flat := made_flatBranches each
    generalize built : choiceFrom (fuel + 1) es = c
    cases built ▸ choiceFrom_cases fuel es with
    | none => exact .bytes lawful.nothing
    | one single => exact flat c (by simp [single])
    | letters => exact made_charClass lawful (lawful.joined (CharSet.isCanonical_ofList _))
    | classes read =>
      refine made_charClass lawful (lawful.joined (canonical_foldl_union rfl fun set member => ?_))
      obtain ⟨e, inside, single⟩ := exists_mem_of_mapM read set member
      exact ((flat e inside).of_classSet? single).elim lawful.proper lawful.proper_bytes
    | apart => exact .alt flat
    | shared two shared =>
      refine made_sequence fun p member => ?_
      rcases List.mem_append.mp member with start | rest
      · obtain ⟨e, inside⟩ := List.exists_mem_of_length_pos (Nat.lt_of_lt_of_le Nat.two_pos two)
        obtain ⟨parts, rfl, shorter⟩ := sharedStart_isPrefix shared e inside
        exact (flat _ inside).of_mem_concat (shorter.subset start)
      · rw [List.mem_singleton.mp rest]
        exact ih (made_restsAfter shared flat)

theorem made_choice (lawful : m.Lawful) {es : List Expr} (each : ∀ e ∈ es, e.Made m) :
    (choice es).Made m :=
  made_choiceFrom lawful _ each

/-! ### Classes as they are written -/

end Expr

/-- Classes in the form in which their ranges are written, and any bounds. -/
def Makeup.canonical : Makeup where
  classes set := set.isCanonical = true
  bytes set := set.isCanonical = true
  bounds _ := True

namespace Expr

theorem Made.isCanonical {e : Expr} {set : CharSet} (made : e.Made .canonical)
    (read : e.classSet? = some set) : set.isCanonical = true :=
  (made.of_classSet? read).elim id id

mutual

theorem made_of_legible : ∀ {e : Expr}, e.legible = true → e.Made .canonical
  | .empty, _ => .empty
  | .literal _, _ => .literal
  | .chars _, legible => .chars legible
  | .bytes _, legible => .bytes (Bool.and_eq_true_iff.mp legible).1
  | .look _, _ => .look
  | .rep _ _ _ _, legible => .rep trivial (made_of_legible (legible_rep.mp legible).1)
  | .capture _ _ body, legible => .capture (made_of_legible (e := body) legible)
  | .concat _, legible => .concat (made_of_legibleAll legible)
  | .alt _, legible => .alt (made_of_legibleAll legible)

theorem made_of_legibleAll : ∀ {es : List Expr}, legibleAll es = true →
    ∀ e ∈ es, e.Made .canonical
  | [], _ => by simp
  | _ :: _, legible =>
    have both := Bool.and_eq_true_iff.mp legible
    List.forall_mem_cons.mpr ⟨made_of_legible both.1, made_of_legibleAll both.2⟩

end

end Expr

end Construe.Pattern
