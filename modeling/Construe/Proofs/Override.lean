import Construe.Proofs.Cycles

/-! # An explicit pattern stands in for what a type declares

Asked for with a pattern of its own, a type is read by that pattern and its primary constructor;
its declared pattern, variants, alternates and converter do not matter, unless the resolution of a
parameter comes to them by another way. So two schemas and two registries that differ in nothing
else give the same answer. Which points of a build are come to is said by a relation that follows
the resolution step by step and stops where the resolution does. -/
namespace Construe

open Relation (ReflTransGen)

section Consultation

variable (schema : Schema α) (serve : Key → Option (Converter α))

/-- The options and the pattern of a binding are in order. -/
def Binding.Accepted (b : Binding α) : Prop :=
  b.constructor.unknownOptions = [] ∧ ∃ m, Pattern.whole b.pattern b.constructor.arity = .ok m

/-- Every parameter of a binding that is in order has an interpreter. -/
def Binding.Drafted (b : Binding α) : Prop :=
  b.Accepted ∧ ∀ p ∈ b.constructor.params, Draft.Drafted schema serve (.key p.key)

/-- The binding is in order, and the parameters before one with this key have interpreters. -/
def Binding.Asks (b : Binding α) (k : Key) : Prop :=
  b.Accepted ∧ ∃ before p after, b.constructor.params = before ++ p :: after ∧ p.key = k ∧
    ∀ q ∈ before, Draft.Drafted schema serve (.key q.key)

/-- Resolution goes on from one point of a build to another: what it does before has succeeded. -/
inductive Schema.Consults : Node → Node → Prop where
  | item {sequence : Sequence α} : serve k = none →
      (schema.describe k.type).sequence = some sequence →
      Pattern.ofString (k.separator.getD defaultSeparator) = .ok splitter →
      Consults (.key k) (.key ⟨sequence.item, k.pattern, none⟩)
  | explicit : serve k = none → (schema.describe k.type).sequence = none → k.separator = none →
      k.pattern = some pattern → (schema.describe k.type).constructor = some constructor →
      Binding.Asks schema serve ⟨pattern, constructor⟩ asked → Consults (.key k) (.key asked)
  | expansion : serve { type } = none → (schema.describe type).sequence = none →
      Consults (.key { type }) (.candidates type)
  | own : b ∈ (schema.describe type).ownBinding? → b.Asks schema serve asked →
      Consults (.candidates type) (.key asked)
  | variant : (schema.describe type).lacksConstructor = false →
      (∀ b ∈ (schema.describe type).ownBinding?, b.Drafted schema serve) →
      (schema.describe type).variants = before ++ v :: after →
      (∀ w ∈ before, Draft.Drafted schema serve (.candidates w.type)) →
      Consults (.candidates type) (.candidates v.type)
  | alternate : (schema.describe type).lacksConstructor = false →
      (∀ b ∈ (schema.describe type).ownBinding?, b.Drafted schema serve) →
      (∀ v ∈ (schema.describe type).variants, Draft.Drafted schema serve (.candidates v.type)) →
      (schema.describe type).alternates = before ++ b :: after →
      (∀ b' ∈ before, b'.Drafted schema serve) → b.Asks schema serve asked →
      Consults (.candidates type) (.key asked)

/-- Resolution from a point on comes neither to the plain key of a type nor to its candidates. -/
def Schema.PassesBy (type : TypeRef) (n : Node) : Prop :=
  ∀ m, ReflTransGen (schema.Consults serve) n m → m ≠ .key { type } ∧ m ≠ .candidates type

end Consultation

/-- Two schemas that differ at most in the pattern, the variants and the alternates that a type,
which is no list, declares. -/
structure Schema.SameBut (type : TypeRef) (schema schema' : Schema α) : Prop where
  others : ∀ t, t ≠ type → schema.describe t = schema'.describe t
  constructor : (schema.describe type).constructor = (schema'.describe type).constructor
  single : (schema.describe type).sequence = none
  single' : (schema'.describe type).sequence = none

namespace Schema

variable {schema schema' : Schema α} {serve serve' : Key → Option (Converter α)}

theorem SameBut.constructor_eq (same : SameBut type schema schema') (t : TypeRef) :
    (schema.describe t).constructor = (schema'.describe t).constructor := by
  by_cases this : t = type
  · exact this ▸ same.constructor
  · rw [same.others t this]

theorem SameBut.sequence_eq (same : SameBut type schema schema') (t : TypeRef) :
    (schema.describe t).sequence = (schema'.describe t).sequence := by
  by_cases this : t = type
  · rw [this, same.single, same.single']
  · rw [same.others t this]

theorem PassesBy.step (passes : schema.PassesBy serve type a)
    (consults : schema.Consults serve a b) : schema.PassesBy serve type b :=
  fun m reached => passes m (.head consults reached)

/-- Resolution goes on to nothing but what the point needs. -/
theorem Consults.leads (consults : schema.Consults serve a b) : schema.Leads serve a b := by
  have asked {b : Binding α} {k : Key} (asks : b.Asks schema serve k) : k ∈ b.keys := by
    obtain ⟨_, before, p, after, split, rfl, _⟩ := asks
    exact List.mem_map_of_mem (by simp [split])
  cases consults with
  | item unserved shape _ => exact Draft.leads_item unserved shape
  | explicit unserved shape separator given declared asks =>
    exact Draft.leads_explicit unserved shape separator given declared (asked asks)
  | expansion unserved shape => exact Draft.leads_sum unserved shape rfl rfl
  | own declared asks =>
    exact Draft.leads_binding serve (List.mem_append_left _ (by simpa using declared)) (asked asks)
  | variant _ _ split _ => exact Draft.leads_variant serve (by simp [split])
  | alternate _ _ _ split _ asks =>
    exact Draft.leads_binding serve (List.mem_append_right _ (by simp [split])) (asked asks)

/-- A list of points that is closed under needs tells what is passed by. -/
theorem passesBy_of_closed (nodes : List Node) (start : n ∈ nodes)
    (closed : ∀ a ∈ nodes, ∀ b ∈ schema.needs serve a, b ∈ nodes)
    (apart : .key { type } ∉ nodes ∧ .candidates type ∉ nodes) : schema.PassesBy serve type n := by
  intro m reached
  have member : m ∈ nodes := by
    induction reached with
    | refl => exact start
    | tail _ step ih => exact closed _ ih _ step.leads
  exact ⟨fun this => apart.1 (this ▸ member), fun this => apart.2 (this ▸ member)⟩

end Schema

namespace Draft

open Build

/-- The same result, short of fuel. -/
def Alike (a b : Except Stop β) : Prop :=
  a = b ∨ a = .error .exhausted ∨ b = .error .exhausted

namespace Alike

theorem refl (a : Except Stop β) : Alike a a := .inl rfl

theorem left : Alike (.error .exhausted) (b : Except Stop β) := .inr (.inl rfl)

theorem right : Alike (a : Except Stop β) (.error .exhausted) := .inr (.inr rfl)

theorem eq {a b : Except Stop β} (alike : Alike a b) (ends : a ≠ .error .exhausted)
    (ends' : b ≠ .error .exhausted) : a = b := by
  rcases alike with same | short | short
  · exact same
  · exact absurd short ends
  · exact absurd short ends'

theorem outer {a b : Except Stop β} (alike : Alike a b) : Alike (outer type a) (outer type b) := by
  rcases alike with rfl | rfl | rfl
  · exact refl _
  · exact left
  · exact right

theorem bind {a b : Except Stop β} {f g : β → Except Stop γ} (first : Alike a b)
    (next : ∀ y, a = .ok y → Alike (f y) (g y)) : Alike (a >>= f) (b >>= g) := by
  rcases first with rfl | rfl | rfl
  · cases a with
    | error => exact refl _
    | ok y => exact next y rfl
  · exact left
  · exact right

/-- A traversal comes to an element when those before it have succeeded. -/
theorem mapM {f g : β → Except Stop γ} {xs : List β}
    (each : ∀ before x after, xs = before ++ x :: after →
      (∀ y ∈ before, ∃ z, f y = .ok z) → Alike (f x) (g x)) :
    Alike (xs.mapM f) (xs.mapM g) := by
  induction xs with
  | nil => exact refl _
  | cons x xs ih =>
    simp only [List.mapM_cons]
    refine (each [] x xs rfl (by simp)).bind fun y done => ?_
    refine (ih fun before z after split earlier => ?_).bind fun _ _ => refl _
    refine each (x :: before) z after (by simp [split]) fun w member => ?_
    rcases List.mem_cons.mp member with rfl | member
    · exact ⟨y, done⟩
    · exact earlier w member

end Alike

variable {schema schema' : Schema α} {serve serve' : Key → Option (Converter α)}
  {type : TypeRef}

theorem drafted_of_bound (bound : resolveBinding schema serve fuel path t b wrap = .ok c) :
    b.Drafted schema serve := by
  cases fuel with
  | zero => simp [resolveBinding] at bound
  | succ fuel =>
    obtain ⟨options, matcher, _, compiled, _⟩ := resolveBinding_eq_ok.mp bound
    exact ⟨⟨options, matcher, compiled⟩, fun p listed => drafted_of_resolveBinding bound listed⟩

/-- Two drafts to compare: the schemas are the same but for a type, and so are the converters. -/
structure Compared (type : TypeRef) (schema schema' : Schema α)
    (serve serve' : Key → Option (Converter α)) : Prop where
  same : Schema.SameBut type schema schema'
  agree : ∀ k, k ≠ { type } → serve k = serve' k

mutual

/-- Two drafts on one path are alike where the first comes to nothing that may differ. -/
theorem alike_resolve (compared : Compared type schema schema' serve serve') :
    ∀ {fuel fuel' path key}, schema.PassesBy serve type (.key key) →
    Alike (resolve schema serve fuel path key) (resolve schema' serve' fuel' path key)
  | 0, _, _, _, _ => .left
  | _ + 1, 0, _, _, _ => .right
  | fuel + 1, fuel' + 1, path, key, passes => by
    simp only [resolve]
    split
    · exact .refl _
    · exact alike_resolveNew compared passes

theorem alike_resolveNew (compared : Compared type schema schema' serve serve') :
    ∀ {fuel fuel' path key}, schema.PassesBy serve type (.key key) →
    Alike (resolveNew schema serve fuel path key) (resolveNew schema' serve' fuel' path key)
  | 0, _, _, _, _ => .left
  | _ + 1, 0, _, _, _ => .right
  | fuel + 1, fuel' + 1, path, key, passes => by
    have other : key ≠ { type } := fun this => (passes _ .refl).1 (this ▸ rfl)
    simp only [resolveNew, ← compared.agree key other, ← compared.same.sequence_eq,
      ← compared.same.constructor_eq]
    cases served : serve key with
    | some convert => exact .refl _
    | none =>
      cases shape : (schema.describe key.type).sequence with
      | some sequence =>
        refine (Alike.refl _).bind fun splitter compiled => ?_
        have consults := Schema.Consults.item served shape (compileSeparator_eq_ok.mp compiled)
        exact (alike_resolve compared (passes.step consults)).outer.bind fun _ _ => .refl _
      | none =>
        cases separator : key.separator with
        | some separator => exact .refl _
        | none =>
          cases given : key.pattern with
          | some pattern =>
            cases declared : (schema.describe key.type).constructor with
            | none => exact .refl _
            | some constructor =>
              refine (alike_resolveBinding compared fun k asks => ?_).bind fun _ _ => .refl _
              exact passes.step (.explicit served shape separator given declared asks)
          | none =>
            obtain ⟨t, _, _⟩ := key
            cases separator
            cases given
            have distinct : t ≠ type := fun this => other (this ▸ rfl)
            rw [← compared.same.others t distinct]
            have consults := Schema.Consults.expansion served shape
            exact (alike_unfold compared (passes.step consults)).bind fun _ _ => .refl _

theorem alike_unfold (compared : Compared type schema schema' serve serve') :
    ∀ {fuel fuel' path t wrap}, schema.PassesBy serve type (.candidates t) →
    Alike (unfold schema serve fuel path t wrap) (unfold schema' serve' fuel' path t wrap)
  | 0, _, _, _, _, _ => .left
  | _ + 1, 0, _, _, _, _ => .right
  | fuel + 1, fuel' + 1, path, t, wrap, passes => by
    have distinct : t ≠ type := fun this => (passes _ .refl).2 (this ▸ rfl)
    simp only [unfold, ← compared.same.others t distinct]
    split
    · exact .refl _
    · split
      · exact .refl _
      · rename_i binds
        have binds : (schema.describe t).lacksConstructor = false := by simpa using binds
        have bindings {bs : List (Binding α)} {cs : List (Candidate α)}
            (bound : bs.mapM (resolveBinding schema serve fuel path t · wrap) = .ok cs) b
            (listed : b ∈ bs) : b.Drafted schema serve := by
          obtain ⟨_, _, bound⟩ := mem_left_of_forall₂ (mapM_eq_ok.mp bound) listed
          exact drafted_of_bound bound
        refine (Alike.mapM fun before b after split _ => ?_).bind fun own bound => ?_
        · have listed : b ∈ (schema.describe t).ownBinding? :=
            Option.mem_toList.mp (by simp [split])
          exact alike_resolveBinding compared fun k asks => passes.step (.own listed asks)
        have own b (declared : b ∈ (schema.describe t).ownBinding?) : b.Drafted schema serve :=
          bindings bound b (Option.mem_toList.mpr declared)
        refine (Alike.mapM fun before v after split earlier => ?_).bind fun variants inner => ?_
        · have drafted w (member : w ∈ before) : Drafted schema serve (.candidates w.type) := by
            obtain ⟨cs, unfolded⟩ := earlier w member
            exact ⟨_, _, _, cs, outer_eq_ok.mp unfolded⟩
          exact (alike_unfold compared (passes.step (.variant binds own split drafted))).outer
        have variants v (declared : v ∈ (schema.describe t).variants) :
            Drafted schema serve (.candidates v.type) := by
          obtain ⟨cs, _, unfolded⟩ := mem_left_of_forall₂ (mapM_eq_ok.mp inner) declared
          exact ⟨_, _, _, cs, outer_eq_ok.mp unfolded⟩
        refine (Alike.mapM fun before b after split earlier => ?_).bind fun _ _ => .refl _
        have drafted b' (member : b' ∈ before) : b'.Drafted schema serve := by
          obtain ⟨c, bound⟩ := earlier b' member
          exact drafted_of_bound bound
        exact alike_resolveBinding compared fun k asks =>
          passes.step (.alternate binds own variants split drafted asks)

theorem alike_resolveBinding (compared : Compared type schema schema' serve serve') :
    ∀ {fuel fuel' path t b wrap},
    (∀ k, b.Asks schema serve k → schema.PassesBy serve type (.key k)) →
    Alike (resolveBinding schema serve fuel path t b wrap)
      (resolveBinding schema' serve' fuel' path t b wrap)
  | 0, _, _, _, _, _, _ => .left
  | _ + 1, 0, _, _, _, _, _ => .right
  | fuel + 1, fuel' + 1, path, t, ⟨pattern, constructor⟩, wrap, passes => by
    simp only [resolveBinding]
    split
    · exact .refl _
    · rename_i options
      refine (Alike.refl _).bind fun matcher compiled => ?_
      refine (Alike.mapM fun before p after split earlier => ?_).bind fun _ _ => .refl _
      have accepted : Binding.Accepted ⟨pattern, constructor⟩ :=
        ⟨options, matcher, compilePattern_eq_ok.mp compiled⟩
      have drafted q (member : q ∈ before) : Drafted schema serve (.key q.key) := by
        obtain ⟨i, resolved⟩ := earlier q member
        exact ⟨_, _, i, outer_eq_ok.mp resolved⟩
      exact (alike_resolve compared
        (passes p.key ⟨accepted, before, p, after, split, rfl, drafted⟩)).outer

end

end Draft

namespace Registry

/-- Two schemas of quiet declarations differ at most in the pattern, the variants and the alternates
of a type that is no list, and two registries at most in the converter of that type. Asked for the
type with a pattern of its own, they answer alike, by the same error or the same interpreter, unless
the resolution comes to the type's plain key or to its candidates. -/
theorem explicit_pattern_overrides {schema schema' : Schema α} {type : TypeRef}
    (quiet : schema.Quiet) (quiet' : schema'.Quiet) (same : Schema.SameBut type schema schema')
    (scalars scalars' : Bool) (converters converters' : List (TypeRef × Converter α))
    (agree : ∀ t, t ≠ type →
      (create scalars converters).converter? t = (create scalars' converters').converter? t)
    (names names' : List String) (pattern : String)
    (passes : schema.PassesBy (create scalars converters).converterFor? type
      (.key ⟨type, some pattern, none⟩)) :
    ((create scalars converters).ask schema names ⟨type, some pattern, none⟩).1 =
      ((create scalars' converters').ask schema' names' ⟨type, some pattern, none⟩).1 := by
  let key : Key := ⟨type, some pattern, none⟩
  let r := create scalars converters
  let r' := create scalars' converters'
  have compared : Draft.Compared type schema schema' r.converterFor? r'.converterFor? := by
    refine ⟨same, fun k other => ?_⟩
    obtain ⟨t, _ | _, _ | _⟩ := k
    · exact agree t fun this => other (this ▸ rfl)
    all_goals rfl
  have alike : Draft.Alike
      (Draft.resolve schema r.converterFor? (schema.fuel key) .start key)
      (Draft.resolve schema' r'.converterFor? (schema'.fuel key) .start key) :=
    Draft.alike_resolve compared passes
  have resolved := alike.eq (Draft.resolve_ne_exhausted quiet r key)
    (Draft.resolve_ne_exhausted quiet' r' key)
  calc ((r.run schema []).ask schema names key).1
    _ = schema.answer r.converterFor? key := ask_run quiet scalars converters [] (by simp) names key
    _ = schema'.answer r'.converterFor? key := congrArg key.settle resolved
    _ = ((r'.run schema' []).ask schema' names' key).1 :=
      (ask_run quiet' scalars' converters' [] (by simp) names' key).symm

/-- A seal is made of an ink and a letter; what else is declared of it is left open. -/
def seals (declare : Descriptor Unit → Descriptor Unit) : Schema Unit where
  declarations := [
    { name := "Seal"
      descriptor := declare
        { constructor := some (.ofTypes [.declared "Ink", .scalar .char] fun _ => .ok ()) } },
    { name := "Ink"
      descriptor := {
        pattern := some "(r|b)"
        constructor := some (.ofTypes [.scalar .char] fun _ => .ok ()) } }]

/-- A pattern of its own, or a variant that is declared nowhere and a converter: a seal that is
asked for with a pattern is read in one way. -/
theorem seals_read_alike :
    ((create true []).ask (seals (·.withPattern "<(.)>")) []
      ⟨.declared "Seal", some "([a-z]+)/(s)", none⟩).1 =
    ((create true [(.declared "Seal", fun _ => none)]).ask
      (seals (·.addVariant ⟨.declared "Wax", fun _ => ()⟩)) ["later"]
      ⟨.declared "Seal", some "([a-z]+)/(s)", none⟩).1 ∧
    ((create true []).ask (seals (·.withPattern "<(.)>")) []
      ⟨.declared "Seal", some "([a-z]+)/(s)", none⟩).1.isOk = true := by
  have same : Schema.SameBut (.declared "Seal") (seals (·.withPattern "<(.)>"))
      (seals (·.addVariant ⟨.declared "Wax", fun _ => ()⟩)) := by
    refine ⟨fun t other => ?_, rfl, rfl, rfl⟩
    cases t with
    | scalar | list => rfl
    | declared name =>
      have unlike : name ≠ "Seal" := fun this => other (this ▸ rfl)
      simp [Schema.describe, Schema.find?, seals, List.find?_cons, Ne.symm unlike]
  refine ⟨explicit_pattern_overrides (Schema.quiet_of_declarations (by simp [seals]))
    (Schema.quiet_of_declarations (by simp [seals])) same true true [] _ (fun t other => ?_) [] _ _
    (Schema.passesBy_of_closed [
      .key ⟨.declared "Seal", some "([a-z]+)/(s)", none⟩, .key { type := .declared "Ink" },
      .candidates (.declared "Ink"), .key { type := .scalar .char }] ?_ ?_ ?_), by cbv⟩
  · simp [create, other]
  · simp
  · decide
  · decide

end Registry

end Construe
