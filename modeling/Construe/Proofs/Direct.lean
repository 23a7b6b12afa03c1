import Mathlib
import Construe.Proofs.Outcome
import Construe.Proofs.Transparency

/-! # Interpreting without building

Direct interpretation goes by the declarations anew for every text: nothing is kept, variants are
tried one within the other instead of being unfolded into one list of candidates, and each lifting
is applied where it is declared. An interpreter that was built gives the same values. -/
namespace Construe

namespace Schema

mutual

/-- The value of a text as a key asks for it. Fuel bounds the nesting of the declarations. -/
def eval (schema : Schema α) (serve : Key → Option (Converter α)) :
    (fuel : Nat) → Key → String → Option (Value α)
  | 0, _, _ => none
  | fuel + 1, key, input =>
    match serve key with
    | some convert => convert input
    | none =>
      match (schema.describe key.type).sequence, key.pattern with
      | some sequence, pattern => do
        let splitter ← (Pattern.ofString (key.separator.getD defaultSeparator)).toOption
        let values ← (splitter.split input).mapM
          (eval schema serve fuel ⟨sequence.item, pattern, none⟩)
        (sequence.collect values).toOption
      | none, some pattern => do
        let constructor ← (schema.describe key.type).constructor
        evalBinding schema serve fuel key.type ⟨pattern, constructor⟩ input
      | none, none => trial schema serve fuel key.type input

/-- The first success among a type's own binding, its variants and its alternates. Converters and
items of the variants are not asked for. -/
def trial (schema : Schema α) (serve : Key → Option (Converter α)) :
    (fuel : Nat) → TypeRef → String → Option (Value α)
  | 0, _, _ => none
  | fuel + 1, type, input =>
    let descriptor := schema.describe type
    let own := descriptor.ownBinding?.toList.findSome? (evalBinding schema serve fuel type · input)
    let variants := descriptor.variants.findSome? fun v =>
      (trial schema serve fuel v.type input).bind fun value => (v.wrap type.ownName value).toOption
    let alternates := descriptor.alternates.findSome? (evalBinding schema serve fuel type · input)
    own.or (variants.or alternates)

/-- Matches the whole text, takes every group as its parameter asks for it, and constructs. -/
def evalBinding (schema : Schema α) (serve : Key → Option (Converter α)) :
    (fuel : Nat) → TypeRef → Binding α → String → Option (Value α)
  | 0, _, _, _ => none
  | fuel + 1, type, b, input => do
    let matcher ← (Pattern.whole b.pattern b.constructor.arity).toOption
    let groups ← matcher.groups? input
    let values ← (b.constructor.params.zip groups).mapM fun x =>
      x.2.bind (eval schema serve fuel x.1.key)
    (b.constructor.construct type.ownName values).toOption

end

end Schema

/-! ### Liftings pass through the trial of alternatives -/

theorem bind_or {a b : Option β} {f : β → Option γ} (total : ∀ x, a = some x → (f x).isSome) :
    (a.or b).bind f = (a.bind f).or (b.bind f) := by
  cases a with
  | none => simp
  | some x =>
    obtain ⟨y, done⟩ := Option.isSome_iff_exists.mp (total x rfl)
    simp [done]

theorem bind_findSome? {xs : List δ} {f : δ → Option β} {g : β → Option γ}
    (total : ∀ x ∈ xs, ∀ b, f x = some b → (g b).isSome) :
    (xs.findSome? f).bind g = xs.findSome? fun x => (f x).bind g := by
  induction xs with
  | nil => rfl
  | cons x xs ih =>
    have others := ih fun y member => total y (List.mem_cons_of_mem _ member)
    rw [← List.singleton_append, List.findSome?_append, List.findSome?_append, bind_or, others]
    · simp
    · intro b first
      exact total x List.mem_cons_self b (by simpa using first)

/-- Alternatives that go together two by two give the same first success. -/
theorem findSome?_forall₂ {f : β → Option δ} {g : γ → Option δ} {xs : List β} {ys : List γ}
    (same : List.Forall₂ (fun x y => g y = f x) xs ys) : ys.findSome? g = xs.findSome? f := by
  induction same with
  | nil => rfl
  | cons first _ ih => rw [List.findSome?_cons, List.findSome?_cons, first, ih]

theorem findSome?_flatten (f : β → Option γ) (xss : List (List β)) :
    xss.flatten.findSome? f = xss.findSome? (·.findSome? f) := by
  induction xss with
  | nil => rfl
  | cons xs xss ih =>
    rw [List.flatten_cons, List.findSome?_append, ih, List.findSome?_cons]
    cases xs.findSome? f <;> rfl

open Interpreter (attempt value?_attempt toOption_candidates toOption_sequence)

namespace Schema

variable {schema : Schema α} {serve : Key → Option (Converter α)}

theorem type_wrap {v : Variant α} {inner : Value α} (done : v.wrap name inner = .ok value) :
    value.type = .declared name := by
  unfold Variant.wrap at done
  split at done
  · cases done
    rfl
  · contradiction

theorem type_evalBinding {fuel : Nat}
    (done : schema.evalBinding serve fuel type b input = some value) :
    value.type = .declared type.ownName := by
  cases fuel with
  | zero => simp [evalBinding] at done
  | succ fuel =>
    simp only [evalBinding, Option.bind_eq_bind, Option.bind_eq_some_iff] at done
    obtain ⟨_, _, _, _, _, _, constructed⟩ := done
    obtain ⟨_, _, _, _, rfl⟩ := Constructor.construct_eq_ok.mp (toOption_eq_some.mp constructed)
    rfl

/-- A step that takes all values of the type can be taken at every alternative. -/
theorem bind_trial {fuel : Nat} {g : Value α → Option β}
    (total : ∀ value, value.type = .declared type.ownName → (g value).isSome) :
    (schema.trial serve (fuel + 1) type input).bind g =
      ((schema.describe type).ownBinding?.toList.findSome? fun b =>
        (schema.evalBinding serve fuel type b input).bind g).or
      (((schema.describe type).variants.findSome? fun v =>
        (schema.trial serve fuel v.type input).bind fun inner =>
          (v.wrap type.ownName inner).toOption.bind g).or
      ((schema.describe type).alternates.findSome? fun b =>
        (schema.evalBinding serve fuel type b input).bind g)) := by
  have bound (b : Binding α) (value : Value α)
      (made : schema.evalBinding serve fuel type b input = some value) : (g value).isSome :=
    total value (type_evalBinding made)
  have lifted (v : Variant α) (value : Value α)
      (made : (schema.trial serve fuel v.type input).bind
        (fun inner => (v.wrap type.ownName inner).toOption) = some value) : (g value).isSome := by
    obtain ⟨inner, _, wrapped⟩ := Option.bind_eq_some_iff.mp made
    exact total value (type_wrap (toOption_eq_some.mp wrapped))
  rw [trial, bind_or, bind_or, bind_findSome? fun b _ => bound b,
    bind_findSome? fun v _ => lifted v, bind_findSome? fun b _ => bound b]
  · simp only [Option.bind_assoc]
  · intro value made
    obtain ⟨v, _, made⟩ := List.exists_of_findSome?_eq_some made
    exact lifted v value made
  · intro value made
    obtain ⟨b, _, made⟩ := List.exists_of_findSome?_eq_some made
    exact bound b value made

/-- The interpreter is for the type of the key. With enough fuel, direct interpretation gives the
values that it gives. -/
def Settled (schema : Schema α) (serve : Key → Option (Converter α)) (key : Key)
    (i : Interpreter α) : Prop :=
  i.target = key.type ∧ ∀ᶠ fuel in Filter.atTop, ∀ input,
    (i.interpret input).toOption = schema.eval serve fuel key input

theorem eventually_succ {p : Nat → Prop} (later : ∀ᶠ n in Filter.atTop, p (n + 1)) :
    ∀ᶠ n in Filter.atTop, p n := by
  rw [← Filter.map_add_atTop_eq_nat 1]
  exact later

theorem eventually_forall₂ {p : Nat → β → γ → Prop} {xs : List β} {ys : List γ}
    (each : List.Forall₂ (fun x y => ∀ᶠ n in Filter.atTop, p n x y) xs ys) :
    ∀ᶠ n in Filter.atTop, List.Forall₂ (p n) xs ys := by
  induction each with
  | nil => exact .of_forall fun _ => .nil
  | cons first _ ih => filter_upwards [first, ih] with n one others using .cons one others

theorem mapM_groups {fuel : Nat} {params : List Param} {parameters : List (Interpreter α)}
    (same : List.Forall₂ (fun p i => ∀ input,
      (Interpreter.interpret i input).toOption = schema.eval serve fuel p.key input)
      params parameters) (groups : List (Option String)) :
    ((parameters.zip groups).mapM fun x => x.2.bind fun group =>
      (x.1.interpret group).toOption) =
      (params.zip groups).mapM fun x => x.2.bind (schema.eval serve fuel x.1.key) := by
  induction same generalizing groups with
  | nil => rfl
  | cons first _ ih =>
    cases groups with
    | nil => rfl
    | cons group groups => simp only [List.zip_cons_cons, List.mapM_cons, first, ih groups]

theorem value?_of_bound (bound : Bound (schema.Settled serve) type wrap b candidate) :
    ∀ᶠ fuel in Filter.atTop, ∀ input, (attempt candidate input).value? =
      (schema.evalBinding serve fuel type b input).bind fun value => (wrap value).toOption := by
  obtain ⟨compiled, parts⟩ := bound
  apply eventually_succ
  filter_upwards [eventually_forall₂ (parts.imp fun _ _ => And.right)] with fuel same input
  have lifted (values : List (Value α)) : (b.constructor.chain type wrap values).toOption =
      (b.constructor.construct type.ownName values).toOption.bind
        fun value => (wrap value).toOption := toOption_bind _ _
  rw [value?_attempt, evalBinding, compiled]
  simp only [mapM_groups same, lifted, toOption_ok, Option.bind_eq_bind, Option.bind_some,
    Option.bind_assoc]

/-- The candidates of a type, with their liftings, succeed as the trial of the type does. -/
theorem findSome?_of_offered
    (offered : Offered schema (schema.Settled serve) type wrap candidates)
    (lifts : wrap.Lifts type root) :
    ∀ᶠ fuel in Filter.atTop, ∀ input,
      (candidates.findSome? fun candidate => (attempt candidate input).value?) =
        (schema.trial serve fuel type input).bind fun value => (wrap value).toOption := by
  induction offered with
  | @intro type wrap own inner alternates first aligned each last ih =>
    rcases schema.declared_or_plain type with declared | ⟨bare, childless, single⟩
    -- Liftings are total on the values of a declared type, so the first success stays the first.
    · have variants : List.Forall₂ (fun v candidates => ∀ᶠ fuel in Filter.atTop, ∀ input,
          (candidates.findSome? fun candidate => (attempt candidate input).value?) =
            (schema.trial serve fuel v.type input).bind
              fun value => (v.chain type wrap value).toOption)
          (schema.describe type).variants inner :=
        List.forall₂_iff_zip.mpr ⟨aligned, fun member =>
          ih _ member (Variant.lifts_chain lifts declared _)⟩
      have bindings {bs : List (Binding α)} {cs : List (Candidate α)}
          (bound : List.Forall₂ (Bound (schema.Settled serve) type wrap) bs cs) :=
        eventually_forall₂ (bound.imp fun _ _ => value?_of_bound)
      have total {value : Value α} (typed : value.type = .declared type.ownName) :
          ((wrap value).toOption).isSome := by
        obtain ⟨lifted, done, _⟩ := lifts value (declared ▸ Value.hasType_of_declared typed)
        rw [done]
        rfl
      apply eventually_succ
      filter_upwards [bindings first, eventually_forall₂ variants, bindings last]
        with fuel first variants last input
      have chained (v : Variant α) (value : Value α) : (v.chain type wrap value).toOption =
          (v.wrap type.ownName value).toOption.bind fun value => (wrap value).toOption :=
        toOption_bind _ _
      rw [List.findSome?_append, List.findSome?_append, findSome?_flatten, Option.or_assoc,
        findSome?_forall₂ (first.imp fun _ _ same => same input),
        findSome?_forall₂ (variants.imp fun _ _ same => same input),
        findSome?_forall₂ (last.imp fun _ _ same => same input), bind_trial fun _ => total]
      simp only [chained]
    -- Other types have neither candidates nor anything to try.
    · have ownless : (schema.describe type).ownBinding? = none := by
        simp [Descriptor.ownBinding?, bare]
      simp only [ownless, childless, single, Option.toList_none, List.forall₂_nil_left_iff,
        List.length_nil] at first aligned last
      have empty : inner = [] := List.length_eq_zero_iff.mp aligned.symm
      refine eventually_succ (.of_forall fun fuel input => ?_)
      simp [first, last, empty, trial, ownless, childless, single]

theorem Settled.of_assembled
    (assembled : Assembled schema (fun k found => serve k = found) (schema.Settled serve) key i) :
    schema.Settled serve key i := by
  refine ⟨assembled.target, ?_⟩
  cases assembled with
  | converter found =>
    refine eventually_succ (.of_forall fun fuel input => ?_)
    rw [Interpreter.toOption_converter, eval, found]
  | @sequence sequence splitter item none shape compiled part =>
    refine eventually_succ ?_
    filter_upwards [part.2] with fuel same input
    rw [toOption_sequence, eval, none, shape, compiled]
    simp only [same, toOption_ok, Option.bind_eq_bind, Option.bind_some]
  | @explicit pattern constructor candidate none shape plain given declared bound =>
    refine eventually_succ ?_
    filter_upwards [value?_of_bound bound] with fuel same input
    rw [toOption_candidates, eval, none, shape, given, declared]
    simp [same, toOption_ok]
  | @sum candidates none shape plain given offered nonempty =>
    refine eventually_succ ?_
    filter_upwards [findSome?_of_offered offered (Wrap.lifts_ok _)] with fuel same input
    rw [toOption_candidates, same, eval, none, shape, given]
    simp [toOption_ok]

/-- The account of a request where nothing is registered: all interpreters give the values of
direct interpretation. -/
def settledAccount (schema : Schema α) (quiet : schema.Quiet) (serve : Key → Option (Converter α))
    (generation : Nat) : Account schema generation where
  session s := s.registry.converterFor? = serve ∧ s.registry.Keeps (schema.Settled serve)
  current _ := True
  serves k found := serve k = found
  part := schema.Settled serve
  perform := by
    intro s type r _ member
    rw [quiet type] at member
    contradiction
  live _ _ := trivial
  keep holds _ _ assembled := ⟨holds.1, holds.2.keep (.of_assembled assembled)⟩
  cached holds _ found := holds.2 _ _ found
  served holds _ := by rw [holds.1]
  assembled := .of_assembled

end Schema

namespace Registry

/-- A lamp is red or green. -/
def lamps : Schema String where
  declarations := [
    { name := "Red"
      descriptor := {
        pattern := some "r", constructor := some (.ofTypes [] fun _ => .ok "red") } },
    { name := "Green"
      descriptor := {
        pattern := some "g", constructor := some (.ofTypes [] fun _ => .ok "green") } },
    { name := "Lamp"
      descriptor := {
        variants := [⟨.declared "Red", fun _ => "stop"⟩, ⟨.declared "Green", fun _ => "go"⟩] } }]

end Registry

end Construe
