import Mathlib
import Construe.Number.Integer

/-! # Decimal numbers

An integer is read from its digits, with a minus sign in front of them if it is negative, as long
as it is in the range of its kind. A plus sign is the only other thing that may stand in front. -/
namespace Construe

/-- ASCII digits, at least one, and the number they are for. -/
structure Digits (cs : List Char) (n : Nat) : Prop where
  some : cs ≠ []
  ascii : ∀ c ∈ cs, c.isDigit = true
  value : Nat.ofDigitChars 10 cs 0 = n

/-- Digits, or a minus sign and digits. -/
inductive Numeral : List Char → Int → Prop where
  | natural {n : Nat} : Digits cs n → Numeral cs n
  | negative {n : Nat} : Digits cs n → Numeral ('-' :: cs) (-n)

theorem digits_toDigits (n : Nat) : Digits (Nat.toDigits 10 n) n where
  some := Nat.toDigits_ne_nil
  ascii _ := Nat.isDigit_of_mem_toDigits (by decide) (by decide)
  value := Nat.ofDigitChars_ten_toDigits

theorem numeral_toString (n : Int) : Numeral (toString n).toList n := by
  cases n with
  | ofNat n =>
    have text : toString (Int.ofNat n) = toString n := rfl
    rw [text, Nat.toString_eq_ofList_toDigits, String.toList_ofList]
    exact .natural (digits_toDigits n)
  | negSucc n =>
    have text : toString (Int.negSucc n) = "-" ++ toString (n + 1) := rfl
    have letters : (toString (Int.negSucc n)).toList = '-' :: Nat.toDigits 10 (n + 1) := by
      rw [text, Nat.toString_eq_ofList_toDigits, String.toList_append]
      simp
    rw [letters]
    exact .negative (digits_toDigits (n + 1))

theorem Numeral.not_mem {word : List Char} {n : Int} (numeral : Numeral word n) {c : Char}
    (other : c.isDigit = false) (plain : c ≠ '-') : c ∉ word := by
  have digits {cs : List Char} {n : Nat} (digits : Digits cs n) : c ∉ cs := by
    intro member
    simp [digits.ascii c member] at other
  cases numeral with
  | natural all => exact digits all
  | negative all => exact List.not_mem_cons_of_ne_of_not_mem plain (digits all)

namespace IntKind

theorem digitsValue?_eq_some {cs : List Char} {n : Nat} :
    digitsValue? cs = some n ↔ Digits cs n := by
  have value : Nat.ofDigitChars 10 cs 0 =
      cs.foldl (fun n c => n * 10 + (c.toNat - '0'.toNat)) 0 := by
    simp only [Nat.ofDigitChars_eq_foldl, Nat.mul_comm]
  constructor
  · intro read
    unfold digitsValue? at read
    split at read
    · contradiction
    · rename_i some
      split at read
      · rename_i ascii
        exact ⟨some, List.all_eq_true.mp ascii, value.trans (Option.some.inj read)⟩
      · contradiction
  · rintro ⟨nonempty, ascii, rfl⟩
    rw [digitsValue?, if_pos (List.all_eq_true.mpr ascii), value]
    exact nonempty

theorem ne_sign_of_digits {c : Char} {cs : List Char} (digits : Digits (c :: cs) n) :
    c ≠ '-' ∧ c ≠ '+' := by
  have ascii := digits.ascii c List.mem_cons_self
  constructor <;> rintro rfl <;> contradiction

/-- Without a plus sign, just the numerals of the kind's range are read. -/
theorem read?_eq_some {k : IntKind} (signed : k.signed = true) {text : String} {n : Int}
    (unmarked : text.toList.head? ≠ some '+') :
    k.read? text = some n ↔ k.holds n = true ∧ Numeral text.toList n := by
  have ranged (m : Option Int) :
      (m.bind fun n => if k.holds n then some n else none) = some n ↔
        k.holds n = true ∧ m = some n := by
    simp only [Option.bind_eq_some_iff, Option.ite_none_right_eq_some, Option.some.injEq]
    constructor
    · rintro ⟨_, rfl, holds, rfl⟩
      exact ⟨holds, rfl⟩
    · rintro ⟨holds, rfl⟩
      exact ⟨n, rfl, holds, rfl⟩
  unfold read?
  dsimp only
  split
  · rename_i cs marked
    simp [marked] at unmarked
  · rename_i cs marked
    simp only [signed, if_true, Option.bind_eq_bind, ranged, marked]
    refine and_congr_right fun _ => ?_
    constructor
    · intro read
      obtain ⟨_, found, rfl⟩ := Option.map_eq_some_iff.mp read
      obtain ⟨m, value, same⟩ := Option.bind_eq_some_iff.mp found
      cases same
      exact .negative (digitsValue?_eq_some.mp value)
    · intro numeral
      cases numeral with
      | natural digits => exact absurd rfl (ne_sign_of_digits digits).1
      | negative digits =>
        rw [digitsValue?_eq_some.mpr digits]
        rfl
  · rename_i plain
    simp only [Option.bind_eq_bind, ranged]
    refine and_congr_right fun _ => ?_
    generalize text.toList = cs at plain ⊢
    constructor
    · intro read
      obtain ⟨m, value, rfl⟩ := Option.map_eq_some_iff.mp read
      exact .natural (digitsValue?_eq_some.mp value)
    · intro numeral
      cases numeral with
      | natural digits =>
        rw [digitsValue?_eq_some.mpr digits]
        rfl
      | negative => exact absurd rfl (plain _)

end IntKind

end Construe
