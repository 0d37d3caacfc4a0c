import Mathlib.Data.List.Basic
import Mathlib.Data.List.Induction

/-!
Canonical decimal numerals.

Owns `IsNumeral`, which says of a text alone that it is the numeral of a number: digits with the right
value and no zero before another digit. The main statement is `isNumeral_iff`, that every number has
exactly one such text, the one that it is shown as.
-/

namespace Stencil

/-- The number that digits stand for. -/
def decimalValue (text : String) : Nat := Nat.ofDigitChars 10 text.toList 0

/-- A text is the canonical decimal numeral of a number: one digit or more whose value is the number,
and no zero before another digit. -/
structure IsNumeral (text : String) (number : Nat) : Prop where
  digits : ∀ c ∈ text.toList, c.isDigit = true
  value : decimalValue text = number
  nonempty : text ≠ ""
  leading : text.toList.head? = some '0' → text = "0"

/-! ### Digits -/

private theorem digitChar_toNat {c : Char} (isDigit : c.isDigit = true) :
    c.toNat - '0'.toNat < 10 ∧ (c.toNat - '0'.toNat).digitChar = c := by
  have range : 48 ≤ c.toNat ∧ c.toNat ≤ 57 := Char.isDigit_iff_toNat.mp isDigit
  have small : c.toNat - 48 < 10 := by omega
  refine ⟨small, Char.toNat_inj.mp ?_⟩
  exact (Nat.toNat_digitChar_of_lt_ten small).trans (by omega)

/-- No zero stands before the other digits of a number. -/
private theorem head?_toDigits_ne {number : Nat} (positive : 0 < number) :
    (Nat.toDigits 10 number).head? ≠ some '0' := by
  induction number using Nat.strongRecOn with
  | ind number inductionHypothesis =>
      by_cases small : number < 10
      · rw [Nat.toDigits_of_lt_base small, List.head?_cons, ne_eq, Option.some_inj,
          Nat.digitChar_eq_zero]
        exact Nat.ne_of_gt positive
      · rw [Nat.toDigits_of_base_le (by decide) (Nat.le_of_not_lt small),
          List.head?_append_of_ne_nil _ Nat.toDigits_ne_nil]
        exact inductionHypothesis _ (by omega) (by omega)

/-- Digits with no zero before others are those of their value. -/
private theorem eq_toDigits {digits : List Char} (areDigits : ∀ c ∈ digits, c.isDigit = true)
    (nonempty : digits ≠ []) (leading : digits.head? = some '0' → digits = ['0']) :
    digits = Nat.toDigits 10 (Nat.ofDigitChars 10 digits 0) := by
  induction digits using List.reverseRecOn with
  | nil => exact absurd rfl nonempty
  | append_singleton digits c inductionHypothesis =>
      rw [List.forall_mem_append, List.forall_mem_singleton] at areDigits
      obtain ⟨small, isDigit⟩ := digitChar_toNat areDigits.2
      rw [Nat.ofDigitChars_append, Nat.ofDigitChars_cons, Nat.ofDigitChars_nil]
      by_cases alone : digits = []
      · subst alone
        rw [Nat.ofDigitChars_nil, Nat.mul_zero, Nat.zero_add, Nat.toDigits_of_lt_base small,
          isDigit]
        rfl
      · have noZero : digits.head? ≠ some '0' := by
          intro zero
          rw [List.head?_append_of_ne_nil _ alone] at leading
          have length := congrArg List.length (leading zero)
          rw [List.length_append, List.length_singleton] at length
          exact alone (List.length_eq_zero_iff.mp (Nat.succ.inj length))
        have shorter := inductionHypothesis areDigits.1 alone fun zero => absurd zero noZero
        have positive : 0 < Nat.ofDigitChars 10 digits 0 := by
          rw [Nat.pos_iff_ne_zero]
          intro none
          rw [none, Nat.toDigits_zero] at shorter
          exact noZero (congrArg List.head? shorter)
        rw [← Nat.toDigits_append_toDigits (by decide) positive small, ← shorter,
          Nat.toDigits_of_lt_base small, isDigit]

/-! ### Numerals -/

theorem isNumeral_toString (number : Nat) : IsNumeral (toString number) number where
  digits := by
    rw [Nat.toString_eq_ofList_toDigits, String.toList_ofList]
    exact fun c member => Nat.isDigit_of_mem_toDigits (by decide) (by decide) member
  value := by
    rw [decimalValue, Nat.toString_eq_ofList_toDigits, String.toList_ofList]
    exact Nat.ofDigitChars_toDigits (by decide) (by decide)
  nonempty := Nat.repr_ne_empty
  leading := by
    intro zero
    rw [Nat.toString_eq_ofList_toDigits, String.toList_ofList] at zero
    rcases Nat.eq_zero_or_pos number with rfl | positive
    · rfl
    · exact absurd zero (head?_toDigits_ne positive)

theorem toString_injective : Function.Injective (toString : Nat → String) := by
  intro first second same
  rw [← (isNumeral_toString first).value, same, (isNumeral_toString second).value]

theorem isNumeral_iff {text : String} {number : Nat} :
    IsNumeral text number ↔ text = toString number := by
  constructor
  · rintro ⟨digits, rfl, nonempty, leading⟩
    rw [decimalValue, Nat.toString_eq_ofList_toDigits, ← eq_toDigits digits, String.ofList_toList]
    · exact fun empty => nonempty (String.toList_eq_nil_iff.mp empty)
    · intro zero
      rw [leading zero]
      rfl
  · rintro rfl
    exact isNumeral_toString number

end Stencil
