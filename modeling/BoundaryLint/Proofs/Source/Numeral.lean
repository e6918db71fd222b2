import BoundaryLint.Proofs.Text.Letter
import BoundaryLint.Source.Numeral

/-!
The decimal numeral of a number has that number for its value, up to the digit limit.
-/

namespace BoundaryLint.Numeral

theorem digitBelow?_of_isDigit {c : Char} (digit : c.isDigit = true) :
    digitBelow? 10 c = some (c.toNat - '0'.toNat) := by
  have upper := Text.toNat_le_of_isDigit digit
  have ascii : c.toNat < 128 := by omega
  have small : c.toNat - '0'.toNat < 10 := by
    have zero : '0'.toNat = 48 := rfl
    omega
  simp only [digitBelow?, digitValue?, Text.decimalValue?, ascii, digit, if_true, Option.filter_some, small,
    decide_true]

theorem valueFrom_digits {digits : List Char} (decimal : ∀ c ∈ digits, c.isDigit = true) (value : Nat) :
    valueFrom 10 value digits = some (Nat.ofDigitChars 10 digits value) := by
  induction digits generalizing value with
  | nil => simp [valueFrom, Nat.ofDigitChars_nil]
  | cons c digits ih =>
    have first := digitBelow?_of_isDigit (decimal c (by simp))
    have later := ih (fun d member => decimal d (List.mem_cons_of_mem _ member))
    simp only [valueFrom, first, later, Nat.ofDigitChars_cons, Nat.mul_comm value 10]

theorem integer_toString {value : Nat} (short : (toString value).length ≤ digitLimit) :
    integer (toString value) = .ok value := by
  have chars : (toString value).toList = Nat.toDigits 10 value := Nat.toList_repr
  have decimals : ∀ c ∈ Nat.toDigits 10 value, c.isDigit = true := fun c member =>
    Nat.isDigit_of_mem_toDigits (by decide) (by decide) member
  have kept : withoutSeparators (toString value) = Nat.toDigits 10 value := by
    rw [withoutSeparators, chars, List.filter_eq_self]
    intro c member
    have digit := decimals c member
    simp only [decide_eq_true_eq]
    rintro rfl
    exact absurd digit (by decide)
  have counted : ¬digitLimit < ((Nat.toDigits 10 value).takeWhile fun c =>
      (Text.decimalValue? c).isSome).length := by
    have bound := (List.takeWhile_sublist (l := Nat.toDigits 10 value) fun c =>
      (Text.decimalValue? c).isSome).length_le
    rw [← String.length_toList, chars] at short
    omega
  have known : natural? 10 (Nat.toDigits 10 value) = some value := by
    have nonempty : (Nat.toDigits 10 value).isEmpty = false := by simp [Nat.toDigits_ne_nil]
    simp only [natural?, nonempty, Bool.false_eq_true, if_false, valueFrom_digits decimals,
      Nat.ofDigitChars_toDigits (show 1 < 10 by decide) (Nat.le_refl 10)]
  have read : decimal (Nat.toDigits 10 value) = .ok value := by
    simp only [decimal, counted, if_false, known]
  unfold integer
  rw [kept]
  -- No digit marks another base.
  split
  · next digits shape => exact absurd (decimals 'x' (by simp [shape])) (by decide)
  · next digits shape => exact absurd (decimals 'o' (by simp [shape])) (by decide)
  · next digits shape => exact absurd (decimals 'b' (by simp [shape])) (by decide)
  · exact read

end BoundaryLint.Numeral
