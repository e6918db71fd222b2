import BoundaryLint.Proofs.Source.Numeral
import Mathlib

/-!
The ways to write a whole number. Without underscores and without regard to the case of letters a numeral of a base is
the digits of its value, maybe behind zeros. However it is spelled, that value is read from it.
-/

namespace BoundaryLint.Numeral

inductive Base where
  | decimal
  | hexadecimal
  | octal
  | binary
deriving DecidableEq, Repr

namespace Base

def radix : Base → Nat
  | .decimal => 10
  | .hexadecimal => 16
  | .octal => 8
  | .binary => 2

def mark : Base → List Char
  | .decimal => []
  | .hexadecimal => ['0', 'x']
  | .octal => ['0', 'o']
  | .binary => ['0', 'b']

def numeral (base : Base) (chars : List Char) : List Char := base.mark ++ chars

/-- The characters behind the mark are the digits of the value in small or capital letters, with zeros in front and
underscores anywhere. A decimal numeral starts with a digit, and it has a limited number of them. -/
structure Spells (base : Base) (value : Nat) (chars : List Char) : Prop where
  digits : ∃ zeros, (chars.filter (· ≠ '_')).map Char.toLower =
    List.replicate zeros '0' ++ Nat.toDigits base.radix value
  starts : base = .decimal → chars.head? ≠ some '_'
  short : base = .decimal → (chars.filter (· ≠ '_')).length ≤ 4300

theorem one_lt_radix (base : Base) : 1 < base.radix := by cases base <;> decide

theorem radix_le (base : Base) : base.radix ≤ 16 := by cases base <;> decide

theorem separator_not_mem_mark (base : Base) : '_' ∉ base.mark := by cases base <;> decide

end Base

section Digits

variable {radix value digit : Nat} {c : Char} {chars : List Char}

theorem eq_of_toLower (same : c.toLower = digit.digitChar) : c = digit.digitChar ∨ c = digit.digitChar.toUpper := by
  by_cases capital : c.isUpper = true
  · have large : ¬c.isLower = true := fun small => Char.not_isUpper_of_isLower small capital
    rw [← same, Char.toUpper_toLower_eq_toUpper, Char.toUpper_eq_of_not_isLower large]
    exact .inr rfl
  · rw [← same, Char.toLower_eq_of_not_isUpper capital]
    exact .inl rfl

theorem digitValue?_digitChar : ∀ digit < 16,
    digitValue? digit.digitChar = some digit ∧ digitValue? digit.digitChar.toUpper = some digit := by
  decide

theorem digitBelow?_of_toLower (small : digit < radix) (bound : radix ≤ 16) (same : c.toLower = digit.digitChar) :
    digitBelow? radix c = some digit := by
  have known : digitValue? c = some digit := by
    obtain ⟨plain, capital⟩ := digitValue?_digitChar digit (Nat.lt_of_lt_of_le small bound)
    rcases eq_of_toLower same with rfl | rfl
    · exact plain
    · exact capital
  simp [digitBelow?, known, small]

theorem valueFrom_append (radix start : Nat) (first second : List Char) :
    valueFrom radix start (first ++ second) =
      (valueFrom radix start first).bind fun value => valueFrom radix value second := by
  induction first generalizing start with
  | nil => rfl
  | cons c first ih =>
    rw [List.cons_append, valueFrom, valueFrom]
    cases digitBelow? radix c with
    | none => rfl
    | some digit => exact ih _

theorem valueFrom_zeros (positive : 0 < radix) (bound : radix ≤ 16) {zeros : Nat}
    (same : chars.map Char.toLower = List.replicate zeros '0') : valueFrom radix 0 chars = some 0 := by
  induction zeros generalizing chars with
  | zero =>
    obtain rfl : chars = [] := by simpa using same
    rfl
  | succ zeros ih =>
    obtain ⟨c, rest, rfl, zero, others⟩ := List.map_eq_cons_iff.mp same
    rw [valueFrom, digitBelow?_of_toLower positive bound zero]
    simpa using ih others

/-- The digits of a number add up to it, each behind those of the quotient by the base. -/
theorem valueFrom_toDigits (base : 1 < radix) (bound : radix ≤ 16)
    (same : chars.map Char.toLower = Nat.toDigits radix value) : valueFrom radix 0 chars = some value := by
  induction value using Nat.strong_induction_on generalizing chars with
  | _ value ih =>
    by_cases single : value < radix
    · rw [Nat.toDigits_of_lt_base single] at same
      obtain ⟨c, rest, rfl, digit, others⟩ := List.map_eq_cons_iff.mp same
      obtain rfl : rest = [] := by simpa using others
      rw [valueFrom, digitBelow?_of_toLower single bound digit]
      simp [valueFrom]
    · have below : value % radix < radix := Nat.mod_lt _ (by omega)
      rw [Nat.toDigits_of_base_le base (by omega)] at same
      obtain ⟨first, last, rfl, front, back⟩ := List.map_eq_append_iff.mp same
      obtain ⟨c, rest, rfl, digit, others⟩ := List.map_eq_cons_iff.mp back
      obtain rfl : rest = [] := by simpa using others
      have quotient : valueFrom radix 0 first = some (value / radix) :=
        ih _ (Nat.div_lt_self (by omega) base) front
      rw [valueFrom_append, quotient, Option.bind_some, valueFrom, digitBelow?_of_toLower below bound digit]
      simp [valueFrom, Nat.div_add_mod']

theorem mem_toDigits (base : 1 < radix) (mem : c ∈ Nat.toDigits radix value) :
    ∃ digit < radix, c = digit.digitChar := by
  induction value using Nat.strong_induction_on with
  | _ value ih =>
    by_cases single : value < radix
    · rw [Nat.toDigits_of_lt_base single, List.mem_singleton] at mem
      exact ⟨value, single, mem⟩
    · rw [Nat.toDigits_of_base_le base (by omega), List.mem_append, List.mem_singleton] at mem
      rcases mem with early | last
      · exact ih _ (Nat.div_lt_self (by omega) base) early
      · exact ⟨_, Nat.mod_lt _ (by omega), last⟩

end Digits

namespace Base.Spells

variable {base : Base} {value : Nat} {chars : List Char} {c : Char}

theorem digit_of_mem (spells : base.Spells value chars) (mem : c ∈ chars.filter (· ≠ '_')) :
    ∃ digit < base.radix, c.toLower = digit.digitChar := by
  obtain ⟨zeros, digits⟩ := spells.digits
  have listed := List.mem_map_of_mem (f := Char.toLower) mem
  rw [digits, List.mem_append, List.mem_replicate] at listed
  rcases listed with ⟨-, zero⟩ | digit
  · exact ⟨0, Nat.lt_of_succ_lt base.one_lt_radix, zero⟩
  · exact mem_toDigits base.one_lt_radix digit

theorem nonempty (spells : base.Spells value chars) : chars.filter (· ≠ '_') ≠ [] := by
  obtain ⟨zeros, digits⟩ := spells.digits
  intro empty
  rw [empty] at digits
  simp at digits

theorem natural?_eq (spells : base.Spells value chars) :
    natural? base.radix (chars.filter (· ≠ '_')) = some value := by
  have positive : 0 < base.radix := Nat.lt_of_succ_lt base.one_lt_radix
  have some : (chars.filter (· ≠ '_')).isEmpty = false := by simpa using spells.nonempty
  obtain ⟨zeros, digits⟩ := spells.digits
  obtain ⟨front, back, split, leading, number⟩ := List.map_eq_append_iff.mp digits
  rw [natural?, some, split, valueFrom_append, valueFrom_zeros positive base.radix_le leading, Option.bind_some,
    valueFrom_toDigits base.one_lt_radix base.radix_le number]
  rfl

/-- No digit of a decimal numeral is a letter, in particular none marks another base. -/
theorem isDigit_of_mem (spells : decimal.Spells value chars) (mem : c ∈ chars.filter (· ≠ '_')) : c.isDigit = true := by
  have table : ∀ digit < 10, digit.digitChar.isDigit = true ∧ digit.digitChar.toUpper.isDigit = true := by decide
  obtain ⟨digit, small, same⟩ := spells.digit_of_mem mem
  rcases eq_of_toLower same with rfl | rfl
  · exact (table digit small).1
  · exact (table digit small).2

theorem decimal_eq (spells : decimal.Spells value chars) : Numeral.decimal (chars.filter (· ≠ '_')) = .ok value := by
  have counted : ¬digitLimit < ((chars.filter (· ≠ '_')).takeWhile fun c => (Text.decimalValue? c).isSome).length := by
    have bound : (chars.filter (· ≠ '_')).length ≤ digitLimit := spells.short rfl
    have fewer := (List.takeWhile_sublist (l := chars.filter (· ≠ '_')) (Text.decimalValue? · |>.isSome)).length_le
    omega
  have known : natural? 10 (chars.filter (· ≠ '_')) = some value := spells.natural?_eq
  rw [Numeral.decimal, if_neg counted, known]

theorem integer_eq (spells : base.Spells value chars) : integer (String.ofList (base.numeral chars)) = .ok value := by
  have kept : withoutSeparators (String.ofList (base.numeral chars)) = base.mark ++ chars.filter (· ≠ '_') := by
    have whole : base.mark.filter (· ≠ '_') = base.mark := by
      rw [List.filter_eq_self]
      intro c mem
      have other : c ≠ '_' := ne_of_mem_of_not_mem mem base.separator_not_mem_mark
      simpa using other
    rw [withoutSeparators, String.toList_ofList, numeral, List.filter_append, whole]
  have number := spells.natural?_eq
  rw [integer, kept]
  cases base with
  | decimal =>
    have digits : ∀ c ∈ chars.filter (· ≠ '_'), c.isDigit = true := fun c => spells.isDigit_of_mem
    rw [mark, List.nil_append]
    split
    · next rest shape => exact absurd (digits 'x' (by rw [shape]; simp)) (by decide)
    · next rest shape => exact absurd (digits 'o' (by rw [shape]; simp)) (by decide)
    · next rest shape => exact absurd (digits 'b' (by rw [shape]; simp)) (by decide)
    · exact spells.decimal_eq
  | hexadecimal | octal | binary =>
    generalize chars.filter (· ≠ '_') = digits at number
    dsimp only [radix] at number
    simp [mark, number]

end Base.Spells

end BoundaryLint.Numeral
