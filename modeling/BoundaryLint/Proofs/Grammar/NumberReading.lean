import BoundaryLint.Host.Ordinary
import BoundaryLint.Proofs.Grammar.Precedence
import BoundaryLint.Proofs.Source.Spelling
import BoundaryLint.Proofs.Token.Rendering
import Mathlib

/-!
Whole numbers as source texts. A numeral is one token, whatever its base and however it is spelled, and the two points
of a range behind it make no fraction of it. A minus in front of it belongs to the number.
-/

namespace BoundaryLint.Token

open Numeral (Base)
open Numeral.Base (Spells)

def EndsNumber (rest : List Char) : Prop := rest = [] ∨ ∃ more, rest = '.' :: '.' :: more

section Numerals

variable {base : Base} {value : Nat} {chars rest : List Char}

theorem EndsNumber.not_word (ends : EndsNumber rest) : ∀ c ∈ rest.head?, c = '.' := by
  rcases ends with rfl | ⟨more, rfl⟩
  · simp
  · simp

theorem EndsNumber.no_fraction (ends : EndsNumber rest) : scanFraction rest = none := by
  rcases ends with rfl | ⟨more, rfl⟩
  · rfl
  · simp [scanFraction, show Text.isDigit '.' = false by decide]

theorem isNumeralChar_of_spells (spells : Base.decimal.Spells value chars) : ∀ c ∈ chars, isNumeralChar c = true := by
  intro c mem
  by_cases separator : c = '_'
  · simp [isNumeralChar, separator]
  · have digit : c.isDigit = true := spells.isDigit_of_mem (by simp [mem, separator])
    simp [isNumeralChar, isDigit_of_ascii digit]

theorem isWordChar_of_spells (spells : base.Spells value chars) : ∀ c ∈ chars, Text.isWordChar c = true := by
  have table : ∀ digit < 16,
      Text.isWordChar digit.digitChar = true ∧ Text.isWordChar digit.digitChar.toUpper = true := by
    decide
  intro c mem
  by_cases separator : c = '_'
  · subst separator
    decide
  · obtain ⟨digit, small, same⟩ := spells.digit_of_mem (c := c) (by simp [mem, separator])
    obtain ⟨plain, capital⟩ := table digit (Nat.lt_of_lt_of_le small base.radix_le)
    rcases Numeral.eq_of_toLower same with rfl | rfl
    · exact plain
    · exact capital

theorem exists_digit_cons (spells : base.Spells value chars) :
    ∃ c more, base.numeral chars = c :: more ∧ c.isDigit = true := by
  cases base with
  | hexadecimal | octal | binary => exact ⟨'0', _, rfl, rfl⟩
  | decimal =>
    cases chars with
    | nil => exact absurd rfl spells.nonempty
    | cons c more =>
      have first : c ≠ '_' := fun same => spells.starts rfl (congrArg some same)
      exact ⟨c, more, rfl, spells.isDigit_of_mem (by simp [first])⟩

theorem return_not_mem_numeral (spells : base.Spells value chars) : '\r' ∉ base.numeral chars := by
  have marked : '\r' ∉ base.mark := by cases base <;> decide
  rw [Base.numeral, List.mem_append, not_or]
  exact ⟨marked, fun mem => absurd (isWordChar_of_spells spells _ mem) (by decide)⟩

/-- The numeral is split off whole. -/
theorem scanNumeral_spells (spells : base.Spells value chars) (ends : EndsNumber rest) (line : Nat) :
    scanNumeral line (base.numeral chars ++ rest) = ⟨.integer, String.ofList (base.numeral chars), rest, line⟩ := by
  have outside : ∀ c ∈ rest.head?, Text.isWordChar c = false := by
    intro c head
    rw [ends.not_word c head]
    decide
  have inside := isWordChar_of_spells spells
  cases base with
  | hexadecimal | octal | binary =>
    simp [Base.numeral, Base.mark, scanNumeral, takeWhile_append_stop inside outside,
      dropWhile_append_stop inside outside]
  | decimal =>
    have numeral := isNumeralChar_of_spells spells
    have stop : ∀ c ∈ rest.head?, isNumeralChar c = false := by
      intro c head
      rw [ends.not_word c head]
      decide
    have whole : scanDecimal line (chars ++ rest) = ⟨.integer, String.ofList chars, rest, line⟩ := by
      simp only [scanDecimal, takeWhile_append_stop numeral stop, dropWhile_append_stop numeral stop, ends.no_fraction]
    show scanNumeral line (chars ++ rest) = ⟨.integer, String.ofList chars, rest, line⟩
    rw [← whole]
    cases chars with
    | nil => exact absurd rfl spells.nonempty
    | cons c more =>
      apply scanNumeral_of_decimal
      intro d head
      cases more with
      | nil => exact .inr (.inl (ends.not_word d head))
      | cons e more =>
        obtain rfl : e = d := by simpa using head
        exact .inl (numeral e (by simp))

theorem scansTo_numeral [Host] (spells : base.Spells value chars) (ends : EndsNumber rest) :
    ScansTo (base.numeral chars) .integer (String.ofList (base.numeral chars)) rest := by
  obtain ⟨c, more, shape, digit⟩ := exists_digit_cons spells
  refine ⟨c, more, shape, beginsGap_eq_false (p := Char.isDigit) (by decide) digit, fun line => ?_⟩
  have split := scanNumeral_spells spells ends line
  rw [shape, List.cons_append] at split
  simp only [scanToken, isDigit_of_ascii digit, if_true, split, shape]

end Numerals

def signed (negative : Bool) (numeral : List Char) : List Char := if negative then '-' :: numeral else numeral

def signedTokens (negative : Bool) (text : String) : List Token :=
  if negative then [⟨.operator, "-", 1, false, false⟩, ⟨.integer, text, 1, false, false⟩]
  else [⟨.integer, text, 1, false, false⟩]

def range : Token := ⟨.operator, "..", 1, false, false⟩

section Scanning

variable {base : Base} {value : Nat} {chars rest : List Char}

theorem ScansTo.scanFrom_eq [Host] {kind : Kind} {text : String} (scans : ScansTo chars kind text rest) (line : Nat) :
    scanFrom line (chars ++ rest) = (scanFrom line rest).map (⟨kind, text, line, false, false⟩ :: ·) := by
  obtain ⟨c, more, rfl, opens, scanned⟩ := scans
  exact scanFrom_step (skipGap_stop opens) (scanned line)

theorem scansTo_minus [Host] (spells : base.Spells value chars) (rest : List Char) :
    ScansTo ['-'] .operator "-" (base.numeral chars ++ rest) := by
  have known : "-" ∈ operators := by decide
  apply scansTo_operator known
  intro c head
  obtain ⟨d, more, shape, digit⟩ := exists_digit_cons spells
  obtain rfl : d = c := by simpa [shape] using head
  have table : ∀ op ∈ operators, (op.toList.all fun c => !c.isDigit) = true := by decide +kernel
  simp only [isOperatorChar, List.any_eq_false, List.contains_eq_mem, decide_eq_true_eq]
  intro op known mem
  have symbol := List.all_eq_true.mp (table op known) d mem
  rw [digit] at symbol
  cases symbol

theorem scansTo_range [Host] {c : Char} (other : c ≠ '.') (rest : List Char) :
    ScansTo ['.', '.'] .operator ".." (c :: rest) := by
  have shortest : firstOperator operators ('.' :: '.' :: c :: rest) = some ".." := by
    simp [firstOperator, operators, other.symm]
  refine ⟨'.', ['.'], rfl, by simp [beginsGap, isBlank], fun line => ?_⟩
  rw [scanToken_symbol (by decide), scanOperator, List.singleton_append, shortest]
  rfl

theorem scanFrom_nil [Host] : scanFrom 1 [] = .ok [] := scanFrom_end rfl

theorem scanFrom_signed [Host] (negative : Bool) (spells : base.Spells value chars) (ends : EndsNumber rest) :
    scanFrom 1 (signed negative (base.numeral chars) ++ rest) =
      (scanFrom 1 rest).map (signedTokens negative (String.ofList (base.numeral chars)) ++ ·) := by
  have number := (scansTo_numeral spells ends).scanFrom_eq 1
  cases negative with
  | false => exact number
  | true =>
    have minus := (scansTo_minus spells rest).scanFrom_eq 1
    rw [number] at minus
    show scanFrom 1 (['-'] ++ (base.numeral chars ++ rest)) = _
    rw [minus]
    cases scanFrom 1 rest <;> rfl

theorem signed_ne_point (negative : Bool) (spells : base.Spells value chars) :
    ∃ c more, signed negative (base.numeral chars) = c :: more ∧ c ≠ '.' := by
  obtain ⟨c, more, shape, digit⟩ := exists_digit_cons spells
  cases negative with
  | true => exact ⟨'-', _, rfl, by decide⟩
  | false =>
    refine ⟨c, more, shape, ?_⟩
    rintro rfl
    cases digit

theorem return_not_mem_signed (negative : Bool) (spells : base.Spells value chars) :
    '\r' ∉ signed negative (base.numeral chars) := by
  cases negative <;> simp [signed, return_not_mem_numeral spells]

theorem scan_signed [Host] (negative : Bool) (spells : base.Spells value chars) :
    scan (String.ofList (signed negative (base.numeral chars))) =
      .ok (signedTokens negative (String.ofList (base.numeral chars))) := by
  have whole := scanFrom_signed negative spells (.inl rfl)
  rw [scanFrom_nil, List.append_nil] at whole
  rw [scan, String.toList_ofList, unifyBreaks_eq_self (.inl (return_not_mem_signed negative spells)), whole]
  simp [Except.map]

theorem scan_range [Host] (negative negative' : Bool) {base' : Base} {value' : Nat} {chars' : List Char}
    (spells : base.Spells value chars) (spells' : base'.Spells value' chars') :
    scan (String.ofList (signed negative (base.numeral chars) ++
        '.' :: '.' :: signed negative' (base'.numeral chars'))) =
      .ok (signedTokens negative (String.ofList (base.numeral chars)) ++
        range :: signedTokens negative' (String.ofList (base'.numeral chars'))) := by
  have plain : '\r' ∉ signed negative (base.numeral chars) ++
      '.' :: '.' :: signed negative' (base'.numeral chars') := by
    simp [return_not_mem_signed negative spells, return_not_mem_signed negative' spells']
  have first := scanFrom_signed negative spells
    (.inr ⟨signed negative' (base'.numeral chars'), rfl⟩)
  have second := scanFrom_signed negative' spells' (.inl rfl)
  obtain ⟨c, more, shape, other⟩ := signed_ne_point negative' spells'
  have points := (scansTo_range other more).scanFrom_eq 1
  rw [scanFrom_nil, List.append_nil] at second
  rw [← shape, second] at points
  simp only [List.cons_append, List.nil_append] at points
  rw [scan, String.toList_ofList, unifyBreaks_eq_self (.inl plain), first, points]
  simp [Except.map, range]

end Scanning

end BoundaryLint.Token

namespace BoundaryLint.Grammar

open Numeral (Base)
open Numeral.Base (Spells)
open Token (signed signedTokens)

def signedValue (negative : Bool) (value : Nat) : Int := if negative then -value else value

section Reading

variable {text : String} {value depth floor : Nat} {rest : List Token}

theorem operand_integer {expr : ExpressionReader} (known : Numeral.integer text = .ok value)
    (stop : startsPostfix rest = false) :
    operand expr false (⟨.integer, text, 1, false, false⟩ :: rest) = .ok (.literal (.integer value) 1, rest) := by
  have read : primary expr false ⟨.integer, text, 1, false, false⟩ rest = .ok (.literal (.integer value) 1, rest) := by
    simp only [primary, numeral, known]
  exact (operand_primary (by simp) read).trans (postfixes_stop stop)

/-- A minus takes the numeral as its operand, and no more than that. -/
theorem expression_signed (negative : Bool) (known : Numeral.integer text = .ok value)
    (stop : startsPostfix rest = false) :
    expression (depth + 2) floor false (signedTokens negative text ++ rest) =
      operators (expression (depth + 1)) floor false (.literal (.integer (signedValue negative value)) 1) rest := by
  apply expression_operand
  cases negative with
  | false => exact operand_integer known stop
  | true =>
    have number : expression (depth + 1) prefixFloor false (⟨.integer, text, 1, false, false⟩ :: rest) =
        .ok (.literal (.integer value) 1, rest) :=
      (expression_operand (operand_integer known stop)).trans (operators_stop (weak_prefixFloor rest))
    have listed : "-" ∈ prefixOperators := by decide
    simp [signedTokens, operand, next, listed, number, prefixed, signedValue, bind, Except.bind, pure, Except.pure]

theorem opened_signed (negative : Bool) (text : String) (rest : List Token) :
    Opened 1 (signedTokens negative text ++ rest) := by
  cases negative with
  | false => exact ⟨_, rfl, rfl, rfl⟩
  | true => exact ⟨_, rfl, by decide, rfl⟩

theorem program_signed (negative : Bool) (known : Numeral.integer text = .ok value) :
    program (depth + 2) (signedTokens negative text) =
      .ok [.literal (.integer (signedValue negative value)) 1] := by
  have opened := opened_signed negative text []
  rw [List.append_nil] at opened
  apply program_single opened
  rw [expression_signed negative known rfl]
  exact operators_stop (by simp [binaryOperator?])

theorem program_range (negative negative' : Bool) {text' : String} {value' : Nat}
    (known : Numeral.integer text = .ok value) (known' : Numeral.integer text' = .ok value') :
    program (depth + 3) (signedTokens negative text ++ Token.range :: signedTokens negative' text') =
      .ok [.binary ".." (.literal (.integer (signedValue negative value)) 1)
        (.literal (.integer (signedValue negative' value')) 1) 1] := by
  apply program_single (opened_signed negative text _)
  rw [List.append_nil, expression_signed negative known rfl]
  have bound : binaryOperator? (Token.range :: signedTokens negative' text') =
      some ("..", .right 150, signedTokens negative' text') := by
    simp [binaryOperator?, Token.range, show binding? ".." = some (.right 150) by decide]
  have second : expression (depth + 2) (Binding.right 150).rightFloor false (signedTokens negative' text') =
      .ok (.literal (.integer (signedValue negative' value')) 1, []) := by
    have alone := List.append_nil (signedTokens negative' text')
    rw [← alone, expression_signed negative' known' rfl]
    exact operators_stop (by simp [binaryOperator?])
  rw [operators_step bound (by decide) second (by simp)]
  exact operators_stop (by simp [binaryOperator?])

end Reading

section Numbers

variable {base base' : Base} {value value' : Nat} {chars chars' : List Char}

/-- The text of a whole number denotes its value, whatever the base and the spelling are, and a minus in front of it
denotes the opposite. With two points between them two such texts are a range of the numbers. -/
theorem parse_number [Host] (room : 3 ≤ Host.expressionNesting) (negative negative' : Bool)
    (spells : base.Spells value chars) (spells' : base'.Spells value' chars') :
    parse (String.ofList (signed negative (base.numeral chars))) =
        .ok [.literal (.integer (signedValue negative value)) 1] ∧
      parse (String.ofList (signed negative (base.numeral chars) ++
          '.' :: '.' :: signed negative' (base'.numeral chars'))) =
        .ok [.binary ".." (.literal (.integer (signedValue negative value)) 1)
          (.literal (.integer (signedValue negative' value')) 1) 1] := by
  obtain ⟨depth, held⟩ : ∃ depth, Host.expressionNesting = depth + 3 := ⟨_, (Nat.sub_add_cancel room).symm⟩
  constructor
  · rw [parse, held, Token.scan_signed negative spells]
    exact program_signed negative spells.integer_eq
  · rw [parse, held, Token.scan_range negative negative' spells spells']
    exact program_range negative negative' spells.integer_eq spells'.integer_eq

attribute [local instance] Host.ordinary in
theorem parse_number_mixed : 3 ≤ Host.expressionNesting ∧
    parse "-0x0F_f" = .ok [.literal (.integer (-255)) 1] ∧
      parse "-0x0F_f..0_07_" = .ok [.binary ".." (.literal (.integer (-255)) 1) (.literal (.integer 7) 1) 1] := by
  have first : Base.hexadecimal.Spells 255 ['0', 'F', '_', 'f'] := ⟨⟨1, by decide⟩, by decide, by decide⟩
  have second : Base.decimal.Spells 7 ['0', '_', '0', '7', '_'] := ⟨⟨2, by decide⟩, by decide, by decide⟩
  have single : String.ofList (signed true (Base.hexadecimal.numeral ['0', 'F', '_', 'f'])) = "-0x0F_f" := by decide
  have pair : String.ofList (signed true (Base.hexadecimal.numeral ['0', 'F', '_', 'f']) ++
      '.' :: '.' :: signed false (Base.decimal.numeral ['0', '_', '0', '7', '_'])) = "-0x0F_f..0_07_" := by decide
  have room : 3 ≤ Host.expressionNesting := by decide
  have parsed := parse_number room true false first second
  rw [single, pair] at parsed
  exact ⟨room, parsed⟩

end Numbers

end BoundaryLint.Grammar
