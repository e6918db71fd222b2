import BoundaryLint.Text.Digit
import BoundaryLint.Text.Quoted
import BoundaryLint.Text.Split

/-!
Numerals of source text: decimal integers and floats in the digits of any script, and hexadecimal,
octal and binary integers. Decimal integers have at most 4300 digits, read or written; the other bases
have no limit.
-/

namespace BoundaryLint.Numeral

inductive Fault where
  | integer (base : Nat) (text : String)
  | float (text : String)
  | tooManyDigits (count : Nat)
deriving DecidableEq, Repr

def digitLimit : Nat := 4300

def Fault.message : Fault → String
  | .integer base text =>
    let shown := String.ofList ((Text.quoted text).toList.take 200)
    s!"invalid literal for int() with base {base}: {shown}"
  | .float text => s!"could not convert string to float: {Text.quoted text}"
  | .tooManyDigits count =>
    s!"Exceeds the limit ({digitLimit} digits) for integer string conversion: value has {count} " ++
      "digits; use sys.set_int_max_str_digits() to increase the limit"

def isWritable (value : Int) : Bool := (Nat.toDigits 10 value.natAbs).length ≤ digitLimit

def digitValue? (c : Char) : Option Nat :=
  match Text.decimalValue? c with
  | some value => some value
  | none =>
    if 'a' ≤ c ∧ c ≤ 'f' then some (c.toNat - 'a'.toNat + 10)
    else if 'A' ≤ c ∧ c ≤ 'F' then some (c.toNat - 'A'.toNat + 10)
    else none

def digitBelow? (base : Nat) (c : Char) : Option Nat :=
  (digitValue? c).filter (· < base)

/-- The value of a row of digits, most significant first, added to `value` shifted past them. -/
def valueFrom (base value : Nat) : List Char → Option Nat
  | [] => some value
  | c :: rest =>
    match digitBelow? base c with
    | some digit => valueFrom base (value * base + digit) rest
    | none => none

def natural? (base : Nat) (digits : List Char) : Option Nat :=
  if digits.isEmpty then none else valueFrom base 0 digits

def withoutSeparators (text : String) : List Char := text.toList.filter (· ≠ '_')

def decimal (digits : List Char) : Except Fault Nat :=
  let leading := (digits.takeWhile fun c => (Text.decimalValue? c).isSome).length
  if digitLimit < leading then .error (.tooManyDigits leading)
  else match natural? 10 digits with
    | some value => .ok value
    | none => .error (.integer 10 (String.ofList digits))

def integer (text : String) : Except Fault Nat :=
  let based (base : Nat) (digits : List Char) (whole : List Char) : Except Fault Nat :=
    match natural? base digits with
    | some value => .ok value
    | none => .error (.integer 0 (String.ofList whole))
  match withoutSeparators text with
  | '0' :: 'x' :: digits => based 16 digits ('0' :: 'x' :: digits)
  | '0' :: 'o' :: digits => based 8 digits ('0' :: 'o' :: digits)
  | '0' :: 'b' :: digits => based 2 digits ('0' :: 'b' :: digits)
  | digits => decimal digits

/-- White space that may stand around a number. The separators among the control characters may
not. -/
def isPadding (c : Char) : Bool := Text.isSpace c && !(28 ≤ c.toNat && c.toNat ≤ 31)

def joined? : List Char → Option (List Char)
  | [] => none
  | [c] => if c = '_' then none else some [c]
  | c :: '_' :: rest => if c = '_' then none else (joined? rest).map (c :: ·)
  | c :: rest => if c = '_' then none else (joined? rest).map (c :: ·)

def whole? (text : String) : Option Int :=
  let magnitude? (digits : List Char) : Option Nat := do (decimal (← joined? digits)).toOption
  match Text.stripChars isPadding text.toList with
  | '-' :: digits => (magnitude? digits).map fun n => -(n : Int)
  | '+' :: digits => (magnitude? digits).map fun n => (n : Int)
  | digits => (magnitude? digits).map fun n => (n : Int)

/-- The float nearest to `mantissa` times ten to the power `exponent`. Exponents far outside the
range of floats are decided without building the power. -/
def scaled (mantissa : Nat) (exponent : Int) : Float :=
  let size : Int := (Nat.toDigits 10 mantissa).length
  if mantissa = 0 then 0.0
  else if 400 < size + exponent then 1.0 / 0.0
  else if size + exponent < -400 then 0.0
  else if exponent < 0 then Float.ofScientific mantissa true exponent.natAbs
  else Float.ofScientific mantissa false exponent.natAbs

private def exponent? (text : List Char) : Option Int :=
  match text with
  | '-' :: digits => (natural? 10 digits).map fun n => -(n : Int)
  | '+' :: digits => (natural? 10 digits).map fun n => (n : Int)
  | digits => (natural? 10 digits).map fun n => (n : Int)

private def isExponentMark (c : Char) : Bool := c == 'e' || c == 'E'

def float? (chars : List Char) : Option Float := do
  let whole := chars.takeWhile (· ≠ '.')
  let afterPoint := (chars.dropWhile (· ≠ '.')).drop 1
  let fraction := afterPoint.takeWhile (!isExponentMark ·)
  let power ← match afterPoint.dropWhile (!isExponentMark ·) with
    | [] => some 0
    | _ :: text => exponent? text
  let mantissa ← natural? 10 (whole ++ fraction)
  return scaled mantissa (power - (fraction.length : Int))

def float (text : String) : Except Fault Float :=
  let chars := withoutSeparators text
  match float? chars with
  | some value => .ok value
  | none => .error (.float (String.ofList chars))

end BoundaryLint.Numeral
