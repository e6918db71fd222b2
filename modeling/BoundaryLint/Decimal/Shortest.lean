/-!
The shortest decimal that reads back as a given binary floating-point number. A number is first
written exactly as a decimal; then ever finer roundings of it are tried until one lies among the
reals that round to the number.
-/

namespace BoundaryLint.Decimal

/-- A finite non-negative number of 64 bits, `significand * 2 ^ exponent`. -/
structure Binary where
  significand : Nat
  exponent : Int
  /-- The number below is half as far away as the number above. -/
  narrowBelow : Bool
deriving DecidableEq, Repr

def Binary.ofBits (bits : UInt64) : Binary :=
  let exponent := ((bits >>> 52) &&& 0x7FF).toNat
  let fraction := (bits &&& 0xFFFFFFFFFFFFF).toNat
  if exponent = 0 then ⟨fraction, -1074, false⟩
  else ⟨Nat.pow 2 52 + fraction, (exponent : Int) - 1075, fraction = 0 && 1 < exponent⟩

structure Scaled where
  digits : Nat
  exponent : Int
deriving DecidableEq, Repr

def Scaled.compareBinary (d : Scaled) (n : Nat) (power : Int) : Ordering :=
  compare (d.digits * Nat.pow 10 d.exponent.toNat * Nat.pow 2 (-power).toNat)
    (n * Nat.pow 2 power.toNat * Nat.pow 10 (-d.exponent).toNat)

/-- The decimal lies among the reals that round to the number: between the points halfway to its
neighbours, which belong to it when its significand is even. -/
def Binary.readsBack (x : Binary) (d : Scaled) : Bool :=
  let low := if x.narrowBelow then 4 * x.significand - 1 else 4 * x.significand - 2
  let even := x.significand % 2 = 0
  let below := d.compareBinary low (x.exponent - 2)
  let above := d.compareBinary (4 * x.significand + 2) (x.exponent - 2)
  (below = .gt || (even && below = .eq)) && (above = .lt || (even && above = .eq))

def Binary.exact (x : Binary) : Scaled :=
  ⟨x.significand * Nat.pow 2 x.exponent.toNat * Nat.pow 5 (-x.exponent).toNat, min x.exponent 0⟩

def digitCount (n : Nat) : Nat := (Nat.toDigits 10 n).length

/-- The nearer of the two neighbours of a decimal that has one digit more than `unit` zeros allow;
of two at the same distance the even one. Only neighbours that read back count. -/
def Binary.nearest? (x : Binary) (d : Scaled) (drop : Nat) : Option Scaled :=
  let unit := Nat.pow 10 drop
  let lower := d.digits / unit
  let exponent := d.exponent + drop
  let down := x.readsBack ⟨lower, exponent⟩
  let up := x.readsBack ⟨lower + 1, exponent⟩
  let twice := 2 * (d.digits % unit)
  if down && up then
    if twice < unit || (twice = unit && lower % 2 = 0) then some ⟨lower, exponent⟩
    else some ⟨lower + 1, exponent⟩
  else if down then some ⟨lower, exponent⟩
  else if up then some ⟨lower + 1, exponent⟩
  else none

/-- The shortest decimal that reads back as a number, the nearest one of that length. -/
def Binary.shortest (x : Binary) : Scaled :=
  let d := x.exact
  ((List.range (digitCount d.digits)).reverse.findSome? (x.nearest? d)).getD d

def dropZeros (digits : List Char) : List Char × Nat :=
  let kept := (digits.reverse.dropWhile (· = '0')).reverse
  (kept, digits.length - kept.length)

private def zeros (n : Nat) : List Char := List.replicate n '0'

private def exponentText (e : Int) : List Char :=
  let digits := Nat.toDigits 10 e.natAbs
  'e' :: (if e < 0 then '-' else '+') :: (if digits.length < 2 then '0' :: digits else digits)

/-- Writes a decimal. A leading digit from the fourth place after the point to the sixteenth before
it is written positionally, with at least one place; any other number with an exponent of at least
two digits. -/
def Scaled.layout (d : Scaled) : List Char :=
  if d.digits = 0 then ['0', '.', '0']
  else
    let (digits, dropped) := dropZeros (Nat.toDigits 10 d.digits)
    let exponent := d.exponent + dropped
    let leading := exponent + digits.length - 1
    if -4 ≤ leading ∧ leading < 16 then
      if 0 ≤ exponent then digits ++ zeros exponent.toNat ++ ['.', '0']
      else if 0 ≤ leading then
        digits.take (leading + 1).toNat ++ '.' :: digits.drop (leading + 1).toNat
      else '0' :: '.' :: zeros (-leading - 1).toNat ++ digits
    else
      match digits with
      | [] => ['0', '.', '0']
      | [first] => first :: exponentText leading
      | first :: more => first :: '.' :: more ++ exponentText leading

def floatText (x : Float) : String :=
  if x.isNaN then "nan"
  else
    let sign := if x.toBits >>> 63 = 1 then "-" else ""
    if x.isInf then sign ++ "inf"
    else sign ++ String.ofList (Binary.ofBits x.toBits).shortest.layout

end BoundaryLint.Decimal
