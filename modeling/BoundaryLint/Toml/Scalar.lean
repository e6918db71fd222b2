import BoundaryLint.Toml.Layout

/-!
Numbers, dates and times of a document. Each reader gives a value with what follows it, or nothing
if no such value starts here.
-/

namespace BoundaryLint.Toml

def isDigitOf (base : Nat) (c : Char) : Bool :=
  c.toNat < 128 && (Numeral.digitBelow? base c).isSome

def moreDigits (base : Nat) : List Char → List Char × List Char
  | '_' :: c :: rest =>
    if isDigitOf base c then
      let (digits, rest) := moreDigits base rest
      (c :: digits, rest)
    else ([], '_' :: c :: rest)
  | c :: rest =>
    if isDigitOf base c then
      let (digits, rest) := moreDigits base rest
      (c :: digits, rest)
    else ([], c :: rest)
  | [] => ([], [])

def readDigits? (base : Nat) : List Char → Option (List Char × List Char)
  | c :: rest =>
    if isDigitOf base c then
      let (digits, rest) := moreDigits base rest
      some (c :: digits, rest)
    else none
  | [] => none

def readBased? (base : Nat) (chars : List Char) : Option (Datum × List Char) := do
  let (digits, rest) ← readDigits? base chars
  return (.integer (← Numeral.natural? base digits), rest)

def readFraction : List Char → List Char × List Char
  | '.' :: rest => (readDigits? 10 rest).getD ([], '.' :: rest)
  | chars => ([], chars)

def readSign : List Char → Bool × List Char
  | '-' :: rest => (true, rest)
  | '+' :: rest => (false, rest)
  | chars => (false, chars)

def signed (negative : Bool) (value : Nat) : Int := if negative then -(value : Int) else value

def readPower (chars : List Char) : Option Int × List Char :=
  match chars with
  | mark :: rest =>
    if mark = 'e' ∨ mark = 'E' then
      let (negative, afterSign) := readSign rest
      match readDigits? 10 afterSign with
      | some (digits, after) =>
        ((Numeral.natural? 10 digits).map (signed negative), after)
      | none => (none, chars)
    else (none, chars)
  | [] => (none, [])

def readWhole? : List Char → Option (List Char × List Char)
  | '0' :: rest => some (['0'], rest)
  | chars => readDigits? 10 chars

def readDecimal? (chars : List Char) : Option (Reading Datum × List Char) := do
  let (negative, chars) := readSign chars
  let (whole, chars) ← readWhole? chars
  let (fraction, afterFraction) := readFraction chars
  let (power, rest) := readPower afterFraction
  if fraction.isEmpty && power.isNone then
    let value := (Numeral.decimal whole).mapError Fault.number
    return (value.map fun value => .integer (signed negative value), rest)
  else
    let mantissa ← Numeral.natural? 10 (whole ++ fraction)
    let value := Numeral.scaled mantissa (power.getD 0 - (fraction.length : Int))
    return (.ok (.float (if negative then -value else value)), rest)

def readNumber? (chars : List Char) : Option (Reading Datum × List Char) :=
  let based? :=
    match chars with
    | '0' :: 'x' :: rest => readBased? 16 rest
    | '0' :: 'b' :: rest => readBased? 2 rest
    | '0' :: 'o' :: rest => readBased? 8 rest
    | _ => none
  match based? with
  | some (value, rest) => some (.ok value, rest)
  | none => readDecimal? chars

def readField? (count low high : Nat) (chars : List Char) : Option (Nat × List Char) := do
  let digits := chars.take count
  let value ← if digits.all (isDigitOf 10) then Numeral.natural? 10 digits else none
  if digits.length = count ∧ low ≤ value ∧ value ≤ high then return (value, chars.drop count)
  else none

def after? (wanted : Char) : List Char → Option (List Char)
  | c :: rest => if c = wanted then some rest else none
  | [] => none

/-- The millionths of a second after a point; further digits are dropped. -/
def readMicroseconds (chars : List Char) : Nat × List Char :=
  match chars with
  | '.' :: rest =>
    let digits := rest.takeWhile (isDigitOf 10)
    if digits.isEmpty then (0, chars)
    else
      let six := (digits ++ List.replicate 6 '0').take 6
      ((Numeral.natural? 10 six).getD 0, rest.drop digits.length)
  | _ => (0, chars)

def readTime? (chars : List Char) : Option (TimeOfDay × List Char) := do
  let (hour, rest) ← readField? 2 0 23 chars
  let (minute, rest) ← readField? 2 0 59 (← after? ':' rest)
  let (second, rest) ← readField? 2 0 59 (← after? ':' rest)
  let (microsecond, rest) := readMicroseconds rest
  return (⟨hour, minute, second, microsecond⟩, rest)

def readOffset? : List Char → Option (Int × List Char)
  | 'Z' :: rest | 'z' :: rest => some (0, rest)
  | sign :: rest => do
    if sign = '+' ∨ sign = '-' then
      let (hours, rest) ← readField? 2 0 23 rest
      let (minutes, rest) ← readField? 2 0 59 (← after? ':' rest)
      return (signed (sign = '-') (hours * 60 + minutes), rest)
    else none
  | [] => none

def readDate? (chars : List Char) : Option (Date × List Char) := do
  let (year, rest) ← readField? 4 0 9999 chars
  let (month, rest) ← readField? 2 1 12 (← after? '-' rest)
  let (day, rest) ← readField? 2 1 31 (← after? '-' rest)
  return (⟨year, month, day⟩, rest)

def readDateTime? (chars : List Char) : Option (Moment × List Char) := do
  let (date, rest) ← readDate? chars
  let time? := match rest with
    | 'T' :: more | 't' :: more | ' ' :: more => readTime? more
    | _ => none
  match time? with
  | none => return (.date date, rest)
  | some (time, rest) =>
    match readOffset? rest with
    | some (offset, rest) => return (.dateTime date time (some offset), rest)
    | none => return (.dateTime date time none, rest)

def isLeapYear (year : Nat) : Bool :=
  year % 4 = 0 && (year % 100 ≠ 0 || year % 400 = 0)

def daysInMonth (year month : Nat) : Nat :=
  if month = 2 then if isLeapYear year then 29 else 28
  else if month = 4 ∨ month = 6 ∨ month = 9 ∨ month = 11 then 30
  else 31

/-- A date of the calendar; it has no year zero. -/
def isCalendarDate (date : Date) : Bool :=
  1 ≤ date.year && date.day ≤ daysInMonth date.year date.month

def dateOf? : Moment → Option Date
  | .date date | .dateTime date _ _ => some date
  | .time _ => none

/-- A date or a time. A date that the calendar does not have is refused. -/
def readMoment? (chars : List Char) : Option (Reading Datum × List Char) :=
  match readDateTime? chars with
  | some (moment, rest) =>
    if (dateOf? moment).all isCalendarDate then some (.ok (.moment moment), rest)
    else some (.error (.notDocument .date chars), rest)
  | none => (readTime? chars).map fun (time, rest) => (.ok (.moment (.time time)), rest)

def infinity : Float := 1.0 / 0.0

def readSpecial? : List Char → Option (Datum × List Char)
  | 'i' :: 'n' :: 'f' :: rest | '+' :: 'i' :: 'n' :: 'f' :: rest => some (.float infinity, rest)
  | '-' :: 'i' :: 'n' :: 'f' :: rest => some (.float (-infinity), rest)
  | 'n' :: 'a' :: 'n' :: rest | '+' :: 'n' :: 'a' :: 'n' :: rest
  | '-' :: 'n' :: 'a' :: 'n' :: rest => some (.float (0.0 / 0.0), rest)
  | _ => none

def readScalar (chars : List Char) : Reading (Datum × List Char) :=
  match chars with
  | 't' :: 'r' :: 'u' :: 'e' :: rest => .ok (.boolean true, rest)
  | 'f' :: 'a' :: 'l' :: 's' :: 'e' :: rest => .ok (.boolean false, rest)
  | _ =>
    match (readMoment? chars).or (readNumber? chars) with
    | some (value, rest) => do return (← value, rest)
    | none =>
      match readSpecial? chars with
      | some found => .ok found
      | none => .error (.notDocument .value chars)

end BoundaryLint.Toml
