import BoundaryLint.Text.Split

/-!
Dates and times of configuration documents. No setting takes one, so they only ever appear in
messages.
-/

namespace BoundaryLint

structure Date where
  year : Nat
  month : Nat
  day : Nat
deriving DecidableEq, Repr

structure TimeOfDay where
  hour : Nat
  minute : Nat
  second : Nat
  microsecond : Nat
deriving DecidableEq, Repr

inductive Moment where
  | date (date : Date)
  | time (time : TimeOfDay)
  /-- The offset is in minutes east of Greenwich. -/
  | dateTime (date : Date) (time : TimeOfDay) (offset : Option Int)
deriving DecidableEq, Repr

namespace Moment

def padded (width n : Nat) : String :=
  let digits := Nat.toDigits 10 n
  String.ofList (List.replicate (width - digits.length) '0' ++ digits)

def datePlain (d : Date) : String := s!"{padded 4 d.year}-{padded 2 d.month}-{padded 2 d.day}"

def timePlain (t : TimeOfDay) : String :=
  let whole := s!"{padded 2 t.hour}:{padded 2 t.minute}:{padded 2 t.second}"
  if t.microsecond = 0 then whole else s!"{whole}.{padded 6 t.microsecond}"

def offsetPlain (offset : Int) : String :=
  let sign := if offset < 0 then "-" else "+"
  s!"{sign}{padded 2 (offset.natAbs / 60)}:{padded 2 (offset.natAbs % 60)}"

def plain : Moment → String
  | .date d => datePlain d
  | .time t => timePlain t
  | .dateTime d t none => s!"{datePlain d} {timePlain t}"
  | .dateTime d t (some offset) => s!"{datePlain d} {timePlain t}{offsetPlain offset}"

def timeParts (t : TimeOfDay) : List Nat :=
  [t.hour, t.minute] ++
    if t.microsecond ≠ 0 then [t.second, t.microsecond]
    else if t.second ≠ 0 then [t.second] else []

private def commaList (parts : List Nat) : String := ", ".intercalate (parts.map toString)

def offsetShown (offset : Int) : String :=
  let seconds := offset * 60
  if seconds = 0 then "datetime.timezone.utc"
  else if seconds < 0 then
    s!"datetime.timezone(datetime.timedelta(days=-1, seconds={86400 + seconds}))"
  else s!"datetime.timezone(datetime.timedelta(seconds={seconds}))"

def shown : Moment → String
  | .date d => s!"datetime.date({commaList [d.year, d.month, d.day]})"
  | .time t => s!"datetime.time({commaList (timeParts t)})"
  | .dateTime d t offset =>
    let zone := (offset.map fun o => s!", tzinfo={offsetShown o}").getD ""
    s!"datetime.datetime({commaList ([d.year, d.month, d.day] ++ timeParts t)}{zone})"

def kind : Moment → String
  | .date _ => "date"
  | .time _ => "time"
  | .dateTime _ _ _ => "datetime"

end Moment

end BoundaryLint
