import BoundaryLint.Host.Basic
import BoundaryLint.Text.Digit
import BoundaryLint.Text.Quoted
import BoundaryLint.Text.Split

/-!
Templates of paths. A field in braces is replaced by the name of a context, the only value that a
template can name; doubled braces stand for single ones. A field may index the name, ask for it in
quotes, and give a width. What the members of the name are is up to the host.
-/

namespace BoundaryLint.Template

inductive Fault where
  | singleOpen
  | singleClose
  | unclosed
  | openInName
  | missingConversion
  | missingColon
  | unclosedSpec
  | unknownConversion (found : Char)
  | unknownName (name : String)
  | noPosition (index : Nat)
  | tooManyDigits
  | emptyAttribute
  | afterBracket
  | member (reason : String)
  | textIndex
  | indexOutOfRange
  | nestedTooDeep
  | missingPrecision
  | invalidSpec (spec : String)
  | signInSpec
  | spaceInSpec
  | negativeZeroInSpec
  | alternateInSpec
  | alignmentInSpec
  | separatorInSpec (found kind : Char)
  | bothSeparators
  | unknownFormat (found : Char)
  | outOfMemory
deriving DecidableEq, Repr

/-- A character below a limit as it is, any other one by its number. -/
private def codeName (limit : Nat) (c : Char) : String :=
  if 32 < c.toNat ∧ c.toNat < limit then c.toString
  else "\\x" ++ String.ofList (Nat.toDigits 16 c.toNat)

def Fault.message : Fault → String
  | .singleOpen => "Single '\x7b' encountered in format string"
  | .singleClose => "Single '\x7d' encountered in format string"
  | .unclosed => "expected '\x7d' before end of string"
  | .openInName => "unexpected '\x7b' in field name"
  | .missingConversion => "end of string while looking for conversion specifier"
  | .missingColon => "expected ':' after conversion specifier"
  | .unclosedSpec => "unmatched '\x7b' in format spec"
  | .unknownConversion found => s!"Unknown conversion specifier {codeName 127 found}"
  | .unknownName name => Text.quoted name
  | .noPosition index => s!"Replacement index {index} out of range for positional args tuple"
  | .tooManyDigits => "Too many decimal digits in format string"
  | .emptyAttribute => "Empty attribute in format string"
  | .afterBracket => "Only '.' or '[' may follow ']' in format field specifier"
  | .member reason => reason
  | .textIndex => "string indices must be integers, not 'str'"
  | .indexOutOfRange => "string index out of range"
  | .nestedTooDeep => "Max string recursion exceeded"
  | .missingPrecision => "Format specifier missing precision"
  | .invalidSpec spec => s!"Invalid format specifier '{spec}' for object of type 'str'"
  | .signInSpec => "Sign not allowed in string format specifier"
  | .spaceInSpec => "Space not allowed in string format specifier"
  | .negativeZeroInSpec => "Negative zero coercion (z) not allowed in string format specifier"
  | .alternateInSpec => "Alternate form (#) not allowed in string format specifier"
  | .alignmentInSpec => "'=' alignment not allowed in string format specifier"
  | .separatorInSpec found kind => s!"Cannot specify '{found}' with '{codeName 128 kind}'."
  | .bothSeparators => "Cannot specify both ',' and '_'."
  | .unknownFormat found => s!"Unknown format code '{codeName 128 found}' for object of type 'str'"
  | .outOfMemory => ""

structure Field where
  name : List Char
  conversion : Option Char
  spec : List Char
deriving DecidableEq, Repr

inductive Piece where
  | literal (c : Char)
  | field (field : Field)
deriving DecidableEq, Repr

inductive State where
  | outside
  | afterOpen
  | afterClose
  /-- In a name, which is kept backwards. -/
  | name (read : List Char) (bracket : Bool)
  | conversion (name : List Char)
  | afterConversion (name : List Char) (conversion : Char)
  /-- In a format with a number of open braces; it is kept backwards. -/
  | spec (name : List Char) (conversion : Option Char) (read : List Char) (depth : Nat)

/-- The piece that a character completes, if any, and what is read then. -/
abbrev Step := Except Fault (Option Piece × State)

def nameStep (read : List Char) (bracket : Bool) (c : Char) : Step :=
  if bracket then .ok (none, .name (c :: read) (c ≠ ']'))
  else if c = '\x7b' then .error .openInName
  else if c = '\x7d' then .ok (some (.field ⟨read.reverse, none, []⟩), .outside)
  else if c = ':' then .ok (none, .spec read.reverse none [] 1)
  else if c = '!' then .ok (none, .conversion read.reverse)
  else .ok (none, .name (c :: read) (c = '['))

def step (state : State) (c : Char) : Step :=
  match state with
  | .outside =>
    if c = '\x7b' then .ok (none, .afterOpen)
    else if c = '\x7d' then .ok (none, .afterClose)
    else .ok (some (.literal c), .outside)
  | .afterOpen => if c = '\x7b' then .ok (some (.literal c), .outside) else nameStep [] false c
  | .afterClose => if c = '\x7d' then .ok (some (.literal c), .outside) else .error .singleClose
  | .name read bracket => nameStep read bracket c
  | .conversion name => .ok (none, .afterConversion name c)
  | .afterConversion name conversion =>
    if c = '\x7d' then .ok (some (.field ⟨name, some conversion, []⟩), .outside)
    else if c = ':' then .ok (none, .spec name (some conversion) [] 1)
    else .error .missingColon
  | .spec name conversion read depth =>
    if c = '\x7d' then
      if depth ≤ 1 then .ok (some (.field ⟨name, conversion, read.reverse⟩), .outside)
      else .ok (none, .spec name conversion (c :: read) (depth - 1))
    else if c = '\x7b' then .ok (none, .spec name conversion (c :: read) (depth + 1))
    else .ok (none, .spec name conversion (c :: read) depth)

def State.endFault? : State → Option Fault
  | .outside => none
  | .afterOpen => some .singleOpen
  | .afterClose => some .singleClose
  | .name _ _ => some .unclosed
  | .conversion _ => some .missingConversion
  | .afterConversion _ _ | .spec _ _ _ _ => some .unclosedSpec

def pieces (state : State) : List Char → List Piece × Option Fault
  | [] => ([], state.endFault?)
  | c :: rest =>
    match step state c with
    | .error fault => ([], some fault)
    | .ok (piece, next) =>
      let (more, fault) := pieces next rest
      (piece.toList ++ more, fault)

def index? (chars : List Char) : Option Nat :=
  if chars.isEmpty then none
  else chars.foldlM (fun n c => (Text.decimalValue? c).map (n * 10 + ·)) 0

def asciiQuoted (chars : List Char) : List Char :=
  (Text.quoted (String.ofList chars)).toList.flatMap fun c =>
    if c.toNat < 128 then [c]
    else if c.toNat ≤ 0xff then '\\' :: 'x' :: Text.hexDigits 2 c.toNat
    else if c.toNat ≤ 0xffff then '\\' :: 'u' :: Text.hexDigits 4 c.toNat
    else '\\' :: 'U' :: Text.hexDigits 8 c.toNat

def convert (chars : List Char) : Option Char → Except Fault (List Char)
  | none | some 's' => .ok chars
  | some 'r' => .ok (Text.quoted (String.ofList chars)).toList
  | some 'a' => .ok (asciiQuoted chars)
  | some other => .error (.unknownConversion other)

/-- What a field stands for: a text, or what the host finds among the members of one. -/
inductive Target where
  | text (chars : List Char)
  | member (write : String → Except String String)

def follow [Host] (value : List Char) (conversion : Option Char) : List Char → Except Fault Target
  | [] => (convert value conversion).map .text
  | '.' :: rest =>
    let wanted := rest.takeWhile fun c => c ≠ '.' && c ≠ '['
    if wanted.isEmpty then .error .emptyAttribute
    else
      ((Host.member (String.ofList value) (String.ofList rest) conversion).map .member).mapError .member
  | '[' :: rest =>
    let inside := rest.takeWhile (· ≠ ']')
    let after := rest.drop (inside.length + 1)
    if inside.isEmpty then .error .emptyAttribute
    else
      match index? inside with
      | none => .error .textIndex
      | some index =>
        match value[index]? with
        | none => .error .indexOutOfRange
        | some c => follow [c] conversion after
  | _ => .error .afterBracket
termination_by rest => rest.length
decreasing_by simp only [List.length_drop, List.length_cons]; omega

def resolve [Host] (context : List Char) (field : Field) : Except Fault Target :=
  let first := field.name.takeWhile fun c => c ≠ '.' && c ≠ '['
  if first.isEmpty then .error (.noPosition 0)
  else
    match index? first with
    | some index => .error (if index < Nat.pow 2 63 then .noPosition index else .tooManyDigits)
    | none =>
      if first = "context".toList then follow context field.conversion (field.name.drop first.length)
      else .error (.unknownName (String.ofList first))

def isAlignment (c : Char) : Bool := c = '<' || c = '>' || c = '=' || c = '^'

def readAlignment : List Char → (Option Char × Option Char) × List Char
  | fill :: align :: rest =>
    if isAlignment align then ((some fill, some align), rest)
    else if isAlignment fill then ((none, some fill), align :: rest)
    else ((none, none), fill :: align :: rest)
  | [align] => if isAlignment align then ((none, some align), []) else ((none, none), [align])
  | [] => ((none, none), [])

def readNumber (chars : List Char) : Option Nat × List Char :=
  let digits := chars.takeWhile fun c => (Text.decimalValue? c).isSome
  (index? digits, chars.drop digits.length)

def pad [Host] (fill align : Char) (width : Nat) (chars : List Char) : Except Fault (List Char) :=
  let missing := width - chars.length
  let left := if align = '>' then missing else if align = '^' then missing / 2 else 0
  if Host.textLength < width then .error .outOfMemory
  else .ok (List.replicate left fill ++ chars ++ List.replicate (missing - left) fill)

def skip (p : Char → Bool) : List Char → Option Char × List Char
  | c :: rest => if p c then (some c, rest) else (none, c :: rest)
  | [] => (none, [])

def readSize (chars : List Char) : Except Fault (Option Nat × List Char) :=
  let (size, rest) := readNumber chars
  if size.any (Nat.pow 2 63 ≤ ·) then .error .tooManyDigits else .ok (size, rest)

/-- A kind of format whose digits a separator may group. -/
def groups (separator kind : Char) : Bool :=
  "\x00defgEFG%".toList.contains kind || (separator = '_' && "boxX".toList.contains kind)

def format [Host] (chars spec : List Char) : Except Fault (List Char) := do
  if spec.isEmpty then return chars
  let whole := String.ofList spec
  let ((fill, align), spec) := readAlignment spec
  let (sign, spec) := skip (fun c => c = ' ' || c = '+' || c = '-') spec
  let (coercion, spec) := skip (· = 'z') spec
  let (alternate, spec) := skip (· = '#') spec
  let (zero, spec) := if fill.isSome then (none, spec) else skip (· = '0') spec
  let (width, spec) ← readSize spec
  let (comma, spec) := skip (· = ',') spec
  let (underscore, spec) := skip (· = '_') spec
  if underscore.isSome && (comma.isSome || spec.head? = some ',') then throw .bothSeparators
  let (point, spec) := skip (· = '.') spec
  let (precision, spec) ← if point.isSome then readSize spec else pure (none, spec)
  if point.isSome && precision.isNone then throw .missingPrecision
  if 1 < spec.length then throw (.invalidSpec whole)
  let kind := spec.headD 's'
  if let some mark := comma.or underscore then
    if !groups mark kind then throw (.separatorInSpec mark kind)
  if kind ≠ 's' then throw (.unknownFormat kind)
  if sign = some ' ' then throw .spaceInSpec
  if sign.isSome then throw .signInSpec
  if coercion.isSome then throw .negativeZeroInSpec
  if alternate.isSome then throw .alternateInSpec
  if align = some '=' then throw .alignmentInSpec
  let chars := (precision.map chars.take).getD chars
  pad (fill.getD (zero.getD ' ')) (align.getD '<') (width.getD 0) chars

def Target.write [Host] : Target → (spec : List Char) → Except Fault (List Char)
  | .text chars, spec => format chars spec
  | .member written, spec => ((written (String.ofList spec)).map String.toList).mapError .member

/-- Fills in a template. The format of a field is a template itself, whose formats are not. -/
def expandChars [Host] (context : List Char) : (depth : Nat) → List Char → Except Fault (List Char)
  | 0, _ => .error .nestedTooDeep
  | depth + 1, template => do
    let (read, fault) := pieces .outside template
    let written ← read.mapM fun
      | .literal c => .ok [c]
      | .field field => do
        let target ← resolve context field
        let nested := field.spec.contains '\x7b'
        let spec ← if nested then expandChars context depth field.spec else pure field.spec
        target.write spec
    match fault with
    | some fault => throw fault
    | none => return written.flatten

def expand [Host] (template context : String) : Except Fault String := do
  return String.ofList (← expandChars context.toList 2 template.toList)

end BoundaryLint.Template
