import BoundaryLint.Config.Moment
import BoundaryLint.Decimal.Shortest
import BoundaryLint.Host.Basic
import BoundaryLint.Source.Numeral

/-!
The values that options of rules can be given, and the ways in which messages show them.
-/

namespace BoundaryLint

inductive Value where
  | null
  | boolean (value : Bool)
  | integer (value : Int)
  | float (value : Float)
  | text (value : String)
  | moment (value : Moment)
  | bytes (octets : List UInt8)
  | list (items : List Value)
  | tuple (items : List Value)
  /-- The items of a set are in the order of a visit. -/
  | set (items : List Value)
  | frozenSet (items : List Value)
  | table (entries : List (Value × Value))
  /-- A table that cannot be changed. -/
  | view (entries : List (Value × Value))
  /-- A value of any other kind: how it is shown, and the texts that a visit gives if it can be visited. -/
  | object (kind shown : String) (visited : Option (List String))
deriving Repr, Inhabited

namespace Value

def kind : Value → String
  | .null => "NoneType"
  | .boolean _ => "bool"
  | .integer _ => "int"
  | .float _ => "float"
  | .text _ => "str"
  | .moment value => value.kind
  | .bytes _ => "bytes"
  | .list _ => "list"
  | .tuple _ => "tuple"
  | .set _ => "set"
  | .frozenSet _ => "frozenset"
  | .table _ => "dict"
  | .view _ => "mappingproxy"
  | .object kind _ _ => kind

def fullKind : Value → String
  | .moment value => s!"datetime.{value.kind}"
  | value => value.kind

def shownTuple : List String → String
  | [item] => s!"({item},)"
  | items => "(" ++ ", ".intercalate items ++ ")"

def braced (parts : List String) : String := "\x7b" ++ ", ".intercalate parts ++ "\x7d"

mutual

def shown : Value → String
  | .null => "None"
  | .boolean true => "True"
  | .boolean false => "False"
  | .integer value => toString value
  | .float value => Decimal.floatText value
  | .text value => Text.quoted value
  | .moment value => value.shown
  | .bytes octets => s!"b{Text.quotedOctets octets}"
  | .list items => "[" ++ ", ".intercalate (shownItems items) ++ "]"
  | .tuple items => shownTuple (shownItems items)
  | .set [] => "set()"
  | .set items => braced (shownItems items)
  | .frozenSet [] => "frozenset()"
  | .frozenSet items => s!"frozenset({braced (shownItems items)})"
  | .table entries => braced (shownEntries entries)
  | .view entries => s!"mappingproxy({braced (shownEntries entries)})"
  | .object _ shown _ => shown

def shownItems : List Value → List String
  | [] => []
  | item :: rest => shown item :: shownItems rest

def shownEntries : List (Value × Value) → List String
  | [] => []
  | entry :: rest => shownEntry entry :: shownEntries rest

def shownEntry : Value × Value → String
  | (key, value) => s!"{shown key}: {shown value}"

end

/-- The value as text: text and moments as they are, all else as shown. -/
def plain : Value → String
  | .text value => value
  | .moment value => value.plain
  | value => value.shown

def text? : Value → Option String
  | .text value => some value
  | _ => none

def items? : Value → Option (List Value)
  | .list items | .tuple items | .set items | .frozenSet items => some items
  | _ => none

def entries? : Value → Option (List (Value × Value))
  | .table entries | .view entries => some entries
  | _ => none

/-- The texts that a visit of a value gives. Text itself is not visited. -/
def visit? : Value → Option (List String)
  | .list items | .tuple items | .set items | .frozenSet items => some (items.map plain)
  | .table entries | .view entries => some (entries.map fun entry => entry.1.plain)
  | .bytes octets => some (octets.map fun octet => toString octet.toNat)
  | .object _ _ visited => visited
  | _ => none

inductive Unwritable where
  | tooManyDigits
  | nestedTooDeep
deriving DecidableEq, Repr

def Unwritable.message : Unwritable → String
  | .tooManyDigits =>
    s!"Exceeds the limit ({Numeral.digitLimit} digits) for integer string conversion; " ++
      "use sys.set_int_max_str_digits() to increase the limit"
  | .nestedTooDeep => "maximum recursion depth exceeded while getting the repr of an object"

def parts? : Value → Option (List Value)
  | .list items | .tuple items | .set items | .frozenSet items => some items
  | .table entries | .view entries => some (entries.flatMap fun entry => [entry.1, entry.2])
  | _ => none

/-- What keeps a value from being written out, with room for some values in each other. -/
def unwritableWithin? (room : Nat) : Value → Option Unwritable
  | .integer value => if Numeral.isWritable value then none else some .tooManyDigits
  | value =>
    match value.parts?, room with
    | none, _ => none
    | some _, 0 => some .nestedTooDeep
    | some parts, room + 1 => parts.findSome? (unwritableWithin? room)

def unwritable? [Host] (value : Value) : Option Unwritable :=
  unwritableWithin? Host.valueNesting value

end Value

end BoundaryLint
