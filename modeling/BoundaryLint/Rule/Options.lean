import BoundaryLint.Config.Fault

/-!
Options of rules. A rule lists its options with their defaults, and an option keeps the kind of its
default: a value of another kind is refused when the rule is configured.
-/

namespace BoundaryLint

abbrev Options := List (String × Value)

namespace Options

inductive Fault where
  | missing (key : String)
  | notList (key : String)
  | notTable (key : String)
  | notSequence (key : String)
  | notInteger (key kind : String)
deriving DecidableEq, Repr

def Fault.message : Fault → String
  | .missing key => Text.quoted key
  | .notList key => s!"option {Text.quoted key} is not a string list"
  | .notTable key => s!"option {Text.quoted key} is not a table"
  | .notSequence key => s!"option {Text.quoted key} must be a sequence of strings"
  | .notInteger key kind => s!"option {Text.quoted key} must be int, got {kind}"

def isTextRow (items : List Value) : Bool := items.all fun item => item.text?.isSome

def isTextTable (entries : List (Value × Value)) : Bool :=
  entries.all fun entry => entry.1.text?.isSome && entry.2.text?.isSome

/-- The value that an option takes on, if the given one is of the kind of the default. Texts are kept in a tuple, and
a table in a view. A default of another kind takes any value. -/
def coerce (key : String) (default value : Value) : Except Config.Cause Value :=
  match default with
  | .boolean _ =>
    match value with
    | .boolean _ => .ok value
    | _ => .error (.optionNotBoolean key)
  | .integer _ =>
    match value with
    | .integer _ => .ok value
    | _ => .error (.optionNotInteger key)
  | .text _ =>
    match value with
    | .text _ => .ok value
    | _ => .error (.optionNotText key)
  | .list _ | .tuple _ | .frozenSet _ =>
    match value.items? with
    | some items => if isTextRow items then .ok (.tuple items) else .error (.optionNotStrings key)
    | none => .error (.optionNotStrings key)
  | .table _ | .view _ =>
    match value.entries? with
    | some entries =>
      if isTextTable entries then .ok (.view entries) else .error (.optionNotTextTable key)
    | none => .error (.optionNotTable key)
  | _ => .ok value

def set (key : String) (value : Value) (options : Options) : Options :=
  options.map fun (other, kept) => if other = key then (other, value) else (other, kept)

/-- Overrides defaults one by one; a name that is no option is refused. -/
def override (defaults options : Options) : List (String × Value) → Except Config.Cause Options
  | [] => .ok options
  | (key, value) :: rest =>
    match defaults.lookup key with
    | none => .error (.unknownOption key)
    | some default => do
      let value ← coerce key default value
      override defaults (set key value options) rest

def configure (defaults : Options) (values : List (String × Value)) : Except Config.Cause Options :=
  override defaults defaults values

def get (options : Options) (key : String) : Except Fault Value :=
  match options.lookup key with
  | some value => .ok value
  | none => .error (.missing key)

def items (options : Options) (key : String) : Except Fault (List Value) := do
  match ← options.get key with
  | .tuple items => return items
  | _ => throw (.notList key)

def entries (options : Options) (key : String) : Except Fault (List (Value × Value)) := do
  match (← options.get key).entries? with
  | some entries => return entries
  | none => throw (.notTable key)

def strings (options : Options) (key : String) : Except Fault (List String) := do
  match (← options.get key).visit? with
  | some texts => return texts
  | none => throw (.notSequence key)

/-- The value of an option that counts. A truth value counts as a number too. -/
def number (options : Options) (key : String) : Except Fault Value := do
  match ← options.get key with
  | .integer value => return .integer value
  | .boolean value => return .boolean value
  | other => throw (.notInteger key other.kind)

def integer (options : Options) (key : String) : Except Fault Int := do
  match ← options.number key with
  | .integer value => return value
  | .boolean true => return 1
  | _ => return 0

end Options

end BoundaryLint
