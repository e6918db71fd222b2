import BoundaryLint.Config.Value

/-!
The values of configuration documents: the keys of a table are texts, and a document holds neither tuples nor sets.
-/

namespace BoundaryLint

inductive Datum where
  | null
  | boolean (value : Bool)
  | integer (value : Int)
  | float (value : Float)
  | text (value : String)
  | moment (value : Moment)
  | list (items : List Datum)
  /-- The entries in the order of the document. -/
  | table (entries : List (String × Datum))
deriving Repr, Inhabited

namespace Datum

mutual

def toValue : Datum → Value
  | .null => .null
  | .boolean value => .boolean value
  | .integer value => .integer value
  | .float value => .float value
  | .text value => .text value
  | .moment value => .moment value
  | .list items => .list (itemValues items)
  | .table entries => .table (entryValues entries)

def itemValues : List Datum → List Value
  | [] => []
  | item :: rest => toValue item :: itemValues rest

def entryValues : List (String × Datum) → List (Value × Value)
  | [] => []
  | entry :: rest => entryValue entry :: entryValues rest

def entryValue : String × Datum → Value × Value
  | (key, datum) => (.text key, toValue datum)

end

def text? : Datum → Option String
  | .text value => some value
  | _ => none

def texts? : Datum → Option (List String)
  | .list items => items.mapM text?
  | _ => none

end Datum

end BoundaryLint
