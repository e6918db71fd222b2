import BoundaryLint.Text.Lines
import BoundaryLint.Toml.Scalar
import BoundaryLint.Toml.Table
import BoundaryLint.Toml.Text

/-!
Documents: one key with its value, or one header of a table, on each line. The entries of a table
keep the order of the document.
-/

namespace BoundaryLint.Toml

def isKeyChar (c : Char) : Bool := c.toNat < 128 && (c.isAlphanum || c = '-' || c = '_')

def readKeyPart : List Char → Reading (String × List Char)
  | '"' :: rest => readShort '"' rest
  | '\'' :: rest => readShort '\'' rest
  | chars =>
    let name := chars.takeWhile isKeyChar
    if name.isEmpty then .error (.notDocument .keyPart chars)
    else .ok (String.ofList name, chars.drop name.length)

def readKey (chars : List Char) : Reading (List String × List Char) := do
  let (part, rest) ← readKeyPart chars
  match skipBlanks rest with
  | '.' :: more =>
    let next := skipBlanks more
    if next.length < chars.length then
      let (parts, rest) ← readKey next
      return (part :: parts, rest)
    else .error (.notDocument .keyPart next)
  | rest => return ([part], rest)
termination_by chars.length

def readKeyStart (chars : List Char) : Reading (List String × List Char) := do
  let (key, rest) ← readKey chars
  match rest with
  | '=' :: start => return (key, skipBlanks start)
  | left => .error (.notDocument .noEquals left)

mutual

def readValue (chars : List Char) : Reading (Datum × List Char) :=
  match chars with
  | '"' :: '"' :: '"' :: rest => (readLong '"' rest).map fun (text, rest) => (.text text, rest)
  | '"' :: rest => (readShort '"' rest).map fun (text, rest) => (.text text, rest)
  | '\'' :: '\'' :: '\'' :: rest =>
    (readLong '\'' rest).map fun (text, rest) => (.text text, rest)
  | '\'' :: rest => (readShort '\'' rest).map fun (text, rest) => (.text text, rest)
  | '[' :: rest => do
    match ← skipLayout rest with
    | ']' :: after => return (.list [], after)
    | inner =>
      if inner.length ≤ rest.length then
        let (items, after) ← readItems inner
        return (.list items, after)
      else .error (.notDocument .unclosedList inner)
  | '\x7b' :: rest => do
    match skipBlanks rest with
    | '\x7d' :: after => return (.table [], after)
    | inner =>
      if inner.length ≤ rest.length then
        let (entries, after) ← readEntries [] inner
        return (.table (entryDatums entries), after)
      else .error (.notDocument .unclosedTable inner)
  | _ => readScalar chars
termination_by (chars.length, 0)

def readItems (chars : List Char) : Reading (List Datum × List Char) := do
  let (item, rest) ← readValue chars
  match ← skipLayout rest with
  | ']' :: after => return ([item], after)
  | ',' :: more =>
    match ← skipLayout more with
    | ']' :: after => return ([item], after)
    | next =>
      if next.length < chars.length then
        let (items, after) ← readItems next
        return (item :: items, after)
      else .error (.notDocument .unclosedList next)
  | left => .error (.notDocument .unclosedList left)
termination_by (chars.length, 1)

def readEntries (entries : Entries) (chars : List Char) : Reading (Entries × List Char) := do
  let (key, start) ← readKeyStart chars
  if start.length < chars.length then
    let (value, rest) ← readValue start
    let entries ← (entries.assignInline value key).mapError (.notDocument · rest)
    match skipBlanks rest with
    | '\x7d' :: after => return (entries, after)
    | ',' :: more =>
      let next := skipBlanks more
      if next.length < chars.length then readEntries entries next
      else .error (.notDocument .unclosedTable next)
    | left => .error (.notDocument .unclosedTable left)
  else .error (.notDocument .noEquals start)
termination_by (chars.length, 1)

end

/-- A document up to some line: its entries, the table that the next lines fill, and the number of
headers so far. -/
structure Draft where
  entries : Entries := []
  header : List String := []
  block : Nat := 0

namespace Draft

def readTableInRow (draft : Draft) (chars : List Char) : Reading (Draft × List Char) := do
  let (key, rest) ← readKey (skipBlanks chars)
  let entries ← (draft.entries.addTable key).mapError (.notDocument · rest)
  match rest with
  | ']' :: ']' :: after => return (⟨entries, key, draft.block + 1⟩, after)
  | left => .error (.notDocument .noBrackets left)

def readTable (draft : Draft) (chars : List Char) : Reading (Draft × List Char) := do
  let (key, rest) ← readKey (skipBlanks chars)
  let entries ← (draft.entries.openTable (draft.block + 1) key).mapError (.notDocument · rest)
  match rest with
  | ']' :: after => return (⟨entries, key, draft.block + 1⟩, after)
  | left => .error (.notDocument .noBracket left)

def readAssignment (draft : Draft) (chars : List Char) : Reading (Draft × List Char) := do
  let (key, start) ← readKeyStart chars
  let (value, rest) ← readValue start
  let entries ← (draft.entries.assignBelow draft.header draft.block value key).mapError (.notDocument · rest)
  return ({ draft with entries }, rest)

def readStatement (draft : Draft) (chars : List Char) : Reading (Draft × List Char) :=
  match chars with
  | [] | '\n' :: _ | '#' :: _ => .ok (draft, chars)
  | '[' :: '[' :: rest => draft.readTableInRow rest
  | '[' :: rest => draft.readTable rest
  | c :: _ =>
    if isKeyChar c || c = '"' || c = '\'' then draft.readAssignment chars
    else .error (.notDocument .statement chars)

def readLines (draft : Draft) (chars : List Char) : Reading Draft := do
  let (draft, rest) ← draft.readStatement (skipBlanks chars)
  match ← skipComment (skipBlanks rest) with
  | [] => return draft
  | '\n' :: next =>
    if next.length < chars.length then readLines draft next else .error (.notDocument .lineEnd next)
  | left => .error (.notDocument .lineEnd left)
termination_by chars.length

end Draft

inductive Refusal where
  | notDocument (reason : String)
  | number (fault : Numeral.Fault)
deriving DecidableEq, Repr

def Fault.refusal (text : List Char) : Fault → Refusal
  | .notDocument cause left => .notDocument s!"{cause.message} (at {place text left})"
  | .number fault => .number fault

def parse (text : List Char) : Except Refusal (List (String × Datum)) := do
  let text := Text.joinPairs text
  let draft ← (Draft.readLines {} text).mapError (Fault.refusal text)
  return entryDatums draft.entries

end BoundaryLint.Toml
