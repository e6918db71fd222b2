import BoundaryLint.Toml.Layout

/-!
Tables under construction. A table may be opened once by a header, or be filled by dotted keys
within one block of the document; one that only stands on the way to another is implied and can
still be opened. A value, be it a table, is never changed.
-/

namespace BoundaryLint.Toml

inductive Node where
  | value (value : Datum)
  /-- A table, with the number of the block that opened it. -/
  | table (opened : Option Nat) (entries : List (String × Node))
  /-- Tables in a row; the last one is still being filled. -/
  | tables (earlier : List (List (String × Node))) (last : List (String × Node))

abbrev Entries := List (String × Node)

/-- What is wrong with a key that leads to a value. Values that hold others have a cause of their own. -/
def refusal (holder : Cause) : Datum → Cause
  | .list _ | .table _ => holder
  | _ => .overwritten

namespace Entries

def update (key : String) (change : Option Node → Except Cause Node) : Entries → Except Cause Entries
  | [] => do return [(key, ← change none)]
  | (other, node) :: rest =>
    if other = key then do return (key, ← change (some node)) :: rest
    else do return (other, node) :: (← update key change rest)

/-- Changes the table that a row of keys leads to. Missing tables are implied, and of tables in a
row the last one is meant. -/
def within (holder : Cause) (change : Entries → Except Cause Entries) :
    (path : List String) → Entries → Except Cause Entries
  | [], entries => change entries
  | key :: rest, entries =>
    update key (fun
      | none => do return .table none (← within holder change rest [])
      | some (.table opened inner) => do return .table opened (← within holder change rest inner)
      | some (.tables earlier last) => do return .tables earlier (← within holder change rest last)
      | some (.value found) => .error (refusal holder found)) entries

def openTable (block : Nat) (path : List String) (entries : Entries) : Except Cause Entries :=
  within (.declaredTwice path) (update (path.getLastD "") fun
    | none => .ok (.table (some block) [])
    | some (.table none inner) => .ok (.table (some block) inner)
    | some (.value found) => .error (refusal (.declaredTwice path) found)
    | some _ => .error (.declaredTwice path)) path.dropLast entries

def addTable (path : List String) (entries : Entries) : Except Cause Entries :=
  within (.immutable path) (update (path.getLastD "") fun
    | none => .ok (.tables [] [])
    | some (.tables earlier last) => .ok (.tables (earlier ++ [last]) [])
    | some (.value found) => .error (refusal (.immutable path) found)
    | some _ => .error .overwritten) path.dropLast entries

/-- Puts a value under a dotted key, if nothing stands there. The tables on the way are opened in the block. -/
def assign (block : Nat) (value : Datum) (taken : Node → Cause) (holder : Cause) (passed : List String) :
    (key : List String) → Entries → Except Cause Entries
  | [], entries => .ok entries
  | [name], entries =>
    update name (fun
      | none => .ok (.value value)
      | some node => .error (taken node)) entries
  | name :: rest, entries =>
    let path := passed ++ [name]
    update name (fun
      | none => do return .table (some block) (← assign block value taken holder path rest [])
      | some (.table opened inner) =>
        if opened = none ∨ opened = some block then do
          return .table (some block) (← assign block value taken holder path rest inner)
        else .error (.redefined path)
      | some (.tables _ _) => .error (.redefined path)
      | some (.value found) => .error (refusal holder found)) entries

def assignBelow (header : List String) (block : Nat) (value : Datum) (key : List String) (entries : Entries) :
    Except Cause Entries :=
  let holder := Cause.immutable (header ++ key.dropLast)
  within holder (assign block value (fun _ => .overwritten) holder header key) header entries

def assignInline (value : Datum) (key : List String) (entries : Entries) : Except Cause Entries :=
  let duplicate := Cause.duplicate (key.getLastD "")
  let taken
    | .value (.list _) | .value (.table _) => .immutable key
    | _ => duplicate
  assign 0 value taken (.immutable key) [] key entries

end Entries

mutual

def Node.toDatum : Node → Datum
  | .value value => value
  | .table _ entries => .table (entryDatums entries)
  | .tables earlier last => .list (tableDatums earlier ++ [.table (entryDatums last)])

def entryDatums : List (String × Node) → List (String × Datum)
  | [] => []
  | entry :: rest => entryDatum entry :: entryDatums rest

def entryDatum : String × Node → String × Datum
  | (key, node) => (key, node.toDatum)

def tableDatums : List (List (String × Node)) → List Datum
  | [] => []
  | entries :: rest => .table (entryDatums entries) :: tableDatums rest

end

end BoundaryLint.Toml
