import BoundaryLint.Text.Split

/-!
Paths of source files, written with forward slashes.
-/

namespace BoundaryLint.Path

def components (path : String) : List String := Text.split '/' path

def ofComponents (parts : List String) : String := "/".intercalate parts

def basename (path : String) : String := (components path).getLastD ""

def dirname (path : String) : String := ofComponents (components path).dropLast

/-- Joins the parts that are not empty, without the slashes at their ends. -/
def join (parts : List String) : String :=
  ofComponents ((parts.filter (· ≠ "")).map Text.stripSlashes)

def isTest (path : String) : Bool := (components path).dropLast.contains "test"

def hasSuffix (app : String) (suffixes : List String) : Bool := suffixes.any (Text.endsWith app)

def containsAny (path : String) (pieces : List String) : Bool := pieces.any (Text.contains path)

/-- The text up to a line break at its end, unless that is empty or breaks before. -/
def singleLine? (text : String) : Option String :=
  let chars := text.toList
  let line := if chars.getLast? = some '\n' then chars.dropLast else chars
  if line.isEmpty || line.contains '\n' then none else some (String.ofList line)

/-- The name of an Elixir source file without its extension; a line break may end the file name. -/
def sourceStem? (file : String) : Option String :=
  let chars := file.toList
  let line := if chars.getLast? = some '\n' then chars.dropLast else chars
  let text := String.ofList line
  if Text.endsWith text ".ex" && 3 < line.length then some (Text.dropEnding text ".ex") else none

end BoundaryLint.Path
