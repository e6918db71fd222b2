import BoundaryLint.Config.Datum

/-!
What stands between the values of a document: blanks, comments and line feeds. A fault keeps the characters that are
left where it is found, so that its place can be told.
-/

namespace BoundaryLint.Toml

inductive Cause where
  | statement
  | lineEnd
  | keyPart
  | noEquals
  | noBracket
  | noBrackets
  | declaredTwice (key : List String)
  | redefined (key : List String)
  | immutable (key : List String)
  | overwritten
  | duplicate (name : String)
  | unclosedList
  | unclosedTable
  | value
  | date
  | character (found : Char)
  | characterInText (found : Char)
  | unterminated
  | missing (wanted : String)
  | backslash
  | hexadecimal
  | noCharacter
deriving DecidableEq, Repr

def shownKey (key : List String) : String := Value.shownTuple (key.map Text.quoted)

def Cause.message : Cause → String
  | .statement => "Invalid statement"
  | .lineEnd => "Expected newline or end of document after a statement"
  | .keyPart => "Invalid initial character for a key part"
  | .noEquals => "Expected '=' after a key in a key/value pair"
  | .noBracket => "Expected ']' at the end of a table declaration"
  | .noBrackets => "Expected ']]' at the end of an array declaration"
  | .declaredTwice key => s!"Cannot declare {shownKey key} twice"
  | .redefined key => s!"Cannot redefine namespace {shownKey key}"
  | .immutable key => s!"Cannot mutate immutable namespace {shownKey key}"
  | .overwritten => "Cannot overwrite a value"
  | .duplicate name => s!"Duplicate inline table key {Text.quoted name}"
  | .unclosedList => "Unclosed array"
  | .unclosedTable => "Unclosed inline table"
  | .value => "Invalid value"
  | .date => "Invalid date or datetime"
  | .character found => s!"Found invalid character {Text.quoted found.toString}"
  | .characterInText found => s!"Illegal character {Text.quoted found.toString}"
  | .unterminated => "Unterminated string"
  | .missing wanted => s!"Expected {Text.quoted wanted}"
  | .backslash => "Unescaped '\\' in a string"
  | .hexadecimal => "Invalid hex value"
  | .noCharacter => "Escaped character is not a Unicode scalar value"

/-- Why a document cannot be read: what is wrong where some characters are left, or a number. -/
inductive Fault where
  | notDocument (cause : Cause) (left : List Char)
  | number (fault : Numeral.Fault)
deriving DecidableEq, Repr

abbrev Reading := Except Fault

def place (text left : List Char) : String :=
  let before := text.take (text.length - left.length)
  let line := before.count '\n' + 1
  let column := (before.reverse.takeWhile (· ≠ '\n')).length + 1
  if left.isEmpty then "end of document" else s!"line {line}, column {column}"

def isBlank (c : Char) : Bool := c = ' ' || c = '\t'

/-- A control character; none may stand in text or comments, blanks apart. -/
def isControl (c : Char) : Bool := (c.toNat < 32 || c.toNat = 127) && c ≠ '\t'

def skipBlanks (chars : List Char) : List Char := chars.dropWhile isBlank

def skipBreaks (chars : List Char) : List Char := chars.dropWhile fun c => isBlank c || c = '\n'

def checkCharacters (forbidden : Char → Bool) (text rest : List Char) : Reading Unit :=
  match text.dropWhile fun c => !forbidden c with
  | [] => .ok ()
  | c :: more => .error (.notDocument (.character c) (c :: more ++ rest))

def skipComment : List Char → Reading (List Char)
  | '#' :: rest => do
    let line := rest.takeWhile (· ≠ '\n')
    let after := rest.drop line.length
    checkCharacters isControl line after
    return after
  | chars => .ok chars

def skipLayout (chars : List Char) : Reading (List Char) := do
  let after ← skipComment (skipBreaks chars)
  if after.length < chars.length then skipLayout after else return after
termination_by chars.length

end BoundaryLint.Toml
