import BoundaryLint.Toml.Layout

/-!
Text in a document: in double quotes, where a backslash starts an escape, or in single quotes, where
every character stands for itself. Either quote three times allows line feeds.
-/

namespace BoundaryLint.Toml

def hexValue? (c : Char) : Option Nat :=
  if c.toNat < 128 then Numeral.digitBelow? 16 c else none

def readCode (count : Nat) (chars : List Char) : Reading (Char × List Char) :=
  let digits := chars.take count
  match digits.mapM hexValue? with
  | none => .error (.notDocument .hexadecimal chars)
  | some values =>
    let code := values.foldl (fun sum value => sum * 16 + value) 0
    if digits.length < count then .error (.notDocument .hexadecimal chars)
    else if code.isValidChar then .ok (Char.ofNat code, chars.drop count)
    else .error (.notDocument .noCharacter (chars.drop count))

def escape? : Char → Option Char
  | 'b' => some '\x08'
  | 't' => some '\t'
  | 'n' => some '\n'
  | 'f' => some '\x0c'
  | 'r' => some '\r'
  | '"' => some '"'
  | '\\' => some '\\'
  | _ => none

/-- A backslash at the end of a line joins the lines. Blanks may stand behind it. -/
def joinLines (chars : List Char) : Reading (List Char) :=
  match skipBlanks chars with
  | [] => .ok []
  | '\n' :: after => .ok (skipBreaks after)
  | left => .error (.notDocument .backslash left)

def readEscape (multiline : Bool) : List Char → Reading (List Char × List Char)
  | [] => .error (.notDocument .backslash [])
  | 'u' :: rest => do
    let (c, rest) ← readCode 4 rest
    return ([c], rest)
  | 'U' :: rest => do
    let (c, rest) ← readCode 8 rest
    return ([c], rest)
  | c :: rest =>
    match escape? c with
    | some meant => .ok ([meant], rest)
    | none =>
      if multiline && (isBlank c || c = '\n') then do return ([], ← joinLines (c :: rest))
      else .error (.notDocument .backslash rest)

def readBasic (multiline : Bool) (chars : List Char) : Reading (List Char × List Char) :=
  match chars with
  | [] => .error (.notDocument .unterminated [])
  | '"' :: rest =>
    if !multiline then .ok ([], rest)
    else if rest.take 2 = ['"', '"'] then .ok ([], rest.drop 2)
    else do
      let (more, after) ← readBasic multiline rest
      return ('"' :: more, after)
  | '\\' :: rest => do
    let (meant, after) ← readEscape multiline rest
    if after.length ≤ rest.length then
      let (more, after) ← readBasic multiline after
      return (meant ++ more, after)
    else .error (.notDocument .backslash rest)
  | c :: rest =>
    if isControl c && !(multiline && c = '\n') then
      .error (.notDocument (.characterInText c) (c :: rest))
    else do
      let (more, after) ← readBasic multiline rest
      return (c :: more, after)
termination_by chars.length

def splitAt? (wanted : List Char) : List Char → Option (List Char × List Char)
  | [] => if wanted.isEmpty then some ([], []) else none
  | c :: rest =>
    if wanted.isPrefixOf (c :: rest) then some ([], c :: rest)
    else (splitAt? wanted rest).map fun (text, after) => (c :: text, after)

/-- The rest of text that some quotes end, in which every character stands for itself. -/
def readLiteral (quotes : String) (forbidden : Char → Bool) (chars : List Char) :
    Reading (List Char × List Char) :=
  match splitAt? quotes.toList chars with
  | none => .error (.notDocument (.missing quotes) [])
  | some (text, rest) => do
    checkCharacters forbidden text rest
    return (text, rest.drop quotes.length)

/-- Up to two more quotes belong to a text that three quotes end. -/
def extraQuotes (quote : Char) : List Char → List Char × List Char
  | first :: second :: rest =>
    if first = quote then
      if second = quote then ([quote, quote], rest) else ([quote], second :: rest)
    else ([], first :: second :: rest)
  | [c] => if c = quote then ([quote], []) else ([], [c])
  | [] => ([], [])

def dropFirstBreak : List Char → List Char
  | '\n' :: rest => rest
  | chars => chars

def readLong (quote : Char) (chars : List Char) : Reading (String × List Char) := do
  let chars := dropFirstBreak chars
  let (text, rest) ←
    if quote = '"' then readBasic true chars
    else readLiteral "'''" (fun c => isControl c && c ≠ '\n') chars
  let (extra, rest) := extraQuotes quote rest
  return (String.ofList (text ++ extra), rest)

def readShort (quote : Char) (chars : List Char) : Reading (String × List Char) := do
  let (text, rest) ←
    if quote = '"' then readBasic false chars else readLiteral "'" isControl chars
  return (String.ofList text, rest)

end BoundaryLint.Toml
