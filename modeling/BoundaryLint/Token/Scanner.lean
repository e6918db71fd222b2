import BoundaryLint.Text.LowerLetter
import BoundaryLint.Text.UpperLetter
import BoundaryLint.Token.Gap

/-!
The scanner of a single token, one function for each way a token can start.
-/

namespace BoundaryLint.Token

structure Lexeme where
  kind : Kind
  text : String
  rest : List Char
  line : Nat
deriving DecidableEq, Repr

def isIdentifierStart (c : Char) : Bool := c = '_' || (Text.isLetter c && Text.isLowercase c)

def isNumeralChar (c : Char) : Bool := Text.isDigit c || c = '_'

/-- The end of a word: one mark, unless it starts a comparison. -/
def wordMark : List Char → List Char × List Char
  | [] => ([], [])
  | c :: rest =>
    if (c = '?' ∨ c = '!') ∧ rest.head? ≠ some '=' then ([c], rest) else ([], c :: rest)

def scanWord (chars : List Char) : List Char × List Char :=
  let mark := wordMark (chars.dropWhile Text.isWordChar)
  (chars.takeWhile Text.isWordChar ++ mark.1, mark.2)

theorem wordMark_rest_le (chars : List Char) : (wordMark chars).2.length ≤ chars.length := by
  fun_cases wordMark chars <;> simp

theorem length_dropWhile_le (p : Char → Bool) (chars : List Char) :
    (chars.dropWhile p).length ≤ chars.length :=
  (List.dropWhile_suffix p).length_le

theorem scanWord_rest_le (chars : List Char) : (scanWord chars).2.length ≤ chars.length :=
  Nat.le_trans (wordMark_rest_le _) (length_dropWhile_le _ _)

/-- What follows a word makes it a key: a colon and then a blank, a line break or the end. -/
def startsKey : List Char → Bool
  | ':' :: [] => true
  | ':' :: c :: _ => c = ' ' || c = '\t' || c = '\n'
  | _ => false

def keyOr (kind : Kind) (text : List Char) (rest : List Char) (line : Nat) : Lexeme :=
  if startsKey rest then ⟨.key, String.ofList text, rest.tail, line⟩
  else ⟨kind, String.ofList text, rest, line⟩

def wordKind (word : String) : Kind :=
  if word ∈ keywords then .keyword
  else if word ∈ wordOperators then .operator
  else if word ∈ wordLiterals then .literal
  else .identifier

/-- The exponent of a float, when one follows its digits: a mark, and then a sign, a digit or the
end of the text. -/
def scanExponent (chars : List Char) : List Char × List Char :=
  match chars with
  | [] => ([], [])
  | mark :: rest =>
    if mark = 'e' ∨ mark = 'E' then
      match rest with
      | [] => ([mark], [])
      | c :: rest =>
        if Text.isDigit c || c = '+' || c = '-' then
          (mark :: c :: rest.takeWhile isNumeralChar, rest.dropWhile isNumeralChar)
        else ([], chars)
    else ([], chars)

def scanFraction (chars : List Char) : Option (List Char × List Char) :=
  match chars with
  | '.' :: c :: rest =>
    if Text.isDigit c then
      let power := scanExponent ((c :: rest).dropWhile isNumeralChar)
      some ('.' :: (c :: rest).takeWhile isNumeralChar ++ power.1, power.2)
    else none
  | _ => none

def scanDecimal (line : Nat) (chars : List Char) : Lexeme :=
  let whole := chars.takeWhile isNumeralChar
  let rest := chars.dropWhile isNumeralChar
  match scanFraction rest with
  | some (fraction, rest) => ⟨.float, String.ofList (whole ++ fraction), rest, line⟩
  | none => ⟨.integer, String.ofList whole, rest, line⟩

/-- A numeral. After a base mark all word characters belong to it. -/
def scanNumeral (line : Nat) (chars : List Char) : Lexeme :=
  match chars with
  | '0' :: base :: rest =>
    if base = 'x' ∨ base = 'b' ∨ base = 'o' then
      ⟨.integer, String.ofList ('0' :: base :: rest.takeWhile Text.isWordChar),
        rest.dropWhile Text.isWordChar, line⟩
    else scanDecimal line chars
  | _ => scanDecimal line chars

def firstOperator (candidates : List String) (chars : List Char) : Option String :=
  candidates.find? fun operator => operator.toList.isPrefixOf chars

def scanAtomTail (chars : List Char) : List Char × List Char :=
  match chars with
  | '.' :: c :: rest =>
    if Text.isUppercase c then
      let tail := scanAtomTail (scanWord (c :: rest)).2
      ('.' :: (scanWord (c :: rest)).1 ++ tail.1, tail.2)
    else ([], chars)
  | _ => ([], chars)
termination_by chars.length
decreasing_by
  have shorter := scanWord_rest_le (c :: rest)
  simp only [List.length_cons] at shorter ⊢
  omega

def scanColon [Host] (line : Nat) (chars : List Char) : Except Source.Fault Lexeme :=
  match chars with
  | [] => .error (.at .unexpectedColon line)
  | c :: rest =>
    if c = ':' then .ok ⟨.operator, "::", rest, line⟩
    else if c = '"' ∨ c = '\'' then do
      let body ← scanQuoted c line rest
      return ⟨.atom, String.ofList body.chars, body.rest, body.line⟩
    else if c = '_' || Text.isLetter c then
      let word := scanWord (c :: rest)
      let tail := scanAtomTail word.2
      .ok ⟨.atom, String.ofList (word.1 ++ tail.1), tail.2, line⟩
    else match firstOperator (bracketAtoms ++ operators) (c :: rest) with
      | some operator => .ok ⟨.atom, operator, (c :: rest).drop operator.length, line⟩
      | none => .error (.at .unexpectedColon line)

def scanCharCode (line : Nat) (c : Char) (rest : List Char) : Lexeme :=
  if c = '\\' then
    match rest with
    | [] => ⟨.integer, "0", [], line⟩
    | escaped :: rest => ⟨.integer, toString escaped.toNat, rest, lineAfter line escaped⟩
  else ⟨.integer, toString c.toNat, rest, lineAfter line c⟩

def scanSigilBody [Host] (name : String) (line : Nat) (opener : Char) (rest : List Char) :
    Except Source.Fault Body :=
  let plain : Except Source.Fault Body :=
    match closeSigil opener (sigilCloser opener) 0 line [] rest with
    | some body => .ok body
    | none => .error (.at (.unterminatedSigil name) line)
  if opener = '"' ∨ opener = '\'' then
    match rest with
    | second :: third :: _ =>
      if second = opener ∧ third = opener then scanQuoted opener line rest else plain
    | _ => plain
  else plain

/-- A sigil, after the tilde. Its modifiers are dropped. -/
def scanSigil [Host] (line : Nat) (chars : List Char) : Except Source.Fault Lexeme :=
  let name := chars.takeWhile Text.isLetter
  match chars.dropWhile Text.isLetter with
  | [] => .error (.at (.invalidSigilDelimiter "") line)
  | opener :: rest =>
    if opener ∈ sigilOpeners then do
      let body ← scanSigilBody (String.ofList name) line opener rest
      return ⟨.sigil, String.ofList ('~' :: name ++ body.chars), body.rest.dropWhile Text.isLetter,
        body.line⟩
    else .error (.at (.invalidSigilDelimiter opener.toString) line)

def scanOperator (line : Nat) (c : Char) (rest : List Char) : Except Source.Fault Lexeme :=
  match firstOperator operators (c :: rest) with
  | some operator => .ok ⟨.operator, operator, (c :: rest).drop operator.length, line⟩
  | none => .error (.at (.unexpectedCharacter c) line)

def scanQuotedToken [Host] (kind : Kind) (quote : Char) (line : Nat) (rest : List Char) :
    Except Source.Fault Lexeme := do
  let body ← scanQuoted quote line rest
  return keyOr kind body.chars body.rest body.line

def scanToken [Host] (line : Nat) (c : Char) (rest : List Char) : Except Source.Fault Lexeme :=
  if Text.isDigit c then .ok (scanNumeral line (c :: rest))
  else if isIdentifierStart c then
    let word := scanWord (c :: rest)
    .ok (keyOr (wordKind (String.ofList word.1)) word.1 word.2 line)
  else if Text.isLetter c then
    let word := scanWord (c :: rest)
    .ok (keyOr .alias word.1 word.2 line)
  else if c = '"' then scanQuotedToken .string c line rest
  else if c = '\'' then scanQuotedToken .charlist c line rest
  else if c = ':' then scanColon line rest
  else if c ∈ punctuation then .ok ⟨.punctuation, c.toString, rest, line⟩
  else match rest with
    | [] => scanOperator line c rest
    | following :: after =>
      if c = '?' then .ok (scanCharCode line following after)
      else if c = '~' && Text.isLetter following then scanSigil line rest
      else scanOperator line c rest

end BoundaryLint.Token
