import BoundaryLint.Source.Fault
import BoundaryLint.Token.Basic

/-!
Reading from a row of tokens: a step takes the tokens ahead and gives a result with the tokens that
follow, or a fault. The steps that repeat stop as soon as nothing is consumed, which makes them
total whatever they repeat.
-/

namespace BoundaryLint.Grammar

/-- What is wrong and at which line; without a line, at the last token. -/
structure Fault where
  cause : Source.Cause
  line? : Option Nat
deriving DecidableEq, Repr

/-- A step of reading. A step that consumes tokens returns those that follow with its result. -/
abbrev Reading := Except Fault

def faultAt (token : Token) (cause : Source.Cause) : Fault := ⟨cause, some token.line⟩

def faultBefore (tokens : List Token) (cause : Source.Cause) : Fault :=
  ⟨cause, tokens.head?.map (·.line)⟩

/-- A fault of a value that no token shows is placed at the first line. -/
def faultAtTop (cause : Source.Cause) : Fault := ⟨cause, some 1⟩

def next : List Token → Reading (Token × List Token)
  | [] => .error ⟨.endOfFile, none⟩
  | token :: rest => .ok (token, rest)

def startsWith (kind : Token.Kind) (text : String) : List Token → Bool
  | [] => false
  | token :: _ => token.is kind text

def startsWithKind (kind : Token.Kind) : List Token → Bool
  | [] => false
  | token :: _ => token.kind == kind

def expect (kind : Token.Kind) (text : String) : List Token → Reading (List Token)
  | [] => .error ⟨.endOfFileBefore text, none⟩
  | token :: rest =>
    if token.is kind text then .ok rest
    else .error (faultAt token (.unexpectedBefore token.text text))

def afterComma? : List Token → Option (List Token)
  | [] => none
  | token :: rest => if token.is .punctuation "," then some rest else none

/-- Items divided by commas. They end where `stop` holds before an item, or where no comma
follows. -/
def commaItems {α : Type} (item : List Token → Reading (α × List Token)) (stop : List Token → Bool)
    (tokens : List Token) : Reading (List α × List Token) := do
  if stop tokens then return ([], tokens)
  let (first, rest) ← item tokens
  match afterComma? rest with
  | none => return ([first], rest)
  | some after =>
    if after.length < tokens.length then
      let (more, rest) ← commaItems item stop after
      return (first :: more, rest)
    else return ([first], after)
termination_by tokens.length

end BoundaryLint.Grammar
