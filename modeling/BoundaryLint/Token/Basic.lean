/-!
Tokens of Elixir source. Strings, charlists, sigils and heredocs are single tokens and comments are
dropped. Line breaks are no tokens: a token records whether a blank or a line break stands before
it, which is all that tells `f -1` from `f - 1` and one statement from the next.
-/

namespace BoundaryLint

inductive Token.Kind where
  | alias
  | identifier
  /-- A word or quoted text with its colon, as in `key: value`. -/
  | key
  | keyword
  | atom
  | integer
  | float
  | string
  | charlist
  | sigil
  | literal
  | operator
  | punctuation
deriving DecidableEq, Repr

structure Token where
  kind : Token.Kind
  /-- The characters of the token; of a quoted token those between its quotes. -/
  text : String
  /-- The line of the first character, counted from one. -/
  line : Nat
  /-- A blank or a line break stands before the token. -/
  spaceBefore : Bool
  newlineBefore : Bool
deriving DecidableEq, Repr

namespace Token

/-- The operators. The scanner takes the first one that fits, so an operator stands behind all those
that it starts. -/
def operators : List String :=
  ["<<<", ">>>", "<<~", "~>>", "<~>", "|||", "&&&", "^^^", "===", "!==", "+++", "---", "...",
    "\\\\", "|>", "<-", "->", "=>", "==", "!=", "<=", ">=", "&&", "||", "++", "--", "<>", "=~",
    "::", "..", "//", "<<", ">>", "~>", "<~", "**",
    "+", "-", "*", "/", "=", "<", ">", "|", "&", "^", "!", "@", ".", "%"]

def bracketAtoms : List String := ["%\x7b\x7d", "\x7b\x7d", "<<>>"]

def punctuation : List Char := ['(', ')', '[', ']', '\x7b', '\x7d', ',', ';']

def keywords : List String := ["do", "end", "fn", "else", "rescue", "catch", "after"]

def wordOperators : List String := ["when", "and", "or", "not", "in"]

def wordLiterals : List String := ["true", "false", "nil"]

def sigilOpeners : List Char := ['/', '|', '"', '\'', '(', '[', '\x7b', '<']

def sigilCloser (opener : Char) : Char :=
  if opener = '(' then ')'
  else if opener = '[' then ']'
  else if opener = '\x7b' then '\x7d'
  else if opener = '<' then '>'
  else opener

def is (token : Token) (kind : Kind) (text : String) : Bool :=
  token.kind == kind && token.text == text

end Token

end BoundaryLint
