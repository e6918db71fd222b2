import BoundaryLint.Token.Literal

/-!
Gaps: what may stand between two tokens. Blanks, line breaks, comments to the end of the line, and
a backslash before a line break, which continues the line and so counts as a blank only.
-/

namespace BoundaryLint.Token

structure Gap where
  space : Bool
  newline : Bool
deriving DecidableEq, Repr

def Gap.none : Gap := ⟨false, false⟩

def Gap.addSpace (gap : Gap) : Gap := ⟨true, gap.newline⟩

def Gap.addNewline (_gap : Gap) : Gap := ⟨true, true⟩

def isBlank (c : Char) : Bool := c = ' ' || c = '\t' || c = '\x0c' || c = '\x0b'

structure GapEnd where
  gap : Gap
  line : Nat
  rest : List Char
deriving DecidableEq, Repr

/-- Passes over a gap. Within a comment only a line break counts. -/
def skipGap (comment : Bool) (gap : Gap) (line : Nat) : List Char → GapEnd
  | [] => ⟨gap, line, []⟩
  | c :: rest =>
    if c = '\n' then skipGap false gap.addNewline (line + 1) rest
    else if comment then skipGap true gap line rest
    else if isBlank c then skipGap false gap.addSpace line rest
    else if c = '#' then skipGap true gap line rest
    else if c = '\\' then
      match rest with
      | [] => ⟨gap, line, [c]⟩
      | following :: after =>
        if following = '\n' then skipGap false gap.addSpace (line + 1) after
        else ⟨gap, line, c :: following :: after⟩
    else ⟨gap, line, c :: rest⟩

theorem skipGap_rest_le (comment : Bool) (gap : Gap) (line : Nat) (chars : List Char) :
    (skipGap comment gap line chars).rest.length ≤ chars.length := by
  fun_induction skipGap comment gap line chars <;> grind

def unifyBreaks : List Char → List Char
  | [] => []
  | [c] => [c]
  | c :: d :: rest =>
    if c = '\r' ∧ d = '\n' then '\n' :: unifyBreaks rest else c :: unifyBreaks (d :: rest)

end BoundaryLint.Token
