import BoundaryLint.Source.Numeral
import BoundaryLint.Text.Quoted

/-!
Why a source text is refused. Scanning and parsing share one list of causes, since both end in the
same report: a reason and a line.
-/

namespace BoundaryLint

namespace Source

inductive Cause where
  | unexpectedCharacter (found : Char)
  | unexpectedColon
  | unterminatedString
  | unterminatedInterpolation
  | unterminatedHeredoc
  | unterminatedSigil (name : String)
  | invalidSigilDelimiter (found : String)
  | endOfFile
  | endOfFileBefore (wanted : String)
  | unexpected (found : String)
  | unexpectedBefore (found wanted : String)
  | unexpectedAfterDot (found : String)
  | unexpectedInStruct (found : String)
  | notAnIdentifier (found : String)
  | invalidAliasSegment (found : String)
  | invalidStructName (found : String)
  | invalidModuleSegment (found : String)
  | expressionBeforeClause
  | numeral (fault : Numeral.Fault)
  | nestingTooDeep
deriving DecidableEq, Repr

def Cause.message : Cause → String
  | .unexpectedCharacter found => s!"unexpected character {Text.quoted found.toString}"
  | .unexpectedColon => "unexpected ':'"
  | .unterminatedString => "unterminated string"
  | .unterminatedInterpolation => "unterminated interpolation"
  | .unterminatedHeredoc => "unterminated heredoc"
  | .unterminatedSigil name => s!"unterminated sigil ~{name}"
  | .invalidSigilDelimiter found => s!"invalid sigil delimiter {Text.quoted found}"
  | .endOfFile => "unexpected end of file"
  | .endOfFileBefore wanted => s!"unexpected end of file, expected {Text.quoted wanted}"
  | .unexpected found => s!"unexpected {Text.quoted found}"
  | .unexpectedBefore found wanted =>
    s!"unexpected {Text.quoted found}, expected {Text.quoted wanted}"
  | .unexpectedAfterDot found => s!"unexpected {Text.quoted found} after '.'"
  | .unexpectedInStruct found => s!"unexpected {Text.quoted found} in struct"
  | .notAnIdentifier found => s!"unexpected {Text.quoted found}, expected identifier"
  | .invalidAliasSegment found => s!"invalid alias segment {Text.quoted found}"
  | .invalidStructName found => s!"invalid struct name {Text.quoted found}"
  | .invalidModuleSegment found => s!"invalid module segment {Text.quoted found}"
  | .expressionBeforeClause => "expression before clause head"
  | .numeral fault => fault.message
  | .nestingTooDeep => "expression nesting too deep"

/-- Reading a source text fails at a line, or gives up on literals nested in interpolations. -/
inductive Fault where
  | at (cause : Cause) (line : Nat)
  | literalsTooDeep
deriving DecidableEq, Repr

end Source

end BoundaryLint
