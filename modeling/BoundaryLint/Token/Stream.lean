import BoundaryLint.Token.Progress

/-!
The tokens of a whole source text.
-/

namespace BoundaryLint.Token

def scanFrom [Host] (line : Nat) (chars : List Char) : Except Source.Fault (List Token) :=
  match skipped : skipGap false Gap.none line chars with
  | ⟨_, _, []⟩ => .ok []
  | ⟨gap, here, c :: rest⟩ =>
    match scanned : scanToken here c rest with
    | .error fault => .error fault
    | .ok lexeme =>
      have _shorter := rest_lt_of_scan skipped scanned
      match scanFrom lexeme.line lexeme.rest with
      | .error fault => .error fault
      | .ok tokens => .ok (⟨lexeme.kind, lexeme.text, here, gap.space, gap.newline⟩ :: tokens)
termination_by chars.length

def scan [Host] (source : String) : Except Source.Fault (List Token) :=
  scanFrom 1 (unifyBreaks source.toList)

end BoundaryLint.Token
