import BoundaryLint.Grammar.Expression
import BoundaryLint.Token.Stream

/-!
Whole source texts: the top-level nodes of a file, or the fault that refuses it.
-/

namespace BoundaryLint.Grammar

/-- The top-level nodes of a row of tokens. A fault without a line lies at the last token. -/
def program (depth : Nat) (tokens : List Token) : Except Source.Fault (List Node) :=
  match body (expression depth) [] tokens with
  | .ok (nodes, _) => .ok nodes
  | .error fault =>
    let last := (tokens.getLast?.map (·.line)).getD 1
    .error (.at fault.cause (fault.line?.getD last))

def parse [Host] (source : String) : Except Source.Fault (List Node) := do
  program Host.expressionNesting (← Token.scan source)

end BoundaryLint.Grammar
