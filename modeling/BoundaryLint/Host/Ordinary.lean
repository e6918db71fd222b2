import BoundaryLint.Pattern.Parser

/-!
A host as programs are commonly run on: it follows what people write by hand, holds texts of any length that they
would ask for, and reads plain regular expressions. The members of a text are not among what it knows.
-/

namespace BoundaryLint

def Host.firstMember (path : String) : String :=
  String.ofList (path.toList.takeWhile fun c => c ≠ '.' && c ≠ '[')

@[reducible] def Host.ordinary : Host where
  literalNesting := 800
  expressionNesting := 400
  valueNesting := 950
  textLength := 0x10000000000
  pattern := Pattern.read
  member _ path _ := .error s!"'str' object has no attribute {Text.quoted (firstMember path)}"

end BoundaryLint
