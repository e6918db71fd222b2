/-!
What a run takes from the machine that it is on: how deep it can follow what stands in each other, how long a text
may get, which regular expressions it knows, and what the members of a text are. Whatever is said about a run
holds on every host, unless it asks something of the host.
-/

namespace BoundaryLint

abbrev Reason := { words : String // words ≠ "" }

theorem append_ne_empty {first : String} (told : first ≠ "") (second : String) : first ++ second ≠ "" := by
  intro silent
  exact told (String.append_eq_empty_iff.mp silent).1

class Host where
  /-- How many interpolations and brackets in them may be open around each other in a literal. -/
  literalNesting : Nat
  /-- How many expressions may stand in each other. -/
  expressionNesting : Nat
  /-- How many lists and tables may stand in each other in a value that is written out. -/
  valueNesting : Nat
  /-- The length of the longest text. -/
  textLength : Nat
  /-- Reads a regular expression: the texts in which it matches somewhere. -/
  pattern (source : String) : Except Reason (String → Bool)
  /-- Follows a path from one of the members of a text, and converts what is found there. The result is written in
  a format. -/
  member (text path : String) (conversion : Option Char) : Except String (String → Except String String)

end BoundaryLint
