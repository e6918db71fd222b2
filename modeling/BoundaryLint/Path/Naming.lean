import BoundaryLint.Text.Casing
import BoundaryLint.Text.Split

/-!
Names of files and directories and the module segments that belong to them.
-/

namespace BoundaryLint.Path

def capitalizePart : List Char → List Char
  | [] => []
  | c :: rest => Text.upperChar c ++ rest

def camelize (name : String) : String :=
  String.ofList ((Text.splitChars '_' name.toList).flatMap capitalizePart)

/-- A word starts between two characters: after a small letter or digit, or at the last of several
capitals. -/
def isWordStart (previous current : Char) (following : Option Char) : Bool :=
  current.isUpper &&
    (previous.isLower || previous.isDigit ||
      (previous.isUpper && following.any (·.isLower)))

/-- Puts an underscore before every word that starts after `previous`. -/
def separateWords (previous : Char) : List Char → List Char
  | [] => []
  | c :: rest =>
    if isWordStart previous c rest.head? then '_' :: c :: separateWords c rest
    else c :: separateWords c rest

def underscore (name : String) : String :=
  match name.toList with
  | [] => ""
  | c :: rest => Text.toLower (String.ofList (c :: separateWords c rest))

end BoundaryLint.Path
