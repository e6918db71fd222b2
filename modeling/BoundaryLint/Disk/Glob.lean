import BoundaryLint.Text.Split

/-!
Patterns over whole paths. `*` stands for any run of characters, slashes included, `?` for one
character, and a set in brackets for one of its characters.
-/

namespace BoundaryLint.Glob

inductive Piece where
  | any
  | one
  | exactly (c : Char)
  | oneOf (negated : Bool) (ranges : List (Char × Char))
deriving DecidableEq, Repr

def ranges : List Char → List (Char × Char)
  | first :: '-' :: last :: rest => (first, last) :: ranges rest
  | c :: rest => (c, c) :: ranges rest
  | [] => []

/-- The characters of a set up to its closing bracket, and what follows it. A bracket at the start
of a set belongs to it. -/
def splitSet : List Char → Option (List Char × List Char)
  | '!' :: ']' :: rest => closeSet ['!', ']'] rest
  | '!' :: rest => closeSet ['!'] rest
  | ']' :: rest => closeSet [']'] rest
  | rest => closeSet [] rest
where
  closeSet (start : List Char) (rest : List Char) : Option (List Char × List Char) :=
    let inside := rest.takeWhile (· ≠ ']')
    if inside.length < rest.length then
      some (start ++ inside, rest.drop (inside.length + 1))
    else none

def setPiece : List Char → Piece
  | '!' :: chars => .oneOf true (ranges chars)
  | chars => .oneOf false (ranges chars)

/-- The pieces of a pattern. A bracket that is not closed stands for itself. -/
def pieces (chars : List Char) : List Piece :=
  match chars with
  | [] => []
  | '*' :: rest => .any :: pieces rest
  | '?' :: rest => .one :: pieces rest
  | '[' :: rest =>
    match splitSet rest with
    | some (set, after) =>
      if after.length < rest.length then setPiece set :: pieces after
      else .exactly '[' :: pieces rest
    | none => .exactly '[' :: pieces rest
  | c :: rest => .exactly c :: pieces rest
termination_by chars.length
decreasing_by all_goals simp only [List.length_cons]; omega

def Piece.takes (piece : Piece) (c : Char) : Bool :=
  match piece with
  | .any => false
  | .one => true
  | .exactly wanted => c = wanted
  | .oneOf negated ranges => (ranges.any fun (low, high) => low ≤ c && c ≤ high) != negated

def matchPieces : List Piece → List Char → Bool
  | [], text => text.isEmpty
  | .any :: rest, [] => matchPieces rest []
  | .any :: rest, c :: text => matchPieces rest (c :: text) || matchPieces (.any :: rest) text
  | _ :: _, [] => false
  | piece :: rest, c :: text => piece.takes c && matchPieces rest text

def matchesWhole (path pattern : String) : Bool := matchPieces (pieces pattern.toList) path.toList

/-- A pattern matches a path of a project; `**/` at its start may also stand for nothing. -/
def matchesPath (path pattern : String) : Bool :=
  matchesWhole path pattern ||
    (Text.startsWith pattern "**/" && matchesWhole path (String.ofList (pattern.toList.drop 3)))

end BoundaryLint.Glob
