import BoundaryLint.Text.Casing
import BoundaryLint.Text.Digit
import BoundaryLint.Text.Split

/-!
Regular expressions and where they match. A match is given by its end: `ends` lists the positions
where a match from a given position can end. `search` asks whether there is a match anywhere, so
marks that only choose between matches have no effect.
-/

namespace BoundaryLint.Pattern

inductive ClassItem where
  | char (c : Char)
  | range (first last : Char)
  | digit (negated : Bool)
  | word (negated : Bool)
  | space (negated : Bool)
deriving DecidableEq, Repr

def ClassItem.holds (c : Char) : ClassItem → Bool
  | .char d => c = d
  | .range first last => first ≤ c && c ≤ last
  | .digit negated => (Text.decimalValue? c).isSome != negated
  | .word negated => Text.isWordChar c != negated
  | .space negated => Text.isSpace c != negated

def caseForms (c : Char) : List Char :=
  let lower := match Text.lowerChar c with
    | [d] => d
    | _ => c
  let upper := match Text.upperChar c with
    | [d] => d
    | _ => c
  let lowerOfUpper := match Text.lowerChar upper with
    | [d] => d
    | _ => upper
  [c, lower, upper, lowerOfUpper]

inductive Anchor where
  | textStart
  | textEnd
  /-- The end, or the last line break at the end. -/
  | finalEnd
  | lineStart
  | lineEnd
  | wordEdge (negated : Bool)
deriving DecidableEq, Repr

inductive Regex where
  | empty
  | one (negated : Bool) (items : List ClassItem) (ignoreCase : Bool)
  | any (lineBreaks : Bool)
  | anchor (anchor : Anchor)
  | seq (first second : Regex)
  | alt (first second : Regex)
  | rounds (body : Regex) (least : Nat) (most : Option Nat)
deriving DecidableEq, Repr

/-- A position in a text: what stands before it, nearest first, and after it. -/
structure Cursor where
  before : List Char
  after : List Char
deriving DecidableEq, Repr

namespace Cursor

def startsWord (cursor : Cursor) : Bool := cursor.after.head?.any Text.isWordChar

def endsWord (cursor : Cursor) : Bool := cursor.before.head?.any Text.isWordChar

def satisfies (cursor : Cursor) : Anchor → Bool
  | .textStart => cursor.before.isEmpty
  | .textEnd => cursor.after.isEmpty
  | .finalEnd => cursor.after.isEmpty || cursor.after = ['\n']
  | .lineStart => cursor.before.isEmpty || cursor.before.head? = some '\n'
  | .lineEnd => cursor.after.isEmpty || cursor.after.head? = some '\n'
  | .wordEdge negated => (cursor.startsWord != cursor.endsWord) != negated

def step (test : Char → Bool) (cursor : Cursor) : List Cursor :=
  match cursor.after with
  | [] => []
  | c :: rest => if test c then [⟨c :: cursor.before, rest⟩] else []

def samePlace (a b : Cursor) : Bool := a.after.length = b.after.length

def distinct : List Cursor → List Cursor
  | [] => []
  | cursor :: rest => cursor :: (distinct rest).filter (!samePlace cursor ·)

end Cursor

def classHolds (negated : Bool) (items : List ClassItem) (ignoreCase : Bool) (c : Char) : Bool :=
  let forms := if ignoreCase then caseForms c else [c]
  (forms.any fun form => items.any (·.holds form)) != negated

def exactly (body : Cursor → List Cursor) : Nat → List Cursor → List Cursor
  | 0, cursors => cursors
  | count + 1, cursors => exactly body count (Cursor.distinct (cursors.flatMap body))

/-- Where at most `count` rounds lead: the positions `found` so far, and those one round after the
`latest` ones. -/
def atMost (body : Cursor → List Cursor) : Nat → List Cursor → List Cursor → List Cursor
  | 0, _, found => found
  | count + 1, latest, found =>
    let fresh := (Cursor.distinct (latest.flatMap body)).filter fun cursor =>
      !found.any (Cursor.samePlace cursor)
    if fresh.isEmpty then found else atMost body count fresh (found ++ fresh)

def ends : Regex → Cursor → List Cursor
  | .empty, cursor => [cursor]
  | .one negated items ignoreCase, cursor => cursor.step (classHolds negated items ignoreCase)
  | .any lineBreaks, cursor => cursor.step fun c => lineBreaks || c != '\n'
  | .anchor anchor, cursor => if cursor.satisfies anchor then [cursor] else []
  | .seq first second, cursor => (ends first cursor).flatMap (ends second)
  | .alt first second, cursor => ends first cursor ++ ends second cursor
  | .rounds body least most, cursor =>
    let start := exactly (ends body) least [cursor]
    let extra := match most with
      | some most => most - least
      | none => cursor.after.length
    atMost (ends body) extra start start

def searchFrom (regex : Regex) (before : List Char) : List Char → Bool
  | [] => !(ends regex ⟨before, []⟩).isEmpty
  | c :: rest => !(ends regex ⟨before, c :: rest⟩).isEmpty || searchFrom regex (c :: before) rest

def search (regex : Regex) (text : String) : Bool := searchFrom regex [] text.toList

end BoundaryLint.Pattern
