import BoundaryLint.Token.Basic

/-!
Binary operators: how strongly they bind, and to which side they associate.
-/

namespace BoundaryLint.Grammar

structure Binding where
  power : Nat
  rightAssociative : Bool
deriving DecidableEq, Repr

namespace Binding

def left (power : Nat) : Binding := ⟨power, false⟩

def right (power : Nat) : Binding := ⟨power, true⟩

def rightFloor (binding : Binding) : Nat :=
  if binding.rightAssociative then binding.power - 1 else binding.power

end Binding

def binaryOperators : List (String × Binding) :=
  [("\\\\", .right 10), ("<-", .left 20), ("when", .right 30), ("::", .right 40), ("|", .right 50),
    ("=>", .right 60), ("=", .right 70), ("||", .left 80), ("|||", .left 80), ("or", .left 80),
    ("&&", .left 90), ("&&&", .left 90), ("and", .left 90), ("==", .left 100), ("!=", .left 100),
    ("=~", .left 100), ("===", .left 100), ("!==", .left 100), ("<", .left 110), (">", .left 110),
    ("<=", .left 110), (">=", .left 110), ("|>", .left 120), ("<<<", .left 120), (">>>", .left 120),
    ("<<~", .left 120), ("~>>", .left 120), ("<~", .left 120), ("~>", .left 120),
    ("<~>", .left 120), ("in", .left 130), ("not in", .left 130), ("^^^", .left 140),
    ("++", .right 150), ("--", .right 150), ("..", .right 150), ("<>", .right 150),
    ("+++", .right 150), ("---", .right 150), ("//", .right 150), ("+", .left 160),
    ("-", .left 160), ("*", .left 170), ("/", .left 170), ("**", .right 175)]

def binding? (operator : String) : Option Binding := binaryOperators.lookup operator

/-- Operators that also stand before an operand, and so never continue the previous line. -/
def lineStarters : List String := ["-", "+", "!", "^", "&", "@", ".."]

def prefixOperators : List String := ["!", "^", "not", "-", "+"]

def prefixFloor : Nat := 180

def captureFloor : Nat := 65

/-- What operators in the first entry of a map must exceed, so that `|` is left to the map. -/
def mapUpdateFloor : Nat := 50

def binaryOperator? : List Token → Option (String × Binding × List Token)
  | [] => none
  | token :: rest =>
    if token.kind ≠ .operator then none
    else if token.newlineBefore ∧ token.text ∈ lineStarters then none
    else if token.text = "not" then
      match rest with
      | next :: after =>
        if next.is .operator "in" then
          (binding? "not in").map fun binding => ("not in", binding, after)
        else none
      | [] => none
    else (binding? token.text).map fun binding => (token.text, binding, rest)

end BoundaryLint.Grammar
