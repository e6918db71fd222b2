import BoundaryLint.Text.Casing
import BoundaryLint.Text.Quoted

/-!
Severities, ordered from low to higher.
-/

namespace BoundaryLint

inductive Severity where
  | low
  | normal
  | high
  | higher
deriving DecidableEq, Repr

namespace Severity

def all : List Severity := [.low, .normal, .high, .higher]

def name : Severity → String
  | .low => "low"
  | .normal => "normal"
  | .high => "high"
  | .higher => "higher"

def capitals : Severity → String
  | .low => "LOW"
  | .normal => "NORMAL"
  | .high => "HIGH"
  | .higher => "HIGHER"

def rank : Severity → Nat
  | .low => 1
  | .normal => 2
  | .high => 3
  | .higher => 4

def atLeast (severity threshold : Severity) : Bool := threshold.rank ≤ severity.rank

structure Unknown where
  text : String
deriving DecidableEq, Repr

def Unknown.message (unknown : Unknown) : String :=
  let known := ", ".intercalate (all.map name)
  s!"unknown severity {Text.quoted unknown.text}, expected one of: {known}"

def parse (text : String) : Except Unknown Severity :=
  match all.find? (·.capitals = Text.toUpper text) with
  | some severity => .ok severity
  | none => .error ⟨text⟩

end Severity

end BoundaryLint
