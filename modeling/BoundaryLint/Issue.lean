import BoundaryLint.Location
import BoundaryLint.Severity

/-!
Issues: what a rule reports about a place in a file.
-/

namespace BoundaryLint

inductive Category where
  | design
  | warning
deriving DecidableEq, Repr

namespace Category

def name : Category → String
  | .design => "design"
  | .warning => "warning"

def ofName? (text : String) : Option Category := [design, warning].find? (·.name = text)

/-- The exit status of rules that set none. -/
def exitStatus : Category → Nat
  | .design => 2
  | .warning => 16

end Category

inductive Family where
  | layerLeakage
  | delegationBypass
  | boundaryCrossing
  | structuralPlacement
  | dependencyRule
  | parsing
deriving DecidableEq, Repr

namespace Family

def all : List Family :=
  [.layerLeakage, .delegationBypass, .boundaryCrossing, .structuralPlacement, .dependencyRule,
    .parsing]

def name : Family → String
  | .layerLeakage => "layer_leakage"
  | .delegationBypass => "delegation_bypass"
  | .boundaryCrossing => "boundary_crossing"
  | .structuralPlacement => "structural_placement"
  | .dependencyRule => "dependency_rule"
  | .parsing => "parsing"

def capitals : Family → String
  | .layerLeakage => "LAYER_LEAKAGE"
  | .delegationBypass => "DELEGATION_BYPASS"
  | .boundaryCrossing => "BOUNDARY_CROSSING"
  | .structuralPlacement => "STRUCTURAL_PLACEMENT"
  | .dependencyRule => "DEPENDENCY_RULE"
  | .parsing => "PARSING"

def ofName? (text : String) : Option Family := all.find? (·.name = text)

end Family

structure Issue where
  ruleId : String
  message : String
  file : String
  line : Nat
  trigger : String
  severity : Severity
  category : Category
  family : Family
  exitStatus : Nat
deriving DecidableEq, Repr

namespace Issue

inductive Fault where
  | emptyRuleId
  | emptyMessage
  | emptyFile
  | line (found : Int)
  | exitStatus (found : Int)
deriving DecidableEq, Repr

def Fault.message : Fault → String
  | .emptyRuleId => "rule_id must not be empty"
  | .emptyMessage => "message must not be empty"
  | .emptyFile => "file must not be empty"
  | .line found => s!"line must be >= 1, got {found}"
  | .exitStatus found => s!"exit_status must be >= 0, got {found}"

def make (ruleId message file : String) (line : Int) (trigger : String) (severity : Severity)
    (category : Category) (family : Family) (exitStatus : Int) : Except Fault Issue :=
  if ruleId = "" then .error .emptyRuleId
  else if message = "" then .error .emptyMessage
  else if file = "" then .error .emptyFile
  else if line < 1 then .error (.line line)
  else if exitStatus < 0 then .error (.exitStatus exitStatus)
  else .ok ⟨ruleId, message, file, line.toNat, trigger, severity, category, family,
    exitStatus.toNat⟩

def location (issue : Issue) : Location := ⟨issue.file, issue.line⟩

/-- Issues are ordered by file, then by line, then by rule. -/
def le (a b : Issue) : Bool :=
  if a.file = b.file then
    if a.line = b.line then a.ruleId ≤ b.ruleId else a.line < b.line
  else a.file < b.file

def toText (issue : Issue) : String :=
  s!"[{issue.severity.capitals}] {issue.ruleId} {issue.location} ({issue.trigger}): {issue.message}"

def sort (issues : List Issue) : List Issue := issues.mergeSort le

def worstStatus (threshold : Severity) (issues : List Issue) : Nat :=
  (issues.filter (·.severity.atLeast threshold)).foldl
    (fun worst issue => max worst issue.exitStatus) 0

end Issue

end BoundaryLint
