import BoundaryLint.Issue

/-!
The result of a run: its issues in order, and the exit status that they give.
-/

namespace BoundaryLint

structure LintResult where
  /-- Ordered by file, line and rule. -/
  issues : List Issue
  exitStatus : Nat
  filesChecked : Nat
deriving DecidableEq, Repr

namespace LintResult

inductive Fault where
  | exitStatus (found : Int)
  | filesChecked (found : Int)
  | unordered
deriving DecidableEq, Repr

def Fault.message : Fault → String
  | .exitStatus found => s!"exit_status must be >= 0, got {found}"
  | .filesChecked found => s!"files_checked must be >= 0, got {found}"
  | .unordered => "issues must be ordered by (file, line, rule_id)"

def make (issues : List Issue) (exitStatus filesChecked : Int) : Except Fault LintResult :=
  if exitStatus < 0 then .error (.exitStatus exitStatus)
  else if filesChecked < 0 then .error (.filesChecked filesChecked)
  else if issues = Issue.sort issues then .ok ⟨issues, exitStatus.toNat, filesChecked.toNat⟩
  else .error .unordered

def ofIssues (minSeverity : Severity) (issues : List Issue) (filesChecked : Nat) : LintResult :=
  let sorted := Issue.sort issues
  ⟨sorted, Issue.worstStatus minSeverity sorted, filesChecked⟩

def empty : LintResult := ⟨[], 0, 0⟩

def passed (result : LintResult) : Bool := result.exitStatus = 0

def byRule (result : LintResult) : List (String × Nat) :=
  let ids := result.issues.map (·.ruleId)
  ids.eraseDups.mergeSort.map fun id => (id, ids.count id)

def forRule (result : LintResult) (id : String) : List Issue :=
  result.issues.filter (·.ruleId = id)

def violationText (issues : List Issue) : String :=
  "\n".intercalate (s!"Found {issues.length} architecture issue(s):" :: issues.map (·.toText))

inductive NoViolation where
  | noIssues
deriving DecidableEq, Repr

def NoViolation.message : NoViolation → String
  | .noIssues => "BoundaryViolationError requires at least one issue"

def violation (issues : List Issue) : Except NoViolation String :=
  if issues.isEmpty then .error .noIssues else .ok (violationText issues)

def violation? (result : LintResult) : Option (Except NoViolation String) :=
  if result.passed then none else some (violation result.issues)

end LintResult

end BoundaryLint
