import BoundaryLint.Lint.Result
import BoundaryLint.Text.Lines

/-!
The result of a run as plain text.
-/

namespace BoundaryLint.Report

def ruler (c : Char) : String := String.ofList (List.replicate 70 c)

private def headerLines : List String := [ruler '=', "Architecture Lint Results", ruler '=']

private def summaryLines (result : LintResult) : List String :=
  ["", "Summary:", s!"  Files checked: {result.filesChecked}", s!"  Issues: {result.issues.length}"]
    ++ result.byRule.map (fun (id, count) => s!"    {id}: {count}")
    ++ [s!"  Exit status: {result.exitStatus}"]

def issueLines (number : Nat) (issue : Issue) : List String :=
  ["", s!"{number}. [{issue.severity.capitals}] {issue.ruleId} ({issue.category.name})",
    s!"   {issue.location}  trigger: {issue.trigger}"]
    ++ (Text.lines issue.message).map fun line => s!"   {line}"

private def numberedIssues (number : Nat) : List Issue → List String
  | [] => []
  | issue :: rest => issueLines number issue ++ numberedIssues (number + 1) rest

private def listLines (issues : List Issue) : List String :=
  if issues.isEmpty then []
  else
    ["", ruler '-', s!"Issues ({issues.length}):", ruler '-'] ++ numberedIssues 1 issues

private def footerLines (result : LintResult) : List String :=
  let status := if result.passed then "PASSED" else "FAILED"
  ["", ruler '=', s!"Result: {status}", ruler '=']

def plainLines (result : LintResult) : List String :=
  headerLines ++ summaryLines result ++ listLines result.issues ++ footerLines result

def plain (result : LintResult) : String :=
  String.join ((plainLines result).map fun line => s!"{line}\n")

end BoundaryLint.Report
