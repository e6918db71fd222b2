import BoundaryLint.Lint.Result
import BoundaryLint.Report.Markup
import BoundaryLint.Text.Split

/-!
The result of a run for a console: a table for every file, without its frames and colours.
-/

namespace BoundaryLint.Report

structure ConsoleOptions where
  showMessages : Bool := false
  /-- The number of issues to show; all of them if none is given. -/
  maxIssues : Option Nat := none
  width : Nat := 120
deriving DecidableEq, Repr

structure ConsoleFault where
  maxIssues : Int
deriving DecidableEq, Repr

def ConsoleFault.message (fault : ConsoleFault) : String :=
  s!"max_issues must be >= 0, got {fault.maxIssues}"

def ConsoleOptions.make (showMessages : Bool) (maxIssues : Option Int) (width : Nat) :
    Except ConsoleFault ConsoleOptions :=
  match maxIssues with
  | none => .ok ⟨showMessages, none, width⟩
  | some count =>
    if count < 0 then .error ⟨count⟩ else .ok ⟨showMessages, some count.toNat, width⟩

/-- The issues in groups of neighbours of one file. -/
def groupByFile : List Issue → List (String × List Issue)
  | [] => []
  | issue :: rest =>
    match groupByFile rest with
    | (file, issues) :: groups =>
      if file = issue.file then (file, issue :: issues) :: groups
      else (issue.file, [issue]) :: (file, issues) :: groups
    | [] => [(issue.file, [issue])]

def isConsoleControl (c : Char) : Bool :=
  let n := c.toNat
  n = 7 || n = 8 || (11 ≤ n && n ≤ 13)

def consoleText (text : String) : List String :=
  Text.split '\n' (String.ofList (text.toList.filter (!isConsoleControl ·)))

def fileLines (options : ConsoleOptions) (file : String) (issues : List Issue) : List String :=
  consoleText (shownText file) ++ ["Line Severity Rule Trigger"] ++
    issues.flatMap (fun issue =>
      let cells := [shownText issue.ruleId, shownText issue.trigger]
      consoleText (" ".intercalate (toString issue.line :: issue.severity.name :: cells))) ++
    if options.showMessages then
      issues.flatMap fun issue => consoleText s!"  {issue.line}: {issue.message}"
    else []

def consoleLines (options : ConsoleOptions) (result : LintResult) : List String :=
  let count := result.issues.length
  let shown := (options.maxIssues.map result.issues.take).getD result.issues
  ["ARCHITECTURE LINT", s!"Files: {result.filesChecked}  Issues: {count}"] ++
    (groupByFile shown).flatMap (fun group => fileLines options group.1 group.2) ++
    (if shown.length < count then [s!"... {count - shown.length} more issue(s) not shown"] else [])
    ++ [if result.passed then "PASSED" else s!"FAILED (exit status {result.exitStatus})"]

end BoundaryLint.Report
