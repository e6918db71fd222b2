import BoundaryLint.Boundary.Graph
import BoundaryLint.Grammar.Program
import BoundaryLint.Lint.Result

/-!
A run over a set of files. Every file is read, placed in a layer and checked on its own; the
boundaries are checked once all files are read. A file that cannot be read gives one issue and does
not stop the run.
-/

namespace BoundaryLint

namespace Lint

structure Engine where
  classifier : Classifier
  rules : List ActiveRule
  graph : Option Boundary.GraphOptions
  /-- The settings of the rule about files that cannot be read. -/
  parseError : RuleConfig
  minSeverity : Severity

/-- The engine of a configuration. All settings are checked here. -/
def Engine.ofConfig [Host] (config : Config) : Except Config.Fault Engine := do
  let rules ← Rule.configured config
  let graph ← Boundary.GraphOptions.configure config
  let classifier ← config.classifier
  return ⟨classifier, rules, graph, config.rule Rule.parseErrorId, config.minSeverity⟩

inductive Fault where
  | path (fault : PathFault)
  | literalsTooDeep
  | rule (fault : RuleFault)
  | module (fault : ModuleRef.Fault)
  | issue (fault : Issue.Fault)
deriving DecidableEq, Repr

def Fault.message : Fault → String
  | .path fault => fault.message
  | .literalsTooDeep => "strings are nested too deep"
  | .rule fault => fault.message
  | .module fault => fault.message
  | .issue fault => fault.message

/-- Why a file gives no unit: its text is refused, or the run stops. -/
inductive UnitFault where
  | source (cause : Source.Cause) (line : Nat)
  | stop (fault : Fault)

def readTree [Host] (path source : String) : Except UnitFault SyntaxTree :=
  match Grammar.parse source with
  | .error (.at cause line) => .error (.source cause line)
  | .error .literalsTooDeep => .error (.stop .literalsTooDeep)
  | .ok body => (SyntaxTree.make path body).mapError fun fault => .stop (.path fault)

def unitOfTree (classifier : Classifier) (tree : SyntaxTree) : SourceUnit :=
  ⟨tree, classifier.classify tree.path (tree.moduleName?.map (·.name)),
    Boundary.declaration? tree⟩

def analyze [Host] (classifier : Classifier) (path source : String) : Except UnitFault SourceUnit := do
  return unitOfTree classifier (← readTree path source)

def parseIssue (settings : RuleConfig) (path : String) (cause : Source.Cause) (line : Nat) :
    Except Issue.Fault Issue :=
  Issue.make Rule.parseErrorId
    s!"File could not be parsed: {cause.message}. No other checks ran for this file."
    path line "parse" (settings.severity.getD .higher) .warning .parsing
    (settings.exitStatus.getD Category.warning.exitStatus)

def applyRule [Host] (probe : Probe) (unit : SourceUnit) (active : ActiveRule) :
    Except RuleFault (List Issue) := do
  if ← active.applicable unit then active.check unit probe else return []

def checkFile [Host] (engine : Engine) (probe : Probe) (path source : String) :
    Except Fault (Option SourceUnit × List Issue) :=
  match analyze engine.classifier path source with
  | .error (.stop fault) => .error fault
  | .error (.source cause line) =>
    if engine.parseError.enabled then
      match parseIssue engine.parseError path cause line with
      | .ok issue => .ok (none, [issue])
      | .error fault => .error (.issue fault)
    else .ok (none, [])
  | .ok unit =>
    match engine.rules.mapM (applyRule probe unit) with
    | .ok issues => .ok (some unit, issues.flatten)
    | .error fault => .error (.rule fault)

def checkGraph (engine : Engine) (probe : Probe) (units : List SourceUnit) :
    Except Fault (List Issue) :=
  match engine.graph with
  | none => .ok []
  | some options => (Boundary.validate options probe units).mapError .module

def collect (engine : Engine) (probe : Probe)
    (outcomes : List (Option SourceUnit × List Issue)) : Except Fault LintResult := do
  let graphIssues ← checkGraph engine probe (outcomes.filterMap (·.1))
  return LintResult.ofIssues engine.minSeverity (outcomes.flatMap (·.2) ++ graphIssues)
    outcomes.length

def run [Host] (engine : Engine) (probe : Probe) (files : List (String × String)) :
    Except Fault LintResult := do
  let sorted := files.mergeSort fun a b => a.1 ≤ b.1
  collect engine probe (← sorted.mapM fun file => checkFile engine probe file.1 file.2)

end Lint

end BoundaryLint
