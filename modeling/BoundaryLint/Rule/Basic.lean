import BoundaryLint.Config.Basic
import BoundaryLint.Disk.Probe
import BoundaryLint.Issue
import BoundaryLint.Rule.Options
import BoundaryLint.Rule.Template
import BoundaryLint.SourceUnit

/-!
Rules over single files. A rule finds places in a file; its settings turn every finding into an
issue, so that file, severity and exit status of an issue never depend on how the rule looks for it.
-/

namespace BoundaryLint

structure Inspection where
  unit : SourceUnit
  probe : Probe
  options : Options

structure Finding where
  message : String
  line : Nat
  trigger : String
deriving DecidableEq, Repr

inductive RuleFault where
  | option (fault : Options.Fault)
  | template (fault : Template.Fault)
  | noUseCaseDirectory
deriving DecidableEq, Repr

structure Rule where
  id : String
  label : String
  family : Family
  category : Category := .design
  severity : Severity := .normal
  /-- The exit status, if it is not that of the category. -/
  exitStatus : Option Nat := none
  /-- The layers it looks at; all of them if none are given. -/
  layers : Option (List Layer) := none
  defaults : Options := []
  /-- Refuses options of the right kind with values that make no sense. -/
  validate : Options → Except Config.Cause Unit := fun _ => .ok ()
  /-- The files it looks at within its layers. -/
  appliesTo : Options → SourceUnit → Except RuleFault Bool := fun _ _ => .ok true
  inspect : [Host] → Inspection → Except RuleFault (List Finding) := fun _ => .ok []

structure ActiveRule where
  rule : Rule
  severity : Severity
  exitStatus : Nat
  options : Options

namespace Rule

def shown (rule : Rule) : String := s!"{rule.label}({Text.quoted rule.id})"

def activate (rule : Rule) (severity : Option Severity) (exitStatus : Option Nat)
    (values : List (String × Value)) : Except Config.Fault ActiveRule := do
  let options ← (Options.configure rule.defaults values).mapError (⟨rule.id, ·⟩)
  (rule.validate options).mapError (⟨rule.id, ·⟩)
  return ⟨rule, severity.getD rule.severity,
    exitStatus.getD (rule.exitStatus.getD rule.category.exitStatus), options⟩

def configure (rule : Rule) (config : RuleConfig) : Except Config.Fault (Option ActiveRule) :=
  if config.enabled then
    return some (← rule.activate config.severity config.exitStatus config.options)
  else .ok none

end Rule

namespace ActiveRule

/-- The rule looks at a file: its layer is one of those of the rule, and the rule applies to it. -/
def applicable (active : ActiveRule) (unit : SourceUnit) : Except RuleFault Bool :=
  match active.rule.layers with
  | none => active.rule.appliesTo active.options unit
  | some layers =>
    if layers.contains unit.layer then active.rule.appliesTo active.options unit else .ok false

def issue (active : ActiveRule) (file : String) (finding : Finding) : Issue where
  ruleId := active.rule.id
  message := finding.message
  file := file
  line := max finding.line 1
  trigger := finding.trigger
  severity := active.severity
  category := active.rule.category
  family := active.rule.family
  exitStatus := active.exitStatus

def check [Host] (active : ActiveRule) (unit : SourceUnit) (probe : Probe) :
    Except RuleFault (List Issue) := do
  let findings ← active.rule.inspect ⟨unit, probe, active.options⟩
  return findings.map (active.issue unit.path)

end ActiveRule

namespace RuleFault

def message : RuleFault → String
  | .option fault => fault.message
  | .template fault => fault.message
  | .noUseCaseDirectory => "tuple.index(x): x not in tuple"

end RuleFault

namespace Rule

def strings (options : Options) (key : String) : Except RuleFault (List String) :=
  (options.strings key).mapError .option

def listed (options : Options) (key : String) : Except RuleFault (List String) := do
  return (← (options.items key).mapError .option).map Value.plain

def textList (texts : List String) : Value := .tuple (texts.map .text)

def textTable (texts : List (String × String)) : Value :=
  .view (texts.map fun entry => (.text entry.1, .text entry.2))

def visiting (visit : Node → List Finding) (inspection : Inspection) :
    Except RuleFault (List Finding) :=
  .ok (inspection.unit.nodes.flatMap visit)

def visitingCalls (visit : Call → List Finding) : Inspection → Except RuleFault (List Finding) :=
  visiting fun node => (node.call?.map visit).getD []

end Rule

end BoundaryLint
