import BoundaryLint.Config.Fault

/-!
The configuration of a run. Values that are out of range are refused when a configuration is made,
before any file is read.
-/

namespace BoundaryLint

/-- The settings of one rule. What is not set is left to the rule. -/
structure RuleConfig where
  enabled : Bool := true
  severity : Option Severity := none
  exitStatus : Option Nat := none
  options : List (String × Value) := []
deriving Repr

namespace RuleConfig

def make (enabled : Bool) (severity : Option Severity) (exitStatus : Option Int)
    (options : List (String × Value)) : Except Config.Fault RuleConfig :=
  match exitStatus with
  | none => .ok ⟨enabled, severity, none, options⟩
  | some status =>
    if 0 ≤ status ∧ status ≤ 255 then .ok ⟨enabled, severity, some status.toNat, options⟩
    else .error ⟨"exit_status", .statusOutOfRange status⟩

def option (config : RuleConfig) (key : String) (default : Value) : Value :=
  (config.options.lookup key).getD default

end RuleConfig

structure Config where
  /-- The groups are tried in order. -/
  layerPatterns : PatternGroups
  included : List String
  excluded : List String
  rules : List (String × RuleConfig)
  /-- Issues below it do not count for the exit status. -/
  minSeverity : Severity
  workers : Nat
  excludedApps : List String
deriving Repr

namespace Config

def defaultIncluded : List String := ["**/*.ex", "**/*.exs"]

def defaultExcluded : List String :=
  ["_build/**", "deps/**", "**/_build/**", "**/deps/**", "**/node_modules/**"]

def default : Config :=
  ⟨defaultPatterns, defaultIncluded, defaultExcluded, [], .low, 1, []⟩

inductive RuleEntry where
  | settings (config : RuleConfig)
  | value (found : Value)

def checkPatterns [Host] (layer : Layer) : List String → Except Fault Unit
  | [] => .ok ()
  | pattern :: rest =>
    match Host.pattern pattern with
    | .ok _ => checkPatterns layer rest
    | .error reason => .error ⟨s!"layer_patterns.{layer.name}", .badPattern pattern reason⟩

/-- Refuses groups of the unknown layer and groups for one of the layers `seen` before. -/
def checkGroups [Host] (seen : List Layer) : PatternGroups → Except Fault Unit
  | [] => .ok ()
  | (layer, patterns) :: rest =>
    if layer = .unknown then .error ⟨"layer_patterns", .groupOfFallback⟩
    else if layer ∈ seen then .error ⟨"layer_patterns", .duplicateGroup layer⟩
    else do
      checkPatterns layer patterns
      checkGroups (layer :: seen) rest

def ruleSettings : String × RuleEntry → Except Fault (String × RuleConfig)
  | (id, .settings config) => .ok (id, config)
  | (id, .value found) => .error ⟨id, .notRuleSettings found.kind⟩

def make [Host] (layerPatterns : PatternGroups) (included excluded : List String)
    (rules : List (String × RuleEntry)) (minSeverity : Severity) (workers : Int)
    (excludedApps : List String) : Except Fault Config :=
  if workers < 1 then .error ⟨"workers", .tooFewWorkers workers⟩
  else do
    checkGroups [] layerPatterns
    let rules ← rules.mapM ruleSettings
    return ⟨layerPatterns, included, excluded, rules, minSeverity, workers.toNat,
      excludedApps.eraseDups.mergeSort⟩

def rule (config : Config) (id : String) : RuleConfig := (config.rules.lookup id).getD {}

def replaceRule (id : String) (settings : RuleConfig) :
    List (String × RuleConfig) → List (String × RuleConfig)
  | [] => [(id, settings)]
  | (other, kept) :: rest =>
    if other = id then (id, settings) :: rest else (other, kept) :: replaceRule id settings rest

def withRule (config : Config) (id : String) (settings : RuleConfig) : Config :=
  { config with rules := replaceRule id settings config.rules }

def override (config : Config) (minSeverity : Option Severity) (workers : Option Int) :
    Except Fault Config :=
  let config := { config with minSeverity := minSeverity.getD config.minSeverity }
  match workers with
  | none => .ok config
  | some count =>
    if count < 1 then .error ⟨"workers", .tooFewWorkers count⟩
    else .ok { config with workers := count.toNat }

def classifier [Host] (config : Config) : Except Fault Classifier :=
  (Classifier.ofPatterns Host.pattern config.layerPatterns).mapError fun fault =>
    ⟨s!"layer_patterns.{fault.layer.name}", .unreadablePattern fault.reason⟩

end Config

end BoundaryLint
