import BoundaryLint.Config.Basic
import BoundaryLint.Config.Datum

/-!
The section of a document that holds the configuration. Every key is checked, so that a wrong name
fails the run before any file is read.
-/

namespace BoundaryLint.Config

def sectionKeys : List String :=
  ["include", "exclude", "layers", "rules", "min_severity", "workers", "excluded_apps"]

def ruleKeys : List String := ["enabled", "severity", "exit_status"]

def readStrings (entries : List (String × Datum)) (key : String) (default : List String) :
    Except Fault (List String) :=
  match entries.lookup key with
  | none | some .null => .ok default
  | some value =>
    match value.texts? with
    | some texts => .ok texts
    | none => .error ⟨key, .notStrings⟩

def readInteger (entries : List (String × Datum)) (key : String) (default : Int) :
    Except Fault Int :=
  match entries.lookup key with
  | none => .ok default
  | some (.integer value) => .ok value
  | some found => .error ⟨key, .notInteger found.toValue⟩

def readSeverity (subject : String) : Datum → Except Fault Severity
  | .text name => (Severity.parse name).mapError fun unknown => ⟨subject, .unknownSeverity unknown⟩
  | found => .error ⟨subject, .notSeverity found.toValue⟩

def readOverrides (entries : List (String × Datum)) :
    List (String × Datum) → Except Fault PatternGroups
  | [] => .ok []
  | (name, _) :: rest =>
    match Layer.ofName? name with
    | none => .error ⟨"layers", .unknownLayer name⟩
    | some .unknown => .error ⟨"layers", .patternsOfFallback⟩
    | some layer => do
      let patterns ← readStrings entries name []
      return (layer, patterns) :: (← readOverrides entries rest)

def readLayers : Option Datum → Except Fault PatternGroups
  | none | some .null => .ok defaultPatterns
  | some (.table entries) => do
    let overrides ← readOverrides entries entries
    return defaultPatterns.map fun (layer, patterns) =>
      (layer, (overrides.lookup layer).getD patterns)
  | some _ => .error ⟨"layers", .notTable⟩

def readEnabled (id : String) (entries : List (String × Datum)) : Except Fault Bool :=
  match entries.lookup "enabled" with
  | none => .ok true
  | some (.boolean enabled) => .ok enabled
  | some _ => .error ⟨id, .enabledNotBoolean⟩

def readStatus (id : String) (entries : List (String × Datum)) : Except Fault (Option Int) :=
  match entries.lookup "exit_status" with
  | none | some .null => .ok none
  | some (.integer status) => .ok (some status)
  | some _ => .error ⟨id, .statusNotInteger⟩

def readRuleSeverity (id : String) (entries : List (String × Datum)) :
    Except Fault (Option Severity) :=
  match entries.lookup "severity" with
  | none | some .null => .ok none
  | some value => return some (← readSeverity s!"{id}.severity" value)

def readRule (id : String) : Datum → Except Fault RuleConfig
  | .boolean enabled => .ok { enabled }
  | .table entries => do
    let enabled ← readEnabled id entries
    let status ← readStatus id entries
    let severity ← readRuleSeverity id entries
    let options := entries.filter fun entry => !ruleKeys.contains entry.1
    RuleConfig.make enabled severity status (options.map fun (key, datum) => (key, datum.toValue))
  | _ => .error ⟨id, .notTableOrBoolean⟩

def readRules : Option Datum → Except Fault (List (String × Datum))
  | none => .ok []
  | some (.table entries) => .ok entries
  | some _ => .error ⟨"rules", .notTable⟩

def ofSection [Host] : Datum → Except Fault Config
  | .table entries =>
    let unknown := (entries.map (·.1)).filter (!sectionKeys.contains ·)
    match unknown.mergeSort.head? with
    | some key => .error ⟨"tool.layerguard", .unknownKey key⟩
    | none => do
      let ruleEntries ← readRules (entries.lookup "rules")
      let layerPatterns ← readLayers (entries.lookup "layers")
      let included ← readStrings entries "include" defaultIncluded
      let excluded ← readStrings entries "exclude" defaultExcluded
      let rules ← ruleEntries.mapM fun (id, value) => do
        return (id, RuleEntry.settings (← readRule id value))
      let minSeverity ←
        readSeverity "min_severity" ((entries.lookup "min_severity").getD (.text Severity.low.name))
      let workers ← readInteger entries "workers" 1
      let excludedApps ← readStrings entries "excluded_apps" []
      make layerPatterns included excluded rules minSeverity workers excludedApps
  | _ => .error ⟨"tool.layerguard", .notTable⟩

end BoundaryLint.Config
