import BoundaryLint.Boundary.Context
import BoundaryLint.Disk.Probe
import BoundaryLint.Rule.Catalog

/-!
The Dependency Rule over declared boundaries. A domain declares nothing; an application may depend
on the domain of its context, an infrastructure also on the application. A context without a domain
file of its own may use the domains of the contexts around it.
-/

namespace BoundaryLint.Boundary

structure GraphOptions where
  /-- Apps that are not checked. -/
  excludedApps : List String := []
  /-- Endings of the names of apps that are not checked. -/
  skipSuffixes : List String := ["_web", "_tools"]
  /-- Modules that may be depended on, with everything below them. -/
  ignoredDeps : List String := []
  severity : Severity := .higher
  exitStatus : Nat := 2
deriving Repr

def graphOptionKeys : List String := ["ignored_deps", "skip_suffixes"]

/-- The texts of an option of the check; items that are no texts are written out. -/
def readGraphOption [Host] (values : List (String × Value)) (key : String) (default : List String) :
    Except Config.Fault (List String) :=
  match values.lookup key with
  | none => .ok default
  | some (.list items) | some (.tuple items) =>
    match items.findSome? Value.unwritable? with
    | some reason => .error ⟨Rule.boundaryDepsId, .unwritableItem reason⟩
    | none => .ok (items.map Value.plain)
  | some _ => .error ⟨Rule.boundaryDepsId, .optionNotStrings key⟩

def GraphOptions.configure [Host] (config : Config) : Except Config.Fault (Option GraphOptions) :=
  let settings := config.rule Rule.boundaryDepsId
  if !settings.enabled then .ok none
  else
    let unknown := (settings.options.map (·.1)).filter (!graphOptionKeys.contains ·)
    match unknown.mergeSort.head? with
    | some key => .error ⟨Rule.boundaryDepsId, .unknownOption key⟩
    | none => do
      let ignoredDeps ← readGraphOption settings.options "ignored_deps" []
      let skipSuffixes ← readGraphOption settings.options "skip_suffixes" ["_web", "_tools"]
      return some ⟨config.excludedApps, skipSuffixes, ignoredDeps,
        settings.severity.getD .higher, settings.exitStatus.getD 2⟩

def inScope (options : GraphOptions) (path : String) : Bool :=
  !Path.isTest path &&
    (Path.appName? path).all fun app =>
      !options.excludedApps.contains app && !Path.hasSuffix app options.skipSuffixes

def Context.hasFile (context : Context) (probe : Probe) (file : String) : Bool :=
  context.located && probe.exists? (context.sibling file)

def isIgnored (options : GraphOptions) (dep : ModuleRef) : Bool :=
  options.ignoredDeps.any fun ignored =>
    dep.name = ignored || Text.startsWith dep.name s!"{ignored}."

def Context.allowed (context : Context) (probe : Probe) : List ModuleRef :=
  let outer := if context.hasFile probe "domain.ex" then [] else context.ancestorDomains
  match context.layer with
  | .application => context.domain :: outer
  | .infrastructure => context.domain :: context.applications ++ outer
  | _ => []

/-- The application boundary of the context that exists on disk. Directly in the app directory,
`application.ex` is the module that starts the app and no boundary. -/
def Context.applicationOnDisk? (context : Context) (probe : Probe) : Option ModuleRef :=
  if context.hasFile probe "application_layer.ex" then some context.applicationLayer
  else if (ProjectPath.locate? (context.sibling "application.ex")).any (!·.isTopLevel) &&
      context.hasFile probe "application.ex" then
    some context.application
  else none

inductive Violation where
  /-- A domain has dependencies. -/
  | domainDeps (domain : ModuleRef) (deps : List ModuleRef)
  /-- A dependency does not point inward. -/
  | forbidden (layer : Layer) (module dep : ModuleRef) (allowed : List ModuleRef)
  /-- The domain of the context is not declared. -/
  | missingDomain (layer : Layer) (domain : ModuleRef)
  /-- The application of the context is not declared. -/
  | missingApplication (application : ModuleRef)
deriving DecidableEq, Repr

namespace Violation

private def names (refs : List ModuleRef) : String := ", ".intercalate (refs.map (·.name))

def message : Violation → String
  | .domainDeps domain deps =>
    s!"Domain layer `{domain.name}` must have `deps: []` but has deps: [{names deps}]. " ++
      "Domain layer cannot depend on any other layers."
  | .forbidden layer module dep allowed =>
    let expected := if allowed.isEmpty then "none" else names (ModuleRef.sortDistinct allowed)
    s!"{layer.title} layer `{module.name}` cannot depend on `{dep.name}`. " ++
      s!"Allowed deps: [{expected}]. Dependencies must point inward " ++
      "(Infrastructure -> Application -> Domain)."
  | .missingDomain layer domain =>
    s!"{layer.title} layer must depend on Domain layer. Add `{domain.name}` to deps."
  | .missingApplication application =>
    s!"Infrastructure layer must depend on Application layer. Add `{application.name}` to deps."

def trigger : Violation → String
  | .forbidden _ _ dep _ => dep.name
  | _ => "deps"

end Violation

/-- The dependencies that a boundary lacks, if nothing it declares is forbidden. -/
def missing (probe : Probe) (context : Context) (deps : List ModuleRef) : List Violation :=
  let domain :=
    if !deps.contains context.domain && context.hasFile probe "domain.ex" then
      [Violation.missingDomain context.layer context.domain]
    else []
  let application :=
    if context.layer = .infrastructure && !context.applications.any deps.contains then
      (context.applicationOnDisk? probe).toList.map Violation.missingApplication
    else []
  domain ++ application

def violations (options : GraphOptions) (probe : Probe) (context : Context)
    (declaration : Declaration) : List Violation :=
  let deps := declaration.deps.filter (!isIgnored options ·)
  if context.layer = .domain then
    if deps.isEmpty then [] else [.domainDeps context.domain deps]
  else
    let allowed := context.allowed probe
    let forbidden := deps.filter (!allowed.contains ·)
    if forbidden.isEmpty then missing probe context deps
    else forbidden.map fun dep => .forbidden context.layer declaration.module dep allowed

def violationIssue (options : GraphOptions) (unit : SourceUnit) (declaration : Declaration)
    (violation : Violation) : Issue where
  ruleId := Rule.boundaryDepsId
  message := violation.message
  file := unit.path
  line := declaration.line
  trigger := violation.trigger
  severity := options.severity
  category := .design
  family := .dependencyRule
  exitStatus := options.exitStatus

def validateUnit (options : GraphOptions) (probe : Probe) (unit : SourceUnit) :
    Except ModuleRef.Fault (List Issue) :=
  match unit.declaration with
  | none => .ok []
  | some declaration =>
    if inScope options unit.path then do
      match ← resolve unit declaration.module with
      | none => return []
      | some context =>
        if context.layer.isConstrained then
          return (violations options probe context declaration).map
            (violationIssue options unit declaration)
        else return []
    else .ok []

def validate (options : GraphOptions) (probe : Probe) (units : List SourceUnit) :
    Except ModuleRef.Fault (List Issue) := do
  return (← units.mapM (validateUnit options probe)).flatten

end BoundaryLint.Boundary
