import BoundaryLint.Path.Project
import BoundaryLint.Rule.Basic

/-!
The layer of a module shows in its path. A file in the wrong place is told where to go, in its own
app and context.
-/

namespace BoundaryLint.Rule

def contextFile? (path : String) : Option ProjectPath :=
  if Path.isTest path || !Text.endsWith path ".ex" then none
  else (ProjectPath.locate? path).filter fun project =>
    !project.isTopLevel && !Path.hasSuffix project.app ["_web"]

/-- The path of a file in a directory of its context. The layer directories of an app belong to no
context. -/
def relocated (project : ProjectPath) (directory file : String) : String :=
  let context := if Path.layerDirectories.contains project.context then "" else project.context
  project.base ++ Path.join [context, directory, file]

def misplaced (headline destination trigger : String) : Finding where
  message := s!"{headline}\n  Move to: {destination}"
  line := 1
  trigger := trigger

def servicesHeadline : String :=
  "Service/notifier in wrong layer.\n" ++
    "  Application services (orchestration) -> application/services/\n" ++
    "  Infrastructure notifiers (I/O) -> infrastructure/notifiers/"

def ambiguousService (service notifier : String) : Finding where
  message := "Ambiguous service file location. Decide which layer this module belongs to.\n" ++
    s!"  Orchestration: {service}\n" ++
    s!"  External I/O: {notifier}"
  line := 1
  trigger := "Ambiguous service file location"

def servicePlacement (project : ProjectPath) (path name : String) : List Finding :=
  let service := relocated project "application/services" name
  let notifier := relocated project "infrastructure/notifiers" name
  if Text.endsWith name "_service.ex" then
    if Text.contains path "/application/services/" then []
    else [misplaced servicesHeadline service "Application service not in application/services/"]
  else if Text.endsWith name "_notifier.ex" then
    if Text.contains path "/infrastructure/notifiers/" then []
    else
      [misplaced servicesHeadline notifier
        "Infrastructure notifier not in infrastructure/notifiers/"]
  else if project.parts[1]? = some "services" then [ambiguousService service notifier]
  else []

/-- Services belong to the application, notifiers to the infrastructure. -/
def servicesInCorrectLayer : Rule where
  id := "services_in_correct_layer"
  label := "ServicesInCorrectLayer"
  family := .structuralPlacement
  severity := .high
  defaults := [("exempt_files", textList ["user_notifier.ex"])]
  appliesTo options unit :=
    match contextFile? unit.path with
    | none => .ok false
    | some project => do
      let exempt ← listed options "exempt_files"
      return !exempt.contains unit.filename &&
        (Path.hasSuffix unit.filename ["_service.ex", "_notifier.ex"] ||
          Text.contains project.rest "services/")
  inspect inspection :=
    match ProjectPath.locate? inspection.unit.path with
    | none => .ok []
    | some project =>
      .ok (servicePlacement project inspection.unit.path inspection.unit.filename)

/-- A file name with one of the given endings; a line break may follow. -/
def endsFile (file : String) (endings : List String) : Bool :=
  endings.any fun ending => Text.endsWith file ending || Text.endsWith file s!"{ending}\n"

def infrastructureKind? (file : String) : Option (String × String) :=
  if endsFile file ["_repository.ex"] then some ("repositories", "Repository")
  else if endsFile file ["queries.ex", "querie.ex"] then some ("queries", "Queries module")
  else if endsFile file ["_notifier.ex"] then some ("notifiers", "Notifier")
  else if endsFile file ["_subscriber.ex"] then some ("subscribers", "Subscriber")
  else none

def infrastructureOrganization : Rule where
  id := "infrastructure_organization"
  label := "InfrastructureOrganization"
  family := .structuralPlacement
  appliesTo _ unit :=
    .ok (!Path.isTest unit.path && Text.endsWith unit.path ".ex" &&
      ((ProjectPath.locate? unit.path).any fun project => !Path.hasSuffix project.app ["_web"]) &&
      (infrastructureKind? unit.filename).isSome)
  inspect inspection :=
    let unit := inspection.unit
    match ProjectPath.locate? unit.path, infrastructureKind? unit.filename with
    | some project, some (directory, label) =>
      if Text.contains unit.path s!"/infrastructure/{directory}/{unit.filename}" then .ok []
      else
        .ok [misplaced
          ("Infrastructure file not properly organized. " ++
            "Group infrastructure modules by responsibility under infrastructure/.")
          (relocated project s!"infrastructure/{directory}" unit.filename)
          s!"{label} not in infrastructure/{directory}/"]
    | _, _ => .ok []

def partsAfter? (name : String) : List String → Option (List String)
  | [] => none
  | part :: rest => if part = name then some rest else partsAfter? name rest

def useCasesInApplicationLayer : Rule where
  id := "use_cases_in_application_layer"
  label := "UseCasesInApplicationLayer"
  family := .structuralPlacement
  appliesTo _ unit :=
    .ok ((contextFile? unit.path).any (·.parts.dropLast.contains "use_cases"))
  inspect inspection :=
    let path := inspection.unit.path
    match ProjectPath.locate? path with
    | none => .ok []
    | some project =>
      if Text.contains path "/application/use_cases/" then .ok []
      else
        match partsAfter? "use_cases" project.parts with
        | none => .error .noUseCaseDirectory
        | some below =>
          .ok [misplaced
            ("Use case not in application layer. Use cases orchestrate domain logic " ++
              "and belong to the application layer.")
            (relocated project "application/use_cases" (Path.ofComponents below))
            "Use case not in application/use_cases/"]

/-- Policies live in the domain when they are pure, else in the application. -/
def policiesInCorrectLayer : Rule where
  id := "policies_in_correct_layer"
  label := "PoliciesInCorrectLayer"
  family := .structuralPlacement
  appliesTo _ unit :=
    .ok ((contextFile? unit.path).any fun project =>
      Text.endsWith unit.filename "_policy.ex" || project.parts.dropLast.contains "policies")
  inspect inspection :=
    let unit := inspection.unit
    match ProjectPath.locate? unit.path with
    | none => .ok []
    | some project =>
      if Path.containsAny unit.path ["/domain/policies/", "/application/policies/"] then .ok []
      else
        .ok [misplaced
          ("Policy not in a policies layer directory. Pure business rules belong in " ++
            "domain/policies/, authorization orchestration in application/policies/.")
          (relocated project "domain/policies" unit.filename)
          "Policy not in domain/policies/ or application/policies/"]

end BoundaryLint.Rule
