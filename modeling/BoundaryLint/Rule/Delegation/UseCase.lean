import BoundaryLint.Rule.Basic
import BoundaryLint.Rule.Capability

/-!
Use cases orchestrate. They leave persistence to repository modules, receive the file system from
their caller, and their private helpers receive the infrastructure.
-/

namespace BoundaryLint.Rule

def isUseCase (unit : SourceUnit) : Bool :=
  Text.contains unit.path "/application/use_cases/" && !Path.isTest unit.path

def isRepoName (ref : ModuleRef) : Bool := ref.name = "Repo" || Text.endsWith ref.name ".Repo"

def useCaseRepoFunctions : List String :=
  ["insert", "insert!", "update", "update!", "delete", "delete!", "get", "get!", "get_by",
    "get_by!", "all", "one", "one!", "preload", "transaction"]

def directRepoUses (node : Node) : List (String × String) :=
  match node with
  | .directive .aliasing _ refs _ _ =>
    (refs.filter isRepoName).map fun ref =>
      (s!"alias {ref.name}", "direct Repo alias in use case")
  | _ =>
    match node.call? with
    | some call =>
      if call.module?.any isRepoName && useCaseRepoFunctions.contains call.function then
        [(call.qualifiedName, "direct Repo call in use case")]
      else []
    | none => []

def noDirectRepoInUseCases : Rule where
  id := "no_direct_repo_in_use_cases"
  label := "NoDirectRepoInUseCases"
  family := .delegationBypass
  severity := .high
  layers := some [.application]
  appliesTo _ unit := .ok (isUseCase unit)
  inspect := visiting fun node =>
    (directRepoUses node).map fun (trigger, description) =>
      { message := s!"Use case contains direct Repo usage ({description}). " ++
          "The application layer must not depend on the Repo. Delegate to a repository " ++
          "module (e.g. UserRepository.insert_user/1) to keep boundaries testable."
        line := node.line
        trigger }

def useCaseFileFunctions : List String :=
  ["exists?", "dir?", "regular?", "read", "read!", "write", "write!", "mkdir", "mkdir!", "mkdir_p",
    "mkdir_p!", "rm", "rm!", "rm_rf", "rm_rf!", "cp", "cp!", "cp_r", "cp_r!", "ls", "ls!", "stat",
    "stat!", "rename", "rename!", "open", "close"]

def fileSuggestion? (call : Call) : Option String :=
  if call.isTo "File" useCaseFileFunctions then some "Inject a file_system dependency via opts"
  else if call.isTo "Path" ["wildcard"] then some "Use file_system.wildcard/1 instead"
  else none

def noDirectFileOperationsInUseCases : Rule where
  id := "no_direct_file_operations_in_use_cases"
  label := "NoDirectFileOperationsInUseCases"
  family := .delegationBypass
  severity := .high
  layers := some [.application]
  appliesTo _ unit := .ok (isUseCase unit && Text.endsWith unit.path ".ex")
  inspect := visitingCalls fun call =>
    (fileSuggestion? call).toList.map fun suggestion =>
      { message := "Use case contains direct file operation " ++
          s!"(direct {call.qualifiedName} call). " ++
          s!"{suggestion}. Example: fs = Keyword.get(opts, :file_system, FileSystem); " ++
          s!"fs.{call.function}(...)"
        line := call.line
        trigger := call.qualifiedName }

def isKeywordGet (node : Node) : Bool := node.call?.any (·.isTo "Keyword" ["get"])

def helperBody? : Node → Option (List Node)
  | .definition kind name _ body _ _ =>
    if kind.isPrivate && !Text.startsWith name "default_" then some body else none
  | _ => none

/-- The calls of infrastructure modules in a body, with the modules. Calls under a look-up of
options are its defaults. -/
def directDependencies (patterns : List String) (body : List Node) : List (ModuleRef × Nat) :=
  (Node.walkOutside isKeywordGet body).filterMap fun node =>
    match node.call?.bind (·.module?) with
    | some ref =>
      if patterns.any (Text.contains ref.name) then some (ref, node.line) else none
    | none => none

def injectionFinding (dependency : ModuleRef × Nat) : Finding where
  message := s!"Direct infrastructure call to `{dependency.1.name}` in private function. " ++
    "Resolve the dependency from opts in the public entry point and pass it down. " ++
    s!"Example: dep = Keyword.get(opts, :dep, {dependency.1.name})"
  line := dependency.2
  trigger := dependency.1.name

/-- Private helpers of use cases receive the infrastructure through options. -/
def useCaseConsistentInjection : Rule where
  id := "use_case_consistent_injection"
  label := "UseCaseConsistentInjection"
  family := .delegationBypass
  severity := .high
  exitStatus := some 2
  defaults := [("infrastructure_patterns", textList ["Infrastructure", "Infra"])]
  appliesTo _ unit :=
    .ok (Path.containsAny unit.path ["/application/use_cases/", "/Application/UseCases/"] &&
      Text.endsWith unit.path ".ex" && !Path.isTest unit.path)
  inspect inspection := do
    let patterns ← strings inspection.options "infrastructure_patterns"
    return (inspection.unit.nodes.filterMap helperBody?).flatMap fun body =>
      (directDependencies patterns body).map injectionFinding

end BoundaryLint.Rule
