import BoundaryLint.Rule.Basic
import BoundaryLint.Rule.Capability
import BoundaryLint.Text.Casing

/-!
The application layer names no infrastructure and does no input or output itself.
-/

namespace BoundaryLint.Rule

def isApplicationPath (patterns : List String) (path : String) : Bool :=
  let path := Text.toLower path
  Text.contains s!"/{path}" "/lib/" && !Text.contains path "/test/" &&
    patterns.any fun pattern => Text.contains path (Text.toLower pattern)

def noInfrastructureAliasInApplication : Rule where
  id := "no_infrastructure_alias_in_application"
  label := "NoInfrastructureAliasInApplication"
  family := .delegationBypass
  severity := .high
  exitStatus := some 2
  defaults :=
    [("infrastructure_patterns", textList ["Infrastructure", "Infra"]),
      ("application_patterns", textList ["Application", "UseCases", "UseCase"])]
  appliesTo options unit := do
    return isApplicationPath (← listed options "application_patterns") unit.path
  inspect inspection := do
    let patterns ← strings inspection.options "infrastructure_patterns"
    inspection |> visiting fun
      | .directive .aliasing _ refs _ line =>
        (refs.filter fun ref => patterns.any (Text.contains ref.name)).map fun ref =>
          { message := s!"Application layer aliases infrastructure module `{ref.name}`. " ++
              "Use dependency injection instead: define a behaviour, inject it via opts " ++
              "and resolve the default through Application config."
            line
            trigger := ref.name }
      | _ => []

def applicationIo? (call : Call) : Option String :=
  if call.isHttp then some "HTTP client call"
  else if call.isFile then some "file I/O"
  else if call.isCommand then some "system call"
  else none

/-- Application modules leave requests, files and programs to the infrastructure. -/
def applicationLayerInfrastructureDependency : Rule where
  id := "application_layer_infrastructure_dependency"
  label := "ApplicationLayerInfrastructureDependency"
  family := .delegationBypass
  severity := .high
  layers := some [.application]
  appliesTo _ unit :=
    .ok (Text.contains unit.path "/application/" &&
      !Text.contains unit.path "/application/policies/" && !Path.isTest unit.path)
  inspect := visitingCalls fun call =>
    (applicationIo? call).toList.map fun description =>
      { message := "Application layer contains I/O operation " ++
          s!"({description} in application layer). " ++
          "I/O belongs in infrastructure/services/; the application layer orchestrates " ++
          "domain logic and calls injected infrastructure dependencies."
        line := call.line
        trigger := call.qualifiedName }

end BoundaryLint.Rule
