import BoundaryLint.Rule.Basic
import BoundaryLint.Rule.Capability

/-!
Domain entities are pure: they reach no repo, no infrastructure module and no system service.
-/

namespace BoundaryLint.Rule

def isDomainEntity (unit : SourceUnit) : Bool :=
  Text.contains unit.path "/domain/entities/" && Text.endsWith unit.path ".ex" &&
    !Path.isTest unit.path

def queryModule : ModuleRef := ⟨["Ecto", "Query"], by simp, by decide⟩

def repoUse? (node : Node) : Option (String × String × String) :=
  match node with
  | .directive .importing _ refs _ _ =>
    if refs.contains queryModule then
      some ("import Ecto.Query", "Ecto.Query import in domain entity",
        "Move query building to an Infrastructure.Queries module")
    else none
  | .call none "from" _ _ _ _ =>
    some ("from", "query building with from/2 in domain entity",
      "Move it to an Infrastructure.Queries module")
  | _ =>
    match node.call? with
    | some call =>
      if call.module?.any (·.isRepo) then
        some (call.qualifiedName, "Repo call in domain entity",
          "Move persistence to an application use case")
      else none
    | none => none

def noRepoInDomain : Rule where
  id := "no_repo_in_domain"
  label := "NoRepoInDomain"
  family := .layerLeakage
  category := .warning
  severity := .high
  layers := some [.domain]
  appliesTo _ unit := .ok (isDomainEntity unit)
  inspect := visiting fun node =>
    (repoUse? node).toList.map fun (trigger, description, suggestion) =>
      { message := s!"Domain entity has infrastructure dependency ({description}). " ++
          "Domain entities hold pure business logic with no Repo or database access. " ++
          s!"{suggestion}. Persistence inside entities makes the domain untestable " ++
          "without a database."
        line := node.line
        trigger }

def sideEffect? (call : Call) : Option (String × String) :=
  if call.isTo "Bcrypt" ["hash_pwd_salt", "add_hash", "hash_password"] then
    some ("password hashing", "Extract to an Infrastructure.PasswordHasher service")
  else if call.isToErlang "crypto" ["strong_rand_bytes", "hash", "mac", "sign", "encrypt"] then
    some ("cryptographic operation", "Extract to an Infrastructure.TokenGenerator service")
  else if call.isTo "System" ["get_env"] then
    some ("environment variable access", "Pass configuration in as a function argument")
  else if call.isTo "File" ["read", "write", "read!", "write!"] then
    some ("file I/O", "Extract to an Infrastructure.FileStorage service")
  else none

/-- Domain entities must not hash passwords, use cryptography, read the environment or files. -/
def noSideEffectsInDomain : Rule where
  id := "no_side_effects_in_domain"
  label := "NoSideEffectsInDomain"
  family := .layerLeakage
  category := .warning
  severity := .high
  layers := some [.domain]
  appliesTo _ unit := .ok (isDomainEntity unit)
  inspect := visitingCalls fun call =>
    (sideEffect? call).toList.map fun (description, suggestion) =>
      { message := s!"Domain entity performs a side effect ({description} in domain entity). " ++
          s!"Domain entities hold pure business logic. {suggestion}."
        line := call.line
        trigger := call.qualifiedName }

def isInfrastructure (namespaces services : List String) (ref : ModuleRef) : Bool :=
  namespaces.any (Text.contains ref.name) || services.any (Text.endsWith ref.name)

private def infrastructureFinding (line : Nat) (trigger description : String) : Finding where
  message := s!"Domain entity has infrastructure dependency ({description} in domain entity). " ++
    "Move infrastructure calls to use cases and pass computed values as parameters."
  line := line
  trigger := trigger

def infrastructureUses (namespaces services : List String) (node : Node) : List Finding :=
  match node with
  | .directive .aliasing _ refs _ line =>
    (refs.filter (isInfrastructure namespaces services)).map fun ref =>
      infrastructureFinding line s!"alias {ref.name}" "aliasing infrastructure module"
  | _ =>
    match node.call? with
    | some call =>
      if call.module?.any (isInfrastructure namespaces services) then
        [infrastructureFinding call.line call.qualifiedName "direct infrastructure call"]
      else []
    | none => []

/-- Domain entities must not alias or call infrastructure modules. Repo calls have a rule of their
own, so the repo is not among the default services. -/
def noInfrastructureInDomainEntities : Rule where
  id := "no_infrastructure_in_domain_entities"
  label := "NoInfrastructureInDomainEntities"
  family := .layerLeakage
  severity := .high
  layers := some [.domain]
  defaults :=
    [("infrastructure_namespaces", textList [".Infrastructure.", "Infrastructure."]),
      ("infrastructure_services", textList
        ["CryptoService", "FileSystem", "ConfigLoader", "LayoutResolver", "BuildCache",
          "HttpClient", "EmailService", "StorageService", "CacheService", "QueueService"])]
  appliesTo _ unit := .ok (isDomainEntity unit)
  inspect inspection := do
    let namespaces ← strings inspection.options "infrastructure_namespaces"
    let services ← strings inspection.options "infrastructure_services"
    visiting (infrastructureUses namespaces services) inspection

end BoundaryLint.Rule
