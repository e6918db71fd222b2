import BoundaryLint.Rule.Basic
import BoundaryLint.Rule.Capability

/-!
Schemas and changesets belong to the infrastructure, and schemas only map and validate data.
-/

namespace BoundaryLint.Rule

def schemaModule : ModuleRef := ⟨["Ecto", "Schema"], by simp, by decide⟩

def changesetModule : ModuleRef := ⟨["Ecto", "Changeset"], by simp, by decide⟩

def changesetFunctions : List String :=
  ["cast", "validate_required", "validate_length", "validate_format"]

def changesetDirective? : DirectiveKind → List ModuleRef → Option (String × String)
  | .importing, refs | .aliasing, refs =>
    if refs.contains changesetModule then
      some ("Ecto.Changeset", "Ecto.Changeset in domain layer, use pure validation functions")
    else none
  | _, _ => none

def ectoUse? (node : Node) : Option (String × String) :=
  match node with
  | .directive .using _ refs _ _ =>
    if refs.contains schemaModule then
      some ("use Ecto.Schema", "Ecto.Schema in domain layer, move to infrastructure/schemas/")
    else none
  | .directive kind _ refs _ _ =>
    (changesetDirective? kind refs).map fun (name, description) =>
      (s!"{kind.keyword} {name}", description)
  | .call none "schema" (.literal (.text table) _ :: _) _ _ _ =>
    some (s!"schema \"{table}\"",
      "Ecto schema definition in domain, move to infrastructure/schemas/")
  | .definition .publicFunction "changeset" _ _ _ _ =>
    some ("def changeset", "changeset function in domain, move to infrastructure/schemas/")
  | _ =>
    match node.call? with
    | some call =>
      if call.isTo "Ecto.Changeset" changesetFunctions then
        some (call.qualifiedName, "Ecto changeset function in domain, use pure validation")
      else none
    | none => none

def noEctoInDomainLayer : Rule where
  id := "no_ecto_in_domain_layer"
  label := "NoEctoInDomainLayer"
  family := .layerLeakage
  severity := .high
  layers := some [.domain]
  appliesTo _ unit :=
    .ok (Text.contains unit.path "/domain/" && !Path.isTest unit.path &&
      !Text.endsWith unit.path "_behaviour.ex")
  inspect := visiting fun node =>
    (ectoUse? node).toList.map fun (trigger, description) =>
      { message := s!"Domain layer contains Ecto dependency ({description}). " ++
          "Keep Ecto schemas in infrastructure/schemas/ and model domain entities as plain structs."
        line := node.line
        trigger }

def usesModule (unit : SourceUnit) (ref : ModuleRef) : Bool :=
  unit.nodes.any fun
    | .directive .using _ refs _ _ => refs.contains ref
    | _ => false

def isServiceCall (dataFunctions : List String) (call : Call) : Bool :=
  match call.module? with
  | none => false
  | some ref =>
    ["Generator", "Repository", "Service"].any (Text.endsWith ref.name) ||
      Text.contains ref.name "Queries" || dataFunctions.contains call.function

/-- The business logic in a schema: trigger and description. Comparing passwords is allowed. -/
def schemaLogic? (business dataFunctions : List String) (node : Node) : Option (String × String) :=
  match node with
  | .definition .privateFunction name _ _ _ _ =>
    if business.contains name then
      some (s!"defp {name}", s!"business logic function in schema ({name})")
    else none
  | _ =>
    match node.call? with
    | none => none
    | some call =>
      if call.isOf "Bcrypt" then
        if call.function = "verify_pass" then none
        else some (call.qualifiedName, "cryptographic operation in schema")
      else if isServiceCall dataFunctions call then
        some (call.qualifiedName, "call to external service or repository")
      else none

/-- Schemas only map data and validate it. -/
def noBusinessLogicInSchemas : Rule where
  id := "no_business_logic_in_schemas"
  label := "NoBusinessLogicInSchemas"
  family := .layerLeakage
  category := .warning
  defaults :=
    [("business_functions",
        textList ["generate_slug", "calculate_total", "compute_score", "process_data"]),
      ("data_access_functions",
        textList ["exists?", "slug_exists?", "find", "get", "create", "update", "delete"])]
  appliesTo _ unit := .ok (!Path.isTest unit.path && usesModule unit schemaModule)
  inspect inspection := do
    let business ← strings inspection.options "business_functions"
    let dataFunctions ← strings inspection.options "data_access_functions"
    inspection |> visiting fun node =>
      (schemaLogic? business dataFunctions node).toList.map fun (trigger, description) =>
        { message := s!"Schema contains business logic ({description}). " ++
            "Ecto schemas handle data mapping and basic validation only. " ++
            "Move business logic to domain modules or context functions."
          line := node.line
          trigger }

end BoundaryLint.Rule
