import BoundaryLint.Rule.Delegation.Context

/-!
Contexts talk to each other through their public modules. Policies, queries and schemas of another
context are out of reach, and web modules see no schema at all.
-/

namespace BoundaryLint.Rule

structure PrivateKind where
  marker : String
  noun : String

def foreignContext? (kind : PrivateKind) (project : ProjectPath) (ref : ModuleRef) :
    Option String :=
  match ref.segments with
  | app :: context :: _ :: _ =>
    if Text.contains s!".{ref.name}." s!".{kind.marker}." && app = project.appModule &&
        context ≠ Path.camelize project.context && context ≠ kind.marker then
      some context
    else none
  | _ => none

def foreignAccesses (kind : PrivateKind) (project : ProjectPath) (node : Node) : List Finding :=
  node.referencedModules.filterMap fun ref =>
    (foreignContext? kind project ref).map fun context =>
      { message := s!"Context accesses {kind.noun} from different context " ++
          s!"({Path.camelize project.context} uses {ref.name}). " ++
          s!"Call the public API of {context} instead."
        line := node.line
        trigger := ref.name }

def crossContextAccess (id label : String) (kind : PrivateKind) (excluded : List String) :
    Rule where
  id := id
  label := label
  family := .boundaryCrossing
  category := .warning
  defaults := [("known_contexts", textList [])]
  appliesTo options unit :=
    if Text.endsWith unit.path "_test.exs" || Path.containsAny unit.path excluded then .ok false
    else
      match ProjectPath.locate? unit.path with
      | none => .ok false
      | some project =>
        if Path.hasSuffix project.app ["_web"] then .ok false
        else return isKnownContext (← listed options "known_contexts") project.context
  inspect inspection :=
    match ProjectPath.locate? inspection.unit.path with
    | none => .ok []
    | some project => visiting (foreignAccesses kind project) inspection

def noCrossContextPolicyAccess : Rule :=
  crossContextAccess "no_cross_context_policy_access" "NoCrossContextPolicyAccess"
    ⟨"Policies", "Policy"⟩ ["/policies/", "/use_cases/", "/infrastructure/", "/services/"]

def noCrossContextQueryAccess : Rule :=
  crossContextAccess "no_cross_context_query_access" "NoCrossContextQueryAccess"
    ⟨"Queries", "Query"⟩ ["/queries", "/use_cases/", "/infrastructure/", "/services/"]

/-- The context that owns a schema: it is part of the full name, and listed for a bare one. -/
def schemaOwner? (owners : List (Value × Value)) (appModule : String) (schema : ModuleRef) :
    Option String :=
  match schema.segments with
  | [app, context, _] => if app = appModule then some (Path.underscore context) else none
  | [name] => (owners.find? fun entry => entry.1.text? = some name).map (·.2.plain)
  | _ => none

def readSchema? (call : Call) : Option ModuleRef :=
  if call.isToRepo ["get", "get!", "get_by", "get_by!", "one", "one!", "preload"] then
    match call.args with
    | .alias schema _ :: _ => some schema
    | _ => none
  else none

def foreignSchema? (owners : List (Value × Value)) (project : ProjectPath) (call : Call) :
    Option (ModuleRef × String) := do
  let schema ← readSchema? call
  let owner ← schemaOwner? owners project.appModule schema
  if owner = project.context then none else some (schema, owner)

def schemaFinding (project : ProjectPath) (call : Call) (schema : ModuleRef) (owner : String) :
    Finding where
  message := "Context accesses schema owned by another context " ++
    s!"({Path.camelize project.context} reads {schema.name} from {Path.camelize owner}). " ++
    s!"Use {Path.camelize owner}.get_*() public API instead."
  line := call.line
  trigger := s!"Repo.{call.function}({schema.last}, ...)"

def noCrossContextSchemaAccess : Rule where
  id := "no_cross_context_schema_access"
  label := "NoCrossContextSchemaAccess"
  family := .boundaryCrossing
  category := .warning
  severity := .high
  defaults :=
    [("schema_contexts", textTable
      [("User", "accounts"), ("Workspace", "workspaces"), ("WorkspaceMember", "workspaces"),
        ("Project", "projects"), ("Page", "pages"), ("PageComponent", "pages"), ("Note", "notes")])]
  appliesTo _ unit :=
    .ok (Path.isContextModule unit.path
      ["/queries", "/use_cases/", "/policies/", "/infrastructure/", "/domain/", "/services/"])
  inspect inspection := do
    let owners ← (inspection.options.entries "schema_contexts").mapError .option
    match ProjectPath.locate? inspection.unit.path with
    | none => return []
    | some project =>
      inspection |> visitingCalls fun call =>
        (foreignSchema? owners project call).toList.map fun (schema, owner) =>
          schemaFinding project call schema owner

def noInfrastructureSchemaInWeb : Rule where
  id := "no_infrastructure_schema_in_web"
  label := "NoInfrastructureSchemaInWeb"
  family := .boundaryCrossing
  appliesTo _ unit :=
    .ok (Text.endsWith unit.path ".ex" && !Path.isTest unit.path &&
      Path.containsAny unit.path ["_web/", "/controllers/", "/live/", "/components/"])
  inspect := visiting fun node =>
    let schemas := node.referencedModules.filter fun ref =>
      ["Infrastructure.Schemas", ".Infrastructure.Schema."].any (Text.contains s!"{ref.name}.")
    schemas.map fun ref =>
      { message := s!"Web layer references infrastructure schema `{ref.name}`. " ++
          "Use domain entities or context functions returning them instead."
        line := node.line
        trigger := ref.name }

end BoundaryLint.Rule
