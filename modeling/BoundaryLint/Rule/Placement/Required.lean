import BoundaryLint.Rule.Delegation.Context
import BoundaryLint.Text.Casing

/-!
Files that have to exist: a query module for a context, and layer files for an app.
-/

namespace BoundaryLint.Rule

def missingQueriesModule : Rule where
  id := "missing_queries_module"
  label := "MissingQueriesModule"
  family := .structuralPlacement
  category := .warning
  defaults :=
    [("known_contexts", textList []),
      ("queries_paths", textList
        ["\x7bcontext\x7d/queries.ex", "\x7bcontext\x7d/infrastructure/queries"])]
  appliesTo options unit :=
    if Path.isContextModule unit.path queryPlaces then do
      let known ← listed options "known_contexts"
      return isKnownContext known (Text.dropEnding unit.filename ".ex")
    else .ok false
  inspect inspection := do
    let context := Text.dropEnding inspection.unit.filename ".ex"
    let root := Path.dirname inspection.unit.path
    let templates ← strings inspection.options "queries_paths"
    let candidates ← templates.mapM fun template => do
      return Path.join [root, ← (Template.expand template context).mapError .template]
    if candidates.any inspection.probe.exists? then return []
    else
      let module := Path.camelize context
      return [{ message := "Context missing Queries module. Create: " ++
                  s!"{candidates.headD context}\n" ++
                  s!"  defmodule {module}.Queries with composable query functions."
                line := 1
                trigger := module }]

def declaredApp? (nodes : List Node) : Option String :=
  nodes.findSome? fun
    | .pair (.atom "app" _) (.atom name _) _ => some name
    | _ => none

def appKind (app : String) : String :=
  if Text.endsWith app "_web" then "presentation"
  else if Text.endsWith app "_tools" then "tools"
  else "core"

private def spaced (text : String) : String :=
  String.ofList (text.toList.map fun c => if c = '_' then ' ' else c)

def layerTitle (file : String) : String :=
  match [("domain.ex", "Domain"), ("application_layer.ex", "Application"),
      ("infrastructure_layer.ex", "Infrastructure"), ("presentation.ex", "Presentation")].lookup
      file with
  | some title => title
  | none => Text.toTitle (spaced (Text.dropEnding file ".ex"))

def architecturalLayersDefined : Rule where
  id := "architectural_layers_defined"
  label := "ArchitecturalLayersDefined"
  family := .structuralPlacement
  severity := .high
  exitStatus := some 2
  defaults :=
    [("excluded_apps", textList []),
      ("core_layers", textList ["domain.ex", "application_layer.ex", "infrastructure_layer.ex"]),
      ("presentation_layers", textList ["presentation.ex"]),
      ("tools_layers", textList [])]
  appliesTo _ unit := .ok (unit.filename = "mix.exs")
  inspect inspection :=
    match declaredApp? inspection.unit.nodes with
    | none => .ok []
    | some app => do
      if (← strings inspection.options "excluded_apps").contains app then return []
      let kind := appKind app
      let files ← strings inspection.options s!"{kind}_layers"
      let missing := files.filter fun file =>
        !inspection.probe.exists?
          (Path.join [Path.dirname inspection.unit.path, s!"lib/{app}/{file}"])
      return missing.map fun file =>
        { message := s!"Missing {layerTitle file} layer definition file `lib/{app}/{file}` " ++
            s!"for {kind} app. Create it with `use Boundary` and the layer's allowed deps."
          line := 1
          trigger := file }

end BoundaryLint.Rule
