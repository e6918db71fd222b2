import BoundaryLint.Path.Project
import BoundaryLint.Rule.Basic

/-!
The entry module of an app is a top-level boundary over its application layer.
-/

namespace BoundaryLint.Rule

def publicApiFindings (appModule : String) (directive : Boundary.Directive)
    (declaration : Option Declaration) : List Finding :=
  let deps := (declaration.map (·.deps.map (·.name))).getD []
  let topLevel := declaration.any (·.options.contains "top_level?")
  let expected := [s!"{appModule}.ApplicationLayer", s!"{appModule}.Application"]
  let unmarked : List Finding :=
    if topLevel then []
    else [⟨"Public API module should have `top_level?: true` in Boundary config.", directive.line,
      "top_level?"⟩]
  let infrastructure : List Finding :=
    if deps.any (Text.contains · "Infrastructure") then
      [⟨"Public API module should not depend on Infrastructure directly. " ++
          s!"Change deps to `[{appModule}.ApplicationLayer]` instead.", directive.line,
        "Infrastructure"⟩]
    else []
  let application : List Finding :=
    if deps.isEmpty ||
        deps.any (fun dep => expected.contains dep || Text.contains dep "ApplicationLayer") then []
    else
      [⟨"Public API module should depend on ApplicationLayer. " ++
          s!"Expected `deps: [{appModule}.ApplicationLayer]`.", directive.line, "deps"⟩]
  unmarked ++ infrastructure ++ application

/-- The public module of an app must be a top-level boundary over the application layer. -/
def publicApiBoundary : Rule where
  id := "public_api_boundary"
  label := "PublicApiBoundary"
  family := .dependencyRule
  severity := .higher
  exitStatus := some 2
  defaults :=
    [("excluded_apps", textList []),
      ("presentation_suffixes", textList ["_web"]),
      ("tools_suffixes", textList ["_tools"])]
  appliesTo options unit :=
    if Path.isAppEntry unit.path then do
      let app := Text.dropEnding unit.filename ".ex"
      let excluded ← listed options "excluded_apps"
      let presentation ← listed options "presentation_suffixes"
      let tools ← listed options "tools_suffixes"
      return !excluded.contains app && !Path.hasSuffix app (presentation ++ tools)
    else .ok false
  inspect inspection :=
    let unit := inspection.unit
    let appModule := Path.camelize (Text.dropEnding unit.filename ".ex")
    match Boundary.findDirective? unit.tree with
    | some (_, directive) => .ok (publicApiFindings appModule directive unit.declaration)
    | none =>
      .ok [⟨s!"Public API module `{appModule}` must have `use Boundary` declaration " ++
          "for architectural enforcement.", (unit.tree.modules.head?.map (·.2)).getD 1,
        "use Boundary"⟩]

end BoundaryLint.Rule
