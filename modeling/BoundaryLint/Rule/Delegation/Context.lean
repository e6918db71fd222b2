import BoundaryLint.Path.Project
import BoundaryLint.Rule.Basic
import BoundaryLint.Rule.Capability

/-!
Context modules are thin: orchestration belongs to use cases, queries to query modules.
-/

namespace BoundaryLint.Rule

/-- The orchestration at a node: trigger and description. A `with` counts from a number of match
clauses on. -/
def orchestration? (threshold : Int) (node : Node) : Option (String × String) :=
  match node with
  | .withForm clauses _ _ _ =>
    let count := (clauses.filter Node.isMatchHead).length
    if threshold ≤ count then
      some (s!"with ({count} clauses)", s!"complex with statement with {count} operations")
    else none
  | _ =>
    match node.call? with
    | none => none
    | some call =>
      if call.args.isEmpty && (call.isTo "Multi" ["new"] || call.isTo "Ecto.Multi" ["new"]) then
        some ("Multi.new()", "Ecto.Multi transaction")
      else
        match call.args with
        | [.anonymous _ _] =>
          if call.isToRepo ["transaction"] then
            some ("Repo.transaction", "transaction block with multiple operations")
          else none
        | _ => none

def checkThreshold (options : Options) : Except Config.Cause Unit :=
  match options.integer "with_clause_threshold" with
  | .ok threshold => if threshold < 1 then .error (.thresholdTooLow threshold) else .ok ()
  | .error _ => .error (.optionNotInteger "with_clause_threshold")

def useCaseAdoption : Rule where
  id := "use_case_adoption"
  label := "UseCaseAdoption"
  family := .delegationBypass
  category := .warning
  defaults := [("with_clause_threshold", .integer 5)]
  validate := checkThreshold
  appliesTo _ unit :=
    .ok (Path.isContextModule unit.path
      ["/use_cases/", "/queries", "/policies/", "/infrastructure/", "/domain/"])
  inspect inspection := do
    let threshold ← (inspection.options.integer "with_clause_threshold").mapError .option
    inspection |> visiting fun node =>
      (orchestration? threshold node).toList.map fun (trigger, description) =>
        { message := s!"Complex orchestration logic detected ({description}). " ++
            "Extract it to a use case, e.g. [Context].UseCases.CreateOperation, " ++
            "and keep context functions thin."
          line := node.line
          trigger }

def isKnownContext (known : List String) (context : String) : Bool :=
  known.isEmpty || known.contains context

def queryPlaces : List String :=
  ["/queries", "/use_cases/", "/policies/", "/infrastructure/", "/services/"]

def inlineQuery? : Node → Option (String × String)
  | .call none "from" _ _ _ _ => some ("from", "inline Ecto query with from(...)")
  | .call none "fragment" _ _ _ _ => some ("fragment", "SQL fragment in context")
  | _ => none

def noInlineQueriesInContexts : Rule where
  id := "no_inline_queries_in_contexts"
  label := "NoInlineQueriesInContexts"
  family := .delegationBypass
  category := .warning
  defaults := [("known_contexts", textList [])]
  appliesTo options unit :=
    if Path.isContextModule unit.path queryPlaces then do
      let known ← listed options "known_contexts"
      return (ProjectPath.locate? unit.path).any fun project => isKnownContext known project.context
    else .ok false
  inspect inspection :=
    let context := match ProjectPath.locate? inspection.unit.path with
      | some project => Path.camelize project.context
      | none => "Context"
    inspection |> visiting fun node =>
      (inlineQuery? node).toList.map fun (trigger, description) =>
        { message := s!"Context contains inline Ecto query ({description}). " ++
            s!"Extract it to a query object: {context}.Queries."
          line := node.line
          trigger }

end BoundaryLint.Rule
