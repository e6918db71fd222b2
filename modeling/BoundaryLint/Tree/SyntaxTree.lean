import BoundaryLint.Tree.Walk

/-!
The syntax tree of one source file, under a path with forward slashes.
-/

namespace BoundaryLint

inductive PathFault where
  | empty
  | backslash (path : String)
deriving DecidableEq, Repr

def PathFault.message : PathFault → String
  | .empty => "path must not be empty"
  | .backslash path => s!"path must use forward slashes: {path}"

structure SyntaxTree where
  path : String
  body : List Node

namespace SyntaxTree

def make (path : String) (body : List Node) : Except PathFault SyntaxTree :=
  if path = "" then .error .empty
  else if '\\' ∈ path.toList then .error (.backslash path)
  else .ok ⟨path, body⟩

def nodes (tree : SyntaxTree) : List Node := Node.walkAll tree.body

/-- All module declarations with their names and lines, outermost first. -/
def modules (tree : SyntaxTree) : List (Option ModuleRef × Nat) :=
  tree.nodes.filterMap fun
    | .moduleDecl name _ line => some (name, line)
    | _ => none

def moduleName? (tree : SyntaxTree) : Option ModuleRef := tree.modules.findSome? (·.1)

end SyntaxTree

end BoundaryLint
