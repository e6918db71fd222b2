import BoundaryLint.Tree.Checked
import BoundaryLint.Tree.SyntaxTree

/-!
Boundary declarations: the modules that a module says it may depend on, read from
`use Boundary, deps: [...]`. Entries that are not module names are dropped, and a value that is no
literal list declares nothing: a missed violation is better than a spurious one.
-/

namespace BoundaryLint

namespace ModuleRef

def sortDistinct (refs : List ModuleRef) : List ModuleRef := refs.eraseDups.mergeSort nameLe

end ModuleRef

/-- What a module declares. `deps` and `options` are sorted and hold nothing twice. -/
structure Declaration where
  module : ModuleRef
  deps : List ModuleRef
  line : Nat
  /-- The options that are set to true. -/
  options : List String
deriving DecidableEq, Repr

namespace Declaration

def make (module : ModuleRef) (deps : List ModuleRef) (line : Nat) (options : List String) :
    Declaration :=
  ⟨module, ModuleRef.sortDistinct deps, line, options.eraseDups.mergeSort⟩

def atLine (module : ModuleRef) (deps : List ModuleRef) (line : Int) (options : List String) :
    Except Node.Fault Declaration :=
  return make module deps (← Node.checkLine line) options

def isEmpty (declaration : Declaration) : Bool := declaration.deps.isEmpty

end Declaration

namespace Boundary

def boundaryModule : ModuleRef := ⟨["Boundary"], by simp, by decide⟩

structure Directive where
  options : List Node
  line : Nat

def directive? : Node → Option Directive
  | .directive .using _ refs options line =>
    if refs = [boundaryModule] then some ⟨options, line⟩ else none
  | _ => none

/-- The first boundary directive with the name of the module around it: those in modules first, then
those at the top of the file. -/
def findDirective? (tree : SyntaxTree) : Option (Option ModuleRef × Directive) :=
  let inModules := tree.nodes.findSome? fun
    | .moduleDecl name body _ => (body.findSome? directive?).map fun found => (name, found)
    | _ => none
  match inModules with
  | some found => some found
  | none => (tree.body.findSome? directive?).map fun found => (tree.moduleName?, found)

def entryRef? : Node → Option ModuleRef
  | .alias ref _ => some ref
  | .tuple (.alias ref _ :: _) _ => some ref
  | _ => none

/-- The declared dependencies: none at all without the option, and no declaration if its value is no
list. -/
def depsOf? (options : List Node) : Option (List ModuleRef) :=
  match Node.lookup? "deps" options with
  | none => some []
  | some (.list items _) => some (items.filterMap entryRef?)
  | some _ => none

def setOption? : Node → Option String
  | .pair (.atom name _) (.literal (.boolean true) _) _ => some name
  | _ => none

def declaration? (tree : SyntaxTree) : Option Declaration := do
  let (name, directive) ← findDirective? tree
  let module ← name
  let deps ← depsOf? directive.options
  return Declaration.make module deps directive.line (directive.options.filterMap setOption?)

end Boundary

end BoundaryLint
