import BoundaryLint.Boundary.Declaration
import BoundaryLint.Layer
import BoundaryLint.Path.Basic

/-!
A source file that has been read and placed in a layer.
-/

namespace BoundaryLint

structure SourceUnit where
  tree : SyntaxTree
  layer : Layer
  declaration : Option Declaration

namespace SourceUnit

structure PathMismatch where
  path : String
  treePath : String
deriving DecidableEq, Repr

def PathMismatch.message (mismatch : PathMismatch) : String :=
  s!"path mismatch: {mismatch.path} != {mismatch.treePath}"

def make (path : String) (layer : Layer) (tree : SyntaxTree) (declaration : Option Declaration) :
    Except PathMismatch SourceUnit :=
  if path = tree.path then .ok ⟨tree, layer, declaration⟩ else .error ⟨path, tree.path⟩

def path (unit : SourceUnit) : String := unit.tree.path

def filename (unit : SourceUnit) : String := Path.basename unit.path

def moduleName? (unit : SourceUnit) : Option ModuleRef := unit.tree.moduleName?

def nodes (unit : SourceUnit) : List Node := unit.tree.nodes

end SourceUnit

end BoundaryLint
