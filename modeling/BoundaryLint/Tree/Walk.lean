import BoundaryLint.Tree.Node

/-!
Traversals in pre-order. They run over a stack of pending nodes, so the depth of a tree does not
matter; the weight of the stack shrinks with every node that is visited.
-/

namespace BoundaryLint.Node

mutual

/-- The number of nodes below and at a node that a traversal can reach, and more. -/
def weight : Node → Nat
  | .alias _ _ | .atom _ _ | .literal _ _ | .var _ _ | .directive _ _ _ _ _ => 1
  | .call target _ args block elseBlock _ =>
    1 + weightOption target + weightList args + weightList block + weightList elseBlock
  | .pair key value _ => 1 + weight key + weight value
  | .moduleDecl _ body _ => 1 + weightList body
  | .definition _ _ params body guard _ =>
    1 + weightList params + weightOption guard + weightList body
  | .clause params body guard _ => 1 + weightList params + weightOption guard + weightList body
  | .anonymous clauses _ => 1 + weightList clauses
  | .withForm clauses body elseClauses _ =>
    1 + weightList clauses + weightList body + weightList elseClauses
  | .binary _ left right _ => 1 + weight left + weight right
  | .unary _ operand _ => 1 + weight operand
  | .list items _ => 1 + weightList items
  | .tuple items _ => 1 + weightList items
  | .map entries struct update _ =>
    1 + weightOption struct + weightOption update + weightList entries
  | .sequence body _ => 1 + weightList body

def weightList : List Node → Nat
  | [] => 0
  | node :: rest => weight node + weightList rest

def weightOption : Option Node → Nat
  | none => 0
  | some node => weight node

end

theorem weightList_append (first second : List Node) :
    weightList (first ++ second) = weightList first + weightList second := by
  induction first with
  | nil => simp [weightList]
  | cons node rest ih => simp [weightList, ih, Nat.add_assoc]

theorem weightList_toList (node : Option Node) : weightList node.toList = weightOption node := by
  cases node <;> simp [weightList, weightOption]

theorem weight_eq_children (node : Node) : weight node = 1 + weightList node.children := by
  cases node <;>
    simp [weight, children, weightList, weightList_append, weightList_toList] <;> omega

/-- The nodes in pre-order that lie under no skipped node. Of a skipped node nothing is visited. -/
def walkOutside (skip : Node → Bool) (pending : List Node) : List Node :=
  match pending with
  | [] => []
  | node :: rest =>
    if skip node then walkOutside skip rest
    else node :: walkOutside skip (node.children ++ rest)
termination_by weightList pending
decreasing_by
  · have := weight_eq_children node
    simp only [weightList]
    omega
  · have := weight_eq_children node
    simp only [weightList, weightList_append]
    omega

def walkAll (pending : List Node) : List Node :=
  match pending with
  | [] => []
  | node :: rest => node :: walkAll (node.children ++ rest)
termination_by weightList pending
decreasing_by
  have := weight_eq_children node
  simp only [weightList, weightList_append]
  omega

def walk (node : Node) : List Node := walkAll [node]

end BoundaryLint.Node
