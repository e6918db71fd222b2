import BoundaryLint.Tree.Walk

/-!
Occurrences of nodes. Equal nodes can stand at several places of a tree; the place tells them apart.
-/

namespace BoundaryLint

/-- A node with its place: the child numbers on the way up to the root. -/
structure Occurrence where
  place : List Nat
  node : Node

namespace Occurrence

def numbered (place : List Nat) (start : Nat) : List Node → List Occurrence
  | [] => []
  | node :: rest => ⟨start :: place, node⟩ :: numbered place (start + 1) rest

def children (occurrence : Occurrence) : List Occurrence :=
  numbered occurrence.place 0 occurrence.node.children

theorem map_node_numbered (place : List Nat) (start : Nat) (nodes : List Node) :
    (numbered place start nodes).map node = nodes := by
  induction nodes generalizing start with
  | nil => rfl
  | cons first rest ih => simp [numbered, ih]

def walk (pending : List Occurrence) : List Occurrence :=
  match pending with
  | [] => []
  | occurrence :: rest => occurrence :: walk (occurrence.children ++ rest)
termination_by Node.weightList (pending.map node)
decreasing_by
  have := Node.weight_eq_children occurrence.node
  simp only [children, List.map_cons, List.map_append, map_node_numbered, Node.weightList,
    Node.weightList_append]
  omega

def ofBody (body : List Node) : List Occurrence := walk (numbered [] 0 body)

end Occurrence

end BoundaryLint
