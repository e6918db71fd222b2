import BoundaryLint.Proofs.Tree.Pruning
import BoundaryLint.Rule.Basic
import Mathlib

/-!
Pre-order by recursion over trees. The traversals run over a stack; here they are equal to the recursion, on the whole
tree and on what is left of it when the trees under some nodes are cut off. They visit every place once, and a rule with
a visitor finds what the visitor finds at the nodes in this order.
-/

namespace BoundaryLint

inductive Rose (α : Type) where
  | branch (label : α) (limbs : List (Rose α))

namespace Rose

variable {α : Type}

mutual

def preorder : Rose α → List α
  | .branch label limbs => label :: rowPreorder limbs

def rowPreorder : List (Rose α) → List α
  | [] => []
  | tree :: rest => tree.preorder ++ rowPreorder rest

end

/-- A row of trees without the trees, large or small, that have a skipped label at their root. -/
def cut (skip : α → Bool) : List (Rose α) → List (Rose α)
  | [] => []
  | .branch label limbs :: rest => if skip label then cut skip rest else .branch label (cut skip limbs) :: cut skip rest

theorem rowPreorder_eq_flatMap (row : List (Rose α)) : rowPreorder row = row.flatMap preorder := by
  induction row with
  | nil => rfl
  | cons tree rest ih => rw [rowPreorder, ih, List.flatMap_cons]

theorem cut_append (skip : α → Bool) (first second : List (Rose α)) :
    cut skip (first ++ second) = cut skip first ++ cut skip second := by
  induction first with
  | nil => simp [cut]
  | cons tree rest ih =>
    obtain ⟨label, limbs⟩ := tree
    by_cases skipped : skip label = true <;> simp [cut, skipped, ih]

end Rose

namespace Node

theorem weight_mem_le {node : Node} {nodes : List Node} (mem : node ∈ nodes) : node.weight ≤ weightList nodes := by
  induction mem with
  | head rest => exact Nat.le_add_right _ _
  | tail other _ ih => exact Nat.le_trans ih (Nat.le_add_left _ _)

theorem weight_child_lt {node child : Node} (mem : child ∈ node.children) : child.weight < node.weight := by
  have row := weight_mem_le mem
  have whole := weight_eq_children node
  omega

def rose (node : Node) : Rose Node := .branch node (node.children.attach.map fun child => child.1.rose)
termination_by node.weight
decreasing_by exact weight_child_lt child.2

theorem rose_eq (node : Node) : node.rose = .branch node (node.children.map rose) := by
  rw [rose, List.attach_map_val]

theorem walkAll_eq_preorder (pending : List Node) : walkAll pending = (pending.map rose).flatMap Rose.preorder := by
  fun_induction walkAll pending with
  | case1 => rfl
  | case2 node rest ih =>
    rw [ih, List.map_append, List.flatMap_append, List.map_cons, List.flatMap_cons, rose_eq node, Rose.preorder,
      Rose.rowPreorder_eq_flatMap, List.cons_append]

theorem walk_eq_preorder (node : Node) : node.walk = node.rose.preorder := by
  rw [walk, walkAll_eq_preorder, List.map_singleton, List.flatMap_singleton]

theorem walkAll_eq_flatMap (nodes : List Node) : walkAll nodes = nodes.flatMap walk := by
  rw [walkAll_eq_preorder, List.flatMap_map]
  exact List.flatMap_congr fun node _ => (walk_eq_preorder node).symm

theorem walk_eq_cons (node : Node) : node.walk = node :: node.children.flatMap walk := by
  rw [walk, walkAll, List.append_nil, walkAll_eq_flatMap]

/-- A traversal that skips nodes is the pre-order of what is left when the trees under them are cut off. -/
theorem walkOutside_eq_preorder (skip : Node → Bool) (pending : List Node) :
    walkOutside skip pending = (Rose.cut skip (pending.map rose)).flatMap Rose.preorder := by
  fun_induction walkOutside skip pending with
  | case1 => simp [Rose.cut]
  | case2 node rest skipped ih => rw [ih, List.map_cons, rose_eq node, Rose.cut, if_pos skipped]
  | case3 node rest visited ih =>
    rw [ih, List.map_append, Rose.cut_append, List.flatMap_append, List.map_cons, rose_eq node, Rose.cut,
      if_neg visited, List.flatMap_cons, Rose.preorder, Rose.rowPreorder_eq_flatMap, List.cons_append]

theorem walkOutside_none (nodes : List Node) : walkOutside (fun _ => false) nodes = walkAll nodes := by
  fun_induction walkAll nodes with
  | case1 => rw [walkOutside]
  | case2 node rest ih => rw [walkOutside, if_neg Bool.false_ne_true, ih]

end Node

namespace Occurrence

def Visits (nodes : List Node) (wanted : Occurrence → Prop) : Prop :=
  ∃ occurrences : List Occurrence, occurrences.map node = nodes ∧ (occurrences.map (·.place)).Nodup ∧
    ∀ occurrence, occurrence ∈ occurrences ↔ wanted occurrence

def StandsOutside (skip : Node → Bool) (body : List Node) (occurrence : Occurrence) : Prop :=
  ∃ top ∈ numbered [] 0 body, top.CoversOutside skip occurrence

theorem visits_walkAll (body : List Node) : Visits (Node.walkAll body) (Stands body) :=
  ⟨ofBody body, map_node_ofBody body, nodup_places (pairwise_ofBody body), fun _ => mem_ofBody⟩

theorem visits_walkOutside (skip : Node → Bool) (body : List Node) :
    Visits (Node.walkOutside skip body) (StandsOutside skip body) := by
  have row := walkOutside_sublist skip (numbered [] 0 body)
  refine ⟨walkOutside skip (numbered [] 0 body), ?_, ?_, fun _ => mem_walkOutside⟩
  · rw [map_node_walkOutside, map_node_numbered]
  · exact (row.map _).nodup (nodup_places (pairwise_ofBody body))

end Occurrence

/-- All traversals are pre-order: of whole trees, of rows of trees, and of what is left of them outside some nodes. They
visit every occurrence once, and so a visitor sees the nodes of a file in this order. -/
theorem traversals_preorder [Host] :
    (∀ node : Node, node.walk = node :: node.children.flatMap Node.walk) ∧
    (∀ nodes, Node.walkAll nodes = nodes.flatMap Node.walk) ∧
    (∀ skip nodes, Node.walkOutside skip nodes = (Rose.cut skip (nodes.map Node.rose)).flatMap Rose.preorder) ∧
    (∀ nodes, Node.walkOutside (fun _ => false) nodes = Node.walkAll nodes) ∧
    (∀ body, Occurrence.Visits (Node.walkAll body) (Occurrence.Stands body)) ∧
    (∀ skip body, Occurrence.Visits (Node.walkOutside skip body) (Occurrence.StandsOutside skip body)) ∧
    ∀ (active : ActiveRule) (visit : Node → List Finding) (unit : SourceUnit) (probe : Probe),
      ({ active with rule := { active.rule with inspect := Rule.visiting visit } } : ActiveRule).check unit probe =
        .ok (((unit.tree.body.map Node.rose).flatMap Rose.preorder).flatMap fun node =>
          (visit node).map (active.issue unit.path)) := by
  refine ⟨Node.walk_eq_cons, Node.walkAll_eq_flatMap, Node.walkOutside_eq_preorder, Node.walkOutside_none,
    Occurrence.visits_walkAll, Occurrence.visits_walkOutside, fun active visit unit probe => ?_⟩
  rw [← Node.walkAll_eq_preorder, ← List.map_flatMap]
  rfl

end BoundaryLint
