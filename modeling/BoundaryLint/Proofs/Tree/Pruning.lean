import BoundaryLint.Proofs.Tree.Place
import Mathlib

/-!
Traversals that stop at some nodes. The places of what they visit are kept here, which the traversal of the nodes alone
forgets: an occurrence is visited exactly if no skipped node stands on the way down to it, and the visited ones come in
the order of the full traversal.
-/

namespace BoundaryLint.Occurrence

def walkOutside (skip : Node → Bool) (pending : List Occurrence) : List Occurrence :=
  match pending with
  | [] => []
  | top :: rest =>
    if skip top.node then walkOutside skip rest else top :: walkOutside skip (top.children ++ rest)
termination_by Node.weightList (pending.map node)
decreasing_by
  · have weight := Node.weight_eq_children top.node
    simp only [List.map_cons, Node.weightList]
    omega
  · have weight := Node.weight_eq_children top.node
    simp only [children, List.map_cons, List.map_append, map_node_numbered, Node.weightList, Node.weightList_append]
    omega

def CoversOutside (skip : Node → Bool) (first second : Occurrence) : Prop :=
  skip first.node = false ∧
    Relation.ReflTransGen (fun parent child => child ∈ parent.children ∧ skip child.node = false) first second

variable {skip : Node → Bool} {first second occurrence : Occurrence} {pending : List Occurrence}

section Nodes

theorem map_node_children (occurrence : Occurrence) : occurrence.children.map node = occurrence.node.children :=
  map_node_numbered _ _ _

theorem map_node_walk (pending : List Occurrence) : (walk pending).map node = Node.walkAll (pending.map node) := by
  fun_induction walk pending with
  | case1 => rw [List.map_nil, Node.walkAll]
  | case2 top rest ih =>
    rw [List.map_cons, ih, List.map_append, map_node_children, List.map_cons, Node.walkAll]

theorem map_node_walkOutside (skip : Node → Bool) (pending : List Occurrence) :
    (walkOutside skip pending).map node = Node.walkOutside skip (pending.map node) := by
  fun_induction walkOutside skip pending with
  | case1 => rw [List.map_nil, Node.walkOutside]
  | case2 top rest skipped ih => rw [ih, List.map_cons, Node.walkOutside, if_pos skipped]
  | case3 top rest visited ih =>
    rw [List.map_cons, ih, List.map_append, map_node_children, List.map_cons, Node.walkOutside, if_neg visited]

theorem map_node_ofBody (body : List Node) : (ofBody body).map node = Node.walkAll body := by
  rw [ofBody, map_node_walk, map_node_numbered]

end Nodes

section Visited

theorem coversOutside_iff : first.CoversOutside skip second ↔
    skip first.node = false ∧ (second = first ∨ ∃ child ∈ first.children, child.CoversOutside skip second) := by
  rw [CoversOutside, Relation.ReflTransGen.cases_head_iff, eq_comm (a := first)]
  simp only [CoversOutside, and_assoc]

theorem mem_walkOutside :
    occurrence ∈ walkOutside skip pending ↔ ∃ top ∈ pending, top.CoversOutside skip occurrence := by
  fun_induction walkOutside skip pending with
  | case1 => simp
  | case2 top rest skipped ih =>
    have blocked : ¬ top.CoversOutside skip occurrence := fun outside => absurd skipped (by simp [outside.1])
    rw [ih, List.exists_mem_cons_iff, or_iff_right blocked]
  | case3 top rest visited ih =>
    rw [List.mem_cons, ih, List.exists_mem_cons_iff, coversOutside_iff]
    simp only [Bool.eq_false_iff.mpr visited, true_and, List.mem_append, or_and_right, exists_or, or_assoc]

theorem walk_append (pending later : List Occurrence) : walk (pending ++ later) = walk pending ++ walk later := by
  fun_induction walk pending with
  | case1 => rfl
  | case2 top rest ih => rw [List.cons_append, walk, ← List.append_assoc, ih, List.cons_append]

/-- Nothing is visited that the full traversal does not visit, and in no other order. -/
theorem walkOutside_sublist (skip : Node → Bool) (pending : List Occurrence) :
    (walkOutside skip pending).Sublist (walk pending) := by
  fun_induction walkOutside skip pending with
  | case1 => exact List.nil_sublist _
  | case2 top rest skipped ih =>
    rw [walk, walk_append]
    exact (ih.trans (List.sublist_append_right _ _)).cons _
  | case3 top rest visited ih =>
    rw [walk]
    exact ih.cons_cons _

end Visited

end BoundaryLint.Occurrence
