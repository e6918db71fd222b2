import BoundaryLint.Proofs.Tree.Moving
import BoundaryLint.Tree.Occurrence
import BoundaryLint.Tree.SyntaxTree
import Mathlib

/-!
The lines of visited nodes. Every traversal of a row of trees visits nodes whose lines are lines of the trees.
-/

namespace BoundaryLint

namespace Node

theorem line_mem_lines (node : Node) : node.line ∈ node.lines := by
  cases node <;> simp [line, lines]

theorem mem_listLines {line : Nat}
    {nodes : List Node} : line ∈ listLines nodes ↔ ∃ node ∈ nodes, line ∈ node.lines := by
  induction nodes with
  | nil => simp [listLines]
  | cons node rest ih => simp [listLines, ih]

theorem optionLines_eq (node : Option Node) : optionLines node = listLines node.toList := by
  cases node <;> simp [optionLines, listLines]

theorem listLines_append (first second : List Node) :
    listLines (first ++ second) = listLines first ++ listLines second := by
  induction first with
  | nil => rfl
  | cons node rest ih => simp [listLines, ih]

/-- The lines below a node are lines of the node. -/
theorem lines_children_subset (node : Node) : listLines node.children ⊆ node.lines := by
  cases node <;> intro line mem <;>
    simp only [children, lines, listLines, listLines_append, ← optionLines_eq, List.append_nil, List.mem_append,
      List.mem_cons, List.not_mem_nil] at mem ⊢ <;>
    tauto

theorem lines_pending_subset (node : Node) (rest : List Node) :
    listLines (node.children ++ rest) ⊆ listLines (node :: rest) := by
  intro line mem
  rw [listLines_append, List.mem_append] at mem
  exact List.mem_append.mpr (mem.imp_left fun below => lines_children_subset node below)

/-- What a traversal visits lies on lines of the trees that it started with. -/
theorem lines_walkAll_subset (pending : List Node) : ∀ node ∈ walkAll pending, node.lines ⊆ listLines pending := by
  fun_induction walkAll pending with
  | case1 => simp
  | case2 node rest ih =>
    intro visited mem
    rcases List.mem_cons.mp mem with rfl | later
    · exact List.subset_append_left _ _
    · exact List.Subset.trans (ih visited later) (lines_pending_subset node rest)

theorem lines_walkOutside_subset (skip : Node → Bool) (pending : List Node) :
    ∀ node ∈ walkOutside skip pending, node.lines ⊆ listLines pending := by
  fun_induction walkOutside skip pending with
  | case1 => simp
  | case2 node rest _ ih =>
    intro visited mem
    exact List.Subset.trans (ih visited mem) (List.subset_append_right _ _)
  | case3 node rest _ ih =>
    intro visited mem
    rcases List.mem_cons.mp mem with rfl | later
    · exact List.subset_append_left _ _
    · exact List.Subset.trans (ih visited later) (lines_pending_subset node rest)

end Node

namespace Occurrence

theorem lines_walk_subset (pending : List Occurrence) :
    ∀ occurrence ∈ walk pending, occurrence.node.lines ⊆ Node.listLines (pending.map node) := by
  fun_induction walk pending with
  | case1 => simp
  | case2 occurrence rest ih =>
    intro visited mem
    rcases List.mem_cons.mp mem with rfl | later
    · exact List.subset_append_left _ _
    · have below := ih visited later
      rw [List.map_append, children, map_node_numbered] at below
      exact List.Subset.trans below (Node.lines_pending_subset occurrence.node _)

theorem lines_ofBody_subset (body : List Node) :
    ∀ occurrence ∈ ofBody body, occurrence.node.lines ⊆ Node.listLines body := by
  have visited := lines_walk_subset (numbered [] 0 body)
  rwa [map_node_numbered] at visited

theorem node_mem_of_mem_numbered {place : List Nat} {start : Nat} {nodes : List Node} {occurrence : Occurrence}
    (mem : occurrence ∈ numbered place start nodes) : occurrence.node ∈ nodes := by
  rw [← map_node_numbered place start nodes]
  exact List.mem_map_of_mem mem

end Occurrence

namespace SyntaxTree

theorem lines_nodes_subset (tree : SyntaxTree) : ∀ node ∈ tree.nodes, node.lines ⊆ Node.listLines tree.body :=
  Node.lines_walkAll_subset tree.body

end SyntaxTree

end BoundaryLint
