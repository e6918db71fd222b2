import BoundaryLint.Proofs.Tree.Difference
import BoundaryLint.Tree.Occurrence
import BoundaryLint.Tree.SyntaxTree
import Mathlib

/-!
Trees without the options of their directives. No traversal enters a directive, so it visits the same nodes in the
bare tree; and trees that differ in a list hidden in a directive have one bare tree.
-/

namespace BoundaryLint

namespace Node

mutual

def bare : Node → Node
  | .alias ref line => .alias ref line
  | .atom name line => .atom name line
  | .literal value line => .literal value line
  | .var name line => .var name line
  | .call target function args block elseBlock line =>
    .call (optionBare target) function (listBare args) (listBare block) (listBare elseBlock) line
  | .pair key value line => .pair (bare key) (bare value) line
  | .directive kind base refs _ line => .directive kind base refs [] line
  | .moduleDecl name body line => .moduleDecl name (listBare body) line
  | .definition kind name params body guard line =>
    .definition kind name (listBare params) (listBare body) (optionBare guard) line
  | .clause params body guard line => .clause (listBare params) (listBare body) (optionBare guard) line
  | .anonymous clauses line => .anonymous (listBare clauses) line
  | .withForm clauses body elseClauses line =>
    .withForm (listBare clauses) (listBare body) (listBare elseClauses) line
  | .binary op left right line => .binary op (bare left) (bare right) line
  | .unary op operand line => .unary op (bare operand) line
  | .list items line => .list (listBare items) line
  | .tuple items line => .tuple (listBare items) line
  | .map entries struct update line => .map (listBare entries) (optionBare struct) (optionBare update) line
  | .sequence body line => .sequence (listBare body) line

def listBare : List Node → List Node
  | [] => []
  | node :: rest => bare node :: listBare rest

def optionBare : Option Node → Option Node
  | none => none
  | some node => some (bare node)

end

@[simp] theorem listBare_eq_map (nodes : List Node) : listBare nodes = nodes.map bare := by
  induction nodes with
  | nil => rfl
  | cons node rest ih => simp [listBare, ih]

@[simp] theorem optionBare_eq_map (node : Option Node) : optionBare node = node.map bare := by
  cases node <;> rfl

@[simp] theorem line_bare (node : Node) : node.bare.line = node.line := by
  cases node <;> rfl

@[simp] theorem children_bare (node : Node) : node.bare.children = node.children.map bare := by
  cases node <;> simp [bare, children, Option.toList_map]

section Traversal

theorem walkAll_bare (pending : List Node) : walkAll (pending.map bare) = (walkAll pending).map bare := by
  fun_induction walkAll pending with
  | case1 => rw [List.map_nil, walkAll]
  | case2 node rest ih => rw [List.map_cons, walkAll, children_bare, ← List.map_append, ih, List.map_cons]

theorem walkOutside_bare {skip : Node → Bool} (blind : ∀ node, skip node.bare = skip node) (pending : List Node) :
    walkOutside skip (pending.map bare) = (walkOutside skip pending).map bare := by
  fun_induction walkOutside skip pending with
  | case1 => rw [List.map_nil, walkOutside]
  | case2 node rest skipped ih => rw [List.map_cons, walkOutside, blind, if_pos skipped, ih]
  | case3 node rest visited ih =>
    rw [List.map_cons, walkOutside, blind, if_neg visited, children_bare, ← List.map_append, ih, List.map_cons]

end Traversal

section Hidden

variable {swap : List Node → List Node → Prop} {node node' : Node}

theorem hollow_bare (node : Node) : node.bare.hollow = node.hollow.bare := by
  cases node <;> simp [bare, hollow, Function.comp_def, blank]

theorem parts_bare (node : Node) : node.bare.parts = if node.isDirective then [] else node.parts.map bare := by
  cases node <;> simp [bare, parts, isDirective, children, Option.toList_map]

theorem isDirective_of_form (form : node.hollow = node'.hollow) : node.isDirective = node'.isDirective := by
  have shown : ∀ node : Node, node.hollow.isDirective = node.isDirective := fun node => by cases node <;> rfl
  rw [← shown node, form, shown node']

/-- A bare node is its form with the bare parts, which a directive does not have. -/
theorem bare_eq_of_form (form : node.hollow = node'.hollow)
    (same : node.isDirective = false → node.parts.map bare = node'.parts.map bare) : node.bare = node'.bare := by
  apply eq_of_form
  · rw [hollow_bare, form, ← hollow_bare]
  · rw [parts_bare, parts_bare, ← isDirective_of_form form]
    split
    · rfl
    · next other => exact same (Bool.eq_false_iff.mpr other)

/-- With the same entries the trees are the same. -/
theorem Differ.eq_of_swap {hidden : Bool} (differ : Differ swap hidden node node')
    (same : ∀ entries entries', swap entries entries' → entries = entries') : node = node' := by
  induction differ with
  | here line listLine swaps => rw [same _ _ swaps]
  | inside form split split' differs ih => exact eq_of_form form (by rw [split, split', ih])

/-- Where the difference is hidden, the bare trees are the same. -/
theorem Differ.bare_eq {hidden : Bool} (differ : Differ swap hidden node node') (covered : hidden = true) :
    node.bare = node'.bare := by
  induction differ with
  | here line listLine swaps => cases covered
  | inside form split split' differs ih =>
    apply bare_eq_of_form form
    intro plain
    rw [plain, Bool.or_false] at covered
    rw [split, split']
    simp [ih covered]

end Hidden

end Node

namespace Occurrence

open Node (bare)

def stripped (occurrence : Occurrence) : Occurrence := ⟨occurrence.place, occurrence.node.bare⟩

theorem numbered_bare (place : List Nat) (start : Nat) (nodes : List Node) :
    numbered place start (nodes.map bare) = (numbered place start nodes).map stripped := by
  induction nodes generalizing start with
  | nil => rfl
  | cons node rest ih =>
    rw [List.map_cons, numbered, numbered, ih, List.map_cons]
    rfl

theorem children_stripped (occurrence : Occurrence) :
    occurrence.stripped.children = occurrence.children.map stripped := by
  rw [children, stripped, Node.children_bare, numbered_bare]
  rfl

theorem walk_stripped (pending : List Occurrence) : walk (pending.map stripped) = (walk pending).map stripped := by
  fun_induction walk pending with
  | case1 => rw [List.map_nil, walk]
  | case2 occurrence rest ih => rw [List.map_cons, walk, children_stripped, ← List.map_append, ih, List.map_cons]

theorem ofBody_bare (body : List Node) : ofBody (body.map bare) = (ofBody body).map stripped := by
  rw [ofBody, numbered_bare, walk_stripped]
  rfl

end Occurrence

end BoundaryLint
