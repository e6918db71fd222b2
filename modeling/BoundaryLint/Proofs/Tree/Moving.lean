import BoundaryLint.Proofs.Tree.Line

/-!
Trees moved to other lines, and the lines of all nodes of a tree. To move a tree, every node goes to the line
that a function gives for its own.
-/

namespace BoundaryLint.Node

mutual

def moved (move : Nat → Nat) : Node → Node
  | .alias ref line => .alias ref (move line)
  | .atom name line => .atom name (move line)
  | .literal value line => .literal value (move line)
  | .var name line => .var name (move line)
  | .call target function args block elseBlock line =>
    .call (optionMoved move target) function (listMoved move args) (listMoved move block)
      (listMoved move elseBlock) (move line)
  | .pair key value line => .pair (moved move key) (moved move value) (move line)
  | .directive kind base refs options line => .directive kind base refs (listMoved move options) (move line)
  | .moduleDecl name body line => .moduleDecl name (listMoved move body) (move line)
  | .definition kind name params body guard line =>
    .definition kind name (listMoved move params) (listMoved move body) (optionMoved move guard) (move line)
  | .clause params body guard line =>
    .clause (listMoved move params) (listMoved move body) (optionMoved move guard) (move line)
  | .anonymous clauses line => .anonymous (listMoved move clauses) (move line)
  | .withForm clauses body elseClauses line =>
    .withForm (listMoved move clauses) (listMoved move body) (listMoved move elseClauses) (move line)
  | .binary op left right line => .binary op (moved move left) (moved move right) (move line)
  | .unary op operand line => .unary op (moved move operand) (move line)
  | .list items line => .list (listMoved move items) (move line)
  | .tuple items line => .tuple (listMoved move items) (move line)
  | .map entries struct update line =>
    .map (listMoved move entries) (optionMoved move struct) (optionMoved move update) (move line)
  | .sequence body line => .sequence (listMoved move body) (move line)

def listMoved (move : Nat → Nat) : List Node → List Node
  | [] => []
  | node :: rest => moved move node :: listMoved move rest

def optionMoved (move : Nat → Nat) : Option Node → Option Node
  | none => none
  | some node => some (moved move node)

end

variable (move : Nat → Nat)

@[simp] theorem listMoved_eq_map (nodes : List Node) : listMoved move nodes = nodes.map (moved move) := by
  induction nodes with
  | nil => rfl
  | cons node rest ih => simp [listMoved, ih]

@[simp] theorem optionMoved_eq_map (node : Option Node) : optionMoved move node = node.map (moved move) := by
  cases node <;> rfl

mutual

/-- To put a tree on one line is to move all its nodes there. -/
theorem onLine_eq_moved (line : Nat) (node : Node) : node.onLine line = node.moved fun _ => line := by
  cases node <;> simp only [onLine, moved, onLine_eq_moved, listOnLine_eq_moved, optionOnLine_eq_moved]

theorem listOnLine_eq_moved (line : Nat) (nodes : List Node) :
    listOnLine line nodes = listMoved (fun _ => line) nodes := by
  cases nodes <;> simp only [listOnLine, listMoved, onLine_eq_moved, listOnLine_eq_moved]

theorem optionOnLine_eq_moved (line : Nat) (node : Option Node) :
    optionOnLine line node = optionMoved (fun _ => line) node := by
  cases node <;> simp only [optionOnLine, optionMoved, onLine_eq_moved]

end

@[simp] theorem line_moved (node : Node) : (node.moved move).line = move node.line := by
  cases node <;> rfl

@[simp] theorem isPair_moved (node : Node) : (node.moved move).isPair = node.isPair := by
  cases node <;> rfl

@[simp] theorem isClause_moved (node : Node) : (node.moved move).isClause = node.isClause := by
  cases node <;> rfl

mutual

def lines : Node → List Nat
  | .alias _ line | .atom _ line | .literal _ line | .var _ line => [line]
  | .call target _ args block elseBlock line =>
    line :: (optionLines target ++ listLines args ++ listLines block ++ listLines elseBlock)
  | .pair key value line => line :: (lines key ++ lines value)
  | .directive _ _ _ options line => line :: listLines options
  | .moduleDecl _ body line => line :: listLines body
  | .definition _ _ params body guard line =>
    line :: (listLines params ++ listLines body ++ optionLines guard)
  | .clause params body guard line => line :: (listLines params ++ listLines body ++ optionLines guard)
  | .anonymous clauses line => line :: listLines clauses
  | .withForm clauses body elseClauses line =>
    line :: (listLines clauses ++ listLines body ++ listLines elseClauses)
  | .binary _ left right line => line :: (lines left ++ lines right)
  | .unary _ operand line => line :: lines operand
  | .list items line => line :: listLines items
  | .tuple items line => line :: listLines items
  | .map entries struct update line =>
    line :: (listLines entries ++ optionLines struct ++ optionLines update)
  | .sequence body line => line :: listLines body

def listLines : List Node → List Nat
  | [] => []
  | node :: rest => lines node ++ listLines rest

def optionLines : Option Node → List Nat
  | none => []
  | some node => lines node

end

mutual

theorem lines_moved (node : Node) : (node.moved move).lines = node.lines.map move := by
  cases node <;> simp only [moved, lines, lines_moved, listLines_moved, optionLines_moved, List.map_cons,
    List.map_append, List.map_nil]

theorem listLines_moved (nodes : List Node) : listLines (listMoved move nodes) = (listLines nodes).map move := by
  cases nodes <;> simp only [listMoved, listLines, lines_moved, listLines_moved, List.map_append, List.map_nil]

theorem optionLines_moved (node : Option Node) :
    optionLines (optionMoved move node) = (optionLines node).map move := by
  cases node <;> simp only [optionMoved, optionLines, lines_moved, List.map_nil]

end

end BoundaryLint.Node
