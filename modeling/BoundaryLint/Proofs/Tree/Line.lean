import BoundaryLint.Tree.Node

/-!
Trees up to line numbers: two trees are equal but for their lines when they become equal once all
their nodes are put on the same line.
-/

namespace BoundaryLint.Node

mutual

def onLine (line : Nat) : Node → Node
  | .alias ref _ => .alias ref line
  | .atom name _ => .atom name line
  | .literal value _ => .literal value line
  | .var name _ => .var name line
  | .call target function args block elseBlock _ =>
    .call (optionOnLine line target) function (listOnLine line args) (listOnLine line block)
      (listOnLine line elseBlock) line
  | .pair key value _ => .pair (onLine line key) (onLine line value) line
  | .directive kind base refs options _ => .directive kind base refs (listOnLine line options) line
  | .moduleDecl name body _ => .moduleDecl name (listOnLine line body) line
  | .definition kind name params body guard _ =>
    .definition kind name (listOnLine line params) (listOnLine line body) (optionOnLine line guard) line
  | .clause params body guard _ =>
    .clause (listOnLine line params) (listOnLine line body) (optionOnLine line guard) line
  | .anonymous clauses _ => .anonymous (listOnLine line clauses) line
  | .withForm clauses body elseClauses _ =>
    .withForm (listOnLine line clauses) (listOnLine line body) (listOnLine line elseClauses) line
  | .binary op left right _ => .binary op (onLine line left) (onLine line right) line
  | .unary op operand _ => .unary op (onLine line operand) line
  | .list items _ => .list (listOnLine line items) line
  | .tuple items _ => .tuple (listOnLine line items) line
  | .map entries struct update _ =>
    .map (listOnLine line entries) (optionOnLine line struct) (optionOnLine line update) line
  | .sequence body _ => .sequence (listOnLine line body) line

def listOnLine (line : Nat) : List Node → List Node
  | [] => []
  | node :: rest => onLine line node :: listOnLine line rest

def optionOnLine (line : Nat) : Option Node → Option Node
  | none => none
  | some node => some (onLine line node)

end

theorem listOnLine_eq_map (line : Nat) (nodes : List Node) :
    listOnLine line nodes = nodes.map (onLine line) := by
  induction nodes with
  | nil => rfl
  | cons node rest ih => simp [listOnLine, ih]

theorem optionOnLine_eq_map (line : Nat) (node : Option Node) :
    optionOnLine line node = node.map (onLine line) := by
  cases node <;> rfl

end BoundaryLint.Node
