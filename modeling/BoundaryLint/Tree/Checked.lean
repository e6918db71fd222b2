import BoundaryLint.Tree.Node

/-!
Nodes from parts that are not checked yet. The reader of source text builds only well-formed nodes;
these constructors are for nodes that come from elsewhere.
-/

namespace BoundaryLint.Node

inductive Fault where
  | line (found : Int)
  | emptyName
  | emptyFunction
  | emptyOperator
  | directiveKind (found : String)
  | definitionKind (found : String)
deriving DecidableEq, Repr

def Fault.message : Fault → String
  | .line found => s!"line must be >= 1, got {found}"
  | .emptyName => "name must not be empty"
  | .emptyFunction => "function must not be empty"
  | .emptyOperator => "op must not be empty"
  | .directiveKind found => s!"unknown directive kind {Text.quoted found}"
  | .definitionKind found => s!"unknown definition kind {Text.quoted found}"

def checkLine (line : Int) : Except Fault Nat :=
  if line < 1 then .error (.line line) else .ok line.toNat

def atLine (build : Nat → Node) (line : Int) : Except Fault Node := return build (← checkLine line)

def makeVar (name : String) (line : Int) : Except Fault Node :=
  if name = "" then .error .emptyName else atLine (.var name) line

def makeCall (target : Option Node) (function : String) (args block elseBlock : List Node)
    (line : Int) : Except Fault Node :=
  if function = "" then .error .emptyFunction
  else atLine (.call target function args block elseBlock) line

def makeDirective (kind : String) (base : Option ModuleRef) (refs : List ModuleRef)
    (options : List Node) (line : Int) : Except Fault Node :=
  match DirectiveKind.ofKeyword? kind with
  | none => .error (.directiveKind kind)
  | some kind => atLine (.directive kind base refs options) line

def makeDefinition (kind name : String) (params body : List Node) (guard : Option Node)
    (line : Int) : Except Fault Node :=
  match DefinitionKind.ofKeyword? kind with
  | none => .error (.definitionKind kind)
  | some kind =>
    if name = "" then .error .emptyName
    else atLine (.definition kind name params body guard) line

def makeBinary (op : String) (left right : Node) (line : Int) : Except Fault Node :=
  if op = "" then .error .emptyOperator else atLine (.binary op left right) line

def makeUnary (op : String) (operand : Node) (line : Int) : Except Fault Node :=
  if op = "" then .error .emptyOperator else atLine (.unary op operand) line

end BoundaryLint.Node
