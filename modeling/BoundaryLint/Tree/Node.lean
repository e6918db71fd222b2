import BoundaryLint.Tree.ModuleRef

/-!
Syntax nodes of Elixir source. Every node carries the line it starts on. The forms that rules look
at (modules, definitions, directives, `with`) have nodes of their own; all other calls share one.
-/

namespace BoundaryLint

inductive Literal where
  | text (value : String)
  | integer (value : Int)
  | float (value : Float)
  | boolean (value : Bool)
  | nil
deriving Repr, Inhabited

inductive DefinitionKind where
  | publicFunction
  | privateFunction
  | publicMacro
  | privateMacro
deriving DecidableEq, Repr

namespace DefinitionKind

def keyword : DefinitionKind → String
  | .publicFunction => "def"
  | .privateFunction => "defp"
  | .publicMacro => "defmacro"
  | .privateMacro => "defmacrop"

def all : List DefinitionKind := [.publicFunction, .privateFunction, .publicMacro, .privateMacro]

def ofKeyword? (word : String) : Option DefinitionKind := all.find? (·.keyword = word)

def isPrivate : DefinitionKind → Bool
  | .privateFunction | .privateMacro => true
  | .publicFunction | .publicMacro => false

end DefinitionKind

inductive DirectiveKind where
  | aliasing
  | importing
  | using
  | requiring
deriving DecidableEq, Repr

namespace DirectiveKind

def keyword : DirectiveKind → String
  | .aliasing => "alias"
  | .importing => "import"
  | .using => "use"
  | .requiring => "require"

def all : List DirectiveKind := [.aliasing, .importing, .using, .requiring]

def ofKeyword? (word : String) : Option DirectiveKind := all.find? (·.keyword = word)

end DirectiveKind

inductive Node where
  | alias (ref : ModuleRef) (line : Nat)
  | atom (name : String) (line : Nat)
  | literal (value : Literal) (line : Nat)
  | var (name : String) (line : Nat)
  /-- A call, local without a target. Trailing keywords are one list argument; `elseBlock` holds the
  sections after the `do` block. -/
  | call (target : Option Node) (function : String) (args block elseBlock : List Node) (line : Nat)
  | pair (key value : Node) (line : Nat)
  /-- A directive. `base` is the module that a group of references shares, `options` the trailing
  keyword pairs. -/
  | directive (kind : DirectiveKind) (base : Option ModuleRef) (refs : List ModuleRef)
      (options : List Node) (line : Nat)
  | moduleDecl (name : Option ModuleRef) (body : List Node) (line : Nat)
  | definition (kind : DefinitionKind) (name : String) (params body : List Node)
      (guard : Option Node) (line : Nat)
  | clause (params body : List Node) (guard : Option Node) (line : Nat)
  | anonymous (clauses : List Node) (line : Nat)
  | withForm (clauses body elseClauses : List Node) (line : Nat)
  | binary (op : String) (left right : Node) (line : Nat)
  | unary (op : String) (operand : Node) (line : Nat)
  | list (items : List Node) (line : Nat)
  | tuple (items : List Node) (line : Nat)
  /-- A map or, with a name, a struct; `update` is the map that it changes. -/
  | map (entries : List Node) (struct update : Option Node) (line : Nat)
  | sequence (body : List Node) (line : Nat)
deriving Repr, Inhabited

namespace Node

def line : Node → Nat
  | .alias _ line | .atom _ line | .literal _ line | .var _ line | .call _ _ _ _ _ line
  | .pair _ _ line | .directive _ _ _ _ line | .moduleDecl _ _ line | .definition _ _ _ _ _ line
  | .clause _ _ _ line | .anonymous _ line | .withForm _ _ _ line | .binary _ _ _ line
  | .unary _ _ line | .list _ line | .tuple _ line | .map _ _ _ line | .sequence _ line => line

/-- The direct children in source order. Directives are leaves. -/
def children : Node → List Node
  | .alias _ _ | .atom _ _ | .literal _ _ | .var _ _ | .directive _ _ _ _ _ => []
  | .call target _ args block elseBlock _ => target.toList ++ args ++ block ++ elseBlock
  | .pair key value _ => [key, value]
  | .moduleDecl _ body _ => body
  | .definition _ _ params body guard _ => params ++ guard.toList ++ body
  | .clause params body guard _ => params ++ guard.toList ++ body
  | .anonymous clauses _ => clauses
  | .withForm clauses body elseClauses _ => clauses ++ body ++ elseClauses
  | .binary _ left right _ => [left, right]
  | .unary _ operand _ => [operand]
  | .list items _ | .tuple items _ => items
  | .map entries struct update _ => struct.toList ++ update.toList ++ entries
  | .sequence body _ => body

def keyName? : Node → Option String
  | .pair (.atom name _) _ _ => some name
  | _ => none

def lookup? (key : String) (pairs : List Node) : Option Node :=
  pairs.findSome? fun
    | .pair (.atom name _) value _ => if name = key then some value else none
    | _ => none

def isPair : Node → Bool
  | .pair _ _ _ => true
  | _ => false

def isClause : Node → Bool
  | .clause _ _ _ _ => true
  | _ => false

def isMatchHead : Node → Bool
  | .binary op _ _ _ => op = "<-"
  | _ => false

end Node

structure Call where
  target : Option Node
  function : String
  args : List Node
  block : List Node
  elseBlock : List Node
  line : Nat
deriving Repr

namespace Call

def qualifiedName (call : Call) : String :=
  match call.target with
  | some (.alias ref _) => s!"{ref.name}.{call.function}"
  | some (.atom name _) => s!":{name}.{call.function}"
  | some (.var name _) => s!"{name}.{call.function}"
  | _ => call.function

def module? (call : Call) : Option ModuleRef :=
  match call.target with
  | some (.alias ref _) => some ref
  | _ => none

def toNode (call : Call) : Node :=
  .call call.target call.function call.args call.block call.elseBlock call.line

end Call

namespace Node

def call? : Node → Option Call
  | .call target function args block elseBlock line =>
    some ⟨target, function, args, block, elseBlock, line⟩
  | _ => none

theorem call?_toNode (call : Call) : call.toNode.call? = some call := rfl

end Node

end BoundaryLint
