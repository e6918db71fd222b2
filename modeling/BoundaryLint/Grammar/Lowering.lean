import BoundaryLint.Tree.Node

/-!
Calls of the special forms become nodes of their own: modules, definitions, directives and `with`.
A call that does not have the shape of its form stays a call.
-/

namespace BoundaryLint.Grammar

def trailingKeywords (args : List Node) : List Node :=
  match args.getLast? with
  | some (.list items _) => if items.all Node.isPair then items else []
  | _ => []

def bodyOf (call : Call) : List Node :=
  if call.block.isEmpty then
    (Node.lookup? "do" (trailingKeywords (call.args.drop 1))).toList
  else call.block ++ call.elseBlock

def lowerModule (call : Call) : Node :=
  match call.args with
  | [] => call.toNode
  | .alias ref _ :: _ => .moduleDecl (some ref) (bodyOf call) call.line
  | _ :: _ => .moduleDecl none (bodyOf call) call.line

def splitWhen : Node → Node × Option Node
  | .binary op left right line =>
    if op = "when" then (left, some right) else (.binary op left right line, none)
  | node => (node, none)

def headParts? : Node → Option (String × List Node)
  | .call none name params [] [] _ => some (name, params)
  | .var name _ => some (name, [])
  | _ => none

def lowerDefinition (kind : DefinitionKind) (call : Call) : Node :=
  match call.args with
  | [] => call.toNode
  | head :: _ =>
    match headParts? (splitWhen head).1 with
    | some (name, params) =>
      .definition kind name params (bodyOf call) (splitWhen head).2 call.line
    | none => call.toNode

def groupRefs (base : ModuleRef) (items : List Node) : List ModuleRef :=
  items.filterMap fun
    | .alias ref _ => some (base.append ref)
    | _ => none

def lowerDirective (kind : DirectiveKind) (call : Call) : Node :=
  match call.args with
  | [] => call.toNode
  | first :: rest =>
    let options := trailingKeywords rest
    match first with
    | .alias ref _ => .directive kind (some ref) [ref] options call.line
    | .call (some (.alias base _)) "\x7b\x7d" items _ _ _ =>
      .directive kind (some base) (groupRefs base items) options call.line
    | _ => .directive kind none [] options call.line

def lowerWith (call : Call) : Node :=
  let keywords := trailingKeywords call.args
  match call.block, Node.lookup? "do" keywords with
  | [], some body =>
    .withForm call.args.dropLast [body] (Node.lookup? "else" keywords).toList call.line
  | block, _ => .withForm call.args block call.elseBlock call.line

def lower (call : Call) : Node :=
  if call.function = "defmodule" then lowerModule call
  else match DefinitionKind.ofKeyword? call.function with
    | some kind => lowerDefinition kind call
    | none =>
      match DirectiveKind.ofKeyword? call.function with
      | some kind => lowerDirective kind call
      | none => if call.function = "with" then lowerWith call else call.toNode

end BoundaryLint.Grammar
