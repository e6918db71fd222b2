import BoundaryLint.Grammar.Lowering
import BoundaryLint.Grammar.Reading

/-!
Bodies: rows of statements, or of clauses when the body holds `->` heads. They are read over a given
reader of expressions.
-/

namespace BoundaryLint.Grammar

/-- A reader of expressions: the power that operators must exceed, whether a `do` belongs to an
outer call, and the tokens. -/
abbrev ExpressionReader := Nat → Bool → List Token → Reading (Node × List Token)

inductive BodyItem where
  | statement (node : Node)
  | head (params : List Node) (line : Nat)
deriving Repr

namespace BodyItem

def isHead : BodyItem → Bool
  | .head _ _ => true
  | .statement _ => false

def node? : BodyItem → Option Node
  | .statement node => some node
  | .head _ _ => none

def statements : List BodyItem → List Node
  | .statement node :: rest => node :: statements rest
  | _ => []

end BodyItem

def splitGuard (params : List Node) : List Node × Option Node :=
  match params.getLast? with
  | some (.binary op left right _) =>
    if op = "when" then (params.dropLast ++ [left], some right) else (params, none)
  | _ => (params, none)

/-- Each head with the statements after it. -/
def clausesOf : List BodyItem → List Node
  | [] => []
  | .statement _ :: rest => clausesOf rest
  | .head params line :: rest =>
    .clause (splitGuard params).1 (BodyItem.statements rest) (splitGuard params).2 line ::
      clausesOf rest

def assemble (items : List BodyItem) : List Node :=
  if items.any BodyItem.isHead then clausesOf items else items.filterMap BodyItem.node?

inductive BodyState where
  | empty
  | statements
  | clauses
deriving DecidableEq, Repr

def allowHead (state : BodyState) (after : List Token) : Reading Unit :=
  if state = .statements then .error (faultBefore after .expressionBeforeClause) else .ok ()

def BodyState.addStatement : BodyState → BodyState
  | .clauses => .clauses
  | _ => .statements

def endsBody (ends : List String) (token : Token) : Bool :=
  (token.kind == .keyword || token.kind == .punctuation) && ends.contains token.text

def checkSeparator (ends : List String) : List Token → Reading Unit
  | [] => .ok ()
  | token :: _ =>
    if token.newlineBefore || endsBody ends token || token.is .punctuation ";" then .ok ()
    else .error (faultAt token (.unexpected token.text))

def moreParams (expr : ExpressionReader) (tokens : List Token) : Reading (List Node × List Token) :=
  match afterComma? tokens with
  | some after => commaItems (expr 0 false) (fun _ => false) after
  | none => .ok ([], tokens)

def bodyItems (expr : ExpressionReader) (ends : List String) (state : BodyState)
    (tokens : List Token) : Reading (List BodyItem × List Token) :=
  match tokens with
  | [] => .ok ([], [])
  | token :: rest =>
    if endsBody ends token then .ok ([], token :: rest)
    else if token.is .punctuation ";" then bodyItems expr ends state rest
    else if token.is .operator "->" then do
      allowHead state rest
      let (items, rest) ← bodyItems expr ends .clauses rest
      return (.head [] token.line :: items, rest)
    else do
      let (node, after) ← expr 0 false (token :: rest)
      if startsWith .punctuation "," after || startsWith .operator "->" after then
        let (params, after) ← moreParams expr after
        let after ← expect .operator "->" after
        allowHead state after
        if after.length < rest.length + 1 then
          let (items, rest) ← bodyItems expr ends .clauses after
          return (.head (node :: params) token.line :: items, rest)
        else return ([.head (node :: params) token.line], after)
      else
        checkSeparator ends after
        if after.length < rest.length + 1 then
          let (items, rest) ← bodyItems expr ends state.addStatement after
          return (.statement node :: items, rest)
        else return ([.statement node], after)
termination_by tokens.length

def body (expr : ExpressionReader) (ends : List String) (tokens : List Token) :
    Reading (List Node × List Token) := do
  let (items, rest) ← bodyItems expr ends .empty tokens
  return (assemble items, rest)

def sectionKeywords : List String := ["else", "rescue", "catch", "after"]

def sectionEnds : List String := sectionKeywords ++ ["end"]

def sections (expr : ExpressionReader) (tokens : List Token) : Reading (List Node × List Token) :=
  match tokens with
  | [] => .ok ([], [])
  | token :: rest =>
    if token.kind == .keyword && sectionKeywords.contains token.text then do
      let (nodes, after) ← body expr sectionEnds rest
      if after.length < rest.length + 1 then
        let (more, rest) ← sections expr after
        return (nodes ++ more, rest)
      else return (nodes, after)
    else .ok ([], token :: rest)
termination_by tokens.length

def doBlock (expr : ExpressionReader) (tokens : List Token) :
    Reading ((List Node × List Node) × List Token) := do
  let tokens ← expect .keyword "do" tokens
  let (nodes, tokens) ← body expr sectionEnds tokens
  let (more, tokens) ← sections expr tokens
  let tokens ← expect .keyword "end" tokens
  return ((nodes, more), tokens)

def optionalDoBlock (expr : ExpressionReader) (outerDo : Bool) (tokens : List Token) :
    Reading ((List Node × List Node) × List Token) :=
  if !outerDo && startsWith .keyword "do" tokens then doBlock expr tokens
  else .ok (([], []), tokens)

end BoundaryLint.Grammar
