import BoundaryLint.Grammar.Body
import BoundaryLint.Grammar.Operator

/-!
Expressions, read by binding power. Every form is read over a reader of the expressions inside it;
tying that reader to itself, one level deeper each time, gives the reader of all expressions up to a
depth.
-/

namespace BoundaryLint.Grammar

inductive Argument where
  | plain (node : Node)
  | keyword (pair : Node)
deriving Repr

namespace Argument

def node : Argument → Node
  | .plain node => node
  | .keyword pair => pair

def plain? : Argument → Option Node
  | .plain node => some node
  | .keyword _ => none

def keyword? : Argument → Option Node
  | .keyword pair => some pair
  | .plain _ => none

end Argument

/-- The arguments with all keywords gathered into one list at the end. -/
def gatherKeywords (arguments : List Argument) : List Node :=
  let plain := arguments.filterMap Argument.plain?
  match arguments.filterMap Argument.keyword? with
  | [] => plain
  | pair :: more => plain ++ [.list (pair :: more) pair.line]

section Forms

variable (expr : ExpressionReader)

def pair (outerDo : Bool) (tokens : List Token) : Reading (Node × List Token) := do
  let (key, tokens) ← next tokens
  let (value, tokens) ← expr 0 outerDo tokens
  return (.pair (.atom key.text key.line) value key.line, tokens)

def argument (outerDo : Bool) (tokens : List Token) : Reading (Argument × List Token) := do
  if startsWithKind .key tokens then
    let (node, tokens) ← pair expr outerDo tokens
    return (.keyword node, tokens)
  else
    let (node, tokens) ← expr 0 outerDo tokens
    return (.plain node, tokens)

def bracketed (closer : String) (tokens : List Token) : Reading (List Argument × List Token) := do
  let (items, tokens) ← commaItems (argument expr false) (startsWith .punctuation closer) tokens
  let tokens ← expect .punctuation closer tokens
  return (items, tokens)

def parenArgs (tokens : List Token) : Reading (List Node × List Token) := do
  let tokens ← expect .punctuation "(" tokens
  let (items, tokens) ← bracketed expr ")" tokens
  return (gatherKeywords items, tokens)

/-- Arguments without parentheses. A `do` after them belongs to their call. -/
def bareArgs (tokens : List Token) : Reading (List Node × List Token) := do
  let (items, tokens) ← commaItems (argument expr true) (fun _ => false) tokens
  return (gatherKeywords items, tokens)

def argumentKinds : List Token.Kind :=
  [.identifier, .alias, .integer, .float, .string, .charlist, .sigil, .atom, .literal, .key]

def argumentOperators : List String := ["%", "@", "&", "!", "^", "<<"]

/-- The tokens start arguments without parentheses: on the same line, after a blank, and with
something that cannot continue the expression before. -/
def startsBareArgs : List Token → Bool
  | [] => false
  | token :: rest =>
    if token.newlineBefore || !token.spaceBefore then false
    else if argumentKinds.contains token.kind then true
    else match token.kind with
      | .keyword => token.text == "fn"
      | .punctuation => token.text == "[" || token.text == "\x7b" || token.text == "("
      | .operator =>
        if token.text == "not" then !startsWith .operator "in" rest
        else if argumentOperators.contains token.text then true
        else if token.text == "-" || token.text == "+" then
          match rest with
          | [] => false
          | following :: _ => !following.spaceBefore
        else false
      | _ => false

def callArgs (tokens : List Token) : Reading (Option (List Node) × List Token) := do
  let adjacent := match tokens with
    | [] => false
    | token :: _ => token.is .punctuation "(" && !token.spaceBefore
  if adjacent then
    let (args, tokens) ← parenArgs expr tokens
    return (some args, tokens)
  else if startsBareArgs tokens then
    let (args, tokens) ← bareArgs expr tokens
    return (some args, tokens)
  else return (none, tokens)

def identifier (outerDo : Bool) (token : Token) (tokens : List Token) :
    Reading (Node × List Token) := do
  let (args, tokens) ← callArgs expr tokens
  if args.isNone && (outerDo || !startsWith .keyword "do" tokens) then
    return (.var token.text token.line, tokens)
  else
    let ((block, more), tokens) ← optionalDoBlock expr outerDo tokens
    return (lower ⟨none, token.text, args.getD [], block, more, token.line⟩, tokens)

def morePairs (outerDo : Bool) (tokens : List Token) : Reading (List Node × List Token) := do
  match afterComma? tokens with
  | none => return ([], tokens)
  | some after =>
    if startsWithKind .key after then
      let (node, rest) ← pair expr outerDo after
      if rest.length < tokens.length then
        let (more, rest) ← morePairs outerDo rest
        return (node :: more, rest)
      else return ([node], rest)
    else return ([], tokens)
termination_by tokens.length

def keywordList (outerDo : Bool) (tokens : List Token) (line : Nat) :
    Reading (Node × List Token) := do
  let (first, tokens) ← pair expr outerDo tokens
  let (more, tokens) ← morePairs expr outerDo tokens
  return (.list (first :: more) line, tokens)

/-- An anonymous function, after `fn`. Without heads its statements are one clause. -/
def anonymous (line : Nat) (tokens : List Token) : Reading (Node × List Token) := do
  let (nodes, tokens) ← body expr ["end"] tokens
  let tokens ← expect .keyword "end" tokens
  let clauses := nodes.filter Node.isClause
  if clauses.isEmpty then return (.anonymous [.clause [] nodes none line] line, tokens)
  else return (.anonymous clauses line, tokens)

def unwrap (nodes : List Node) (line : Nat) : Node :=
  match nodes with
  | [node] => if node.isClause then .sequence [node] line else node
  | nodes => .sequence nodes line

def group (token : Token) (tokens : List Token) : Reading (Node × List Token) := do
  if token.text = "(" then
    let (nodes, tokens) ← body expr [")"] tokens
    let tokens ← expect .punctuation ")" tokens
    return (unwrap nodes token.line, tokens)
  else if token.text = "[" then
    let (items, tokens) ← bracketed expr "]" tokens
    return (.list (items.map Argument.node) token.line, tokens)
  else if token.text = "\x7b" then
    let (items, tokens) ← bracketed expr "\x7d" tokens
    return (.tuple (gatherKeywords items) token.line, tokens)
  else .error (faultAt token (.unexpected token.text))

def wordLiteral (text : String) : Literal :=
  if text = "true" then .boolean true
  else if text = "false" then .boolean false
  else .nil

/-- The value of a numeral, or its fault at the top of the text. -/
def numeral {α : Type} (read : Except Numeral.Fault α) (literal : α → Literal) (token : Token)
    (tokens : List Token) : Reading (Node × List Token) :=
  match read with
  | .ok value => .ok (.literal (literal value) token.line, tokens)
  | .error fault => .error (faultAtTop (.numeral fault))

def primary (outerDo : Bool) (token : Token) (tokens : List Token) : Reading (Node × List Token) :=
  match token.kind with
  | .identifier => identifier expr outerDo token tokens
  | .alias =>
    match ModuleRef.ofName? token.text with
    | some ref => .ok (.alias ref token.line, tokens)
    | none => .ok (.var token.text token.line, tokens)
  | .atom => .ok (.atom token.text token.line, tokens)
  | .integer => numeral (Numeral.integer token.text) (fun n => .integer n) token tokens
  | .float => numeral (Numeral.float token.text) .float token tokens
  | .string | .charlist | .sigil => .ok (.literal (.text token.text) token.line, tokens)
  | .literal => .ok (.literal (wordLiteral token.text) token.line, tokens)
  | .key => keywordList expr outerDo (token :: tokens) token.line
  | .keyword =>
    if token.text = "fn" then anonymous expr token.line tokens
    else .error (faultAt token (.unexpected token.text))
  | .punctuation => group expr token tokens
  | .operator => .error (faultAt token (.unexpected token.text))

def afterDot (outerDo : Bool) (target : Node) (tokens : List Token) :
    Reading (Node × List Token) := do
  let (token, rest) ← next tokens
  let plain (function : String) (args : List Node) : Node :=
    .call (some target) function args [] [] token.line
  match token.kind with
  | .alias =>
    match target with
    | .alias ref line =>
      if valid : ModuleRef.isSegment token.text = true then
        return (.alias (ref.child token.text valid) line, rest)
      else .error (faultAt token (.invalidAliasSegment token.text))
    | _ => return (plain token.text [], rest)
  | .identifier =>
    let (args, rest) ← callArgs expr rest
    let ((block, more), rest) ← optionalDoBlock expr outerDo rest
    return (.call (some target) token.text (args.getD []) block more token.line, rest)
  | .punctuation =>
    if token.text = "(" then
      let (args, rest) ← parenArgs expr tokens
      return (plain "." args, rest)
    else if token.text = "\x7b" then
      let (items, rest) ← bracketed expr "\x7d" rest
      return (plain "\x7b\x7d" (gatherKeywords items), rest)
    else .error (faultAt token (.unexpectedAfterDot token.text))
  | .keyword | .operator =>
    if token.text = "." then .error (faultAt token (.unexpectedAfterDot token.text))
    else
      let (args, rest) ← callArgs expr rest
      return (plain token.text (args.getD []), rest)
  | _ => .error (faultAt token (.unexpectedAfterDot token.text))

def postfixes (outerDo : Bool) (node : Node) (tokens : List Token) : Reading (Node × List Token) :=
  match tokens with
  | [] => .ok (node, [])
  | token :: rest =>
    if token.is .operator "." then do
      let (node, after) ← afterDot expr outerDo node rest
      if after.length < rest.length + 1 then postfixes outerDo node after
      else return (node, after)
    else if token.is .punctuation "[" && !token.spaceBefore then do
      let (index, after) ← expr 0 false rest
      let after ← expect .punctuation "]" after
      let node := Node.call (some node) "[]" [index] [] [] token.line
      if after.length < rest.length + 1 then postfixes outerDo node after
      else return (node, after)
    else .ok (node, token :: rest)
termination_by tokens.length

def structSegments (ref : ModuleRef) : List Token → Reading (ModuleRef × List Token)
  | dot :: segment :: rest =>
    if dot.is .operator "." && segment.kind == .alias then
      if valid : ModuleRef.isSegment segment.text = true then
        structSegments (ref.child segment.text valid) rest
      else .error (faultAtTop (.invalidModuleSegment segment.text))
    else .ok (ref, dot :: segment :: rest)
  | tokens => .ok (ref, tokens)

def structName (tokens : List Token) : Reading (Node × List Token) := do
  let (token, rest) ← next tokens
  match token.kind with
  | .alias =>
    match ModuleRef.ofName? token.text with
    | none => .error (faultAt token (.invalidStructName token.text))
    | some ref =>
      let (ref, rest) ← structSegments ref rest
      return (.alias ref token.line, rest)
  | .identifier => return (.var token.text token.line, rest)
  | _ =>
    if token.is .operator "@" then
      let (name, rest) ← next rest
      if name.kind = .identifier then
        return (.unary "@" (.var name.text token.line) token.line, rest)
      else .error (faultAt name (.notAnIdentifier name.text))
    else .error (faultAt token (.unexpectedInStruct token.text))

def optionalStructName (tokens : List Token) : Reading (Option Node × List Token) := do
  if startsWith .punctuation "\x7b" tokens then return (none, tokens)
  let (name, tokens) ← structName tokens
  return (some name, tokens)

def mapEntry : Node → Node
  | .binary op left right line =>
    if op = "=>" then .pair left right line else .binary op left right line
  | node => node

def mapItem (tokens : List Token) : Reading (Node × List Token) := do
  let (item, tokens) ← argument expr false tokens
  return (match item with
    | .plain node => mapEntry node
    | .keyword pair => pair, tokens)

def mapEntries (tokens : List Token) : Reading (List Node × List Token) := do
  let (entries, tokens) ← commaItems (mapItem expr) (startsWith .punctuation "\x7d") tokens
  let tokens ← expect .punctuation "\x7d" tokens
  return (entries, tokens)

def mapBody (tokens : List Token) : Reading ((Option Node × List Node) × List Token) := do
  if startsWith .punctuation "\x7d" tokens || startsWithKind .key tokens then
    let (entries, tokens) ← mapEntries expr tokens
    return ((none, entries), tokens)
  else
    let (first, tokens) ← expr mapUpdateFloor false tokens
    if startsWith .operator "|" tokens then
      let (entries, tokens) ← mapEntries expr (tokens.drop 1)
      return ((some first, entries), tokens)
    else match afterComma? tokens with
      | some tokens =>
        let (entries, tokens) ← mapEntries expr tokens
        return ((none, mapEntry first :: entries), tokens)
      | none =>
        let tokens ← expect .punctuation "\x7d" tokens
        return ((none, [mapEntry first]), tokens)

def mapLiteral (line : Nat) (tokens : List Token) : Reading (Node × List Token) := do
  let (struct, tokens) ← optionalStructName tokens
  let tokens ← expect .punctuation "\x7b" tokens
  let ((update, entries), tokens) ← mapBody expr tokens
  return (.map entries struct update line, tokens)

def bitstring (line : Nat) (tokens : List Token) : Reading (Node × List Token) := do
  let (items, tokens) ← commaItems (expr 0 false) (startsWith .operator ">>") tokens
  let tokens ← expect .operator ">>" tokens
  return (.call none "<<>>" items [] [] line, tokens)

/-- A prefix operator on its operand; a minus before a number belongs to the number. -/
def prefixed (op : String) (operand : Node) (line : Nat) : Node :=
  if op = "-" then
    match operand with
    | .literal (.integer value) _ => .literal (.integer (-value)) line
    | .literal (.float value) _ => .literal (.float (-value)) line
    | operand => .unary op operand line
  else .unary op operand line

def operand (outerDo : Bool) (tokens : List Token) : Reading (Node × List Token) := do
  let (token, rest) ← next tokens
  if token.kind = .operator then
    if prefixOperators.contains token.text then
      let (node, rest) ← expr prefixFloor outerDo rest
      return (prefixed token.text node token.line, rest)
    else if token.text = "&" then
      let (node, rest) ← expr captureFloor outerDo rest
      return (.unary "&" node token.line, rest)
    else if token.text = "@" then
      let (first, rest) ← next rest
      let (node, rest) ← primary expr outerDo first rest
      let (node, rest) ← postfixes expr outerDo node rest
      return (.unary "@" node token.line, rest)
    else if token.text = "%" then
      let (node, rest) ← mapLiteral expr token.line rest
      postfixes expr outerDo node rest
    else if token.text = "<<" then
      let (node, rest) ← bitstring expr token.line rest
      postfixes expr outerDo node rest
    else .error (faultAt token (.unexpected token.text))
  else
    let (node, rest) ← primary expr outerDo token rest
    postfixes expr outerDo node rest

def operators (floor : Nat) (outerDo : Bool) (left : Node) (tokens : List Token) :
    Reading (Node × List Token) :=
  match binaryOperator? tokens with
  | none => .ok (left, tokens)
  | some (op, binding, rest) =>
    if binding.power ≤ floor then .ok (left, tokens)
    else do
      let (right, after) ← expr binding.rightFloor outerDo rest
      let node := Node.binary op left right left.line
      if after.length < tokens.length then operators floor outerDo node after
      else return (node, after)
termination_by tokens.length

end Forms

/-- Expressions nested up to a depth. -/
def expression : Nat → ExpressionReader
  | 0 => fun _ _ _ => .error (faultAtTop .nestingTooDeep)
  | depth + 1 => fun floor outerDo tokens => do
    let (left, tokens) ← operand (expression depth) outerDo tokens
    operators (expression depth) floor outerDo left tokens

end BoundaryLint.Grammar
