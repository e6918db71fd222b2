import BoundaryLint.Proofs.Grammar.Reading
import BoundaryLint.Proofs.Token.Writing
import Mathlib.Tactic.Simps.Basic

/-!
Writing trees as source text, on one line. Operands, targets of calls and guards always stand in
parentheses; whether other parts do is left to a style. The module holds the writer and the trees
that it can write.
-/

namespace BoundaryLint.Grammar

/-- The tokens of a tree, given whether a blank stands before them, and how deep the readers nest
that read them. -/
structure Phrase where
  tokens : Bool → List Token
  depth : Nat

namespace Phrase

@[simps] def mark (text : String) (space : Bool) : Token := ⟨.punctuation, text, 1, space, false⟩

@[simps] def symbol (text : String) (space : Bool) : Token := ⟨.operator, text, 1, space, false⟩

@[simps] def identifier (name : String) (space : Bool) : Token := ⟨.identifier, name, 1, space, false⟩

@[simps] def keyword (text : String) (space : Bool) : Token := ⟨.keyword, text, 1, space, false⟩

def single (kind : Token.Kind) (text : String) : Phrase :=
  ⟨fun space => [⟨kind, text, 1, space, false⟩], 1⟩

def deepest (phrases : List Phrase) : Nat := phrases.foldr (fun phrase depth => max phrase.depth depth) 0

def rowOf (divider : Token) (space : Bool) (phrases : List Phrase) : List Token :=
  row divider space (phrases.map tokens)

def parens (phrase : Phrase) : Phrase where
  tokens space := mark "(" space :: (phrase.tokens false ++ [mark ")" false])
  depth := phrase.depth + 1

def link (segment : String) : List Token := [symbol "." false, ⟨.alias, segment, 1, false, false⟩]

def dotted (space : Bool) : List String → List Token
  | [] => []
  | segment :: rest => ⟨.alias, segment, 1, space, false⟩ :: rest.flatMap link

def reference (segments : List String) : Phrase := ⟨fun space => dotted space segments, 1⟩

def literal : Literal → Phrase
  | .text value => single .string value
  | .integer value => single .integer (toString value)
  | .boolean true => single .literal "true"
  | .boolean false => single .literal "false"
  | .nil => single .literal "nil"
  | .float _ => single .float ""

def arguments (args : List Phrase) : List Token :=
  mark "(" false :: (rowOf comma false args ++ [mark ")" false])

def call (function : String) (args : List Phrase) : Phrase where
  tokens space := identifier function space :: arguments args
  depth := deepest args + 1

def remote (target : Phrase) (function : String) (args : List Phrase) : Phrase where
  tokens space := target.parens.tokens space ++ symbol "." false :: identifier function false :: arguments args
  depth := max target.parens.depth (deepest args + 1)

def applied (target : Phrase) (args : List Phrase) : Phrase where
  tokens space := target.parens.tokens space ++ symbol "." false :: arguments args
  depth := max target.parens.depth (deepest args + 1)

def indexed (target index : Phrase) : Phrase where
  tokens space := target.parens.tokens space ++ mark "[" false :: (index.tokens false ++ [mark "]" false])
  depth := max target.parens.depth (index.depth + 1)

def dotCall (target : Phrase) (function : String) (args : List Phrase) : Phrase where
  tokens space := target.tokens space ++ symbol "." false :: identifier function false :: arguments args
  depth := max target.depth (deepest args + 1)

def dotBraces (target : Phrase) (items : List Phrase) : Phrase where
  tokens space := target.tokens space ++
    symbol "." false :: mark "\x7b" false :: (rowOf comma false items ++ [mark "\x7d" false])
  depth := max target.depth (deepest items + 1)

def bracketed (opener closer : String) (items : List Phrase) : Phrase where
  tokens space := mark opener space :: (rowOf comma false items ++ [mark closer false])
  depth := deepest items + 1

def operatorTokens (op : String) : List Token :=
  if op = "not in" then [symbol "not" true, symbol "in" true] else [symbol op true]

def binary (op : String) (left right : Phrase) : Phrase where
  tokens space := left.parens.tokens space ++ (operatorTokens op ++ right.parens.tokens true)
  depth := max left.parens.depth (right.parens.depth + 1)

def unary (op : String) (operand : Phrase) : Phrase where
  tokens space := symbol op space :: operand.parens.tokens (op = "not")
  depth := operand.parens.depth + 1

def sequence (statements : List Phrase) : Phrase where
  tokens space := mark "(" space :: (rowOf semicolon false statements ++ [mark ")" false])
  depth := deepest statements + 1

def keyed (key : String) (value : Phrase) : Phrase where
  tokens space := ⟨.key, key, 1, space, false⟩ :: value.tokens true
  depth := value.depth

def map (struct : List String) (update : Option Phrase) (entries : List Phrase) : Phrase where
  tokens space :=
    symbol "%" space :: (dotted false struct ++ mark "\x7b" false ::
      ((match update with
        | none => rowOf comma false entries
        | some changed => changed.parens.tokens false ++ symbol "|" true :: rowOf comma true entries) ++
        [mark "\x7d" false]))
  depth := max ((update.map fun changed => changed.parens.depth).getD 0) (deepest entries) + 1

def heads (params : List Phrase) (last : Option Phrase) (guard : Option Phrase) : List Phrase :=
  match last, guard with
  | some last, some guard => params.dropLast ++ [binary "when" last guard]
  | _, _ => params

theorem heads_unguarded (params : List Phrase) (last : Option Phrase) : heads params last none = params := by
  cases last <;> rfl

def clause (heads statements : List Phrase) : Phrase where
  tokens space := rowOf comma space heads ++ arrow :: rowOf semicolon true statements
  depth := max (deepest heads) (deepest statements)

def anonymous (clauses : List Phrase) : Phrase where
  tokens space := keyword "fn" space :: (rowOf semicolon true clauses ++ [keyword "end" true])
  depth := deepest clauses + 1

def block (statements : List Phrase) : List Token :=
  keyword "do" true :: (rowOf semicolon true statements ++ [keyword "end" true])

def moduleDecl (name : List String) (statements : List Phrase) : Phrase where
  tokens space := identifier "defmodule" space :: (dotted true name ++ block statements)
  depth := max 1 (deepest statements) + 1

def signature (name : String) (params : List Phrase) : Option Phrase → Phrase
  | none => call name params
  | some guard =>
    { tokens := fun space =>
        (call name params).tokens space ++ symbol "when" true :: guard.parens.tokens true
      depth := max (call name params).depth (guard.parens.depth + 1) }

def definition (kind : DefinitionKind) (head : Phrase) (statements : List Phrase) : Phrase where
  tokens space := identifier kind.keyword space :: (head.tokens true ++ block statements)
  depth := max head.depth (deepest statements) + 1

end Phrase

/-- How trees are written where there is a choice. -/
structure Style where
  /-- A part that may stand bare is put in parentheses. -/
  wraps : Node → Bool
  /-- A map entry with a word for its key is written with an arrow. -/
  arrows : Node → Bool

def Style.part (style : Style) (node : Node) (phrase : Phrase) : Phrase :=
  if style.wraps node && !node.isPair then phrase.parens else phrase

def Style.parts (style : Style) (nodes : List Node) (phrases : List Phrase) : List Phrase :=
  List.zipWith style.part nodes phrases

def Style.entry (style : Style) (pair key value : Node) (keyPhrase valuePhrase : Phrase) : Phrase :=
  match key with
  | .atom name _ =>
    if style.arrows pair then .binary "=>" keyPhrase valuePhrase
    else .keyed name (style.part value valuePhrase)
  | _ => .binary "=>" keyPhrase valuePhrase

end BoundaryLint.Grammar

namespace BoundaryLint.Node

open Grammar

mutual

/-- The tree as a phrase. Forms that cannot be written are left empty. -/
def phrase (style : Style) : Node → Phrase
  | .var name _ => .single .identifier name
  | .alias ref _ => .reference ref.segments
  | .atom name _ => .single .atom name
  | .literal value _ => .literal value
  | .call none function args _ _ _ => .call function (style.parts args (phrases style args))
  | .call (some target) function args _ _ _ =>
    if function = "." then .applied (phrase style target) (style.parts args (phrases style args))
    else if function = "[]" then
      match style.parts args (phrases style args) with
      | index :: _ => .indexed (phrase style target) index
      | [] => ⟨fun _ => [], 0⟩
    else .remote (phrase style target) function (style.parts args (phrases style args))
  | .pair (.atom key _) value _ => .keyed key (style.part value (phrase style value))
  | .list items _ => .bracketed "[" "]" (style.parts items (phrases style items))
  | .tuple items _ => .bracketed "\x7b" "\x7d" (style.parts items (phrases style items))
  | .map pairs (some (.alias ref _)) update _ =>
    .map ref.segments (optionalPhrase style update) (entries style pairs)
  | .map pairs _ update _ => .map [] (optionalPhrase style update) (entries style pairs)
  | .binary op left right _ => .binary op (phrase style left) (phrase style right)
  | .unary op operand _ => .unary op (phrase style operand)
  | .sequence body _ => .sequence (style.parts body (phrases style body))
  | .clause params body guard _ =>
    .clause (Phrase.heads (style.parts params (phrases style params)) (phrases style params).getLast?
      (optionalPhrase style guard)) (style.parts body (phrases style body))
  | .anonymous clauses _ => .anonymous (phrases style clauses)
  | .moduleDecl (some ref) body _ =>
    .moduleDecl ref.segments (style.parts body (phrases style body))
  | .definition kind name params body guard _ =>
    .definition kind (.signature name (style.parts params (phrases style params))
      (optionalPhrase style guard)) (style.parts body (phrases style body))
  | _ => ⟨fun _ => [], 0⟩

def phrases (style : Style) : List Node → List Phrase
  | [] => []
  | node :: rest => phrase style node :: phrases style rest

def optionalPhrase (style : Style) : Option Node → Option Phrase
  | none => none
  | some node => some (phrase style node)

def entries (style : Style) : List Node → List Phrase
  | [] => []
  | .pair key value line :: rest =>
    style.entry (.pair key value line) key value (phrase style key) (phrase style value) ::
      entries style rest
  | _ :: rest => entries style rest

end

def text (style : Style) (node : Node) : String :=
  String.ofList (Token.written ((node.phrase style).tokens false))

theorem phrases_eq_map (style : Style) (nodes : List Node) :
    phrases style nodes = nodes.map (phrase style) := by
  induction nodes with
  | nil => rfl
  | cons node rest ih => simp [phrases, ih]

theorem parts_eq_map (style : Style) (nodes : List Node) :
    style.parts nodes (phrases style nodes) =
      nodes.map fun node => style.part node (node.phrase style) := by
  rw [phrases_eq_map]
  induction nodes with
  | nil => rfl
  | cons node rest ih =>
    simp only [Style.parts, List.map_cons, List.zipWith_cons_cons] at ih ⊢
    rw [ih]

theorem heads_guarded (style : Style) (init : List Node) (last guard : Node) :
    Phrase.heads (style.parts (init ++ [last]) (phrases style (init ++ [last])))
      (phrases style (init ++ [last])).getLast? (optionalPhrase style (some guard)) =
      (init.map fun node => style.part node (node.phrase style)) ++
        [.binary "when" (last.phrase style) (guard.phrase style)] := by
  rw [parts_eq_map, phrases_eq_map]
  simp [Phrase.heads, optionalPhrase]

def entryPhrase (style : Style) : Node → Phrase
  | .pair key value line =>
    style.entry (.pair key value line) key value (phrase style key) (phrase style value)
  | node => phrase style node

theorem entries_eq_map (style : Style) {nodes : List Node} (pairs : ∀ node ∈ nodes, node.isPair = true) :
    entries style nodes = nodes.map (entryPhrase style) := by
  induction nodes with
  | nil => rfl
  | cons node rest ih =>
    have later := ih fun other member => pairs other (List.mem_cons_of_mem _ member)
    have first := pairs node (by simp)
    cases node with
    | pair key value line => simp [entries, entryPhrase, later]
    | _ => simp [isPair] at first

theorem optionalPhrase_eq_map (style : Style) (node : Option Node) :
    optionalPhrase style node = node.map (phrase style) := by
  cases node <;> rfl

end BoundaryLint.Node

namespace BoundaryLint.Grammar

def isIdentifier (name : String) : Bool :=
  name.toList.head?.any Token.isIdentifierStart && Token.isWord name.toList &&
    Token.wordKind name = .identifier

def isAtomWord (name : String) : Bool :=
  name.toList.head?.any Token.isWordStart && Token.isWord name.toList

/-- The names whose calls are read as forms of their own. -/
def specialNames : List String :=
  "defmodule" :: DefinitionKind.all.map (·.keyword) ++ DirectiveKind.all.map (·.keyword) ++ ["with"]

def isOneLine (ref : ModuleRef) : Bool := ref.segments.all fun segment => !segment.toList.contains '\n'

def isNumber : Node → Bool
  | .literal (.integer _) _ | .literal (.float _) _ => true
  | _ => false

def isGuarded : Node → Bool
  | .binary op _ _ _ => op = "when"
  | _ => false

/-- Where a tree stands in a larger one. -/
inductive Role where
  | expression
  | item
  | entry
  | clause
deriving DecidableEq, Repr

inductive Printable : Role → Node → Prop
  | var {name : String} {line : Nat} (known : isIdentifier name = true) :
      Printable .expression (.var name line)
  | reference {ref : ModuleRef} {line : Nat} (oneLine : isOneLine ref = true) :
      Printable .expression (.alias ref line)
  | atom {name : String} {line : Nat} (word : isAtomWord name = true) :
      Printable .expression (.atom name line)
  | integer {value : Nat} {line : Nat} (short : (toString value).length ≤ Numeral.digitLimit) :
      Printable .expression (.literal (.integer value) line)
  | boolean {value : Bool} {line : Nat} : Printable .expression (.literal (.boolean value) line)
  | nil {line : Nat} : Printable .expression (.literal .nil line)
  | text {value : String} {line : Nat} (plain : Token.isPlain '"' value.toList = true) :
      Printable .expression (.literal (.text value) line)
  | call {function : String} {args : List Node} {line : Nat} (known : isIdentifier function = true)
      (ordinary : function ∉ specialNames) (printable : ∀ arg ∈ args, Printable .expression arg) :
      Printable .expression (.call none function args [] [] line)
  | remote {target : Node} {function : String} {args : List Node} {line : Nat}
      (known : isIdentifier function = true) (callee : Printable .expression target)
      (printable : ∀ arg ∈ args, Printable .expression arg) :
      Printable .expression (.call (some target) function args [] [] line)
  | applied {target : Node} {args : List Node} {line : Nat} (callee : Printable .expression target)
      (printable : ∀ arg ∈ args, Printable .expression arg) :
      Printable .expression (.call (some target) "." args [] [] line)
  | indexed {target index : Node} {line : Nat} (container : Printable .expression target)
      (printable : Printable .expression index) :
      Printable .expression (.call (some target) "[]" [index] [] [] line)
  | list {items : List Node} {line : Nat} (printable : ∀ item ∈ items, Printable .item item) :
      Printable .expression (.list items line)
  | tuple {items : List Node} {line : Nat} (printable : ∀ item ∈ items, Printable .expression item) :
      Printable .expression (.tuple items line)
  | map {entries : List Node} {update : Option Node} {line : Nat}
      (printable : ∀ entry ∈ entries, Printable .entry entry)
      (changed : ∀ node ∈ update, Printable .expression node) :
      Printable .expression (.map entries none update line)
  | struct {entries : List Node} {ref : ModuleRef} {update : Option Node} {line here : Nat}
      (oneLine : isOneLine ref = true) (printable : ∀ entry ∈ entries, Printable .entry entry)
      (changed : ∀ node ∈ update, Printable .expression node) :
      Printable .expression (.map entries (some (.alias ref here)) update line)
  | binary {op : String} {left right : Node} {line : Nat} (known : (binding? op).isSome = true)
      (first : Printable .expression left) (second : Printable .expression right) :
      Printable .expression (.binary op left right line)
  | unary {op : String} {operand : Node} {line : Nat} (known : op ∈ ["!", "^", "not", "+", "&", "-"])
      (unsigned : op = "-" → isNumber operand = false) (printable : Printable .expression operand) :
      Printable .expression (.unary op operand line)
  | sequence {body : List Node} {line : Nat} (several : body.length ≠ 1)
      (printable : ∀ node ∈ body, Printable .expression node) :
      Printable .expression (.sequence body line)
  | anonymous {clauses : List Node} {line : Nat} (nonempty : clauses ≠ [])
      (printable : ∀ clause ∈ clauses, Printable .clause clause) :
      Printable .expression (.anonymous clauses line)
  | moduleDecl {ref : ModuleRef} {body : List Node} {line : Nat} (oneLine : isOneLine ref = true)
      (printable : ∀ node ∈ body, Printable .expression node) :
      Printable .expression (.moduleDecl (some ref) body line)
  | definition {kind : DefinitionKind} {name : String} {params body : List Node}
      {guard : Option Node} {line : Nat} (known : isIdentifier name = true)
      (ordinary : name ∉ specialNames) (inputs : ∀ param ∈ params, Printable .expression param)
      (guarded : ∀ node ∈ guard, Printable .expression node)
      (printable : ∀ node ∈ body, Printable .expression node) :
      Printable .expression (.definition kind name params body guard line)
  | plainItem {node : Node} (printable : Printable .expression node) : Printable .item node
  | keyedItem {key : String} {value : Node} {line here : Nat} (word : isAtomWord key = true)
      (printable : Printable .expression value) :
      Printable .item (.pair (.atom key here) value line)
  | entry {key value : Node} {line : Nat} (first : Printable .expression key)
      (second : Printable .expression value) : Printable .entry (.pair key value line)
  | clause {params body : List Node} {guard : Option Node} {line : Nat}
      (inputs : ∀ param ∈ params, Printable .expression param)
      (guarded : ∀ node ∈ guard, Printable .expression node) (headed : guard.isSome → params ≠ [])
      (unguarded : guard = none → ∀ last ∈ params.getLast?, isGuarded last = false)
      (printable : ∀ node ∈ body, Printable .expression node) :
      Printable .clause (.clause params body guard line)

theorem Printable.isPair {node : Node} (printable : Printable .entry node) : node.isPair = true := by
  cases printable
  rfl

end BoundaryLint.Grammar
