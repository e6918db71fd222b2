import BoundaryLint.Proofs.Grammar.FormReading
import BoundaryLint.Proofs.Grammar.Layout
import BoundaryLint.Proofs.Grammar.Lookahead

/-!
Calls of any name with arguments in parentheses or without, and with a block. What stands in parentheses, and in a
block, may be any tokens that are read there.
-/

namespace BoundaryLint.Grammar

/-- Neither a postfix nor a binary operator comes next. -/
structure Loose (rest : List Token) : Prop where
  noPostfix : startsPostfix rest = false
  noOperator : binaryOperator? rest = none

/-- Arguments without parentheses end here. -/
structure Ended (rest : List Token) : Prop extends Loose rest where
  noComma : afterComma? rest = none

/-- A block that comes next belongs to an outer call. -/
def Yields (outerDo : Bool) (rest : List Token) : Prop := (!outerDo && startsWith .keyword "do" rest) = false

theorem Closed.loose {rest : List Token} (closed : Closed rest) : Loose rest :=
  ⟨closed.startsPostfix, closed.binaryOperator?⟩

theorem Closed.yields {rest : List Token} (closed : Closed rest) (outerDo : Bool) : Yields outerDo rest := by
  rw [Yields, closed.noBlock, Bool.and_false]

theorem yields_true (rest : List Token) : Yields true rest := rfl

theorem ended_nil : Ended [] := ⟨⟨rfl, rfl⟩, rfl⟩

theorem loose_comma (rest : List Token) : Loose (comma :: rest) := ⟨rfl, rfl⟩

namespace Phrase

theorem ended_keyword {token : Token} (word : token.kind = .keyword) (rest : List Token) : Ended (token :: rest) := by
  refine ⟨⟨?_, ?_⟩, ?_⟩ <;> simp [startsPostfix, binaryOperator?, afterComma?, Token.is, word]

def enclosed (inside : Phrase) : Phrase where
  tokens space := mark "(" space :: inside.tokens false
  depth := inside.depth + 1

/-- Behind an opening parenthesis the phrase, which ends with the closing one, is read as `node`. -/
def Fills (inside : Phrase) (node : Node) : Prop :=
  group (expression inside.depth) (mark "(" false) (inside.tokens false) = .ok (node, [])

def Lists (inside : Phrase) (nodes : List Node) : Prop :=
  parenArgs (expression inside.depth) (mark "(" false :: inside.tokens false) = .ok (nodes, [])

def Blocks (phrase : Phrase) (nodes more : List Node) : Prop :=
  doBlock (expression phrase.depth) (phrase.tokens true) = .ok ((nodes, more), [])

/-- The phrase is an operand by itself, also as an argument without parentheses. A block behind it belongs to an outer
call. -/
structure Stands (phrase : Phrase) (node : Node) : Prop where
  opened : ∀ space, Opened 1 (phrase.tokens space)
  bare : ∀ rest, startsBareArgs (phrase.tokens true ++ rest) = true
  deep : 0 < phrase.depth
  reads : ∀ {depth}, phrase.depth ≤ depth + 1 → ∀ {outerDo} space {rest}, Yields outerDo rest →
    operand (expression depth) outerDo (phrase.tokens space ++ rest) = postfixes (expression depth) outerDo node rest

structure Offers (phrase : Phrase) (item : Argument) : Prop where
  bare : ∀ rest, startsBareArgs (phrase.tokens true ++ rest) = true
  goes : ∀ closer ∈ [")", "]", "\x7d"], ∀ space rest,
    startsWith .punctuation closer (phrase.tokens space ++ rest) = false
  reads : ∀ {depth}, phrase.depth ≤ depth → ∀ {outerDo} space {rest}, Loose rest → Yields outerDo rest →
    argument (expression depth) outerDo (phrase.tokens space ++ rest) = .ok (item, rest)

theorem Offers.argues {phrase : Phrase} {item : Argument} (offers : phrase.Offers item) : phrase.Argues item where
  reads fits space _ closed := offers.reads fits space closed.loose (closed.yields false)
  goes := offers.goes

theorem Fills.stands {inside : Phrase} {node : Node} (fills : inside.Fills node) : inside.enclosed.Stands node where
  opened _ := opened_cons rfl rfl
  bare _ := rfl
  deep := Nat.succ_pos _
  reads {depth} fits {outerDo} space {rest} _ := by
    have grouped : group (expression depth) (mark "(" space) (inside.tokens false ++ rest) = .ok (node, rest) :=
      group_prolonged rest (Nat.le_of_succ_le_succ fits) rfl fills
    exact operand_primary (by simp) grouped

theorem Blocks.opens {phrase : Phrase} {nodes more : List Node} (blocks : phrase.Blocks nodes more) :
    ∃ opening inside, phrase.tokens true = opening :: inside ∧ opening.kind = .keyword ∧ opening.text = "do" := by
  obtain ⟨inside, opened, -⟩ := bind_eq_ok.mp blocks
  cases tokens : phrase.tokens true with
  | nil =>
    rw [tokens] at opened
    cases opened
  | cons opening more =>
    rw [tokens, expect] at opened
    split at opened
    · next word => exact ⟨opening, more, rfl, by simpa [Token.is] using word⟩
    · cases opened

theorem Blocks.ended {phrase : Phrase} {nodes more : List Node} (blocks : phrase.Blocks nodes more)
    (rest : List Token) :
    Ended (phrase.tokens true ++ rest) := by
  obtain ⟨opening, inside, tokens, word, -⟩ := blocks.opens
  rw [tokens]
  exact ended_keyword word _

theorem stands_reference (ref : ModuleRef) : (reference ref.segments).Stands (.alias ref 1) where
  opened := (reads_reference ref).opened
  bare rest := by
    obtain ⟨segment, more, segments⟩ := List.exists_cons_of_ne_nil ref.nonempty
    rw [segments]
    rfl
  deep := Nat.one_pos
  reads _ _ space _ _ := operand_dotted ref space _

namespace Stands

variable {phrase : Phrase} {node : Node} (stands : phrase.Stands node)

include stands

theorem expression {depth : Nat} (fits : phrase.depth ≤ depth) (floor : Nat) {outerDo : Bool} (space : Bool)
    {rest : List Token} (loose : Loose rest) (yields : Yields outerDo rest) :
    expression depth floor outerDo (phrase.tokens space ++ rest) = .ok (node, rest) := by
  obtain ⟨depth, rfl⟩ : ∃ d, depth = d + 1 := Nat.exists_eq_add_one.mpr (Nat.lt_of_lt_of_le stands.deep fits)
  rw [expression_operand ((stands.reads fits space yields).trans (postfixes_stop loose.noPostfix))]
  exact operators_stop (by simp [loose.noOperator])

theorem offers : phrase.Offers (.plain node) where
  bare := stands.bare
  goes _ closing space _ := startsWith_of_opened (stands.opened space) closing
  reads fits _ space _ loose yields := by
    simp only [argument, startsWithKind_of_opened (stands.opened space), Bool.false_eq_true, if_false,
      stands.expression fits 0 space loose yields, bind, Except.bind, pure, Except.pure]

theorem keyed (key : String) : (keyed key phrase).Offers (.keyword (.pair (.atom key 1) node 1)) where
  bare _ := rfl
  goes _ _ _ _ := by simp [Phrase.keyed, startsWith, Token.is]
  reads fits outerDo space rest loose yields := by
    have value := stands.expression fits 0 true loose yields
    simp [argument, Phrase.keyed, startsWithKind, pair, next, value, bind, Except.bind, pure, Except.pure]

end Stands

section Arguments

variable {ι : Type} {items : List ι} {phrase : ι → Phrase} {value : ι → Argument} {depth : Nat} {tokens rest : List Token}

theorem callArgs_bare {expr : ExpressionReader} (bare : startsBareArgs tokens = true) {nodes : List Node}
    (reads : bareArgs expr tokens = .ok (nodes, rest)) : callArgs expr tokens = .ok (some nodes, rest) := by
  cases tokens with
  | nil => cases bare
  | cons token more =>
    have spaced : token.spaceBefore = true := by
      unfold startsBareArgs at bare
      cases space : token.spaceBefore with
      | true => rfl
      | false => simp [space] at bare
    simp only [callArgs, spaced, Bool.not_true, Bool.and_false, Bool.false_eq_true, if_false, bare, if_true, reads, bind,
      Except.bind, pure, Except.pure]

theorem callArgs_rowOf (offers : ∀ i ∈ items, (phrase i).Offers (value i)) (nonempty : items ≠ [])
    (fits : deepest (items.map phrase) ≤ depth) (ended : Ended rest) :
    callArgs (expression depth) (rowOf comma true (items.map phrase) ++ rest) =
      .ok (some (gatherKeywords (items.map value)), rest) := by
  have bare : startsBareArgs (rowOf comma true (items.map phrase) ++ rest) = true := by
    obtain ⟨first, items, rfl⟩ := List.exists_cons_of_ne_nil nonempty
    have leads := (offers first (by simp)).bare
    cases items with
    | nil => exact leads rest
    | cons second items => simpa [rowOf, row] using leads _
  have read : commaItems (argument (expression depth) true) (fun _ => false)
      (row comma true (items.map fun i => (phrase i).tokens) ++ rest) = .ok (items.map value, rest) :=
    commaItems_rowBefore Loose true
      (fun i member space rest loose => (offers i member).reads (fits_of_deepest fits member) space loose (yields_true rest))
      (by simp) loose_comma ended.toLoose ended.noComma (fun none => absurd none nonempty)
  apply callArgs_bare bare
  simp only [bareArgs, rowOf, List.map_map, Function.comp_def, read, bind, Except.bind, pure, Except.pure]

theorem callArgs_single {phrase : Phrase} {node : Node} (opened : Opened 1 (phrase.tokens true))
    (bare : startsBareArgs (phrase.tokens true ++ rest) = true)
    (reads : expression depth 0 true (phrase.tokens true ++ rest) = .ok (node, rest)) (last : afterComma? rest = none) :
    callArgs (expression depth) (phrase.tokens true ++ rest) = .ok (some [node], rest) := by
  have item : commaItems (argument (expression depth) true) (fun _ => false) (phrase.tokens true ++ rest) =
      .ok ([.plain node], rest) := by
    rw [commaItems]
    simp [argument, startsWithKind_of_opened opened, reads, last, bind, Except.bind, pure, Except.pure]
  have gathered : gatherKeywords [.plain node] = [node] := gatherKeywords_plain [node]
  apply callArgs_bare bare
  simp only [bareArgs, item, gathered, bind, Except.bind, pure, Except.pure]

end Arguments

section Points

/-- The phrase is an operand, also as an argument without parentheses, if a point stands behind it. -/
structure Points (phrase : Phrase) (node : Node) : Prop where
  opened : ∀ space, Opened 1 (phrase.tokens space)
  bare : ∀ rest, startsBareArgs (phrase.tokens true ++ rest) = true
  reads : ∀ {depth}, phrase.depth ≤ depth + 1 → ∀ outerDo space rest,
    operand (expression depth) outerDo (phrase.tokens space ++ symbol "." false :: rest) =
      postfixes (expression depth) outerDo node (symbol "." false :: rest)

theorem Stands.points {phrase : Phrase} {node : Node} (stands : phrase.Stands node) : phrase.Points node where
  opened := stands.opened
  bare := stands.bare
  reads fits _ space _ := stands.reads fits space (by simp [Yields, startsWith, Token.is])

variable {target : Phrase} {callee : Node} {ι : Type} {items : List ι} {phrase : ι → Phrase} {value : ι → Argument}
  {depth : Nat}

theorem operand_dotCall {function : String} (points : target.Points callee)
    (argue : ∀ i ∈ items, (phrase i).Argues (value i)) (fits : target.depth ≤ depth + 1)
    (inner : deepest (items.map phrase) ≤ depth) {outerDo : Bool} (space : Bool) {rest : List Token}
    (yields : Yields outerDo rest) :
    operand (expression depth) outerDo ((dotCall target function (items.map phrase)).tokens space ++ rest) =
      postfixes (expression depth) outerDo
        (.call (some callee) function (gatherKeywords (items.map value)) [] [] 1) rest := by
  have shape : (dotCall target function (items.map phrase)).tokens space ++ rest = target.tokens space ++
      symbol "." false :: Phrase.identifier function false :: (arguments (items.map phrase) ++ rest) := by
    simp [dotCall]
  have called : afterDot (expression depth) outerDo callee
      (Phrase.identifier function false :: (arguments (items.map phrase) ++ rest)) =
      .ok (.call (some callee) function (gatherKeywords (items.map value)) [] [] 1, rest) := by
    have given := callArgs_argued argue inner rest
    have noBlock : optionalDoBlock (expression depth) outerDo rest = .ok (([], []), rest) :=
      if_neg (Bool.not_eq_true _ ▸ yields)
    simp only [afterDot, next, Phrase.identifier, given, noBlock, bind, Except.bind, pure, Except.pure,
      Option.getD_some]
  rw [shape, points.reads fits, postfixes_dot called (by
    simp only [List.length_cons, List.length_append]
    omega)]

theorem operand_dotBraces (points : target.Points callee) (argue : ∀ i ∈ items, (phrase i).Argues (value i))
    (fits : target.depth ≤ depth + 1) (inner : deepest (items.map phrase) ≤ depth) (outerDo space : Bool)
    (rest : List Token) :
    operand (expression depth) outerDo ((dotBraces target (items.map phrase)).tokens space ++ rest) =
      postfixes (expression depth) outerDo
        (.call (some callee) "\x7b\x7d" (gatherKeywords (items.map value)) [] [] 1) rest := by
  have shape : (dotBraces target (items.map phrase)).tokens space ++ rest = target.tokens space ++ symbol "." false ::
      mark "\x7b" false :: (rowOf comma false (items.map phrase) ++ mark "\x7d" false :: rest) := by
    simp [dotBraces]
  have called : afterDot (expression depth) outerDo callee
      (mark "\x7b" false :: (rowOf comma false (items.map phrase) ++ mark "\x7d" false :: rest)) =
      .ok (.call (some callee) "\x7b\x7d" (gatherKeywords (items.map value)) [] [] 1, rest) := by
    have inside := bracketed_rowOf "\x7d" (by decide) argue inner rest
    simp only [afterDot, next, bind, Except.bind, show (mark "\x7b" false).kind = .punctuation from rfl,
      show (mark "\x7b" false).text = "\x7b" from rfl, if_true, inside, pure, Except.pure]
    rfl
  rw [shape, points.reads fits, postfixes_dot called (by
    simp only [List.length_cons, List.length_append]
    omega)]

end Points

inductive Qualifier where
  | alias (ref : ModuleRef)
  | atom (name : String)
  | var (name : String)

namespace Qualifier

def phrase : Qualifier → Phrase
  | .alias ref => .reference ref.segments
  | .atom name => .single .atom name
  | .var name => .single .identifier name

def node : Qualifier → Node
  | .alias ref => .alias ref 1
  | .atom name => .atom name 1
  | .var name => .var name 1

theorem points (qualifier : Qualifier) : qualifier.phrase.Points qualifier.node := by
  cases qualifier with
  | «alias» ref => exact (stands_reference ref).points
  | atom name =>
    refine ⟨fun _ => opened_cons rfl rfl, fun _ => rfl, ?_⟩
    intro depth _ outerDo space rest
    exact operand_primary (by simp) rfl
  | var name =>
    refine ⟨fun _ => opened_cons rfl rfl, fun _ => rfl, ?_⟩
    intro depth _ outerDo space rest
    have noArgs : startsArgs (symbol "." false :: rest) = false := by
      simp [startsArgs, startsBareArgs, Token.is]
    apply operand_primary (by simp)
    simp [primary, Grammar.identifier, callArgs_stop noArgs, startsWith, Token.is, bind, Except.bind, pure, Except.pure]
    rfl

theorem depth_phrase (qualifier : Qualifier) : qualifier.phrase.depth = 1 := by
  cases qualifier <;> rfl

end Qualifier

structure Callee where
  qualifier : Option Qualifier
  function : String

namespace Callee

def tokens (callee : Callee) (space : Bool) : List Token :=
  match callee.qualifier with
  | none => [identifier callee.function space]
  | some qualifier => qualifier.phrase.tokens space ++ [symbol "." false, identifier callee.function false]

/-- The node of a call. A local call of a special form is the node of that form. -/
def node (callee : Callee) (args block more : List Node) : Node :=
  match callee.qualifier with
  | none => lower ⟨none, callee.function, args, block, more, 1⟩
  | some qualifier => .call (some qualifier.node) callee.function args block more 1

def Ordinary (callee : Callee) : Prop := callee.qualifier = none → callee.function ∉ specialNames

theorem node_ordinary {callee : Callee} (ordinary : callee.Ordinary) (args block more : List Node) :
    callee.node args block more =
      .call (callee.qualifier.map Qualifier.node) callee.function args block more 1 := by
  unfold node
  cases qualified : callee.qualifier with
  | none => exact lower_ordinary ⟨none, callee.function, args, block, more, 1⟩ (ordinary qualified)
  | some qualifier => rfl

theorem opened (callee : Callee) (space : Bool) (rest : List Token) : Opened 1 (callee.tokens space ++ rest) := by
  unfold tokens
  cases callee.qualifier with
  | none => exact opened_cons rfl rfl
  | some qualifier => exact ((qualifier.points.opened space).append _).append rest

theorem bare (callee : Callee) (rest : List Token) : startsBareArgs (callee.tokens true ++ rest) = true := by
  unfold tokens
  cases callee.qualifier with
  | none => rfl
  | some qualifier =>
    rw [List.append_assoc]
    exact qualifier.points.bare _

variable {depth : Nat} {outerDo : Bool} {found : Option (List Node)} {block more : List Node} {tokens middle rest : List Token}

theorem operand_callee (callee : Callee) (given : callArgs (expression depth) tokens = .ok (found, middle))
    (blocked : optionalDoBlock (expression depth) outerDo middle = .ok ((block, more), rest))
    (called : found = none → (outerDo || !startsWith .keyword "do" middle) = false) (space : Bool) :
    operand (expression depth) outerDo (callee.tokens space ++ tokens) =
      postfixes (expression depth) outerDo (callee.node (found.getD []) block more) rest := by
  unfold Callee.tokens node
  cases callee.qualifier with
  | none =>
    have goes : (found.isNone && (outerDo || !startsWith .keyword "do" middle)) = false := by
      cases found with
      | none => exact called rfl
      | some args => rfl
    refine operand_primary (by simp) ?_
    simp only [List.append_eq, List.nil_append, primary, identifier_kind, identifier_text, identifier_line,
      Grammar.identifier, given, goes, blocked, bind, Except.bind, pure, Except.pure, Bool.false_eq_true, if_false]
  | some qualifier =>
    have read : afterDot (expression depth) outerDo qualifier.node (identifier callee.function false :: tokens) =
        .ok (.call (some qualifier.node) callee.function (found.getD []) block more 1, rest) := by
      simp only [afterDot, next, identifier_kind, identifier_text, identifier_line, given, blocked, bind, Except.bind, pure,
        Except.pure]
    have most := (passes_callArgs (consumes_expression depth) tokens).rest_le given
    have least := (passes_optionalDoBlock (consumes_expression depth) outerDo middle).rest_le blocked
    dsimp only at most least
    have fits : qualifier.phrase.depth ≤ depth + 1 := by simp [qualifier.depth_phrase]
    rw [List.append_assoc]
    refine (qualifier.points.reads fits outerDo space _).trans (postfixes_dot read ?_)
    change rest.length < tokens.length + 1 + 1
    omega

end Callee

section Calls

def ending : Option Phrase → List Token
  | none => []
  | some block => block.tokens true

def endingDepth (block : Option Phrase) : Nat := (block.map Phrase.depth).getD 0

def bareCall (callee : Callee) (args : List Phrase) (block : Option Phrase) : Phrase where
  tokens space := callee.tokens space ++ (rowOf comma true args ++ ending block)
  depth := max (deepest args) (endingDepth block) + 1

def parenCall (callee : Callee) (args : List Phrase) (block : Option Phrase) : Phrase where
  tokens space := callee.tokens space ++ (arguments args ++ ending block)
  depth := max (deepest args) (endingDepth block) + 1

inductive Ends : Option Phrase → List Node → List Node → Prop
  | bare : Ends none [] []
  | block {phrase : Phrase} {nodes more : List Node} (blocks : phrase.Blocks nodes more) : Ends (some phrase) nodes more

variable {block : Option Phrase} {nodes more : List Node} {depth : Nat} {outerDo : Bool} {rest : List Token}

theorem optionalDoBlock_ending (ends : Ends block nodes more) (fits : endingDepth block ≤ depth)
    (own : block.isSome = true → outerDo = false) (yields : Yields outerDo rest) :
    optionalDoBlock (expression depth) outerDo (ending block ++ rest) = .ok ((nodes, more), rest) := by
  cases ends with
  | bare => exact if_neg (Bool.not_eq_true _ ▸ yields)
  | @block phrase _ _ blocks =>
    obtain ⟨opening, inside, tokens, word, text⟩ := blocks.opens
    have starts : (!outerDo && startsWith .keyword "do" (ending (some phrase) ++ rest)) = true := by
      simp [own rfl, ending, tokens, startsWith, Token.is, word, text]
    rw [optionalDoBlock, if_pos starts]
    exact doBlock_prolonged rest fits blocks

theorem ended_ending (ends : Ends block nodes more) (ended : Ended rest) : Ended (ending block ++ rest) := by
  cases ends with
  | bare => exact ended
  | block blocks => exact blocks.ended rest

theorem expression_ending {callee : Callee} {found : Option (List Node)} {tokens : List Token}
    (given : callArgs (expression depth) (tokens ++ (ending block ++ rest)) = .ok (found, ending block ++ rest))
    (called : found = none → block.isSome = true) (ends : Ends block nodes more) (fits : endingDepth block ≤ depth)
    (own : block.isSome = true → outerDo = false) (loose : Loose rest) (yields : Yields outerDo rest) (floor : Nat)
    (space : Bool) :
    expression (depth + 1) floor outerDo (callee.tokens space ++ (tokens ++ (ending block ++ rest))) =
      .ok (callee.node (found.getD []) nodes more, rest) := by
  have starts : found = none → (outerDo || !startsWith .keyword "do" (ending block ++ rest)) = false := by
    intro none
    have owned := own (called none)
    cases ends with
    | bare => cases called none
    | block blocks =>
      obtain ⟨opening, inside, tokens, word, text⟩ := blocks.opens
      simp [owned, ending, tokens, startsWith, Token.is, word, text]
  have read := callee.operand_callee given (optionalDoBlock_ending ends fits own yields) starts space
  rw [expression_operand (read.trans (postfixes_stop loose.noPostfix))]
  exact operators_stop (by simp [loose.noOperator])

variable {ι : Type} {items : List ι} {phrase : ι → Phrase} {value : ι → Argument} {callee : Callee}

theorem expression_bareCall (offers : ∀ i ∈ items, (phrase i).Offers (value i))
    (called : items = [] → block.isSome = true) (ends : Ends block nodes more)
    (fits : (bareCall callee (items.map phrase) block).depth ≤ depth) (own : block.isSome = true → outerDo = false)
    (ended : Ended rest) (yields : Yields outerDo rest) (floor : Nat) (space : Bool) :
    expression depth floor outerDo ((bareCall callee (items.map phrase) block).tokens space ++ rest) =
      .ok (callee.node (gatherKeywords (items.map value)) nodes more, rest) := by
  obtain ⟨depth, rfl⟩ : ∃ d, depth = d + 1 := Nat.exists_eq_add_one.mpr (Nat.lt_of_lt_of_le (Nat.succ_pos _) fits)
  simp only [bareCall, Nat.add_le_add_iff_right, Nat.max_le] at fits
  simp only [bareCall, List.append_assoc]
  by_cases none : items = []
  · subst none
    have noArgs : startsArgs (ending block ++ rest) = false := by
      cases ends with
      | bare => cases called rfl
      | block blocks =>
        obtain ⟨opening, inside, tokens, word, text⟩ := blocks.opens
        simp [ending, tokens, startsArgs, startsBareArgs, argumentKinds, Token.is, word, text]
    have given : callArgs (expression depth) ([] ++ (ending block ++ rest)) = .ok (none, ending block ++ rest) :=
      callArgs_stop noArgs
    exact expression_ending given (fun _ => called rfl) ends fits.2 own ended.toLoose yields floor space
  · exact expression_ending (callArgs_rowOf offers none fits.1 (ended_ending ends ended))
      (fun none => absurd none (Option.some_ne_none _)) ends fits.2 own ended.toLoose yields floor space

theorem expression_parenCall (argue : ∀ i ∈ items, (phrase i).Argues (value i)) (ends : Ends block nodes more)
    (fits : (parenCall callee (items.map phrase) block).depth ≤ depth) (own : block.isSome = true → outerDo = false)
    (loose : Loose rest) (yields : Yields outerDo rest) (floor : Nat) (space : Bool) :
    expression depth floor outerDo ((parenCall callee (items.map phrase) block).tokens space ++ rest) =
      .ok (callee.node (gatherKeywords (items.map value)) nodes more, rest) := by
  obtain ⟨depth, rfl⟩ : ∃ d, depth = d + 1 := Nat.exists_eq_add_one.mpr (Nat.lt_of_lt_of_le (Nat.succ_pos _) fits)
  simp only [parenCall, Nat.add_le_add_iff_right, Nat.max_le] at fits
  simp only [parenCall, List.append_assoc]
  exact expression_ending (callArgs_argued argue fits.1 _) (fun none => absurd none (Option.some_ne_none _)) ends fits.2 own
    loose yields floor space

end Calls

/-- As a whole text the phrase is read as `node`, at every depth that it needs at most. A text that has its tokens on
other lines is read as the same node on other lines. -/
structure Parses [Host] (phrase : Phrase) (node : Node) : Prop where
  program : ∀ {depth}, phrase.depth ≤ depth → program depth (phrase.tokens false) = .ok [node]
  parse : ∀ {text}, Token.scan text = .ok (phrase.tokens false) → phrase.depth ≤ Host.expressionNesting → parse text = .ok [node]
  relaid : ∀ {text}, (Token.scan text).map (List.map (Token.onLine 1)) = .ok ((phrase.tokens false).map (Token.onLine 1)) →
    phrase.depth ≤ Host.expressionNesting →
    ∃ nodes, Grammar.parse text = .ok nodes ∧ Node.listOnLine 1 nodes = Node.listOnLine 1 [node]

theorem parses_of_expression [Host] {phrase : Phrase} {node : Node} (opened : Opened 1 (phrase.tokens false))
    (reads : ∀ {depth}, phrase.depth ≤ depth → expression depth 0 false (phrase.tokens false ++ []) = .ok (node, [])) :
    phrase.Parses node where
  program fits := program_single opened (reads fits)
  parse scanned fits := by
    rw [Grammar.parse, scanned]
    exact program_single opened (reads fits)
  relaid {text} scanned fits := by
    have alone := program_single opened (reads fits)
    cases found : Token.scan text with
    | error fault =>
      rw [found] at scanned
      cases scanned
    | ok tokens =>
      rw [found] at scanned
      rw [Grammar.parse, found]
      rcases sameReading_program Host.expressionNesting (Except.ok.inj scanned) with
        ⟨nodes, others, first, second, lines⟩ | ⟨cause, here, there, first, -⟩
      · rw [alone] at first
        cases first
        exact ⟨others, second, lines⟩
      · rw [alone] at first
        cases first

end Phrase

end BoundaryLint.Grammar
