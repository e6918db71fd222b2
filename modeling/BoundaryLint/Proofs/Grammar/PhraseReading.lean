import BoundaryLint.Proofs.Grammar.Phrase
import BoundaryLint.Proofs.Tree.Line
import BoundaryLint.Proofs.Tree.ModuleName

/-!
What each phrase is read as, given what its parts are read as. A phrase is read by every reader that
may nest deeply enough, up to a token that closes the expression.
-/

namespace BoundaryLint.Grammar

namespace Phrase

theorem depth_le_deepest {phrases : List Phrase} {phrase : Phrase} (member : phrase ∈ phrases) :
    phrase.depth ≤ deepest phrases := by
  induction phrases with
  | nil => simp at member
  | cons first phrases ih =>
    simp only [deepest, List.foldr_cons] at ih ⊢
    rcases List.mem_cons.mp member with rfl | member
    · exact Nat.le_max_left _ _
    · exact Nat.le_trans (ih member) (Nat.le_max_right _ _)

/-- The phrase is read as the expression `node`, whose nodes all lie on the first line. -/
structure Reads (phrase : Phrase) (node : Node) : Prop where
  opened : ∀ space, Opened 1 (phrase.tokens space)
  reads : ∀ {depth}, phrase.depth ≤ depth → ∀ space rest, Closed rest →
    expression depth 0 false (phrase.tokens space ++ rest) = .ok (node, rest)
  lined : node.line = 1
  notClause : node.isClause = false

structure Argues (phrase : Phrase) (item : Argument) : Prop where
  reads : ∀ {depth}, phrase.depth ≤ depth → ∀ space rest, Closed rest →
    argument (expression depth) false (phrase.tokens space ++ rest) = .ok (item, rest)
  goes : ∀ closer ∈ [")", "]", "\x7d"], ∀ space rest,
    startsWith .punctuation closer (phrase.tokens space ++ rest) = false

theorem expect_mark (text : String) (space : Bool) (rest : List Token) :
    expect .punctuation text (mark text space :: rest) = .ok rest := by
  simp [expect, mark, Token.is]

theorem expect_keyword (text : String) (space : Bool) (rest : List Token) :
    expect .keyword text (keyword text space :: rest) = .ok rest := by
  simp [expect, keyword, Token.is]

theorem opened_cons {token : Token} {rest : List Token} (starts : begins token = true)
    (here : token.line = 1) : Opened 1 (token :: rest) :=
  ⟨token, rfl, starts, here⟩

theorem startsWith_of_opened {tokens rest : List Token} {closer : String} (opened : Opened 1 tokens)
    (closing : closer ∈ [")", "]", "\x7d"]) :
    startsWith .punctuation closer (tokens ++ rest) = false := by
  obtain ⟨token, more, rfl, starts, -⟩ := opened.exists_cons
  refine begins_mark starts ?_
  simp only [List.mem_cons, List.not_mem_nil, or_false] at closing
  rcases closing with rfl | rfl | rfl <;> decide

theorem startsWithKind_of_opened {tokens rest : List Token} (opened : Opened 1 tokens) :
    startsWithKind .key (tokens ++ rest) = false := by
  obtain ⟨token, more, rfl, starts, -⟩ := opened.exists_cons
  exact beq_eq_false_iff_ne.mpr (begins_cases starts).2.2.2

theorem Reads.argues {phrase : Phrase} {node : Node} (read : phrase.Reads node) :
    phrase.Argues (.plain node) where
  reads fits space rest closed := by
    simp only [argument, startsWithKind_of_opened (read.opened space), Bool.false_eq_true, if_false,
      read.reads fits space rest closed, bind, Except.bind, pure, Except.pure]
  goes closer closing space rest := startsWith_of_opened (read.opened space) closing

theorem Reads.keyed {key : String} {phrase : Phrase} {node : Node} (read : phrase.Reads node) :
    (keyed key phrase).Argues (.keyword (.pair (.atom key 1) node 1)) where
  reads fits space rest closed := by
    have value := read.reads fits true rest closed
    simp [argument, Phrase.keyed, startsWithKind, pair, next, value, bind, Except.bind, pure, Except.pure]
  goes closer closing space rest := by
    simp [Phrase.keyed, startsWith, Token.is]

theorem reads_of_operand {phrase : Phrase} {node : Node} (deep : 0 < phrase.depth)
    (opened : ∀ space, Opened 1 (phrase.tokens space)) (lined : node.line = 1)
    (notClause : node.isClause = false)
    (reads : ∀ {depth}, phrase.depth ≤ depth + 1 → ∀ space rest, Closed rest →
      operand (expression depth) false (phrase.tokens space ++ rest) =
        postfixes (expression depth) false node rest) : phrase.Reads node where
  opened := opened
  reads {depth} fits space rest closed := by
    obtain ⟨depth, rfl⟩ : ∃ d, depth = d + 1 := Nat.exists_eq_add_one.mpr (Nat.lt_of_lt_of_le deep fits)
    rw [expression_operand ((reads fits space rest closed).trans closed.postfixes), closed.operators]
  lined := lined
  notClause := notClause

theorem operand_sequence {ι : Type} {items : List ι} {phrase : ι → Phrase} {value : ι → Node}
    (read : ∀ i ∈ items, (phrase i).Reads (value i)) {depth : Nat}
    (fits : deepest (items.map phrase) ≤ depth) (outerDo space : Bool) (rest : List Token) :
    operand (expression depth) outerDo ((sequence (items.map phrase)).tokens space ++ rest) =
      postfixes (expression depth) outerDo (unwrap (items.map value) 1) rest := by
  have statements : body (expression depth) [")"]
      (row semicolon false (items.map fun i => (phrase i).tokens) ++ mark ")" false :: rest) =
      .ok (items.map value, mark ")" false :: rest) :=
    body_row false (by decide) rfl
      (fun i member => (read i member).reads
        (Nat.le_trans (depth_le_deepest (List.mem_map_of_mem member)) fits))
      (fun i member => (read i member).opened) rfl rfl (by decide)
  have open_reads : primary (expression depth) outerDo (mark "(" space)
      (rowOf semicolon false (items.map phrase) ++ mark ")" false :: rest) =
      .ok (unwrap (items.map value) 1, rest) := by
    have here : (mark "(" space).text = "(" := rfl
    simp only [primary, show (mark "(" space).kind = .punctuation from rfl, group, here, if_true,
      rowOf, List.map_map, Function.comp_def, statements, bind, Except.bind, expect_mark, pure,
      Except.pure]
    rfl
  have shape : (sequence (items.map phrase)).tokens space ++ rest = mark "(" space ::
      (rowOf semicolon false (items.map phrase) ++ mark ")" false :: rest) := by
    simp [sequence]
  rw [shape]
  exact operand_primary (by simp [mark]) open_reads

theorem operand_parens {phrase : Phrase} {node : Node} (read : phrase.Reads node) {depth : Nat}
    (fits : phrase.depth ≤ depth) (outerDo space : Bool) (rest : List Token) :
    operand (expression depth) outerDo (phrase.parens.tokens space ++ rest) =
      postfixes (expression depth) outerDo node rest := by
  have alone : operand (expression depth) outerDo
      ((sequence ([()].map fun _ => phrase)).tokens space ++ rest) =
      postfixes (expression depth) outerDo (unwrap ([()].map fun _ => node) 1) rest :=
    operand_sequence (fun _ _ => read) (by simpa [deepest] using fits) outerDo space rest
  simpa [sequence, parens, rowOf, row, unwrap, read.notClause] using alone

theorem Reads.parens {phrase : Phrase} {node : Node} (read : phrase.Reads node) :
    phrase.parens.Reads node :=
  reads_of_operand (Nat.succ_pos _) (fun _ => opened_cons rfl rfl) read.lined read.notClause
    fun fits space rest _ => operand_parens read (Nat.le_of_succ_le_succ fits) false space rest

theorem reads_single {kind : Token.Kind} {text : String} {node : Node} (lined : node.line = 1)
    (notClause : node.isClause = false) (starts : ∀ space, begins ⟨kind, text, 1, space, false⟩ = true)
    (notOperator : kind ≠ .operator)
    (reads : ∀ depth space rest, Closed rest → primary (expression depth) false
      ⟨kind, text, 1, space, false⟩ rest = .ok (node, rest)) :
    (single kind text).Reads node :=
  reads_of_operand (Nat.succ_pos _) (fun space => opened_cons (starts space) rfl) lined notClause
    fun _ space rest closed => operand_primary notOperator (reads _ space rest closed)

theorem reads_var (name : String) : (single .identifier name).Reads (.var name 1) := by
  apply reads_single rfl rfl (fun _ => rfl) (by decide)
  intro depth space rest closed
  simp [primary, Grammar.identifier, callArgs_stop closed.startsArgs, closed.noBlock, bind,
    Except.bind, pure, Except.pure]

theorem reads_atom (name : String) : (single .atom name).Reads (.atom name 1) :=
  reads_single rfl rfl (fun _ => rfl) (by decide) fun _ _ _ _ => rfl

theorem reads_text (value : String) : (single .string value).Reads (.literal (.text value) 1) :=
  reads_single rfl rfl (fun _ => rfl) (by decide) fun _ _ _ _ => rfl

theorem reads_word (word : String) :
    (single .literal word).Reads (.literal (wordLiteral word) 1) :=
  reads_single rfl rfl (fun _ => rfl) (by decide) fun _ _ _ _ => rfl

theorem reads_integer {value : Nat} (known : Numeral.integer (toString value) = .ok value) :
    (single .integer (toString value)).Reads (.literal (.integer value) 1) := by
  apply reads_single rfl rfl (fun _ => rfl) (by decide)
  intro depth space rest closed
  simp only [primary, numeral, known]

section Brackets

variable {ι : Type} {items : List ι} {phrase : ι → Phrase} {depth : Nat}

theorem fits_of_deepest (fits : deepest (items.map phrase) ≤ depth) {i : ι} (member : i ∈ items) :
    (phrase i).depth ≤ depth :=
  Nat.le_trans (depth_le_deepest (List.mem_map_of_mem member)) fits

theorem bracketed_rowOf {value : ι → Argument} (closer : String)
    (closing : closer ∈ [")", "]", "\x7d"]) (argue : ∀ i ∈ items, (phrase i).Argues (value i))
    (fits : deepest (items.map phrase) ≤ depth) (rest : List Token) :
    Grammar.bracketed (expression depth) closer
      (rowOf comma false (items.map phrase) ++ mark closer false :: rest) =
      .ok (items.map value, rest) := by
  have ends : closes (mark closer false) = true := by
    simp only [List.mem_cons, List.not_mem_nil, or_false] at closing
    rcases closing with rfl | rfl | rfl <;> rfl
  have noComma : afterComma? (mark closer false :: rest) = none := by
    simp only [List.mem_cons, List.not_mem_nil, or_false] at closing
    rcases closing with rfl | rfl | rfl <;> rfl
  have read : commaItems (argument (expression depth) false) (startsWith .punctuation closer)
      (row comma false (items.map fun i => (phrase i).tokens) ++ mark closer false :: rest) =
      .ok (items.map value, mark closer false :: rest) :=
    commaItems_row false (fun i member => (argue i member).reads (fits_of_deepest fits member))
      (fun i member => (argue i member).goes closer closing) (closed_cons ends) noComma
      (fun _ => by simp [startsWith, mark, Token.is])
  simp only [Grammar.bracketed, rowOf, List.map_map, Function.comp_def, read, bind, Except.bind, pure,
    Except.pure, expect_mark]

theorem gatherKeywords_plain (nodes : List Node) :
    gatherKeywords (nodes.map Argument.plain) = nodes := by
  simp [gatherKeywords, List.filterMap_map, Function.comp_def, Argument.plain?, Argument.keyword?]

theorem parenArgs_argued {value : ι → Argument} (argue : ∀ i ∈ items, (phrase i).Argues (value i))
    (fits : deepest (items.map phrase) ≤ depth) (rest : List Token) :
    parenArgs (expression depth) (arguments (items.map phrase) ++ rest) =
      .ok (gatherKeywords (items.map value), rest) := by
  have inside := bracketed_rowOf ")" (by decide) argue fits rest
  simp only [parenArgs, arguments, List.cons_append, List.append_assoc, List.nil_append, bind,
    Except.bind, pure, Except.pure, expect_mark, inside]

theorem callArgs_argued {value : ι → Argument} (argue : ∀ i ∈ items, (phrase i).Argues (value i))
    (fits : deepest (items.map phrase) ≤ depth) (rest : List Token) :
    callArgs (expression depth) (arguments (items.map phrase) ++ rest) =
      .ok (some (gatherKeywords (items.map value)), rest) := by
  have inside := parenArgs_argued argue fits rest
  have adjacent : (mark "(" false).is .punctuation "(" && !(mark "(" false).spaceBefore := rfl
  simp only [callArgs, arguments, List.cons_append] at inside ⊢
  simp only [adjacent, if_true, inside, bind, Except.bind, pure, Except.pure]

theorem callArgs_arguments {value : ι → Node} (read : ∀ i ∈ items, (phrase i).Reads (value i))
    (fits : deepest (items.map phrase) ≤ depth) (rest : List Token) :
    callArgs (expression depth) (arguments (items.map phrase) ++ rest) =
      .ok (some (items.map value), rest) := by
  have inside := callArgs_argued (fun i member => (read i member).argues) fits rest
  have gathered := gatherKeywords_plain (items.map value)
  rw [List.map_map, Function.comp_def] at gathered
  rw [inside, gathered]

/-- A call of a name that is no special form stays a call. -/
theorem lower_ordinary (call : Call) (ordinary : call.function ∉ specialNames) :
    lower call = call.toNode := by
  simp only [specialNames, DefinitionKind.all, DirectiveKind.all, List.map_cons, List.map_nil,
    List.cons_append, List.nil_append, List.mem_cons, List.not_mem_nil, or_false, not_or] at ordinary
  have noDefinition : DefinitionKind.ofKeyword? call.function = none := by
    simp [DefinitionKind.ofKeyword?, DefinitionKind.all]
    grind
  have noDirective : DirectiveKind.ofKeyword? call.function = none := by
    simp [DirectiveKind.ofKeyword?, DirectiveKind.all]
    grind
  simp [lower, ordinary, noDefinition, noDirective]

theorem operand_call {function : String} {value : ι → Node} (ordinary : function ∉ specialNames)
    (read : ∀ i ∈ items, (phrase i).Reads (value i)) (fits : deepest (items.map phrase) ≤ depth)
    {outerDo : Bool} (space : Bool) {rest : List Token}
    (noBlock : (!outerDo && startsWith .keyword "do" rest) = false) :
    operand (expression depth) outerDo ((call function (items.map phrase)).tokens space ++ rest) =
      postfixes (expression depth) outerDo (.call none function (items.map value) [] [] 1) rest := by
  have shape : (call function (items.map phrase)).tokens space ++ rest =
      Phrase.identifier function space :: (arguments (items.map phrase) ++ rest) := rfl
  rw [shape]
  apply operand_primary (by simp [Phrase.identifier])
  have args := callArgs_arguments read fits rest
  have lowered := lower_ordinary ⟨none, function, items.map value, [], [], 1⟩ ordinary
  simp only [primary, Phrase.identifier, Grammar.identifier, args, bind, Except.bind,
    optionalDoBlock, noBlock, Option.isNone_some, Bool.false_and, Bool.false_eq_true, if_false, pure,
    Except.pure, Option.getD_some, lowered]
  rfl

theorem reads_call {function : String} {value : ι → Node} (ordinary : function ∉ specialNames)
    (read : ∀ i ∈ items, (phrase i).Reads (value i)) :
    (call function (items.map phrase)).Reads (.call none function (items.map value) [] [] 1) :=
  reads_of_operand (Nat.succ_pos _) (fun _ => opened_cons rfl rfl) rfl rfl fun fits space rest closed =>
    operand_call ordinary read (Nat.le_of_succ_le_succ fits) space (by simp [closed.noBlock])

theorem operand_list {value : ι → Argument} (argue : ∀ i ∈ items, (phrase i).Argues (value i))
    (fits : deepest (items.map phrase) ≤ depth) (outerDo space : Bool) (rest : List Token) :
    operand (expression depth) outerDo ((bracketed "[" "]" (items.map phrase)).tokens space ++ rest) =
      postfixes (expression depth) outerDo (.list (items.map fun i => (value i).node) 1) rest := by
  have inside := bracketed_rowOf "]" (by decide) argue fits rest
  have shape : (bracketed "[" "]" (items.map phrase)).tokens space ++ rest =
      mark "[" space :: (rowOf comma false (items.map phrase) ++ mark "]" false :: rest) := by
    simp [bracketed]
  rw [shape]
  apply operand_primary (by simp [mark])
  simp [primary, group, inside, bind, Except.bind, pure, Except.pure]

theorem reads_list {value : ι → Argument} (argue : ∀ i ∈ items, (phrase i).Argues (value i)) :
    (bracketed "[" "]" (items.map phrase)).Reads (.list (items.map fun i => (value i).node) 1) :=
  reads_of_operand (Nat.succ_pos _) (fun _ => opened_cons rfl rfl) rfl rfl fun fits space rest _ =>
    operand_list argue (Nat.le_of_succ_le_succ fits) false space rest

theorem operand_tuple {value : ι → Argument} (argue : ∀ i ∈ items, (phrase i).Argues (value i))
    (fits : deepest (items.map phrase) ≤ depth) (outerDo space : Bool) (rest : List Token) :
    operand (expression depth) outerDo ((bracketed "\x7b" "\x7d" (items.map phrase)).tokens space ++ rest) =
      postfixes (expression depth) outerDo (.tuple (gatherKeywords (items.map value)) 1) rest := by
  have inside := bracketed_rowOf "\x7d" (by decide) argue fits rest
  have shape : (bracketed "\x7b" "\x7d" (items.map phrase)).tokens space ++ rest =
      mark "\x7b" space :: (rowOf comma false (items.map phrase) ++ mark "\x7d" false :: rest) := by
    simp [bracketed]
  rw [shape]
  apply operand_primary (by simp [mark])
  simp [primary, group, inside, bind, Except.bind, pure, Except.pure]

theorem reads_tuple {value : ι → Node} (read : ∀ i ∈ items, (phrase i).Reads (value i)) :
    (bracketed "\x7b" "\x7d" (items.map phrase)).Reads (.tuple (items.map value) 1) := by
  apply reads_of_operand (Nat.succ_pos _) (fun _ => opened_cons rfl rfl) rfl rfl
  intro depth fits space rest closed
  have gathered := gatherKeywords_plain (items.map value)
  rw [List.map_map, Function.comp_def] at gathered
  rw [operand_tuple (fun i member => (read i member).argues) (Nat.le_of_succ_le_succ fits), gathered]

theorem reads_sequence {value : ι → Node} (several : items.length ≠ 1)
    (read : ∀ i ∈ items, (phrase i).Reads (value i)) :
    (sequence (items.map phrase)).Reads (.sequence (items.map value) 1) := by
  have kept : unwrap (items.map value) 1 = .sequence (items.map value) 1 := by
    match items, several with
    | [], _ => rfl
    | _ :: _ :: _, _ => rfl
  apply reads_of_operand (Nat.succ_pos _) (fun _ => opened_cons rfl rfl) rfl rfl
  intro depth fits space rest closed
  rw [operand_sequence read (Nat.le_of_succ_le_succ fits), kept]

end Brackets

section Operators

variable {left right : Phrase} {first second : Node} {depth floor : Nat} {outerDo : Bool}
  {rest : List Token} {op : String}

theorem expression_parens (read : right.Reads second) (fits : right.parens.depth ≤ depth) (space : Bool)
    (stop : startsPostfix rest = false)
    (weak : ∀ op binding after, binaryOperator? rest = some (op, binding, after) → binding.power ≤ floor) :
    expression depth floor outerDo (right.parens.tokens space ++ rest) = .ok (second, rest) := by
  obtain ⟨depth, rfl⟩ : ∃ d, depth = d + 1 := Nat.exists_eq_add_one.mpr (Nat.lt_of_lt_of_le (Nat.succ_pos _) fits)
  have operand := operand_parens read (Nat.le_of_succ_le_succ fits) outerDo space rest
  rw [expression_operand (operand.trans (postfixes_stop stop)), operators_stop weak]

theorem binaryOperator?_operatorTokens {binding : Binding} (known : binding? op = some binding)
    (rest : List Token) : binaryOperator? (operatorTokens op ++ rest) = some (op, binding, rest) := by
  by_cases double : op = "not in"
  · subst double
    simp [operatorTokens, binaryOperator?, symbol, Token.is, known]
  · have notPrefix : op ≠ "not" := by
      rintro rfl
      simp [show binding? "not" = none by decide] at known
    simp [operatorTokens, double, binaryOperator?, symbol, notPrefix, known]

theorem startsPostfix_operatorTokens (known : (binding? op).isSome = true) (rest : List Token) :
    startsPostfix (operatorTokens op ++ rest) = false := by
  by_cases double : op = "not in"
  · simp [operatorTokens, double, startsPostfix, symbol, Token.is]
  · have notDot : op ≠ "." := by
      rintro rfl
      exact absurd known (by decide)
    simp [operatorTokens, double, startsPostfix, symbol, Token.is, notDot]

/-- A binary operator between a left operand and a right one. -/
theorem expression_operation {tokens follow : List Token} (known : (binding? op).isSome = true)
    (strong : ∀ binding ∈ binding? op, floor < binding.power)
    (reads : operand (expression depth) outerDo (tokens ++ (operatorTokens op ++ (follow ++ rest))) =
      .ok (first, operatorTokens op ++ (follow ++ rest)))
    (read : ∀ binding ∈ binding? op, expression depth binding.rightFloor outerDo (follow ++ rest) = .ok (second, rest))
    (last : binaryOperator? rest = none) :
    expression (depth + 1) floor outerDo (tokens ++ (operatorTokens op ++ (follow ++ rest))) =
      .ok (.binary op first second first.line, rest) := by
  obtain ⟨binding, found⟩ := Option.isSome_iff_exists.mp known
  have shorter : rest.length < (operatorTokens op ++ (follow ++ rest)).length := by
    have nonempty : operatorTokens op ≠ [] := by
      unfold operatorTokens
      split <;> simp
    have positive := List.length_pos_iff.mpr nonempty
    simp only [List.length_append]
    omega
  rw [expression_operand reads,
    operators_step (binaryOperator?_operatorTokens found _) (strong binding found) (read binding found) shorter,
    operators_stop (by simp [last])]

theorem expression_joined {tokens : List Token} (known : (binding? op).isSome = true)
    (strong : ∀ binding ∈ binding? op, floor < binding.power)
    (reads : ∀ rest, startsPostfix rest = false →
      operand (expression depth) outerDo (tokens ++ rest) = .ok (first, rest))
    (read : right.Reads second) (fits : right.parens.depth ≤ depth)
    (stop : startsPostfix rest = false) (last : binaryOperator? rest = none) :
    expression (depth + 1) floor outerDo (tokens ++ (operatorTokens op ++ (right.parens.tokens true ++ rest))) =
      .ok (.binary op first second first.line, rest) :=
  expression_operation known strong (reads _ (startsPostfix_operatorTokens known _))
    (fun _ _ => expression_parens read fits true stop (by simp [last])) last

theorem expression_binary (known : (binding? op).isSome = true)
    (strong : ∀ binding ∈ binding? op, floor < binding.power) (read : left.Reads first)
    (follow : right.Reads second) (fits : (binary op left right).depth ≤ depth) (space : Bool)
    (closed : Closed rest) :
    expression depth floor false ((binary op left right).tokens space ++ rest) =
      .ok (.binary op first second 1, rest) := by
  simp only [binary, Nat.max_le] at fits
  obtain ⟨depth, rfl⟩ : ∃ d, depth = d + 1 := Nat.exists_eq_add_one.mpr (Nat.lt_of_lt_of_le (Nat.succ_pos _) fits.2)
  have reads : ∀ rest, startsPostfix rest = false →
      operand (expression depth) false (left.parens.tokens space ++ rest) = .ok (first, rest) :=
    fun rest stop =>
      (operand_parens read (Nat.le_of_succ_le_succ fits.1) false space rest).trans (postfixes_stop stop)
  have whole := expression_joined known strong reads follow (Nat.le_of_succ_le_succ fits.2)
    closed.startsPostfix closed.binaryOperator?
  rw [read.lined] at whole
  simpa [binary] using whole

theorem reads_binary (known : (binding? op).isSome = true) (read : left.Reads first)
    (follow : right.Reads second) : (binary op left right).Reads (.binary op first second 1) where
  opened _ := opened_cons rfl rfl
  reads fits space _ closed :=
    expression_binary known (fun _ found => power_pos found) read follow fits space closed
  lined := rfl
  notClause := rfl

theorem reads_unary (known : op ∈ ["!", "^", "not", "+", "&", "-"])
    (unsigned : op = "-" → isNumber first = false) (read : left.Reads first) :
    (unary op left).Reads (.unary op first 1) := by
  have starts : ∀ space, begins (symbol op space) = true := by
    simp only [List.mem_cons, List.not_mem_nil, or_false] at known
    rcases known with rfl | rfl | rfl | rfl | rfl | rfl <;> intro space <;> rfl
  have kept : prefixed op first 1 = .unary op first 1 := by
    unfold prefixed
    split
    · next minus =>
      have plain := unsigned minus
      split <;> simp_all [isNumber]
    · rfl
  apply reads_of_operand (Nat.succ_pos _) (fun _ => opened_cons (starts _) rfl) rfl rfl
  intro depth fits space rest closed
  have inside : ∀ floor, expression depth floor false (left.parens.tokens (op = "not") ++ rest) =
      .ok (first, rest) := fun floor =>
    expression_parens read (Nat.le_of_succ_le_succ fits) _ closed.startsPostfix (by simp [closed.binaryOperator?])
  have shape : (unary op left).tokens space ++ rest =
      symbol op space :: (left.parens.tokens (op = "not") ++ rest) := rfl
  rw [shape, closed.postfixes]
  by_cases ordinary : prefixOperators.contains op = true
  · simp only [operand, next, symbol_kind, symbol_text, symbol_line, ordinary, if_true, inside, kept,
      bind, Except.bind, pure, Except.pure]
  · obtain rfl : op = "&" := by
      simp only [List.mem_cons, List.not_mem_nil, or_false] at known
      rcases known with rfl | rfl | rfl | rfl | rfl | rfl <;> first | rfl | exact absurd rfl ordinary
    simp only [operand, next, symbol_kind, symbol_text, symbol_line, ordinary, Bool.false_eq_true, if_true,
      inside, if_false, bind, Except.bind, pure, Except.pure]

end Operators

section Targets

variable {target : Phrase} {callee : Node} {ι : Type} {items : List ι} {phrase : ι → Phrase}
  {value : ι → Node} {depth : Nat}

theorem postfixes_dot {expr : ExpressionReader} {outerDo : Bool} {node called : Node}
    {tokens rest : List Token} (reads : afterDot expr outerDo node tokens = .ok (called, rest))
    (shorter : rest.length < tokens.length + 1) :
    postfixes expr outerDo node (symbol "." false :: tokens) = postfixes expr outerDo called rest := by
  have dot : (symbol "." false).is .operator "." = true := rfl
  rw [postfixes]
  simp only [dot, if_true, reads, bind, Except.bind, shorter]

theorem reads_remote {function : String} (read : target.Reads callee)
    (args : ∀ i ∈ items, (phrase i).Reads (value i)) :
    (remote target function (items.map phrase)).Reads
      (.call (some callee) function (items.map value) [] [] 1) := by
  apply reads_of_operand (by simp [remote, Phrase.parens]) (fun _ => opened_cons rfl rfl) rfl rfl
  intro depth fits space rest closed
  simp only [remote, Phrase.parens, Nat.max_le, Nat.add_le_add_iff_right] at fits
  have shape : (remote target function (items.map phrase)).tokens space ++ rest =
      target.parens.tokens space ++ (symbol "." false :: Phrase.identifier function false ::
        (arguments (items.map phrase) ++ rest)) := by
    simp [remote]
  have called : afterDot (expression depth) false callee (Phrase.identifier function false ::
      (arguments (items.map phrase) ++ rest)) =
      .ok (.call (some callee) function (items.map value) [] [] 1, rest) := by
    have inside := callArgs_arguments args fits.2 rest
    simp only [afterDot, next, Phrase.identifier, bind, Except.bind, inside, optionalDoBlock,
      closed.noBlock, Bool.and_false, Bool.false_eq_true, if_false, pure, Except.pure,
      Option.getD_some]
  rw [shape, operand_parens read fits.1, postfixes_dot called (by
    simp only [List.length_cons, List.length_append]
    omega)]

theorem operand_applied {value : ι → Argument} (read : target.Reads callee)
    (argue : ∀ i ∈ items, (phrase i).Argues (value i)) (fits : target.depth ≤ depth)
    (inner : deepest (items.map phrase) ≤ depth) (outerDo space : Bool) (rest : List Token) :
    operand (expression depth) outerDo ((applied target (items.map phrase)).tokens space ++ rest) =
      postfixes (expression depth) outerDo
        (.call (some callee) "." (gatherKeywords (items.map value)) [] [] 1) rest := by
  have shape : (applied target (items.map phrase)).tokens space ++ rest =
      target.parens.tokens space ++ (symbol "." false :: (arguments (items.map phrase) ++ rest)) := by
    simp [applied]
  have called : afterDot (expression depth) outerDo callee (arguments (items.map phrase) ++ rest) =
      .ok (.call (some callee) "." (gatherKeywords (items.map value)) [] [] 1, rest) := by
    have inside := parenArgs_argued argue inner rest
    simp only [arguments, List.cons_append] at inside ⊢
    simp only [afterDot, next, bind, Except.bind, show (mark "(" false).kind = .punctuation from rfl,
      show (mark "(" false).text = "(" from rfl, if_true, inside, pure, Except.pure]
    rfl
  rw [shape, operand_parens read fits, postfixes_dot called (by
    simp only [List.length_append]
    omega)]

theorem reads_applied (read : target.Reads callee) (args : ∀ i ∈ items, (phrase i).Reads (value i)) :
    (applied target (items.map phrase)).Reads (.call (some callee) "." (items.map value) [] [] 1) := by
  apply reads_of_operand (by simp [applied, Phrase.parens]) (fun _ => opened_cons rfl rfl) rfl rfl
  intro depth fits space rest closed
  simp only [applied, Phrase.parens, Nat.max_le, Nat.add_le_add_iff_right] at fits
  have gathered := gatherKeywords_plain (items.map value)
  rw [List.map_map, Function.comp_def] at gathered
  rw [operand_applied read (fun i member => (args i member).argues) fits.1 fits.2, gathered]

theorem operand_indexed {index : Phrase} {key : Node} (read : target.Reads callee)
    (inside : index.Reads key) (fits : target.depth ≤ depth) (inner : index.depth ≤ depth) (outerDo space : Bool)
    (rest : List Token) :
    operand (expression depth) outerDo ((indexed target index).tokens space ++ rest) =
      postfixes (expression depth) outerDo (.call (some callee) "[]" [key] [] [] 1) rest := by
  have shape : (indexed target index).tokens space ++ rest = target.parens.tokens space ++
      (mark "[" false :: (index.tokens false ++ mark "]" false :: rest)) := by
    simp [indexed]
  have key_reads := inside.reads inner false (mark "]" false :: rest) (closed_cons rfl)
  have bracket : postfixes (expression depth) outerDo callee
      (mark "[" false :: (index.tokens false ++ mark "]" false :: rest)) =
      postfixes (expression depth) outerDo (.call (some callee) "[]" [key] [] [] 1) rest := by
    have notDot : (mark "[" false).is .operator "." = false := rfl
    have adjacent : ((mark "[" false).is .punctuation "[" && !(mark "[" false).spaceBefore) = true := rfl
    have shorter : rest.length < (index.tokens false ++ mark "]" false :: rest).length + 1 := by
      simp only [List.length_append, List.length_cons]
      omega
    rw [postfixes]
    simp only [notDot, adjacent, Bool.false_eq_true, if_false, if_true, key_reads, bind, Except.bind,
      expect_mark, shorter]
    rfl
  rw [shape, operand_parens read fits, bracket]

theorem reads_indexed {index : Phrase} {key : Node} (read : target.Reads callee)
    (inside : index.Reads key) :
    (indexed target index).Reads (.call (some callee) "[]" [key] [] [] 1) := by
  apply reads_of_operand (by simp [indexed, Phrase.parens]) (fun _ => opened_cons rfl rfl) rfl rfl
  intro depth fits space rest closed
  simp only [indexed, Phrase.parens, Nat.max_le, Nat.add_le_add_iff_right] at fits
  exact operand_indexed read inside fits.1 fits.2 false space rest

end Targets

section References

/-- The further segments of an alias are read one by one. -/
theorem postfixes_links {expr : ExpressionReader} {outerDo : Bool} {done full : ModuleRef}
    {more : List String} (segments : full.segments = done.segments ++ more) (rest : List Token) :
    postfixes expr outerDo (.alias done 1) (more.flatMap link ++ rest) =
      postfixes expr outerDo (.alias full 1) rest := by
  induction more generalizing done with
  | nil =>
    obtain rfl : full = done := ModuleRef.eq_of_segments (by simpa using segments)
    rfl
  | cons segment more ih =>
    have valid : ModuleRef.isSegment segment = true := full.wellFormed segment (by simp [segments])
    have called : afterDot expr outerDo (.alias done 1)
        (⟨.alias, segment, 1, false, false⟩ :: (more.flatMap link ++ rest)) =
        .ok (.alias (done.child segment valid) 1, more.flatMap link ++ rest) := by
      simp [afterDot, next, valid, bind, Except.bind, pure, Except.pure]
    have longer : full.segments = (done.child segment valid).segments ++ more := by
      simp [ModuleRef.child, segments]
    rw [← ih longer, List.flatMap_cons]
    exact postfixes_dot called (Nat.lt_succ_of_lt (Nat.lt_succ_self _))

theorem operand_dotted {expr : ExpressionReader} {outerDo : Bool} (ref : ModuleRef) (space : Bool)
    (rest : List Token) :
    operand expr outerDo (dotted space ref.segments ++ rest) =
      postfixes expr outerDo (.alias ref 1) rest := by
  obtain ⟨segment, more, segments⟩ := List.exists_cons_of_ne_nil ref.nonempty
  have valid : ModuleRef.isSegment segment = true := ref.wellFormed segment (by simp [segments])
  have first : primary expr outerDo ⟨.alias, segment, 1, space, false⟩ (more.flatMap link ++ rest) =
      .ok (.alias ⟨[segment], by simp, by simpa using valid⟩ 1, more.flatMap link ++ rest) := by
    simp [primary, ModuleRef.ofName?_segment valid]
  rw [segments]
  exact (operand_primary (by simp) first).trans (postfixes_links (by simp [segments]) rest)

theorem reads_reference (ref : ModuleRef) : (reference ref.segments).Reads (.alias ref 1) := by
  obtain ⟨segment, more, segments⟩ := List.exists_cons_of_ne_nil ref.nonempty
  refine reads_of_operand (Nat.succ_pos _) (fun space => ?_) rfl rfl
    fun _ space rest _ => operand_dotted ref space rest
  rw [segments]
  exact opened_cons rfl rfl

theorem structSegments_links {done full : ModuleRef} {more : List String}
    (segments : full.segments = done.segments ++ more) (space : Bool) (rest : List Token) :
    structSegments done (more.flatMap link ++ mark "\x7b" space :: rest) =
      .ok (full, mark "\x7b" space :: rest) := by
  induction more generalizing done with
  | nil =>
    obtain rfl : full = done := ModuleRef.eq_of_segments (by simpa using segments)
    cases rest <;> simp [structSegments, mark, Token.is]
  | cons segment more ih =>
    have valid : ModuleRef.isSegment segment = true := full.wellFormed segment (by simp [segments])
    have longer : full.segments = (done.child segment valid).segments ++ more := by
      simp [ModuleRef.child, segments]
    simp [link, structSegments, symbol, Token.is, valid, ih longer]

theorem structName_dotted (ref : ModuleRef) (space : Bool) (rest : List Token) :
    structName (dotted false ref.segments ++ mark "\x7b" space :: rest) =
      .ok (.alias ref 1, mark "\x7b" space :: rest) := by
  obtain ⟨segment, more, segments⟩ := List.exists_cons_of_ne_nil ref.nonempty
  have valid : ModuleRef.isSegment segment = true := ref.wellFormed segment (by simp [segments])
  have later : structSegments ⟨[segment], by simp, by simpa using valid⟩
      (more.flatMap link ++ mark "\x7b" space :: rest) = .ok (ref, mark "\x7b" space :: rest) :=
    structSegments_links (by simp [segments]) space rest
  simp [segments, dotted, structName, next, ModuleRef.ofName?_segment valid, later, bind, Except.bind, pure,
    Except.pure]

end References

end Phrase

end BoundaryLint.Grammar
