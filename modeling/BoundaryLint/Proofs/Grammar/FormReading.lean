import BoundaryLint.Proofs.Grammar.PhraseReading

/-!
What the phrases of maps, anonymous functions, modules and definitions are read as.
-/

namespace BoundaryLint.Grammar

namespace Phrase

section Maps

/-- The phrase is read as a map entry, also as the first one. -/
structure Enters (phrase : Phrase) (node : Node) : Prop where
  reads : ∀ {depth}, phrase.depth ≤ depth → ∀ space rest, Closed rest →
    mapItem (expression depth) (phrase.tokens space ++ rest) = .ok (node, rest)
  goes : ∀ space rest, startsWith .punctuation "\x7d" (phrase.tokens space ++ rest) = false
  leads : ∀ {depth}, phrase.depth ≤ depth → ∀ space rest, Closed rest →
    startsWithKind .key (phrase.tokens space ++ rest) = true ∨
      startsWithKind .key (phrase.tokens space ++ rest) = false ∧ ∃ arrowed, mapEntry arrowed = node ∧
        expression depth mapUpdateFloor false (phrase.tokens space ++ rest) = .ok (arrowed, rest)

theorem enters_keyed {key : String} {phrase : Phrase} {node : Node} (read : phrase.Reads node) :
    (keyed key phrase).Enters (.pair (.atom key 1) node 1) where
  reads fits space rest closed := by
    simp [mapItem, read.keyed.reads fits space rest closed, bind, Except.bind, pure, Except.pure]
  goes := read.keyed.goes "\x7d" (by decide)
  leads _ _ _ _ := .inl rfl

theorem enters_arrow {left right : Phrase} {key value : Node} (first : left.Reads key)
    (second : right.Reads value) : (binary "=>" left right).Enters (.pair key value 1) where
  reads fits space rest closed := by
    have arrowed : (binary "=>" left right).Reads (.binary "=>" key value 1) :=
      reads_binary (by decide) first second
    simp [mapItem, arrowed.argues.reads fits space rest closed, mapEntry, bind, Except.bind, pure,
      Except.pure]
  goes := (reads_binary (by decide) first second).argues.goes "\x7d" (by decide)
  leads fits space rest closed := by
    have strong : ∀ binding ∈ binding? "=>", mapUpdateFloor < binding.power := by decide
    exact .inr ⟨rfl, _, rfl, expression_binary (by decide) strong first second fits space closed⟩

variable {ι : Type} {items : List ι} {phrase : ι → Phrase} {value : ι → Node} {depth : Nat}

theorem mapEntries_rowOf (enter : ∀ i ∈ items, (phrase i).Enters (value i))
    (fits : deepest (items.map phrase) ≤ depth) (space : Bool) (rest : List Token) :
    mapEntries (expression depth)
      (rowOf comma space (items.map phrase) ++ mark "\x7d" false :: rest) =
      .ok (items.map value, rest) := by
  have read : commaItems (mapItem (expression depth)) (startsWith .punctuation "\x7d")
      (row comma space (items.map fun i => (phrase i).tokens) ++ mark "\x7d" false :: rest) =
      .ok (items.map value, mark "\x7d" false :: rest) :=
    commaItems_row space (fun i member => (enter i member).reads (fits_of_deepest fits member))
      (fun i member => (enter i member).goes) (closed_cons rfl) rfl (fun _ => rfl)
  simp only [mapEntries, rowOf, List.map_map, Function.comp_def, read, bind, Except.bind, pure,
    Except.pure, expect_mark]

theorem mapBody_rowOf (enter : ∀ i ∈ items, (phrase i).Enters (value i))
    (fits : deepest (items.map phrase) ≤ depth) (rest : List Token) :
    mapBody (expression depth)
      (rowOf comma false (items.map phrase) ++ mark "\x7d" false :: rest) =
      .ok ((none, items.map value), rest) := by
  have all := mapEntries_rowOf enter fits false rest
  cases items with
  | nil =>
    have stops : startsWith .punctuation "\x7d" (mark "\x7d" false :: rest) = true := rfl
    simp only [List.map_nil, rowOf, row, List.nil_append] at all ⊢
    simp [mapBody, stops, all, bind, Except.bind, pure, Except.pure]
  | cons first items =>
    -- What follows the first entry, whether or not there are more.
    obtain ⟨after, closed, split, ended⟩ : ∃ after, Closed after ∧
        rowOf comma false ((first :: items).map phrase) ++ mark "\x7d" false :: rest =
          (phrase first).tokens false ++ after ∧
        (items = [] ∧ after = mark "\x7d" false :: rest ∨ items ≠ [] ∧ after =
          comma :: (rowOf comma true (items.map phrase) ++ mark "\x7d" false :: rest)) := by
      cases items with
      | nil => exact ⟨_, closed_cons rfl, rfl, .inl ⟨rfl, rfl⟩⟩
      | cons second items =>
        exact ⟨comma :: _, closed_cons rfl, by simp [rowOf, row], .inr ⟨by simp, rfl⟩⟩
    have entering := enter first (by simp)
    have opens := entering.goes false after
    rw [split] at all ⊢
    rcases entering.leads (fits_of_deepest fits (by simp)) false after closed with
      key | ⟨plain, arrowed, same, reads⟩
    · simp [mapBody, key, all, bind, Except.bind, pure, Except.pure]
    · simp only [mapBody, opens, plain, Bool.or_self, Bool.false_eq_true, if_false, reads, bind,
        Except.bind, pure, Except.pure]
      rcases ended with ⟨rfl, rfl⟩ | ⟨more, rfl⟩
      · simp [startsWith, Token.is, afterComma?, expect_mark, same]
      · have later := mapEntries_rowOf (fun i member => enter i (List.mem_cons_of_mem _ member))
          (Nat.le_trans (Nat.le_max_right _ _) fits) true rest
        simp only [comma] at later
        simp [startsWith, comma, Token.is, afterComma?, later, same]

theorem mapBody_update {changed : Phrase} {node : Node} (read : changed.Reads node)
    (deep : changed.parens.depth ≤ depth) (enter : ∀ i ∈ items, (phrase i).Enters (value i))
    (fits : deepest (items.map phrase) ≤ depth) (rest : List Token) :
    mapBody (expression depth) (changed.parens.tokens false ++
      symbol "|" true :: (rowOf comma true (items.map phrase) ++ mark "\x7d" false :: rest)) =
      .ok ((some node, items.map value), rest) := by
  have all := mapEntries_rowOf enter fits true rest
  have bar : binding? "|" = some (.right 50) := by decide
  generalize rowOf comma true (items.map phrase) ++ mark "\x7d" false :: rest = entries at all ⊢
  have first : expression depth mapUpdateFloor false
      (changed.parens.tokens false ++ symbol "|" true :: entries) = .ok (node, symbol "|" true :: entries) :=
    expression_parens read deep false rfl (by simp [binaryOperator?, bar, Binding.right, mapUpdateFloor])
  have goes : startsWith .punctuation "\x7d" (changed.parens.tokens false ++ symbol "|" true :: entries) =
      false := startsWith_of_opened (read.parens.opened false) (by decide)
  have plain : startsWithKind .key (changed.parens.tokens false ++ symbol "|" true :: entries) = false :=
    startsWithKind_of_opened (read.parens.opened false)
  simp only [mapBody, goes, plain, Bool.or_self, Bool.false_eq_true, if_false, first, bind, Except.bind,
    pure, Except.pure]
  simp [startsWith, Token.is, all]

theorem optionalStructName_bare (space : Bool) (rest : List Token) :
    optionalStructName (mark "\x7b" space :: rest) = .ok (none, mark "\x7b" space :: rest) := by
  simp [optionalStructName, startsWith, Token.is, pure, Except.pure]

theorem optionalStructName_dotted (ref : ModuleRef) (rest : List Token) :
    optionalStructName (dotted false ref.segments ++ mark "\x7b" false :: rest) =
      .ok (some (.alias ref 1), mark "\x7b" false :: rest) := by
  have named := structName_dotted ref false rest
  have opens : startsWith .punctuation "\x7b" (dotted false ref.segments ++ mark "\x7b" false :: rest) =
      false := by
    obtain ⟨segment, more, segments⟩ := List.exists_cons_of_ne_nil ref.nonempty
    rw [segments]
    rfl
  simp [optionalStructName, opens, named, bind, Except.bind, pure, Except.pure]

theorem operand_map {struct : List String} {name : Option Node} {update : Option Phrase}
    {changed : Option Node}
    (named : ∀ rest, optionalStructName (dotted false struct ++ mark "\x7b" false :: rest) =
      .ok (name, mark "\x7b" false :: rest))
    (updated : Option.Rel Reads update changed) (enter : ∀ i ∈ items, (phrase i).Enters (value i))
    (fits : (map struct update (items.map phrase)).depth ≤ depth + 1) (outerDo space : Bool) (rest : List Token) :
    operand (expression depth) outerDo ((map struct update (items.map phrase)).tokens space ++ rest) =
      postfixes (expression depth) outerDo (.map (items.map value) name changed 1) rest := by
  simp only [map, Nat.add_le_add_iff_right, Nat.max_le] at fits
  obtain ⟨inner, shape, entered⟩ : ∃ inner, (map struct update (items.map phrase)).tokens space ++ rest =
      symbol "%" space :: (dotted false struct ++ mark "\x7b" false :: inner) ∧
      mapBody (expression depth) inner = .ok ((changed, items.map value), rest) := by
    cases updated with
    | none => exact ⟨_, by simp [map], mapBody_rowOf enter fits.2 rest⟩
    | some read => exact ⟨_, by simp [map], mapBody_update read fits.1 enter fits.2 rest⟩
  have literal : mapLiteral (expression depth) 1 (dotted false struct ++ mark "\x7b" false :: inner) =
      .ok (.map (items.map value) name changed 1, rest) := by
    simp [mapLiteral, named, expect_mark, entered, bind, Except.bind, pure, Except.pure]
  rw [shape]
  simp [operand, next, prefixOperators, literal, bind, Except.bind]

theorem reads_map {struct : List String} {name : Option Node} {update : Option Phrase}
    {changed : Option Node}
    (named : ∀ rest, optionalStructName (dotted false struct ++ mark "\x7b" false :: rest) =
      .ok (name, mark "\x7b" false :: rest))
    (updated : Option.Rel Reads update changed) (enter : ∀ i ∈ items, (phrase i).Enters (value i)) :
    (map struct update (items.map phrase)).Reads (.map (items.map value) name changed 1) :=
  reads_of_operand (Nat.succ_pos _) (fun _ => opened_cons rfl rfl) rfl rfl fun fits space rest _ =>
    operand_map named updated enter fits false space rest

end Maps

section Clauses

def clauseItems (params statements : List Node) : List BodyItem :=
  .head params 1 :: statements.map .statement

def clauseNode (params statements : List Node) : Node :=
  .clause (splitGuard params).1 statements (splitGuard params).2 1

def ReadsClause (phrase : Phrase) (params statements : List Node) : Prop :=
  ∀ depth, phrase.depth ≤ depth → ∀ state, state ≠ .statements → ∀ space rest,
    Separated ["end"] rest → bodyItems (expression depth) ["end"] state (phrase.tokens space ++ rest) =
      prepend (clauseItems params statements) (bodyItems (expression depth) ["end"] .clauses rest)

theorem prepend_prepend {α : Type} (first second : List α) (result : Reading (List α × List Token)) :
    prepend first (prepend second result) = prepend (first ++ second) result := by
  cases result <;> simp [prepend, Except.map]

theorem readsClause {ι κ : Type} {heads : List ι} {statements : List κ} {head : ι → Phrase}
    {statement : κ → Phrase} {param : ι → Node} {value : κ → Node}
    (inputs : ∀ i ∈ heads, (head i).Reads (param i))
    (read : ∀ i ∈ statements, (statement i).Reads (value i)) :
    (clause (heads.map head) (statements.map statement)).ReadsClause (heads.map param)
      (statements.map value) := by
  intro depth fits state allowed space rest separated
  simp only [clause, Nat.max_le] at fits
  have plain : Plain ["end"] := by decide
  have kept : BodyState.clauses.addStatements statements = .clauses := by cases statements <;> rfl
  have later : bodyItems (expression depth) ["end"] .clauses
      (row semicolon true (statements.map fun i => (statement i).tokens) ++ rest) =
      prepend (statements.map fun i => .statement (value i))
        (bodyItems (expression depth) ["end"] (BodyState.clauses.addStatements statements) rest) :=
    bodyItems_row true plain (by decide)
      (fun i member => (read i member).reads (fits_of_deepest fits.2 member))
      (fun i member => (read i member).opened) separated
  have shape : (clause (heads.map head) (statements.map statement)).tokens space ++ rest =
      rowOf comma space (heads.map head) ++
        arrow :: (rowOf semicolon true (statements.map statement) ++ rest) := by
    simp [clause]
  have headed : bodyItems (expression depth) ["end"] state (rowOf comma space (heads.map head) ++
      arrow :: (rowOf semicolon true (statements.map statement) ++ rest)) =
      prepend [.head (heads.map param) 1] (bodyItems (expression depth) ["end"] .clauses
        (rowOf semicolon true (statements.map statement) ++ rest)) := by
    cases heads with
    | nil => exact bodyItems_bareHead allowed
    | cons first heads =>
      rw [rowOf, List.map_map]
      exact bodyItems_head space plain (List.cons_ne_nil first heads) allowed
        (fun i member => (inputs i member).reads (fits_of_deepest fits.1 member))
        (fun i member => (inputs i member).opened)
  simp only [kept] at later
  simp only [rowOf, List.map_map, Function.comp_def] at shape headed ⊢
  rw [shape, headed, later, prepend_prepend, clauseItems, List.map_map]
  rfl

variable {ι : Type} {items : List ι} {phrase : ι → Phrase} {params statements : ι → List Node}
  {depth : Nat}

theorem bodyItems_clauses (read : ∀ i ∈ items, (phrase i).ReadsClause (params i) (statements i))
    (fits : deepest (items.map phrase) ≤ depth) (state : BodyState) (allowed : state ≠ .statements)
    (space : Bool) (rest : List Token) :
    bodyItems (expression depth) ["end"] state
      (rowOf semicolon space (items.map phrase) ++ keyword "end" true :: rest) =
      .ok (items.flatMap fun i => clauseItems (params i) (statements i), keyword "end" true :: rest) := by
  have ending : endsBody ["end"] (keyword "end" true) = true := rfl
  induction items generalizing space state with
  | nil => exact bodyItems_end ending
  | cons first items ih =>
    have first_reads := read first (by simp) depth (fits_of_deepest fits (by simp)) state allowed space
    cases items with
    | nil =>
      have last := first_reads (keyword "end" true :: rest) (separated_end ending rfl (by decide))
      rw [bodyItems_end ending] at last
      simpa [prepend, Except.map, rowOf, row] using last
    | cons second items =>
      have later := ih (fun i member => read i (List.mem_cons_of_mem _ member))
        (Nat.le_trans (Nat.le_max_right _ _) fits) .clauses (by decide) true
      have shape : rowOf semicolon space ((first :: second :: items).map phrase) ++ keyword "end" true :: rest =
          (phrase first).tokens space ++ semicolon ::
            (rowOf semicolon true ((second :: items).map phrase) ++ keyword "end" true :: rest) := by
        simp [rowOf, row]
      rw [shape, first_reads _ separated_semicolon, bodyItems_semicolon rfl, later]
      rfl

theorem statements_clauseItems (nodes : List Node) (rest : List BodyItem)
    (headed : ∀ item ∈ rest.head?, item.isHead = true) :
    BodyItem.statements (nodes.map .statement ++ rest) = nodes := by
  induction nodes with
  | nil =>
    match rest, headed with
    | [], _ => rfl
    | .head _ _ :: _, _ => rfl
    | .statement node :: _, headed => exact absurd (headed (.statement node) rfl) Bool.false_ne_true
  | cons node nodes ih => simp [BodyItem.statements, ih]

theorem clausesOf_statements (nodes : List Node) (rest : List BodyItem) :
    clausesOf (nodes.map .statement ++ rest) = clausesOf rest := by
  induction nodes with
  | nil => rfl
  | cons node nodes ih => simp [clausesOf, ih]

theorem clausesOf_clauseItems (items : List ι) :
    clausesOf (items.flatMap fun i => clauseItems (params i) (statements i)) =
      items.map fun i => clauseNode (params i) (statements i) := by
  induction items with
  | nil => rfl
  | cons first items ih =>
    have headed : ∀ item ∈ (items.flatMap fun i => clauseItems (params i) (statements i)).head?,
        item.isHead = true := by
      cases items with
      | nil => simp
      | cons second items => simp [clauseItems, BodyItem.isHead]
    rw [List.flatMap_cons, List.map_cons, ← ih, clauseItems, List.cons_append, clausesOf,
      statements_clauseItems _ _ headed, clausesOf_statements, clauseNode]

theorem operand_anonymous (nonempty : items ≠ [])
    (read : ∀ i ∈ items, (phrase i).ReadsClause (params i) (statements i))
    (fits : deepest (items.map phrase) ≤ depth) (outerDo space : Bool) (rest : List Token) :
    operand (expression depth) outerDo ((anonymous (items.map phrase)).tokens space ++ rest) =
      postfixes (expression depth) outerDo
        (.anonymous (items.map fun i => clauseNode (params i) (statements i)) 1) rest := by
  have assembled : assemble (items.flatMap fun i => clauseItems (params i) (statements i)) =
      items.map fun i => clauseNode (params i) (statements i) := by
    obtain ⟨first, items, rfl⟩ := List.exists_cons_of_ne_nil nonempty
    rw [assemble, if_pos (by simp [clauseItems, BodyItem.isHead]), clausesOf_clauseItems]
  have kept : (items.map fun i => clauseNode (params i) (statements i)).filter Node.isClause =
      items.map fun i => clauseNode (params i) (statements i) := by
    simp [List.filter_eq_self, clauseNode, Node.isClause]
  have inside := bodyItems_clauses read fits .empty (by decide) true rest
  have shape : (anonymous (items.map phrase)).tokens space ++ rest = keyword "fn" space ::
      (rowOf semicolon true (items.map phrase) ++ keyword "end" true :: rest) := by
    simp [anonymous]
  rw [shape]
  apply operand_primary (by simp)
  simp [primary, Grammar.anonymous, body, inside, assembled, kept, nonempty, expect_keyword, bind,
    Except.bind, pure, Except.pure]

theorem reads_anonymous (nonempty : items ≠ [])
    (read : ∀ i ∈ items, (phrase i).ReadsClause (params i) (statements i)) :
    (anonymous (items.map phrase)).Reads
      (.anonymous (items.map fun i => clauseNode (params i) (statements i)) 1) :=
  reads_of_operand (Nat.succ_pos _) (fun _ => opened_cons rfl rfl) rfl rfl fun fits space rest _ =>
    operand_anonymous nonempty read (Nat.le_of_succ_le_succ fits) false space rest

end Clauses

section Blocks

variable {ι : Type} {items : List ι} {phrase : ι → Phrase} {value : ι → Node} {depth : Nat}

theorem sections_end (rest : List Token) :
    sections (expression depth) (keyword "end" true :: rest) = .ok ([], keyword "end" true :: rest) := by
  rw [sections]
  simp [sectionKeywords]

theorem doBlock_block (read : ∀ i ∈ items, (phrase i).Reads (value i))
    (fits : deepest (items.map phrase) ≤ depth) (rest : List Token) :
    doBlock (expression depth) (block (items.map phrase) ++ rest) = .ok ((items.map value, []), rest) := by
  have statements : body (expression depth) sectionEnds
      (row semicolon true (items.map fun i => (phrase i).tokens) ++ keyword "end" true :: rest) =
      .ok (items.map value, keyword "end" true :: rest) :=
    body_row true (by decide) rfl (fun i member => (read i member).reads (fits_of_deepest fits member))
      (fun i member => (read i member).opened) rfl rfl (by decide)
  have shape : block (items.map phrase) ++ rest = keyword "do" true ::
      (row semicolon true (items.map fun i => (phrase i).tokens) ++ keyword "end" true :: rest) := by
    simp [block, rowOf, Function.comp_def]
  rw [shape]
  simp only [doBlock, expect_keyword, statements, sections_end, bind, Except.bind, pure, Except.pure]

/-- A call with one bare argument and a block. A `do` after the argument belongs to the call. -/
theorem operand_blockCall {function : String} {token : Token} {tokens : List Token} {arg : Node}
    (word : token.kind = .identifier ∨ token.kind = .alias)
    (spaced : token.spaceBefore = true ∧ token.newlineBefore = false)
    (argued : ∀ rest, startsPostfix rest = false → binaryOperator? rest = none →
      expression depth 0 true (token :: tokens ++ rest) = .ok (arg, rest))
    (read : ∀ i ∈ items, (phrase i).Reads (value i)) (fits : deepest (items.map phrase) ≤ depth)
    (space : Bool) (rest : List Token) :
    operand (expression depth) false
      (identifier function space :: token :: (tokens ++ (block (items.map phrase) ++ rest))) =
      postfixes (expression depth) false (lower ⟨none, function, [arg], items.map value, [], 1⟩) rest := by
  have after := doBlock_block read fits rest
  have starts : ∃ more, block (items.map phrase) ++ rest = keyword "do" true :: more := ⟨_, rfl⟩
  generalize block (items.map phrase) ++ rest = blocked at after starts ⊢
  obtain ⟨more, rfl⟩ := starts
  have noComma : afterComma? (keyword "do" true :: more) = none := rfl
  have opens : startsWith .keyword "do" (keyword "do" true :: more) = true := rfl
  have first := argued (keyword "do" true :: more) rfl rfl
  rw [List.cons_append] at first
  generalize tokens ++ keyword "do" true :: more = argument_tokens at first ⊢
  have bare : startsBareArgs (token :: argument_tokens) = true := by
    rcases word with kind | kind <;> simp [startsBareArgs, argumentKinds, kind, spaced]
  have notKey : startsWithKind .key (token :: argument_tokens) = false := by
    rcases word with kind | kind <;> simp [startsWithKind, kind]
  have notParen : token.is .punctuation "(" = false := by
    rcases word with kind | kind <;> simp [Token.is, kind]
  have single : commaItems (argument (expression depth) true) (fun _ => false) (token :: argument_tokens) =
      .ok ([.plain arg], keyword "do" true :: more) := by
    rw [commaItems]
    simp [argument, notKey, first, noComma, bind, Except.bind, pure, Except.pure]
  have gathered : gatherKeywords [.plain arg] = [arg] := gatherKeywords_plain [arg]
  apply operand_primary (by simp)
  simp [primary, Grammar.identifier, callArgs, notParen, bare, bareArgs, single, gathered, optionalDoBlock,
    opens, after, bind, Except.bind, pure, Except.pure]

theorem reads_moduleDecl (ref : ModuleRef) (read : ∀ i ∈ items, (phrase i).Reads (value i)) :
    (moduleDecl ref.segments (items.map phrase)).Reads (.moduleDecl (some ref) (items.map value) 1) := by
  have lowered : lower ⟨none, "defmodule", [.alias ref 1], items.map value, [], 1⟩ =
      .moduleDecl (some ref) (items.map value) 1 := by
    cases items <;> simp [lower, lowerModule, bodyOf, trailingKeywords, Node.lookup?]
  apply reads_of_operand (Nat.succ_pos _) (fun _ => opened_cons rfl rfl) rfl rfl
  intro depth fits space rest closed
  simp only [moduleDecl, Nat.add_le_add_iff_right, Nat.max_le] at fits
  obtain ⟨depth, rfl⟩ : ∃ d, depth = d + 1 := Nat.exists_eq_add_one.mpr fits.1
  obtain ⟨segment, more, segments⟩ := List.exists_cons_of_ne_nil ref.nonempty
  have argued : ∀ rest, startsPostfix rest = false → binaryOperator? rest = none →
      expression (depth + 1) 0 true (⟨.alias, segment, 1, true, false⟩ :: more.flatMap link ++ rest) =
        .ok (.alias ref 1, rest) := by
    intro rest stop last
    have name : operand (expression depth) true (dotted true ref.segments ++ rest) =
        .ok (.alias ref 1, rest) := (operand_dotted ref true rest).trans (postfixes_stop stop)
    rw [segments] at name
    exact (expression_operand name).trans (operators_stop (by simp [last]))
  have shape : (moduleDecl ref.segments (items.map phrase)).tokens space ++ rest =
      identifier "defmodule" space :: ⟨.alias, segment, 1, true, false⟩ ::
        (more.flatMap link ++ (block (items.map phrase) ++ rest)) := by
    simp [moduleDecl, segments, dotted]
  rw [shape, operand_blockCall (.inr rfl) ⟨rfl, rfl⟩ argued read fits.2, lowered]

def headNode (name : String) (params : List Node) : Option Node → Node
  | none => .call none name params [] [] 1
  | some guard => .binary "when" (.call none name params [] [] 1) guard 1

theorem expression_signature {name : String} {guard : Option Phrase} {condition : Option Node}
    (ordinary : name ∉ specialNames) (read : ∀ i ∈ items, (phrase i).Reads (value i))
    (guarded : Option.Rel Reads guard condition)
    (fits : (signature name (items.map phrase) guard).depth ≤ depth) {rest : List Token}
    (stop : startsPostfix rest = false) (last : binaryOperator? rest = none) :
    expression depth 0 true ((signature name (items.map phrase) guard).tokens true ++ rest) =
      .ok (headNode name (items.map value) condition, rest) := by
  obtain ⟨depth, rfl⟩ : ∃ d, depth = d + 1 := by
    cases guarded <;> simp only [signature, call, Nat.max_le] at fits <;> exact ⟨depth - 1, by omega⟩
  have called : deepest (items.map phrase) ≤ depth → ∀ rest, startsPostfix rest = false →
      operand (expression depth) true ((call name (items.map phrase)).tokens true ++ rest) =
        .ok (.call none name (items.map value) [] [] 1, rest) := fun inner rest stop =>
    (operand_call ordinary read inner true rfl).trans (postfixes_stop stop)
  cases guarded with
  | none =>
    have inner : deepest (items.map phrase) ≤ depth := Nat.le_of_succ_le_succ fits
    exact (expression_operand (called inner rest stop)).trans (operators_stop (by simp [last]))
  | some conditioned =>
    simp only [signature, call, Nat.max_le, Nat.add_le_add_iff_right] at fits
    have known : (binding? "when").isSome = true := by decide
    have whole := expression_joined known (fun _ found => power_pos found) (called fits.1) conditioned fits.2
      stop last
    simpa [signature, operatorTokens, headNode, Node.line] using whole

/-- A definition with any further arguments and any end. -/
theorem lower_definitionCall (kind : DefinitionKind) (name : String) (params more block sections : List Node)
    (guard : Option Node) (line : Nat) :
    lower ⟨none, kind.keyword, headNode name params guard :: more, block, sections, line⟩ =
      .definition kind name params
        (bodyOf ⟨none, kind.keyword, headNode name params guard :: more, block, sections, line⟩) guard line := by
  have apart : kind.keyword ≠ "defmodule" := by cases kind <;> decide
  have known : DefinitionKind.ofKeyword? kind.keyword = some kind := by cases kind <;> rfl
  cases guard <;>
    simp only [headNode, lower, apart, if_false, known, lowerDefinition, splitWhen, if_true, headParts?]

theorem lower_definition (kind : DefinitionKind) (name : String) (params block : List Node)
    (guard : Option Node) :
    lower ⟨none, kind.keyword, [headNode name params guard], block, [], 1⟩ =
      .definition kind name params block guard 1 := by
  have body : bodyOf ⟨none, kind.keyword, [headNode name params guard], block, [], 1⟩ = block := by
    cases block <;> simp [bodyOf, trailingKeywords, Node.lookup?]
  rw [lower_definitionCall, body]

theorem reads_definition {κ : Type} {statements : List κ} {statement : κ → Phrase} {node : κ → Node}
    {name : String} {guard : Option Phrase} {condition : Option Node} (kind : DefinitionKind)
    (ordinary : name ∉ specialNames) (params : ∀ i ∈ items, (phrase i).Reads (value i))
    (guarded : Option.Rel Reads guard condition)
    (read : ∀ i ∈ statements, (statement i).Reads (node i)) :
    (definition kind (signature name (items.map phrase) guard) (statements.map statement)).Reads
      (.definition kind name (items.map value) (statements.map node) condition 1) := by
  apply reads_of_operand (Nat.succ_pos _) (fun _ => opened_cons rfl rfl) rfl rfl
  intro depth fits space rest closed
  simp only [definition, Nat.add_le_add_iff_right, Nat.max_le] at fits
  obtain ⟨more, head⟩ : ∃ more, (signature name (items.map phrase) guard).tokens true =
      identifier name true :: more := by
    cases guard <;> exact ⟨_, rfl⟩
  have argued : ∀ rest, startsPostfix rest = false → binaryOperator? rest = none →
      expression depth 0 true (identifier name true :: more ++ rest) =
        .ok (headNode name (items.map value) condition, rest) := by
    intro rest stop last
    rw [← head]
    exact expression_signature ordinary params guarded fits.1 stop last
  have shape : (definition kind (signature name (items.map phrase) guard)
      (statements.map statement)).tokens space ++ rest = identifier kind.keyword space ::
        identifier name true :: (more ++ (block (statements.map statement) ++ rest)) := by
    simp [definition, head]
  rw [shape, operand_blockCall (.inl rfl) ⟨rfl, rfl⟩ argued read fits.2, lower_definition]

end Blocks

end Phrase

end BoundaryLint.Grammar
