import BoundaryLint.Host.Ordinary
import BoundaryLint.Proofs.Boundary.Directive
import BoundaryLint.Proofs.Grammar.Closeness
import BoundaryLint.Proofs.Grammar.FaultLine
import BoundaryLint.Proofs.Grammar.Phrase
import BoundaryLint.Tree.Walk
import Mathlib

/-!
The sections of blocks. A block has a section behind its `do` and more behind the words that divide it. A form with a
body keeps all that was read in them, in order, if there is anything in the first one. If there is not, its keys count
and the other sections are lost.
-/

namespace BoundaryLint.Grammar

structure Run where
  params : List Node
  line : Nat
  statements : List Node

def Run.items (run : Run) : List BodyItem := .head run.params run.line :: run.statements.map .statement

def Run.clause (run : Run) : Node :=
  .clause (splitGuard run.params).1 run.statements (splitGuard run.params).2 run.line

/-- The nodes of a body hold all that was read for it, in order: each statement is one of them, or stands in the clause
of the head before it. -/
inductive Laid : List BodyItem → List Node → Prop
  | statements (nodes : List Node) : Laid (nodes.map .statement) nodes
  | clauses (runs : List Run) : Laid (runs.flatMap Run.items) (runs.map Run.clause)

theorem Laid.eq_nil_iff {items : List BodyItem} {nodes : List Node} (laid : Laid items nodes) :
    nodes = [] ↔ items = [] := by
  cases laid with
  | statements => simp
  | clauses runs => cases runs <;> simp [Run.items]

section Bodies

variable {expr : ExpressionReader} {items : List BodyItem} {state : BodyState} {ends : List String}

theorem statements_head (params : List Node) (line : Nat) (items : List BodyItem) :
    BodyItem.statements (.head params line :: items) = [] := rfl

/-- Any row of items is one of statements and then one of heads with statements behind them. -/
theorem exists_runs (items : List BodyItem) : ∃ runs : List Run,
    items = (BodyItem.statements items).map .statement ++ runs.flatMap Run.items ∧
      clausesOf items = runs.map Run.clause := by
  induction items with
  | nil => exact ⟨[], rfl, rfl⟩
  | cons item items ih =>
    obtain ⟨runs, split, clauses⟩ := ih
    cases item with
    | statement node =>
      refine ⟨runs, ?_, clauses⟩
      rw [BodyItem.statements, List.map_cons, List.cons_append, ← split]
    | head params line =>
      refine ⟨⟨params, line, BodyItem.statements items⟩ :: runs, ?_, ?_⟩
      · rw [statements_head, List.map_nil, List.nil_append, List.flatMap_cons, Run.items, List.cons_append, ← split]
      · rw [clausesOf, clauses, List.map_cons, Run.clause]

def Headed (items : List BodyItem) : Prop :=
  (∀ item ∈ items, item.isHead = false) ∨ ∃ params line rest, items = .head params line :: rest

theorem laid_assemble (headed : Headed items) : Laid items (assemble items) := by
  rcases headed with none | ⟨params, line, rest, rfl⟩
  · have statements : items = (items.filterMap BodyItem.node?).map .statement := by
      induction items with
      | nil => rfl
      | cons item items ih =>
        obtain ⟨first, others⟩ := List.forall_mem_cons.mp none
        cases item with
        | statement node => exact congrArg (BodyItem.statement node :: ·) (ih others)
        | head params line => cases first
    have noHead : items.any BodyItem.isHead = false := by simpa using none
    rw [assemble, if_neg (by simp [noHead])]
    conv => lhs; rw [statements]
    exact .statements _
  · obtain ⟨runs, split, clauses⟩ := exists_runs (.head params line :: rest)
    rw [statements_head, List.map_nil, List.nil_append] at split
    rw [assemble, if_pos (by simp [BodyItem.isHead]), clauses, split]
    exact .clauses runs

theorem allowHead_outcome (state : BodyState) (after : List Token) :
    Outcome (fun _ => state ≠ .statements) (fun _ => True) (allowHead state after) := by
  unfold allowHead
  split
  · trivial
  · assumption

/-- A body read so far and the items behind it: no head follows a statement that has no head before it. -/
def Continues (state : BodyState) (items : List BodyItem) : Prop :=
  (state = .statements → ∀ item ∈ items, item.isHead = false) ∧ (state = .empty → Headed items)

theorem continues_nil (state : BodyState) : Continues state [] := ⟨fun _ => by simp, fun _ => .inl (by simp)⟩

theorem continues_head (other : state ≠ .statements) (params : List Node) (line : Nat) (items : List BodyItem) :
    Continues state (.head params line :: items) :=
  ⟨fun same => absurd same other, fun _ => .inr ⟨params, line, items, rfl⟩⟩

theorem Continues.statement (continues : Continues state.addStatement items) (node : Node) :
    Continues state (.statement node :: items) := by
  have later : state ≠ .clauses → ∀ item ∈ BodyItem.statement node :: items, item.isHead = false := by
    intro other
    have added : state.addStatement = .statements := by cases state <;> trivial
    exact List.forall_mem_cons.mpr ⟨rfl, continues.1 added⟩
  exact ⟨fun same => later (by simp [same]), fun same => .inl (later (by simp [same]))⟩

theorem continues_bodyItems (expr : ExpressionReader) (ends : List String) (state : BodyState) (tokens : List Token) :
    Outcome (fun result => Continues state result.1) (fun _ => True) (bodyItems expr ends state tokens) := by
  -- Along the reading: a head is only read where one may stand, and each item leaves the state that it makes.
  fun_induction bodyItems expr ends state tokens with
  | case1 => exact continues_nil _
  | case2 => exact continues_nil _
  | case3 state token rest _ _ ih => exact ih
  | case4 state token rest _ _ _ ih =>
    refine Outcome.bind (allowHead_outcome state rest) fun _ allowed => ?_
    exact Outcome.bind ih fun result _ => continues_head allowed _ _ _
  | case5 state token rest _ _ _ clauses statements =>
    refine Outcome.bind (.any _) ?_
    rintro ⟨node, after⟩ -
    dsimp only
    split
    · refine Outcome.bind (.any _) ?_
      rintro ⟨params, following⟩ -
      refine Outcome.bind (.any _) fun final _ => ?_
      refine Outcome.bind (allowHead_outcome state final) fun _ allowed => ?_
      dsimp only
      split
      · next shorter => exact Outcome.bind (clauses final shorter) fun result _ => continues_head allowed _ _ _
      · exact continues_head allowed _ _ _
    · refine Outcome.bind (.any _) fun _ _ => ?_
      split
      · next shorter => exact Outcome.bind (statements after shorter) fun result continues => continues.statement node
      · exact (continues_nil _).statement node

end Bodies

def opensSection (token : Token) : Bool := token.kind == .keyword && sectionKeywords.contains token.text

inductive Sections (expr : ExpressionReader) : List Token → List (List BodyItem) → List Token → Prop
  | done {tokens : List Token} (stop : ∀ token ∈ tokens.head?, opensSection token = false) :
    Sections expr tokens [] tokens
  | further {word : Token} {tokens after rest : List Token} {items : List BodyItem} {others : List (List BodyItem)}
    (opens : opensSection word = true) (reads : bodyItems expr sectionEnds .empty tokens = .ok (items, after))
    (more : Sections expr after others rest) : Sections expr (word :: tokens) (items :: others) rest

inductive Block (expr : ExpressionReader) : List Token → List BodyItem → List (List BodyItem) → List Token → Prop
  | block {opening closing : Token} {tokens between rest : List Token} {first : List BodyItem}
    {others : List (List BodyItem)} (opens : opening.is .keyword "do" = true)
    (reads : bodyItems expr sectionEnds .empty tokens = .ok (first, between))
    (more : Sections expr between others (closing :: rest)) (closes : closing.is .keyword "end" = true) :
    Block expr (opening :: tokens) first others rest

section Blocks

variable {expr : ExpressionReader} {tokens rest : List Token} {nodes : List Node}

theorem items_of_body {ends : List String} (read : body expr ends tokens = .ok (nodes, rest)) :
    ∃ items, bodyItems expr ends .empty tokens = .ok (items, rest) ∧ nodes = assemble items := by
  obtain ⟨⟨items, after⟩, itemized, same⟩ := bind_eq_ok.mp read
  cases same
  exact ⟨items, itemized, rfl⟩

theorem laid_of_bodyItems {ends : List String} {items : List BodyItem}
    (read : bodyItems expr ends .empty tokens = .ok (items, rest)) : Laid items (assemble items) := by
  have continues := continues_bodyItems expr ends .empty tokens
  rw [read] at continues
  exact laid_assemble (continues.2 rfl)

theorem Sections.laid {others : List (List BodyItem)} (sections : Sections expr tokens others rest) :
    ∀ items ∈ others, Laid items (assemble items) := by
  induction sections with
  | done => exact List.forall_mem_nil _
  | further _ reads _ ih => exact List.forall_mem_cons.mpr ⟨laid_of_bodyItems reads, ih⟩

theorem Block.laid {first : List BodyItem} {others : List (List BodyItem)}
    (block : Block expr tokens first others rest) : ∀ items ∈ first :: others, Laid items (assemble items) := by
  obtain ⟨_, reads, more, _⟩ := block
  exact List.forall_mem_cons.mpr ⟨laid_of_bodyItems reads, more.laid⟩

theorem expect_eq_ok {kind : Token.Kind} {text : String} :
    expect kind text tokens = .ok rest ↔ ∃ token, token.is kind text = true ∧ tokens = token :: rest := by
  cases tokens with
  | nil => simp [expect]
  | cons token more =>
    simp only [expect]
    split <;> simp_all

variable (takes : ∀ floor outerDo tokens, Takes Prod.snd tokens (expr floor outerDo tokens))

include takes

theorem sections_of_read (read : sections expr tokens = .ok (nodes, rest)) :
    ∃ others, Sections expr tokens others rest ∧ nodes = others.flatMap assemble := by
  fun_induction sections expr tokens generalizing nodes with
  | case1 =>
    cases read
    exact ⟨[], .done (by simp), rfl⟩
  | case2 word tokens opens ih =>
    obtain ⟨⟨main, after⟩, found, later⟩ := bind_eq_ok.mp read
    have shorter : after.length < tokens.length + 1 := by
      have taken := takes_body takes sectionEnds tokens
      rw [found] at taken
      exact Nat.lt_succ_of_le taken.length_le
    obtain ⟨items, itemized, rfl⟩ := items_of_body found
    simp only [if_pos shorter] at later
    obtain ⟨⟨more, final⟩, behind, same⟩ := bind_eq_ok.mp later
    cases same
    obtain ⟨others, sections, rfl⟩ := ih after shorter behind
    exact ⟨items :: others, .further opens itemized sections, rfl⟩
  | case3 token tokens stop =>
    cases read
    exact ⟨[], .done (by simpa [opensSection] using stop), rfl⟩

theorem block_of_doBlock {main more : List Node} (read : doBlock expr tokens = .ok ((main, more), rest)) :
    ∃ first others, Block expr tokens first others rest ∧ main = assemble first ∧ more = others.flatMap assemble := by
  obtain ⟨inside, opened, read⟩ := bind_eq_ok.mp read
  obtain ⟨⟨_, between⟩, found, read⟩ := bind_eq_ok.mp read
  obtain ⟨⟨_, after⟩, behind, read⟩ := bind_eq_ok.mp read
  obtain ⟨_, closed, same⟩ := bind_eq_ok.mp read
  cases same
  obtain ⟨opening, opens, rfl⟩ := expect_eq_ok.mp opened
  obtain ⟨closing, closes, rfl⟩ := expect_eq_ok.mp closed
  obtain ⟨first, itemized, rfl⟩ := items_of_body found
  obtain ⟨others, sections, rfl⟩ := sections_of_read takes behind
  exact ⟨first, others, .block opens itemized sections closes, rfl, rfl⟩

end Blocks

/-- The node has a body of the main nodes and, in a `with` apart from it, the further ones. -/
inductive HasSections (main more : List Node) : Node → Prop
  | moduleDecl (name : Option ModuleRef) (line : Nat) : HasSections main more (.moduleDecl name (main ++ more) line)
  | definition (kind : DefinitionKind) (name : String) (params : List Node) (guard : Option Node) (line : Nat) :
    HasSections main more (.definition kind name params (main ++ more) guard line)
  | withForm (clauses : List Node) (line : Nat) : HasSections main more (.withForm clauses main more line)

/-- All that is below the sections is visited, and last. -/
theorem HasSections.walk {main more : List Node} {node : Node} (has : HasSections main more node) :
    Node.walkAll (main ++ more) <:+ node.walk := by
  have below : ∀ {front : List Node}, node.children = front ++ (main ++ more) →
      Node.walkAll (main ++ more) <:+ node.walk := by
    intro front split
    rw [Node.walk, Node.walkAll, List.append_nil, split, Node.walkAll_append front]
    exact (List.suffix_append _ _).trans (List.suffix_cons _ _)
  cases has with
  | moduleDecl name line => exact @below [] rfl
  | definition kind name params guard line => exact below rfl
  | withForm clauses line => exact below (List.append_assoc _ _ _)

def bodyWords : List String := "defmodule" :: "with" :: DefinitionKind.all.map DefinitionKind.keyword

def keyed? (key word : String) (args : List Node) : Option Node :=
  Node.lookup? key (trailingKeywords (if word = "with" then args else args.drop 1))

def keyedParts (word : String) (args : List Node) : List Node × List Node :=
  ((keyed? "do" word args).toList, if word = "with" then (keyed? "else" word args).toList else [])

section Lowering

variable {call : Call}

theorem bodyOf_block (nonempty : call.block ≠ []) : bodyOf call = call.block ++ call.elseBlock := by
  rw [bodyOf, if_neg (by simpa using nonempty)]

theorem bodyOf_keyword (empty : call.block = []) :
    bodyOf call = (Node.lookup? "do" (trailingKeywords (call.args.drop 1))).toList := by
  rw [bodyOf, if_pos (by simpa using empty)]

/-- A form that is lowered, apart from `with`, has the body of its call. -/
theorem lower_bodyOf (form : call.function ∈ bodyWords) (other : call.function ≠ "with")
    (lowered : (lower call).call? = none) {main more : List Node} (split : bodyOf call = main ++ more) :
    HasSections main more (lower call) := by
  by_cases module : call.function = "defmodule"
  · have same : lower call = lowerModule call := if_pos module
    rw [same] at lowered ⊢
    cases args : call.args with
    | nil => simp [lowerModule, args, Node.call?_toNode] at lowered
    | cons head rest =>
      rw [lowerModule_cons args, split]
      exact .moduleDecl _ _
  · obtain ⟨kind, -, word⟩ : ∃ kind ∈ DefinitionKind.all, kind.keyword = call.function := by
      simpa [bodyWords, module, other] using form
    have known : DefinitionKind.ofKeyword? call.function = some kind := by rw [← word]; cases kind <;> rfl
    have same : lower call = lowerDefinition kind call := by simp [lower, module, known]
    rw [same] at lowered ⊢
    cases args : call.args with
    | nil => simp [lowerDefinition, args, Node.call?_toNode] at lowered
    | cons head rest =>
      cases parts : headParts? (splitWhen head).1 with
      | none => simp [lowerDefinition, args, parts, Node.call?_toNode] at lowered
      | some named =>
        simp only [lowerDefinition, args, parts, split]
        exact .definition ..

theorem lower_with (word : call.function = "with") : lower call = lowerWith call := by
  have plain : DefinitionKind.ofKeyword? "with" = none ∧ DirectiveKind.ofKeyword? "with" = none := by decide
  simp [lower, word, plain]

/-- A form keeps the sections of its block if there is anything in the first one. If there is not, a `with` without a
`do` key keeps the others, and any other form has the values of its keys in place of them. -/
theorem lower_sections (form : call.function ∈ bodyWords) (lowered : (lower call).call? = none) :
    (call.block ≠ [] ∨ call.function = "with" ∧ keyed? "do" call.function call.args = none →
      HasSections call.block call.elseBlock (lower call)) ∧
    (call.block = [] → (call.function = "with" → keyed? "do" call.function call.args ≠ none) →
      HasSections (keyedParts call.function call.args).1 (keyedParts call.function call.args).2 (lower call)) := by
  by_cases word : call.function = "with"
  · rw [lower_with word]
    simp only [keyedParts, keyed?, word, if_true, true_and, forall_const]
    refine ⟨fun kept => ?_, fun empty present => ?_⟩
    · have same : lowerWith call = .withForm call.args call.block call.elseBlock call.line := by
        unfold lowerWith
        dsimp only
        split
        · next body empty found => simp_all
        · rfl
      rw [same]
      exact .withForm _ _
    · obtain ⟨body, found⟩ := Option.ne_none_iff_exists'.mp present
      simp only [lowerWith, empty, found]
      exact .withForm _ _
  · simp only [keyedParts, keyed?, word, if_false, false_and, or_false, false_imp_iff, true_imp_iff]
    refine ⟨fun nonempty => lower_bodyOf form word lowered (bodyOf_block nonempty), fun empty => ?_⟩
    exact lower_bodyOf form word lowered ((bodyOf_keyword empty).trans (List.append_nil _).symm)

end Lowering

/-- A form with a block holds all that was read in its sections, in order, and it is visited in this order, if there is
anything in the first section or the form is a `with` without a `do` key. Otherwise it holds the values of its keys. -/
theorem identifier_sections {depth : Nat} {token : Token} {tokens middle rest : List Token} {args : Option (List Node)}
    {node : Node} (form : token.text ∈ bodyWords)
    (given : callArgs (expression depth) tokens = .ok (args, middle)) (opens : startsWith .keyword "do" middle = true)
    (read : identifier (expression depth) false token tokens = .ok (node, rest)) (lowered : node.call? = none) :
    ∃ first others, Block (expression depth) middle first others rest ∧
      (∀ items ∈ first :: others, Laid items (assemble items)) ∧
      (first ≠ [] ∨ token.text = "with" ∧ keyed? "do" token.text (args.getD []) = none →
        HasSections (assemble first) (others.flatMap assemble) node ∧
          Node.walkAll ((first :: others).flatMap assemble) <:+ node.walk) ∧
      (first = [] → (token.text = "with" → keyed? "do" token.text (args.getD []) ≠ none) →
        HasSections (keyedParts token.text (args.getD [])).1 (keyedParts token.text (args.getD [])).2 node) := by
  obtain ⟨⟨_, between⟩, found, read⟩ := bind_eq_ok.mp read
  cases given.symm.trans found
  dsimp only at read
  rw [if_neg (by simp [opens])] at read
  obtain ⟨⟨⟨main, more⟩, after⟩, block, same⟩ := bind_eq_ok.mp read
  cases same
  have blocked : doBlock (expression depth) middle = .ok ((main, more), after) := by
    simpa [optionalDoBlock, opens] using block
  obtain ⟨first, others, reads, rfl, rfl⟩ := block_of_doBlock (takes_expression depth) blocked
  obtain ⟨kept, lost⟩ := lower_sections form lowered
  have laid := reads.laid
  have nothing : assemble first = [] ↔ first = [] := (laid first (List.mem_cons_self ..)).eq_nil_iff
  refine ⟨first, others, reads, laid, fun holds => ?_, fun empty => lost (nothing.mpr empty)⟩
  have has := kept (holds.imp_left (mt nothing.mp))
  exact ⟨has, by simpa using has.walk⟩

def rescueBlock : List Token :=
  [Phrase.keyword "do" true, Phrase.identifier "risky" true, Phrase.keyword "rescue" true, Phrase.identifier "e" true,
    Phrase.symbol "->" true, Phrase.identifier "e" true, Phrase.keyword "end" true]

theorem identifier_sections_rescue :
    ∃ first others, Block (expression 9) rescueBlock first others [] ∧
      HasSections (assemble first) (others.flatMap assemble)
        (.definition .publicFunction "run" [] [.var "risky" 1, .clause [.var "e" 1] [.var "e" 1] none 1] none 1) := by
  have given : callArgs (expression 9) (Phrase.identifier "run" true :: rescueBlock) =
      .ok (some [.var "run" 1], rescueBlock) := by cbv
  have read : identifier (expression 9) false (Phrase.identifier "def" false)
      (Phrase.identifier "run" true :: rescueBlock) = .ok (.definition .publicFunction "run" []
        [.var "risky" 1, .clause [.var "e" 1] [.var "e" 1] none 1] none 1, []) := by cbv
  obtain ⟨first, others, block, -, kept, -⟩ := identifier_sections (by decide) given rfl read rfl
  refine ⟨first, others, block, (kept (.inl ?_)).1⟩
  obtain ⟨after, statement⟩ : ∃ after, bodyItems (expression 9) sectionEnds .empty (rescueBlock.drop 1) =
      .ok ([.statement (.var "risky" 1)], after) := ⟨_, by cbv⟩
  obtain ⟨_, reads, _, _⟩ := block
  cases reads.symm.trans statement
  exact List.cons_ne_nil _ _

def emptySectionCall (spaced : Bool) : List Token :=
  [⟨.identifier, "f", 1, spaced, false⟩, ⟨.punctuation, "(", 1, false, false⟩, ⟨.punctuation, ")", 1, false, false⟩,
    ⟨.keyword, "do", 1, true, false⟩, ⟨.keyword, "rescue", 2, true, true⟩, ⟨.identifier, "_", 3, true, true⟩,
    ⟨.operator, "->", 3, true, false⟩, ⟨.identifier, "g", 3, true, false⟩, ⟨.punctuation, "(", 3, false, false⟩,
    ⟨.integer, "1", 3, false, false⟩, ⟨.punctuation, ")", 3, false, false⟩, ⟨.keyword, "end", 4, true, true⟩]

attribute [local instance] Host.ordinary in
/-- Without anything in the first section a definition loses the others, which a plain call keeps. -/
theorem identifier_sections_lost :
    parse "def f() do\nrescue\n  _ -> g(1)\nend" = .ok [.definition .publicFunction "f" [] [] none 1] ∧
    parse "f() do\nrescue\n  _ -> g(1)\nend" = .ok [.call none "f" [] []
      [.clause [.var "_" 3] [.call none "g" [.literal (.integer 1) 3] [] [] 3] none 3] 1] := by
  have defined : Token.scan "def f() do\nrescue\n  _ -> g(1)\nend" =
      .ok (⟨.identifier, "def", 1, false, false⟩ :: emptySectionCall true) := by decide +kernel
  have called : Token.scan "f() do\nrescue\n  _ -> g(1)\nend" = .ok (emptySectionCall false) := by decide +kernel
  rw [parse, parse, defined, called]
  constructor <;> cbv

end BoundaryLint.Grammar
