import BoundaryLint.Host.Ordinary
import BoundaryLint.Proofs.Grammar.Operand

/-!
Forms whose body stands in a block or behind a key. The two spellings are read by different code: a block belongs to its
call, a key is the last of the arguments without parentheses. Both give the same node.
-/

namespace BoundaryLint.Grammar

namespace Phrase

section Bodies

variable {phrase : Phrase} {node : Node} {depth : Nat}

theorem body_single (stands : phrase.Stands node) (fits : phrase.depth ≤ depth) {word : String}
    (ending : word ∈ sectionEnds) (rest : List Token) :
    body (expression depth) sectionEnds (phrase.tokens true ++ keyword word true :: rest) =
      .ok ([node], keyword word true :: rest) := by
  have ends : endsBody sectionEnds (keyword word true) = true := by simpa [endsBody] using ending
  obtain ⟨notDo, last⟩ : word ≠ "do" ∧ word ≠ "," ∧ word ≠ "->" := by
    have words : ∀ word ∈ sectionEnds, word ≠ "do" ∧ word ≠ "," ∧ word ≠ "->" := by decide
    exact words word ending
  have yields : Yields false (keyword word true :: rest) := by simp [Yields, startsWith, Token.is, notDo]
  have read := stands.expression fits 0 true (ended_keyword rfl rest).toLoose yields
  exact body_statement (by decide) (stands.opened true) read ends last

theorem sections_else (stands : phrase.Stands node) (fits : phrase.depth ≤ depth) (rest : List Token) :
    sections (expression depth) (keyword "else" true :: (phrase.tokens true ++ keyword "end" true :: rest)) =
      .ok ([node], keyword "end" true :: rest) := by
  have opens : ((keyword "else" true).kind == .keyword && sectionKeywords.contains (keyword "else" true).text) = true := rfl
  have shorter : (keyword "end" true :: rest).length < (phrase.tokens true ++ keyword "end" true :: rest).length + 1 := by
    simp only [List.length_append]
    omega
  rw [sections, if_pos opens]
  simp only [body_single stands fits (by decide : "end" ∈ sectionEnds), bind, Except.bind, if_pos shorter, sections_end,
    pure, Except.pure, List.append_nil]

def withElse (body : Phrase) (otherwise : Option Phrase) : Phrase where
  tokens space := keyword "do" space :: (body.enclosed.tokens true ++
    ((match otherwise with
      | none => []
      | some other => keyword "else" true :: other.enclosed.tokens true) ++ [keyword "end" true]))
  depth := max body.enclosed.depth ((otherwise.map fun other => other.enclosed.depth).getD 0)

theorem blocks_withElse {body : Phrase} {otherwise : Option Phrase} {value : Node} {fallback : Option Node}
    (fills : body.Fills value) (rel : Option.Rel Fills otherwise fallback) :
    (withElse body otherwise).Blocks [value] fallback.toList := by
  have first := fills.stands
  cases rel with
  | none =>
    have fits : body.enclosed.depth ≤ (withElse body none).depth := Nat.le_max_left _ _
    have shape : (withElse body none).tokens true =
        keyword "do" true :: (body.enclosed.tokens true ++ keyword "end" true :: []) := by simp [withElse]
    rw [Blocks, shape, doBlock]
    simp only [expect_keyword, body_single first fits (by decide : "end" ∈ sectionEnds), sections_end, bind, Except.bind,
      pure, Except.pure, Option.toList]
  | @some other _ filled =>
    have fits : body.enclosed.depth ≤ (withElse body (some other)).depth := Nat.le_max_left _ _
    have fitsElse : other.enclosed.depth ≤ (withElse body (some other)).depth := Nat.le_max_right _ _
    have shape : (withElse body (some other)).tokens true = keyword "do" true :: (body.enclosed.tokens true ++
        keyword "else" true :: (other.enclosed.tokens true ++ keyword "end" true :: [])) := by
      simp [withElse]
    rw [Blocks, shape, doBlock]
    simp only [expect_keyword, body_single first fits (by decide : "else" ∈ sectionEnds), sections_else filled.stands fitsElse,
      bind, Except.bind, pure, Except.pure, Option.toList]

end Bodies

section Heads

variable {name : String} {params : Phrase} {nodes : List Node} (ordinary : name ∉ specialNames) (lists : params.Lists nodes)

def listed (name : String) (params : Phrase) : Phrase where
  tokens space := identifier name space :: mark "(" false :: params.tokens false
  depth := params.depth + 1

def guarded (name : String) (params : Phrase) : Option Phrase → Phrase
  | none => listed name params
  | some guard =>
    { tokens := fun space => (listed name params).tokens space ++ (operatorTokens "when" ++ guard.enclosed.tokens true)
      depth := max (listed name params).depth (guard.enclosed.depth + 1) }

include ordinary lists

theorem stands_listed : (listed name params).Stands (.call none name nodes [] [] 1) where
  opened _ := opened_cons rfl rfl
  bare _ := rfl
  deep := Nat.succ_pos _
  reads {depth} fits {outerDo} space {rest} yields := by
    have args : parenArgs (expression depth) (mark "(" false :: (params.tokens false ++ rest)) = .ok (nodes, rest) :=
      parenArgs_prolonged rest (Nat.le_of_succ_le_succ fits) lists
    have adjacent : (mark "(" false).is .punctuation "(" && !(mark "(" false).spaceBefore := rfl
    have given : callArgs (expression depth) (mark "(" false :: (params.tokens false ++ rest)) = .ok (some nodes, rest) := by
      simp only [callArgs, adjacent, if_true, args, bind, Except.bind, pure, Except.pure]
    have noBlock : optionalDoBlock (expression depth) outerDo rest = .ok (([], []), rest) :=
      if_neg (Bool.not_eq_true _ ▸ yields)
    have called := Callee.operand_callee ⟨none, name⟩ given noBlock (fun none => absurd none (Option.some_ne_none _)) space
    rw [Callee.node_ordinary fun _ => ordinary] at called
    simpa [listed, Callee.tokens] using called

theorem offers_guarded {guard : Option Phrase} {condition : Option Node} (rel : Option.Rel Fills guard condition) :
    (guarded name params guard).Offers (.plain (headNode name nodes condition)) := by
  have head := stands_listed ordinary lists
  cases rel with
  | none => exact head.offers
  | @some guard condition fills =>
    have opened : ∀ space, Opened 1 ((guarded name params (some guard)).tokens space) := fun _ => opened_cons rfl rfl
    refine ⟨fun _ => rfl, fun closer closing space _ => startsWith_of_opened (opened space) closing, ?_⟩
    intro depth fits outerDo space rest loose yields
    simp only [guarded, Nat.max_le] at fits
    obtain ⟨depth, rfl⟩ : ∃ d, depth = d + 1 := Nat.exists_eq_add_one.mpr (Nat.lt_of_lt_of_le head.deep fits.1)
    have known : (binding? "when").isSome = true := by decide
    have read : expression (depth + 1) 0 outerDo ((listed name params).tokens space ++
        (operatorTokens "when" ++ (guard.enclosed.tokens true ++ rest))) =
        .ok (.binary "when" (.call none name nodes [] [] 1) condition 1, rest) := by
      refine expression_operation known (fun _ found => power_pos found) ?_ ?_ loose.noOperator
      · refine (head.reads fits.1 space ?_).trans (postfixes_stop (startsPostfix_operatorTokens known _))
        simp [Yields, operatorTokens, startsWith, Token.is]
      · intro binding _
        exact fills.stands.expression (Nat.le_of_succ_le_succ fits.2) _ true loose yields
    have shape : (guarded name params (some guard)).tokens space ++ rest = (listed name params).tokens space ++
        (operatorTokens "when" ++ (guard.enclosed.tokens true ++ rest)) := by
      simp [guarded]
    rw [argument, startsWithKind_of_opened (opened space), shape]
    simp only [Bool.false_eq_true, if_false, read, bind, Except.bind, pure, Except.pure, headNode]

end Heads

end Phrase

open Phrase (Fills Lists bareCall)

inductive BodyForm where
  /-- A definition, with what stands between the parentheses behind its name. -/
  | definition (kind : DefinitionKind) (name : String) (params : Phrase) (guard : Option Phrase)
  | moduleDecl (ref : ModuleRef)
  /-- The clauses of a `with`, without their parentheses. -/
  | withForm (clauses : List Phrase)

namespace BodyForm

def word : BodyForm → String
  | definition kind _ _ _ => kind.keyword
  | moduleDecl _ => "defmodule"
  | withForm _ => "with"

def heads : BodyForm → List Phrase
  | definition _ name params guard => [Phrase.guarded name params guard]
  | moduleDecl ref => [Phrase.reference ref.segments]
  | withForm clauses => clauses.map Phrase.enclosed

def keys (body : Phrase) (otherwise : Option Phrase) : List Phrase :=
  Phrase.keyed "do" body.enclosed :: (otherwise.map fun other => Phrase.keyed "else" other.enclosed).toList

def withKeys (form : BodyForm) (body : Phrase) (otherwise : Option Phrase) : Phrase :=
  bareCall ⟨none, form.word⟩ (form.heads ++ keys body otherwise) none

def withBlock (form : BodyForm) (body : Phrase) (otherwise : Option Phrase) : Phrase :=
  bareCall ⟨none, form.word⟩ form.heads (some (Phrase.withElse body otherwise))

/-- What a form is read as, given what its parts are read as. -/
inductive Reads : BodyForm → Phrase → Option Phrase → Node → Prop
  | definition (kind : DefinitionKind) {name : String} {params body : Phrase} {guard : Option Phrase} {nodes : List Node}
    {condition : Option Node} {value : Node} (ordinary : name ∉ specialNames) (lists : params.Lists nodes)
    (guarded : Option.Rel Fills guard condition) (fills : body.Fills value) :
    Reads (.definition kind name params guard) body none (.definition kind name nodes [value] condition 1)
  | moduleDecl (ref : ModuleRef) {body : Phrase} {value : Node} (fills : body.Fills value) :
    Reads (.moduleDecl ref) body none (.moduleDecl (some ref) [value] 1)
  | withForm {clauses : List Phrase} {body : Phrase} {otherwise : Option Phrase} {heads : List Node} {value : Node}
    {fallback : Option Node} (matched : List.Forall₂ Fills clauses heads) (fills : body.Fills value)
    (other : Option.Rel Fills otherwise fallback) :
    Reads (.withForm clauses) body otherwise (.withForm heads [value] fallback.toList 1)

section Lowering

variable {value : Node} {fallback : Option Node}

def pairs (value : Node) (fallback : Option Node) : List Node :=
  .pair (.atom "do" 1) value 1 :: (fallback.map fun other => Node.pair (.atom "else" 1) other 1).toList

theorem trailingKeywords_pairs (heads : List Node) :
    trailingKeywords (heads ++ [.list (pairs value fallback) 1]) = pairs value fallback := by
  cases fallback <;> simp [trailingKeywords, pairs, Node.isPair]

theorem gatherKeywords_pairs (heads : List Node) :
    gatherKeywords (heads.map Argument.plain ++ (pairs value fallback).map Argument.keyword) =
      heads ++ [.list (pairs value fallback) 1] := by
  simp [gatherKeywords, pairs, List.filterMap_append, List.filterMap_map, Function.comp_def, Argument.plain?,
    Argument.keyword?, Node.line]

theorem bodyOf_pairs (function : String) (head : Node) :
    bodyOf ⟨none, function, [head, .list (pairs value fallback) 1], [], [], 1⟩ = [value] := by
  have trailing := @trailingKeywords_pairs value fallback []
  rw [List.nil_append] at trailing
  simp only [bodyOf, List.isEmpty_nil, if_true, List.drop_one, List.tail_cons, trailing]
  rfl

/-- A `with` keeps its clauses and its body in both spellings. -/
theorem lower_with_pairs (heads : List Node) :
    lower ⟨none, "with", heads ++ [.list (pairs value fallback) 1], [], [], 1⟩ =
      .withForm heads [value] fallback.toList 1 := by
  have plain : DefinitionKind.ofKeyword? "with" = none ∧ DirectiveKind.ofKeyword? "with" = none := by decide
  have found : Node.lookup? "do" (pairs value fallback) = some value ∧
      Node.lookup? "else" (pairs value fallback) = fallback := by
    cases fallback <;> simp [Node.lookup?, pairs]
  simp [lower, plain.1, plain.2, lowerWith, trailingKeywords_pairs, found.1, found.2]

theorem lower_with_block (heads more : List Node) :
    lower ⟨none, "with", heads, [value], more, 1⟩ = .withForm heads [value] more 1 := rfl

end Lowering

/-- The heads of a form are arguments without parentheses, from which both spellings make its node. -/
theorem Reads.exists_heads {form : BodyForm} {body : Phrase} {otherwise : Option Phrase} {node : Node}
    (reads : form.Reads body otherwise node) :
    ∃ (heads : List (Phrase × Node)) (value : Node) (fallback : Option Node), form.heads = heads.map Prod.fst ∧
      (∀ head ∈ heads, head.1.Offers (.plain head.2)) ∧ body.Fills value ∧ Option.Rel Fills otherwise fallback ∧
      lower ⟨none, form.word, heads.map Prod.snd, [value], fallback.toList, 1⟩ = node ∧
      lower ⟨none, form.word, heads.map Prod.snd ++ [.list (pairs value fallback) 1], [], [], 1⟩ = node := by
  cases reads with
  | @definition kind name params _ guard nodes condition value ordinary lists guarded fills =>
    refine ⟨[(Phrase.guarded name params guard, Phrase.headNode name nodes condition)], value, none, rfl, ?_, fills, .none, ?_, ?_⟩
    · exact List.forall_mem_singleton.mpr (Phrase.offers_guarded ordinary lists guarded)
    · exact Phrase.lower_definition kind name nodes [value] condition
    · refine (Phrase.lower_definitionCall kind name nodes _ [] [] condition 1).trans ?_
      exact congrArg (Node.definition kind name nodes · condition 1) (bodyOf_pairs kind.keyword _)
  | @moduleDecl ref _ value fills =>
    refine ⟨[(Phrase.reference ref.segments, .alias ref 1)], value, none, rfl, ?_, fills, .none, rfl, ?_⟩
    · exact List.forall_mem_singleton.mpr (Phrase.stands_reference ref).offers
    · exact congrArg (Node.moduleDecl (some ref) · 1) (bodyOf_pairs "defmodule" (.alias ref 1))
  | @withForm clauses _ _ heads value fallback matched fills other =>
    obtain ⟨same, filled⟩ := List.forall₂_iff_zip.mp matched
    have values : ((clauses.zip heads).map fun head => (head.1.enclosed, head.2)).map Prod.snd = heads := by
      simpa [Function.comp_def] using List.map_snd_zip same.ge
    refine ⟨(clauses.zip heads).map fun head => (head.1.enclosed, head.2), value, fallback, ?_, ?_, fills, other, ?_, ?_⟩
    · have phrases := congrArg (List.map Phrase.enclosed) (List.map_fst_zip same.le)
      simpa [BodyForm.heads, Function.comp_def] using phrases.symm
    · exact List.forall_mem_map.mpr fun head member => (filled member).stands.offers
    · rw [values]
      exact lower_with_block _ _
    · rw [values]
      exact lower_with_pairs _

/-- The keys are arguments without parentheses, too. -/
theorem exists_keys {body : Phrase} {otherwise : Option Phrase} {value : Node} {fallback : Option Node}
    (fills : body.Fills value) (other : Option.Rel Fills otherwise fallback) :
    ∃ keyed : List (Phrase × Node), keys body otherwise = keyed.map Prod.fst ∧ pairs value fallback = keyed.map Prod.snd ∧
      ∀ key ∈ keyed, key.1.Offers (.keyword key.2) := by
  have first := fills.stands.keyed "do"
  cases other with
  | none => exact ⟨[(_, _)], rfl, rfl, List.forall_mem_singleton.mpr first⟩
  | some filled =>
    refine ⟨[(_, _), (_, _)], rfl, rfl, List.forall_mem_cons.mpr ⟨first, List.forall_mem_singleton.mpr ?_⟩⟩
    exact filled.stands.keyed "else"

section Spellings

variable {form : BodyForm} {heads : List (Phrase × Node)} {body : Phrase} {otherwise : Option Phrase} {value : Node}
  {fallback : Option Node} (shape : form.heads = heads.map Prod.fst)
  (offers : ∀ head ∈ heads, head.1.Offers (.plain head.2)) (fills : body.Fills value)
  (other : Option.Rel Fills otherwise fallback)

include shape offers fills other

theorem parses_withKeys [Host] : (form.withKeys body otherwise).Parses
    (lower ⟨none, form.word, heads.map Prod.snd ++ [.list (pairs value fallback) 1], [], [], 1⟩) := by
  obtain ⟨keyed, keysShape, pairsShape, keyOffers⟩ := exists_keys fills other
  let args : List (Phrase × Argument) :=
    (heads.map fun head => (head.1, .plain head.2)) ++ keyed.map fun key => (key.1, .keyword key.2)
  have argsOffer : ∀ arg ∈ args, arg.1.Offers arg.2 :=
    List.forall_mem_append.mpr ⟨List.forall_mem_map.mpr offers, List.forall_mem_map.mpr keyOffers⟩
  have phrases : form.heads ++ keys body otherwise = args.map Prod.fst := by
    simp [args, shape, keysShape, Function.comp_def]
  have gathered : gatherKeywords (args.map Prod.snd) = heads.map Prod.snd ++ [.list (pairs value fallback) 1] := by
    rw [← gatherKeywords_pairs, pairsShape]
    simp [args, Function.comp_def]
  have some : args ≠ [] := by
    intro none
    rw [none] at phrases
    simp [keys] at phrases
  refine Phrase.parses_of_expression (Phrase.Callee.opened _ false _) fun fits => ?_
  rw [withKeys, phrases] at fits ⊢
  rw [Phrase.expression_bareCall argsOffer (fun none => absurd none some) .bare fits (fun _ => rfl) ended_nil rfl 0 false,
    gathered]
  rfl

theorem parses_withBlock [Host] : (form.withBlock body otherwise).Parses
    (lower ⟨none, form.word, heads.map Prod.snd, [value], fallback.toList, 1⟩) := by
  let args : List (Phrase × Argument) := heads.map fun head => (head.1, .plain head.2)
  have argsOffer : ∀ arg ∈ args, arg.1.Offers arg.2 := List.forall_mem_map.mpr offers
  have phrases : form.heads = args.map Prod.fst := by simp [args, shape, Function.comp_def]
  have gathered : gatherKeywords (args.map Prod.snd) = heads.map Prod.snd := by
    rw [← Phrase.gatherKeywords_plain (heads.map Prod.snd)]
    simp [args, Function.comp_def]
  refine Phrase.parses_of_expression (Phrase.Callee.opened _ false _) fun fits => ?_
  rw [withBlock, phrases] at fits ⊢
  rw [Phrase.expression_bareCall argsOffer (fun _ => rfl) (.block (Phrase.blocks_withElse fills other)) fits
    (fun _ => rfl) ended_nil rfl 0 false, gathered]
  rfl

end Spellings

/-- A form is read as the same node with its body behind a key and with its body in a block. -/
theorem parses_body [Host] {form : BodyForm} {body : Phrase} {otherwise : Option Phrase} {node : Node}
    (reads : form.Reads body otherwise node) :
    (form.withKeys body otherwise).Parses node ∧ (form.withBlock body otherwise).Parses node := by
  obtain ⟨heads, value, fallback, shape, offers, fills, other, blocked, keyed⟩ := reads.exists_heads
  have withKeys := parses_withKeys shape offers fills other
  have withBlock := parses_withBlock shape offers fills other
  rw [keyed] at withKeys
  rw [blocked] at withBlock
  exact ⟨withKeys, withBlock⟩

section Cart

def operation (left op right : String) : Phrase :=
  ⟨fun space => [Phrase.identifier left space, Phrase.symbol op true, Phrase.identifier right true, Phrase.mark ")" false], 3⟩

def operationNode (left op right : String) : Node := .binary op (.var left 1) (.var right 1) 1

def addParams : Phrase :=
  ⟨fun space => [Phrase.identifier "cart" space, comma, Phrase.identifier "n" true, Phrase.mark ")" false], 3⟩

def name (text : String) : Phrase := ⟨fun space => [Phrase.identifier text space, Phrase.mark ")" false], 2⟩

attribute [local instance] Host.ordinary in
theorem parses_body_cart :
    (parse "def add(cart, n) when (n > m), do: (cart + n)" = .ok [.definition .publicFunction "add"
          [.var "cart" 1, .var "n" 1] [operationNode "cart" "+" "n"] (some (operationNode "n" ">" "m")) 1] ∧
      parse "def add(cart, n) when (n > m) do (cart + n) end" = .ok [.definition .publicFunction "add"
          [.var "cart" 1, .var "n" 1] [operationNode "cart" "+" "n"] (some (operationNode "n" ">" "m")) 1]) ∧
    parse "with (a <- b), do: (a), else: (b)" =
        .ok [.withForm [operationNode "a" "<-" "b"] [.var "a" 1] [.var "b" 1] 1] ∧
      parse "with (a <- b) do (a) else (b) end" =
        .ok [.withForm [operationNode "a" "<-" "b"] [.var "a" 1] [.var "b" 1] 1] := by
  have params : addParams.Lists [.var "cart" 1, .var "n" 1] := by cbv
  have guard : (operation "n" ">" "m").Fills (operationNode "n" ">" "m") := by cbv
  have sum : (operation "cart" "+" "n").Fills (operationNode "cart" "+" "n") := by cbv
  have clause : (operation "a" "<-" "b").Fills (operationNode "a" "<-" "b") := by cbv
  have first : (name "a").Fills (.var "a" 1) := by cbv
  have second : (name "b").Fills (.var "b" 1) := by cbv
  obtain ⟨keyed, blocked⟩ := parses_body (.definition .publicFunction (by decide : "add" ∉ specialNames) params
    (.some guard) sum)
  obtain ⟨keyedWith, blockedWith⟩ := parses_body (.withForm (.cons clause .nil) first (.some second))
  exact ⟨⟨keyed.parse (by decide +kernel) (by decide), blocked.parse (by decide +kernel) (by decide)⟩,
    keyedWith.parse (by decide +kernel) (by decide), blockedWith.parse (by decide +kernel) (by decide)⟩

end Cart

end BodyForm

end BoundaryLint.Grammar
