import BoundaryLint.Proofs.Grammar.FaultLine
import BoundaryLint.Proofs.Tree.Moving
import Mathlib

/-!
Reading does not look at lines. A reader copies the lines of tokens into nodes and faults and decides nothing
by them: when the tokens move to other lines, the nodes and the faults move with them. The first line has to
stay, since a fault that no token shows is placed there.
-/

namespace BoundaryLint

def Token.moved (move : Nat → Nat) (token : Token) : Token := { token with line := move token.line }

def Source.Fault.moved (move : Nat → Nat) : Source.Fault → Source.Fault
  | .at cause line => .at cause (move line)
  | .literalsTooDeep => .literalsTooDeep

def Call.moved (move : Nat → Nat) (call : Call) : Call where
  target := call.target.map (Node.moved move)
  function := call.function
  args := call.args.map (Node.moved move)
  block := call.block.map (Node.moved move)
  elseBlock := call.elseBlock.map (Node.moved move)
  line := move call.line

@[simp] theorem Call.args_moved (move : Nat → Nat) (call : Call) :
    (call.moved move).args = call.args.map (Node.moved move) := rfl

@[simp] theorem Call.line_moved (move : Nat → Nat) (call : Call) : (call.moved move).line = move call.line := rfl

namespace Grammar

variable (move : Nat → Nat)

section Nodes

theorem toNode_moved (call : Call) : (call.moved move).toNode = call.toNode.moved move := by
  simp [Call.toNode, Call.moved, Node.moved]

theorem lookup?_moved (key : String) (pairs : List Node) :
    Node.lookup? key (pairs.map (Node.moved move)) = (Node.lookup? key pairs).map (Node.moved move) := by
  simp only [Node.lookup?, List.findSome?_map, List.map_findSome?]
  congr 1
  funext node
  cases node with
  | pair label value line =>
    cases label <;> simp only [Function.comp_apply, Node.moved, Option.map_none]
    split <;> rfl
  | _ => rfl

theorem trailingKeywords_moved (args : List Node) :
    trailingKeywords (args.map (Node.moved move)) = (trailingKeywords args).map (Node.moved move) := by
  unfold trailingKeywords
  rw [List.getLast?_map]
  cases last : args.getLast? with
  | none => rfl
  | some node =>
    cases node with
    | list items line =>
      simp only [Option.map_some, Node.moved, Node.listMoved_eq_map, List.all_map, Function.comp_def,
        Node.isPair_moved]
      split <;> rfl
    | _ => rfl

theorem bodyOf_moved (call : Call) : bodyOf (call.moved move) = (bodyOf call).map (Node.moved move) := by
  simp only [bodyOf, Call.moved, List.isEmpty_map, ← List.map_drop, trailingKeywords_moved, lookup?_moved]
  split
  · cases Node.lookup? "do" (trailingKeywords (call.args.drop 1)) <;> rfl
  · rw [List.map_append]

theorem lowerModule_moved (call : Call) : lowerModule (call.moved move) = (lowerModule call).moved move := by
  have same := toNode_moved move call
  unfold lowerModule
  rw [Call.args_moved, bodyOf_moved]
  cases call.args with
  | nil => exact same
  | cons first rest => cases first <;> simp [Node.moved]

theorem splitWhen_moved (node : Node) :
    splitWhen (node.moved move) = ((splitWhen node).1.moved move, (splitWhen node).2.map (Node.moved move)) := by
  cases node with
  | binary op left right line =>
    simp only [Node.moved, splitWhen]
    split <;> simp [Node.moved]
  | _ => rfl

theorem headParts?_moved (node : Node) :
    headParts? (node.moved move) = (headParts? node).map fun parts => (parts.1, parts.2.map (Node.moved move)) := by
  cases node with
  | call target function args block elseBlock line =>
    cases target <;> cases block <;> cases elseBlock <;> simp [headParts?, Node.moved]
  | _ => rfl

theorem lowerDefinition_moved (kind : DefinitionKind) (call : Call) :
    lowerDefinition kind (call.moved move) = (lowerDefinition kind call).moved move := by
  have same := toNode_moved move call
  unfold lowerDefinition
  rw [Call.args_moved, bodyOf_moved]
  cases call.args with
  | nil => exact same
  | cons head rest =>
    simp only [List.map_cons, splitWhen_moved, headParts?_moved]
    cases headParts? (splitWhen head).1 with
    | none => exact same
    | some parts => simp [Node.moved]

theorem groupRefs_moved (base : ModuleRef) (items : List Node) :
    groupRefs base (items.map (Node.moved move)) = groupRefs base items := by
  simp only [groupRefs, List.filterMap_map]
  congr 1
  funext node
  cases node <;> rfl

theorem lowerDirective_moved (kind : DirectiveKind) (call : Call) :
    lowerDirective kind (call.moved move) = (lowerDirective kind call).moved move := by
  have same := toNode_moved move call
  cases call with
  | mk target function args block elseBlock line =>
    cases args with
    | nil => exact same
    | cons first rest =>
      have options := trailingKeywords_moved move rest
      simp only [lowerDirective, Call.moved, List.map_cons, options]
      cases first with
      | call target function args block elseBlock line =>
        rcases target with _ | target
        · simp [Node.moved]
        · cases target <;> simp only [Node.moved, Node.optionMoved_eq_map, Option.map_some, Node.listMoved_eq_map]
          by_cases braces : function = "\x7b\x7d"
          · subst braces
            simp [Node.moved, groupRefs_moved]
          · simp [braces, Node.moved]
      | _ => simp [Node.moved]

theorem lowerWith_moved (call : Call) : lowerWith (call.moved move) = (lowerWith call).moved move := by
  have keywords := trailingKeywords_moved move call.args
  simp only [lowerWith, Call.moved, keywords, lookup?_moved]
  cases call.block with
  | nil =>
    cases Node.lookup? "do" (trailingKeywords call.args) with
    | none => simp [Node.moved]
    | some value =>
      cases Node.lookup? "else" (trailingKeywords call.args) <;> simp [Node.moved, List.map_dropLast]
  | cons first rest => simp [Node.moved]

theorem lower_moved (call : Call) : lower (call.moved move) = (lower call).moved move := by
  have function : (call.moved move).function = call.function := rfl
  unfold lower
  rw [function]
  split
  · exact lowerModule_moved move call
  · split
    · exact lowerDefinition_moved move _ call
    · split
      · exact lowerDirective_moved move _ call
      · split
        · exact lowerWith_moved move call
        · exact toNode_moved move call

theorem splitGuard_moved (params : List Node) :
    splitGuard (params.map (Node.moved move)) =
      ((splitGuard params).1.map (Node.moved move), (splitGuard params).2.map (Node.moved move)) := by
  unfold splitGuard
  rw [List.getLast?_map]
  cases last : params.getLast? with
  | none => rfl
  | some node =>
    cases node with
    | binary op left right line =>
      simp only [Option.map_some, Node.moved]
      split <;> simp [List.map_dropLast]
    | _ => rfl

def Argument.moved : Argument → Argument
  | .plain node => .plain (node.moved move)
  | .keyword pair => .keyword (pair.moved move)

def BodyItem.moved : BodyItem → BodyItem
  | .statement node => .statement (node.moved move)
  | .head params line => .head (params.map (Node.moved move)) (move line)

theorem gatherKeywords_moved (arguments : List Argument) :
    gatherKeywords (arguments.map (Argument.moved move)) = (gatherKeywords arguments).map (Node.moved move) := by
  have plain : (arguments.map (Argument.moved move)).filterMap Argument.plain? =
      (arguments.filterMap Argument.plain?).map (Node.moved move) := by
    rw [List.filterMap_map, List.map_filterMap]
    congr 1
    funext argument
    cases argument <;> rfl
  have keywords : (arguments.map (Argument.moved move)).filterMap Argument.keyword? =
      (arguments.filterMap Argument.keyword?).map (Node.moved move) := by
    rw [List.filterMap_map, List.map_filterMap]
    congr 1
    funext argument
    cases argument <;> rfl
  simp only [gatherKeywords, plain, keywords]
  cases arguments.filterMap Argument.keyword? with
  | nil => rfl
  | cons pair more => simp [Node.moved]

theorem statements_moved (items : List BodyItem) :
    BodyItem.statements (items.map (BodyItem.moved move)) = (BodyItem.statements items).map (Node.moved move) := by
  fun_induction BodyItem.statements items with
  | case1 node rest ih => simp [BodyItem.moved, BodyItem.statements, ih]
  | case2 items other =>
    cases items with
    | nil => rfl
    | cons item rest =>
      cases item with
      | statement node => exact absurd rfl (other node rest)
      | head params line => rfl

theorem clausesOf_moved (items : List BodyItem) :
    clausesOf (items.map (BodyItem.moved move)) = (clausesOf items).map (Node.moved move) := by
  induction items with
  | nil => rfl
  | cons item rest ih =>
    cases item with
    | statement node => exact ih
    | head params line =>
      simp [clausesOf, BodyItem.moved, splitGuard_moved, statements_moved, ih, Node.moved]

theorem assemble_moved (items : List BodyItem) :
    assemble (items.map (BodyItem.moved move)) = (assemble items).map (Node.moved move) := by
  have heads : (items.map (BodyItem.moved move)).any BodyItem.isHead = items.any BodyItem.isHead := by
    rw [List.any_map]
    congr 1
    funext item
    cases item <;> rfl
  have nodes : (items.map (BodyItem.moved move)).filterMap BodyItem.node? =
      (items.filterMap BodyItem.node?).map (Node.moved move) := by
    rw [List.filterMap_map, List.map_filterMap]
    congr 1
    funext item
    cases item <;> rfl
  unfold assemble
  rw [heads, nodes, clausesOf_moved]
  split <;> rfl

theorem unwrap_moved (nodes : List Node) (line : Nat) :
    unwrap (nodes.map (Node.moved move)) (move line) = (unwrap nodes line).moved move := by
  match nodes with
  | [] => simp [unwrap, Node.moved]
  | [node] =>
    simp only [unwrap, List.map_cons, List.map_nil, Node.isClause_moved]
    split <;> simp [Node.moved]
  | first :: second :: rest => simp [unwrap, Node.moved]

theorem mapEntry_moved (node : Node) : mapEntry (node.moved move) = (mapEntry node).moved move := by
  cases node with
  | binary op left right line =>
    simp only [Node.moved, mapEntry]
    split <;> simp [Node.moved]
  | _ => rfl

theorem prefixed_moved (op : String) (operand : Node) (line : Nat) :
    prefixed op (operand.moved move) (move line) = (prefixed op operand line).moved move := by
  unfold prefixed
  split
  · cases operand with
    | literal value line => cases value <;> simp [Node.moved]
    | _ => simp [Node.moved]
  · simp [Node.moved]

end Nodes

def Fault.moved (fault : Fault) : Fault := ⟨fault.cause, fault.line?.map move⟩

/-- A step ends as another one does, with its result changed by `carry` and its fault moved. -/
def Follows {α β : Type} (carry : α → β) (step : Reading α) (other : Reading β) : Prop :=
  other = match step with
    | .ok result => .ok (carry result)
    | .error fault => .error (fault.moved move)

def withRest {α β : Type} (carry : α → β) (result : α × List Token) : β × List Token :=
  (carry result.1, result.2.map (Token.moved move))

section Steps

variable {move} {α β γ δ : Type} {carry : α → γ} {later : β → δ}

theorem Follows.ok {result : α} {other : γ} (same : other = carry result) :
    Follows move carry (.ok result) (.ok other) := by
  rw [same]
  rfl

theorem Follows.bind {step : Reading α} {other : Reading γ} {next : α → Reading β} {otherNext : γ → Reading δ}
    (first : Follows move carry step other)
    (rest : ∀ result, Follows move later (next result) (otherNext (carry result))) :
    Follows move later (step >>= next) (other >>= otherNext) := by
  cases step with
  | error fault =>
    cases first
    rfl
  | ok result =>
    cases first
    exact rest result

theorem Follows.dite {here there : Prop} [Decidable here] [Decidable there] {yes : here → Reading α}
    {no : ¬here → Reading α} {otherYes : there → Reading γ} {otherNo : ¬there → Reading γ} (same : there ↔ here)
    (holds : ∀ found, Follows move carry (yes found) (otherYes (same.mpr found)))
    (fails : ∀ missing, Follows move carry (no missing) (otherNo (mt same.mp missing))) :
    Follows move carry (if found : here then yes found else no found)
      (if found : there then otherYes found else otherNo found) := by
  by_cases found : here
  · rw [dif_pos found, dif_pos (same.mpr found)]
    exact holds found
  · rw [dif_neg found, dif_neg (mt same.mp found)]
    exact fails found

theorem Follows.ite {here there : Prop} [Decidable here] [Decidable there] {yes no : Reading α}
    {otherYes otherNo : Reading γ} (same : there ↔ here) (holds : here → Follows move carry yes otherYes)
    (fails : ¬here → Follows move carry no otherNo) :
    Follows move carry (if here then yes else no) (if there then otherYes else otherNo) :=
  .dite same holds fails

theorem Follows.fault_at (token : Token) (cause : Source.Cause) :
    Follows move carry (.error (faultAt token cause)) (.error (faultAt (token.moved move) cause)) := rfl

theorem Follows.fault_before (tokens : List Token) (cause : Source.Cause) :
    Follows move carry (.error (faultBefore tokens cause))
      (.error (faultBefore (tokens.map (Token.moved move)) cause)) := by
  cases tokens <;> rfl

theorem Follows.fault_top (top : move 1 = 1) (cause : Source.Cause) :
    Follows move carry (.error (faultAtTop cause)) (.error (faultAtTop cause)) := by
  simp [Follows, faultAtTop, Fault.moved, top]

theorem Follows.fault_end (cause : Source.Cause) :
    Follows move carry (.error ⟨cause, none⟩) (.error ⟨cause, none⟩) := rfl

@[simp] theorem startsWith_moved (kind : Token.Kind) (text : String) (tokens : List Token) :
    startsWith kind text (tokens.map (Token.moved move)) = startsWith kind text tokens := by
  cases tokens <;> rfl

@[simp] theorem startsWithKind_moved (kind : Token.Kind) (tokens : List Token) :
    startsWithKind kind (tokens.map (Token.moved move)) = startsWithKind kind tokens := by
  cases tokens <;> rfl

theorem afterComma?_moved (tokens : List Token) :
    afterComma? (tokens.map (Token.moved move)) = (afterComma? tokens).map (List.map (Token.moved move)) := by
  cases tokens with
  | nil => rfl
  | cons token rest =>
    change (if token.is .punctuation "," then _ else _) = _
    rw [afterComma?]
    split <;> rfl

theorem follows_next (tokens : List Token) :
    Follows move (withRest move (Token.moved move)) (next tokens) (next (tokens.map (Token.moved move))) := by
  cases tokens <;> rfl

theorem Follows.of_next {token : Token} {rest : List Token} {after : Token × List Token → Reading β}
    {other : Token × List Token → Reading δ}
    (follows : Follows move later (after (token, rest)) (other (token.moved move, rest.map (Token.moved move)))) :
    Follows move later (next (token :: rest) >>= after) (next ((token :: rest).map (Token.moved move)) >>= other) :=
  follows

theorem follows_expect (kind : Token.Kind) (text : String) (tokens : List Token) :
    Follows move (List.map (Token.moved move)) (expect kind text tokens)
      (expect kind text (tokens.map (Token.moved move))) := by
  cases tokens with
  | nil => rfl
  | cons token rest =>
    refine .ite Iff.rfl (fun _ => ?_) (fun _ => ?_)
    · exact .ok rfl
    · exact .fault_at token _

theorem follows_commaItems {item : List Token → Reading (α × List Token)}
    {other : List Token → Reading (γ × List Token)} {stop : List Token → Bool}
    (follows : ∀ tokens, Follows move (withRest move carry) (item tokens) (other (tokens.map (Token.moved move))))
    (blind : ∀ tokens, stop (tokens.map (Token.moved move)) = stop tokens) (tokens : List Token) :
    Follows move (withRest move (List.map carry)) (commaItems item stop tokens)
      (commaItems other stop (tokens.map (Token.moved move))) := by
  fun_induction commaItems item stop tokens with
  | case1 tokens stops =>
    rw [commaItems, blind, if_pos stops]
    exact .ok rfl
  | case2 tokens goes ih =>
    rw [commaItems, blind, if_neg goes]
    refine .bind (follows tokens) ?_
    rintro ⟨first, rest⟩
    simp only [withRest, afterComma?_moved, List.length_map]
    cases afterComma? rest with
    | none => exact .ok rfl
    | some after =>
      simp only [Option.map_some, List.length_map]
      split
      · next shorter =>
        refine .bind (ih after shorter) ?_
        rintro ⟨more, rest⟩
        exact .ok rfl
      · exact .ok rfl

end Steps

section Bodies

variable {move} {expr : ExpressionReader}
  (follows : ∀ floor outerDo tokens, Follows move (withRest move (Node.moved move)) (expr floor outerDo tokens)
    (expr floor outerDo (tokens.map (Token.moved move))))

theorem follows_allowHead (state : BodyState) (after : List Token) :
    Follows move id (allowHead state after) (allowHead state (after.map (Token.moved move))) := by
  unfold allowHead
  split
  · exact .fault_before after _
  · exact .ok rfl

theorem follows_checkSeparator (ends : List String) (tokens : List Token) :
    Follows move id (checkSeparator ends tokens) (checkSeparator ends (tokens.map (Token.moved move))) := by
  cases tokens with
  | nil => exact .ok rfl
  | cons token rest =>
    refine .ite Iff.rfl (fun _ => ?_) (fun _ => ?_)
    · exact .ok rfl
    · exact .fault_at token _

include follows

theorem follows_moreParams (tokens : List Token) :
    Follows move (withRest move (List.map (Node.moved move))) (moreParams expr tokens)
      (moreParams expr (tokens.map (Token.moved move))) := by
  unfold moreParams
  rw [afterComma?_moved]
  cases afterComma? tokens with
  | none => exact .ok rfl
  | some after => exact follows_commaItems (follows 0 false) (fun _ => rfl) after

theorem follows_bodyItems (ends : List String) (state : BodyState) (tokens : List Token) :
    Follows move (withRest move (List.map (BodyItem.moved move))) (bodyItems expr ends state tokens)
      (bodyItems expr ends state (tokens.map (Token.moved move))) := by
  fun_induction bodyItems expr ends state tokens with
  | case1 =>
    rw [List.map_nil, bodyItems]
    exact .ok rfl
  | case2 state token rest stops =>
    rw [List.map_cons, bodyItems, if_pos (by exact stops)]
    exact .ok rfl
  | case3 state token rest goes semicolon ih =>
    rw [List.map_cons, bodyItems, if_neg (by exact goes), if_pos (by exact semicolon)]
    exact ih
  | case4 state token rest goes other arrow ih =>
    rw [List.map_cons, bodyItems, if_neg (by exact goes), if_neg (by exact other), if_pos (by exact arrow)]
    refine .bind (follows_allowHead state rest) ?_
    intro _
    refine .bind ih ?_
    rintro ⟨items, after⟩
    exact .ok rfl
  | case5 state token rest goes other plain clauses statements =>
    rw [List.map_cons, bodyItems, if_neg (by exact goes), if_neg (by exact other), if_neg (by exact plain)]
    refine .bind (follows 0 false (token :: rest)) ?_
    rintro ⟨node, after⟩
    simp only [withRest, startsWith_moved, List.length_map]
    split
    · refine .bind (follows_moreParams follows after) ?_
      rintro ⟨params, after⟩
      refine .bind (follows_expect _ _ after) ?_
      intro after
      refine .bind (follows_allowHead state after) ?_
      intro _
      simp only [List.length_map]
      split
      · next shorter =>
        refine .bind (clauses after shorter) ?_
        rintro ⟨items, rest⟩
        exact .ok rfl
      · exact .ok rfl
    · refine .bind (follows_checkSeparator ends after) ?_
      intro _
      split
      · next shorter =>
        refine .bind (statements after shorter) ?_
        rintro ⟨items, rest⟩
        exact .ok rfl
      · exact .ok rfl

theorem follows_body (ends : List String) (tokens : List Token) :
    Follows move (withRest move (List.map (Node.moved move))) (body expr ends tokens)
      (body expr ends (tokens.map (Token.moved move))) := by
  refine .bind (follows_bodyItems follows ends .empty tokens) ?_
  rintro ⟨items, rest⟩
  exact .ok (congrArg₂ Prod.mk (assemble_moved move items) rfl)

theorem follows_sections (tokens : List Token) :
    Follows move (withRest move (List.map (Node.moved move))) (sections expr tokens)
      (sections expr (tokens.map (Token.moved move))) := by
  fun_induction sections expr tokens with
  | case1 =>
    rw [List.map_nil, sections]
    exact .ok rfl
  | case2 token rest opens ih =>
    rw [List.map_cons, sections, if_pos (by exact opens)]
    refine .bind (follows_body follows _ rest) ?_
    rintro ⟨nodes, after⟩
    simp only [withRest, List.length_map]
    split
    · next shorter =>
      refine .bind (ih after shorter) ?_
      rintro ⟨more, rest⟩
      exact .ok (congrArg₂ Prod.mk List.map_append.symm rfl)
    · exact .ok rfl
  | case3 token rest other =>
    rw [List.map_cons, sections, if_neg (by exact other)]
    exact .ok rfl

theorem follows_doBlock (tokens : List Token) :
    Follows move (withRest move (Prod.map (List.map (Node.moved move)) (List.map (Node.moved move))))
      (doBlock expr tokens) (doBlock expr (tokens.map (Token.moved move))) := by
  refine .bind (follows_expect _ _ tokens) ?_
  intro tokens
  refine .bind (follows_body follows _ tokens) ?_
  rintro ⟨nodes, tokens⟩
  refine .bind (follows_sections follows tokens) ?_
  rintro ⟨more, tokens⟩
  refine .bind (follows_expect _ _ tokens) ?_
  intro tokens
  exact .ok rfl

theorem follows_optionalDoBlock (outerDo : Bool) (tokens : List Token) :
    Follows move (withRest move (Prod.map (List.map (Node.moved move)) (List.map (Node.moved move))))
      (optionalDoBlock expr outerDo tokens) (optionalDoBlock expr outerDo (tokens.map (Token.moved move))) := by
  unfold optionalDoBlock
  rw [startsWith_moved]
  split
  · exact follows_doBlock follows tokens
  · exact .ok rfl

end Bodies

section Forms

variable {move} (top : move 1 = 1) {expr : ExpressionReader}
  (follows : ∀ floor outerDo tokens, Follows move (withRest move (Node.moved move)) (expr floor outerDo tokens)
    (expr floor outerDo (tokens.map (Token.moved move))))

include follows

theorem follows_pair (outerDo : Bool) (tokens : List Token) :
    Follows move (withRest move (Node.moved move)) (pair expr outerDo tokens)
      (pair expr outerDo (tokens.map (Token.moved move))) := by
  refine .bind (follows_next tokens) ?_
  rintro ⟨key, tokens⟩
  refine .bind (follows 0 outerDo tokens) ?_
  rintro ⟨value, tokens⟩
  exact .ok rfl

theorem follows_argument (outerDo : Bool) (tokens : List Token) :
    Follows move (withRest move (Argument.moved move)) (argument expr outerDo tokens)
      (argument expr outerDo (tokens.map (Token.moved move))) := by
  refine .ite (by rw [startsWithKind_moved]) (fun _ => ?_) (fun _ => ?_)
  · refine .bind (follows_pair follows outerDo tokens) ?_
    rintro ⟨node, tokens⟩
    exact .ok rfl
  · refine .bind (follows 0 outerDo tokens) ?_
    rintro ⟨node, tokens⟩
    exact .ok rfl

theorem follows_bracketed (closer : String) (tokens : List Token) :
    Follows move (withRest move (List.map (Argument.moved move))) (bracketed expr closer tokens)
      (bracketed expr closer (tokens.map (Token.moved move))) := by
  refine .bind (follows_commaItems (follows_argument follows false) (startsWith_moved _ _) tokens) ?_
  rintro ⟨items, tokens⟩
  refine .bind (follows_expect _ _ tokens) ?_
  intro tokens
  exact .ok rfl

theorem follows_parenArgs (tokens : List Token) :
    Follows move (withRest move (List.map (Node.moved move))) (parenArgs expr tokens)
      (parenArgs expr (tokens.map (Token.moved move))) := by
  refine .bind (follows_expect _ _ tokens) ?_
  intro tokens
  refine .bind (follows_bracketed follows ")" tokens) ?_
  rintro ⟨items, tokens⟩
  exact .ok (congrArg₂ Prod.mk (gatherKeywords_moved move items) rfl)

theorem follows_bareArgs (tokens : List Token) :
    Follows move (withRest move (List.map (Node.moved move))) (bareArgs expr tokens)
      (bareArgs expr (tokens.map (Token.moved move))) := by
  refine .bind (follows_commaItems (follows_argument follows true) (fun _ => rfl) tokens) ?_
  rintro ⟨items, tokens⟩
  exact .ok (congrArg₂ Prod.mk (gatherKeywords_moved move items) rfl)

omit follows in
theorem startsBareArgs_moved (tokens : List Token) :
    startsBareArgs (tokens.map (Token.moved move)) = startsBareArgs tokens := by
  match tokens with
  | [] => rfl
  | [token] => rfl
  | token :: following :: rest => rfl

theorem follows_callArgs (tokens : List Token) :
    Follows move (withRest move (Option.map (List.map (Node.moved move)))) (callArgs expr tokens)
      (callArgs expr (tokens.map (Token.moved move))) := by
  refine .ite (by cases tokens <;> exact Iff.rfl) (fun _ => ?_) (fun _ => ?_)
  · refine .bind (follows_parenArgs follows tokens) ?_
    rintro ⟨args, tokens⟩
    exact .ok rfl
  refine .ite (by rw [startsBareArgs_moved]) (fun _ => ?_) (fun _ => ?_)
  · refine .bind (follows_bareArgs follows tokens) ?_
    rintro ⟨args, tokens⟩
    exact .ok rfl
  · exact .ok rfl

omit follows in
theorem getD_moved (args : Option (List Node)) :
    (args.map (List.map (Node.moved move))).getD [] = (args.getD []).map (Node.moved move) := by
  cases args <;> rfl

theorem follows_identifier (outerDo : Bool) (token : Token) (tokens : List Token) :
    Follows move (withRest move (Node.moved move)) (identifier expr outerDo token tokens)
      (identifier expr outerDo (token.moved move) (tokens.map (Token.moved move))) := by
  refine .bind (follows_callArgs follows tokens) ?_
  rintro ⟨args, tokens⟩
  refine .ite (by cases args <;> simp) (fun _ => ?_) (fun _ => ?_)
  · exact .ok rfl
  · refine .bind (follows_optionalDoBlock follows outerDo tokens) ?_
    rintro ⟨⟨block, more⟩, tokens⟩
    refine .ok (congrArg₂ Prod.mk ?_ rfl)
    rw [← lower_moved, Call.moved, Option.map_none, ← getD_moved]
    rfl

theorem follows_morePairs (outerDo : Bool) (tokens : List Token) :
    Follows move (withRest move (List.map (Node.moved move))) (morePairs expr outerDo tokens)
      (morePairs expr outerDo (tokens.map (Token.moved move))) := by
  fun_induction morePairs expr outerDo tokens with
  | case1 tokens none =>
    rw [morePairs, afterComma?_moved, none]
    exact .ok rfl
  | case2 tokens after found key ih =>
    rw [morePairs, afterComma?_moved, found]
    simp only [Option.map_some, startsWithKind_moved, key, if_true]
    refine .bind (follows_pair follows outerDo after) ?_
    rintro ⟨node, rest⟩
    simp only [withRest, List.length_map]
    split
    · next shorter =>
      refine .bind (ih rest shorter) ?_
      rintro ⟨more, rest⟩
      exact .ok rfl
    · exact .ok rfl
  | case3 tokens after found other =>
    rw [morePairs, afterComma?_moved, found]
    simp only [Option.map_some, startsWithKind_moved, other]
    exact .ok rfl

theorem follows_keywordList (outerDo : Bool) (tokens : List Token) (line : Nat) :
    Follows move (withRest move (Node.moved move)) (keywordList expr outerDo tokens line)
      (keywordList expr outerDo (tokens.map (Token.moved move)) (move line)) := by
  refine .bind (follows_pair follows outerDo tokens) ?_
  rintro ⟨first, tokens⟩
  refine .bind (follows_morePairs follows outerDo tokens) ?_
  rintro ⟨more, tokens⟩
  exact .ok (by simp [withRest, Node.moved])

theorem follows_anonymous (line : Nat) (tokens : List Token) :
    Follows move (withRest move (Node.moved move)) (anonymous expr line tokens)
      (anonymous expr (move line) (tokens.map (Token.moved move))) := by
  refine .bind (follows_body follows _ tokens) ?_
  rintro ⟨nodes, tokens⟩
  refine .bind (follows_expect _ _ tokens) ?_
  intro tokens
  have clauses : (nodes.map (Node.moved move)).filter Node.isClause =
      (nodes.filter Node.isClause).map (Node.moved move) := by
    rw [List.filter_map, Function.comp_def]
    simp only [Node.isClause_moved]
  simp only [clauses, List.isEmpty_map]
  split
  · exact .ok (by simp [withRest, Node.moved])
  · exact .ok (by simp [withRest, Node.moved])

theorem follows_group (token : Token) (tokens : List Token) :
    Follows move (withRest move (Node.moved move)) (group expr token tokens)
      (group expr (token.moved move) (tokens.map (Token.moved move))) := by
  refine .ite Iff.rfl (fun _ => ?_) (fun _ => ?_)
  · refine .bind (follows_body follows _ tokens) ?_
    rintro ⟨nodes, tokens⟩
    refine .bind (follows_expect _ _ tokens) ?_
    intro tokens
    exact .ok (congrArg₂ Prod.mk (unwrap_moved move nodes token.line) rfl)
  refine .ite Iff.rfl (fun _ => ?_) (fun _ => ?_)
  · refine .bind (follows_bracketed follows _ tokens) ?_
    rintro ⟨items, tokens⟩
    refine .ok (congrArg₂ Prod.mk ?_ rfl)
    have nodes : Argument.node ∘ Argument.moved move = Node.moved move ∘ Argument.node := by
      funext argument
      cases argument <;> rfl
    simp [Node.moved, Token.moved, nodes]
  refine .ite Iff.rfl (fun _ => ?_) (fun _ => ?_)
  · refine .bind (follows_bracketed follows _ tokens) ?_
    rintro ⟨items, tokens⟩
    exact .ok (by simp [withRest, Node.moved, Token.moved, gatherKeywords_moved])
  · exact .fault_at token _

omit follows in
include top in
theorem follows_numeral {α : Type} (read : Except Numeral.Fault α) (literal : α → Literal) (token : Token)
    (tokens : List Token) :
    Follows move (withRest move (Node.moved move)) (numeral read literal token tokens)
      (numeral read literal (token.moved move) (tokens.map (Token.moved move))) := by
  cases read with
  | error fault => exact .fault_top top _
  | ok value => exact .ok rfl

include top in
theorem follows_primary (outerDo : Bool) (token : Token) (tokens : List Token) :
    Follows move (withRest move (Node.moved move)) (primary expr outerDo token tokens)
      (primary expr outerDo (token.moved move) (tokens.map (Token.moved move))) := by
  have kind : (token.moved move).kind = token.kind := rfl
  unfold primary
  rw [kind]
  cases token.kind with
  | identifier => exact follows_identifier follows outerDo token tokens
  | «alias» =>
    have text : (token.moved move).text = token.text := rfl
    simp only [text]
    cases ModuleRef.ofName? token.text with
    | none => exact .ok rfl
    | some ref => exact .ok rfl
  | atom => exact .ok rfl
  | integer => exact follows_numeral top _ _ token tokens
  | float => exact follows_numeral top _ _ token tokens
  | string => exact .ok rfl
  | charlist => exact .ok rfl
  | sigil => exact .ok rfl
  | literal => exact .ok rfl
  | key => exact follows_keywordList follows outerDo (token :: tokens) token.line
  | keyword =>
    refine .ite Iff.rfl (fun _ => ?_) (fun _ => ?_)
    · exact follows_anonymous follows token.line tokens
    · exact .fault_at token _
  | punctuation => exact follows_group follows token tokens
  | operator => exact .fault_at token _

theorem follows_afterDot (outerDo : Bool) (target : Node) (tokens : List Token) :
    Follows move (withRest move (Node.moved move)) (afterDot expr outerDo target tokens)
      (afterDot expr outerDo (target.moved move) (tokens.map (Token.moved move))) := by
  cases tokens with
  | nil => exact .fault_end _
  | cons token rest =>
    have remote : Follows move (withRest move (Node.moved move))
        (callArgs expr rest >>= fun found =>
          pure (Node.call (some target) token.text (found.1.getD []) [] [] token.line, found.2))
        (callArgs expr (rest.map (Token.moved move)) >>= fun found =>
          pure (Node.call (some (target.moved move)) token.text (found.1.getD []) [] [] (move token.line), found.2)) := by
      refine .bind (follows_callArgs follows rest) ?_
      rintro ⟨args, tokens⟩
      exact .ok (by simp [withRest, Node.moved, getD_moved])
    have kind : (token.moved move).kind = token.kind := rfl
    apply Follows.of_next
    dsimp only
    rw [kind]
    cases token.kind with
    | «alias» =>
      cases target with
      | «alias» ref line =>
        refine .dite Iff.rfl (fun _ => ?_) (fun _ => ?_)
        · exact .ok rfl
        · exact .fault_at token _
      | _ => exact .ok rfl
    | identifier =>
      refine .bind (follows_callArgs follows rest) ?_
      rintro ⟨args, tokens⟩
      refine .bind (follows_optionalDoBlock follows outerDo tokens) ?_
      rintro ⟨⟨block, more⟩, tokens⟩
      exact .ok (by simp [withRest, Node.moved, Token.moved, getD_moved])
    | punctuation =>
      refine .ite Iff.rfl (fun _ => ?_) (fun _ => ?_)
      · refine .bind (follows_parenArgs follows (token :: rest)) ?_
        rintro ⟨args, tokens⟩
        exact .ok (by simp [withRest, Node.moved, Token.moved])
      refine .ite Iff.rfl (fun _ => ?_) (fun _ => ?_)
      · refine .bind (follows_bracketed follows _ rest) ?_
        rintro ⟨items, tokens⟩
        exact .ok (by simp [withRest, Node.moved, Token.moved, gatherKeywords_moved])
      · exact .fault_at token _
    | keyword => exact .ite Iff.rfl (fun _ => .fault_at token _) (fun _ => remote)
    | operator => exact .ite Iff.rfl (fun _ => .fault_at token _) (fun _ => remote)
    | _ => exact .fault_at token _

theorem follows_postfixes (outerDo : Bool) (node : Node) (tokens : List Token) :
    Follows move (withRest move (Node.moved move)) (postfixes expr outerDo node tokens)
      (postfixes expr outerDo (node.moved move) (tokens.map (Token.moved move))) := by
  fun_induction postfixes expr outerDo node tokens with
  | case1 node =>
    rw [List.map_nil, postfixes]
    exact .ok rfl
  | case2 node token rest point ih =>
    rw [List.map_cons, postfixes, if_pos (by exact point)]
    refine .bind (follows_afterDot follows outerDo node rest) ?_
    rintro ⟨node, after⟩
    simp only [withRest, List.length_map]
    split
    · next shorter => exact ih node after shorter
    · exact .ok rfl
  | case3 node token rest other bracket ih =>
    rw [List.map_cons, postfixes, if_neg (by exact other), if_pos (by exact bracket)]
    refine .bind (follows 0 false rest) ?_
    rintro ⟨index, after⟩
    refine .bind (follows_expect _ _ after) ?_
    intro after
    simp only [List.length_map]
    split
    · next shorter => simpa [Node.moved, Token.moved] using ih index after shorter
    · exact .ok (by simp [withRest, Node.moved, Token.moved])
  | case4 node token rest other plain =>
    rw [List.map_cons, postfixes, if_neg (by exact other), if_neg (by exact plain)]
    exact .ok rfl

omit follows in
include top in
theorem follows_structSegments (ref : ModuleRef) (tokens : List Token) :
    Follows move (withRest move id) (structSegments ref tokens)
      (structSegments ref (tokens.map (Token.moved move))) := by
  fun_induction structSegments ref tokens with
  | case1 ref dot segment rest dotted valid ih =>
    rw [List.map_cons, List.map_cons, structSegments, if_pos (by exact dotted), dif_pos (by exact valid)]
    exact ih
  | case2 ref dot segment rest dotted invalid =>
    rw [List.map_cons, List.map_cons, structSegments, if_pos (by exact dotted), dif_neg (by exact invalid)]
    exact .fault_top top _
  | case3 ref dot segment rest other =>
    rw [List.map_cons, List.map_cons, structSegments, if_neg (by exact other)]
    exact .ok rfl
  | case4 ref tokens short =>
    match tokens with
    | [] => exact .ok rfl
    | [token] => exact .ok rfl
    | dot :: segment :: rest => exact absurd rfl (short dot segment rest)

omit follows in
include top in
theorem follows_structName (tokens : List Token) :
    Follows move (withRest move (Node.moved move)) (structName tokens)
      (structName (tokens.map (Token.moved move))) := by
  cases tokens with
  | nil => exact .fault_end _
  | cons token rest =>
    have kind : (token.moved move).kind = token.kind := rfl
    have text : (token.moved move).text = token.text := rfl
    have moduled : Follows move (withRest move (Node.moved move))
        (if token.is .operator "@" then next rest >>= fun found =>
            if found.1.kind = .identifier then
              pure (Node.unary "@" (.var found.1.text token.line) token.line, found.2)
            else .error (faultAt found.1 (.notAnIdentifier found.1.text))
          else .error (faultAt token (.unexpectedInStruct token.text)))
        (if (token.moved move).is .operator "@" then next (rest.map (Token.moved move)) >>= fun found =>
            if found.1.kind = .identifier then
              pure (Node.unary "@" (.var found.1.text (move token.line)) (move token.line), found.2)
            else .error (faultAt found.1 (.notAnIdentifier found.1.text))
          else .error (faultAt (token.moved move) (.unexpectedInStruct token.text))) := by
      refine .ite Iff.rfl (fun _ => ?_) (fun _ => ?_)
      · refine .bind (follows_next rest) ?_
        rintro ⟨name, rest⟩
        exact .ite Iff.rfl (fun _ => .ok rfl) (fun _ => .fault_at name _)
      · exact .fault_at token _
    apply Follows.of_next
    dsimp only
    rw [kind]
    cases token.kind with
    | «alias» =>
      simp only [text]
      cases ModuleRef.ofName? token.text with
      | none => exact .fault_at token _
      | some ref =>
        refine .bind (follows_structSegments top ref rest) ?_
        rintro ⟨ref, rest⟩
        exact .ok rfl
    | identifier => exact .ok rfl
    | _ => exact moduled

omit follows in
include top in
theorem follows_optionalStructName (tokens : List Token) :
    Follows move (withRest move (Option.map (Node.moved move))) (optionalStructName tokens)
      (optionalStructName (tokens.map (Token.moved move))) := by
  refine .ite (by rw [startsWith_moved]) (fun _ => ?_) (fun _ => ?_)
  · exact .ok rfl
  · refine .bind (follows_structName top tokens) ?_
    rintro ⟨name, tokens⟩
    exact .ok rfl

theorem follows_mapItem (tokens : List Token) :
    Follows move (withRest move (Node.moved move)) (mapItem expr tokens)
      (mapItem expr (tokens.map (Token.moved move))) := by
  refine .bind (follows_argument follows false tokens) ?_
  rintro ⟨item, tokens⟩
  cases item with
  | plain node => exact .ok (congrArg₂ Prod.mk (mapEntry_moved move node) rfl)
  | keyword pair => exact .ok rfl

theorem follows_mapEntries (tokens : List Token) :
    Follows move (withRest move (List.map (Node.moved move))) (mapEntries expr tokens)
      (mapEntries expr (tokens.map (Token.moved move))) := by
  refine .bind (follows_commaItems (follows_mapItem follows) (startsWith_moved _ _) tokens) ?_
  rintro ⟨entries, tokens⟩
  refine .bind (follows_expect _ _ tokens) ?_
  intro tokens
  exact .ok rfl

theorem follows_mapBody (tokens : List Token) :
    Follows move (withRest move (Prod.map (Option.map (Node.moved move)) (List.map (Node.moved move))))
      (mapBody expr tokens) (mapBody expr (tokens.map (Token.moved move))) := by
  refine .ite (by rw [startsWith_moved, startsWithKind_moved]) (fun _ => ?_) (fun _ => ?_)
  · refine .bind (follows_mapEntries follows tokens) ?_
    rintro ⟨entries, tokens⟩
    exact .ok rfl
  · refine .bind (follows _ false tokens) ?_
    rintro ⟨first, tokens⟩
    refine .ite (by rw [startsWith_moved]) (fun _ => ?_) (fun _ => ?_)
    · simp only [← List.map_drop]
      refine .bind (follows_mapEntries follows (tokens.drop 1)) ?_
      rintro ⟨entries, tokens⟩
      exact .ok rfl
    simp only [afterComma?_moved]
    cases afterComma? tokens with
    | some after =>
      refine .bind (follows_mapEntries follows after) ?_
      rintro ⟨entries, tokens⟩
      exact .ok (by simp [withRest, mapEntry_moved])
    | none =>
      refine .bind (follows_expect _ _ tokens) ?_
      intro tokens
      exact .ok (by simp [withRest, mapEntry_moved])

include top in
theorem follows_mapLiteral (line : Nat) (tokens : List Token) :
    Follows move (withRest move (Node.moved move)) (mapLiteral expr line tokens)
      (mapLiteral expr (move line) (tokens.map (Token.moved move))) := by
  refine .bind (follows_optionalStructName top tokens) ?_
  rintro ⟨struct, tokens⟩
  refine .bind (follows_expect _ _ tokens) ?_
  intro tokens
  refine .bind (follows_mapBody follows tokens) ?_
  rintro ⟨⟨update, entries⟩, tokens⟩
  exact .ok (by simp [withRest, Node.moved])

theorem follows_bitstring (line : Nat) (tokens : List Token) :
    Follows move (withRest move (Node.moved move)) (bitstring expr line tokens)
      (bitstring expr (move line) (tokens.map (Token.moved move))) := by
  refine .bind (follows_commaItems (follows 0 false) (startsWith_moved _ _) tokens) ?_
  rintro ⟨items, tokens⟩
  refine .bind (follows_expect _ _ tokens) ?_
  intro tokens
  exact .ok (by simp [withRest, Node.moved])

include top in
theorem follows_operand (outerDo : Bool) (tokens : List Token) :
    Follows move (withRest move (Node.moved move)) (operand expr outerDo tokens)
      (operand expr outerDo (tokens.map (Token.moved move))) := by
  refine .bind (follows_next tokens) ?_
  rintro ⟨token, rest⟩
  refine .ite Iff.rfl (fun _ => ?_) (fun _ => ?_)
  · refine .ite Iff.rfl (fun _ => ?_) (fun _ => ?_)
    · refine .bind (follows _ outerDo rest) ?_
      rintro ⟨node, rest⟩
      exact .ok (congrArg₂ Prod.mk (prefixed_moved move token.text node token.line) rfl)
    refine .ite Iff.rfl (fun _ => ?_) (fun _ => ?_)
    · refine .bind (follows _ outerDo rest) ?_
      rintro ⟨node, rest⟩
      exact .ok rfl
    refine .ite Iff.rfl (fun _ => ?_) (fun _ => ?_)
    · refine .bind (follows_next rest) ?_
      rintro ⟨first, rest⟩
      refine .bind (follows_primary top follows outerDo first rest) ?_
      rintro ⟨node, rest⟩
      refine .bind (follows_postfixes follows outerDo node rest) ?_
      rintro ⟨node, rest⟩
      exact .ok rfl
    refine .ite Iff.rfl (fun _ => ?_) (fun _ => ?_)
    · refine .bind (follows_mapLiteral top follows token.line rest) ?_
      rintro ⟨node, rest⟩
      exact follows_postfixes follows outerDo node rest
    refine .ite Iff.rfl (fun _ => ?_) (fun _ => ?_)
    · refine .bind (follows_bitstring follows token.line rest) ?_
      rintro ⟨node, rest⟩
      exact follows_postfixes follows outerDo node rest
    · exact .fault_at token _
  · refine .bind (follows_primary top follows outerDo token rest) ?_
    rintro ⟨node, rest⟩
    exact follows_postfixes follows outerDo node rest

omit follows in
theorem binaryOperator?_moved (tokens : List Token) :
    binaryOperator? (tokens.map (Token.moved move)) = (binaryOperator? tokens).map fun found =>
      (found.1, found.2.1, found.2.2.map (Token.moved move)) := by
  cases tokens with
  | nil => rfl
  | cons token rest =>
    have kind : (token.moved move).kind = token.kind := rfl
    have text : (token.moved move).text = token.text := rfl
    have newline : (token.moved move).newlineBefore = token.newlineBefore := rfl
    simp only [List.map_cons, binaryOperator?, kind, text, newline]
    split
    · rfl
    split
    · rfl
    split
    · cases rest with
      | nil => rfl
      | cons following after =>
        have word : (following.moved move).is .operator "in" = following.is .operator "in" := rfl
        simp only [List.map_cons, word]
        split
        · cases binding? "not in" <;> rfl
        · rfl
    · cases binding? token.text <;> rfl

theorem follows_operators (floor : Nat) (outerDo : Bool) (left : Node) (tokens : List Token) :
    Follows move (withRest move (Node.moved move)) (operators expr floor outerDo left tokens)
      (operators expr floor outerDo (left.moved move) (tokens.map (Token.moved move))) := by
  fun_induction operators expr floor outerDo left tokens with
  | case1 left tokens none =>
    rw [operators, binaryOperator?_moved, none]
    exact .ok rfl
  | case2 left tokens op binding rest found weak =>
    rw [operators, binaryOperator?_moved, found]
    simp only [Option.map_some, if_pos weak]
    exact .ok rfl
  | case3 left tokens op binding rest found strong ih =>
    rw [operators, binaryOperator?_moved, found]
    simp only [Option.map_some, if_neg strong, List.length_map]
    refine .bind (follows _ outerDo rest) ?_
    rintro ⟨right, after⟩
    simp only [withRest, List.length_map]
    split
    · next shorter => simpa [Node.moved] using ih right after shorter
    · exact .ok (by simp [withRest, Node.moved])

end Forms

/-- When tokens move to other lines and the first line stays, an expression goes with its tokens. -/
theorem follows_expression {move : Nat → Nat} (top : move 1 = 1) (depth floor : Nat) (outerDo : Bool)
    (tokens : List Token) :
    Follows move (withRest move (Node.moved move)) (expression depth floor outerDo tokens)
      (expression depth floor outerDo (tokens.map (Token.moved move))) := by
  induction depth generalizing floor outerDo tokens with
  | zero => exact .fault_top top _
  | succ depth ih =>
    refine .bind (follows_operand top ih outerDo tokens) ?_
    rintro ⟨left, tokens⟩
    exact follows_operators ih floor outerDo left tokens

/-- A whole program goes with its tokens, and so does the fault that refuses it. -/
theorem program_moved {move : Nat → Nat} (top : move 1 = 1) (depth : Nat) (tokens : List Token) :
    program depth (tokens.map (Token.moved move)) =
      ((program depth tokens).map (List.map (Node.moved move))).mapError (Source.Fault.moved move) := by
  have last : ((tokens.map (Token.moved move)).getLast?.map (·.line)).getD 1 =
      move ((tokens.getLast?.map (·.line)).getD 1) := by
    rw [List.getLast?_map]
    cases tokens.getLast? with
    | none => exact top.symm
    | some token => rfl
  have read := follows_body (follows_expression top depth) [] tokens
  unfold program
  rw [read]
  cases body (expression depth) [] tokens with
  | ok result => rfl
  | error fault =>
    simp only [last, Fault.moved]
    cases fault.line? <;> rfl

/-- Tokens that differ in their lines only give trees that differ in their lines only, or are refused for the
same cause. -/
theorem program_eq_of_lines {tokens others : List Token} (depth : Nat)
    (same : others.map (Token.moved fun _ => 1) = tokens.map (Token.moved fun _ => 1)) :
    ((program depth others).map (Node.listOnLine 1)).mapError (Source.Fault.moved fun _ => 1) =
      ((program depth tokens).map (Node.listOnLine 1)).mapError (Source.Fault.moved fun _ => 1) := by
  have flat : Node.listOnLine 1 = List.map (Node.moved fun _ => 1) := by
    funext nodes
    rw [Node.listOnLine_eq_moved, Node.listMoved_eq_map]
  rw [flat, ← program_moved rfl, ← program_moved rfl, same]

/-- A tree has its lines from its tokens, and from the first line. -/
theorem lines_of_program {first last depth : Nat} {tokens : List Token} {nodes : List Node}
    (top : first ≤ 1 ∧ 1 ≤ last) (placed : ∀ token ∈ tokens, first ≤ token.line ∧ token.line ≤ last)
    (read : program depth tokens = .ok nodes) :
    ∀ line ∈ Node.listLines nodes, first ≤ line ∧ line ≤ last := by
  -- A move that keeps the lines of all tokens keeps the tree; this one keeps no line out of bounds.
  let move (line : Nat) : Nat := if first ≤ line ∧ line ≤ last then line else 1
  have stays : tokens.map (Token.moved move) = tokens.map id := by
    refine List.map_inj_left.mpr ?_
    intro token mem
    simp [Token.moved, move, placed token mem]
  have same := program_moved (show move 1 = 1 by simp [move]) depth tokens
  rw [stays, List.map_id, read] at same
  have fixed : Node.listMoved move nodes = nodes := by
    rw [Node.listMoved_eq_map]
    exact (Except.ok.inj same).symm
  have kept : (Node.listLines nodes).map move = (Node.listLines nodes).map id := by
    rw [← Node.listLines_moved, fixed, List.map_id]
  intro line mem
  have here : move line = line := List.map_inj_left.mp kept line mem
  by_contra outside
  have kicked : move line = 1 := if_neg outside
  rw [← here, kicked] at outside
  exact outside top

end Grammar

end BoundaryLint
