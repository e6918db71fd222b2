import BoundaryLint.Grammar.Program
import BoundaryLint.Proofs.Tree.Difference
import Mathlib

/-!
Nodes that are made from close nodes are close. No form looks into a list of dependencies, and none keeps a part
twice, so where one part is off, at most one part of the result is.
-/

namespace BoundaryLint.Grammar

open Node (Differs Close RowClose OptionClose)

variable {swap : List Node → List Node → Prop} {off : Nat} {node node' : Node}

section Keywords

def valueOf? (key : String) : Node → Option Node
  | .pair (.atom name _) value _ => if name = key then some value else none
  | _ => none

theorem lookup?_eq (key : String) (pairs : List Node) : Node.lookup? key pairs = pairs.findSome? (valueOf? key) := rfl

theorem valueOf?_of_not_pair {key : String} (other : node.isPair = false) : valueOf? key node = none := by
  cases node with
  | pair label value line => cases other
  | _ => rfl

theorem valueOf?_of_not_atom {key : String} {label value : Node} {line : Nat}
    (other : ∀ name place, label ≠ .atom name place) : valueOf? key (.pair label value line) = none := by
  cases label with
  | atom name place => exact absurd rfl (other name place)
  | _ => rfl

/-- Only the value of one key changes, and the value of a key `deps` is not compared. -/
theorem valueOf?_of_differs (differs : Differs swap node node') :
    ∃ name, (∀ key, key ≠ name → valueOf? key node = valueOf? key node') ∧
      (name ≠ "deps" → OptionClose swap 1 (valueOf? name node) (valueOf? name node')) := by
  by_cases paired : node.isPair = true
  · obtain ⟨label, value, line, rfl⟩ : ∃ label value line, node = .pair label value line := by
      cases node <;> first | exact ⟨_, _, _, rfl⟩ | cases paired
    obtain ⟨label', value', rfl, ⟨place, rfl, rfl⟩ | ⟨early, late, single, first, second⟩⟩ := differs.pair_inv
    · refine ⟨"deps", fun key other => ?_, fun apart => absurd rfl apart⟩
      simp [valueOf?, Ne.symm other]
    · by_cases named : ∃ name place, label = .atom name place
      · obtain ⟨name, place, rfl⟩ := named
        cases first.resolve_right fun off => Node.not_differs_of_leaf rfl off.2
        refine ⟨name, fun key other => ?_, fun _ => ?_⟩
        · simp [valueOf?, Ne.symm other]
        · simp only [valueOf?, if_true]
          exact (second.map fun differs => .of_differ (.some differs)).mono (by omega)
      · have other : ∀ name place, label' ≠ .atom name place := by
          rintro name place rfl
          rcases first with same | ⟨-, off⟩
          · exact named ⟨name, place, same⟩
          · exact Node.not_differs_from_leaf rfl off
        refine ⟨"", fun key _ => ?_, fun _ => ?_⟩
        all_goals
          rw [valueOf?_of_not_atom fun name place same => named ⟨name, place, same⟩, valueOf?_of_not_atom other]
        exact .refl _ _
  · rw [Bool.not_eq_true] at paired
    refine ⟨"", fun key _ => ?_, fun _ => ?_⟩
    all_goals rw [valueOf?_of_not_pair paired, valueOf?_of_not_pair (differs.isPair_eq ▸ paired)]
    exact .refl _ _

theorem lookup?_of_oneOff {pairs pairs' : List Node} (one : OneOff (Differs swap) pairs pairs') :
    ∃ name, (∀ key, key ≠ name → Node.lookup? key pairs = Node.lookup? key pairs') ∧
      (name ≠ "deps" → OptionClose swap 1 (Node.lookup? name pairs) (Node.lookup? name pairs')) := by
  simp only [lookup?_eq]
  induction one with
  | head rest differs =>
    obtain ⟨name, same, close⟩ := valueOf?_of_differs differs
    refine ⟨name, fun key other => by simp only [List.findSome?_cons, same key other], fun apart => ?_⟩
    simp only [List.findSome?_cons]
    rcases close apart with same | ⟨some, off⟩
    · rw [same]
      exact .refl _ _
    · generalize valueOf? name _ = found at off ⊢
      generalize valueOf? name _ = found' at off ⊢
      cases off with
      | some differs => exact .of_differ (.some differs)
  | tail first later ih =>
    obtain ⟨name, same, close⟩ := ih
    refine ⟨name, fun key other => by simp only [List.findSome?_cons, same key other], fun apart => ?_⟩
    simp only [List.findSome?_cons]
    cases valueOf? name first with
    | none => exact close apart
    | some value => exact .refl _ _

/-- Of the values of two keys at most one is off. -/
theorem lookup?_close {pairs pairs' : List Node} (close : RowClose swap off pairs pairs') (key other : String)
    (plain : key ≠ "deps" ∧ other ≠ "deps") (apart : key ≠ other) :
    ∃ early late, early + late ≤ off ∧ OptionClose swap early (Node.lookup? key pairs) (Node.lookup? key pairs') ∧
      OptionClose swap late (Node.lookup? other pairs) (Node.lookup? other pairs') := by
  rcases close with rfl | ⟨some, one⟩
  · exact ⟨0, 0, Nat.zero_le _, .refl _ _, .refl _ _⟩
  · obtain ⟨name, same, close⟩ := lookup?_of_oneOff one
    by_cases first : key = name
    · subst first
      exact ⟨1, 0, some, close plain.1, .inl (same other (Ne.symm apart))⟩
    · by_cases second : other = name
      · subst second
        exact ⟨0, 1, by omega, .inl (same key first), close plain.2⟩
      · exact ⟨0, 0, Nat.zero_le _, .inl (same key first), .inl (same other second)⟩

def keywordsOf : Node → List Node
  | .list items _ => if items.all Node.isPair then items else []
  | _ => []

theorem trailingKeywords_concat (init : List Node) (last : Node) : trailingKeywords
    (init ++ [last]) = keywordsOf last := by
  simp only [trailingKeywords, List.getLast?_concat]
  cases last <;> rfl

theorem all_isPair_eq {items items' : List Node} (one : OneOff (Differs swap) items items') :
    items.all Node.isPair = items'.all Node.isPair := by
  induction one with
  | head rest differs => rw [List.all_cons, List.all_cons, differs.isPair_eq]
  | tail item later ih => rw [List.all_cons, List.all_cons, ih]

theorem keywordsOf_close (close : Close swap off node node') : RowClose swap off (keywordsOf node)
    (keywordsOf node') := by
  refine close.map fun differs => ?_
  cases node with
  | list items line =>
    obtain ⟨items', rfl, one⟩ := differs.list_inv
    simp only [keywordsOf, all_isPair_eq one]
    split
    · exact .of_differ one
    · exact .refl _ _
  | _ =>
    rcases differs.cases with ⟨entries, entries', line, listLine, impossible, rfl, -⟩ | ⟨form, -⟩
    · exact .refl _ _
    · cases node' <;> simp only [Node.hollow, reduceCtorEq] at form
      exact .refl _ _

theorem trailingKeywords_close {args args' : List Node} (close : RowClose swap off args args') :
    RowClose swap off (trailingKeywords args) (trailingKeywords args') := by
  rcases List.eq_nil_or_concat' args with rfl | ⟨init, last, rfl⟩
  · cases close.nil_inv
    exact .refl _ _
  · obtain ⟨init', last', early, late, rfl, most, -, final⟩ := close.concat_inv
    rw [trailingKeywords_concat, trailingKeywords_concat]
    exact (keywordsOf_close final).mono (by omega)

end Keywords

section Lowering

structure CallClose (swap : List Node → List Node → Prop) (first second third : Nat) (call call' : Call) : Prop where
  target : call.target = call'.target
  function : call.function = call'.function
  line : call.line = call'.line
  args : RowClose swap first call.args call'.args
  block : RowClose swap second call.block call'.block
  sections : RowClose swap third call.elseBlock call'.elseBlock
  single : first + second + third ≤ 1

variable {first second third : Nat} {call call' : Call}

def aliasRef? : Node → Option ModuleRef
  | .alias ref _ => some ref
  | _ => none

theorem aliasRef?_close (close : Close swap off node node') : aliasRef? node = aliasRef? node' := by
  rcases close with rfl | ⟨-, differs⟩
  · rfl
  · exact differs.of_hollow (fun node => by cases node <;> rfl) fun _ _ _ => rfl

/-- The body of a call does not hold its first argument. -/
theorem bodyOf_close (close : CallClose swap first second third call call') {late : Nat}
    (rest : RowClose swap late (call.args.drop 1) (call'.args.drop 1)) (single : late + second + third ≤ 1) :
    RowClose swap (late + second + third) (bodyOf call) (bodyOf call') := by
  simp only [bodyOf, close.block.isEmpty_eq]
  split
  · obtain ⟨here, there, most, found, -⟩ :=
      lookup?_close (trailingKeywords_close rest) "do" "else" (by decide) (by decide)
    exact found.toList.mono (by omega)
  · exact (close.block.append close.sections (by omega)).mono (by omega)

theorem toNode_close (close : CallClose swap first second third call call') :
    Close swap (first + second + third) call.toNode call'.toNode := by
  have single := close.single
  unfold Call.toNode
  rw [close.target, close.function, close.line]
  exact (Node.close_call _ _ (.refl 0 _) close.args close.block close.sections (by omega)).mono (by omega)

theorem lowerModule_cons {head : Node} {rest : List Node} (split : call.args = head :: rest) :
    lowerModule call = .moduleDecl (aliasRef? head) (bodyOf call) call.line := by
  unfold lowerModule
  rw [split]
  cases head <;> rfl

theorem lowerModule_close (close : CallClose swap first second third call call') :
    Close swap (first + second + third) (lowerModule call) (lowerModule call') := by
  have single := close.single
  have args := close.args
  cases split : call.args with
  | nil =>
    rw [split] at args
    have same : lowerModule call = call.toNode ∧ lowerModule call' = call'.toNode := by
      simp [lowerModule, split, args.nil_inv]
    rw [same.1, same.2]
    exact toNode_close close
  | cons head rest =>
    rw [split] at args
    obtain ⟨head', rest', early, late, split', most, front, back⟩ := args.cons_inv
    rw [lowerModule_cons split, lowerModule_cons split', aliasRef?_close front, close.line]
    have others : RowClose swap late (call.args.drop 1) (call'.args.drop 1) := by simpa [split, split'] using back
    have body := bodyOf_close close others (by omega)
    exact (Node.close_of_row (f := fun body => .moduleDecl _ body _) (fun _ => rfl) (fun _ => rfl) body).mono (by omega)

theorem splitWhen_close (close : Close swap off node node') :
    ∃ early late, early + late ≤ off ∧ Close swap early (splitWhen node).1 (splitWhen node').1 ∧
      OptionClose swap late (splitWhen node).2 (splitWhen node').2 := by
  rcases close with rfl | ⟨some, differs⟩
  · exact ⟨0, 0, Nat.zero_le _, .refl _ _, .refl _ _⟩
  · cases node with
    | binary op left right line =>
      obtain ⟨left', right', early, late, rfl, single, first, second⟩ := differs.binary_inv
      simp only [splitWhen]
      split
      · exact ⟨early, late, by omega, first, second.map fun differs => .of_differ (.some differs)⟩
      · exact ⟨1, 0, some, .of_differ differs, .refl _ _⟩
    | _ =>
      rcases differs.cases with ⟨entries, entries', line, listLine, same, rfl, -⟩ | ⟨form, -⟩
      · exact ⟨1, 0, some, .of_differ differs, .refl _ _⟩
      · cases node' <;> simp only [Node.hollow, reduceCtorEq] at form
        exact ⟨1, 0, some, .of_differ differs, .refl _ _⟩

theorem headParts?_call {target : Option Node} {function : String} {args block sections : List Node} {line : Nat}
    (other : ¬ (target = none ∧ block = [] ∧ sections = [])) :
    headParts? (.call target function args block sections line) = none := by
  cases target <;> cases block <;> cases sections <;> first | rfl | exact absurd ⟨rfl, rfl, rfl⟩ other

theorem headParts?_close (close : Close swap off node node') :
    headParts? node = none ∧ headParts? node' = none ∨
      ∃ name params params', headParts? node = some (name, params) ∧ headParts? node' = some (name, params') ∧
        RowClose swap off params params' := by
  rcases close with rfl | ⟨some, differs⟩
  · cases parts : headParts? node with
    | none => exact .inl ⟨rfl, rfl⟩
    | some found => exact .inr ⟨found.1, found.2, found.2, rfl, rfl, .refl _ _⟩
  · cases node with
    | call target function args block sections line =>
      obtain ⟨target', args', block', sections', first, second, third, fourth, rfl, single, targets, arguments, blocks,
        rest⟩ := differs.call_inv
      rcases targets with rfl | ⟨-, optional⟩
      · by_cases local' : target = none ∧ block = [] ∧ sections = []
        · obtain ⟨rfl, rfl, rfl⟩ := local'
          cases blocks.nil_inv
          cases rest.nil_inv
          exact .inr ⟨function, args, args', rfl, rfl, arguments.mono (by omega)⟩
        · have remote : ¬ (target = none ∧ block' = [] ∧ sections' = []) := by
            rintro ⟨rfl, rfl, rfl⟩
            exact local' ⟨rfl, List.eq_nil_of_length_eq_zero blocks.length_eq,
              List.eq_nil_of_length_eq_zero rest.length_eq⟩
          exact .inl ⟨headParts?_call local', headParts?_call remote⟩
      · cases optional
        exact .inl ⟨rfl, rfl⟩
    | _ =>
      left
      rcases differs.cases with ⟨entries, entries', line, listLine, same, rfl, -⟩ | ⟨form, one⟩
      · first | exact ⟨rfl, rfl⟩ | cases same
      · cases node' <;> simp only [Node.hollow, reduceCtorEq] at form
        first | exact ⟨rfl, rfl⟩ | cases one

theorem lowerDefinition_close (kind : DefinitionKind) (close : CallClose swap first second third call call') :
    Close swap (first + second + third) (lowerDefinition kind call) (lowerDefinition kind call') := by
  have single := close.single
  have args := close.args
  unfold lowerDefinition
  cases split : call.args with
  | nil =>
    rw [split] at args
    rw [args.nil_inv]
    exact toNode_close close
  | cons head rest =>
    rw [split] at args
    obtain ⟨head', rest', early, late, split', most, front, back⟩ := args.cons_inv
    rw [split']
    dsimp only
    obtain ⟨here, there, fewer, parameters, guard⟩ := splitWhen_close front
    rcases headParts?_close parameters with ⟨none, none'⟩ | ⟨name, params, params', some, some', named⟩
    · rw [none, none']
      exact toNode_close close
    · rw [some, some', close.line]
      have others : RowClose swap late (call.args.drop 1) (call'.args.drop 1) := by simpa [split, split'] using back
      have body := bodyOf_close close others (by omega)
      exact (Node.close_definition kind name _ named body guard (by omega)).mono (by omega)

theorem groupRefs_close (base : ModuleRef) {items items' : List Node} (close : RowClose swap off items items') :
    groupRefs base items = groupRefs base items' := by
  have same : ∀ items, groupRefs base items = (items.filterMap aliasRef?).map base.append := by
    intro items
    rw [groupRefs, List.map_filterMap]
    congr 1
    funext node
    cases node <;> rfl
  rw [same, same]
  rcases close with rfl | ⟨-, one⟩
  · rfl
  · obtain ⟨before, item, item', after, rfl, rfl, differs⟩ := one.split
    simp only [List.filterMap_append, List.filterMap_cons, aliasRef?_close (.of_differ differs)]

def namedRefs : Node → Option ModuleRef × List ModuleRef
  | .alias ref _ => (some ref, [ref])
  | .call (some target) function items _ _ _ =>
    match aliasRef? target with
    | some base => if function = "\x7b\x7d" then (some base, groupRefs base items) else (none, [])
    | none => (none, [])
  | _ => (none, [])

theorem lowerDirective_cons (kind : DirectiveKind) {head : Node} {rest : List Node} (split : call.args = head :: rest) :
    lowerDirective kind call =
      .directive kind (namedRefs head).1 (namedRefs head).2 (trailingKeywords rest) call.line := by
  unfold lowerDirective
  rw [split]
  cases head with
  | call target function items block sections line =>
    rcases target with _ | target
    · rfl
    · cases target with
      | «alias» base place =>
        by_cases braces : function = "\x7b\x7d"
        · subst braces
          rfl
        · simp [namedRefs, aliasRef?, braces]
      | _ => rfl
  | _ => rfl

theorem namedRefs_close (close : Close swap off node node') : namedRefs node = namedRefs node' := by
  rcases close with rfl | ⟨-, differs⟩
  · rfl
  · cases node with
    | call target function args block sections line =>
      obtain ⟨target', args', block', sections', first, second, third, fourth, rfl, single, targets, arguments, blocks,
        rest⟩ := differs.call_inv
      rcases targets with rfl | ⟨-, optional⟩
      · cases target with
        | none => rfl
        | some node => simp only [namedRefs, groupRefs_close _ arguments]
      · cases optional with
        | some inner => simp only [namedRefs, aliasRef?_close (.of_differ inner), groupRefs_close _ arguments]
    | «alias» ref line => exact absurd differs (Node.not_differs_of_leaf rfl)
    | _ =>
      rcases differs.cases with ⟨entries, entries', line, listLine, same, rfl, -⟩ | ⟨form, one⟩
      · rfl
      · cases node' <;> simp only [Node.hollow, reduceCtorEq] at form
        rfl

theorem lowerDirective_close (kind : DirectiveKind) (close : CallClose swap first second third call call') :
    Close swap (first + second + third) (lowerDirective kind call) (lowerDirective kind call') := by
  have args := close.args
  cases split : call.args with
  | nil =>
    rw [split] at args
    have same : lowerDirective kind call = call.toNode ∧ lowerDirective kind call' = call'.toNode := by
      simp [lowerDirective, split, args.nil_inv]
    rw [same.1, same.2]
    exact toNode_close close
  | cons head rest =>
    rw [split] at args
    obtain ⟨head', rest', early, late, split', most, front, back⟩ := args.cons_inv
    rw [lowerDirective_cons kind split, lowerDirective_cons kind split', namedRefs_close front, close.line]
    have options := trailingKeywords_close back
    exact (Node.close_of_row (f := fun options => .directive kind _ _ options _) (fun _ => rfl) (fun _ => rfl)
      options).mono (by omega)

theorem lowerWith_close (close : CallClose swap first second third call call') :
    Close swap (first + second + third) (lowerWith call) (lowerWith call') := by
  have single := close.single
  have args := close.args
  have block := close.block
  -- Without a keyword `do`, or with a block, all arguments are heads.
  have plain : Close swap (first + second + third) (.withForm call.args call.block call.elseBlock call.line)
      (.withForm call'.args call'.block call'.elseBlock call'.line) := by
    rw [close.line]
    exact Node.close_withForm _ args block close.sections single
  rcases List.eq_nil_or_concat' call.args with none | ⟨init, last, split⟩
  · rw [none] at args
    have same : lowerWith call = .withForm call.args call.block call.elseBlock call.line ∧
        lowerWith call' = .withForm call'.args call'.block call'.elseBlock call'.line := by
      simp [lowerWith, none, args.nil_inv, trailingKeywords, Node.lookup?]
    rw [same.1, same.2]
    exact plain
  · rw [split] at args
    obtain ⟨init', last', early, late, split', most, heads, final⟩ := args.concat_inv
    obtain ⟨here, there, fewer, body, otherwise⟩ :=
      lookup?_close (keywordsOf_close final) "do" "else" (by decide) (by decide)
    cases blocked : call.block with
    | cons statement rest =>
      rw [blocked] at block
      obtain ⟨statement', rest', -, -, blocked', -⟩ := block.cons_inv
      simp only [lowerWith, blocked, blocked']
      rw [← blocked, ← blocked']
      exact plain
    | nil =>
      rw [blocked] at block
      have blocked' := block.nil_inv
      simp only [lowerWith, split, split', trailingKeywords_concat, blocked, blocked']
      rcases body with same | ⟨some, optional⟩
      · rw [← same]
        cases found : Node.lookup? "do" (keywordsOf last) with
        | none => simpa only [split, split', blocked, blocked'] using plain
        | some value =>
          rw [List.dropLast_concat, List.dropLast_concat, close.line]
          exact (Node.close_withForm _ heads (.refl 0 [value]) otherwise.toList (by omega)).mono (by omega)
      · generalize Node.lookup? "do" (keywordsOf last) = found at optional ⊢
        generalize Node.lookup? "do" (keywordsOf last') = found' at optional ⊢
        cases optional with
        | some differs =>
          rw [List.dropLast_concat, List.dropLast_concat, close.line]
          exact (Node.close_withForm _ heads (.of_differ (.head [] differs)) otherwise.toList (by omega)).mono (by omega)

theorem lower_close (close : CallClose swap first second third call call') :
    Close swap (first + second + third) (lower call) (lower call') := by
  unfold lower
  rw [close.function]
  split
  · exact lowerModule_close close
  · split
    · exact lowerDefinition_close _ close
    · split
      · exact lowerDirective_close _ close
      · split
        · exact lowerWith_close close
        · exact toNode_close close

end Lowering

section Assembling

inductive ArgumentDiffers (swap : List Node → List Node → Prop) : Argument → Argument → Prop
  | plain {node node' : Node} (differs : Differs swap node node') : ArgumentDiffers swap (.plain node) (.plain node')
  | keyword {pair pair' : Node} (differs : Differs swap pair pair') : ArgumentDiffers swap (.keyword pair) (.keyword pair')

theorem nodes_close {items items' : List Argument} (close : Near (OneOff (ArgumentDiffers swap)) off items items') :
    RowClose swap off (items.map Argument.node) (items'.map Argument.node) := by
  simp only [← List.filterMap_eq_map]
  refine close.filterMap ?_
  intro item item' differs
  cases differs with
  | plain differs => exact .of_differ (.some differs)
  | keyword differs => exact .of_differ (.some differs)

def keywordList? : List Node → List Node
  | [] => []
  | pair :: more => [.list (pair :: more) pair.line]

theorem gatherKeywords_eq (items : List Argument) :
    gatherKeywords items = items.filterMap Argument.plain? ++ keywordList? (items.filterMap Argument.keyword?) := by
  unfold gatherKeywords
  cases items.filterMap Argument.keyword? with
  | nil => simp [keywordList?]
  | cons pair more => rfl

theorem keywordList?_close {pairs pairs' : List Node} (close : RowClose swap off pairs pairs') (single : off ≤ 1) :
    RowClose swap off (keywordList? pairs) (keywordList? pairs') := by
  cases pairs with
  | nil =>
    cases close.nil_inv
    exact .refl _ _
  | cons pair more =>
    obtain ⟨pair', more', early, late, rfl, most, front, back⟩ := close.cons_inv
    have line : pair.line = pair'.line := by
      rcases front with rfl | ⟨-, differs⟩
      · rfl
      · exact differs.line_eq
    have list := Node.close_of_row (f := fun items => .list items pair.line) (fun _ => rfl) (fun _ => rfl) close
    simp only [keywordList?, ← line]
    exact list.cons (.refl 0 []) single

theorem gatherKeywords_close {items items' : List Argument}
    (close : Near (OneOff (ArgumentDiffers swap)) off items items') :
    RowClose swap off (gatherKeywords items) (gatherKeywords items') := by
  refine close.map fun one => ?_
  obtain ⟨before, item, item', after, rfl, rfl, differs⟩ := one.split
  simp only [gatherKeywords_eq, List.filterMap_append]
  cases differs with
  | plain differs =>
    simp only [List.filterMap_cons, Argument.plain?, Argument.keyword?]
    exact .of_differ ((OneOff.of_split _ _ differs).append_right _)
  | keyword differs =>
    simp only [List.filterMap_cons, Argument.plain?, Argument.keyword?]
    exact (Near.refl 0 _).append (keywordList?_close (.of_differ (.of_split _ _ differs)) (by omega)) (by omega)

theorem clauses_close {nodes nodes' : List Node} (close : RowClose swap off nodes nodes') :
    RowClose swap off (nodes.filter Node.isClause) (nodes'.filter Node.isClause) := by
  rw [← List.filterMap_eq_filter]
  refine close.filterMap ?_
  intro node node' differs
  simp only [Option.guard, differs.isClause_eq]
  split
  · exact .of_differ (.some differs)
  · exact .refl _ _

theorem unwrap_close {nodes nodes' : List Node} (close : RowClose swap off nodes nodes') (line : Nat) :
    Close swap off (unwrap nodes line) (unwrap nodes' line) := by
  have sequence := Node.close_of_row (f := fun nodes => .sequence nodes line) (fun _ => rfl) (fun _ => rfl) close
  match nodes with
  | [] =>
    cases close.nil_inv
    exact .refl _ _
  | [node] =>
    obtain ⟨node', rest', early, late, rfl, most, front, back⟩ := close.cons_inv
    cases back.nil_inv
    have clause : node.isClause = node'.isClause := by
      rcases front with rfl | ⟨-, differs⟩
      · rfl
      · exact differs.isClause_eq
    simp only [unwrap, clause]
    split
    · exact sequence
    · exact front.mono (by omega)
  | first :: second :: rest =>
    obtain ⟨first', rest', early, late, rfl, -, -, back⟩ := close.cons_inv
    obtain ⟨second', more', early', late', rfl, -⟩ := back.cons_inv
    exact sequence

theorem mapEntry_close (close : Close swap off node node') : Close swap off (mapEntry node) (mapEntry node') := by
  refine close.map fun differs => ?_
  cases node with
  | binary op left right line =>
    obtain ⟨left', right', early, late, rfl, single, first, second⟩ := differs.binary_inv
    simp only [mapEntry]
    split
    · exact (Node.close_pair line first second single).mono single
    · exact .of_differ differs
  | _ =>
    rcases differs.cases with ⟨entries, entries', line, listLine, same, rfl, -⟩ | ⟨form, one⟩
    · exact .of_differ differs
    · cases node' <;> simp only [Node.hollow, reduceCtorEq] at form
      exact .of_differ differs

theorem prefixed_close (op : String) (line : Nat) (close : Close swap off node node') :
    Close swap off (prefixed op node line) (prefixed op node' line) := by
  refine close.map (f := fun node => prefixed op node line) fun differs => ?_
  have unary := Node.close_unary op line (.of_differ differs) (Nat.le_refl 1)
  have plain : ∀ node : Node, (∀ value place, node ≠ .literal value place) → prefixed op node line = .unary op node line := by
    intro node other
    unfold prefixed
    split
    · cases node with
      | literal value place => exact absurd rfl (other value place)
      | _ => rfl
    · rfl
  rw [plain node ?_, plain node' ?_]
  · exact unary
  · rintro value place rfl
    exact Node.not_differs_from_leaf rfl differs
  · rintro value place rfl
    exact Node.not_differs_of_leaf rfl differs

theorem splitGuard_concat (init : List Node) (last : Node) :
    splitGuard (init ++ [last]) = (init ++ [(splitWhen last).1], (splitWhen last).2) := by
  unfold splitGuard
  rw [List.getLast?_concat]
  cases last with
  | binary op left right line =>
    simp only [splitWhen]
    split <;> simp
  | _ => rfl

theorem splitGuard_close {params params' : List Node} (close : RowClose swap off params params') (single : off ≤ 1) :
    ∃ early late, early + late ≤ off ∧ RowClose swap early (splitGuard params).1 (splitGuard params').1 ∧
      OptionClose swap late (splitGuard params).2 (splitGuard params').2 := by
  rcases List.eq_nil_or_concat' params with rfl | ⟨init, last, rfl⟩
  · cases close.nil_inv
    exact ⟨0, 0, Nat.zero_le _, .refl _ _, .refl _ _⟩
  · obtain ⟨init', last', early, late, rfl, most, heads, final⟩ := close.concat_inv
    obtain ⟨here, there, fewer, left, guard⟩ := splitWhen_close final
    rw [splitGuard_concat, splitGuard_concat]
    refine ⟨early + here, there, by omega, heads.append ?_ (by omega), guard⟩
    exact left.cons (.refl 0 []) (by omega)

inductive ItemDiffers (swap : List Node → List Node → Prop) : BodyItem → BodyItem → Prop
  | statement {node node' : Node} (differs : Differs swap node node') :
    ItemDiffers swap (.statement node) (.statement node')
  | head {params params' : List Node} (line : Nat) (one : OneOff (Differs swap) params params') :
    ItemDiffers swap (.head params line) (.head params' line)

variable {items items' : List BodyItem}

theorem statements_close (one : OneOff (ItemDiffers swap) items items') :
    ∃ early late, early + late ≤ 1 ∧ RowClose swap early (BodyItem.statements items) (BodyItem.statements items') ∧
      RowClose swap late (clausesOf items) (clausesOf items') := by
  induction one with
  | head rest differs =>
    cases differs with
    | statement differs => exact ⟨1, 0, Nat.le_refl 1, .of_differ (.head _ differs), .refl _ _⟩
    | head line one =>
      obtain ⟨early, late, single, params, guard⟩ := splitGuard_close (.of_differ one) (Nat.le_refl 1)
      refine ⟨0, 1, Nat.le_refl 1, .refl _ _, ?_⟩
      have clause := Node.close_clause line params (.refl 0 (BodyItem.statements rest)) guard (by omega)
      exact (clause.cons (.refl 0 (clausesOf rest)) (by omega)).mono (by omega)
  | tail item later ih =>
    obtain ⟨early, late, single, statements, clauses⟩ := ih
    cases item with
    | statement node =>
      exact ⟨0 + early, late, by omega, (Near.refl 0 node).cons statements (by omega), clauses⟩
    | head params line =>
      refine ⟨0, 1, Nat.le_refl 1, .refl _ _, ?_⟩
      have clause := Node.close_clause line (.refl 0 (splitGuard params).1) statements
        (.refl 0 (splitGuard params).2) (by omega)
      exact (clause.cons clauses (by omega)).mono (by omega)

theorem any_isHead_eq (one : OneOff (ItemDiffers swap) items items') :
    items.any BodyItem.isHead = items'.any BodyItem.isHead := by
  induction one with
  | head rest differs => cases differs <;> rfl
  | tail item later ih => rw [List.any_cons, List.any_cons, ih]

theorem assemble_close (close : Near (OneOff (ItemDiffers swap)) off items items') :
    RowClose swap off (assemble items) (assemble items') := by
  refine close.map fun one => ?_
  unfold assemble
  rw [any_isHead_eq one]
  split
  · obtain ⟨early, late, single, -, clauses⟩ := statements_close one
    exact clauses.mono (by omega)
  · refine one.filterMap ?_
    intro item item' differs
    cases differs with
    | statement differs => exact .of_differ (.some differs)
    | head line one => exact .refl _ _

end Assembling

end BoundaryLint.Grammar
