import BoundaryLint.Host.Ordinary
import BoundaryLint.Proofs.Grammar.Passage
import BoundaryLint.Proofs.Grammar.PhraseReading
import BoundaryLint.Proofs.Token.Spacing

/-!
Operators group as their table says: a tree of operators is read back from its text when parentheses
stand only where the binding powers and the sides to which operators group demand them, and line
breaks around binary operators change nothing but line numbers.
-/

namespace BoundaryLint.Grammar

section Table

variable {first second : Binding} {op : String}

/-- Operators of equal power group to the same side. -/
theorem associative_eq_of_power {other : String} (left : binding? op = some first)
    (right : binding? other = some second) (same : first.power = second.power) :
    first.rightAssociative = second.rightAssociative := by
  have table : ∀ a ∈ binaryOperators, ∀ b ∈ binaryOperators, a.2.power = b.2.power →
      a.2.rightAssociative = b.2.rightAssociative := by decide +kernel
  exact table _ (mem_binaryOperators left) _ (mem_binaryOperators right) same

theorem power_le_prefixFloor (known : binding? op = some first) : first.power ≤ prefixFloor := by
  have table : ∀ entry ∈ binaryOperators, entry.2.power ≤ prefixFloor := by decide
  exact table _ (mem_binaryOperators known)

/-- A left operand without parentheses ends before the operator. -/
theorem power_le_rightFloor_left {other : String} (outer : binding? op = some first)
    (inner : binding? other = some second)
    (bare : first.encloses false second = false) :
    first.power ≤ second.power ∧ first.power ≤ second.rightFloor := by
  have same := associative_eq_of_power inner outer
  simp only [Binding.encloses, Bool.or_eq_false_iff, decide_eq_false_iff_not, Nat.not_lt, Bool.and_eq_false_iff,
    bne_eq_false_iff_eq] at bare
  refine ⟨bare.1, ?_⟩
  unfold Binding.rightFloor
  rcases bare.2 with apart | groupsLeft
  · split <;> omega
  · split
    · next groupsRight =>
      have apart : second.power ≠ first.power := fun equal => by
        rw [same equal, groupsLeft] at groupsRight
        exact Bool.false_ne_true groupsRight
      omega
    · exact bare.1

/-- A right operand without parentheses goes on as far as the operator. -/
theorem rightFloor_lt_power_right {other : String} (outer : binding? op = some first)
    (inner : binding? other = some second)
    (bare : first.encloses true second = false) :
    first.rightFloor < second.power ∧ first.rightFloor ≤ second.rightFloor := by
  have same := associative_eq_of_power inner outer
  have positive := power_pos inner
  simp only [Binding.encloses, Bool.or_eq_false_iff, decide_eq_false_iff_not, Nat.not_lt, Bool.and_eq_false_iff,
    bne_eq_false_iff_eq] at bare
  unfold Binding.rightFloor
  by_cases equal : second.power = first.power
  · have groupsRight : first.rightAssociative = true := bare.2.resolve_left fun apart => apart equal
    simp only [groupsRight, (same equal).trans groupsRight, if_true]
    omega
  · split <;> split <;> omega

end Table

/-- The binary operator that comes next, if any, binds no more strongly than `power`. -/
def Weak (power : Nat) (rest : List Token) : Prop :=
  ∀ op binding after, binaryOperator? rest = some (op, binding, after) → binding.power ≤ power

theorem Weak.mono {low high : Nat} {rest : List Token} (weak : Weak low rest) (below : low ≤ high) :
    Weak high rest :=
  fun op binding after found => Nat.le_trans (weak op binding after found) below

theorem binding?_of_binaryOperator? {tokens after : List Token} {op : String} {binding : Binding}
    (found : binaryOperator? tokens = some (op, binding, after)) : binding? op = some binding := by
  cases tokens with
  | nil => cases found
  | cons token rest =>
    simp only [binaryOperator?] at found
    split at found
    · cases found
    split at found
    · cases found
    split at found
    · split at found
      · split at found
        · obtain ⟨other, known, same⟩ := Option.map_eq_some_iff.mp found
          cases same
          exact known
        · cases found
      · cases found
    · obtain ⟨other, known, same⟩ := Option.map_eq_some_iff.mp found
      cases same
      exact known

theorem weak_prefixFloor (rest : List Token) : Weak prefixFloor rest :=
  fun _ _ _ found => power_le_prefixFloor (binding?_of_binaryOperator? found)

structure Detached (rest : List Token) : Prop where
  noPostfix : startsPostfix rest = false
  noArgs : startsArgs rest = false
  noBlock : startsWith .keyword "do" rest = false

theorem Closed.detached {rest : List Token} (closed : Closed rest) : Detached rest :=
  ⟨closed.startsPostfix, closed.startsArgs, closed.noBlock⟩

theorem Closed.weak {rest : List Token} (closed : Closed rest) (power : Nat) : Weak power rest := by
  intro op binding after found
  rw [closed.binaryOperator?] at found
  cases found

namespace Passage

/-- The passage is read as its tree, up to the operators that bind more weakly than its outermost
one, whose binding is `root?`. -/
structure Climbs (passage : Passage) (root? : Option Binding) : Prop where
  known : ∀ root ∈ root?, ∃ op, binding? op = some root
  opened : ∀ line gap, Opened line (passage.tokens line gap)
  leads : ∀ line gap, ∀ token ∈ (passage.tokens line gap).head?, token.spaceBefore = gap.space
  deep : 0 < passage.depth
  lined : ∀ line, (passage.node line).line = line
  notClause : ∀ line, (passage.node line).isClause = false
  notNumber : ∀ line, isNumber (passage.node line) = false
  reads : ∀ {depth}, passage.depth ≤ depth + 1 → ∀ {floor line gap rest},
    (∀ root ∈ root?, floor < root.power) → Detached rest → (∀ root ∈ root?, Weak root.rightFloor rest) →
    expression (depth + 1) floor false (passage.tokens line gap ++ rest) =
      operators (expression depth) floor false (passage.node line) rest

theorem Climbs.expression {passage : Passage} {root? : Option Binding} (climbs : passage.Climbs root?)
    {depth floor line : Nat} {gap : Token.Gap} {rest : List Token} (fits : passage.depth ≤ depth)
    (strong : ∀ root ∈ root?, floor < root.power ∧ Weak root.rightFloor rest) (detached : Detached rest)
    (weak : Weak floor rest) :
    expression depth floor false (passage.tokens line gap ++ rest) = .ok (passage.node line, rest) := by
  obtain ⟨depth, rfl⟩ : ∃ d, depth = d + 1 := Nat.exists_eq_add_one.mpr (Nat.lt_of_lt_of_le climbs.deep fits)
  rw [climbs.reads fits (fun root found => (strong root found).1) detached
    fun root found => (strong root found).2]
  exact operators_stop weak

theorem Climbs.leads_append {passage : Passage} {root? : Option Binding} (climbs : passage.Climbs root?)
    (line : Nat) (gap : Token.Gap) (rest : List Token) :
    ∀ token ∈ (passage.tokens line gap ++ rest).head?, token.spaceBefore = gap.space := by
  obtain ⟨other, found, -⟩ := climbs.opened line gap
  obtain ⟨more, shape⟩ := List.head?_eq_some_iff.mp found
  have spaced := climbs.leads line gap
  rw [shape] at spaced ⊢
  exact spaced

theorem climbs_name (text : String) : (name text).Climbs none where
  known := by simp
  opened _ _ := ⟨_, rfl, rfl, rfl⟩
  leads := by simp [name]
  deep := Nat.one_pos
  lined _ := rfl
  notClause _ := rfl
  notNumber _ := rfl
  reads {depth} _ {floor line gap rest} _ detached _ := by
    have variable_read : primary (Grammar.expression depth) false (token .identifier text line gap) rest =
        .ok (.var text line, rest) := by
      simp [primary, Grammar.identifier, callArgs_stop detached.noArgs, detached.noBlock, bind, Except.bind,
        pure, Except.pure]
    exact expression_operand ((operand_primary (by simp) variable_read).trans (postfixes_stop detached.noPostfix))

theorem climbs_enclosed {passage : Passage} {root? : Option Binding} (climbs : passage.Climbs root?) :
    passage.enclosed.Climbs none where
  known := by simp
  opened _ _ := ⟨_, rfl, rfl, rfl⟩
  leads := by simp [enclosed]
  deep := Nat.succ_pos _
  lined := climbs.lined
  notClause := climbs.notClause
  notNumber := climbs.notNumber
  reads {depth} fits {floor line gap rest} _ detached _ := by
    have inside : ∀ rest, Closed rest → expression depth 0 false (passage.tokens line .none ++ rest) =
        .ok (passage.node line, rest) := by
      intro rest closed
      refine climbs.expression (Nat.le_of_succ_le_succ fits) ?_ closed.detached (closed.weak _)
      intro root found
      obtain ⟨op, listed⟩ := climbs.known root found
      exact ⟨power_pos listed, closed.weak _⟩
    have statement : body (Grammar.expression depth) [")"]
        (row semicolon false ([()].map fun _ _ => passage.tokens line .none) ++
          token .punctuation ")" (passage.last line) .none :: rest) =
        .ok ([()].map fun _ => passage.node line, token .punctuation ")" (passage.last line) .none :: rest) :=
      body_row false (by decide) rfl (fun _ _ _ rest closed => inside rest closed)
        (fun _ _ _ => climbs.opened line .none) rfl rfl (by simp)
    simp only [List.map_cons, List.map_nil, row] at statement
    have grouped : primary (Grammar.expression depth) false (token .punctuation "(" line gap)
        (passage.tokens line .none ++ token .punctuation ")" (passage.last line) .none :: rest) =
        .ok (passage.node line, rest) := by
      simp [primary, group, statement, expect, Token.is, unwrap, climbs.notClause, bind, Except.bind, pure,
        Except.pure]
    have shape : passage.enclosed.tokens line gap ++ rest = token .punctuation "(" line gap ::
        (passage.tokens line .none ++ token .punctuation ")" (passage.last line) .none :: rest) := by
      simp [enclosed]
    rw [shape]
    exact expression_operand ((operand_primary (by simp) grouped).trans (postfixes_stop detached.noPostfix))

theorem climbs_unary {passage : Passage} {op : String} (listed : op ∈ prefixOperators) (tight : Bool)
    (climbs : passage.Climbs none) : (unary op tight passage).Climbs none where
  known := by simp
  opened _ _ := by
    have notArrow : op ≠ "->" := by
      rintro rfl
      exact absurd listed (by decide)
    exact ⟨_, rfl, by simpa [begins] using notArrow, rfl⟩
  leads := by simp [unary]
  deep := Nat.succ_pos _
  lined _ := rfl
  notClause _ := rfl
  notNumber _ := rfl
  reads {depth} fits {floor line gap rest} _ detached _ := by
    have inside : Grammar.expression depth prefixFloor false (passage.tokens line ⟨!tight, false⟩ ++ rest) =
        .ok (passage.node line, rest) :=
      climbs.expression (Nat.le_of_succ_le_succ fits) (by simp) detached (weak_prefixFloor rest)
    have kept : prefixed op (passage.node line) line = .unary op (passage.node line) line := by
      have plain := climbs.notNumber line
      unfold prefixed
      split
      · split <;> simp_all [isNumber]
      · rfl
    have contained : prefixOperators.contains op = true := by simpa using listed
    have read : operand (Grammar.expression depth) false ((unary op tight passage).tokens line gap ++ rest) =
        .ok (.unary op (passage.node line) line, rest) := by
      simp only [unary, List.cons_append, operand, next, token_kind, token_text, token_line, contained, if_true,
        inside, kept, bind, Except.bind, pure, Except.pure]
    exact expression_operand read

section Operators

variable {op : String} {binding : Binding} {before : Bool} {line : Nat} {tokens : List Token}

/-- The operator is found, also first on a line unless it could start a statement there. -/
theorem binaryOperator?_operator (known : binding? op = some binding)
    (continues : before = true → op ∉ lineStarters) (tokens : List Token) :
    binaryOperator? (operator op line (gapOf before) ++ tokens) = some (op, binding, tokens) := by
  by_cases double : op = "not in"
  · subst double
    simp [operator, binaryOperator?, Token.is, known, lineStarters]
  · have notPrefix : op ≠ "not" := by
      rintro rfl
      simp [show binding? "not" = none by decide] at known
    have goes : ¬(before = true ∧ op ∈ lineStarters) := fun both => continues both.1 both.2
    simp [operator, double, binaryOperator?, notPrefix, known, goes]

/-- An operator with gaps on both sides is no argument of the variable before it. -/
theorem detached_operator (known : binding? op = some binding)
    (spaced : ∀ token ∈ tokens.head?, token.spaceBefore = true) :
    Detached (operator op line (gapOf before) ++ tokens) := by
  by_cases double : op = "not in"
  · constructor <;>
      simp [operator, double, startsPostfix, startsArgs, startsBareArgs, startsWith, argumentKinds, Token.is]
  · have table : ∀ entry ∈ binaryOperators, entry.1 ≠ "." ∧ entry.1 ≠ "not" ∧ entry.1 ∉ argumentOperators := by
      decide +kernel
    obtain ⟨notPoint, notPrefix, notArgument⟩ := table _ (mem_binaryOperators known)
    constructor
    · simp [operator, double, startsPostfix, Token.is, notPoint]
    · cases tokens with
      | nil => simp [operator, double, startsArgs, startsBareArgs, argumentKinds, Token.is, notPrefix, notArgument]
      | cons following rest =>
        simp [operator, double, startsArgs, startsBareArgs, argumentKinds, Token.is, notPrefix, notArgument,
          spaced following rfl]
    · simp [operator, double, startsWith, Token.is]

theorem climbs_binary {after : Bool} {left right : Passage} {first? second? : Option Binding}
    (known : binding? op = some binding) (continues : before = true → op ∉ lineStarters)
    (first : left.Climbs first?) (second : right.Climbs second?)
    (bareLeft : ∀ inner ∈ first?, binding.encloses false inner = false)
    (bareRight : ∀ inner ∈ second?, binding.encloses true inner = false) :
    (binary op before after left right).Climbs (some binding) where
  known root found := ⟨op, Option.mem_some.mp found ▸ known⟩
  opened line gap := by
    obtain ⟨token, head, starts, here⟩ := first.opened line gap
    obtain ⟨rest, shape⟩ := List.head?_eq_some_iff.mp head
    exact ⟨token, by simp [binary, shape], starts, here⟩
  leads line gap := first.leads_append line gap _
  deep := Nat.lt_of_lt_of_le first.deep (Nat.le_max_left _ _)
  lined _ := rfl
  notClause _ := rfl
  notNumber _ := rfl
  reads {depth} fits {floor line gap rest} strong detached weak := by
    simp only [binary, Nat.max_le, Nat.add_le_add_iff_right] at fits
    have shape : (binary op before after left right).tokens line gap ++ rest = left.tokens line gap ++
        (operator op (lineAfter before (left.last line)) (gapOf before) ++
          (right.tokens (lineAfter after (lineAfter before (left.last line))) (gapOf after) ++ rest)) := by
      simp [binary]
    have result : (binary op before after left right).node line = .binary op (left.node line)
        (right.node (lineAfter after (lineAfter before (left.last line)))) line := rfl
    rw [shape, result]
    generalize lineAfter before (left.last line) = here
    generalize lineAfter after here = there
    -- The right operand ends before the next operator, which is no stronger than this one.
    have right_reads : Grammar.expression depth binding.rightFloor false
        (right.tokens there (gapOf after) ++ rest) = .ok (right.node there, rest) := by
      refine second.expression fits.2 (fun inner found => ?_) detached (weak binding rfl)
      obtain ⟨other, listed⟩ := second.known inner found
      obtain ⟨above, reaches⟩ := rightFloor_lt_power_right known listed (bareRight inner found)
      exact ⟨above, (weak binding rfl).mono reaches⟩
    have spaced := second.leads_append there (gapOf after) rest
    generalize right.tokens there (gapOf after) = right_tokens at right_reads spaced ⊢
    have found : binaryOperator? (operator op here (gapOf before) ++ (right_tokens ++ rest)) =
        some (op, binding, right_tokens ++ rest) := binaryOperator?_operator known continues _
    -- The left operand ends before this operator.
    have left_reads : Grammar.expression (depth + 1) floor false (left.tokens line gap ++
        (operator op here (gapOf before) ++ (right_tokens ++ rest))) =
        operators (Grammar.expression depth) floor false (left.node line)
          (operator op here (gapOf before) ++ (right_tokens ++ rest)) := by
      have ends : ∀ inner ∈ first?, binding.power ≤ inner.power ∧ binding.power ≤ inner.rightFloor := by
        intro inner member
        obtain ⟨other, listed⟩ := first.known inner member
        exact power_le_rightFloor_left known listed (bareLeft inner member)
      refine first.reads fits.1 (fun inner member => ?_) (detached_operator known spaced) fun inner member => ?_
      · exact Nat.lt_of_lt_of_le (strong binding rfl) (ends inner member).1
      · intro next other_binding other_rest next_found
        rw [found] at next_found
        cases next_found
        exact (ends inner member).2
    have shorter : rest.length < (operator op here (gapOf before) ++ (right_tokens ++ rest)).length := by
      unfold operator
      split <;> simp only [List.length_append, List.length_cons, List.length_nil] <;> omega
    rw [left_reads, operators_step found (strong binding rfl) right_reads shorter, first.lined]

end Operators

theorem climbs_encloseIf {passage : Passage} {root? : Option Binding} (wrap : Bool)
    (climbs : passage.Climbs root?) : (encloseIf wrap passage).Climbs (if wrap then none else root?) := by
  cases wrap
  · exact climbs
  · exact climbs_enclosed climbs

end Passage

open Passage

theorem encloses_eq_false {op : String} {outer : Binding} {right : Bool} {operand : Node}
    (known : binding? op = some outer) :
    ∀ inner ∈ if operand.needsParens op right then none else operand.binding?,
      outer.encloses right inner = false := by
  intro inner found
  split at found
  · cases found
  · next bare =>
    rw [Option.mem_def] at found
    simpa [Node.needsParens, known, found] using bare

/-- A tree of operators is read back from its tokens. -/
theorem Operation.climbs {node : Node} (operation : Operation node) (layout : Layout) :
    (node.passage layout).Climbs node.binding? := by
  induction operation generalizing layout with
  | @var name line known => exact climbs_name name
  | @binary op left right line known _ _ first second =>
    obtain ⟨outer, found⟩ := Option.isSome_iff_exists.mp known
    have continues : (layout.before [] && !breakless.contains op) = true → op ∉ lineStarters := by
      have table : ∀ entry ∈ binaryOperators, entry.1 ∈ lineStarters → entry.1 ∈ breakless := by decide +kernel
      intro broken starter
      simp only [Bool.and_eq_true, Bool.not_eq_true', List.contains_eq_mem, decide_eq_false_iff_not] at broken
      exact broken.2 (table _ (mem_binaryOperators found) starter)
    rw [Node.binding?, found]
    exact climbs_binary found continues (climbs_encloseIf _ (first _)) (climbs_encloseIf _ (second _))
      (encloses_eq_false found) (encloses_eq_false found)
  | @unary op operand line known _ ih =>
    have inner := climbs_encloseIf operand.binding?.isSome (ih (layout.operand true))
    have plain : (if operand.binding?.isSome then none else operand.binding?) = none := by
      cases operand.binding? <;> rfl
    rw [plain] at inner
    exact climbs_unary known _ inner

/-- A tree of operators is read back from its text, up to line numbers when lines are broken in it. -/
theorem parse_formula [Host] {node : Node} (operation : Operation node) (layout : Layout) :
    ∃ read : Node, read.onLine 1 = node.onLine 1 ∧ (layout.Flat → read = node.onLine 1) ∧
      (∀ depth, (node.passage layout).depth ≤ depth →
        (Token.scan (node.formula layout)).bind (program depth) = .ok [read]) ∧
      ((node.passage layout).depth ≤ Host.expressionNesting → parse (node.formula layout) = .ok [read]) := by
  have climbs := operation.climbs layout
  have scanned : Token.scan (node.formula layout) = .ok ((node.passage layout).tokens 1 .none) :=
    (operation.writes layout).scan_written
  have whole : ∀ depth, (node.passage layout).depth ≤ depth →
      (Token.scan (node.formula layout)).bind (program depth) = .ok [(node.passage layout).node 1] := by
    intro depth fits
    have closed : Closed [] := by simp [Closed]
    have read : expression depth 0 false ((node.passage layout).tokens 1 .none ++ []) =
        .ok ((node.passage layout).node 1, []) := by
      refine climbs.expression fits (fun root found => ?_) closed.detached (closed.weak 0)
      obtain ⟨op, known⟩ := climbs.known root found
      exact ⟨power_pos known, closed.weak _⟩
    rw [scanned]
    exact program_single (climbs.opened 1 .none) read
  exact ⟨_, operation.onLine_node layout 1, fun flat => (operation.node_flat flat 1).1, whole, whole Host.expressionNesting⟩

attribute [local instance] Host.ordinary in
theorem parse_formula_pipe : ∃ read : Node,
    read.onLine 1 = .binary "|>" (.binary "-" (.var "a" 1) (.binary "-" (.var "b" 1) (.var "c" 1) 1) 1)
      (.unary "not" (.var "d" 1) 1) 1 ∧ parse "a - (b - c)\n|> not d" = .ok [read] := by
  have operation : Operation (.binary "|>"
      (.binary "-" (.var "a" 1) (.binary "-" (.var "b" 1) (.var "c" 1) 1) 1) (.unary "not" (.var "d" 1) 1) 1) := by
    refine .binary (by decide) (.binary (by decide) (.var (by decide)) ?_) (.unary (by decide) (.var (by decide)))
    exact .binary (by decide) (.var (by decide)) (.var (by decide))
  obtain ⟨read, same, -, -, parsed⟩ :=
    parse_formula operation ⟨fun place => place.isEmpty, fun _ => false, fun _ => false⟩
  exact ⟨read, same, parsed (by decide)⟩

end BoundaryLint.Grammar
