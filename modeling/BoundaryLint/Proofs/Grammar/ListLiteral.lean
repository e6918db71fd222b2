import BoundaryLint.Proofs.Grammar.Exchange
import Mathlib

/-!
Literal lists. What a reader gives for some tokens does not depend on how deeply it may nest, and a literal list is
read alike wherever it stands. So two texts that differ in the list behind one key `deps` are read as trees that
differ at most in the entries of that list.
-/

namespace BoundaryLint.Grammar

open Node (Differs RowClose)
open Gap (Ahead)

section Depth

variable {gap : Option Gap} {off depth depth' floor : Nat} {outerDo : Bool} {tokens tokens' : List Token}

/-- Readers one level deeper go the same way, if those below them do. -/
theorem tracks_deeper (alike : Alike gap (expression depth) (expression depth'))
    (ahead : Ahead gap off tokens tokens') :
    Tracks gap (Differs (Gap.Swaps gap)) off (expression (depth + 1) floor outerDo tokens)
      (expression (depth' + 1) floor outerDo tokens') := by
  have single := ahead.single
  refine .bind (tracks_operand alike outerDo ahead) ?_
  intro left rest left' rest' here later most close following
  exact (tracks_operators alike floor outerDo close following (by omega)).mono most

theorem alike_expression
    (reads : ∀ found ∈ gap, ∀ depth outerDo result, expression depth 0 outerDo (found.written ++ found.back) = .ok result →
      result = (.list found.entries found.line, found.back))
    (reads' : ∀ found ∈ gap, ∀ depth outerDo result, expression depth 0 outerDo (found.written' ++ found.back) = .ok result →
      result = (.list found.entries' found.line, found.back)) (depth depth' : Nat) :
    Alike gap (expression depth) (expression depth') where
  tracks := by
    intro off floor outerDo tokens tokens' ahead
    induction depth generalizing depth' off floor outerDo tokens tokens' with
    | zero => exact .error_left
    | succ depth ih =>
      cases depth' with
      | zero => exact .error_right
      | succ depth' =>
        refine tracks_deeper ⟨ih depth', ?_, ?_, consumes_expression depth, consumes_expression depth'⟩ ahead
        · exact fun found mem => reads found mem depth
        · exact fun found mem => reads' found mem depth'
  reads := fun found mem => reads found mem depth
  reads' := fun found mem => reads' found mem depth'
  consumes := consumes_expression depth
  consumes' := consumes_expression depth'

theorem Tracks.agree {α : Type} {differ : α → α → Prop} {step step' : Reading (α × List Token)}
    {result result' : α × List Token} (tracks : Tracks none differ 0 step step') (made : step = .ok result)
    (made' : step' = .ok result') : result = result' := by
  obtain ⟨here, later, most, near, ahead⟩ := tracks _ _ _ _ made made'
  obtain ⟨rfl, rfl⟩ : here = 0 ∧ later = 0 := by omega
  exact Prod.ext near.eq_of_zero ahead.2.eq_of_zero

end Depth

section Literal

variable {expr : ExpressionReader} {floor line : Nat} {outerDo : Bool} {node : Node} {entries : List Node}
  {tokens back : List Token}

/-- Behind a point no list is read. -/
theorem afterDot_ne_list (made : afterDot expr outerDo node tokens = .ok (.list entries line, back)) : False := by
  obtain ⟨⟨token, rest⟩, -, made⟩ := bind_eq_ok.mp made
  dsimp only at made
  split at made
  · split at made
    · split at made
      · cases made
      · cases made
    · cases made
  · obtain ⟨⟨args, rest⟩, -, made⟩ := bind_eq_ok.mp made
    obtain ⟨⟨⟨block, more⟩, rest⟩, -, made⟩ := bind_eq_ok.mp made
    cases made
  · split at made
    · obtain ⟨⟨args, rest⟩, -, made⟩ := bind_eq_ok.mp made
      cases made
    split at made
    · obtain ⟨⟨items, rest⟩, -, made⟩ := bind_eq_ok.mp made
      cases made
    · cases made
  iterate 2
    · split at made
      · cases made
      · obtain ⟨⟨args, rest⟩, -, made⟩ := bind_eq_ok.mp made
        cases made
  · cases made

/-- Postfixes that end with a list are none; where they end does not depend on the reader. -/
theorem postfixes_list (made : postfixes expr outerDo node tokens = .ok (.list entries line, back)) :
    (.list entries line, back) = (node, tokens) ∧
      ∀ (reader : ExpressionReader) (within : Bool) (operand : Node), postfixes reader within operand back = .ok (operand, back) := by
  fun_induction postfixes expr outerDo node tokens with
  | case1 node =>
    cases made
    exact ⟨rfl, fun _ _ _ => by rw [postfixes]⟩
  | case2 node token rest dot ih =>
    obtain ⟨⟨called, after⟩, given, made⟩ := bind_eq_ok.mp made
    dsimp only at made
    split at made
    · next fewer =>
      obtain ⟨same, -⟩ := ih called after fewer made
      cases same
      exact (afterDot_ne_list given).elim
    · cases made
      exact (afterDot_ne_list given).elim
  | case3 node token rest noDot bracket ih =>
    obtain ⟨⟨index, after⟩, -, made⟩ := bind_eq_ok.mp made
    obtain ⟨closed, -, made⟩ := bind_eq_ok.mp made
    dsimp only at made
    split at made
    · next fewer =>
      obtain ⟨same, -⟩ := ih index closed fewer made
      cases same
    · cases made
  | case4 node token rest noDot noBracket =>
    cases made
    refine ⟨rfl, fun _ _ _ => ?_⟩
    rw [postfixes, if_neg noDot, if_neg noBracket]

/-- Operators that end with a list are none; where they end does not depend on the reader. -/
theorem operators_list (made : operators expr floor outerDo node tokens = .ok (.list entries line, back)) :
    (.list entries line, back) = (node, tokens) ∧
      ∀ (reader : ExpressionReader) (within : Bool) (operand : Node),
        operators reader floor within operand back = .ok (operand, back) := by
  fun_induction operators expr floor outerDo node tokens with
  | case1 node tokens none =>
    cases made
    exact ⟨rfl, fun _ _ _ => by rw [operators, none]⟩
  | case2 node tokens op binding rest found weak =>
    cases made
    refine ⟨rfl, fun _ _ _ => ?_⟩
    rw [operators, found]
    exact if_pos weak
  | case3 node tokens op binding rest found strong ih =>
    obtain ⟨⟨right, after⟩, -, made⟩ := bind_eq_ok.mp made
    dsimp only at made
    split at made
    · next fewer =>
      obtain ⟨same, -⟩ := ih right after fewer made
      cases same
    · cases made

/-- The bracket, what stands in it, and what may follow it. -/
theorem expression_of_bracket {depth : Nat} {opening : Token} {result : Node × List Token}
    (bracket : opening.is .punctuation "[" = true)
    (made : expression (depth + 1) floor outerDo (opening :: tokens) = .ok result) :
    ∃ items rest node after, bracketed (expression depth) "]" tokens = .ok (items, rest) ∧
      postfixes (expression depth) outerDo (.list (items.map Argument.node) opening.line) rest = .ok (node, after) ∧
      operators (expression depth) floor outerDo node after = .ok result := by
  simp only [Token.is, Bool.and_eq_true, beq_iff_eq] at bracket
  obtain ⟨kind, text⟩ := bracket
  obtain ⟨⟨node, after⟩, operand, made⟩ := bind_eq_ok.mp made
  obtain ⟨⟨token, rest⟩, taken, operand⟩ := bind_eq_ok.mp operand
  cases taken
  dsimp only at operand
  rw [if_neg (by simp [kind])] at operand
  obtain ⟨⟨list, rest⟩, given, postfixed⟩ := bind_eq_ok.mp operand
  simp only [primary, kind, group, text, String.reduceEq, if_false, if_true] at given
  obtain ⟨⟨items, rest⟩, closed, same⟩ := bind_eq_ok.mp given
  cases same
  exact ⟨items, rest, node, after, closed, postfixed, made⟩

/-- A literal list is read alike by every reader. -/
theorem IsList.reads (list : IsList tokens back entries line) (depth : Nat) (outerDo : Bool)
    {result : Node × List Token}
    (made : expression depth 0 outerDo (tokens ++ back) = .ok result) : result = (.list entries line, back) := by
  obtain ⟨bracket, depth', within, made'⟩ := list
  cases tokens with
  | nil => cases bracket
  | cons opening tokens =>
  cases depth with
  | zero => cases made
  | succ depth =>
  cases depth' with
  | zero => cases made'
  | succ depth' =>
  obtain ⟨items, rest, node, after, closed, passed, made⟩ := expression_of_bracket bracket made
  obtain ⟨items', rest', node', after', closed', passed', made'⟩ := expression_of_bracket bracket made'
  have alike : Alike none (expression depth) (expression depth') := alike_expression (by simp) (by simp) depth depth'
  cases (tracks_bracketed alike "]" (.refl (Nat.zero_le 1) _)).agree closed closed'
  -- The list ends where the first reader ended it.
  obtain ⟨same, still⟩ := operators_list made'
  cases same
  obtain ⟨same, stops⟩ := postfixes_list passed'
  cases same
  rw [stops] at passed
  cases passed
  rw [still] at made
  cases made
  rfl

end Literal

/-- Texts that differ in the list behind a key are read as trees that differ at most in its entries. -/
theorem program_rowClose (gap : Gap) {depth : Nat} {front : List Token} {nodes nodes' : List Node}
    (read : program depth (front ++ gap.tokens) = .ok nodes)
    (read' : program depth (front ++ gap.tokens') = .ok nodes') :
    RowClose (Gap.Swaps (some gap)) 1 nodes nodes' := by
  have alike : Alike (some gap) (expression depth) (expression depth) := by
    apply alike_expression
    · rintro found ⟨⟩ depth outerDo result made
      exact gap.isList.reads depth outerDo made
    · rintro found ⟨⟩ depth outerDo result made
      exact gap.isList'.reads depth outerDo made
  have ahead : Ahead (some gap) 1 (front ++ gap.tokens) (front ++ gap.tokens') :=
    ⟨Nat.le_refl 1, .of_differ ⟨gap, rfl, front, rfl, rfl⟩⟩
  obtain ⟨here, later, most, close, -⟩ :=
    tracks_body alike [] ahead _ _ _ _ (body_of_program read) (body_of_program read')
  exact close.mono (by omega)

end BoundaryLint.Grammar
