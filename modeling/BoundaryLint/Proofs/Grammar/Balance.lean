import BoundaryLint.Host.Ordinary
import BoundaryLint.Proofs.Grammar.Passing
import Mathlib

/-!
Only balanced texts are read. The reader of a whole text stops at no token, so all tokens are taken, and what
was taken closes all that it opens.
-/

namespace BoundaryLint.Grammar

open Token (Bracket)

section Whole

variable {α : Type} {left : α → List Token} {before after : List Bracket} {tokens : List Token}

theorem Passes.length_le {step : Reading α} (passes : Passes before after left tokens step) :
    Outcome (fun result => (left result).length ≤ tokens.length) (fun _ => True) step := by
  cases step with
  | error fault => trivial
  | ok result =>
    obtain ⟨taken, rfl, -⟩ := passes
    simp [Outcome]

theorem Consumes.length_lt {step : Reading α} (consumes : Consumes before after left tokens step) :
    Outcome (fun result => (left result).length < tokens.length) (fun _ => True) step := by
  cases step with
  | error fault => trivial
  | ok result =>
    obtain ⟨token, taken, rfl, -⟩ := consumes
    simp only [Outcome, List.length_append, List.length_cons]
    omega

theorem bodyItems_stops {expr : ExpressionReader}
    (consumes : ∀ stack floor outerDo tokens, Consumes stack stack Prod.snd tokens (expr floor outerDo tokens))
    (ends : List String) (state : BodyState) (tokens : List Token) :
    Outcome (fun result => ∀ token ∈ result.2.head?, endsBody ends token = true) (fun _ => True)
      (bodyItems expr ends state tokens) := by
  have shorter : ∀ tokens, Outcome (fun result => result.2.length < tokens.length) (fun _ => True) (expr 0 false tokens) :=
    fun tokens => (consumes [] 0 false tokens).length_lt
  have arrow : ∀ tokens, Consumes [] [] id tokens (expect .operator "->" tokens) :=
    consumes_expect fun _ found => turns_symbol (by decide) found
  have params : ∀ tokens, Passes [] [] Prod.snd tokens (moreParams expr tokens) := passes_moreParams consumes
  fun_induction bodyItems expr ends state tokens with
  | case1 => simp [Outcome]
  | case2 state token rest done =>
    rintro first ⟨⟩
    exact done
  | case3 state token rest _ _ ih => exact ih
  | case4 state token rest _ _ _ ih =>
    exact Outcome.bind (.any _) fun _ _ => Outcome.bind ih fun result stops => stops
  | case5 state token rest _ _ _ clauses statements =>
    refine Outcome.bind (shorter (token :: rest)) ?_
    rintro ⟨node, after⟩ less
    have fewer : after.length < rest.length + 1 := less
    dsimp only
    split
    · refine Outcome.bind (params after).length_le ?_
      rintro ⟨params, following⟩ most
      have within : following.length ≤ after.length := most
      refine Outcome.bind (arrow following).length_lt ?_
      intro final least
      have last : final.length < following.length := least
      refine Outcome.bind (.any _) ?_
      intro _ _
      dsimp only
      rw [if_pos (by omega)]
      exact Outcome.bind (clauses final (by omega)) fun result stops => stops
    · refine Outcome.bind (.any _) ?_
      intro _ _
      exact Outcome.bind (statements after fewer) fun result stops => stops

theorem body_of_program {depth : Nat} {nodes : List Node} (read : program depth tokens = .ok nodes) :
    body (expression depth) [] tokens = .ok (nodes, []) := by
  unfold program at read
  split at read
  · next found rest given =>
    cases read
    obtain ⟨⟨items, rest⟩, itemized, same⟩ := bind_eq_ok.mp given
    cases same
    have stops := bodyItems_stops (consumes_expression depth) [] .empty tokens
    rw [itemized] at stops
    cases rest with
    | nil => exact given
    | cons token rest => exact absurd (stops token rfl) (by simp [endsBody])
  · cases read

/-- Only balanced tokens are read, and all of them; a text with other tokens is refused. -/
theorem balanced_of_program [Host] (tokens : List Token) :
    (∀ depth nodes, program depth tokens = .ok nodes →
      Token.Balanced tokens ∧ body (expression depth) [] tokens = .ok (nodes, [])) ∧
    (¬Token.Balanced tokens → ∀ source, Token.scan source = .ok tokens →
      ∃ cause line, parse source = .error (.at cause line)) := by
  have balanced : ∀ depth nodes, program depth tokens = .ok nodes → Token.Balanced tokens := by
    intro depth nodes read
    have passed : Passes [] [] Prod.snd tokens (body (expression depth) [] tokens) :=
      passes_body (consumes_expression depth) [] tokens
    rw [body_of_program read] at passed
    obtain ⟨taken, split, turns⟩ := passed
    rw [List.append_nil] at split
    rw [split]
    exact turns.nests
  refine ⟨fun depth nodes read => ⟨balanced depth nodes read, body_of_program read⟩, ?_⟩
  intro unbalanced source scanned
  have parsed : parse source = program Host.expressionNesting tokens := by
    rw [parse, scanned]
    rfl
  cases outcome : program Host.expressionNesting tokens with
  | ok nodes => exact absurd (balanced Host.expressionNesting nodes outcome) unbalanced
  | error fault =>
    obtain ⟨cause, line, rfl⟩ := fault_of_program outcome
    exact ⟨cause, line, parsed.trans outcome⟩

def sectioned : List Token :=
  [⟨.identifier, "if", 1, false, false⟩, ⟨.identifier, "a", 1, true, false⟩, ⟨.operator, ".", 1, false, false⟩,
    ⟨.keyword, "end", 1, false, false⟩, ⟨.keyword, "do", 1, true, false⟩, ⟨.punctuation, "[", 1, true, false⟩,
    ⟨.identifier, "b", 1, false, false⟩, ⟨.punctuation, "]", 1, false, false⟩, ⟨.keyword, "else", 1, true, false⟩,
    ⟨.identifier, "c", 1, true, false⟩, ⟨.keyword, "end", 1, true, false⟩]

def crossed : List Token :=
  [⟨.punctuation, "(", 1, false, false⟩, ⟨.punctuation, "[", 1, false, false⟩, ⟨.punctuation, ")", 1, false, false⟩,
    ⟨.punctuation, "]", 1, false, false⟩]

attribute [local instance] Host.ordinary in
/-- Behind a point `end` is a name and closes nothing; a bracket that crosses another one is refused. -/
theorem balanced_of_program_sectioned :
    (∃ nodes, program Host.expressionNesting sectioned = .ok nodes ∧ Token.Balanced sectioned ∧
      body (expression Host.expressionNesting) [] sectioned = .ok (nodes, [])) ∧
    (Token.scan "([)]" = .ok crossed ∧ ¬Token.Balanced crossed ∧
      ∃ cause line, parse "([)]" = .error (.at cause line)) := by
  constructor
  · have read : program Host.expressionNesting sectioned = .ok [.call none "if" [.call (some (.var "a" 1)) "end" [] [] [] 1]
        [.list [.var "b" 1] 1] [.var "c" 1] 1] := by cbv
    exact ⟨_, read, (balanced_of_program sectioned).1 _ _ read⟩
  · have scanned : Token.scan "([)]" = .ok crossed := by decide +kernel
    have unbalanced : ¬Token.Balanced crossed := by decide
    exact ⟨scanned, unbalanced, (balanced_of_program crossed).2 unbalanced _ scanned⟩

end Whole

end BoundaryLint.Grammar
