import BoundaryLint.Host.Ordinary
import BoundaryLint.Proofs.Grammar.Operand

/-!
Parentheses around the arguments of a call do not matter. Arguments without parentheses are found by the blanks around
them and read by a loop of their own, but they make the same call, and the same form where the name is special.
-/

namespace BoundaryLint.Grammar

namespace Phrase

/-- An argument whose expression stands in parentheses, behind a key or without one. -/
inductive ParenArgument : Phrase → Argument → Prop
  | plain {inner : Phrase} {node : Node} (fills : inner.Fills node) : ParenArgument inner.enclosed (.plain node)
  | keyed (key : String) {inner : Phrase} {node : Node} (fills : inner.Fills node) :
    ParenArgument (keyed key inner.enclosed) (.keyword (.pair (.atom key 1) node 1))

theorem ParenArgument.offers {phrase : Phrase} {item : Argument} (argued : ParenArgument phrase item) :
    phrase.Offers item := by
  cases argued with
  | plain fills => exact fills.stands.offers
  | keyed key fills => exact fills.stands.keyed key

/-- A call is read as the same node whether its arguments stand in parentheses or not. -/
theorem parses_call [Host] (callee : Callee) {ι : Type} {items : List ι} {phrase : ι → Phrase} {value : ι → Argument}
    (nonempty : items ≠ []) (argued : ∀ i ∈ items, ParenArgument (phrase i) (value i)) {block : Option Phrase}
    {nodes more : List Node} (ends : Ends block nodes more) :
    (bareCall callee (items.map phrase) block).Parses (callee.node (gatherKeywords (items.map value)) nodes more) ∧
      (parenCall callee (items.map phrase) block).Parses
        (callee.node (gatherKeywords (items.map value)) nodes more) := by
  have offers := fun i member => (argued i member).offers
  constructor
  · refine parses_of_expression (callee.opened false _) fun fits => ?_
    exact expression_bareCall offers (fun none => absurd none nonempty) ends fits (fun _ => rfl) ended_nil rfl 0 false
  · refine parses_of_expression (callee.opened false _) fun fits => ?_
    exact expression_parenCall (fun i member => (offers i member).argues) ends fits (fun _ => rfl) ended_nil.toLoose rfl 0
      false

section Transaction

def ledgerRun : Callee := ⟨some (.alias ⟨["Ledger"], by simp, by decide⟩), "run"⟩

def cartName : Phrase := ⟨fun space => [identifier "cart" space, mark ")" false], 2⟩

def sumOperation : Phrase :=
  ⟨fun space => [identifier "a" space, symbol "+" true, identifier "b" true, mark ")" false], 3⟩

def sumNode : Node := .binary "+" (.var "a" 1) (.var "b" 1) 1

def runArguments : List (Phrase × Argument) :=
  [(cartName.enclosed, .plain (.var "cart" 1)), (keyed "sum" sumOperation.enclosed, .keyword (.pair (.atom "sum" 1) sumNode 1))]

def runBlock : Phrase :=
  ⟨fun space => [keyword "do" space, identifier "cart" true, keyword "else" true, identifier "a" true, symbol "+" true,
    identifier "b" true, keyword "end" true], 3⟩

attribute [local instance] Host.ordinary in
theorem parses_call_run :
    parse "Ledger.run (cart), sum: (a + b) do cart else a + b end" =
        .ok [.call (some (.alias ⟨["Ledger"], by simp, by decide⟩ 1)) "run"
          [.var "cart" 1, .list [.pair (.atom "sum" 1) sumNode 1] 1] [.var "cart" 1] [sumNode] 1] ∧
      parse "Ledger.run((cart), sum: (a + b)) do cart else a + b end" =
        .ok [.call (some (.alias ⟨["Ledger"], by simp, by decide⟩ 1)) "run"
          [.var "cart" 1, .list [.pair (.atom "sum" 1) sumNode 1] 1] [.var "cart" 1] [sumNode] 1] := by
  have cart : cartName.Fills (.var "cart" 1) := by cbv
  have sum : sumOperation.Fills sumNode := by cbv
  have block : runBlock.Blocks [.var "cart" 1] [sumNode] := by cbv
  have argued : ∀ arg ∈ runArguments, ParenArgument arg.1 arg.2 := by
    simp only [runArguments, List.forall_mem_cons]
    exact ⟨.plain cart, .keyed "sum" sum, by simp⟩
  obtain ⟨bare, enclosed⟩ := parses_call ledgerRun (List.cons_ne_nil _ _) argued (.block block)
  exact ⟨bare.parse (by decide +kernel) (by decide), enclosed.parse (by decide +kernel) (by decide)⟩

end Transaction

end Phrase

end BoundaryLint.Grammar
