import BoundaryLint.Host.Ordinary
import BoundaryLint.Proofs.Grammar.PhraseWriting
import BoundaryLint.Proofs.Grammar.TreeReading

/-!
Reading undoes writing: the text of a printable tree is read as that tree on the first line,
whichever of its parts are put in parentheses beyond those that have to be.
-/

namespace BoundaryLint.Grammar

/-- A printable tree is read back from its text, at every depth that it needs at most. -/
theorem parse_text [Host] {node : Node} (printable : Printable .expression node) (style : Style) :
    (∀ depth, (node.phrase style).depth ≤ depth →
      (Token.scan (node.text style)).bind (program depth) = .ok [node.onLine 1]) ∧
    ((node.phrase style).depth ≤ Host.expressionNesting → parse (node.text style) = .ok [node.onLine 1]) := by
  have scanned : Token.scan (node.text style) = .ok ((node.phrase style).tokens false) :=
    ((printable.writes style).neat false).scan_written
  have read : (node.phrase style).Reads (node.onLine 1) := printable.readsAs style
  have whole : ∀ depth, (node.phrase style).depth ≤ depth →
      (Token.scan (node.text style)).bind (program depth) = .ok [node.onLine 1] := by
    intro depth fits
    have alone := read.reads fits false [] (by simp [Closed])
    rw [scanned]
    exact program_single (read.opened false) alone
  exact ⟨whole, whole Host.expressionNesting⟩

def cartModule : Node :=
  .moduleDecl (some ⟨["Shop", "Cart"], by decide, by decide⟩)
    [.definition .publicFunction "add" [.var "cart" 1]
      [.map [.pair (.atom "total" 1) (.binary "+" (.var "cart" 1) (.literal (.integer (1 : Nat)) 1) 1) 1]
        none none 1]
      (some (.binary "not in" (.var "cart" 1) (.list [] 1) 1)) 1] 1

attribute [local instance] Host.ordinary in
theorem parse_text_cartModule :
    parse "defmodule Shop.Cart do def add(cart) when ((cart) not in ([])) do %\x7btotal: (cart) + (1)\x7d end end" =
      .ok [cartModule] := by
  have cart : Printable .expression (.var "cart" 1) := .var (by decide)
  have printable : Printable .expression cartModule := by
    refine .moduleDecl rfl (List.forall_mem_singleton.mpr ?_)
    refine .definition (by decide) (by decide) (List.forall_mem_singleton.mpr cart) ?_
      (List.forall_mem_singleton.mpr (.map (List.forall_mem_singleton.mpr ?_) (by simp)))
    · rintro guard ⟨⟩
      exact .binary (by decide) cart (.list (by simp))
    · exact .entry (.atom (by decide)) (.binary (by decide) cart (.integer (by decide)))
  exact (parse_text printable ⟨fun _ => false, fun _ => false⟩).2 (by decide)

end BoundaryLint.Grammar
