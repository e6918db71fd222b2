import BoundaryLint.Host.Ordinary
import BoundaryLint.Proofs.Grammar.Moving
import BoundaryLint.Proofs.Token.Layout
import Mathlib

/-!
Layout does not change what a source text means. Gaps may be replaced by others of which the tokens tell the same, and
comments be added, changed or left out: the text is read as the same tree on other lines, or refused for the same cause.
-/

namespace BoundaryLint.Grammar

/-- Both readings give the same tree up to lines, or both fail for the same cause. -/
def SameReading (first second : Except Source.Fault (List Node)) : Prop :=
  (∃ nodes others, first = .ok nodes ∧ second = .ok others ∧ Node.listOnLine 1 others = Node.listOnLine 1 nodes) ∨
    ∃ cause here there, first = .error (.at cause here) ∧ second = .error (.at cause there)

theorem sameReading_program {tokens others : List Token} (depth : Nat)
    (same : others.map (Token.onLine 1) = tokens.map (Token.onLine 1)) :
    SameReading (program depth tokens) (program depth others) := by
  have equal := program_eq_of_lines depth same
  cases first : program depth tokens with
  | ok nodes =>
    cases second : program depth others with
    | ok trees =>
      rw [first, second] at equal
      exact .inl ⟨nodes, trees, rfl, rfl, Except.ok.inj equal⟩
    | error fault =>
      rw [first, second] at equal
      cases equal
  | error fault =>
    cases second : program depth others with
    | ok trees =>
      rw [first, second] at equal
      cases equal
    | error other =>
      rw [first, second] at equal
      obtain ⟨cause, here, rfl⟩ := fault_of_program first
      obtain ⟨reason, there, rfl⟩ := fault_of_program second
      cases equal
      exact .inr ⟨cause, here, there, rfl, rfl⟩

/-- A source text without carriage returns that is scanned splits into the texts of its tokens and gaps, of which the
tokens tell whether they are empty and whether they break the line. With other gaps of which the tokens tell the same,
it has the same tokens but for their lines, and it is read as the same tree or refused for the same cause. -/
theorem parse_relaid [Host] {source : String} {tokens : List Token} (plain : '\r' ∉ source.toList)
    (scanned : Token.scan source = .ok tokens) :
    ∃ split, Token.splitFrom 1 source.toList = .ok split ∧ split.pieces.map Token.Piece.token = tokens ∧
      split.chars = source.toList ∧
      (∀ piece ∈ split.pieces, piece.text ≠ [] ∧ (∃ gap, piece.gap = Token.gapChars gap) ∧
        ∀ gap, piece.gap = Token.gapChars gap → Token.Tells piece.token gap) ∧
      (∃ ending : Token.Ending, split.last = ending.chars) ∧
      ∀ ending gaps, Token.Fits split.last ending False split.pieces gaps →
        (∃ others, Token.scan (String.ofList (Token.relaid ending split.pieces gaps)) = .ok others ∧
          others.map (Token.onLine 1) = tokens.map (Token.onLine 1)) ∧
        SameReading (parse source) (parse (String.ofList (Token.relaid ending split.pieces gaps))) := by
  obtain ⟨split, found, kept⟩ := Token.split_of_scan plain scanned
  have laid := Token.laid_splitFrom found
  refine ⟨split, found, kept, laid.chars_eq.symm, laid.told, laid.ends, fun ending gaps fits => ?_⟩
  obtain ⟨others, again, same⟩ := Token.scan_relaid plain found fits
  rw [kept] at same
  refine ⟨⟨others, again, same⟩, ?_⟩
  rw [parse, parse, scanned, again]
  exact sameReading_program Host.expressionNesting same

attribute [local instance] Host.ordinary in
theorem parse_relaid_call :
    '\r' ∉ "f k: 1\ng # end".toList ∧
      Token.scan "f k: 1\ng # end" = .ok [⟨.identifier, "f", 1, false, false⟩, ⟨.key, "k", 1, true, false⟩,
        ⟨.integer, "1", 1, true, false⟩, ⟨.identifier, "g", 2, true, true⟩] ∧
      SameReading (parse "f k: 1\ng # end") (parse "f\\\n\x0bk:\t1 # one\r\n\ng\t") := by
  have plain : '\r' ∉ "f k: 1\ng # end".toList := by decide
  have scanned : Token.scan "f k: 1\ng # end" = .ok [⟨.identifier, "f", 1, false, false⟩, ⟨.key, "k", 1, true, false⟩,
      ⟨.integer, "1", 1, true, false⟩, ⟨.identifier, "g", 2, true, true⟩] := by decide +kernel
  have pieces : Token.splitFrom 1 "f k: 1\ng # end".toList = .ok ⟨[
      ⟨[], ['f'], ⟨.identifier, "f", 1, false, false⟩⟩, ⟨[' '], ['k', ':'], ⟨.key, "k", 1, true, false⟩⟩,
      ⟨[' '], ['1'], ⟨.integer, "1", 1, true, false⟩⟩, ⟨['\n'], ['g'], ⟨.identifier, "g", 2, true, true⟩⟩],
      [' ', '#', ' ', 'e', 'n', 'd']⟩ := by cbv
  obtain ⟨split, found, -, -, -, -, same⟩ := parse_relaid plain scanned
  obtain rfl := Except.ok.inj (pieces.symm.trans found)
  refine ⟨plain, scanned, (same ⟨[.blank '\t' rfl], none⟩ [[], [.continuation, .blank '\x0b' rfl], [.blank '\t' rfl],
    [.blank ' ' rfl, .comment [' ', 'o', 'n', 'e', '\r'] (by decide), .lineFeed]] ?_).2⟩
  simp [Token.Fits, Token.Tells, Token.AfterKey, Token.Ending.chars, Token.gapChars, Token.Filler.chars,
    Token.Filler.breaksLine]

end BoundaryLint.Grammar
