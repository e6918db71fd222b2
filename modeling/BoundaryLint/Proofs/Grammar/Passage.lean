import BoundaryLint.Proofs.Grammar.PhraseWriting
import BoundaryLint.Proofs.Tree.Line

/-!
Writing trees of operators with parentheses only where the table of operators demands them, and with
line breaks instead of blanks around binary operators where a layout asks for them. What is written
is scanned back.
-/

namespace BoundaryLint.Grammar

/-- The tokens of a tree from a line on, with the gap before the first of them; the line of the last
one; the tree with the lines of its tokens; and how deep the readers nest that read it. -/
structure Passage where
  tokens : Nat → Token.Gap → List Token
  last : Nat → Nat
  node : Nat → Node
  depth : Nat

namespace Passage

@[simps] def token (kind : Token.Kind) (text : String) (line : Nat) (gap : Token.Gap) : Token :=
  ⟨kind, text, line, gap.space, gap.newline⟩

@[simps] def gapOf (broken : Bool) : Token.Gap := ⟨true, broken⟩

def lineAfter (broken : Bool) (line : Nat) : Nat := if broken then line + 1 else line

def name (text : String) : Passage where
  tokens line gap := [token .identifier text line gap]
  last line := line
  node line := .var text line
  depth := 1

def enclosed (passage : Passage) : Passage where
  tokens line gap := token .punctuation "(" line gap ::
    (passage.tokens line .none ++ [token .punctuation ")" (passage.last line) .none])
  last := passage.last
  node := passage.node
  depth := passage.depth + 1

def operator (op : String) (line : Nat) (gap : Token.Gap) : List Token :=
  if op = "not in" then [token .operator "not" line gap, token .operator "in" line (gapOf false)]
  else [token .operator op line gap]

/-- Two operands; `before` and `after` tell on which sides of the operator the line is broken. -/
def binary (op : String) (before after : Bool) (left right : Passage) : Passage where
  tokens line gap := left.tokens line gap ++
    (operator op (lineAfter before (left.last line)) (gapOf before) ++
      right.tokens (lineAfter after (lineAfter before (left.last line))) (gapOf after))
  last line := right.last (lineAfter after (lineAfter before (left.last line)))
  node line := .binary op (left.node line)
    (right.node (lineAfter after (lineAfter before (left.last line)))) line
  depth := max left.depth (right.depth + 1)

def unary (op : String) (tight : Bool) (operand : Passage) : Passage where
  tokens line gap := token .operator op line gap :: operand.tokens line ⟨!tight, false⟩
  last := operand.last
  node line := .unary op (operand.node line) line
  depth := operand.depth + 1

def encloseIf (wrap : Bool) (passage : Passage) : Passage := if wrap then passage.enclosed else passage

end Passage

/-- What may be chosen for the operator at each place of a tree. A place is given by the sides on
which the operands that lead to it stand. -/
structure Layout where
  before : List Bool → Bool
  after : List Bool → Bool
  /-- No blank after the prefix operator. -/
  tight : List Bool → Bool

def Layout.operand (layout : Layout) (right : Bool) : Layout where
  before place := layout.before (right :: place)
  after place := layout.after (right :: place)
  tight place := layout.tight (right :: place)

def Layout.Flat (layout : Layout) : Prop := ∀ place, layout.before place = false ∧ layout.after place = false

/-- An operand on one side that binds so needs parentheses: it binds more weakly, or as strongly on
the side to which the operator does not group. -/
def Binding.encloses (outer : Binding) (right : Bool) (inner : Binding) : Bool :=
  inner.power < outer.power || inner.power = outer.power && outer.rightAssociative != right

/-- The operators that cannot stand first on a line. -/
def breakless : List String := ["+", "-", ".."]

end BoundaryLint.Grammar

namespace BoundaryLint.Node

open Grammar

def binding? : Node → Option Binding
  | .binary op _ _ _ => Grammar.binding? op
  | _ => none

def isUnary : Node → Bool
  | .unary _ _ _ => true
  | _ => false

def needsParens (op : String) (right : Bool) (operand : Node) : Bool :=
  (Grammar.binding? op).any fun outer => operand.binding?.any (outer.encloses right)

def passage (layout : Layout) : Node → Passage
  | .var name _ => .name name
  | .binary op left right _ =>
    .binary op (layout.before [] && !breakless.contains op) (layout.after [])
      (.encloseIf (needsParens op false left) (passage (layout.operand false) left))
      (.encloseIf (needsParens op true right) (passage (layout.operand true) right))
  | .unary op operand _ =>
    .unary op (layout.tight [] && op ≠ "not" && !operand.isUnary)
      (.encloseIf operand.binding?.isSome (passage (layout.operand true) operand))
  | _ => .name ""

def formula (layout : Layout) (node : Node) : String :=
  String.ofList (Token.written ((node.passage layout).tokens 1 .none))

end BoundaryLint.Node

namespace BoundaryLint.Grammar

inductive Operation : Node → Prop
  | var {name : String} {line : Nat} (known : isIdentifier name = true) : Operation (.var name line)
  | binary {op : String} {left right : Node} {line : Nat} (known : (binding? op).isSome = true)
      (first : Operation left) (second : Operation right) : Operation (.binary op left right line)
  | unary {op : String} {operand : Node} {line : Nat} (known : op ∈ prefixOperators)
      (inner : Operation operand) : Operation (.unary op operand line)

namespace Passage

open Token (Tidy Spaced)

/-- The passage is written apart from what stands before and behind it, and on its lines. -/
structure Writes (passage : Passage) : Prop where
  tidy : ∀ line gap, Tidy (passage.tokens line gap)
  starts : ∀ line gap, ∃ token rest, passage.tokens line gap = token :: rest ∧
    token.spaceBefore = gap.space ∧ token.newlineBefore = gap.newline
  lined : ∀ {before line gap rest}, line = lineAfter gap.newline before →
    (gap.newline = true → gap.space = true) → Token.Lined (passage.last line) rest →
    Token.Lined before (passage.tokens line gap ++ rest)
  unquoted : ∀ line gap, ∀ token ∈ passage.tokens line gap, token.kind ≠ .string ∧ token.kind ≠ .charlist

theorem Writes.spaced {passage : Passage} (writes : passage.Writes) {line : Nat} {gap : Token.Gap}
    (blank : gap.space = true) : Spaced (passage.tokens line gap) := by
  obtain ⟨token, rest, shape, space, -⟩ := writes.starts line gap
  rw [shape]
  simp [Spaced, space, blank]

theorem writes_name {text : String} (known : isIdentifier text = true) : (name text).Writes where
  tidy line gap := .singleton (Phrase.spelled_identifier known gap.space) (by simp)
  starts _ _ := ⟨_, _, rfl, rfl, rfl⟩
  lined here wide rest := ⟨by simpa [lineAfter] using here, wide, rest⟩
  unquoted := by simp [name]

theorem writes_enclosed {passage : Passage} (writes : passage.Writes) : passage.enclosed.Writes where
  tidy line gap := by
    have closed : Tidy [token .punctuation ")" (passage.last line) .none] :=
      .singleton ⟨')', by decide, rfl⟩ (by simp)
    exact ((writes.tidy line .none).append closed (by simp [Spaced])).cons_mark ⟨'(', by decide, rfl⟩ rfl
  starts _ _ := ⟨_, _, rfl, rfl, rfl⟩
  lined {before line gap rest} here wide later := by
    have closed : Token.Lined (passage.last line) (token .punctuation ")" (passage.last line) .none :: rest) :=
      ⟨rfl, by simp [Token.Gap.none], later⟩
    have inside : Token.Lined line
        (passage.tokens line .none ++ token .punctuation ")" (passage.last line) .none :: rest) :=
      writes.lined rfl (by simp [Token.Gap.none]) closed
    have whole : Token.Lined before (token .punctuation "(" line gap ::
        (passage.tokens line .none ++ token .punctuation ")" (passage.last line) .none :: rest)) :=
      ⟨by simpa [lineAfter] using here, wide, inside⟩
    simpa [enclosed] using whole
  unquoted line gap := by
    have inside := writes.unquoted line .none
    simpa [enclosed, or_imp, forall_and] using inside

section Operators

variable {op : String} {tokens : List Token} {line : Nat} {gap : Token.Gap}

theorem tidy_operator (known : (binding? op).isSome = true) (tidy : Tidy tokens) (spaced : Spaced tokens) :
    Tidy (operator op line gap ++ tokens) := by
  unfold operator
  split
  · have second : Tidy (token .operator "in" line (gapOf false) :: tokens) :=
      tidy.cons_spaced (.inr (by simp [Token.wordOperators])) (by simp) spaced
    exact second.cons_spaced (.inr (by simp [Token.wordOperators])) (by simp) (by simp [Spaced])
  · next single => exact tidy.cons_spaced (Phrase.operator_listed known single) (by simp) spaced

theorem lined_operator {before : Nat} (here : line = lineAfter gap.newline before)
    (wide : gap.newline = true → gap.space = true) (later : Token.Lined line tokens) :
    Token.Lined before (operator op line gap ++ tokens) := by
  unfold operator
  split
  · exact ⟨by simpa [lineAfter] using here, wide, rfl, by simp, later⟩
  · exact ⟨by simpa [lineAfter] using here, wide, later⟩

theorem writes_binary {before after : Bool} {left right : Passage} (known : (binding? op).isSome = true)
    (first : left.Writes) (second : right.Writes) : (binary op before after left right).Writes where
  tidy line gap := by
    refine (first.tidy line gap).append (tidy_operator known (second.tidy _ _) (second.spaced rfl)) ?_
    unfold operator
    split <;> simp [Spaced]
  starts line gap := by
    obtain ⟨token, rest, shape, gaps⟩ := first.starts line gap
    exact ⟨token, _, by simp [binary, shape]; rfl, gaps⟩
  lined {start line gap rest} here wide later := by
    have follow : Token.Lined (lineAfter before (left.last line))
        (right.tokens (lineAfter after (lineAfter before (left.last line))) (gapOf after) ++ rest) :=
      second.lined rfl (by simp) later
    have middle : Token.Lined (left.last line) (operator op (lineAfter before (left.last line)) (gapOf before) ++
        (right.tokens (lineAfter after (lineAfter before (left.last line))) (gapOf after) ++ rest)) :=
      lined_operator rfl (by simp) follow
    simpa [binary] using first.lined here wide middle
  unquoted line gap token member := by
    simp only [binary, List.mem_append] at member
    rcases member with early | middle | late
    · exact first.unquoted _ _ token early
    · unfold operator at middle
      split at middle
      · simp only [List.mem_cons, List.not_mem_nil, or_false] at middle
        rcases middle with rfl | rfl <;> simp
      · obtain rfl := List.mem_singleton.mp middle
        simp
    · exact second.unquoted _ _ token late

theorem writes_unary {tight : Bool} {passage : Passage} (listed : op ∈ prefixOperators)
    (writes : passage.Writes)
    (sticks : tight = true → op ≠ "not" ∧ ∀ line gap, ∀ token ∈ (passage.tokens line gap).head?,
      token.kind = .punctuation ∨ token.kind = .identifier) : (unary op tight passage).Writes where
  tidy line gap := by
    have spelled : op ∈ Token.operators ∨ op ∈ Token.wordOperators := by
      clear sticks
      revert listed op
      decide
    have tokens_tidy := writes.tidy line ⟨!tight, false⟩
    cases tight with
    | false => exact tokens_tidy.cons_spaced spelled (by simp) (writes.spaced rfl)
    | true =>
      obtain ⟨symbolic, bounded⟩ := sticks rfl
      have bare : op ∉ Token.wordOperators := by
        clear sticks spelled tokens_tidy bounded
        revert symbolic listed op
        decide
      refine tokens_tidy.cons spelled (by simp) fun head begins => ?_
      obtain ⟨token, rest, shape, space, newline⟩ := writes.starts line ⟨!true, false⟩
      have known := tokens_tidy.spelled head (List.mem_of_mem_head? begins)
      have kinds := bounded line _ head begins
      rw [shape] at begins
      obtain rfl : token = head := Option.some.inj begins
      rcases kinds with mark | word
      · exact Token.divided_of_punctuation_right spelled (by simp) mark known
      · exact Token.divided_of_name rfl bare (.inl word) known ⟨newline, space⟩
  starts _ _ := ⟨_, _, rfl, rfl, rfl⟩
  lined {before line gap rest} here wide later := by
    have follow : Token.Lined line (passage.tokens line ⟨!tight, false⟩ ++ rest) :=
      writes.lined rfl (by simp) later
    exact ⟨by simpa [lineAfter] using here, wide, follow⟩
  unquoted line gap := by
    have inside := writes.unquoted line ⟨!tight, false⟩
    simpa [unary] using inside

end Operators

theorem writes_encloseIf {passage : Passage} (wrap : Bool) (writes : passage.Writes) :
    (encloseIf wrap passage).Writes := by
  cases wrap
  · exact writes
  · exact writes_enclosed writes

theorem Writes.scan_written [Host] {passage : Passage} (writes : passage.Writes) :
    Token.scan (String.ofList (Token.written (passage.tokens 1 .none))) = .ok (passage.tokens 1 .none) := by
  have lined : Token.Lined 1 (passage.tokens 1 .none ++ []) :=
    writes.lined rfl (by simp [Token.Gap.none]) trivial
  rw [List.append_nil] at lined
  refine Token.scan_written (writes.tidy 1 .none) lined (.inl ?_)
  simp only [Token.written, List.mem_flatMap, List.mem_append, not_exists, not_and, not_or]
  intro token member
  constructor
  · unfold Token.gapBefore
    split
    · decide
    · split <;> decide
  · exact Token.not_mem_spelling ((writes.tidy 1 .none).spelled token member) (by decide)
      (.inr (writes.unquoted 1 .none token member))

end Passage

open Passage

/-- A prefix operator may stand right before a variable or parentheses. -/
theorem Operation.sticks {operand : Node} (operation : Operation operand) (plain : operand.isUnary = false)
    (layout : Layout) : ∀ line gap,
    ∀ token ∈ ((encloseIf operand.binding?.isSome (operand.passage layout)).tokens line gap).head?,
      token.kind = .punctuation ∨ token.kind = .identifier := by
  intro line gap token head
  cases operation with
  | var known =>
    obtain rfl := Option.some.inj head
    exact .inr rfl
  | binary known first second =>
    rw [Node.binding?, known] at head
    obtain rfl := Option.some.inj head
    exact .inl rfl
  | unary known inner => exact absurd plain (by simp [Node.isUnary])

/-- A tree of operators is scanned back from its text. -/
theorem Operation.writes {node : Node} (operation : Operation node) (layout : Layout) :
    (node.passage layout).Writes := by
  induction operation generalizing layout with
  | var known => exact writes_name known
  | binary known _ _ first second =>
    exact writes_binary known (writes_encloseIf _ (first _)) (writes_encloseIf _ (second _))
  | @unary op operand line known inner ih =>
    refine writes_unary known (writes_encloseIf _ (ih _)) fun tight => ?_
    simp only [Bool.and_eq_true, decide_eq_true_eq, Bool.not_eq_true'] at tight
    exact ⟨tight.1.2, inner.sticks tight.2 _⟩

theorem Passage.node_encloseIf (wrap : Bool) (passage : Passage) (line : Nat) :
    (encloseIf wrap passage).node line = passage.node line ∧
    (encloseIf wrap passage).last line = passage.last line := by
  cases wrap <;> exact ⟨rfl, rfl⟩

theorem Operation.onLine_node {node : Node} (operation : Operation node) (layout : Layout) (line : Nat) :
    ((node.passage layout).node line).onLine 1 = node.onLine 1 := by
  induction operation generalizing layout line with
  | var known => rfl
  | binary known _ _ first second =>
    simp only [Node.passage, Passage.binary, Node.onLine, node_encloseIf, first, second]
  | unary known _ ih => simp only [Node.passage, Passage.unary, Node.onLine, node_encloseIf, ih]

theorem Layout.Flat.operand {layout : Layout} (flat : layout.Flat) (right : Bool) : (layout.operand right).Flat :=
  fun place => flat (right :: place)

/-- Without line breaks the tree stays on its line. -/
theorem Operation.node_flat {node : Node} (operation : Operation node) {layout : Layout} (flat : layout.Flat)
    (line : Nat) : (node.passage layout).node line = node.onLine line ∧ (node.passage layout).last line = line := by
  induction operation generalizing layout with
  | var known => exact ⟨rfl, rfl⟩
  | binary known _ _ first second =>
    have left := first (flat.operand false)
    have right := second (flat.operand true)
    simp only [Node.passage, Passage.binary, Node.onLine, node_encloseIf, left, right, (flat []).1, (flat []).2,
      Bool.false_and, lineAfter, Bool.false_eq_true, if_false, and_self]
  | unary known _ ih =>
    have inner := ih (flat.operand true)
    simp only [Node.passage, Passage.unary, Node.onLine, node_encloseIf, inner, and_self]

end BoundaryLint.Grammar
