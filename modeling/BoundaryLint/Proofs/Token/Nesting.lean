import BoundaryLint.Token.Basic

/-!
Brackets and blocks in rows of tokens. A row is balanced when every bracket and block in it is closed by its own
end, the inner ones before the outer ones, and sections stand directly inside blocks. Reserved words and symbols
right behind a point are names and count for nothing.
-/

namespace BoundaryLint.Token

inductive Bracket where
  | round
  | square
  | curly
  | angle
  /-- From `do` to `end`. -/
  | block
  /-- From `fn` to `end`. -/
  | function
deriving DecidableEq, Repr

inductive Effect where
  | opens (bracket : Bracket)
  | closes (brackets : List Bracket)
  | divides
  | none
deriving DecidableEq, Repr

def effects : Kind → List (String × Effect)
  | .punctuation =>
    [("(", .opens .round), (")", .closes [.round]), ("[", .opens .square), ("]", .closes [.square]),
      ("\x7b", .opens .curly), ("\x7d", .closes [.curly])]
  | .operator => [("<<", .opens .angle), (">>", .closes [.angle])]
  | .keyword =>
    [("do", .opens .block), ("fn", .opens .function), ("end", .closes [.block, .function]), ("else", .divides),
      ("rescue", .divides), ("catch", .divides), ("after", .divides)]
  | _ => []

def effect (token : Token) : Effect := ((effects token.kind).lookup token.text).getD .none

/-- The open brackets after a token, innermost first. There are none if the token closes what is not open or
divides what is no block. -/
def nestStep (stack : List Bracket) (token : Token) : Option (List Bracket) :=
  match token.effect, stack with
  | .opens bracket, stack => some (bracket :: stack)
  | .closes brackets, bracket :: stack => if bracket ∈ brackets then some stack else Option.none
  | .closes _, [] => Option.none
  | .divides, .block :: stack => some (.block :: stack)
  | .divides, _ => Option.none
  | .none, stack => some stack

def nest (stack : List Bracket) (tokens : List Token) : Option (List Bracket) := tokens.foldlM nestStep stack

def isPoint (token : Token) : Bool := token.is .operator "."

/-- A word or symbol that is a name right behind a point. -/
def isReserved (token : Token) : Bool := token.kind == .keyword || token.kind == .operator

/-- The tokens without the reserved ones that stand right behind a point; `named` tells whether one stands before
the first token. -/
def withoutNames (named : Bool) : List Token → List Token
  | [] => []
  | token :: rest =>
    if named && token.isReserved then withoutNames token.isPoint rest
    else token :: withoutNames token.isPoint rest

def Balanced (tokens : List Token) : Prop := nest [] (withoutNames false tokens) = some []

instance (tokens : List Token) : Decidable (Balanced tokens) :=
  inferInstanceAs (Decidable (nest [] (withoutNames false tokens) = some []))

def endsInPoint (named : Bool) : List Token → Bool
  | [] => named
  | token :: rest => endsInPoint token.isPoint rest

theorem withoutNames_append (named : Bool) (first second : List Token) :
    withoutNames named (first ++ second) =
      withoutNames named first ++ withoutNames (endsInPoint named first) second := by
  induction first generalizing named with
  | nil => rfl
  | cons token first ih =>
    simp only [List.cons_append, withoutNames, endsInPoint, ih]
    split
    · rfl
    · rfl

theorem endsInPoint_append (named : Bool) (first second : List Token) :
    endsInPoint named (first ++ second) = endsInPoint (endsInPoint named first) second := by
  induction first generalizing named with
  | nil => rfl
  | cons token first ih => exact ih token.isPoint

theorem nest_append (stack : List Bracket) (first second : List Token) :
    nest stack (first ++ second) = (nest stack first).bind fun middle => nest middle second :=
  List.foldlM_append

/-- The tokens turn the open brackets `before` them into those `after` them, and no point stands last. -/
structure Turns (before after : List Bracket) (tokens : List Token) : Prop where
  nests : nest before (withoutNames false tokens) = some after
  ends : endsInPoint false tokens = false

section Turns

variable {before middle after stack : List Bracket} {first second : List Token} {token dot : Token}

attribute [local simp] nestStep

theorem Turns.nil : Turns stack stack [] := ⟨rfl, rfl⟩

theorem Turns.append (left : Turns before middle first) (right : Turns middle after second) :
    Turns before after (first ++ second) where
  nests := by
    rw [withoutNames_append, left.ends, nest_append, left.nests]
    exact right.nests
  ends := by rw [endsInPoint_append, left.ends, right.ends]

theorem Turns.single (step : nestStep before token = some after) (last : token.isPoint = false) :
    Turns before after [token] where
  nests := by
    simp only [withoutNames, Bool.false_and, Bool.false_eq_true, if_false, nest, List.foldlM_cons, step]
    rfl
  ends := last

theorem effect_of_isPoint (point : token.isPoint = true) : token.effect = .none := by
  simp only [isPoint, is, Bool.and_eq_true, beq_iff_eq] at point
  rw [effect, point.1, point.2]
  rfl

theorem isPoint_of_effect (acts : token.effect ≠ .none) : token.isPoint = false := by
  apply Bool.eq_false_iff.mpr
  intro point
  exact acts (effect_of_isPoint point)

theorem turns_opens {bracket : Bracket} (acts : token.effect = .opens bracket) :
    Turns stack (bracket :: stack) [token] :=
  .single (by simp [acts]) (isPoint_of_effect (by simp [acts]))

theorem turns_closes {bracket : Bracket} {brackets : List Bracket} (acts : token.effect = .closes brackets)
    (mem : bracket ∈ brackets) : Turns (bracket :: stack) stack [token] :=
  .single (by simp [acts, mem]) (isPoint_of_effect (by simp [acts]))

theorem turns_divides (acts : token.effect = .divides) : Turns (.block :: stack) (.block :: stack) [token] :=
  .single (by simp [acts]) (isPoint_of_effect (by simp [acts]))

theorem turns_none (acts : token.effect = .none) (last : token.isPoint = false) : Turns stack stack [token] :=
  .single (by simp [acts]) last

/-- A reserved token behind a point is a name. -/
theorem turns_name (point : dot.isPoint = true) (reserved : token.isReserved = true) (last : token.isPoint = false) :
    Turns stack stack [dot, token] where
  nests := by simp [withoutNames, point, reserved, nest, effect_of_isPoint point]
  ends := last

theorem Turns.cons_point (point : dot.isPoint = true) (free : token.isReserved = false)
    (turns : Turns before after (token :: first)) : Turns before after (dot :: token :: first) where
  nests := by
    have same := turns.nests
    simp only [withoutNames, point, free, Bool.and_false, Bool.false_and, Bool.false_eq_true, if_false] at same ⊢
    have kept : nestStep before dot = some before := by simp [effect_of_isPoint point]
    rw [nest, List.foldlM_cons, kept]
    exact same
  ends := turns.ends

theorem turns_word (mark : token.kind ≠ .punctuation) (free : token.isReserved = false) :
    Turns stack stack [token] := by
  obtain ⟨kind, text, line, space, newline⟩ := token
  cases kind with
  | punctuation => exact absurd rfl mark
  | keyword => cases free
  | operator => cases free
  | _ => exact turns_none rfl rfl

theorem turns_operator (kind : token.kind = .operator) (other : token.text ∉ ["<<", ">>", "."]) :
    Turns stack stack [token] := by
  simp only [List.mem_cons, List.not_mem_nil, or_false, not_or] at other
  apply turns_none
  · have opens := beq_false_of_ne other.1
    have closes := beq_false_of_ne other.2.1
    simp [effect, kind, effects, List.lookup_cons, opens, closes]
  · simp [isPoint, is, other]

end Turns

end BoundaryLint.Token
