import BoundaryLint.Grammar.Program

/-!
What the readers do in one step on tokens of a known shape. A reader of a row or of a body goes on
as long as its parts are read, so each of them has a lemma for one part and one for the whole row.
-/

namespace BoundaryLint.Grammar

def begins (token : Token) : Bool :=
  match token.kind with
  | .punctuation => ["(", "[", "\x7b"].contains token.text
  | .keyword => token.text = "fn"
  | .operator => token.text ≠ "->"
  | .key => false
  | _ => true

def closes (token : Token) : Bool :=
  match token.kind with
  | .punctuation => [")", "]", "\x7d", ",", ";"].contains token.text
  | .keyword => token.text = "end"
  | .operator => token.text = "->"
  | _ => false

def Closed (tokens : List Token) : Prop := ∀ token ∈ tokens.head?, closes token = true

def Opened (line : Nat) (tokens : List Token) : Prop :=
  ∃ token ∈ tokens.head?, begins token = true ∧ token.line = line

theorem Opened.exists_cons {line : Nat} {tokens : List Token} (opened : Opened line tokens) :
    ∃ token more, tokens = token :: more ∧ begins token = true ∧ token.line = line := by
  obtain ⟨token, head, starts, here⟩ := opened
  obtain ⟨more, shape⟩ := List.head?_eq_some_iff.mp head
  exact ⟨token, more, shape, starts, here⟩

theorem Opened.append {line : Nat} {tokens : List Token} (opened : Opened line tokens) (rest : List Token) :
    Opened line (tokens ++ rest) := by
  obtain ⟨token, more, rfl, starts, here⟩ := opened.exists_cons
  exact ⟨token, rfl, starts, here⟩

section Table

variable {op : String} {binding : Binding}

theorem mem_binaryOperators (known : binding? op = some binding) : (op, binding) ∈ binaryOperators := by
  obtain ⟨before, after, split, -⟩ := List.lookup_eq_some_iff.mp known
  simp [split]

theorem power_pos (known : binding? op = some binding) : 0 < binding.power := by
  have positive : ∀ entry ∈ binaryOperators, 0 < entry.2.power := by decide
  exact positive _ (mem_binaryOperators known)

end Table

section Row

def row (divider : Token) : Bool → List (Bool → List Token) → List Token
  | _, [] => []
  | space, [phrase] => phrase space
  | space, phrase :: next :: rest => phrase space ++ divider :: row divider true (next :: rest)

def comma : Token := ⟨.punctuation, ",", 1, false, false⟩

variable {ι α : Type} {item : List Token → Reading (α × List Token)} {stop : List Token → Bool}
  {write : ι → Bool → List Token} {value : ι → α}

/-- A row of items divided by commas is read item by item, given what must hold behind each of them. -/
theorem commaItems_rowBefore (Fits : List Token → Prop) {items : List ι} {rest : List Token} (space : Bool)
    (reads : ∀ i ∈ items, ∀ space rest, Fits rest → item (write i space ++ rest) = .ok (value i, rest))
    (goes : ∀ i ∈ items, ∀ space rest, stop (write i space ++ rest) = false)
    (divided : ∀ tokens, Fits (comma :: tokens)) (closed : Fits rest) (last : afterComma? rest = none)
    (stops : items = [] → stop rest = true) :
    commaItems item stop (row comma space (items.map write) ++ rest) =
      .ok (items.map value, rest) := by
  induction items generalizing space with
  | nil =>
    rw [commaItems]
    simp [row, stops rfl, pure, Except.pure]
  | cons first items ih =>
    cases items with
    | nil =>
      rw [commaItems]
      simp [row, goes first (by simp), reads first (by simp) space rest closed, last, bind,
        Except.bind, pure, Except.pure]
    | cons second items =>
      have later := ih true (fun i member => reads i (List.mem_cons_of_mem _ member))
        (fun i member => goes i (List.mem_cons_of_mem _ member)) (by simp)
      rw [commaItems]
      simp only [List.map_cons, row, List.append_assoc, List.cons_append] at later ⊢
      rw [goes first (by simp), reads first (by simp) space _ (divided _)]
      simp only [bind, Except.bind, Bool.false_eq_true, if_false, pure, Except.pure]
      simp only [afterComma?, comma, Token.is, BEq.rfl, Bool.and_self, if_true, List.length_append,
        List.length_cons]
      rw [if_pos (by omega)]
      simp only [comma] at later
      simp only [later]

theorem commaItems_row {items : List ι} {rest : List Token} (space : Bool)
    (reads : ∀ i ∈ items, ∀ space rest, Closed rest → item (write i space ++ rest) = .ok (value i, rest))
    (goes : ∀ i ∈ items, ∀ space rest, stop (write i space ++ rest) = false)
    (closed : Closed rest) (last : afterComma? rest = none) (stops : items = [] → stop rest = true) :
    commaItems item stop (row comma space (items.map write) ++ rest) =
      .ok (items.map value, rest) := by
  refine commaItems_rowBefore Closed space reads goes ?_ closed last stops
  rintro tokens token ⟨⟩
  rfl

end Row

section Body

def semicolon : Token := ⟨.punctuation, ";", 1, false, false⟩

def arrow : Token := ⟨.operator, "->", 1, true, false⟩

/-- The rest of a body after a statement: it is divided from the statement or ends the body. -/
structure Separated (ends : List String) (rest : List Token) : Prop where
  closed : Closed rest
  noHead : (startsWith .punctuation "," rest || startsWith .operator "->" rest) = false
  checked : checkSeparator ends rest = .ok ()

/-- No body ends at a token that starts an expression. -/
def Plain (ends : List String) : Prop := ∀ text ∈ ["(", "[", "\x7b", "fn"], text ∉ ends

instance (ends : List String) : Decidable (Plain ends) :=
  inferInstanceAs (Decidable (∀ text ∈ ["(", "[", "\x7b", "fn"], text ∉ ends))

theorem begins_cases {token : Token} (starts : begins token = true) :
    (token.kind = .punctuation → token.text ∈ ["(", "[", "\x7b"]) ∧ (token.kind = .keyword → token.text = "fn") ∧
      (token.kind = .operator → token.text ≠ "->") ∧ token.kind ≠ .key := by
  refine ⟨fun kind => ?_, fun kind => ?_, fun kind => ?_, fun kind => ?_⟩
  · simpa [begins, kind] using starts
  · simpa [begins, kind] using starts
  · simpa [begins, kind] using starts
  · simp [begins, kind] at starts

theorem begins_endsBody {ends : List String} {token : Token} (plain : Plain ends)
    (starts : begins token = true) : endsBody ends token = false := by
  refine Bool.eq_false_iff.mpr fun done => ?_
  simp only [endsBody, Bool.and_eq_true, Bool.or_eq_true, beq_iff_eq, List.contains_iff_mem] at done
  obtain ⟨mark, word, -, -⟩ := begins_cases starts
  have opener : token.text ∈ ["(", "[", "\x7b", "fn"] := by
    rcases done.1 with kind | kind
    · simp [word kind]
    · exact List.mem_append_left ["fn"] (mark kind)
  exact plain token.text opener done.2

theorem begins_mark {token : Token} {text : String} (starts : begins token = true)
    (other : text ∉ ["(", "[", "\x7b"]) : token.is .punctuation text = false := by
  refine Bool.eq_false_iff.mpr fun same => other ?_
  simp only [Token.is, Bool.and_eq_true, beq_iff_eq] at same
  exact same.2 ▸ (begins_cases starts).1 same.1

theorem begins_arrow {token : Token} (starts : begins token = true) :
    token.is .operator "->" = false := by
  refine Bool.eq_false_iff.mpr fun same => ?_
  simp only [Token.is, Bool.and_eq_true, beq_iff_eq] at same
  exact (begins_cases starts).2.2.1 same.1 same.2

def prepend {α : Type} (items : List α) (result : Reading (List α × List Token)) :
    Reading (List α × List Token) :=
  result.map fun (more, rest) => (items ++ more, rest)

variable {expr : ExpressionReader} {ends : List String} {state : BodyState}

theorem bodyItems_statementBefore {tokens rest : List Token} {node : Node} {line : Nat}
    (plain : Plain ends) (opened : Opened line tokens)
    (reads : expr 0 false (tokens ++ rest) = .ok (node, rest))
    (noHead : (startsWith .punctuation "," rest || startsWith .operator "->" rest) = false)
    (checked : checkSeparator ends rest = .ok ()) :
    bodyItems expr ends state (tokens ++ rest) =
      prepend [.statement node] (bodyItems expr ends state.addStatement rest) := by
  obtain ⟨token, more, rfl, starts, -⟩ := opened.exists_cons
  rw [List.cons_append] at reads ⊢
  rw [bodyItems]
  have noDivider : token.is .punctuation ";" = false := begins_mark starts (by decide)
  simp only [begins_endsBody plain starts, noDivider, begins_arrow starts,
    Bool.false_eq_true, if_false, reads, noHead, checked, bind, Except.bind,
    pure, Except.pure, List.length_append, prepend]
  rw [if_pos (by omega)]
  cases bodyItems expr ends state.addStatement rest <;> rfl

theorem bodyItems_statement {tokens rest : List Token} {node : Node} {line : Nat}
    (plain : Plain ends) (opened : Opened line tokens)
    (reads : expr 0 false (tokens ++ rest) = .ok (node, rest)) (separated : Separated ends rest) :
    bodyItems expr ends state (tokens ++ rest) =
      prepend [.statement node] (bodyItems expr ends state.addStatement rest) :=
  bodyItems_statementBefore plain opened reads separated.noHead separated.checked

theorem bodyItems_semicolon {rest : List Token} (divides : endsBody ends semicolon = false) :
    bodyItems expr ends state (semicolon :: rest) = bodyItems expr ends state rest := by
  rw [bodyItems, divides]
  simp [semicolon, Token.is]

theorem closed_cons {token : Token} {rest : List Token} (ending : closes token = true) :
    Closed (token :: rest) := by
  intro first head
  cases head
  exact ending

theorem separated_semicolon {rest : List Token} : Separated ends (semicolon :: rest) where
  closed := closed_cons rfl
  noHead := rfl
  checked := by simp [checkSeparator, semicolon, Token.is]

variable {ι : Type} {write : ι → Bool → List Token} {value : ι → Node}

def BodyState.addStatements (state : BodyState) : List ι → BodyState
  | [] => state
  | _ :: _ => state.addStatement

theorem BodyState.addStatement_twice (state : BodyState) :
    state.addStatement.addStatement = state.addStatement := by
  cases state <;> rfl

theorem bodyItems_row {items : List ι} {rest : List Token} {line : Nat} (space : Bool)
    (plain : Plain ends) (divides : endsBody ends semicolon = false)
    (reads : ∀ i ∈ items, ∀ space rest, Closed rest → expr 0 false (write i space ++ rest) = .ok (value i, rest))
    (opened : ∀ i ∈ items, ∀ space, Opened line (write i space)) (separated : Separated ends rest) :
    bodyItems expr ends state (row semicolon space (items.map write) ++ rest) =
      prepend (items.map fun i => .statement (value i))
        (bodyItems expr ends (state.addStatements items) rest) := by
  induction items generalizing space state with
  | nil =>
    simp only [List.map_nil, row, List.nil_append, prepend, BodyState.addStatements]
    cases bodyItems expr ends state rest <;> rfl
  | cons first items ih =>
    cases items with
    | nil =>
      exact bodyItems_statement plain (opened first (by simp) space)
        (reads first (by simp) space rest separated.closed) separated
    | cons second items =>
      have later := @ih state.addStatement true
        (fun i member => reads i (List.mem_cons_of_mem _ member))
        (fun i member => opened i (List.mem_cons_of_mem _ member))
      simp only [List.map_cons, row, List.append_assoc, List.cons_append] at later ⊢
      rw [bodyItems_statement plain (opened first (by simp) space)
        (reads first (by simp) space _ (closed_cons rfl)) separated_semicolon,
        bodyItems_semicolon divides, later]
      simp only [BodyState.addStatements, BodyState.addStatement_twice, prepend]
      cases bodyItems expr ends state.addStatement rest <;> rfl

theorem moreParams_row {items : List ι} {first : List Token} {rest : List Token}
    (reads : ∀ i ∈ items, ∀ space rest, Closed rest → expr 0 false (write i space ++ rest) = .ok (value i, rest))
    (shape : first = if items.isEmpty then arrow :: rest
      else comma :: (row comma true (items.map write) ++ arrow :: rest)) :
    moreParams expr first = .ok (items.map value, arrow :: rest) := by
  cases items with
  | nil => simp [shape, moreParams, afterComma?, arrow, Token.is]
  | cons second items =>
    have later : commaItems (expr 0 false) (fun _ => false)
        (row comma true ((second :: items).map write) ++ arrow :: rest) =
        .ok ((second :: items).map value, arrow :: rest) :=
      commaItems_row true reads (by simp) (closed_cons rfl) rfl (by simp)
    rw [shape]
    simpa [moreParams, afterComma?, comma, Token.is] using later

theorem expect_arrow {rest : List Token} : expect .operator "->" (arrow :: rest) = .ok rest := rfl

theorem bodyItems_head {items : List ι} {rest : List Token} {line : Nat} (space : Bool)
    (plain : Plain ends) (nonempty : items ≠ []) (allowed : state ≠ .statements)
    (reads : ∀ i ∈ items, ∀ space rest, Closed rest → expr 0 false (write i space ++ rest) = .ok (value i, rest))
    (opened : ∀ i ∈ items, ∀ space, Opened line (write i space)) :
    bodyItems expr ends state (row comma space (items.map write) ++ arrow :: rest) =
      prepend [.head (items.map value) line] (bodyItems expr ends .clauses rest) := by
  obtain ⟨first, items, rfl⟩ := List.exists_cons_of_ne_nil nonempty
  -- What follows the first parameter, whether or not there are more.
  obtain ⟨after, shape, split⟩ : ∃ after, (after = if items.isEmpty then arrow :: rest
      else comma :: (row comma true (items.map write) ++ arrow :: rest)) ∧
      row comma space ((first :: items).map write) ++ arrow :: rest = write first space ++ after := by
    cases items with
    | nil => exact ⟨_, rfl, rfl⟩
    | cons second items => exact ⟨_, rfl, by simp [row]⟩
  obtain ⟨token, more, tokens, starts, here⟩ := (opened first (by simp) space).exists_cons
  have closed : Closed after := by
    rw [shape]
    split <;> exact closed_cons rfl
  have heads : (startsWith .punctuation "," after || startsWith .operator "->" after) = true := by
    rw [shape]
    split <;> rfl
  have first_reads := reads first (by simp) space after closed
  have more_reads := moreParams_row (fun i member => reads i (List.mem_cons_of_mem _ member)) shape
  have shorter : rest.length < (more ++ after).length + 1 := by
    rw [shape]
    split <;> simp only [List.length_append, List.length_cons] <;> omega
  rw [tokens, List.cons_append] at first_reads
  rw [split, tokens, List.cons_append, bodyItems]
  have noDivider : token.is .punctuation ";" = false := begins_mark starts (by decide)
  simp only [begins_endsBody plain starts, noDivider, begins_arrow starts,
    Bool.false_eq_true, if_false, first_reads, heads, if_true, more_reads, bind, Except.bind, pure,
    Except.pure, expect_arrow, allowHead, allowed, if_pos shorter, prepend, here, List.map_cons]
  cases bodyItems expr ends .clauses rest <;> rfl

theorem bodyItems_bareHead {rest : List Token} (allowed : state ≠ .statements) :
    bodyItems expr ends state (arrow :: rest) =
      prepend [.head [] 1] (bodyItems expr ends .clauses rest) := by
  have goes : endsBody ends arrow = false := rfl
  have divides : arrow.is .punctuation ";" = false := rfl
  have head : arrow.is .operator "->" = true := rfl
  rw [bodyItems]
  simp only [goes, divides, head, Bool.false_eq_true, if_false, if_true, allowHead, allowed, bind,
    Except.bind, pure, Except.pure, prepend]
  cases bodyItems expr ends .clauses rest <;> rfl

theorem bodyItems_end {token : Token} {rest : List Token} (ending : endsBody ends token = true) :
    bodyItems expr ends state (token :: rest) = .ok ([], token :: rest) := by
  rw [bodyItems, ending]
  rfl

theorem assemble_statements {items : List ι} :
    assemble (items.map fun i => .statement (value i)) = items.map value := by
  have noHead : (items.map fun i => BodyItem.statement (value i)).any BodyItem.isHead = false := by
    simp [BodyItem.isHead]
  rw [assemble, noHead]
  simp [List.filterMap_map, Function.comp_def, BodyItem.node?]

theorem separated_end {token : Token} {rest : List Token} (ending : endsBody ends token = true)
    (closing : closes token = true) (last : token.text ≠ "," ∧ token.text ≠ "->") :
    Separated ends (token :: rest) where
  closed := closed_cons closing
  noHead := by simp [startsWith, Token.is, last]
  checked := by simp [checkSeparator, ending]

theorem body_row {items : List ι} {token : Token} {rest : List Token} {line : Nat} (space : Bool)
    (plain : Plain ends) (divides : endsBody ends semicolon = false)
    (reads : ∀ i ∈ items, ∀ space rest, Closed rest → expr 0 false (write i space ++ rest) = .ok (value i, rest))
    (opened : ∀ i ∈ items, ∀ space, Opened line (write i space))
    (ending : endsBody ends token = true) (closing : closes token = true)
    (last : token.text ≠ "," ∧ token.text ≠ "->") :
    body expr ends (row semicolon space (items.map write) ++ token :: rest) =
      .ok (items.map value, token :: rest) := by
  have items_read : bodyItems expr ends .empty (row semicolon space (items.map write) ++ token :: rest) = _ :=
    bodyItems_row space plain divides reads opened (separated_end ending closing last)
  rw [bodyItems_end ending] at items_read
  simp only [body, items_read, prepend, Except.map, bind, Except.bind, pure, Except.pure,
    List.append_nil, assemble_statements]

theorem body_statement {tokens rest : List Token} {token : Token} {node : Node} {line : Nat} (plain : Plain ends)
    (opened : Opened line tokens) (reads : expr 0 false (tokens ++ token :: rest) = .ok (node, token :: rest))
    (ending : endsBody ends token = true) (last : token.text ≠ "," ∧ token.text ≠ "->") :
    body expr ends (tokens ++ token :: rest) = .ok ([node], token :: rest) := by
  have statement : bodyItems expr ends .empty (tokens ++ token :: rest) = _ :=
    bodyItems_statementBefore plain opened reads (by simp [startsWith, Token.is, last]) (by simp [checkSeparator, ending])
  rw [bodyItems_end ending] at statement
  simp [body, statement, prepend, Except.map, assemble, BodyItem.isHead, BodyItem.node?, bind, Except.bind, pure,
    Except.pure]

theorem program_single {depth line : Nat} {tokens : List Token} {node : Node} (opened : Opened line tokens)
    (reads : expression depth 0 false (tokens ++ []) = .ok (node, [])) : program depth tokens = .ok [node] := by
  have ended : Separated [] [] := ⟨by simp [Closed], rfl, rfl⟩
  have alone : bodyItems (expression depth) [] .empty (tokens ++ []) =
      prepend [.statement node] (bodyItems (expression depth) [] .statements []) :=
    bodyItems_statement (by decide) opened reads ended
  have rest : bodyItems (expression depth) [] .statements [] = .ok ([], []) := by rw [bodyItems]
  rw [rest, List.append_nil] at alone
  simp [program, body, alone, prepend, Except.map, assemble, BodyItem.isHead, BodyItem.node?, bind, Except.bind,
    pure, Except.pure]

end Body

section Expression

variable {expr : ExpressionReader} {outerDo : Bool} {node : Node} {rest : List Token}

def startsPostfix : List Token → Bool
  | [] => false
  | token :: _ => token.is .operator "." || (token.is .punctuation "[" && !token.spaceBefore)

def startsArgs (tokens : List Token) : Bool :=
  (match tokens with
    | [] => false
    | token :: _ => token.is .punctuation "(" && !token.spaceBefore) || startsBareArgs tokens

theorem postfixes_stop (stop : startsPostfix rest = false) :
    postfixes expr outerDo node rest = .ok (node, rest) := by
  cases rest with
  | nil => simp [postfixes]
  | cons token rest =>
    simp only [startsPostfix, Bool.or_eq_false_iff] at stop
    rw [postfixes]
    simp [stop.1, stop.2]

theorem callArgs_stop (stop : startsArgs rest = false) : callArgs expr rest = .ok (none, rest) := by
  simp only [startsArgs, Bool.or_eq_false_iff] at stop
  cases rest with
  | nil => rfl
  | cons token rest => simp [callArgs, stop.1, stop.2, pure, Except.pure]

theorem operators_stop {floor : Nat}
    (weak : ∀ op binding after, binaryOperator? rest = some (op, binding, after) → binding.power ≤ floor) :
    operators expr floor outerDo node rest = .ok (node, rest) := by
  rw [operators]
  split
  · rfl
  · next found => rw [if_pos (weak _ _ _ found)]

theorem operators_step {floor : Nat} {tokens after : List Token} {op : String} {binding : Binding}
    {right : Node} (found : binaryOperator? tokens = some (op, binding, after))
    (strong : floor < binding.power)
    (reads : expr binding.rightFloor outerDo after = .ok (right, rest))
    (shorter : rest.length < tokens.length) :
    operators expr floor outerDo node tokens =
      operators expr floor outerDo (.binary op node right node.line) rest := by
  rw [operators]
  simp only [found, Nat.not_le.mpr strong, if_false, reads, bind, Except.bind, shorter, if_true]

theorem operand_primary {token : Token} {tokens : List Token} (notOperator : token.kind ≠ .operator)
    (reads : primary expr outerDo token tokens = .ok (node, rest)) :
    operand expr outerDo (token :: tokens) = postfixes expr outerDo node rest := by
  simp only [operand, next, bind, Except.bind, notOperator, if_false, reads]

theorem expression_operand {depth floor : Nat} {tokens : List Token}
    (reads : operand (expression depth) outerDo tokens = .ok (node, rest)) :
    expression (depth + 1) floor outerDo tokens =
      operators (expression depth) floor outerDo node rest := by
  simp only [expression, reads, bind, Except.bind]

theorem closes_cases {token : Token} (closing : closes token = true) :
    (token.kind = .punctuation ∧ token.text ∈ [")", "]", "\x7d", ",", ";"]) ∨
      (token.kind = .keyword ∧ token.text = "end") ∨ (token.kind = .operator ∧ token.text = "->") := by
  simp only [closes] at closing
  split at closing <;> simp_all

theorem Closed.startsPostfix (closed : Closed rest) : startsPostfix rest = false := by
  cases rest with
  | nil => rfl
  | cons token rest =>
    rcases closes_cases (closed token rfl) with ⟨kind, text⟩ | ⟨kind, text⟩ | ⟨kind, text⟩
    · simp only [List.mem_cons, List.not_mem_nil, or_false] at text
      rcases text with text | text | text | text | text <;>
        simp [Grammar.startsPostfix, Token.is, kind, text]
    · simp [Grammar.startsPostfix, Token.is, kind]
    · simp [Grammar.startsPostfix, Token.is, kind, text]

theorem Closed.startsArgs (closed : Closed rest) : startsArgs rest = false := by
  cases rest with
  | nil => rfl
  | cons token rest =>
    rcases closes_cases (closed token rfl) with ⟨kind, text⟩ | ⟨kind, text⟩ | ⟨kind, text⟩
    · simp only [List.mem_cons, List.not_mem_nil, or_false] at text
      rcases text with text | text | text | text | text <;>
        simp [Grammar.startsArgs, startsBareArgs, argumentKinds, Token.is, kind, text]
    · simp [Grammar.startsArgs, startsBareArgs, argumentKinds, Token.is, kind, text]
    · simp [Grammar.startsArgs, startsBareArgs, argumentKinds, argumentOperators, Token.is, kind, text]

theorem Closed.noBlock (closed : Closed rest) : startsWith .keyword "do" rest = false := by
  cases rest with
  | nil => rfl
  | cons token rest =>
    rcases closes_cases (closed token rfl) with ⟨kind, text⟩ | ⟨kind, text⟩ | ⟨kind, text⟩ <;>
      simp [startsWith, Token.is, kind, text]

theorem Closed.binaryOperator? (closed : Closed rest) : binaryOperator? rest = none := by
  cases rest with
  | nil => rfl
  | cons token rest =>
    rcases closes_cases (closed token rfl) with ⟨kind, text⟩ | ⟨kind, text⟩ | ⟨kind, text⟩
    · simp [Grammar.binaryOperator?, kind]
    · simp [Grammar.binaryOperator?, kind]
    · have unknown : binding? "->" = none := by decide
      simp [Grammar.binaryOperator?, kind, text, unknown]

theorem Closed.operators {floor : Nat} (closed : Closed rest) :
    operators expr floor outerDo node rest = .ok (node, rest) :=
  operators_stop (by simp [closed.binaryOperator?])

theorem Closed.postfixes (closed : Closed rest) :
    postfixes expr outerDo node rest = .ok (node, rest) :=
  postfixes_stop closed.startsPostfix

end Expression

end BoundaryLint.Grammar
