import BoundaryLint.Proofs.Grammar.Depth
import BoundaryLint.Proofs.Grammar.Exchange
import Mathlib

/-!
Reading always gets on. The readers are given as loops over the tokens that are left, which stop if a round takes no
token. No round is like that: each loop is the loop without this precaution, and every form leaves the reader behind the
place where it started, also where a token that was taken is put back.
-/

namespace BoundaryLint.Grammar

section Rounds

variable {σ α : Type}

/-- What a round of a loop comes to: the loop ends, or it goes on in another state. -/
inductive Round (σ α : Type) where
  | done (result : α)
  | again (state : σ)

def Round.resume (loop : σ → List Token → Reading (α × List Token)) :
    Round σ α × List Token → Reading (α × List Token)
  | (.done result, rest) => .ok (result, rest)
  | (.again state, rest) => loop state rest

/-- A loop is its rounds one after the other, and every round after which it goes on has taken a token. -/
structure Loops (round : σ → List Token → Reading (Round σ α × List Token))
    (loop : σ → List Token → Reading (α × List Token)) : Prop where
  unrolls : ∀ state tokens, loop state tokens = round state tokens >>= Round.resume loop
  advances : ∀ state tokens later rest, round state tokens = .ok (.again later, rest) →
    ∃ token taken, tokens = token :: taken ++ rest

def gathered (items : List α) (step : Reading (List α × List Token)) : Reading (List α × List Token) := do
  let (more, rest) ← step
  return (items ++ more, rest)

def itemRound (item : List Token → Reading (α × List Token)) (stop : List Token → Bool) (items : List α)
    (tokens : List Token) : Reading (Round (List α) (List α) × List Token) := do
  if stop tokens then return (.done items, tokens)
  let (next, rest) ← item tokens
  match afterComma? rest with
  | none => return (.done (items ++ [next]), rest)
  | some after => return (.again (items ++ [next]), after)

variable (expr : ExpressionReader)

def operatorRound (floor : Nat) (outerDo : Bool) (left : Node) (tokens : List Token) :
    Reading (Round Node Node × List Token) :=
  match binaryOperator? tokens with
  | none => .ok (.done left, tokens)
  | some (op, binding, rest) =>
    if binding.power ≤ floor then .ok (.done left, tokens)
    else do
      let (right, after) ← expr binding.rightFloor outerDo rest
      return (.again (.binary op left right left.line), after)

def postfixRound (outerDo : Bool) (node : Node) (tokens : List Token) : Reading (Round Node Node × List Token) :=
  match tokens with
  | [] => .ok (.done node, [])
  | token :: rest =>
    if token.is .operator "." then do
      let (node, after) ← afterDot expr outerDo node rest
      return (.again node, after)
    else if token.is .punctuation "[" && !token.spaceBefore then do
      let (index, after) ← expr 0 false rest
      let after ← expect .punctuation "]" after
      return (.again (.call (some node) "[]" [index] [] [] token.line), after)
    else .ok (.done node, token :: rest)

def pairRound (outerDo : Bool) (pairs : List Node) (tokens : List Token) :
    Reading (Round (List Node) (List Node) × List Token) :=
  match afterComma? tokens with
  | none => .ok (.done pairs, tokens)
  | some after =>
    if startsWithKind .key after then do
      let (node, rest) ← pair expr outerDo after
      return (.again (pairs ++ [node]), rest)
    else .ok (.done pairs, tokens)

def sectionRound (nodes : List Node) (tokens : List Token) : Reading (Round (List Node) (List Node) × List Token) :=
  match tokens with
  | [] => .ok (.done nodes, [])
  | token :: rest =>
    if token.kind == .keyword && sectionKeywords.contains token.text then do
      let (more, after) ← body expr sectionEnds rest
      return (.again (nodes ++ more), after)
    else .ok (.done nodes, token :: rest)

def bodyRound (ends : List String) (held : List BodyItem × BodyState) (tokens : List Token) :
    Reading (Round (List BodyItem × BodyState) (List BodyItem) × List Token) :=
  match tokens with
  | [] => .ok (.done held.1, [])
  | token :: rest =>
    if endsBody ends token then .ok (.done held.1, token :: rest)
    else if token.is .punctuation ";" then .ok (.again held, rest)
    else if token.is .operator "->" then do
      allowHead held.2 rest
      return (.again (held.1 ++ [.head [] token.line], .clauses), rest)
    else do
      let (node, after) ← expr 0 false (token :: rest)
      if startsWith .punctuation "," after || startsWith .operator "->" after then
        let (params, after) ← moreParams expr after
        let after ← expect .operator "->" after
        allowHead held.2 after
        return (.again (held.1 ++ [.head (node :: params) token.line], .clauses), after)
      else
        checkSeparator ends after
        return (.again (held.1 ++ [.statement node], held.2.addStatement), after)

end Rounds

section Loops

variable {α : Type} {items : List α} {first : α} {step : Reading (List α × List Token)} {expr : ExpressionReader}

theorem gathered_nil {rest : List Token} : gathered items (.ok ([], rest)) = .ok (items, rest) := by
  show (.ok (items ++ [], rest) : Reading _) = .ok (items, rest)
  rw [List.append_nil]

theorem gathered_bind {β : Type} {read : Reading β} {next : β → Reading (List α × List Token)} :
    gathered items (read >>= next) = read >>= fun result => gathered items (next result) :=
  bind_assoc _ _ _

/-- A loop and its round read the same first, and go on alike behind it. -/
theorem bind_resume {β γ δ : Type} {read : Reading β} {next : β → Reading γ} {round : β → Reading δ}
    {resume : δ → Reading γ} (same : ∀ result, read = .ok result → next result = round result >>= resume) :
    read >>= next = (read >>= round) >>= resume := by
  rw [bind_assoc]
  exact bind_eq_bind same

theorem gathered_resume {β δ : Type} {read : Reading β} {next : β → Reading (List α × List Token)}
    {round : β → Reading δ} {resume : δ → Reading (List α × List Token)}
    (same : ∀ result, read = .ok result → gathered items (next result) = round result >>= resume) :
    gathered items (read >>= next) = (read >>= round) >>= resume :=
  gathered_bind.trans (bind_resume same)

theorem gathered_append (found : List α) : gathered items (step >>= fun later => pure (found ++ later.1, later.2)) =
    gathered (items ++ found) step := by
  cases step with
  | error fault => rfl
  | ok later =>
    show (.ok (items ++ (found ++ later.1), later.2) : Reading _) = .ok (items ++ found ++ later.1, later.2)
    rw [List.append_assoc]

theorem gathered_cons : gathered items (step >>= fun later => pure (first :: later.1, later.2)) =
    gathered (items ++ [first]) step :=
  gathered_append [first]

theorem length_lt_of_afterComma? {rest after : List Token} (found : afterComma? rest = some after) :
    after.length < rest.length := by
  obtain ⟨comma, rfl, -⟩ := split_afterComma? found
  exact Nat.lt_succ_self _

theorem length_lt_of_binaryOperator? {tokens rest : List Token} {op : String} {binding : Binding}
    (found : binaryOperator? tokens = some (op, binding, rest)) : rest.length < tokens.length := by
  cases tokens with
  | nil => cases found
  | cons token more =>
    simp only [binaryOperator?] at found
    split at found
    · cases found
    split at found
    · cases found
    split at found
    · split at found
      · split at found
        · obtain ⟨_, _, same⟩ := Option.map_eq_some_iff.mp found
          cases same
          exact Nat.lt_succ_of_lt (Nat.lt_succ_self _)
        · cases found
      · cases found
    · obtain ⟨_, _, same⟩ := Option.map_eq_some_iff.mp found
      cases same
      exact Nat.lt_succ_self _

theorem Takes.suffix {β : Type} {left : β → List Token} {tokens : List Token} {read : Reading β} {result : β}
    (takes : Takes left tokens read) (made : read = .ok result) : left result <:+ tokens := by
  rw [made] at takes
  exact takes

theorem taken_of_suffix {tokens rest : List Token} (ends : rest <:+ tokens) (fewer : rest.length < tokens.length) :
    ∃ token taken, tokens = token :: taken ++ rest := by
  obtain ⟨taken, rfl⟩ := ends
  cases taken with
  | nil => exact absurd fewer (Nat.lt_irrefl _)
  | cons token taken => exact ⟨token, taken, rfl⟩

theorem taken_of_cons {token : Token} {start rest : List Token} (ends : rest <:+ start) :
    ∃ first taken, token :: start = first :: taken ++ rest := by
  obtain ⟨taken, rfl⟩ := ends
  exact ⟨token, taken, rfl⟩

theorem loops_commaItems {item : List Token → Reading (α × List Token)} {stop : List Token → Bool}
    (takes : ∀ tokens, Takes Prod.snd tokens (item tokens)) :
    Loops (itemRound item stop) (fun items tokens => gathered items (commaItems item stop tokens)) where
  unrolls items tokens := by
    rw [commaItems, itemRound]
    by_cases stops : stop tokens = true
    · rw [if_pos stops, if_pos stops]
      exact gathered_nil
    rw [if_neg stops, if_neg stops]
    apply gathered_resume
    rintro ⟨first, rest⟩ read
    have ends : rest <:+ tokens := (takes tokens).suffix read
    dsimp only
    cases comma : afterComma? rest with
    | none => rfl
    | some after =>
      have fewer : after.length < tokens.length :=
        Nat.lt_of_lt_of_le (length_lt_of_afterComma? comma) ends.length_le
      dsimp only
      rw [if_pos fewer]
      exact gathered_cons
  advances items tokens later rest made := by
    unfold itemRound at made
    split at made
    · cases made
    obtain ⟨⟨first, left⟩, read, made⟩ := bind_eq_ok.mp made
    have taken : left <:+ tokens := (takes tokens).suffix read
    dsimp only at made
    cases comma : afterComma? left with
    | none =>
      rw [comma] at made
      cases made
    | some after =>
      rw [comma] at made
      cases made
      have fewer := length_lt_of_afterComma? comma
      exact taken_of_suffix ((suffix_afterComma? comma).trans taken) (Nat.lt_of_lt_of_le fewer taken.length_le)

theorem loops_operators (takes : ∀ floor outerDo tokens, Takes Prod.snd tokens (expr floor outerDo tokens))
    (floor : Nat) (outerDo : Bool) : Loops (operatorRound expr floor outerDo) (operators expr floor outerDo) where
  unrolls left tokens := by
    rw [operators, operatorRound]
    cases found : binaryOperator? tokens with
    | none => rfl
    | some entry =>
      obtain ⟨op, binding, rest⟩ := entry
      dsimp only
      by_cases weak : binding.power ≤ floor
      · rw [if_pos weak, if_pos weak]
        rfl
      rw [if_neg weak, if_neg weak]
      apply bind_resume
      rintro ⟨right, after⟩ read
      have ends : after <:+ rest := (takes _ outerDo rest).suffix read
      have fewer : after.length < tokens.length :=
        Nat.lt_of_le_of_lt ends.length_le (length_lt_of_binaryOperator? found)
      exact if_pos fewer
  advances left tokens later rest made := by
    unfold operatorRound at made
    cases found : binaryOperator? tokens with
    | none =>
      rw [found] at made
      cases made
    | some entry =>
      obtain ⟨op, binding, start⟩ := entry
      rw [found] at made
      dsimp only at made
      split at made
      · cases made
      obtain ⟨⟨right, after⟩, read, made⟩ := bind_eq_ok.mp made
      cases made
      have ends : after <:+ start := (takes _ outerDo start).suffix read
      have fewer : after.length < tokens.length :=
        Nat.lt_of_le_of_lt ends.length_le (length_lt_of_binaryOperator? found)
      exact taken_of_suffix (ends.trans (suffix_binaryOperator? found)) fewer

theorem loops_postfixes (takes : ∀ floor outerDo tokens, Takes Prod.snd tokens (expr floor outerDo tokens))
    (outerDo : Bool) : Loops (postfixRound expr outerDo) (postfixes expr outerDo) where
  unrolls node tokens := by
    cases tokens with
    | nil =>
      rw [postfixes]
      rfl
    | cons token rest =>
      rw [postfixes, postfixRound]
      by_cases point : token.is .operator "." = true
      · rw [if_pos point, if_pos point]
        apply bind_resume
        rintro ⟨target, after⟩ read
        have ends : after <:+ rest := (takes_afterDot takes outerDo node rest).suffix read
        exact if_pos (Nat.lt_succ_of_le ends.length_le)
      rw [if_neg point, if_neg point]
      by_cases opens : (token.is .punctuation "[" && !token.spaceBefore) = true
      · rw [if_pos opens, if_pos opens]
        apply bind_resume
        rintro ⟨index, mid⟩ read
        have ends : mid <:+ rest := (takes 0 false rest).suffix read
        apply bind_resume
        intro after closed
        have closes : after <:+ mid := (takes_expect _ _ mid).suffix closed
        exact if_pos (Nat.lt_succ_of_le (closes.trans ends).length_le)
      · rw [if_neg opens, if_neg opens]
        rfl
  advances node tokens later rest made := by
    cases tokens with
    | nil => cases made
    | cons token start =>
      simp only [postfixRound] at made
      split at made
      · obtain ⟨⟨node, after⟩, read, made⟩ := bind_eq_ok.mp made
        cases made
        exact taken_of_cons ((takes_afterDot takes outerDo _ start).suffix read)
      split at made
      · obtain ⟨⟨index, mid⟩, read, made⟩ := bind_eq_ok.mp made
        obtain ⟨after, closed, made⟩ := bind_eq_ok.mp made
        cases made
        have closes : rest <:+ mid := (takes_expect _ _ mid).suffix closed
        exact taken_of_cons (closes.trans ((takes 0 false start).suffix read))
      · cases made

theorem loops_morePairs (takes : ∀ floor outerDo tokens, Takes Prod.snd tokens (expr floor outerDo tokens))
    (outerDo : Bool) :
    Loops (pairRound expr outerDo) (fun pairs tokens => gathered pairs (morePairs expr outerDo tokens)) where
  unrolls pairs tokens := by
    rw [morePairs, pairRound]
    cases comma : afterComma? tokens with
    | none => exact gathered_nil
    | some after =>
      dsimp only
      by_cases key : startsWithKind .key after = true
      · rw [if_pos key, if_pos key]
        apply gathered_resume
        rintro ⟨node, rest⟩ read
        have ends : rest <:+ after := (takes_pair takes outerDo after).suffix read
        have fewer : rest.length < tokens.length :=
          Nat.lt_of_le_of_lt ends.length_le (length_lt_of_afterComma? comma)
        dsimp only
        rw [if_pos fewer]
        exact gathered_cons
      · rw [if_neg key, if_neg key]
        exact gathered_nil
  advances pairs tokens later rest made := by
    unfold pairRound at made
    cases comma : afterComma? tokens with
    | none =>
      rw [comma] at made
      cases made
    | some after =>
      rw [comma] at made
      dsimp only at made
      split at made
      · obtain ⟨⟨node, left⟩, read, made⟩ := bind_eq_ok.mp made
        cases made
        have ends : left <:+ after := (takes_pair takes outerDo after).suffix read
        have fewer : left.length < tokens.length :=
          Nat.lt_of_le_of_lt ends.length_le (length_lt_of_afterComma? comma)
        exact taken_of_suffix (ends.trans (suffix_afterComma? comma)) fewer
      · cases made

theorem loops_sections (takes : ∀ floor outerDo tokens, Takes Prod.snd tokens (expr floor outerDo tokens)) :
    Loops (sectionRound expr) (fun nodes tokens => gathered nodes (sections expr tokens)) where
  unrolls nodes tokens := by
    cases tokens with
    | nil =>
      rw [sections]
      exact gathered_nil
    | cons token rest =>
      rw [sections, sectionRound]
      by_cases opens : (token.kind == .keyword && sectionKeywords.contains token.text) = true
      · rw [if_pos opens, if_pos opens]
        apply gathered_resume
        rintro ⟨more, after⟩ read
        have ends : after <:+ rest := (takes_body takes _ rest).suffix read
        dsimp only
        rw [if_pos (Nat.lt_succ_of_le ends.length_le)]
        exact gathered_append more
      · rw [if_neg opens, if_neg opens]
        exact gathered_nil
  advances nodes tokens later rest made := by
    cases tokens with
    | nil => cases made
    | cons token start =>
      simp only [sectionRound] at made
      split at made
      · obtain ⟨⟨more, after⟩, read, made⟩ := bind_eq_ok.mp made
        cases made
        exact taken_of_cons ((takes_body takes _ start).suffix read)
      · cases made

theorem loops_bodyItems (takes : ∀ floor outerDo tokens, Takes Prod.snd tokens (expr floor outerDo tokens))
    (consumes : ∀ tokens, Consumes [] [] Prod.snd tokens (expr 0 false tokens)) (ends : List String) :
    Loops (bodyRound expr ends) (fun held tokens => gathered held.1 (bodyItems expr ends held.2 tokens)) where
  unrolls held tokens := by
    cases tokens with
    | nil =>
      rw [bodyItems]
      exact gathered_nil
    | cons token rest =>
      rw [bodyItems, bodyRound]
      by_cases stops : endsBody ends token = true
      · rw [if_pos stops, if_pos stops]
        exact gathered_nil
      rw [if_neg stops, if_neg stops]
      by_cases separates : token.is .punctuation ";" = true
      · rw [if_pos separates, if_pos separates]
        rfl
      rw [if_neg separates, if_neg separates]
      by_cases arrow : token.is .operator "->" = true
      · rw [if_pos arrow, if_pos arrow]
        apply gathered_resume
        intro _ _
        exact gathered_cons
      rw [if_neg arrow, if_neg arrow]
      apply gathered_resume
      rintro ⟨node, mid⟩ read
      have fewer : mid.length < rest.length + 1 := (consumes _).rest_lt read
      dsimp only
      by_cases head : (startsWith .punctuation "," mid || startsWith .operator "->" mid) = true
      · rw [if_pos head, if_pos head]
        apply gathered_resume
        rintro ⟨params, left⟩ listed
        have given : left <:+ mid := (takes_moreParams takes mid).suffix listed
        apply gathered_resume
        intro after arrow
        have points : after <:+ left := (takes_expect _ _ left).suffix arrow
        have shorter : after.length < rest.length + 1 := Nat.lt_of_le_of_lt (points.trans given).length_le fewer
        apply gathered_resume
        intro _ _
        rw [if_pos shorter]
        exact gathered_cons
      · rw [if_neg head, if_neg head]
        apply gathered_resume
        intro _ _
        rw [if_pos fewer]
        exact gathered_cons
  advances held tokens later rest made := by
    cases tokens with
    | nil => cases made
    | cons token start =>
      simp only [bodyRound] at made
      split at made
      · cases made
      split at made
      · cases made
        exact taken_of_cons List.suffix_rfl
      split at made
      · obtain ⟨_, -, made⟩ := bind_eq_ok.mp made
        cases made
        exact taken_of_cons List.suffix_rfl
      obtain ⟨⟨node, mid⟩, read, made⟩ := bind_eq_ok.mp made
      have whole : mid <:+ token :: start := (takes 0 false _).suffix read
      have fewer : mid.length < start.length + 1 := (consumes _).rest_lt read
      dsimp only at made
      split at made
      · obtain ⟨⟨params, left⟩, listed, made⟩ := bind_eq_ok.mp made
        obtain ⟨after, arrow, made⟩ := bind_eq_ok.mp made
        obtain ⟨_, -, made⟩ := bind_eq_ok.mp made
        cases made
        have behind : rest <:+ mid :=
          ((takes_expect _ _ left).suffix arrow).trans ((takes_moreParams takes mid).suffix listed)
        exact taken_of_suffix (behind.trans whole) (Nat.lt_of_le_of_lt behind.length_le fewer)
      · obtain ⟨_, -, made⟩ := bind_eq_ok.mp made
        cases made
        exact taken_of_suffix whole fewer

end Loops

/-- A step at a position of a row comes to a position at least `least` tokens further on, within the row. -/
def Moves {α : Type} (least : Nat) (row : List Token) (position : Nat) (left : α → List Token) (step : Reading α) :
    Prop :=
  ∀ result, step = .ok result →
    ∃ reached, position + least ≤ reached ∧ reached ≤ row.length ∧ left result = row.drop reached

section Positions

variable {α : Type} {left : α → List Token} {row tokens : List Token} {position : Nat} {step : Reading α}

theorem reached_of_taken {taken rest : List Token} (inside : position ≤ row.length)
    (split : row.drop position = taken ++ rest) :
    position + taken.length ≤ row.length ∧ rest = row.drop (position + taken.length) := by
  constructor
  · have counted := congrArg List.length split
    rw [List.length_drop, List.length_append] at counted
    omega
  · calc rest = (taken ++ rest).drop taken.length := List.drop_left.symm
      _ = (row.drop position).drop taken.length := by rw [split]
      _ = row.drop (position + taken.length) := List.drop_drop

theorem Takes.moves (inside : position ≤ row.length) (takes : Takes left (row.drop position) step) :
    Moves 0 row position left step := by
  intro result made
  obtain ⟨taken, split⟩ := takes.suffix made
  obtain ⟨within, rest⟩ := reached_of_taken inside split.symm
  exact ⟨position + taken.length, Nat.le_add_right _ _, within, rest⟩

theorem Consumes.moves (inside : position ≤ row.length) (consumes : Consumes [] [] left (row.drop position) step) :
    Moves 1 row position left step := by
  intro result made
  rw [made] at consumes
  obtain ⟨token, taken, split, -⟩ := consumes
  obtain ⟨within, rest⟩ := reached_of_taken inside split
  exact ⟨position + (token :: taken).length, by simp, within, rest⟩

/-- A step behind the token at a position. -/
theorem Takes.moves_behind {token : Token} {rest : List Token} (inside : position ≤ row.length)
    (here : row.drop position = token :: rest) (takes : Takes left rest step) : Moves 1 row position left step := by
  intro result made
  obtain ⟨taken, split⟩ := takes.suffix made
  have ahead : row.drop position = (token :: taken) ++ left result := by rw [here, ← split, List.cons_append]
  obtain ⟨within, rest⟩ := reached_of_taken inside ahead
  exact ⟨position + (token :: taken).length, by simp, within, rest⟩

end Positions

structure Rounds (expr : ExpressionReader) : Prop where
  operators : ∀ floor outerDo, Loops (operatorRound expr floor outerDo) (operators expr floor outerDo)
  postfixes : ∀ outerDo, Loops (postfixRound expr outerDo) (postfixes expr outerDo)
  arguments : ∀ outerDo stop, Loops (itemRound (argument expr outerDo) stop)
    fun items tokens => gathered items (commaItems (argument expr outerDo) stop tokens)
  entries : ∀ stop, Loops (itemRound (mapItem expr) stop)
    fun items tokens => gathered items (commaItems (mapItem expr) stop tokens)
  parts : ∀ stop, Loops (itemRound (expr 0 false) stop)
    fun items tokens => gathered items (commaItems (expr 0 false) stop tokens)
  pairs : ∀ outerDo, Loops (pairRound expr outerDo)
    fun pairs tokens => gathered pairs (morePairs expr outerDo tokens)
  sections : Loops (sectionRound expr) fun nodes tokens => gathered nodes (sections expr tokens)
  body : ∀ ends, Loops (bodyRound expr ends) fun held tokens => gathered held.1 (bodyItems expr ends held.2 tokens)

theorem rounds_expression (depth : Nat) : Rounds (expression depth) where
  operators := loops_operators (takes_expression depth)
  postfixes := loops_postfixes (takes_expression depth)
  arguments outerDo _ := loops_commaItems (takes_argument (takes_expression depth) outerDo)
  entries _ := loops_commaItems (takes_mapItem (takes_expression depth))
  parts _ := loops_commaItems (takes_expression depth 0 false)
  pairs := loops_morePairs (takes_expression depth)
  sections := loops_sections (takes_expression depth)
  body := loops_bodyItems (takes_expression depth) (consumes_expression depth [] 0 false)

structure Progresses (expr : ExpressionReader) (row : List Token) (position : Nat) : Prop where
  expressions : ∀ floor outerDo, Moves 1 row position Prod.snd (expr floor outerDo (row.drop position))
  operand : ∀ outerDo, Moves 1 row position Prod.snd (operand expr outerDo (row.drop position))
  pair : ∀ outerDo, Moves 1 row position Prod.snd (pair expr outerDo (row.drop position))
  keywordList : ∀ outerDo line, Moves 1 row position Prod.snd (keywordList expr outerDo (row.drop position) line)
  doBlock : Moves 1 row position Prod.snd (doBlock expr (row.drop position))
  parenArgs : Moves 1 row position Prod.snd (parenArgs expr (row.drop position))
  /-- The token at the position is taken, and put back where it is the first key of a list. -/
  primary : ∀ outerDo token rest, row.drop position = token :: rest →
    Moves 1 row position Prod.snd (primary expr outerDo token rest)
  /-- What follows a point is taken, and put back where it is a parenthesis. -/
  afterDot : ∀ outerDo target, Moves 0 row position Prod.snd (afterDot expr outerDo target (row.drop position))
  postfixes : ∀ outerDo node, Moves 0 row position Prod.snd (postfixes expr outerDo node (row.drop position))
  callArgs : Moves 0 row position Prod.snd (callArgs expr (row.drop position))
  items : ∀ closer, Moves 0 row position Prod.snd
    (commaItems (argument expr false) (startsWith .punctuation closer) (row.drop position))
  body : ∀ ends, Moves 0 row position Prod.snd (body expr ends (row.drop position))

section Pairs

variable {expr : ExpressionReader} (takes : ∀ floor outerDo tokens, Takes Prod.snd tokens (expr floor outerDo tokens))
  {row : List Token} {position : Nat} (inside : position ≤ row.length)

include takes

theorem takes_pair_behind (outerDo : Bool) (key : Token) (rest : List Token) :
    Takes Prod.snd rest (pair expr outerDo (key :: rest)) := by
  show Takes Prod.snd rest (expr 0 outerDo rest >>= fun found =>
    pure (Node.pair (.atom key.text key.line) found.1 key.line, found.2))
  apply (takes 0 outerDo rest).bind
  rintro ⟨value, after⟩ -
  exact .ok List.suffix_rfl

include inside

theorem moves_pair (outerDo : Bool) : Moves 1 row position Prod.snd (pair expr outerDo (row.drop position)) := by
  cases here : row.drop position with
  | nil =>
    intro result made
    cases made
  | cons key rest => exact (takes_pair_behind takes outerDo key rest).moves_behind inside here

theorem moves_keywordList (outerDo : Bool) (line : Nat) :
    Moves 1 row position Prod.snd (keywordList expr outerDo (row.drop position) line) := by
  cases here : row.drop position with
  | nil =>
    intro result made
    cases made
  | cons key rest =>
    apply Takes.moves_behind inside here
    apply (takes_pair_behind takes outerDo key rest).bind
    rintro ⟨first, tokens⟩ -
    apply (takes_morePairs takes outerDo tokens).bind
    rintro ⟨more, tokens⟩ -
    exact .ok List.suffix_rfl

end Pairs

theorem progresses_expression (depth : Nat) {row : List Token} {position : Nat} (inside : position ≤ row.length) :
    Progresses (expression depth) row position where
  expressions floor outerDo := (consumes_expression depth [] floor outerDo _).moves inside
  operand outerDo := (consumes_operand (consumes_expression depth) outerDo _).moves inside
  pair := moves_pair (takes_expression depth) inside
  keywordList := moves_keywordList (takes_expression depth) inside
  doBlock := (consumes_doBlock (consumes_expression depth) _).moves inside
  parenArgs := (consumes_parenArgs (consumes_expression depth) _).moves inside
  primary outerDo token rest here := by
    apply Consumes.moves inside
    rw [here]
    exact consumes_primary (consumes_expression depth) outerDo token rest
  afterDot outerDo target := (takes_afterDot (takes_expression depth) outerDo target _).moves inside
  postfixes outerDo node := (takes_postfixes (takes_expression depth) outerDo node _).moves inside
  callArgs := (takes_callArgs (takes_expression depth) _).moves inside
  items _ := (takes_commaItems (takes_argument (takes_expression depth) false) _).moves inside
  body ends := (takes_body (takes_expression depth) ends _).moves inside

/-- Reading gets on from every position of a row and in every round of its loops, and so it comes to an end: past the
number of tokens the depth to which expressions may nest decides nothing. -/
theorem reading_progresses (row : List Token) :
    (∀ depth position, position ≤ row.length → Progresses (expression depth) row position) ∧
    (∀ depth, Rounds (expression depth)) ∧
    ∀ depth, row.length < depth → program depth row = program (row.length + 1) row ∧
      ∀ line, program depth row ≠ .error (.at .nestingTooDeep line) := by
  refine ⟨?_, rounds_expression, ?_⟩
  · intro depth position inside
    exact progresses_expression depth inside
  · intro depth deep
    obtain ⟨same, -⟩ := program_of_deep (Nat.lt_succ_self row.length) (Nat.succ_le_of_lt deep)
    obtain ⟨-, patient⟩ := program_of_deep deep (Nat.le_refl depth)
    exact ⟨same, patient⟩

end BoundaryLint.Grammar
