import BoundaryLint.Proofs.Grammar.FaultLine
import BoundaryLint.Proofs.Grammar.Reading
import BoundaryLint.Proofs.Token.Nesting
import Mathlib

/-!
What readers take. No reader counts brackets: each one takes tokens from the front that close all that they
open, and a reader that comes behind an opening bracket goes on to the closing one. A reader of expressions
takes at least one token.
-/

namespace BoundaryLint.Grammar

open Token (Bracket Turns)

/-- A step takes tokens from the front that turn the brackets `before` into `after`. -/
def Passes {α : Type} (before after : List Bracket) (left : α → List Token) (tokens : List Token)
    (step : Reading α) : Prop :=
  Outcome (fun result => ∃ taken, tokens = taken ++ left result ∧ Turns before after taken) (fun _ => True) step

/-- A step that passes tokens, and takes at least one. -/
def Consumes {α : Type} (before after : List Bracket) (left : α → List Token) (tokens : List Token)
    (step : Reading α) : Prop :=
  Outcome (fun result => ∃ token taken, tokens = token :: taken ++ left result ∧ Turns before after (token :: taken))
    (fun _ => True) step

section Steps

variable {α β : Type} {left : α → List Token} {rest : β → List Token} {before middle after stack : List Bracket}
  {tokens : List Token} {token : Token}

theorem Passes.ok {result : α} (same : left result = tokens) : Passes stack stack left tokens (.ok result) :=
  ⟨[], same.symm, .nil⟩

theorem Passes.error {fault : Fault} : Passes before after left tokens (.error fault) := trivial

theorem Consumes.passes {step : Reading α} (consumes : Consumes before after left tokens step) :
    Passes before after left tokens step := by
  cases step with
  | error fault => trivial
  | ok result =>
    obtain ⟨token, taken, split, turns⟩ := consumes
    exact ⟨token :: taken, split, turns⟩

theorem Passes.bind {step : Reading α} {next : α → Reading β} (passes : Passes before middle left tokens step)
    (later : ∀ result, Passes middle after rest (left result) (next result)) :
    Passes before after rest tokens (step >>= next) := by
  refine Outcome.bind passes ?_
  rintro result ⟨taken, split, turns⟩
  have following := later result
  cases outcome : next result with
  | error fault => trivial
  | ok given =>
    rw [outcome] at following
    obtain ⟨others, apart, turned⟩ := following
    refine ⟨taken ++ others, ?_, turns.append turned⟩
    rw [split, apart, List.append_assoc]

theorem Consumes.bind {step : Reading α} {next : α → Reading β} (consumes : Consumes before middle left tokens step)
    (later : ∀ result, Passes middle after rest (left result) (next result)) :
    Consumes before after rest tokens (step >>= next) := by
  refine Outcome.bind consumes ?_
  rintro result ⟨token, taken, split, turns⟩
  have following := later result
  cases outcome : next result with
  | error fault => trivial
  | ok given =>
    rw [outcome] at following
    obtain ⟨others, apart, turned⟩ := following
    refine ⟨token, taken ++ others, ?_, turns.append turned⟩
    rw [split, apart, List.cons_append, List.cons_append, List.append_assoc]

theorem Passes.append {step : Reading α} {first more : List Token} (split : tokens = first ++ more)
    (turns : Turns before middle first) (passes : Passes middle after left more step) :
    Passes before after left tokens step := by
  cases step with
  | error fault => trivial
  | ok result =>
    obtain ⟨taken, apart, turned⟩ := passes
    exact ⟨first ++ taken, by rw [split, apart, List.append_assoc], turns.append turned⟩

theorem Passes.cons {step : Reading α} (turns : Turns before middle [token])
    (passes : Passes middle after left tokens step) : Consumes before after left (token :: tokens) step := by
  cases step with
  | error fault => trivial
  | ok result =>
    obtain ⟨taken, split, turned⟩ := passes
    exact ⟨token, taken, by rw [split, List.cons_append], turns.append turned⟩

theorem Consumes.cons_point {step : Reading α} {dot : Token} (point : dot.isPoint = true)
    (free : token.isReserved = false) (consumes : Consumes before after left (token :: tokens) step) :
    Consumes before after left (dot :: token :: tokens) step := by
  cases step with
  | error fault => trivial
  | ok result =>
    obtain ⟨first, taken, split, turns⟩ := consumes
    cases (List.cons.inj split).1
    exact ⟨dot, token :: taken, by rw [split]; rfl, turns.cons_point point free⟩

theorem Passes.cons_name {step : Reading α} {dot : Token} (point : dot.isPoint = true)
    (reserved : token.isReserved = true) (last : token.isPoint = false)
    (passes : Passes before after left tokens step) : Consumes before after left (dot :: token :: tokens) step := by
  cases step with
  | error fault => trivial
  | ok result =>
    obtain ⟨taken, split, turned⟩ := passes
    exact ⟨dot, token :: taken, by rw [split]; rfl, (Token.turns_name point reserved last).append turned⟩

theorem Consumes.of_next {more : List Token} {later : Token × List Token → Reading β}
    (consumes : Consumes before after rest (token :: more) (later (token, more))) :
    Consumes before after rest (token :: more) (next (token :: more) >>= later) := consumes

theorem consumes_expect {kind : Token.Kind} {text : String}
    (turns : ∀ token : Token, token.is kind text = true → Turns before after [token]) (tokens : List Token) :
    Consumes before after id tokens (expect kind text tokens) := by
  cases tokens with
  | nil => trivial
  | cons token rest =>
    simp only [expect]
    split
    · next found => exact ⟨token, [], rfl, turns token found⟩
    · trivial

theorem turns_is {kind : Token.Kind} {text : String} {effect : Token.Effect}
    (acts : ((Token.effects kind).lookup text).getD .none = effect) (found : token.is kind text = true) :
    token.effect = effect := by
  simp only [Token.is, Bool.and_eq_true, beq_iff_eq] at found
  rw [Token.effect, found.1, found.2, acts]

/-- A closing bracket or `end` that must come. -/
theorem passes_closing {kind : Token.Kind} {text : String} {bracket : Bracket} {brackets : List Bracket}
    (acts : ((Token.effects kind).lookup text).getD .none = .closes brackets) (mem : bracket ∈ brackets)
    (tokens : List Token) : Passes (bracket :: stack) stack id tokens (expect kind text tokens) :=
  (consumes_expect (fun _ found => Token.turns_closes (turns_is acts found) mem) tokens).passes

theorem consumes_opening {kind : Token.Kind} {text : String} {bracket : Bracket}
    (acts : ((Token.effects kind).lookup text).getD .none = .opens bracket) (tokens : List Token) :
    Consumes stack (bracket :: stack) id tokens (expect kind text tokens) :=
  consumes_expect (fun _ found => Token.turns_opens (turns_is acts found)) tokens

theorem turns_mark {text : String} (acts : ((Token.effects .punctuation).lookup text).getD .none = .none)
    (found : token.is .punctuation text = true) : Turns stack stack [token] := by
  apply Token.turns_none (turns_is acts found)
  simp only [Token.is, Bool.and_eq_true, beq_iff_eq] at found
  simp [Token.isPoint, Token.is, found.1]

theorem turns_symbol {text : String} (other : text ∉ ["<<", ">>", "."]) (found : token.is .operator text = true) :
    Turns stack stack [token] := by
  simp only [Token.is, Bool.and_eq_true, beq_iff_eq] at found
  exact Token.turns_operator found.1 (found.2 ▸ other)

theorem split_afterComma? {rest : List Token} (found : afterComma? tokens = some rest) :
    ∃ comma, tokens = comma :: rest ∧ ∀ stack, Turns stack stack [comma] := by
  cases tokens with
  | nil => cases found
  | cons token more =>
    simp only [afterComma?] at found
    split at found
    · next comma =>
      cases found
      exact ⟨token, rfl, fun stack => turns_mark rfl comma⟩
    · cases found

theorem Passes.comma {step : Reading α} {rest : List Token} (found : afterComma? tokens = some rest)
    (passes : Passes before after left rest step) : Passes before after left tokens step := by
  obtain ⟨comma, rfl, turns⟩ := split_afterComma? found
  exact (Passes.cons (turns before) passes).passes

theorem passes_commaItems {item : List Token → Reading (α × List Token)} {stop : List Token → Bool}
    (passes : ∀ tokens, Passes stack stack Prod.snd tokens (item tokens)) (tokens : List Token) :
    Passes stack stack Prod.snd tokens (commaItems item stop tokens) := by
  fun_induction commaItems item stop tokens with
  | case1 tokens stops => exact .ok rfl
  | case2 tokens goes ih =>
    refine .bind (passes tokens) ?_
    rintro ⟨first, rest⟩
    dsimp only
    split
    · exact .ok rfl
    · next after found =>
      refine .comma found ?_
      split
      · next shorter =>
        refine .bind (ih after shorter) ?_
        rintro ⟨more, rest⟩
        exact .ok rfl
      · exact .ok rfl

end Steps

section Bodies

variable {expr : ExpressionReader} {stack : List Bracket}
  (consumes : ∀ stack floor outerDo tokens, Consumes stack stack Prod.snd tokens (expr floor outerDo tokens))

theorem passes_allowHead (state : BodyState) (after : List Token) :
    Passes stack stack (fun _ => after) after (allowHead state after) := by
  unfold allowHead
  split
  · exact .error
  · exact .ok rfl

theorem passes_checkSeparator (ends : List String) (tokens : List Token) :
    Passes stack stack (fun _ => tokens) tokens (checkSeparator ends tokens) := by
  cases tokens with
  | nil => exact .ok rfl
  | cons token rest =>
    simp only [checkSeparator]
    split
    · exact .ok rfl
    · exact .error

include consumes

theorem passes_moreParams (tokens : List Token) : Passes stack stack Prod.snd tokens (moreParams expr tokens) := by
  unfold moreParams
  split
  · next after found =>
    exact .comma found (passes_commaItems (fun tokens => (consumes stack 0 false tokens).passes) after)
  · exact .ok rfl

theorem passes_bodyItems (ends : List String) (state : BodyState) (tokens : List Token) :
    Passes stack stack Prod.snd tokens (bodyItems expr ends state tokens) := by
  fun_induction bodyItems expr ends state tokens with
  | case1 => exact .ok rfl
  | case2 => exact .ok rfl
  | case3 state token rest _ mark ih => exact (Passes.cons (turns_mark rfl mark) ih).passes
  | case4 state token rest _ _ arrow ih =>
    refine (Passes.cons (turns_symbol (by decide) arrow) (.bind (passes_allowHead state rest) ?_)).passes
    intro _
    refine .bind ih ?_
    rintro ⟨items, after⟩
    exact .ok rfl
  | case5 state token rest _ _ _ clauses statements =>
    refine .bind (consumes stack 0 false (token :: rest)).passes ?_
    rintro ⟨node, after⟩
    dsimp only
    split
    · refine .bind (passes_moreParams consumes after) ?_
      rintro ⟨params, after⟩
      refine .bind (consumes_expect (fun _ arrow => turns_symbol (by decide) arrow) after).passes ?_
      intro after
      refine .bind (passes_allowHead state after) ?_
      intro _
      dsimp only
      split
      · next shorter =>
        refine .bind (clauses after shorter) ?_
        rintro ⟨items, rest⟩
        exact .ok rfl
      · exact .ok rfl
    · refine .bind (passes_checkSeparator ends after) ?_
      intro _
      split
      · next shorter =>
        refine .bind (statements after shorter) ?_
        rintro ⟨items, rest⟩
        exact .ok rfl
      · exact .ok rfl

theorem passes_body (ends : List String) (tokens : List Token) :
    Passes stack stack Prod.snd tokens (body expr ends tokens) := by
  refine .bind (passes_bodyItems consumes ends .empty tokens) ?_
  rintro ⟨items, rest⟩
  exact .ok rfl

omit consumes in
theorem turns_section {token : Token} (opens : (token.kind == .keyword && sectionKeywords.contains token.text) = true) :
    Turns (.block :: stack) (.block :: stack) [token] := by
  have divides : ∀ text ∈ sectionKeywords, ((Token.effects .keyword).lookup text).getD .none = .divides := by decide
  simp only [Bool.and_eq_true, beq_iff_eq, List.contains_iff_mem] at opens
  apply Token.turns_divides
  rw [Token.effect, opens.1, divides token.text opens.2]

theorem passes_sections (tokens : List Token) :
    Passes (.block :: stack) (.block :: stack) Prod.snd tokens (sections expr tokens) := by
  fun_induction sections expr tokens with
  | case1 => exact .ok rfl
  | case2 token rest opens ih =>
    refine (Passes.cons (turns_section opens) (.bind (passes_body consumes _ rest) ?_)).passes
    rintro ⟨nodes, after⟩
    dsimp only
    split
    · next shorter =>
      refine .bind (ih after shorter) ?_
      rintro ⟨more, rest⟩
      exact .ok rfl
    · exact .ok rfl
  | case3 => exact .ok rfl

theorem consumes_doBlock (tokens : List Token) : Consumes stack stack Prod.snd tokens (doBlock expr tokens) := by
  refine .bind (consumes_opening rfl tokens) ?_
  intro tokens
  refine .bind (passes_body consumes _ tokens) ?_
  rintro ⟨nodes, tokens⟩
  refine .bind (passes_sections consumes tokens) ?_
  rintro ⟨more, tokens⟩
  refine .bind (passes_closing rfl (by decide) tokens) ?_
  intro tokens
  exact .ok rfl

theorem passes_optionalDoBlock (outerDo : Bool) (tokens : List Token) :
    Passes stack stack Prod.snd tokens (optionalDoBlock expr outerDo tokens) := by
  unfold optionalDoBlock
  split
  · exact (consumes_doBlock consumes tokens).passes
  · exact .ok rfl

end Bodies

section Forms

variable {expr : ExpressionReader} {stack : List Bracket}
  (consumes : ∀ stack floor outerDo tokens, Consumes stack stack Prod.snd tokens (expr floor outerDo tokens))

include consumes

/-- A key, of which the reader has made sure, and its value. -/
theorem consumes_pair (outerDo : Bool) {tokens : List Token} (key : startsWithKind .key tokens = true) :
    Consumes stack stack Prod.snd tokens (pair expr outerDo tokens) := by
  cases tokens with
  | nil => cases key
  | cons token rest =>
    have kind : token.kind = .key := by simpa [startsWithKind] using key
    have word : Turns stack stack [token] := Token.turns_word (by simp [kind]) (by simp [Token.isReserved, kind])
    apply Consumes.of_next
    refine Passes.cons word (.bind (consumes stack 0 outerDo rest).passes ?_)
    rintro ⟨value, tokens⟩
    exact .ok rfl

theorem passes_argument (outerDo : Bool) (tokens : List Token) :
    Passes stack stack Prod.snd tokens (argument expr outerDo tokens) := by
  unfold argument
  split
  · next key =>
    refine .bind (consumes_pair consumes outerDo key).passes ?_
    rintro ⟨node, tokens⟩
    exact .ok rfl
  · refine .bind (consumes stack 0 outerDo tokens).passes ?_
    rintro ⟨node, tokens⟩
    exact .ok rfl

theorem passes_bracketed {closer : String} {bracket : Bracket}
    (acts : ((Token.effects .punctuation).lookup closer).getD .none = .closes [bracket]) (tokens : List Token) :
    Passes (bracket :: stack) stack Prod.snd tokens (bracketed expr closer tokens) := by
  refine .bind (passes_commaItems (passes_argument consumes false) tokens) ?_
  rintro ⟨items, tokens⟩
  refine .bind (passes_closing acts (List.mem_singleton_self _) tokens) ?_
  intro tokens
  exact .ok rfl

theorem consumes_parenArgs (tokens : List Token) : Consumes stack stack Prod.snd tokens (parenArgs expr tokens) := by
  refine .bind (consumes_opening rfl tokens) ?_
  intro tokens
  refine .bind (passes_bracketed consumes rfl tokens) ?_
  rintro ⟨items, tokens⟩
  exact .ok rfl

theorem passes_bareArgs (tokens : List Token) : Passes stack stack Prod.snd tokens (bareArgs expr tokens) := by
  refine .bind (passes_commaItems (passes_argument consumes true) tokens) ?_
  rintro ⟨items, tokens⟩
  exact .ok rfl

theorem passes_callArgs (tokens : List Token) : Passes stack stack Prod.snd tokens (callArgs expr tokens) := by
  unfold callArgs
  extract_lets adjacent
  split
  · refine .bind (consumes_parenArgs consumes tokens).passes ?_
    rintro ⟨args, tokens⟩
    exact .ok rfl
  split
  · refine .bind (passes_bareArgs consumes tokens) ?_
    rintro ⟨args, tokens⟩
    exact .ok rfl
  · exact .ok rfl

theorem passes_identifier (outerDo : Bool) (token : Token) (tokens : List Token) :
    Passes stack stack Prod.snd tokens (identifier expr outerDo token tokens) := by
  refine .bind (passes_callArgs consumes tokens) ?_
  rintro ⟨args, tokens⟩
  dsimp only
  split
  · exact .ok rfl
  · refine .bind (passes_optionalDoBlock consumes outerDo tokens) ?_
    rintro ⟨⟨block, more⟩, tokens⟩
    exact .ok rfl

theorem passes_morePairs (outerDo : Bool) (tokens : List Token) :
    Passes stack stack Prod.snd tokens (morePairs expr outerDo tokens) := by
  fun_induction morePairs expr outerDo tokens with
  | case1 tokens _ => exact .ok rfl
  | case2 tokens after found key ih =>
    refine .comma found (.bind (consumes_pair consumes outerDo key).passes ?_)
    rintro ⟨node, rest⟩
    dsimp only
    split
    · next shorter =>
      refine .bind (ih rest shorter) ?_
      rintro ⟨more, rest⟩
      exact .ok rfl
    · exact .ok rfl
  | case3 tokens => exact .ok rfl

theorem consumes_keywordList (outerDo : Bool) {tokens : List Token} (key : startsWithKind .key tokens = true)
    (line : Nat) : Consumes stack stack Prod.snd tokens (keywordList expr outerDo tokens line) := by
  refine .bind (consumes_pair consumes outerDo key) ?_
  rintro ⟨first, tokens⟩
  refine .bind (passes_morePairs consumes outerDo tokens) ?_
  rintro ⟨more, tokens⟩
  exact .ok rfl

theorem passes_anonymous (line : Nat) (tokens : List Token) :
    Passes (.function :: stack) stack Prod.snd tokens (anonymous expr line tokens) := by
  refine .bind (passes_body consumes _ tokens) ?_
  rintro ⟨nodes, tokens⟩
  refine .bind (passes_closing rfl (by decide) tokens) ?_
  intro tokens
  dsimp only
  split
  · exact .ok rfl
  · exact .ok rfl

theorem consumes_group {token : Token} (mark : token.kind = .punctuation) (tokens : List Token) :
    Consumes stack stack Prod.snd (token :: tokens) (group expr token tokens) := by
  have opens : ∀ {text : String} {bracket : Bracket}, token.text = text →
      ((Token.effects .punctuation).lookup text).getD .none = .opens bracket →
      Turns stack (bracket :: stack) [token] := by
    intro text bracket same acts
    apply Token.turns_opens
    rw [Token.effect, mark, same, acts]
  unfold group
  split
  · next round =>
    refine Passes.cons (opens round rfl) (.bind (passes_body consumes _ tokens) ?_)
    rintro ⟨nodes, tokens⟩
    refine .bind (passes_closing rfl (by decide) tokens) ?_
    intro tokens
    exact .ok rfl
  split
  · next square =>
    refine Passes.cons (opens square rfl) (.bind (passes_bracketed consumes rfl tokens) ?_)
    rintro ⟨items, tokens⟩
    exact .ok rfl
  split
  · next curly =>
    refine Passes.cons (opens curly rfl) (.bind (passes_bracketed consumes rfl tokens) ?_)
    rintro ⟨items, tokens⟩
    exact .ok rfl
  · trivial

omit consumes in
theorem passes_numeral {α : Type} (read : Except Numeral.Fault α) (literal : α → Literal) (token : Token)
    (tokens : List Token) : Passes stack stack Prod.snd tokens (numeral read literal token tokens) := by
  unfold numeral
  split
  · exact .ok rfl
  · exact .error

theorem consumes_primary (outerDo : Bool) (token : Token) (tokens : List Token) :
    Consumes stack stack Prod.snd (token :: tokens) (primary expr outerDo token tokens) := by
  have word : ∀ {kind : Token.Kind}, token.kind = kind → kind ≠ .punctuation → kind ≠ .keyword →
      kind ≠ .operator → Turns stack stack [token] := by
    intro kind same mark keyword operator
    apply Token.turns_word
    · rwa [same]
    · simp [Token.isReserved, same, keyword, operator]
  unfold primary
  split
  · next kind =>
    exact Passes.cons (word kind (by decide) (by decide) (by decide)) (passes_identifier consumes outerDo token tokens)
  · next kind =>
    have taken := word kind (by decide) (by decide) (by decide)
    split
    · exact Passes.cons taken (.ok rfl)
    · exact Passes.cons taken (.ok rfl)
  · next kind => exact Passes.cons (word kind (by decide) (by decide) (by decide)) (.ok rfl)
  · next kind => exact Passes.cons (word kind (by decide) (by decide) (by decide)) (passes_numeral _ _ token tokens)
  · next kind => exact Passes.cons (word kind (by decide) (by decide) (by decide)) (passes_numeral _ _ token tokens)
  · next kind => exact Passes.cons (word kind (by decide) (by decide) (by decide)) (.ok rfl)
  · next kind => exact Passes.cons (word kind (by decide) (by decide) (by decide)) (.ok rfl)
  · next kind => exact Passes.cons (word kind (by decide) (by decide) (by decide)) (.ok rfl)
  · next kind => exact Passes.cons (word kind (by decide) (by decide) (by decide)) (.ok rfl)
  · next kind =>
    exact consumes_keywordList consumes outerDo (by simp [startsWithKind, kind]) token.line
  · next kind =>
    split
    · next function =>
      have opens : token.effect = .opens .function := by
        rw [Token.effect, kind, function]
        rfl
      exact Passes.cons (Token.turns_opens opens) (passes_anonymous consumes token.line tokens)
    · trivial
  · next kind => exact consumes_group consumes kind tokens
  · trivial

/-- What follows a point, read together with it. A reserved token is a name here. -/
theorem consumes_afterDot (outerDo : Bool) (target : Node) {dot : Token} (point : dot.isPoint = true)
    (tokens : List Token) :
    Consumes stack stack Prod.snd (dot :: tokens) (afterDot expr outerDo target tokens) := by
  cases tokens with
  | nil => trivial
  | cons token rest =>
    have named : token.isReserved = true → token.text ≠ "." → Consumes stack stack Prod.snd (dot :: token :: rest)
        (callArgs expr rest >>= fun found =>
          pure (Node.call (some target) token.text (found.1.getD []) [] [] token.line, found.2)) := by
      intro reserved other
      refine Passes.cons_name point reserved ?_ (.bind (passes_callArgs consumes rest) ?_)
      · simp [Token.isPoint, Token.is, other]
      · rintro ⟨args, tokens⟩
        exact .ok rfl
    show Consumes stack stack Prod.snd (dot :: token :: rest) (next (token :: rest) >>= _)
    simp only [next, bind, Except.bind]
    split
    · next kind =>
      have free : token.isReserved = false := by simp [Token.isReserved, kind]
      have word : Turns stack stack [token] := Token.turns_word (by simp [kind]) free
      split
      · split
        · exact .cons_point point free (Passes.cons word (.ok rfl))
        · trivial
      · exact .cons_point point free (Passes.cons word (.ok rfl))
    · next kind =>
      have free : token.isReserved = false := by simp [Token.isReserved, kind]
      have word : Turns stack stack [token] := Token.turns_word (by simp [kind]) free
      refine .cons_point point free (Passes.cons word (.bind (passes_callArgs consumes rest) ?_))
      rintro ⟨args, tokens⟩
      refine .bind (passes_optionalDoBlock consumes outerDo tokens) ?_
      rintro ⟨⟨block, more⟩, tokens⟩
      exact .ok rfl
    · next kind =>
      have free : token.isReserved = false := by simp [Token.isReserved, kind]
      split
      · refine .cons_point point free (.bind (consumes_parenArgs consumes (token :: rest)) ?_)
        rintro ⟨args, tokens⟩
        exact .ok rfl
      split
      · next curly =>
        have opens : token.effect = .opens .curly := by
          rw [Token.effect, kind, curly]
          rfl
        refine .cons_point point free
          (Passes.cons (Token.turns_opens opens) (.bind (passes_bracketed consumes rfl rest) ?_))
        rintro ⟨items, tokens⟩
        exact .ok rfl
      · trivial
    · next kind =>
      split
      · trivial
      · next other => exact named (by simp [Token.isReserved, kind]) other
    · next kind =>
      split
      · trivial
      · next other => exact named (by simp [Token.isReserved, kind]) other
    · trivial

theorem passes_postfixes (outerDo : Bool) (node : Node) (tokens : List Token) :
    Passes stack stack Prod.snd tokens (postfixes expr outerDo node tokens) := by
  fun_induction postfixes expr outerDo node tokens with
  | case1 => exact .ok rfl
  | case2 node token rest point ih =>
    refine .bind (consumes_afterDot consumes outerDo node point rest).passes ?_
    rintro ⟨node, after⟩
    dsimp only
    split
    · next shorter => exact ih node after shorter
    · exact .ok rfl
  | case3 node token rest _ opens ih =>
    have square : Turns stack (.square :: stack) [token] :=
      Token.turns_opens (turns_is rfl (Bool.and_eq_true_iff.mp opens).1)
    refine (Passes.cons square (.bind (consumes _ 0 false rest).passes ?_)).passes
    rintro ⟨index, after⟩
    refine .bind (passes_closing rfl (by decide) after) ?_
    intro after
    dsimp only
    split
    · next shorter => exact ih index after shorter
    · exact .ok rfl
  | case4 => exact .ok rfl

omit consumes in
theorem passes_structSegments (ref : ModuleRef) (tokens : List Token) :
    Passes stack stack Prod.snd tokens (structSegments ref tokens) := by
  fun_induction structSegments ref tokens with
  | case1 ref dot segment rest both _ ih =>
    obtain ⟨point, kind⟩ := Bool.and_eq_true_iff.mp both
    rw [beq_iff_eq] at kind
    have free : segment.isReserved = false := by simp [Token.isReserved, kind]
    have word : Turns stack stack [segment] := Token.turns_word (by simp [kind]) free
    exact (Consumes.cons_point point free (Passes.cons word ih)).passes
  | case2 => exact .error
  | case3 => exact .ok rfl
  | case4 => exact .ok rfl

omit consumes in
theorem passes_structName (tokens : List Token) : Passes stack stack Prod.snd tokens (structName tokens) := by
  cases tokens with
  | nil => exact .error
  | cons token rest =>
    apply Consumes.passes
    apply Consumes.of_next
    dsimp only
    split
    · next kind =>
      have word : Turns stack stack [token] := Token.turns_word (by simp [kind]) (by simp [Token.isReserved, kind])
      split
      · trivial
      · refine Passes.cons word (.bind (passes_structSegments _ rest) ?_)
        rintro ⟨ref, tokens⟩
        exact .ok rfl
    · next kind =>
      have word : Turns stack stack [token] := Token.turns_word (by simp [kind]) (by simp [Token.isReserved, kind])
      exact Passes.cons word (.ok rfl)
    · split
      · next sign =>
        cases rest with
        | nil => trivial
        | cons name rest =>
          refine Passes.cons (turns_symbol (by decide) sign) ?_
          apply Consumes.passes
          apply Consumes.of_next
          dsimp only
          split
          · next kind =>
            have word : Turns stack stack [name] :=
              Token.turns_word (by simp [kind]) (by simp [Token.isReserved, kind])
            exact Passes.cons word (.ok rfl)
          · trivial
      · trivial

omit consumes in
theorem passes_optionalStructName (tokens : List Token) :
    Passes stack stack Prod.snd tokens (optionalStructName tokens) := by
  unfold optionalStructName
  split
  · exact .ok rfl
  · refine .bind (passes_structName tokens) ?_
    rintro ⟨name, tokens⟩
    exact .ok rfl

theorem passes_mapItem (tokens : List Token) : Passes stack stack Prod.snd tokens (mapItem expr tokens) := by
  refine .bind (passes_argument consumes false tokens) ?_
  rintro ⟨item, tokens⟩
  exact .ok rfl

theorem passes_mapEntries (tokens : List Token) :
    Passes (.curly :: stack) stack Prod.snd tokens (mapEntries expr tokens) := by
  refine .bind (passes_commaItems (passes_mapItem consumes) tokens) ?_
  rintro ⟨entries, tokens⟩
  refine .bind (passes_closing rfl (by decide) tokens) ?_
  intro tokens
  exact .ok rfl

theorem passes_mapBody (tokens : List Token) :
    Passes (.curly :: stack) stack Prod.snd tokens (mapBody expr tokens) := by
  unfold mapBody
  split
  · refine .bind (passes_mapEntries consumes tokens) ?_
    rintro ⟨entries, tokens⟩
    exact .ok rfl
  · refine .bind (consumes _ _ false tokens).passes ?_
    rintro ⟨first, tokens⟩
    dsimp only
    split
    · next bar =>
      cases tokens with
      | nil => cases bar
      | cons token tokens =>
        refine (Passes.cons (turns_symbol (by decide) bar) (.bind (passes_mapEntries consumes tokens) ?_)).passes
        rintro ⟨entries, tokens⟩
        exact .ok rfl
    split
    · next found =>
      refine .comma found (.bind (passes_mapEntries consumes _) ?_)
      rintro ⟨entries, tokens⟩
      exact .ok rfl
    · refine .bind (passes_closing rfl (by decide) tokens) ?_
      intro tokens
      exact .ok rfl

theorem passes_mapLiteral (line : Nat) (tokens : List Token) :
    Passes stack stack Prod.snd tokens (mapLiteral expr line tokens) := by
  refine .bind (passes_optionalStructName tokens) ?_
  rintro ⟨struct, tokens⟩
  refine .bind (consumes_opening rfl tokens).passes ?_
  intro tokens
  refine .bind (passes_mapBody consumes tokens) ?_
  rintro ⟨⟨update, entries⟩, tokens⟩
  exact .ok rfl

theorem passes_bitstring (line : Nat) (tokens : List Token) :
    Passes (.angle :: stack) stack Prod.snd tokens (bitstring expr line tokens) := by
  refine .bind (passes_commaItems (fun tokens => (consumes _ 0 false tokens).passes) tokens) ?_
  rintro ⟨items, tokens⟩
  refine .bind (passes_closing rfl (by decide) tokens) ?_
  intro tokens
  exact .ok rfl

theorem consumes_operand (outerDo : Bool) (tokens : List Token) :
    Consumes stack stack Prod.snd tokens (operand expr outerDo tokens) := by
  cases tokens with
  | nil => trivial
  | cons token rest =>
    apply Consumes.of_next
    dsimp only
    split
    · next kind =>
      have symbol : ∀ {text : String}, token.text = text → text ∉ ["<<", ">>", "."] → Turns stack stack [token] := by
        intro text same other
        exact Token.turns_operator kind (same ▸ other)
      have apart : ∀ text ∈ prefixOperators, text ∉ ["<<", ">>", "."] := by decide
      split
      · next known =>
        refine Passes.cons (symbol rfl (apart _ (List.contains_iff_mem.mp known)))
          (.bind (consumes _ _ outerDo rest).passes ?_)
        rintro ⟨node, tokens⟩
        exact .ok rfl
      split
      · next capture =>
        refine Passes.cons (symbol capture (by decide)) (.bind (consumes _ _ outerDo rest).passes ?_)
        rintro ⟨node, tokens⟩
        exact .ok rfl
      split
      · next sign =>
        cases rest with
        | nil => trivial
        | cons first rest =>
          refine Passes.cons (symbol sign (by decide)) ?_
          apply Consumes.passes
          apply Consumes.of_next
          refine .bind (consumes_primary consumes outerDo first rest) ?_
          rintro ⟨node, tokens⟩
          refine .bind (passes_postfixes consumes outerDo node tokens) ?_
          rintro ⟨node, tokens⟩
          exact .ok rfl
      split
      · next percent =>
        refine Passes.cons (symbol percent (by decide)) (.bind (passes_mapLiteral consumes _ rest) ?_)
        rintro ⟨node, tokens⟩
        exact passes_postfixes consumes outerDo node tokens
      split
      · next angle =>
        have opens : token.effect = .opens .angle := by
          rw [Token.effect, kind, angle]
          rfl
        refine Passes.cons (Token.turns_opens opens) (.bind (passes_bitstring consumes _ rest) ?_)
        rintro ⟨node, tokens⟩
        exact passes_postfixes consumes outerDo node tokens
      · trivial
    · refine .bind (consumes_primary consumes outerDo token rest) ?_
      rintro ⟨node, tokens⟩
      exact passes_postfixes consumes outerDo node tokens

omit consumes in
/-- A binary operator is one token, or the two of `not in`. -/
theorem turns_binaryOperator? {tokens rest : List Token} {op : String} {binding : Binding}
    (found : binaryOperator? tokens = some (op, binding, rest)) :
    ∃ taken, tokens = taken ++ rest ∧ Turns stack stack taken := by
  have apart : ∀ entry ∈ binaryOperators, entry.1 ∉ ["<<", ">>", "."] := by decide
  cases tokens with
  | nil => cases found
  | cons token more =>
    simp only [binaryOperator?] at found
    split at found
    · cases found
    next kind =>
    have operator : token.kind = .operator := by simpa using kind
    split at found
    · cases found
    split at found
    · next negated =>
      have first : Turns stack stack [token] := Token.turns_operator operator (by simp [negated])
      split at found
      · next following after =>
        split at found
        · next inside =>
          obtain ⟨_, _, same⟩ := Option.map_eq_some_iff.mp found
          cases same
          exact ⟨[token, following], rfl, first.append (turns_symbol (by decide) inside)⟩
        · cases found
      · cases found
    · obtain ⟨_, known, same⟩ := Option.map_eq_some_iff.mp found
      cases same
      exact ⟨[token], rfl, Token.turns_operator operator (apart _ (mem_binaryOperators known))⟩

theorem passes_operators (floor : Nat) (outerDo : Bool) (left : Node) (tokens : List Token) :
    Passes stack stack Prod.snd tokens (operators expr floor outerDo left tokens) := by
  fun_induction operators expr floor outerDo left tokens with
  | case1 => exact .ok rfl
  | case2 => exact .ok rfl
  | case3 left tokens op binding rest found _ ih =>
    obtain ⟨taken, split, turns⟩ : ∃ taken, tokens = taken ++ rest ∧ Turns stack stack taken :=
      turns_binaryOperator? found
    refine Passes.append split turns (.bind (consumes _ _ outerDo rest).passes ?_)
    rintro ⟨right, after⟩
    dsimp only
    split
    · next shorter => exact ih right after shorter
    · exact .ok rfl

end Forms

theorem consumes_expression (depth : Nat) (stack : List Bracket) (floor : Nat) (outerDo : Bool)
    (tokens : List Token) : Consumes stack stack Prod.snd tokens (expression depth floor outerDo tokens) := by
  induction depth generalizing stack floor outerDo tokens with
  | zero => trivial
  | succ depth ih =>
    refine .bind (consumes_operand ih outerDo tokens) ?_
    rintro ⟨left, tokens⟩
    exact passes_operators ih floor outerDo left tokens

end BoundaryLint.Grammar
