import BoundaryLint.Grammar.Program
import BoundaryLint.Proofs.Token.FaultLine
import Mathlib

/-!
Where reading fails. Every step takes tokens from the front and leaves the rest as it was, so a fault
can only name the line of a token that was there to read, the first line, or no line, which stands for
the last token. The scanner fails on lines of the text too, and so does the whole reader.
-/

namespace BoundaryLint.Grammar

/-- The fault lies at one of the tokens, at the top of the text, or at its end. -/
def Fault.Within (tokens : List Token) (fault : Fault) : Prop :=
  ∀ line ∈ fault.line?, line = 1 ∨ ∃ token ∈ tokens, token.line = line

theorem Fault.Within.mono {tokens rest : List Token} {fault : Fault} (within : fault.Within rest)
    (ends : rest <:+ tokens) : fault.Within tokens := by
  intro line mem
  rcases within line mem with top | ⟨token, among, here⟩
  · exact .inl top
  · exact .inr ⟨token, ends.mem among, here⟩

/-- A step on `tokens` leaves some of them at their end, which `left` takes out of its result, or ends in
a fault within them. -/
def Takes {α : Type} (left : α → List Token) (tokens : List Token) (step : Reading α) : Prop :=
  Outcome (fun result => left result <:+ tokens) (Fault.Within tokens) step

section Steps

variable {α β : Type} {left : α → List Token} {after : β → List Token} {tokens rest : List Token}

theorem Takes.ok {result : α} (ends : left result <:+ tokens) : Takes left tokens (.ok result) := ends

theorem Takes.mono {step : Reading α} (takes : Takes left rest step) (ends : rest <:+ tokens) :
    Takes left tokens step := by
  cases step with
  | error fault => exact Fault.Within.mono takes ends
  | ok result => exact List.IsSuffix.trans takes ends

theorem Takes.bind {step : Reading α} {next : α → Reading β} (takes : Takes left tokens step)
    (later : ∀ result, left result <:+ tokens → Takes after (left result) (next result)) :
    Takes after tokens (step >>= next) :=
  Outcome.bind takes fun result ends => (later result ends).mono ends

theorem within_faultAt {token : Token} (mem : token ∈ tokens) (cause : Source.Cause) :
    (faultAt token cause).Within tokens := by
  intro line here
  cases here
  exact .inr ⟨token, mem, rfl⟩

theorem within_faultBefore (tokens : List Token) (cause : Source.Cause) :
    (faultBefore tokens cause).Within tokens := by
  intro line here
  obtain ⟨token, first, rfl⟩ := Option.map_eq_some_iff.mp here
  exact .inr ⟨token, List.mem_of_mem_head? first, rfl⟩

theorem within_faultAtTop (cause : Source.Cause) : (faultAtTop cause).Within tokens := by
  intro line here
  cases here
  exact .inl rfl

theorem within_end (cause : Source.Cause) : Fault.Within tokens ⟨cause, none⟩ := by
  intro line here
  cases here

theorem takes_next (tokens : List Token) : Takes Prod.snd tokens (next tokens) := by
  cases tokens with
  | nil => exact within_end _
  | cons token rest => exact List.suffix_cons _ _

theorem Takes.of_next {token : Token} {later : Token × List Token → Reading β}
    (takes : Takes after (token :: rest) (later (token, rest))) :
    Takes after (token :: rest) (next (token :: rest) >>= later) := takes

theorem takes_expect (kind : Token.Kind) (text : String) (tokens : List Token) :
    Takes id tokens (expect kind text tokens) := by
  cases tokens with
  | nil => exact within_end _
  | cons token rest =>
    simp only [expect]
    split
    · exact List.suffix_cons _ _
    · exact within_faultAt List.mem_cons_self _

theorem suffix_afterComma? (found : afterComma? tokens = some rest) : rest <:+ tokens := by
  cases tokens with
  | nil => cases found
  | cons token more =>
    simp only [afterComma?] at found
    split at found
    · cases found
      exact List.suffix_cons _ _
    · cases found

theorem takes_commaItems {item : List Token → Reading (α × List Token)} {stop : List Token → Bool}
    (takes : ∀ tokens, Takes Prod.snd tokens (item tokens)) (tokens : List Token) :
    Takes Prod.snd tokens (commaItems item stop tokens) := by
  fun_induction commaItems item stop tokens with
  | case1 tokens stops => exact .ok List.suffix_rfl
  | case2 tokens goes ih =>
    refine .bind (takes tokens) ?_
    rintro ⟨first, rest⟩ -
    dsimp only
    split
    · exact .ok List.suffix_rfl
    · next after found =>
      have ends := suffix_afterComma? found
      split
      · next shorter =>
        refine (Takes.bind (ih after shorter) ?_).mono ends
        rintro ⟨more, rest⟩ -
        exact .ok List.suffix_rfl
      · exact .ok ends

end Steps

section Bodies

variable {expr : ExpressionReader} (takes : ∀ floor outerDo tokens, Takes Prod.snd tokens (expr floor outerDo tokens))

theorem takes_allowHead (state : BodyState) (after : List Token) :
    Takes (fun _ => after) after (allowHead state after) := by
  unfold allowHead
  split
  · exact within_faultBefore after _
  · exact .ok List.suffix_rfl

theorem takes_checkSeparator (ends : List String) (tokens : List Token) :
    Takes (fun _ => tokens) tokens (checkSeparator ends tokens) := by
  cases tokens with
  | nil => exact .ok List.suffix_rfl
  | cons token rest =>
    simp only [checkSeparator]
    split
    · exact .ok List.suffix_rfl
    · exact within_faultAt List.mem_cons_self _

include takes

theorem takes_moreParams (tokens : List Token) : Takes Prod.snd tokens (moreParams expr tokens) := by
  unfold moreParams
  split
  · next after found => exact (takes_commaItems (takes 0 false) after).mono (suffix_afterComma? found)
  · exact .ok List.suffix_rfl

theorem takes_bodyItems (ends : List String) (state : BodyState) (tokens : List Token) :
    Takes Prod.snd tokens (bodyItems expr ends state tokens) := by
  fun_induction bodyItems expr ends state tokens with
  | case1 => exact .ok List.suffix_rfl
  | case2 => exact .ok List.suffix_rfl
  | case3 state token rest _ _ ih => exact ih.mono (List.suffix_cons _ _)
  | case4 state token rest _ _ _ ih =>
    refine (Takes.bind (takes_allowHead state rest) ?_).mono (List.suffix_cons _ _)
    intro _ _
    refine .bind ih ?_
    rintro ⟨items, after⟩ -
    exact .ok List.suffix_rfl
  | case5 state token rest _ _ _ clauses statements =>
    refine .bind (takes 0 false (token :: rest)) ?_
    rintro ⟨node, after⟩ -
    dsimp only
    split
    · refine .bind (takes_moreParams takes after) ?_
      rintro ⟨params, after⟩ -
      refine .bind (takes_expect _ _ _) ?_
      intro after _
      refine .bind (takes_allowHead state after) ?_
      intro _ _
      dsimp only
      split
      · next shorter =>
        refine .bind (clauses after shorter) ?_
        rintro ⟨items, rest⟩ -
        exact .ok List.suffix_rfl
      · exact .ok List.suffix_rfl
    · refine .bind (takes_checkSeparator ends after) ?_
      intro _ _
      split
      · next shorter =>
        refine .bind (statements after shorter) ?_
        rintro ⟨items, rest⟩ -
        exact .ok List.suffix_rfl
      · exact .ok List.suffix_rfl

theorem takes_body (ends : List String) (tokens : List Token) : Takes Prod.snd tokens (body expr ends tokens) := by
  refine .bind (takes_bodyItems takes ends .empty tokens) ?_
  rintro ⟨items, rest⟩ -
  exact .ok List.suffix_rfl

theorem takes_sections (tokens : List Token) : Takes Prod.snd tokens (sections expr tokens) := by
  fun_induction sections expr tokens with
  | case1 => exact .ok List.suffix_rfl
  | case2 token rest _ ih =>
    refine (Takes.bind (takes_body takes _ rest) ?_).mono (List.suffix_cons _ _)
    rintro ⟨nodes, after⟩ -
    dsimp only
    split
    · next shorter =>
      refine .bind (ih after shorter) ?_
      rintro ⟨more, rest⟩ -
      exact .ok List.suffix_rfl
    · exact .ok List.suffix_rfl
  | case3 => exact .ok List.suffix_rfl

theorem takes_doBlock (tokens : List Token) : Takes Prod.snd tokens (doBlock expr tokens) := by
  refine .bind (takes_expect _ _ tokens) ?_
  intro tokens _
  refine .bind (takes_body takes _ tokens) ?_
  rintro ⟨nodes, tokens⟩ -
  refine .bind (takes_sections takes tokens) ?_
  rintro ⟨more, tokens⟩ -
  refine .bind (takes_expect _ _ tokens) ?_
  intro tokens _
  exact .ok List.suffix_rfl

theorem takes_optionalDoBlock (outerDo : Bool) (tokens : List Token) :
    Takes Prod.snd tokens (optionalDoBlock expr outerDo tokens) := by
  unfold optionalDoBlock
  split
  · exact takes_doBlock takes tokens
  · exact .ok List.suffix_rfl

end Bodies

section Forms

variable {expr : ExpressionReader} (takes : ∀ floor outerDo tokens, Takes Prod.snd tokens (expr floor outerDo tokens))

include takes

theorem takes_pair (outerDo : Bool) (tokens : List Token) : Takes Prod.snd tokens (pair expr outerDo tokens) := by
  refine .bind (takes_next tokens) ?_
  rintro ⟨key, tokens⟩ -
  refine .bind (takes 0 outerDo tokens) ?_
  rintro ⟨value, tokens⟩ -
  exact .ok List.suffix_rfl

theorem takes_argument (outerDo : Bool) (tokens : List Token) :
    Takes Prod.snd tokens (argument expr outerDo tokens) := by
  unfold argument
  split
  · refine .bind (takes_pair takes outerDo tokens) ?_
    rintro ⟨node, tokens⟩ -
    exact .ok List.suffix_rfl
  · refine .bind (takes 0 outerDo tokens) ?_
    rintro ⟨node, tokens⟩ -
    exact .ok List.suffix_rfl

theorem takes_bracketed (closer : String) (tokens : List Token) :
    Takes Prod.snd tokens (bracketed expr closer tokens) := by
  refine .bind (takes_commaItems (takes_argument takes false) tokens) ?_
  rintro ⟨items, tokens⟩ -
  refine .bind (takes_expect _ _ tokens) ?_
  intro tokens _
  exact .ok List.suffix_rfl

theorem takes_parenArgs (tokens : List Token) : Takes Prod.snd tokens (parenArgs expr tokens) := by
  refine .bind (takes_expect _ _ tokens) ?_
  intro tokens _
  refine .bind (takes_bracketed takes ")" tokens) ?_
  rintro ⟨items, tokens⟩ -
  exact .ok List.suffix_rfl

theorem takes_bareArgs (tokens : List Token) : Takes Prod.snd tokens (bareArgs expr tokens) := by
  refine .bind (takes_commaItems (takes_argument takes true) tokens) ?_
  rintro ⟨items, tokens⟩ -
  exact .ok List.suffix_rfl

theorem takes_callArgs (tokens : List Token) : Takes Prod.snd tokens (callArgs expr tokens) := by
  unfold callArgs
  extract_lets adjacent
  split
  · refine .bind (takes_parenArgs takes tokens) ?_
    rintro ⟨args, tokens⟩ -
    exact .ok List.suffix_rfl
  split
  · refine .bind (takes_bareArgs takes tokens) ?_
    rintro ⟨args, tokens⟩ -
    exact .ok List.suffix_rfl
  · exact .ok List.suffix_rfl

theorem takes_identifier (outerDo : Bool) (token : Token) (tokens : List Token) :
    Takes Prod.snd tokens (identifier expr outerDo token tokens) := by
  refine .bind (takes_callArgs takes tokens) ?_
  rintro ⟨args, tokens⟩ -
  dsimp only
  split
  · exact .ok List.suffix_rfl
  · refine .bind (takes_optionalDoBlock takes outerDo tokens) ?_
    rintro ⟨⟨block, more⟩, tokens⟩ -
    exact .ok List.suffix_rfl

theorem takes_morePairs (outerDo : Bool) (tokens : List Token) :
    Takes Prod.snd tokens (morePairs expr outerDo tokens) := by
  fun_induction morePairs expr outerDo tokens with
  | case1 tokens _ => exact .ok List.suffix_rfl
  | case2 tokens after found _ ih =>
    refine (Takes.bind (takes_pair takes outerDo after) ?_).mono (suffix_afterComma? found)
    rintro ⟨node, rest⟩ -
    dsimp only
    split
    · next shorter =>
      refine .bind (ih rest shorter) ?_
      rintro ⟨more, rest⟩ -
      exact .ok List.suffix_rfl
    · exact .ok List.suffix_rfl
  | case3 tokens => exact .ok List.suffix_rfl

theorem takes_keywordList (outerDo : Bool) (tokens : List Token) (line : Nat) :
    Takes Prod.snd tokens (keywordList expr outerDo tokens line) := by
  refine .bind (takes_pair takes outerDo tokens) ?_
  rintro ⟨first, tokens⟩ -
  refine .bind (takes_morePairs takes outerDo tokens) ?_
  rintro ⟨more, tokens⟩ -
  exact .ok List.suffix_rfl

theorem takes_anonymous (line : Nat) (tokens : List Token) :
    Takes Prod.snd tokens (anonymous expr line tokens) := by
  refine .bind (takes_body takes _ tokens) ?_
  rintro ⟨nodes, tokens⟩ -
  refine .bind (takes_expect _ _ tokens) ?_
  intro tokens _
  dsimp only
  split
  · exact .ok List.suffix_rfl
  · exact .ok List.suffix_rfl

theorem takes_group (token : Token) (tokens : List Token) :
    Takes Prod.snd (token :: tokens) (group expr token tokens) := by
  unfold group
  split
  · refine (Takes.bind (takes_body takes _ tokens) ?_).mono (List.suffix_cons _ _)
    rintro ⟨nodes, tokens⟩ -
    refine .bind (takes_expect _ _ tokens) ?_
    intro tokens _
    exact .ok List.suffix_rfl
  split
  · refine (Takes.bind (takes_bracketed takes _ tokens) ?_).mono (List.suffix_cons _ _)
    rintro ⟨items, tokens⟩ -
    exact .ok List.suffix_rfl
  split
  · refine (Takes.bind (takes_bracketed takes _ tokens) ?_).mono (List.suffix_cons _ _)
    rintro ⟨items, tokens⟩ -
    exact .ok List.suffix_rfl
  · exact within_faultAt List.mem_cons_self _

omit takes in
theorem takes_numeral {α : Type} (read : Except Numeral.Fault α) (literal : α → Literal) (token : Token)
    (tokens : List Token) : Takes Prod.snd tokens (numeral read literal token tokens) := by
  unfold numeral
  split
  · exact .ok List.suffix_rfl
  · exact within_faultAtTop _

theorem takes_primary (outerDo : Bool) (token : Token) (tokens : List Token) :
    Takes Prod.snd (token :: tokens) (primary expr outerDo token tokens) := by
  have shorter : tokens <:+ token :: tokens := List.suffix_cons _ _
  unfold primary
  split
  · exact (takes_identifier takes outerDo token tokens).mono shorter
  · split
    · exact .ok shorter
    · exact .ok shorter
  · exact .ok shorter
  · exact (takes_numeral _ _ token tokens).mono shorter
  · exact (takes_numeral _ _ token tokens).mono shorter
  · exact .ok shorter
  · exact .ok shorter
  · exact .ok shorter
  · exact .ok shorter
  · exact takes_keywordList takes outerDo (token :: tokens) token.line
  · split
    · exact (takes_anonymous takes token.line tokens).mono shorter
    · exact within_faultAt List.mem_cons_self _
  · exact takes_group takes token tokens
  · exact within_faultAt List.mem_cons_self _

theorem takes_afterDot (outerDo : Bool) (target : Node) (tokens : List Token) :
    Takes Prod.snd tokens (afterDot expr outerDo target tokens) := by
  cases tokens with
  | nil => exact within_end _
  | cons token rest =>
    have shorter : rest <:+ token :: rest := List.suffix_cons _ _
    have named : ∀ cause, (faultAt token cause).Within (token :: rest) :=
      within_faultAt List.mem_cons_self
    have remote : Takes Prod.snd (token :: rest) (callArgs expr rest >>= fun found =>
        pure (Node.call (some target) token.text (found.1.getD []) [] [] token.line, found.2)) := by
      refine (Takes.bind (takes_callArgs takes rest) ?_).mono shorter
      rintro ⟨args, tokens⟩ -
      exact .ok List.suffix_rfl
    apply Takes.of_next
    dsimp only
    split
    · split
      · split
        · exact .ok shorter
        · exact named _
      · exact .ok shorter
    · refine (Takes.bind (takes_callArgs takes rest) ?_).mono shorter
      rintro ⟨args, tokens⟩ -
      refine .bind (takes_optionalDoBlock takes outerDo tokens) ?_
      rintro ⟨⟨block, more⟩, tokens⟩ -
      exact .ok List.suffix_rfl
    · split
      · refine .bind (takes_parenArgs takes (token :: rest)) ?_
        rintro ⟨args, tokens⟩ -
        exact .ok List.suffix_rfl
      split
      · refine (Takes.bind (takes_bracketed takes _ rest) ?_).mono shorter
        rintro ⟨items, tokens⟩ -
        exact .ok List.suffix_rfl
      · exact named _
    · split
      · exact named _
      · exact remote
    · split
      · exact named _
      · exact remote
    · exact named _

theorem takes_postfixes (outerDo : Bool) (node : Node) (tokens : List Token) :
    Takes Prod.snd tokens (postfixes expr outerDo node tokens) := by
  fun_induction postfixes expr outerDo node tokens with
  | case1 => exact .ok List.suffix_rfl
  | case2 node token rest _ ih =>
    refine (Takes.bind (takes_afterDot takes outerDo node rest) ?_).mono (List.suffix_cons _ _)
    rintro ⟨node, after⟩ -
    dsimp only
    split
    · next shorter => exact ih node after shorter
    · exact .ok List.suffix_rfl
  | case3 node token rest _ _ ih =>
    refine (Takes.bind (takes 0 false rest) ?_).mono (List.suffix_cons _ _)
    rintro ⟨index, after⟩ -
    refine .bind (takes_expect _ _ after) ?_
    intro after _
    dsimp only
    split
    · next shorter => exact ih index after shorter
    · exact .ok List.suffix_rfl
  | case4 => exact .ok List.suffix_rfl

omit takes in
theorem takes_structSegments (ref : ModuleRef) (tokens : List Token) :
    Takes Prod.snd tokens (structSegments ref tokens) := by
  fun_induction structSegments ref tokens with
  | case1 ref dot segment rest _ _ ih =>
    exact ih.mono ((List.suffix_cons _ _).trans (List.suffix_cons _ _))
  | case2 => exact within_faultAtTop _
  | case3 => exact .ok List.suffix_rfl
  | case4 => exact .ok List.suffix_rfl

omit takes in
theorem takes_structName (tokens : List Token) : Takes Prod.snd tokens (structName tokens) := by
  cases tokens with
  | nil => exact within_end _
  | cons token rest =>
    have shorter : rest <:+ token :: rest := List.suffix_cons _ _
    have named : ∀ cause, (faultAt token cause).Within (token :: rest) :=
      within_faultAt List.mem_cons_self
    apply Takes.of_next
    dsimp only
    split
    · split
      · exact named _
      · refine (Takes.bind (takes_structSegments _ rest) ?_).mono shorter
        rintro ⟨ref, tokens⟩ -
        exact .ok List.suffix_rfl
    · exact .ok shorter
    · split
      · cases rest with
        | nil => exact within_end _
        | cons name rest =>
          refine Takes.mono ?_ shorter
          apply Takes.of_next
          dsimp only
          split
          · exact .ok (List.suffix_cons _ _)
          · exact within_faultAt List.mem_cons_self _
      · exact named _

omit takes in
theorem takes_optionalStructName (tokens : List Token) :
    Takes Prod.snd tokens (optionalStructName tokens) := by
  unfold optionalStructName
  split
  · exact .ok List.suffix_rfl
  · refine .bind (takes_structName tokens) ?_
    rintro ⟨name, tokens⟩ -
    exact .ok List.suffix_rfl

theorem takes_mapItem (tokens : List Token) : Takes Prod.snd tokens (mapItem expr tokens) := by
  refine .bind (takes_argument takes false tokens) ?_
  rintro ⟨item, tokens⟩ -
  exact .ok List.suffix_rfl

theorem takes_mapEntries (tokens : List Token) : Takes Prod.snd tokens (mapEntries expr tokens) := by
  refine .bind (takes_commaItems (takes_mapItem takes) tokens) ?_
  rintro ⟨entries, tokens⟩ -
  refine .bind (takes_expect _ _ tokens) ?_
  intro tokens _
  exact .ok List.suffix_rfl

theorem takes_mapBody (tokens : List Token) : Takes Prod.snd tokens (mapBody expr tokens) := by
  unfold mapBody
  split
  · refine .bind (takes_mapEntries takes tokens) ?_
    rintro ⟨entries, tokens⟩ -
    exact .ok List.suffix_rfl
  · refine .bind (takes _ false tokens) ?_
    rintro ⟨first, tokens⟩ -
    dsimp only
    split
    · refine (Takes.bind (takes_mapEntries takes (tokens.drop 1)) ?_).mono (List.drop_suffix 1 tokens)
      rintro ⟨entries, tokens⟩ -
      exact .ok List.suffix_rfl
    split
    · next found =>
      refine (Takes.bind (takes_mapEntries takes _) ?_).mono (suffix_afterComma? found)
      rintro ⟨entries, tokens⟩ -
      exact .ok List.suffix_rfl
    · refine .bind (takes_expect _ _ tokens) ?_
      intro tokens _
      exact .ok List.suffix_rfl

theorem takes_mapLiteral (line : Nat) (tokens : List Token) :
    Takes Prod.snd tokens (mapLiteral expr line tokens) := by
  refine .bind (takes_optionalStructName tokens) ?_
  rintro ⟨struct, tokens⟩ -
  refine .bind (takes_expect _ _ tokens) ?_
  intro tokens _
  refine .bind (takes_mapBody takes tokens) ?_
  rintro ⟨⟨update, entries⟩, tokens⟩ -
  exact .ok List.suffix_rfl

theorem takes_bitstring (line : Nat) (tokens : List Token) :
    Takes Prod.snd tokens (bitstring expr line tokens) := by
  refine .bind (takes_commaItems (takes 0 false) tokens) ?_
  rintro ⟨items, tokens⟩ -
  refine .bind (takes_expect _ _ tokens) ?_
  intro tokens _
  exact .ok List.suffix_rfl

theorem takes_operand (outerDo : Bool) (tokens : List Token) :
    Takes Prod.snd tokens (operand expr outerDo tokens) := by
  cases tokens with
  | nil => exact within_end _
  | cons token rest =>
    have shorter : rest <:+ token :: rest := List.suffix_cons _ _
    apply Takes.of_next
    dsimp only
    split
    · split
      · refine (Takes.bind (takes _ outerDo rest) ?_).mono shorter
        rintro ⟨node, tokens⟩ -
        exact .ok List.suffix_rfl
      split
      · refine (Takes.bind (takes _ outerDo rest) ?_).mono shorter
        rintro ⟨node, tokens⟩ -
        exact .ok List.suffix_rfl
      split
      · cases rest with
        | nil => exact within_end _
        | cons first rest =>
          refine Takes.mono ?_ shorter
          apply Takes.of_next
          refine .bind (takes_primary takes outerDo first rest) ?_
          rintro ⟨node, tokens⟩ -
          refine .bind (takes_postfixes takes outerDo node tokens) ?_
          rintro ⟨node, tokens⟩ -
          exact .ok List.suffix_rfl
      split
      · refine (Takes.bind (takes_mapLiteral takes _ rest) ?_).mono shorter
        rintro ⟨node, tokens⟩ -
        exact takes_postfixes takes outerDo node tokens
      split
      · refine (Takes.bind (takes_bitstring takes _ rest) ?_).mono shorter
        rintro ⟨node, tokens⟩ -
        exact takes_postfixes takes outerDo node tokens
      · exact within_faultAt List.mem_cons_self _
    · refine .bind (takes_primary takes outerDo token rest) ?_
      rintro ⟨node, tokens⟩ -
      exact takes_postfixes takes outerDo node tokens

omit takes in
theorem suffix_binaryOperator? {tokens rest : List Token} {op : String} {binding : Binding}
    (found : binaryOperator? tokens = some (op, binding, rest)) : rest <:+ tokens := by
  cases tokens with
  | nil => cases found
  | cons token more =>
    simp only [binaryOperator?] at found
    split at found
    · cases found
    split at found
    · cases found
    split at found
    · split at found
      · next following after =>
        split at found
        · obtain ⟨_, _, same⟩ := Option.map_eq_some_iff.mp found
          cases same
          exact (List.suffix_cons _ _).trans (List.suffix_cons _ _)
        · cases found
      · cases found
    · obtain ⟨_, _, same⟩ := Option.map_eq_some_iff.mp found
      cases same
      exact List.suffix_cons _ _

theorem takes_operators (floor : Nat) (outerDo : Bool) (left : Node) (tokens : List Token) :
    Takes Prod.snd tokens (operators expr floor outerDo left tokens) := by
  fun_induction operators expr floor outerDo left tokens with
  | case1 => exact .ok List.suffix_rfl
  | case2 => exact .ok List.suffix_rfl
  | case3 left tokens op binding rest found _ ih =>
    refine (Takes.bind (takes _ outerDo rest) ?_).mono (suffix_binaryOperator? found)
    rintro ⟨right, after⟩ -
    dsimp only
    split
    · next shorter => exact ih right after shorter
    · exact .ok List.suffix_rfl

end Forms

/-- Every step of reading an expression passes tokens from the front on, and a fault lies within them. -/
theorem takes_expression (depth floor : Nat) (outerDo : Bool) (tokens : List Token) :
    Takes Prod.snd tokens (expression depth floor outerDo tokens) := by
  induction depth generalizing floor outerDo tokens with
  | zero => exact within_faultAtTop _
  | succ depth ih =>
    refine .bind (takes_operand ih outerDo tokens) ?_
    rintro ⟨left, tokens⟩ -
    exact takes_operators ih floor outerDo left tokens

/-- Reading tokens fails at a place. -/
theorem fault_of_program {depth : Nat} {tokens : List Token} {fault : Source.Fault}
    (failed : program depth tokens = .error fault) : ∃ cause line, fault = .at cause line := by
  unfold program at failed
  split at failed
  · cases failed
  · cases failed
    exact ⟨_, _, rfl⟩

theorem program_between {first last : Nat} {tokens : List Token} (top : first ≤ 1 ∧ 1 ≤ last)
    (placed : ∀ token ∈ tokens, first ≤ token.line ∧ token.line ≤ last) (depth : Nat) :
    Outcome (fun _ => True) (Source.Fault.Between first last) (program depth tokens) := by
  have read := takes_body (takes_expression depth) [] tokens
  unfold program
  cases outcome : body (expression depth) [] tokens with
  | ok result => trivial
  | error fault =>
    rw [outcome] at read
    have ending : first ≤ (tokens.getLast?.map (·.line)).getD 1 ∧ (tokens.getLast?.map (·.line)).getD 1 ≤ last := by
      cases final : tokens.getLast? with
      | none => exact top
      | some token => exact placed token (List.mem_of_getLast? final)
    show first ≤ fault.line?.getD _ ∧ fault.line?.getD _ ≤ last
    cases here : fault.line? with
    | none => exact ending
    | some line =>
      rcases read line here with rfl | ⟨token, among, rfl⟩
      · exact top
      · exact placed token among

/-- A source text is refused on one of its lines. -/
theorem parse_between [Host] (source : String) :
    Outcome (fun _ => True) (Source.Fault.Between 1 (1 + Token.breaks (Token.unifyBreaks source.toList)))
      (parse source) := by
  refine Outcome.bind (Token.scanFrom_between 1 (Token.unifyBreaks source.toList)) ?_
  intro tokens placed
  exact program_between ⟨Nat.le_refl _, Nat.le_add_right _ _⟩ placed Host.expressionNesting

theorem one_le_of_parse [Host] {source : String} {cause : Source.Cause} {line : Nat}
    (refused : parse source = .error (.at cause line)) : 1 ≤ line := by
  have between := parse_between source
  rw [refused] at between
  exact between.1

end BoundaryLint.Grammar
