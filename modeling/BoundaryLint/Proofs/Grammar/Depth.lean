import BoundaryLint.Proofs.Grammar.FaultLine
import Mathlib

/-!
How deeply reading nests. Every form has a token of its own in front of the expressions that it reads, so that
expressions nest no more deeply than there are tokens. A reader that may nest more deeply than that never gives up
because of the depth, and reads as any other such reader does.
-/

namespace BoundaryLint.Grammar

/-- Two readers take the same step. It leaves fewer tokens than `limit`, or it fails, but not because of the depth. -/
def Settles {α : Type} (limit : Nat) (left : α → List Token) (step step' : Reading α) : Prop :=
  step = step' ∧ Outcome (fun result => (left result).length < limit) (fun fault => fault.cause ≠ .nestingTooDeep) step

section Steps

variable {α β : Type} {limit : Nat} {left : α → List Token} {after : β → List Token} {tokens rest : List Token}

theorem Settles.ok {result : α} (short : (left result).length < limit) :
    Settles limit left (.ok result) (.ok result) := ⟨rfl, short⟩

theorem Settles.error {fault : Fault} (other : fault.cause ≠ .nestingTooDeep) :
    Settles limit left (.error fault) (.error fault) := ⟨rfl, other⟩

theorem Settles.ite {c : Prop} [Decidable c] {yes yes' no no' : Reading α} (holds : c → Settles limit left yes yes')
    (fails : ¬c → Settles limit left no no') :
    Settles limit left (if c then yes else no) (if c then yes' else no') := by
  by_cases h : c
  · rw [if_pos h, if_pos h]
    exact holds h
  · rw [if_neg h, if_neg h]
    exact fails h

theorem Settles.bind {step step' : Reading α} {next next' : α → Reading β} (settles : Settles limit left step step')
    (later : ∀ result, (left result).length < limit → Settles limit after (next result) (next' result)) :
    Settles limit after (step >>= next) (step' >>= next') := by
  obtain ⟨rfl, outcome⟩ := settles
  cases step with
  | error fault => exact ⟨rfl, outcome⟩
  | ok result => exact later result outcome

theorem Settles.mono {step step' : Reading α} {bound : Nat} (settles : Settles limit left step step')
    (most : limit ≤ bound) : Settles bound left step step' := by
  obtain ⟨rfl, outcome⟩ := settles
  cases step with
  | error fault => exact ⟨rfl, outcome⟩
  | ok result => exact ⟨rfl, Nat.lt_of_lt_of_le outcome most⟩

theorem settles_next (short : tokens.length ≤ limit) : Settles limit Prod.snd (next tokens) (next tokens) := by
  cases tokens with
  | nil => exact .error (by decide)
  | cons token rest => exact .ok short

theorem Settles.of_next {token : Token} {later later' : Token × List Token → Reading β}
    (settles : Settles limit after (later (token, rest)) (later' (token, rest))) :
    Settles limit after (next (token :: rest) >>= later) (next (token :: rest) >>= later') := settles

theorem settles_expect (kind : Token.Kind) (text : String) (short : tokens.length ≤ limit) :
    Settles limit id (expect kind text tokens) (expect kind text tokens) := by
  cases tokens with
  | nil => exact .error (by simp)
  | cons token rest =>
    simp only [expect]
    split
    · exact .ok short
    · exact .error (by simp [faultAt])

theorem short_of_suffix (ends : rest <:+ tokens) (short : tokens.length < limit) : rest.length < limit :=
  Nat.lt_of_le_of_lt ends.length_le short

theorem settles_commaItems {item item' : List Token → Reading (α × List Token)} {stop : List Token → Bool}
    (settles : ∀ tokens, tokens.length < limit → Settles limit Prod.snd (item tokens) (item' tokens))
    (tokens : List Token) (short : tokens.length < limit) :
    Settles limit Prod.snd (commaItems item stop tokens) (commaItems item' stop tokens) := by
  fun_induction commaItems item stop tokens with
  | case1 tokens stops =>
    rw [commaItems, if_pos stops]
    exact .ok short
  | case2 tokens goes ih =>
    rw [commaItems, if_neg goes]
    refine .bind (settles tokens short) ?_
    rintro ⟨first, rest⟩ fewer
    dsimp only
    cases found : afterComma? rest with
    | none => exact .ok fewer
    | some after =>
      have fewest : after.length < limit := short_of_suffix (suffix_afterComma? found) fewer
      dsimp only
      apply Settles.ite
      · intro shorter
        refine .bind (ih after shorter fewest) ?_
        rintro ⟨more, rest⟩ short
        exact .ok short
      · intro _
        exact .ok fewest

end Steps

def Agree (limit : Nat) (expr expr' : ExpressionReader) : Prop :=
  ∀ floor outerDo tokens, tokens.length < limit →
    Settles limit Prod.snd (expr floor outerDo tokens) (expr' floor outerDo tokens)

section Bodies

variable {limit : Nat} {expr expr' : ExpressionReader} {tokens : List Token}

theorem settles_allowHead (state : BodyState) (short : tokens.length < limit) :
    Settles limit (fun _ => tokens) (allowHead state tokens) (allowHead state tokens) := by
  unfold allowHead
  split
  · exact .error (by simp [faultBefore])
  · exact .ok short

theorem settles_checkSeparator (ends : List String) (short : tokens.length < limit) :
    Settles limit (fun _ => tokens) (checkSeparator ends tokens) (checkSeparator ends tokens) := by
  cases tokens with
  | nil => exact .ok short
  | cons token rest =>
    simp only [checkSeparator]
    split
    · exact .ok short
    · exact .error (by simp [faultAt])

variable (agree : Agree limit expr expr')

include agree

theorem settles_moreParams (short : tokens.length < limit) :
    Settles limit Prod.snd (moreParams expr tokens) (moreParams expr' tokens) := by
  unfold moreParams
  cases found : afterComma? tokens with
  | none => exact .ok short
  | some after =>
    exact settles_commaItems (agree 0 false) after (short_of_suffix (suffix_afterComma? found) short)

theorem settles_bodyItems (ends : List String) (state : BodyState) (tokens : List Token)
    (short : tokens.length < limit) :
    Settles limit Prod.snd (bodyItems expr ends state tokens) (bodyItems expr' ends state tokens) := by
  fun_induction bodyItems expr ends state tokens with
  | case1 =>
    rw [bodyItems]
    exact .ok short
  | case2 state token rest stops =>
    rw [bodyItems, if_pos stops]
    exact .ok short
  | case3 state token rest goes separates ih =>
    rw [bodyItems, if_neg goes, if_pos separates]
    exact ih (Nat.lt_of_succ_lt short)
  | case4 state token rest goes other arrow ih =>
    have fewer : rest.length < limit := Nat.lt_of_succ_lt short
    rw [bodyItems, if_neg goes, if_neg other, if_pos arrow]
    refine .bind (settles_allowHead state fewer) ?_
    intro _ _
    refine .bind (ih fewer) ?_
    rintro ⟨items, after⟩ short
    exact .ok short
  | case5 state token rest goes other plain clauses statements =>
    rw [bodyItems, if_neg goes, if_neg other, if_neg plain]
    refine .bind (agree 0 false (token :: rest) short) ?_
    rintro ⟨node, after⟩ fewer
    dsimp only
    apply Settles.ite
    · intro head
      refine .bind (settles_moreParams agree fewer) ?_
      rintro ⟨params, after⟩ fewer
      refine .bind (settles_expect _ _ (Nat.le_of_lt fewer)) ?_
      intro after fewer
      refine .bind (settles_allowHead state fewer) ?_
      intro _ _
      apply Settles.ite
      · intro shorter
        refine .bind (clauses after shorter fewer) ?_
        rintro ⟨items, rest⟩ short
        exact .ok short
      · intro _
        exact .ok fewer
    · intro _
      refine .bind (settles_checkSeparator ends fewer) ?_
      intro _ _
      apply Settles.ite
      · intro shorter
        refine .bind (statements after shorter fewer) ?_
        rintro ⟨items, rest⟩ short
        exact .ok short
      · intro _
        exact .ok fewer

theorem settles_body (ends : List String) (short : tokens.length < limit) :
    Settles limit Prod.snd (body expr ends tokens) (body expr' ends tokens) := by
  refine .bind (settles_bodyItems agree ends .empty tokens short) ?_
  rintro ⟨items, rest⟩ fewer
  exact .ok fewer

theorem settles_sections (tokens : List Token) (short : tokens.length < limit) :
    Settles limit Prod.snd (sections expr tokens) (sections expr' tokens) := by
  fun_induction sections expr tokens with
  | case1 =>
    rw [sections]
    exact .ok short
  | case2 token rest opens ih =>
    rw [sections, if_pos opens]
    refine .bind (settles_body agree _ (Nat.lt_of_succ_lt short)) ?_
    rintro ⟨nodes, after⟩ fewer
    dsimp only
    apply Settles.ite
    · intro shorter
      refine .bind (ih after shorter fewer) ?_
      rintro ⟨more, rest⟩ short
      exact .ok short
    · intro _
      exact .ok fewer
  | case3 token rest other =>
    rw [sections, if_neg other]
    exact .ok short

theorem settles_doBlock (short : tokens.length ≤ limit) :
    Settles limit Prod.snd (doBlock expr tokens) (doBlock expr' tokens) := by
  refine .bind (settles_expect _ _ short) ?_
  intro tokens fewer
  refine .bind (settles_body agree _ fewer) ?_
  rintro ⟨nodes, tokens⟩ fewer
  refine .bind (settles_sections agree tokens fewer) ?_
  rintro ⟨more, tokens⟩ fewer
  refine .bind (settles_expect _ _ (Nat.le_of_lt fewer)) ?_
  intro tokens fewer
  exact .ok fewer

theorem settles_optionalDoBlock (outerDo : Bool) (short : tokens.length < limit) :
    Settles limit Prod.snd (optionalDoBlock expr outerDo tokens) (optionalDoBlock expr' outerDo tokens) := by
  unfold optionalDoBlock
  apply Settles.ite
  · intro own
    exact settles_doBlock agree (Nat.le_of_lt short)
  · intro _
    exact .ok short

end Bodies

section Forms

variable {limit : Nat} {expr expr' : ExpressionReader} {tokens : List Token} (agree : Agree limit expr expr')

include agree

theorem settles_pair (outerDo : Bool) (short : tokens.length ≤ limit) :
    Settles limit Prod.snd (pair expr outerDo tokens) (pair expr' outerDo tokens) := by
  refine .bind (settles_next short) ?_
  rintro ⟨key, tokens⟩ fewer
  refine .bind (agree 0 outerDo tokens fewer) ?_
  rintro ⟨value, tokens⟩ fewer
  exact .ok fewer

theorem settles_argument (outerDo : Bool) (short : tokens.length < limit) :
    Settles limit Prod.snd (argument expr outerDo tokens) (argument expr' outerDo tokens) := by
  unfold argument
  apply Settles.ite
  · intro key
    refine .bind (settles_pair agree outerDo (Nat.le_of_lt short)) ?_
    rintro ⟨node, tokens⟩ fewer
    exact .ok fewer
  · intro _
    refine .bind (agree 0 outerDo tokens short) ?_
    rintro ⟨node, tokens⟩ fewer
    exact .ok fewer

theorem settles_arguments (outerDo : Bool) (stop : List Token → Bool) (short : tokens.length < limit) :
    Settles limit Prod.snd (commaItems (argument expr outerDo) stop tokens)
      (commaItems (argument expr' outerDo) stop tokens) :=
  settles_commaItems (fun _ short => settles_argument agree outerDo short) tokens short

theorem settles_bracketed (closer : String) (short : tokens.length < limit) :
    Settles limit Prod.snd (bracketed expr closer tokens) (bracketed expr' closer tokens) := by
  refine .bind (settles_arguments agree false _ short) ?_
  rintro ⟨items, tokens⟩ fewer
  refine .bind (settles_expect _ _ (Nat.le_of_lt fewer)) ?_
  intro tokens fewer
  exact .ok fewer

theorem settles_parenArgs (short : tokens.length ≤ limit) :
    Settles limit Prod.snd (parenArgs expr tokens) (parenArgs expr' tokens) := by
  refine .bind (settles_expect _ _ short) ?_
  intro tokens fewer
  refine .bind (settles_bracketed agree ")" fewer) ?_
  rintro ⟨items, tokens⟩ fewer
  exact .ok fewer

theorem settles_bareArgs (short : tokens.length < limit) :
    Settles limit Prod.snd (bareArgs expr tokens) (bareArgs expr' tokens) := by
  refine .bind (settles_arguments agree true _ short) ?_
  rintro ⟨items, tokens⟩ fewer
  exact .ok fewer

theorem settles_callArgs (short : tokens.length < limit) :
    Settles limit Prod.snd (callArgs expr tokens) (callArgs expr' tokens) := by
  unfold callArgs
  extract_lets adjacent
  apply Settles.ite
  · intro parens
    refine .bind (settles_parenArgs agree (Nat.le_of_lt short)) ?_
    rintro ⟨args, tokens⟩ fewer
    exact .ok fewer
  intro _
  apply Settles.ite
  · intro bare
    refine .bind (settles_bareArgs agree short) ?_
    rintro ⟨args, tokens⟩ fewer
    exact .ok fewer
  · intro _
    exact .ok short

theorem settles_identifier (outerDo : Bool) (token : Token) (short : tokens.length < limit) :
    Settles limit Prod.snd (identifier expr outerDo token tokens) (identifier expr' outerDo token tokens) := by
  refine .bind (settles_callArgs agree short) ?_
  rintro ⟨args, tokens⟩ fewer
  dsimp only
  apply Settles.ite
  · intro plain
    exact .ok fewer
  · intro _
    refine .bind (settles_optionalDoBlock agree outerDo fewer) ?_
    rintro ⟨⟨block, more⟩, tokens⟩ fewer
    exact .ok fewer

theorem settles_morePairs (outerDo : Bool) (tokens : List Token) (short : tokens.length < limit) :
    Settles limit Prod.snd (morePairs expr outerDo tokens) (morePairs expr' outerDo tokens) := by
  fun_induction morePairs expr outerDo tokens with
  | case1 tokens none =>
    rw [morePairs, none]
    exact .ok short
  | case2 tokens after found key ih =>
    have fewer : after.length < limit := short_of_suffix (suffix_afterComma? found) short
    rw [morePairs, found]
    dsimp only
    rw [if_pos key]
    refine .bind (settles_pair agree outerDo (Nat.le_of_lt fewer)) ?_
    rintro ⟨node, rest⟩ fewer
    dsimp only
    apply Settles.ite
    · intro shorter
      refine .bind (ih rest shorter fewer) ?_
      rintro ⟨more, rest⟩ short
      exact .ok short
    · intro _
      exact .ok fewer
  | case3 tokens after found other =>
    rw [morePairs, found]
    dsimp only
    rw [if_neg other]
    exact .ok short

theorem settles_keywordList (outerDo : Bool) (line : Nat) (short : tokens.length ≤ limit) :
    Settles limit Prod.snd (keywordList expr outerDo tokens line) (keywordList expr' outerDo tokens line) := by
  refine .bind (settles_pair agree outerDo short) ?_
  rintro ⟨first, tokens⟩ fewer
  refine .bind (settles_morePairs agree outerDo tokens fewer) ?_
  rintro ⟨more, tokens⟩ fewer
  exact .ok fewer

theorem settles_anonymous (line : Nat) (short : tokens.length < limit) :
    Settles limit Prod.snd (anonymous expr line tokens) (anonymous expr' line tokens) := by
  refine .bind (settles_body agree _ short) ?_
  rintro ⟨nodes, tokens⟩ fewer
  refine .bind (settles_expect _ _ (Nat.le_of_lt fewer)) ?_
  intro tokens fewer
  dsimp only
  split
  · exact .ok fewer
  · exact .ok fewer

theorem settles_group (token : Token) (short : tokens.length < limit) :
    Settles limit Prod.snd (group expr token tokens) (group expr' token tokens) := by
  unfold group
  apply Settles.ite
  · intro paren
    refine .bind (settles_body agree _ short) ?_
    rintro ⟨nodes, tokens⟩ fewer
    refine .bind (settles_expect _ _ (Nat.le_of_lt fewer)) ?_
    intro tokens fewer
    exact .ok fewer
  intro _
  apply Settles.ite
  · intro square
    refine .bind (settles_bracketed agree _ short) ?_
    rintro ⟨items, tokens⟩ fewer
    exact .ok fewer
  intro _
  apply Settles.ite
  · intro curly
    refine .bind (settles_bracketed agree _ short) ?_
    rintro ⟨items, tokens⟩ fewer
    exact .ok fewer
  · intro _
    exact .error (by simp [faultAt])

omit agree in
theorem settles_numeral {α : Type} (read : Except Numeral.Fault α) (literal : α → Literal) (token : Token)
    (short : tokens.length < limit) :
    Settles limit Prod.snd (numeral read literal token tokens) (numeral read literal token tokens) := by
  unfold numeral
  split
  · exact .ok short
  · exact .error (by simp [faultAtTop])

theorem settles_primary (outerDo : Bool) (token : Token) (short : tokens.length < limit) :
    Settles limit Prod.snd (primary expr outerDo token tokens) (primary expr' outerDo token tokens) := by
  unfold primary
  cases token.kind with
  | identifier => exact settles_identifier agree outerDo token short
  | «alias» =>
    dsimp only
    split
    · exact .ok short
    · exact .ok short
  | atom | string | charlist | sigil | literal => exact .ok short
  | integer | float => exact settles_numeral _ _ token short
  | key =>
    -- The token counts again, as the list of keywords starts with it.
    exact settles_keywordList agree outerDo token.line short
  | keyword =>
    dsimp only
    apply Settles.ite
    · intro function
      exact settles_anonymous agree token.line short
    · intro _
      exact .error (by simp [faultAt])
  | punctuation => exact settles_group agree token short
  | operator => exact .error (by simp [faultAt])

theorem settles_afterDot (outerDo : Bool) (target : Node) (short : tokens.length ≤ limit) :
    Settles limit Prod.snd (afterDot expr outerDo target tokens) (afterDot expr' outerDo target tokens) := by
  cases tokens with
  | nil => exact .error (by decide)
  | cons token rest =>
    have remote : Settles limit Prod.snd
        (callArgs expr rest >>= fun found =>
          pure (Node.call (some target) token.text (found.1.getD []) [] [] token.line, found.2))
        (callArgs expr' rest >>= fun found =>
          pure (Node.call (some target) token.text (found.1.getD []) [] [] token.line, found.2)) := by
      refine .bind (settles_callArgs agree short) ?_
      rintro ⟨args, tokens⟩ fewer
      exact .ok fewer
    refine Settles.of_next ?_
    dsimp only
    cases token.kind with
    | «alias» =>
      cases target with
      | «alias» ref line =>
        dsimp only
        split
        · exact .ok short
        · exact .error (by simp [faultAt])
      | _ => exact .ok short
    | identifier =>
      refine .bind (settles_callArgs agree short) ?_
      rintro ⟨args, tokens⟩ fewer
      refine .bind (settles_optionalDoBlock agree outerDo fewer) ?_
      rintro ⟨⟨block, more⟩, tokens⟩ fewer
      exact .ok fewer
    | punctuation =>
      dsimp only
      apply Settles.ite
      · intro paren
        -- The parenthesis counts again, as the arguments start with it.
        have counted : (token :: rest).length ≤ limit := short
        refine .bind (settles_parenArgs agree counted) ?_
        rintro ⟨args, tokens⟩ fewer
        exact .ok fewer
      intro _
      apply Settles.ite
      · intro curly
        refine .bind (settles_bracketed agree _ short) ?_
        rintro ⟨items, tokens⟩ fewer
        exact .ok fewer
      · intro _
        exact .error (by simp [faultAt])
    | keyword | operator =>
      dsimp only
      apply Settles.ite
      · intro point
        exact .error (by simp [faultAt])
      · intro _
        exact remote
    | _ => exact .error (by simp [faultAt])

theorem settles_postfixes (outerDo : Bool) (node : Node) (tokens : List Token) (short : tokens.length < limit) :
    Settles limit Prod.snd (postfixes expr outerDo node tokens) (postfixes expr' outerDo node tokens) := by
  fun_induction postfixes expr outerDo node tokens with
  | case1 =>
    rw [postfixes]
    exact .ok short
  | case2 node token rest point ih =>
    rw [postfixes, if_pos point]
    refine .bind (settles_afterDot agree outerDo node (Nat.le_of_lt (Nat.lt_of_succ_lt short))) ?_
    rintro ⟨node, after⟩ fewer
    dsimp only
    apply Settles.ite
    · intro shorter
      exact ih node after shorter fewer
    · intro _
      exact .ok fewer
  | case3 node token rest other opens ih =>
    rw [postfixes, if_neg other, if_pos opens]
    refine .bind (agree 0 false rest (Nat.lt_of_succ_lt short)) ?_
    rintro ⟨index, after⟩ fewer
    refine .bind (settles_expect _ _ (Nat.le_of_lt fewer)) ?_
    intro after fewer
    dsimp only
    apply Settles.ite
    · intro shorter
      exact ih index after shorter fewer
    · intro _
      exact .ok fewer
  | case4 node token rest other neither =>
    rw [postfixes, if_neg other, if_neg neither]
    exact .ok short

omit agree in
theorem settles_structSegments (ref : ModuleRef) (tokens : List Token) (short : tokens.length < limit) :
    Settles limit Prod.snd (structSegments ref tokens) (structSegments ref tokens) := by
  fun_induction structSegments ref tokens with
  | case1 ref dot segment rest _ _ ih => exact ih (Nat.lt_of_succ_lt (Nat.lt_of_succ_lt short))
  | case2 => exact .error (by simp [faultAtTop])
  | case3 => exact .ok short
  | case4 => exact .ok short

omit agree in
theorem settles_structName (short : tokens.length ≤ limit) :
    Settles limit Prod.snd (structName tokens) (structName tokens) := by
  refine .bind (settles_next short) ?_
  rintro ⟨token, rest⟩ fewer
  dsimp only
  split
  · split
    · exact .error (by simp [faultAt])
    · refine .bind (settles_structSegments _ rest fewer) ?_
      rintro ⟨ref, tokens⟩ fewer
      exact .ok fewer
  · exact .ok fewer
  · split
    · refine .bind (settles_next (Nat.le_of_lt fewer)) ?_
      rintro ⟨name, rest⟩ fewer
      dsimp only
      split
      · exact .ok fewer
      · exact .error (by simp [faultAt])
    · exact .error (by simp [faultAt])

omit agree in
theorem settles_optionalStructName (short : tokens.length < limit) :
    Settles limit Prod.snd (optionalStructName tokens) (optionalStructName tokens) := by
  unfold optionalStructName
  split
  · exact .ok short
  · refine .bind (settles_structName (Nat.le_of_lt short)) ?_
    rintro ⟨name, tokens⟩ fewer
    exact .ok fewer

theorem settles_mapItem (short : tokens.length < limit) :
    Settles limit Prod.snd (mapItem expr tokens) (mapItem expr' tokens) := by
  refine .bind (settles_argument agree false short) ?_
  rintro ⟨item, tokens⟩ fewer
  exact .ok fewer

theorem settles_mapEntries (short : tokens.length < limit) :
    Settles limit Prod.snd (mapEntries expr tokens) (mapEntries expr' tokens) := by
  refine .bind (settles_commaItems (fun _ short => settles_mapItem agree short) tokens short) ?_
  rintro ⟨entries, tokens⟩ fewer
  refine .bind (settles_expect _ _ (Nat.le_of_lt fewer)) ?_
  intro tokens fewer
  exact .ok fewer

theorem settles_mapBody (short : tokens.length < limit) :
    Settles limit Prod.snd (mapBody expr tokens) (mapBody expr' tokens) := by
  unfold mapBody
  apply Settles.ite
  · intro entries
    refine .bind (settles_mapEntries agree short) ?_
    rintro ⟨entries, tokens⟩ fewer
    exact .ok fewer
  intro _
  refine .bind (agree _ false tokens short) ?_
  rintro ⟨first, tokens⟩ fewer
  dsimp only
  apply Settles.ite
  · intro update
    have fewest : (tokens.drop 1).length < limit := short_of_suffix (List.drop_suffix 1 tokens) fewer
    refine .bind (settles_mapEntries agree fewest) ?_
    rintro ⟨entries, tokens⟩ fewer
    exact .ok fewer
  intro _
  cases found : afterComma? tokens with
  | some after =>
    refine .bind (settles_mapEntries agree (short_of_suffix (suffix_afterComma? found) fewer)) ?_
    rintro ⟨entries, tokens⟩ fewer
    exact .ok fewer
  | none =>
    refine .bind (settles_expect _ _ (Nat.le_of_lt fewer)) ?_
    intro tokens fewer
    exact .ok fewer

theorem settles_mapLiteral (line : Nat) (short : tokens.length < limit) :
    Settles limit Prod.snd (mapLiteral expr line tokens) (mapLiteral expr' line tokens) := by
  refine .bind (settles_optionalStructName short) ?_
  rintro ⟨struct, tokens⟩ fewer
  refine .bind (settles_expect _ _ (Nat.le_of_lt fewer)) ?_
  intro tokens fewer
  refine .bind (settles_mapBody agree fewer) ?_
  rintro ⟨⟨update, entries⟩, tokens⟩ fewer
  exact .ok fewer

theorem settles_bitstring (line : Nat) (short : tokens.length < limit) :
    Settles limit Prod.snd (bitstring expr line tokens) (bitstring expr' line tokens) := by
  refine .bind (settles_commaItems (agree 0 false) tokens short) ?_
  rintro ⟨items, tokens⟩ fewer
  refine .bind (settles_expect _ _ (Nat.le_of_lt fewer)) ?_
  intro tokens fewer
  exact .ok fewer

theorem settles_operand (outerDo : Bool) (short : tokens.length ≤ limit) :
    Settles limit Prod.snd (operand expr outerDo tokens) (operand expr' outerDo tokens) := by
  refine .bind (settles_next short) ?_
  rintro ⟨token, rest⟩ fewer
  dsimp only
  apply Settles.ite
  · intro operator
    apply Settles.ite
    · intro sign
      refine .bind (agree _ outerDo rest fewer) ?_
      rintro ⟨node, tokens⟩ fewer
      exact .ok fewer
    intro _
    apply Settles.ite
    · intro capture
      refine .bind (agree _ outerDo rest fewer) ?_
      rintro ⟨node, tokens⟩ fewer
      exact .ok fewer
    intro _
    apply Settles.ite
    · intro sigil
      refine .bind (settles_next (Nat.le_of_lt fewer)) ?_
      rintro ⟨first, rest⟩ fewer
      refine .bind (settles_primary agree outerDo first fewer) ?_
      rintro ⟨node, tokens⟩ fewer
      refine .bind (settles_postfixes agree outerDo node tokens fewer) ?_
      rintro ⟨node, tokens⟩ fewer
      exact .ok fewer
    intro _
    apply Settles.ite
    · intro map
      refine .bind (settles_mapLiteral agree _ fewer) ?_
      rintro ⟨node, tokens⟩ fewer
      exact settles_postfixes agree outerDo node tokens fewer
    intro _
    apply Settles.ite
    · intro bits
      refine .bind (settles_bitstring agree _ fewer) ?_
      rintro ⟨node, tokens⟩ fewer
      exact settles_postfixes agree outerDo node tokens fewer
    · intro _
      exact .error (by simp [faultAt])
  · intro _
    refine .bind (settles_primary agree outerDo token fewer) ?_
    rintro ⟨node, tokens⟩ fewer
    exact settles_postfixes agree outerDo node tokens fewer

theorem settles_operators (floor : Nat) (outerDo : Bool) (left : Node) (tokens : List Token)
    (short : tokens.length < limit) :
    Settles limit Prod.snd (operators expr floor outerDo left tokens) (operators expr' floor outerDo left tokens) := by
  fun_induction operators expr floor outerDo left tokens with
  | case1 left tokens none =>
    rw [operators, none]
    exact .ok short
  | case2 left tokens op binding rest found weak =>
    rw [operators, found]
    dsimp only
    rw [if_pos weak]
    exact .ok short
  | case3 left tokens op binding rest found strong ih =>
    rw [operators, found]
    dsimp only
    rw [if_neg strong]
    refine .bind (agree _ outerDo rest (short_of_suffix (suffix_binaryOperator? found) short)) ?_
    rintro ⟨right, after⟩ fewer
    dsimp only
    apply Settles.ite
    · intro shorter
      exact ih right after shorter fewer
    · intro _
      exact .ok fewer

end Forms

/-- Expressions nest at most as deeply as there are tokens. -/
theorem agree_expression {depth deeper : Nat} (deep : depth ≤ deeper) :
    Agree depth (expression depth) (expression deeper) := by
  induction depth generalizing deeper with
  | zero =>
    intro floor outerDo tokens short
    exact absurd short (Nat.not_lt_zero _)
  | succ depth ih =>
    intro floor outerDo tokens short
    obtain ⟨deeper, rfl⟩ : ∃ d, deeper = d + 1 := Nat.exists_eq_add_one.mpr (Nat.lt_of_lt_of_le (Nat.succ_pos _) deep)
    have inner : Agree depth (expression depth) (expression deeper) := ih (Nat.le_of_succ_le_succ deep)
    have settled : Settles depth Prod.snd (expression (depth + 1) floor outerDo tokens)
        (expression (deeper + 1) floor outerDo tokens) := by
      refine .bind (settles_operand inner outerDo (Nat.le_of_lt_succ short)) ?_
      rintro ⟨left, tokens⟩ fewer
      exact settles_operators inner floor outerDo left tokens fewer
    exact settled.mono (Nat.le_succ depth)

/-- Once the depth exceeds the number of tokens it decides nothing. -/
theorem program_of_deep {depth deeper : Nat} {row : List Token} (deep : row.length < depth) (more : depth ≤ deeper) :
    program deeper row = program depth row ∧ ∀ line, program depth row ≠ .error (.at .nestingTooDeep line) := by
  obtain ⟨same, outcome⟩ : Settles depth Prod.snd (body (expression depth) [] row) (body (expression deeper) [] row) :=
    settles_body (agree_expression more) [] deep
  constructor
  · rw [program, program, same]
  · intro line refused
    unfold program at refused
    cases read : body (expression depth) [] row with
    | ok result =>
      rw [read] at refused
      cases refused
    | error fault =>
      rw [read] at refused outcome
      injection refused with located
      injection located with cause
      exact outcome cause

end BoundaryLint.Grammar
