import BoundaryLint.Proofs.Grammar.Exchange
import Mathlib

/-!
How far the readers look. What is read up to a token that divides no items and joins no operands does not depend on
what stands behind that token. So what stands in brackets is read alike wherever it stands, and also by readers that
may nest more deeply.
-/

namespace BoundaryLint.Grammar

/-- The token neither divides items nor is an operator, before which a reader would look at the token behind it. -/
structure Halts (stop : Token) : Prop where
  notOperator : stop.kind ≠ .operator
  notComma : stop.is .punctuation "," = false

/-- What is left of some tokens up to `stop`, and of the same tokens with `beyond` behind `stop`. -/
def Prolonged (stop : Token) (beyond tokens longer : List Token) : Prop :=
  tokens = [] ∧ longer = [] ∨ ∃ front, tokens = front ++ [stop] ∧ longer = front ++ stop :: beyond

section Tokens

variable {stop : Token} {beyond tokens longer : List Token}

namespace Prolonged

theorem nil : Prolonged stop beyond [] [] := .inl ⟨rfl, rfl⟩

theorem cases (prolonged : Prolonged stop beyond tokens longer) :
    tokens = [] ∧ longer = [] ∨ ∃ token rest more, tokens = token :: rest ∧ longer = token :: more ∧
      (Prolonged stop beyond rest more ∨ token = stop ∧ rest = []) := by
  obtain ⟨rfl, rfl⟩ | ⟨front, rfl, rfl⟩ := prolonged
  · exact .inl ⟨rfl, rfl⟩
  · cases front with
    | nil => exact .inr ⟨stop, [], beyond, rfl, rfl, .inr ⟨rfl, rfl⟩⟩
    | cons token front => exact .inr ⟨token, _, _, rfl, rfl, .inl (.inr ⟨front, rfl, rfl⟩)⟩

theorem nil_inv (prolonged : Prolonged stop beyond [] longer) : longer = [] := by
  rcases prolonged.cases with ⟨-, none⟩ | ⟨token, rest, more, impossible, -⟩
  · exact none
  · cases impossible

theorem cons_inv {token : Token} {rest : List Token} (prolonged : Prolonged stop beyond (token :: rest) longer) :
    ∃ more, longer = token :: more := by
  rcases prolonged.cases with ⟨impossible, -⟩ | ⟨first, rest, more, same, same', -⟩
  · cases impossible
  · cases same
    exact ⟨more, same'⟩

theorem behind {token : Token} {rest more : List Token}
    (prolonged : Prolonged stop beyond (token :: rest) (token :: more)) :
    Prolonged stop beyond rest more ∨ token = stop ∧ rest = [] := by
  rcases prolonged.cases with ⟨impossible, -⟩ | ⟨first, rest, more, same, same', found⟩
  · cases impossible
  · cases same
    cases same'
    exact found

theorem startsWith_eq (prolonged : Prolonged stop beyond tokens longer) (kind : Token.Kind) (text : String) :
    startsWith kind text tokens = startsWith kind text longer := by
  rcases prolonged.cases with ⟨rfl, rfl⟩ | ⟨token, rest, more, rfl, rfl, -⟩ <;> rfl

theorem startsWithKind_eq (prolonged : Prolonged stop beyond tokens longer) (kind : Token.Kind) :
    startsWithKind kind tokens = startsWithKind kind longer := by
  rcases prolonged.cases with ⟨rfl, rfl⟩ | ⟨token, rest, more, rfl, rfl, -⟩ <;> rfl

theorem afterComma? (halts : Halts stop) (prolonged : Prolonged stop beyond tokens longer) :
    Grammar.afterComma? tokens = none ∧ Grammar.afterComma? longer = none ∨
      ∃ after after', tokens ≠ [] ∧ Grammar.afterComma? tokens = some after ∧ Grammar.afterComma? longer = some after' ∧
        Prolonged stop beyond after after' := by
  rcases prolonged.cases with ⟨rfl, rfl⟩ | ⟨token, rest, more, rfl, rfl, found⟩
  · exact .inl ⟨rfl, rfl⟩
  · by_cases comma : token.is .punctuation "," = true
    · refine .inr ⟨rest, more, List.cons_ne_nil _ _, if_pos comma, if_pos comma, found.resolve_right ?_⟩
      rintro ⟨rfl, -⟩
      rw [halts.notComma] at comma
      cases comma
    · exact .inl ⟨if_neg comma, if_neg comma⟩

theorem length_lt_iff {rest more : List Token} (ahead : Prolonged stop beyond rest more) (some : rest ≠ [])
    (prolonged : Prolonged stop beyond tokens longer) : rest.length < tokens.length ↔ more.length < longer.length := by
  rcases ahead with ⟨none, -⟩ | ⟨front, rfl, rfl⟩
  · exact absurd none some
  · rcases prolonged with ⟨rfl, rfl⟩ | ⟨before, rfl, rfl⟩
    · simp
    · simp only [List.length_append, List.length_cons]
      omega

end Prolonged

variable {α β : Type}

/-- What the first step gives before a remaining token, the second one gives before the same with more behind it. -/
def Persists (stop : Token) (beyond tokens : List Token) (step step' : Reading (α × List Token)) : Prop :=
  ∀ value rest, step = .ok (value, rest) → rest ≠ [] →
    tokens ≠ [] ∧ ∃ more, Prolonged stop beyond rest more ∧ step' = .ok (value, more)

namespace Persists

theorem ok {value : α} (prolonged : Prolonged stop beyond tokens longer) :
    Persists stop beyond tokens (.ok (value, tokens)) (.ok (value, longer)) := by
  rintro _ _ ⟨⟩ some
  exact ⟨some, longer, prolonged, rfl⟩

theorem error {fault : Fault} {step' : Reading (α × List Token)} :
    Persists stop beyond tokens (.error fault) step' := by
  intro _ _ impossible
  cases impossible

theorem of_nil {step step' other : Reading (α × List Token)} (persists : Persists stop beyond [] step step') :
    Persists stop beyond [] step other := by
  intro value rest made some
  exact absurd rfl (persists value rest made some).1

theorem of_ne_nil {rest : List Token} {step step' : Reading (α × List Token)}
    (persists : Persists stop beyond rest step step')
    (nonempty : tokens ≠ []) : Persists stop beyond tokens step step' := by
  intro value last made some
  exact ⟨nonempty, (persists value last made some).2⟩

theorem tail {token : Token} {rest more : List Token} {step : Reading (α × List Token)}
    {later : List Token → Reading (α × List Token)} (prolonged : Prolonged stop beyond (token :: rest) (token :: more))
    (following : ∀ other, Prolonged stop beyond rest other → Persists stop beyond rest step (later other)) :
    Persists stop beyond (token :: rest) step (later more) := by
  rcases prolonged.behind with behind | ⟨-, rfl⟩
  · exact (following more behind).of_ne_nil (List.cons_ne_nil _ _)
  · exact (following [] .nil).of_nil.of_ne_nil (List.cons_ne_nil _ _)

theorem bind {step step' : Reading (α × List Token)} {next next' : α × List Token → Reading (β × List Token)}
    (first : Persists stop beyond tokens step step')
    (following : ∀ value rest more, Prolonged stop beyond rest more →
      Persists stop beyond rest (next (value, rest)) (next' (value, more))) :
    Persists stop beyond tokens (step >>= next) (step' >>= next') := by
  intro value rest made some
  obtain ⟨⟨middle, after⟩, given, continued⟩ := bind_eq_ok.mp made
  cases after with
  | nil => exact absurd rfl (following middle [] [] .nil value rest continued some).1
  | cons token after =>
    obtain ⟨nonempty, more, prolonged, given'⟩ := first _ _ given (List.cons_ne_nil _ _)
    obtain ⟨-, final, ends, made'⟩ := following _ _ _ prolonged value rest continued some
    exact ⟨nonempty, final, ends, bind_eq_ok.mpr ⟨_, given', made'⟩⟩

theorem after_check {check check' : Reading Unit} {next next' : Unit → Reading (β × List Token)}
    (kept : tokens ≠ [] → check = .ok () → check' = .ok ())
    (following : Persists stop beyond tokens (next ()) (next' ())) :
    Persists stop beyond tokens (check >>= next) (check' >>= next') := by
  intro value rest made some
  obtain ⟨⟨⟩, checked, continued⟩ := bind_eq_ok.mp made
  obtain ⟨nonempty, more, prolonged, made'⟩ := following _ _ continued some
  exact ⟨nonempty, more, prolonged, bind_eq_ok.mpr ⟨(), kept nonempty checked, made'⟩⟩

theorem after_expect {kind : Token.Kind} {text : String} {next next' : List Token → Reading (β × List Token)}
    (prolonged : Prolonged stop beyond tokens longer)
    (following : ∀ rest more, Prolonged stop beyond rest more → Persists stop beyond rest (next rest) (next' more)) :
    Persists stop beyond tokens (expect kind text tokens >>= next) (expect kind text longer >>= next') := by
  rcases prolonged.cases with ⟨rfl, rfl⟩ | ⟨token, rest, more, rfl, rfl, -⟩
  · exact error
  · by_cases found : token.is kind text = true
    · simp only [expect, found, if_true]
      exact tail prolonged (following rest)
    · simp only [expect, found, Bool.false_eq_true, if_false]
      exact error

theorem after_next {next next' : Token × List Token → Reading (β × List Token)}
    (prolonged : Prolonged stop beyond tokens longer)
    (following : ∀ token rest more, Prolonged stop beyond (token :: rest) (token :: more) →
      Persists stop beyond (token :: rest) (next (token, rest)) (next' (token, more))) :
    Persists stop beyond tokens (Grammar.next tokens >>= next) (Grammar.next longer >>= next') := by
  rcases prolonged.cases with ⟨rfl, rfl⟩ | ⟨token, rest, more, rfl, rfl, -⟩
  · exact error
  · exact following token rest more prolonged

theorem ite {same same' : Prop} [Decidable same] [Decidable same'] {yes no yes' no' : Reading (α × List Token)}
    (iff : same ↔ same') (holds : same → Persists stop beyond tokens yes yes')
    (fails : ¬same → Persists stop beyond tokens no no') :
    Persists stop beyond tokens (if same then yes else no) (if same' then yes' else no') := by
  by_cases found : same
  · rw [if_pos found, if_pos (iff.mp found)]
    exact holds found
  · rw [if_neg found, if_neg (mt iff.mpr found)]
    exact fails found

theorem shorter {rest more : List Token} {yes no yes' no' : Reading (α × List Token)}
    (prolonged : Prolonged stop beyond tokens longer) (ahead : Prolonged stop beyond rest more)
    (goes : rest.length < tokens.length → Persists stop beyond rest yes yes')
    (ends : Persists stop beyond rest no no') :
    Persists stop beyond rest (if rest.length < tokens.length then yes else no)
      (if more.length < longer.length then yes' else no') := by
  by_cases none : rest = []
  · subst none
    split
    · next fewer => exact (goes fewer).of_nil
    · exact ends.of_nil
  · exact ite (ahead.length_lt_iff none prolonged) goes fun _ => ends

end Persists

theorem persists_commaItems {item item' : List Token → Reading (α × List Token)} {ends : List Token → Bool}
    (halts : Halts stop)
    (persists : ∀ tokens longer, Prolonged stop beyond tokens longer → Persists stop beyond tokens (item tokens) (item' longer))
    (blind : ∀ tokens longer, Prolonged stop beyond tokens longer → ends tokens = ends longer)
    (prolonged : Prolonged stop beyond tokens longer) :
    Persists stop beyond tokens (commaItems item ends tokens) (commaItems item' ends longer) := by
  fun_induction commaItems item ends tokens generalizing longer with
  | case1 tokens done =>
    rw [commaItems, ← blind tokens longer prolonged, if_pos done]
    exact .ok prolonged
  | case2 tokens goes ih =>
    rw [commaItems, ← blind tokens longer prolonged, if_neg goes]
    refine .bind (persists tokens longer prolonged) ?_
    intro first rest more ahead
    rcases ahead.afterComma? halts with ⟨none, none'⟩ | ⟨after, after', nonempty, some, some', behind⟩
    · simp only [none, none']
      exact .ok ahead
    · simp only [some, some']
      refine (Persists.shorter prolonged behind (fun fewer => ?_) (.ok behind)).of_ne_nil nonempty
      refine .bind (ih after fewer behind) ?_
      intro more rest more' ahead
      exact .ok ahead

end Tokens

/-- What the first reader reads before a remaining token, the second one reads before the same with more behind it. -/
structure Foresees (stop : Token) (beyond : List Token) (expr expr' : ExpressionReader) : Prop where
  halts : Halts stop
  persists : ∀ floor outerDo {tokens longer}, Prolonged stop beyond tokens longer →
    Persists stop beyond tokens (expr floor outerDo tokens) (expr' floor outerDo longer)

section Bodies

variable {stop : Token} {beyond tokens longer : List Token} {expr expr' : ExpressionReader}

theorem persists_moreParams (foresees : Foresees stop beyond expr expr')
    (prolonged : Prolonged stop beyond tokens longer) :
    Persists stop beyond tokens (moreParams expr tokens) (moreParams expr' longer) := by
  unfold moreParams
  rcases prolonged.afterComma? foresees.halts with ⟨none, none'⟩ | ⟨after, after', nonempty, some, some', behind⟩
  · rw [none, none']
    exact .ok prolonged
  · rw [some, some']
    exact (persists_commaItems foresees.halts (fun _ _ => foresees.persists 0 false) (fun _ _ _ => rfl) behind).of_ne_nil
      nonempty

/-- What follows a statement shows at the next token. -/
theorem checkSeparator_eq (ends : List String) (prolonged : Prolonged stop beyond tokens longer) :
    checkSeparator ends tokens = checkSeparator ends longer := by
  rcases prolonged.cases with ⟨rfl, rfl⟩ | ⟨token, rest, more, rfl, rfl, -⟩ <;> rfl

theorem allowHead_ok {state : BodyState} (allowed : allowHead state tokens = .ok ()) (other : List Token) :
    allowHead state other = .ok () := by
  unfold allowHead at allowed ⊢
  split at allowed
  · cases allowed
  · next plain => rw [if_neg plain]

theorem persists_bodyItems (foresees : Foresees stop beyond expr expr') (ends : List String) (state : BodyState)
    (prolonged : Prolonged stop beyond tokens longer) :
    Persists stop beyond tokens (bodyItems expr ends state tokens) (bodyItems expr' ends state longer) := by
  fun_induction bodyItems expr ends state tokens generalizing longer with
  | case1 =>
    rw [prolonged.nil_inv, bodyItems]
    exact .ok .nil
  | case2 state token rest done =>
    obtain ⟨more, rfl⟩ := prolonged.cons_inv
    rw [bodyItems, if_pos done]
    exact .ok prolonged
  | case3 state token rest goes semicolon ih =>
    obtain ⟨more, rfl⟩ := prolonged.cons_inv
    rw [bodyItems, if_neg goes, if_pos semicolon]
    exact .tail prolonged fun _ => ih
  | case4 state token rest goes other arrow ih =>
    obtain ⟨more, rfl⟩ := prolonged.cons_inv
    rw [bodyItems, if_neg goes, if_neg other, if_pos arrow]
    refine .after_check (fun _ allowed => allowHead_ok allowed _) ?_
    refine .bind (.tail prolonged fun _ => ih) ?_
    intro items rest more ahead
    exact .ok ahead
  | case5 state token rest goes other plain clauses statements =>
    obtain ⟨more, rfl⟩ := prolonged.cons_inv
    rw [bodyItems, if_neg goes, if_neg other, if_neg plain]
    refine .bind (foresees.persists 0 false prolonged) ?_
    intro node after after' ahead
    refine .ite (by rw [ahead.startsWith_eq, ahead.startsWith_eq]) (fun _ => ?_) (fun _ => ?_)
    · refine .bind (persists_moreParams foresees ahead) ?_
      intro params tail tail' ahead
      refine .after_expect ahead ?_
      intro final final' ahead
      refine .after_check (fun _ allowed => allowHead_ok allowed _) ?_
      refine .shorter prolonged ahead (fun fewer => ?_) (.ok ahead)
      refine .bind (clauses final fewer ahead) ?_
      intro items rest more ahead
      exact .ok ahead
    · refine .after_check (fun _ checked => checkSeparator_eq ends ahead ▸ checked) ?_
      refine .shorter prolonged ahead (fun fewer => ?_) (.ok ahead)
      refine .bind (statements after fewer ahead) ?_
      intro items rest more ahead
      exact .ok ahead

theorem persists_body (foresees : Foresees stop beyond expr expr') (ends : List String)
    (prolonged : Prolonged stop beyond tokens longer) :
    Persists stop beyond tokens (body expr ends tokens) (body expr' ends longer) := by
  refine .bind (persists_bodyItems foresees ends .empty prolonged) ?_
  intro items rest more ahead
  exact .ok ahead

theorem persists_sections (foresees : Foresees stop beyond expr expr')
    (prolonged : Prolonged stop beyond tokens longer) :
    Persists stop beyond tokens (sections expr tokens) (sections expr' longer) := by
  fun_induction sections expr tokens generalizing longer with
  | case1 =>
    rw [prolonged.nil_inv, sections]
    exact .ok .nil
  | case2 token rest opens ih =>
    obtain ⟨more, rfl⟩ := prolonged.cons_inv
    rw [sections, if_pos opens]
    refine .bind (.tail prolonged fun _ => persists_body foresees sectionEnds) ?_
    intro nodes after after' ahead
    refine .shorter prolonged ahead (fun fewer => ?_) (.ok ahead)
    refine .bind (ih after fewer ahead) ?_
    intro others rest more ahead
    exact .ok ahead
  | case3 token rest other =>
    obtain ⟨more, rfl⟩ := prolonged.cons_inv
    rw [sections, if_neg other]
    exact .ok prolonged

theorem persists_doBlock (foresees : Foresees stop beyond expr expr')
    (prolonged : Prolonged stop beyond tokens longer) :
    Persists stop beyond tokens (doBlock expr tokens) (doBlock expr' longer) := by
  refine .after_expect prolonged ?_
  intro tokens longer ahead
  refine .bind (persists_body foresees sectionEnds ahead) ?_
  intro nodes rest more ahead
  refine .bind (persists_sections foresees ahead) ?_
  intro others rest more ahead
  refine .after_expect ahead ?_
  intro rest more ahead
  exact .ok ahead

theorem persists_optionalDoBlock (foresees : Foresees stop beyond expr expr') (outerDo : Bool)
    (prolonged : Prolonged stop beyond tokens longer) :
    Persists stop beyond tokens (optionalDoBlock expr outerDo tokens) (optionalDoBlock expr' outerDo longer) := by
  refine .ite (by rw [prolonged.startsWith_eq]) (fun _ => ?_) (fun _ => ?_)
  · exact persists_doBlock foresees prolonged
  · exact .ok prolonged

end Bodies

section Forms

variable {stop : Token} {beyond tokens longer : List Token} {expr expr' : ExpressionReader}

theorem persists_pair (foresees : Foresees stop beyond expr expr') (outerDo : Bool)
    (prolonged : Prolonged stop beyond tokens longer) :
    Persists stop beyond tokens (pair expr outerDo tokens) (pair expr' outerDo longer) := by
  refine .after_next prolonged ?_
  intro key rest more ahead
  refine .bind (.tail ahead fun _ => foresees.persists 0 outerDo) ?_
  intro value rest more ahead
  exact .ok ahead

theorem persists_argument (foresees : Foresees stop beyond expr expr') (outerDo : Bool)
    (prolonged : Prolonged stop beyond tokens longer) :
    Persists stop beyond tokens (argument expr outerDo tokens) (argument expr' outerDo longer) := by
  refine .ite (by rw [prolonged.startsWithKind_eq]) (fun _ => ?_) (fun _ => ?_)
  · refine .bind (persists_pair foresees outerDo prolonged) ?_
    intro node rest more ahead
    exact .ok ahead
  · refine .bind (foresees.persists 0 outerDo prolonged) ?_
    intro node rest more ahead
    exact .ok ahead

theorem persists_bracketed (foresees : Foresees stop beyond expr expr') (closer : String)
    (prolonged : Prolonged stop beyond tokens longer) :
    Persists stop beyond tokens (bracketed expr closer tokens) (bracketed expr' closer longer) := by
  refine .bind (persists_commaItems foresees.halts (fun _ _ => persists_argument foresees false)
    (fun _ _ ahead => ahead.startsWith_eq _ _) prolonged) ?_
  intro items rest more ahead
  refine .after_expect ahead ?_
  intro rest more ahead
  exact .ok ahead

theorem persists_parenArgs (foresees : Foresees stop beyond expr expr')
    (prolonged : Prolonged stop beyond tokens longer) :
    Persists stop beyond tokens (parenArgs expr tokens) (parenArgs expr' longer) := by
  refine .after_expect prolonged ?_
  intro rest more ahead
  refine .bind (persists_bracketed foresees ")" ahead) ?_
  intro items rest more ahead
  exact .ok ahead

theorem persists_bareArgs (foresees : Foresees stop beyond expr expr')
    (prolonged : Prolonged stop beyond tokens longer) :
    Persists stop beyond tokens (bareArgs expr tokens) (bareArgs expr' longer) := by
  refine .bind (persists_commaItems foresees.halts (fun _ _ => persists_argument foresees true) (fun _ _ _ => rfl)
    prolonged) ?_
  intro items rest more ahead
  exact .ok ahead

/-- Only behind an operator does it take a second token to see whether arguments follow. -/
theorem startsBareArgs_prolonged (halts : Halts stop) (prolonged : Prolonged stop beyond tokens longer) :
    startsBareArgs tokens = startsBareArgs longer := by
  rcases prolonged.cases with ⟨rfl, rfl⟩ | ⟨token, rest, more, rfl, rfl, behind | ⟨rfl, rfl⟩⟩
  · rfl
  · have word := behind.startsWith_eq .operator "in"
    rcases behind.cases with ⟨rfl, rfl⟩ | ⟨following, others, others', rfl, rfl, -⟩
    · rfl
    · simp only [startsBareArgs, word]
  · have plain := halts.notOperator
    unfold startsBareArgs
    cases kind : token.kind <;> simp_all

theorem persists_callArgs (foresees : Foresees stop beyond expr expr')
    (prolonged : Prolonged stop beyond tokens longer) :
    Persists stop beyond tokens (callArgs expr tokens) (callArgs expr' longer) := by
  refine .ite ?_ (fun _ => ?_) (fun _ => ?_)
  · rcases prolonged.cases with ⟨rfl, rfl⟩ | ⟨token, rest, more, rfl, rfl, -⟩ <;> exact Iff.rfl
  · refine .bind (persists_parenArgs foresees prolonged) ?_
    intro args rest more ahead
    exact .ok ahead
  refine .ite (by rw [startsBareArgs_prolonged foresees.halts prolonged]) (fun _ => ?_) (fun _ => ?_)
  · refine .bind (persists_bareArgs foresees prolonged) ?_
    intro args rest more ahead
    exact .ok ahead
  · exact .ok prolonged

theorem persists_identifier (foresees : Foresees stop beyond expr expr') (outerDo : Bool) (token : Token)
    (prolonged : Prolonged stop beyond tokens longer) :
    Persists stop beyond tokens (identifier expr outerDo token tokens) (identifier expr' outerDo token longer) := by
  refine .bind (persists_callArgs foresees prolonged) ?_
  intro args rest more ahead
  refine .ite (by rw [ahead.startsWith_eq]) (fun _ => ?_) (fun _ => ?_)
  · exact .ok ahead
  · refine .bind (persists_optionalDoBlock foresees outerDo ahead) ?_
    intro block rest more ahead
    exact .ok ahead

theorem persists_morePairs (foresees : Foresees stop beyond expr expr') (outerDo : Bool)
    (prolonged : Prolonged stop beyond tokens longer) :
    Persists stop beyond tokens (morePairs expr outerDo tokens) (morePairs expr' outerDo longer) := by
  fun_induction morePairs expr outerDo tokens generalizing longer with
  | case1 tokens none =>
    rcases prolonged.afterComma? foresees.halts with ⟨-, none'⟩ | ⟨after, after', nonempty, some, -⟩
    · rw [morePairs, none']
      exact .ok prolonged
    · rw [none] at some
      cases some
  | case2 tokens after found key ih =>
    rcases prolonged.afterComma? foresees.halts with ⟨none, -⟩ | ⟨_, after', nonempty, some, some', behind⟩
    · rw [found] at none
      cases none
    rw [found] at some
    cases some
    rw [morePairs, some']
    simp only [behind.startsWithKind_eq .key ▸ key, if_true]
    refine (Persists.bind (persists_pair foresees outerDo behind) ?_).of_ne_nil nonempty
    intro node rest more ahead
    refine .shorter prolonged ahead (fun fewer => ?_) (.ok ahead)
    refine .bind (ih rest fewer ahead) ?_
    intro others rest more ahead
    exact .ok ahead
  | case3 tokens after found plain =>
    rcases prolonged.afterComma? foresees.halts with ⟨none, -⟩ | ⟨_, after', nonempty, some, some', behind⟩
    · rw [found] at none
      cases none
    rw [found] at some
    cases some
    rw [morePairs, some']
    simp only [← behind.startsWithKind_eq, plain]
    exact .ok prolonged

theorem persists_keywordList (foresees : Foresees stop beyond expr expr') (outerDo : Bool) (line : Nat)
    (prolonged : Prolonged stop beyond tokens longer) :
    Persists stop beyond tokens (keywordList expr outerDo tokens line) (keywordList expr' outerDo longer line) := by
  refine .bind (persists_pair foresees outerDo prolonged) ?_
  intro first rest more ahead
  refine .bind (persists_morePairs foresees outerDo ahead) ?_
  intro others rest more ahead
  exact .ok ahead

theorem persists_anonymous (foresees : Foresees stop beyond expr expr') (line : Nat)
    (prolonged : Prolonged stop beyond tokens longer) :
    Persists stop beyond tokens (anonymous expr line tokens) (anonymous expr' line longer) := by
  refine .bind (persists_body foresees ["end"] prolonged) ?_
  intro nodes rest more ahead
  refine .after_expect ahead ?_
  intro rest more ahead
  exact .ite Iff.rfl (fun _ => .ok ahead) (fun _ => .ok ahead)

theorem persists_group (foresees : Foresees stop beyond expr expr') (token : Token)
    (prolonged : Prolonged stop beyond tokens longer) :
    Persists stop beyond tokens (group expr token tokens) (group expr' token longer) := by
  refine .ite Iff.rfl (fun _ => ?_) (fun _ => ?_)
  · refine .bind (persists_body foresees [")"] prolonged) ?_
    intro nodes rest more ahead
    refine .after_expect ahead ?_
    intro rest more ahead
    exact .ok ahead
  refine .ite Iff.rfl (fun _ => ?_) (fun _ => ?_)
  · refine .bind (persists_bracketed foresees "]" prolonged) ?_
    intro items rest more ahead
    exact .ok ahead
  refine .ite Iff.rfl (fun _ => ?_) (fun _ => .error)
  refine .bind (persists_bracketed foresees "\x7d" prolonged) ?_
  intro items rest more ahead
  exact .ok ahead

theorem persists_numeral {α : Type} (read : Except Numeral.Fault α) (literal : α → Literal) (token : Token)
    (prolonged : Prolonged stop beyond tokens longer) :
    Persists stop beyond tokens (numeral read literal token tokens) (numeral read literal token longer) := by
  cases read with
  | error fault => exact .error
  | ok value => exact .ok prolonged

/-- An operand that starts with a token, before what stands behind that token. -/
theorem persists_primary (foresees : Foresees stop beyond expr expr') (outerDo : Bool) {token : Token}
    {rest more : List Token} (prolonged : Prolonged stop beyond (token :: rest) (token :: more)) :
    Persists stop beyond (token :: rest) (primary expr outerDo token rest) (primary expr' outerDo token more) := by
  unfold primary
  cases kind : token.kind with
  | key => exact persists_keywordList foresees outerDo token.line prolonged
  | identifier => exact .tail prolonged fun _ => persists_identifier foresees outerDo token
  | «alias» =>
    cases ModuleRef.ofName? token.text with
    | none => exact .tail prolonged fun _ => .ok
    | some ref => exact .tail prolonged fun _ => .ok
  | integer => exact .tail prolonged fun _ => persists_numeral _ _ token
  | float => exact .tail prolonged fun _ => persists_numeral _ _ token
  | keyword =>
    refine .ite Iff.rfl (fun _ => ?_) (fun _ => .error)
    exact .tail prolonged fun _ => persists_anonymous foresees token.line
  | punctuation => exact .tail prolonged fun _ => persists_group foresees token
  | operator => exact .error
  | _ => exact .tail prolonged fun _ => .ok

theorem persists_afterDot (foresees : Foresees stop beyond expr expr') (outerDo : Bool) (target : Node)
    (prolonged : Prolonged stop beyond tokens longer) :
    Persists stop beyond tokens (afterDot expr outerDo target tokens) (afterDot expr' outerDo target longer) := by
  refine .after_next prolonged ?_
  intro token rest more whole
  -- A call of the target with arguments that follow the name, without a block.
  have remote : Persists stop beyond (token :: rest)
      (callArgs expr rest >>= fun found =>
        pure (Node.call (some target) token.text (found.1.getD []) [] [] token.line, found.2))
      (callArgs expr' more >>= fun found =>
        pure (Node.call (some target) token.text (found.1.getD []) [] [] token.line, found.2)) := by
    refine .bind (.tail whole fun _ => persists_callArgs foresees) ?_
    intro args rest more ahead
    exact .ok ahead
  dsimp only
  cases kind : token.kind with
  | «alias» =>
    cases target with
    | «alias» ref line =>
      dsimp only
      by_cases valid : ModuleRef.isSegment token.text = true
      · rw [dif_pos valid, dif_pos valid]
        exact .tail whole fun _ => .ok
      · rw [dif_neg valid]
        exact .error
    | _ => exact .tail whole fun _ => .ok
  | identifier =>
    refine .bind (.tail whole fun _ => persists_callArgs foresees) ?_
    intro args rest more ahead
    refine .bind (persists_optionalDoBlock foresees outerDo ahead) ?_
    intro block rest more ahead
    exact .ok ahead
  | punctuation =>
    refine .ite Iff.rfl (fun _ => ?_) (fun _ => ?_)
    · refine .bind ((persists_parenArgs foresees prolonged).of_ne_nil (List.cons_ne_nil _ _)) ?_
      intro args rest more ahead
      exact .ok ahead
    refine .ite Iff.rfl (fun _ => ?_) (fun _ => .error)
    refine .bind (.tail whole fun _ => persists_bracketed foresees "\x7d") ?_
    intro items rest more ahead
    exact .ok ahead
  | keyword => exact .ite Iff.rfl (fun _ => .error) (fun _ => remote)
  | operator => exact .ite Iff.rfl (fun _ => .error) (fun _ => remote)
  | _ => exact .error

theorem persists_postfixes (foresees : Foresees stop beyond expr expr') (outerDo : Bool) (node : Node)
    (prolonged : Prolonged stop beyond tokens longer) :
    Persists stop beyond tokens (postfixes expr outerDo node tokens) (postfixes expr' outerDo node longer) := by
  fun_induction postfixes expr outerDo node tokens generalizing longer with
  | case1 node =>
    rw [prolonged.nil_inv, postfixes]
    exact .ok .nil
  | case2 node token rest point ih =>
    obtain ⟨more, rfl⟩ := prolonged.cons_inv
    rw [postfixes, if_pos point]
    refine .bind (.tail prolonged fun _ => persists_afterDot foresees outerDo node) ?_
    intro node after after' ahead
    refine .shorter prolonged ahead (fun fewer => ?_) (.ok ahead)
    exact ih node after fewer ahead
  | case3 node token rest plain bracket ih =>
    obtain ⟨more, rfl⟩ := prolonged.cons_inv
    rw [postfixes, if_neg plain, if_pos bracket]
    refine .bind (.tail prolonged fun _ => foresees.persists 0 false) ?_
    intro index after after' ahead
    refine .after_expect ahead ?_
    intro final final' ahead
    refine .shorter prolonged ahead (fun fewer => ?_) (.ok ahead)
    exact ih index final fewer ahead
  | case4 node token rest plain free =>
    obtain ⟨more, rfl⟩ := prolonged.cons_inv
    rw [postfixes, if_neg plain, if_neg free]
    exact .ok prolonged

theorem persists_structSegments (halts : Halts stop) (ref : ModuleRef)
    (prolonged : Prolonged stop beyond tokens longer) :
    Persists stop beyond tokens (structSegments ref tokens) (structSegments ref longer) := by
  -- Behind a point there is a next token in both rows or in neither.
  have behind : ∀ {dot : Token} {rest more : List Token}, Prolonged stop beyond (dot :: rest) (dot :: more) →
      dot.is .operator "." = true → Prolonged stop beyond rest more := by
    intro dot rest more whole point
    refine whole.behind.resolve_right ?_
    rintro ⟨rfl, -⟩
    simp only [Token.is, Bool.and_eq_true, beq_iff_eq] at point
    exact halts.notOperator point.1
  fun_induction structSegments ref tokens generalizing longer with
  | case1 ref dot segment rest dotted valid ih =>
    obtain ⟨middle, rfl⟩ := prolonged.cons_inv
    have following := behind prolonged (Bool.and_eq_true_iff.mp dotted).1
    obtain ⟨more, rfl⟩ := following.cons_inv
    rw [structSegments, if_pos dotted, dif_pos valid]
    exact (Persists.tail following fun _ => ih).of_ne_nil (List.cons_ne_nil _ _)
  | case2 ref dot segment rest dotted invalid => exact .error
  | case3 ref dot segment rest plain =>
    obtain ⟨middle, rfl⟩ := prolonged.cons_inv
    rw [structSegments_stop]
    · exact .ok prolonged
    · intro point other next named
      obtain ⟨more, rfl⟩ := (behind prolonged point).cons_inv
      cases next
      exact plain (by simp [point, named])
  | case4 ref tokens short =>
    rcases prolonged.cases with ⟨rfl, rfl⟩ | ⟨token, rest, more, rfl, rfl, -⟩
    · exact .ok .nil
    · rw [structSegments_stop]
      · exact .ok prolonged
      · intro point other next
        cases rest with
        | nil => rw [(behind prolonged point).nil_inv] at next; cases next
        | cons segment rest => exact absurd rfl (short token segment rest)

theorem persists_structName (halts : Halts stop) (prolonged : Prolonged stop beyond tokens longer) :
    Persists stop beyond tokens (structName tokens) (structName longer) := by
  refine .after_next prolonged ?_
  intro token rest more whole
  have prefixed : Persists stop beyond (token :: rest)
      (if token.is .operator "@" then next rest >>= fun found =>
          if found.1.kind = .identifier then
            pure (Node.unary "@" (.var found.1.text token.line) token.line, found.2)
          else .error (faultAt found.1 (.notAnIdentifier found.1.text))
        else .error (faultAt token (.unexpectedInStruct token.text)))
      (if token.is .operator "@" then next more >>= fun found =>
          if found.1.kind = .identifier then
            pure (Node.unary "@" (.var found.1.text token.line) token.line, found.2)
          else .error (faultAt found.1 (.notAnIdentifier found.1.text))
        else .error (faultAt token (.unexpectedInStruct token.text))) := by
    refine .ite Iff.rfl (fun _ => ?_) (fun _ => .error)
    refine .tail whole fun _ behind => .after_next behind ?_
    intro name rest more following
    refine .ite Iff.rfl (fun _ => ?_) (fun _ => .error)
    exact .tail following fun _ => .ok
  dsimp only
  cases kind : token.kind with
  | «alias» =>
    cases ModuleRef.ofName? token.text with
    | none => exact .error
    | some ref =>
      refine .bind (.tail whole fun _ => persists_structSegments halts ref) ?_
      intro ref rest more ahead
      exact .ok ahead
  | identifier => exact .tail whole fun _ => .ok
  | _ => exact prefixed

theorem persists_optionalStructName (halts : Halts stop) (prolonged : Prolonged stop beyond tokens longer) :
    Persists stop beyond tokens (optionalStructName tokens) (optionalStructName longer) := by
  refine .ite (by rw [prolonged.startsWith_eq]) (fun _ => ?_) (fun _ => ?_)
  · exact .ok prolonged
  · refine .bind (persists_structName halts prolonged) ?_
    intro name rest more ahead
    exact .ok ahead

theorem persists_mapItem (foresees : Foresees stop beyond expr expr')
    (prolonged : Prolonged stop beyond tokens longer) :
    Persists stop beyond tokens (mapItem expr tokens) (mapItem expr' longer) := by
  refine .bind (persists_argument foresees false prolonged) ?_
  intro item rest more ahead
  exact .ok ahead

theorem persists_mapEntries (foresees : Foresees stop beyond expr expr')
    (prolonged : Prolonged stop beyond tokens longer) :
    Persists stop beyond tokens (mapEntries expr tokens) (mapEntries expr' longer) := by
  refine .bind (persists_commaItems foresees.halts (fun _ _ => persists_mapItem foresees)
    (fun _ _ ahead => ahead.startsWith_eq _ _) prolonged) ?_
  intro entries rest more ahead
  refine .after_expect ahead ?_
  intro rest more ahead
  exact .ok ahead

theorem persists_mapBody (foresees : Foresees stop beyond expr expr')
    (prolonged : Prolonged stop beyond tokens longer) :
    Persists stop beyond tokens (mapBody expr tokens) (mapBody expr' longer) := by
  refine .ite (by rw [prolonged.startsWith_eq, prolonged.startsWithKind_eq]) (fun _ => ?_) (fun _ => ?_)
  · refine .bind (persists_mapEntries foresees prolonged) ?_
    intro entries rest more ahead
    exact .ok ahead
  refine .bind (foresees.persists mapUpdateFloor false prolonged) ?_
  intro first rest more ahead
  refine .ite (by rw [ahead.startsWith_eq]) (fun bar => ?_) (fun _ => ?_)
  · rcases ahead.cases with ⟨rfl, rfl⟩ | ⟨token, rest, more, rfl, rfl, -⟩
    · cases bar
    · refine .bind (.tail ahead fun _ => persists_mapEntries foresees) ?_
      intro entries rest more ahead
      exact .ok ahead
  rcases ahead.afterComma? foresees.halts with ⟨none, none'⟩ | ⟨after, after', nonempty, some, some', behind⟩
  · simp only [none, none']
    refine .after_expect ahead ?_
    intro rest more ahead
    exact .ok ahead
  · simp only [some, some']
    refine (Persists.bind (persists_mapEntries foresees behind) ?_).of_ne_nil nonempty
    intro entries rest more ahead
    exact .ok ahead

theorem persists_mapLiteral (foresees : Foresees stop beyond expr expr') (line : Nat)
    (prolonged : Prolonged stop beyond tokens longer) :
    Persists stop beyond tokens (mapLiteral expr line tokens) (mapLiteral expr' line longer) := by
  refine .bind (persists_optionalStructName foresees.halts prolonged) ?_
  intro struct rest more ahead
  refine .after_expect ahead ?_
  intro rest more ahead
  refine .bind (persists_mapBody foresees ahead) ?_
  intro entries rest more ahead
  exact .ok ahead

theorem persists_bitstring (foresees : Foresees stop beyond expr expr') (line : Nat)
    (prolonged : Prolonged stop beyond tokens longer) :
    Persists stop beyond tokens (bitstring expr line tokens) (bitstring expr' line longer) := by
  refine .bind (persists_commaItems foresees.halts (fun _ _ => foresees.persists 0 false)
    (fun _ _ ahead => ahead.startsWith_eq _ _) prolonged) ?_
  intro items rest more ahead
  refine .after_expect ahead ?_
  intro rest more ahead
  exact .ok ahead

theorem persists_operand (foresees : Foresees stop beyond expr expr') (outerDo : Bool)
    (prolonged : Prolonged stop beyond tokens longer) :
    Persists stop beyond tokens (operand expr outerDo tokens) (operand expr' outerDo longer) := by
  refine .after_next prolonged ?_
  intro token rest more whole
  refine .ite Iff.rfl (fun _ => ?_) (fun _ => ?_)
  · refine .ite Iff.rfl (fun _ => ?_) (fun _ => ?_)
    · refine .bind (.tail whole fun _ => foresees.persists prefixFloor outerDo) ?_
      intro node rest more ahead
      exact .ok ahead
    refine .ite Iff.rfl (fun _ => ?_) (fun _ => ?_)
    · refine .bind (.tail whole fun _ => foresees.persists captureFloor outerDo) ?_
      intro node rest more ahead
      exact .ok ahead
    refine .ite Iff.rfl (fun _ => ?_) (fun _ => ?_)
    · refine .tail whole fun _ behind => .after_next behind ?_
      intro first rest more inner
      refine .bind (persists_primary foresees outerDo inner) ?_
      intro node rest more ahead
      refine .bind (persists_postfixes foresees outerDo node ahead) ?_
      intro node rest more ahead
      exact .ok ahead
    refine .ite Iff.rfl (fun _ => ?_) (fun _ => ?_)
    · refine .bind (.tail whole fun _ => persists_mapLiteral foresees token.line) ?_
      intro node rest more ahead
      exact persists_postfixes foresees outerDo node ahead
    refine .ite Iff.rfl (fun _ => ?_) (fun _ => .error)
    refine .bind (.tail whole fun _ => persists_bitstring foresees token.line) ?_
    intro node rest more ahead
    exact persists_postfixes foresees outerDo node ahead
  · refine .bind (persists_primary foresees outerDo whole) ?_
    intro node rest more ahead
    exact persists_postfixes foresees outerDo node ahead

/-- A binary operator that comes next is followed by the same tokens, prolonged. -/
theorem binaryOperator?_prolonged (halts : Halts stop) (prolonged : Prolonged stop beyond tokens longer) :
    binaryOperator? tokens = none ∧ binaryOperator? longer = none ∨
      ∃ op binding rest more, tokens ≠ [] ∧ binaryOperator? tokens = some (op, binding, rest) ∧
        binaryOperator? longer = some (op, binding, more) ∧ Prolonged stop beyond rest more := by
  rcases prolonged.cases with ⟨rfl, rfl⟩ | ⟨token, rest, more, rfl, rfl, found⟩
  · exact .inl ⟨rfl, rfl⟩
  by_cases operator : token.kind = .operator
  · have behind : Prolonged stop beyond rest more := by
      refine found.resolve_right ?_
      rintro ⟨rfl, -⟩
      exact halts.notOperator operator
    have nonempty := List.cons_ne_nil token rest
    simp only [binaryOperator?, operator, ne_eq, not_true_eq_false, if_false]
    split
    · exact .inl ⟨rfl, rfl⟩
    split
    · rcases behind.cases with ⟨rfl, rfl⟩ | ⟨word, others, others', rfl, rfl, last⟩
      · exact .inl ⟨rfl, rfl⟩
      · dsimp only
        split
        · next membership =>
          refine .inr ⟨_, _, others, others', nonempty, rfl, rfl, last.resolve_right ?_⟩
          rintro ⟨rfl, -⟩
          simp only [Token.is, Bool.and_eq_true, beq_iff_eq] at membership
          exact halts.notOperator membership.1
        · exact .inl ⟨rfl, rfl⟩
    · cases binding? token.text with
      | none => exact .inl ⟨rfl, rfl⟩
      | some binding => exact .inr ⟨_, _, rest, more, nonempty, rfl, rfl, behind⟩
  · exact .inl ⟨if_pos operator, if_pos operator⟩

theorem persists_operators (foresees : Foresees stop beyond expr expr') (floor : Nat) (outerDo : Bool) (left : Node)
    (prolonged : Prolonged stop beyond tokens longer) :
    Persists stop beyond tokens (operators expr floor outerDo left tokens) (operators expr' floor outerDo left longer) := by
  fun_induction operators expr floor outerDo left tokens generalizing longer with
  | case1 left tokens none =>
    rcases binaryOperator?_prolonged foresees.halts prolonged with ⟨-, none'⟩ | ⟨op, binding, rest, more, nonempty, some, -⟩
    · rw [operators, none']
      exact .ok prolonged
    · rw [none] at some
      cases some
  | case2 left tokens op binding rest found weak =>
    rcases binaryOperator?_prolonged foresees.halts prolonged with ⟨none, -⟩ | ⟨_, _, _, more, nonempty, some, some', -⟩
    · rw [found] at none
      cases none
    rw [found] at some
    cases some
    rw [operators, some']
    simp only [if_pos weak]
    exact .ok prolonged
  | case3 left tokens op binding rest found strong ih =>
    rcases binaryOperator?_prolonged foresees.halts prolonged with
      ⟨none, -⟩ | ⟨_, _, _, more, nonempty, some, some', behind⟩
    · rw [found] at none
      cases none
    rw [found] at some
    cases some
    rw [operators, some']
    simp only [if_neg strong]
    refine (Persists.bind (foresees.persists _ outerDo behind) ?_).of_ne_nil nonempty
    intro right after after' ahead
    refine .shorter prolonged ahead (fun fewer => ?_) (.ok ahead)
    exact ih right after fewer ahead

end Forms

/-- A reader that may nest at least as deeply reads the same up to a token that halts it, before any more tokens. -/
theorem foresees_expression {stop : Token} (halts : Halts stop) (beyond : List Token) {depth deeper : Nat}
    (fits : depth ≤ deeper) : Foresees stop beyond (expression depth) (expression deeper) := by
  induction depth generalizing deeper with
  | zero => exact ⟨halts, fun _ _ _ _ _ => .error⟩
  | succ depth ih =>
    obtain ⟨deeper, rfl⟩ : ∃ d, deeper = d + 1 := Nat.exists_eq_add_one.mpr (Nat.lt_of_lt_of_le (Nat.succ_pos _) fits)
    have foresees := ih (Nat.le_of_succ_le_succ fits)
    refine ⟨halts, fun floor outerDo tokens longer prolonged => ?_⟩
    refine .bind (persists_operand foresees outerDo prolonged) ?_
    intro left rest more ahead
    exact persists_operators foresees floor outerDo left ahead

section Brackets

variable {stop : Token} {beyond tokens : List Token} {depth deeper : Nat} {α : Type}

/-- A step that leaves only the last token leaves that and what stands behind it in the longer row. -/
theorem Persists.leaves {step step' : Reading (α × List Token)} (persists : Persists stop beyond tokens step step')
    {value : α} {token : Token} (made : step = .ok (value, [token])) :
    token = stop ∧ step' = .ok (value, stop :: beyond) := by
  obtain ⟨-, more, prolonged, made'⟩ := persists value [token] made (List.cons_ne_nil _ _)
  rcases prolonged with ⟨none, -⟩ | ⟨front, last, rfl⟩
  · cases none
  · cases front with
    | nil =>
      cases last
      exact ⟨rfl, made'⟩
    | cons first front => simp at last

theorem expect_all {kind : Token.Kind} {text : String} (made : expect kind text tokens = .ok []) :
    ∃ token, tokens = [token] ∧ token.is kind text = true := by
  cases tokens with
  | nil => cases made
  | cons token rest =>
    simp only [expect] at made
    split at made
    · next found =>
      cases made
      exact ⟨token, rfl, found⟩
    · cases made

theorem expect_append {kind : Token.Kind} {text : String} {rest : List Token}
    (made : expect kind text tokens = .ok rest)
    (beyond : List Token) : expect kind text (tokens ++ beyond) = .ok (rest ++ beyond) := by
  cases tokens with
  | nil => cases made
  | cons token more =>
    simp only [expect, List.cons_append] at made ⊢
    split at made
    · next found =>
      cases made
      exact if_pos found
    · cases made

/-- The closing token of a row halts the readers of the row, so it ends the row before more tokens too. -/
theorem closed_prolonged {β : Type} {read read' : List Token → Reading (α × List Token)}
    (takes : ∀ tokens, Takes Prod.snd tokens (read tokens)) (beyond : List Token)
    (persists : ∀ {stop}, Halts stop → ∀ {tokens longer}, Prolonged stop beyond tokens longer →
      Persists stop beyond tokens (read tokens) (read' longer))
    {kind : Token.Kind} {text : String} (apart : kind ≠ .operator ∧ text ≠ ",") (give : α → β) {value : β}
    (made : (read tokens >>= fun found => expect kind text found.2 >>= fun rest => pure (give found.1, rest)) =
      .ok (value, [])) :
    (read' (tokens ++ beyond) >>= fun found => expect kind text found.2 >>= fun rest => pure (give found.1, rest)) =
      .ok (value, beyond) := by
  obtain ⟨⟨found, rest⟩, given, made⟩ := bind_eq_ok.mp made
  obtain ⟨last, expected, same⟩ := bind_eq_ok.mp made
  cases same
  obtain ⟨stop, rfl, closing⟩ := expect_all expected
  have halts : Halts stop := by
    simp only [Token.is, Bool.and_eq_true, beq_iff_eq] at closing
    exact ⟨closing.1 ▸ apart.1, by simp [Token.is, closing.2, apart.2]⟩
  obtain ⟨front, rfl⟩ : ∃ front, front ++ [stop] = tokens := by
    have ends := takes tokens
    rwa [given] at ends
  have prolonged : Prolonged stop beyond (front ++ [stop]) (front ++ [stop] ++ beyond) := .inr ⟨front, rfl, by simp⟩
  obtain ⟨-, given'⟩ := (persists halts prolonged).leaves given
  exact bind_eq_ok.mpr ⟨_, given', bind_eq_ok.mpr ⟨beyond, if_pos closing, rfl⟩⟩

def bodySections (expr : ExpressionReader) (tokens : List Token) : Reading ((List Node × List Node) × List Token) := do
  let (nodes, tokens) ← body expr sectionEnds tokens
  let (more, tokens) ← sections expr tokens
  return ((nodes, more), tokens)

theorem takes_bodySections {expr : ExpressionReader}
    (takes : ∀ floor outerDo tokens, Takes Prod.snd tokens (expr floor outerDo tokens)) (tokens : List Token) :
    Takes Prod.snd tokens (bodySections expr tokens) := by
  refine .bind (takes_body takes sectionEnds tokens) fun nodes _ => ?_
  exact .bind (takes_sections takes nodes.2) fun others _ => .ok List.suffix_rfl

theorem persists_bodySections {longer : List Token} {expr expr' : ExpressionReader}
    (foresees : Foresees stop beyond expr expr') (prolonged : Prolonged stop beyond tokens longer) :
    Persists stop beyond tokens (bodySections expr tokens) (bodySections expr' longer) := by
  refine .bind (persists_body foresees sectionEnds prolonged) fun nodes rest more ahead => ?_
  exact .bind (persists_sections foresees ahead) fun others rest more ahead => .ok ahead

variable (fits : depth ≤ deeper) (beyond) {opening : Token}

include fits

theorem group_prolonged (paren : opening.text = "(") {node : Node}
    (made : group (expression depth) opening tokens = .ok (node, [])) :
    group (expression deeper) opening (tokens ++ beyond) = .ok (node, beyond) := by
  rw [group, if_pos paren] at made ⊢
  exact closed_prolonged (takes_body (takes_expression depth) [")"]) beyond
    (fun halts _ _ ahead => persists_body (foresees_expression halts beyond fits) [")"] ahead) (by decide)
    (fun nodes => unwrap nodes opening.line) made

theorem parenArgs_prolonged {nodes : List Node} (made : parenArgs (expression depth) tokens = .ok (nodes, [])) :
    parenArgs (expression deeper) (tokens ++ beyond) = .ok (nodes, beyond) := by
  obtain ⟨inside, opened, made⟩ := bind_eq_ok.mp made
  obtain ⟨⟨items, rest⟩, closed, same⟩ := bind_eq_ok.mp made
  cases same
  have items_read : bracketed (expression deeper) ")" (inside ++ beyond) = .ok (items, beyond) :=
    closed_prolonged (takes_commaItems (takes_argument (takes_expression depth) false)) beyond
      (fun halts _ _ ahead => persists_commaItems halts
        (fun _ _ => persists_argument (foresees_expression halts beyond fits) false)
        (fun _ _ ahead => ahead.startsWith_eq _ _) ahead)
      (by decide) id closed
  exact bind_eq_ok.mpr ⟨_, expect_append opened beyond, bind_eq_ok.mpr ⟨_, items_read, rfl⟩⟩

theorem doBlock_prolonged {block : List Node × List Node} (made : doBlock (expression depth) tokens = .ok (block, [])) :
    doBlock (expression deeper) (tokens ++ beyond) = .ok (block, beyond) := by
  obtain ⟨inside, opened, made⟩ := bind_eq_ok.mp made
  obtain ⟨⟨nodes, rest⟩, first, made⟩ := bind_eq_ok.mp made
  obtain ⟨⟨more, last⟩, later, finished⟩ := bind_eq_ok.mp made
  have whole := closed_prolonged (takes_bodySections (takes_expression depth)) beyond
    (fun halts _ _ ahead => persists_bodySections (foresees_expression halts beyond fits) ahead) (by decide) id
    (bind_eq_ok.mpr ⟨_, bind_eq_ok.mpr ⟨_, first, bind_eq_ok.mpr ⟨_, later, rfl⟩⟩, finished⟩)
  simp only [bodySections, bind_assoc, pure_bind] at whole
  exact bind_eq_ok.mpr ⟨_, expect_append opened beyond, whole⟩

end Brackets

end BoundaryLint.Grammar
