import BoundaryLint.Host.Ordinary
import BoundaryLint.Proofs.Source.Outcome
import BoundaryLint.Proofs.Token.Writing
import Mathlib

/-!
The lines of tokens. Every way the scanner moves on through the text adds the line breaks that it
passes to the line it keeps, all but one: in the body of a sigil a backslash hides the character
after it, and a hidden line break is not counted. So a token stands as many lines too early as line
breaks are hidden in the sigils before it.
-/

namespace BoundaryLint.Token

def breaks (chars : List Char) : Nat := chars.count '\n'

@[simp] theorem breaks_nil : breaks [] = 0 := rfl

theorem breaks_cons (c : Char) (rest : List Char) :
    breaks (c :: rest) = lineAfter 0 c + breaks rest := by
  unfold breaks lineAfter
  rw [List.count_cons]
  by_cases same : c = '\n'
  · simp [same, Nat.add_comm]
  · simp [same]

theorem lineAfter_eq (line : Nat) (c : Char) : lineAfter line c = line + lineAfter 0 c := by
  unfold lineAfter
  split <;> rfl

theorem lineAfter_of_ne {c : Char} (other : c ≠ '\n') : lineAfter 0 c = 0 := if_neg other

/-- The scanner comes from `chars` at a line to `rest` at another one, and passes `hidden` line breaks
without counting them. -/
structure Reaches (hidden line : Nat) (chars : List Char) (after : Nat) (rest : List Char) :
    Prop where
  ends : rest <:+ chars
  count : after + hidden + breaks rest = line + breaks chars
  grows : line ≤ after

theorem Reaches.refl (line : Nat) (chars : List Char) : Reaches 0 line chars line chars :=
  ⟨List.suffix_rfl, rfl, Nat.le_refl _⟩

theorem Reaches.trans {hidden more line middle after : Nat} {chars between rest : List Char}
    (first : Reaches hidden line chars middle between)
    (second : Reaches more middle between after rest) :
    Reaches (hidden + more) line chars after rest := by
  refine ⟨second.ends.trans first.ends, ?_, Nat.le_trans first.grows second.grows⟩
  have one := first.count
  have two := second.count
  omega

theorem Reaches.cons {hidden line after : Nat} {chars rest : List Char} (c : Char)
    (later : Reaches hidden (lineAfter line c) chars after rest) :
    Reaches hidden line (c :: chars) after rest := by
  have count := later.count
  have grows := later.grows
  rw [lineAfter_eq] at count grows
  refine ⟨later.ends.trans (List.suffix_cons _ _), ?_, by omega⟩
  rw [breaks_cons]
  omega

theorem Reaches.cons_of_ne {hidden line after : Nat} {chars rest : List Char} {c : Char}
    (other : c ≠ '\n') (later : Reaches hidden line chars after rest) :
    Reaches hidden line (c :: chars) after rest := by
  apply Reaches.cons
  rwa [lineAfter_eq, lineAfter_of_ne other]

theorem reaches_skipGap (comment : Bool) (gap : Gap) (line : Nat) (chars : List Char) :
    Reaches 0 line chars (skipGap comment gap line chars).line
      (skipGap comment gap line chars).rest := by
  fun_induction skipGap comment gap line chars with
  | case1 | case6 | case8 | case9 => exact .refl _ _
  | case2 comment gap line rest ih => exact .cons '\n' ih
  | case3 gap line c rest other ih => exact .cons_of_ne other ih
  | case4 _ gap line c rest other _ _ ih => exact .cons_of_ne other ih
  | case5 _ gap line rest _ _ _ ih => exact .cons_of_ne (by decide) ih
  | case7 _ gap line after _ _ _ _ ih => exact .cons_of_ne (by decide) (.cons '\n' ih)

/-- No line break closes what is open, so a closing delimiter never ends a line. -/
def Open.Closes : Open → Prop
  | .text quote _ | .heredoc quote _ => quote ≠ '\n'
  | .interpolation _ _ => True

theorem ne_break_of_quote {c : Char} (quote : c = '"' ∨ c = '\'') : c ≠ '\n' := by
  rcases quote with rfl | rfl
  · decide
  · decide

theorem reaches_closeLiteral [Host] {around : List Open} {inner : Open} {line : Nat}
    {taken chars : List Char} {body : Body} (inside : inner.Closes)
    (outside : ∀ outer ∈ around, outer.Closes)
    (closed : closeLiteral around inner line taken chars = .ok body) :
    Reaches 0 line chars body.line body.rest := by
  fun_induction closeLiteral around inner line taken chars with
  | case1 | case2 | case6 | case7 | case15 | case21 => cases closed
  | case3 _ _ _ _ _ escaped _ ih =>
    exact .cons_of_ne (by decide) (.cons escaped (ih inside outside closed))
  | case4 line _ _ rest =>
    cases closed
    exact .cons_of_ne inside (.refl line rest)
  | case5 _ _ _ _ _ _ next around ih =>
    obtain ⟨below, further⟩ := List.forall_mem_cons.mp outside
    exact .cons_of_ne inside (ih below further closed)
  | case8 _ _ _ _ _ _ _ _ _ ih =>
    have pushed := List.forall_mem_cons.mpr ⟨inside, outside⟩
    exact .cons_of_ne (by decide) (.cons_of_ne (by decide) (ih trivial pushed closed))
  | case9 _ _ _ _ _ _ _ _ _ _ ih =>
    exact .cons_of_ne (by decide) (ih inside outside closed)
  | case10 _ _ _ c _ _ _ _ _ _ ih => exact .cons c (ih inside outside closed)
  | case11 line _ c quote _ second third after same =>
    obtain ⟨rfl, rfl, rfl, _⟩ := same
    cases closed
    exact .cons_of_ne inside (.cons_of_ne inside (.cons_of_ne inside (.refl line after)))
  | case12 line _ c quote _ second third after same next around ih =>
    obtain ⟨rfl, rfl, rfl, _⟩ := same
    obtain ⟨below, further⟩ := List.forall_mem_cons.mp outside
    exact .cons_of_ne inside (.cons_of_ne inside (.cons_of_ne inside (ih below further closed)))
  | case13 _ _ _ c _ _ _ _ _ _ ih => exact .cons c (ih inside outside closed)
  | case14 _ _ _ c _ _ _ _ ih => exact .cons c (ih inside outside closed)
  | case16 _ _ _ c _ _ quote _ second third _ same ih =>
    obtain ⟨rfl, rfl⟩ := same
    have plain := ne_break_of_quote quote
    have pushed := List.forall_mem_cons.mpr ⟨inside, outside⟩
    exact .cons_of_ne plain (.cons_of_ne plain (.cons_of_ne plain (ih plain pushed closed)))
  | case17 _ _ _ c _ _ quote _ _ _ _ _ ih =>
    have plain := ne_break_of_quote quote
    exact .cons_of_ne plain (ih plain (List.forall_mem_cons.mpr ⟨inside, outside⟩) closed)
  | case18 _ _ _ c _ _ quote _ _ _ ih =>
    have plain := ne_break_of_quote quote
    exact .cons_of_ne plain (ih plain (List.forall_mem_cons.mpr ⟨inside, outside⟩) closed)
  | case19 _ _ _ _ _ _ _ ih => exact .cons_of_ne (by decide) (ih trivial outside closed)
  | case20 _ _ _ _ _ _ _ _ ih => exact .cons_of_ne (by decide) (ih trivial outside closed)
  | case22 _ _ _ _ next around _ _ ih =>
    obtain ⟨below, further⟩ := List.forall_mem_cons.mp outside
    exact .cons_of_ne (by decide) (ih below further closed)
  | case23 _ _ _ c _ _ _ _ _ _ ih => exact .cons c (ih inside outside closed)

theorem reaches_scanQuoted [Host] {quote : Char} {line : Nat} {chars : List Char} {body : Body}
    (plain : quote ≠ '\n') (closed : scanQuoted quote line chars = .ok body) :
    Reaches 0 line chars body.line body.rest := by
  have alone : ∀ outer ∈ ([] : List Open), outer.Closes := List.forall_mem_nil _
  have literal : (Open.text quote line).Closes := plain
  have heredoc : (Open.heredoc quote line).Closes := plain
  unfold scanQuoted at closed
  split at closed
  · next second third rest =>
    split at closed
    · next same =>
      obtain ⟨rfl, rfl⟩ := same
      exact .cons_of_ne plain (.cons_of_ne plain (reaches_closeLiteral heredoc alone closed))
    · exact reaches_closeLiteral literal alone closed
  · exact reaches_closeLiteral literal alone closed

def escapedBreaks : List Char → Nat
  | '\\' :: c :: rest => lineAfter 0 c + escapedBreaks rest
  | _ :: rest => escapedBreaks rest
  | [] => 0

theorem escapedBreaks_of_ne {c : Char} (plain : c ≠ '\\') (rest : List Char) :
    escapedBreaks (c :: rest) = escapedBreaks rest := by
  rw [escapedBreaks]
  intro escaped after same
  exact absurd same plain

theorem escapedBreaks_le (chars : List Char) : escapedBreaks chars ≤ breaks chars := by
  fun_induction escapedBreaks chars with
  | case1 c rest ih =>
    rw [breaks_cons, breaks_cons]
    omega
  | case2 c rest _ ih =>
    rw [breaks_cons]
    omega
  | case3 => exact Nat.le_refl _

/-- The rest of a sigil body stands ahead: `more` up to the closer, of whose line breaks the
escaped ones do not count. -/
def SigilAhead (closer : Char) (line : Nat) (taken chars : List Char) (body : Body) : Prop :=
  ∃ more, body.chars = taken.reverse ++ more ∧ chars = more ++ closer :: body.rest ∧
    body.line + escapedBreaks more = line + breaks more

theorem SigilAhead.cons {closer c : Char} {line : Nat} {taken chars : List Char} {body : Body}
    (plain : c ≠ '\\') (ahead : SigilAhead closer (lineAfter line c) (c :: taken) chars body) :
    SigilAhead closer line taken (c :: chars) body := by
  obtain ⟨more, content, split, count⟩ := ahead
  refine ⟨c :: more, ?_, ?_, ?_⟩
  · rw [content, List.reverse_cons, List.append_assoc, List.singleton_append]
  · rw [split, List.cons_append]
  · rw [lineAfter_eq] at count
    rw [escapedBreaks_of_ne plain, breaks_cons]
    omega

theorem closeSigil_ahead {opener closer : Char} {depth line : Nat} {taken chars : List Char}
    {body : Body} (closed : closeSigil opener closer depth line taken chars = some body) :
    SigilAhead closer line taken chars body := by
  fun_induction closeSigil opener closer depth line taken chars with
  | case1 | case2 => cases closed
  | case3 depth line taken escaped rest ih =>
    obtain ⟨more, content, split, count⟩ := ih closed
    refine ⟨'\\' :: escaped :: more, ?_, ?_, ?_⟩
    · simpa using content
    · rw [split, List.cons_append, List.cons_append]
    · rw [escapedBreaks, breaks_cons, breaks_cons, lineAfter_of_ne (by decide : '\\' ≠ '\n')]
      omega
  | case4 line taken rest =>
    cases closed
    exact ⟨[], (List.append_nil _).symm, rfl, rfl⟩
  | case5 line taken rest depth plain ih => exact .cons plain (ih closed)
  | case6 depth line taken rest plain _ ih => exact .cons plain (ih closed)
  | case7 depth line taken c rest plain _ _ ih => exact .cons plain (ih closed)

theorem Reaches.append {hidden line after : Nat} {chars rest : List Char} (front : List Char)
    (clear : '\n' ∉ front) (later : Reaches hidden line chars after rest) :
    Reaches hidden line (front ++ chars) after rest := by
  induction front with
  | nil => exact later
  | cons c front ih =>
    have other := List.ne_of_not_mem_cons clear
    exact .cons_of_ne other.symm (ih (List.not_mem_of_not_mem_cons clear))

theorem reaches_dropWhile {p : Char → Bool} (stops : p '\n' = false) (line : Nat)
    (chars : List Char) : Reaches 0 line chars line (chars.dropWhile p) := by
  have whole : chars.takeWhile p ++ chars.dropWhile p = chars := List.takeWhile_append_dropWhile
  have clear : '\n' ∉ chars.takeWhile p := by
    intro member
    have taken := List.all_eq_true.mp List.all_takeWhile _ member
    rw [stops] at taken
    cases taken
  have reached := Reaches.append _ clear (.refl line (chars.dropWhile p))
  rwa [whole] at reached

theorem reaches_scanWord (line : Nat) (chars : List Char) :
    Reaches 0 line chars line (scanWord chars).2 := by
  have word := reaches_dropWhile (by decide : Text.isWordChar '\n' = false) line chars
  have mark : ∀ rest, Reaches 0 line rest line (wordMark rest).2 := by
    intro rest
    fun_cases wordMark rest with
    | case1 | case3 => exact .refl _ _
    | case2 c rest marked =>
      refine .cons_of_ne ?_ (.refl _ _)
      rcases marked.1 with rfl | rfl
      · decide
      · decide
  exact word.trans (mark _)

/-- A token that leaves no line break uncounted: none but a sigil does. -/
structure Lexeme.Plain (line : Nat) (chars : List Char) (lexeme : Lexeme) : Prop where
  kind : lexeme.kind ≠ .sigil
  reaches : Reaches 0 line chars lexeme.line lexeme.rest

theorem reaches_tail_of_startsKey {rest : List Char} (key : startsKey rest = true) (line : Nat) :
    Reaches 0 line rest line rest.tail := by
  unfold startsKey at key
  split at key
  · exact .cons_of_ne (by decide) (.refl _ _)
  · exact .cons_of_ne (by decide) (.refl _ _)
  · cases key

theorem plain_keyOr {kind : Kind} (other : kind ≠ .sigil) {line after : Nat}
    {chars rest : List Char} (text : List Char) (reached : Reaches 0 line chars after rest) :
    (keyOr kind text rest after).Plain line chars := by
  unfold keyOr
  split
  · next key => exact ⟨by simp, reached.trans (reaches_tail_of_startsKey key after)⟩
  · exact ⟨other, reached⟩

theorem wordKind_ne {kind : Kind} (other : kind ∉ [Kind.keyword, .operator, .literal, .identifier]) (word : String) :
    wordKind word ≠ kind := by
  rintro rfl
  revert other
  unfold wordKind
  repeat' split
  all_goals decide

theorem isNumeralChar_break : isNumeralChar '\n' = false := by decide

theorem reaches_scanExponent (line : Nat) (chars : List Char) :
    Reaches 0 line chars line (scanExponent chars).2 := by
  fun_cases scanExponent chars with
  | case1 | case4 | case5 => exact .refl _ _
  | case2 mark power =>
    refine .cons_of_ne ?_ (.refl _ _)
    rintro rfl
    simp at power
  | case3 mark power c rest signed =>
    have digits := reaches_dropWhile isNumeralChar_break line rest
    refine .cons_of_ne ?_ (.cons_of_ne ?_ digits)
    · rintro rfl
      simp at power
    · rintro rfl
      revert signed
      decide

theorem reaches_scanFraction {chars fraction rest : List Char}
    (found : scanFraction chars = some (fraction, rest)) (line : Nat) :
    Reaches 0 line chars line rest := by
  unfold scanFraction at found
  split at found
  · next c after =>
    split at found
    · have digits := reaches_dropWhile isNumeralChar_break line (c :: after)
      have power := digits.trans (reaches_scanExponent line _)
      cases found
      exact .cons_of_ne (by decide) power
    · cases found
  · cases found

theorem plain_scanDecimal (line : Nat) (chars : List Char) :
    (scanDecimal line chars).Plain line chars := by
  have whole := reaches_dropWhile isNumeralChar_break line chars
  unfold scanDecimal
  dsimp only
  split
  · next found => exact ⟨by simp, whole.trans (reaches_scanFraction found line)⟩
  · exact ⟨by simp, whole⟩

theorem plain_scanNumeral (line : Nat) (chars : List Char) :
    (scanNumeral line chars).Plain line chars := by
  unfold scanNumeral
  split
  · next base rest =>
    split
    · next based =>
      have digits := reaches_dropWhile (by decide : Text.isWordChar '\n' = false) line rest
      have plain : base ≠ '\n' := by
        rintro rfl
        simp at based
      exact ⟨by simp, .cons_of_ne (by decide) (.cons_of_ne plain digits)⟩
    · exact plain_scanDecimal line _
  · exact plain_scanDecimal line chars

theorem break_not_mem_operator : ∀ operator ∈ bracketAtoms ++ operators, '\n' ∉ operator.toList := by
  decide

theorem reaches_firstOperator {candidates : List String} {chars : List Char} {operator : String}
    (known : candidates ⊆ bracketAtoms ++ operators)
    (found : firstOperator candidates chars = some operator) (line : Nat) :
    Reaches 0 line chars line (chars.drop operator.length) := by
  have member := List.mem_of_find?_eq_some found
  have clear := break_not_mem_operator operator (known member)
  have starts : operator.toList.isPrefixOf chars = true := by
    simpa using List.find?_some found
  obtain ⟨rest, rfl⟩ := List.isPrefixOf_iff_prefix.mp starts
  rw [← String.length_toList, List.drop_left]
  exact .append _ clear (.refl line rest)

theorem reaches_scanAtomTail (line : Nat) (chars : List Char) :
    Reaches 0 line chars line (scanAtomTail chars).2 := by
  fun_induction scanAtomTail chars with
  | case1 c rest _ tail ih =>
    exact .cons_of_ne (by decide) ((reaches_scanWord line (c :: rest)).trans ih)
  | case2 => exact .refl _ _
  | case3 => exact .refl _ _

theorem plain_scanColon [Host] {line : Nat} {chars : List Char} {lexeme : Lexeme}
    (scanned : scanColon line chars = .ok lexeme) : lexeme.Plain line chars := by
  unfold scanColon at scanned
  split at scanned
  · cases scanned
  · next c rest =>
    split at scanned
    · next colon =>
      cases scanned
      exact ⟨by simp, .cons_of_ne (by rw [colon]; decide) (.refl _ _)⟩
    split at scanned
    · next quote =>
      obtain ⟨body, closed, given⟩ := bind_eq_ok.mp scanned
      cases given
      have plain := ne_break_of_quote quote
      exact ⟨by simp, .cons_of_ne plain (reaches_scanQuoted plain closed)⟩
    split at scanned
    · cases scanned
      exact ⟨by simp, (reaches_scanWord line (c :: rest)).trans (reaches_scanAtomTail line _)⟩
    split at scanned
    · next found =>
      cases scanned
      exact ⟨by simp, reaches_firstOperator (List.Subset.refl _) found line⟩
    · cases scanned

def opensHeredoc : List Char → Bool
  | first :: second :: third :: _ => (first = '"' || first = '\'') && second = first && third = first
  | _ => false

/-- The line breaks that the scanner passes without counting them in a token of this kind and text,
where `chars` starts with the token: those escaped in the body of a sigil that is no heredoc. -/
def hiddenBreaks (kind : Kind) (text : String) (chars : List Char) : Nat :=
  if kind = .sigil ∧ opensHeredoc (chars.tail.dropWhile Text.isLetter) = false then
    escapedBreaks text.toList
  else 0

theorem hiddenBreaks_of_ne {kind : Kind} (other : kind ≠ .sigil) (text : String)
    (chars : List Char) : hiddenBreaks kind text chars = 0 := by
  simp [hiddenBreaks, other]

theorem sigilCloser_ne_break {opener : Char} (opens : opener ∈ sigilOpeners) :
    sigilCloser opener ≠ '\n' := by
  have closers : (sigilOpeners.map sigilCloser).contains '\n' = false := by decide
  intro same
  have member : '\n' ∈ sigilOpeners.map sigilCloser := same ▸ List.mem_map_of_mem opens
  rw [← List.contains_iff_mem, closers] at member
  cases member

theorem reaches_closeSigil {opener closer : Char} {line : Nat} {chars : List Char} {body : Body}
    (plain : closer ≠ '\n') (closed : closeSigil opener closer 0 line [] chars = some body) :
    Reaches (escapedBreaks body.chars) line chars body.line body.rest := by
  obtain ⟨more, content, split, count⟩ := closeSigil_ahead closed
  have bound := escapedBreaks_le more
  rw [List.reverse_nil, List.nil_append] at content
  rw [content, split]
  refine ⟨⟨more ++ [closer], by simp⟩, ?_, by omega⟩
  have after : breaks (closer :: body.rest) = breaks body.rest := by
    rw [breaks_cons, lineAfter_of_ne plain, Nat.zero_add]
  have whole : breaks (more ++ closer :: body.rest) = breaks more + breaks body.rest := by
    rw [← after]
    exact List.count_append
  omega

theorem escapedBreaks_letters {front : List Char} (letters : ∀ c ∈ front, Text.isLetter c = true)
    (chars : List Char) : escapedBreaks (front ++ chars) = escapedBreaks chars := by
  induction front with
  | nil => rfl
  | cons c front ih =>
    obtain ⟨letter, letters⟩ := List.forall_mem_cons.mp letters
    have plain : c ≠ '\\' := by
      rintro rfl
      revert letter
      decide
    rw [List.cons_append, escapedBreaks_of_ne plain, ih letters]

theorem scanSigilBody_of_heredoc [Host] {opener : Char} {rest : List Char}
    (heredoc : opensHeredoc (opener :: rest) = true) (name : String) (line : Nat) :
    scanSigilBody name line opener rest = scanQuoted opener line rest := by
  match rest, heredoc with
  | second :: third :: tail, heredoc =>
    simp only [opensHeredoc, Bool.and_eq_true, Bool.or_eq_true, decide_eq_true_eq] at heredoc
    simp only [scanSigilBody, if_pos heredoc.1.1, if_pos (And.intro heredoc.1.2 heredoc.2)]

theorem closeSigil_of_scanSigilBody [Host] {opener : Char} {rest : List Char} {name : String} {line : Nat}
    {body : Body} (short : opensHeredoc (opener :: rest) = false)
    (scanned : scanSigilBody name line opener rest = .ok body) :
    closeSigil opener (sigilCloser opener) 0 line [] rest = some body := by
  cases closed : closeSigil opener (sigilCloser opener) 0 line [] rest with
  | none =>
    simp only [scanSigilBody, closed] at scanned
    grind [opensHeredoc]
  | some found =>
    simp only [scanSigilBody, closed] at scanned
    grind [opensHeredoc]

theorem reaches_scanSigil [Host] {line : Nat} {chars : List Char} {lexeme : Lexeme}
    (scanned : scanSigil line chars = .ok lexeme) :
    Reaches (hiddenBreaks lexeme.kind lexeme.text ('~' :: chars)) line ('~' :: chars) lexeme.line
      lexeme.rest := by
  have letters := reaches_dropWhile (by decide : Text.isLetter '\n' = false)
  have name := letters line chars
  unfold scanSigil at scanned
  split at scanned
  · cases scanned
  · next opener rest same =>
    split at scanned
    · next opens =>
      obtain ⟨body, found, given⟩ := bind_eq_ok.mp scanned
      cases given
      have delimiter : opener ≠ '\n' := by
        rintro rfl
        revert opens
        decide
      rw [same] at name
      refine .cons_of_ne (by decide) ?_
      simp only [hiddenBreaks, List.tail_cons, same]
      by_cases heredoc : opensHeredoc (opener :: rest) = true
      · rw [scanSigilBody_of_heredoc heredoc] at found
        have inner := (reaches_scanQuoted delimiter found).trans (letters body.line body.rest)
        simpa [heredoc] using name.trans (.cons_of_ne delimiter inner)
      · have short := Bool.eq_false_iff.mpr heredoc
        have closed := closeSigil_of_scanSigilBody short found
        have inner := (reaches_closeSigil (sigilCloser_ne_break opens) closed).trans
          (letters body.line body.rest)
        have text : escapedBreaks ('~' :: (chars.takeWhile Text.isLetter ++ body.chars)) =
            escapedBreaks body.chars := by
          rw [escapedBreaks_of_ne (by decide)]
          apply escapedBreaks_letters
          exact List.all_eq_true.mp List.all_takeWhile
        simpa [short, text] using name.trans (.cons_of_ne delimiter inner)
    · cases scanned

theorem plain_scanOperator {line : Nat} {c : Char} {rest : List Char} {lexeme : Lexeme}
    (scanned : scanOperator line c rest = .ok lexeme) : lexeme.Plain line (c :: rest) := by
  unfold scanOperator at scanned
  split at scanned
  · next found =>
    cases scanned
    exact ⟨by simp, reaches_firstOperator (List.subset_append_right _ _) found line⟩
  · cases scanned

theorem plain_scanQuotedToken [Host] {kind : Kind} {quote : Char} {line : Nat} {rest : List Char}
    {lexeme : Lexeme} (other : kind ≠ .sigil) (plain : quote ≠ '\n')
    (scanned : scanQuotedToken kind quote line rest = .ok lexeme) :
    lexeme.Plain line (quote :: rest) := by
  obtain ⟨body, closed, given⟩ := bind_eq_ok.mp scanned
  cases given
  exact plain_keyOr other body.chars (.cons_of_ne plain (reaches_scanQuoted plain closed))

theorem plain_scanCharCode (line : Nat) (c : Char) (rest : List Char) :
    (scanCharCode line c rest).Plain line (c :: rest) := by
  fun_cases scanCharCode line c rest with
  | case1 backslash =>
    subst backslash
    exact ⟨by simp, .cons_of_ne (by decide) (.refl _ _)⟩
  | case2 backslash escaped rest =>
    subst backslash
    exact ⟨by simp, .cons_of_ne (by decide) (.cons escaped (.refl _ _))⟩
  | case3 => exact ⟨by simp, .cons c (.refl _ _)⟩

theorem Lexeme.Plain.hidden {line : Nat} {chars : List Char} {lexeme : Lexeme}
    (plain : lexeme.Plain line chars) :
    Reaches (hiddenBreaks lexeme.kind lexeme.text chars) line chars lexeme.line lexeme.rest := by
  rw [hiddenBreaks_of_ne plain.kind]
  exact plain.reaches

theorem reaches_scanToken [Host] {line : Nat} {c : Char} {rest : List Char} {lexeme : Lexeme}
    (scanned : scanToken line c rest = .ok lexeme) :
    Reaches (hiddenBreaks lexeme.kind lexeme.text (c :: rest)) line (c :: rest) lexeme.line
      lexeme.rest := by
  unfold scanToken at scanned
  split at scanned
  · cases scanned
    exact (plain_scanNumeral line _).hidden
  split at scanned
  · cases scanned
    exact (plain_keyOr (wordKind_ne (by decide) _) _ (reaches_scanWord line (c :: rest))).hidden
  split at scanned
  · cases scanned
    exact (plain_keyOr (by decide) _ (reaches_scanWord line (c :: rest))).hidden
  split at scanned
  · next quote =>
    exact (plain_scanQuotedToken (by decide) (ne_break_of_quote (.inl quote)) scanned).hidden
  split at scanned
  · next quote =>
    exact (plain_scanQuotedToken (by decide) (ne_break_of_quote (.inr quote)) scanned).hidden
  split at scanned
  · next colon =>
    subst colon
    have plain := plain_scanColon scanned
    exact Lexeme.Plain.hidden ⟨plain.kind, .cons_of_ne (by decide) plain.reaches⟩
  split at scanned
  · next mark =>
    cases scanned
    refine Lexeme.Plain.hidden ⟨by simp, .cons_of_ne ?_ (.refl _ _)⟩
    rintro rfl
    revert mark
    decide
  split at scanned
  · exact (plain_scanOperator scanned).hidden
  split at scanned
  · next following after question =>
    subst question
    cases scanned
    have plain := plain_scanCharCode line following after
    exact Lexeme.Plain.hidden ⟨plain.kind, .cons_of_ne (by decide) plain.reaches⟩
  split at scanned
  · next following after _ tilde =>
    simp only [Bool.and_eq_true, decide_eq_true_eq] at tilde
    obtain ⟨rfl, _⟩ := tilde
    exact reaches_scanSigil scanned
  · exact (plain_scanOperator scanned).hidden

structure Place where
  token : Token
  text : List Char

def Place.hidden (place : Place) : Nat := hiddenBreaks place.token.kind place.token.text place.text

def scanPlaces [Host] (line : Nat) (chars : List Char) : Except Source.Fault (List Place) :=
  match skipped : skipGap false Gap.none line chars with
  | ⟨_, _, []⟩ => .ok []
  | ⟨gap, here, c :: rest⟩ =>
    match scanned : scanToken here c rest with
    | .error fault => .error fault
    | .ok lexeme =>
      have _shorter := rest_lt_of_scan skipped scanned
      match scanPlaces lexeme.line lexeme.rest with
      | .error fault => .error fault
      | .ok places =>
        .ok (⟨⟨lexeme.kind, lexeme.text, here, gap.space, gap.newline⟩, c :: rest⟩ :: places)
termination_by chars.length

theorem scanPlaces_tokens [Host] (line : Nat) (chars : List Char) :
    (scanPlaces line chars).map (List.map Place.token) = scanFrom line chars := by
  fun_induction scanPlaces line chars with
  | case1 line chars gap here skipped =>
    rw [scanFrom_end skipped]
    rfl
  | case2 line chars gap here c rest skipped fault failed =>
    rw [scanFrom_failed skipped failed]
    rfl
  | case3 line chars gap here c rest skipped lexeme scanned _ fault failed ih =>
    rw [scanFrom_step skipped scanned, ← ih, failed]
    rfl
  | case4 line chars gap here c rest skipped lexeme scanned _ places found ih =>
    rw [scanFrom_step skipped scanned, ← ih, found]
    rfl

theorem reaches_place [Host] {line : Nat} {chars : List Char} {earlier later : List Place} {place : Place}
    (scanned : scanPlaces line chars = .ok (earlier ++ place :: later)) :
    Reaches (earlier.map Place.hidden).sum line chars place.token.line place.text := by
  -- Along the scan: `earlier` loses its first token with every token that the scanner leaves behind.
  generalize whole : earlier ++ place :: later = places at scanned
  fun_induction scanPlaces line chars generalizing places earlier with
  | case1 =>
    cases scanned
    simp at whole
  | case2 | case3 => cases scanned
  | case4 line chars gap here c rest skipped lexeme found _ others located ih =>
    cases scanned
    have gapped := reaches_skipGap false Gap.none line chars
    rw [skipped] at gapped
    cases earlier with
    | nil =>
      cases whole
      exact gapped
    | cons first earlier =>
      cases whole
      have token := gapped.trans (reaches_scanToken found)
      have further := token.trans (ih _ rfl located)
      rw [Nat.zero_add] at further
      exact further

/-- A token stands on the line that the line breaks before it give, less those that the sigils before
it hide. -/
theorem scan_lines [Host] {source : String} {tokens : List Token} (scanned : scan source = .ok tokens) :
    ∃ places, scanPlaces 1 (unifyBreaks source.toList) = .ok places ∧
      places.map Place.token = tokens ∧
      ∀ earlier place later, places = earlier ++ place :: later →
        ∃ before, unifyBreaks source.toList = before ++ place.text ∧
          place.token.line + (earlier.map Place.hidden).sum = 1 + breaks before := by
  have kept := scanPlaces_tokens 1 (unifyBreaks source.toList)
  rw [← scan, scanned] at kept
  cases located : scanPlaces 1 (unifyBreaks source.toList) with
  | error fault =>
    rw [located] at kept
    cases kept
  | ok places =>
    rw [located] at kept
    refine ⟨places, rfl, Except.ok.inj kept, ?_⟩
    rintro earlier place later rfl
    have reached := reaches_place located
    obtain ⟨before, whole⟩ := reached.ends
    refine ⟨before, whole.symm, ?_⟩
    have count := reached.count
    have split : breaks (before ++ place.text) = breaks before + breaks place.text :=
      List.count_append
    rw [← whole, split] at count
    omega

attribute [local instance] Host.ordinary in
theorem scan_lines_heredoc :
    scan "\"\"\"\na\n\"\"\" x" =
        .ok [⟨.string, "\na\n", 1, false, false⟩, ⟨.identifier, "x", 3, true, false⟩] ∧
      ∃ places, scanPlaces 1 (unifyBreaks "\"\"\"\na\n\"\"\" x".toList) = .ok places ∧
        places.map Place.token =
          [⟨.string, "\na\n", 1, false, false⟩, ⟨.identifier, "x", 3, true, false⟩] ∧
        ∀ earlier place later, places = earlier ++ place :: later →
          ∃ before, unifyBreaks "\"\"\"\na\n\"\"\" x".toList = before ++ place.text ∧
            place.token.line + (earlier.map Place.hidden).sum = 1 + breaks before :=
  ⟨by decide +kernel, scan_lines (by decide +kernel)⟩

attribute [local instance] Host.ordinary in
/-- The line break that the sigil hides is missing from the line of the token after it. -/
theorem scan_lines_sigil :
    scan "~s(a\\\nb) x" =
        .ok [⟨.sigil, "~sa\\\nb", 1, false, false⟩, ⟨.identifier, "x", 1, true, false⟩] ∧
      unifyBreaks "~s(a\\\nb) x".toList = "~s(a\\\nb) ".toList ++ "x".toList ∧
      1 + breaks "~s(a\\\nb) ".toList = 2 :=
  ⟨by decide +kernel, by decide, by decide⟩

end BoundaryLint.Token
