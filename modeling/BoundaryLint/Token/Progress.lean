import BoundaryLint.Token.Scanner

/-!
Scanning a token always consumes something: `scanToken_rest_lt`. That is why the scan of a whole
text ends.
-/

namespace BoundaryLint.Token

theorem closeLiteral_rest_lt [Host] (around : List Open) (inner : Open) (line : Nat) (taken : List Char)
    (chars : List Char) (body : Body)
    (closed : closeLiteral around inner line taken chars = .ok body) :
    body.rest.length < chars.length := by
  fun_induction closeLiteral around inner line taken chars <;> grind

theorem scanQuoted_rest_lt [Host] (quote : Char) (line : Nat) (chars : List Char) (body : Body)
    (closed : scanQuoted quote line chars = .ok body) : body.rest.length < chars.length := by
  unfold scanQuoted at closed
  split at closed
  · split at closed
    · have := closeLiteral_rest_lt _ _ _ _ _ _ closed
      simp only [List.length_cons]
      omega
    · exact closeLiteral_rest_lt _ _ _ _ _ _ closed
  · exact closeLiteral_rest_lt _ _ _ _ _ _ closed

theorem closeSigil_rest_lt (opener closer : Char) (depth line : Nat) (taken chars : List Char)
    (body : Body) (closed : closeSigil opener closer depth line taken chars = some body) :
    body.rest.length < chars.length := by
  fun_induction closeSigil opener closer depth line taken chars <;> grind

theorem keyOr_rest_le (kind : Kind) (text rest : List Char) (line : Nat) :
    (keyOr kind text rest line).rest.length ≤ rest.length := by
  unfold keyOr
  split <;> simp

theorem length_dropWhile_lt (p : Char → Bool) (c : Char) (rest : List Char) (first : p c = true) :
    ((c :: rest).dropWhile p).length < (c :: rest).length := by
  rw [List.dropWhile_cons_of_pos first, List.length_cons]
  exact Nat.lt_succ_of_le (length_dropWhile_le p rest)

theorem scanWord_rest_lt (c : Char) (rest : List Char) (first : Text.isWordChar c = true) :
    (scanWord (c :: rest)).2.length < (c :: rest).length :=
  Nat.lt_of_le_of_lt (wordMark_rest_le _) (length_dropWhile_lt _ _ _ first)

theorem isWordChar_of_isLetter (c : Char) (letter : Text.isLetter c = true) :
    Text.isWordChar c = true := by
  unfold Text.isWordChar Text.isAlphanumeric
  by_cases ascii : c.toNat < 128
  · rw [Text.isLetter_ascii c ascii] at letter
    simp [ascii, Char.isAlphanum, letter]
  · simp [ascii, letter]

theorem isWordChar_of_isIdentifierStart (c : Char) (start : isIdentifierStart c = true) :
    Text.isWordChar c = true := by
  simp only [isIdentifierStart, Bool.or_eq_true, Bool.and_eq_true, decide_eq_true_eq] at start
  rcases start with rfl | ⟨letter, _⟩
  · rfl
  · exact isWordChar_of_isLetter c letter

theorem scanAtomTail_rest_le (chars : List Char) :
    (scanAtomTail chars).2.length ≤ chars.length := by
  fun_induction scanAtomTail chars with
  | case1 c rest upper tail ih =>
    exact Nat.le_trans ih (Nat.le_succ_of_le (scanWord_rest_le (c :: rest)))
  | case2 => simp
  | case3 => simp

theorem scanExponent_rest_le (chars : List Char) :
    (scanExponent chars).2.length ≤ chars.length := by
  have drop := fun (rest : List Char) => length_dropWhile_le isNumeralChar rest
  fun_cases scanExponent chars <;> grind

theorem scanFraction_rest_le (chars : List Char) (fraction rest : List Char)
    (found : scanFraction chars = some (fraction, rest)) : rest.length ≤ chars.length := by
  unfold scanFraction at found
  split at found
  · next c after =>
    split at found
    · have power := scanExponent_rest_le ((c :: after).dropWhile isNumeralChar)
      have dropped := length_dropWhile_le isNumeralChar (c :: after)
      simp only [Option.some.injEq, Prod.mk.injEq] at found
      rw [found.2] at power
      simp only [List.length_cons] at dropped ⊢
      omega
    · contradiction
  · contradiction

theorem scanDecimal_rest_lt (line : Nat) (c : Char) (rest : List Char)
    (digit : Text.isDigit c = true) :
    (scanDecimal line (c :: rest)).rest.length < (c :: rest).length := by
  have dropped := length_dropWhile_lt isNumeralChar c rest (by simp [isNumeralChar, digit])
  unfold scanDecimal
  simp only
  split
  · next fraction after found => exact Nat.lt_of_le_of_lt (scanFraction_rest_le _ _ _ found) dropped
  · exact dropped

theorem scanNumeral_rest_lt (line : Nat) (c : Char) (rest : List Char)
    (digit : Text.isDigit c = true) :
    (scanNumeral line (c :: rest)).rest.length < (c :: rest).length := by
  unfold scanNumeral
  split
  · next base after same =>
    split
    · have dropped := length_dropWhile_le Text.isWordChar after
      simp only [List.cons.injEq] at same
      simp only [same, List.length_cons]
      omega
    · exact scanDecimal_rest_lt line c rest digit
  · exact scanDecimal_rest_lt line c rest digit

theorem scanColon_rest_le [Host] (line : Nat) (chars : List Char) (lexeme : Lexeme)
    (scanned : scanColon line chars = .ok lexeme) : lexeme.rest.length ≤ chars.length := by
  unfold scanColon at scanned
  split at scanned
  · contradiction
  · next c rest =>
    split at scanned
    · cases scanned
      simp
    split at scanned
    · cases body : scanQuoted c line rest with
      | error fault => simp [body, bind, Except.bind] at scanned
      | ok b =>
        simp only [body, bind, Except.bind, pure, Except.pure, Except.ok.injEq] at scanned
        have := scanQuoted_rest_lt _ _ _ _ body
        subst scanned
        simp only [List.length_cons]
        omega
    split at scanned
    · cases scanned
      exact Nat.le_trans (scanAtomTail_rest_le _) (scanWord_rest_le _)
    split at scanned
    · cases scanned
      simp
    · contradiction

theorem scanSigilBody_rest_lt [Host] (name : String) (line : Nat) (opener : Char) (rest : List Char)
    (body : Body) (scanned : scanSigilBody name line opener rest = .ok body) :
    body.rest.length < rest.length := by
  have sigil := fun b => closeSigil_rest_lt opener (sigilCloser opener) 0 line [] rest b
  have literal := fun b => scanQuoted_rest_lt opener line rest b
  unfold scanSigilBody at scanned
  grind

theorem scanSigil_rest_lt [Host] (line : Nat) (chars : List Char) (lexeme : Lexeme)
    (scanned : scanSigil line chars = .ok lexeme) : lexeme.rest.length < chars.length := by
  have dropped := length_dropWhile_le Text.isLetter chars
  unfold scanSigil at scanned
  split at scanned
  · contradiction
  · next opener rest same =>
    split at scanned
    · cases found :
          scanSigilBody (String.ofList (chars.takeWhile Text.isLetter)) line opener rest with
      | error fault => simp [found, bind, Except.bind] at scanned
      | ok body =>
        simp only [found, bind, Except.bind, pure, Except.pure, Except.ok.injEq] at scanned
        have inner := scanSigilBody_rest_lt _ _ _ _ _ found
        have after := length_dropWhile_le Text.isLetter body.rest
        rw [same, List.length_cons] at dropped
        subst scanned
        simp only
        omega
    · contradiction

theorem operators_nonempty : ∀ operator ∈ operators, 0 < operator.length := by decide

theorem scanOperator_rest_lt (line : Nat) (c : Char) (rest : List Char) (lexeme : Lexeme)
    (scanned : scanOperator line c rest = .ok lexeme) :
    lexeme.rest.length < (c :: rest).length := by
  unfold scanOperator at scanned
  split at scanned
  · next operator found =>
    cases scanned
    have positive := operators_nonempty operator (List.mem_of_find?_eq_some found)
    simp only [List.length_drop, List.length_cons]
    omega
  · contradiction

theorem scanQuotedToken_rest_lt [Host] (kind : Kind) (quote : Char) (line : Nat) (rest : List Char)
    (lexeme : Lexeme) (scanned : scanQuotedToken kind quote line rest = .ok lexeme) :
    lexeme.rest.length < rest.length := by
  unfold scanQuotedToken at scanned
  cases found : scanQuoted quote line rest with
  | error fault => simp [found, bind, Except.bind] at scanned
  | ok body =>
    simp only [found, bind, Except.bind, pure, Except.pure, Except.ok.injEq] at scanned
    have inner := scanQuoted_rest_lt _ _ _ _ found
    have key := keyOr_rest_le kind body.chars body.rest body.line
    rw [scanned] at key
    omega

/-- A token has at least one character. -/
theorem scanToken_rest_lt [Host] (line : Nat) (c : Char) (rest : List Char) (lexeme : Lexeme)
    (scanned : scanToken line c rest = .ok lexeme) : lexeme.rest.length < (c :: rest).length := by
  unfold scanToken at scanned
  split at scanned
  · next digit =>
    cases scanned
    exact scanNumeral_rest_lt line c rest digit
  split at scanned
  · next start =>
    cases scanned
    exact Nat.lt_of_le_of_lt (keyOr_rest_le _ _ _ _)
      (scanWord_rest_lt c rest (isWordChar_of_isIdentifierStart c start))
  split at scanned
  · next letter =>
    cases scanned
    exact Nat.lt_of_le_of_lt (keyOr_rest_le _ _ _ _)
      (scanWord_rest_lt c rest (isWordChar_of_isLetter c letter))
  split at scanned
  · exact Nat.lt_succ_of_lt (scanQuotedToken_rest_lt _ _ _ _ _ scanned)
  split at scanned
  · exact Nat.lt_succ_of_lt (scanQuotedToken_rest_lt _ _ _ _ _ scanned)
  split at scanned
  · exact Nat.lt_succ_of_le (scanColon_rest_le _ _ _ scanned)
  split at scanned
  · cases scanned
    simp
  split at scanned
  · exact scanOperator_rest_lt _ _ _ _ scanned
  split at scanned
  · next following after _ =>
    cases scanned
    fun_cases scanCharCode line following after <;>
      simp only [List.length_cons, List.length_nil] <;> omega
  split at scanned
  · exact Nat.lt_succ_of_lt (scanSigil_rest_lt _ _ _ scanned)
  · exact scanOperator_rest_lt _ _ _ _ scanned

theorem rest_lt_of_scan [Host] {line here : Nat} {chars rest : List Char} {gap : Gap} {c : Char}
    {lexeme : Lexeme} (skipped : skipGap false Gap.none line chars = ⟨gap, here, c :: rest⟩)
    (scanned : scanToken here c rest = .ok lexeme) : lexeme.rest.length < chars.length := by
  have before := skipGap_rest_le false Gap.none line chars
  have token := scanToken_rest_lt _ _ _ _ scanned
  rw [skipped] at before
  exact Nat.lt_of_lt_of_le token before

end BoundaryLint.Token
