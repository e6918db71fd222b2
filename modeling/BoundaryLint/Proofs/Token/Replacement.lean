import BoundaryLint.Proofs.Token.Locality
import Mathlib

/-!
Replacing the text behind a token. A token is scanned as before when another text stands behind it that is equal up
to the next gap, as long as the gap behind a key still makes it a key and a colon behind a word still makes none.
-/

namespace BoundaryLint.Token

/-- Another text may stand behind the token: it is alike, it starts with the colon of a key where the old one did,
and behind a key it starts as behind the colon of one. -/
structure Replaces (lexeme : Lexeme) (rest : List Char) : Prop where
  alike : Alike lexeme.rest rest
  colon : startsKey rest = startsKey lexeme.rest
  key : lexeme.kind = .key → startsKey (':' :: rest) = true

def Stays (read : Nat → List Char → Except Source.Fault Lexeme) (chars : List Char) (lexeme : Lexeme) : Prop :=
  ∃ used, chars = used ++ lexeme.rest ∧
    ∀ line rest, Replaces lexeme rest →
      ∃ after, read line (used ++ rest) = .ok ⟨lexeme.kind, lexeme.text, rest, after⟩

section Tokens

variable {line : Nat} {c : Char} {chars rest : List Char} {lexeme : Lexeme}

theorem Stays.cons {read : Nat → List Char → Except Source.Fault Lexeme}
    (stays : Stays (fun line chars => read line (c :: chars)) chars lexeme) : Stays read (c :: chars) lexeme := by
  obtain ⟨used, rfl, again⟩ := stays
  exact ⟨c :: used, rfl, again⟩

theorem Stays.tail {read : Nat → List Char → Except Source.Fault Lexeme} (stays : Stays read (c :: chars) lexeme)
    (shorter : lexeme.rest.length < (c :: chars).length) :
    Stays (fun line chars => read line (c :: chars)) chars lexeme := by
  obtain ⟨used, split, again⟩ := stays
  cases used with
  | nil =>
    rw [split] at shorter
    simp at shorter
  | cons d used =>
    cases split
    exact ⟨used, rfl, again⟩

theorem eq_colon_of_startsKey (key : startsKey (c :: rest) = true) : c = ':' := by
  by_contra other
  simp [startsKey, other] at key

/-- A word or a quoted text keeps its colon or its lack of one. -/
theorem stays_keyOr {read : Nat → List Char → Except Source.Fault Lexeme} {kind : Kind} {text used after : List Char}
    (split : chars = used ++ after)
    (again : ∀ line rest, Alike after rest → ∃ ends, read line (used ++ rest) = .ok (keyOr kind text rest ends)) :
    Stays read chars (keyOr kind text after line) := by
  subst split
  by_cases key : startsKey after = true
  · cases after with
    | nil => cases key
    | cons c more =>
      obtain rfl := eq_colon_of_startsKey key
      refine ⟨used ++ [':'], by simp [keyOr, key], fun line rest replaces => ?_⟩
      have marked := replaces.key (by simp [keyOr, key])
      have alike : Alike more rest := by simpa [keyOr, key] using replaces.alike
      obtain ⟨ends, given⟩ := again line (':' :: rest) (.cons ':' alike)
      exact ⟨ends, by rw [List.append_assoc, List.singleton_append, given]; simp [keyOr, key, marked]⟩
  · refine ⟨used, by simp [keyOr, key], fun line rest replaces => ?_⟩
    have alike : Alike after rest := by simpa [keyOr, key] using replaces.alike
    have unmarked : startsKey rest = false := by simpa [keyOr, key] using replaces.colon
    obtain ⟨ends, given⟩ := again line rest alike
    exact ⟨ends, by rw [given]; simp [keyOr, key, unmarked]⟩

theorem stays_scanDecimal (line : Nat) (chars : List Char) :
    Stays (fun line chars => .ok (scanDecimal line chars)) chars (scanDecimal line chars) := by
  have whole : chars.takeWhile isNumeralChar ++ chars.dropWhile isNumeralChar = chars :=
    List.takeWhile_append_dropWhile
  cases found : scanFraction (chars.dropWhile isNumeralChar) with
  | some result =>
    obtain ⟨fraction, after⟩ := result
    obtain ⟨part, later⟩ := scanFraction_replaced found
    refine ⟨chars.takeWhile isNumeralChar ++ fraction, ?_, fun line rest replaces => ⟨line, ?_⟩⟩
    · simp only [scanDecimal, found, List.append_assoc, part, whole]
    · have alike : Alike after rest := by simpa only [scanDecimal, found] using replaces.alike
      have behind := part ▸ alike.append fraction
      have digits := span_replaced (by decide) behind
      simp only [scanDecimal, found, List.append_assoc, digits.1, digits.2, later rest alike]
  | none =>
    refine ⟨chars.takeWhile isNumeralChar, ?_, fun line rest replaces => ⟨line, ?_⟩⟩
    · simp only [scanDecimal, found, whole]
    · have alike : Alike (chars.dropWhile isNumeralChar) rest := by
        simpa only [scanDecimal, found] using replaces.alike
      have digits := span_replaced (by decide) alike
      have still : scanFraction rest = none := by
        rw [scanFraction_eq] at found ⊢
        rw [alike.startsPair_eq (by decide) (by decide)]
        split at found
        · cases found
        · next stops => rw [if_neg stops]
      simp only [scanDecimal, found, digits.1, digits.2, still]

def startsBase (chars : List Char) : Bool := startsPair (· = '0') (fun c => c = 'x' || c = 'b' || c = 'o') chars

theorem scanNumeral_of_plain (plain : startsBase chars = false) :
    scanNumeral line chars = scanDecimal line chars := by
  unfold scanNumeral
  split
  · next base after =>
    simp only [startsBase, startsPair, decide_true, Bool.true_and, Bool.or_eq_false_iff,
      decide_eq_false_iff_not] at plain
    simp [plain]
  · rfl

theorem stays_scanNumeral (line : Nat) (chars : List Char) :
    Stays (fun line chars => .ok (scanNumeral line chars)) chars (scanNumeral line chars) := by
  by_cases based : startsBase chars = true
  · match chars, based with
    | c :: base :: more, based =>
      simp only [startsBase, startsPair, Bool.and_eq_true, Bool.or_eq_true, decide_eq_true_eq, or_assoc] at based
      obtain ⟨rfl, mark⟩ := based
      refine ⟨'0' :: base :: more.takeWhile Text.isWordChar, ?_, fun line rest replaces => ⟨line, ?_⟩⟩
      · simp [scanNumeral, mark]
      · have alike : Alike (more.dropWhile Text.isWordChar) rest := by
          simpa [scanNumeral, mark] using replaces.alike
        have digits := span_replaced (by decide) alike
        simp only [List.cons_append, scanNumeral, if_pos mark, digits.1, digits.2]
  · have plain := Bool.eq_false_iff.mpr based
    rw [scanNumeral_of_plain plain]
    obtain ⟨used, split, again⟩ := stays_scanDecimal line chars
    refine ⟨used, split, fun line rest replaces => ?_⟩
    have stops : startsBase (used ++ rest) = false := by
      rw [startsBase, (replaces.alike.append used).startsPair_eq (by decide) (by decide), ← split]
      exact plain
    simp only [scanNumeral_of_plain stops]
    exact again line rest replaces

theorem stays_word (kind : List Char → Kind) (line : Nat) (chars : List Char) :
    Stays (fun line chars => .ok (keyOr (kind (scanWord chars).1) (scanWord chars).1 (scanWord chars).2 line)) chars
      (keyOr (kind (scanWord chars).1) (scanWord chars).1 (scanWord chars).2 line) := by
  obtain ⟨whole, same⟩ := local_scanWord chars
  exact stays_keyOr whole.symm fun line rest alike => ⟨line, by simp only [same rest alike]⟩

theorem stays_atomWord (line : Nat) (chars : List Char) :
    Stays (fun line chars =>
        let word := scanWord chars
        let tail := scanAtomTail word.2
        .ok ⟨.atom, String.ofList (word.1 ++ tail.1), tail.2, line⟩) chars
      ⟨.atom, String.ofList ((scanWord chars).1 ++ (scanAtomTail (scanWord chars).2).1),
        (scanAtomTail (scanWord chars).2).2, line⟩ := by
  obtain ⟨whole, same⟩ := (local_scanWord.append local_scanAtomTail) chars
  refine ⟨_, whole.symm, fun line rest replaces => ⟨line, ?_⟩⟩
  have still := Prod.mk.inj (same rest replaces.alike)
  simp only [still.1, still.2]

theorem quote_not_mem {quote : Char} (quoted : quote = '"' ∨ quote = '\'') : quote ∉ gapStarts := by
  rcases quoted with rfl | rfl
  · decide
  · decide

theorem stays_scanQuotedToken [Host] {kind : Kind} {quote : Char} (quoted : quote = '"' ∨ quote = '\'')
    (scanned : scanQuotedToken kind quote line chars = .ok lexeme) :
    Stays (scanQuotedToken kind quote) chars lexeme := by
  obtain ⟨body, closed, given⟩ := bind_eq_ok.mp scanned
  cases given
  obtain ⟨used, split, again⟩ := stays_scanQuoted (quote_not_mem quoted) closed
  refine stays_keyOr split fun line rest alike => ?_
  obtain ⟨after, given⟩ := again line rest alike
  exact ⟨after, by rw [scanQuotedToken, given]; rfl⟩

theorem stays_firstOperator {read : Nat → List Char → Except Source.Fault Lexeme} {candidates : List String}
    {kind : Kind} {operator : String} (known : candidates ⊆ bracketAtoms ++ operators)
    (found : firstOperator candidates (c :: chars) = some operator)
    (reads : ∀ line chars, firstOperator candidates (c :: chars) = some operator →
      read line chars = .ok ⟨kind, operator, (c :: chars).drop operator.length, line⟩) :
    Stays read chars ⟨kind, operator, (c :: chars).drop operator.length, line⟩ := by
  have long := operator_long operator (known (List.mem_of_find?_eq_some found))
  obtain ⟨after, split, again⟩ := firstOperator_replaced known found
  cases shape : operator.toList with
  | nil => simp [← String.length_toList, shape] at long
  | cons d used =>
    rw [shape, List.cons_append] at split
    cases split
    have left : ∀ rest, (c :: (used ++ rest)).drop operator.length = rest := by
      intro rest
      rw [← List.cons_append, ← shape, ← String.length_toList, List.drop_left]
    rw [left]
    refine ⟨used, rfl, fun line rest replaces => ⟨line, ?_⟩⟩
    have still := again rest replaces.alike
    rw [shape, List.cons_append] at still
    rw [reads line _ still, left]

theorem stays_scanOperator (scanned : scanOperator line c rest = .ok lexeme) :
    Stays (fun line chars => scanOperator line c chars) rest lexeme := by
  unfold scanOperator at scanned
  split at scanned
  · next operator found =>
    cases scanned
    exact stays_firstOperator (List.subset_append_right _ _) found fun line chars still => by
      simp only [scanOperator, still]
  · cases scanned

theorem isWordChar_of_isWordStart (start : isWordStart c = true) : Text.isWordChar c = true := by
  simp only [isWordStart, Bool.or_eq_true, decide_eq_true_eq] at start
  rcases start with rfl | letter
  · decide
  · exact isWordChar_of_isLetter c letter

theorem scanColon_rest_lt [Host] (scanned : scanColon line chars = .ok lexeme) : lexeme.rest.length < chars.length := by
  unfold scanColon at scanned
  split at scanned
  · cases scanned
  · next c more =>
    split at scanned
    · cases scanned
      exact Nat.lt_succ_self _
    split at scanned
    · obtain ⟨body, closed, given⟩ := bind_eq_ok.mp scanned
      cases given
      exact Nat.lt_succ_of_lt (scanQuoted_rest_lt _ _ _ _ closed)
    split at scanned
    · next start =>
      cases scanned
      exact Nat.lt_of_le_of_lt (scanAtomTail_rest_le _) (scanWord_rest_lt c more (isWordChar_of_isWordStart start))
    split at scanned
    · next operator found =>
      cases scanned
      have long := operator_long operator (List.mem_of_find?_eq_some found)
      simp only [List.length_drop, List.length_cons]
      omega
    · cases scanned

theorem stays_scanColon [Host] (scanned : scanColon line chars = .ok lexeme) : Stays scanColon chars lexeme := by
  have shorter := scanColon_rest_lt scanned
  unfold scanColon at scanned
  split at scanned
  · cases scanned
  · next c more =>
    split at scanned
    · next colon =>
      subst colon
      cases scanned
      exact ⟨[':'], rfl, fun line rest _ => ⟨line, rfl⟩⟩
    split at scanned
    · next other quoted =>
      obtain ⟨body, closed, given⟩ := bind_eq_ok.mp scanned
      cases given
      obtain ⟨used, rfl, again⟩ := stays_scanQuoted (quote_not_mem quoted) closed
      refine ⟨c :: used, rfl, fun line rest replaces => ?_⟩
      obtain ⟨after, given⟩ := again line rest replaces.alike
      refine ⟨after, ?_⟩
      rw [List.cons_append, scanColon, if_neg other, if_pos quoted, given]
      rfl
    split at scanned
    · next other unquoted start =>
      cases scanned
      apply Stays.cons
      simpa only [scanColon, if_neg other, if_neg unquoted, if_pos start] using
        (stays_atomWord line (c :: more)).tail shorter
    split at scanned
    · next other unquoted wordless _ operator found =>
      cases scanned
      exact .cons (stays_firstOperator (List.Subset.refl _) found fun line chars still => by
        simp only [scanColon, if_neg other, if_neg unquoted, if_neg wordless, still])
    · cases scanned

theorem stays_scanCharCode (line : Nat) (c : Char) (rest : List Char) :
    Stays (fun line chars => .ok (scanCharCode line c chars)) rest (scanCharCode line c rest) := by
  fun_cases scanCharCode line c rest with
  | case1 backslash =>
    refine ⟨[], rfl, fun line rest replaces => ⟨line, ?_⟩⟩
    rw [replaces.alike.of_nil]
    simp [scanCharCode, backslash]
  | case2 backslash escaped rest =>
    exact ⟨[escaped], rfl, fun line rest _ => ⟨lineAfter line escaped, by simp [scanCharCode, backslash]⟩⟩
  | case3 rest plain =>
    exact ⟨[], rfl, fun line rest _ => ⟨lineAfter line c, by simp [scanCharCode, plain]⟩⟩

theorem opener_not_mem {opener : Char} (opens : opener ∈ sigilOpeners) :
    opener ∉ gapStarts ∧ Text.isLetter opener = false := by
  have outside : ∀ c ∈ sigilOpeners, c ∉ gapStarts ∧ Text.isLetter c = false :=
    forall_mem_of_all (by decide)
  exact outside opener opens

theorem stays_scanSigil [Host] (scanned : scanSigil line chars = .ok lexeme) : Stays scanSigil chars lexeme := by
  have whole : chars.takeWhile Text.isLetter ++ chars.dropWhile Text.isLetter = chars :=
    List.takeWhile_append_dropWhile
  unfold scanSigil at scanned
  split at scanned
  · cases scanned
  · next opener more same =>
    split at scanned
    · next opens =>
      obtain ⟨body, closed, given⟩ := bind_eq_ok.mp scanned
      cases given
      obtain ⟨plain, bare⟩ := opener_not_mem opens
      obtain ⟨used, rfl, again⟩ := stays_scanSigilBody plain closed
      have modifiers : body.rest.takeWhile Text.isLetter ++ body.rest.dropWhile Text.isLetter = body.rest :=
        List.takeWhile_append_dropWhile
      refine ⟨chars.takeWhile Text.isLetter ++ opener :: (used ++ body.rest.takeWhile Text.isLetter), ?_, ?_⟩
      · simp only [List.append_assoc, List.cons_append, modifiers]
        rw [← same, whole]
      · intro line rest replaces
        have alike : Alike (body.rest.dropWhile Text.isLetter) rest := replaces.alike
        obtain ⟨_, left⟩ := span_replaced (by decide) alike
        have behind := modifiers ▸ alike.append (body.rest.takeWhile Text.isLetter)
        obtain ⟨after, given⟩ := again line _ behind
        have inside : ∀ c ∈ chars.takeWhile Text.isLetter, Text.isLetter c = true :=
          List.all_eq_true.mp List.all_takeWhile
        have stop : ∀ c ∈ (opener :: (used ++ (body.rest.takeWhile Text.isLetter ++ rest))).head?,
            Text.isLetter c = false := by simpa using bare
        refine ⟨after, ?_⟩
        simp only [List.append_assoc, List.cons_append, scanSigil, takeWhile_append_stop inside stop,
          dropWhile_append_stop inside stop, if_pos opens, given, bind, Except.bind, pure, Except.pure, left]
    · cases scanned

def scanSymbol [Host] (line : Nat) (c : Char) : List Char → Except Source.Fault Lexeme
  | [] => scanOperator line c []
  | following :: after =>
    if c = '?' then .ok (scanCharCode line following after)
    else if c = '~' && Text.isLetter following then scanSigil line (following :: after)
    else scanOperator line c (following :: after)

theorem stays_scanSymbol [Host] (scanned : scanSymbol line c rest = .ok lexeme) :
    Stays (fun line chars => scanSymbol line c chars) rest lexeme := by
  cases rest with
  | nil =>
    obtain ⟨used, split, again⟩ := stays_scanOperator scanned
    obtain ⟨rfl, ends⟩ := List.append_eq_nil_iff.mp split.symm
    refine ⟨[], split, fun line rest replaces => ?_⟩
    obtain rfl := (ends ▸ replaces.alike).of_nil
    exact again line [] replaces
  | cons following after =>
    simp only [scanSymbol] at scanned
    split at scanned
    · next question =>
      cases scanned
      apply Stays.cons
      simpa only [scanSymbol, if_pos question] using stays_scanCharCode line following after
    split at scanned
    · next question tilde =>
      apply Stays.cons
      simpa only [scanSymbol, if_neg question, if_pos tilde] using
        (stays_scanSigil scanned).tail (scanSigil_rest_lt _ _ _ scanned)
    · next question tilde =>
      obtain ⟨used, split, again⟩ := stays_scanOperator scanned
      refine ⟨used, split, fun line rest replaces => ?_⟩
      have letters := (replaces.alike.append used).head (p := Text.isLetter) (by decide)
      rw [← split] at letters
      have operator : scanSymbol line c (used ++ rest) = scanOperator line c (used ++ rest) := by
        cases ahead : used ++ rest with
        | nil => rfl
        | cons d more =>
          have same : Text.isLetter d = Text.isLetter following := by
            rw [ahead] at letters
            simpa only [List.head?_cons, Option.any_some] using letters
          simp only [scanSymbol, if_neg question, same, if_neg tilde]
      simp only [operator]
      exact again line rest replaces

/-- Scanning a token takes no notice of what the next gap consists of. -/
theorem stays_scanToken [Host] (scanned : scanToken line c rest = .ok lexeme) :
    Stays (fun line chars => scanToken line c chars) rest lexeme := by
  have shorter := scanToken_rest_lt _ _ _ _ scanned
  unfold scanToken at scanned
  split at scanned
  · next digit =>
    cases scanned
    simpa only [scanToken, if_pos digit] using (stays_scanNumeral line (c :: rest)).tail shorter
  split at scanned
  · next digit start =>
    cases scanned
    simpa only [scanToken, if_neg digit, if_pos start] using
      (stays_word (fun word => wordKind (String.ofList word)) line (c :: rest)).tail shorter
  split at scanned
  · next digit start letter =>
    cases scanned
    simpa only [scanToken, if_neg digit, if_neg start, if_pos letter] using
      (stays_word (fun _ => .alias) line (c :: rest)).tail shorter
  split at scanned
  · next digit start letter quote =>
    simpa only [scanToken, if_neg digit, if_neg start, if_neg letter, if_pos quote] using
      stays_scanQuotedToken (.inl quote) scanned
  split at scanned
  · next digit start letter other quote =>
    simpa only [scanToken, if_neg digit, if_neg start, if_neg letter, if_neg other, if_pos quote] using
      stays_scanQuotedToken (.inr quote) scanned
  split at scanned
  · next digit start letter string charlist colon =>
    simpa only [scanToken, if_neg digit, if_neg start, if_neg letter, if_neg string, if_neg charlist, if_pos colon]
      using stays_scanColon scanned
  split at scanned
  · next digit start letter string charlist colon mark =>
    cases scanned
    refine ⟨[], rfl, fun line rest _ => ⟨line, ?_⟩⟩
    simp only [List.nil_append, scanToken, if_neg digit, if_neg start, if_neg letter, if_neg string,
      if_neg charlist, if_neg colon, if_pos mark]
  next digit start letter string charlist colon mark =>
  have symbol : ∀ line chars, scanToken line c chars = scanSymbol line c chars := by
    intro line chars
    simp only [scanToken, if_neg digit, if_neg start, if_neg letter, if_neg string, if_neg charlist, if_neg colon,
      if_neg mark]
    cases chars with
    | nil => rfl
    | cons following after => rfl
  have given : scanSymbol line c rest = .ok lexeme := by
    cases rest with
    | nil => exact scanned
    | cons following after => exact scanned
  simp only [symbol]
  exact stays_scanSymbol given

theorem key_keyOr {kind : Kind} {text : List Char} (other : kind ≠ .key)
    (key : (keyOr kind text rest line).kind = .key) :
    startsKey (':' :: (keyOr kind text rest line).rest) = true := by
  by_cases marked : startsKey rest = true
  · cases rest with
    | nil => cases marked
    | cons c more =>
      obtain rfl : c = ':' := eq_colon_of_startsKey marked
      simp [keyOr, marked]
  · simp [keyOr, marked, other] at key

theorem scanNumeral_ne_key (line : Nat) (chars : List Char) : (scanNumeral line chars).kind ≠ .key := by
  have decimal : (scanDecimal line chars).kind ≠ .key := by
    unfold scanDecimal
    dsimp only
    split <;> simp
  unfold scanNumeral
  split
  · split
    · simp
    · exact decimal
  · exact decimal

theorem scanColon_ne_key [Host] (scanned : scanColon line chars = .ok lexeme) : lexeme.kind ≠ .key := by
  unfold scanColon at scanned
  split at scanned
  · cases scanned
  split at scanned
  · cases scanned
    simp
  split at scanned
  · obtain ⟨body, closed, given⟩ := bind_eq_ok.mp scanned
    cases given
    simp
  split at scanned
  · cases scanned
    simp
  split at scanned
  · cases scanned
    simp
  · cases scanned

theorem scanSigil_ne_key [Host] (scanned : scanSigil line chars = .ok lexeme) : lexeme.kind ≠ .key := by
  unfold scanSigil at scanned
  split at scanned
  · cases scanned
  split at scanned
  · obtain ⟨body, closed, given⟩ := bind_eq_ok.mp scanned
    cases given
    simp
  · cases scanned

theorem scanOperator_ne_key (scanned : scanOperator line c rest = .ok lexeme) : lexeme.kind ≠ .key := by
  unfold scanOperator at scanned
  split at scanned
  · cases scanned
    simp
  · cases scanned

/-- Behind a key stands what makes it one. -/
theorem startsKey_of_key [Host] (scanned : scanToken line c rest = .ok lexeme) (key : lexeme.kind = .key) :
    startsKey (':' :: lexeme.rest) = true := by
  unfold scanToken at scanned
  split at scanned
  · cases scanned
    exact absurd key (scanNumeral_ne_key line _)
  split at scanned
  · cases scanned
    exact key_keyOr (wordKind_ne (by decide) _) key
  split at scanned
  · cases scanned
    exact key_keyOr (by simp) key
  split at scanned
  · obtain ⟨body, _, given⟩ := bind_eq_ok.mp scanned
    cases given
    exact key_keyOr (by simp) key
  split at scanned
  · obtain ⟨body, _, given⟩ := bind_eq_ok.mp scanned
    cases given
    exact key_keyOr (by simp) key
  split at scanned
  · exact absurd key (scanColon_ne_key scanned)
  split at scanned
  · cases scanned
    cases key
  split at scanned
  · exact absurd key (scanOperator_ne_key scanned)
  split at scanned
  · next following after _ =>
    cases scanned
    revert key
    fun_cases scanCharCode line following after <;> simp
  split at scanned
  · exact absurd key (scanSigil_ne_key scanned)
  · exact absurd key (scanOperator_ne_key scanned)

theorem backslash_operator_long :
    ∀ operator ∈ operators, operator.toList.head? = some '\\' → 2 ≤ operator.length := by
  decide

theorem scanOperator_backslash (scanned : scanOperator line '\\' rest = .ok lexeme) :
    lexeme.rest.length < rest.length := by
  unfold scanOperator at scanned
  split at scanned
  · next operator found =>
    cases scanned
    have starts : operator.toList.isPrefixOf ('\\' :: rest) = true := by simpa using List.find?_some found
    obtain ⟨after, split⟩ := List.isPrefixOf_iff_prefix.mp starts
    have member := List.mem_of_find?_eq_some found
    have positive := operators_nonempty operator member
    rw [← String.length_toList] at positive
    have long := backslash_operator_long operator member (by
      cases shape : operator.toList with
      | nil => simp [shape] at positive
      | cons d more =>
        rw [shape] at split
        cases split
        rfl)
    have whole := congrArg List.length split
    simp only [List.length_append, List.length_cons, String.length_toList] at whole
    simp only [List.length_drop, List.length_cons]
    omega
  · cases scanned

theorem rest_lt_of_mark [Host] (mark : c = ':' ∨ c = '\\') (scanned : scanToken line c rest = .ok lexeme) :
    lexeme.rest.length < rest.length := by
  rcases mark with rfl | rfl
  · have colon : scanColon line rest = .ok lexeme := scanned
    exact scanColon_rest_lt colon
  · have operator : scanOperator line '\\' rest = .ok lexeme := by
      cases rest with
      | nil => exact scanned
      | cons following after => exact scanned
    exact scanOperator_backslash operator

end Tokens

end BoundaryLint.Token
