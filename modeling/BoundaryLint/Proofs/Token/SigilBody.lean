import BoundaryLint.Host.Ordinary
import BoundaryLint.Proofs.Token.Quotation
import BoundaryLint.Proofs.Token.Replacement
import Mathlib

/-!
The grammar of sigils. A sigil runs to the delimiter that closes it, and where there are two delimiters they are
counted. This takes no notice of interpolations: delimiters in the code of one count as those of the sigil do.
-/

namespace BoundaryLint.Token

/-- A text in which the delimiters pair up, apart from those behind a backslash. -/
inductive Delimited (opener closer : Char) : List Char → Prop
  | nil : Delimited opener closer []
  | escaped {rest : List Char} (c : Char) (more : Delimited opener closer rest) :
    Delimited opener closer ('\\' :: c :: rest)
  | plain {c : Char} {rest : List Char} (noEscape : c ≠ '\\') (inside : c ≠ opener ∧ c ≠ closer)
    (more : Delimited opener closer rest) : Delimited opener closer (c :: rest)
  | nested {body rest : List Char} (apart : opener ≠ closer) (inside : Delimited opener closer body)
    (more : Delimited opener closer rest) : Delimited opener closer (opener :: (body ++ closer :: rest))

/-- A text with interpolations of the given codes, and between them neither backslashes nor delimiters. -/
inductive Interpolated (opener closer : Char) : List (List Char) → List Char → Prop
  | nil : Interpolated opener closer [] []
  | plain {c : Char} {codes : List (List Char)} {rest : List Char} (outside : c ∉ ['\\', '#', opener, closer])
    (more : Interpolated opener closer codes rest) : Interpolated opener closer codes (c :: rest)
  | hole {depth : Nat} {code : List Char} {codes : List (List Char)} {rest : List Char}
    (inside : Scope.interpolation.Holds depth code) (more : Interpolated opener closer codes rest) :
    Interpolated opener closer (code :: codes) ('#' :: '\x7b' :: (code ++ '\x7d' :: rest))

section Bodies

variable {opener closer : Char} {depth line : Nat} {body chars : List Char}

theorem Delimited.append {first second : List Char} (before : Delimited opener closer first)
    (behind : Delimited opener closer second) : Delimited opener closer (first ++ second) := by
  induction before with
  | nil => exact behind
  | escaped c _ ih => exact .escaped c ih
  | plain noEscape inside _ ih => exact .plain noEscape inside ih
  | nested apart inside _ _ ih => simpa using Delimited.nested apart inside ih

/-- A text in which the delimiters pair up is passed over, and is no more than added to what was taken before. -/
theorem Delimited.passes (delimited : Delimited opener closer body) (noEscape : opener ≠ '\\' ∧ closer ≠ '\\')
    (depth line : Nat) (taken ahead : List Char) :
    ∃ after, closeSigil opener closer depth line taken (body ++ ahead) =
      closeSigil opener closer depth after (body.reverse ++ taken) ahead := by
  induction delimited generalizing depth line taken ahead with
  | nil => exact ⟨line, rfl⟩
  | escaped c _ ih =>
    obtain ⟨after, passed⟩ := ih depth line (c :: '\\' :: taken) ahead
    refine ⟨after, ?_⟩
    rw [List.cons_append, List.cons_append, closeSigil.eq_def]
    simpa using passed
  | @plain c _ plain inside _ ih =>
    obtain ⟨after, passed⟩ := ih depth (lineAfter line c) (c :: taken) ahead
    refine ⟨after, ?_⟩
    rw [List.cons_append, closeSigil.eq_def]
    simpa [plain, inside] using passed
  | @nested body rest apart _ _ ih ih' =>
    obtain ⟨middle, through⟩ := ih (depth + 1) (lineAfter line opener) (opener :: taken) (closer :: (rest ++ ahead))
    obtain ⟨after, passed⟩ := ih' depth (lineAfter middle closer) (closer :: (body.reverse ++ opener :: taken)) ahead
    refine ⟨after, ?_⟩
    have leave : closeSigil opener closer (depth + 1) middle (body.reverse ++ opener :: taken)
        (closer :: (rest ++ ahead)) = closeSigil opener closer depth (lineAfter middle closer)
        (closer :: (body.reverse ++ opener :: taken)) (rest ++ ahead) := by
      rw [closeSigil.eq_def]
      simp [noEscape]
    rw [List.cons_append, List.append_assoc, List.cons_append, closeSigil.eq_def]
    simpa [noEscape, apart, through, leave] using passed

def Closes (opener closer : Char) : Nat → List Char → Prop
  | 0, chars => Delimited opener closer chars
  | depth + 1, chars => ∃ first rest, chars = first ++ closer :: rest ∧ Delimited opener closer first ∧
    Closes opener closer depth rest

theorem Closes.after (closes : Closes opener closer depth chars) (word : List Char)
    (prepend : ∀ first, Delimited opener closer first → Delimited opener closer (word ++ first)) :
    Closes opener closer depth (word ++ chars) := by
  cases depth with
  | zero => exact prepend chars closes
  | succ depth =>
    obtain ⟨first, rest, rfl, delimited, closes⟩ := closes
    exact ⟨word ++ first, rest, by simp, prepend first delimited, closes⟩

theorem Closes.nest (apart : opener ≠ closer) (closes : Closes opener closer (depth + 1) chars) :
    Closes opener closer depth (opener :: chars) := by
  obtain ⟨first, rest, rfl, delimited, closes⟩ := closes
  have whole := closes.after (opener :: (first ++ [closer])) fun behind more => by
    simpa using Delimited.nested apart delimited more
  simpa using whole

/-- What a sigil is found to hold has the closers that were missing. -/
theorem closes_of_closeSigil {taken : List Char} {value : Body}
    (closed : closeSigil opener closer depth line taken chars = some value) :
    ∃ body, chars = body ++ closer :: value.rest ∧ value.chars = taken.reverse ++ body ∧
      Closes opener closer depth body := by
  -- Along the scan: the closers that are missing are those of the openers since the start.
  fun_induction closeSigil opener closer depth line taken chars with
  | case1 | case2 => cases closed
  | case3 depth line taken escaped rest ih =>
    obtain ⟨body, rfl, content, closes⟩ := ih closed
    exact ⟨'\\' :: escaped :: body, rfl, by simpa using content, closes.after ['\\', escaped] fun _ => .escaped escaped⟩
  | case4 line taken rest =>
    cases closed
    exact ⟨[], rfl, (List.append_nil _).symm, .nil⟩
  | case5 line taken rest depth plain ih =>
    obtain ⟨body, rfl, content, closes⟩ := ih closed
    exact ⟨closer :: body, rfl, by simpa using content, [], body, rfl, .nil, closes⟩
  | case6 depth line taken rest plain other ih =>
    obtain ⟨body, rfl, content, closes⟩ := ih closed
    exact ⟨opener :: body, rfl, by simpa using content, closes.nest other⟩
  | case7 depth line taken c rest plain other further ih =>
    obtain ⟨body, rfl, content, closes⟩ := ih closed
    exact ⟨c :: body, rfl, by simpa using content, closes.after [c] fun _ => .plain plain ⟨further, other⟩⟩

end Bodies

theorem delimiters_plain {opener : Char} (opens : opener ∈ sigilOpeners) :
    opener ∉ ['\\', '#', '\x7d'] ∧ sigilCloser opener ∉ ['\\', '#', '\x7b'] ∧
      (opener = '\x7b' ↔ sigilCloser opener = '\x7d') := by
  have all : ∀ c ∈ sigilOpeners, c ∉ ['\\', '#', '\x7d'] ∧ sigilCloser c ∉ ['\\', '#', '\x7b'] ∧
      (c = '\x7b' ↔ sigilCloser c = '\x7d') := forall_mem_of_all (by decide)
  exact all opener opens

section Tokens

variable {name body : List Char} {opener : Char} {codes : List (List Char)}

/-- Interpolations in whose code the delimiters pair up leave them so in the whole text. -/
theorem Interpolated.delimited (opens : opener ∈ sigilOpeners)
    (interpolated : Interpolated opener (sigilCloser opener) codes body)
    (even : ∀ code ∈ codes, Delimited opener (sigilCloser opener) code) :
    Delimited opener (sigilCloser opener) body := by
  obtain ⟨notOpener, notCloser, braces⟩ := delimiters_plain opens
  induction interpolated with
  | nil => exact .nil
  | plain outside _ ih =>
    simp only [List.mem_cons, List.not_mem_nil, or_false, not_or] at outside
    exact .plain outside.1 outside.2.2 (ih even)
  | @hole depth code codes rest _ _ ih =>
    obtain ⟨inside, others⟩ := List.forall_mem_cons.mp even
    have more := ih others
    refine .plain (by decide) (by grind) ?_
    by_cases curly : opener = '\x7b'
    · subst curly
      exact .nested (by decide) inside more
    · have closing : Delimited opener (sigilCloser opener) ('\x7d' :: rest) := .plain (by decide) (by grind) more
      exact .plain (by decide) (by grind) (inside.append closing)

theorem Interpolated.not_heredoc (opens : opener ∈ sigilOpeners)
    (interpolated : Interpolated opener (sigilCloser opener) codes body) :
    opensHeredoc (opener :: (body ++ [sigilCloser opener])) = false := by
  have mark := (delimiters_plain opens).1
  rw [opensHeredoc_cons, doubled]
  cases interpolated with
  | nil => simp [startsPair]
  | plain outside _ => simp_all [startsPair_cons]
  | hole _ _ => simp_all [startsPair_cons, @eq_comm _ _ opener]

theorem scanSigilBody_short [Host] {chars : List Char} (short : opensHeredoc (opener :: chars) = false) (name : String)
    (line : Nat) :
    scanSigilBody name line opener chars =
      match closeSigil opener (sigilCloser opener) 0 line [] chars with
      | some value => .ok value
      | none => .error (.at (.unterminatedSigil name) line) := by
  unfold scanSigilBody
  grind [opensHeredoc]

theorem scanToken_sigil [Host] {chars : List Char} (named : name ≠ [] ∧ ∀ c ∈ name, Text.isLetter c = true)
    (opens : opener ∈ sigilOpeners) (short : opensHeredoc (opener :: chars) = false) (line : Nat) :
    scanToken line '~' (name ++ opener :: chars) =
      match closeSigil opener (sigilCloser opener) 0 line [] chars with
      | some value => .ok ⟨.sigil, String.ofList ('~' :: (name ++ value.chars)), value.rest.dropWhile Text.isLetter,
          value.line⟩
      | none => .error (.at (.unterminatedSigil (String.ofList name)) line) := by
  obtain ⟨long, letters⟩ := named
  have stop : ∀ c ∈ (opener :: chars).head?, Text.isLetter c = false := by
    simpa using (opener_not_mem opens).2
  have sigil : scanToken line '~' (name ++ opener :: chars) = scanSigil line (name ++ opener :: chars) := by
    cases name with
    | nil => exact absurd rfl long
    | cons first more =>
      have letter := letters first (List.mem_cons_self ..)
      have other : Text.isDigit '~' = false ∧ isIdentifierStart '~' = false ∧ Text.isLetter '~' = false ∧
          '~' ∉ punctuation := by decide
      simp [scanToken, letter, other]
  rw [sigil, scanSigil, takeWhile_append_stop letters stop, dropWhile_append_stop letters stop]
  simp only [if_pos opens]
  rw [scanSigilBody_short short]
  cases closeSigil opener (sigilCloser opener) 0 line [] chars <;> rfl

theorem delimited_of_scanToken [Host] {chars : List Char} {lexeme : Lexeme}
    (named : name ≠ [] ∧ ∀ c ∈ name, Text.isLetter c = true) (opens : opener ∈ sigilOpeners)
    (short : opensHeredoc (opener :: chars) = false) {line : Nat}
    (scanned : scanToken line '~' (name ++ opener :: chars) = .ok lexeme)
    (shows : lexeme.text = String.ofList ('~' :: (name ++ body))) : Delimited opener (sigilCloser opener) body := by
  rw [scanToken_sigil named opens short] at scanned
  cases closed : closeSigil opener (sigilCloser opener) 0 line [] chars with
  | none =>
    rw [closed] at scanned
    cases scanned
  | some value =>
    rw [closed] at scanned
    cases scanned
    obtain ⟨found, _, content, delimited⟩ := closes_of_closeSigil closed
    obtain rfl : found = body := by simpa [content, String.ofList_inj] using shows
    exact delimited

theorem scanToken_of_delimited [Host] {rest : List Char} (named : name ≠ [] ∧ ∀ c ∈ name, Text.isLetter c = true)
    (opens : opener ∈ sigilOpeners) (short : opensHeredoc (opener :: (body ++ sigilCloser opener :: rest)) = false)
    (delimited : Delimited opener (sigilCloser opener) body) (line : Nat) :
    ∃ after, scanToken line '~' (name ++ opener :: (body ++ sigilCloser opener :: rest)) =
      .ok ⟨.sigil, String.ofList ('~' :: (name ++ body)), rest.dropWhile Text.isLetter, after⟩ := by
  have noEscape : opener ≠ '\\' ∧ sigilCloser opener ≠ '\\' := by
    have plain := delimiters_plain opens
    simp_all
  obtain ⟨after, passed⟩ := delimited.passes noEscape 0 line [] (sigilCloser opener :: rest)
  refine ⟨after, ?_⟩
  rw [scanToken_sigil named opens short, passed, closeSigil.eq_def]
  simp [noEscape]

/-- A sigil with interpolations is one token exactly if the delimiters pair up in the whole of it, and they do if they
pair up in the code of each interpolation. -/
theorem scan_interpolated [Host] (named : name ≠ [] ∧ ∀ c ∈ name, Text.isLetter c = true)
    (opens : opener ∈ sigilOpeners) (interpolated : Interpolated opener (sigilCloser opener) codes body) (line : Nat) :
    (∀ rest, opensHeredoc (opener :: (body ++ sigilCloser opener :: rest)) = false →
      ((∃ after, scanToken line '~' (name ++ opener :: (body ++ sigilCloser opener :: rest)) =
        .ok ⟨.sigil, String.ofList ('~' :: (name ++ body)), rest.dropWhile Text.isLetter, after⟩) ↔
      Delimited opener (sigilCloser opener) body)) ∧
    (scanFrom line ('~' :: (name ++ opener :: (body ++ [sigilCloser opener]))) =
        .ok [⟨.sigil, String.ofList ('~' :: (name ++ body)), line, false, false⟩] ↔
      Delimited opener (sigilCloser opener) body) ∧
    ((∀ code ∈ codes, Delimited opener (sigilCloser opener) code) → Delimited opener (sigilCloser opener) body) := by
  have plain := interpolated.not_heredoc opens
  have starts : ∀ rest, skipGap false Gap.none line ('~' :: rest) = ⟨Gap.none, line, '~' :: rest⟩ :=
    fun rest => skipGap_stop (by simp [beginsGap, isBlank])
  refine ⟨fun rest short => ⟨?_, fun delimited => scanToken_of_delimited named opens short delimited line⟩,
    ⟨fun scanned => ?_, fun delimited => ?_⟩, interpolated.delimited opens⟩
  · rintro ⟨after, scanned⟩
    exact delimited_of_scanToken named opens short scanned rfl
  · cases first : scanToken line '~' (name ++ opener :: (body ++ [sigilCloser opener])) with
    | error fault =>
      rw [scanFrom_failed (starts _) first] at scanned
      cases scanned
    | ok lexeme =>
      rw [scanFrom_step (starts _) first] at scanned
      cases behind : scanFrom lexeme.line lexeme.rest with
      | error fault =>
        rw [behind] at scanned
        cases scanned
      | ok tokens =>
        rw [behind] at scanned
        have head := (List.cons.inj (Except.ok.inj scanned)).1
        exact delimited_of_scanToken named opens plain first (congrArg Token.text head)
  · obtain ⟨after, first⟩ := scanToken_of_delimited named opens plain delimited line
    rw [scanFrom_step (starts _) first, scanFrom_end rfl]
    rfl

attribute [local instance] Host.ordinary in
theorem scan_interpolated_call :
    scanFrom 1 "~s(a#\x7bf(x)\x7db)".toList = .ok [⟨.sigil, "~sa#\x7bf(x)\x7db", 1, false, false⟩] := by
  have named : ['s'] ≠ [] ∧ ∀ c ∈ ['s'], Text.isLetter c = true := ⟨by decide, forall_mem_of_all (by decide)⟩
  have call : Scope.interpolation.Holds 0 ['f', '(', 'x', ')'] :=
    .code (by decide) (by decide) <| .code (by decide) (by decide) <|
      .code (by decide) (by decide) <| .code (by decide) (by decide) .nil
  have interpolated : Interpolated '(' (sigilCloser '(') [['f', '(', 'x', ')']]
      ('a' :: '#' :: '\x7b' :: (['f', '(', 'x', ')'] ++ '\x7d' :: ['b'])) :=
    .plain (by decide) <| .hole call <| .plain (by decide) .nil
  have even : Delimited '(' (sigilCloser '(') ['f', '(', 'x', ')'] :=
    .plain (by decide) (by decide) <| .nested (by decide) (.plain (by decide) (by decide) .nil) .nil
  obtain ⟨-, covers, pairs⟩ := scan_interpolated named (by decide) interpolated 1
  exact covers.mpr (pairs (by simpa using even))

attribute [local instance] Host.ordinary in
/-- The closing delimiter in a string of an interpolation ends the sigil. -/
theorem scan_interpolated_string :
    (∃ codes, Interpolated '(' (sigilCloser '(') codes "#\x7bf(\")\")\x7d".toList) ∧
      scan "~s(#\x7bf(\")\")\x7d)" = .ok [⟨.sigil, "~s#\x7bf(\")\"", 1, false, false⟩,
        ⟨.punctuation, "\x7d", 1, false, false⟩, ⟨.punctuation, ")", 1, false, false⟩] := by
  have text : (Scope.literal '"').Holds 0 [')'] := .plain (by decide) (by decide) (by decide) .nil
  have call : Scope.interpolation.Holds 1 (['f', '('] ++ '"' :: ([')'] ++ '"' :: [')'])) :=
    .code (by decide) (by decide) <| .code (by decide) (by decide) <|
      .quoted (.inl rfl) (by decide) text (by decide) <| .code (by decide) (by decide) .nil
  exact ⟨⟨_, .hole call .nil⟩, by decide +kernel⟩

end Tokens

end BoundaryLint.Token
