import BoundaryLint.Proofs.Token.LineCount
import BoundaryLint.Proofs.Token.Spacing
import Mathlib

/-!
Rows of words written with single blanks between them. A word is a token without a place in the text. Main
statement: whatever words are written one after another, scanning gives them back, each on the line that the
line breaks inside the words before it lead to.
-/

namespace BoundaryLint.Token

def isDecimal : List Char → Bool
  | [] => false
  | c :: rest => Text.isDigit c && rest.all isNumeralChar

/-- The text between the quotes of a literal in which a backslash stands before each quote, each backslash and
each number sign, and maybe before other characters. -/
def isEscaped (quote : Char) : List Char → Bool
  | [] => true
  | '\\' :: _ :: rest => isEscaped quote rest
  | c :: rest => c ≠ '\\' && c ≠ quote && c ≠ '#' && isEscaped quote rest

def Writable (kind : Kind) (text : String) : Prop :=
  let chars := text.toList
  match kind with
  | .identifier => chars.head?.any isIdentifierStart ∧ isWord chars ∧ wordKind text = .identifier
  | .alias => chars.head?.any (fun c => Text.isLetter c && !isIdentifierStart c) ∧ isWord chars
  | .key | .atom => chars.head?.any isWordStart ∧ isWord chars
  | .keyword => text ∈ keywords
  | .literal => text ∈ wordLiterals
  | .operator => text ∈ operators ∨ text ∈ wordOperators
  | .punctuation => ∃ c ∈ punctuation, text = c.toString
  | .integer => isDecimal chars
  | .float => ∃ whole fraction, isDecimal whole ∧ isDecimal fraction ∧ chars = whole ++ '.' :: fraction
  | .string => isEscaped '"' chars ∧ '\r' ∉ chars
  | .charlist => isEscaped '\'' chars ∧ '\r' ∉ chars
  | .sigil => False

structure Word where
  kind : Kind
  text : String
  writable : Writable kind text

namespace Word

def token (word : Word) (line : Nat) (spaced : Bool) : Token := ⟨word.kind, word.text, line, spaced, false⟩

/-- The characters of a word: a key has its colon, an atom too, a literal its quotes. -/
def spelling (word : Word) : List Char := (word.token 1 false).spelling

end Word

def rendered (words : List Word) : List Char := [' '].intercalate (words.map Word.spelling)

def laidOut (line : Nat) (spaced : Bool) : List Word → List Token
  | [] => []
  | word :: rest => word.token line spaced :: laidOut (line + breaks word.text.toList) true rest

def EndsWord (rest : List Char) : Prop := ∀ c ∈ rest.head?, c = ' '

section Numerals

variable {line : Nat} {rest : List Char}

theorem isNumeralChar_of_isDecimal {digits : List Char} (decimal : isDecimal digits = true) :
    ∀ c ∈ digits, isNumeralChar c = true := by
  cases digits with
  | nil => simp [isDecimal] at decimal
  | cons first digits =>
    simp only [isDecimal, Bool.and_eq_true, List.all_eq_true] at decimal
    refine List.forall_mem_cons.mpr ⟨?_, decimal.2⟩
    simp [isNumeralChar, decimal.1]

theorem EndsWord.not_numeral (ends : EndsWord rest) : ∀ c ∈ rest.head?, isNumeralChar c = false := by
  intro c head
  rw [ends c head]
  decide

/-- Without a base mark behind its first digit a numeral is a decimal one. -/
theorem scanNumeral_of_decimal {c : Char} {more : List Char}
    (unmarked : ∀ d ∈ more.head?, isNumeralChar d = true ∨ d = '.' ∨ d = ' ') :
    scanNumeral line (c :: more) = scanDecimal line (c :: more) := by
  unfold scanNumeral
  split
  · next base after found =>
    obtain ⟨-, rfl⟩ := List.cons.inj found
    have second := unmarked base rfl
    rw [if_neg]
    rintro (rfl | rfl | rfl)
    · exact absurd second (by decide)
    · exact absurd second (by decide)
    · exact absurd second (by decide)
  · rfl

theorem scanNumeral_integer {digits : List Char} (decimal : isDecimal digits = true) (ends : EndsWord rest) :
    scanNumeral line (digits ++ rest) = ⟨.integer, String.ofList digits, rest, line⟩ := by
  have inside := isNumeralChar_of_isDecimal decimal
  have whole : scanDecimal line (digits ++ rest) = ⟨.integer, String.ofList digits, rest, line⟩ := by
    have point : scanFraction rest = none := scanFraction_stop fun c head => by rw [ends c head]; decide
    simp only [scanDecimal, takeWhile_append_stop inside ends.not_numeral,
      dropWhile_append_stop inside ends.not_numeral, point]
  rw [← whole]
  cases digits with
  | nil => simp [isDecimal] at decimal
  | cons c digits =>
    apply scanNumeral_of_decimal
    intro d head
    cases digits with
    | nil => exact .inr (.inr (ends d head))
    | cons e digits =>
      cases head
      exact .inl (inside d (by simp))

theorem scanFraction_decimal {fraction : List Char} (decimal : isDecimal fraction = true) (ends : EndsWord rest) :
    scanFraction ('.' :: (fraction ++ rest)) = some ('.' :: fraction, rest) := by
  have inside := isNumeralChar_of_isDecimal decimal
  have power : scanExponent rest = ([], rest) := by
    cases rest with
    | nil => rfl
    | cons c rest =>
      rw [ends c rfl]
      simp [scanExponent]
  cases fraction with
  | nil => simp [isDecimal] at decimal
  | cons c digits =>
    have digit : Text.isDigit c = true := by
      simp only [isDecimal, Bool.and_eq_true] at decimal
      exact decimal.1
    have taken := takeWhile_append_stop inside ends.not_numeral
    have dropped := dropWhile_append_stop inside ends.not_numeral
    rw [List.cons_append] at taken dropped
    simp [scanFraction, digit, taken, dropped, power]

theorem scanNumeral_float {whole fraction : List Char} (before : isDecimal whole = true)
    (after : isDecimal fraction = true) (ends : EndsWord rest) :
    scanNumeral line (whole ++ '.' :: (fraction ++ rest)) =
      ⟨.float, String.ofList (whole ++ '.' :: fraction), rest, line⟩ := by
  have inside := isNumeralChar_of_isDecimal before
  have point : ∀ c ∈ ('.' :: (fraction ++ rest)).head?, isNumeralChar c = false := by simp; decide
  have read : scanDecimal line (whole ++ '.' :: (fraction ++ rest)) =
      ⟨.float, String.ofList (whole ++ '.' :: fraction), rest, line⟩ := by
    simp only [scanDecimal, takeWhile_append_stop inside point, dropWhile_append_stop inside point,
      scanFraction_decimal after ends]
  rw [← read]
  cases whole with
  | nil => simp [isDecimal] at before
  | cons c digits =>
    apply scanNumeral_of_decimal
    intro d head
    cases digits with
    | nil => exact .inr (.inl (Option.some.inj head).symm)
    | cons e digits =>
      cases head
      exact .inl (inside d (by simp))

end Numerals

section Literals

variable {line : Nat} {rest : List Char} {quote : Char}

theorem breaks_pair (c d : Char) (rest : List Char) :
    breaks (c :: d :: rest) = lineAfter 0 c + lineAfter 0 d + breaks rest := by
  rw [breaks_cons, breaks_cons, Nat.add_assoc]

/-- A literal is closed by the first quote without a backslash, whatever line breaks come before. -/
theorem closeLiteral_escaped [Host] {opened : Nat} {body taken : List Char} (escaped : isEscaped quote body = true)
    (quoted : quote ≠ '\\') :
    closeLiteral [] (.text quote opened) line taken (body ++ quote :: rest) =
      .ok ⟨taken.reverse ++ body, rest, line + breaks body⟩ := by
  fun_induction isEscaped quote body generalizing line taken with
  | case1 =>
    rw [List.nil_append, closeLiteral.eq_def]
    simp [quoted]
  | case2 hidden body ih =>
    have counted : lineAfter line hidden + breaks body = line + breaks ('\\' :: hidden :: body) := by
      rw [breaks_pair, lineAfter_eq line hidden, lineAfter_of_ne (by decide : '\\' ≠ '\n')]
      omega
    rw [List.cons_append, List.cons_append, closeLiteral.eq_def]
    simp [ih escaped, counted]
  | case3 c body _ ih =>
    simp only [Bool.and_eq_true, decide_eq_true_eq] at escaped
    obtain ⟨⟨⟨notEscape, notQuote⟩, notMark⟩, more⟩ := escaped
    have counted : lineAfter line c + breaks body = line + breaks (c :: body) := by
      rw [breaks_cons, lineAfter_eq line c]
      omega
    rw [List.cons_append, closeLiteral.eq_def]
    simp [notEscape, notQuote, notMark, ih more, counted]

theorem scanQuoted_escaped [Host] {body : List Char} (escaped : isEscaped quote body = true) (quoted : quote ≠ '\\')
    (stop : ∀ c ∈ rest.head?, c ≠ quote) :
    scanQuoted quote line (body ++ quote :: rest) = .ok ⟨body, rest, line + breaks body⟩ := by
  -- Two more quotes would open a heredoc.
  have noHeredoc : ∀ second third more, body ++ quote :: rest = second :: third :: more →
      ¬(second = quote ∧ third = quote) := by
    intro second third more found heredoc
    cases body with
    | nil =>
      obtain ⟨-, tail⟩ := List.cons.inj found
      exact stop third (by rw [tail]; rfl) heredoc.2
    | cons c body =>
      have opens : c = quote := (List.cons.inj found).1.trans heredoc.1
      rw [opens, isEscaped] at escaped
      · simp at escaped
      · intro hidden more escape
        exact absurd escape quoted
  have closed : closeLiteral [] (.text quote line) line [] (body ++ quote :: rest) =
      .ok ⟨body, rest, line + breaks body⟩ := closeLiteral_escaped escaped quoted
  unfold scanQuoted
  split
  · next second third more found => rw [if_neg (noHeredoc second third more found), closed]
  · exact closed

theorem scanQuotedToken_escaped [Host] (kind : Kind) {body : List Char} (escaped : isEscaped quote body = true)
    (quoted : quote = '"' ∨ quote = '\'') (ends : EndsWord rest) :
    scanQuotedToken kind quote line (body ++ quote :: rest) =
      .ok ⟨kind, String.ofList body, rest, line + breaks body⟩ := by
  have plain : quote ≠ '\\' ∧ ' ' ≠ quote := by rcases quoted with rfl | rfl <;> decide
  have stop : ∀ c ∈ rest.head?, c ≠ quote := fun c head => by rw [ends c head]; exact plain.2
  have noKey : startsKey rest = false := startsKey_eq_false fun c head => by rw [ends c head]; decide
  simp [scanQuotedToken, scanQuoted_escaped escaped plain.1 stop, keyOr, noKey, bind, Except.bind, pure,
    Except.pure]

end Literals

section Words

variable {rest : List Char}

def ScansOver [Host] (chars : List Char) (kind : Kind) (text : String) (rest : List Char) : Prop :=
  ∃ c more, chars = c :: more ∧ beginsGap (c :: (more ++ rest)) = false ∧
    ∀ line, scanToken line c (more ++ rest) = .ok ⟨kind, text, rest, line + breaks text.toList⟩

theorem mem_spelling {token : Token} {c : Char} (mem : c ∈ token.text.toList) : c ∈ token.spelling := by
  unfold spelling
  split <;> simp [mem]

theorem breaks_eq_zero {chars : List Char} (absent : '\n' ∉ chars) : breaks chars = 0 :=
  List.count_eq_zero.mpr absent

theorem scansOver_spelled [Host] {token : Token} (spelled : token.Spelled) (ends : EndsWord rest) :
    ScansOver token.spelling token.kind token.text rest := by
  have bounded : token.Bounded rest := by
    intro c head
    rw [ends c head]
    exact absorbs_eq_false spelled (.inl (by simp))
  have unbroken : breaks token.text.toList = 0 :=
    breaks_eq_zero fun mem => not_mem_spelling spelled (by simp) (.inl rfl) (mem_spelling mem)
  obtain ⟨c, more, shape, opens, scanned⟩ := scansTo_spelling spelled bounded
  refine ⟨c, more, shape, opens, fun line => ?_⟩
  rw [scanned line, unbroken, Nat.add_zero]

theorem scansOver_numeral [Host] {kind : Kind} {text : String}
    (start : text.toList.head?.any Text.isDigit = true) (plain : ∀ c ∈ text.toList, c = '.' ∨ isNumeralChar c = true)
    (read : ∀ line, scanNumeral line (text.toList ++ rest) = ⟨kind, text, rest, line⟩) :
    ScansOver text.toList kind text rest := by
  have unbroken : breaks text.toList = 0 := by
    apply breaks_eq_zero
    intro mem
    exact absurd (plain '\n' mem) (by decide)
  cases chars : text.toList with
  | nil => simp [chars] at start
  | cons c digits =>
    rw [chars] at start read unbroken
    have digit : Text.isDigit c = true := by simpa using start
    refine ⟨c, digits, rfl, beginsGap_eq_false (p := Text.isDigit) (by decide) digit, fun line => ?_⟩
    have numeral := read line
    rw [List.cons_append] at numeral
    rw [chars, unbroken]
    simp [scanToken, digit, numeral]

theorem head_of_isDecimal {digits : List Char} (decimal : isDecimal digits = true) (more : List Char) :
    (digits ++ more).head?.any Text.isDigit = true := by
  cases digits with
  | nil => simp [isDecimal] at decimal
  | cons c digits =>
    simp only [isDecimal, Bool.and_eq_true] at decimal
    simpa using decimal.1

theorem scansOver_integer [Host] {text : String} (decimal : isDecimal text.toList = true) (ends : EndsWord rest) :
    ScansOver text.toList .integer text rest := by
  refine scansOver_numeral (by simpa using head_of_isDecimal decimal []) ?_ ?_
  · exact fun c mem => .inr (isNumeralChar_of_isDecimal decimal c mem)
  · intro line
    rw [scanNumeral_integer decimal ends, String.ofList_toList]

theorem scansOver_float [Host] {text : String} {whole fraction : List Char} (before : isDecimal whole = true)
    (after : isDecimal fraction = true) (shape : text.toList = whole ++ '.' :: fraction) (ends : EndsWord rest) :
    ScansOver text.toList .float text rest := by
  have inside := isNumeralChar_of_isDecimal before
  have outside := isNumeralChar_of_isDecimal after
  refine scansOver_numeral (shape ▸ head_of_isDecimal before _) ?_ ?_
  · intro c mem
    rw [shape, List.mem_append, List.mem_cons] at mem
    rcases mem with early | point | late
    · exact .inr (inside c early)
    · exact .inl point
    · exact .inr (outside c late)
  · intro line
    rw [shape, List.append_assoc, List.cons_append, scanNumeral_float before after ends, ← shape,
      String.ofList_toList]

theorem scansOver_quoted [Host] {kind : Kind} {text : String} {quote : Char}
    (quoted : quote = '"' ∧ kind = .string ∨ quote = '\'' ∧ kind = .charlist)
    (escaped : isEscaped quote text.toList = true) (ends : EndsWord rest) :
    ScansOver (quote :: text.toList ++ [quote]) kind text rest := by
  have either : quote = '"' ∨ quote = '\'' := quoted.imp And.left And.left
  refine ⟨quote, text.toList ++ [quote], rfl, ?_, fun line => ?_⟩
  · rcases either with rfl | rfl <;> simp [beginsGap, isBlank]
  · have read : scanToken line quote (text.toList ++ [quote] ++ rest) =
        scanQuotedToken kind quote line (text.toList ++ [quote] ++ rest) := by
      rcases quoted with ⟨rfl, rfl⟩ | ⟨rfl, rfl⟩
      · simp [scanToken, show Text.isDigit '"' = false by decide, show isIdentifierStart '"' = false by decide,
          show Text.isLetter '"' = false by decide]
      · simp [scanToken, show Text.isDigit '\'' = false by decide, show isIdentifierStart '\'' = false by decide,
          show Text.isLetter '\'' = false by decide]
    rw [read, List.append_assoc, List.singleton_append, scanQuotedToken_escaped kind escaped either ends,
      String.ofList_toList]

/-- The words whose spelling shows no escapes and no underscores between digits. -/
theorem spelled_of_writable {kind : Kind} {text : String} (writable : Writable kind text)
    (other : kind ∉ [.integer, .float, .string, .charlist]) (line : Nat) (spaced : Bool) :
    Spelled ⟨kind, text, line, spaced, false⟩ := by
  have reserved : ∀ word ∈ keywords ++ wordLiterals, word.toList.head?.any isIdentifierStart = true ∧
      isWord word.toList = true := by decide +kernel
  have keyword : ∀ word ∈ keywords, wordKind word = .keyword := by decide +kernel
  have literal : ∀ word ∈ wordLiterals, wordKind word = .literal := by decide +kernel
  cases kind with
  | keyword =>
    obtain ⟨start, isword⟩ := reserved text (List.mem_append_left _ writable)
    exact ⟨start, isword, keyword text writable⟩
  | literal =>
    obtain ⟨start, isword⟩ := reserved text (List.mem_append_right _ writable)
    exact ⟨start, isword, literal text writable⟩
  | integer | float | string | charlist => simp at other
  | sigil => exact writable.elim
  | identifier | «alias» | key | atom | operator | punctuation => exact writable

/-- Every word is scanned from its spelling, before a blank and at the end of the text. -/
theorem scansOver_word [Host] (word : Word) (ends : EndsWord rest) :
    ScansOver word.spelling word.kind word.text rest := by
  obtain ⟨kind, text, writable⟩ := word
  by_cases other : kind ∈ [.integer, .float, .string, .charlist]
  · simp only [List.mem_cons, List.not_mem_nil, or_false] at other
    rcases other with rfl | rfl | rfl | rfl
    · exact scansOver_integer writable ends
    · obtain ⟨whole, fraction, before, after, shape⟩ := writable
      exact scansOver_float before after shape ends
    · exact scansOver_quoted (.inl ⟨rfl, rfl⟩) writable.1 ends
    · exact scansOver_quoted (.inr ⟨rfl, rfl⟩) writable.1 ends
  · exact scansOver_spelled (spelled_of_writable writable other 1 false) ends

theorem return_not_mem_spelling (word : Word) : '\r' ∉ word.spelling := by
  obtain ⟨kind, text, writable⟩ := word
  have numeral : isNumeralChar '\r' = false := by decide
  by_cases other : kind ∈ [.integer, .float, .string, .charlist]
  · simp only [List.mem_cons, List.not_mem_nil, or_false] at other
    rcases other with rfl | rfl | rfl | rfl
    · intro mem
      rw [isNumeralChar_of_isDecimal writable _ mem] at numeral
      cases numeral
    · obtain ⟨whole, fraction, before, after, shape⟩ := writable
      intro mem
      have split : '\r' ∈ whole ++ '.' :: fraction := shape ▸ mem
      rw [List.mem_append, List.mem_cons] at split
      rcases split with early | point | late
      · rw [isNumeralChar_of_isDecimal before _ early] at numeral
        cases numeral
      · exact absurd point (by decide)
      · rw [isNumeralChar_of_isDecimal after _ late] at numeral
        cases numeral
    · simpa [Word.spelling, Word.token, spelling] using writable.2
    · simpa [Word.spelling, Word.token, spelling] using writable.2
  · refine not_mem_spelling (spelled_of_writable writable other 1 false) (by simp) (.inr ⟨?_, ?_⟩)
    · rintro rfl
      simp at other
    · rintro rfl
      simp at other

end Words

section Rows

def following (words : List Word) : List Char := words.flatMap fun word => ' ' :: word.spelling

theorem rendered_cons (word : Word) (words : List Word) :
    rendered (word :: words) = word.spelling ++ following words := by
  induction words generalizing word with
  | nil => simp [rendered, following]
  | cons second words ih =>
    have later := ih second
    simp only [rendered, List.map_cons] at later ⊢
    rw [List.intercalate_cons_cons, later]
    simp [following]

theorem endsWord_following (words : List Word) : EndsWord (following words) := by
  intro c head
  cases words with
  | nil => simp [following] at head
  | cons word words => simpa [following, eq_comm] using head

theorem scanFrom_word [Host] (word : Word) (line : Nat) {spaced : Bool} (gap : List Char) {rest : List Char}
    (ends : EndsWord rest)
    (skipped : ∀ chars, beginsGap chars = false →
      skipGap false Gap.none line (gap ++ chars) = ⟨⟨spaced, false⟩, line, chars⟩) :
    scanFrom line (gap ++ (word.spelling ++ rest)) =
      (scanFrom (line + breaks word.text.toList) rest).map (word.token line spaced :: ·) := by
  obtain ⟨c, more, shape, opens, scanned⟩ := scansOver_word word ends
  rw [shape, List.cons_append, scanFrom_step (skipped _ opens) (scanned line)]
  rfl

theorem scanFrom_following [Host] (line : Nat) (words : List Word) :
    scanFrom line (following words) = .ok (laidOut line true words) := by
  induction words generalizing line with
  | nil => simp [following, laidOut, scanFrom, skipGap]
  | cons word words ih =>
    have blank : ∀ chars, beginsGap chars = false →
        skipGap false Gap.none line ([' '] ++ chars) = ⟨⟨true, false⟩, line, chars⟩ := by
      intro chars stop
      rw [List.singleton_append, skipGap.eq_def]
      simp [isBlank, skipGap_stop stop, Gap.addSpace, Gap.none]
    have step := scanFrom_word word line [' '] (endsWord_following words) blank
    rw [ih] at step
    simpa [following, laidOut, Except.map] using step

/-- Scanning undoes rendering: the words come back in order with their kinds and texts, all but the first
behind a blank, none behind a line break, each on the line that the breaks inside the words before lead to. -/
theorem scan_rendered [Host] (words : List Word) :
    scan (String.ofList (rendered words)) = .ok (laidOut 1 false words) := by
  have noReturn : '\r' ∉ rendered words := by
    cases words with
    | nil => simp [rendered]
    | cons word words =>
      rw [rendered_cons, List.mem_append, not_or]
      refine ⟨return_not_mem_spelling word, ?_⟩
      simpa [following] using fun word _ => return_not_mem_spelling word
  rw [scan, String.toList_ofList, unifyBreaks_eq_self (.inl noReturn)]
  cases words with
  | nil => simp [rendered, laidOut, scanFrom, skipGap]
  | cons word words =>
    have step := scanFrom_word word 1 [] (endsWord_following words) fun chars stop => by
      rw [List.nil_append, skipGap_stop stop]
      rfl
    rw [scanFrom_following, List.nil_append] at step
    rw [rendered_cons, step]
    rfl

end Rows

end BoundaryLint.Token
