import BoundaryLint.Proofs.Text.Letter
import BoundaryLint.Token.Stream
import Mathlib.Data.List.Chain

/-!
Writing tokens as text. A token is written after the gap that it records: a line break, a blank or
nothing. Main statement: scanning what was written gives the tokens back, as long as no token stands
right before a character that would be read as a part of it.
-/

namespace BoundaryLint.Token

-- Stated with `List.all`, so that deciding it never becomes a search over all characters.
theorem forall_mem_of_all {property : Char → Prop} [DecidablePred property] {chars : List Char}
    (all : (chars.all fun c => property c) = true) : ∀ c ∈ chars, property c := by
  simpa using all

def spelling (token : Token) : List Char :=
  match token.kind with
  | .key => token.text.toList ++ [':']
  | .atom => ':' :: token.text.toList
  | .string => '"' :: token.text.toList ++ ['"']
  | .charlist => '\'' :: token.text.toList ++ ['\'']
  | _ => token.text.toList

def gapBefore (token : Token) : List Char :=
  if token.newlineBefore then ['\n'] else if token.spaceBefore then [' '] else []

def written (tokens : List Token) : List Char :=
  tokens.flatMap fun token => token.gapBefore ++ token.spelling

/-- A character that starts a word which is no number. -/
def isWordStart (c : Char) : Bool := c = '_' || Text.isLetter c

def isWord (chars : List Char) : Bool :=
  ([[], ['?'], ['!']] : List (List Char)).contains (chars.dropWhile Text.isWordChar)

def isPlain (quote : Char) (chars : List Char) : Bool :=
  chars.all fun c => c ≠ quote && c ≠ '\\' && c ≠ '#' && c ≠ '\n'

/-- The text of a token is one that a scanned token of its kind can have. Floats and sigils are left
out, since their texts do not tell how they were written. -/
def Spelled (token : Token) : Prop :=
  let chars := token.text.toList
  match token.kind with
  | .identifier | .keyword | .literal =>
    chars.head?.any isIdentifierStart ∧ isWord chars ∧ wordKind token.text = token.kind
  | .operator => token.text ∈ operators ∨ token.text ∈ wordOperators
  | .alias => chars.head?.any (fun c => Text.isLetter c && !isIdentifierStart c) ∧ isWord chars
  | .key | .atom => chars.head?.any isWordStart ∧ isWord chars
  | .integer => chars ≠ [] ∧ chars.all Char.isDigit
  | .string => isPlain '"' chars
  | .charlist => isPlain '\'' chars
  | .punctuation => ∃ c ∈ punctuation, token.text = c.toString
  | .float | .sigil => False

/-- A character that a word before it would take in, or that would take the mark off it. -/
def joinsWord (c : Char) : Bool := Text.isWordChar c || ['?', '!', '='].contains c

def continuesWord (c : Char) : Bool := joinsWord c || c = ':'

def isOperatorChar (c : Char) : Bool := operators.any (·.toList.contains c)

/-- A character right behind the token would be read as a part of it, or make it another token. -/
def absorbs (token : Token) (c : Char) : Bool :=
  match token.kind with
  | .identifier | .keyword | .literal | .alias => continuesWord c
  | .operator => if token.text ∈ wordOperators then continuesWord c else isOperatorChar c
  | .atom => continuesWord c || c = '.'
  | .key => !(c = ' ' || c = '\t' || c = '\n')
  | .integer => Text.isWordChar c || c = '.'
  | .string => c = '"' || c = ':'
  | .charlist => c = '\'' || c = ':'
  | .punctuation => false
  | .float | .sigil => true

def Bounded (token : Token) (rest : List Char) : Prop := ∀ c ∈ rest.head?, token.absorbs c = false

section Words

theorem isWordChar_of_isNumeralChar {c : Char} (numeral : isNumeralChar c = true) :
    Text.isWordChar c = true := by
  simp only [isNumeralChar, Bool.or_eq_true, decide_eq_true_eq] at numeral
  rcases numeral with digit | rfl
  · by_cases ascii : c.toNat < 128
    · rw [Text.isDigit_ascii c ascii] at digit
      simp [Text.isWordChar, Text.isAlphanumeric_ascii c ascii, Char.isAlphanum, digit]
    · simp [Text.isWordChar, Text.isAlphanumeric, ascii, digit]
  · decide

theorem takeWhile_append_stop {p : Char → Bool} {word rest : List Char} (inside : ∀ c ∈ word, p c = true)
    (stop : ∀ c ∈ rest.head?, p c = false) : (word ++ rest).takeWhile p = word := by
  rw [List.takeWhile_append_of_pos inside]
  cases rest with
  | nil => simp
  | cons c rest => simp [stop c rfl]

theorem dropWhile_append_stop {p : Char → Bool} {word rest : List Char} (inside : ∀ c ∈ word, p c = true)
    (stop : ∀ c ∈ rest.head?, p c = false) : (word ++ rest).dropWhile p = rest := by
  rw [List.dropWhile_append_of_pos inside]
  cases rest with
  | nil => simp
  | cons c rest => simp [stop c rfl]

theorem scanWord_append {word rest : List Char} (isword : isWord word = true)
    (stop : ∀ c ∈ rest.head?, joinsWord c = false) : scanWord (word ++ rest) = (word, rest) := by
  have split := List.takeWhile_append_dropWhile (p := Text.isWordChar) (l := word)
  have inside : ∀ c ∈ word.takeWhile Text.isWordChar, Text.isWordChar c = true :=
    List.all_eq_true.mp List.all_takeWhile
  generalize word.takeWhile Text.isWordChar = body at split inside
  simp only [isWord] at isword
  generalize word.dropWhile Text.isWordChar = mark at split isword
  subst split
  have marks : mark = [] ∨ mark = ['?'] ∨ mark = ['!'] := by simpa using isword
  have outside : ∀ c ∈ (mark ++ rest).head?, Text.isWordChar c = false := by
    rcases marks with rfl | rfl | rfl
    · intro c member
      have none := stop c member
      simp only [joinsWord, Bool.or_eq_false_iff] at none
      exact none.1
    · simp; decide
    · simp; decide
  have marked : wordMark (mark ++ rest) = (mark, rest) := by
    cases rest with
    | nil => rcases marks with rfl | rfl | rfl <;> simp [wordMark]
    | cons c rest =>
      have none := stop c rfl
      simp only [joinsWord, Bool.or_eq_false_iff, List.contains_eq_mem, List.mem_cons,
        List.not_mem_nil, or_false, decide_eq_false_iff_not, not_or] at none
      rcases marks with rfl | rfl | rfl <;> simp [wordMark, none.2]
  simp only [scanWord, List.append_assoc, takeWhile_append_stop inside outside,
    dropWhile_append_stop inside outside, marked]

theorem startsKey_eq_false {rest : List Char} (stop : ∀ c ∈ rest.head?, c ≠ ':') :
    startsKey rest = false := by
  cases rest with
  | nil => rfl
  | cons c rest =>
    have other := stop c rfl
    unfold startsKey
    split <;> simp_all

end Words

section Scanning

variable {line : Nat} {rest : List Char}

theorem isDigit_eq_false_of_isWordStart {c : Char} (start : isWordStart c = true) :
    Text.isDigit c = false := by
  simp only [isWordStart, Bool.or_eq_true, decide_eq_true_eq] at start
  rcases start with rfl | letter
  · decide
  · exact Text.isDigit_eq_false_of_isLetter letter

theorem isWordStart_of_isIdentifierStart {c : Char} (start : isIdentifierStart c = true) :
    isWordStart c = true := by
  simp only [isIdentifierStart, isWordStart, Bool.or_eq_true, Bool.and_eq_true] at start ⊢
  exact start.imp id And.left

/-- Every word is scanned by the same steps; only the kind it gets differs. -/
theorem scanToken_word [Host] {c : Char} {word : List Char} (start : isWordStart c = true) :
    scanToken line c (word ++ rest) =
      .ok (keyOr (if isIdentifierStart c then wordKind (String.ofList (scanWord (c :: (word ++ rest))).1)
        else .alias) (scanWord (c :: (word ++ rest))).1 (scanWord (c :: (word ++ rest))).2 line) := by
  unfold scanToken
  rw [isDigit_eq_false_of_isWordStart start]
  by_cases identifier : isIdentifierStart c = true
  · simp [identifier]
  · have letter : Text.isLetter c = true := by
      simp only [isWordStart, isIdentifierStart, Bool.or_eq_true, decide_eq_true_eq,
        Bool.and_eq_true, not_or] at start identifier
      exact start.resolve_left identifier.1
    simp [identifier, letter]

theorem scanWord_cons {c : Char} {word : List Char} (isword : isWord (c :: word) = true)
    (stop : ∀ d ∈ rest.head?, joinsWord d = false) :
    scanWord (c :: (word ++ rest)) = (c :: word, rest) :=
  scanWord_append isword stop

theorem joinsWord_eq_false {c : Char} (stop : continuesWord c = false) : joinsWord c = false := by
  simp only [continuesWord, Bool.or_eq_false_iff] at stop
  exact stop.1

theorem ne_colon_of_continuesWord {c : Char} (stop : continuesWord c = false) : c ≠ ':' := by
  simp only [continuesWord, Bool.or_eq_false_iff, decide_eq_false_iff_not] at stop
  exact stop.2

theorem scanToken_bareWord [Host] {c : Char} {word : List Char} (start : isWordStart c = true)
    (isword : isWord (c :: word) = true) (stop : ∀ d ∈ rest.head?, continuesWord d = false) :
    scanToken line c (word ++ rest) =
      .ok ⟨if isIdentifierStart c then wordKind (String.ofList (c :: word)) else .alias,
        String.ofList (c :: word), rest, line⟩ := by
  have noKey : startsKey rest = false :=
    startsKey_eq_false fun d member => ne_colon_of_continuesWord (stop d member)
  rw [scanToken_word start,
    scanWord_cons isword fun d member => joinsWord_eq_false (stop d member)]
  simp [keyOr, noKey]

theorem scanToken_key [Host] {c : Char} {word : List Char} (start : isWordStart c = true)
    (isword : isWord (c :: word) = true)
    (blank : ∀ d ∈ rest.head?, d = ' ' ∨ d = '\t' ∨ d = '\n') :
    scanToken line c (word ++ ':' :: rest) = .ok ⟨.key, String.ofList (c :: word), rest, line⟩ := by
  have key : startsKey (':' :: rest) = true := by
    cases rest with
    | nil => rfl
    | cons d rest => simpa [startsKey, or_assoc] using blank d rfl
  rw [scanToken_word start, scanWord_cons isword (by simp; decide)]
  simp [keyOr, key]

theorem scanAtomTail_stop (stop : ∀ c ∈ rest.head?, c ≠ '.') : scanAtomTail rest = ([], rest) := by
  cases rest with
  | nil => simp [scanAtomTail]
  | cons c rest =>
    have other := stop c rfl
    unfold scanAtomTail
    split <;> simp_all

theorem scanToken_atom [Host] {c : Char} {word : List Char} (start : isWordStart c = true)
    (isword : isWord (c :: word) = true)
    (stop : ∀ d ∈ rest.head?, continuesWord d = false ∧ d ≠ '.') :
    scanToken line ':' (c :: word ++ rest) = .ok ⟨.atom, String.ofList (c :: word), rest, line⟩ := by
  have colon : scanToken line ':' (c :: word ++ rest) = scanColon line (c :: (word ++ rest)) := by
    simp [scanToken, show Text.isDigit ':' = false by decide,
      show isIdentifierStart ':' = false by decide, show Text.isLetter ':' = false by decide]
  have other : c ≠ ':' ∧ c ≠ '"' ∧ c ≠ '\'' := by
    refine ⟨?_, ?_, ?_⟩ <;> rintro rfl <;> exact absurd start (by decide)
  have letter : (decide (c = '_') || Text.isLetter c) = true := start
  rw [colon]
  simp only [scanColon, other.1, other.2.1, other.2.2, or_self, if_false, letter, if_true,
    scanWord_cons isword fun d member => joinsWord_eq_false (stop d member).1,
    scanAtomTail_stop fun d member => (stop d member).2, List.append_nil]

theorem scanToken_punctuation [Host] {c : Char} (mark : c ∈ punctuation) :
    scanToken line c rest = .ok ⟨.punctuation, c.toString, rest, line⟩ := by
  have plain : ∀ c ∈ punctuation, Text.isDigit c = false ∧ isIdentifierStart c = false ∧
      Text.isLetter c = false ∧ c ≠ '"' ∧ c ≠ '\'' ∧ c ≠ ':' := forall_mem_of_all (by decide)
  obtain ⟨digit, identifier, letter, string, charlist, colon⟩ := plain c mark
  simp [scanToken, digit, identifier, letter, string, charlist, colon, mark]

theorem isDigit_of_ascii {c : Char} (digit : c.isDigit = true) : Text.isDigit c = true := by
  have ascii : c.toNat < 128 := Nat.lt_of_le_of_lt (Text.toNat_le_of_isDigit digit) (by decide)
  rw [Text.isDigit_ascii c ascii, digit]

theorem scanFraction_stop (stop : ∀ c ∈ rest.head?, c ≠ '.') : scanFraction rest = none := by
  cases rest with
  | nil => rfl
  | cons c rest =>
    have other := stop c rfl
    unfold scanFraction
    split <;> simp_all

theorem scanDecimal_append {digits : List Char} (decimal : ∀ d ∈ digits, d.isDigit = true)
    (stop : ∀ d ∈ rest.head?, Text.isWordChar d = false ∧ d ≠ '.') :
    scanDecimal line (digits ++ rest) = ⟨.integer, String.ofList digits, rest, line⟩ := by
  have inside : ∀ d ∈ digits, isNumeralChar d = true := fun d member => by
    simp [isNumeralChar, isDigit_of_ascii (decimal d member)]
  have outside : ∀ d ∈ rest.head?, isNumeralChar d = false := fun d member => by
    by_contra numeral
    have word := isWordChar_of_isNumeralChar (eq_true_of_ne_false numeral)
    rw [(stop d member).1] at word
    exact Bool.false_ne_true word
  simp only [scanDecimal, takeWhile_append_stop inside outside,
    dropWhile_append_stop inside outside, scanFraction_stop fun d member => (stop d member).2]

/-- Neither a digit nor what may follow a numeral marks a base. -/
theorem scanNumeral_append {c : Char} {digits : List Char}
    (decimal : ∀ d ∈ c :: digits, d.isDigit = true)
    (stop : ∀ d ∈ rest.head?, Text.isWordChar d = false ∧ d ≠ '.') :
    scanNumeral line (c :: digits ++ rest) =
      ⟨.integer, String.ofList (c :: digits), rest, line⟩ := by
  have noBase : ∀ d ∈ (digits ++ rest).head?, ¬(d = 'x' ∨ d = 'b' ∨ d = 'o') := by
    intro d second base
    cases digits with
    | nil =>
      have outside := (stop d second).1
      rcases base with rfl | rfl | rfl <;> exact absurd outside (by decide)
    | cons e digits =>
      have digit := decimal e (by simp)
      obtain rfl : e = d := by simpa using second
      rcases base with rfl | rfl | rfl <;> exact absurd digit (by decide)
  rw [← scanDecimal_append decimal stop]
  unfold scanNumeral
  split
  · next base more found =>
    have tail : digits ++ rest = base :: more := (List.cons.inj found).2
    have second : base ∈ (digits ++ rest).head? := by
      rw [tail]
      rfl
    rw [if_neg (noBase base second)]
  · rfl

theorem scanToken_integer [Host] {c : Char} {digits : List Char}
    (decimal : ∀ d ∈ c :: digits, d.isDigit = true)
    (stop : ∀ d ∈ rest.head?, Text.isWordChar d = false ∧ d ≠ '.') :
    scanToken line c (digits ++ rest) =
      .ok ⟨.integer, String.ofList (c :: digits), rest, line⟩ := by
  have digit := isDigit_of_ascii (decimal c (by simp))
  have numeral := @scanNumeral_append line rest c digits decimal stop
  rw [List.cons_append] at numeral
  simp [scanToken, digit, numeral]

theorem closeLiteral_plain [Host] {quote : Char} {opened : Nat} {body taken : List Char}
    (plain : isPlain quote body = true) (quoted : quote ≠ '\\') :
    closeLiteral [] (.text quote opened) line taken (body ++ quote :: rest) =
      .ok ⟨taken.reverse ++ body, rest, line⟩ := by
  induction body generalizing taken with
  | nil =>
    rw [closeLiteral.eq_def]
    simp [quoted]
  | cons c body ih =>
    simp only [isPlain, List.all_cons, Bool.and_eq_true, decide_eq_true_eq] at plain ih
    obtain ⟨⟨⟨⟨notQuote, notEscape⟩, notMark⟩, notBreak⟩, more⟩ := plain
    rw [closeLiteral.eq_def]
    simp only [List.cons_append, notEscape, notQuote, notMark, if_false, lineAfter, notBreak,
      ih more, List.reverse_cons, List.append_assoc, List.nil_append]

theorem scanQuoted_plain [Host] {quote : Char} {body : List Char} (plain : isPlain quote body = true)
    (quoted : quote ≠ '\\') (stop : ∀ c ∈ rest.head?, c ≠ quote) :
    scanQuoted quote line (body ++ quote :: rest) = .ok ⟨body, rest, line⟩ := by
  -- Two more quotes would open a heredoc.
  have noHeredoc : ∀ second third more, body ++ quote :: rest = second :: third :: more →
      ¬(second = quote ∧ third = quote) := by
    intro second third more found heredoc
    cases body with
    | nil =>
      obtain ⟨-, tail⟩ := List.cons.inj found
      exact stop third (by rw [tail]; rfl) heredoc.2
    | cons c body =>
      simp only [isPlain, List.all_cons, Bool.and_eq_true, decide_eq_true_eq] at plain
      exact plain.1.1.1.1 ((List.cons.inj found).1.trans heredoc.1)
  have closed : closeLiteral [] (.text quote line) line [] (body ++ quote :: rest) =
      .ok ⟨body, rest, line⟩ := closeLiteral_plain plain quoted
  unfold scanQuoted
  split
  · next second third more found =>
    rw [if_neg (noHeredoc second third more found), closed]
  · exact closed

theorem scanQuotedToken_plain [Host] (kind : Kind) (line : Nat) {quote : Char} {body : List Char}
    (plain : isPlain quote body = true) (quoted : quote ≠ '\\')
    (stop : ∀ c ∈ rest.head?, c ≠ quote ∧ c ≠ ':') :
    scanQuotedToken kind quote line (body ++ quote :: rest) =
      .ok ⟨kind, String.ofList body, rest, line⟩ := by
  have noKey := startsKey_eq_false fun c member => (stop c member).2
  simp [scanQuotedToken, scanQuoted_plain plain quoted fun c member => (stop c member).1, keyOr,
    noKey, bind, Except.bind, pure, Except.pure]

/-- Nothing that the text goes on with makes another operator out of the one it starts with. -/
theorem isPrefixOf_append_stop {operator candidate : List Char}
    (stop : ∀ c ∈ rest.head?, c ∉ candidate) :
    candidate.isPrefixOf (operator ++ rest) = candidate.isPrefixOf operator := by
  rw [Bool.eq_iff_iff, List.isPrefixOf_iff_prefix, List.isPrefixOf_iff_prefix]
  constructor
  · intro found
    by_cases short : candidate.length ≤ operator.length
    · exact List.prefix_of_prefix_length_le found (List.prefix_append _ _) short
    · -- A longer candidate would reach into the rest.
      obtain ⟨more, rfl⟩ := List.prefix_of_prefix_length_le (List.prefix_append operator rest) found
        (by omega)
      rw [List.prefix_append_right_inj] at found
      cases more with
      | nil => simp at short
      | cons c more =>
        obtain ⟨tail, rfl⟩ := found
        exact absurd (by simp) (stop c rfl)
  · intro found
    exact found.trans (List.prefix_append _ _)

theorem firstOperator_append {operator : String} (known : operator ∈ operators)
    (stop : ∀ c ∈ rest.head?, isOperatorChar c = false) :
    firstOperator operators (operator.toList ++ rest) = some operator := by
  have first : ∀ op ∈ operators,
      operators.find? (fun candidate => candidate.toList.isPrefixOf op.toList) = some op := by
    decide +kernel
  rw [firstOperator, ← first operator known, ← List.head?_filter, ← List.head?_filter]
  congr 1
  apply List.filter_congr
  intro candidate member
  apply isPrefixOf_append_stop
  intro c head inside
  have outside := stop c head
  simp only [isOperatorChar, List.any_eq_false, List.contains_eq_mem, decide_eq_true_eq] at outside
  exact outside candidate member inside

def startsOperator : List Char → Bool
  | [] => false
  | c :: rest =>
    !Text.isDigit c && !isIdentifierStart c && !Text.isLetter c && c ≠ '"' && c ≠ '\'' && c ≠ ':' &&
      !punctuation.contains c && c ≠ '?' && (c ≠ '~' || rest.head?.any (!Text.isLetter ·))

theorem scanToken_symbol [Host] {c : Char} {more : List Char}
    (start : startsOperator (c :: more) = true) :
    scanToken line c (more ++ rest) = scanOperator line c (more ++ rest) := by
  simp only [startsOperator, Bool.and_eq_true, Bool.not_eq_true', decide_eq_true_eq,
    List.contains_eq_mem, decide_eq_false_iff_not] at start
  obtain ⟨⟨⟨⟨⟨⟨⟨⟨digit, identifier⟩, letter⟩, string⟩, charlist⟩, colon⟩, mark⟩, question⟩, tilde⟩ := start
  unfold scanToken
  simp only [digit, identifier, letter, string, charlist, colon, mark, question, Bool.false_eq_true,
    if_false]
  cases more with
  | nil =>
    have plain : c ≠ '~' := by simpa using tilde
    split <;> simp_all
  | cons d more =>
    have plain : (decide (c = '~') && Text.isLetter d) = false := by
      simp only [List.head?_cons, Option.any_some, Bool.or_eq_true, decide_eq_true_eq,
        Bool.not_eq_true'] at tilde
      rcases tilde with other | other <;> simp [other]
    simp [plain]

theorem scanToken_operator [Host] {c : Char} {more : List Char}
    (known : String.ofList (c :: more) ∈ operators)
    (stop : ∀ d ∈ rest.head?, isOperatorChar d = false) :
    scanToken line c (more ++ rest) =
      .ok ⟨.operator, String.ofList (c :: more), rest, line⟩ := by
  by_cases colon : c :: more = [':', ':']
  · -- The double colon is read like an atom without a name.
    cases colon
    simp [scanToken, scanColon, show Text.isDigit ':' = false by decide,
      show isIdentifierStart ':' = false by decide, show Text.isLetter ':' = false by decide]
  · have starts : ∀ op ∈ operators, op.toList = [':', ':'] ∨ startsOperator op.toList = true := by
      decide +kernel
    have start := (starts _ known).resolve_left (by simpa using colon)
    have found := firstOperator_append known stop
    rw [String.toList_ofList] at start found
    have rested : (c :: more ++ rest).drop (String.ofList (c :: more)).length = rest := by
      rw [String.length_ofList]
      exact List.drop_left
    rw [scanToken_symbol start, scanOperator, ← List.cons_append, found]
    simp only [rested]

end Scanning

def beginsGap : List Char → Bool
  | [] => false
  | c :: rest => c = '\n' || isBlank c || c = '#' || (c = '\\' && rest.head? = some '\n')

theorem beginsGap_append {first : List Char} (rest : List Char) (long : first ≠ [])
    (escaped : first ≠ ['\\']) : beginsGap (first ++ rest) = beginsGap first := by
  match first, long, escaped with
  | [c], _, escaped =>
    have plain : c ≠ '\\' := by simpa using escaped
    simp [beginsGap, plain]
  | c :: d :: more, _, _ => simp [beginsGap]

def gapStarts : List Char := ['\n', ' ', '\t', '\x0c', '\x0b', '#', '\\']

theorem beginsGap_eq_false {p : Char → Bool} (none : gapStarts.any p = false) {c : Char}
    {rest : List Char} (holds : p c = true) : beginsGap (c :: rest) = false := by
  have others : ∀ d ∈ gapStarts, c ≠ d := by
    rintro d member rfl
    exact List.any_eq_false.mp none c member holds
  simp only [gapStarts, List.mem_cons, List.not_mem_nil, or_false, forall_eq_or_imp,
    forall_eq] at others
  simp [beginsGap, isBlank, others]

theorem beginsGap_word {c : Char} {rest : List Char} (start : isWordStart c = true) :
    beginsGap (c :: rest) = false :=
  beginsGap_eq_false (by decide) start

theorem skipGap_stop {gap : Gap} {line : Nat} {chars : List Char} (stop : beginsGap chars = false) :
    skipGap false gap line chars = ⟨gap, line, chars⟩ := by
  cases chars with
  | nil => rfl
  | cons c rest =>
    simp only [beginsGap, Bool.or_eq_false_iff, decide_eq_false_iff_not, Bool.and_eq_false_iff] at stop
    obtain ⟨⟨⟨notBreak, notBlank⟩, notComment⟩, notContinued⟩ := stop
    rw [skipGap.eq_def]
    simp only [notBreak, notBlank, notComment, if_false, Bool.false_eq_true]
    rcases notContinued with plain | plain
    · simp [plain]
    · by_cases escape : c = '\\'
      · cases rest with
        | nil => simp [escape]
        | cons d rest => simp_all
      · simp [escape]

theorem skipGap_gapBefore (line : Nat) {token : Token} {chars : List Char}
    (wide : token.newlineBefore = true → token.spaceBefore = true)
    (stop : beginsGap chars = false) :
    skipGap false Gap.none line (token.gapBefore ++ chars) =
      ⟨⟨token.spaceBefore, token.newlineBefore⟩, if token.newlineBefore then line + 1 else line,
        chars⟩ := by
  unfold gapBefore
  split
  · next broken =>
    rw [List.singleton_append, skipGap.eq_def]
    simp [skipGap_stop stop, Gap.addNewline, wide broken, broken]
  split
  · next unbroken spaced =>
    rw [List.singleton_append, skipGap.eq_def]
    simp [isBlank, skipGap_stop stop, Gap.addSpace, Gap.none, spaced, unbroken]
  · next unbroken adjacent =>
    simp [skipGap_stop stop, Gap.none, adjacent, unbroken]

def ScansTo [Host] (chars : List Char) (kind : Kind) (text : String) (rest : List Char) : Prop :=
  ∃ c more, chars = c :: more ∧ beginsGap (c :: (more ++ rest)) = false ∧
    ∀ line, scanToken line c (more ++ rest) = .ok ⟨kind, text, rest, line⟩

theorem scansTo_identifier [Host] {text : String} {kind : Kind} {rest : List Char}
    (start : text.toList.head?.any isIdentifierStart = true) (isword : isWord text.toList = true)
    (kinded : wordKind text = kind) (stop : ∀ c ∈ rest.head?, continuesWord c = false) :
    ScansTo text.toList kind text rest := by
  cases chars : text.toList with
  | nil => simp [chars] at start
  | cons c word =>
    rw [chars] at start isword
    have text_eq : String.ofList (c :: word) = text := by rw [← chars, String.ofList_toList]
    have identifier : isIdentifierStart c = true := by simpa using start
    have begins := isWordStart_of_isIdentifierStart identifier
    refine ⟨c, word, rfl, beginsGap_word begins, fun line => ?_⟩
    rw [scanToken_bareWord begins isword stop]
    simp [identifier, text_eq, kinded]

theorem scansTo_alias [Host] {text : String} {rest : List Char}
    (start : text.toList.head?.any (fun c => Text.isLetter c && !isIdentifierStart c) = true)
    (isword : isWord text.toList = true) (stop : ∀ c ∈ rest.head?, continuesWord c = false) :
    ScansTo text.toList .alias text rest := by
  cases chars : text.toList with
  | nil => simp [chars] at start
  | cons c word =>
    rw [chars] at start isword
    have text_eq : String.ofList (c :: word) = text := by rw [← chars, String.ofList_toList]
    obtain ⟨letter, capital⟩ : Text.isLetter c = true ∧ isIdentifierStart c = false := by
      simpa using start
    have begins : isWordStart c = true := by simp [isWordStart, letter]
    refine ⟨c, word, rfl, beginsGap_word begins, fun line => ?_⟩
    rw [scanToken_bareWord begins isword stop]
    simp [capital, text_eq]

theorem scansTo_key [Host] {text : String} {rest : List Char}
    (start : text.toList.head?.any isWordStart = true) (isword : isWord text.toList = true)
    (blank : ∀ c ∈ rest.head?, c = ' ' ∨ c = '\t' ∨ c = '\n') :
    ScansTo (text.toList ++ [':']) .key text rest := by
  cases chars : text.toList with
  | nil => simp [chars] at start
  | cons c word =>
    rw [chars] at start isword
    have text_eq : String.ofList (c :: word) = text := by rw [← chars, String.ofList_toList]
    have begins : isWordStart c = true := by simpa using start
    refine ⟨c, word ++ [':'], rfl, beginsGap_word begins, fun line => ?_⟩
    rw [List.append_assoc, List.singleton_append, scanToken_key begins isword blank, text_eq]

theorem scansTo_atom [Host] {text : String} {rest : List Char}
    (start : text.toList.head?.any isWordStart = true) (isword : isWord text.toList = true)
    (stop : ∀ c ∈ rest.head?, continuesWord c = false ∧ c ≠ '.') :
    ScansTo (':' :: text.toList) .atom text rest := by
  cases chars : text.toList with
  | nil => simp [chars] at start
  | cons c word =>
    rw [chars] at start isword
    have text_eq : String.ofList (c :: word) = text := by rw [← chars, String.ofList_toList]
    have begins : isWordStart c = true := by simpa using start
    refine ⟨':', c :: word, rfl, by simp [beginsGap, isBlank], fun line => ?_⟩
    rw [scanToken_atom begins isword stop, text_eq]

theorem scansTo_integer [Host] {text : String} {rest : List Char} (nonempty : text.toList ≠ [])
    (decimal : text.toList.all Char.isDigit = true)
    (stop : ∀ c ∈ rest.head?, Text.isWordChar c = false ∧ c ≠ '.') :
    ScansTo text.toList .integer text rest := by
  cases chars : text.toList with
  | nil => exact absurd chars nonempty
  | cons c digits =>
    rw [chars] at decimal
    have text_eq : String.ofList (c :: digits) = text := by rw [← chars, String.ofList_toList]
    have all := List.all_eq_true.mp decimal
    refine ⟨c, digits, rfl, beginsGap_eq_false (p := Char.isDigit) (by decide) (all c (by simp)),
      fun line => ?_⟩
    rw [scanToken_integer all stop, text_eq]

theorem scansTo_operator [Host] {text : String} {rest : List Char} (known : text ∈ operators)
    (stop : ∀ c ∈ rest.head?, isOperatorChar c = false) : ScansTo text.toList .operator text rest := by
  have shapes : ∀ op ∈ operators,
      op.toList ≠ [] ∧ op.toList ≠ ['\\'] ∧ beginsGap op.toList = false := by decide +kernel
  obtain ⟨nonempty, escaped, opens⟩ := shapes text known
  have apart := beginsGap_append rest nonempty escaped
  cases chars : text.toList with
  | nil => exact absurd chars nonempty
  | cons c more =>
    rw [opens, chars] at apart
    have text_eq : String.ofList (c :: more) = text := by rw [← chars, String.ofList_toList]
    refine ⟨c, more, rfl, apart, fun line => ?_⟩
    rw [scanToken_operator (text_eq ▸ known) stop, text_eq]

theorem scansTo_string [Host] {text : String} {rest : List Char} (plain : isPlain '"' text.toList = true)
    (stop : ∀ c ∈ rest.head?, c ≠ '"' ∧ c ≠ ':') :
    ScansTo ('"' :: text.toList ++ ['"']) .string text rest := by
  refine ⟨'"', text.toList ++ ['"'], rfl, by simp [beginsGap, isBlank], fun line => ?_⟩
  have quoted := scanQuotedToken_plain .string line plain (by decide) stop
  rw [String.ofList_toList] at quoted
  simpa [scanToken, show Text.isDigit '"' = false by decide,
    show isIdentifierStart '"' = false by decide, show Text.isLetter '"' = false by decide]
    using quoted

theorem scansTo_charlist [Host] {text : String} {rest : List Char}
    (plain : isPlain '\'' text.toList = true) (stop : ∀ c ∈ rest.head?, c ≠ '\'' ∧ c ≠ ':') :
    ScansTo ('\'' :: text.toList ++ ['\'']) .charlist text rest := by
  refine ⟨'\'', text.toList ++ ['\''], rfl, by simp [beginsGap, isBlank], fun line => ?_⟩
  have quoted := scanQuotedToken_plain .charlist line plain (by decide) stop
  rw [String.ofList_toList] at quoted
  simpa [scanToken, show Text.isDigit '\'' = false by decide,
    show isIdentifierStart '\'' = false by decide, show Text.isLetter '\'' = false by decide]
    using quoted

theorem scansTo_punctuation [Host] {c : Char} {rest : List Char} (mark : c ∈ punctuation) :
    ScansTo [c] .punctuation c.toString rest :=
  ⟨c, [], rfl, beginsGap_eq_false (p := punctuation.contains) (by decide) (by simpa using mark),
    fun _ => scanToken_punctuation mark⟩

/-- A token is scanned from its spelling, whatever follows that leaves it as it is. -/
theorem scansTo_spelling [Host] {token : Token} (spelled : token.Spelled) {rest : List Char}
    (bounded : token.Bounded rest) : ScansTo token.spelling token.kind token.text rest := by
  obtain ⟨kind, text, line, space, newline⟩ := token
  cases kind with
  | identifier => exact scansTo_identifier spelled.1 spelled.2.1 spelled.2.2 bounded
  | keyword => exact scansTo_identifier spelled.1 spelled.2.1 spelled.2.2 bounded
  | literal => exact scansTo_identifier spelled.1 spelled.2.1 spelled.2.2 bounded
  | «alias» => exact scansTo_alias spelled.1 spelled.2 bounded
  | key =>
    apply scansTo_key spelled.1 spelled.2
    intro c head
    have blank : absorbs _ c = false := bounded c head
    simp only [absorbs, Bool.not_eq_false', Bool.or_eq_true, decide_eq_true_eq] at blank
    exact or_assoc.mp blank
  | atom =>
    apply scansTo_atom spelled.1 spelled.2
    intro c head
    simpa [absorbs] using bounded c head
  | integer =>
    apply scansTo_integer spelled.1 spelled.2
    intro c head
    simpa [absorbs] using bounded c head
  | string =>
    apply scansTo_string spelled
    intro c head
    simpa [absorbs] using bounded c head
  | charlist =>
    apply scansTo_charlist spelled
    intro c head
    simpa [absorbs] using bounded c head
  | punctuation =>
    obtain ⟨c, mark, rfl⟩ := spelled
    have single : c.toString.toList = [c] := by simp
    simpa only [spelling, single] using scansTo_punctuation mark
  | operator =>
    by_cases word : text ∈ wordOperators
    · have shapes : ∀ op ∈ wordOperators, op.toList.head?.any isIdentifierStart = true ∧
          isWord op.toList = true ∧ wordKind op = .operator := by decide +kernel
      obtain ⟨start, isword, kinded⟩ := shapes text word
      apply scansTo_identifier start isword kinded
      intro c head
      simpa [absorbs, word] using bounded c head
    · apply scansTo_operator (spelled.resolve_right word)
      intro c head
      simpa [absorbs, word] using bounded c head
  | float => exact spelled.elim
  | sigil => exact spelled.elim

def leading (token : Token) : Option Char := (token.gapBefore ++ token.spelling).head?

def Divided (first second : Token) : Prop := ∀ c ∈ second.leading, first.absorbs c = false

def Lined : Nat → List Token → Prop
  | _, [] => True
  | line, token :: rest =>
    token.line = (if token.newlineBefore then line + 1 else line) ∧
      (token.newlineBefore = true → token.spaceBefore = true) ∧ Lined token.line rest

theorem spelling_ne_nil [Host] {token : Token} (spelled : token.Spelled) : token.spelling ≠ [] := by
  have alone : token.Bounded [] := by simp [Bounded]
  obtain ⟨c, more, shape, -⟩ := scansTo_spelling spelled alone
  simp [shape]

theorem written_cons (token : Token) (tokens : List Token) :
    written (token :: tokens) = token.gapBefore ++ (token.spelling ++ written tokens) := by
  simp [written]

theorem bounded_written [Host] {token : Token} {rest : List Token} (spelled : ∀ t ∈ rest, t.Spelled)
    (divided : ∀ next ∈ rest.head?, Divided token next) : token.Bounded (written rest) := by
  intro c head
  cases rest with
  | nil => simp [written] at head
  | cons next rest =>
    apply divided next rfl
    have nonempty := spelling_ne_nil (spelled next (by simp))
    rw [written_cons, ← List.append_assoc] at head
    cases start : next.gapBefore ++ next.spelling with
    | nil => simp [nonempty] at start
    | cons d more =>
      rw [start] at head
      simpa [leading, start] using head

theorem scanFrom_end [Host] {line here : Nat} {chars : List Char} {gap : Gap}
    (skipped : skipGap false Gap.none line chars = ⟨gap, here, []⟩) : scanFrom line chars = .ok [] := by
  rw [scanFrom]
  split
  · rfl
  · next other =>
    rw [skipped] at other
    cases other

theorem scanFrom_failed [Host] {line here : Nat} {chars rest : List Char} {gap : Gap} {c : Char} {fault : Source.Fault}
    (skipped : skipGap false Gap.none line chars = ⟨gap, here, c :: rest⟩)
    (failed : scanToken here c rest = .error fault) : scanFrom line chars = .error fault := by
  rw [scanFrom]
  split
  · next other =>
    rw [skipped] at other
    cases other
  · next other =>
    rw [skipped] at other
    cases other
    split
    · next again =>
      rw [failed] at again
      cases again
      rfl
    · next given =>
      rw [failed] at given
      cases given

theorem scanFrom_step [Host] {line here : Nat} {chars rest : List Char} {gap : Gap} {c : Char}
    {lexeme : Lexeme} (skipped : skipGap false Gap.none line chars = ⟨gap, here, c :: rest⟩)
    (scanned : scanToken here c rest = .ok lexeme) :
    scanFrom line chars = (scanFrom lexeme.line lexeme.rest).map
      (⟨lexeme.kind, lexeme.text, here, gap.space, gap.newline⟩ :: ·) := by
  rw [scanFrom]
  split
  · next found => simp [found] at skipped
  · next found =>
    rw [skipped] at found
    cases found
    split
    · next failed => simp [failed] at scanned
    · next other =>
      rw [scanned] at other
      cases other
      split <;> next result => simp [result, Except.map]

theorem scanFrom_written [Host] {line : Nat} {tokens : List Token} (spelled : ∀ t ∈ tokens, t.Spelled)
    (divided : tokens.IsChain Divided) (lined : Lined line tokens) :
    scanFrom line (written tokens) = .ok tokens := by
  induction tokens generalizing line with
  | nil => simp [written, scanFrom, skipGap]
  | cons token rest ih =>
    obtain ⟨here, wide, lines⟩ := lined
    have bounded := bounded_written (fun t member => spelled t (List.mem_cons_of_mem _ member))
      (List.isChain_cons.mp divided).1
    obtain ⟨c, more, shape, opens, scanned⟩ := scansTo_spelling (spelled token (by simp)) bounded
    have later := ih (fun t member => spelled t (List.mem_cons_of_mem _ member))
      (List.isChain_cons.mp divided).2 lines
    have skipped := skipGap_gapBefore line wide opens
    rw [written_cons, shape, List.cons_append, scanFrom_step skipped (scanned _)]
    simp only [← here, later]
    rfl

/-- A text without carriage returns or without line feeds has no line break to unify. -/
theorem unifyBreaks_eq_self {chars : List Char} (absent : '\r' ∉ chars ∨ '\n' ∉ chars) :
    unifyBreaks chars = chars := by
  fun_induction unifyBreaks chars with
  | case1 => rfl
  | case2 => rfl
  | case3 c d rest both => simp [both] at absent
  | case4 c d rest other ih =>
    rw [ih (by simp only [List.mem_cons, not_or] at absent ⊢; tauto)]

end BoundaryLint.Token
