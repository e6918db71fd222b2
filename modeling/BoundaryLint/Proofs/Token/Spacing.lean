import BoundaryLint.Proofs.Token.Writing

/-!
Rows of tokens that are written apart: between any two of them stands a gap or punctuation, or the
characters of the second cannot continue the first.
-/

namespace BoundaryLint.Token

section Neighbours

variable {first second : Token}

/-- The characters that no token takes in; a key takes in all but the blanks. -/
theorem absorbs_eq_false {token : Token} (spelled : token.Spelled) {c : Char}
    (separates : c ∈ [' ', '\n'] ∨ c ∈ punctuation ∧ token.kind ≠ .key) : token.absorbs c = false := by
  have apart : ∀ d ∈ [' ', '\n'] ++ punctuation, continuesWord d = false ∧ isOperatorChar d = false ∧
      Text.isWordChar d = false ∧ d ≠ '.' ∧ d ≠ ':' ∧ d ≠ '"' ∧ d ≠ '\'' := forall_mem_of_all (by decide)
  have outside := apart c (List.mem_append.mpr (separates.imp id And.left))
  obtain ⟨kind, text, line, space, newline⟩ := token
  cases kind with
  | float => exact spelled.elim
  | sigil => exact spelled.elim
  | punctuation => rfl
  | key =>
    have blank : c ∈ [' ', '\n'] := separates.resolve_right fun mark => mark.2 rfl
    simp only [List.mem_cons, List.not_mem_nil, or_false] at blank
    rcases blank with rfl | rfl <;> rfl
  | _ => simp [absorbs, outside]

/-- A gap keeps any two tokens apart. -/
theorem divided_of_gap (spelled : first.Spelled)
    (gap : (second.newlineBefore || second.spaceBefore) = true) : Divided first second := by
  intro c head
  apply absorbs_eq_false spelled
  left
  simp only [leading, gapBefore] at head
  split at head
  · obtain rfl : '\n' = c := by simpa using head
    simp
  · next unbroken =>
    have spaced : second.spaceBefore = true := by simpa [unbroken] using gap
    obtain rfl : ' ' = c := by simpa [spaced] using head
    simp

theorem divided_of_punctuation_left (mark : first.kind = .punctuation) : Divided first second := by
  intro c _
  simp [absorbs, mark]

/-- Punctuation may stand right behind every token but a key. -/
theorem divided_of_punctuation_right (spelled : first.Spelled) (notKey : first.kind ≠ .key)
    (mark : second.kind = .punctuation) (known : second.Spelled) : Divided first second := by
  by_cases gap : (second.newlineBefore || second.spaceBefore) = true
  · exact divided_of_gap spelled gap
  · simp only [Bool.or_eq_true, not_or, Bool.not_eq_true] at gap
    simp only [Spelled, mark] at known
    obtain ⟨written, listed, text⟩ := known
    intro c head
    simp only [leading, gapBefore, gap.1, gap.2, Bool.false_eq_true, if_false, List.nil_append, spelling, mark,
      text, Char.toString, String.toList_singleton] at head
    obtain rfl : written = c := by simpa using head
    exact absorbs_eq_false spelled (.inr ⟨listed, notKey⟩)

theorem isOperatorChar_eq_false {c : Char} (start : isWordStart c = true) : isOperatorChar c = false := by
  have apart : ∀ op ∈ operators, op.toList.any isWordStart = false := by decide +kernel
  simp only [isOperatorChar, List.any_eq_false, List.contains_eq_mem, decide_eq_true_eq]
  intro op listed inside
  exact List.any_eq_false.mp (apart op listed) c inside start

theorem divided_of_name (symbol : first.kind = .operator) (bare : first.text ∉ wordOperators)
    (name : second.kind = .identifier ∨ second.kind = .alias) (spelled : second.Spelled)
    (adjacent : second.newlineBefore = false ∧ second.spaceBefore = false) : Divided first second := by
  intro c head
  simp only [leading, gapBefore, adjacent.1, adjacent.2, Bool.false_eq_true, if_false, List.nil_append] at head
  have start : isWordStart c = true := by
    obtain ⟨kind, text, line, space, newline⟩ := second
    have first : text.toList.head? = some c := by rcases name with rfl | rfl <;> exact head
    rcases name with rfl | rfl
    · have word := spelled.1
      rw [first] at word
      exact isWordStart_of_isIdentifierStart (by simpa using word)
    · have word := spelled.1
      rw [first] at word
      have letter : Text.isLetter c = true ∧ isIdentifierStart c = false := by simpa using word
      simp [isWordStart, letter.1]
  simp [absorbs, symbol, bare, isOperatorChar_eq_false start]

theorem divided_of_point (name : first.kind = .alias) (point : second.is .operator "." = true)
    (adjacent : second.newlineBefore = false ∧ second.spaceBefore = false) : Divided first second := by
  simp only [is, Bool.and_eq_true, beq_iff_eq] at point
  intro c head
  simp only [leading, gapBefore, adjacent.1, adjacent.2, Bool.false_eq_true, if_false, List.nil_append, spelling,
    point.1, point.2] at head
  obtain rfl : '.' = c := by simpa using head
  simp only [absorbs, name]
  decide

end Neighbours

structure Tidy (tokens : List Token) : Prop where
  spelled : ∀ token ∈ tokens, token.Spelled
  divided : tokens.IsChain Divided
  ends : ∀ token ∈ tokens.getLast?, token.kind ≠ .key

def Spaced (tokens : List Token) : Prop :=
  ∀ token ∈ tokens.head?, (token.newlineBefore || token.spaceBefore) = true ∨ token.kind = .punctuation

namespace Tidy

variable {tokens : List Token} {token : Token}

theorem nil : Tidy [] := ⟨by simp, .nil, by simp⟩

theorem singleton (spelled : token.Spelled) (notKey : token.kind ≠ .key) : Tidy [token] :=
  ⟨by simpa using spelled, .singleton token, by simpa using notKey⟩

theorem append {first second : List Token} (left : Tidy first) (right : Tidy second)
    (spaced : Spaced second) : Tidy (first ++ second) where
  spelled token member := (List.mem_append.mp member).elim (left.spelled token) (right.spelled token)
  divided := by
    refine List.isChain_append.mpr ⟨left.divided, right.divided, fun last final head begins => ?_⟩
    have known := left.spelled last (List.mem_of_getLast? final)
    rcases spaced head begins with gap | mark
    · exact divided_of_gap known gap
    · exact divided_of_punctuation_right known (left.ends last final) mark
        (right.spelled head (List.mem_of_mem_head? begins))
  ends token final := by
    rw [List.getLast?_append] at final
    cases final' : second.getLast? with
    | none =>
      rw [final'] at final
      exact left.ends token final
    | some last =>
      rw [final'] at final
      obtain rfl : last = token := by simpa using final
      exact right.ends last final'

theorem cons (spelled : token.Spelled) (notKey : token.kind ≠ .key)
    (divided : ∀ head ∈ tokens.head?, Divided token head) (tidy : Tidy tokens) : Tidy (token :: tokens) where
  spelled := List.forall_mem_cons.mpr ⟨spelled, tidy.spelled⟩
  divided := List.isChain_cons.mpr ⟨divided, tidy.divided⟩
  ends last final := by
    cases tokens with
    | nil =>
      obtain rfl : token = last := by simpa using final
      exact notKey
    | cons head rest => exact tidy.ends last (by simpa using final)

theorem cons_mark (spelled : token.Spelled) (mark : token.kind = .punctuation) (tidy : Tidy tokens) :
    Tidy (token :: tokens) :=
  cons spelled (by simp [mark]) (fun _ _ => divided_of_punctuation_left mark) tidy

theorem cons_spaced (spelled : token.Spelled) (notKey : token.kind ≠ .key) (spaced : Spaced tokens)
    (tidy : Tidy tokens) : Tidy (token :: tokens) :=
  (singleton spelled notKey).append tidy spaced

/-- A key stands before a gap. -/
theorem cons_key (spelled : token.Spelled) (nonempty : tokens ≠ [])
    (gap : ∀ head ∈ tokens.head?, head.spaceBefore = true) (tidy : Tidy tokens) :
    Tidy (token :: tokens) where
  spelled := List.forall_mem_cons.mpr ⟨spelled, tidy.spelled⟩
  divided := List.isChain_cons.mpr ⟨fun head begins =>
    divided_of_gap spelled (by simp [gap head begins]), tidy.divided⟩
  ends last final := by
    obtain ⟨head, rest, rfl⟩ := List.exists_cons_of_ne_nil nonempty
    exact tidy.ends last (by simpa using final)

end Tidy

section Breaks

theorem mem_word {chars : List Char} (isword : isWord chars = true) {c : Char} (member : c ∈ chars) :
    Text.isWordChar c = true ∨ c = '?' ∨ c = '!' := by
  rw [← List.takeWhile_append_dropWhile (p := Text.isWordChar) (l := chars)] at member
  rcases List.mem_append.mp member with early | late
  · exact .inl (List.all_eq_true.mp List.all_takeWhile c early)
  · simp only [isWord, List.contains_eq_mem, List.mem_cons, List.not_mem_nil, or_false,
      decide_eq_true_eq] at isword
    rcases isword with done | done | done <;> simp_all

/-- No token is written with a line break in it, nor, outside of quotes, with a carriage return. -/
theorem not_mem_spelling {token : Token} (spelled : token.Spelled) {c : Char} (break_char : c ∈ ['\n', '\r'])
    (unquoted : c = '\n' ∨ token.kind ≠ .string ∧ token.kind ≠ .charlist) : c ∉ token.spelling := by
  have outside : ∀ d ∈ ['\n', '\r'], Text.isWordChar d = false ∧ d ∉ ['?', '!', ':', '"', '\''] ∧
      d.isDigit = false ∧ d ∉ punctuation ∧ (∀ op ∈ operators ++ wordOperators, d ∉ op.toList) :=
    forall_mem_of_all (by decide +kernel)
  obtain ⟨notWord, notMark, notDigit, notPunctuation, notOperator⟩ := outside c break_char
  simp only [List.mem_cons, List.not_mem_nil, or_false, not_or] at notMark
  have notInWord : ∀ {chars : List Char}, isWord chars = true → c ∉ chars := by
    intro chars isword member
    rcases mem_word isword member with word | rfl | rfl <;> simp_all
  obtain ⟨kind, text, line, space, newline⟩ := token
  cases kind with
  | identifier => exact notInWord spelled.2.1
  | keyword => exact notInWord spelled.2.1
  | literal => exact notInWord spelled.2.1
  | «alias» => exact notInWord spelled.2
  | key => simpa [spelling, notMark] using notInWord spelled.2
  | atom => simpa [spelling, notMark] using notInWord spelled.2
  | integer =>
    intro member
    have digit := List.all_eq_true.mp spelled.2 c member
    simp [notDigit] at digit
  | string =>
    obtain rfl := unquoted.resolve_right fun kinds => kinds.1 rfl
    have plain : isPlain '"' text.toList = true := spelled
    simp only [isPlain, List.all_eq_true, Bool.and_eq_true, decide_eq_true_eq] at plain
    simpa [spelling] using fun member => (plain '\n' member).2 rfl
  | charlist =>
    obtain rfl := unquoted.resolve_right fun kinds => kinds.2 rfl
    have plain : isPlain '\'' text.toList = true := spelled
    simp only [isPlain, List.all_eq_true, Bool.and_eq_true, decide_eq_true_eq] at plain
    simpa [spelling] using fun member => (plain '\n' member).2 rfl
  | punctuation =>
    obtain ⟨written, listed, shape⟩ := spelled
    simp only at shape
    simp only [spelling, shape, Char.toString, String.toList_singleton, List.mem_singleton]
    rintro rfl
    exact notPunctuation listed
  | operator => exact notOperator text (List.mem_append.mpr spelled)
  | float => exact spelled.elim
  | sigil => exact spelled.elim

/-- Tidy tokens are scanned back from what is written of them. -/
theorem scan_written [Host] {tokens : List Token} (tidy : Tidy tokens) (lined : Lined 1 tokens)
    (absent : '\r' ∉ written tokens ∨ '\n' ∉ written tokens) :
    scan (String.ofList (written tokens)) = .ok tokens := by
  rw [scan, String.toList_ofList, unifyBreaks_eq_self absent]
  exact scanFrom_written tidy.spelled tidy.divided lined

end Breaks

end BoundaryLint.Token
