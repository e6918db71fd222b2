import BoundaryLint.Proofs.Token.LiteralStep
import Mathlib

/-!
How far a token looks. Scanning a token looks at characters behind it, to see that it ends there, but it takes
no notice of what a gap consists of: a token stays what it is when the text behind it is changed from the next
gap on.
-/

namespace BoundaryLint.Token

/-- Two texts are equal up to where both begin a gap. -/
inductive Alike : List Char → List Char → Prop
  | nil : Alike [] []
  | gap {first second : List Char} (here : beginsGap first = true) (there : beginsGap second = true) :
    Alike first second
  | cons (c : Char) {first second : List Char} (rest : Alike first second) : Alike (c :: first) (c :: second)

section Texts

variable {first second : List Char}

theorem Alike.append (word : List Char) (alike : Alike first second) : Alike (word ++ first) (word ++ second) := by
  induction word with
  | nil => exact alike
  | cons c word ih => exact .cons c ih

theorem mem_gapStarts {c : Char} {rest : List Char} (begins : beginsGap (c :: rest) = true) : c ∈ gapStarts := by
  by_contra other
  have plain : beginsGap (c :: rest) = false :=
    beginsGap_eq_false (p := fun d => decide (d ∉ gapStarts)) (by decide) (by simpa using other)
  rw [plain] at begins
  cases begins

theorem head_of_beginsGap {p : Char → Bool} (none : gapStarts.any p = false) {chars : List Char}
    (begins : beginsGap chars = true) : chars.head?.any p = false := by
  cases chars with
  | nil => rfl
  | cons c rest =>
    have outside := List.any_eq_false.mp none c (mem_gapStarts begins)
    simpa using outside

/-- Characters that start no gap are seen before both texts or before none. -/
theorem Alike.head {p : Char → Bool} (none : gapStarts.any p = false) (alike : Alike first second) :
    second.head?.any p = first.head?.any p := by
  cases alike with
  | nil => rfl
  | gap here there => rw [head_of_beginsGap none here, head_of_beginsGap none there]
  | cons c rest => rfl

theorem Alike.of_nil (alike : Alike [] second) : second = [] := by
  cases alike with
  | nil => rfl
  | gap here there => cases here

theorem Alike.of_cons {c : Char} (plain : c ∉ gapStarts) (alike : Alike (c :: first) second) :
    ∃ rest, second = c :: rest ∧ Alike first rest := by
  cases alike with
  | gap here there => exact absurd (mem_gapStarts here) plain
  | cons c rest => exact ⟨_, rfl, rest⟩

theorem not_mem_gapStarts {p : Char → Bool} (none : gapStarts.any p = false) {c : Char} (holds : p c = true) :
    c ∉ gapStarts :=
  fun mem => List.any_eq_false.mp none c mem holds

theorem Alike.tail {c : Char} {rest : List Char} (plain : c ∉ gapStarts) (alike : Alike first (c :: rest)) :
    ∃ before, first = c :: before ∧ Alike before rest := by
  cases alike with
  | gap here there => exact absurd (mem_gapStarts there) plain
  | cons c rest => exact ⟨_, rfl, rest⟩

theorem Alike.startsPair_eq {p q : Char → Bool} (none : gapStarts.any p = false) (neither : gapStarts.any q = false)
    (alike : Alike first second) : startsPair p q second = startsPair p q first := by
  cases alike with
  | nil => rfl
  | gap here there =>
    have outside : ∀ chars, beginsGap chars = true → startsPair p q chars = false := by
      intro chars begins
      have head := head_of_beginsGap none begins
      cases chars with
      | nil => rfl
      | cons c rest =>
        rw [startsPair_cons]
        simp_all
    rw [outside first here, outside second there]
  | cons c rest => rw [startsPair_cons, startsPair_cons, rest.head neither]

end Texts

/-- A way to cut something off the front of a text that looks no further than to the next gap. -/
def Local (cut : List Char → List Char × List Char) : Prop :=
  ∀ chars, (cut chars).1 ++ (cut chars).2 = chars ∧
    ∀ rest, Alike (cut chars).2 rest → cut ((cut chars).1 ++ rest) = ((cut chars).1, rest)

section Cuts

theorem span_replaced {p : Char → Bool} (none : gapStarts.any p = false) {chars rest : List Char}
    (alike : Alike (chars.dropWhile p) rest) :
    (chars.takeWhile p ++ rest).takeWhile p = chars.takeWhile p ∧ (chars.takeWhile p ++ rest).dropWhile p = rest := by
  have inside : ∀ c ∈ chars.takeWhile p, p c = true := List.all_eq_true.mp List.all_takeWhile
  have before : (chars.dropWhile p).head?.any p = false := by
    cases left : chars.dropWhile p with
    | nil => rfl
    | cons c rest =>
      have stopped := List.head?_dropWhile_not p chars
      rw [left] at stopped
      simpa using stopped
  have stop : ∀ c ∈ rest.head?, p c = false := by
    have outside := alike.head none
    rw [before] at outside
    intro c head
    rw [head] at outside
    simpa using outside
  exact ⟨takeWhile_append_stop inside stop, dropWhile_append_stop inside stop⟩

theorem local_span {p : Char → Bool} (none : gapStarts.any p = false) :
    Local fun chars => (chars.takeWhile p, chars.dropWhile p) := by
  intro chars
  refine ⟨List.takeWhile_append_dropWhile, fun rest alike => ?_⟩
  obtain ⟨taken, left⟩ := span_replaced none alike
  simp only [taken, left]

theorem Local.append {cut next : List Char → List Char × List Char} (first : Local cut) (second : Local next) :
    Local fun chars => ((cut chars).1 ++ (next (cut chars).2).1, (next (cut chars).2).2) := by
  intro chars
  obtain ⟨whole, same⟩ := first chars
  obtain ⟨part, later⟩ := second (cut chars).2
  refine ⟨by rw [List.append_assoc, part, whole], ?_⟩
  intro rest alike
  have behind : Alike (cut chars).2 ((next (cut chars).2).1 ++ rest) := by
    rw [← part]
    simpa only [part] using alike.append (next (cut chars).2).1
  simp only [List.append_assoc, same _ behind, later rest alike]

theorem local_wordMark : Local wordMark := by
  have compares : ∀ {chars rest : List Char}, Alike chars rest →
      (rest.head? ≠ some '=' ↔ chars.head? ≠ some '=') := by
    intro chars rest alike
    have same := alike.head (p := fun c => decide (c = '=')) (by decide)
    cases chars <;> cases rest <;> simp_all
  intro chars
  fun_cases wordMark chars with
  | case1 =>
    refine ⟨rfl, fun rest alike => ?_⟩
    rw [alike.of_nil]
    rfl
  | case2 c after marked =>
    refine ⟨rfl, fun rest alike => ?_⟩
    simp [wordMark, marked.1, (compares alike).mpr marked.2]
  | case3 c after unmarked =>
    refine ⟨rfl, fun rest alike => ?_⟩
    fun_cases wordMark rest with
    | case1 => rfl
    | case2 d later marked =>
      have plain : d ∉ gapStarts := by rcases marked.1 with rfl | rfl <;> decide
      obtain ⟨before, same, behind⟩ := alike.tail plain
      cases same
      exact absurd ⟨marked.1, (compares behind).mp marked.2⟩ unmarked
    | case3 => rfl

theorem local_scanWord : Local scanWord := (local_span (by decide)).append local_wordMark

theorem local_scanExponent : Local scanExponent := by
  intro chars
  fun_cases scanExponent chars with
  | case1 =>
    refine ⟨rfl, fun rest alike => ?_⟩
    rw [alike.of_nil]
    rfl
  | case2 mark power =>
    refine ⟨rfl, fun rest alike => ?_⟩
    rw [alike.of_nil]
    simp [scanExponent, power]
  | case3 mark power c after signed =>
    refine ⟨by simp only [List.cons_append, List.takeWhile_append_dropWhile], fun rest alike => ?_⟩
    have digits := span_replaced (by decide) alike
    simp only [List.cons_append, scanExponent, if_pos power, signed, if_true, digits.1, digits.2]
  | case4 mark power c after unsigned =>
    -- A sign or digit behind the mark in the one text would be one in the other.
    refine ⟨rfl, fun rest alike => ?_⟩
    have plain : mark ∉ gapStarts := by rcases power with rfl | rfl <;> decide
    obtain ⟨later, rfl, behind⟩ := alike.of_cons plain
    have sign := behind.head (p := fun c => Text.isDigit c || c = '+' || c = '-') (by decide)
    cases later with
    | nil => cases behind; contradiction
    | cons d later => simp_all [scanExponent]
  | case5 mark after powerless =>
    refine ⟨rfl, fun rest alike => ?_⟩
    have power := alike.head (p := fun c => c = 'e' || c = 'E') (by decide)
    cases rest with
    | nil => rfl
    | cons d rest => simp_all [scanExponent]

theorem scanAtomTail_eq (chars : List Char) :
    scanAtomTail chars =
      if startsPair (· = '.') Text.isUppercase chars then
        let word := scanWord chars.tail
        ('.' :: word.1 ++ (scanAtomTail word.2).1, (scanAtomTail word.2).2)
      else ([], chars) := by
  fun_cases scanAtomTail chars with
  | case1 c rest upper =>
    rw [if_pos (by simp [startsPair, upper])]
    rfl
  | case2 c rest other => simp [startsPair, other]
  | case3 chars other =>
    have stop : startsPair (· = '.') Text.isUppercase chars = false := by
      cases chars with
      | nil => rfl
      | cons c after =>
        cases after with
        | nil => rfl
        | cons d rest =>
          have plain : c ≠ '.' := by
            rintro rfl
            exact other d rest rfl
          simp [startsPair, plain]
    simp [stop]

theorem local_scanAtomTail : Local scanAtomTail := by
  intro chars
  -- Along the recursion: each point with a capitalised word is one more cut in front of the tail.
  induction size : chars.length using Nat.strong_induction_on generalizing chars with
  | _ size ih =>
    rw [scanAtomTail_eq chars]
    split
    · next starts =>
      match chars, starts with
      | c :: d :: after, starts =>
        simp only [startsPair, Bool.and_eq_true, decide_eq_true_eq] at starts
        obtain ⟨rfl, upper⟩ := starts
        obtain ⟨whole, same⟩ := local_scanWord (d :: after)
        have shorter := scanWord_rest_le (d :: after)
        simp only [List.length_cons] at size shorter
        obtain ⟨part, later⟩ := ih _ (by omega) (scanWord (d :: after)).2 rfl
        simp only [List.tail_cons]
        refine ⟨by rw [List.cons_append, List.cons_append, List.append_assoc, part, whole], fun rest alike => ?_⟩
        have behind := part ▸ alike.append _
        have front := same _ behind
        obtain ⟨more, begins, _⟩ :=
          (whole ▸ behind.append _ : Alike (d :: after) _).of_cons (not_mem_gapStarts (by decide) upper)
        rw [scanAtomTail_eq, if_pos]
        · simp only [List.cons_append, List.append_assoc, List.tail_cons, front, later rest alike]
        · simp [startsPair, begins, upper]
    · next stops =>
      refine ⟨rfl, fun rest alike => ?_⟩
      rw [List.nil_append, scanAtomTail_eq, if_neg]
      rwa [alike.startsPair_eq (by decide) (by decide)]

theorem scanFraction_eq (chars : List Char) :
    scanFraction chars =
      if startsPair (· = '.') Text.isDigit chars then
        let power := scanExponent (chars.tail.dropWhile isNumeralChar)
        some ('.' :: (chars.tail.takeWhile isNumeralChar ++ power.1), power.2)
      else none := by
  match chars with
  | [] => rfl
  | [c] =>
    unfold scanFraction
    split
    · next same => cases same
    · rfl
  | c :: d :: rest =>
    by_cases point : c = '.'
    · subst point
      by_cases digit : Text.isDigit d = true
      · simp [scanFraction, startsPair, digit]
      · simp [scanFraction, startsPair, digit]
    · simp [scanFraction, startsPair, point]

theorem scanFraction_replaced {chars fraction after : List Char}
    (found : scanFraction chars = some (fraction, after)) :
    fraction ++ after = chars ∧
      ∀ rest, Alike after rest → scanFraction (fraction ++ rest) = some (fraction, rest) := by
  rw [scanFraction_eq] at found
  split at found
  · next starts =>
    match chars, starts with
    | c :: d :: more, starts =>
      simp only [startsPair, Bool.and_eq_true, decide_eq_true_eq] at starts
      obtain ⟨rfl, digit⟩ := starts
      cases found
      obtain ⟨whole, same⟩ := (local_span (p := isNumeralChar) (by decide)).append local_scanExponent (d :: more)
      simp only [List.tail_cons] at whole same ⊢
      refine ⟨by rw [List.cons_append, whole], fun rest alike => ?_⟩
      have cut := Prod.mk.inj (same rest alike)
      have first : isNumeralChar d = true := by simp [isNumeralChar, digit]
      rw [scanFraction_eq, if_pos]
      · simp only [List.cons_append, List.tail_cons, cut.1, cut.2]
      · simp [startsPair, List.takeWhile_cons_of_pos first, digit]
  · cases found

theorem Alike.isPrefixOf_eq {word first second : List Char} (plain : ∀ c ∈ word, c ∉ gapStarts)
    (alike : Alike first second) : word.isPrefixOf second = word.isPrefixOf first := by
  induction word generalizing first second with
  | nil => rfl
  | cons c word ih =>
    obtain ⟨outside, plain⟩ := List.forall_mem_cons.mp plain
    cases alike with
    | nil => rfl
    | gap here there =>
      have stops : ∀ chars, beginsGap chars = true → (c :: word).isPrefixOf chars = false := by
        intro chars begins
        cases chars with
        | nil => rfl
        | cons d rest =>
          have other : c ≠ d := by
            rintro rfl
            exact outside (mem_gapStarts begins)
          simp [List.isPrefixOf, other]
      rw [stops first here, stops second there]
    | cons d rest => simp only [List.isPrefixOf, ih plain rest]

theorem operator_long : ∀ operator ∈ bracketAtoms ++ operators, 0 < operator.length := by decide

/-- Only one operator has a character in it that can start a gap. -/
theorem backslash_operator : ∀ operator ∈ bracketAtoms ++ operators,
    operator = "\\\\" ∨ operator.toList.any gapStarts.contains = false := by
  decide

theorem firstOperator_replaced {candidates : List String} {chars : List Char} {operator : String}
    (known : candidates ⊆ bracketAtoms ++ operators) (found : firstOperator candidates chars = some operator) :
    ∃ after, chars = operator.toList ++ after ∧
      ∀ rest, Alike after rest → firstOperator candidates (operator.toList ++ rest) = some operator := by
  have member := known (List.mem_of_find?_eq_some found)
  have starts : operator.toList.isPrefixOf chars = true := by simpa using List.find?_some found
  obtain ⟨after, rfl⟩ := List.isPrefixOf_iff_prefix.mp starts
  refine ⟨after, rfl, fun rest alike => ?_⟩
  rw [← found]
  apply List.find?_congr
  intro candidate listed
  rcases backslash_operator candidate (known listed) with rfl | plain
  · rcases backslash_operator operator member with rfl | other
    · rfl
    · have long := operator_long operator member
      cases shape : operator.toList with
      | nil => simp [← String.length_toList, shape] at long
      | cons c more =>
        have differs : '\\' ≠ c := by
          rintro rfl
          rw [shape] at other
          revert other
          simp [gapStarts]
        simp [List.isPrefixOf, beq_false_of_ne differs]
  · refine (alike.append _).isPrefixOf_eq fun c inside => ?_
    simpa using List.any_eq_false.mp plain c inside

end Cuts

section Literals

inductive Open.Same : Open → Open → Prop
  | text (quote : Char) (line other : Nat) : Same (.text quote line) (.text quote other)
  | heredoc (quote : Char) (line other : Nat) : Same (.heredoc quote line) (.heredoc quote other)
  | interpolation (depth line other : Nat) : Same (.interpolation depth line) (.interpolation depth other)

def Open.closing : Open → Nat
  | .text _ _ | .interpolation _ _ => 1
  | .heredoc _ _ => 3

/-- The literal is closed by the characters ahead, whatever stands behind it. They are enough to close all that is
open, so no look at the next two characters goes beyond them. -/
def LiteralAhead [Host] (around : List Open) (inner : Open) (taken chars : List Char) (body : Body) : Prop :=
  ∃ used, chars = used ++ body.rest ∧ inner.closing + around.length ≤ used.length ∧
    ∀ outside inside line rest, List.Forall₂ Open.Same around outside → Open.Same inner inside →
      ∃ after, closeLiteral outside inside line taken (used ++ rest) = .ok ⟨body.chars, rest, after⟩

@[simp] theorem Open.closing_text (quote : Char) (line : Nat) : (Open.text quote line).closing = 1 := rfl

@[simp] theorem Open.closing_heredoc (quote : Char) (line : Nat) : (Open.heredoc quote line).closing = 3 := rfl

@[simp] theorem Open.closing_interpolation (depth line : Nat) : (Open.interpolation depth line).closing = 1 := rfl

theorem Open.one_le_closing (inner : Open) : 1 ≤ inner.closing := by
  cases inner <;> simp

theorem LiteralAhead.step [Host] {around further : List Open} {inner next : Open} {taken more chars : List Char}
    {body : Body} (front : List Char)
    (enough : inner.closing + around.length ≤ next.closing + further.length + front.length)
    (ahead : LiteralAhead further next more chars body)
    (moves : ∀ used rest, chars = used ++ body.rest → next.closing + further.length ≤ used.length →
      ∀ outside inside line, List.Forall₂ Open.Same around outside → Open.Same inner inside →
        ∃ beyond within later, List.Forall₂ Open.Same further beyond ∧ Open.Same next within ∧
          closeLiteral outside inside line taken (front ++ (used ++ rest)) =
            closeLiteral beyond within later more (used ++ rest)) :
    LiteralAhead around inner taken (front ++ chars) body := by
  obtain ⟨used, split, long, again⟩ := ahead
  refine ⟨front ++ used, by rw [split, List.append_assoc], by rw [List.length_append]; omega, ?_⟩
  intro outside inside line rest apart same
  obtain ⟨beyond, within, later, apart, same, moved⟩ := moves used rest split long outside inside line apart same
  obtain ⟨after, given⟩ := again beyond within later rest apart same
  exact ⟨after, by rw [List.append_assoc, moved, given]⟩

namespace LiteralAhead

variable {around : List Open} {next : Open} {quote c : Char} {depth line opened : Nat} {taken rest : List Char}
  {body : Body}

theorem last [Host] (noEscape : quote ≠ '\\') :
    LiteralAhead [] (.text quote opened) taken (quote :: rest) ⟨taken.reverse, rest, line⟩ := by
  refine ⟨[quote], rfl, Nat.le_refl _, ?_⟩
  rintro outside inside later rest ⟨⟩ ⟨⟩
  exact ⟨later, closeLiteral_last noEscape⟩

theorem heredoc_last [Host] (unescaped : taken.head? ≠ some '\\') :
    LiteralAhead [] (.heredoc quote opened) taken (tripled quote ++ rest) ⟨taken.reverse, rest, line⟩ := by
  refine ⟨tripled quote, rfl, Nat.le_refl _, ?_⟩
  rintro outside inside later rest ⟨⟩ ⟨⟩
  exact ⟨later, by rw [closeLiteral.eq_def]; simp [tripled, unescaped]⟩

/-- One more character of the innermost thing that is open, or several that belong together. -/
theorem stay [Host] {inner next : Open} {more : List Char} (front : List Char)
    (least : inner.closing ≤ next.closing) (ahead : LiteralAhead around next more rest body)
    (moves : ∀ used behind, rest = used ++ body.rest → next.closing ≤ used.length →
      ∀ outside inside line, Open.Same inner inside → ∃ within later, Open.Same next within ∧
        closeLiteral outside inside line taken (front ++ (used ++ behind)) =
          closeLiteral outside within later more (used ++ behind)) :
    LiteralAhead around inner taken (front ++ rest) body := by
  refine .step front (by omega) ahead ?_
  intro used behind split long outside inside line apart same
  obtain ⟨within, later, kept, moved⟩ := moves used behind split (by omega) outside inside line same
  exact ⟨outside, within, later, apart, kept, moved⟩

/-- Something opens inside. -/
theorem push [Host] {inner next : Open} {more : List Char} (front : List Char) (least : inner.closing = 1)
    (ahead : LiteralAhead (inner :: around) next more rest body)
    (moves : ∀ used behind, rest = used ++ body.rest → 2 ≤ used.length → ∀ outside inside line,
      outside.length = around.length → Open.Same inner inside → ∃ within, Open.Same next within ∧
        closeLiteral outside inside line taken (front ++ (used ++ behind)) =
          closeLiteral (inside :: outside) within line more (used ++ behind)) :
    LiteralAhead around inner taken (front ++ rest) body := by
  have one := next.one_le_closing
  refine .step front (by simp; omega) ahead ?_
  intro used behind split long outside inside line apart same
  rw [List.length_cons] at long
  obtain ⟨within, kept, moved⟩ := moves used behind split (by omega) outside inside line apart.length_eq.symm same
  exact ⟨inside :: outside, within, line, .cons same apart, kept, moved⟩

/-- What is innermost ends, and what it stands in goes on. -/
theorem pop [Host] {inner : Open} {more : List Char} (front : List Char) (enough : inner.closing = front.length)
    (ahead : LiteralAhead around next more rest body)
    (moves : ∀ outside beyond inside line behind, Open.Same inner inside →
      closeLiteral (beyond :: outside) inside line taken (front ++ behind) =
        closeLiteral outside beyond line more behind) :
    LiteralAhead (next :: around) inner taken (front ++ rest) body := by
  have one := next.one_le_closing
  refine .step front (by simp; omega) ahead ?_
  intro used behind _ _ outside inside line apart same
  cases apart with
  | cons below apart => exact ⟨_, _, line, apart, below, moves _ _ _ _ _ same⟩

theorem escaped [Host] (ahead : LiteralAhead around (.text quote opened) (c :: '\\' :: taken) rest body) :
    LiteralAhead around (.text quote opened) taken ('\\' :: c :: rest) body := by
  refine .stay ['\\', c] (Nat.le_refl _) ahead ?_
  rintro used behind - - outside inside line ⟨⟩
  exact ⟨_, _, .text .., closeLiteral_escaped_char c⟩

theorem plain [Host] (noEscape : c ≠ '\\') (inside : c ≠ quote) (noHole : ¬(c = '#' ∧ rest.head? = some '\x7b'))
    (ahead : LiteralAhead around (.text quote opened) (c :: taken) rest body) :
    LiteralAhead around (.text quote opened) taken (c :: rest) body := by
  refine .stay [c] (Nat.le_refl _) ahead ?_
  rintro used behind rfl long outside inside line ⟨⟩
  refine ⟨_, _, .text .., closeLiteral_plain_char noEscape ‹_› ?_⟩
  cases used with
  | nil => cases long
  | cons d used => exact noHole

theorem hole [Host] (other : quote ≠ '#') (room : ¬Host.literalNesting ≤ around.length)
    (ahead : LiteralAhead (.text quote opened :: around) (.interpolation 0 line) ('\x7b' :: '#' :: taken) rest body) :
    LiteralAhead around (.text quote opened) taken ('#' :: '\x7b' :: rest) body := by
  refine .push ['#', '\x7b'] rfl ahead ?_
  rintro used behind - - outside inside line same ⟨⟩
  refine ⟨_, .interpolation .., (closeLiteral_hole other).trans (if_neg ?_)⟩
  rwa [same]

theorem leave_text [Host] (noEscape : quote ≠ '\\') (ahead : LiteralAhead around next (quote :: taken) rest body) :
    LiteralAhead (next :: around) (.text quote opened) taken (quote :: rest) body := by
  refine .pop [quote] rfl ahead ?_
  rintro outside beyond inside line behind ⟨⟩
  exact closeLiteral_end noEscape

/-- Whether the delimiter comes next is told by three characters, and so many are left at least. -/
theorem heredoc_plain [Host] (goesOn : ¬(tripled quote <+: c :: rest ∧ taken.head? ≠ some '\\'))
    (ahead : LiteralAhead around (.heredoc quote opened) (c :: taken) rest body) :
    LiteralAhead around (.heredoc quote opened) taken (c :: rest) body := by
  refine .stay [c] (Nat.le_refl _) ahead ?_
  rintro used behind rfl long outside inside line ⟨⟩
  rw [tripled_isPrefix_append (Nat.le_of_succ_le long) body.rest behind] at goesOn
  exact ⟨_, _, .heredoc .., closeLiteral_heredoc_char goesOn⟩

theorem leave_heredoc [Host] (unescaped : taken.head? ≠ some '\\')
    (ahead : LiteralAhead around next (tripled quote ++ taken) rest body) :
    LiteralAhead (next :: around) (.heredoc quote opened) taken (tripled quote ++ rest) body := by
  refine .pop (tripled quote) rfl ahead ?_
  rintro outside beyond inside line behind ⟨⟩
  exact closeLiteral_heredoc_end unescaped

theorem quoted [Host] (quotes : IsQuote quote) (single : ¬tripled quote <+: quote :: rest)
    (room : ¬Host.literalNesting ≤ around.length)
    (ahead : LiteralAhead (.interpolation depth opened :: around) (.text quote line) (quote :: taken) rest body) :
    LiteralAhead around (.interpolation depth opened) taken (quote :: rest) body := by
  refine .push [quote] rfl ahead ?_
  rintro used behind rfl long outside inside line same ⟨⟩
  rw [tripled_isPrefix_append long body.rest behind] at single
  refine ⟨_, .text .., (closeLiteral_single quotes single).trans (if_neg ?_)⟩
  rwa [same]

theorem heredoc [Host] (quotes : IsQuote quote) (room : ¬Host.literalNesting ≤ around.length)
    (ahead : LiteralAhead (.interpolation depth opened :: around) (.heredoc quote line) (tripled quote ++ taken) rest
      body) :
    LiteralAhead around (.interpolation depth opened) taken (tripled quote ++ rest) body := by
  refine .push (tripled quote) rfl ahead ?_
  rintro used behind - - outside inside line same ⟨⟩
  refine ⟨_, .heredoc .., (closeLiteral_tripled quotes).trans (if_neg ?_)⟩
  rwa [same]

theorem opens [Host] (ahead : LiteralAhead around (.interpolation (depth + 1) opened) ('\x7b' :: taken) rest body) :
    LiteralAhead around (.interpolation depth opened) taken ('\x7b' :: rest) body := by
  refine .stay ['\x7b'] (by simp) ahead ?_
  rintro used behind - - outside inside line ⟨⟩
  exact ⟨_, _, .interpolation .., closeLiteral_open⟩

theorem closes [Host] (ahead : LiteralAhead around (.interpolation depth opened) ('\x7d' :: taken) rest body) :
    LiteralAhead around (.interpolation (depth + 1) opened) taken ('\x7d' :: rest) body := by
  refine .stay ['\x7d'] (by simp) ahead ?_
  rintro used behind - - outside inside line ⟨⟩
  exact ⟨_, _, .interpolation .., closeLiteral_close⟩

theorem leave_interpolation [Host] (ahead : LiteralAhead around next ('\x7d' :: taken) rest body) :
    LiteralAhead (next :: around) (.interpolation 0 opened) taken ('\x7d' :: rest) body := by
  refine .pop ['\x7d'] rfl ahead ?_
  rintro outside beyond inside line behind ⟨⟩
  exact closeLiteral_leave

theorem code [Host] (noQuote : ¬IsQuote c) (noBrace : c ≠ '\x7b' ∧ c ≠ '\x7d')
    (ahead : LiteralAhead around (.interpolation depth opened) (c :: taken) rest body) :
    LiteralAhead around (.interpolation depth opened) taken (c :: rest) body := by
  refine .stay [c] (Nat.le_refl _) ahead ?_
  rintro used behind - - outside inside line ⟨⟩
  exact ⟨_, _, .interpolation .., closeLiteral_code noQuote noBrace⟩

end LiteralAhead

theorem literalAhead_of_close [Host] {around : List Open} {inner : Open} {line : Nat} {taken chars : List Char}
    {body : Body} (closed : closeLiteral around inner line taken chars = .ok body) :
    LiteralAhead around inner taken chars body := by
  fun_induction closeLiteral around inner line taken chars with
  | case1 | case2 | case6 | case7 | case15 | case21 => cases closed
  | case3 around line taken quote opened escaped rest ih => exact (ih closed).escaped
  | case4 line taken quote rest opened plain =>
    cases closed
    exact .last plain
  | case5 line taken quote rest opened plain next around ih => exact (ih closed).leave_text plain
  | case8 around line taken quote opened rest room plain other ih => exact (ih closed).hole (Ne.symm other) room
  | case9 around line taken quote opened following rest noHole escape other ih =>
    exact (ih closed).plain escape other fun hole => noHole (Option.some.inj hole.2)
  | case10 around line taken c rest quote opened escape other plain ih =>
    exact (ih closed).plain escape other fun hole => plain hole.1
  | case11 line taken c quote opened second third after same =>
    cases closed
    obtain ⟨rfl, rfl, rfl, unescaped⟩ := same
    exact .heredoc_last unescaped
  | case12 line taken c quote opened second third after same next around ih =>
    obtain ⟨rfl, rfl, rfl, unescaped⟩ := same
    exact (ih closed).leave_heredoc unescaped
  | case13 around line taken c quote opened second third after other ih =>
    refine (ih closed).heredoc_plain ?_
    simpa [tripled_isPrefix_cons, doubled, startsPair, and_assoc] using other
  | case14 around line taken c quote opened rest short ih =>
    exact (ih closed).heredoc_plain fun found => not_tripled_isPrefix_short short found.1
  | case16 around line taken c depth opened quote room second third after tripled ih =>
    obtain ⟨rfl, rfl⟩ := tripled
    exact (ih closed).heredoc quote room
  | case17 around line taken c depth opened quote room second third after other ih =>
    refine (ih closed).quoted quote ?_ room
    simpa [tripled_isPrefix_cons, doubled, startsPair] using other
  | case18 around line taken c depth opened quote room rest short ih =>
    exact (ih closed).quoted quote (not_tripled_isPrefix_short short) room
  | case19 around line taken rest depth opened plain ih => exact (ih closed).opens
  | case20 around line taken rest opened depth _ _ ih => exact (ih closed).closes
  | case22 line taken rest opened next around _ _ ih => exact (ih closed).leave_interpolation
  | case23 around line taken c rest depth opened quote opener closer ih => exact (ih closed).code quote ⟨opener, closer⟩

theorem Alike.doubled_eq {quote : Char} (plain : quote ∉ gapStarts) {first second : List Char}
    (alike : Alike first second) : doubled quote second = doubled quote first := by
  have none : gapStarts.any (· = quote) = false := by
    rw [List.any_eq_false]
    intro c mem same
    obtain rfl := of_decide_eq_true same
    exact plain mem
  exact alike.startsPair_eq none none

theorem scanQuoted_eq [Host] (quote : Char) (line : Nat) (chars : List Char) :
    scanQuoted quote line chars =
      if doubled quote chars then closeLiteral [] (.heredoc quote line) line [] (chars.drop 2)
      else closeLiteral [] (.text quote line) line [] chars := by
  match chars with
  | [] => rfl
  | [c] => rfl
  | c :: d :: rest => simp [scanQuoted, doubled, startsPair]

/-- A literal stays as it is when the text behind it changes from the next gap on. -/
def BodyStays (read : Nat → List Char → Except Source.Fault Body) (chars : List Char) (body : Body) : Prop :=
  ∃ used, chars = used ++ body.rest ∧
    ∀ line rest, Alike body.rest rest → ∃ after, read line (used ++ rest) = .ok ⟨body.chars, rest, after⟩

theorem stays_scanQuoted [Host] {quote : Char} (plain : quote ∉ gapStarts) {line : Nat} {chars : List Char}
    {body : Body} (closed : scanQuoted quote line chars = .ok body) : BodyStays (scanQuoted quote) chars body := by
  rw [scanQuoted_eq] at closed
  split at closed
  · next tripled =>
    match chars, tripled with
    | c :: d :: more, tripled =>
      obtain ⟨used, split, _, again⟩ := literalAhead_of_close closed
      rw [List.drop_succ_cons, List.drop_succ_cons, List.drop_zero] at split
      refine ⟨c :: d :: used, by rw [split]; rfl, fun line rest _ => ?_⟩
      have opens : doubled quote (c :: d :: used ++ rest) = true := tripled
      rw [scanQuoted_eq, if_pos opens]
      exact again [] _ line rest .nil (.heredoc ..)
  · next single =>
    obtain ⟨used, rfl, _, again⟩ := literalAhead_of_close closed
    refine ⟨used, rfl, fun line rest alike => ?_⟩
    rw [scanQuoted_eq, (alike.append used).doubled_eq plain, if_neg single]
    exact again [] _ line rest .nil (.text ..)

theorem closeSigil_replaced {opener closer : Char} {depth line : Nat} {taken chars : List Char} {body : Body}
    (closed : closeSigil opener closer depth line taken chars = some body) :
    ∃ used, chars = used ++ body.rest ∧
      ∀ line rest, ∃ after,
        closeSigil opener closer depth line taken (used ++ rest) = some ⟨body.chars, rest, after⟩ := by
  fun_induction closeSigil opener closer depth line taken chars with
  | case1 | case2 => cases closed
  | case3 depth line taken escaped rest ih =>
    obtain ⟨used, rfl, again⟩ := ih closed
    refine ⟨'\\' :: escaped :: used, rfl, fun line rest => ?_⟩
    simpa [closeSigil.eq_def _ _ _ _ _ ('\\' :: _)] using again line rest
  | case4 line taken rest plain =>
    cases closed
    exact ⟨[closer], rfl, fun line rest => ⟨line, by simp [closeSigil.eq_def, plain]⟩⟩
  | case5 line taken rest depth plain ih =>
    obtain ⟨used, rfl, again⟩ := ih closed
    refine ⟨closer :: used, rfl, fun line rest => ?_⟩
    simpa [closeSigil.eq_def _ _ _ _ _ (closer :: _), plain] using again (lineAfter line closer) rest
  | case6 depth line taken rest plain other ih =>
    obtain ⟨used, rfl, again⟩ := ih closed
    refine ⟨opener :: used, rfl, fun line rest => ?_⟩
    simpa [closeSigil.eq_def _ _ _ _ _ (opener :: _), plain, other] using again (lineAfter line opener) rest
  | case7 depth line taken c rest plain other further ih =>
    obtain ⟨used, rfl, again⟩ := ih closed
    refine ⟨c :: used, rfl, fun line rest => ?_⟩
    simpa [closeSigil.eq_def _ _ _ _ _ (c :: _), plain, other, further] using again (lineAfter line c) rest

theorem opensHeredoc_cons (opener : Char) (rest : List Char) :
    opensHeredoc (opener :: rest) = ((opener = '"' || opener = '\'') && doubled opener rest) := by
  match rest with
  | [] => simp [opensHeredoc, doubled, startsPair]
  | [c] => simp [opensHeredoc, doubled, startsPair]
  | c :: d :: rest => simp [opensHeredoc, doubled, startsPair, Bool.and_assoc]

theorem scanSigilBody_of_close [Host] {opener : Char} {rest : List Char} {line : Nat} {body : Body} (name : String)
    (short : opensHeredoc (opener :: rest) = false)
    (closed : closeSigil opener (sigilCloser opener) 0 line [] rest = some body) :
    scanSigilBody name line opener rest = .ok body := by
  simp only [scanSigilBody, closed]
  grind [opensHeredoc]

theorem stays_scanSigilBody [Host] {opener : Char} (plain : opener ∉ gapStarts) {name : String} {line : Nat}
    {chars : List Char} {body : Body} (closed : scanSigilBody name line opener chars = .ok body) :
    BodyStays (fun line chars => scanSigilBody name line opener chars) chars body := by
  have unchanged : ∀ {first second}, Alike first second →
      opensHeredoc (opener :: second) = opensHeredoc (opener :: first) := by
    intro first second alike
    rw [opensHeredoc_cons, opensHeredoc_cons, alike.doubled_eq plain]
  by_cases heredoc : opensHeredoc (opener :: chars) = true
  · rw [scanSigilBody_of_heredoc heredoc] at closed
    obtain ⟨used, rfl, again⟩ := stays_scanQuoted plain closed
    refine ⟨used, rfl, fun line rest alike => ?_⟩
    have still := (unchanged (alike.append used)).trans heredoc
    simp only [scanSigilBody_of_heredoc still]
    exact again line rest alike
  · have short := Bool.eq_false_iff.mpr heredoc
    obtain ⟨used, rfl, again⟩ := closeSigil_replaced (closeSigil_of_scanSigilBody short closed)
    refine ⟨used, rfl, fun line rest alike => ?_⟩
    obtain ⟨after, given⟩ := again line rest
    exact ⟨after, scanSigilBody_of_close name ((unchanged (alike.append used)).trans short) given⟩

end Literals

end BoundaryLint.Token
