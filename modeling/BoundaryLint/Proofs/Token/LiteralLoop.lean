import BoundaryLint.Proofs.Token.Iteration
import BoundaryLint.Proofs.Token.Quotation

/-!
The scanning of literals as loops that call one another. A literal is passed over by a loop whose iteration at an
interpolation consists in all of the loop over that, which calls the loop over a literal in turn. A heredoc is searched
for its end, and the search starts again inside of a tripled quote that a backslash hides. Main statement: the scanner,
which keeps a stack instead, comes to the same place or the same fault.
-/

namespace BoundaryLint.Token

structure Cursor where
  line : Nat
  taken : List Char
  ahead : List Char

def Cursor.body (width : Nat) (cursor : Cursor) : Body := ⟨(cursor.taken.drop width).reverse, cursor.ahead, cursor.line⟩

structure Nested where
  depth : Nat
  cursor : Cursor

def Nested.ahead (nested : Nested) : List Char := nested.cursor.ahead

section Turns

/-- An iteration of the loop over the text between quotes. A backslash takes the next character along, or reaches beyond
the end of the text. -/
def textTurn (hole : Cursor → Except Source.Fault Cursor) (quote : Char) (opened : Nat) (cursor : Cursor) :
    Except Source.Fault (ForInStep Cursor) :=
  match cursor.ahead with
  | [] => .error (.at .unterminatedString opened)
  | c :: rest =>
    if c = '\\' then
      match rest with
      | [] => .ok (.yield ⟨cursor.line, c :: cursor.taken, []⟩)
      | escaped :: rest => .ok (.yield ⟨lineAfter cursor.line escaped, escaped :: c :: cursor.taken, rest⟩)
    else if c = quote then .ok (.done ⟨cursor.line, c :: cursor.taken, rest⟩)
    else if c = '#' ∧ rest.head? = some '\x7b' then do
      let behind ← hole ⟨cursor.line, '\x7b' :: c :: cursor.taken, rest.tail⟩
      return .yield behind
    else .ok (.yield ⟨lineAfter cursor.line c, c :: cursor.taken, rest⟩)

def holeTurn (literal : Char → Cursor → Except Source.Fault Cursor) (opened : Nat) (nested : Nested) :
    Except Source.Fault (ForInStep Nested) :=
  let ⟨depth, cursor⟩ := nested
  match cursor.ahead with
  | [] => .error (.at .unterminatedInterpolation opened)
  | c :: rest =>
    if IsQuote c then do
      let behind ← literal c ⟨cursor.line, c :: cursor.taken, rest⟩
      return .yield ⟨depth, behind⟩
    else if c = '\x7b' then .ok (.yield ⟨depth + 1, cursor.line, c :: cursor.taken, rest⟩)
    else if c = '\x7d' then
      match depth with
      | 0 => .ok (.done ⟨0, cursor.line, c :: cursor.taken, rest⟩)
      | depth + 1 => .ok (.yield ⟨depth, cursor.line, c :: cursor.taken, rest⟩)
    else .ok (.yield ⟨depth, lineAfter cursor.line c, c :: cursor.taken, rest⟩)

def findTripled (quote : Char) : List Char → Option (List Char × List Char)
  | [] => none
  | c :: rest =>
    if tripled quote <+: c :: rest then some ([], rest.drop 2)
    else (findTripled quote rest).map fun found => (c :: found.1, found.2)

/-- An iteration of the search for the end of a heredoc. If a backslash hides what is found, the search goes on one
character behind the start of that. -/
def heredocTurn (quote : Char) (opened : Nat) (cursor : Cursor) : Except Source.Fault (ForInStep Cursor) :=
  match findTripled quote cursor.ahead with
  | none => .error (.at .unterminatedHeredoc opened)
  | some (text, rest) =>
    let before := text.reverse ++ cursor.taken
    if before.head? = some '\\' then
      .ok (.yield ⟨lineAfter (cursor.line + breaks text) quote, quote :: before, quote :: quote :: rest⟩)
    else .ok (.done ⟨cursor.line + breaks text, tripled quote ++ before, rest⟩)

end Turns

mutual

/-- The loop over a literal within an interpolation, from behind its first quote on. So many more literals and
interpolations may be open in one another. -/
def passLiteral : Nat → Char → Cursor → Except Source.Fault Cursor
  | 0, _, _ => .error .literalsTooDeep
  | room + 1, quote, cursor =>
    if doubled quote cursor.ahead then
      iterated Cursor.ahead (heredocTurn quote cursor.line)
        ⟨cursor.line, quote :: quote :: cursor.taken, cursor.ahead.drop 2⟩
    else iterated Cursor.ahead (textTurn (passHole room) quote cursor.line) cursor

def passHole : Nat → Cursor → Except Source.Fault Cursor
  | 0, _ => .error .literalsTooDeep
  | room + 1, cursor =>
    (iterated Nested.ahead (holeTurn (passLiteral room) cursor.line) ⟨0, cursor⟩).map Nested.cursor

end

section Advances

variable {hole : Cursor → Except Source.Fault Cursor} {literal : Char → Cursor → Except Source.Fault Cursor}
  {quote : Char} {opened : Nat}

theorem advances_textTurn (gets : ∀ {cursor behind}, hole cursor = .ok behind → Further cursor.ahead behind.ahead)
    {cursor later : Cursor} (made : textTurn hole quote opened cursor = .ok (.yield later)) :
    Further cursor.ahead later.ahead := by
  obtain ⟨line, taken, ahead⟩ := cursor
  unfold textTurn at made
  rcases ahead with _ | ⟨c, rest⟩
  · cases made
  dsimp only at made ⊢
  split at made
  · rcases rest with _ | ⟨escaped, rest⟩
    · cases made
      exact further_cons c []
    · cases made
      exact (further_cons escaped rest).of_suffix (List.suffix_cons c _)
  split at made
  · cases made
  split at made
  · next opens =>
    obtain ⟨behind, passed, made⟩ := bind_eq_ok.mp made
    cases made
    exact further_of_suffix ((gets passed).suffix.trans (List.tail_suffix rest))
  · cases made
    exact further_cons c rest

theorem leaves_textTurn {cursor last : Cursor} (made : textTurn hole quote opened cursor = .ok (.done last)) :
    Further cursor.ahead last.ahead := by
  obtain ⟨line, taken, ahead⟩ := cursor
  unfold textTurn at made
  rcases ahead with _ | ⟨c, rest⟩
  · cases made
  dsimp only at made ⊢
  split at made
  · rcases rest with _ | ⟨escaped, rest⟩ <;> cases made
  split at made
  · cases made
    exact further_cons c rest
  split at made
  · obtain ⟨behind, passed, made⟩ := bind_eq_ok.mp made
    cases made
  · cases made

theorem advances_holeTurn
    (gets : ∀ {quote cursor behind}, literal quote cursor = .ok behind → Further cursor.ahead behind.ahead)
    {nested later : Nested} (made : holeTurn literal opened nested = .ok (.yield later)) :
    Further nested.ahead later.ahead := by
  obtain ⟨depth, line, taken, ahead⟩ := nested
  unfold holeTurn at made
  rcases ahead with _ | ⟨c, rest⟩
  · cases made
  dsimp only [Nested.ahead] at made ⊢
  split at made
  · obtain ⟨behind, passed, made⟩ := bind_eq_ok.mp made
    cases made
    exact (gets passed).of_suffix (List.suffix_cons c rest)
  split at made
  · cases made
    exact further_cons c rest
  split at made
  · cases depth <;> cases made
    exact further_cons c rest
  · cases made
    exact further_cons c rest

theorem leaves_holeTurn {nested last : Nested} (made : holeTurn literal opened nested = .ok (.done last)) :
    Further nested.ahead last.ahead := by
  obtain ⟨depth, line, taken, ahead⟩ := nested
  unfold holeTurn at made
  rcases ahead with _ | ⟨c, rest⟩
  · cases made
  dsimp only [Nested.ahead] at made ⊢
  split at made
  · obtain ⟨behind, passed, made⟩ := bind_eq_ok.mp made
    cases made
  split at made
  · cases made
  split at made
  · cases depth <;> cases made
    exact further_cons c rest
  · cases made

theorem findTripled_split {chars text rest : List Char} (found : findTripled quote chars = some (text, rest)) :
    chars = text ++ (tripled quote ++ rest) := by
  induction chars generalizing text with
  | nil => cases found
  | cons c chars ih =>
    rw [findTripled] at found
    split at found
    · next here =>
      obtain ⟨more, split⟩ := here
      cases found
      obtain ⟨rfl, rfl⟩ := List.cons.inj split
      rfl
    · obtain ⟨⟨before, behind⟩, later, same⟩ := Option.map_eq_some_iff.mp found
      cases same
      rw [ih later, List.cons_append]

theorem advances_heredocTurn {cursor later : Cursor} (made : heredocTurn quote opened cursor = .ok (.yield later)) :
    Further cursor.ahead later.ahead := by
  unfold heredocTurn at made
  split at made
  · cases made
  · next text rest found =>
    dsimp only at made
    split at made
    · cases made
      have split : cursor.ahead = (text ++ [quote]) ++ quote :: quote :: rest := by
        rw [findTripled_split found, tripled]
        simp
      rw [split]
      exact further_append (by simp) _
    · cases made

theorem leaves_heredocTurn {cursor last : Cursor} (made : heredocTurn quote opened cursor = .ok (.done last)) :
    Further cursor.ahead last.ahead := by
  unfold heredocTurn at made
  split at made
  · cases made
  · next text rest found =>
    dsimp only at made
    split at made
    · cases made
    · cases made
      rw [findTripled_split found, ← List.append_assoc]
      exact further_append (by simp [tripled]) _

/-- However many more may be open, passing over a literal or an interpolation takes something. -/
theorem further_pass (room : Nat) :
    (∀ {quote cursor behind}, passLiteral room quote cursor = .ok behind → Further cursor.ahead behind.ahead) ∧
      ∀ {cursor behind}, passHole room cursor = .ok behind → Further cursor.ahead behind.ahead := by
  induction room with
  | zero =>
    constructor
    · intro quote cursor behind passed
      cases passed
    · intro cursor behind passed
      cases passed
  | succ room ih =>
    constructor
    · intro quote cursor behind passed
      rw [passLiteral] at passed
      split at passed
      · have inside : Further (cursor.ahead.drop 2) behind.ahead :=
          (iterates_of_advances advances_heredocTurn).further leaves_heredocTurn passed
        exact inside.of_suffix (List.drop_suffix 2 cursor.ahead)
      · exact (iterates_of_advances (advances_textTurn ih.2)).further leaves_textTurn passed
    · intro cursor behind passed
      rw [passHole] at passed
      obtain ⟨last, looped, rfl⟩ := map_eq_ok.mp passed
      exact (iterates_of_advances (advances_holeTurn ih.1)).further leaves_holeTurn looped

theorem iterates_text (room : Nat) (quote : Char) (opened : Nat) :
    Iterates Cursor.ahead (textTurn (passHole room) quote opened) :=
  iterates_of_advances (advances_textTurn (further_pass room).2)

theorem iterates_hole (room opened : Nat) : Iterates Nested.ahead (holeTurn (passLiteral room) opened) :=
  iterates_of_advances (advances_holeTurn (further_pass room).1)

theorem iterates_heredoc (quote : Char) (opened : Nat) : Iterates Cursor.ahead (heredocTurn quote opened) :=
  iterates_of_advances advances_heredocTurn

end Advances

namespace Open

def loop (room : Nat) : Open → Cursor → Except Source.Fault Cursor
  | .text quote opened, cursor => iterated Cursor.ahead (textTurn (passHole room) quote opened) cursor
  | .heredoc quote opened, cursor => iterated Cursor.ahead (heredocTurn quote opened) cursor
  | .interpolation depth opened, cursor =>
    (iterated Nested.ahead (holeTurn (passLiteral room) opened) ⟨depth, cursor⟩).map Nested.cursor

def width : Open → Nat
  | .text _ _ | .interpolation _ _ => 1
  | .heredoc _ _ => 3

end Open

def closeAround [Host] (width : Nat) : List Open → Cursor → Except Source.Fault Body
  | [], cursor => .ok (cursor.body width)
  | next :: around, cursor => closeLiteral around next cursor.line cursor.taken cursor.ahead

section Stack

variable {around : List Open} {quote : Char} {opened : Nat}

/-- The search passes over a character at which no tripled quote starts. -/
theorem heredocTurn_cons {c : Char} {line : Nat} {taken rest : List Char} (other : ¬tripled quote <+: c :: rest) :
    heredocTurn quote opened ⟨line, taken, c :: rest⟩ =
      heredocTurn quote opened ⟨lineAfter line c, c :: taken, rest⟩ := by
  simp only [heredocTurn, findTripled, if_neg other]
  cases findTripled quote rest with
  | none => rfl
  | some found => simp [← line_breaks]

theorem closeLiteral_heredoc_close [Host] {line : Nat} {taken rest : List Char} (unescaped : taken.head? ≠ some '\\') :
    closeLiteral around (.heredoc quote opened) line taken (tripled quote ++ rest) =
      closeAround 3 around ⟨line, tripled quote ++ taken, rest⟩ := by
  cases around with
  | nil =>
    rw [closeLiteral.eq_def]
    simp [tripled, unescaped, closeAround, Cursor.body]
  | cons next around => exact closeLiteral_heredoc_end unescaped

theorem closeLiteral_text_close [Host] {line : Nat} {taken rest : List Char} (noEscape : quote ≠ '\\') :
    closeLiteral around (.text quote opened) line taken (quote :: rest) =
      closeAround 1 around ⟨line, quote :: taken, rest⟩ := by
  cases around with
  | nil => exact closeLiteral_last noEscape
  | cons next around => exact closeLiteral_end noEscape

theorem closeLiteral_heredoc [Host] (room line : Nat) (taken ahead : List Char) :
    closeLiteral around (.heredoc quote opened) line taken ahead =
      (Open.heredoc quote opened).loop room ⟨line, taken, ahead⟩ >>= closeAround 3 around := by
  have iterates := iterates_heredoc quote opened
  dsimp only [Open.loop]
  induction ahead generalizing line taken with
  | nil =>
    rw [iterates.of_error rfl]
    rfl
  | cons c rest ih =>
    by_cases here : tripled quote <+: c :: rest
    · obtain ⟨after, split⟩ := here
      obtain ⟨rfl, rfl⟩ : quote = c ∧ quote :: quote :: after = rest := by simpa [tripled] using split
      have found : findTripled quote (quote :: quote :: quote :: after) = some ([], after) := by
        simp [findTripled, tripled]
      by_cases hidden : taken.head? = some '\\'
      · have turn : heredocTurn quote opened ⟨line, taken, quote :: quote :: quote :: after⟩ =
            .ok (.yield ⟨lineAfter line quote, quote :: taken, quote :: quote :: after⟩) := by
          simp [heredocTurn, found, hidden]
        have further : ¬(tripled quote <+: quote :: quote :: quote :: after ∧ taken.head? ≠ some '\\') :=
          fun closes => closes.2 hidden
        rw [closeLiteral_heredoc_char further, ih, iterates.of_yield turn]
      · have turn : heredocTurn quote opened ⟨line, taken, quote :: quote :: quote :: after⟩ =
            .ok (.done ⟨line, tripled quote ++ taken, after⟩) := by
          simp [heredocTurn, found, hidden]
        rw [iterates.of_done turn]
        exact closeLiteral_heredoc_close hidden
    · rw [closeLiteral_heredoc_char (mt And.left here), ih, iterates.of_eq (heredocTurn_cons here)]

theorem passHole_succ (room : Nat) (cursor : Cursor) :
    passHole (room + 1) cursor = (Open.interpolation 0 cursor.line).loop room cursor := by
  rw [passHole, Open.loop]

theorem passLiteral_single {room : Nat} {cursor : Cursor} (single : doubled quote cursor.ahead = false) :
    passLiteral (room + 1) quote cursor = (Open.text quote cursor.line).loop room cursor := by
  rw [passLiteral, if_neg (by simp [single]), Open.loop]

theorem passLiteral_tripled {room line : Nat} {taken rest : List Char} :
    passLiteral (room + 1) quote ⟨line, quote :: taken, quote :: quote :: rest⟩ =
      (Open.heredoc quote line).loop room ⟨line, tripled quote ++ taken, rest⟩ := by
  rw [passLiteral, if_pos (by simp [doubled, startsPair]), Open.loop]
  rfl

/-- On a text the scanner does the same with its stack as the loops do that call one another. -/
def Agrees [Host] (ahead : List Char) : Prop :=
  ∀ (around : List Open) (inner : Open) (line : Nat) (taken : List Char),
    (around = [] → ∀ depth opened, inner ≠ .interpolation depth opened) →
    closeLiteral around inner line taken ahead =
      inner.loop (Host.literalNesting - around.length) ⟨line, taken, ahead⟩ >>= closeAround inner.width around

variable {line : Nat} {taken ahead : List Char}

theorem agrees_text [Host] (shorter : ∀ rest : List Char, rest.length < ahead.length → Agrees rest) :
    closeLiteral around (.text quote opened) line taken ahead =
      (Open.text quote opened).loop (Host.literalNesting - around.length) ⟨line, taken, ahead⟩ >>= closeAround 1 around := by
  have again : ∀ (rest : List Char) (line : Nat) (taken : List Char), rest.length < ahead.length →
      closeLiteral around (.text quote opened) line taken rest =
        (Open.text quote opened).loop (Host.literalNesting - around.length) ⟨line, taken, rest⟩ >>= closeAround 1 around :=
    fun rest line taken short => shorter rest short around (.text quote opened) line taken (by simp)
  generalize given : Host.literalNesting - around.length = room at again ⊢
  have iterates := iterates_text room quote opened
  dsimp only [Open.loop] at again ⊢
  rcases ahead with _ | ⟨c, rest⟩
  · rw [iterates.of_error rfl]
    rfl
  by_cases escape : c = '\\'
  · subst escape
    rcases rest with _ | ⟨escaped, rest⟩
    · have turn : textTurn (passHole room) quote opened ⟨line, taken, ['\\']⟩ =
          .ok (.yield ⟨line, '\\' :: taken, []⟩) := by simp [textTurn]
      rw [iterates.of_yield turn, iterates.of_error rfl]
      rfl
    · have turn : textTurn (passHole room) quote opened ⟨line, taken, '\\' :: escaped :: rest⟩ =
          .ok (.yield ⟨lineAfter line escaped, escaped :: '\\' :: taken, rest⟩) := by simp [textTurn]
      rw [closeLiteral_escaped_char, iterates.of_yield turn]
      exact again _ _ _ (by simp)
  by_cases closes : c = quote
  · subst closes
    have turn : textTurn (passHole room) c opened ⟨line, taken, c :: rest⟩ =
        .ok (.done ⟨line, c :: taken, rest⟩) := by simp [textTurn, escape]
    rw [closeLiteral_text_close escape, iterates.of_done turn]
    rfl
  by_cases opens : c = '#' ∧ rest.head? = some '\x7b'
  · obtain ⟨rfl, head⟩ := opens
    obtain ⟨after, rfl⟩ := List.head?_eq_some_iff.mp head
    have turn : textTurn (passHole room) quote opened ⟨line, taken, '#' :: '\x7b' :: after⟩ =
        passHole room ⟨line, '\x7b' :: '#' :: taken, after⟩ >>= fun behind => .ok (.yield behind) := by
      simp only [textTurn, if_neg escape, if_neg closes, head, and_self, if_true]
      rfl
    rw [closeLiteral_hole (Ne.symm closes), iterates.unrolls, turn, bind_assoc, bind_assoc]
    cases room with
    | zero => rw [if_pos (by omega)]; rfl
    | succ room =>
      have inside :
          closeLiteral (.text quote opened :: around) (.interpolation 0 line) line ('\x7b' :: '#' :: taken) after =
            passHole (room + 1) ⟨line, '\x7b' :: '#' :: taken, after⟩ >>=
              closeAround 1 (.text quote opened :: around) := by
        have fewer : Host.literalNesting - (around.length + 1) = room := by omega
        have agrees := shorter after (by simp) (.text quote opened :: around) (.interpolation 0 line) line
          ('\x7b' :: '#' :: taken) (by simp)
        rw [List.length_cons, fewer] at agrees
        rw [passHole_succ]
        exact agrees
      rw [if_neg (by omega), inside]
      apply bind_eq_bind
      intro behind passed
      have advance : Further after behind.ahead := (further_pass (room + 1)).2 passed
      exact again behind.ahead behind.line behind.taken (Nat.lt_succ_of_lt (Nat.lt_succ_of_lt advance.length_lt))
  · have turn : textTurn (passHole room) quote opened ⟨line, taken, c :: rest⟩ =
        .ok (.yield ⟨lineAfter line c, c :: taken, rest⟩) := by simp [textTurn, escape, closes, opens]
    rw [closeLiteral_plain_char escape closes opens, iterates.of_yield turn]
    exact again _ _ _ (by simp)

/-- A quote within an interpolation opens a literal, which the loop over the interpolation passes over as a whole. -/
theorem agrees_quote [Host] {next : Open} {room : Nat} {rest : List Char} {depth : Nat} (quotes : IsQuote quote)
    (given : Host.literalNesting - (around.length + 1) = room)
    (shorter : ∀ after : List Char, after.length ≤ rest.length → Agrees after) :
    closeLiteral (next :: around) (.interpolation depth opened) line taken (quote :: rest) =
      passLiteral room quote ⟨line, quote :: taken, rest⟩ >>=
        closeAround 1 (.interpolation depth opened :: next :: around) := by
  have opens : ∀ (inner : Open) (taken after : List Char), after.length ≤ rest.length →
      (∀ depth opened, inner ≠ .interpolation depth opened) →
      closeLiteral (.interpolation depth opened :: next :: around) inner line taken after =
        inner.loop (room - 1) ⟨line, taken, after⟩ >>=
          closeAround inner.width (.interpolation depth opened :: next :: around) := by
    intro inner taken after short literal
    have agrees := shorter after short (.interpolation depth opened :: next :: around) inner line taken (by simp)
    have fewer : Host.literalNesting - (around.length + 1 + 1) = room - 1 := by omega
    rw [List.length_cons, List.length_cons, fewer] at agrees
    exact agrees
  by_cases single : doubled quote rest = false
  · have alone : ¬tripled quote <+: quote :: rest := by simp [tripled_isPrefix_cons, single]
    rw [closeLiteral_single quotes alone, List.length_cons]
    cases room with
    | zero => rw [if_pos (by omega)]; rfl
    | succ room =>
      rw [if_neg (by omega), passLiteral_single single]
      exact opens (.text quote line) (quote :: taken) rest (Nat.le_refl _) (by simp)
  · have triple : tripled quote <+: quote :: rest := by simp [tripled_isPrefix_cons, single]
    obtain ⟨after, split⟩ := triple
    obtain rfl : quote :: quote :: after = rest := by simpa [tripled] using split
    have start : closeLiteral (next :: around) (.interpolation depth opened) line taken (tripled quote ++ after) =
        if Host.literalNesting ≤ (next :: around).length then .error .literalsTooDeep
        else closeLiteral (.interpolation depth opened :: next :: around) (.heredoc quote line) line
          (tripled quote ++ taken) after := closeLiteral_tripled quotes
    refine start.trans ?_
    rw [List.length_cons]
    cases room with
    | zero => rw [if_pos (by omega)]; rfl
    | succ room =>
      rw [if_neg (by omega), passLiteral_tripled]
      exact opens (.heredoc quote line) (tripled quote ++ taken) after (by simp; omega) (by simp)

theorem agrees_hole [Host] {next : Open} {depth : Nat}
    (shorter : ∀ rest : List Char, rest.length < ahead.length → Agrees rest) :
    closeLiteral (next :: around) (.interpolation depth opened) line taken ahead =
      (Open.interpolation depth opened).loop (Host.literalNesting - (around.length + 1)) ⟨line, taken, ahead⟩ >>=
        closeAround 1 (next :: around) := by
  have again : ∀ (rest : List Char) (depth line : Nat) (taken : List Char), rest.length < ahead.length →
      closeLiteral (next :: around) (.interpolation depth opened) line taken rest =
        (Open.interpolation depth opened).loop (Host.literalNesting - (around.length + 1)) ⟨line, taken, rest⟩ >>=
          closeAround 1 (next :: around) :=
    fun rest depth line taken short =>
      shorter rest short (next :: around) (.interpolation depth opened) line taken (by simp)
  generalize given : Host.literalNesting - (around.length + 1) = room at again ⊢
  have iterates := iterates_hole room opened
  dsimp only [Open.loop] at again ⊢
  rcases ahead with _ | ⟨c, rest⟩
  · rw [iterates.of_error rfl]
    rfl
  by_cases quotes : IsQuote c
  · have turn : holeTurn (passLiteral room) opened ⟨depth, line, taken, c :: rest⟩ =
        passLiteral room c ⟨line, c :: taken, rest⟩ >>= fun behind => .ok (.yield ⟨depth, behind⟩) := by
      simp only [holeTurn, if_pos quotes]
      rfl
    have loop : iterated Nested.ahead (holeTurn (passLiteral room) opened) ⟨depth, line, taken, c :: rest⟩ =
        passLiteral room c ⟨line, c :: taken, rest⟩ >>= fun behind =>
          iterated Nested.ahead (holeTurn (passLiteral room) opened) ⟨depth, behind⟩ := by
      rw [iterates.unrolls, turn, bind_assoc]
      rfl
    rw [agrees_quote quotes given fun after short => shorter after (Nat.lt_succ_of_le short), loop]
    cases passed : passLiteral room c ⟨line, c :: taken, rest⟩ with
    | error fault => rfl
    | ok behind =>
      have advance : Further rest behind.ahead := (further_pass room).1 passed
      exact again behind.ahead depth behind.line behind.taken (Nat.lt_succ_of_lt advance.length_lt)
  by_cases opens : c = '\x7b'
  · subst opens
    have turn : holeTurn (passLiteral room) opened ⟨depth, line, taken, '\x7b' :: rest⟩ =
        .ok (.yield ⟨depth + 1, line, '\x7b' :: taken, rest⟩) := by simp [holeTurn, quotes]
    rw [closeLiteral_open, iterates.of_yield turn]
    exact again _ _ _ _ (by simp)
  by_cases closes : c = '\x7d'
  · subst closes
    cases depth with
    | zero =>
      have turn : holeTurn (passLiteral room) opened ⟨0, line, taken, '\x7d' :: rest⟩ =
          .ok (.done ⟨0, line, '\x7d' :: taken, rest⟩) := by simp [holeTurn, quotes]
      rw [closeLiteral_leave, iterates.of_done turn]
      rfl
    | succ depth =>
      have turn : holeTurn (passLiteral room) opened ⟨depth + 1, line, taken, '\x7d' :: rest⟩ =
          .ok (.yield ⟨depth, line, '\x7d' :: taken, rest⟩) := by simp [holeTurn, quotes]
      rw [closeLiteral_close, iterates.of_yield turn]
      exact again _ _ _ _ (by simp)
  · have turn : holeTurn (passLiteral room) opened ⟨depth, line, taken, c :: rest⟩ =
        .ok (.yield ⟨depth, lineAfter line c, c :: taken, rest⟩) := by simp [holeTurn, quotes, opens, closes]
    rw [closeLiteral_code quotes ⟨opens, closes⟩, iterates.of_yield turn]
    exact again _ _ _ _ (by simp)

theorem agrees [Host] (ahead : List Char) : Agrees ahead := by
  -- On the length of the text, as a call inside an iteration takes more of it than one character.
  induction size : ahead.length using Nat.strong_induction_on generalizing ahead with
  | _ size ih =>
    subst size
    have shorter : ∀ rest : List Char, rest.length < ahead.length → Agrees rest := fun rest short => ih _ short rest rfl
    intro around inner line taken nested
    cases inner with
    | text quote opened => exact agrees_text shorter
    | heredoc quote opened => exact closeLiteral_heredoc _ line taken ahead
    | interpolation depth opened =>
      cases around with
      | nil => exact absurd rfl (nested rfl depth opened)
      | cons next around => exact agrees_hole shorter

/-- Behind its first quote a literal is scanned by the loop over it. -/
theorem scanQuoted_loop [Host] (quote : Char) (line : Nat) (chars : List Char) :
    scanQuoted quote line chars =
      if doubled quote chars then
        (iterated Cursor.ahead (heredocTurn quote line) ⟨line, [], chars.drop 2⟩).map (Cursor.body 3)
      else
        (iterated Cursor.ahead (textTurn (passHole Host.literalNesting) quote line) ⟨line, [], chars⟩).map (Cursor.body 1) := by
  have ends : ∀ (width : Nat) (step : Except Source.Fault Cursor),
      step >>= closeAround width [] = step.map (Cursor.body width) := by
    intro width step
    cases step <;> rfl
  rw [scanQuoted_eq]
  split
  · rw [agrees _ [] (.heredoc quote line) line [] (by simp)]
    exact ends 3 _
  · rw [agrees _ [] (.text quote line) line [] (by simp)]
    exact ends 1 _

end Stack

end BoundaryLint.Token
