import BoundaryLint.Host.Ordinary
import BoundaryLint.Proofs.Token.FaultLine
import BoundaryLint.Proofs.Token.Layout
import BoundaryLint.Proofs.Token.LiteralLoop

/-!
The scanner gets on. Its main loop and the loops over sigils and literals take something from the text in every
iteration, so the scan of any text comes to an end: with tokens that start one behind the other and leave nothing of the
text, or with a fault on a line of the text, or because literals are nested too deep in it.
-/

namespace BoundaryLint.Token

section Turns

/-- An iteration of the loop over the body of a sigil, within the openers that are not closed yet. A backslash takes the
next character along, or reaches beyond the end of the text. -/
def sigilTurn (name : String) (start : Nat) (opener closer : Char) (nested : Nested) :
    Except Source.Fault (ForInStep Nested) :=
  let ⟨depth, cursor⟩ := nested
  match cursor.ahead with
  | [] => .error (.at (.unterminatedSigil name) start)
  | c :: rest =>
    let next : Cursor := ⟨lineAfter cursor.line c, c :: cursor.taken, rest⟩
    if c = '\\' then
      match rest with
      | [] => .ok (.yield ⟨depth, cursor.line, c :: cursor.taken, []⟩)
      | escaped :: rest => .ok (.yield ⟨depth, cursor.line, escaped :: c :: cursor.taken, rest⟩)
    else if c = closer then
      match depth with
      | 0 => .ok (.done ⟨0, cursor.line, c :: cursor.taken, rest⟩)
      | depth + 1 => .ok (.yield ⟨depth, next⟩)
    else if c = opener then .ok (.yield ⟨depth + 1, next⟩)
    else .ok (.yield ⟨depth, next⟩)

/-- What the main loop keeps: the line, the gap since the last token, the tokens so far and the text ahead. -/
structure Scan where
  line : Nat
  gap : Gap
  tokens : List Token
  ahead : List Char

/-- An iteration of the main loop: a line break, a blank, a line break behind a backslash, a comment or a token. -/
def scanTurn [Host] (scan : Scan) : Except Source.Fault (ForInStep Scan) :=
  match scan.ahead with
  | [] => .ok (.done scan)
  | c :: rest =>
    if c = '\n' then .ok (.yield ⟨scan.line + 1, scan.gap.addNewline, scan.tokens, rest⟩)
    else if isBlank c then .ok (.yield ⟨scan.line, scan.gap.addSpace, scan.tokens, rest⟩)
    else if c = '\\' ∧ rest.head? = some '\n' then
      .ok (.yield ⟨scan.line + 1, scan.gap.addSpace, scan.tokens, rest.tail⟩)
    else if c = '#' then .ok (.yield ⟨scan.line, scan.gap, scan.tokens, rest.dropWhile (· ≠ '\n')⟩)
    else do
      let lexeme ← scanToken scan.line c rest
      return .yield ⟨lexeme.line, Gap.none,
        scan.tokens ++ [⟨lexeme.kind, lexeme.text, scan.line, scan.gap.space, scan.gap.newline⟩], lexeme.rest⟩

def Scan.start (chars : List Char) : Scan := ⟨1, Gap.none, [], chars⟩

end Turns

section Sigils

variable {name : String} {start : Nat} {opener closer : Char}

theorem advances_sigilTurn {nested later : Nested}
    (made : sigilTurn name start opener closer nested = .ok (.yield later)) : Further nested.ahead later.ahead := by
  obtain ⟨depth, line, taken, ahead⟩ := nested
  unfold sigilTurn at made
  rcases ahead with _ | ⟨c, rest⟩
  · cases made
  dsimp only [Nested.ahead] at made ⊢
  split at made
  · rcases rest with _ | ⟨escaped, rest⟩
    · cases made
      exact further_cons c []
    · cases made
      exact (further_cons escaped rest).of_suffix (List.suffix_cons c _)
  split at made
  · cases depth <;> cases made
    exact further_cons c rest
  split at made
  · cases made
    exact further_cons c rest
  · cases made
    exact further_cons c rest

theorem iterates_sigil (name : String) (start : Nat) (opener closer : Char) :
    Iterates Nested.ahead (sigilTurn name start opener closer) :=
  iterates_of_advances advances_sigilTurn

theorem closeSigil_loop (name : String) (start : Nat) (opener closer : Char) (depth line : Nat)
    (taken chars : List Char) :
    (closeSigil opener closer depth line taken chars).elim (.error (.at (.unterminatedSigil name) start)) .ok =
      (iterated Nested.ahead (sigilTurn name start opener closer) ⟨depth, line, taken, chars⟩).map
        fun last => last.cursor.body 1 := by
  have iterates := iterates_sigil name start opener closer
  fun_induction closeSigil opener closer depth line taken chars with
  | case1 depth line taken =>
    rw [iterates.of_error rfl]
    rfl
  | case2 depth line taken =>
    have turn : sigilTurn name start opener closer ⟨depth, line, taken, ['\\']⟩ =
        .ok (.yield ⟨depth, line, '\\' :: taken, []⟩) := by simp [sigilTurn]
    rw [iterates.of_yield turn, iterates.of_error rfl]
    rfl
  | case3 depth line taken escaped rest ih =>
    have turn : sigilTurn name start opener closer ⟨depth, line, taken, '\\' :: escaped :: rest⟩ =
        .ok (.yield ⟨depth, line, escaped :: '\\' :: taken, rest⟩) := by simp [sigilTurn]
    rw [iterates.of_yield turn, ih]
  | case4 line taken rest escape =>
    have turn : sigilTurn name start opener closer ⟨0, line, taken, closer :: rest⟩ =
        .ok (.done ⟨0, line, closer :: taken, rest⟩) := by simp [sigilTurn, escape]
    rw [iterates.of_done turn]
    rfl
  | case5 line taken rest depth escape ih =>
    have turn : sigilTurn name start opener closer ⟨depth + 1, line, taken, closer :: rest⟩ =
        .ok (.yield ⟨depth, lineAfter line closer, closer :: taken, rest⟩) := by simp [sigilTurn, escape]
    rw [iterates.of_yield turn, ih]
  | case6 depth line taken rest escape closes ih =>
    have turn : sigilTurn name start opener closer ⟨depth, line, taken, opener :: rest⟩ =
        .ok (.yield ⟨depth + 1, lineAfter line opener, opener :: taken, rest⟩) := by simp [sigilTurn, escape, closes]
    rw [iterates.of_yield turn, ih]
  | case7 depth line taken c rest escape closes opens ih =>
    have turn : sigilTurn name start opener closer ⟨depth, line, taken, c :: rest⟩ =
        .ok (.yield ⟨depth, lineAfter line c, c :: taken, rest⟩) := by simp [sigilTurn, escape, closes, opens]
    rw [iterates.of_yield turn, ih]

/-- A sigil between tripled quotes is scanned like a heredoc, any other one by the loop over its body. -/
theorem scanSigilBody_loop [Host] (name : String) (line : Nat) (opener : Char) (rest : List Char) :
    scanSigilBody name line opener rest =
      if IsQuote opener ∧ doubled opener rest then scanQuoted opener line rest
      else (iterated Nested.ahead (sigilTurn name line opener (sigilCloser opener)) ⟨0, line, [], rest⟩).map
        fun last => last.cursor.body 1 := by
  unfold scanSigilBody
  extract_lets plain
  have loop : plain = (iterated Nested.ahead (sigilTurn name line opener (sigilCloser opener)) ⟨0, line, [], rest⟩).map
      fun last => last.cursor.body 1 := by
    rw [← closeSigil_loop]
    unfold plain
    cases closeSigil opener (sigilCloser opener) 0 line [] rest <;> rfl
  rw [← loop]
  by_cases quotes : IsQuote opener
  · have either : opener = '"' ∨ opener = '\'' := quotes
    rw [if_pos either]
    rcases rest with _ | ⟨second, _ | ⟨third, rest⟩⟩
    · simp [doubled, startsPair]
    · simp [doubled, startsPair]
    · simp [doubled, startsPair, quotes]
  · have neither : ¬(opener = '"' ∨ opener = '\'') := quotes
    rw [if_neg neither, if_neg fun both => quotes both.1]

end Sigils

section Main

theorem advances_scanTurn [Host] {scan later : Scan} (made : scanTurn scan = .ok (.yield later)) :
    Further scan.ahead later.ahead := by
  obtain ⟨line, gap, tokens, ahead⟩ := scan
  unfold scanTurn at made
  rcases ahead with _ | ⟨c, rest⟩
  · cases made
  dsimp only at made ⊢
  split at made
  · cases made
    exact further_cons c rest
  split at made
  · cases made
    exact further_cons c rest
  split at made
  · cases made
    exact further_of_suffix (List.tail_suffix rest)
  split at made
  · cases made
    exact further_of_suffix (List.dropWhile_suffix _)
  · obtain ⟨lexeme, scanned, made⟩ := bind_eq_ok.mp made
    cases made
    obtain ⟨used, split, -⟩ := stays_scanToken scanned
    exact further_of_suffix ⟨used, split.symm⟩

/-- The main loop ends where nothing is left of the text. -/
theorem ahead_eq_nil_of_done [Host] {scan last : Scan} (made : scanTurn scan = .ok (.done last)) : last.ahead = [] := by
  obtain ⟨line, gap, tokens, ahead⟩ := scan
  unfold scanTurn at made
  rcases ahead with _ | ⟨c, rest⟩
  · cases made
    rfl
  dsimp only at made
  repeat' split at made
  · cases made
  · cases made
  · cases made
  · cases made
  · obtain ⟨lexeme, scanned, made⟩ := bind_eq_ok.mp made
    cases made

theorem iterates_scan [Host] : Iterates Scan.ahead scanTurn := iterates_of_advances advances_scanTurn

def scanBehind [Host] (gap : Gap) (line : Nat) (chars : List Char) : Except Source.Fault (List Token) :=
  match skipGap false gap line chars with
  | ⟨_, _, []⟩ => .ok []
  | ⟨gap, here, c :: rest⟩ => do
    let lexeme ← scanToken here c rest
    (scanFrom lexeme.line lexeme.rest).map (⟨lexeme.kind, lexeme.text, here, gap.space, gap.newline⟩ :: ·)

theorem scanFrom_eq_scanBehind [Host] (line : Nat) (chars : List Char) :
    scanFrom line chars = scanBehind Gap.none line chars := by
  unfold scanBehind
  cases skipped : skipGap false Gap.none line chars with
  | mk gap here rest =>
    rcases rest with _ | ⟨c, rest⟩
    · exact scanFrom_end skipped
    · cases scanned : scanToken here c rest with
      | error fault =>
        rw [scanFrom_failed skipped scanned]
        dsimp only
        rw [scanned]
        rfl
      | ok lexeme =>
        rw [scanFrom_step skipped scanned]
        dsimp only
        rw [scanned]
        rfl

theorem scanBehind_eq [Host] {gap other : Gap} {line there : Nat} {chars rest : List Char}
    (same : skipGap false gap line chars = skipGap false other there rest) :
    scanBehind gap line chars = scanBehind other there rest := by
  rw [scanBehind, same, scanBehind]

theorem scanBehind_token [Host] {gap : Gap} {line : Nat} {c : Char} {rest : List Char}
    (stop : beginsGap (c :: rest) = false) :
    scanBehind gap line (c :: rest) = scanToken line c rest >>= fun lexeme =>
      (scanFrom lexeme.line lexeme.rest).map (⟨lexeme.kind, lexeme.text, line, gap.space, gap.newline⟩ :: ·) := by
  rw [scanBehind, skipGap_stop stop]

theorem skipGap_dropWhile (gap : Gap) (line : Nat) (chars : List Char) :
    skipGap true gap line chars = skipGap false gap line (chars.dropWhile (· ≠ '\n')) := by
  induction chars with
  | nil => rfl
  | cons c rest ih =>
    by_cases ends : c = '\n'
    · have breaks : ∀ comment, skipGap comment gap line (c :: rest) = skipGap false gap.addNewline (line + 1) rest := by
        intro comment
        rw [skipGap.eq_def]
        exact if_pos ends
      rw [List.dropWhile_cons_of_neg (by simpa using ends), breaks, breaks]
    · rw [List.dropWhile_cons_of_pos (by simpa using ends), ← ih, skipGap.eq_def]
      simp [ends]

/-- An iteration within a gap adds no token and leaves the gap as it will be found. -/
theorem scanTurn_gap [Host] {scan : Scan} (begins : beginsGap scan.ahead = true) :
    ∃ later : Scan, scanTurn scan = .ok (.yield later) ∧ later.tokens = scan.tokens ∧
      skipGap false scan.gap scan.line scan.ahead = skipGap false later.gap later.line later.ahead := by
  obtain ⟨line, gap, tokens, ahead⟩ := scan
  rcases ahead with _ | ⟨c, rest⟩
  · cases begins
  by_cases lineFeed : c = '\n'
  · refine ⟨⟨line + 1, gap.addNewline, tokens, rest⟩, by simp [scanTurn, lineFeed], rfl, ?_⟩
    rw [skipGap.eq_def]
    simp [lineFeed]
  by_cases blank : isBlank c = true
  · refine ⟨⟨line, gap.addSpace, tokens, rest⟩, by simp [scanTurn, lineFeed, blank], rfl, ?_⟩
    rw [skipGap.eq_def]
    simp [lineFeed, blank]
  by_cases continuation : c = '\\' ∧ rest.head? = some '\n'
  · obtain ⟨rfl, head⟩ := continuation
    obtain ⟨after, rfl⟩ := List.head?_eq_some_iff.mp head
    refine ⟨⟨line + 1, gap.addSpace, tokens, after⟩, by simp [scanTurn, blank], rfl, ?_⟩
    rw [skipGap.eq_def]
    simp [blank]
  · have comment : c = '#' := by simpa [beginsGap, lineFeed, blank, continuation] using begins
    subst comment
    refine ⟨⟨line, gap, tokens, rest.dropWhile (· ≠ '\n')⟩, by simp [scanTurn, blank], rfl, ?_⟩
    rw [← skipGap_dropWhile, skipGap.eq_def]
    simp [blank]

theorem scanTurn_token [Host] {line : Nat} {gap : Gap} {tokens : List Token} {c : Char} {rest : List Char}
    (stop : beginsGap (c :: rest) = false) :
    scanTurn ⟨line, gap, tokens, c :: rest⟩ = scanToken line c rest >>= fun lexeme =>
      .ok (.yield ⟨lexeme.line, Gap.none, tokens ++ [⟨lexeme.kind, lexeme.text, line, gap.space, gap.newline⟩],
        lexeme.rest⟩) := by
  simp only [beginsGap, Bool.or_eq_false_iff, decide_eq_false_iff_not, Bool.and_eq_false_iff] at stop
  obtain ⟨⟨⟨lineFeed, blank⟩, comment⟩, continuation⟩ := stop
  simp only [scanTurn, if_neg lineFeed, blank, Bool.false_eq_true, if_neg (not_and_or.mpr continuation), if_neg comment,
    if_false]
  rfl

/-- What the scan of a text gives is what the main loop adds to its tokens. -/
theorem scanBehind_loop [Host] (scan : Scan) :
    (iterated Scan.ahead scanTurn scan).map Scan.tokens =
      (scanBehind scan.gap scan.line scan.ahead).map (scan.tokens ++ ·) := by
  induction size : scan.ahead.length using Nat.strong_induction_on generalizing scan with
  | _ size ih =>
    subst size
    cases begins : beginsGap scan.ahead with
    | true =>
      obtain ⟨later, turn, kept, same⟩ := scanTurn_gap begins
      rw [iterates_scan.of_yield turn, ih _ (advances_scanTurn turn).length_lt later rfl, scanBehind_eq same, kept]
    | false =>
      obtain ⟨line, gap, tokens, ahead⟩ := scan
      rcases ahead with _ | ⟨c, rest⟩
      · rw [iterates_scan.of_done rfl]
        simp [scanBehind, skipGap, Except.map]
      have turn : scanTurn ⟨line, gap, tokens, c :: rest⟩ = _ := scanTurn_token begins
      rw [scanBehind_token begins]
      cases scanned : scanToken line c rest with
      | error fault =>
        rw [scanned] at turn
        rw [iterates_scan.of_error turn]
        rfl
      | ok lexeme =>
        rw [scanned] at turn
        have later := ih _ (advances_scanTurn turn).length_lt ⟨lexeme.line, Gap.none,
          tokens ++ [⟨lexeme.kind, lexeme.text, line, gap.space, gap.newline⟩], lexeme.rest⟩ rfl
        rw [iterates_scan.of_yield turn, later]
        dsimp only
        rw [← scanFrom_eq_scanBehind]
        show _ = ((scanFrom lexeme.line lexeme.rest).map _).map _
        cases scanFrom lexeme.line lexeme.rest <;> simp [Except.map]

/-- The tokens of a text are those that the main loop comes to. -/
theorem scan_loop [Host] (source : String) :
    scan source = (iterated Scan.ahead scanTurn (Scan.start (unifyBreaks source.toList))).map Scan.tokens := by
  rw [scanBehind_loop, scan, scanFrom_eq_scanBehind]
  show _ = (scanBehind Gap.none 1 (unifyBreaks source.toList)).map ([] ++ ·)
  cases scanBehind Gap.none 1 (unifyBreaks source.toList) <;> rfl

end Main

section Offsets

def offsets (start : Nat) : List Piece → List Nat
  | [] => []
  | piece :: pieces =>
    (start + piece.gap.length) :: offsets (start + piece.gap.length + piece.text.length) pieces

variable {pieces : List Piece} (long : ∀ piece ∈ pieces, piece.text ≠ [])

include long

theorem offsets_inside (start : Nat) (last : List Char) : ∀ offset ∈ offsets start pieces,
    start ≤ offset ∧ offset < start + (Split.chars ⟨pieces, last⟩).length := by
  induction pieces generalizing start with
  | nil => simp [offsets]
  | cons piece pieces ih =>
    obtain ⟨first, others⟩ := List.forall_mem_cons.mp long
    have positive : 0 < piece.text.length := List.length_pos_iff.mpr first
    have later := ih others (start + piece.gap.length + piece.text.length)
    simp only [Split.chars, List.flatMap_cons, List.length_append] at later ⊢
    refine List.forall_mem_cons.mpr ⟨by omega, fun offset mem => ?_⟩
    obtain ⟨above, below⟩ := later offset mem
    omega

theorem offsets_increasing (start : Nat) : (offsets start pieces).Pairwise (· < ·) := by
  induction pieces generalizing start with
  | nil => exact .nil
  | cons piece pieces ih =>
    obtain ⟨first, others⟩ := List.forall_mem_cons.mp long
    have positive : 0 < piece.text.length := List.length_pos_iff.mpr first
    refine .cons (fun offset mem => ?_) (ih others _)
    obtain ⟨above, -⟩ := offsets_inside others (start + piece.gap.length + piece.text.length) [] offset mem
    omega

theorem length_pieces_le (last : List Char) : pieces.length ≤ (Split.chars ⟨pieces, last⟩).length := by
  induction pieces with
  | nil => exact Nat.zero_le _
  | cons piece pieces ih =>
    obtain ⟨first, others⟩ := List.forall_mem_cons.mp long
    have positive : 0 < piece.text.length := List.length_pos_iff.mpr first
    have later := ih others
    simp only [Split.chars, List.flatMap_cons, List.length_append, List.length_cons] at later ⊢
    omega

end Offsets

section Depth

def Told [Host] (chars : List Char) (fault : Source.Fault) : Prop :=
  fault = .literalsTooDeep → ∃ quote rest, quote :: rest <:+ chars ∧ IsQuote quote ∧ Host.literalNesting < nesting quote rest

theorem heredoc_not_tooDeep (quote : Char) (opened : Nat) (cursor : Cursor) :
    Outcome (fun _ => True) (· ≠ .literalsTooDeep) (iterated Cursor.ahead (heredocTurn quote opened) cursor) := by
  apply (iterates_heredoc quote opened).outcome
  · intro cursor fault failed
    unfold heredocTurn at failed
    split at failed
    · cases failed
      simp
    · dsimp only at failed
      split at failed <;> cases failed
  · exact fun _ => trivial
  · exact fun _ _ => trivial

theorem Told.of_suffix [Host] {chars rest : List Char} {fault : Source.Fault} (told : Told rest fault)
    (ends : rest <:+ chars) : Told chars fault := by
  intro deep
  obtain ⟨quote, behind, inside, found⟩ := told deep
  exact ⟨quote, behind, inside.trans ends, found⟩

theorem faults_told [Host] : Faults fun _ => Told where
  here _ _ _ := nofun
  mono := Told.of_suffix
  literal {quote} line chars quotes := by
    by_cases single : doubled quote chars = false
    · by_cases shallow : nesting quote chars ≤ Host.literalNesting
      · rcases scanQuoted_outcome quotes single shallow line with ⟨body, rest, -, -, read⟩ | ⟨last, failed⟩
        · rw [read]
          trivial
        · rw [failed]
          cases last <;> nofun
      · cases scanQuoted quote line chars with
        | ok body => trivial
        | error fault => exact fun _ => ⟨quote, chars, List.suffix_rfl, quotes, Nat.lt_of_not_le shallow⟩
    · have heredoc := heredoc_not_tooDeep quote line ⟨line, [], chars.drop 2⟩
      rw [scanQuoted_loop, if_pos (by simpa using single)]
      cases passed : iterated Cursor.ahead (heredocTurn quote line) ⟨line, [], chars.drop 2⟩ with
      | ok last => trivial
      | error fault =>
        rw [passed] at heredoc
        exact fun deep => absurd deep heredoc

theorem told_scanFrom [Host] (line : Nat) (chars : List Char) :
    Outcome (fun _ => True) (Told chars) (scanFrom line chars) := by
  fun_induction scanFrom line chars with
  | case1 | case4 => trivial
  | case2 line chars gap here c rest skipped fault failed =>
    have gapped := (reaches_skipGap false Gap.none line chars).ends
    have token := fails_scanToken faults_told here c rest
    rw [skipped] at gapped
    rw [failed] at token
    exact Told.of_suffix token gapped
  | case3 line chars gap here c rest skipped lexeme scanned _ fault failed ih =>
    have gapped := (reaches_skipGap false Gap.none line chars).ends
    obtain ⟨used, split, -⟩ := stays_scanToken scanned
    have behind : lexeme.rest <:+ rest := ⟨used, split.symm⟩
    rw [skipped] at gapped
    rw [failed] at ih
    exact ih.of_suffix ((behind.trans (List.suffix_cons c rest)).trans gapped)

end Depth

structure ScanLoops [Host] : Prop where
  main : Iterates Scan.ahead scanTurn
  sigil : ∀ name start opener closer, Iterates Nested.ahead (sigilTurn name start opener closer)
  literal : ∀ room quote opened, Iterates Cursor.ahead (textTurn (passHole room) quote opened)
  interpolation : ∀ room opened, Iterates Nested.ahead (holeTurn (passLiteral room) opened)
  heredoc : ∀ quote opened, Iterates Cursor.ahead (heredocTurn quote opened)

structure ScanRuns [Host] : Prop where
  main : ∀ source, scan source =
    (iterated Scan.ahead scanTurn (Scan.start (unifyBreaks source.toList))).map Scan.tokens
  sigil : ∀ name line opener rest, scanSigilBody name line opener rest =
    if IsQuote opener ∧ doubled opener rest then scanQuoted opener line rest
    else (iterated Nested.ahead (sigilTurn name line opener (sigilCloser opener)) ⟨0, line, [], rest⟩).map
      fun last => last.cursor.body 1
  literal : ∀ quote line chars, scanQuoted quote line chars =
    if doubled quote chars then
      (iterated Cursor.ahead (heredocTurn quote line) ⟨line, [], chars.drop 2⟩).map (Cursor.body 3)
    else (iterated Cursor.ahead (textTurn (passHole Host.literalNesting) quote line) ⟨line, [], chars⟩).map (Cursor.body 1)

/-- A text is read as tokens from its start to its end: it is what the tokens were scanned from, with gaps between, and
each starts behind the one before. -/
structure Covers [Host] (chars : List Char) (tokens : List Token) : Prop where
  ended : ∃ last, iterated Scan.ahead scanTurn (Scan.start chars) = .ok last ∧ last.tokens = tokens ∧ last.ahead = []
  split : ∃ split, splitFrom 1 chars = .ok split ∧ split.pieces.map Piece.token = tokens ∧ chars = split.chars ∧
    Laid split.last split.pieces chars ∧ (offsets 0 split.pieces).Pairwise (· < ·) ∧
    ∀ offset ∈ offsets 0 split.pieces, offset < chars.length
  few : tokens.length ≤ chars.length

theorem scanLoops [Host] : ScanLoops where
  main := iterates_scan
  sigil := iterates_sigil
  literal := iterates_text
  interpolation := iterates_hole
  heredoc := iterates_heredoc

theorem scanRuns [Host] : ScanRuns where
  main := scan_loop
  sigil := scanSigilBody_loop
  literal := scanQuoted_loop

theorem covers_of_scan [Host] {source : String} {tokens : List Token} (scanned : scan source = .ok tokens) :
    Covers (unifyBreaks source.toList) tokens := by
  obtain ⟨split, found, kept⟩ := split_of_scanFrom scanned
  have laid := laid_splitFrom found
  have whole : unifyBreaks source.toList = split.chars := laid.chars_eq
  have long : ∀ piece ∈ split.pieces, piece.text ≠ [] := fun piece mem => (laid.told piece mem).1
  constructor
  · rw [scan_loop] at scanned
    obtain ⟨last, looped, same⟩ := map_eq_ok.mp scanned
    have ends : Outcome (fun last => last.ahead = []) (fun _ => True)
        (iterated Scan.ahead scanTurn (Scan.start (unifyBreaks source.toList))) :=
      iterates_scan.outcome (fun _ => trivial) ahead_eq_nil_of_done (fun _ behind => behind) _
    rw [looped] at ends
    exact ⟨last, looped, same, ends⟩
  · refine ⟨split, found, kept, whole, laid, offsets_increasing long 0, fun offset mem => ?_⟩
    have below := (offsets_inside long 0 split.last offset mem).2
    rw [whole]
    simpa using below
  · rw [← kept, List.length_map, whole]
    exact length_pieces_le long split.last

/-- No iteration of a loop of the scanner stays where it is, so the scan of any text ends: with tokens that cover the
text, or with a fault on a line of it, or because literals are nested in it deeper than they may be. -/
theorem scan_advances [Host] (source : String) : ScanLoops ∧ ScanRuns ∧
    Outcome (Covers (unifyBreaks source.toList))
      (fun fault => fault.Between 1 (1 + breaks (unifyBreaks source.toList)) ∧ Told (unifyBreaks source.toList) fault)
      (scan source) := by
  refine ⟨scanLoops, scanRuns, ?_⟩
  have between := scanFrom_between 1 (unifyBreaks source.toList)
  have told := told_scanFrom 1 (unifyBreaks source.toList)
  cases scanned : scan source with
  | ok tokens => exact covers_of_scan scanned
  | error fault =>
    have failed : scanFrom 1 (unifyBreaks source.toList) = .error fault := scanned
    rw [failed] at between told
    exact ⟨between, told⟩

def openings : Nat → List Char
  | 0 => []
  | count + 1 => '"' :: '#' :: '\x7b' :: openings count

/-- What opens in a row needs more room than there is, before the end of the text is seen. -/
theorem closeLiteral_openings [Host] (count : Nat) (around : List Open) (opened line : Nat) (taken : List Char)
    (deep : Host.literalNesting ≤ around.length + 2 * count) :
    closeLiteral around (.text '"' opened) line taken ('#' :: '\x7b' :: openings count) = .error .literalsTooDeep := by
  induction count generalizing around opened line taken with
  | zero => rw [closeLiteral_hole (by decide), if_pos (by omega)]
  | succ count ih =>
    rw [closeLiteral_hole (by decide)]
    split
    · rfl
    have single : ¬tripled '"' <+: openings (count + 1) := by simp [openings, tripled]
    rw [openings, closeLiteral_single (.inl rfl) single]
    split
    · rfl
    · exact ih _ _ _ _ (by simp only [List.length_cons]; omega)

theorem return_not_mem_openings (count : Nat) : '\r' ∉ openings count := by
  induction count with
  | zero => exact List.not_mem_nil
  | succ count ih => simp [openings, ih]

/-- Where too many literals are open it is not told that the text ends within them. -/
theorem scan_openings [Host] {count : Nat} (deep : Host.literalNesting ≤ 2 * count) :
    scanTurn (Scan.start (openings (count + 1))) = .error .literalsTooDeep ∧
      scan (String.ofList (openings (count + 1))) = .error .literalsTooDeep := by
  have body : scanQuoted '"' 1 ('#' :: '\x7b' :: openings count) = .error .literalsTooDeep := by
    rw [scanQuoted_eq, if_neg (by simp [doubled, startsPair])]
    exact closeLiteral_openings count [] 1 1 [] (by simpa using deep)
  have token : scanToken 1 '"' ('#' :: '\x7b' :: openings count) = .error .literalsTooDeep := by
    have noDigit : Text.isDigit '"' = false := by decide
    have noStart : isIdentifierStart '"' = false := by decide
    have noLetter : Text.isLetter '"' = false := by decide
    simp [scanToken, noDigit, noStart, noLetter, scanQuotedToken, body, bind, Except.bind]
  have turn : scanTurn (Scan.start (openings (count + 1))) = .error .literalsTooDeep := by
    simp [scanTurn, Scan.start, openings, isBlank, token, bind, Except.bind]
  refine ⟨turn, ?_⟩
  have plain : '\r' ∉ openings (count + 1) := return_not_mem_openings _
  rw [scan_loop, String.toList_ofList, unifyBreaks_eq_self (.inl plain), iterates_scan.of_error turn]
  rfl

attribute [local instance] Host.ordinary in
/-- Three thousand strings within one another, none of them closed. -/
theorem scan_openings_strings :
    scanTurn (Scan.start (openings 3000)) = .error .literalsTooDeep ∧
      scan (String.ofList (openings 3000)) = .error .literalsTooDeep :=
  scan_openings (by decide)

end BoundaryLint.Token
