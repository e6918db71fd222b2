import BoundaryLint.Proofs.Token.Replacement
import Mathlib

/-!
Layout. A text that is scanned splits into the texts of its tokens and the gaps before, between and behind them.
Tokens know of a gap only whether it is empty and whether it ends a line, so another gap of which both are true alike
may stand in its place.
-/

namespace BoundaryLint.Token

/-- What a gap consists of. A comment goes on to the end of its line, which it takes with it. -/
inductive Filler where
  | blank (c : Char) (blank : isBlank c = true)
  | lineFeed
  | continuation
  | comment (text : List Char) (inside : '\n' ∉ text)

namespace Filler

def chars : Filler → List Char
  | .blank c _ => [c]
  | .lineFeed => ['\n']
  | .continuation => ['\\', '\n']
  | .comment text _ => '#' :: (text ++ ['\n'])

/-- It holds a line feed that no backslash joins to the next line. -/
def breaksLine : Filler → Bool
  | .lineFeed | .comment _ _ => true
  | .blank _ _ | .continuation => false

end Filler

def gapChars (gap : List Filler) : List Char := gap.flatMap Filler.chars

/-- What may stand behind the last token: a gap, and a comment on the last line that no line feed ends. -/
structure Ending where
  gap : List Filler
  comment : Option { text : List Char // '\n' ∉ text }

def Ending.chars (ending : Ending) : List Char :=
  gapChars ending.gap ++ (ending.comment.map fun text => '#' :: text.val).getD []

structure Piece where
  gap : List Char
  text : List Char
  token : Token

structure Split where
  pieces : List Piece
  last : List Char

def Split.chars (split : Split) : List Char := split.pieces.flatMap (fun piece => piece.gap ++ piece.text) ++ split.last

def inFront (chars rest : List Char) : List Char := chars.take (chars.length - rest.length)

theorem inFront_append (first rest : List Char) : inFront (first ++ rest) rest = first := by
  rw [inFront, List.length_append, Nat.add_sub_cancel, List.take_left]

def splitFrom [Host] (line : Nat) (chars : List Char) : Except Source.Fault Split :=
  match skipped : skipGap false Gap.none line chars with
  | ⟨_, _, []⟩ => .ok ⟨[], chars⟩
  | ⟨gap, here, c :: rest⟩ =>
    match scanned : scanToken here c rest with
    | .error fault => .error fault
    | .ok lexeme =>
      have _shorter := rest_lt_of_scan skipped scanned
      match splitFrom lexeme.line lexeme.rest with
      | .error fault => .error fault
      | .ok later =>
        .ok ⟨⟨inFront chars (c :: rest), inFront (c :: rest) lexeme.rest,
          ⟨lexeme.kind, lexeme.text, here, gap.space, gap.newline⟩⟩ :: later.pieces, later.last⟩
termination_by chars.length

theorem splitFrom_tokens [Host] (line : Nat) (chars : List Char) :
    (splitFrom line chars).map (fun split => split.pieces.map Piece.token) = scanFrom line chars := by
  fun_induction splitFrom line chars with
  | case1 line chars gap here skipped =>
    rw [scanFrom_end skipped]
    rfl
  | case2 line chars gap here c rest skipped fault failed =>
    rw [scanFrom_failed skipped failed]
    rfl
  | case3 line chars gap here c rest skipped lexeme scanned _ fault failed ih =>
    rw [scanFrom_step skipped scanned, ← ih, failed]
    rfl
  | case4 line chars gap here c rest skipped lexeme scanned _ later found ih =>
    rw [scanFrom_step skipped scanned, ← ih, found]
    rfl

section Gaps

theorem isBlank_ne_break {c : Char} (blank : isBlank c = true) : c ≠ '\n' ∧ c ≠ '\r' := by
  constructor
  · rintro rfl
    revert blank
    decide
  · rintro rfl
    revert blank
    decide

theorem gapChars_cons (filler : Filler) (gap : List Filler) :
    gapChars (filler :: gap) = filler.chars ++ gapChars gap := List.flatMap_cons

theorem skipGap_comment {text : List Char} (inside : '\n' ∉ text) (gap : Gap) (line : Nat) (rest : List Char) :
    skipGap true gap line (text ++ '\n' :: rest) = skipGap false gap.addNewline (line + 1) rest := by
  induction text with
  | nil =>
    rw [List.nil_append, skipGap.eq_def]
    simp
  | cons c text ih =>
    have other := List.ne_of_not_mem_cons inside
    rw [List.cons_append, skipGap.eq_def]
    simp [other.symm, ih (List.not_mem_of_not_mem_cons inside)]

theorem skipGap_lastComment {text : List Char} (inside : '\n' ∉ text) (gap : Gap) (line : Nat) :
    skipGap true gap line text = ⟨gap, line, []⟩ := by
  induction text with
  | nil => rfl
  | cons c text ih =>
    have other := List.ne_of_not_mem_cons inside
    rw [skipGap.eq_def]
    simp [other.symm, ih (List.not_mem_of_not_mem_cons inside)]

theorem skipGap_filler (filler : Filler) (before : Gap) (line : Nat) :
    ∃ here, ∀ rest, skipGap false before line (filler.chars ++ rest) =
      skipGap false ⟨true, before.newline || filler.breaksLine⟩ here rest := by
  cases filler with
  | blank c blank =>
    refine ⟨line, fun rest => ?_⟩
    rw [Filler.chars, List.singleton_append, skipGap.eq_def]
    simp [(isBlank_ne_break blank).1, blank, Gap.addSpace, Filler.breaksLine]
  | lineFeed =>
    refine ⟨line + 1, fun rest => ?_⟩
    rw [Filler.chars, List.singleton_append, skipGap.eq_def]
    simp [Gap.addNewline, Filler.breaksLine]
  | continuation =>
    refine ⟨line + 1, fun rest => ?_⟩
    rw [Filler.chars, List.cons_append, List.singleton_append, skipGap.eq_def]
    simp [isBlank, Gap.addSpace, Filler.breaksLine]
  | comment text inside =>
    refine ⟨line + 1, fun rest => ?_⟩
    rw [Filler.chars, List.cons_append, List.append_assoc, List.singleton_append, skipGap.eq_def]
    simp [isBlank, skipGap_comment inside, Gap.addNewline, Filler.breaksLine]

/-- A gap is passed over, whatever stands behind it. -/
theorem skipGap_gapChars (gap : List Filler) (before : Gap) (line : Nat) :
    ∃ here, ∀ rest, skipGap false before line (gapChars gap ++ rest) =
      skipGap false ⟨before.space || !gap.isEmpty, before.newline || gap.any Filler.breaksLine⟩ here rest := by
  induction gap generalizing before line with
  | nil => exact ⟨line, by simp [gapChars]⟩
  | cons filler gap ih =>
    obtain ⟨middle, first⟩ := skipGap_filler filler before line
    obtain ⟨here, later⟩ := ih ⟨true, before.newline || filler.breaksLine⟩ middle
    refine ⟨here, fun rest => ?_⟩
    rw [gapChars_cons, List.append_assoc, first, later]
    simp [Bool.or_assoc]

theorem skipGap_ending (ending : Ending) (before : Gap) (line : Nat) :
    (skipGap false before line ending.chars).rest = [] := by
  obtain ⟨here, passed⟩ := skipGap_gapChars ending.gap before line
  rw [Ending.chars, passed]
  cases ending.comment with
  | none => rfl
  | some text =>
    rw [skipGap.eq_def]
    simp [isBlank, skipGap_lastComment text.property]

def Skips (chars rest : List Char) : Prop :=
  ∃ ending : Ending, chars = ending.chars ++ rest ∧ beginsGap rest = false ∧ (rest ≠ [] → ending.comment = none)

theorem Skips.cons (filler : Filler) {chars rest : List Char} (skips : Skips chars rest) :
    Skips (filler.chars ++ chars) rest := by
  obtain ⟨ending, rfl, stop, closed⟩ := skips
  refine ⟨⟨filler :: ending.gap, ending.comment⟩, ?_, stop, closed⟩
  rw [Ending.chars, Ending.chars, gapChars_cons]
  simp only [List.append_assoc]

theorem Skips.stop {chars : List Char} (stop : beginsGap chars = false) : Skips chars chars :=
  ⟨⟨[], none⟩, rfl, stop, fun _ => rfl⟩

theorem skips_skipGap (comment : Bool) (gap : Gap) (line : Nat) (chars : List Char) :
    (comment = false → Skips chars (skipGap comment gap line chars).rest) ∧
      (comment = true → ∀ text, '\n' ∉ text →
        Skips ('#' :: (text ++ chars)) (skipGap comment gap line chars).rest) := by
  -- In a comment, `text` is what has been read of it.
  fun_induction skipGap comment gap line chars with
  | case1 =>
    refine ⟨fun _ => .stop rfl, fun _ text inside => ⟨⟨[], some ⟨text, inside⟩⟩, ?_, rfl, by simp⟩⟩
    simp [Ending.chars, gapChars]
  | case2 comment gap line rest ih =>
    refine ⟨fun _ => (ih.1 rfl).cons .lineFeed, fun _ text inside => ?_⟩
    simpa [Filler.chars] using (ih.1 rfl).cons (.comment text inside)
  | case3 gap line c rest other ih =>
    refine ⟨by simp, fun _ text inside => ?_⟩
    have longer : '\n' ∉ text ++ [c] := by simp [inside, Ne.symm other]
    simpa using ih.2 rfl (text ++ [c]) longer
  | case4 comment gap line c rest other plain blank ih =>
    exact ⟨fun _ => (ih.1 rfl).cons (.blank c blank), fun inside => absurd inside plain⟩
  | case5 comment gap line rest plain _ _ ih =>
    exact ⟨fun _ => ih.2 rfl [] (List.not_mem_nil), fun inside => absurd inside plain⟩
  | case6 comment gap line plain =>
    exact ⟨fun _ => .stop (by decide), fun inside => absurd inside plain⟩
  | case7 comment gap line plain after _ _ _ ih =>
    exact ⟨fun _ => (ih.1 rfl).cons .continuation, fun inside => absurd inside plain⟩
  | case8 comment gap line plain following after other =>
    exact ⟨fun _ => .stop (by simp [beginsGap, isBlank, other]), fun inside => absurd inside plain⟩
  | case9 comment gap line c rest other plain blank hash backslash =>
    exact ⟨fun _ => .stop (by simp [beginsGap, other, blank, hash, backslash]), fun inside => absurd inside plain⟩

end Gaps

def onLine (line : Nat) (token : Token) : Token := { token with line }

/-- What a token tells of the gap before it: whether it is empty, and whether it breaks the line. -/
def Tells (token : Token) (gap : List Filler) : Prop :=
  token.spaceBefore = !gap.isEmpty ∧ token.newlineBefore = gap.any Filler.breaksLine

inductive Laid [Host] (last : List Char) : List Piece → List Char → Prop
  | nil (ending : Ending) (whole : last = ending.chars) : Laid last [] last
  | cons {gap : List Filler} {c : Char} {used : List Char} {lexeme : Lexeme} {line : Nat} {space newline : Bool}
    {pieces : List Piece} (tells : Tells ⟨lexeme.kind, lexeme.text, line, space, newline⟩ gap)
    (stop : beginsGap (c :: (used ++ lexeme.rest)) = false)
    (scanned : scanToken line c (used ++ lexeme.rest) = .ok lexeme) (later : Laid last pieces lexeme.rest) :
    Laid last (⟨gapChars gap, c :: used, ⟨lexeme.kind, lexeme.text, line, space, newline⟩⟩ :: pieces)
      (gapChars gap ++ c :: (used ++ lexeme.rest))

section Splitting

theorem laid_splitFrom [Host] {line : Nat} {chars : List Char} {result : Split}
    (found : splitFrom line chars = .ok result) :
    Laid result.last result.pieces chars := by
  fun_induction splitFrom line chars generalizing result with
  | case1 line chars gap here skipped =>
    cases found
    have skips := (skips_skipGap false Gap.none line chars).1 rfl
    rw [skipped] at skips
    obtain ⟨ending, whole, -, -⟩ := skips
    exact .nil ending (by simpa using whole)
  | case2 | case3 => cases found
  | case4 line chars gap here c rest skipped lexeme scanned _ later given ih =>
    cases found
    have skips := (skips_skipGap false Gap.none line chars).1 rfl
    rw [skipped] at skips
    obtain ⟨⟨fillers, comment⟩, rfl, stop, closed⟩ := skips
    obtain rfl : comment = none := closed (by simp)
    have plain : Ending.chars ⟨fillers, none⟩ = gapChars fillers := by simp [Ending.chars]
    rw [plain] at skipped ⊢
    obtain ⟨after, passed⟩ := skipGap_gapChars fillers Gap.none line
    rw [passed, skipGap_stop stop] at skipped
    cases skipped
    obtain ⟨used, rfl, -⟩ := stays_scanToken scanned
    have token : inFront (c :: (used ++ lexeme.rest)) lexeme.rest = c :: used := inFront_append (c :: used) _
    rw [inFront_append, token]
    exact .cons ⟨by simp [Gap.none], by simp [Gap.none]⟩ stop scanned (ih given)

theorem Laid.chars_eq [Host] {last : List Char} {pieces : List Piece} {chars : List Char}
    (laid : Laid last pieces chars) :
    chars = Split.chars ⟨pieces, last⟩ := by
  induction laid with
  | nil ending whole => rfl
  | cons tells stop scanned later ih => simp [Split.chars, ih]

/-- A token tells the same of a gap however one reads its characters. -/
theorem Tells.of_chars {token : Token} {gap other : List Filler} (tells : Tells token gap)
    (same : gapChars gap = gapChars other) : Tells token other := by
  obtain ⟨here, passed⟩ := skipGap_gapChars gap Gap.none 1
  obtain ⟨there, again⟩ := skipGap_gapChars other Gap.none 1
  have equal := (passed []).symm.trans (same ▸ again [])
  simp only [skipGap, Gap.none, Bool.false_or, GapEnd.mk.injEq, Gap.mk.injEq] at equal
  exact ⟨tells.1.trans equal.1.1, tells.2.trans equal.1.2⟩

theorem Laid.told [Host] {last : List Char} {pieces : List Piece} {chars : List Char} (laid : Laid last pieces chars) :
    ∀ piece ∈ pieces, piece.text ≠ [] ∧ (∃ gap, piece.gap = gapChars gap) ∧
      ∀ gap, piece.gap = gapChars gap → Tells piece.token gap := by
  induction laid with
  | nil ending whole => exact List.forall_mem_nil _
  | cons tells stop scanned later ih =>
    exact List.forall_mem_cons.mpr
      ⟨⟨List.cons_ne_nil _ _, ⟨_, rfl⟩, fun gap same => tells.of_chars same⟩, ih⟩

theorem Laid.ends [Host] {last : List Char} {pieces : List Piece} {chars : List Char} (laid : Laid last pieces chars) :
    ∃ ending : Ending, last = ending.chars := by
  induction laid with
  | nil ending whole => exact ⟨ending, whole⟩
  | cons tells stop scanned later ih => exact ih

theorem split_of_scanFrom [Host] {line : Nat} {chars : List Char} {tokens : List Token}
    (scanned : scanFrom line chars = .ok tokens) :
    ∃ split, splitFrom line chars = .ok split ∧ split.pieces.map Piece.token = tokens := by
  have kept := splitFrom_tokens line chars
  rw [scanned] at kept
  exact map_eq_ok.mp kept

theorem split_of_scan [Host] {source : String} {tokens : List Token} (plain : '\r' ∉ source.toList)
    (scanned : scan source = .ok tokens) :
    ∃ split, splitFrom 1 source.toList = .ok split ∧ split.pieces.map Piece.token = tokens := by
  rw [scan, unifyBreaks_eq_self (.inl plain)] at scanned
  exact split_of_scanFrom scanned

end Splitting

def AfterKey (gap : List Char) : Prop := ∀ c ∈ gap.head?, c = ' ' ∨ c = '\t' ∨ c = '\n'

/-- Gaps that can stand in place of those between the pieces and of the last one: the tokens tell the same of them, and
the last one is empty where the old one is. `key` says that a key stands before the first. -/
def Fits (last : List Char) (ending : Ending) (key : Prop) : List Piece → List (List Filler) → Prop
  | [], [] => (ending.chars = [] ↔ last = []) ∧ (key → AfterKey ending.chars)
  | piece :: pieces, gap :: gaps =>
    Tells piece.token gap ∧ (key → AfterKey (gapChars gap)) ∧
      Fits last ending (piece.token.kind = .key) pieces gaps
  | _, _ => False

def relaid (ending : Ending) : List Piece → List (List Filler) → List Char
  | piece :: pieces, gap :: gaps => gapChars gap ++ (piece.text ++ relaid ending pieces gaps)
  | _, _ => ending.chars

theorem relaid_nil (ending : Ending) : relaid ending [] [] = ending.chars := rfl

theorem relaid_cons (ending : Ending) (piece : Piece) (pieces : List Piece) (gap : List Filler)
    (gaps : List (List Filler)) :
    relaid ending (piece :: pieces) (gap :: gaps) = gapChars gap ++ (piece.text ++ relaid ending pieces gaps) := rfl

section Relaying

variable {last : List Char} {ending : Ending} {key : Prop} {pieces : List Piece} {gaps : List (List Filler)}
  {chars : List Char}

theorem beginsGap_filler (filler : Filler) (rest : List Char) : beginsGap (filler.chars ++ rest) = true := by
  cases filler with
  | blank c blank => simp [Filler.chars, beginsGap, blank]
  | lineFeed => rfl
  | continuation => rfl
  | comment text inside => simp [Filler.chars, beginsGap]

theorem beginsGap_gapChars {gap : List Filler} (long : gap ≠ []) (rest : List Char) :
    beginsGap (gapChars gap ++ rest) = true := by
  cases gap with
  | nil => contradiction
  | cons filler gap =>
    rw [gapChars_cons, List.append_assoc]
    exact beginsGap_filler filler _

theorem beginsGap_ending (long : ending.chars ≠ []) : beginsGap ending.chars = true := by
  obtain ⟨gap, comment⟩ := ending
  cases gap with
  | nil =>
    cases comment with
    | none => exact absurd rfl long
    | some text => simp [Ending.chars, gapChars, beginsGap]
  | cons filler gap => exact beginsGap_gapChars (by simp) _

theorem startsKey_of_beginsGap (begins : beginsGap chars = true) : startsKey chars = false := by
  cases chars with
  | nil => rfl
  | cons c rest =>
    refine startsKey_eq_false fun d head => ?_
    obtain rfl : c = d := by simpa using head
    rintro rfl
    exact absurd (mem_gapStarts begins) (by decide)

theorem startsKey_afterKey {gap : List Char} (after : AfterKey gap) (rest : List Char) (long : gap ≠ [] ∨ rest = []) :
    startsKey (':' :: (gap ++ rest)) = true := by
  cases gap with
  | nil =>
    obtain rfl := long.resolve_left (by simp)
    rfl
  | cons c gap =>
    have blank := after c rfl
    simpa [startsKey, or_assoc] using blank

theorem Tells.isEmpty_eq {token : Token} {gap other : List Filler} (tells : Tells token gap)
    (same : Tells token other) :
    gap = [] ↔ other = [] := by
  have both := tells.1.symm.trans same.1
  cases gap <;> cases other <;> simp_all

/-- The other text is equal up to the first gap. -/
theorem Laid.alike [Host] (laid : Laid last pieces chars) (fits : Fits last ending key pieces gaps) :
    Alike chars (relaid ending pieces gaps) := by
  induction laid generalizing key gaps with
  | nil old whole =>
    match gaps, fits with
    | [], fits =>
      by_cases empty : last = []
      · rw [relaid_nil, empty, fits.1.mpr empty]
        exact .nil
      · refine .gap ?_ (beginsGap_ending fun none => empty (fits.1.mp none))
        rw [whole] at empty ⊢
        exact beginsGap_ending empty
  | @cons old c used lexeme line space newline pieces tells stop scanned later ih =>
    match gaps, fits with
    | gap :: gaps, ⟨same, _, fits⟩ =>
      by_cases empty : gap = []
      · rw [(tells.isEmpty_eq same).mpr empty, empty]
        exact (ih fits).append (c :: used)
      · have filled := fun none => empty ((tells.isEmpty_eq same).mp none)
        exact .gap (beginsGap_gapChars filled _) (beginsGap_gapChars empty _)

/-- No colon loses or gets a blank behind it that would make it the colon of a key. -/
theorem Laid.startsKey_eq [Host] (laid : Laid last pieces chars) (fits : Fits last ending key pieces gaps) :
    startsKey (relaid ending pieces gaps) = startsKey chars := by
  cases laid with
  | nil old whole =>
    match gaps, fits with
    | [], fits =>
      by_cases empty : last = []
      · rw [relaid_nil, empty, fits.1.mpr empty]
      · have begins := beginsGap_ending fun none => empty (fits.1.mp none)
        rw [whole] at empty ⊢
        rw [relaid_nil, startsKey_of_beginsGap begins, startsKey_of_beginsGap (beginsGap_ending empty)]
  | @cons old c used lexeme line space newline pieces tells stop scanned later =>
    match gaps, fits with
    | gap :: gaps, ⟨same, _, fits⟩ =>
      by_cases empty : gap = []
      · rw [(tells.isEmpty_eq same).mpr empty, empty]
        by_cases colon : c = ':'
        · have long := rest_lt_of_mark (.inl colon) scanned
          cases used with
          | nil => simp at long
          | cons d used => simp [relaid_cons, gapChars, colon, startsKey]
        · have plain : ∀ rest, startsKey (c :: rest) = false := by simp [startsKey, colon]
          simp [relaid_cons, gapChars, plain]
      · have filled := fun none => empty ((tells.isEmpty_eq same).mp none)
        rw [relaid_cons, startsKey_of_beginsGap (beginsGap_gapChars empty _),
          startsKey_of_beginsGap (beginsGap_gapChars filled _)]

theorem Laid.startsKey_behind [Host] (laid : Laid last pieces chars) (fits : Fits last ending key pieces gaps)
    (holds : key) (behind : startsKey (':' :: chars) = true) : startsKey (':' :: relaid ending pieces gaps) = true := by
  cases laid with
  | nil old whole =>
    match gaps, fits with
    | [], fits =>
      have blank := startsKey_afterKey (fits.2 holds) [] (.inr rfl)
      rwa [List.append_nil] at blank
  | @cons old c used lexeme line space newline pieces tells stop scanned later =>
    match gaps, fits with
    | gap :: gaps, ⟨same, after, fits⟩ =>
      by_cases empty : gap = []
      · -- The token would stand right behind the key, but a blank does.
        rw [(tells.isEmpty_eq same).mpr empty] at behind
        simp only [gapChars, List.flatMap_nil, List.nil_append, startsKey, Bool.or_eq_true, decide_eq_true_eq,
          or_assoc] at behind
        rcases behind with rfl | rfl | rfl <;> cases stop
      · refine startsKey_afterKey (after holds) _ (.inl ?_)
        intro none
        have begins := beginsGap_gapChars empty []
        rw [none] at begins
        cases begins

theorem scanFrom_ending [Host] (ending : Ending) (line : Nat) : scanFrom line ending.chars = .ok [] := by
  have passed := skipGap_ending ending Gap.none line
  cases skipped : skipGap false Gap.none line ending.chars with
  | mk gap here rest =>
    rw [skipped] at passed
    obtain rfl : rest = [] := passed
    exact scanFrom_end skipped

/-- The other text is scanned to the same tokens, perhaps on other lines. -/
theorem Laid.scan_relaid [Host] (laid : Laid last pieces chars) (fits : Fits last ending key pieces gaps) (line : Nat) :
    ∃ others, scanFrom line (relaid ending pieces gaps) = .ok others ∧
      others.map (onLine 1) = (pieces.map Piece.token).map (onLine 1) := by
  induction laid generalizing key gaps line with
  | nil old whole =>
    match gaps, fits with
    | [], fits => exact ⟨[], scanFrom_ending ending line, rfl⟩
  | @cons old c used lexeme start space newline pieces tells stop scanned later ih =>
    match gaps, fits with
    | gap :: gaps, ⟨same, _, fits⟩ =>
      have replaces : Replaces lexeme (relaid ending pieces gaps) :=
        ⟨later.alike fits, later.startsKey_eq fits, fun iskey =>
          later.startsKey_behind fits iskey (startsKey_of_key scanned iskey)⟩
      obtain ⟨more, split, again⟩ := stays_scanToken scanned
      obtain rfl : used = more := List.append_cancel_right split
      obtain ⟨here, passed⟩ := skipGap_gapChars gap Gap.none line
      obtain ⟨after, given⟩ := again here _ replaces
      obtain ⟨others, found, equal⟩ := ih fits after
      have lone : c :: used ≠ ['\\'] := by
        intro single
        cases single
        exact absurd (rest_lt_of_mark (.inr rfl) scanned) (by simp)
      have stops : beginsGap (c :: (used ++ relaid ending pieces gaps)) = false := by
        rw [← List.cons_append, beginsGap_append _ (List.cons_ne_nil _ _)] at stop ⊢
        all_goals assumption
      have skipped := passed (c :: (used ++ relaid ending pieces gaps))
      rw [skipGap_stop stops] at skipped
      rw [relaid_cons, List.cons_append, scanFrom_step skipped given, found]
      refine ⟨_, rfl, ?_⟩
      obtain ⟨spaced, broken⟩ := same
      simp only at spaced broken
      simp only [List.map_cons, equal, onLine, Gap.none, Bool.false_or, ← spaced, ← broken]

end Relaying

section Breaks

theorem unifyBreaks_cons {c : Char} (other : c ≠ '\r') (rest : List Char) :
    unifyBreaks (c :: rest) = c :: unifyBreaks rest := by
  cases rest with
  | nil => rfl
  | cons d rest => simp [unifyBreaks, other]

theorem unifyBreaks_append {word : List Char} (plain : '\r' ∉ word) (rest : List Char) :
    unifyBreaks (word ++ rest) = word ++ unifyBreaks rest := by
  induction word with
  | nil => rfl
  | cons c word ih =>
    have other := List.ne_of_not_mem_cons plain
    rw [List.cons_append, unifyBreaks_cons other.symm, ih (List.not_mem_of_not_mem_cons plain), List.cons_append]

theorem unifyBreaks_comment {text : List Char} (inside : '\n' ∉ text) :
    ∃ other, '\n' ∉ other ∧ ∀ rest, unifyBreaks (text ++ '\n' :: rest) = other ++ '\n' :: unifyBreaks rest := by
  induction text with
  | nil => exact ⟨[], List.not_mem_nil, unifyBreaks_cons (by decide)⟩
  | cons c text ih =>
    obtain ⟨other, clear, unified⟩ := ih (List.not_mem_of_not_mem_cons inside)
    have plain := List.ne_of_not_mem_cons inside
    cases text with
    | nil =>
      by_cases returns : c = '\r'
      · refine ⟨[], List.not_mem_nil, fun rest => ?_⟩
        simp [unifyBreaks, returns]
      · refine ⟨[c], by simpa using plain, fun rest => ?_⟩
        rw [List.singleton_append, unifyBreaks_cons returns, unifyBreaks_cons (by decide)]
        rfl
    | cons d text =>
      have apart : d ≠ '\n' := (List.ne_of_not_mem_cons (List.not_mem_of_not_mem_cons inside)).symm
      refine ⟨c :: other, by simp [plain, clear], fun rest => ?_⟩
      have first : unifyBreaks (c :: d :: (text ++ '\n' :: rest)) = c :: unifyBreaks (d :: (text ++ '\n' :: rest)) := by
        simp [unifyBreaks, apart]
      rw [List.cons_append, List.cons_append, first, ← List.cons_append, unified, List.cons_append]

theorem unifyBreaks_filler (filler : Filler) :
    ∃ other : Filler, other.breaksLine = filler.breaksLine ∧ other.chars.head? = filler.chars.head? ∧
      ∀ rest, unifyBreaks (filler.chars ++ rest) = other.chars ++ unifyBreaks rest := by
  cases filler with
  | blank c blank =>
    refine ⟨.blank c blank, rfl, rfl, unifyBreaks_append ?_⟩
    simpa [Filler.chars] using (isBlank_ne_break blank).2.symm
  | lineFeed => exact ⟨.lineFeed, rfl, rfl, unifyBreaks_append (by decide)⟩
  | continuation => exact ⟨.continuation, rfl, rfl, unifyBreaks_append (by decide)⟩
  | comment text inside =>
    obtain ⟨other, clear, unified⟩ := unifyBreaks_comment inside
    refine ⟨.comment other clear, rfl, rfl, fun rest => ?_⟩
    simp only [Filler.chars, List.cons_append, List.append_assoc, List.nil_append]
    rw [unifyBreaks_cons (by decide), unified]

theorem unifyBreaks_gapChars (gap : List Filler) :
    ∃ other : List Filler, other.isEmpty = gap.isEmpty ∧ other.any Filler.breaksLine = gap.any Filler.breaksLine ∧
      (gapChars other).head? = (gapChars gap).head? ∧
        ∀ rest, unifyBreaks (gapChars gap ++ rest) = gapChars other ++ unifyBreaks rest := by
  induction gap with
  | nil => exact ⟨[], rfl, rfl, rfl, fun rest => rfl⟩
  | cons filler gap ih =>
    obtain ⟨first, broken, starts, unified⟩ := unifyBreaks_filler filler
    obtain ⟨later, _, breaking, _, following⟩ := ih
    refine ⟨first :: later, rfl, by simp [broken, breaking], ?_, fun rest => ?_⟩
    · have long : ∀ filler : Filler, filler.chars.head? ≠ none := by
        intro filler
        cases filler <;> simp [Filler.chars]
      rw [gapChars_cons, gapChars_cons, List.head?_append, List.head?_append, starts]
      cases head : filler.chars.head? with
      | none => exact absurd head (long filler)
      | some c => rfl
    · rw [gapChars_cons, List.append_assoc, unified, following, gapChars_cons, List.append_assoc]

theorem unifyBreaks_ending (ending : Ending) :
    ∃ other : Ending, other.chars.head? = ending.chars.head? ∧ unifyBreaks ending.chars = other.chars := by
  obtain ⟨gap, comment⟩ := ending
  obtain ⟨other, empty, _, starts, unified⟩ := unifyBreaks_gapChars gap
  refine ⟨⟨other, comment⟩, ?_, ?_⟩
  · rw [Ending.chars, Ending.chars, List.head?_append, List.head?_append, starts]
  · have last : unifyBreaks ((comment.map fun text => '#' :: text.val).getD []) =
        (comment.map fun text => '#' :: text.val).getD [] := by
      apply unifyBreaks_eq_self
      right
      cases comment with
      | none => simp
      | some text => simpa using text.property
    rw [Ending.chars, unified, last, Ending.chars]

theorem unifyBreaks_relaid {last : List Char} {ending : Ending} {key : Prop} {pieces : List Piece}
    {gaps : List (List Filler)} (plain : ∀ piece ∈ pieces, '\r' ∉ piece.text)
    (fits : Fits last ending key pieces gaps) :
    ∃ final others, Fits last final key pieces others ∧
      unifyBreaks (relaid ending pieces gaps) = relaid final pieces others := by
  obtain ⟨final, starts, unified⟩ := unifyBreaks_ending ending
  refine ⟨final, ?_⟩
  induction pieces generalizing key gaps with
  | nil =>
    match gaps, fits with
    | [], ⟨empty, after⟩ =>
      have none : final.chars = [] ↔ ending.chars = [] := by
        rw [← List.head?_eq_none_iff, starts, List.head?_eq_none_iff]
      refine ⟨[], ⟨none.trans empty, fun holds => ?_⟩, unified⟩
      rw [AfterKey, starts]
      exact after holds
  | cons piece pieces ih =>
    match gaps, fits with
    | gap :: gaps, ⟨tells, after, fits⟩ =>
      obtain ⟨clear, plain⟩ := List.forall_mem_cons.mp plain
      obtain ⟨others, fitting, later⟩ := ih plain fits
      obtain ⟨other, empty, broken, head, first⟩ := unifyBreaks_gapChars gap
      refine ⟨other :: others, ⟨?_, fun holds => ?_, fitting⟩, ?_⟩
      · rw [Tells, empty, broken]
        exact tells
      · rw [AfterKey, head]
        exact after holds
      · rw [relaid_cons, first, unifyBreaks_append clear, later, relaid_cons]

/-- Another layout of a source text has the same tokens, perhaps on other lines. -/
theorem scan_relaid [Host] {source : String} {split : Split} (plain : '\r' ∉ source.toList)
    (found : splitFrom 1 source.toList = .ok split) {ending : Ending} {gaps : List (List Filler)}
    (fits : Fits split.last ending False split.pieces gaps) :
    ∃ others, scan (String.ofList (relaid ending split.pieces gaps)) = .ok others ∧
      others.map (onLine 1) = (split.pieces.map Piece.token).map (onLine 1) := by
  have laid := laid_splitFrom found
  have clear : ∀ piece ∈ split.pieces, '\r' ∉ piece.text := by
    intro piece among inside
    refine plain ?_
    rw [laid.chars_eq, Split.chars]
    exact List.mem_append_left _ (List.mem_flatMap.mpr ⟨piece, among, List.mem_append_right _ inside⟩)
  obtain ⟨final, others, fitting, unified⟩ := unifyBreaks_relaid clear fits
  rw [scan, String.toList_ofList, unified]
  exact laid.scan_relaid fitting 1

end Breaks

end BoundaryLint.Token
