import BoundaryLint.Host.Ordinary
import BoundaryLint.Proofs.Token.Locality
import Mathlib

/-!
The grammar of quoted literals. What may stand between two quotes is given by rules of its own: escaped and plain
characters, and interpolations, which hold braces and literals in turn. The scanner, which keeps a stack of what is
open, reads exactly the texts of this grammar, as long as they are not nested too deep.
-/

namespace BoundaryLint.Token

/-- Behind `front`, the first tripled quote without a backslash right before it is the one behind the text. -/
def RunsTo (quote : Char) (front text : List Char) : Prop :=
  ∀ before after, text ++ tripled quote = before ++ after →
    (tripled quote <+: after ∧ (front ++ before).getLast? ≠ some '\\' ↔ before = text)

/-- Where characters stand: between the quotes of a literal, or between the braces of an interpolation. -/
inductive Scope where
  | literal (quote : Char)
  | interpolation

/-- What a scope may hold, when at most so many literals and interpolations are open in it at once. -/
inductive Scope.Holds : Scope → Nat → List Char → Prop
  | nil {scope : Scope} {depth : Nat} : Holds scope depth []
  | escaped {quote : Char} {depth : Nat} {rest : List Char} (c : Char) (more : Holds (.literal quote) depth rest) :
    Holds (.literal quote) depth ('\\' :: c :: rest)
  | plain {quote c : Char} {depth : Nat} {rest : List Char} (noEscape : c ≠ '\\') (inside : c ≠ quote)
    (noHole : ¬(c = '#' ∧ rest.head? = some '\x7b')) (more : Holds (.literal quote) depth rest) :
    Holds (.literal quote) depth (c :: rest)
  | hole {quote : Char} {depth inner : Nat} {code rest : List Char} (deeper : inner < depth)
    (inside : Holds .interpolation inner code) (more : Holds (.literal quote) depth rest) :
    Holds (.literal quote) depth ('#' :: '\x7b' :: (code ++ '\x7d' :: rest))
  | code {c : Char} {depth : Nat} {rest : List Char} (noQuote : ¬IsQuote c) (noBrace : c ≠ '\x7b' ∧ c ≠ '\x7d')
    (more : Holds .interpolation depth rest) : Holds .interpolation depth (c :: rest)
  | braces {depth : Nat} {code rest : List Char} (inside : Holds .interpolation depth code)
    (more : Holds .interpolation depth rest) : Holds .interpolation depth ('\x7b' :: (code ++ '\x7d' :: rest))
  | quoted {quote : Char} {depth inner : Nat} {body rest : List Char} (quotes : IsQuote quote) (deeper : inner < depth)
    (inside : Holds (.literal quote) inner body) (single : ¬tripled quote <+: quote :: (body ++ quote :: rest))
    (more : Holds .interpolation depth rest) : Holds .interpolation depth (quote :: (body ++ quote :: rest))
  | heredoc {quote : Char} {depth : Nat} {text rest : List Char} (quotes : IsQuote quote) (deeper : 0 < depth)
    (runs : RunsTo quote (tripled quote) text) (more : Holds .interpolation depth rest) :
    Holds .interpolation depth (tripled quote ++ (text ++ (tripled quote ++ rest)))

namespace Scope

def closer : Scope → Char
  | literal quote => quote
  | interpolation => '\x7d'

/-- The text starts with what the scope holds and its end, or it is itself only the start of what the scope holds. -/
def Starts (scope : Scope) (depth : Nat) (chars : List Char) : Prop :=
  (∃ body rest, scope.Holds depth body ∧ chars = body ++ scope.closer :: rest) ∨
    ∃ more, scope.Holds depth (chars ++ more)

end Scope

def IsBody (quote : Char) (body : List Char) : Prop := ∃ depth, (Scope.literal quote).Holds depth body

/-- How deep literals and interpolations are nested in a text behind a quote, up to the quote that closes it or else up to
the end. -/
noncomputable def nesting (quote : Char) (chars : List Char) : Nat :=
  sInf {depth | (Scope.literal quote).Starts depth chars}

section Heredocs

variable {quote c : Char} {front text : List Char}

theorem runsTo_nil : RunsTo quote front [] ↔ front.getLast? ≠ some '\\' := by
  constructor
  · intro runs
    have here := (runs [] (tripled quote) rfl).mpr rfl
    simpa using here.2
  · intro unescaped before after split
    cases before with
    | nil =>
      obtain rfl : after = tripled quote := split.symm
      simpa using unescaped
    | cons c before =>
      refine iff_of_false (fun closes => ?_) (List.cons_ne_nil _ _)
      have short := closes.1.length_le
      have whole := congrArg List.length split
      simp [tripled] at short whole
      omega

theorem runsTo_cons : RunsTo quote front (c :: text) ↔
    ¬(tripled quote <+: c :: (text ++ tripled quote) ∧ front.getLast? ≠ some '\\') ∧
      RunsTo quote (front ++ [c]) text := by
  constructor
  · intro runs
    refine ⟨fun closes => ?_, fun before after split => ?_⟩
    · have here := (runs [] _ rfl).mp (by simpa using closes)
      cases here
    · have later := runs (c :: before) after (by rw [List.cons_append, split, List.cons_append])
      simpa using later
  · rintro ⟨goesOn, runs⟩ before after split
    cases before with
    | nil =>
      have all : after = c :: (text ++ tripled quote) := split.symm
      rw [all, List.append_nil]
      exact iff_of_false goesOn (List.cons_ne_nil _ _).symm
    | cons d before =>
      obtain ⟨rfl, tail⟩ := List.cons.inj split
      simpa using runs before after tail

/-- Nothing but the last character before a heredoc counts. -/
theorem RunsTo.behind (runs : RunsTo quote front text) (other : List Char) (long : front ≠ []) :
    RunsTo quote (other ++ front) text := by
  intro before after split
  have last : (other ++ front ++ before).getLast? = (front ++ before).getLast? := by
    rw [List.append_assoc]
    exact List.getLast?_append_of_ne_nil _ (by simp [long])
  rw [last]
  exact runs before after split

/-- Behind the opening of a heredoc a text goes on to its end, or would if no more than a blank stood before that. -/
theorem runsTo_split (quotes : IsQuote quote) (front chars : List Char) :
    (∃ text rest, RunsTo quote front text ∧ chars = text ++ (tripled quote ++ rest)) ∨
      RunsTo quote front (chars ++ [' ']) := by
  have blank : ' ' ≠ quote := by rcases quotes with rfl | rfl <;> decide
  induction chars generalizing front with
  | nil =>
    refine .inr (runsTo_cons.mpr ⟨fun closes => blank (tripled_isPrefix_cons.mp closes.1).1, ?_⟩)
    exact runsTo_nil.mpr (by simp)
  | cons c chars ih =>
    by_cases closes : tripled quote <+: c :: chars ∧ front.getLast? ≠ some '\\'
    · obtain ⟨⟨rest, split⟩, unescaped⟩ := closes
      exact .inl ⟨[], rest, runsTo_nil.mpr unescaped, split.symm⟩
    rcases ih (front ++ [c]) with ⟨text, rest, runs, rfl⟩ | runs
    · have longer : c :: (text ++ tripled quote) <+: c :: (text ++ (tripled quote ++ rest)) := ⟨rest, by simp⟩
      exact .inl ⟨c :: text, rest, runsTo_cons.mpr ⟨fun early => closes ⟨early.1.trans longer, early.2⟩, runs⟩, rfl⟩
    · refine .inr (runsTo_cons.mpr ⟨fun early => closes ⟨?_, early.2⟩, runs⟩)
      have found : tripled quote <+: (c :: chars) ++ ' ' :: tripled quote := by simpa using early.1
      exact tripled_isPrefix_of_append (by simpa using blank) found

theorem RunsTo.passes [Host] {around : List Open} {inner : Open} {line opened : Nat} {taken rest : List Char}
    (runs : RunsTo quote taken.reverse text) :
    closeLiteral (inner :: around) (.heredoc quote opened) line taken (text ++ (tripled quote ++ rest)) =
      closeLiteral around inner (line + breaks text) (tripled quote ++ (text.reverse ++ taken)) rest := by
  induction text generalizing line taken with
  | nil =>
    rw [runsTo_nil, List.getLast?_reverse] at runs
    exact closeLiteral_heredoc_end runs
  | cons c text ih =>
    obtain ⟨goesOn, runs⟩ := runsTo_cons.mp runs
    have further : ¬(tripled quote <+: c :: (text ++ (tripled quote ++ rest)) ∧ taken.head? ≠ some '\\') := by
      rw [List.getLast?_reverse] at goesOn
      refine fun early => goesOn ⟨List.prefix_of_prefix_length_le early.1 ⟨rest, by simp⟩ ?_, early.2⟩
      simp [tripled]
    rw [List.cons_append, closeLiteral_heredoc_char further, ih (by simpa using runs), lineAfter_eq, breaks_cons]
    simp [Nat.add_assoc]

end Heredocs

/-- Scanning goes on to a later state, or it gives up because there is no room for what opens on the way. -/
def Passes (room : Prop) (now later : Except Source.Fault Body) : Prop :=
  now = later ∨ now = .error .literalsTooDeep ∧ ¬room

namespace Passes

variable {room wider : Prop} {now later last : Except Source.Fault Body}

theorem of_eq (same : now = later) : Passes room now later := .inl same

theorem mono (passes : Passes wider now later) (fits : room → wider) : Passes room now later :=
  passes.imp_right fun failed => ⟨failed.1, mt fits failed.2⟩

theorem trans (first : Passes room now later) (second : Passes room later last) : Passes room now last := by
  rcases first with rfl | failed
  · exact second
  · exact .inr failed

/-- What opens needs room for itself and for what opens in it. -/
theorem enter [Host] {around inner depth : Nat} (deeper : inner < depth)
    (inside : Passes (around + 1 + inner ≤ Host.literalNesting) now later)
    (behind : Passes (around + depth ≤ Host.literalNesting) later last) :
    Passes (around + depth ≤ Host.literalNesting) (if Host.literalNesting ≤ around then .error .literalsTooDeep else now) last := by
  split
  · exact .inr ⟨rfl, by omega⟩
  · exact (inside.mono fun room => by omega).trans behind

theorem of_room (passes : Passes room now later) (fits : room) : now = later :=
  passes.resolve_right fun failed => failed.2 fits

end Passes

theorem line_breaks (line : Nat) (c : Char) (rest : List Char) :
    line + breaks (c :: rest) = lineAfter line c + breaks rest := by
  rw [lineAfter_eq, breaks_cons, Nat.add_assoc]

theorem breaks_append (first second : List Char) : breaks (first ++ second) = breaks first + breaks second :=
  List.count_append

namespace Scope

def Opens : Scope → Open → Prop
  | literal quote, inner => IsQuote quote ∧ ∃ opened, inner = .text quote opened
  | interpolation, inner => ∃ nested opened, inner = .interpolation nested opened

/-- The text ahead does not join with what the scope holds before it. -/
def Bounds : Scope → List Char → Prop
  | literal _, ahead => ahead.head? ≠ some '\x7b'
  | interpolation, ahead => ∀ c ∈ ahead.head?, ¬IsQuote c

variable {scope : Scope} {depth : Nat} {body : List Char}

theorem Holds.mono (holds : scope.Holds depth body) {more : Nat} (deeper : depth ≤ more) : scope.Holds more body := by
  induction holds with
  | nil => exact .nil
  | escaped c _ ih => exact .escaped c (ih deeper)
  | plain noEscape inside noHole _ ih => exact .plain noEscape inside noHole (ih deeper)
  | hole less inside _ _ ih => exact .hole (Nat.lt_of_lt_of_le less deeper) inside (ih deeper)
  | code noQuote noBrace _ ih => exact .code noQuote noBrace (ih deeper)
  | braces _ _ ih ih' => exact .braces (ih deeper) (ih' deeper)
  | quoted quotes less inside single _ _ ih =>
    exact .quoted quotes (Nat.lt_of_lt_of_le less deeper) inside single (ih deeper)
  | heredoc quotes less runs _ ih => exact .heredoc quotes (Nat.lt_of_lt_of_le less deeper) runs (ih deeper)

/-- What the scope holds is passed over, and is no more than added to what was taken before. -/
theorem Holds.passes [Host] (holds : scope.Holds depth body) {around : List Open} {inner : Open} {line : Nat}
    {taken ahead : List Char} (opens : scope.Opens inner) (bounds : scope.Bounds ahead) :
    Passes (around.length + depth ≤ Host.literalNesting) (closeLiteral around inner line taken (body ++ ahead))
      (closeLiteral around inner (line + breaks body) (body.reverse ++ taken) ahead) := by
  -- Along the rules: what opens inside is passed over first, with one more thing open, and then what comes behind it.
  induction holds generalizing around inner line taken ahead with
  | nil => exact .of_eq rfl
  | @escaped quote depth rest c more ih =>
    obtain ⟨quotes, opened, rfl⟩ := opens
    have here : lineAfter line '\\' = line := rfl
    have later := @ih around _ (lineAfter line c) (c :: '\\' :: taken) _ ⟨quotes, opened, rfl⟩ bounds
    rw [List.cons_append, List.cons_append, closeLiteral_escaped_char, line_breaks, line_breaks, here]
    simpa using later
  | @plain quote c depth rest noEscape inside noHole more ih =>
    obtain ⟨quotes, opened, rfl⟩ := opens
    have noHole' : ¬(c = '#' ∧ (rest ++ ahead).head? = some '\x7b') := by
      cases rest with
      | nil => exact fun hole => bounds hole.2
      | cons d rest => exact noHole
    have later := @ih around _ (lineAfter line c) (c :: taken) _ ⟨quotes, opened, rfl⟩ bounds
    rw [List.cons_append, closeLiteral_plain_char noEscape inside noHole', line_breaks]
    simpa using later
  | @hole quote depth inner code rest deeper inside more ih ih' =>
    obtain ⟨quotes, opened, rfl⟩ := opens
    have through := @ih (.text quote opened :: around) _ line ('\x7b' :: '#' :: taken) ('\x7d' :: (rest ++ ahead))
      ⟨0, line, rfl⟩ (by simp [Bounds, IsQuote])
    have later := @ih' around _ (line + breaks code) ('\x7d' :: (code.reverse ++ '\x7b' :: '#' :: taken)) _
      ⟨quotes, opened, rfl⟩ bounds
    rw [closeLiteral_leave] at through
    simp only [List.cons_append, List.append_assoc, closeLiteral_hole quotes.plain.2.2.1]
    refine .enter deeper through ?_
    simpa [breaks_cons, breaks_append, lineAfter, Nat.add_assoc] using later
  | @code c depth rest noQuote noBrace more ih =>
    obtain ⟨nested, opened, rfl⟩ := opens
    have later := @ih around _ (lineAfter line c) (c :: taken) _ ⟨nested, opened, rfl⟩ bounds
    rw [List.cons_append, closeLiteral_code noQuote noBrace, line_breaks]
    simpa using later
  | @braces depth code rest inside more ih ih' =>
    obtain ⟨nested, opened, rfl⟩ := opens
    have through := @ih around _ line ('\x7b' :: taken) ('\x7d' :: (rest ++ ahead)) ⟨nested + 1, opened, rfl⟩
      (by simp [Bounds, IsQuote])
    have later := @ih' around _ (line + breaks code) ('\x7d' :: (code.reverse ++ '\x7b' :: taken)) _
      ⟨nested, opened, rfl⟩ bounds
    rw [closeLiteral_close] at through
    simp only [List.cons_append, List.append_assoc, closeLiteral_open]
    refine through.trans ?_
    simpa [breaks_cons, breaks_append, lineAfter, Nat.add_assoc] using later
  | @quoted quote depth inner body rest quotes deeper inside single more ih ih' =>
    obtain ⟨nested, opened, rfl⟩ := opens
    obtain ⟨noBreak, noEscape, -, noBrace⟩ := quotes.plain
    have single' : ¬tripled quote <+: quote :: (body ++ quote :: (rest ++ ahead)) := by
      intro found
      have within : tripled quote <+: (quote :: (body ++ quote :: rest)) ++ ahead := by simpa using found
      exact single (tripled_isPrefix_of_append (fun c head same => bounds c head (same ▸ quotes)) within)
    have through := @ih (.interpolation nested opened :: around) _ line (quote :: taken) (quote :: (rest ++ ahead))
      ⟨quotes, line, rfl⟩ (by simpa [Bounds] using noBrace)
    have later := @ih' around _ (line + breaks body) (quote :: (body.reverse ++ quote :: taken)) _
      ⟨nested, opened, rfl⟩ bounds
    rw [closeLiteral_end noEscape] at through
    simp only [List.cons_append, List.append_assoc, closeLiteral_single quotes single']
    refine .enter deeper through ?_
    simpa [breaks_cons, breaks_append, lineAfter, noBreak, Nat.add_assoc] using later
  | @heredoc quote depth text rest quotes deeper runs more ih =>
    obtain ⟨nested, opened, rfl⟩ := opens
    have noBreak := quotes.plain.1
    have runs' : RunsTo quote (tripled quote ++ taken).reverse text := by
      rw [List.reverse_append]
      exact runs.behind _ (List.cons_ne_nil _ _)
    have later := @ih around _ (line + breaks text) (tripled quote ++ (text.reverse ++ (tripled quote ++ taken))) _
      ⟨nested, opened, rfl⟩ bounds
    simp only [List.append_assoc, closeLiteral_tripled quotes]
    refine .enter deeper (.of_eq runs'.passes) ?_
    simpa [breaks_cons, breaks_append, tripled, lineAfter, noBreak, Nat.add_assoc] using later

section Texts

variable {outer : Scope} {quote : Char} {chars : List Char}

theorem Starts.mono (starts : scope.Starts depth chars) {more : Nat} (deeper : depth ≤ more) :
    scope.Starts more chars := by
  rcases starts with ⟨body, rest, holds, split⟩ | ⟨rest, holds⟩
  · exact .inl ⟨body, rest, holds.mono deeper, split⟩
  · exact .inr ⟨rest, holds.mono deeper⟩

theorem Starts.after (starts : scope.Starts depth chars) (word : List Char)
    (prepend : ∀ body, (∀ c ∈ body.head?, c ∈ chars.head?) → scope.Holds depth body →
      scope.Holds depth (word ++ body)) :
    scope.Starts depth (word ++ chars) := by
  rcases starts with ⟨body, rest, holds, rfl⟩ | ⟨more, holds⟩
  · refine .inl ⟨word ++ body, rest, prepend body (fun c head => ?_) holds, by rw [List.append_assoc]⟩
    cases body <;> simp_all
  · cases chars with
    | nil => exact .inr ⟨[], by simpa using prepend [] (by simp) .nil⟩
    | cons c chars => exact .inr ⟨more, by simpa using prepend _ (by simp) holds⟩

theorem Starts.nest (starts : scope.Starts depth chars) (word : List Char)
    (later : ∀ rest : List Char, rest.length < chars.length → ∃ depth, outer.Starts depth rest)
    (wrap : ∀ {whole code body}, depth < whole → scope.Holds depth code → outer.Holds whole body →
      (∀ c ∈ body.head?, code ++ [scope.closer, c] <+: chars) →
      outer.Holds whole (word ++ (code ++ scope.closer :: body))) :
    ∃ depth, outer.Starts depth (word ++ chars) := by
  rcases starts with ⟨code, rest, holds, rfl⟩ | ⟨more, holds⟩
  · obtain ⟨further, starts⟩ := later rest (by simp only [List.length_append, List.length_cons]; omega)
    refine ⟨max (depth + 1) further, ?_⟩
    have whole := (starts.mono (Nat.le_max_right (depth + 1) further)).after (word ++ (code ++ [scope.closer]))
      fun body head holds' => by
        have room : depth < max (depth + 1) further := Nat.le_max_left _ _
        have wrapped := wrap room holds holds' fun c mem => by
          obtain ⟨tail, split⟩ := List.head?_eq_some_iff.mp (head c mem)
          exact ⟨tail, by simp [split]⟩
        simpa using wrapped
    simpa using whole
  · exact ⟨depth + 1, .inr ⟨more ++ [scope.closer], by simpa using wrap (Nat.lt_succ_self _) holds .nil (by simp)⟩⟩

/-- A literal does not hold its quote first, so its quotes are tripled only if two more follow at once. -/
theorem Holds.single (holds : (literal quote).Holds depth body) (quotes : IsQuote quote) {ahead : List Char}
    (apart : ∀ c ∈ ahead.head?, body ++ [quote, c] <+: chars) (single : ¬tripled quote <+: quote :: chars) :
    ¬tripled quote <+: quote :: (body ++ quote :: ahead) := by
  obtain ⟨-, noEscape, noMark, -⟩ := quotes.plain
  intro found
  have first := (tripled_isPrefix_cons.mp found).2
  cases holds with
  | nil =>
    cases ahead with
    | nil => simp [doubled, startsPair_cons] at first
    | cons c ahead =>
      obtain rfl : c = quote := by simpa [doubled, startsPair_cons] using first
      exact single (List.cons_prefix_cons.mpr ⟨rfl, apart c rfl⟩)
  | escaped c more => simp [doubled, startsPair_cons, Ne.symm noEscape] at first
  | plain _ inside _ _ => simp [doubled, startsPair_cons, inside] at first
  | hole _ _ _ => simp [doubled, startsPair_cons, Ne.symm noMark] at first

theorem exists_starts_literal
    (shorter : ∀ (scope : Scope) (rest : List Char), rest.length < chars.length → ∃ depth, scope.Starts depth rest) :
    ∃ depth, (literal quote).Starts depth chars := by
  match chars with
  | [] => exact ⟨0, .inr ⟨[], .nil⟩⟩
  | c :: rest =>
    by_cases closes : c = quote
    · exact ⟨0, .inl ⟨[], rest, .nil, by rw [closes]; rfl⟩⟩
    by_cases escape : c = '\\'
    · subst escape
      cases rest with
      | nil => exact ⟨0, .inr ⟨[' '], .escaped ' ' .nil⟩⟩
      | cons d rest =>
        obtain ⟨depth, starts⟩ := shorter (literal quote) rest (by simp)
        exact ⟨depth, starts.after ['\\', d] fun body _ holds => .escaped d holds⟩
    by_cases hole : c = '#' ∧ rest.head? = some '\x7b'
    · obtain ⟨rfl, head⟩ := hole
      obtain ⟨rest, rfl⟩ := List.head?_eq_some_iff.mp head
      obtain ⟨inner, starts⟩ := shorter .interpolation rest (by simp)
      exact starts.nest ['#', '\x7b'] (fun later short => shorter _ _ (by simp; omega))
        fun deeper inside more _ => .hole deeper inside more
    · obtain ⟨depth, starts⟩ := shorter (literal quote) rest (by simp)
      exact ⟨depth, starts.after [c] fun body same holds =>
        .plain escape closes (fun early => hole ⟨early.1, same _ early.2⟩) holds⟩

theorem exists_starts_interpolation
    (shorter : ∀ (scope : Scope) (rest : List Char), rest.length < chars.length → ∃ depth, scope.Starts depth rest) :
    ∃ depth, interpolation.Starts depth chars := by
  match chars with
  | [] => exact ⟨0, .inr ⟨[], .nil⟩⟩
  | c :: rest =>
    by_cases closes : c = '\x7d'
    · exact ⟨0, .inl ⟨[], rest, .nil, by rw [closes]; rfl⟩⟩
    by_cases opens : c = '\x7b'
    · subst opens
      obtain ⟨inner, starts⟩ := shorter .interpolation rest (by simp)
      exact starts.nest ['\x7b'] (fun later short => shorter _ _ (by simp; omega))
        fun deeper inside more _ => .braces (inside.mono (Nat.le_of_lt deeper)) more
    by_cases quotes : IsQuote c
    · by_cases triple : tripled c <+: c :: rest
      · obtain ⟨after, split⟩ := triple
        rw [← split]
        rcases runsTo_split quotes (tripled c) after with ⟨text, rest', runs, rfl⟩ | runs
        · have short := congrArg List.length split
          simp [tripled] at short
          obtain ⟨depth, starts⟩ := shorter .interpolation rest' (by simp; omega)
          have whole := (starts.mono (Nat.le_succ depth)).after (tripled c ++ (text ++ tripled c))
            fun body _ holds => by simpa using Holds.heredoc quotes (Nat.succ_pos depth) runs holds
          exact ⟨depth + 1, by simpa using whole⟩
        · exact ⟨1, .inr ⟨' ' :: tripled c, by simpa using Holds.heredoc quotes Nat.one_pos runs .nil⟩⟩
      · obtain ⟨inner, starts⟩ := shorter (literal c) rest (by simp)
        exact starts.nest [c] (fun later short => shorter _ _ (by simp; omega))
          fun deeper inside more apart => .quoted quotes deeper inside (inside.single quotes apart triple) more
    · obtain ⟨depth, starts⟩ := shorter .interpolation rest (by simp)
      exact ⟨depth, starts.after [c] fun body _ holds => .code quotes ⟨opens, closes⟩ holds⟩

/-- Any text is what the scope holds and its end, or the start of that. -/
theorem exists_starts (scope : Scope) (chars : List Char) : ∃ depth, scope.Starts depth chars := by
  -- On the length of the text, as what is open inside takes more of it than one character.
  induction size : chars.length using Nat.strong_induction_on generalizing scope chars with
  | _ size ih =>
    subst size
    have shorter : ∀ (scope : Scope) (rest : List Char), rest.length < chars.length →
        ∃ depth, scope.Starts depth rest := fun scope rest short => ih _ short scope rest rfl
    cases scope with
    | literal quote => exact exists_starts_literal shorter
    | interpolation => exact exists_starts_interpolation shorter

end Texts

end Scope

/-- Scanning fails because the text ends inside of something, or whatever comes behind the text. -/
theorem unclosed_or_stays [Host] {around : List Open} {inner : Open} {line : Nat} {taken chars : List Char}
    {cause : Source.Fault} (failed : closeLiteral around inner line taken chars = .error cause) (more : List Char) :
    (∃ last : Open, cause = last.unclosed) ∨ closeLiteral around inner line taken (chars ++ more) = .error cause := by
  fun_induction closeLiteral around inner line taken chars with
  | case1 | case2 | case6 | case21 => exact .inl ⟨_, (Except.error.inj failed).symm⟩
  | case4 | case11 => cases failed
  -- Less is left than what the next two characters are looked at for.
  | case14 around line taken c quote opened rest short ih =>
    rcases rest with _ | ⟨second, _ | ⟨third, after⟩⟩
    · exact .inl ⟨_, (Except.error.inj failed).symm⟩
    · exact .inl ⟨_, (Except.error.inj failed).symm⟩
    · exact (short _ _ _ rfl).elim
  | case18 around line taken c depth opened quote room rest short ih =>
    rcases rest with _ | ⟨second, _ | ⟨third, after⟩⟩
    · exact .inl ⟨_, (Except.error.inj failed).symm⟩
    · grind [closeLiteral.eq_def]
    · exact (short _ _ _ rfl).elim
  | _ => grind [closeLiteral.eq_def]

section Literals

variable {quote : Char} {depth : Nat} {body chars : List Char}

theorem closeLiteral_body [Host] (quotes : IsQuote quote) (holds : (Scope.literal quote).Holds depth body) (line : Nat)
    (rest : List Char) :
    Passes (depth ≤ Host.literalNesting) (closeLiteral [] (.text quote line) line [] (body ++ quote :: rest))
      (.ok ⟨body, rest, line + breaks body⟩) := by
  obtain ⟨-, noEscape, -, noBrace⟩ := quotes.plain
  have through := @Scope.Holds.passes _ _ _ _ holds [] _ line [] (quote :: rest) ⟨quotes, line, rfl⟩
    (by simpa [Scope.Bounds] using noBrace)
  rw [closeLiteral_last noEscape] at through
  simpa using through

/-- A text that could go on to a literal ends where something is still open. -/
theorem closeLiteral_open_body [Host] (quotes : IsQuote quote) {more : List Char}
    (holds : (Scope.literal quote).Holds depth (chars ++ more)) (shallow : depth ≤ Host.literalNesting) (line : Nat) :
    ∃ last : Open, closeLiteral [] (.text quote line) line [] chars = .error last.unclosed := by
  have whole := (closeLiteral_body quotes holds line []).of_room shallow
  rw [List.append_assoc] at whole
  cases scanned : closeLiteral [] (.text quote line) line [] chars with
  | error cause =>
    rcases unclosed_or_stays scanned (more ++ [quote]) with ⟨last, rfl⟩ | stays
    · exact ⟨last, rfl⟩
    · rw [stays] at whole
      cases whole
  | ok early =>
    obtain ⟨used, rfl, -, again⟩ := literalAhead_of_close scanned
    obtain ⟨after, same⟩ := again [] _ line (early.rest ++ (more ++ [quote])) .nil (.text _ line line)
    rw [List.append_assoc, same] at whole
    simp at whole

theorem starts_of_nesting [Host] (shallow : nesting quote chars ≤ Host.literalNesting) :
    (Scope.literal quote).Starts Host.literalNesting chars :=
  Scope.Starts.mono (Nat.sInf_mem (Scope.exists_starts (.literal quote) chars)) shallow

theorem scanQuoted_body [Host] (quotes : IsQuote quote) (single : doubled quote chars = false)
    (isBody : IsBody quote body) {rest : List Char} (continues : chars = body ++ quote :: rest) (line : Nat) :
    scanQuoted quote line chars = .ok ⟨body, rest, line + breaks body⟩ ∨
      scanQuoted quote line chars = .error .literalsTooDeep := by
  obtain ⟨depth, holds⟩ := isBody
  rw [scanQuoted_eq, if_neg (by simp [single]), continues]
  exact (closeLiteral_body quotes holds line rest).imp_right And.left

theorem scanQuoted_outcome [Host] (quotes : IsQuote quote) (single : doubled quote chars = false)
    (shallow : nesting quote chars ≤ Host.literalNesting) (line : Nat) :
    (∃ body rest, IsBody quote body ∧ chars = body ++ quote :: rest ∧
      scanQuoted quote line chars = .ok ⟨body, rest, line + breaks body⟩) ∨
    ∃ last : Open, scanQuoted quote line chars = .error last.unclosed := by
  rw [scanQuoted_eq, if_neg (by simp [single])]
  rcases starts_of_nesting shallow with ⟨body, rest, holds, rfl⟩ | ⟨more, holds⟩
  · exact .inl ⟨body, rest, ⟨_, holds⟩, rfl, (closeLiteral_body quotes holds line rest).of_room (Nat.le_refl _)⟩
  · exact .inr (closeLiteral_open_body quotes holds (Nat.le_refl _) line)

def openEnds : List Source.Cause := [.unterminatedString, .unterminatedInterpolation, .unterminatedHeredoc]

theorem unclosed_openEnds (last : Open) : ∃ cause ∈ openEnds, ∃ start, last.unclosed = .at cause start := by
  cases last with
  | text quote line => exact ⟨_, by simp [openEnds], line, rfl⟩
  | heredoc quote line => exact ⟨_, by simp [openEnds], line, rfl⟩
  | interpolation depth line => exact ⟨_, by simp [openEnds], line, rfl⟩

/-- Behind a quote that is not tripled the scanner reads a literal exactly where the text continues with the body of one
and its closing quote. There is at most one way it does, and where there is none the text ends within the literal. -/
theorem scanQuoted_reads [Host] (quotes : IsQuote quote) (single : doubled quote chars = false)
    (shallow : nesting quote chars ≤ Host.literalNesting) (line : Nat) :
    (∀ value, scanQuoted quote line chars = .ok value ↔
      IsBody quote value.chars ∧ chars = value.chars ++ quote :: value.rest ∧ value.line = line + breaks value.chars) ∧
    (∀ first second rest other, IsBody quote first → chars = first ++ quote :: rest →
      IsBody quote second → chars = second ++ quote :: other → first = second) ∧
    ((¬∃ body rest, IsBody quote body ∧ chars = body ++ quote :: rest) →
      ∃ cause ∈ openEnds, ∃ start, scanQuoted quote line chars = .error (.at cause start)) := by
  have outcome := scanQuoted_outcome quotes single shallow line
  have fits : scanQuoted quote line chars ≠ .error .literalsTooDeep := by
    rcases outcome with ⟨_, _, _, _, read⟩ | ⟨last, failed⟩
    · simp [read]
    · cases last <;> simp [failed, Open.unclosed]
  have reads : ∀ {body rest}, IsBody quote body → chars = body ++ quote :: rest →
      scanQuoted quote line chars = .ok ⟨body, rest, line + breaks body⟩ := fun isBody continues =>
    (scanQuoted_body quotes single isBody continues line).resolve_right fits
  refine ⟨fun value => ⟨fun read => ?_, ?_⟩, ?_, fun none => ?_⟩
  · rcases outcome with ⟨body, rest, isBody, continues, same⟩ | ⟨last, failed⟩
    · obtain rfl := Except.ok.inj (read.symm.trans same)
      exact ⟨isBody, continues, rfl⟩
    · cases read.symm.trans failed
  · rintro ⟨isBody, continues, ends⟩
    rw [reads isBody continues, ← ends]
  · intro first second rest other isFirst continues isSecond continues'
    have same := (reads isFirst continues).symm.trans (reads isSecond continues')
    exact congrArg Body.chars (Except.ok.inj same)
  · rcases outcome with ⟨body, rest, isBody, continues, _⟩ | ⟨last, failed⟩
    · exact absurd ⟨body, rest, isBody, continues⟩ none
    · obtain ⟨cause, listed, start, same⟩ := unclosed_openEnds last
      exact ⟨cause, listed, start, by rw [failed, same]⟩

attribute [local instance] Host.ordinary in
theorem scanQuoted_reads_interpolated : scanQuoted '"' 1 "a#\x7bf(\"\x7d\")\x7d b\" <> c".toList =
    .ok ⟨"a#\x7bf(\"\x7d\")\x7d b".toList, " <> c".toList, 1⟩ := by
  have inner : (Scope.literal '"').Holds 0 ['\x7d'] :=
    .plain (by decide) (by decide) (by decide) .nil
  have code : Scope.interpolation.Holds 1 (['f', '('] ++ '"' :: (['\x7d'] ++ '"' :: [')'])) :=
    .code (by decide) (by decide) <| .code (by decide) (by decide) <|
      .quoted (.inl rfl) (by decide) inner (by decide) <| .code (by decide) (by decide) .nil
  have holds : (Scope.literal '"').Holds 2 ('a' :: '#' :: '\x7b' ::
      ((['f', '('] ++ '"' :: (['\x7d'] ++ '"' :: [')'])) ++ '\x7d' :: [' ', 'b'])) :=
    .plain (by decide) (by decide) (by decide) <| .hole (by decide) code <|
      .plain (by decide) (by decide) (by decide) <| .plain (by decide) (by decide) (by decide) .nil
  have shallow : nesting '"' "a#\x7bf(\"\x7d\")\x7d b\" <> c".toList ≤ Host.literalNesting :=
    (Nat.sInf_le (.inl ⟨_, " <> c".toList, holds, by decide⟩)).trans (by decide)
  exact ((scanQuoted_reads (.inl rfl) (by decide) shallow 1).1 _).mpr ⟨⟨2, holds⟩, by decide, by decide⟩

end Literals

end BoundaryLint.Token
