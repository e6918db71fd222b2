import BoundaryLint.Proofs.Grammar.Phrase
import BoundaryLint.Proofs.Token.Spacing
import Mathlib.Data.List.TakeWhile

/-!
The tokens of a printable tree are scanned back from their text: each of them is spelled as a token
of its kind, and no two neighbours run together.
-/

namespace BoundaryLint.Grammar

namespace Phrase

open Token (Tidy Spaced)

def marks : List String := Token.punctuation.map Char.toString

/-- Tokens that are written apart on the first line. -/
structure Neat (tokens : List Token) : Prop where
  tidy : Tidy tokens
  flat : ∀ token ∈ tokens, token.line = 1 ∧ token.newlineBefore = false

structure Writes (phrase : Phrase) : Prop where
  neat : ∀ space, Neat (phrase.tokens space)
  spaced : ∀ token ∈ (phrase.tokens true).head?, token.spaceBefore = true
  nonempty : phrase.tokens true ≠ []

namespace Neat

variable {tokens : List Token} {token : Token}

theorem nil : Neat [] := ⟨.nil, by simp⟩

theorem append {first second : List Token} (left : Neat first) (right : Neat second)
    (spaced : Spaced second) : Neat (first ++ second) where
  tidy := left.tidy.append right.tidy spaced
  flat token member := (List.mem_append.mp member).elim (left.flat token) (right.flat token)

theorem mark {text : String} (space : Bool) (neat : Neat tokens) (known : text ∈ marks) :
    Neat (mark text space :: tokens) where
  tidy := by
    obtain ⟨c, listed, rfl⟩ := List.mem_map.mp known
    exact neat.tidy.cons_mark ⟨c, listed, rfl⟩ rfl
  flat := List.forall_mem_cons.mpr ⟨⟨rfl, rfl⟩, neat.flat⟩

theorem word {kind : Token.Kind} {text : String} {space : Bool} (neat : Neat tokens)
    (spelled : Token.Spelled ⟨kind, text, 1, space, false⟩) (notKey : kind ≠ .key) (spaced : Spaced tokens) :
    Neat (⟨kind, text, 1, space, false⟩ :: tokens) where
  tidy := neat.tidy.cons_spaced spelled notKey spaced
  flat := List.forall_mem_cons.mpr ⟨⟨rfl, rfl⟩, neat.flat⟩

theorem lined (neat : Neat tokens) : Token.Lined 1 tokens := by
  have flat := neat.flat
  clear neat
  induction tokens with
  | nil => trivial
  | cons token tokens ih =>
    obtain ⟨⟨here, unbroken⟩, later⟩ := List.forall_mem_cons.mp flat
    refine ⟨by simp [here, unbroken], by simp [unbroken], ?_⟩
    rw [here]
    exact ih later

theorem scan_written [Host] (neat : Neat tokens) :
    Token.scan (String.ofList (Token.written tokens)) = .ok tokens := by
  refine Token.scan_written neat.tidy neat.lined (.inr ?_)
  simp only [Token.written, List.mem_flatMap, List.mem_append, not_exists, not_and, not_or]
  intro token member
  constructor
  · simp only [Token.gapBefore, (neat.flat token member).2, Bool.false_eq_true, if_false]
    split <;> decide
  · exact Token.not_mem_spelling (neat.tidy.spelled token member) (by decide) (.inl rfl)

end Neat

theorem spaced_mark (text : String) (space : Bool) (tokens : List Token) :
    Spaced (mark text space :: tokens) := by
  simp [Spaced]

theorem spaced_append {first second : List Token} (left : Spaced first) (right : Spaced second) :
    Spaced (first ++ second) := by
  cases first with
  | nil => exact right
  | cons token rest => simpa [Spaced] using left

theorem Writes.starts {phrase : Phrase} (writes : phrase.Writes) : Spaced (phrase.tokens true) :=
  fun token head => .inl (by simp [writes.spaced token head])

section Rows

variable {phrases : List Phrase}

theorem neat_rowOf {divider : Token} (mark : divider = comma ∨ divider = semicolon)
    (writes : ∀ phrase ∈ phrases, phrase.Writes) (space : Bool) : Neat (rowOf divider space phrases) := by
  induction phrases generalizing space with
  | nil => exact .nil
  | cons first phrases ih =>
    cases phrases with
    | nil => exact (writes first (by simp)).neat space
    | cons second phrases =>
      have later := ih (fun phrase member => writes phrase (List.mem_cons_of_mem _ member)) true
      have divided : Neat (divider :: rowOf divider true (second :: phrases)) := by
        rcases mark with rfl | rfl <;> exact later.mark false (by decide)
      refine ((writes first (by simp)).neat space).append divided ?_
      rcases mark with rfl | rfl <;> exact spaced_mark _ false _

theorem spaced_rowOf {divider : Token} (writes : ∀ phrase ∈ phrases, phrase.Writes) :
    Spaced (rowOf divider true phrases) := by
  match phrases, writes with
  | [], _ => simp [rowOf, row, Spaced]
  | [phrase], writes => exact (writes phrase (by simp)).starts
  | first :: second :: phrases, writes =>
    have head := writes first (by simp)
    obtain ⟨token, rest, shape⟩ := List.exists_cons_of_ne_nil head.nonempty
    have spaced := head.starts
    simp only [rowOf, List.map_cons, row, shape] at spaced ⊢
    simpa [Spaced] using spaced

theorem neat_enclosed {divider : Token} {opener closer : String} (opens : opener ∈ marks)
    (closes : closer ∈ marks) (divides : divider = comma ∨ divider = semicolon)
    (writes : ∀ phrase ∈ phrases, phrase.Writes) (space : Bool) :
    Neat (mark opener space :: (rowOf divider false phrases ++ [mark closer false])) := by
  have closed : Neat [Phrase.mark closer false] := Neat.nil.mark false closes
  have inside := (neat_rowOf divides writes false).append closed (spaced_mark _ _ _)
  exact inside.mark space opens

theorem neat_arguments (writes : ∀ phrase ∈ phrases, phrase.Writes) : Neat (arguments phrases) :=
  neat_enclosed (by decide) (by decide) (.inl rfl) writes false

theorem spaced_arguments (phrases : List Phrase) : Spaced (arguments phrases) := spaced_mark _ _ _

end Rows

section Phrases

variable {phrase target left right : Phrase} {phrases args statements : List Phrase}

theorem writes_single {kind : Token.Kind} {text : String} (notKey : kind ≠ .key)
    (spelled : ∀ space, Token.Spelled ⟨kind, text, 1, space, false⟩) : (single kind text).Writes where
  neat space := Neat.nil.word (spelled space) notKey (by simp [Spaced])
  spaced := by simp [single]
  nonempty := by simp [single]

theorem writes_word {word : String} (known : word ∈ Token.wordLiterals) : (single .literal word).Writes := by
  have spelled : word.toList.head?.any Token.isIdentifierStart ∧ Token.isWord word.toList ∧
      Token.wordKind word = .literal := by
    revert known word
    decide
  exact writes_single (by decide) fun _ => spelled

theorem Writes.parens (writes : phrase.Writes) : phrase.parens.Writes where
  neat space :=
    have closed : Neat [mark ")" false] := Neat.nil.mark false (by decide)
    ((writes.neat false).append closed (spaced_mark _ _ _)).mark space (by decide)
  spaced := by simp [Phrase.parens]
  nonempty := by simp [Phrase.parens]

theorem writes_bracketed {opener closer : String} (opens : opener ∈ marks) (closes : closer ∈ marks)
    (writes : ∀ phrase ∈ phrases, phrase.Writes) : (bracketed opener closer phrases).Writes where
  neat space := neat_enclosed opens closes (.inl rfl) writes space
  spaced := by simp [bracketed]
  nonempty := by simp [bracketed]

theorem writes_sequence (writes : ∀ phrase ∈ phrases, phrase.Writes) : (sequence phrases).Writes where
  neat space := neat_enclosed (by decide) (by decide) (.inr rfl) writes space
  spaced := by simp [sequence]
  nonempty := by simp [sequence]

theorem spelled_identifier {name : String} (known : isIdentifier name = true) (space : Bool) :
    (identifier name space).Spelled := by
  simp only [isIdentifier, Bool.and_eq_true, decide_eq_true_eq] at known
  exact ⟨known.1.1, known.1.2, known.2⟩

theorem writes_call {function : String} (known : isIdentifier function = true)
    (writes : ∀ phrase ∈ args, phrase.Writes) : (call function args).Writes where
  neat space := (neat_arguments writes).word (spelled_identifier known space) (by decide) (spaced_arguments args)
  spaced := by simp [call]
  nonempty := by simp [call]

/-- A phrase that goes on behind another one. -/
theorem Writes.extend {extended : Phrase} {tokens : List Token} (writes : phrase.Writes)
    (neat : Neat tokens) (spaced : Spaced tokens)
    (shape : ∀ space, extended.tokens space = phrase.tokens space ++ tokens) : extended.Writes where
  neat space := by
    rw [shape]
    exact (writes.neat space).append neat spaced
  spaced := by
    obtain ⟨token, rest, head⟩ := List.exists_cons_of_ne_nil writes.nonempty
    have first := writes.spaced
    rw [shape, head]
    simpa [head] using first
  nonempty := by simp [shape, writes.nonempty]

theorem Writes.extendParens {extended : Phrase} {tokens : List Token} (writes : phrase.Writes)
    (neat : Neat tokens) (shape : ∀ space, extended.tokens space = phrase.parens.tokens space ++ tokens) :
    extended.Writes where
  neat space := by
    have closed : Neat (mark ")" false :: tokens) := neat.mark false (by decide)
    have whole : Neat (mark "(" space :: (phrase.tokens false ++ mark ")" false :: tokens)) :=
      ((writes.neat false).append closed (spaced_mark _ _ _)).mark space (by decide)
    rw [shape]
    simpa [Phrase.parens] using whole
  spaced := by simp [shape, Phrase.parens]
  nonempty := by simp [shape, Phrase.parens]

theorem neat_sign {op : String} (sign : op ∈ [".", "%"]) (space : Bool) {token : Token} {tokens : List Token}
    (neat : Neat (token :: tokens)) (adjacent : token.spaceBefore = false)
    (bounded : token.kind = .punctuation ∨ token.kind = .identifier ∨ token.kind = .alias) :
    Neat (symbol op space :: token :: tokens) where
  tidy := by
    have listed : op ∈ Token.operators ∧ op ∉ Token.wordOperators := by
      revert sign op
      decide
    have spelled : (symbol op space).Spelled := .inl listed.1
    have known := neat.tidy.spelled token (by simp)
    refine neat.tidy.cons spelled (by simp) fun head begins => ?_
    obtain rfl : token = head := by simpa using begins
    rcases bounded with mark | name
    · exact Token.divided_of_punctuation_right spelled (by simp) mark known
    · exact Token.divided_of_name rfl listed.2 name known ⟨(neat.flat token (by simp)).2, adjacent⟩
  flat := List.forall_mem_cons.mpr ⟨⟨rfl, rfl⟩, neat.flat⟩

theorem writes_remote {function : String} (known : isIdentifier function = true) (callee : target.Writes)
    (writes : ∀ phrase ∈ args, phrase.Writes) : (remote target function args).Writes := by
  have called : Neat (identifier function false :: arguments args) :=
    (neat_arguments writes).word (spelled_identifier known false) (by decide) (spaced_arguments args)
  exact callee.extendParens (neat_sign (by decide) false called rfl (.inr (.inl rfl))) fun _ => rfl

theorem writes_applied (callee : target.Writes) (writes : ∀ phrase ∈ args, phrase.Writes) :
    (applied target args).Writes :=
  callee.extendParens (neat_sign (by decide) false (neat_arguments writes) rfl (.inl rfl)) fun _ => rfl

theorem writes_indexed {index : Phrase} (container : target.Writes) (writes : index.Writes) :
    (indexed target index).Writes := by
  have inside : Neat (mark "[" false :: (rowOf comma false [index] ++ [mark "]" false])) :=
    neat_enclosed (by decide) (by decide) (.inl rfl) (by simpa using writes) false
  exact container.extendParens inside fun _ => rfl

/-- Every operator between two operands is one token or two. -/
theorem operator_listed {op : String} (known : (binding? op).isSome = true) (single : op ≠ "not in") :
    op ∈ Token.operators ∨ op ∈ Token.wordOperators := by
  have listed : ∀ entry ∈ binaryOperators,
      entry.1 = "not in" ∨ entry.1 ∈ Token.operators ∨ entry.1 ∈ Token.wordOperators := by decide +kernel
  obtain ⟨binding, found⟩ := Option.isSome_iff_exists.mp known
  exact (listed _ (mem_binaryOperators found)).resolve_left single

theorem neat_operatorTokens {op : String} {tokens : List Token} (known : (binding? op).isSome = true)
    (neat : Neat tokens) (spaced : Spaced tokens) : Neat (operatorTokens op ++ tokens) := by
  by_cases double : op = "not in"
  · have second : Neat (symbol "in" true :: tokens) := neat.word (.inr (by decide)) (by decide) spaced
    have first : Neat (symbol "not" true :: symbol "in" true :: tokens) :=
      second.word (.inr (by decide)) (by decide) (by simp [Spaced])
    simpa [operatorTokens, double] using first
  · have first : Neat (symbol op true :: tokens) :=
      neat.word (operator_listed known double) (by decide) spaced
    simpa [operatorTokens, double] using first

theorem writes_binary {op : String} (known : (binding? op).isSome = true) (first : left.Writes)
    (second : right.Writes) : (binary op left right).Writes :=
  first.extendParens (neat_operatorTokens known (second.parens.neat true) (spaced_mark _ _ _)) fun _ => rfl

theorem writes_unary {op : String} (known : op ∈ ["!", "^", "not", "+", "&", "-"]) (writes : left.Writes) :
    (unary op left).Writes where
  neat space := by
    have spelled : op ∈ Token.operators ∨ op ∈ Token.wordOperators := by
      revert known op
      decide
    exact (writes.parens.neat _).word spelled (by decide) (spaced_mark _ _ _)
  spaced := by simp [unary]
  nonempty := by simp [unary]

theorem spelled_atomWord {name : String} (word : isAtomWord name = true) {kind : Token.Kind}
    (named : kind = .key ∨ kind = .atom) (space : Bool) : Token.Spelled ⟨kind, name, 1, space, false⟩ := by
  simp only [isAtomWord, Bool.and_eq_true] at word
  rcases named with rfl | rfl <;> exact word

theorem writes_keyed {key : String} (word : isAtomWord key = true) (writes : phrase.Writes) :
    (keyed key phrase).Writes where
  neat space := {
    tidy := (writes.neat true).tidy.cons_key (spelled_atomWord word (.inl rfl) space) writes.nonempty
      writes.spaced
    flat := List.forall_mem_cons.mpr ⟨⟨rfl, rfl⟩, (writes.neat true).flat⟩ }
  spaced := by simp [keyed]
  nonempty := by simp [keyed]

end Phrases

section Names

theorem toNat_lt_of_isAlphanum {c : Char} (ascii : c.isAlphanum = true) : c.toNat < 128 := by
  rcases Bool.or_eq_true_iff.mp ascii with letter | digit
  · rcases Text.isAlpha_iff.mp letter with upper | lower
    · have range := Text.isUpper_iff.mp upper
      omega
    · have range := Text.isLower_iff.mp lower
      omega
  · have range := Text.toNat_le_of_isDigit digit
    omega

theorem isWordChar_of_isSegmentChar {c : Char} (inside : ModuleRef.isSegmentChar c = true) :
    Text.isWordChar c = true := by
  simp only [ModuleRef.isSegmentChar, Bool.or_eq_true, decide_eq_true_eq] at inside
  rcases inside with ascii | rfl
  · simp [Text.isWordChar, Text.isAlphanumeric_ascii c (toNat_lt_of_isAlphanum ascii), ascii]
  · decide

theorem spelled_segment {segment : String} (valid : ModuleRef.isSegment segment = true)
    (oneLine : '\n' ∉ segment.toList) (space : Bool) :
    Token.Spelled ⟨.alias, segment, 1, space, false⟩ := by
  cases chars : segment.toList with
  | nil => simp [ModuleRef.isSegment, chars, ModuleRef.isSegmentChars] at valid
  | cons c rest =>
    rw [ModuleRef.isSegment, chars] at valid
    rw [chars] at oneLine
    simp only [ModuleRef.isSegmentChars, Bool.and_eq_true, Bool.or_eq_true, decide_eq_true_eq] at valid
    obtain ⟨upper, tail⟩ := valid
    have letter : c.isAlpha = true := Text.isAlpha_iff.mpr (.inl upper)
    have ended : rest.dropWhile ModuleRef.isSegmentChar = [] := by
      refine tail.resolve_right fun broken => oneLine ?_
      have late : '\n' ∈ rest.dropWhile ModuleRef.isSegmentChar := by simp [broken]
      exact List.mem_cons_of_mem _ ((List.dropWhile_sublist _).subset late)
    have inside : ∀ d ∈ c :: rest, ModuleRef.isSegmentChar d = true := by
      have later := List.dropWhile_eq_nil_iff.mp ended
      refine List.forall_mem_cons.mpr ⟨?_, later⟩
      simp [ModuleRef.isSegmentChar, Char.isAlphanum, letter]
    have ascii : c.toNat < 128 := toNat_lt_of_isAlphanum (by simp [Char.isAlphanum, letter])
    have capital : Text.isLetter c = true ∧ Token.isIdentifierStart c = false := by
      have notLower : c.isLower = false := by
        refine Bool.eq_false_iff.mpr fun lower => ?_
        have range := Text.isUpper_iff.mp upper
        have other := Text.isLower_iff.mp lower
        omega
      have notLow : c ≠ '_' := by
        rintro rfl
        exact absurd upper (by decide)
      simp [Token.isIdentifierStart, Text.isLetter_ascii c ascii, Text.isLowercase_ascii c ascii, letter,
        notLower, notLow]
    have word : (c :: rest).dropWhile Text.isWordChar = [] :=
      List.dropWhile_eq_nil_iff.mpr fun d member => isWordChar_of_isSegmentChar (inside d member)
    simp only [Token.Spelled, chars]
    refine ⟨by simp [capital], by simp [Token.isWord, word]⟩

theorem neat_dotted {segments : List String} {tokens : List Token}
    (spelled : ∀ segment ∈ segments, ∀ space, Token.Spelled ⟨.alias, segment, 1, space, false⟩)
    (neat : Neat tokens) (spaced : Spaced tokens) (space : Bool) : Neat (dotted space segments ++ tokens) := by
  cases segments with
  | nil => exact neat
  | cons segment more =>
    simp only [dotted, List.cons_append]
    induction more generalizing segment space with
    | nil => exact neat.word (spelled segment (by simp) space) (by decide) spaced
    | cons next more ih =>
      have later := ih false next fun other member => spelled other (List.mem_cons_of_mem _ member)
      have pointed : Neat (symbol "." false :: ⟨.alias, next, 1, false, false⟩ :: (more.flatMap link ++ tokens)) :=
        neat_sign (by decide) false later rfl (.inr (.inr rfl))
      exact {
        tidy := pointed.tidy.cons (spelled segment (by simp) space) (by simp) fun head begins => by
          obtain rfl : symbol "." false = head := Option.some.inj begins
          exact Token.divided_of_point rfl rfl ⟨rfl, rfl⟩
        flat := List.forall_mem_cons.mpr ⟨⟨rfl, rfl⟩, pointed.flat⟩ }

theorem spelled_segments {ref : ModuleRef} (oneLine : isOneLine ref = true) :
    ∀ segment ∈ ref.segments, ∀ space, Token.Spelled ⟨.alias, segment, 1, space, false⟩ := by
  intro segment member
  have plain := List.all_eq_true.mp oneLine segment member
  exact spelled_segment (ref.wellFormed segment member) (by simpa using plain)

theorem writes_reference {ref : ModuleRef} (oneLine : isOneLine ref = true) : (reference ref.segments).Writes := by
  obtain ⟨segment, more, segments⟩ := List.exists_cons_of_ne_nil ref.nonempty
  have neat := fun space => neat_dotted (spelled_segments oneLine) .nil (by simp [Spaced]) space
  simp only [List.append_nil] at neat
  refine ⟨neat, ?_, ?_⟩ <;> simp [reference, segments, dotted]

end Names

section Forms

variable {phrases heads statements : List Phrase}

theorem neat_keyword {word : String} (known : word ∈ ["do", "end", "fn"]) {tokens : List Token}
    (neat : Neat tokens) (spaced : Spaced tokens) (space : Bool) : Neat (keyword word space :: tokens) := by
  have spelled : word.toList.head?.any Token.isIdentifierStart ∧ Token.isWord word.toList ∧
      Token.wordKind word = .keyword := by
    revert known word
    decide
  exact neat.word spelled (by decide) spaced

theorem neat_toEnd {word : String} (known : word ∈ ["do", "end", "fn"])
    (writes : ∀ phrase ∈ phrases, phrase.Writes) (space : Bool) :
    Neat (keyword word space :: (rowOf semicolon true phrases ++ [keyword "end" true])) := by
  have ending : Neat [keyword "end" true] := neat_keyword (by decide) .nil (by simp [Spaced]) true
  have last : Spaced [keyword "end" true] := by simp [Spaced]
  exact neat_keyword known ((neat_rowOf (.inr rfl) writes true).append ending last)
    (spaced_append (spaced_rowOf writes) last) space

theorem writes_anonymous (writes : ∀ phrase ∈ phrases, phrase.Writes) : (anonymous phrases).Writes where
  neat space := neat_toEnd (by decide) writes space
  spaced := by simp [anonymous]
  nonempty := by simp [anonymous]

theorem neat_block (writes : ∀ phrase ∈ statements, phrase.Writes) : Neat (block statements) :=
  neat_toEnd (by decide) writes true

theorem spaced_block (statements : List Phrase) : Spaced (block statements) := by simp [Spaced, block]

theorem writes_clause (inputs : ∀ phrase ∈ heads, phrase.Writes)
    (writes : ∀ phrase ∈ statements, phrase.Writes) : (clause heads statements).Writes where
  neat space := by
    have body : Neat (arrow :: rowOf semicolon true statements) :=
      (neat_rowOf (.inr rfl) writes true).word (.inl (by decide)) (by decide) (spaced_rowOf writes)
    exact (neat_rowOf (.inl rfl) inputs space).append body (by simp [Spaced, arrow])
  spaced := by
    cases heads with
    | nil => simp [clause, rowOf, row, arrow]
    | cons phrase more =>
      have first := inputs phrase (by simp)
      obtain ⟨token, rest, shape⟩ := List.exists_cons_of_ne_nil first.nonempty
      cases more with
      | nil => simpa [clause, rowOf, row, shape] using first.spaced
      | cons second more => simpa [clause, rowOf, row, shape] using first.spaced
  nonempty := by simp [clause]

theorem writes_moduleDecl {ref : ModuleRef} (oneLine : isOneLine ref = true)
    (writes : ∀ phrase ∈ statements, phrase.Writes) : (moduleDecl ref.segments statements).Writes where
  neat space := by
    obtain ⟨segment, more, segments⟩ := List.exists_cons_of_ne_nil ref.nonempty
    have named := neat_dotted (spelled_segments oneLine) (neat_block writes) (spaced_block statements) true
    have spaced : Spaced (dotted true ref.segments ++ block statements) := by simp [segments, dotted, Spaced]
    exact named.word (spelled_identifier (by decide) space) (by decide) spaced
  spaced := by simp [moduleDecl]
  nonempty := by simp [moduleDecl]

theorem writes_signature {name : String} {params : List Phrase} {guard : Option Phrase}
    (known : isIdentifier name = true) (inputs : ∀ phrase ∈ params, phrase.Writes)
    (guarded : ∀ phrase ∈ guard, phrase.Writes) : (signature name params guard).Writes := by
  have head := writes_call known inputs
  cases guard with
  | none => exact head
  | some guard =>
    have condition : Neat (symbol "when" true :: guard.parens.tokens true) :=
      ((guarded guard rfl).parens.neat true).word (.inr (by decide)) (by decide) (spaced_mark _ _ _)
    exact head.extend condition (by simp [Spaced]) fun _ => rfl

theorem writes_definition {head : Phrase} (kind : DefinitionKind) (named : head.Writes)
    (writes : ∀ phrase ∈ statements, phrase.Writes) : (definition kind head statements).Writes where
  neat space := by
    have known : isIdentifier kind.keyword = true := by cases kind <;> decide
    have body := (named.neat true).append (neat_block writes) (spaced_block statements)
    exact body.word (spelled_identifier known space) (by decide)
      (spaced_append named.starts (spaced_block statements))
  spaced := by simp [definition]
  nonempty := by simp [definition]

theorem writes_map {struct : List String} {update : Option Phrase} {entries : List Phrase}
    (spelled : ∀ segment ∈ struct, ∀ space, Token.Spelled ⟨.alias, segment, 1, space, false⟩)
    (changed : ∀ phrase ∈ update, phrase.Writes) (writes : ∀ phrase ∈ entries, phrase.Writes) :
    (map struct update entries).Writes where
  neat space := by
    have ending : Neat [mark "\x7d" false] := Neat.nil.mark false (by decide)
    -- What stands between the braces.
    obtain ⟨inner, shape, neat⟩ : ∃ inner, (map struct update entries).tokens space =
        symbol "%" space :: (dotted false struct ++ mark "\x7b" false :: (inner ++ [mark "\x7d" false])) ∧
        Neat inner := by
      cases update with
      | none => exact ⟨_, rfl, neat_rowOf (.inl rfl) writes false⟩
      | some changing =>
        have barred : Neat (symbol "|" true :: rowOf comma true entries) :=
          (neat_rowOf (.inl rfl) writes true).word (.inl (by decide)) (by decide) (spaced_rowOf writes)
        exact ⟨_, rfl, ((changed changing rfl).parens.neat false).append barred (by simp [Spaced])⟩
    have braces : Neat (mark "\x7b" false :: (inner ++ [mark "\x7d" false])) :=
      (neat.append ending (spaced_mark _ _ _)).mark false (by decide)
    have named := neat_dotted spelled braces (spaced_mark _ _ _) false
    rw [shape]
    cases struct with
    | nil => exact neat_sign (by decide) space braces rfl (.inl rfl)
    | cons segment more => exact neat_sign (by decide) space named rfl (.inr (.inr rfl))
  spaced := by simp [map]
  nonempty := by simp [map]

end Forms

end Phrase

open Phrase

theorem Style.writes_part (style : Style) {node : Node} {phrase : Phrase} (writes : phrase.Writes) :
    (style.part node phrase).Writes := by
  unfold Style.part
  split
  · exact writes.parens
  · exact writes

theorem Style.writes_parts (style : Style) {nodes : List Node}
    (writes : ∀ node ∈ nodes, (node.phrase style).Writes) :
    ∀ phrase ∈ nodes.map fun node => style.part node (node.phrase style), phrase.Writes := by
  intro phrase member
  obtain ⟨node, found, rfl⟩ := List.mem_map.mp member
  exact style.writes_part (writes node found)

theorem writes_optional {style : Style} {node : Option Node}
    (writes : ∀ n ∈ node, (n.phrase style).Writes) :
    ∀ phrase ∈ node.map (Node.phrase style), phrase.Writes := by
  intro phrase member
  obtain ⟨node, found, rfl⟩ := Option.map_eq_some_iff.mp member
  exact writes node found

theorem writes_heads {style : Style} {params : List Node} {guard : Option Node}
    (inputs : ∀ node ∈ params, (node.phrase style).Writes) (guarded : ∀ n ∈ guard, (n.phrase style).Writes)
    (headed : guard.isSome → params ≠ []) :
    ∀ phrase ∈ heads (style.parts params (Node.phrases style params)) (Node.phrases style params).getLast?
      (Node.optionalPhrase style guard), phrase.Writes := by
  cases guard with
  | none =>
    rw [Node.optionalPhrase, heads_unguarded, Node.parts_eq_map]
    exact style.writes_parts inputs
  | some guard =>
    obtain ⟨init, last, rfl⟩ : ∃ init last, params = init ++ [last] :=
      ⟨params.dropLast, params.getLast (headed rfl), (List.dropLast_append_getLast (headed rfl)).symm⟩
    have conditioned : (binary "when" (last.phrase style) (guard.phrase style)).Writes :=
      writes_binary (by decide) (inputs last (by simp)) (guarded guard rfl)
    have early := style.writes_parts fun node member => inputs node (List.mem_append_left [last] member)
    rw [Node.heads_guarded]
    intro phrase member
    rcases List.mem_append.mp member with found | found
    · exact early phrase found
    · exact List.mem_singleton.mp found ▸ conditioned

def Role.phrase (style : Style) : Role → Node → Phrase
  | .entry, node => node.entryPhrase style
  | _, node => node.phrase style

/-- Every printable tree is written apart. -/
theorem Printable.writes {role : Role} {node : Node} (printable : Printable role node) (style : Style) :
    (role.phrase style node).Writes := by
  induction printable with
  | var known => exact writes_single (by decide) (spelled_identifier known)
  | reference oneLine => exact writes_reference oneLine
  | atom word => exact writes_single (by decide) (spelled_atomWord word (.inr rfl))
  | @integer value line short =>
    refine writes_single (by decide) fun space => ?_
    have chars : (toString value).toList = Nat.toDigits 10 value := Nat.toList_repr
    have digits : ∀ c ∈ Nat.toDigits 10 value, c.isDigit = true := fun c member =>
      Nat.isDigit_of_mem_toDigits (by decide) (by decide) member
    refine ⟨?_, ?_⟩
    · exact fun empty => Nat.toDigits_ne_nil (chars.symm.trans empty)
    · exact List.all_eq_true.mpr fun c member => digits c (chars ▸ member)
  | @boolean value line => cases value <;> exact writes_word (by decide)
  | nil => exact writes_word (by decide)
  | text plain => exact writes_single (by decide) fun _ => plain
  | call known ordinary _ ih =>
    simp only [Role.phrase, Node.phrase, Node.parts_eq_map]
    exact writes_call known (style.writes_parts ih)
  | @remote target function args line known _ _ callee ih =>
    have named : function ≠ "." ∧ function ≠ "[]" := by
      constructor <;> rintro rfl <;> exact absurd known (by decide)
    simp only [Role.phrase, Node.phrase, Node.parts_eq_map, named.1, named.2, if_false]
    exact writes_remote known callee (style.writes_parts ih)
  | applied _ _ callee ih =>
    simp only [Role.phrase, Node.phrase, Node.parts_eq_map, if_true]
    exact writes_applied callee (style.writes_parts ih)
  | indexed _ _ container ih => exact writes_indexed container (style.writes_part ih)
  | list _ ih =>
    simp only [Role.phrase, Node.phrase, Node.parts_eq_map]
    exact writes_bracketed (by decide) (by decide) (style.writes_parts ih)
  | tuple _ ih =>
    simp only [Role.phrase, Node.phrase, Node.parts_eq_map]
    exact writes_bracketed (by decide) (by decide) (style.writes_parts ih)
  | map entries _ ih changed =>
    simp only [Role.phrase, Node.phrase, Node.optionalPhrase_eq_map, Node.entries_eq_map style fun entry member =>
      (entries entry member).isPair]
    exact writes_map (by simp) (writes_optional changed) (by simpa [Role.phrase] using ih)
  | @struct _ ref _ _ _ oneLine entries _ ih changed =>
    simp only [Role.phrase, Node.phrase, Node.optionalPhrase_eq_map, Node.entries_eq_map style fun entry member =>
      (entries entry member).isPair]
    exact writes_map (spelled_segments oneLine) (writes_optional changed) (by simpa [Role.phrase] using ih)
  | binary known _ _ first second => exact writes_binary known first second
  | unary known _ _ ih => exact writes_unary known ih
  | sequence _ _ ih =>
    simp only [Role.phrase, Node.phrase, Node.parts_eq_map]
    exact writes_sequence (style.writes_parts ih)
  | anonymous _ _ ih =>
    simp only [Role.phrase, Node.phrase, Node.phrases_eq_map]
    exact writes_anonymous (by simpa [Role.phrase] using ih)
  | moduleDecl oneLine _ ih =>
    simp only [Role.phrase, Node.phrase, Node.parts_eq_map]
    exact writes_moduleDecl oneLine (style.writes_parts ih)
  | definition known _ _ _ _ inputs guarded ih =>
    simp only [Role.phrase, Node.phrase, Node.parts_eq_map, Node.optionalPhrase_eq_map]
    exact writes_definition _ (writes_signature known (style.writes_parts inputs) (writes_optional guarded))
      (style.writes_parts ih)
  | plainItem _ ih => exact ih
  | keyedItem word _ ih => exact writes_keyed word (style.writes_part ih)
  | @entry key value line first _ keyed valued =>
    have arrowed : (Phrase.binary "=>" (key.phrase style) (value.phrase style)).Writes :=
      writes_binary (by decide) keyed valued
    cases first with
    | atom word =>
      simp only [Role.phrase, Node.entryPhrase, Style.entry]
      split
      · exact arrowed
      · exact writes_keyed word (style.writes_part valued)
    | _ => exact arrowed
  | clause _ _ headed _ _ inputs guarded ih =>
    simp only [Role.phrase, Node.phrase]
    refine writes_clause (writes_heads inputs guarded headed) ?_
    rw [Node.parts_eq_map]
    exact style.writes_parts ih

end BoundaryLint.Grammar
