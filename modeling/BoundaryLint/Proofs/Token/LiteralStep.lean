import BoundaryLint.Proofs.Token.LineCount
import Mathlib

/-!
The steps of the scan of a literal: what one character, or the few that belong together, changes in what is open.
-/

namespace BoundaryLint.Token

def startsPair (p q : Char → Bool) : List Char → Bool
  | c :: d :: _ => p c && q d
  | _ => false

theorem startsPair_cons (p q : Char → Bool) (c : Char) (rest : List Char) :
    startsPair p q (c :: rest) = (p c && rest.head?.any q) := by
  cases rest with
  | nil => simp [startsPair]
  | cons d rest => simp [startsPair]

def doubled (quote : Char) (chars : List Char) : Bool := startsPair (· = quote) (· = quote) chars

def IsQuote (c : Char) : Prop := c = '"' ∨ c = '\''

instance (c : Char) : Decidable (IsQuote c) := inferInstanceAs (Decidable (c = '"' ∨ c = '\''))

theorem IsQuote.plain {quote : Char} (quotes : IsQuote quote) :
    quote ≠ '\n' ∧ quote ≠ '\\' ∧ quote ≠ '#' ∧ quote ≠ '\x7b' := by
  rcases quotes with rfl | rfl <;> decide

def tripled (quote : Char) : List Char := [quote, quote, quote]

section Steps

variable {around : List Open} {quote c : Char} {line opened nested : Nat} {taken rest : List Char} {inner : Open}

attribute [local grind =] closeLiteral.eq_def

theorem closeLiteral_escaped_char [Host] (c : Char) :
    closeLiteral around (.text quote opened) line taken ('\\' :: c :: rest) =
      closeLiteral around (.text quote opened) (lineAfter line c) (c :: '\\' :: taken) rest := by
  rw [closeLiteral.eq_def]
  simp

theorem closeLiteral_plain_char [Host] (noEscape : c ≠ '\\') (inside : c ≠ quote)
    (noHole : ¬(c = '#' ∧ rest.head? = some '\x7b')) :
    closeLiteral around (.text quote opened) line taken (c :: rest) =
      closeLiteral around (.text quote opened) (lineAfter line c) (c :: taken) rest := by
  rw [closeLiteral.eq_def]
  cases rest <;> grind [lineAfter]

theorem closeLiteral_hole [Host] (other : quote ≠ '#') :
    closeLiteral around (.text quote opened) line taken ('#' :: '\x7b' :: rest) =
      if Host.literalNesting ≤ around.length then .error .literalsTooDeep
      else closeLiteral (.text quote opened :: around) (.interpolation 0 line) line ('\x7b' :: '#' :: taken) rest := by
  rw [closeLiteral.eq_def]
  simp [Ne.symm other]

theorem closeLiteral_end [Host] (noEscape : quote ≠ '\\') :
    closeLiteral (inner :: around) (.text quote opened) line taken (quote :: rest) =
      closeLiteral around inner line (quote :: taken) rest := by
  rw [closeLiteral.eq_def]
  simp [noEscape]

theorem closeLiteral_last [Host] (noEscape : quote ≠ '\\') :
    closeLiteral [] (.text quote opened) line taken (quote :: rest) = .ok ⟨taken.reverse, rest, line⟩ := by
  rw [closeLiteral.eq_def]
  simp [noEscape]

theorem closeLiteral_code [Host] (noQuote : ¬IsQuote c) (noBrace : c ≠ '\x7b' ∧ c ≠ '\x7d') :
    closeLiteral around (.interpolation nested opened) line taken (c :: rest) =
      closeLiteral around (.interpolation nested opened) (lineAfter line c) (c :: taken) rest := by
  have other : ¬(c = '"' ∨ c = '\'') := noQuote
  rw [closeLiteral.eq_def]
  simp only [if_neg other, if_neg noBrace.1, if_neg noBrace.2]

theorem closeLiteral_open [Host] :
    closeLiteral around (.interpolation nested opened) line taken ('\x7b' :: rest) =
      closeLiteral around (.interpolation (nested + 1) opened) line ('\x7b' :: taken) rest := by
  rw [closeLiteral.eq_def]
  simp

theorem closeLiteral_close [Host] :
    closeLiteral around (.interpolation (nested + 1) opened) line taken ('\x7d' :: rest) =
      closeLiteral around (.interpolation nested opened) line ('\x7d' :: taken) rest := by
  rw [closeLiteral.eq_def]
  simp

theorem closeLiteral_leave [Host] :
    closeLiteral (inner :: around) (.interpolation 0 opened) line taken ('\x7d' :: rest) =
      closeLiteral around inner line ('\x7d' :: taken) rest := by
  rw [closeLiteral.eq_def]
  simp

theorem tripled_isPrefix_cons : tripled quote <+: c :: rest ↔ c = quote ∧ doubled quote rest = true := by
  rw [tripled, List.cons_prefix_cons]
  match rest with
  | [] => simp [doubled, startsPair]
  | [second] => simp [doubled, startsPair]
  | second :: third :: after => simp [doubled, startsPair, @eq_comm _ quote]

/-- Whether a tripled quote comes next is told by three characters. -/
theorem tripled_isPrefix_append {used : List Char} (long : 2 ≤ used.length) (first second : List Char) :
    tripled quote <+: c :: (used ++ first) ↔ tripled quote <+: c :: (used ++ second) := by
  rw [tripled_isPrefix_cons, tripled_isPrefix_cons]
  match used, long with
  | d :: e :: more, _ => rfl

theorem not_tripled_isPrefix_short (short : ∀ second third after, rest = second :: third :: after → False) :
    ¬tripled quote <+: c :: rest := by
  rw [tripled_isPrefix_cons]
  match rest with
  | [] => simp [doubled, startsPair]
  | [d] => simp [doubled, startsPair]
  | d :: e :: after => exact (short d e after rfl).elim

theorem tripled_isPrefix_of_append {word ahead : List Char} (stop : ∀ c ∈ ahead.head?, c ≠ quote)
    (found : tripled quote <+: word ++ ahead) : tripled quote <+: word := by
  have first : ∀ {c more}, ahead = c :: more → c ≠ quote := by
    rintro c more rfl
    exact stop c rfl
  obtain ⟨more, split⟩ := found
  match word with
  | [] => exact absurd rfl (first split.symm)
  | [_] => exact absurd rfl (first (List.cons.inj split).2.symm)
  | [_, _] => exact absurd rfl (first (List.cons.inj (List.cons.inj split).2).2.symm)
  | a :: b :: c :: word =>
    obtain ⟨rfl, rfl, rfl, -⟩ : quote = a ∧ quote = b ∧ quote = c ∧ more = word ++ ahead := by
      simpa [tripled] using split
    exact ⟨word, rfl⟩

theorem closeLiteral_single [Host] (quotes : IsQuote quote) (single : ¬tripled quote <+: quote :: rest) :
    closeLiteral around (.interpolation nested opened) line taken (quote :: rest) =
      if Host.literalNesting ≤ around.length then .error .literalsTooDeep
      else closeLiteral (.interpolation nested opened :: around) (.text quote line) line (quote :: taken) rest := by
  have either : quote = '"' ∨ quote = '\'' := quotes
  rw [tripled_isPrefix_cons] at single
  rw [closeLiteral.eq_def]
  simp only [if_pos either]
  rcases rest with _ | ⟨second, _ | ⟨third, after⟩⟩
  · rfl
  · rfl
  · have other : ¬(second = quote ∧ third = quote) := by simpa [doubled, startsPair] using single
    simp only [if_neg other]

theorem closeLiteral_tripled [Host] (quotes : IsQuote quote) :
    closeLiteral around (.interpolation nested opened) line taken (tripled quote ++ rest) =
      if Host.literalNesting ≤ around.length then .error .literalsTooDeep
      else closeLiteral (.interpolation nested opened :: around) (.heredoc quote line) line (tripled quote ++ taken)
        rest := by
  have either : quote = '"' ∨ quote = '\'' := quotes
  rw [closeLiteral.eq_def]
  simp [tripled, either]

theorem closeLiteral_heredoc_char [Host] (goesOn : ¬(tripled quote <+: c :: rest ∧ taken.head? ≠ some '\\')) :
    closeLiteral around (.heredoc quote opened) line taken (c :: rest) =
      closeLiteral around (.heredoc quote opened) (lineAfter line c) (c :: taken) rest := by
  rw [tripled_isPrefix_cons] at goesOn
  rw [closeLiteral.eq_def]
  rcases rest with _ | ⟨second, _ | ⟨third, after⟩⟩
  · rfl
  · rfl
  · have other : ¬(c = quote ∧ second = quote ∧ third = quote ∧ taken.head? ≠ some '\\') := by
      simpa [doubled, startsPair, and_assoc] using goesOn
    simp only [if_neg other]

theorem closeLiteral_heredoc_end [Host] (unescaped : taken.head? ≠ some '\\') :
    closeLiteral (inner :: around) (.heredoc quote opened) line taken (tripled quote ++ rest) =
      closeLiteral around inner line (tripled quote ++ taken) rest := by
  rw [closeLiteral.eq_def]
  simp [tripled, unescaped]

end Steps

end BoundaryLint.Token
