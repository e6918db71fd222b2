import BoundaryLint.Pattern.Basic
import Mathlib

/-!
Patterns that spell a word. Such a pattern is found in a text exactly if the word stands in it, or a spelling of the
word in other case; a word edge next to the word asks for a place where no word character goes on.
-/

namespace BoundaryLint.Pattern

open BoundaryLint.Text (isWordChar)

variable {regex next : Regex} {before after text word piece : List Char} {ignoreCase : Bool}

attribute [local simp] ends searchFrom

def Wordless (chars : List Char) : Prop := ∀ c ∈ chars.head?, isWordChar c = false

def ClosedIn (piece text : List Char) : Prop :=
  ∃ before after, text = before ++ piece ++ after ∧ Wordless after

def OpenedIn (piece text : List Char) : Prop :=
  ∃ before after, text = before ++ piece ++ after ∧ Wordless before.reverse

theorem wordless_iff {chars : List Char} : Wordless chars ↔ chars.head?.any isWordChar = false := by
  cases chars with
  | nil => simp [Wordless]
  | cons c rest => simp [Wordless]

theorem searchFrom_iff : searchFrom regex before text = true ↔
    ∃ passed left, text = passed ++ left ∧ ends regex ⟨passed.reverse ++ before, left⟩ ≠ [] := by
  induction text generalizing before with
  | nil =>
    have alone : searchFrom regex before [] = true ↔ ends regex ⟨before, []⟩ ≠ [] := by simp
    rw [alone]
    constructor
    · intro found
      exact ⟨[], [], rfl, found⟩
    · rintro ⟨passed, left, whole, found⟩
      obtain ⟨rfl, rfl⟩ := List.append_eq_nil_iff.mp whole.symm
      exact found
  | cons c rest ih =>
    have turn : searchFrom regex before (c :: rest) = true ↔
        ends regex ⟨before, c :: rest⟩ ≠ [] ∨ searchFrom regex (c :: before) rest = true := by simp
    rw [turn, ih]
    constructor
    · rintro (found | ⟨passed, left, rfl, found⟩)
      · exact ⟨[], c :: rest, rfl, found⟩
      · refine ⟨c :: passed, left, rfl, ?_⟩
        rw [List.reverse_cons, List.append_assoc]
        exact found
    · rintro ⟨passed, left, whole, found⟩
      cases passed with
      | nil =>
        rw [List.nil_append] at whole
        subst whole
        exact .inl found
      | cons d passed =>
        obtain ⟨rfl, rfl⟩ := List.cons.inj whole
        rw [List.reverse_cons, List.append_assoc] at found
        exact .inr ⟨passed, left, rfl, found⟩

theorem search_iff {text : String} : search regex text = true ↔
    ∃ before after, text.toList = before ++ after ∧ ends regex ⟨before.reverse, after⟩ ≠ [] := by
  rw [search, searchFrom_iff]
  simp only [List.append_nil]

def spelled (ignoreCase : Bool) (word : List Char) (next : Regex) : Regex :=
  word.foldr (fun c rest => .seq (.one false [.char c] ignoreCase) rest) next

def Takes (ignoreCase : Bool) (c d : Char) : Prop := classHolds false [.char c] ignoreCase d = true

theorem takes_iff_eq {c d : Char} : Takes false c d ↔ c = d := by
  simp [Takes, classHolds, ClassItem.holds, eq_comm]

theorem forall₂_takes_iff_eq : List.Forall₂ (Takes false) word piece ↔ word = piece := by
  have same : Takes false = Eq := by
    funext c d
    exact propext takes_iff_eq
  rw [same, List.forall₂_eq_eq_eq]

theorem ends_seq_one {c d : Char} :
    ends (.seq (.one false [.char c] ignoreCase) next) ⟨before, d :: after⟩ ≠ [] ↔
      Takes ignoreCase c d ∧ ends next ⟨d :: before, after⟩ ≠ [] := by
  by_cases taken : Takes ignoreCase c d
  · have step : Cursor.step (classHolds false [.char c] ignoreCase) ⟨before, d :: after⟩ = [⟨d :: before, after⟩] :=
      if_pos taken
    simp [step, taken]
  · have step : Cursor.step (classHolds false [.char c] ignoreCase) ⟨before, d :: after⟩ = [] := if_neg taken
    simp [step, taken]

/-- A word is matched by its spellings, character by character. -/
theorem ends_spelled : ends (spelled ignoreCase word next) ⟨before, after⟩ ≠ [] ↔
    ∃ piece rest, after = piece ++ rest ∧ List.Forall₂ (Takes ignoreCase) word piece ∧
      ends next ⟨piece.reverse ++ before, rest⟩ ≠ [] := by
  induction word generalizing before after with
  | nil =>
    constructor
    · intro found
      exact ⟨[], after, rfl, .nil, found⟩
    · rintro ⟨piece, rest, rfl, spelling, found⟩
      cases spelling
      exact found
  | cons c word ih =>
    cases after with
    | nil =>
      constructor
      · intro found
        exact absurd rfl found
      · rintro ⟨piece, rest, whole, spelling, -⟩
        cases spelling
        cases whole
    | cons d after =>
      rw [show spelled ignoreCase (c :: word) next = .seq (.one false [.char c] ignoreCase)
        (spelled ignoreCase word next) from rfl, ends_seq_one, ih]
      constructor
      · rintro ⟨taken, piece, rest, rfl, spelling, found⟩
        refine ⟨d :: piece, rest, rfl, .cons taken spelling, ?_⟩
        rw [List.reverse_cons, List.append_assoc]
        exact found
      · rintro ⟨piece, rest, whole, spelling, found⟩
        cases spelling with
        | cons taken others =>
          obtain ⟨rfl, rfl⟩ := List.cons.inj whole
          rw [List.reverse_cons, List.append_assoc] at found
          exact ⟨taken, _, rest, rfl, others, found⟩

theorem ends_edge {cursor : Cursor} :
    ends (.seq (.anchor (.wordEdge false)) next) cursor ≠ [] ↔
      cursor.startsWord ≠ cursor.endsWord ∧ ends next cursor ≠ [] := by
  by_cases edge : cursor.startsWord = cursor.endsWord
  · simp [Cursor.satisfies, edge]
  · simp [Cursor.satisfies, edge]

/-- A word is found exactly where it stands. -/
theorem search_spelled {text : String} : search (spelled false word .empty) text = true ↔ word <:+: text.toList := by
  rw [search_iff]
  constructor
  · rintro ⟨before, after, whole, found⟩
    obtain ⟨piece, rest, rfl, spelling, -⟩ := ends_spelled.mp found
    rw [forall₂_takes_iff_eq] at spelling
    subst spelling
    exact ⟨before, rest, by rw [whole, List.append_assoc]⟩
  · rintro ⟨before, after, whole⟩
    refine ⟨before, word ++ after, by rw [← whole, List.append_assoc], ?_⟩
    exact ends_spelled.mpr ⟨word, after, rfl, forall₂_takes_iff_eq.mpr rfl, List.cons_ne_nil _ _⟩

/-- An edge after a word is where no word character follows, as the word ends in one. -/
theorem search_spelled_edge {text : String}
    (closing : ∀ spelling, List.Forall₂ (Takes ignoreCase) word spelling →
      ∃ start last, spelling = start ++ [last] ∧ isWordChar last = true) :
    search (spelled ignoreCase word (.seq (.anchor (.wordEdge false)) .empty)) text = true ↔
      ∃ spelling, List.Forall₂ (Takes ignoreCase) word spelling ∧ ClosedIn spelling text.toList := by
  have edge (spelling before rest : List Char) (spells : List.Forall₂ (Takes ignoreCase) word spelling) :
      ends (.seq (.anchor (.wordEdge false)) .empty) ⟨spelling.reverse ++ before, rest⟩ ≠ [] ↔ Wordless rest := by
    obtain ⟨start, last, rfl, inWord⟩ := closing spelling spells
    rw [ends_edge, wordless_iff]
    simp [Cursor.startsWord, Cursor.endsWord, inWord]
  rw [search_iff]
  constructor
  · rintro ⟨before, after, whole, found⟩
    obtain ⟨spelling, rest, rfl, spells, ended⟩ := ends_spelled.mp found
    refine ⟨spelling, spells, before, rest, ?_, (edge _ _ _ spells).mp ended⟩
    rw [whole, List.append_assoc]
  · rintro ⟨spelling, spells, before, after, whole, closed⟩
    refine ⟨before, spelling ++ after, by rw [whole, List.append_assoc], ?_⟩
    exact ends_spelled.mpr ⟨spelling, after, rfl, spells, (edge _ _ _ spells).mpr closed⟩

/-- An edge before a word is where no word character precedes, as the word starts with one. -/
theorem search_edge_spelled {text : String} {first : Char} (opening : isWordChar first = true) :
    search (.seq (.anchor (.wordEdge false)) (spelled false (first :: word) .empty)) text = true ↔
      OpenedIn (first :: word) text.toList := by
  have edge (before after : List Char) : ends (.seq (.anchor (.wordEdge false)) (spelled false (first :: word) .empty))
      ⟨before.reverse, after⟩ ≠ [] ↔ ∃ rest, after = first :: word ++ rest ∧ Wordless before.reverse := by
    rw [ends_edge, ends_spelled, wordless_iff]
    constructor
    · rintro ⟨differ, piece, rest, rfl, spelling, -⟩
      rw [forall₂_takes_iff_eq] at spelling
      subst spelling
      refine ⟨rest, rfl, ?_⟩
      simpa [Cursor.startsWord, Cursor.endsWord, opening] using differ
    · rintro ⟨rest, rfl, opened⟩
      refine ⟨?_, first :: word, rest, rfl, forall₂_takes_iff_eq.mpr rfl, List.cons_ne_nil _ _⟩
      simpa [Cursor.startsWord, Cursor.endsWord, opening] using opened
  rw [search_iff]
  constructor
  · rintro ⟨before, after, whole, found⟩
    obtain ⟨rest, rfl, opened⟩ := (edge before after).mp found
    refine ⟨before, rest, ?_, opened⟩
    rw [whole, List.append_assoc]
  · rintro ⟨before, after, whole, opened⟩
    refine ⟨before, first :: word ++ after, by rw [whole, List.append_assoc], ?_⟩
    exact (edge before _).mpr ⟨after, rfl, opened⟩

end BoundaryLint.Pattern
