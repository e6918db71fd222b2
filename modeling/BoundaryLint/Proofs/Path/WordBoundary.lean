import BoundaryLint.Proofs.Path.Components
import BoundaryLint.Proofs.Text.Letter
import Mathlib

/-!
Snake case and camel case. In camel case the words of a name are told apart by their capitals alone, so the way back to
snake case finds a word only where a capital marks its start. The names that come back unchanged are exactly those all of
whose words are marked.
-/

namespace BoundaryLint.Path

def IsSnake (name : String) : Prop := ∀ c ∈ name.toList, c.isLower = true ∨ c.isDigit = true ∨ c = '_'

def words (name : String) : List (List Char) := Text.splitChars '_' name.toList

/-- A word is marked by a capital that does not run into the capitals before it: it starts with a letter, and either the
word before it is longer than its capital or a small letter follows its own. -/
def Marked (word next : List Char) : Prop :=
  next.head?.any Char.isLower = true ∧ (1 < word.length ∨ next[1]?.any Char.isLower = true)

def Separable (name : String) : Prop :=
  (words name).head?.any (·.head?.any Char.isLower) = true ∧ (words name).IsChain Marked

-- the characters of the name are looked at, not all that there are
instance (name : String) : Decidable (IsSnake name) := List.decidableBAll _ name.toList

instance : DecidableRel Marked := fun _ _ => inferInstanceAs (Decidable (_ ∧ _))

instance (name : String) : Decidable (Separable name) := inferInstanceAs (Decidable (_ ∧ _))

section Letters

def Small (c : Char) : Prop := c.isLower = true ∨ c.isDigit = true

variable {c : Char}

theorem Small.toNat_lt (small : Small c) : c.toNat < 128 := by
  rcases small with lower | digit
  · have range := Text.isLower_iff.mp lower
    omega
  · have range := Text.toNat_le_of_isDigit digit
    omega

theorem Small.not_isUpper (small : Small c) : c.isUpper = false := by
  rw [← Bool.not_eq_true]
  rcases small with lower | digit
  · exact Char.not_isUpper_of_isLower lower
  · intro upper
    have range := Text.isUpper_iff.mp upper
    have bound := Text.toNat_le_of_isDigit digit
    omega

theorem Small.toLower_eq (small : Small c) : c.toLower = c := by
  apply Char.toLower_eq_of_not_isUpper
  simp [small.not_isUpper]

/-- Only a letter has a capital. -/
theorem Small.isUpper_toUpper (small : Small c) : c.toUpper.isUpper = c.isLower := by
  rw [Char.isUpper_toUpper_eq_isAlpha, Char.isAlpha, small.not_isUpper, Bool.false_or]

theorem Small.toNat_toUpper_lt (small : Small c) : c.toUpper.toNat < 128 := by
  have capital := small.isUpper_toUpper
  rcases small with lower | digit
  · have range := Text.isUpper_iff.mp (capital.trans lower)
    omega
  · have same : c.toUpper = c := by
      apply Char.toUpper_eq_of_not_isLower
      intro lower
      have range := Text.isLower_iff.mp lower
      have bound := Text.toNat_le_of_isDigit digit
      omega
    have bound := Text.toNat_le_of_isDigit digit
    rw [same]
    omega

theorem map_toLower {word : List Char} (small : ∀ c ∈ word, Small c) : word.map Char.toLower = word := by
  calc word.map Char.toLower
    _ = word.map id := List.map_congr_left fun c mem => (small c mem).toLower_eq
    _ = word := List.map_id word

theorem capitalizePart_cons {rest : List Char} (small : Small c) : capitalizePart (c :: rest) = c.toUpper :: rest := by
  rw [capitalizePart, Text.upperChar, if_pos small.toNat_lt]
  rfl

end Letters

section Boundaries

variable {previous c : Char} {word rest : List Char} {more : List (List Char)}

def recovered (previous : Char) (more : List (List Char)) : List Char :=
  (separateWords previous (more.flatMap capitalizePart)).map Char.toLower

def isFound (previous : Char) (word : List Char) : Bool :=
  word.head?.any Char.isLower &&
    (previous.isLower || previous.isDigit || previous.isUpper && word[1]?.any Char.isLower)

/-- No word starts within a word. -/
theorem separateWords_small (small : ∀ c ∈ word, Small c) :
    separateWords previous (word ++ rest) = word ++ separateWords (word.getLastD previous) rest := by
  induction word generalizing previous with
  | nil => rfl
  | cons c word ih =>
    obtain ⟨first, others⟩ := List.forall_mem_cons.mp small
    have inside : isWordStart previous c (word ++ rest).head? = false := by simp [isWordStart, first.not_isUpper]
    rw [List.cons_append, separateWords, inside, ih others, List.getLastD_cons]
    rfl

/-- No word in camel case starts with a small letter. -/
theorem not_isLower_head (small : ∀ word ∈ more, ∀ c ∈ word, Small c) :
    (more.flatMap capitalizePart).head?.any Char.isLower = false := by
  induction more with
  | nil => rfl
  | cons word more ih =>
    obtain ⟨first, others⟩ := List.forall_mem_cons.mp small
    rw [List.flatMap_cons]
    cases word with
    | nil => exact ih others
    | cons c rest =>
      rw [capitalizePart_cons (first c List.mem_cons_self)]
      simp

theorem recovered_nil (previous : Char) : recovered previous [] = [] := rfl

theorem recovered_empty : recovered previous ([] :: more) = recovered previous more := rfl

theorem isWordStart_toUpper (small : Small c) (following : Option Char) :
    isWordStart previous c.toUpper following = (c.isLower &&
      (previous.isLower || previous.isDigit || previous.isUpper && following.any Char.isLower)) := by
  rw [isWordStart, small.isUpper_toUpper]

/-- A word comes back as it was, with an underscore where it is found. -/
theorem recovered_cons (small : ∀ word ∈ (c :: rest) :: more, ∀ c ∈ word, Small c) :
    recovered previous ((c :: rest) :: more) =
      (if isFound previous (c :: rest) then ['_'] else []) ++ (c :: rest) ++
        recovered (rest.getLastD c.toUpper) more := by
  obtain ⟨word, others⟩ := List.forall_mem_cons.mp small
  obtain ⟨first, inner⟩ := List.forall_mem_cons.mp word
  have following : (rest ++ more.flatMap capitalizePart).head?.any Char.isLower = (c :: rest)[1]?.any Char.isLower := by
    cases rest with
    | nil => exact not_isLower_head others
    | cons d rest => rfl
  have start : isWordStart previous c.toUpper (rest ++ more.flatMap capitalizePart).head? = isFound previous (c :: rest) := by
    rw [isWordStart_toUpper first, following]
    rfl
  rw [recovered, List.flatMap_cons, capitalizePart_cons first, List.cons_append, separateWords, start,
    separateWords_small inner]
  split
  · simp [recovered, map_toLower inner, first.toLower_eq]
  · simp [recovered, map_toLower inner, first.toLower_eq]

/-- Underscores can get lost but none is added. -/
theorem length_recovered_le (small : ∀ word ∈ more, ∀ c ∈ word, Small c) (previous : Char) :
    (recovered previous more).length ≤ (more.flatMap ('_' :: ·)).length := by
  induction more generalizing previous with
  | nil => exact le_rfl
  | cons word more ih =>
    obtain ⟨_, others⟩ := List.forall_mem_cons.mp small
    cases word with
    | nil =>
      have shorter := ih others previous
      rw [recovered_empty, List.flatMap_cons, List.length_append]
      omega
    | cons c rest =>
      have shorter := ih others (rest.getLastD c.toUpper)
      rw [recovered_cons small, List.flatMap_cons]
      simp only [List.length_append, List.length_cons]
      split
      · simp only [List.length_singleton]
        omega
      · simp only [List.length_nil]
        omega

theorem isFound_iff (small : ∀ d ∈ c :: rest, Small d) (lower : c.isLower = true) :
    isFound (rest.getLastD c.toUpper) word = true ↔ Marked (c :: rest) word := by
  unfold isFound Marked
  rw [Bool.and_eq_true]
  apply and_congr_right
  intro _
  cases rest with
  | nil =>
    have capital : c.toUpper.isUpper = true := (small c List.mem_cons_self).isUpper_toUpper.trans lower
    have noDigit : c.toUpper.isDigit = false := by
      rw [← Bool.not_eq_true]
      intro digit
      have range := Text.isUpper_iff.mp capital
      have bound := Text.toNat_le_of_isDigit digit
      omega
    simp [capital, noDigit]
  | cons d rest =>
    -- the word ends in a small letter or a digit, and a capital behind it starts a word
    have last : (d :: rest).getLastD c.toUpper ∈ d :: rest := by
      rw [List.getLastD_cons]
      exact List.getLastD_mem_cons
    generalize (d :: rest).getLastD c.toUpper = final at last ⊢
    rcases small final (List.mem_cons_of_mem _ last) with letter | digit
    · simp [letter]
    · simp [digit]

/-- The words after a word come back exactly if every one is marked. -/
theorem recovered_eq_iff (small : ∀ word ∈ (c :: rest) :: more, ∀ d ∈ word, Small d) (lower : c.isLower = true) :
    recovered (rest.getLastD c.toUpper) more = more.flatMap ('_' :: ·) ↔ ((c :: rest) :: more).IsChain Marked := by
  induction more generalizing c rest with
  | nil => simp [recovered_nil]
  | cons word more ih =>
    obtain ⟨own, others⟩ := List.forall_mem_cons.mp small
    obtain ⟨-, later⟩ := List.forall_mem_cons.mp others
    have found : isFound (rest.getLastD c.toUpper) word = true ↔ Marked (c :: rest) word := isFound_iff own lower
    rw [List.isChain_cons_cons, List.flatMap_cons]
    by_cases marked : Marked (c :: rest) word
    · cases word with
      | nil => simp [Marked] at marked
      | cons d inner =>
        have letter : d.isLower = true := by simpa using marked.1
        rw [recovered_cons others, found.mpr marked, if_pos rfl, ← ih others letter]
        simp [marked]
    · -- an underscore is missing, and no other one makes up for it
      have shorter : (recovered (rest.getLastD c.toUpper) (word :: more)).length <
          ('_' :: word ++ more.flatMap ('_' :: ·)).length := by
        cases word with
        | nil =>
          have bound := length_recovered_le later (rest.getLastD c.toUpper)
          rw [recovered_empty]
          simp only [List.length_append, List.length_cons]
          omega
        | cons d inner =>
          have bound := length_recovered_le later (inner.getLastD d.toUpper)
          rw [recovered_cons others, if_neg (fun start => marked (found.mp start))]
          simp only [List.length_append, List.length_cons, List.length_nil]
          omega
      constructor
      · intro same
        rw [same] at shorter
        exact absurd shorter (lt_irrefl _)
      · intro chain
        exact absurd chain.1 marked

end Boundaries

section RoundTrip

variable {name : String}

theorem small_of_mem_words (snake : IsSnake name) : ∀ word ∈ words name, ∀ c ∈ word, Small c := by
  intro word listed c mem
  rcases snake c (Text.subset_of_mem_splitChars listed mem) with lower | digit | rfl
  · exact .inl lower
  · exact .inr digit
  · exact absurd mem (Text.separator_not_mem listed)

theorem toList_eq_of_words {first : List Char} {more : List (List Char)} (split : words name = first :: more) :
    name.toList = first ++ more.flatMap ('_' :: ·) := by
  rw [← Text.intercalate_splitChars '_' name.toList, ← words, split]
  clear split
  induction more generalizing first with
  | nil => simp
  | cons second more ih =>
    rw [List.intercalate_cons_cons, ih, List.flatMap_cons]
    simp

theorem mem_separateWords {previous d : Char} {chars : List Char} (mem : d ∈ separateWords previous chars) :
    d = '_' ∨ d ∈ chars := by
  induction chars generalizing previous with
  | nil => cases mem
  | cons c chars ih =>
    rw [separateWords] at mem
    split at mem
    · simp only [List.mem_cons] at mem ⊢
      rcases mem with rfl | rfl | mem
      · exact .inl rfl
      · exact .inr (.inl rfl)
      · exact (ih mem).imp_right .inr
    · simp only [List.mem_cons] at mem ⊢
      rcases mem with rfl | mem
      · exact .inr (.inl rfl)
      · exact (ih mem).imp_right .inr

theorem toList_underscore {text : String} {c : Char} {rest : List Char} (chars : text.toList = c :: rest)
    (ascii : ∀ d ∈ c :: rest, d.toNat < 128) :
    (underscore text).toList = c.toLower :: (separateWords c rest).map Char.toLower := by
  have plain : ∀ d ∈ (String.ofList (c :: separateWords c rest)).toList, d.toNat < 128 := by
    intro d mem
    rw [String.toList_ofList, List.mem_cons] at mem
    rcases mem with rfl | mem
    · exact ascii d List.mem_cons_self
    · rcases mem_separateWords mem with rfl | inside
      · decide
      · exact ascii d (List.mem_cons_of_mem _ inside)
  rw [underscore, chars, Text.toList_toLower_ascii plain]
  simp

theorem toNat_lt_of_mem_capitals {more : List (List Char)} (small : ∀ word ∈ more, ∀ c ∈ word, Small c) :
    ∀ d ∈ more.flatMap capitalizePart, d.toNat < 128 := by
  intro d mem
  obtain ⟨word, listed, mem⟩ := List.mem_flatMap.mp mem
  cases word with
  | nil => cases mem
  | cons c rest =>
    obtain ⟨first, inner⟩ := List.forall_mem_cons.mp (small _ listed)
    rw [capitalizePart_cons first, List.mem_cons] at mem
    rcases mem with rfl | inside
    · exact first.toNat_toUpper_lt
    · exact (inner d inside).toNat_lt

theorem exists_capital {text : String} (valid : ModuleRef.isSegment text = true) :
    ∃ u tail, text.toList = u :: tail ∧ u.isUpper = true := by
  rw [ModuleRef.isSegment] at valid
  cases chars : text.toList with
  | nil => simp [chars, ModuleRef.isSegmentChars] at valid
  | cons u tail =>
    rw [chars, ModuleRef.isSegmentChars, Bool.and_eq_true] at valid
    exact ⟨u, tail, rfl, valid.1⟩

theorem toLower_ne_underscore {u : Char} (capital : u.isUpper = true) : u.toLower ≠ '_' := by
  intro same
  have letter := Char.isLower_toLower_eq_isAlpha u
  rw [same, Char.isAlpha, capital, Bool.true_or] at letter
  exact absurd letter (by decide)

/-- The names that come back from camel case are those with marked words. -/
theorem underscore_camelize_iff (snake : IsSnake name) (valid : ModuleRef.isSegment (camelize name) = true) :
    underscore (camelize name) = name ↔ Separable name := by
  obtain ⟨first, more, split⟩ := List.exists_cons_of_ne_nil (Text.splitChars_ne_nil '_' name.toList)
  have small := small_of_mem_words snake
  rw [words, split] at small
  obtain ⟨own, -⟩ := List.forall_mem_cons.mp small
  have camel : (camelize name).toList = (first :: more).flatMap capitalizePart := by
    rw [camelize, split, String.toList_ofList]
  obtain ⟨u, tail, chars, capital⟩ := exists_capital valid
  have capitals : (first :: more).flatMap capitalizePart = u :: tail := camel.symm.trans chars
  have back : (underscore (camelize name)).toList = u.toLower :: (separateWords u tail).map Char.toLower :=
    toList_underscore chars (capitals ▸ toNat_lt_of_mem_capitals small)
  rw [← String.toList_inj, back, toList_eq_of_words split, Separable, words, split, List.head?_cons, Option.any_some]
  cases first with
  | nil =>
    -- the underscore in front of the name is lost
    constructor
    · intro same
      exfalso
      cases more with
      | nil => simp at same
      | cons word more =>
        rw [List.nil_append, List.flatMap_cons, List.cons_append, List.cons.injEq] at same
        exact toLower_ne_underscore capital same.1
    · intro separable
      exact absurd separable.1 (by decide)
  | cons c rest =>
    obtain ⟨letter, inner⟩ := List.forall_mem_cons.mp own
    rw [List.flatMap_cons, capitalizePart_cons letter, List.cons_append, List.cons.injEq] at capitals
    obtain ⟨rfl, rfl⟩ := capitals
    have lower : c.isLower = true := letter.isUpper_toUpper.symm.trans capital
    rw [← recovered_eq_iff small lower, separateWords_small inner, recovered]
    simp [letter.toLower_eq, map_toLower inner, lower]

end RoundTrip

end BoundaryLint.Path
