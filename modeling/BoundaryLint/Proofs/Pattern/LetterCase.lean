import BoundaryLint.Proofs.Pattern.Occurrence
import BoundaryLint.Proofs.Text.Letter
import Mathlib

/-!
Spellings in other case. Letters beyond ASCII can be forms of ASCII letters, so it has to be seen from the tables of
the letters that the letters of a word are not among them; its spellings are then those in ASCII.
-/

namespace BoundaryLint.Text

def CaseRun.Misses (run : CaseRun) (code : Nat) : Prop :=
  (code : Int) < run.first + run.offset ∨ run.last + run.offset < (code : Int)

instance (run : CaseRun) (code : Nat) : Decidable (run.Misses code) :=
  inferInstanceAs (Decidable (_ ∨ _))

variable {run : CaseRun} {runs : List CaseRun} {c d : Char} {code n : Nat}

theorem CaseRun.image?_ne (missed : run.Misses code) (visible : 0 < code) : run.image? n ≠ some code := by
  intro hit
  unfold image? at hit
  split at hit
  · rename_i covered
    simp only [Bool.and_eq_true, decide_eq_true_eq] at covered
    have shifted : ((n : Int) + run.offset).toNat = code := by simpa using hit
    rcases missed with below | above <;> omega
  · cases hit

/-- The forms of a character that comes after ASCII miss a code of ASCII if the runs do. -/
theorem toNat_ne_of_misses (missed : ∀ run ∈ runs, run.Misses code) (visible : 0 < code) (ascii : code < 128)
    (outside : 128 ≤ c.toNat) :
    (((runs.findSome? (·.image? c.toNat)).map Char.ofNat).getD c).toNat ≠ code := by
  cases shifted : runs.findSome? (·.image? c.toNat) with
  | none =>
    simp only [Option.map_none, Option.getD_none]
    omega
  | some image =>
    obtain ⟨run, mem, hit⟩ := List.exists_of_findSome?_eq_some shifted
    simp only [Option.map_some, Option.getD_some]
    rw [Char.toNat_ofNat]
    split
    · intro equal
      subst equal
      exact CaseRun.image?_ne (missed run mem) visible hit
    · omega

end BoundaryLint.Text

namespace BoundaryLint.Pattern

open BoundaryLint.Text

variable {c d : Char}

theorem of_mem_caseForms (mem : c ∈ caseForms d) :
    c = d ∨ lowerChar d = [c] ∨ upperChar d = [c] ∨ ∃ upper, upperChar d = [upper] ∧ lowerChar upper = [c] := by
  simp only [caseForms, List.mem_cons, List.not_mem_nil, or_false] at mem
  rcases mem with same | lower | upper | lowerOfUpper
  · exact .inl same
  · split at lower
    · rename_i single
      exact .inr (.inl (lower ▸ single))
    · exact .inl lower
  · split at upper
    · rename_i single
      exact .inr (.inr (.inl (upper ▸ single)))
    · exact .inl upper
  · split at lowerOfUpper
    · rename_i single
      split at single
      · rename_i upper
        exact .inr (.inr (.inr ⟨_, upper, lowerOfUpper ▸ single⟩))
      · exact .inr (.inl (lowerOfUpper ▸ single))
    · split at lowerOfUpper
      · rename_i upper
        exact .inr (.inr (.inl (lowerOfUpper ▸ upper)))
      · exact .inl lowerOfUpper

/-- The code of an ASCII letter that no character beyond ASCII has as a form. -/
structure Unshared (code : Nat) : Prop where
  visible : 0 < code
  ascii : code < 128
  lower : ∀ run ∈ lowerRuns, run.Misses code
  upper : ∀ run ∈ upperRuns, run.Misses code

namespace Unshared

variable {code : Nat}

theorem lowerChar_ne (unshared : Unshared code) (outside : 128 ≤ c.toNat) (form : lowerChar c = [d]) :
    d.toNat ≠ code := by
  have beyond : ¬c.toNat < 128 := Nat.not_lt.mpr outside
  rw [lowerChar, if_neg beyond] at form
  split at form
  · cases form
  · rw [← List.head_eq_of_cons_eq form]
    exact toNat_ne_of_misses unshared.lower unshared.visible unshared.ascii outside

theorem upperChar_ne (unshared : Unshared code) (outside : 128 ≤ c.toNat) (form : upperChar c = [d]) :
    d.toNat ≠ code := by
  have beyond : ¬c.toNat < 128 := Nat.not_lt.mpr outside
  have several : ∀ entry ∈ upperExpansions, entry.2.length ≠ 1 := by decide
  rw [upperChar, if_neg beyond] at form
  split at form
  · rename_i codes expansion
    obtain ⟨earlier, later, listed, -⟩ := List.lookup_eq_some_iff.mp expansion
    have mem : (c.toNat, codes) ∈ upperExpansions := by
      rw [listed]
      exact List.mem_append_right _ List.mem_cons_self
    have one : codes.length = 1 := List.length_map Char.ofNat ▸ congrArg List.length form
    exact absurd one (several _ mem)
  · rw [← List.head_eq_of_cons_eq form]
    exact toNat_ne_of_misses unshared.upper unshared.visible unshared.ascii outside

end Unshared

/-- The letters of the word for web apps, with their forms in ASCII. -/
theorem unshared_web (mem : c ∈ ['_', 'w', 'e', 'b', 'W', 'E', 'B']) : Unshared c.toNat := by
  simp only [List.mem_cons, List.not_mem_nil, or_false] at mem
  rcases mem with rfl | rfl | rfl | rfl | rfl | rfl | rfl
  all_goals exact ⟨by decide, by decide, by decide +kernel, by decide +kernel⟩

/-- Within ASCII a letter of the word is taken for itself and its capital. -/
theorem takes_ascii (letter : c ∈ ['_', 'w', 'e', 'b']) : ∀ n ∈ List.range 128,
    classHolds false [.char c] true (Char.ofNat n) = decide ((Char.ofNat n).toLower = c) ∧
      ((Char.ofNat n).toLower = c → Char.ofNat n ∈ ['_', 'w', 'e', 'b', 'W', 'E', 'B']) := by
  simp only [List.mem_cons, List.not_mem_nil, or_false] at letter
  rcases letter with rfl | rfl | rfl | rfl
  all_goals decide +kernel

theorem not_mem_caseForms (letter : c ∈ ['_', 'w', 'e', 'b']) (outside : 128 ≤ d.toNat) : c ∉ caseForms d := by
  have own : Unshared c.toNat := unshared_web (List.mem_append_left ['W', 'E', 'B'] letter)
  intro mem
  rcases of_mem_caseForms mem with rfl | lower | upper | ⟨upper, first, second⟩
  · have ascii := own.ascii
    omega
  · exact own.lowerChar_ne outside lower rfl
  · exact own.upperChar_ne outside upper rfl
  · by_cases beyond : 128 ≤ upper.toNat
    · exact own.lowerChar_ne beyond second rfl
    · -- The capital is in ASCII, and so it is the letter itself or its capital.
      rw [lowerChar, if_pos (Nat.lt_of_not_le beyond)] at second
      have among : upper ∈ ['_', 'w', 'e', 'b', 'W', 'E', 'B'] := by
        have known := takes_ascii letter upper.toNat (List.mem_range.mpr (Nat.lt_of_not_le beyond))
        rw [Char.ofNat_toNat] at known
        exact known.2 (List.head_eq_of_cons_eq second)
      exact (unshared_web among).upperChar_ne outside first rfl

theorem takes_ignoringCase_iff (letter : c ∈ ['_', 'w', 'e', 'b']) : Takes true c d ↔ d.toLower = c := by
  by_cases ascii : d.toNat < 128
  · have known := takes_ascii letter d.toNat (List.mem_range.mpr ascii)
    rw [Char.ofNat_toNat] at known
    rw [Takes, known.1, decide_eq_true_eq]
  · have outside : 128 ≤ d.toNat := Nat.le_of_not_lt ascii
    have forms : Takes true c d ↔ c ∈ caseForms d := by simp [Takes, classHolds, ClassItem.holds]
    have plain : d.toLower = d := by
      apply Char.toLower_eq_of_not_isUpper
      intro capital
      have range := isUpper_iff.mp capital
      omega
    rw [forms, plain]
    constructor
    · intro mem
      exact absurd mem (not_mem_caseForms letter outside)
    · rintro rfl
      exact absurd (unshared_web (List.mem_append_left ['W', 'E', 'B'] letter)).ascii ascii

/-- The spellings of a word of these letters are those that become it in lower case. -/
theorem forall₂_takes_ignoringCase {word piece : List Char} (letters : ∀ c ∈ word, c ∈ ['_', 'w', 'e', 'b']) :
    List.Forall₂ (Takes true) word piece ↔ piece.map Char.toLower = word := by
  induction word generalizing piece with
  | nil =>
    rw [List.forall₂_nil_left_iff, List.map_eq_nil_iff]
  | cons c word ih =>
    obtain ⟨letter, others⟩ := List.forall_mem_cons.mp letters
    cases piece with
    | nil =>
      constructor
      · intro spelling
        cases spelling
      · intro same
        cases same
    | cons d piece =>
      rw [List.forall₂_cons, takes_ignoringCase_iff letter, ih others, List.map_cons, List.cons.injEq]

end BoundaryLint.Pattern
