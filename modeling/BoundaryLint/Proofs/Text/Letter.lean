import BoundaryLint.Text.Digit
import Mathlib.Data.List.Chain

/-!
No letter is a digit. Both are given by tables in ascending order, so one pass over the two tables
side by side shows them apart.
-/

namespace BoundaryLint.Text

def Apart (r s : Nat × Nat) : Prop := r.2 < s.1 ∨ s.2 < r.1

def Ascending (ranges : List (Nat × Nat)) : Prop := ranges.Pairwise fun r s => r.1 < s.1

/-- Neighbours decide the order of a table. -/
theorem ascending_of_neighbours {ranges : List (Nat × Nat)}
    (neighbours : ranges.IsChain fun r s => r.1 < s.1) : Ascending ranges := by
  have transitive : IsTrans (Nat × Nat) fun r s => r.1 < s.1 := ⟨fun _ _ _ => Nat.lt_trans⟩
  exact List.isChain_iff_pairwise.mp neighbours

/-- One pass over two ascending tables, dropping the range that ends first. -/
def passApart : Nat → List (Nat × Nat) → List (Nat × Nat) → Bool
  | steps + 1, r :: rs, s :: ss =>
    if r.2 < s.1 then passApart steps rs (s :: ss)
    else if s.2 < r.1 then passApart steps (r :: rs) ss
    else false
  | _ + 1, _, _ => true
  | 0, _, _ => false

theorem apart_of_pass (steps : Nat) (rs ss : List (Nat × Nat)) (first : Ascending rs)
    (second : Ascending ss) (pass : passApart steps rs ss = true) :
    ∀ r ∈ rs, ∀ s ∈ ss, Apart r s := by
  fun_induction passApart steps rs ss with
  | case1 steps r rs s ss before ih =>
    have later := ih (List.pairwise_cons.mp first).2 second pass
    intro q member t other
    rcases List.mem_cons.mp member with rfl | member
    · -- The dropped range ends before all of the other table.
      rcases List.mem_cons.mp other with rfl | other
      · exact Or.inl before
      · exact Or.inl (Nat.lt_trans before ((List.pairwise_cons.mp second).1 t other))
    · exact later q member t other
  | case2 steps r rs s ss _ before ih =>
    have later := ih first (List.pairwise_cons.mp second).2 pass
    intro q member t other
    rcases List.mem_cons.mp other with rfl | other
    · rcases List.mem_cons.mp member with rfl | member
      · exact Or.inr before
      · exact Or.inr (Nat.lt_trans before ((List.pairwise_cons.mp first).1 q member))
    · exact later q member t other
  | case3 => simp at pass
  | case4 steps rs ss short =>
    intro q member t other
    cases rs with
    | nil => simp at member
    | cons r rs =>
      cases ss with
      | nil => simp at other
      | cons s ss => exact absurd rfl (short r rs s ss rfl)
  | case5 => simp at pass

theorem inRanges_eq_false_of_pass {rs ss : List (Nat × Nat)} (steps : Nat)
    (first : rs.IsChain fun r s => r.1 < s.1) (second : ss.IsChain fun r s => r.1 < s.1)
    (pass : passApart steps rs ss = true) {code : Nat} (found : inRanges rs code = true) :
    inRanges ss code = false := by
  obtain ⟨r, member, low, high⟩ := (inRanges_iff rs code).mp found
  by_contra other
  obtain ⟨s, mine, lower, upper⟩ := (inRanges_iff ss code).mp (eq_true_of_ne_false other)
  rcases apart_of_pass steps rs ss (ascending_of_neighbours first)
    (ascending_of_neighbours second) pass r member s mine with below | above
  · omega
  · omega

theorem letterRanges_ascending : letterRanges.IsChain fun r s => r.1 < s.1 := by decide +kernel

theorem isUpper_iff {c : Char} : c.isUpper = true ↔ 65 ≤ c.toNat ∧ c.toNat ≤ 90 :=
  decide_eq_true_iff

theorem isLower_iff {c : Char} : c.isLower = true ↔ 97 ≤ c.toNat ∧ c.toNat ≤ 122 :=
  Bool.and_eq_true_iff.trans (and_congr decide_eq_true_iff decide_eq_true_iff)

theorem isAlpha_iff {c : Char} : c.isAlpha = true ↔ c.isUpper = true ∨ c.isLower = true :=
  Bool.or_eq_true_iff

theorem toNat_le_of_isDigit {c : Char} (digit : c.isDigit = true) : c.toNat ≤ 57 := by
  simp only [Char.isDigit, Bool.and_eq_true, decide_eq_true_eq, UInt32.le_iff_toNat_le] at digit
  exact digit.2

theorem isDigit_eq_false_of_isLetter {c : Char} (letter : isLetter c = true) :
    isDigit c = false := by
  by_cases ascii : c.toNat < 128
  · rw [isLetter_ascii c ascii] at letter
    rw [isDigit_ascii c ascii]
    refine Bool.eq_false_iff.mpr fun digit => ?_
    have bound := toNat_le_of_isDigit digit
    rcases isAlpha_iff.mp letter with upper | lower
    · have range := isUpper_iff.mp upper
      omega
    · have range := isLower_iff.mp lower
      omega
  · simp only [isLetter, ascii, if_false] at letter
    have decimals : inRanges decimalRanges c.toNat = false :=
      inRanges_eq_false_of_pass 1000 letterRanges_ascending (by decide +kernel)
        (by decide +kernel) letter
    have others : inRanges otherDigitRanges c.toNat = false :=
      inRanges_eq_false_of_pass 1000 letterRanges_ascending (by decide +kernel)
        (by decide +kernel) letter
    simp [isDigit, ascii, decimals, others]

end BoundaryLint.Text
