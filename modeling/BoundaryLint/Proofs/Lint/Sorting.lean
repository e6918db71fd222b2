import BoundaryLint.Issue
import Mathlib.Data.List.Perm.Basic

/-!
The order of issues. Sorting is stable, and so it is determined by the issues of each place and
rule: two lists that hold the same issues of every place and rule, in the same order, are sorted to
the same list.
-/

namespace BoundaryLint.Issue

def key (issue : Issue) : String × Nat × String := (issue.file, issue.line, issue.ruleId)

def Precedes (a b : Issue) : Prop :=
  a.file < b.file ∨ a.file = b.file ∧ (a.line < b.line ∨ a.line = b.line ∧ a.ruleId ≤ b.ruleId)

theorem le_iff {a b : Issue} : a.le b = true ↔ a.Precedes b := by
  unfold le Precedes
  by_cases file : a.file = b.file
  · by_cases line : a.line = b.line
    · simp [file, line]
    · simp [file, line]
  · simp [file]

theorem le_total (a b : Issue) : (a.le b || b.le a) = true := by
  rw [Bool.or_eq_true, le_iff, le_iff]
  rcases String.le_total a.ruleId b.ruleId with rule | rule
  all_goals
    rcases Nat.lt_trichotomy a.line b.line with line | line | line
    all_goals
      by_cases file : a.file = b.file
      · simp [Precedes, file, line, rule]
      · have apart : a.file < b.file ∨ b.file < a.file := by
          by_contra neither
          simp only [not_or, String.not_lt] at neither
          exact file (String.le_antisymm neither.2 neither.1)
        exact apart.imp .inl .inl

theorem le_trans (a b c : Issue) (first : a.le b = true) (second : b.le c = true) : a.le c = true := by
  rw [le_iff] at first second ⊢
  rcases first with before | ⟨same, first⟩
  · rcases second with later | ⟨equal, -⟩
    · exact .inl (String.lt_trans before later)
    · exact .inl (equal ▸ before)
  rcases second with later | ⟨equal, second⟩
  · exact .inl (same ▸ later)
  refine .inr ⟨same.trans equal, ?_⟩
  rcases first with above | ⟨line, first⟩
  · left
    omega
  rcases second with above | ⟨other, second⟩
  · left
    omega
  · exact .inr ⟨line.trans other, String.le_trans first second⟩

/-- Issues that stand before each other have the same place and rule. -/
theorem key_eq_of_le {a b : Issue} (first : a.le b = true) (second : b.le a = true) : a.key = b.key := by
  rw [le_iff] at first second
  rcases first with before | ⟨file, first⟩
  · rcases second with after | ⟨file, -⟩
    · exact absurd after (String.lt_asymm before)
    · exact absurd before (by simp [file])
  rcases second with after | ⟨-, second⟩
  · exact absurd after (by simp [file])
  have line : a.line = b.line := by omega
  have rules : a.ruleId ≤ b.ruleId ∧ b.ruleId ≤ a.ruleId := by
    constructor
    · exact (first.resolve_left (by omega)).2
    · exact (second.resolve_left (by omega)).2
  simp [key, file, line, String.le_antisymm rules.1 rules.2]

theorem le_of_key_eq {a b : Issue} (same : a.key = b.key) : a.le b = true := by
  simp only [key, Prod.mk.injEq] at same
  exact le_iff.mpr (.inr ⟨same.1, .inr ⟨same.2.1, same.2.2 ▸ String.le_refl _⟩⟩)

theorem pairwise_sort (issues : List Issue) : (sort issues).Pairwise fun a b => a.le b = true :=
  List.pairwise_mergeSort le_trans le_total issues

theorem sort_perm (issues : List Issue) : (sort issues).Perm issues := List.mergeSort_perm issues le

/-- Sorting keeps the order of the issues of one place and rule. -/
theorem filter_key_sort (issues : List Issue) (key : String × Nat × String) :
    (sort issues).filter (·.key = key) = issues.filter (·.key = key) := by
  have equal : (issues.filter (·.key = key)).Pairwise fun a b => a.le b = true := by
    refine List.pairwise_of_forall_mem_list fun a first b second => ?_
    simp only [List.mem_filter, decide_eq_true_eq] at first second
    exact le_of_key_eq (first.2.trans second.2.symm)
  have kept : (issues.filter (·.key = key)).Sublist (sort issues) :=
    List.sublist_mergeSort le_trans le_total equal List.filter_sublist
  have inside := kept.filter (·.key = key)
  rw [List.filter_filter] at inside
  simp only [Bool.and_self] at inside
  exact (inside.eq_of_length ((sort_perm issues).filter _).length_eq.symm).symm

theorem mem_of_filter_key_eq {first second : List Issue} {issue : Issue} (mem : issue ∈ first)
    (same : first.filter (·.key = issue.key) = second.filter (·.key = issue.key)) : issue ∈ second := by
  have kept : issue ∈ first.filter (·.key = issue.key) := List.mem_filter.mpr ⟨mem, by simp⟩
  rw [same] at kept
  exact (List.mem_filter.mp kept).1

/-- Ordered lists with the same issues of every place and rule are the same list. -/
theorem eq_of_filter_key_eq {first second : List Issue}
    (ordered : first.Pairwise fun a b => a.le b = true) (sorted : second.Pairwise fun a b => a.le b = true)
    (same : ∀ key, first.filter (·.key = key) = second.filter (·.key = key)) : first = second := by
  induction first generalizing second with
  | nil =>
    cases second with
    | nil => rfl
    | cons b others => exact absurd (mem_of_filter_key_eq List.mem_cons_self (same b.key).symm) List.not_mem_nil
  | cons a rest hypothesis =>
    cases second with
    | nil => exact absurd (mem_of_filter_key_eq List.mem_cons_self (same a.key)) List.not_mem_nil
    | cons b others =>
      rw [List.pairwise_cons] at ordered sorted
      have above : a.le b = true := by
        rcases List.mem_cons.mp (mem_of_filter_key_eq List.mem_cons_self (same b.key).symm) with rfl | later
        · exact le_of_key_eq rfl
        · exact ordered.1 b later
      have below : b.le a = true := by
        rcases List.mem_cons.mp (mem_of_filter_key_eq List.mem_cons_self (same a.key)) with rfl | later
        · exact le_of_key_eq rfl
        · exact sorted.1 a later
      -- Both heads are the first issue of the same place and rule.
      have heads : a = b := by
        have equal := same a.key
        rw [List.filter_cons_of_pos (by simp),
          List.filter_cons_of_pos (by simp [key_eq_of_le above below])] at equal
        exact (List.cons.inj equal).1
      subst heads
      have tails : rest = others := by
        refine hypothesis ordered.2 sorted.2 fun key => ?_
        have equal := same key
        by_cases own : a.key = key
        · rw [List.filter_cons_of_pos (by simp [own]), List.filter_cons_of_pos (by simp [own])] at equal
          exact (List.cons.inj equal).2
        · rwa [List.filter_cons_of_neg (by simp [own]), List.filter_cons_of_neg (by simp [own])] at equal
      rw [tails]

/-- Sorting depends only on the issues of every place and rule. -/
theorem sort_eq_of_filter_key_eq {first second : List Issue}
    (same : ∀ key, first.filter (·.key = key) = second.filter (·.key = key)) : sort first = sort second := by
  refine eq_of_filter_key_eq (pairwise_sort first) (pairwise_sort second) fun key => ?_
  rw [filter_key_sort, filter_key_sort, same]

theorem filter_sort (keep : Issue → Bool) (issues : List Issue) :
    (sort issues).filter keep = sort (issues.filter keep) := by
  refine eq_of_filter_key_eq ((pairwise_sort issues).filter keep) (pairwise_sort _) fun key => ?_
  rw [filter_key_sort, List.filter_comm, filter_key_sort, List.filter_comm]

end BoundaryLint.Issue
