import BoundaryLint.Host.Ordinary
import BoundaryLint.Proofs.Lint.Isolation
import Mathlib.Data.List.Nodup

/-!
The order of the work does not show. However the outcomes of the files are ordered when they are
collected, and however the files are given, the result is the same; it loses no issue and holds none
twice.
-/

namespace BoundaryLint

theorem LintResult.make_ofIssues (minSeverity : Severity) (issues : List Issue) (count : Nat) :
    make (ofIssues minSeverity issues count).issues (ofIssues minSeverity issues count).exitStatus
      (ofIssues minSeverity issues count).filesChecked = .ok (ofIssues minSeverity issues count) := by
  have unmoved : Issue.sort (Issue.sort issues) = Issue.sort issues :=
    List.mergeSort_of_pairwise (Issue.pairwise_sort issues)
  have status : ¬ (Issue.worstStatus minSeverity (Issue.sort issues) : Int) < 0 := by omega
  have files : ¬ (count : Int) < 0 := by omega
  simp only [make, ofIssues, if_neg status, if_neg files, unmoved, if_true, Int.toNat_natCast]

namespace Lint

variable {engine : Engine} {probe : Probe} {files : List (String × String)}
  {outcomes shuffled : List (Option SourceUnit × List Issue)} {result : LintResult}

/-- Files with distinct paths are visited in one order only. -/
theorem mergeSort_eq_of_perm {others : List (String × String)} (distinct : (files.map (·.1)).Nodup)
    (perm : others.Perm files) :
    (others.mergeSort fun a b => a.1 ≤ b.1) = files.mergeSort fun a b => a.1 ≤ b.1 := by
  have ordered (list : List (String × String)) :
      (list.mergeSort fun a b => a.1 ≤ b.1).Pairwise fun a b => decide (a.1 ≤ b.1) = true := by
    apply List.pairwise_mergeSort
    · intro a b c first second
      exact decide_eq_true (String.le_trans (of_decide_eq_true first) (of_decide_eq_true second))
    · intro a b
      simpa using String.le_total a.1 b.1
  have shuffle := (List.mergeSort_perm others fun a b => a.1 ≤ b.1).trans
    (perm.trans (List.mergeSort_perm files fun a b => a.1 ≤ b.1).symm)
  refine List.Perm.eq_of_pairwise (fun a b first second above below => ?_) (ordered others) (ordered files) shuffle
  have same : a.1 = b.1 := String.le_antisymm (of_decide_eq_true above) (of_decide_eq_true below)
  have left : a ∈ files := perm.mem_iff.mp (List.mem_mergeSort.mp first)
  have right : b ∈ files := List.mem_mergeSort.mp second
  exact List.inj_on_of_nodup_map distinct left right same

theorem collect_eq_ok_iff_run [Host] (distinct : (files.map (·.1)).Nodup)
    (checked : (files.mergeSort fun a b => a.1 ≤ b.1).mapM (fun file => checkFile engine probe file.1 file.2) =
      .ok outcomes)
    (perm : shuffled.Perm outcomes) :
    collect engine probe shuffled = .ok result ↔ run engine probe files = .ok result := by
  obtain ⟨schedule, order, visited⟩ := mapM_perm checked perm
  have apart : ((files.mergeSort fun a b => a.1 ≤ b.1).map (·.1)).Nodup :=
    ((List.mergeSort_perm files _).map _).nodup_iff.mpr distinct
  rw [collect_eq_ok_iff visited, run_eq_ok_iff]
  constructor
  · rintro ⟨shares, shared, same⟩
    obtain ⟨others, -, given⟩ := mapM_of_perm shared order.symm
    exact ⟨others, given, same.trans (gather_eq_of_perm apart order given shared)⟩
  · rintro ⟨shares, shared, same⟩
    obtain ⟨others, -, given⟩ := mapM_of_perm shared order
    exact ⟨others, given, same.trans (gather_eq_of_perm apart order shared given).symm⟩

theorem issues_perm_of_run [Host]
    (checked : (files.mergeSort fun a b => a.1 ≤ b.1).mapM (fun file => checkFile engine probe file.1 file.2) =
      .ok outcomes)
    (finished : run engine probe files = .ok result) :
    ∃ boundary, checkGraph engine probe (outcomes.filterMap (·.1)) = .ok boundary ∧
      result.issues.Perm (outcomes.flatMap (·.2) ++ boundary) := by
  obtain ⟨shares, shared, rfl⟩ := run_eq_ok_iff.mp finished
  have outcome := mapM_eq_ok_iff.mp checked
  refine ⟨shares.flatMap (·.2), (checkGraph_units outcome).mpr ⟨shares, shared, rfl⟩, ?_⟩
  rw [← (found_of_shares outcome shared).1]
  exact Issue.sort_perm (allIssues shares)

/-- Issues of one place and rule stand in the order in which their file gave them. -/
theorem filter_key_run [Host] (distinct : (files.map (·.1)).Nodup) (finished : run engine probe files = .ok result)
    {path text : String} (mem : (path, text) ∈ files) :
    ∃ unit? found boundary, checkFile engine probe path text = .ok (unit?, found) ∧
      checkGraph engine probe unit?.toList = .ok boundary ∧
      ∀ line rule, result.issues.filter (·.key = (path, line, rule)) =
        (found ++ boundary).filter (·.key = (path, line, rule)) := by
  obtain ⟨shares, shared, rfl⟩ := run_eq_ok_iff.mp finished
  have order := List.mergeSort_perm files fun a b => a.1 ≤ b.1
  have known := order.mem_iff.mpr mem
  obtain ⟨own, gives⟩ := exists_ok_of_mem shared known
  obtain ⟨outcome, checked⟩ := checkFile_of_share gives
  obtain ⟨found, validated⟩ := (share_eq_ok_iff (path, text) checked).mp gives
  refine ⟨outcome.1, outcome.2, own.2, checked, validated, fun line rule => ?_⟩
  have placed : ∀ issue : Issue, decide (issue.key = (path, line, rule)) = true → issue.file = path := by
    intro issue same
    exact congrArg Prod.fst (of_decide_eq_true same)
  calc
    (Issue.sort (allIssues shares)).filter (·.key = (path, line, rule)) =
        (allIssues shares).filter (·.key = (path, line, rule)) := Issue.filter_key_sort _ _
    _ = (own.1 ++ own.2).filter (·.key = (path, line, rule)) :=
      filter_allIssues_eq ((order.map _).nodup_iff.mpr distinct) shared known gives placed
    _ = (outcome.2 ++ own.2).filter (·.key = (path, line, rule)) := by rw [found]

/-- Collecting the outcomes of the files in any order gives the result of the run. The result holds the
issues of all outcomes and boundaries, each as often as it was found, by file, line and rule; issues of
one place and rule stand in the order in which their file gave them. The order in which the files are
given does not matter either. -/
theorem collect_shuffled [Host] (distinct : (files.map (·.1)).Nodup)
    (checked : (files.mergeSort fun a b => a.1 ≤ b.1).mapM (fun file => checkFile engine probe file.1 file.2) =
      .ok outcomes)
    (perm : shuffled.Perm outcomes) :
    (∀ result, collect engine probe shuffled = .ok result ↔ run engine probe files = .ok result) ∧
    (∀ result, run engine probe files = .ok result →
      (∃ boundary, checkGraph engine probe (outcomes.filterMap (·.1)) = .ok boundary ∧
        result.issues.Perm (outcomes.flatMap (·.2) ++ boundary)) ∧
      result.issues.Pairwise Issue.Precedes ∧
      (∀ path text, (path, text) ∈ files → ∃ unit? found boundary,
        checkFile engine probe path text = .ok (unit?, found) ∧
        checkGraph engine probe unit?.toList = .ok boundary ∧
        ∀ line rule, result.issues.filter (·.key = (path, line, rule)) =
          (found ++ boundary).filter (·.key = (path, line, rule))) ∧
      LintResult.make result.issues result.exitStatus result.filesChecked = .ok result) ∧
    ∀ others, others.Perm files → run engine probe others = run engine probe files := by
  refine ⟨fun result => collect_eq_ok_iff_run distinct checked perm, fun result finished => ⟨?_, ?_, ?_, ?_⟩, ?_⟩
  · exact issues_perm_of_run checked finished
  · obtain ⟨shares, -, rfl⟩ := run_eq_ok_iff.mp finished
    exact (Issue.pairwise_sort (allIssues shares)).imp Issue.le_iff.mp
  · intro path text mem
    exact filter_key_run distinct finished mem
  · obtain ⟨shares, -, rfl⟩ := run_eq_ok_iff.mp finished
    exact LintResult.make_ofIssues _ _ _
  · intro others order
    simp only [run, mergeSort_eq_of_perm distinct order]

attribute [local instance] Host.ordinary in
theorem collect_shuffled_cart :
    ∃ outcomes result,
      [("lib/cart.ex", ""), ("lib/order.ex", "$")].mapM
        (fun file => checkFile strictEngine .denied file.1 file.2) = .ok outcomes ∧
      collect strictEngine .denied outcomes.reverse = .ok result ∧
      run strictEngine .denied [("lib/cart.ex", ""), ("lib/order.ex", "$")] = .ok result ∧
      run strictEngine .denied [("lib/order.ex", "$"), ("lib/cart.ex", "")] = .ok result := by
  obtain ⟨broken, second⟩ := share_order
  have shared := mapM_eq_ok_iff.mpr (.cons share_cart (.cons second .nil))
  have finished := run_of_ordered (by decide) shared
  obtain ⟨outcomes, checked⟩ := outcomes_of_shares shared
  have unmoved : [("lib/cart.ex", ""), ("lib/order.ex", "$")].mergeSort (fun a b => a.1 ≤ b.1) =
      [("lib/cart.ex", ""), ("lib/order.ex", "$")] := List.mergeSort_of_pairwise (by decide)
  obtain ⟨collected, -, given⟩ := collect_shuffled (by decide) (unmoved.symm ▸ checked) (List.reverse_perm outcomes)
  refine ⟨outcomes, _, checked, (collected _).mpr finished, finished, ?_⟩
  rw [given _ (.swap _ _ [])]
  exact finished

end Lint

end BoundaryLint
