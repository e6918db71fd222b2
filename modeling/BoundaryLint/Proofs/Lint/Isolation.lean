import BoundaryLint.Host.Ordinary
import BoundaryLint.Proofs.Lint.Share

/-!
Files are checked apart. The issues of a file in a run are those that the file has on its own, whatever
the other files of the run hold. A file that cannot be read has the issue about it and no other.
-/

namespace BoundaryLint

def LintResult.forFile (result : LintResult) (path : String) : List Issue :=
  result.issues.filter (·.file = path)

theorem Boundary.declaration?_nil (path : String) : declaration? ⟨path, []⟩ = none := by
  have nodes : Node.walkAll [] = [] := by rw [Node.walkAll]
  simp [declaration?, findDirective?, SyntaxTree.nodes, nodes]

namespace Lint

variable {engine : Engine} {probe : Probe} {path text : String} {files : List (String × String)}
  {result : LintResult}

theorem run_of_ordered [Host] {shares : List (List Issue × List Issue)} (ordered : files.Pairwise fun a b => a.1 ≤ b.1)
    (shared : files.mapM (share engine probe) = .ok shares) :
    run engine probe files = .ok (gather engine shares) := by
  have unmoved : files.mergeSort (fun a b => a.1 ≤ b.1) = files := by
    apply List.mergeSort_of_pairwise
    simpa using ordered
  exact run_eq_ok_iff.mpr ⟨shares, unmoved.symm ▸ shared, rfl⟩

/-- The issues of a file in a run are its share, sorted. -/
theorem forFile_eq_sort_share [Host] (distinct : (files.map (·.1)).Nodup) (mem : (path, text) ∈ files)
    (finished : run engine probe files = .ok result) :
    ∃ own, share engine probe (path, text) = .ok own ∧ result.forFile path = Issue.sort (own.1 ++ own.2) := by
  obtain ⟨shares, shared, rfl⟩ := run_eq_ok_iff.mp finished
  have order := List.mergeSort_perm files fun a b => a.1 ≤ b.1
  have known := order.mem_iff.mpr mem
  obtain ⟨own, gives⟩ := exists_ok_of_mem shared known
  have all : ∀ issue ∈ own.1 ++ own.2, issue.file = path := file_of_share gives
  refine ⟨own, gives, ?_⟩
  calc
    (gather engine shares).forFile path = Issue.sort ((allIssues shares).filter (·.file = path)) :=
      Issue.filter_sort _ _
    _ = Issue.sort ((own.1 ++ own.2).filter (·.file = path)) := by
      rw [filter_allIssues_eq ((order.map _).nodup_iff.mpr distinct) shared known gives (by simp)]
    _ = Issue.sort (own.1 ++ own.2) := by
      rw [List.filter_eq_self.mpr fun issue inside => decide_eq_true (all issue inside)]

/-- A file that cannot be read gives the issue about it if these issues are wanted, and nothing else. -/
theorem share_of_refused [Host] {cause : Source.Cause} {line : Nat} {own : List Issue × List Issue}
    (refused : Grammar.parse text = .error (.at cause line)) (gives : share engine probe (path, text) = .ok own) :
    if engine.parseError.enabled then
      ∃ issue, parseIssue engine.parseError path cause line = .ok issue ∧ own = ([issue], [])
    else own = ([], []) := by
  have unread : analyze engine.classifier path text = .error (.source cause line) := by
    simp only [analyze, readTree, refused, bind, Except.bind]
  by_cases wanted : engine.parseError.enabled = true
  · rw [if_pos wanted]
    cases made : parseIssue engine.parseError path cause line with
    | error fault =>
      have stopped : checkFile engine probe path text = .error (.issue fault) := by
        simp only [checkFile, unread, wanted, made, if_true]
      simp [share, stopped, bind, Except.bind] at gives
    | ok issue =>
      have checked : checkFile engine probe path text = .ok (none, [issue]) := by
        simp only [checkFile, unread, wanted, made, if_true]
      obtain ⟨found, boundary⟩ := (share_eq_ok_iff (path, text) checked).mp gives
      rw [Option.toList_none, checkGraph_nil, Except.ok.injEq] at boundary
      exact ⟨issue, rfl, Prod.ext found boundary.symm⟩
  · rw [if_neg wanted]
    have checked : checkFile engine probe path text = .ok (none, []) := by
      simp only [checkFile, unread, wanted, Bool.false_eq_true, if_false]
    obtain ⟨found, boundary⟩ := (share_eq_ok_iff (path, text) checked).mp gives
    rw [Option.toList_none, checkGraph_nil, Except.ok.injEq] at boundary
    exact Prod.ext found boundary.symm

theorem file_mem_of_run [Host] (finished : run engine probe files = .ok result) {issue : Issue}
    (mem : issue ∈ result.issues) : issue.file ∈ files.map (·.1) := by
  obtain ⟨shares, shared, rfl⟩ := run_eq_ok_iff.mp finished
  have order := List.mergeSort_perm files fun a b => a.1 ≤ b.1
  by_contra absent
  have elsewhere : issue.file ∉ (files.mergeSort fun a b => a.1 ≤ b.1).map (·.1) :=
    mt (order.map _).mem_iff.mp absent
  have placed : ∀ other : Issue, decide (other.file = issue.file) = true → other.file = issue.file :=
    fun other => of_decide_eq_true
  have found : issue ∈ (allIssues shares).filter (·.file = issue.file) :=
    List.mem_filter.mpr ⟨(Issue.sort_perm _).mem_iff.mp mem, decide_eq_true rfl⟩
  rw [filter_allIssues_eq_nil shared elsewhere placed] at found
  exact List.not_mem_nil found

/-- What a run reports about a file depends on that file alone. It is what a run over this file
reports, it stays the same when other files are added, removed or changed, and it is at most the issue
about a file that cannot be read if the text is refused. -/
theorem forFile_run [Host] (distinct : (files.map (·.1)).Nodup) (mem : (path, text) ∈ files)
    (finished : run engine probe files = .ok result) :
    (∃ alone, run engine probe [(path, text)] = .ok alone ∧ result.forFile path = alone.issues) ∧
    (∀ others changed, (others.map (·.1)).Nodup → (path, text) ∈ others →
      run engine probe others = .ok changed → changed.forFile path = result.forFile path) ∧
    (∀ cause line, Grammar.parse text = .error (.at cause line) →
      if engine.parseError.enabled then
        ∃ issue, parseIssue engine.parseError path cause line = .ok issue ∧
          issue.ruleId = Rule.parseErrorId ∧ result.forFile path = [issue]
      else result.forFile path = []) ∧
    ∀ issue ∈ result.issues, issue.file ∈ files.map (·.1) := by
  obtain ⟨own, gives, found⟩ := forFile_eq_sort_share distinct mem finished
  have single : run engine probe [(path, text)] = .ok (gather engine [own]) :=
    run_of_ordered (List.pairwise_singleton _ _) (mapM_eq_ok_iff.mpr (.cons gives .nil))
  refine ⟨⟨gather engine [own], single, ?_⟩, ?_, ?_, fun issue inside => file_mem_of_run finished inside⟩
  · simp only [found, gather, LintResult.ofIssues, allIssues, List.flatMap_cons, List.flatMap_nil, List.append_nil]
  · intro others changed apart known other
    obtain ⟨same, again, equal⟩ := forFile_eq_sort_share apart known other
    cases gives.symm.trans again
    rw [equal, found]
  · intro cause line refused
    have only := share_of_refused refused gives
    by_cases wanted : engine.parseError.enabled = true
    · rw [if_pos wanted] at only ⊢
      obtain ⟨issue, made, rfl⟩ := only
      exact ⟨issue, made, (file_of_parseIssue made).2, by simp [found, Issue.sort]⟩
    · rw [if_neg wanted] at only ⊢
      simp [found, only, Issue.sort]

def noFiles : Rule where
  id := "no_files"
  label := "NoFiles"
  family := .structuralPlacement
  inspect _ := .ok [⟨"A file stands here.", 1, "file"⟩]

def strictEngine : Engine := ⟨⟨[]⟩, [⟨noFiles, .normal, 2, []⟩], some {}, {}, .low⟩

theorem parse_empty [Host] : Grammar.parse "" = .ok [] := by
  have scanned : Token.scan "" = .ok [] := by
    rw [Token.scan, Token.unifyBreaks.eq_def, Token.scanFrom]
    simp [Token.skipGap]
  simp only [Grammar.parse, scanned, bind, Except.bind, Grammar.program, Grammar.body, Grammar.bodyItems]
  rfl

theorem parse_dollar [Host] : Grammar.parse "$" = .error (.at (.unexpectedCharacter '$') 1) := by
  have skipped : Token.skipGap false .none 1 ['$'] = ⟨.none, 1, ['$']⟩ := by
    rw [Token.skipGap.eq_def]
    rfl
  have scanned : Token.scanFrom 1 ['$'] = .error (.at (.unexpectedCharacter '$') 1) := by
    rw [Token.scanFrom]
    split
    · rename_i ended
      cases skipped.symm.trans ended
    · rename_i began
      cases skipped.symm.trans began
      rfl
  change (Token.scanFrom 1 ['$']).bind (Grammar.program Host.expressionNesting) = _
  rw [scanned]
  rfl

theorem share_cart [Host] :
    share strictEngine .denied ("lib/cart.ex", "") =
      .ok ([⟨"no_files", "A file stands here.", "lib/cart.ex", 1, "file", .normal, .design, .structuralPlacement, 2⟩],
        []) := by
  have read : readTree "lib/cart.ex" "" = .ok ⟨"lib/cart.ex", []⟩ := by
    simp only [readTree, parse_empty]
    rfl
  simp only [share, checkFile, analyze, read, unitOfTree, Boundary.declaration?_nil, bind, Except.bind]
  rfl

theorem share_order [Host] : ∃ issue, share strictEngine .denied ("lib/order.ex", "$") = .ok ([issue], []) := by
  simp only [share, checkFile, analyze, readTree, parse_dollar, bind, Except.bind]
  exact ⟨_, rfl⟩

attribute [local instance] Host.ordinary in
theorem forFile_run_order :
    ∃ result alone issue, run strictEngine .denied [("lib/cart.ex", ""), ("lib/order.ex", "$")] = .ok result ∧
      run strictEngine .denied [("lib/order.ex", "$")] = .ok alone ∧
      result.forFile "lib/order.ex" = alone.issues ∧ alone.issues = [issue] := by
  obtain ⟨broken, second⟩ := share_order
  have shared := mapM_eq_ok_iff.mpr (.cons share_cart (.cons second .nil))
  have finished := run_of_ordered (by decide) shared
  obtain ⟨⟨alone, ran, same⟩, -, refused, -⟩ := forFile_run (by decide) (.tail _ (.head _)) finished
  obtain ⟨issue, -, -, only⟩ := refused _ _ parse_dollar
  exact ⟨_, alone, issue, finished, ran, same, same ▸ only⟩

end Lint

end BoundaryLint
