import BoundaryLint.Lint.Run
import BoundaryLint.Proofs.Boundary.Dependency
import BoundaryLint.Proofs.Lint.Sorting
import BoundaryLint.Proofs.Source.Outcome
import Mathlib.Data.List.Forall2

/-!
What a file gives to a run. The issues found in a file and those of its boundary depend on this file
alone and carry its path. A run puts these shares together, so its result does not depend on the order
in which the files are visited.
-/

namespace BoundaryLint

section Lists

variable {α β ε : Type} {f : α → Except ε β}

theorem mapM_eq_ok_iff {items : List α} {results : List β} :
    items.mapM f = .ok results ↔ List.Forall₂ (fun item result => f item = .ok result) items results := by
  induction items generalizing results with
  | nil => simp [pure, Except.pure, eq_comm]
  | cons item items hypothesis =>
    rw [List.mapM_cons, List.forall₂_cons_left_iff]
    simp only [bind, Except.bind, pure, Except.pure, ← hypothesis]
    cases f item with
    | error fault => simp
    | ok result =>
      cases items.mapM f with
      | error fault => simp
      | ok others => simp [eq_comm]

theorem exists_of_mem_mapM {items : List α} {results : List β} (mapped : items.mapM f = .ok results)
    {result : β} (mem : result ∈ results) : ∃ item ∈ items, f item = .ok result := by
  induction mapM_eq_ok_iff.mp mapped with
  | nil => cases mem
  | cons first rest hypothesis =>
    rcases List.mem_cons.mp mem with rfl | later
    · exact ⟨_, List.mem_cons_self, first⟩
    · obtain ⟨item, among, given⟩ := hypothesis (mapM_eq_ok_iff.mpr rest) later
      exact ⟨item, List.mem_cons_of_mem _ among, given⟩

theorem exists_ok_of_mem {items : List α} {results : List β} (mapped : items.mapM f = .ok results)
    {item : α} (mem : item ∈ items) : ∃ result, f item = .ok result := by
  induction mapM_eq_ok_iff.mp mapped with
  | nil => cases mem
  | cons first rest hypothesis =>
    rcases List.mem_cons.mp mem with rfl | later
    · exact ⟨_, first⟩
    · exact hypothesis (mapM_eq_ok_iff.mpr rest) later

theorem mapM_perm {items : List α} {results shuffled : List β} (mapped : items.mapM f = .ok results)
    (perm : shuffled.Perm results) : ∃ schedule : List α, schedule.Perm items ∧ schedule.mapM f = .ok shuffled := by
  obtain ⟨schedule, given, order⟩ := List.perm_comp_forall₂ perm (mapM_eq_ok_iff.mp mapped).flip
  exact ⟨schedule, order, mapM_eq_ok_iff.mpr given.flip⟩

theorem mapM_of_perm {items schedule : List α} {results : List β} (mapped : items.mapM f = .ok results)
    (perm : schedule.Perm items) : ∃ shuffled : List β, shuffled.Perm results ∧ schedule.mapM f = .ok shuffled := by
  obtain ⟨shuffled, given, order⟩ := List.perm_comp_forall₂ perm (mapM_eq_ok_iff.mp mapped)
  exact ⟨shuffled, order, mapM_eq_ok_iff.mpr given⟩

theorem mem_of_lookup {entries : List (String × β)} {key : String} {value : β}
    (found : entries.lookup key = some value) : (key, value) ∈ entries := by
  obtain ⟨before, after, rfl, -⟩ := List.lookup_eq_some_iff.mp found
  exact List.mem_append_right before List.mem_cons_self

theorem exists_of_mem_forall₂ {related : α → β → Prop} {first : List α} {second : List β}
    (paired : List.Forall₂ related first second) {item : α} (mem : item ∈ first) :
    ∃ other ∈ second, related item other := by
  induction paired with
  | nil => cases mem
  | cons head tail hypothesis =>
    rcases List.mem_cons.mp mem with rfl | later
    · exact ⟨_, List.mem_cons_self, head⟩
    · obtain ⟨other, among, given⟩ := hypothesis later
      exact ⟨other, List.mem_cons_of_mem _ among, given⟩

theorem exists_of_mapM_error {items : List α} {fault : ε} (failed : items.mapM f = .error fault) :
    ∃ item ∈ items, f item = .error fault := by
  have outcome : Outcome (fun results => ∀ result ∈ results, True) (fun fault => ∃ item ∈ items, f item = .error fault)
      (items.mapM f) := by
    apply Outcome.mapM
    intro item mem
    cases given : f item with
    | ok result => exact trivial
    | error fault => exact ⟨item, mem, given⟩
  rw [failed] at outcome
  exact outcome

end Lists

namespace Lint

variable {engine : Engine} {probe : Probe} {path source : String}

theorem path_of_readTree [Host] {tree : SyntaxTree} (read : readTree path source = .ok tree) : tree.path = path := by
  unfold readTree at read
  split at read
  · cases read
  · cases read
  · rename_i body parsed
    unfold SyntaxTree.make at read
    split at read
    · cases read
    split at read
    · cases read
    · cases read
      rfl

theorem path_of_analyze [Host] {unit : SourceUnit} (analyzed : analyze engine.classifier path source = .ok unit) :
    unit.path = path := by
  simp only [analyze, bind, Except.bind, pure, Except.pure] at analyzed
  split at analyzed
  · cases analyzed
  · rename_i tree read
    cases analyzed
    exact path_of_readTree read

theorem file_of_parseIssue {settings : RuleConfig} {cause : Source.Cause} {line : Nat} {issue : Issue}
    (made : parseIssue settings path cause line = .ok issue) :
    issue.file = path ∧ issue.ruleId = Rule.parseErrorId := by
  simp only [parseIssue, Issue.make] at made
  repeat' split at made
  all_goals cases made
  exact ⟨rfl, rfl⟩

theorem file_of_applyRule [Host] {unit : SourceUnit} {active : ActiveRule} {issues : List Issue}
    (applied : applyRule probe unit active = .ok issues) : ∀ issue ∈ issues, issue.file = unit.path := by
  simp only [applyRule, ActiveRule.check, bind, Except.bind, pure, Except.pure] at applied
  repeat' split at applied
  all_goals cases applied
  · intro issue mem
    obtain ⟨finding, -, rfl⟩ := List.mem_map.mp mem
    rfl
  · simp

/-- The unit and the issues of a file lie at its path. -/
theorem file_of_checkFile [Host] {unit? : Option SourceUnit} {found : List Issue}
    (checked : checkFile engine probe path source = .ok (unit?, found)) :
    (∀ unit ∈ unit?, unit.path = path) ∧ ∀ issue ∈ found, issue.file = path := by
  unfold checkFile at checked
  split at checked
  · cases checked
  · split at checked
    · split at checked
      · rename_i issue made
        cases checked
        simp [(file_of_parseIssue made).1]
      · cases checked
    · cases checked
      simp
  · rename_i unit analyzed
    split at checked
    · rename_i issues applied
      cases checked
      have home : unit.path = path := path_of_analyze analyzed
      refine ⟨fun other same => Option.some.inj same ▸ home, fun issue mem => ?_⟩
      obtain ⟨part, among, inside⟩ := List.mem_flatten.mp mem
      obtain ⟨active, -, given⟩ := exists_of_mem_mapM applied among
      exact (file_of_applyRule given issue inside).trans home
    · cases checked

theorem file_of_validateUnit {options : Boundary.GraphOptions} {unit : SourceUnit} {issues : List Issue}
    (validated : Boundary.validateUnit options probe unit = .ok issues) :
    ∀ issue ∈ issues, issue.file = unit.path := by
  simp only [Boundary.validateUnit, bind, Except.bind, pure, Except.pure] at validated
  repeat' split at validated
  all_goals cases validated
  any_goals simp
  intro violation mem
  rfl

theorem file_of_checkGraph {unit? : Option SourceUnit} {issues : List Issue}
    (validated : checkGraph engine probe unit?.toList = .ok issues) (home : ∀ unit ∈ unit?, unit.path = path) :
    ∀ issue ∈ issues, issue.file = path := by
  unfold checkGraph at validated
  split at validated
  · cases validated
    simp
  · rename_i options same
    cases unit? with
    | none =>
      cases validated
      simp
    | some unit =>
      rw [Option.toList_some, Boundary.validate_singleton, mapError_eq_ok] at validated
      intro issue mem
      exact (file_of_validateUnit validated issue mem).trans (home unit rfl)

theorem checkGraph_nil : checkGraph engine probe [] = .ok [] := by
  unfold checkGraph
  cases engine.graph with
  | none => rfl
  | some options => rfl

/-- The issues of the boundaries are those of the first units, followed by those of the others. -/
theorem checkGraph_append (first second : List SourceUnit) :
    checkGraph engine probe (first ++ second) = do
      return (← checkGraph engine probe first) ++ (← checkGraph engine probe second) := by
  unfold checkGraph
  cases engine.graph with
  | none => rfl
  | some options =>
    simp only [Boundary.validate_append]
    cases Boundary.validate options probe first with
    | error fault => rfl
    | ok parts =>
      cases Boundary.validate options probe second with
      | error fault => rfl
      | ok others => rfl

def share [Host] (engine : Engine) (probe : Probe) (file : String × String) : Except Fault
    (List Issue × List Issue) := do
  let (unit?, found) ← checkFile engine probe file.1 file.2
  return (found, ← checkGraph engine probe unit?.toList)

theorem share_eq_ok_iff [Host] (file : String × String) {outcome : Option SourceUnit × List Issue}
    (checked : checkFile engine probe file.1 file.2 = .ok outcome) {given : List Issue × List Issue} :
    share engine probe file = .ok given ↔
      given.1 = outcome.2 ∧ checkGraph engine probe outcome.1.toList = .ok given.2 := by
  simp only [share, checked, bind, Except.bind, pure, Except.pure]
  cases checkGraph engine probe outcome.1.toList with
  | error fault => simp
  | ok boundary => simp [Prod.ext_iff, eq_comm]

theorem checkFile_of_share [Host] {file : String × String} {given : List Issue × List Issue}
    (shared : share engine probe file = .ok given) :
    ∃ outcome, checkFile engine probe file.1 file.2 = .ok outcome := by
  cases checked : checkFile engine probe file.1 file.2 with
  | error fault => simp [share, checked, bind, Except.bind] at shared
  | ok outcome => exact ⟨outcome, rfl⟩

theorem file_of_share [Host] {file : String × String} {given : List Issue × List Issue}
    (shared : share engine probe file = .ok given) : ∀ issue ∈ given.1 ++ given.2, issue.file = file.1 := by
  obtain ⟨outcome, checked⟩ := checkFile_of_share shared
  obtain ⟨found, boundary⟩ := (share_eq_ok_iff file checked).mp shared
  obtain ⟨home, own⟩ := file_of_checkFile checked
  intro issue mem
  rcases List.mem_append.mp mem with inside | beyond
  · exact own issue (found ▸ inside)
  · exact file_of_checkGraph boundary home issue beyond

def allIssues (shares : List (List Issue × List Issue)) : List Issue :=
  shares.flatMap (·.1) ++ shares.flatMap (·.2)

def gather (engine : Engine) (shares : List (List Issue × List Issue)) : LintResult :=
  .ofIssues engine.minSeverity (allIssues shares) shares.length

/-- The boundaries of all files are checked as those of every file on its own. -/
theorem checkGraph_units [Host] {files : List (String × String)} {outcomes : List (Option SourceUnit × List Issue)}
    (checked : List.Forall₂ (fun file outcome => checkFile engine probe file.1 file.2 = .ok outcome) files outcomes)
    {boundary : List Issue} :
    checkGraph engine probe (outcomes.filterMap (·.1)) = .ok boundary ↔
      ∃ shares, files.mapM (share engine probe) = .ok shares ∧ boundary = shares.flatMap (·.2) := by
  induction checked generalizing boundary with
  | nil =>
    simp [checkGraph_nil, pure, Except.pure, eq_comm]
  | @cons file outcome files outcomes first rest hypothesis =>
    have units : (outcome :: outcomes).filterMap (·.1) = outcome.1.toList ++ outcomes.filterMap (·.1) := by
      cases same : outcome.1 with
      | none => simp [same]
      | some unit => simp [same]
    rw [units, checkGraph_append]
    constructor
    · intro validated
      cases own : checkGraph engine probe outcome.1.toList with
      | error fault => simp [own, bind, Except.bind] at validated
      | ok part =>
        cases others : checkGraph engine probe (outcomes.filterMap (·.1)) with
        | error fault => simp [own, others, bind, Except.bind] at validated
        | ok parts =>
          simp only [own, others, bind, Except.bind, pure, Except.pure, Except.ok.injEq] at validated
          obtain ⟨shares, shared, same⟩ := hypothesis.mp others
          refine ⟨(outcome.2, part) :: shares, mapM_eq_ok_iff.mpr (.cons ?_ (mapM_eq_ok_iff.mp shared)), ?_⟩
          · exact (share_eq_ok_iff _ first).mpr ⟨rfl, own⟩
          · simp [← validated, same]
    · rintro ⟨shares, shared, same⟩
      cases mapM_eq_ok_iff.mp shared with
      | cons given later =>
        have own := ((share_eq_ok_iff _ first).mp given).2
        have others := hypothesis.mpr ⟨_, mapM_eq_ok_iff.mpr later, rfl⟩
        simp [own, others, bind, Except.bind, pure, Except.pure, same]

theorem found_of_shares [Host] {files : List (String × String)} {outcomes : List (Option SourceUnit × List Issue)}
    {shares : List (List Issue × List Issue)}
    (checked : List.Forall₂ (fun file outcome => checkFile engine probe file.1 file.2 = .ok outcome) files outcomes)
    (shared : files.mapM (share engine probe) = .ok shares) :
    shares.flatMap (·.1) = outcomes.flatMap (·.2) ∧ shares.length = outcomes.length := by
  induction checked generalizing shares with
  | nil =>
    cases mapM_eq_ok_iff.mp shared
    simp
  | cons first rest hypothesis =>
    cases mapM_eq_ok_iff.mp shared with
    | cons given later =>
      obtain ⟨issues, count⟩ := hypothesis (mapM_eq_ok_iff.mpr later)
      simp [((share_eq_ok_iff _ first).mp given).1, issues, count]

/-- Collecting the outcomes of files gathers what these files give to a run. -/
theorem collect_eq_ok_iff [Host] {files : List (String × String)} {outcomes : List (Option SourceUnit × List Issue)}
    (checked : files.mapM (fun file => checkFile engine probe file.1 file.2) = .ok outcomes)
    {result : LintResult} :
    collect engine probe outcomes = .ok result ↔
      ∃ shares, files.mapM (share engine probe) = .ok shares ∧ result = gather engine shares := by
  have outcome := mapM_eq_ok_iff.mp checked
  unfold collect
  constructor
  · intro collected
    cases validated : checkGraph engine probe (outcomes.filterMap (·.1)) with
    | error fault => simp [validated, bind, Except.bind] at collected
    | ok boundary =>
      simp only [validated, bind, Except.bind, pure, Except.pure, Except.ok.injEq] at collected
      obtain ⟨shares, shared, same⟩ := (checkGraph_units outcome).mp validated
      obtain ⟨found, count⟩ := found_of_shares outcome shared
      exact ⟨shares, shared, by rw [← collected, gather, allIssues, found, count, same]⟩
  · rintro ⟨shares, shared, same⟩
    have validated := (checkGraph_units outcome).mpr ⟨shares, shared, rfl⟩
    obtain ⟨found, count⟩ := found_of_shares outcome shared
    simp only [validated, bind, Except.bind, pure, Except.pure, Except.ok.injEq]
    rw [same, gather, allIssues, found, count]

theorem outcomes_of_shares [Host] {files : List (String × String)} {shares : List (List Issue × List Issue)}
    (shared : files.mapM (share engine probe) = .ok shares) :
    ∃ outcomes, files.mapM (fun file => checkFile engine probe file.1 file.2) = .ok outcomes := by
  induction mapM_eq_ok_iff.mp shared with
  | nil => exact ⟨[], rfl⟩
  | cons given later hypothesis =>
    obtain ⟨outcome, first⟩ := checkFile_of_share given
    obtain ⟨outcomes, rest⟩ := hypothesis (mapM_eq_ok_iff.mpr later)
    exact ⟨outcome :: outcomes, mapM_eq_ok_iff.mpr (.cons first (mapM_eq_ok_iff.mp rest))⟩

/-- A run gathers what its files give, in the order of their paths. -/
theorem run_eq_ok_iff [Host] {files : List (String × String)} {result : LintResult} :
    run engine probe files = .ok result ↔
      ∃ shares, (files.mergeSort fun a b => a.1 ≤ b.1).mapM (share engine probe) = .ok shares ∧
        result = gather engine shares := by
  cases checked : (files.mergeSort fun a b => a.1 ≤ b.1).mapM fun file => checkFile engine probe file.1 file.2 with
  | error fault =>
    have fails : run engine probe files = .error fault := by
      simp only [run, checked, bind, Except.bind]
    rw [fails]
    constructor
    · intro finished
      cases finished
    · rintro ⟨shares, shared, -⟩
      obtain ⟨outcomes, passed⟩ := outcomes_of_shares shared
      rw [checked] at passed
      cases passed
  | ok outcomes =>
    have collected : run engine probe files = collect engine probe outcomes := by
      simp only [run, checked, bind, Except.bind]
    rw [collected, collect_eq_ok_iff checked]

section Gathering

variable {files : List (String × String)} {shares : List (List Issue × List Issue)}
  {view : List Issue × List Issue → List Issue}

theorem filter_flatMap_eq_nil [Host] (inside : ∀ given, view given ⊆ given.1 ++ given.2)
    (shared : files.mapM (share engine probe) = .ok shares) (absent : path ∉ files.map (·.1))
    {keep : Issue → Bool} (placed : ∀ issue, keep issue = true → issue.file = path) :
    (shares.flatMap view).filter keep = [] := by
  rw [List.filter_eq_nil_iff]
  intro issue mem kept
  obtain ⟨given, among, own⟩ := List.mem_flatMap.mp mem
  obtain ⟨file, member, gives⟩ := exists_of_mem_mapM shared among
  have home : issue.file = file.1 := file_of_share gives issue (inside given own)
  exact absent (List.mem_map.mpr ⟨file, member, home.symm.trans (placed issue kept)⟩)

theorem filter_flatMap_eq [Host] (inside : ∀ given, view given ⊆ given.1 ++ given.2)
    (distinct : (files.map (·.1)).Nodup) (shared : files.mapM (share engine probe) = .ok shares)
    {file : String × String} (mem : file ∈ files) {own : List Issue × List Issue}
    (gives : share engine probe file = .ok own)
    {keep : Issue → Bool} (placed : ∀ issue, keep issue = true → issue.file = file.1) :
    (shares.flatMap view).filter keep = (view own).filter keep := by
  induction mapM_eq_ok_iff.mp shared with
  | nil => cases mem
  | @cons other given files shares first rest hypothesis =>
    rw [List.map_cons, List.nodup_cons] at distinct
    rw [List.flatMap_cons, List.filter_append]
    have later := mapM_eq_ok_iff.mpr rest
    rcases List.mem_cons.mp mem with rfl | among
    · rw [filter_flatMap_eq_nil inside later distinct.1 placed, List.append_nil]
      cases first.symm.trans gives
      rfl
    · have elsewhere : (view given).filter keep = [] := by
        rw [List.filter_eq_nil_iff]
        intro issue found kept
        have home : issue.file = other.1 := file_of_share first issue (inside given found)
        have same : other.1 = file.1 := home.symm.trans (placed issue kept)
        exact distinct.1 (List.mem_map.mpr ⟨file, among, same.symm⟩)
      rw [elsewhere, List.nil_append, hypothesis distinct.2 later among]

theorem filter_allIssues_eq_nil [Host] (shared : files.mapM (share engine probe) = .ok shares)
    (absent : path ∉ files.map (·.1)) {keep : Issue → Bool}
    (placed : ∀ issue, keep issue = true → issue.file = path) : (allIssues shares).filter keep = [] := by
  rw [allIssues, List.filter_append,
    filter_flatMap_eq_nil (fun _ => List.subset_append_left _ _) shared absent placed,
    filter_flatMap_eq_nil (fun _ => List.subset_append_right _ _) shared absent placed, List.append_nil]

theorem filter_allIssues_eq [Host] (distinct : (files.map (·.1)).Nodup)
    (shared : files.mapM (share engine probe) = .ok shares) {file : String × String} (mem : file ∈ files)
    {own : List Issue × List Issue} (gives : share engine probe file = .ok own) {keep : Issue → Bool}
    (placed : ∀ issue, keep issue = true → issue.file = file.1) :
    (allIssues shares).filter keep = (own.1 ++ own.2).filter keep := by
  rw [allIssues, List.filter_append, List.filter_append,
    filter_flatMap_eq (fun _ => List.subset_append_left _ _) distinct shared mem gives placed,
    filter_flatMap_eq (fun _ => List.subset_append_right _ _) distinct shared mem gives placed]

/-- The order in which the files are visited does not change what is gathered. -/
theorem gather_eq_of_perm [Host] {schedule : List (String × String)} {shuffled : List (List Issue × List Issue)}
    (distinct : (files.map (·.1)).Nodup) (perm : schedule.Perm files)
    (shared : files.mapM (share engine probe) = .ok shares)
    (visited : schedule.mapM (share engine probe) = .ok shuffled) : gather engine shuffled = gather engine shares := by
  have count : shuffled.length = shares.length := by
    rw [← (mapM_eq_ok_iff.mp shared).length_eq, ← (mapM_eq_ok_iff.mp visited).length_eq, perm.length_eq]
  have sorted : Issue.sort (allIssues shuffled) = Issue.sort (allIssues shares) := by
    refine Issue.sort_eq_of_filter_key_eq fun key => ?_
    have placed : ∀ issue : Issue, decide (issue.key = key) = true → issue.file = key.1 := by
      intro issue same
      rw [← of_decide_eq_true same, Issue.key]
    have paths : (schedule.map (·.1)).Perm (files.map (·.1)) := perm.map _
    by_cases known : key.1 ∈ files.map (·.1)
    · obtain ⟨file, mem, home⟩ := List.mem_map.mp known
      obtain ⟨own, gives⟩ := exists_ok_of_mem shared mem
      rw [← home] at placed
      rw [filter_allIssues_eq (paths.nodup_iff.mpr distinct) visited (perm.mem_iff.mpr mem) gives placed,
        filter_allIssues_eq distinct shared mem gives placed]
    · rw [filter_allIssues_eq_nil visited (mt paths.mem_iff.mp known) placed,
        filter_allIssues_eq_nil shared known placed]
  simp only [gather, LintResult.ofIssues, sorted, count]

end Gathering

end Lint

end BoundaryLint
