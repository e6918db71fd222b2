import BoundaryLint.Config.Section
import BoundaryLint.Host.Ordinary
import BoundaryLint.Proofs.Lint.RuleSettings
import Mathlib

/-!
The exit status of a run. It is the greatest exit status of the issues that reach the threshold. Settings are
checked wherever they are made, and all other statuses are written down with the rules, so it fits into the byte
that a process can return. The threshold shows in the exit status and nowhere else.
-/

namespace BoundaryLint

namespace Issue

theorem foldl_max_le_iff (issues : List Issue) (worst bound : Nat) :
    issues.foldl (fun worst issue => max worst issue.exitStatus) worst ≤ bound ↔
      worst ≤ bound ∧ ∀ issue ∈ issues, issue.exitStatus ≤ bound := by
  induction issues generalizing worst with
  | nil => simp
  | cons issue rest ih =>
    rw [List.foldl_cons, ih, List.forall_mem_cons, Nat.max_le, and_assoc]

/-- The worst status is the least bound of the issues that count. -/
theorem worstStatus_le_iff {threshold : Severity} {issues : List Issue} {bound : Nat} :
    worstStatus threshold issues ≤ bound ↔
      ∀ issue ∈ issues, issue.severity.atLeast threshold = true → issue.exitStatus ≤ bound := by
  rw [worstStatus, foldl_max_le_iff]
  simp only [Nat.zero_le, true_and, List.mem_filter, and_imp]

theorem le_worstStatus {threshold : Severity} {issues : List Issue} {issue : Issue} (mem : issue ∈ issues)
    (counts : issue.severity.atLeast threshold = true) : issue.exitStatus ≤ worstStatus threshold issues :=
  worstStatus_le_iff.mp (Nat.le_refl _) issue mem counts

theorem exists_worstStatus {threshold : Severity} {issues : List Issue}
    (counted : ∃ issue ∈ issues, issue.severity.atLeast threshold = true) :
    ∃ issue ∈ issues, issue.severity.atLeast threshold = true ∧
      issue.exitStatus = worstStatus threshold issues := by
  obtain ⟨first, mem, counts⟩ := counted
  have above : first.exitStatus ≤ worstStatus threshold issues := le_worstStatus mem counts
  by_contra below
  have smaller : ∀ issue ∈ issues, issue.severity.atLeast threshold = true →
      issue.exitStatus < worstStatus threshold issues := by
    intro issue among reaches
    have most := le_worstStatus among reaches
    have other : issue.exitStatus ≠ worstStatus threshold issues := fun same => below ⟨issue, among, reaches, same⟩
    omega
  have positive := smaller first mem counts
  have bounded : worstStatus threshold issues ≤ worstStatus threshold issues - 1 := by
    apply worstStatus_le_iff.mpr
    intro issue among reaches
    have less := smaller issue among reaches
    omega
  omega

theorem worstStatus_eq_zero_iff {threshold : Severity} {issues : List Issue} :
    worstStatus threshold issues = 0 ↔
      ∀ issue ∈ issues, issue.severity.atLeast threshold = true → issue.exitStatus = 0 := by
  simp only [← Nat.le_zero, worstStatus_le_iff]

theorem worstStatus_antitone {first second : Severity} (order : first.rank ≤ second.rank) (issues : List Issue) :
    worstStatus second issues ≤ worstStatus first issues := by
  apply worstStatus_le_iff.mpr
  intro issue mem reaches
  apply le_worstStatus mem
  exact decide_eq_true (Nat.le_trans order (of_decide_eq_true reaches))

end Issue

def highestStatus : Nat := 255

def RuleConfig.Checked (settings : RuleConfig) : Prop :=
  ∃ enabled severity status options, make enabled severity status options = .ok settings

theorem RuleConfig.Checked.status_le {settings : RuleConfig} (checked : settings.Checked) :
    ∀ status ∈ settings.exitStatus, status ≤ highestStatus := by
  obtain ⟨enabled, severity, status?, options, made⟩ := checked
  intro status set
  cases status? with
  | none =>
    cases made
    cases set
  | some given =>
    simp only [make] at made
    split at made
    · next range =>
      cases made
      cases set
      simp only [highestStatus]
      omega
    · cases made

namespace Config

/-- The ways in which a configuration comes about: without settings, from checked settings of the rules, from
the section of a document, and by changing another one. -/
inductive Accepted [Host] : Config → Prop
  | default : Accepted .default
  | make {layerPatterns : PatternGroups} {included excluded : List String} {rules : List (String × RuleEntry)}
      {minSeverity : Severity} {workers : Int} {excludedApps : List String} {config : Config}
      (checked : ∀ id settings, (id, RuleEntry.settings settings) ∈ rules → settings.Checked)
      (made : make layerPatterns included excluded rules minSeverity workers excludedApps = .ok config) :
      Accepted config
  | ofSection {datum : Datum} {config : Config} (read : ofSection datum = .ok config) : Accepted config
  | withRule {config : Config} {settings : RuleConfig} (id : String) (accepted : Accepted config)
      (checked : settings.Checked) : Accepted (config.withRule id settings)
  | override {config changed : Config} {minSeverity : Option Severity} {workers : Option Int}
      (accepted : Accepted config) (made : config.override minSeverity workers = .ok changed) : Accepted changed

def Bounded (config : Config) : Prop := ∀ id, ∀ status ∈ (config.rule id).exitStatus, status ≤ highestStatus

theorem checked_readRule {id : String} {datum : Datum} {settings : RuleConfig}
    (read : readRule id datum = .ok settings) : settings.Checked := by
  cases datum with
  | boolean enabled =>
    cases read
    exact ⟨enabled, none, none, [], rfl⟩
  | table entries =>
    obtain ⟨enabled, -, later⟩ := bind_eq_ok.mp read
    obtain ⟨status, -, later⟩ := bind_eq_ok.mp later
    obtain ⟨severity, -, made⟩ := bind_eq_ok.mp later
    exact ⟨enabled, severity, status, _, made⟩
  | _ => cases read

theorem bounded_make [Host] {layerPatterns : PatternGroups} {included excluded : List String}
    {rules : List (String × RuleEntry)} {minSeverity : Severity} {workers : Int} {excludedApps : List String}
    {config : Config} (checked : ∀ id settings, (id, RuleEntry.settings settings) ∈ rules → settings.Checked)
    (made : make layerPatterns included excluded rules minSeverity workers excludedApps = .ok config) :
    config.Bounded := by
  unfold make at made
  split at made
  · cases made
  obtain ⟨_, -, later⟩ := bind_eq_ok.mp made
  obtain ⟨settled, mapped, same⟩ := bind_eq_ok.mp later
  cases same
  intro id status set
  cases found : settled.lookup id with
  | none => simp [rule, found] at set
  | some settings =>
    obtain ⟨⟨name, entry⟩, listed, given⟩ := exists_of_mem_mapM mapped (mem_of_lookup found)
    cases entry with
    | settings own =>
      simp only [ruleSettings, Except.ok.injEq, Prod.mk.injEq] at given
      obtain ⟨rfl, rfl⟩ := given
      exact (checked _ _ listed).status_le status (by simpa [rule, found] using set)
    | value found => cases given

theorem bounded_ofSection [Host] {datum : Datum} {config : Config} (read : ofSection datum = .ok config) :
    config.Bounded := by
  cases datum with
  | table entries =>
    simp only [ofSection] at read
    split at read
    · cases read
    obtain ⟨ruleEntries, -, later⟩ := bind_eq_ok.mp read
    obtain ⟨layerPatterns, -, later⟩ := bind_eq_ok.mp later
    obtain ⟨included, -, later⟩ := bind_eq_ok.mp later
    obtain ⟨excluded, -, later⟩ := bind_eq_ok.mp later
    obtain ⟨rules, mapped, later⟩ := bind_eq_ok.mp later
    obtain ⟨minSeverity, -, later⟩ := bind_eq_ok.mp later
    obtain ⟨workers, -, later⟩ := bind_eq_ok.mp later
    obtain ⟨excludedApps, -, made⟩ := bind_eq_ok.mp later
    apply bounded_make _ made
    intro id settings mem
    obtain ⟨⟨name, datum⟩, -, given⟩ := exists_of_mem_mapM mapped mem
    obtain ⟨own, settled, same⟩ := bind_eq_ok.mp given
    cases same
    exact checked_readRule settled
  | _ => cases read

/-- Every way to a configuration checks the exit statuses in it. -/
theorem Accepted.bounded [Host] {config : Config} (accepted : config.Accepted) : config.Bounded := by
  induction accepted with
  | default =>
    intro id status set
    cases set
  | make checked made => exact bounded_make checked made
  | ofSection read => exact bounded_ofSection read
  | @withRule config settings id accepted checked ih =>
    intro other status set
    by_cases own : other = id
    · rw [own, rule_withRule] at set
      exact checked.status_le status set
    · rw [(config.agreeBut_withRule id settings).rules other own] at set
      exact ih other status set
  | @override config changed minSeverity workers accepted made ih =>
    cases workers with
    | none =>
      cases made
      exact ih
    | some count =>
      simp only [Config.override] at made
      split at made
      · cases made
      · cases made
        exact ih

end Config

namespace Lint

structure Engine.Bounded (engine : Engine) : Prop where
  rules : ∀ active ∈ engine.rules, active.exitStatus ≤ highestStatus
  graph : ∀ options ∈ engine.graph, options.exitStatus ≤ highestStatus
  parseError : ∀ status ∈ engine.parseError.exitStatus, status ≤ highestStatus

section Settings

variable {config : Config} {engine : Engine}

theorem builtin_status_le : ∀ rule ∈ Rule.all,
    rule.exitStatus.getD rule.category.exitStatus ≤ highestStatus := by
  decide

theorem getD_status_le {status? : Option Nat} {default : Nat} (set : ∀ status ∈ status?, status ≤ highestStatus)
    (unset : default ≤ highestStatus) : status?.getD default ≤ highestStatus := by
  cases status? with
  | none => exact unset
  | some status => exact set status rfl

theorem status_of_configure {rule : Rule} {settings : RuleConfig} {active : ActiveRule}
    (configured : rule.configure settings = .ok (some active)) :
    active.exitStatus = settings.exitStatus.getD (rule.exitStatus.getD rule.category.exitStatus) := by
  unfold Rule.configure at configured
  split at configured
  · obtain ⟨activated, made, same⟩ := bind_eq_ok.mp configured
    cases same
    obtain ⟨options, -, later⟩ := bind_eq_ok.mp made
    obtain ⟨_, -, built⟩ := bind_eq_ok.mp later
    cases built
    rfl
  · cases configured

theorem status_of_graph [Host] {options : Boundary.GraphOptions}
    (configured : Boundary.GraphOptions.configure config = .ok (some options)) :
    options.exitStatus = (config.rule Rule.boundaryDepsId).exitStatus.getD 2 := by
  simp only [Boundary.GraphOptions.configure] at configured
  split at configured
  · cases configured
  split at configured
  · cases configured
  obtain ⟨ignored, -, later⟩ := bind_eq_ok.mp configured
  obtain ⟨suffixes, -, same⟩ := bind_eq_ok.mp later
  cases same
  rfl

theorem bounded_of_config [Host] (bounded : config.Bounded) (made : Engine.ofConfig config = .ok engine) :
    engine.Bounded := by
  obtain ⟨⟨each, configured, active⟩, graph, -, settings⟩ := parts_of_config made
  constructor
  · intro rule mem
    rw [active] at mem
    obtain ⟨active?, among, same⟩ := List.mem_filterMap.mp mem
    cases same
    obtain ⟨source, listed, given⟩ := exists_of_mem_mapM (mapM_eq_ok_iff.mpr configured) among
    rw [status_of_configure given]
    exact getD_status_le (bounded source.id) (builtin_status_le source listed)
  · intro options same
    rw [same] at graph
    rw [status_of_graph graph]
    exact getD_status_le (bounded _) (by decide)
  · rw [settings]
    exact bounded _

/-- The threshold is copied from the configuration, and nothing else is made of it. -/
theorem ofConfig_threshold [Host] (threshold : Severity) (made : Engine.ofConfig config = .ok engine) :
    engine.minSeverity = config.minSeverity ∧
      Engine.ofConfig { config with minSeverity := threshold } = .ok { engine with minSeverity := threshold } := by
  obtain ⟨rules, configured, later⟩ := bind_eq_ok.mp made
  obtain ⟨graph, bounded, later⟩ := bind_eq_ok.mp later
  obtain ⟨classifier, classified, same⟩ := bind_eq_ok.mp later
  cases same
  constructor
  · rfl
  · apply bind_eq_ok.mpr
    exact ⟨rules, configured, bind_eq_ok.mpr ⟨graph, bounded, bind_eq_ok.mpr ⟨classifier, classified, rfl⟩⟩⟩

end Settings

section Runs

variable {engine : Engine} {probe : Probe} {path source : String}

theorem status_of_parseIssue {settings : RuleConfig} {cause : Source.Cause} {line : Nat} {issue : Issue}
    (made : parseIssue settings path cause line = .ok issue) :
    issue.exitStatus = settings.exitStatus.getD Category.warning.exitStatus := by
  simp only [parseIssue, Issue.make] at made
  repeat' split at made
  all_goals cases made
  rfl

theorem status_of_applyRule [Host] {unit : SourceUnit} {active : ActiveRule} {issues : List Issue}
    (applied : applyRule probe unit active = .ok issues) : ∀ issue ∈ issues, issue.exitStatus = active.exitStatus := by
  obtain ⟨verdict, -, checked⟩ := bind_eq_ok.mp applied
  cases verdict with
  | false =>
    cases checked
    simp
  | true =>
    obtain ⟨findings, -, same⟩ := bind_eq_ok.mp checked
    cases same
    intro issue mem
    obtain ⟨finding, -, rfl⟩ := List.mem_map.mp mem
    rfl

theorem status_of_validate {options : Boundary.GraphOptions} {units : List SourceUnit} {issues : List Issue}
    (validated : Boundary.validate options probe units = .ok issues) :
    ∀ issue ∈ issues, issue.exitStatus = options.exitStatus := by
  obtain ⟨parts, each, same⟩ := bind_eq_ok.mp validated
  cases same
  intro issue mem
  obtain ⟨part, among, inside⟩ := List.mem_flatten.mp mem
  obtain ⟨unit, -, found⟩ := exists_of_mem_mapM each among
  simp only [Boundary.validateUnit, bind, Except.bind, pure, Except.pure] at found
  repeat' split at found
  all_goals cases found
  any_goals cases inside
  obtain ⟨violation, -, rfl⟩ := List.mem_map.mp inside
  rfl

theorem status_le_of_checkFile [Host] (bounded : engine.Bounded) {outcome : Option SourceUnit × List Issue}
    (checked : checkFile engine probe path source = .ok outcome) :
    ∀ issue ∈ outcome.2, issue.exitStatus ≤ highestStatus := by
  rw [checkFile_eq] at checked
  split at checked
  · cases checked
  · next cause line _ =>
    obtain ⟨issues, found, same⟩ := bind_eq_ok.mp checked
    cases same
    have refused := mapError_eq_ok.mp found
    unfold refusalIssues at refused
    split at refused
    · obtain ⟨issue, made, same⟩ := bind_eq_ok.mp refused
      cases same
      intro other mem
      rw [List.mem_singleton.mp mem, status_of_parseIssue made]
      exact getD_status_le bounded.parseError (by decide)
    · cases refused
      simp
  · next unit _ =>
    obtain ⟨issues, found, same⟩ := bind_eq_ok.mp checked
    cases same
    obtain ⟨parts, applied, same⟩ := bind_eq_ok.mp (mapError_eq_ok.mp found)
    cases same
    intro issue mem
    obtain ⟨part, among, inside⟩ := List.mem_flatten.mp mem
    obtain ⟨active, listed, given⟩ := exists_of_mem_mapM applied among
    rw [status_of_applyRule given issue inside]
    exact bounded.rules active listed

theorem status_le_of_checkGraph (bounded : engine.Bounded) {units : List SourceUnit} {issues : List Issue}
    (validated : checkGraph engine probe units = .ok issues) : ∀ issue ∈ issues, issue.exitStatus ≤ highestStatus := by
  unfold checkGraph at validated
  split at validated
  · cases validated
    simp
  · next options same =>
    intro issue mem
    rw [status_of_validate (mapError_eq_ok.mp validated) issue mem]
    exact bounded.graph options same

/-- Whatever a file gives to a run has a status that fits into a byte. -/
theorem status_le_of_share [Host] (bounded : engine.Bounded) {file : String × String} {given : List Issue × List Issue}
    (shared : share engine probe file = .ok given) :
    ∀ issue ∈ given.1 ++ given.2, issue.exitStatus ≤ highestStatus := by
  obtain ⟨outcome, checked⟩ := checkFile_of_share shared
  obtain ⟨found, boundary⟩ := (share_eq_ok_iff file checked).mp shared
  intro issue mem
  rcases List.mem_append.mp mem with inside | beyond
  · exact status_le_of_checkFile bounded checked issue (found ▸ inside)
  · exact status_le_of_checkGraph bounded boundary issue beyond

theorem status_le_of_run [Host] (bounded : engine.Bounded) {files : List (String × String)} {result : LintResult}
    (finished : run engine probe files = .ok result) : ∀ issue ∈ result.issues, issue.exitStatus ≤ highestStatus := by
  obtain ⟨shares, shared, rfl⟩ := run_eq_ok_iff.mp finished
  intro issue reported
  have among : issue ∈ allIssues shares := (Issue.sort_perm _).mem_iff.mp reported
  have own : ∃ given ∈ shares, issue ∈ given.1 ++ given.2 := by
    rcases List.mem_append.mp among with inside | beyond
    · obtain ⟨given, member, found⟩ := List.mem_flatMap.mp inside
      exact ⟨given, member, List.mem_append_left _ found⟩
    · obtain ⟨given, member, found⟩ := List.mem_flatMap.mp beyond
      exact ⟨given, member, List.mem_append_right _ found⟩
  obtain ⟨given, member, found⟩ := own
  obtain ⟨file, -, gives⟩ := exists_of_mem_mapM shared member
  exact status_le_of_share bounded gives issue found

theorem exitStatus_of_run [Host] {files : List (String × String)} {result : LintResult}
    (finished : run engine probe files = .ok result) :
    result.exitStatus = Issue.worstStatus engine.minSeverity result.issues := by
  obtain ⟨shares, -, rfl⟩ := run_eq_ok_iff.mp finished
  rfl

theorem run_threshold [Host] {files : List (String × String)} {result : LintResult} (threshold : Severity)
    (finished : run engine probe files = .ok result) :
    run { engine with minSeverity := threshold } probe files =
      .ok { result with exitStatus := Issue.worstStatus threshold result.issues } := by
  obtain ⟨shares, shared, rfl⟩ := run_eq_ok_iff.mp finished
  exact run_eq_ok_iff.mpr ⟨shares, shared, rfl⟩

end Runs

/-- Under a configuration that was accepted, the exit status of a run is the greatest one of the issues that reach
the threshold, and zero if no issue does; it fits into the byte that a process returns; the run passes if and only
if no issue that reaches the threshold has another status than zero. With another threshold the run reports the
same issues, and a higher one never gives a larger exit status. -/
theorem run_exitStatus [Host] {config : Config} {engine : Engine} {probe : Probe} {files : List (String × String)}
    {result : LintResult} (accepted : config.Accepted) (made : Engine.ofConfig config = .ok engine)
    (finished : run engine probe files = .ok result) :
    ((∃ issue ∈ result.issues, issue.severity.atLeast config.minSeverity = true) →
      IsGreatest {status | ∃ issue ∈ result.issues, issue.severity.atLeast config.minSeverity = true ∧
        issue.exitStatus = status} result.exitStatus) ∧
    ((∀ issue ∈ result.issues, issue.severity.atLeast config.minSeverity = false) → result.exitStatus = 0) ∧
    result.exitStatus ≤ 255 ∧ result.exitStatus % 256 = result.exitStatus ∧
    (result.passed = true ↔
      ∀ issue ∈ result.issues, issue.severity.atLeast config.minSeverity = true → issue.exitStatus = 0) ∧
    ∀ threshold, ∃ changed other, Engine.ofConfig { config with minSeverity := threshold } = .ok changed ∧
      run changed probe files = .ok other ∧ other.issues = result.issues ∧
      (config.minSeverity.rank ≤ threshold.rank → other.exitStatus ≤ result.exitStatus) ∧
      (threshold.rank ≤ config.minSeverity.rank → result.exitStatus ≤ other.exitStatus) := by
  have worst : result.exitStatus = Issue.worstStatus config.minSeverity result.issues := by
    rw [exitStatus_of_run finished, (ofConfig_threshold .low made).1]
  have small : result.exitStatus ≤ 255 := by
    rw [worst]
    apply Issue.worstStatus_le_iff.mpr
    intro issue mem _
    exact status_le_of_run (bounded_of_config accepted.bounded made) finished issue mem
  refine ⟨?_, ?_, small, Nat.mod_eq_of_lt (Nat.lt_succ_of_le small), ?_, ?_⟩
  · intro counted
    rw [worst]
    constructor
    · exact Issue.exists_worstStatus counted
    · intro status member
      obtain ⟨issue, mem, counts, same⟩ := member
      rw [← same]
      exact Issue.le_worstStatus mem counts
  · intro uncounted
    rw [worst]
    apply Issue.worstStatus_eq_zero_iff.mpr
    intro issue mem counts
    rw [uncounted issue mem] at counts
    cases counts
  · rw [← Issue.worstStatus_eq_zero_iff, ← worst]
    exact decide_eq_true_iff
  · intro threshold
    refine ⟨_, _, (ofConfig_threshold threshold made).2, run_threshold threshold finished, rfl, ?_, ?_⟩
    · intro order
      rw [worst]
      exact Issue.worstStatus_antitone order result.issues
    · intro order
      rw [worst]
      exact Issue.worstStatus_antitone order result.issues

def mildSettings : RuleConfig := ⟨true, some .low, some 7, []⟩

attribute [local instance] Host.ordinary in
theorem run_exitStatus_order :
    ∃ engine result changed other,
      (Config.default.withRule Rule.parseErrorId mildSettings).Accepted ∧
      Engine.ofConfig (Config.default.withRule Rule.parseErrorId mildSettings) = .ok engine ∧
      run engine .denied [("lib/order.ex", "$")] = .ok result ∧ result.exitStatus = 7 ∧ result.passed = false ∧
      Engine.ofConfig { Config.default.withRule Rule.parseErrorId mildSettings with minSeverity := .higher } =
        .ok changed ∧
      run changed .denied [("lib/order.ex", "$")] = .ok other ∧ other.issues = result.issues ∧
      other.exitStatus ≤ result.exitStatus := by
  have accepted : (Config.default.withRule Rule.parseErrorId mildSettings).Accepted :=
    .withRule _ .default ⟨true, some .low, some 7, [], rfl⟩
  have configured := ofConfig_withRule (fun _ _ _ _ => rfl) mildSettings
  generalize Classifier.defaultClassifier = classifier at configured
  have shared : ∃ issue, share { defaultEngine classifier with parseError := mildSettings } .denied
      ("lib/order.ex", "$") = .ok ([issue], []) ∧ issue.exitStatus = 7 ∧ issue.severity = .low := by
    simp only [share, checkFile, analyze, readTree, parse_dollar, bind, Except.bind]
    exact ⟨_, rfl, rfl, rfl⟩
  obtain ⟨issue, shared, status, severity⟩ := shared
  have finished := run_of_ordered (List.pairwise_singleton _ _) (mapM_eq_ok_iff.mpr (.cons shared .nil))
  have seven : Issue.worstStatus .low (Issue.sort [issue]) = 7 := by
    simp [Issue.worstStatus, Issue.sort, severity, Severity.atLeast, status]
  obtain ⟨-, -, -, -, -, higher⟩ := run_exitStatus accepted configured finished
  obtain ⟨changed, other, made, ran, same, lower, -⟩ := higher .higher
  refine ⟨_, _, changed, other, accepted, configured, finished, seven, ?_, made, ran, same, lower (by decide)⟩
  apply decide_eq_false
  intro zero
  cases seven.symm.trans zero

end Lint

end BoundaryLint
