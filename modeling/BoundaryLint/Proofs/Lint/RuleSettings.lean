import BoundaryLint.Host.Ordinary
import BoundaryLint.Proofs.Lint.IssueLine
import BoundaryLint.Proofs.Lint.Mirroring
import Mathlib

/-!
The settings of one rule. Under two configurations that differ in the settings of one rule, a run differs
in the issues of that rule only: they are missing where the rule is disabled, and where other settings of
it changed they show another severity and exit status.
-/

namespace BoundaryLint

namespace Issue

theorem le_congr {a b c d : Issue} (first : a.key = c.key) (second : b.key = d.key) : a.le b = c.le d := by
  simp only [key, Prod.mk.injEq] at first second
  simp only [le, first, second]

theorem forall₂_sort {alike : Issue → Issue → Prop} (keyed : ∀ a b, alike a b → a.key = b.key)
    {first second : List Issue} (paired : List.Forall₂ alike first second) :
    List.Forall₂ alike (sort first) (sort second) := by
  obtain ⟨long, each⟩ := List.forall₂_iff_zip.mp paired
  have lefts : (first.zip second).map Prod.fst = first := List.map_fst_zip long.le
  have rights : (first.zip second).map Prod.snd = second := List.map_snd_zip long.ge
  have left : ((first.zip second).mergeSort fun a b => a.1.le b.1).map Prod.fst = sort first := by
    have ordered := List.map_mergeSort (r := fun a b => a.1.le b.1) (s := le) (f := Prod.fst) (l := first.zip second)
      fun _ _ _ _ => rfl
    rw [ordered, lefts, sort]
  have right : ((first.zip second).mergeSort fun a b => a.1.le b.1).map Prod.snd = sort second := by
    rw [List.map_mergeSort fun a one b two => le_congr (keyed _ _ (each one)) (keyed _ _ (each two)), rights, sort]
  rw [← left, ← right, List.forall₂_map_left_iff, List.forall₂_map_right_iff, List.forall₂_same]
  intro pair mem
  exact each (List.mem_mergeSort.mp mem)

def AlikeBut (id : String) (first second : Issue) : Prop :=
  second = { first with severity := second.severity, exitStatus := second.exitStatus } ∧
    (first.ruleId ≠ id → second = first)

theorem AlikeBut.refl (id : String) (issue : Issue) : issue.AlikeBut id issue := ⟨rfl, fun _ => rfl⟩

theorem AlikeBut.key_eq {id : String} {first second : Issue} (alike : first.AlikeBut id second) :
    first.key = second.key := by
  rw [alike.1]
  rfl

theorem forall₂_alikeBut_refl (id : String) (issues : List Issue) : List.Forall₂ (AlikeBut id) issues issues :=
  List.forall₂_same.mpr fun issue _ => AlikeBut.refl id issue

end Issue

theorem forall₂_of_common {α β γ : Type} {left : α → β → Prop} {right : α → γ → Prop} {both : β → γ → Prop}
    {items : List α} {first : List β} {second : List γ} (one : List.Forall₂ left items first)
    (two : List.Forall₂ right items second) (fits : ∀ item a b, left item a → right item b → both a b) :
    List.Forall₂ both first second := by
  induction one generalizing second with
  | nil =>
    cases two
    exact .nil
  | cons head tail ih =>
    cases two with
    | cons other others => exact .cons (fits _ _ _ head other) (ih others)

namespace Config

/-- The configurations agree in all that a run reads but the settings of one rule. -/
structure AgreeBut (id : String) (config other : Config) : Prop where
  layerPatterns : other.layerPatterns = config.layerPatterns
  minSeverity : other.minSeverity = config.minSeverity
  excludedApps : other.excludedApps = config.excludedApps
  rules : ∀ rule, rule ≠ id → other.rule rule = config.rule rule

theorem lookup_replaceRule (id : String) (settings : RuleConfig) (rules : List (String × RuleConfig))
    (rule : String) :
    (replaceRule id settings rules).lookup rule = if rule = id then some settings else rules.lookup rule := by
  induction rules with
  | nil =>
    by_cases own : rule = id
    · simp [replaceRule, own]
    · simp [replaceRule, List.lookup_cons, own, beq_false_of_ne own]
  | cons head rest ih =>
    obtain ⟨other, kept⟩ := head
    by_cases here : other = id
    · by_cases own : rule = id
      · simp [replaceRule, here, own]
      · simp [replaceRule, here, List.lookup_cons, own, beq_false_of_ne own]
    · by_cases first : rule = other
      · simp [replaceRule, here, first]
      · simp [replaceRule, here, List.lookup_cons, beq_false_of_ne first, ih]

theorem rule_withRule (config : Config) (id : String) (settings : RuleConfig) :
    (config.withRule id settings).rule id = settings := by
  simp [rule, withRule, lookup_replaceRule]

theorem agreeBut_withRule (config : Config) (id : String) (settings : RuleConfig) :
    config.AgreeBut id (config.withRule id settings) where
  layerPatterns := rfl
  minSeverity := rfl
  excludedApps := rfl
  rules rule other := by simp [Config.rule, withRule, lookup_replaceRule, other]

end Config

namespace Lint

def graphIssues (options : Option Boundary.GraphOptions) (probe : Probe) (unit? : Option SourceUnit) :
    Except Fault (List Issue) :=
  match options with
  | none => .ok []
  | some options => (Boundary.validate options probe unit?.toList).mapError .module

def OfRule {ε : Type} (id : String) (x : Except ε (List Issue)) : Prop :=
  ∀ issues, x = .ok issues → ∀ issue ∈ issues, issue.ruleId = id

theorem ofRule_ruleIssues [Host] {active? : Option ActiveRule} {id : String}
    (named : ∀ active ∈ active?, active.rule.id = id) (probe : Probe) (unit : SourceUnit) :
    OfRule id (ruleIssues active?.toList probe unit) := by
  intro issues given
  cases active? with
  | none =>
    cases given
    simp
  | some active =>
    obtain ⟨parts, applied, same⟩ := bind_eq_ok.mp given
    cases same
    intro issue mem
    obtain ⟨part, among, inside⟩ := List.mem_flatten.mp mem
    obtain ⟨other, listed, found⟩ := exists_of_mem_mapM applied among
    cases List.mem_singleton.mp listed
    obtain ⟨verdict, -, checked⟩ := bind_eq_ok.mp found
    split at checked
    · obtain ⟨findings, -, made⟩ := bind_eq_ok.mp checked
      cases made
      obtain ⟨finding, -, rfl⟩ := List.mem_map.mp inside
      exact named active rfl
    · cases checked
      cases inside

theorem ofRule_refusalIssues (settings : RuleConfig) (path : String) (cause : Source.Cause) (line : Nat) :
    OfRule Rule.parseErrorId (refusalIssues settings path cause line) := by
  intro issues given
  unfold refusalIssues at given
  split at given
  · obtain ⟨issue, made, same⟩ := bind_eq_ok.mp given
    cases same
    intro other mem
    cases List.mem_singleton.mp mem
    exact (file_of_parseIssue made).2
  · cases given
    simp

theorem ofRule_graphIssues (options : Option Boundary.GraphOptions) (probe : Probe) (unit? : Option SourceUnit) :
    OfRule Rule.boundaryDepsId (graphIssues options probe unit?) := by
  intro issues given
  cases options with
  | none =>
    cases given
    simp
  | some options =>
    obtain ⟨parts, validated, same⟩ := bind_eq_ok.mp (mapError_eq_ok.mp given)
    cases same
    intro issue mem
    obtain ⟨part, among, inside⟩ := List.mem_flatten.mp mem
    obtain ⟨unit, -, found⟩ := exists_of_mem_mapM validated among
    simp only [Boundary.validateUnit, bind, Except.bind, pure, Except.pure] at found
    repeat' split at found
    all_goals cases found
    any_goals cases inside
    obtain ⟨violation, -, rfl⟩ := List.mem_map.mp inside
    rfl

theorem parts_of_config [Host] {config : Config} {engine : Engine} (made : Engine.ofConfig config = .ok engine) :
    (∃ each, List.Forall₂ (fun rule active => rule.configure (config.rule rule.id) = .ok active) Rule.all each ∧
      engine.rules = each.filterMap id) ∧
    Boundary.GraphOptions.configure config = .ok engine.graph ∧ config.classifier = .ok engine.classifier ∧
    engine.parseError = config.rule Rule.parseErrorId := by
  obtain ⟨rules, configured, later⟩ := bind_eq_ok.mp made
  obtain ⟨graph, bounded, later⟩ := bind_eq_ok.mp later
  obtain ⟨classifier, classified, same⟩ := bind_eq_ok.mp later
  cases same
  refine ⟨?_, bounded, classified, rfl⟩
  unfold Rule.configured at configured
  split at configured
  · cases configured
  · obtain ⟨each, mapped, same⟩ := bind_eq_ok.mp configured
    cases same
    exact ⟨each, mapM_eq_ok_iff.mp mapped, rfl⟩

section Settings

variable {id : String} {config other : Config} {engine changed : Engine}
  {related : List Issue → List Issue → Prop}

/-- Engines mirror each other if the issues of every rule do, under the settings that each has for it. -/
theorem mirrors_of_settings [Host] (congruence : Congruence related) (agree : config.AgreeBut id other)
    (first : Engine.ofConfig config = .ok engine) (second : Engine.ofConfig other = .ok changed)
    (rules : ∀ (rule : Rule) active active', rule.configure (config.rule rule.id) = .ok active →
      rule.configure (other.rule rule.id) = .ok active' → ∀ probe unit,
        Carries related (ruleIssues active.toList probe unit) (ruleIssues active'.toList probe unit))
    (refusals : ∀ path cause line, Carries related (refusalIssues (config.rule Rule.parseErrorId) path cause line)
      (refusalIssues (other.rule Rule.parseErrorId) path cause line))
    (graph : ∀ options options', Boundary.GraphOptions.configure config = .ok options →
      Boundary.GraphOptions.configure other = .ok options' → ∀ probe unit?,
        Carries related (graphIssues options probe unit?) (graphIssues options' probe unit?)) :
    Mirrors related engine changed := by
  obtain ⟨⟨each, configured, active⟩, bounded, classified, settings⟩ := parts_of_config first
  obtain ⟨⟨others, configured', active'⟩, bounded', classified', settings'⟩ := parts_of_config second
  constructor
  · have same : other.classifier = config.classifier := by
      unfold Config.classifier
      rw [agree.layerPatterns]
    rw [same] at classified'
    exact Except.ok.inj (classified'.symm.trans classified)
  · intro path cause line
    rw [settings, settings']
    exact refusals path cause line
  · rw [active, active']
    apply congruence.ruleIssues
    exact forall₂_of_common configured configured' rules
  · exact graph _ _ bounded bounded'

def Lacks (id : String) (first second : List Issue) : Prop := second = first.filter (·.ruleId ≠ id)

theorem congruence_lacks (id : String) : Congruence (Lacks id) where
  nil := rfl
  append := by
    intro a b c d first second
    rw [Lacks, first, second, List.filter_append]
  sort := by
    intro a b same
    rw [Lacks, same, Issue.filter_sort]

theorem carries_lacks_nil {ε : Type} {x : Except ε (List Issue)} (own : OfRule id x) :
    Carries (Lacks id) x (.ok [] : Except ε (List Issue)) := by
  intro issues given
  have none : issues.filter (·.ruleId ≠ id) = [] := by
    rw [List.filter_eq_nil_iff]
    intro issue mem
    simp [own issues given issue mem]
  exact ⟨[], rfl, none.symm⟩

theorem carries_lacks_self {ε : Type} {x : Except ε (List Issue)} {rule : String} (foreign : OfRule rule x)
    (apart : rule ≠ id) : Carries (Lacks id) x x := by
  intro issues given
  have all : issues.filter (·.ruleId ≠ id) = issues := by
    rw [List.filter_eq_self]
    intro issue mem
    simp [foreign issues given issue mem, apart]
  exact ⟨issues, given, all.symm⟩

theorem id_of_configure {rule : Rule} {settings : RuleConfig} {active? : Option ActiveRule}
    (configured : rule.configure settings = .ok active?) : ∀ active ∈ active?, active.rule.id = rule.id := by
  intro active same
  cases same
  rw [rule_of_configure configured]

theorem configure_disabled (rule : Rule) {settings : RuleConfig} (disabled : settings.enabled = false) :
    rule.configure settings = .ok none := by
  rw [Rule.configure, disabled]
  rfl

theorem refusalIssues_disabled {settings : RuleConfig} (disabled : settings.enabled = false) (path : String)
    (cause : Source.Cause) (line : Nat) : refusalIssues settings path cause line = .ok [] := by
  rw [refusalIssues, disabled]
  rfl

theorem graph_disabled [Host] (disabled : (config.rule Rule.boundaryDepsId).enabled = false) :
    Boundary.GraphOptions.configure config = .ok none := by
  rw [Boundary.GraphOptions.configure, disabled]
  rfl

theorem graph_of_agree [Host] (agree : config.AgreeBut id other) (apart : Rule.boundaryDepsId ≠ id) :
    Boundary.GraphOptions.configure other = Boundary.GraphOptions.configure config := by
  unfold Boundary.GraphOptions.configure
  rw [agree.rules _ apart, agree.excludedApps]

/-- Without a rule, a run reports what it reports with it, but for the issues of the rule. -/
theorem mirrors_of_disabled [Host] (agree : config.AgreeBut id other) (first : Engine.ofConfig config = .ok engine)
    (second : Engine.ofConfig other = .ok changed) (disabled : (other.rule id).enabled = false) :
    Mirrors (Lacks id) engine changed := by
  apply mirrors_of_settings (congruence_lacks id) agree first second
  · intro rule active active' configured configured' probe unit
    have named := ofRule_ruleIssues (id_of_configure configured) probe unit
    by_cases own : rule.id = id
    · subst own
      rw [configure_disabled rule disabled] at configured'
      cases configured'
      exact carries_lacks_nil named
    · rw [agree.rules _ own, configured] at configured'
      cases configured'
      exact carries_lacks_self named own
  · intro path cause line
    have named := ofRule_refusalIssues (config.rule Rule.parseErrorId) path cause line
    by_cases own : Rule.parseErrorId = id
    · subst own
      rw [refusalIssues_disabled disabled]
      exact carries_lacks_nil named
    · rw [agree.rules _ own]
      exact carries_lacks_self named own
  · intro options options' bounded bounded' probe unit?
    have named := ofRule_graphIssues options probe unit?
    by_cases own : Rule.boundaryDepsId = id
    · subst own
      rw [graph_disabled disabled] at bounded'
      cases bounded'
      exact carries_lacks_nil named
    · rw [graph_of_agree agree own, bounded] at bounded'
      cases bounded'
      exact carries_lacks_self named own

abbrev Restyles (id : String) : List Issue → List Issue → Prop := List.Forall₂ (Issue.AlikeBut id)

theorem congruence_restyles (id : String) : Congruence (Restyles id) where
  nil := .nil
  append first second := List.rel_append first second
  sort := Issue.forall₂_sort fun _ _ => Issue.AlikeBut.key_eq

theorem carries_restyles_self {ε : Type} (id : String) (x : Except ε (List Issue)) : Carries (Restyles id) x x := by
  intro issues given
  exact ⟨issues, given, Issue.forall₂_alikeBut_refl id issues⟩

theorem restyles_map {α : Type} {items : List α} {f g : α → Issue}
    (each : ∀ item, (f item).AlikeBut id (g item)) : Restyles id (items.map f) (items.map g) := by
  rw [Restyles, List.forall₂_map_left_iff, List.forall₂_map_right_iff, List.forall₂_same]
  intro item mem
  exact each item

theorem options_of_activate {rule : Rule} {severity : Option Severity} {status : Option Nat}
    {values : List (String × Value)} {active : ActiveRule}
    (activated : rule.activate severity status values = .ok active) :
    active.rule = rule ∧ Options.configure rule.defaults values = .ok active.options := by
  obtain ⟨options, configured, later⟩ := bind_eq_ok.mp activated
  obtain ⟨_, -, same⟩ := bind_eq_ok.mp later
  cases same
  exact ⟨rfl, mapError_eq_ok.mp configured⟩

/-- Rules that agree in all but severity and exit status find the same. -/
theorem carries_applyRule [Host] {active active' : ActiveRule} (rule : active'.rule = active.rule)
    (options : active'.options = active.options) (probe : Probe) (unit : SourceUnit) :
    Carries (Restyles active.rule.id) (applyRule probe unit active) (applyRule probe unit active') := by
  have applicable : active'.applicable unit = active.applicable unit := by
    rw [ActiveRule.applicable, ActiveRule.applicable, rule, options]
  have inspected : active'.rule.inspect ⟨unit, probe, active'.options⟩ =
      active.rule.inspect ⟨unit, probe, active.options⟩ := by rw [rule, options]
  unfold applyRule
  rw [applicable]
  apply (Carries.self _).bind
  intro verdict _ same
  subst same
  split
  · unfold ActiveRule.check
    rw [inspected]
    apply (Carries.self _).bind
    intro findings _ same
    subst same
    apply Carries.ok
    apply restyles_map
    intro finding
    constructor
    · simp only [ActiveRule.issue, rule]
    · intro foreign
      exact absurd rfl foreign
  · exact .ok .nil

theorem carries_ruleIssues [Host] {rule : Rule} {settings settings' : RuleConfig} {active? active'? : Option ActiveRule}
    (enabled : settings'.enabled = settings.enabled) (options : settings'.options = settings.options)
    (configured : rule.configure settings = .ok active?) (configured' : rule.configure settings' = .ok active'?)
    (probe : Probe) (unit : SourceUnit) :
    Carries (Restyles rule.id) (ruleIssues active?.toList probe unit) (ruleIssues active'?.toList probe unit) := by
  unfold Rule.configure at configured configured'
  rw [enabled] at configured'
  split at configured
  · next wanted =>
    rw [if_pos wanted] at configured'
    obtain ⟨active, made, same⟩ := bind_eq_ok.mp configured
    obtain ⟨active', made', same'⟩ := bind_eq_ok.mp configured'
    cases same
    cases same'
    obtain ⟨named, given⟩ := options_of_activate made
    obtain ⟨named', given'⟩ := options_of_activate made'
    have equal : active'.options = active.options := by
      rw [options, given] at given'
      exact (Except.ok.inj given').symm
    rw [Option.toList_some, Option.toList_some, ruleIssues_singleton, ruleIssues_singleton, ← named]
    exact carries_applyRule (named'.trans named.symm) equal probe unit
  · next unwanted =>
    rw [if_neg unwanted] at configured'
    cases configured
    cases configured'
    exact carries_restyles_self _ _

theorem carries_parseIssue (settings settings' : RuleConfig) (path : String) (cause : Source.Cause) (line : Nat) :
    Carries (Issue.AlikeBut Rule.parseErrorId) (parseIssue settings path cause line)
      (parseIssue settings' path cause line) := by
  intro issue given
  have positive : ¬ ((settings'.exitStatus.getD Category.warning.exitStatus : Nat) : Int) < 0 := by omega
  unfold parseIssue Issue.make at given ⊢
  split at given
  · cases given
  next named =>
  split at given
  · cases given
  next worded =>
  split at given
  · cases given
  next placed =>
  split at given
  · cases given
  next lined =>
  split at given
  · cases given
  cases given
  rw [if_neg named, if_neg worded, if_neg placed, if_neg lined, if_neg positive]
  refine ⟨_, rfl, rfl, ?_⟩
  intro foreign
  exact absurd rfl foreign

theorem carries_refusalIssues {settings settings' : RuleConfig} (enabled : settings'.enabled = settings.enabled)
    (path : String) (cause : Source.Cause) (line : Nat) :
    Carries (Restyles Rule.parseErrorId) (refusalIssues settings path cause line)
      (refusalIssues settings' path cause line) := by
  unfold refusalIssues
  rw [enabled]
  split
  · apply (carries_parseIssue settings settings' path cause line).bind
    intro issue other alike
    exact .ok (.cons alike .nil)
  · exact .ok .nil

/-- Severity and exit status of the options show in the issues and nowhere else. -/
theorem carries_validateUnit (options : Boundary.GraphOptions) (severity : Severity) (status : Nat) (probe : Probe)
    (unit : SourceUnit) :
    Carries (Restyles Rule.boundaryDepsId) (Boundary.validateUnit options probe unit)
      (Boundary.validateUnit { options with severity := severity, exitStatus := status } probe unit) := by
  unfold Boundary.validateUnit
  cases unit.declaration with
  | none => exact .ok .nil
  | some declaration =>
    by_cases scope : Boundary.inScope options unit.path = true
    · have scope' : Boundary.inScope { options with severity := severity, exitStatus := status } unit.path = true :=
        scope
      simp only [scope, scope', if_true]
      apply (Carries.self _).bind
      intro found _ same
      subst same
      cases found with
      | none => exact .ok .nil
      | some context =>
        dsimp only
        split
        · apply Carries.ok
          apply restyles_map
          intro violation
          refine ⟨rfl, ?_⟩
          intro foreign
          exact absurd rfl foreign
        · exact .ok .nil
    · have scope' : ¬ Boundary.inScope { options with severity := severity, exitStatus := status } unit.path = true :=
        scope
      simp only [scope, scope', Bool.false_eq_true, if_false]
      exact .ok .nil

theorem graph_restyled [Host] (agree : config.AgreeBut id other)
    (enabled : (other.rule Rule.boundaryDepsId).enabled = (config.rule Rule.boundaryDepsId).enabled)
    (options : (other.rule Rule.boundaryDepsId).options = (config.rule Rule.boundaryDepsId).options) :
    ∃ severity status, Boundary.GraphOptions.configure other = (Boundary.GraphOptions.configure config).map
      (Option.map fun found => { found with severity := severity, exitStatus := status }) := by
  refine ⟨(other.rule Rule.boundaryDepsId).severity.getD .higher,
    (other.rule Rule.boundaryDepsId).exitStatus.getD 2, ?_⟩
  unfold Boundary.GraphOptions.configure
  dsimp only
  rw [enabled, options, agree.excludedApps]
  split
  · rfl
  split
  · rfl
  cases Boundary.readGraphOption (config.rule Rule.boundaryDepsId).options "ignored_deps" [] with
  | error fault => rfl
  | ok ignored =>
    cases Boundary.readGraphOption (config.rule Rule.boundaryDepsId).options "skip_suffixes" ["_web", "_tools"] with
    | error fault => rfl
    | ok suffixes => rfl

theorem carries_graphIssues (options : Option Boundary.GraphOptions) (severity : Severity) (status : Nat)
    (probe : Probe) (unit? : Option SourceUnit) :
    Carries (Restyles Rule.boundaryDepsId) (graphIssues options probe unit?)
      (graphIssues (options.map fun found => { found with severity := severity, exitStatus := status }) probe
        unit?) := by
  cases options with
  | none => exact .ok .nil
  | some options =>
    apply Carries.mapError
    cases unit? with
    | none => exact .ok .nil
    | some unit =>
      rw [Option.toList_some, Boundary.validate_singleton, Boundary.validate_singleton]
      exact carries_validateUnit options severity status probe unit

/-- Under another severity and exit status of a rule, a run reports the same issues, and only those of the rule
show the difference. -/
theorem mirrors_of_restyled [Host] (agree : config.AgreeBut id other) (first : Engine.ofConfig config = .ok engine)
    (second : Engine.ofConfig other = .ok changed) (enabled : (other.rule id).enabled = (config.rule id).enabled)
    (options : (other.rule id).options = (config.rule id).options) : Mirrors (Restyles id) engine changed := by
  apply mirrors_of_settings (congruence_restyles id) agree first second
  · intro rule active active' configured configured' probe unit
    by_cases own : rule.id = id
    · subst own
      exact carries_ruleIssues enabled options configured configured' probe unit
    · rw [agree.rules _ own, configured] at configured'
      cases configured'
      exact carries_restyles_self id _
  · intro path cause line
    by_cases own : Rule.parseErrorId = id
    · subst own
      exact carries_refusalIssues enabled path cause line
    · rw [agree.rules _ own]
      exact carries_restyles_self id _
  · intro found found' bounded bounded' probe unit?
    by_cases own : Rule.boundaryDepsId = id
    · subst own
      obtain ⟨severity, status, restyled⟩ := graph_restyled agree enabled options
      rw [restyled, bounded] at bounded'
      cases bounded'
      exact carries_graphIssues found severity status probe unit?
    · rw [graph_of_agree agree own, bounded] at bounded'
      cases bounded'
      exact carries_restyles_self id _

/-- Rules are configured apart. Where two configurations differ in the settings of one rule only, a run under the
one that disables the rule reports what the other reports, in the same order, without the issues of the rule; and
if they differ in severity and exit status of the rule, the reports agree issue by issue but for these two fields
of the issues of the rule. -/
theorem run_reconfigured [Host] (agree : config.AgreeBut id other) (first : Engine.ofConfig config = .ok engine)
    (second : Engine.ofConfig other = .ok changed) {probe : Probe} {files : List (String × String)}
    {result : LintResult} (finished : run engine probe files = .ok result) :
    ((other.rule id).enabled = false → ∃ fewer, run changed probe files = .ok fewer ∧
      fewer.issues = result.issues.filter (·.ruleId ≠ id) ∧ fewer.filesChecked = result.filesChecked) ∧
    ((other.rule id).enabled = (config.rule id).enabled → (other.rule id).options = (config.rule id).options →
      ∃ restyled, run changed probe files = .ok restyled ∧
        List.Forall₂ (Issue.AlikeBut id) result.issues restyled.issues ∧
        restyled.filesChecked = result.filesChecked) := by
  constructor
  · intro disabled
    exact (mirrors_of_disabled agree first second disabled).run (congruence_lacks id) probe files result finished
  · intro enabled options
    have mirrors := mirrors_of_restyled agree first second enabled options
    exact mirrors.run (congruence_restyles id) probe files result finished

end Settings

theorem ofConfig_withRule [Host] (usual : Classifier.ReadsDefaults Host.pattern) (settings : RuleConfig) :
    Engine.ofConfig (Config.default.withRule Rule.parseErrorId settings) =
      .ok { defaultEngine .defaultClassifier with parseError := settings } := by
  have agree := Config.default.agreeBut_withRule Rule.parseErrorId settings
  obtain ⟨-, bounded, classified, -⟩ := parts_of_config (ofConfig_default usual)
  have rules : Rule.configured (Config.default.withRule Rule.parseErrorId settings) =
      .ok (Rule.all.map Rule.default) := by
    have known : Rule.unknownId? (Config.default.withRule Rule.parseErrorId settings) = none := rfl
    have foreign : ∀ rule ∈ Rule.all, rule.id ≠ Rule.parseErrorId := by decide
    have each : Rule.all.mapM (fun rule =>
        rule.configure ((Config.default.withRule Rule.parseErrorId settings).rule rule.id)) =
          .ok (Rule.all.map fun rule => some rule.default) := by
      rw [mapM_eq_ok_iff, List.forall₂_map_right_iff, List.forall₂_same]
      intro rule mem
      rw [agree.rules _ (foreign rule mem)]
      exact Rule.configure_default (Rule.judges_all rule mem)
    simp only [Rule.configured, known, each, bind, Except.bind]
    rw [List.filterMap_map]
    simp [pure, Except.pure]
  have graph : Boundary.GraphOptions.configure (Config.default.withRule Rule.parseErrorId settings) =
      .ok (some {}) := by
    rw [graph_of_agree agree (by decide)]
    exact bounded
  have same : (Config.default.withRule Rule.parseErrorId settings).classifier = .ok .defaultClassifier :=
    classified
  simp only [Engine.ofConfig, rules, graph, same, Config.rule_withRule]
  rfl

attribute [local instance] Host.ordinary in
theorem run_reconfigured_order :
    ∃ engine quiet mild result fewer restyled, Engine.ofConfig Config.default = .ok engine ∧
      Engine.ofConfig (Config.default.withRule Rule.parseErrorId ⟨false, none, none, []⟩) = .ok quiet ∧
      Engine.ofConfig (Config.default.withRule Rule.parseErrorId ⟨true, some .low, some 0, []⟩) = .ok mild ∧
      run engine .denied [("lib/order.ex", "$")] = .ok result ∧
      result.issues = [refusalIssue "lib/order.ex" (.unexpectedCharacter '$') 1] ∧
      run quiet .denied [("lib/order.ex", "$")] = .ok fewer ∧ fewer.issues = [] ∧
      run mild .denied [("lib/order.ex", "$")] = .ok restyled ∧
      List.Forall₂ (Issue.AlikeBut Rule.parseErrorId) result.issues restyled.issues := by
  have usual : Classifier.ReadsDefaults Host.pattern := fun _ _ _ _ => rfl
  have configured := ofConfig_default usual
  have quiet := ofConfig_withRule usual ⟨false, none, none, []⟩
  have mild := ofConfig_withRule usual ⟨true, some .low, some 0, []⟩
  generalize Classifier.defaultClassifier = classifier at configured quiet mild
  have shared : share (defaultEngine classifier) .denied ("lib/order.ex", "$") =
      .ok ([refusalIssue "lib/order.ex" (.unexpectedCharacter '$') 1], []) :=
    share_default_of_refused (by decide) parse_dollar
  have finished := run_of_ordered (List.pairwise_singleton _ _) (mapM_eq_ok_iff.mpr (.cons shared .nil))
  obtain ⟨without, -⟩ := run_reconfigured (Config.default.agreeBut_withRule _ _) configured quiet finished
  obtain ⟨-, instead⟩ := run_reconfigured (Config.default.agreeBut_withRule _ _) configured mild finished
  obtain ⟨fewer, ran, left, -⟩ := without (by rw [Config.rule_withRule])
  obtain ⟨restyled, ran', alike, -⟩ := instead (by rw [Config.rule_withRule]; rfl) (by rw [Config.rule_withRule]; rfl)
  refine ⟨_, _, _, _, fewer, restyled, configured, quiet, mild, finished, ?_, ran, ?_, ran', alike⟩
  · simp [gather, allIssues, LintResult.ofIssues, Issue.sort]
  · rw [left]
    simp [gather, allIssues, LintResult.ofIssues, Issue.sort, refusalIssue]

end Lint

end BoundaryLint
