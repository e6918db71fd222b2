import BoundaryLint.Host.Ordinary
import BoundaryLint.Proofs.Lint.Refusal
import BoundaryLint.Proofs.Lint.RuleSettings
import BoundaryLint.Proofs.Rule.Configured
import Mathlib

/-!
Options are checked before any file is read. A configuration that sets what is no option of a rule, or an
option to a value of another kind, is refused, and a run under an accepted one stops for reasons that lie in
the files. There are three gaps: the rule about files that cannot be read takes any options, the check of the
boundaries takes lists of anything, and templates of paths are first looked at when they are filled in.
-/

namespace BoundaryLint

namespace Rule

def defaultsOf (id : String) : List (String × Value) :=
  if id = boundaryDepsId then [("ignored_deps", textList []), ("skip_suffixes", textList ["_web", "_tools"])]
  else ((all.find? (·.id = id)).map (·.defaults)).getD []

def Misfits (id key : String) (value : Value) : Prop :=
  ∀ default, (defaultsOf id).lookup key = some default → ¬default.IsLike value

theorem eq_of_id {rule other : Rule} (mem : rule ∈ all) (among : other ∈ all) (same : rule.id = other.id) :
    rule = other := by
  have distinct : (all.map (·.id)).Nodup := by decide
  exact List.inj_on_of_nodup_map distinct mem among same

theorem defaultsOf_id {rule : Rule} (mem : rule ∈ all) : defaultsOf rule.id = rule.defaults := by
  have foreign : ∀ rule ∈ all, rule.id ≠ boundaryDepsId := by decide
  rw [defaultsOf, if_neg (foreign rule mem)]
  cases found : all.find? (·.id = rule.id) with
  | none => simpa using List.find?_eq_none.mp found rule mem
  | some other =>
    have same : other.id = rule.id := by simpa using List.find?_some found
    rw [eq_of_id (List.mem_of_find?_eq_some found) mem same]
    rfl

variable {rule : Rule} {settings : RuleConfig} {active : ActiveRule}

/-- A rule that is configured keeps the options of its settings. -/
theorem keeps_of_configure (configured : rule.configure settings = .ok (some active)) :
    active.rule = rule ∧ active.options.Keeps rule.defaults settings.options := by
  unfold configure at configured
  split at configured
  · obtain ⟨made, activated, same⟩ := bind_eq_ok.mp configured
    cases same
    obtain ⟨named, given⟩ := Lint.options_of_activate activated
    exact ⟨named, Options.keeps_configure given⟩
  · cases configured

theorem like_of_configure (enabled : settings.enabled = true) (configured : Succeeds (rule.configure settings))
    {key : String} {value : Value} (given : settings.options.lookup key = some value) :
    ∃ default, rule.defaults.lookup key = some default ∧ default.IsLike value := by
  obtain ⟨active?, made⟩ := configured
  rw [configure, if_pos enabled] at made
  obtain ⟨active, activated, -⟩ := bind_eq_ok.mp made
  have accepted := (Lint.options_of_activate activated).2
  exact Options.override_succeeds_iff.mp ⟨active.options, accepted⟩ _ (mem_of_lookup given)

end Rule

namespace Boundary

theorem list_of_readGraphOption [Host] {values : List (String × Value)} {key : String} {default texts : List String}
    (read : readGraphOption values key default = .ok texts) {value : Value} (given : values.lookup key = some value) :
    ∃ items, value = .list items ∨ value = .tuple items := by
  unfold readGraphOption at read
  rw [given] at read
  cases value with
  | list items => exact ⟨items, .inl rfl⟩
  | tuple items => exact ⟨items, .inr rfl⟩
  | _ => cases read

theorem known_of_sorted {keys : List String}
    (none : (keys.filter (!graphOptionKeys.contains ·)).mergeSort.head? = none) {key : String} (mem : key ∈ keys) :
    key ∈ graphOptionKeys := by
  by_contra unknown
  have found : key ∈ (keys.filter (!graphOptionKeys.contains ·)).mergeSort := by
    rw [List.mem_mergeSort, List.mem_filter]
    exact ⟨mem, by simpa using unknown⟩
  rw [List.head?_eq_none_iff.mp none] at found
  cases found

/-- The check of the boundaries takes its own options only, and lists and tuples only. -/
theorem list_of_configure [Host] {config : Config} (enabled : (config.rule Rule.boundaryDepsId).enabled = true)
    (configured : Succeeds (GraphOptions.configure config)) {key : String} {value : Value}
    (given : (config.rule Rule.boundaryDepsId).options.lookup key = some value) :
    key ∈ graphOptionKeys ∧ ∃ items, value = .list items ∨ value = .tuple items := by
  obtain ⟨options, made⟩ := configured
  unfold GraphOptions.configure at made
  simp only [enabled, Bool.not_true, Bool.false_eq_true, if_false] at made
  split at made
  · cases made
  next known =>
  obtain ⟨ignored, first, later⟩ := bind_eq_ok.mp made
  obtain ⟨suffixes, second, -⟩ := bind_eq_ok.mp later
  have own : key ∈ graphOptionKeys := known_of_sorted known (List.mem_map_of_mem (mem_of_lookup given))
  refine ⟨own, ?_⟩
  rcases List.mem_cons.mp own with rfl | other
  · exact list_of_readGraphOption first given
  · cases List.mem_singleton.mp other
    exact list_of_readGraphOption second given

/-- What the check of a file stops at is the name of a module of the file, whatever the options are. -/
theorem resolve_of_validateUnit {options : GraphOptions} {probe : Probe} {unit : SourceUnit} {fault : ModuleRef.Fault}
    (failed : validateUnit options probe unit = .error fault) :
    ∃ declaration, unit.declaration = some declaration ∧ resolve unit declaration.module = .error fault := by
  unfold validateUnit at failed
  split at failed
  · cases failed
  next declaration declared =>
  refine ⟨declaration, declared, ?_⟩
  split at failed
  · cases resolved : resolve unit declaration.module with
    | error reason =>
      rw [resolved] at failed
      cases failed
      rfl
    | ok context? =>
      simp only [resolved, bind, Except.bind] at failed
      repeat' split at failed
      all_goals cases failed
  · cases failed

end Boundary

namespace Lint

variable {config : Config} {engine : Engine} {probe : Probe}

theorem configure_of_mem [Host] (made : Engine.ofConfig config = .ok engine) {active : ActiveRule}
    (mem : active ∈ engine.rules) :
    ∃ rule ∈ Rule.all, rule.configure (config.rule rule.id) = .ok (some active) := by
  obtain ⟨⟨each, configured, same⟩, -⟩ := parts_of_config made
  rw [same, List.mem_filterMap] at mem
  obtain ⟨active?, among, rfl⟩ := mem
  exact exists_of_mem_mapM (mapM_eq_ok_iff.mpr configured) among

theorem expand_default [Host] {template : String}
    (mem : template ∈ ["\x7bcontext\x7d/queries.ex", "\x7bcontext\x7d/infrastructure/queries"]) (context : String) :
    Succeeds (Template.expand template context) := by
  rcases List.mem_cons.mp mem with rfl | later
  · exact Template.expand_succeeds (by decide) (by decide) context
  · cases List.mem_singleton.mp later
    exact Template.expand_succeeds (by decide) (by decide) context

/-- A template for query modules is configured, and the context of a file cannot be filled in. -/
def BadTemplate [Host] (config : Config) (path : String) (fault : RuleFault) : Prop :=
  ∃ (value : Value) (templates : List String), ("queries_paths", value) ∈ (config.rule Rule.missingQueriesModule.id).options ∧
    value.items? = some (templates.map .text) ∧ ∃ template ∈ templates, ∃ reason,
      Template.expand template (Text.dropEnding (Path.basename path) ".ex") = .error reason ∧ fault = .template reason

theorem badTemplate_of_unfilled [Host] {options : Options} {unit : SourceUnit} {fault : RuleFault}
    (keeps : options.Keeps Rule.missingQueriesModule.defaults (config.rule Rule.missingQueriesModule.id).options)
    (unfilled : Rule.missingQueriesModule.Unfilled options unit fault) : BadTemplate config unit.path fault := by
  obtain ⟨-, templates, read, template, mem, reason, failed, same⟩ := unfilled
  have known : Rule.missingQueriesModule.defaults.lookup "queries_paths" = some (Rule.textList
      ["\x7bcontext\x7d/queries.ex", "\x7bcontext\x7d/infrastructure/queries"]) := rfl
  obtain ⟨texts, again, origin⟩ := keeps.strings known
  rw [read, Except.ok.injEq] at again
  subst again
  obtain rfl | ⟨value, given, held⟩ := origin
  · obtain ⟨text, filled⟩ := expand_default mem (Rule.contextName unit)
    rw [failed] at filled
    cases filled
  · exact ⟨value, templates, given, held, template, mem, reason, failed, same⟩

/-- A rule whose options are accepted stops at nothing but a template that was configured. -/
theorem badTemplate_of_applyRule [Host] (made : Engine.ofConfig config = .ok engine) {active : ActiveRule}
    (mem : active ∈ engine.rules) {unit : SourceUnit} {fault : RuleFault}
    (failed : applyRule probe unit active = .error fault) : BadTemplate config unit.path fault := by
  obtain ⟨rule, among, configured⟩ := configure_of_mem made mem
  obtain ⟨rfl, keeps⟩ := Rule.keeps_of_configure configured
  have reads := Rule.reads_all _ among
  have applicable : Succeeds (active.applicable unit) := by
    unfold ActiveRule.applicable
    split
    · exact reads.applies keeps unit
    split
    · exact reads.applies keeps unit
    · exact .ok _
  obtain ⟨verdict, given⟩ := applicable
  simp only [applyRule, given, bind, Except.bind] at failed
  split at failed
  · next wanted =>
    subst wanted
    have applied : active.rule.appliesTo active.options unit = .ok true := by
      unfold ActiveRule.applicable at given
      split at given
      · exact given
      split at given
      · exact given
      · cases given
    have outcome := reads.inspects keeps unit probe applied
    unfold ActiveRule.check at failed
    cases inspected : active.rule.inspect ⟨unit, probe, active.options⟩ with
    | ok findings =>
      simp only [inspected, bind, Except.bind] at failed
      cases failed
    | error reason =>
      simp only [inspected, bind, Except.bind] at failed
      cases failed
      rw [inspected] at outcome
      have same : active.rule = Rule.missingQueriesModule := outcome.1
      rw [same] at keeps outcome
      exact badTemplate_of_unfilled keeps outcome
  · cases failed

/-- A run stops at a file for a reason that no option has to do with: its path or text, the issue about it, or the
name of a module in it. -/
inductive StopsAt [Host] (engine : Engine) (path source : String) : Fault → Prop
  | text {fault : Fault} :
    analyze engine.classifier path source = .error (.stop fault) → StopsAt engine path source fault
  | issue {cause : Source.Cause} {line : Nat} {fault : Issue.Fault} :
    analyze engine.classifier path source = .error (.source cause line) →
      parseIssue { engine.parseError with options := [] } path cause line = .error fault →
        StopsAt engine path source (.issue fault)
  | module {unit : SourceUnit} {declaration : Declaration} {fault : ModuleRef.Fault} :
    analyze engine.classifier path source = .ok unit → unit.declaration = some declaration →
      Boundary.resolve unit declaration.module = .error fault → StopsAt engine path source (.module fault)

theorem stops_of_checkFile [Host] (made : Engine.ofConfig config = .ok engine) {path source : String} {fault : Fault}
    (failed : checkFile engine probe path source = .error fault) :
    StopsAt engine path source fault ∨ ∃ reason, fault = .rule reason ∧ BadTemplate config path reason := by
  unfold checkFile at failed
  split at failed
  · next fault stopped =>
    cases failed
    exact .inl (.text stopped)
  · next cause line refused =>
    split at failed
    · split at failed
      · cases failed
      · next reason unmade =>
        cases failed
        exact .inl (.issue refused unmade)
    · cases failed
  · next unit analyzed =>
    split at failed
    · cases failed
    · next reason stopped =>
      cases failed
      obtain ⟨active, mem, because⟩ := exists_of_mapM_error stopped
      refine .inr ⟨reason, rfl, ?_⟩
      rw [← path_of_analyze analyzed]
      exact badTemplate_of_applyRule made mem because

theorem analyze_of_checkFile [Host] {path source : String} {unit : SourceUnit} {found : List Issue}
    (checked : checkFile engine probe path source = .ok (some unit, found)) :
    analyze engine.classifier path source = .ok unit := by
  unfold checkFile at checked
  repeat' split at checked
  all_goals cases checked
  assumption

theorem stops_of_checkGraph [Host] {files : List (String × String)} {outcomes : List (Option SourceUnit × List Issue)}
    (checked : files.mapM (fun file => checkFile engine probe file.1 file.2) = .ok outcomes) {fault : Fault}
    (failed : checkGraph engine probe (outcomes.filterMap (·.1)) = .error fault) :
    ∃ file ∈ files, StopsAt engine file.1 file.2 fault := by
  unfold checkGraph at failed
  split at failed
  · cases failed
  next options _ =>
  cases validated : Boundary.validate options probe (outcomes.filterMap (·.1)) with
  | ok issues =>
    rw [validated] at failed
    cases failed
  | error reason =>
    rw [validated] at failed
    cases failed
    cases mapped : (outcomes.filterMap (·.1)).mapM (Boundary.validateUnit options probe) with
    | ok issues =>
      simp only [Boundary.validate, mapped, bind, Except.bind] at validated
      cases validated
    | error again =>
      simp only [Boundary.validate, mapped, bind, Except.bind] at validated
      cases validated
      obtain ⟨unit, mem, because⟩ := exists_of_mapM_error mapped
      obtain ⟨declaration, declared, unresolved⟩ := Boundary.resolve_of_validateUnit because
      obtain ⟨⟨unit?, found⟩, among, same⟩ := List.mem_filterMap.mp mem
      cases same
      obtain ⟨file, listed, given⟩ := exists_of_mem_mapM checked among
      exact ⟨file, listed, .module (analyze_of_checkFile given) declared unresolved⟩

/-- Under an accepted configuration, a run stops for a reason that lies in a file, or at a template. -/
theorem stops_of_run [Host] (made : Engine.ofConfig config = .ok engine) {files : List (String × String)}
    {fault : Fault} (failed : run engine probe files = .error fault) :
    ∃ file ∈ files, StopsAt engine file.1 file.2 fault ∨
      ∃ reason, fault = .rule reason ∧ BadTemplate config file.1 reason := by
  unfold run at failed
  cases checked : (files.mergeSort fun a b => a.1 ≤ b.1).mapM fun file => checkFile engine probe file.1 file.2 with
  | error reason =>
    simp only [checked, bind, Except.bind] at failed
    cases failed
    obtain ⟨file, mem, because⟩ := exists_of_mapM_error checked
    exact ⟨file, List.mem_mergeSort.mp mem, stops_of_checkFile made because⟩
  | ok outcomes =>
    simp only [checked, bind, Except.bind, collect] at failed
    cases graph : checkGraph engine probe (outcomes.filterMap (·.1)) with
    | ok issues =>
      simp only [graph] at failed
      cases failed
    | error reason =>
      simp only [graph] at failed
      cases failed
      obtain ⟨file, mem, stops⟩ := stops_of_checkGraph checked graph
      exact ⟨file, List.mem_mergeSort.mp mem, .inl stops⟩

/-- What a rule does not take is refused, but for the gaps in the rule about files that cannot be read and in the
check of the boundaries. -/
theorem refused_of_misfit [Host] {id : String} (known : id ∈ Rule.knownIds) (enabled : (config.rule id).enabled = true)
    {key : String} {value : Value} (given : (config.rule id).options.lookup key = some value)
    (misfit : Rule.Misfits id key value) (other : id ≠ Rule.parseErrorId)
    (unlisted : id = Rule.boundaryDepsId → key ∈ Boundary.graphOptionKeys →
      ∀ items, value ≠ .list items ∧ value ≠ .tuple items) :
    ¬Succeeds (Engine.ofConfig config) := by
  intro ⟨engine, made⟩
  obtain ⟨⟨each, configured, -⟩, graph, -⟩ := parts_of_config made
  rcases List.mem_append.mp known with ruled | rest
  · obtain ⟨rule, mem, rfl⟩ := List.mem_map.mp ruled
    have accepted : Succeeds (rule.configure (config.rule rule.id)) :=
      exists_ok_of_mem (mapM_eq_ok_iff.mpr configured) mem
    obtain ⟨default, found, like⟩ := Rule.like_of_configure enabled accepted given
    exact misfit default (by rw [Rule.defaultsOf_id mem, found]) like
  · rcases List.mem_cons.mp rest with rfl | bounded
    · exact other rfl
    · cases List.mem_singleton.mp bounded
      obtain ⟨own, items, listed⟩ := Boundary.list_of_configure enabled ⟨_, graph⟩ given
      obtain ⟨list, tuple⟩ := unlisted rfl own items
      exact listed.elim list tuple

/-- Options are checked when the engine is made, and no later. -/
theorem ofConfig_checks_options [Host] (config : Config) :
    (∀ id ∈ Rule.knownIds, (config.rule id).enabled = true → ∀ key value,
      (config.rule id).options.lookup key = some value → Rule.Misfits id key value → id ≠ Rule.parseErrorId →
      (id = Rule.boundaryDepsId → key ∈ Boundary.graphOptionKeys →
        ∀ items, value ≠ .list items ∧ value ≠ .tuple items) →
        ∃ fault, Engine.ofConfig config = .error fault ∧
          (config.Tellable True True → ∃ complaint, fault.complaint = .ok complaint)) ∧
    ∀ engine, Engine.ofConfig config = .ok engine → ∀ probe files fault, run engine probe files = .error fault →
      ∃ file ∈ files, StopsAt engine file.1 file.2 fault ∨
        ∃ reason, fault = .rule reason ∧ BadTemplate config file.1 reason := by
  constructor
  · intro id known enabled key value given misfit other unlisted
    have refused := refused_of_misfit known enabled given misfit other unlisted
    cases made : Engine.ofConfig config with
    | ok engine => exact absurd ⟨engine, made⟩ refused
    | error fault =>
      refine ⟨fault, rfl, fun tellable => ?_⟩
      have told := tellable_ofConfig tellable
      rw [made] at told
      obtain said | ⟨-, unnamed⟩ | ⟨reason, -, unwritten⟩ := Config.complaint_of_tellable told
      · exact said
      · exact absurd trivial unnamed
      · exact absurd trivial unwritten
  · intro engine made probe files fault failed
    exact stops_of_run made failed

theorem ofConfig_succeeds [Host] {id : String} {settings : RuleConfig} (usual : Classifier.ReadsDefaults Host.pattern)
    (known : id ∈ Rule.knownIds)
    (ruled : ∀ rule ∈ Rule.all, rule.id = id → Succeeds (rule.configure settings))
    (bounded : id = Rule.boundaryDepsId →
      Succeeds (Boundary.GraphOptions.configure (Config.default.withRule id settings))) :
    Succeeds (Engine.ofConfig (Config.default.withRule id settings)) := by
  have agree := Config.default.agreeBut_withRule id settings
  have configured := ofConfig_default usual
  obtain ⟨-, graph, classified, -⟩ := parts_of_config configured
  have named : Rule.unknownId? (Config.default.withRule id settings) = none := by
    have single : (Config.default.withRule id settings).rules.map (·.1) = [id] := rfl
    rw [Rule.unknownId?, single]
    simpa using known
  have rules : Succeeds (Rule.configured (Config.default.withRule id settings)) := by
    unfold Rule.configured
    rw [named]
    apply Succeeds.bind
    · apply Succeeds.mapM
      intro rule mem
      by_cases own : rule.id = id
      · rw [own, Config.rule_withRule]
        exact ruled rule mem own
      · rw [agree.rules _ own]
        exact ⟨_, Rule.configure_default (Rule.judges_all rule mem)⟩
    · intro actives _
      exact .ok _
  have checked : Succeeds (Boundary.GraphOptions.configure (Config.default.withRule id settings)) := by
    by_cases own : Rule.boundaryDepsId = id
    · exact bounded own.symm
    · rw [graph_of_agree agree own]
      exact ⟨_, graph⟩
  apply rules.bind
  intro actives _
  apply checked.bind
  intro options _
  apply Succeeds.bind ⟨_, classified⟩
  intro _ _
  exact .ok _

def optionSetting (key : String) (value : Value) : RuleConfig := ⟨true, none, none, [(key, value)]⟩

theorem tellable_withRule [Host] {id key : String} {value : Value} (named : id ≠ "") (written : value.Writable) :
    (Config.default.withRule id (optionSetting key value)).Tellable True True := by
  have single : (Config.default.withRule id (optionSetting key value)).rules = [(id, optionSetting key value)] := rfl
  constructor
  · intro _ entry mem
    cases List.mem_singleton.mp (single ▸ mem)
    exact named
  · intro _ entry mem option among
    cases List.mem_singleton.mp (single ▸ mem)
    cases List.mem_singleton.mp among
    exact written

attribute [local instance] Host.ordinary in
theorem ofConfig_checks_options_environment :
    ∃ fault complaint, Engine.ofConfig (Config.default.withRule "no_env_in_runtime"
      (optionSetting "allowed_path" (Rule.textList ["lib/"]))) = .error fault ∧ fault.complaint = .ok complaint := by
  have misfit : Rule.Misfits "no_env_in_runtime" "allowed_path" (Rule.textList ["lib/"]) := by
    intro default found
    cases found
  obtain ⟨checked, -⟩ := ofConfig_checks_options (Config.default.withRule "no_env_in_runtime"
    (optionSetting "allowed_path" (Rule.textList ["lib/"])))
  obtain ⟨fault, refused, told⟩ := checked "no_env_in_runtime" (by decide) rfl "allowed_path" _ rfl misfit
    (by decide) fun bounded => absurd bounded (by decide)
  obtain ⟨complaint, said⟩ := told (tellable_withRule (by decide) (by decide))
  exact ⟨fault, complaint, refused, said⟩

theorem mem_rules_of_configure [Host] (made : Engine.ofConfig config = .ok engine) {rule : Rule} (mem : rule ∈ Rule.all)
    {active : ActiveRule} (configured : rule.configure (config.rule rule.id) = .ok (some active)) :
    active ∈ engine.rules := by
  obtain ⟨⟨each, given, same⟩, -⟩ := parts_of_config made
  obtain ⟨active?, among, found⟩ := exists_of_mem_forall₂ given mem
  rw [configured, Except.ok.injEq] at found
  subst found
  rw [same, List.mem_filterMap]
  exact ⟨some active, among, rfl⟩

theorem configure_listed [Host] : Succeeds (Boundary.GraphOptions.configure
    (Config.default.withRule Rule.boundaryDepsId (optionSetting "ignored_deps" (.list [.integer 1])))) := by
  have written : Value.unwritable? (.integer 1) = none := Value.writable_integer.mpr (by decide)
  have ignored : Boundary.readGraphOption [("ignored_deps", .list [.integer 1])] "ignored_deps" [] = .ok ["1"] := by
    simp only [Boundary.readGraphOption, List.lookup_cons_self, List.findSome?_cons, List.findSome?_nil, written]
    rfl
  have own : ["ignored_deps"].filter (!Boundary.graphOptionKeys.contains ·) = [] := by decide
  simp only [Boundary.GraphOptions.configure, Config.rule_withRule, optionSetting, List.map_cons, List.map_nil, own,
    List.mergeSort_nil, List.head?_nil, ignored]
  exact .ok _

def templateRule : ActiveRule :=
  ⟨Rule.missingQueriesModule, .normal, Category.warning.exitStatus,
    [("known_contexts", Rule.textList []), ("queries_paths", Rule.textList ["\x7bother\x7d"])]⟩

theorem configure_templateRule : Rule.missingQueriesModule.configure
    (optionSetting "queries_paths" (Rule.textList ["\x7bother\x7d"])) = .ok (some templateRule) := rfl

theorem missingQueriesModule_mem : Rule.missingQueriesModule ∈ Rule.all := by
  simp [Rule.all]

theorem applyRule_templateRule [Host] {unit : SourceUnit} (placed : unit.path = "lib/shop/cart.ex") (probe : Probe) :
    applyRule probe unit templateRule = .error (.template (.unknownName "other")) := by
  have context : Path.isContextModule unit.path Rule.queryPlaces = true := by
    rw [placed]
    decide +kernel
  have applicable : templateRule.applicable unit = .ok true := by
    simp only [ActiveRule.applicable, templateRule, Rule.missingQueriesModule, context, if_true]
    rfl
  simp only [applyRule, applicable, bind, Except.bind, if_true]
  rfl

theorem checkFile_templateRule [Host] (mem : templateRule ∈ engine.rules) {source : String} {body : List Node}
    (parsed : Grammar.parse source = .ok body) (probe : Probe) :
    ∃ reason, checkFile engine probe "lib/shop/cart.ex" source = .error (.rule reason) := by
  have analyzed : analyze engine.classifier "lib/shop/cart.ex" source =
      .ok (unitOfTree engine.classifier ⟨"lib/shop/cart.ex", body⟩) := by
    simp only [analyze, readTree, parsed]
    rfl
  unfold checkFile
  rw [analyzed]
  dsimp only
  split
  · next issues applied =>
    obtain ⟨found, given⟩ := exists_ok_of_mem applied mem
    rw [applyRule_templateRule rfl] at given
    cases given
  · next reason _ => exact ⟨reason, rfl⟩

attribute [local instance] Host.ordinary in
/-- The gaps: options that are never looked at, lists of anything, and a template that a run stops at. -/
theorem unchecked_options :
    (Rule.Misfits Rule.parseErrorId "strict" (.boolean true) ∧
      Succeeds (Engine.ofConfig (Config.default.withRule Rule.parseErrorId (optionSetting "strict" (.boolean true))))) ∧
    (Rule.Misfits Rule.boundaryDepsId "ignored_deps" (.list [.integer 1]) ∧ Succeeds (Engine.ofConfig
      (Config.default.withRule Rule.boundaryDepsId (optionSetting "ignored_deps" (.list [.integer 1]))))) ∧
    ∃ engine reason, Engine.ofConfig (Config.default.withRule Rule.missingQueriesModule.id
        (optionSetting "queries_paths" (Rule.textList ["\x7bother\x7d"]))) = .ok engine ∧
      run engine .denied [("lib/shop/cart.ex", "x")] = .error (.rule reason) := by
  have usual : Classifier.ReadsDefaults Host.pattern := fun _ _ _ _ => rfl
  refine ⟨⟨?_, ?_⟩, ⟨?_, ?_⟩, ?_⟩
  · intro default found
    cases found
  · apply ofConfig_succeeds usual (by decide)
    · intro rule mem own
      exact absurd own (by revert rule; decide)
    · intro bounded
      exact absurd bounded (by decide)
  · intro default found
    cases found
    rintro ⟨texts, same⟩
    cases texts <;> cases same
  · apply ofConfig_succeeds usual (by decide)
    · intro rule mem own
      exact absurd own (by revert rule; decide)
    · intro _
      exact configure_listed
  · have own : ∀ rule ∈ Rule.all, rule.id = Rule.missingQueriesModule.id → Succeeds (rule.configure
        (optionSetting "queries_paths" (Rule.textList ["\x7bother\x7d"]))) := by
      intro rule mem own
      rw [Rule.eq_of_id mem missingQueriesModule_mem own]
      exact ⟨_, configure_templateRule⟩
    obtain ⟨engine, made⟩ := ofConfig_succeeds usual (by decide) own fun bounded => absurd bounded (by decide)
    have mem : templateRule ∈ engine.rules := by
      apply mem_rules_of_configure made missingQueriesModule_mem
      rw [Config.rule_withRule]
      exact configure_templateRule
    obtain ⟨body, parsed⟩ : ∃ body, Grammar.parse "x" = .ok body := ⟨_, by cbv⟩
    obtain ⟨reason, stopped⟩ := checkFile_templateRule mem parsed .denied
    refine ⟨engine, reason, made, ?_⟩
    simp only [run, List.mergeSort_singleton, List.mapM_cons, stopped]
    rfl

end Lint

end BoundaryLint
