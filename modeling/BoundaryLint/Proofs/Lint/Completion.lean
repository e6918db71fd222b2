import BoundaryLint.Host.Ordinary
import BoundaryLint.Proofs.Boundary.Dependency
import BoundaryLint.Proofs.Grammar.FaultLine
import BoundaryLint.Proofs.Lint.Isolation
import BoundaryLint.Proofs.Rule.Default
import Mathlib

/-!
Whether a run completes. A file whose text is refused never stops a run: it shows up with the issue about
it. Without configuration no rule fails either, so two things are left that can stop a run, both in the path
of a file that was read: a backslash, and an app directory that gives no module name where the check of the
boundaries asks for one.
-/

namespace BoundaryLint

namespace Boundary

/-- Where the check asks for the module of the app, its directory gives one. -/
def NamesApp (options : GraphOptions) (unit : SourceUnit) : Prop :=
  ∀ declaration project, unit.declaration = some declaration → inScope options unit.path = true →
    ((rootOfModule? declaration.module).or (Path.modulePrefix? unit.path)).isSome = true →
    unit.filename = "application.ex" → unit.nodes.any usesLifecycle = false →
    ProjectPath.locate? unit.path = some project → project.isTopLevel = true →
    ModuleRef.isSegment project.appModule = true

variable {options : GraphOptions} {probe : Probe} {unit : SourceUnit}

theorem ofSegments_application_succeeds_iff {segment : String} :
    Succeeds (ModuleRef.ofSegments [segment, "Application"]) ↔ ModuleRef.isSegment segment = true := by
  have last : ModuleRef.isSegment "Application" = true := by decide
  by_cases valid : ModuleRef.isSegment segment = true
  · simp [Succeeds, ModuleRef.ofSegments, valid, last]
  · simp [Succeeds, ModuleRef.ofSegments, valid]

theorem isLifecycleModule_succeeds_iff :
    Succeeds (isLifecycleModule unit) ↔ (unit.nodes.any usesLifecycle = false → ∀ project,
      ProjectPath.locate? unit.path = some project → project.isTopLevel = true →
        ModuleRef.isSegment project.appModule = true) := by
  unfold isLifecycleModule
  cases uses : unit.nodes.any usesLifecycle with
  | true => simp [Succeeds]
  | false =>
    cases located : ProjectPath.locate? unit.path with
    | none => simp [Succeeds]
    | some project =>
      cases top : project.isTopLevel with
      | false => simp [Succeeds, top]
      | true =>
        simp only [Bool.false_eq_true, if_false, top, if_true]
        refine (Succeeds.bind_iff fun expected => .ok _).trans ?_
        rw [ofSegments_application_succeeds_iff]
        simp [top]

theorem layerOf_succeeds_iff :
    Succeeds (layerOf unit) ↔ (unit.filename = "application.ex" → Succeeds (isLifecycleModule unit)) := by
  unfold layerOf
  by_cases named : unit.filename = "application.ex"
  · simp only [named, if_true, forall_const]
    exact Succeeds.bind_iff fun lifecycle => .ok _
  · simp [named, Succeeds, pure, Except.pure]

theorem resolve_succeeds_iff {module : ModuleRef} :
    Succeeds (resolve unit module) ↔
      (((rootOfModule? module).or (Path.modulePrefix? unit.path)).isSome = true → Succeeds (layerOf unit)) := by
  unfold resolve
  cases (rootOfModule? module).or (Path.modulePrefix? unit.path) with
  | none => simp [Succeeds]
  | some root =>
    simp only [Option.isSome_some, forall_const]
    exact Succeeds.bind_iff fun layer => .ok _

theorem validateUnit_succeeds_iff : Succeeds (validateUnit options probe unit) ↔ NamesApp options unit := by
  cases declares : unit.declaration with
  | none => simp [NamesApp, validateUnit, declares, Succeeds]
  | some declaration =>
    cases scope : inScope options unit.path with
    | false => simp [NamesApp, validateUnit, declares, scope, Succeeds]
    | true =>
      have resolves : Succeeds (validateUnit options probe unit) ↔ Succeeds (resolve unit declaration.module) := by
        simp only [validateUnit, declares, scope, if_true]
        refine Succeeds.bind_iff fun found => ?_
        cases found with
        | none => exact .ok _
        | some context =>
          dsimp only
          split
          · exact .ok _
          · exact .ok _
      rw [resolves, resolve_succeeds_iff, layerOf_succeeds_iff, isLifecycleModule_succeeds_iff]
      constructor
      · intro names other project same _ root named unused located top
        cases declares.symm.trans same
        exact names root named unused project located top
      · intro names root named unused project located top
        exact names declaration project declares scope root named unused located top

end Boundary

namespace Lint

variable {engine : Engine} {probe : Probe} {files : List (String × String)} {path text : String}

/-- A run completes if every file alone does. -/
theorem run_succeeds_iff [Host] :
    Succeeds (run engine probe files) ↔ ∀ file ∈ files, Succeeds (share engine probe file) := by
  have order := List.mergeSort_perm files fun a b => a.1 ≤ b.1
  constructor
  · rintro ⟨result, finished⟩ file mem
    obtain ⟨shares, shared, -⟩ := run_eq_ok_iff.mp finished
    exact exists_ok_of_mem shared (order.mem_iff.mpr mem)
  · intro each
    have all : Succeeds ((files.mergeSort fun a b => a.1 ≤ b.1).mapM (share engine probe)) := by
      apply Succeeds.mapM
      intro file mem
      exact each file (order.mem_iff.mp mem)
    obtain ⟨shares, shared⟩ := all
    exact ⟨_, run_eq_ok_iff.mpr ⟨shares, shared, rfl⟩⟩

def refusalIssue (path : String) (cause : Source.Cause) (line : Nat) : Issue :=
  ⟨Rule.parseErrorId, s!"File could not be parsed: {cause.message}. No other checks ran for this file.", path, line,
    "parse", .higher, .warning, .parsing, 16⟩

theorem parseIssue_default {cause : Source.Cause} {line : Nat} (nonempty : path ≠ "") (placed : 1 ≤ line) :
    parseIssue {} path cause line = .ok (refusalIssue path cause line) := by
  have worded : s!"File could not be parsed: {cause.message}. No other checks ran for this file." ≠ "" := by
    intro same
    have short := congrArg String.length same
    simp only [String.length_append, String.length_empty, Nat.add_eq_zero_iff] at short
    exact absurd short.2 (by decide)
  have below : ¬ (line : Int) < 1 := by omega
  unfold parseIssue Issue.make
  rw [if_neg (by decide), if_neg worded, if_neg nonempty, if_neg below]
  rfl

theorem share_of_backslash [Host] {body : List Node} (parsed : Grammar.parse text = .ok body) (nonempty : path ≠ "")
    (backslash : '\\' ∈ path.toList) :
    share engine probe (path, text) = .error (.path (.backslash path)) := by
  simp [share, checkFile, analyze, readTree, parsed, SyntaxTree.make, nonempty, backslash, bind, Except.bind, Except.mapError]

theorem share_of_parsed [Host] {body : List Node} {found : List (List Issue)} (parsed : Grammar.parse text = .ok body)
    (nonempty : path ≠ "") (slashes : '\\' ∉ path.toList)
    (applied : engine.rules.mapM (applyRule probe (unitOfTree engine.classifier ⟨path, body⟩)) = .ok found) :
    share engine probe (path, text) = do
      return (found.flatten, ← checkGraph engine probe [unitOfTree engine.classifier ⟨path, body⟩]) := by
  have read : readTree path text = .ok ⟨path, body⟩ := by
    simp [readTree, parsed, SyntaxTree.make, nonempty, slashes, Except.mapError]
  simp only [share, checkFile, analyze, read, bind, Except.bind, pure, Except.pure, applied]
  rfl

theorem share_default_of_refused [Host] {classifier : Classifier} {cause : Source.Cause} {line : Nat}
    (nonempty : path ≠ "") (refused : Grammar.parse text = .error (.at cause line)) :
    share (defaultEngine classifier) probe (path, text) = .ok ([refusalIssue path cause line], []) := by
  have made : parseIssue {} path cause line = .ok (refusalIssue path cause line) :=
    parseIssue_default nonempty (Grammar.one_le_of_parse refused)
  have checked : checkFile (defaultEngine classifier) probe path text = .ok (none, [refusalIssue path cause line]) := by
    simp only [checkFile, analyze, readTree, refused, bind, Except.bind, defaultEngine, if_true, made]
  exact (share_eq_ok_iff (path, text) checked).mpr ⟨rfl, checkGraph_nil⟩

theorem rules_succeed [Host] (classifier : Classifier) (probe : Probe) (unit : SourceUnit) :
    Succeeds ((defaultEngine classifier).rules.mapM (applyRule probe unit)) := by
  apply Succeeds.mapM
  intro active mem
  obtain ⟨rule, among, rfl⟩ := List.mem_map.mp mem
  exact applyRule_default (Rule.judges_all rule among) probe unit

theorem checkGraph_default {classifier : Classifier} {units : List SourceUnit} :
    checkGraph (defaultEngine classifier) probe units = (Boundary.validate {} probe units).mapError .module := rfl

/-- Nothing in the path of the file stops a run, should its text be read. -/
def Admits [Host] (classifier : Classifier) (file : String × String) : Prop :=
  ∀ body, Grammar.parse file.2 = .ok body →
    '\\' ∉ file.1.toList ∧ Boundary.NamesApp {} (unitOfTree classifier ⟨file.1, body⟩)

theorem share_default_succeeds_iff [Host] {classifier : Classifier} (nonempty : path ≠ "")
    (shallow : Grammar.parse text ≠ .error .literalsTooDeep) :
    Succeeds (share (defaultEngine classifier) probe (path, text)) ↔ Admits classifier (path, text) := by
  cases parsed : Grammar.parse text with
  | error fault =>
    cases fault with
    | literalsTooDeep => exact absurd parsed shallow
    | «at» cause line =>
      rw [share_default_of_refused nonempty parsed]
      simp [Succeeds, Admits, parsed]
  | ok body =>
    have admits : Admits classifier (path, text) ↔
        '\\' ∉ path.toList ∧ Boundary.NamesApp {} (unitOfTree classifier ⟨path, body⟩) := by
      simp [Admits, parsed]
    rw [admits]
    by_cases backslash : '\\' ∈ path.toList
    · rw [share_of_backslash parsed nonempty backslash]
      simp [Succeeds, backslash]
    · obtain ⟨found, applied⟩ := rules_succeed classifier probe (unitOfTree classifier ⟨path, body⟩)
      rw [share_of_parsed parsed nonempty backslash applied]
      refine (Succeeds.bind_iff fun boundary => .ok _).trans ?_
      rw [checkGraph_default, Succeeds.mapError_iff, Boundary.validate_singleton, Boundary.validateUnit_succeeds_iff]
      exact (and_iff_right backslash).symm

/-- Without configuration a run over distinct files, of which no text nests strings too deep, completes if and
only if the paths of the files admit it. Then a file whose text is refused has the issue about it and no other,
and every other file has the issues that the rules and the check of the boundaries find in it. -/
theorem run_default [Host] (usual : Classifier.ReadsDefaults Host.pattern) (probe : Probe)
    (files : List (String × String)) (distinct : (files.map Prod.fst).Nodup)
    (readable : ∀ file ∈ files, file.1 ≠ "" ∧ Grammar.parse file.2 ≠ .error .literalsTooDeep) :
    ∃ classifier, Engine.ofConfig Config.default = .ok (defaultEngine classifier) ∧
      ((∃ result, run (defaultEngine classifier) probe files = .ok result) ↔
        ∀ file ∈ files, Admits classifier file) ∧
      ∀ result, run (defaultEngine classifier) probe files = .ok result →
        result.filesChecked = files.length ∧
        ∀ path text, (path, text) ∈ files →
          (∀ cause line, Grammar.parse text = .error (.at cause line) →
            result.forFile path = [refusalIssue path cause line]) ∧
          ∀ body, Grammar.parse text = .ok body → ∃ found boundary,
            (Rule.all.map Rule.default).mapM (applyRule probe (unitOfTree classifier ⟨path, body⟩)) = .ok found ∧
            Boundary.validate {} probe [unitOfTree classifier ⟨path, body⟩] = .ok boundary ∧
            result.forFile path = Issue.sort (found.flatten ++ boundary) := by
  generalize defined : Classifier.defaultClassifier = classifier
  refine ⟨classifier, defined ▸ ofConfig_default usual, ?_, ?_⟩
  · refine run_succeeds_iff.trans (forall₂_congr ?_)
    rintro ⟨path, text⟩ mem
    obtain ⟨nonempty, shallow⟩ := readable _ mem
    exact share_default_succeeds_iff nonempty shallow
  · intro result finished
    refine ⟨?_, ?_⟩
    · obtain ⟨shares, shared, rfl⟩ := run_eq_ok_iff.mp finished
      have count := (mapM_eq_ok_iff.mp shared).length_eq
      rw [List.length_mergeSort] at count
      exact count.symm
    · intro path text mem
      obtain ⟨nonempty, shallow⟩ := readable _ mem
      obtain ⟨own, gives, sorted⟩ := forFile_eq_sort_share distinct mem finished
      rw [sorted]
      constructor
      · intro cause line refused
        rw [share_default_of_refused nonempty refused] at gives
        cases gives
        simp [Issue.sort]
      · intro body parsed
        have slashes := ((share_default_succeeds_iff nonempty shallow).mp ⟨own, gives⟩ body parsed).1
        obtain ⟨found, applied⟩ := rules_succeed classifier probe (unitOfTree classifier ⟨path, body⟩)
        rw [share_of_parsed parsed nonempty slashes applied] at gives
        obtain ⟨boundary, validated, same⟩ := bind_eq_ok.mp gives
        cases same
        rw [checkGraph_default, mapError_eq_ok] at validated
        exact ⟨found, boundary, applied, validated, rfl⟩

attribute [local instance] Host.ordinary in
theorem run_default_order :
    ∃ classifier result, Engine.ofConfig Config.default = .ok (defaultEngine classifier) ∧
      run (defaultEngine classifier) .denied [("lib/cart.ex", ""), ("lib/order.ex", "$")] = .ok result ∧
      result.filesChecked = 2 ∧
      result.forFile "lib/order.ex" = [refusalIssue "lib/order.ex" (.unexpectedCharacter '$') 1] := by
  have readable : ∀ file ∈ [("lib/cart.ex", ""), ("lib/order.ex", "$")],
      file.1 ≠ "" ∧ Grammar.parse file.2 ≠ .error .literalsTooDeep := by
    simp [parse_empty, parse_dollar]
  obtain ⟨classifier, configured, returns, analyzed⟩ :=
    run_default (fun _ _ _ _ => rfl) .denied [("lib/cart.ex", ""), ("lib/order.ex", "$")] (by decide) readable
  have admits : ∀ file ∈ [("lib/cart.ex", ""), ("lib/order.ex", "$")], Admits classifier file := by
    intro file mem body parsed
    simp only [List.mem_cons, List.not_mem_nil, or_false] at mem
    rcases mem with rfl | rfl
    · cases parse_empty.symm.trans parsed
      refine ⟨by decide, ?_⟩
      intro declaration project declares
      cases (Boundary.declaration?_nil _).symm.trans declares
    · cases parse_dollar.symm.trans parsed
  obtain ⟨result, finished⟩ := returns.mpr admits
  obtain ⟨count, each⟩ := analyzed result finished
  have refused := (each "lib/order.ex" "$" (.tail _ (.head _))).1 _ _ parse_dollar
  exact ⟨classifier, result, configured, finished, count, refused⟩

def domainBody : List Node :=
  [.moduleDecl (some ⟨["A", "Domain"], by simp, by decide⟩)
    [.directive .using (some Boundary.boundaryModule) [Boundary.boundaryModule] [] 1] 1]

def domainTokens : List Token :=
  [⟨.identifier, "defmodule", 1, false, false⟩, ⟨.alias, "A", 1, true, false⟩, ⟨.operator, ".", 1, false, false⟩,
    ⟨.alias, "Domain", 1, false, false⟩, ⟨.keyword, "do", 1, true, false⟩, ⟨.identifier, "use", 1, true, false⟩,
    ⟨.alias, "Boundary", 1, true, false⟩, ⟨.keyword, "end", 1, true, false⟩]

attribute [local instance] Host.ordinary in
theorem scan_domain : Token.scan "defmodule A.Domain do use Boundary end" = .ok domainTokens := by decide +kernel

theorem not_namesApp_domainBody (classifier : Classifier) :
    ¬ Boundary.NamesApp {} (unitOfTree classifier ⟨"lib/my-app/application.ex", domainBody⟩) := by
  intro names
  have nodes : SyntaxTree.nodes ⟨"lib/my-app/application.ex", domainBody⟩ =
      [.moduleDecl (some ⟨["A", "Domain"], by simp, by decide⟩)
        [.directive .using (some Boundary.boundaryModule) [Boundary.boundaryModule] [] 1] 1,
      .directive .using (some Boundary.boundaryModule) [Boundary.boundaryModule] [] 1] := by cbv
  have declares : Boundary.declaration? ⟨"lib/my-app/application.ex", domainBody⟩ =
      some (.make ⟨["A", "Domain"], by simp, by decide⟩ [] 1 []) := by
    simp only [Boundary.declaration?, Boundary.findDirective?, nodes]
    rfl
  have unused : (SyntaxTree.nodes ⟨"lib/my-app/application.ex", domainBody⟩).any Boundary.usesLifecycle = false := by
    rw [nodes]
    decide
  have scope : Boundary.inScope {} "lib/my-app/application.ex" = true := by decide
  have located : ProjectPath.locate? "lib/my-app/application.ex" =
      some ⟨"lib/my-app/", "my-app", "application.ex"⟩ := by decide
  have named : Path.basename "lib/my-app/application.ex" = "application.ex" := by decide
  have valid := names _ _ declares scope rfl named unused located (by decide)
  revert valid
  decide

attribute [local instance] Host.ordinary in
/-- Both ways in which a path stops a run: with a backslash, and in an app directory that gives no module name. -/
theorem run_default_stops :
    ∃ classifier, Engine.ofConfig Config.default = .ok (defaultEngine classifier) ∧
      (¬ ∃ result, run (defaultEngine classifier) .denied [("a\\b.ex", "x")] = .ok result) ∧
      ¬ ∃ result, run (defaultEngine classifier) .denied
        [("lib/my-app/application.ex", "defmodule A.Domain do use Boundary end")] = .ok result := by
  have configured := ofConfig_default fun _ _ _ _ => rfl
  have word : Grammar.parse "x" = .ok [.var "x" 1] := by cbv
  have module : Grammar.parse "defmodule A.Domain do use Boundary end" = .ok domainBody := by
    rw [Grammar.parse, scan_domain]
    cbv
  refine ⟨_, configured, ?_, ?_⟩
  · intro returned
    have shared := run_succeeds_iff.mp returned _ (.head _)
    have admits := (share_default_succeeds_iff (by decide) (by simp [word])).mp shared
    exact (admits _ word).1 (by decide)
  · intro returned
    have shared := run_succeeds_iff.mp returned _ (.head _)
    have admits := (share_default_succeeds_iff (by decide) (by simp [module])).mp shared
    exact not_namesApp_domainBody _ (admits _ module).2

end Lint

end BoundaryLint
