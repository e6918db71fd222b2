import BoundaryLint.Proofs.Boundary.Probing
import BoundaryLint.Proofs.Lint.Share
import Mathlib

/-!
What is asked for. An issue can ask to add a module to the dependencies of a boundary. The check looks only among
the dependencies that are not ignored, so a module that is asked for is not declared, or it is ignored.
-/

namespace BoundaryLint

namespace Text

theorem eq_of_last_occurrence {c : Char} {start start' rest rest' : List Char} (absent : c ∉ rest)
    (absent' : c ∉ rest') (same : start ++ c :: rest = start' ++ c :: rest') : rest = rest' := by
  have shorter : ∀ {rest rest' : List Char}, c ∉ rest' → c :: rest <:+ c :: rest' → rest = rest' := by
    intro rest rest' absent' ends
    rcases List.suffix_cons_iff.mp ends with same | inside
    · exact (List.cons.inj same).2
    · exact absurd (inside.subset List.mem_cons_self) absent'
  have first : c :: rest <:+ start ++ c :: rest := List.suffix_append _ _
  have second : c :: rest' <:+ start ++ c :: rest := same ▸ List.suffix_append _ _
  rcases List.suffix_or_suffix_of_suffix first second with ends | ends
  · exact shorter absent' ends
  · exact (shorter absent ends).symm

end Text

theorem ModuleRef.backtick_not_mem_name (ref : ModuleRef) : '`' ∉ ref.name.toList := by
  have dot : ".".toList = ['.'] := rfl
  rw [name, String.toList_intercalate, dot]
  apply Text.not_mem_intercalate (by decide)
  intro piece mem
  obtain ⟨segment, inside, rfl⟩ := List.mem_map.mp mem
  exact not_mem_segment (by decide) (by decide) (by decide) (ref.wellFormed segment inside)

namespace Boundary

def AsksFor (issue : Issue) (module : ModuleRef) : Prop :=
  ∃ start, issue.message = start ++ "Add `" ++ module.name ++ "` to deps."

variable {options : GraphOptions} {probe : Probe} {unit : SourceUnit} {context : Context} {declaration : Declaration}
  {module : ModuleRef}

namespace Violation

def required? : Violation → Option ModuleRef
  | .missingDomain _ domain => some domain
  | .missingApplication application => some application
  | _ => none

theorem ending_of_asking {message start start' ending : String} (given : message = start ++ ending)
    (asking : message = start' ++ "` to deps.") (long : "` to deps.".toList.length ≤ ending.toList.length) :
    "` to deps.".toList <:+ ending.toList := by
  have first : ending.toList <:+ message.toList := ⟨start.toList, by rw [given, String.toList_append]⟩
  have second : "` to deps.".toList <:+ message.toList := ⟨start'.toList, by rw [asking, String.toList_append]⟩
  exact List.suffix_of_suffix_length_le second first long

/-- The module that a message asks for can be read off it. -/
theorem eq_of_asking {start start' : String} {required : ModuleRef}
    (same : start ++ "Add `" ++ required.name ++ "` to deps." = start' ++ "Add `" ++ module.name ++ "` to deps.") :
    required = module := by
  have cut : (start ++ "Add ").toList ++ '`' :: required.name.toList =
      (start' ++ "Add ").toList ++ '`' :: module.name.toList := by
    have chars := congrArg String.toList same
    simp only [String.toList_append] at chars
    simpa using List.append_cancel_right chars
  apply ModuleRef.eq_of_name
  apply String.toList_inj.mp
  exact Text.eq_of_last_occurrence required.backtick_not_mem_name module.backtick_not_mem_name cut

theorem asking_of_required? {violation : Violation} (asked : violation.required? = some module) :
    ∃ start, violation.message = start ++ "Add `" ++ module.name ++ "` to deps." := by
  cases violation with
  | domainDeps domain deps => cases asked
  | forbidden layer declaring dep allowed => cases asked
  | missingDomain layer domain =>
    cases asked
    have opening : layer.title ++ " layer must depend on Domain layer. Add `" =
        layer.title ++ " layer must depend on Domain layer. " ++ "Add `" := by
      rw [String.append_assoc]
      rfl
    refine ⟨layer.title ++ " layer must depend on Domain layer. ", ?_⟩
    rw [← opening]
    rfl
  | missingApplication application =>
    cases asked
    exact ⟨"Infrastructure layer must depend on Application layer. ", rfl⟩

theorem required?_of_asking {violation : Violation} {start : String}
    (asking : violation.message = start ++ "Add `" ++ module.name ++ "` to deps.") :
    violation.required? = some module := by
  cases asked : violation.required? with
  | some required =>
    obtain ⟨own, message⟩ := asking_of_required? asked
    rw [eq_of_asking (message.symm.trans asking)]
  | none =>
    cases violation with
    | domainDeps domain deps => exact absurd (ending_of_asking rfl asking (by decide)) (by decide)
    | forbidden layer declaring dep allowed => exact absurd (ending_of_asking rfl asking (by decide)) (by decide)
    | missingDomain layer domain => cases asked
    | missingApplication application => cases asked

end Violation

/-- Of both names of the application, the one that is found on disk. -/
theorem Context.mem_applications_of_onDisk (found : context.applicationOnDisk? probe = some module) :
    module ∈ context.applications := by
  unfold applicationOnDisk? at found
  split at found
  · cases found
    exact List.mem_cons_of_mem _ List.mem_cons_self
  · split at found
    · cases found
      exact List.mem_cons_self
    · cases found

theorem Context.domain_not_mem_applications : context.domain ∉ context.applications := by
  intro mem
  have last : context.domain.last = "Domain" := ModuleRef.last_of_segments rfl
  simp only [applications, List.mem_cons, List.not_mem_nil, or_false] at mem
  rcases mem with same | same
  · rw [same, application, ModuleRef.last_of_segments rfl] at last
    exact absurd last (by decide)
  · rw [same, applicationLayer, ModuleRef.last_of_segments rfl] at last
    exact absurd last (by decide)

/-- A module that is asked for is not among the dependencies, and with the application neither of its names is. -/
theorem not_mem_of_missing {deps : List ModuleRef} {violation : Violation}
    (found : violation ∈ missing probe context deps) (asked : violation.required? = some module) :
    module ∉ deps ∧ (module ∈ context.applications → ∀ dep ∈ context.applications, dep ∉ deps) := by
  unfold missing at found
  rcases List.mem_append.mp found with domain | application
  · split at domain
    · next lacks =>
      cases List.mem_singleton.mp domain
      cases asked
      rw [Bool.and_eq_true, Bool.not_eq_true', ← Bool.not_eq_true, List.contains_iff_mem] at lacks
      exact ⟨lacks.1, fun mem => absurd mem Context.domain_not_mem_applications⟩
    · cases domain
  · split at application
    · next lacks =>
      obtain ⟨required, onDisk, rfl⟩ := List.mem_map.mp application
      cases asked
      have among := Context.mem_applications_of_onDisk (Option.mem_toList.mp onDisk)
      rw [Bool.and_eq_true, Bool.not_eq_true', List.any_eq_false] at lacks
      have neither : ∀ dep ∈ context.applications, dep ∉ deps := by
        intro dep mem declared
        exact lacks.2 dep mem (List.contains_iff_mem.mpr declared)
      exact ⟨neither module among, fun _ => neither⟩
    · cases application

/-- What is said about a boundary asks for a module only if nothing that counts is forbidden, and then as `missing`
does among the dependencies that count. -/
theorem missing_of_violations {violation : Violation} (found : violation ∈ violations options probe context declaration)
    (asked : violation.required? = some module) :
    violation ∈ missing probe context (declaration.deps.filter (!isIgnored options ·)) := by
  by_cases inner : context.layer = .domain
  · simp only [violations, if_pos inner] at found
    split at found
    · cases found
    · cases List.mem_singleton.mp found
      cases asked
  · rw [violations_outer inner] at found
    split at found
    · exact found
    · obtain ⟨dep, -, rfl⟩ := List.mem_map.mp found
      cases asked

theorem ignored_of_not_counted {dep : ModuleRef} {deps : List ModuleRef} (declared : dep ∈ deps)
    (passed : dep ∉ deps.filter (!isIgnored options ·)) : Ignored options dep := by
  by_contra counts
  apply passed
  rw [List.mem_filter, Bool.not_eq_true', ← Bool.not_eq_true, isIgnored_iff]
  exact ⟨declared, counts⟩

/-- Each issue is one of a file of the run, given by a violation of its declaration. -/
theorem violation_of_issue {units : List SourceUnit} {issues : List Issue} {issue : Issue}
    (validated : validate options probe units = .ok issues) (listed : issue ∈ issues) :
    ∃ unit ∈ units, ∃ declaration context violation, unit.declaration = some declaration ∧
      resolve unit declaration.module = .ok (some context) ∧
      violation ∈ violations options probe context declaration ∧
      issue = violationIssue options unit declaration violation := by
  obtain ⟨parts, mapped, same⟩ := bind_eq_ok.mp validated
  cases same
  obtain ⟨own, mem, inside⟩ := List.mem_flatten.mp listed
  obtain ⟨unit, among, given⟩ := exists_of_mem_mapM mapped mem
  refine ⟨unit, among, ?_⟩
  rcases validateUnit_shape options unit with ⟨fault, stops⟩ | quiet | ⟨declaration, context, declares, resolved, found⟩
  · rw [stops] at given
    cases given
  · rw [quiet] at given
    cases given
    cases inside
  · rw [found] at given
    cases given
    obtain ⟨violation, mem, rfl⟩ := List.mem_map.mp inside
    exact ⟨declaration, context, violation, declares, resolved, mem, rfl⟩

/-- A module that an issue asks for is not declared by the file, or it is ignored; and if it is the application of
the context, the same holds of both names of the application. -/
theorem validate_asks (options : GraphOptions) (probe : Probe) (units : List SourceUnit) (issues : List Issue)
    (validated : validate options probe units = .ok issues) (issue : Issue) (listed : issue ∈ issues)
    (module : ModuleRef) (asks : AsksFor issue module) :
    ∃ unit ∈ units, ∃ declaration context, issue.file = unit.path ∧ issue.line = declaration.line ∧
      unit.declaration = some declaration ∧ resolve unit declaration.module = .ok (some context) ∧
      (module ∈ declaration.deps → Ignored options module) ∧
      (module ∈ context.applications → ∀ dep ∈ context.applications, dep ∈ declaration.deps → Ignored options dep) := by
  obtain ⟨unit, among, declaration, context, violation, declares, resolved, found, rfl⟩ :=
    violation_of_issue validated listed
  obtain ⟨start, asking⟩ := asks
  have asked := Violation.required?_of_asking asking
  obtain ⟨apart, neither⟩ := not_mem_of_missing (missing_of_violations found asked) asked
  refine ⟨unit, among, declaration, context, rfl, rfl, declares, resolved, ?_, ?_⟩
  · intro declared
    exact ignored_of_not_counted declared apart
  · intro application dep mem declared
    exact ignored_of_not_counted declared (neither application dep mem)

def depotUnit : SourceUnit where
  tree := ⟨"lib/depot/infrastructure.ex", []⟩
  layer := .unknown
  declaration := some ⟨⟨["Depot", "Infrastructure"], by simp, by decide⟩,
    [⟨["Depot", "Domain"], by simp, by decide⟩], 2, []⟩

theorem validate_asks_depot :
    ∃ issues issue, validate {} (diskOf ["lib/depot/application_layer.ex"]) [depotUnit] = .ok issues ∧
      issue ∈ issues ∧ AsksFor issue ⟨["Depot", "ApplicationLayer"], by simp, by decide⟩ ∧
      ∃ unit ∈ [depotUnit], ∃ declaration context, issue.file = unit.path ∧ issue.line = declaration.line ∧
        unit.declaration = some declaration ∧ resolve unit declaration.module = .ok (some context) ∧
        (⟨["Depot", "ApplicationLayer"], by simp, by decide⟩ ∈ declaration.deps →
          Ignored {} ⟨["Depot", "ApplicationLayer"], by simp, by decide⟩) ∧
        (⟨["Depot", "ApplicationLayer"], by simp, by decide⟩ ∈ context.applications →
          ∀ dep ∈ context.applications, dep ∈ declaration.deps → Ignored {} dep) := by
  have validated : ∃ issue, validate {} (diskOf ["lib/depot/application_layer.ex"]) [depotUnit] = .ok [issue] ∧
      AsksFor issue ⟨["Depot", "ApplicationLayer"], by simp, by decide⟩ :=
    ⟨_, rfl, "Infrastructure layer must depend on Application layer. ", rfl⟩
  obtain ⟨issue, given, asks⟩ := validated
  exact ⟨_, _, given, List.mem_cons_self, asks, validate_asks {} _ _ _ given issue List.mem_cons_self _ asks⟩

/-- A declared dependency that is ignored is asked for. -/
theorem validate_asks_ignored :
    ∃ issue, validate { ignoredDeps := ["Depot"] } (diskOf ["lib/depot/domain.ex"]) [depotUnit] = .ok [issue] ∧
      AsksFor issue ⟨["Depot", "Domain"], by simp, by decide⟩ ∧
      ∃ declaration, depotUnit.declaration = some declaration ∧
        ⟨["Depot", "Domain"], by simp, by decide⟩ ∈ declaration.deps :=
  ⟨_, rfl, ⟨"Infrastructure layer must depend on Domain layer. ", by decide⟩, _, rfl, List.mem_cons_self⟩

end Boundary

end BoundaryLint
