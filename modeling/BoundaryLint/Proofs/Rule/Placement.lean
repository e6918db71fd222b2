import BoundaryLint.Host.Ordinary
import BoundaryLint.Proofs.Boundary.MissingDependency
import BoundaryLint.Proofs.Path.Relocation
import BoundaryLint.Proofs.Rule.Default
import BoundaryLint.Proofs.Source.Outcome
import Mathlib

/-!
Files in the wrong place. Wherever a rule tells a file to move it has nothing to say about it any more, and the file stays
in its app. A file that could be a service or a notifier is told two places; as a service it is told again what it was told
before unless it lies in a context.
-/

namespace BoundaryLint

/-- The rule does not look at a file of this path, or has nothing to say about it. -/
def ActiveRule.Settled [Host] (active : ActiveRule) (path : String) : Prop :=
  ∀ unit : SourceUnit, unit.path = path → ∀ probe,
    active.applicable unit = .ok false ∨ active.check unit probe = .ok []

namespace Rule

variable {project : ProjectPath} {unit : SourceUnit} {options : Options} {probe : Probe} {finding : Finding}
  {findings : List Finding} {directory file path : String}

def MovesTo (message destination : String) : Prop :=
  '\n' ∉ destination.toList ∧ ∃ headline, message = headline ++ "\n  Move to: " ++ destination

/-- What a file keeps of its path when it moves. A use case keeps its path below the first directory of use cases,
without slashes in front; every other file keeps its name. -/
def Keeps (rule : Rule) (unit : SourceUnit) (project : ProjectPath) (kept : String) : Prop :=
  if rule.id = useCasesInApplicationLayer.id then
    ∃ above below, project.parts = above ++ "use_cases" :: below ∧ "use_cases" ∉ above ∧
      kept = Text.stripSlashes (Path.ofComponents below)
  else kept = unit.filename

section Messages

theorem eq_of_last_line {opening opening' line line' : String} (unbroken : '\n' ∉ line.toList)
    (unbroken' : '\n' ∉ line'.toList) (same : opening ++ "\n" ++ line = opening' ++ "\n" ++ line') : line = line' := by
  have chars : opening.toList ++ '\n' :: line.toList = opening'.toList ++ '\n' :: line'.toList := by
    simpa using congrArg String.toList same
  apply String.toList_inj.mp
  exact Text.eq_of_last_occurrence unbroken unbroken' chars

theorem moving_line (start rest : String) :
    start ++ "\n  Move to: " ++ rest = start ++ "\n" ++ ("  Move to: " ++ rest) := by
  apply String.toList_inj.mp
  simp

theorem MovesTo.eq_of_misplaced {headline destination place trigger : String}
    (sent : MovesTo (misplaced headline place trigger).message destination) (unbroken : '\n' ∉ place.toList) :
    destination = place := by
  obtain ⟨single, opening, message⟩ := sent
  have own : (misplaced headline place trigger).message = headline ++ "\n  Move to: " ++ place := rfl
  rw [own, moving_line, moving_line] at message
  have same := eq_of_last_line (by simpa using unbroken) (by simpa using single) message
  exact (String.append_right_inj _).mp same.symm

theorem not_movesTo_ambiguousService {service notifier destination : String} (unbroken : '\n' ∉ notifier.toList) :
    ¬ MovesTo (ambiguousService service notifier).message destination := by
  intro ⟨single, opening, message⟩
  have own : (ambiguousService service notifier).message =
      "Ambiguous service file location. Decide which layer this module belongs to.\n" ++
        ("  Orchestration: " ++ service) ++ "\n" ++ ("  External I/O: " ++ notifier) := by
    calc (ambiguousService service notifier).message
      _ = "Ambiguous service file location. Decide which layer this module belongs to.\n" ++
            ("  Orchestration: " ++ service ++ "\n") ++ ("  External I/O: " ++ notifier) := rfl
      _ = _ := by simp only [String.append_assoc]
  rw [own, moving_line] at message
  have same := eq_of_last_line (by simpa using unbroken) (by simpa using single) message
  have chars := congrArg String.toList same
  simp at chars

end Messages

section Files

theorem contextFile?_eq_some_iff :
    contextFile? path = some project ↔
      Path.isTest path = false ∧ Text.endsWith path ".ex" = true ∧ ProjectPath.locate? path = some project ∧
        project.isTopLevel = false ∧ Path.hasSuffix project.app ["_web"] = false := by
  unfold contextFile?
  split
  · next refused =>
    rw [Bool.or_eq_true, Bool.not_eq_true'] at refused
    constructor
    · intro found
      cases found
    · intro ⟨notTest, source, _⟩
      simp [notTest, source] at refused
  · next accepted =>
    rw [Bool.or_eq_true, not_or, Bool.not_eq_true, Bool.not_eq_true, Bool.not_eq_false'] at accepted
    rw [Option.filter_eq_some_iff, Bool.and_eq_true, Bool.not_eq_true', Bool.not_eq_true']
    simp only [accepted, true_and]

theorem partsAfter?_eq_some {name : String} {parts below : List String} (found : partsAfter? name parts = some below) :
    ∃ above, parts = above ++ name :: below ∧ name ∉ above := by
  induction parts with
  | nil => cases found
  | cons part rest ih =>
    rw [partsAfter?] at found
    split at found
    · next same =>
      cases found
      exact ⟨[], by rw [same]; rfl, List.not_mem_nil⟩
    · next other =>
      obtain ⟨above, split, first⟩ := ih found
      refine ⟨part :: above, by rw [split]; rfl, ?_⟩
      rw [List.mem_cons, not_or]
      exact ⟨Ne.symm other, first⟩

end Files

section Moving

variable {above : List String} {rule : Rule}

/-- A finding tells the file to move to a directory, where the rule has nothing to say about it. -/
structure Sends [Host] (rule : Rule) (unit : SourceUnit) (finding : Finding) (project : ProjectPath)
    (above : List String) (directory file : String) : Prop where
  sited : ProjectPath.Sited unit.path project above
  told : ∃ headline trigger, finding = misplaced headline (relocated project directory file) trigger
  plain : Plain directory
  named : file ≠ ""
  unbroken : '\n' ∉ file.toList
  keeps : rule.Keeps unit project (Text.stripSlashes file)
  quiet : ∀ moved options probe, ("/" ++ directory ++ "/" ++ Text.stripSlashes file).toList <:+ moved.path.toList →
    rule.inspect ⟨moved, probe, options⟩ = .ok []

theorem plain_services : Plain "application/services" := by decide

theorem plain_notifiers : Plain "infrastructure/notifiers" := by decide

theorem contains_of_suffix {kept : String} (ends : ("/" ++ directory ++ "/" ++ kept).toList <:+ path.toList) :
    Text.contains path ("/" ++ directory ++ "/") = true := by
  apply Text.contains_iff.mpr
  rw [String.toList_append] at ends
  exact (List.prefix_append _ _).isInfix.trans ends.isInfix

theorem filename_of_suffix {moved : SourceUnit} {name : String} (slashless : '/' ∉ name.toList)
    (ends : ("/" ++ directory ++ "/" ++ name).toList <:+ moved.path.toList) : moved.filename = name := by
  apply Path.basename_of_suffix slashless
  rw [String.append_assoc, String.toList_append] at ends
  exact (List.suffix_append _ _).trans ends

theorem filename_of_sited (sited : ProjectPath.Sited unit.path project above) :
    unit.filename ≠ "" ∧ '/' ∉ unit.filename.toList ∧ '\n' ∉ unit.filename.toList :=
  ⟨Path.basename_ne_empty sited.source, Path.slash_not_mem sited.basename_mem,
    Path.not_mem_component sited.unbroken sited.basename_mem⟩

theorem sends_name [Host] (sited : ProjectPath.Sited unit.path project above) (plain : Plain directory)
    (other : rule.id ≠ useCasesInApplicationLayer.id) {headline trigger : String}
    (quiet : ∀ moved options probe, moved.filename = unit.filename →
      ("/" ++ directory ++ "/" ++ unit.filename).toList <:+ moved.path.toList →
        rule.inspect ⟨moved, probe, options⟩ = .ok []) :
    Sends rule unit (misplaced headline (relocated project directory unit.filename) trigger) project above directory
      unit.filename := by
  obtain ⟨named, slashless, single⟩ := filename_of_sited sited
  have same := Path.stripSlashes_of_slashless slashless
  refine ⟨sited, ⟨headline, trigger, rfl⟩, plain, named, single, ?_, ?_⟩
  · rw [Keeps, if_neg other, same]
  · intro moved options probe ends
    rw [same] at ends
    exact quiet moved options probe (filename_of_suffix slashless ends) ends

/-- A service or a notifier is told where to go by its name; any other file among services is told both places. -/
theorem mem_servicePlacement {name : String} :
    finding ∈ servicePlacement project path name ↔
      (Text.endsWith name "_service.ex" = true ∧ Text.contains path "/application/services/" = false ∧
        finding = misplaced servicesHeadline (relocated project "application/services" name)
          "Application service not in application/services/") ∨
      (Text.endsWith name "_service.ex" = false ∧ Text.endsWith name "_notifier.ex" = true ∧
        Text.contains path "/infrastructure/notifiers/" = false ∧
        finding = misplaced servicesHeadline (relocated project "infrastructure/notifiers" name)
          "Infrastructure notifier not in infrastructure/notifiers/") ∨
      (Text.endsWith name "_service.ex" = false ∧ Text.endsWith name "_notifier.ex" = false ∧
        project.parts[1]? = some "services" ∧
        finding = ambiguousService (relocated project "application/services" name)
          (relocated project "infrastructure/notifiers" name)) := by
  cases service : Text.endsWith name "_service.ex" with
  | true => cases inside : Text.contains path "/application/services/" <;> simp [servicePlacement, service, inside]
  | false =>
    cases notifier : Text.endsWith name "_notifier.ex" with
    | true =>
      cases inside : Text.contains path "/infrastructure/notifiers/" <;> simp [servicePlacement, service, notifier, inside]
    | false =>
      by_cases second : project.parts[1]? = some "services"
      · simp [servicePlacement, service, notifier, second]
      · simp [servicePlacement, service, notifier, second]

theorem inspect_services_eq_nil [Host] {moved : SourceUnit}
    (quiet : ∀ project, ProjectPath.locate? moved.path = some project →
      ∀ finding, finding ∉ servicePlacement project moved.path moved.filename) (options : Options) (probe : Probe) :
    servicesInCorrectLayer.inspect ⟨moved, probe, options⟩ = .ok [] := by
  simp only [servicesInCorrectLayer]
  split
  · rfl
  · next project located => rw [List.eq_nil_iff_forall_not_mem.mpr (quiet project located)]

theorem sends_servicePlacement [Host] (sited : ProjectPath.Sited unit.path project above)
    (mem : finding ∈ servicePlacement project unit.path unit.filename) :
    (∃ directory file, Sends servicesInCorrectLayer unit finding project above directory file) ∨
      finding = ambiguousService (relocated project "application/services" unit.filename)
        (relocated project "infrastructure/notifiers" unit.filename) := by
  rcases mem_servicePlacement.mp mem with ⟨service, -, rfl⟩ | ⟨noService, notifier, -, rfl⟩ | ⟨-, -, -, same⟩
  · refine .inl ⟨_, _, sends_name sited plain_services (by decide) ?_⟩
    intro moved options probe same ends
    have inside : Text.contains moved.path "/application/services/" = true := contains_of_suffix ends
    apply inspect_services_eq_nil
    intro other _ finding
    simp [mem_servicePlacement, same, service, inside]
  · refine .inl ⟨_, _, sends_name sited plain_notifiers (by decide) ?_⟩
    intro moved options probe same ends
    have inside : Text.contains moved.path "/infrastructure/notifiers/" = true := contains_of_suffix ends
    apply inspect_services_eq_nil
    intro other _ finding
    simp [mem_servicePlacement, same, noService, notifier, inside]
  · exact .inr same

theorem plain_infrastructure {label : String} (kind : infrastructureKind? file = some (directory, label)) :
    Plain ("infrastructure/" ++ directory) := by
  unfold infrastructureKind? at kind
  split_ifs at kind
  all_goals cases kind
  all_goals decide

theorem sends_infrastructure [Host] (sited : ProjectPath.Sited unit.path project above)
    (inspected : infrastructureOrganization.inspect ⟨unit, probe, options⟩ = .ok findings) (mem : finding ∈ findings) :
    ∃ directory file, Sends infrastructureOrganization unit finding project above directory file := by
  simp only [infrastructureOrganization, sited.located] at inspected
  cases kind : infrastructureKind? unit.filename with
  | none =>
    simp only [kind] at inspected
    cases inspected
    cases mem
  | some found =>
    obtain ⟨directory, label⟩ := found
    simp only [kind] at inspected
    split at inspected
    · cases inspected
      cases mem
    · cases inspected
      cases List.mem_singleton.mp mem
      refine ⟨_, _, sends_name sited (plain_infrastructure kind) (by decide) ?_⟩
      intro moved options probe same ends
      have inside : Text.contains moved.path s!"/infrastructure/{directory}/{unit.filename}" = true := by
        apply Text.contains_iff.mpr
        have text : s!"/infrastructure/{directory}/{unit.filename}" =
            "/" ++ ("infrastructure/" ++ directory) ++ "/" ++ unit.filename := by
          rw [← String.append_assoc]
          rfl
        rw [text]
        exact ends.isInfix
      simp only [infrastructureOrganization, same, kind]
      split
      · next found =>
        cases found
        rw [if_pos inside]
      · rfl

theorem sends_policies [Host] (sited : ProjectPath.Sited unit.path project above)
    (inspected : policiesInCorrectLayer.inspect ⟨unit, probe, options⟩ = .ok findings) (mem : finding ∈ findings) :
    ∃ directory file, Sends policiesInCorrectLayer unit finding project above directory file := by
  simp only [policiesInCorrectLayer, sited.located] at inspected
  split at inspected
  · cases inspected
    cases mem
  · cases inspected
    cases List.mem_singleton.mp mem
    refine ⟨_, _, sends_name sited (by decide) (by decide) ?_⟩
    intro moved options probe same ends
    have inside : Text.contains moved.path "/domain/policies/" = true := contains_of_suffix ends
    simp only [policiesInCorrectLayer, Path.containsAny, List.any_cons, inside, Bool.true_or, if_true]
    split
    · rfl
    · rfl

theorem ofComponents_below_ne_empty {front rest : List String} (sited : ProjectPath.Sited unit.path project above)
    (below : "use_cases" ∈ project.parts.dropLast)
    (split : project.parts = front ++ "use_cases" :: rest) (first : "use_cases" ∉ front) :
    Path.ofComponents rest ≠ "" := by
  obtain ⟨outer, parts⟩ := sited.exists_parts
  cases rest with
  | nil =>
    rw [split, List.dropLast_concat] at below
    exact absurd below first
  | cons next more =>
    rw [ne_eq, Path.ofComponents_eq_empty_iff]
    rintro ⟨rfl, rfl⟩
    have last := congrArg List.getLast? (parts.symm.trans split)
    simp at last
    exact Path.basename_ne_empty sited.source last

theorem sends_useCases [Host] (sited : ProjectPath.Sited unit.path project above)
    (below : "use_cases" ∈ project.parts.dropLast)
    (inspected : useCasesInApplicationLayer.inspect ⟨unit, probe, options⟩ = .ok findings) (mem : finding ∈ findings) :
    ∃ directory file, Sends useCasesInApplicationLayer unit finding project above directory file := by
  simp only [useCasesInApplicationLayer, sited.located] at inspected
  split at inspected
  · cases inspected
    cases mem
  split at inspected
  · cases inspected
  · next rest after =>
    cases inspected
    cases List.mem_singleton.mp mem
    obtain ⟨front, split, first⟩ := partsAfter?_eq_some after
    refine ⟨_, _, sited, ⟨_, _, rfl⟩, by decide, ?_, ?_, ?_, ?_⟩
    · exact ofComponents_below_ne_empty sited below split first
    · apply Path.not_mem_ofComponents (by decide)
      intro part inside
      apply Path.not_mem_component sited.unbroken
      have listed : part ∈ project.parts := by simp [split, inside]
      exact listed
    · rw [Keeps, if_pos rfl]
      exact ⟨front, rest, split, first, rfl⟩
    · intro moved options probe ends
      have inside : Text.contains moved.path "/application/use_cases/" = true := contains_of_suffix ends
      simp only [useCasesInApplicationLayer, inside, if_true]
      split
      · rfl
      · rfl

theorem unbroken_of_sited (sited : ProjectPath.Sited unit.path project above) (plain : Plain directory)
    (named : file ≠ "") (single : '\n' ∉ file.toList) (unbroken : '\n' ∉ unit.path.toList) :
    '\n' ∉ (relocated project directory file).toList := by
  rw [relocated_eq plain named, String.toList_append, List.mem_append, not_or]
  refine ⟨fun broken => unbroken ?_, unbroken_relocated sited plain single⟩
  rw [sited.whole, String.toList_append]
  exact List.mem_append_left _ broken

/-- What a rule that sends a file on brings about. -/
theorem Sends.settles [Host] {active : ActiveRule} {destination : String}
    (sends : Sends active.rule unit finding project above directory file) (unbroken : '\n' ∉ unit.path.toList)
    (sent : MovesTo finding.message destination) :
    ∃ project directory kept, ProjectPath.locate? unit.path = some project ∧ active.rule.Keeps unit project kept ∧
      destination = project.base ++ directory ++ "/" ++ kept ∧
      ProjectPath.locate? destination = some { project with rest := directory ++ "/" ++ kept } ∧
      active.Settled destination := by
  have sited := sends.sited
  obtain ⟨headline, trigger, rfl⟩ := sends.told
  obtain rfl := sent.eq_of_misplaced (unbroken_of_sited sited sends.plain sends.named sends.unbroken unbroken)
  have place := @relocated_eq project _ _ sends.plain sends.named
  have found := locate?_relocated sited sends.plain sends.named sends.unbroken
  rw [ofComponents_kept] at place found
  refine ⟨project, _, _, sited.located, sends.keeps, by simpa only [String.append_assoc] using place, found, ?_⟩
  intro moved same probe
  right
  have ends := suffix_relocated sited sends.plain sends.named
  rw [← same] at ends
  rw [ActiveRule.check, sends.quiet moved active.options probe ends]
  rfl

end Moving

section Choice

variable {active : ActiveRule}

theorem exists_sited_of_contextFile? (chosen : contextFile? path = some project) :
    ∃ above, ProjectPath.Sited path project above := by
  obtain ⟨-, source, located, -⟩ := contextFile?_eq_some_iff.mp chosen
  exact ProjectPath.exists_sited located source

theorem services_appliesTo_iff :
    servicesInCorrectLayer.appliesTo options unit = .ok true ↔
      ∃ project exempt, contextFile? unit.path = some project ∧ listed options "exempt_files" = .ok exempt ∧
        unit.filename ∉ exempt ∧ (Path.hasSuffix unit.filename ["_service.ex", "_notifier.ex"] = true ∨
          Text.contains project.rest "services/" = true) := by
  simp only [servicesInCorrectLayer]
  cases chosen : contextFile? unit.path with
  | none => simp
  | some project =>
    cases read : listed options "exempt_files" with
    | error fault => simp [bind, Except.bind]
    | ok exempt => simp [bind, Except.bind, pure, Except.pure]

theorem sends_services [Host] {destination : String} (unbroken : '\n' ∉ unit.path.toList)
    (applies : servicesInCorrectLayer.appliesTo options unit = .ok true)
    (inspected : servicesInCorrectLayer.inspect ⟨unit, probe, options⟩ = .ok findings) (mem : finding ∈ findings)
    (sent : MovesTo finding.message destination) :
    ∃ project above directory file, Sends servicesInCorrectLayer unit finding project above directory file := by
  obtain ⟨project, exempt, chosen, -⟩ := services_appliesTo_iff.mp applies
  obtain ⟨above, sited⟩ := exists_sited_of_contextFile? chosen
  simp only [servicesInCorrectLayer, sited.located] at inspected
  cases inspected
  rcases sends_servicePlacement sited mem with sends | rfl
  · exact ⟨project, above, sends⟩
  · obtain ⟨named, -, single⟩ := filename_of_sited sited
    exact absurd sent (not_movesTo_ambiguousService (unbroken_of_sited sited plain_notifiers named single unbroken))

theorem exists_sited_of_infrastructure (applies : infrastructureOrganization.appliesTo options unit = .ok true) :
    ∃ project above, ProjectPath.Sited unit.path project above := by
  have chosen := Except.ok.inj applies
  rw [Bool.and_eq_true, Bool.and_eq_true, Bool.and_eq_true, Option.any_eq_true] at chosen
  obtain ⟨⟨⟨-, source⟩, project, located, -⟩, -⟩ := chosen
  obtain ⟨above, sited⟩ := ProjectPath.exists_sited located source
  exact ⟨project, above, sited⟩

theorem mem_check [Host] {issues : List Issue} {issue : Issue} (checked : active.check unit probe = .ok issues)
    (reported : issue ∈ issues) :
    ∃ findings, active.rule.inspect ⟨unit, probe, active.options⟩ = .ok findings ∧
      ∃ finding ∈ findings, active.issue unit.path finding = issue := by
  obtain ⟨findings, inspected, same⟩ := bind_eq_ok.mp checked
  cases same
  exact ⟨findings, inspected, List.mem_map.mp reported⟩

end Choice

/-- A file that is told to move finds a place of its app, with the name it has, where the rule has nothing more to say. -/
theorem check_moves [Host] {active : ActiveRule} {issues : List Issue} {issue : Issue} {destination : String}
    (placed : active.rule ∈ [servicesInCorrectLayer, infrastructureOrganization, useCasesInApplicationLayer,
      policiesInCorrectLayer])
    (unbroken : '\n' ∉ unit.path.toList) (applies : active.applicable unit = .ok true)
    (checked : active.check unit probe = .ok issues) (reported : issue ∈ issues)
    (sent : MovesTo issue.message destination) :
    ∃ project directory kept, ProjectPath.locate? unit.path = some project ∧ active.rule.Keeps unit project kept ∧
      destination = project.base ++ directory ++ "/" ++ kept ∧
      ProjectPath.locate? destination = some { project with rest := directory ++ "/" ++ kept } ∧
      active.Settled destination := by
  obtain ⟨findings, inspected, finding, mem, rfl⟩ := mem_check checked reported
  obtain ⟨rule, severity, exitStatus, options⟩ := active
  have sends : ∃ project above directory file, Sends rule unit finding project above directory file := by
    simp only [List.mem_cons, List.not_mem_nil, or_false] at placed
    rcases placed with rfl | rfl | rfl | rfl
    · exact sends_services unbroken applies inspected mem sent
    · obtain ⟨project, above, sited⟩ := exists_sited_of_infrastructure applies
      exact ⟨project, above, sends_infrastructure sited inspected mem⟩
    · have chosen := Except.ok.inj applies
      rw [Option.any_eq_true] at chosen
      obtain ⟨project, chosen, below⟩ := chosen
      obtain ⟨above, sited⟩ := exists_sited_of_contextFile? chosen
      exact ⟨project, above, sends_useCases sited (List.contains_iff_mem.mp below) inspected mem⟩
    · have chosen := Except.ok.inj applies
      rw [Option.any_eq_true] at chosen
      obtain ⟨project, chosen, -⟩ := chosen
      obtain ⟨above, sited⟩ := exists_sited_of_contextFile? chosen
      exact ⟨project, above, sends_policies sited inspected mem⟩
  obtain ⟨project, above, directory, file, sends⟩ := sends
  exact sends.settles unbroken sent

def fileAt (path : String) : SourceUnit := ⟨⟨path, []⟩, .unknown, none⟩

attribute [local instance] Host.ordinary in
theorem check_moves_order :
    ∃ issue, useCasesInApplicationLayer.default.check (fileAt "lib/shop/cart/use_cases/orders/create.ex") .denied =
        .ok [issue] ∧
      MovesTo issue.message "lib/shop/cart/application/use_cases/orders/create.ex" ∧
      useCasesInApplicationLayer.default.Settled "lib/shop/cart/application/use_cases/orders/create.ex" := by
  have placed : useCasesInApplicationLayer.default.rule ∈ [servicesInCorrectLayer, infrastructureOrganization,
      useCasesInApplicationLayer, policiesInCorrectLayer] := .tail _ (.tail _ (.head _))
  have applies : useCasesInApplicationLayer.default.applicable
      (fileAt "lib/shop/cart/use_cases/orders/create.ex") = .ok true := rfl
  obtain ⟨issue, checked, sent⟩ : ∃ issue,
      useCasesInApplicationLayer.default.check (fileAt "lib/shop/cart/use_cases/orders/create.ex") .denied = .ok [issue] ∧
        MovesTo issue.message "lib/shop/cart/application/use_cases/orders/create.ex" := ⟨_, rfl, by decide, _, rfl⟩
  obtain ⟨_, _, _, -, -, -, -, settled⟩ :=
    check_moves placed (by decide) applies checked List.mem_cons_self sent
  exact ⟨issue, checked, sent, settled⟩

attribute [local instance] Host.ordinary in
/-- The slashes in front of what a use case keeps are not kept. -/
theorem check_moves_slashes :
    useCasesInApplicationLayer.default.applicable (fileAt "lib/shop/cart/use_cases///create.ex") = .ok true ∧
      (ProjectPath.locate? "lib/shop/cart/use_cases///create.ex").map (partsAfter? "use_cases" ·.parts) =
        some (some ["", "", "create.ex"]) ∧
      Path.ofComponents ["", "", "create.ex"] = "//create.ex" ∧
      ∃ issue, useCasesInApplicationLayer.default.check (fileAt "lib/shop/cart/use_cases///create.ex") .denied =
          .ok [issue] ∧
        MovesTo issue.message "lib/shop/cart/application/use_cases/create.ex" ∧
        ¬ "//create.ex".toList <:+ "lib/shop/cart/application/use_cases/create.ex".toList :=
  ⟨rfl, by decide, by decide, _, rfl, ⟨by decide, _, rfl⟩, by decide⟩

section Ambiguity

variable {active : ActiveRule} {above : List String}

theorem place_of_relocated (sited : ProjectPath.Sited unit.path project above) (plain : Plain directory)
    {moved : SourceUnit} (same : moved.path = relocated project directory unit.filename) :
    moved.filename = unit.filename ∧ ProjectPath.locate? moved.path =
      some { project with rest := Path.ofComponents (project.contextParts ++ [directory, unit.filename]) } := by
  obtain ⟨named, slashless, single⟩ := filename_of_sited sited
  have located := locate?_relocated sited plain named single
  have ends := suffix_relocated sited plain named
  rw [Path.stripSlashes_of_slashless slashless] at located ends
  rw [← same] at located ends
  exact ⟨filename_of_suffix slashless ends, located⟩

theorem settled_relocated [Host] (services : active.rule = servicesInCorrectLayer)
    (sited : ProjectPath.Sited unit.path project above) (plain : Plain directory)
    (noService : Text.endsWith unit.filename "_service.ex" = false)
    (noNotifier : Text.endsWith unit.filename "_notifier.ex" = false)
    (elsewhere : (project.contextParts ++ Path.components directory ++ [unit.filename])[1]? ≠ some "services") :
    active.Settled (relocated project directory unit.filename) := by
  intro moved same probe
  obtain ⟨name, located⟩ := place_of_relocated sited plain same
  right
  rw [ActiveRule.check, services, inspect_services_eq_nil]
  · rfl
  intro other found finding
  rw [located, Option.some.injEq] at found
  rw [← parts_relocated project directory (filename_of_sited sited).2.1, found] at elsewhere
  simp [mem_servicePlacement, name, noService, noNotifier, elsewhere]

theorem components_services : Path.components "application/services" = ["application", "services"] := by decide

theorem components_notifiers : Path.components "infrastructure/notifiers" = ["infrastructure", "notifiers"] := by decide

theorem components_service {name : String} (slashless : '/' ∉ name.toList) :
    Path.components ("application/services/" ++ name) = ["application", "services", name] := by
  have text : "application/services/" ++ name = "application/services" ++ "/" ++ name := by
    apply String.toList_inj.mp
    simp
  rw [text, Path.components_append, components_services, Path.components_of_slashless slashless]
  rfl

theorem contextFile?_relocated (sited : ProjectPath.Sited unit.path project above)
    (chosen : contextFile? unit.path = some project) (outside : ¬ project.InContext) {moved : SourceUnit}
    (same : moved.path = relocated project "application/services" unit.filename) :
    contextFile? moved.path = some { project with rest := "application/services/" ++ unit.filename } := by
  obtain ⟨notTest, source, -, -, noWeb⟩ := contextFile?_eq_some_iff.mp chosen
  obtain ⟨named, slashless, -⟩ := filename_of_sited sited
  obtain ⟨name, located⟩ := place_of_relocated sited plain_services same
  have rest : Path.ofComponents (project.contextParts ++ ["application/services", unit.filename]) =
      "application/services/" ++ unit.filename := by
    rw [ProjectPath.contextParts, if_neg outside, List.nil_append, Path.ofComponents_cons_cons, Path.ofComponents,
      String.intercalate_singleton]
    rfl
  rw [rest] at located
  apply contextFile?_eq_some_iff.mpr
  refine ⟨?_, ?_, located, ?_, noWeb⟩
  · have split : Path.components moved.path =
        above ++ "lib" :: project.app :: ["application", "services"] ++ [unit.filename] := by
      rw [same, relocated_eq plain_services named, Path.stripSlashes_of_slashless slashless, rest,
        ProjectPath.components_base_append sited.split sited.base, components_service slashless]
      simp
    obtain ⟨front, parts⟩ := sited.exists_parts
    have whole : Path.components unit.path = above ++ "lib" :: project.app :: front ++ [Path.basename unit.path] := by
      simp [sited.split, parts]
    rw [Path.isTest, whole, List.dropLast_concat] at notTest
    rw [Path.isTest, split, List.dropLast_concat]
    simp_all
  · apply Path.endsWith_of_basename
    rw [SourceUnit.filename] at name
    rw [name]
    exact Path.endsWith_basename (by decide) source
  · simp [ProjectPath.isTopLevel]

theorem not_settled_relocated [Host] (services : active.rule = servicesInCorrectLayer)
    (sited : ProjectPath.Sited unit.path project above) {exempt : List String}
    (chosen : contextFile? unit.path = some project) (read : listed active.options "exempt_files" = .ok exempt)
    (kept : unit.filename ∉ exempt) (noService : Text.endsWith unit.filename "_service.ex" = false)
    (noNotifier : Text.endsWith unit.filename "_notifier.ex" = false) (outside : ¬ project.InContext) :
    ¬ active.Settled (relocated project "application/services" unit.filename) := by
  intro settled
  obtain ⟨moved, same⟩ : ∃ moved : SourceUnit, moved.path = relocated project "application/services" unit.filename :=
    ⟨⟨⟨_, []⟩, .unknown, none⟩, rfl⟩
  have again := contextFile?_relocated sited chosen outside same
  obtain ⟨name, -⟩ := place_of_relocated sited plain_services same
  rcases settled moved same .denied with skipped | quiet
  · rw [ActiveRule.applicable, services] at skipped
    have applies : servicesInCorrectLayer.appliesTo active.options moved = .ok true := by
      apply services_appliesTo_iff.mpr
      refine ⟨_, exempt, again, read, name ▸ kept, .inr ?_⟩
      apply Text.contains_iff.mpr
      exact ⟨"application/".toList, unit.filename.toList, by simp⟩
    rw [applies] at skipped
    cases skipped
  · obtain ⟨findings, inspected, nothing⟩ := bind_eq_ok.mp quiet
    obtain ⟨-, -, located, -⟩ := contextFile?_eq_some_iff.mp again
    rw [services] at inspected
    simp only [servicesInCorrectLayer, located, name, Except.ok.injEq] at inspected
    have empty : findings = [] := List.map_eq_nil_iff.mp (Except.ok.inj nothing)
    have second : (ProjectPath.parts { project with rest := "application/services/" ++ unit.filename })[1]? =
        some "services" := by
      rw [ProjectPath.parts, components_service (filename_of_sited sited).2.1]
      rfl
    have silent := List.eq_nil_iff_forall_not_mem.mp (inspected.trans empty)
    exact silent _ (mem_servicePlacement.mpr (.inr (.inr ⟨noService, noNotifier, second, rfl⟩)))

theorem relocated_eq_path_iff (sited : ProjectPath.Sited unit.path project above) (plain : Plain directory) :
    relocated project directory unit.filename = unit.path ↔
      project.parts = project.contextParts ++ Path.components directory ++ [unit.filename] := by
  obtain ⟨named, slashless, single⟩ := filename_of_sited sited
  rw [relocated_eq plain named, Path.stripSlashes_of_slashless slashless, sited.whole, String.append_right_inj,
    ← parts_relocated project directory slashless, ProjectPath.parts, ProjectPath.parts, Path.components_inj, eq_comm]

/-- The place of a notifier does not lie among the services of a context or of the app. -/
theorem second_of_notifier (project : ProjectPath) (name : String) :
    (project.contextParts ++ Path.components "infrastructure/notifiers" ++ [name])[1]? ≠ some "services" := by
  rw [ProjectPath.contextParts, components_notifiers]
  split
  · simp
  · simp

/-- Only the services of the app itself stay where they are. -/
theorem parts_eq_service_iff {name : String} (second : project.parts[1]? = some "services") :
    project.parts = project.contextParts ++ Path.components "application/services" ++ [name] ↔
      project.parts = ["application", "services", name] := by
  rw [components_services]
  constructor
  · intro same
    rw [same, ProjectPath.contextParts] at second
    rw [same, ProjectPath.contextParts]
    split at second
    · simp at second
    · next outside => rw [if_neg outside]; rfl
  · intro same
    have outside : ¬ project.InContext := by
      intro inside
      apply inside.2
      rw [ProjectPath.context, same, List.headD_cons]
      decide
    rw [same, ProjectPath.contextParts, if_neg outside]
    rfl

/-- Of the two places that an ambiguous file is told, the one of a notifier always settles the rule, the one of a service
exactly if the file lies in a context. -/
theorem check_ambiguous [Host] {issues : List Issue} {issue : Issue} (services : active.rule = servicesInCorrectLayer)
    (applies : active.applicable unit = .ok true) (checked : active.check unit probe = .ok issues)
    (reported : issue ∈ issues) (ambiguous : issue.trigger = "Ambiguous service file location") :
    ∃ project service notifier, ProjectPath.locate? unit.path = some project ∧
      issue = active.issue unit.path (ambiguousService service notifier) ∧
      active.Settled notifier ∧ (active.Settled service ↔ project.InContext) ∧ notifier ≠ unit.path ∧
      (service = unit.path ↔ project.parts = ["application", "services", unit.filename]) := by
  obtain ⟨findings, inspected, finding, mem, rfl⟩ := mem_check checked reported
  rw [ActiveRule.applicable, services] at applies
  obtain ⟨project, exempt, chosen, read, kept, -⟩ := services_appliesTo_iff.mp applies
  obtain ⟨above, sited⟩ := exists_sited_of_contextFile? chosen
  rw [services] at inspected
  simp only [servicesInCorrectLayer, sited.located] at inspected
  cases inspected
  rcases mem_servicePlacement.mp mem with ⟨-, -, rfl⟩ | ⟨-, -, -, rfl⟩ | ⟨noService, noNotifier, second, rfl⟩
  · simp [ActiveRule.issue, misplaced] at ambiguous
  · simp [ActiveRule.issue, misplaced] at ambiguous
  refine ⟨project, _, _, sited.located, rfl, ?_, ⟨?_, ?_⟩, ?_, ?_⟩
  · apply settled_relocated services sited plain_notifiers noService noNotifier
    exact second_of_notifier project unit.filename
  · contrapose
    exact not_settled_relocated services sited chosen read kept noService noNotifier
  · intro inside
    apply settled_relocated services sited plain_services noService noNotifier
    rw [ProjectPath.contextParts, if_pos inside, components_services]
    simp
  · rw [ne_eq, relocated_eq_path_iff sited plain_notifiers]
    intro same
    rw [same] at second
    exact second_of_notifier project unit.filename second
  · rw [relocated_eq_path_iff sited plain_services]
    exact parts_eq_service_iff second

attribute [local instance] Host.ordinary in
theorem check_ambiguous_tax :
    ∃ service notifier, servicesInCorrectLayer.default.check (fileAt "lib/shop/cart/services/tax.ex") .denied =
        .ok [servicesInCorrectLayer.default.issue "lib/shop/cart/services/tax.ex" (ambiguousService service notifier)] ∧
      servicesInCorrectLayer.default.Settled service ∧ servicesInCorrectLayer.default.Settled notifier ∧
      service ≠ "lib/shop/cart/services/tax.ex" ∧ notifier ≠ "lib/shop/cart/services/tax.ex" := by
  have applies : servicesInCorrectLayer.default.applicable (fileAt "lib/shop/cart/services/tax.ex") = .ok true := rfl
  obtain ⟨issue, checked, ambiguous⟩ : ∃ issue,
      servicesInCorrectLayer.default.check (fileAt "lib/shop/cart/services/tax.ex") .denied = .ok [issue] ∧
        issue.trigger = "Ambiguous service file location" := ⟨_, rfl, rfl⟩
  obtain ⟨project, service, notifier, located, rfl, settled, exactly, other, same⟩ :=
    check_ambiguous rfl applies checked List.mem_cons_self ambiguous
  have found : ProjectPath.locate? "lib/shop/cart/services/tax.ex" =
      some ⟨"lib/shop/", "shop", "cart/services/tax.ex"⟩ := by decide
  obtain rfl := Option.some.inj (found.symm.trans located)
  refine ⟨service, notifier, checked, exactly.mpr (by decide), settled, ?_, other⟩
  intro own
  exact absurd (same.mp own) (by decide)

attribute [local instance] Host.ordinary in
/-- A service of the app itself is told to move to the place where it is. -/
theorem check_ambiguous_again :
    servicesInCorrectLayer.default.applicable (fileAt "lib/shop/application/services/tax.ex") = .ok true ∧
      servicesInCorrectLayer.default.check (fileAt "lib/shop/application/services/tax.ex") .denied =
        .ok [servicesInCorrectLayer.default.issue "lib/shop/application/services/tax.ex"
          (ambiguousService "lib/shop/application/services/tax.ex" "lib/shop/infrastructure/notifiers/tax.ex")] :=
  ⟨rfl, rfl⟩

end Ambiguity

end Rule

end BoundaryLint
