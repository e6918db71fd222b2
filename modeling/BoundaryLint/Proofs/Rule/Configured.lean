import BoundaryLint.Proofs.Rule.Default
import BoundaryLint.Proofs.Rule.OptionKind
import Mathlib

/-!
The rules as they run with options of their own. Once the values of its options are accepted, a rule chooses
its files without a fault and judges every file it chose; only a template of paths can turn out to be one that
cannot be filled in.
-/

namespace BoundaryLint.Rule

def contextName (unit : SourceUnit) : String := Text.dropEnding unit.filename ".ex"

def Unfilled [Host] (rule : Rule) (options : Options) (unit : SourceUnit) (fault : RuleFault) : Prop :=
  rule = missingQueriesModule ∧ ∃ templates, strings options "queries_paths" = .ok templates ∧
    ∃ template ∈ templates, ∃ reason, Template.expand template (contextName unit) = .error reason ∧
      fault = .template reason

/-- Whatever values are accepted, the rule can read its options. -/
structure Reads [Host] (rule : Rule) : Prop where
  applies : ∀ {values options}, Options.Keeps rule.defaults values options → ∀ unit,
    Succeeds (rule.appliesTo options unit)
  inspects : ∀ {values options}, Options.Keeps rule.defaults values options → ∀ unit probe,
    rule.appliesTo options unit = .ok true →
      Outcome (fun _ => True) (rule.Unfilled options unit) (rule.inspect ⟨unit, probe, options⟩)

theorem reads_of_total [Host] {rule : Rule} (applies : ∀ options unit, Succeeds (rule.appliesTo options unit))
    (inspects : ∀ options unit probe, rule.appliesTo options unit = .ok true →
      Succeeds (rule.inspect ⟨unit, probe, options⟩)) : rule.Reads where
  applies _ unit := applies _ unit
  inspects _ unit probe applied := (inspects _ unit probe applied).outcome

theorem reads_noInfrastructureInDomainEntities [Host] : noInfrastructureInDomainEntities.Reads where
  applies _ _ := .ok _
  inspects keeps unit probe _ := by
    apply Succeeds.outcome
    apply Succeeds.bind (keeps.strings_succeeds rfl)
    intro namespaces _
    apply Succeeds.bind (keeps.strings_succeeds rfl)
    intro services _
    exact .ok _

theorem reads_noEnvInRuntime [Host] : noEnvInRuntime.Reads where
  applies keeps unit := by
    simp only [noEnvInRuntime]
    split
    · exact .ok _
    · exact .bind (keeps.listed rfl) fun allowed _ => .ok _
  inspects _ _ _ _ := trivial

theorem reads_noBusinessLogicInSchemas [Host] : noBusinessLogicInSchemas.Reads where
  applies _ _ := .ok _
  inspects keeps unit probe _ := by
    apply Succeeds.outcome
    apply Succeeds.bind (keeps.strings_succeeds rfl)
    intro business _
    apply Succeeds.bind (keeps.strings_succeeds rfl)
    intro dataFunctions _
    exact .ok _

theorem reads_noInfrastructureAliasInApplication [Host] : noInfrastructureAliasInApplication.Reads where
  applies keeps _ := .bind (keeps.listed rfl) fun _ _ => .ok _
  inspects keeps _ _ _ := Succeeds.outcome (.bind (keeps.strings_succeeds rfl) fun _ _ => .ok _)

theorem reads_useCaseAdoption [Host] : useCaseAdoption.Reads where
  applies _ _ := .ok _
  inspects keeps unit probe _ := by
    apply Succeeds.outcome
    have known : useCaseAdoption.defaults.lookup "with_clause_threshold" = some (.integer 5) := rfl
    obtain ⟨threshold, read, -⟩ := keeps.integer known
    apply Succeeds.bind (Succeeds.mapError_iff.mpr ⟨threshold, read⟩)
    intro threshold _
    exact .ok _

theorem reads_noInlineQueriesInContexts [Host] : noInlineQueriesInContexts.Reads where
  applies keeps unit := by
    simp only [noInlineQueriesInContexts]
    split
    · exact .bind (keeps.listed rfl) fun known _ => .ok _
    · exact .ok _
  inspects _ _ _ _ := trivial

theorem reads_useCaseConsistentInjection [Host] : useCaseConsistentInjection.Reads where
  applies _ _ := .ok _
  inspects keeps _ _ _ := Succeeds.outcome (.bind (keeps.strings_succeeds rfl) fun _ _ => .ok _)

theorem reads_crossContextAccess [Host] (id label : String) (kind : PrivateKind) (excluded : List String) :
    (crossContextAccess id label kind excluded).Reads where
  applies keeps unit := by
    simp only [crossContextAccess]
    split
    · exact .ok _
    split
    · exact .ok _
    split
    · exact .ok _
    · exact .bind (keeps.listed rfl) fun known _ => .ok _
  inspects _ unit probe _ := by
    apply Succeeds.outcome
    simp only [crossContextAccess]
    split
    · exact .ok _
    · exact .ok _

theorem reads_noCrossContextSchemaAccess [Host] : noCrossContextSchemaAccess.Reads where
  applies _ _ := .ok _
  inspects keeps unit probe _ := by
    apply Succeeds.outcome
    have known : noCrossContextSchemaAccess.defaults.lookup "schema_contexts" = some (textTable
        [("User", "accounts"), ("Workspace", "workspaces"), ("WorkspaceMember", "workspaces"), ("Project", "projects"),
          ("Page", "pages"), ("PageComponent", "pages"), ("Note", "notes")]) := rfl
    apply Succeeds.bind (Succeeds.mapError_iff.mpr (keeps.entries known))
    intro owners _
    split
    · exact .ok _
    · exact .ok _

theorem reads_servicesInCorrectLayer [Host] : servicesInCorrectLayer.Reads where
  applies keeps unit := by
    simp only [servicesInCorrectLayer]
    split
    · exact .ok _
    · exact .bind (keeps.listed rfl) fun exempt _ => .ok _
  inspects _ unit probe _ := by
    apply Succeeds.outcome
    simp only [servicesInCorrectLayer]
    split
    · exact .ok _
    · exact .ok _

theorem reads_architecturalLayersDefined [Host] : architecturalLayersDefined.Reads where
  applies _ _ := .ok _
  inspects keeps unit probe _ := by
    apply Succeeds.outcome
    simp only [architecturalLayersDefined]
    split
    · exact .ok _
    apply Succeeds.bind (keeps.strings_succeeds rfl)
    intro excluded _
    split
    · exact .ok _
    apply Succeeds.bind
    · -- Every kind of app has an option of its own.
      unfold appKind
      split
      · exact keeps.strings_succeeds rfl
      split
      · exact keeps.strings_succeeds rfl
      · exact keeps.strings_succeeds rfl
    · intro files _
      exact .ok _

theorem reads_publicApiBoundary [Host] : publicApiBoundary.Reads where
  applies keeps unit := by
    simp only [publicApiBoundary]
    split
    · apply Succeeds.bind (keeps.listed rfl)
      intro excluded _
      apply Succeeds.bind (keeps.listed rfl)
      intro presentation _
      apply Succeeds.bind (keeps.listed rfl)
      intro tools _
      exact .ok _
    · exact .ok _
  inspects _ unit probe _ := by
    apply Succeeds.outcome
    simp only [publicApiBoundary]
    split
    · exact .ok _
    · exact .ok _

/-- The templates are filled in one by one, and the first that cannot be filled in ends the check. -/
theorem reads_missingQueriesModule [Host] : missingQueriesModule.Reads where
  applies keeps unit := by
    simp only [missingQueriesModule]
    split
    · exact .bind (keeps.listed rfl) fun known _ => .ok _
    · exact .ok _
  inspects {values options} keeps unit probe _ := by
    have known : missingQueriesModule.defaults.lookup "queries_paths" = some (textList
        ["\x7bcontext\x7d/queries.ex", "\x7bcontext\x7d/infrastructure/queries"]) := rfl
    obtain ⟨templates, read, -⟩ := keeps.strings known
    have each : ∀ template ∈ templates, Outcome (fun _ => True) (missingQueriesModule.Unfilled options unit)
        (do return Path.join [Path.dirname unit.path,
          ← (Template.expand template (contextName unit)).mapError .template]) := by
      intro template mem
      cases filled : Template.expand template (contextName unit) with
      | ok text => exact trivial
      | error reason => exact ⟨rfl, templates, read, template, mem, reason, filled, rfl⟩
    simp only [missingQueriesModule, read]
    apply (Outcome.mapM each).bind
    intro candidates _
    split
    · exact trivial
    · exact trivial

theorem reads_all [Host] : ∀ rule ∈ all, rule.Reads := by
  intro rule mem
  simp only [all, List.mem_cons, List.not_mem_nil, or_false] at mem
  rcases mem with rfl | rfl | rfl | rfl | rfl | rfl | rfl | rfl | rfl | rfl | rfl | rfl | rfl | rfl | rfl | rfl | rfl |
    rfl | rfl | rfl | rfl | rfl | rfl | rfl | rfl | rfl | rfl | rfl
  any_goals exact reads_of_total (fun _ _ => ⟨_, rfl⟩) fun _ _ _ _ => ⟨_, rfl⟩
  · exact reads_noInfrastructureInDomainEntities
  · exact reads_noEnvInRuntime
  · exact reads_noBusinessLogicInSchemas
  · exact reads_noInfrastructureAliasInApplication
  · exact reads_useCaseAdoption
  · exact reads_noInlineQueriesInContexts
  · exact reads_useCaseConsistentInjection
  · exact reads_crossContextAccess _ _ _ _
  · exact reads_crossContextAccess _ _ _ _
  · exact reads_noCrossContextSchemaAccess
  · exact reads_servicesInCorrectLayer
  · exact reads_of_total (fun _ => judges_infrastructureOrganization.applies) fun _ =>
      judges_infrastructureOrganization.inspects
  · exact reads_of_total (fun _ => judges_useCasesInApplicationLayer.applies) fun _ =>
      judges_useCasesInApplicationLayer.inspects
  · exact reads_of_total (fun _ => judges_policiesInCorrectLayer.applies) fun _ =>
      judges_policiesInCorrectLayer.inspects
  · exact reads_missingQueriesModule
  · exact reads_architecturalLayersDefined
  · exact reads_publicApiBoundary

end BoundaryLint.Rule
