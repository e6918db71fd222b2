import BoundaryLint.Lint.Run
import BoundaryLint.Proofs.Lint.Share
import BoundaryLint.Proofs.Pattern.DefaultLayer
import BoundaryLint.Proofs.Source.Outcome
import Mathlib

/-!
The rules as they run without configuration. Every default passes the checks that a configured value has
to pass, and with its defaults no rule ever fails to judge a file.
-/

namespace BoundaryLint

namespace Template

def Piece.isPlain : Piece → Bool
  | .literal _ => true
  | .field read => read = ⟨"context".toList, none, []⟩

theorem resolve_context [Host] (context : List Char) :
    resolve context ⟨"context".toList, none, []⟩ = .ok (.text context) := by
  have first : "context".toList.takeWhile (fun c => c ≠ '.' && c ≠ '[') = "context".toList := by decide
  have word : index? "context".toList = none := by decide
  have ended : "context".toList.drop "context".toList.length = [] := by decide
  simp only [resolve, first, word, ended, follow, convert]
  rfl

theorem expand_succeeds [Host] {template : String} (whole : (pieces .outside template.toList).2 = none)
    (plain : (pieces .outside template.toList).1.all Piece.isPlain = true) (context : String) :
    Succeeds (expand template context) := by
  refine .bind ?_ fun text _ => .ok _
  unfold expandChars
  dsimp only
  rw [whole]
  refine .bind (.mapM ?_) fun parts _ => .ok _
  intro piece mem
  cases piece with
  | literal c => exact .ok _
  | field read =>
    have named : read = ⟨"context".toList, none, []⟩ := of_decide_eq_true (List.all_eq_true.mp plain _ mem)
    rw [named]
    refine .bind ⟨_, resolve_context _⟩ fun target resolved => ?_
    rw [resolve_context] at resolved
    cases resolved
    exact .ok _

end Template

namespace Rule

def default (rule : Rule) : ActiveRule :=
  ⟨rule, rule.severity, rule.exitStatus.getD rule.category.exitStatus, rule.defaults⟩

/-- The defaults of a rule are valid, and with them it judges every file. -/
structure Judges [Host] (rule : Rule) : Prop where
  valid : rule.validate rule.defaults = .ok ()
  applies : ∀ unit, Succeeds (rule.appliesTo rule.defaults unit)
  inspects : ∀ unit probe, rule.appliesTo rule.defaults unit = .ok true →
    Succeeds (rule.inspect ⟨unit, probe, rule.defaults⟩)

theorem judges_noEnvInRuntime [Host] : noEnvInRuntime.Judges where
  valid := rfl
  applies unit := by
    simp only [noEnvInRuntime]
    split
    · exact ⟨_, rfl⟩
    · exact ⟨_, rfl⟩
  inspects _ _ _ := ⟨_, rfl⟩

theorem judges_noInlineQueriesInContexts [Host] : noInlineQueriesInContexts.Judges where
  valid := rfl
  applies unit := by
    simp only [noInlineQueriesInContexts]
    split
    · exact ⟨_, rfl⟩
    · exact ⟨_, rfl⟩
  inspects _ _ _ := ⟨_, rfl⟩

theorem judges_crossContextAccess [Host] (id label : String) (kind : PrivateKind) (excluded : List String) :
    (crossContextAccess id label kind excluded).Judges where
  valid := rfl
  applies unit := by
    simp only [crossContextAccess]
    split
    · exact ⟨_, rfl⟩
    split
    · exact ⟨_, rfl⟩
    split
    · exact ⟨_, rfl⟩
    · exact ⟨_, rfl⟩
  inspects unit probe _ := by
    simp only [crossContextAccess]
    split
    · exact ⟨_, rfl⟩
    · exact ⟨_, rfl⟩

theorem judges_noCrossContextSchemaAccess [Host] : noCrossContextSchemaAccess.Judges where
  valid := rfl
  applies _ := ⟨_, rfl⟩
  inspects unit probe _ := by
    cases located : ProjectPath.locate? unit.path with
    | none =>
      refine ⟨[], ?_⟩
      simp only [noCrossContextSchemaAccess, located]
      rfl
    | some project =>
      simp only [noCrossContextSchemaAccess, located]
      exact ⟨_, rfl⟩

theorem judges_servicesInCorrectLayer [Host] : servicesInCorrectLayer.Judges where
  valid := rfl
  applies unit := by
    simp only [servicesInCorrectLayer]
    split
    · exact ⟨_, rfl⟩
    · exact ⟨_, rfl⟩
  inspects unit probe _ := by
    simp only [servicesInCorrectLayer]
    split
    · exact ⟨_, rfl⟩
    · exact ⟨_, rfl⟩

theorem judges_infrastructureOrganization [Host] : infrastructureOrganization.Judges where
  valid := rfl
  applies _ := ⟨_, rfl⟩
  inspects unit probe _ := by
    simp only [infrastructureOrganization]
    split
    · split
      · exact ⟨_, rfl⟩
      · exact ⟨_, rfl⟩
    · exact ⟨_, rfl⟩

theorem partsAfter?_isSome {name : String} {parts : List String} (mem : name ∈ parts) :
    ∃ below, partsAfter? name parts = some below := by
  induction parts with
  | nil => cases mem
  | cons part rest ih =>
    by_cases same : part = name
    · exact ⟨rest, by rw [partsAfter?, if_pos same]⟩
    · rw [partsAfter?, if_neg same]
      exact ih ((List.mem_cons.mp mem).resolve_left (Ne.symm same))

/-- The rule looks at files below a directory of use cases only, so it finds this directory again. -/
theorem judges_useCasesInApplicationLayer [Host] : useCasesInApplicationLayer.Judges where
  valid := rfl
  applies _ := ⟨_, rfl⟩
  inspects unit probe applied := by
    simp only [useCasesInApplicationLayer, Except.ok.injEq, Option.any_eq_true] at applied
    obtain ⟨project, located, inside⟩ := applied
    have found : ProjectPath.locate? unit.path = some project := by
      unfold contextFile? at located
      split at located
      · cases located
      · exact (Option.filter_eq_some_iff.mp located).1
    obtain ⟨below, after⟩ := partsAfter?_isSome (List.mem_of_mem_dropLast (List.contains_iff_mem.mp inside))
    simp only [useCasesInApplicationLayer, found, after]
    split
    · exact ⟨_, rfl⟩
    · exact ⟨_, rfl⟩

theorem judges_policiesInCorrectLayer [Host] : policiesInCorrectLayer.Judges where
  valid := rfl
  applies _ := ⟨_, rfl⟩
  inspects unit probe _ := by
    simp only [policiesInCorrectLayer]
    split
    · exact ⟨_, rfl⟩
    split
    · exact ⟨_, rfl⟩
    · exact ⟨_, rfl⟩

theorem judges_missingQueriesModule [Host] : missingQueriesModule.Judges where
  valid := rfl
  applies unit := by
    simp only [missingQueriesModule]
    split
    · exact ⟨_, rfl⟩
    · exact ⟨_, rfl⟩
  inspects unit probe _ := by
    refine .bind ⟨_, rfl⟩ fun templates given => ?_
    cases given
    refine .bind (.mapM ?_) fun candidates _ => ?_
    · intro template mem
      have filled : Succeeds (Template.expand template (Text.dropEnding unit.filename ".ex")) := by
        rcases List.mem_cons.mp mem with rfl | later
        · exact Template.expand_succeeds (by decide) (by decide) _
        · cases List.mem_singleton.mp later
          exact Template.expand_succeeds (by decide) (by decide) _
      obtain ⟨text, same⟩ := filled
      exact ⟨_, by rw [same]; rfl⟩
    · split
      · exact .ok _
      · exact .ok _

theorem judges_architecturalLayersDefined [Host] : architecturalLayersDefined.Judges where
  valid := rfl
  applies _ := ⟨_, rfl⟩
  inspects unit probe _ := by
    simp only [architecturalLayersDefined]
    split
    · exact ⟨_, rfl⟩
    · next app found =>
      refine .bind ⟨_, rfl⟩ fun excluded _ => ?_
      split
      · exact .ok _
      · refine .bind ?_ fun files _ => .ok _
        unfold appKind
        split
        · exact ⟨_, rfl⟩
        split
        · exact ⟨_, rfl⟩
        · exact ⟨_, rfl⟩

theorem judges_publicApiBoundary [Host] : publicApiBoundary.Judges where
  valid := rfl
  applies unit := by
    simp only [publicApiBoundary]
    split
    · exact ⟨_, rfl⟩
    · exact ⟨_, rfl⟩
  inspects unit probe _ := by
    simp only [publicApiBoundary]
    split
    · exact ⟨_, rfl⟩
    · exact ⟨_, rfl⟩

theorem judges_all [Host] : ∀ rule ∈ all, rule.Judges := by
  intro rule mem
  simp only [all, List.mem_cons, List.not_mem_nil, or_false] at mem
  rcases mem with rfl | rfl | rfl | rfl | rfl | rfl | rfl | rfl | rfl | rfl | rfl | rfl | rfl | rfl | rfl | rfl | rfl |
    rfl | rfl | rfl | rfl | rfl | rfl | rfl | rfl | rfl | rfl | rfl
  any_goals exact ⟨rfl, fun _ => ⟨_, rfl⟩, fun _ _ _ => ⟨_, rfl⟩⟩
  · exact judges_noEnvInRuntime
  · exact judges_noInlineQueriesInContexts
  · exact judges_crossContextAccess _ _ _ _
  · exact judges_crossContextAccess _ _ _ _
  · exact judges_noCrossContextSchemaAccess
  · exact judges_servicesInCorrectLayer
  · exact judges_infrastructureOrganization
  · exact judges_useCasesInApplicationLayer
  · exact judges_policiesInCorrectLayer
  · exact judges_missingQueriesModule
  · exact judges_architecturalLayersDefined
  · exact judges_publicApiBoundary

theorem configure_default [Host] {rule : Rule} (judges : rule.Judges) : rule.configure {} = .ok
    (some rule.default) := by
  have activated : rule.activate none none [] = .ok rule.default := by
    simp only [activate, Options.configure, Options.override, Except.mapError, bind, Except.bind, judges.valid]
    rfl
  simp only [configure, if_true, activated]
  rfl

theorem configured_default [Host] : configured Config.default = .ok (all.map Rule.default) := by
  have each : all.mapM (fun rule => rule.configure (Config.default.rule rule.id)) =
      .ok (all.map fun rule => some rule.default) := by
    rw [mapM_eq_ok_iff, List.forall₂_map_right_iff, List.forall₂_same]
    intro rule mem
    exact configure_default (judges_all rule mem)
  have known : unknownId? Config.default = none := rfl
  simp only [configured, known, each, bind, Except.bind]
  rw [List.filterMap_map]
  simp [pure, Except.pure]
end Rule

namespace Lint

theorem applyRule_default [Host] {rule : Rule} (judges : rule.Judges) (probe : Probe) (unit : SourceUnit) :
    Succeeds (applyRule probe unit rule.default) := by
  have applies : Succeeds (rule.default.applicable unit) := by
    unfold ActiveRule.applicable
    split
    · exact judges.applies unit
    · split
      · exact judges.applies unit
      · exact .ok _
  refine .bind applies fun verdict given => ?_
  split
  · next wanted =>
    refine .bind (judges.inspects unit probe ?_) fun findings _ => .ok _
    subst wanted
    unfold ActiveRule.applicable at given
    split at given
    · exact given
    · split at given
      · exact given
      · cases given
  · exact .ok _

def defaultEngine (classifier : Classifier) : Engine := ⟨classifier, Rule.all.map Rule.default, some {}, {}, .low⟩

theorem ofConfig_default [Host] (usual : Classifier.ReadsDefaults Host.pattern) :
    Engine.ofConfig Config.default = .ok (defaultEngine .defaultClassifier) := by
  have classified : Config.default.classifier = .ok .defaultClassifier := by
    rw [Config.classifier, show Config.default.layerPatterns = defaultPatterns from rfl,
      Classifier.ofPatterns_default usual]
    rfl
  have graph : Boundary.GraphOptions.configure Config.default = .ok (some {}) := by
    have none : Config.default.rule Rule.boundaryDepsId = {} := rfl
    simp only [Boundary.GraphOptions.configure, none, List.map_nil, List.filter_nil, List.mergeSort_nil]
    rfl
  simp only [Engine.ofConfig, Rule.configured_default, graph, classified]
  rfl

end Lint

end BoundaryLint
