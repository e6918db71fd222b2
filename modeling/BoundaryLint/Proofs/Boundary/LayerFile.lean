import BoundaryLint.Pattern.Parser
import BoundaryLint.Proofs.Boundary.Layering
import BoundaryLint.Proofs.Path.Components
import Mathlib

/-!
The layer files of an app. One rule demands them and the boundary check judges them, each with a list of file names of
its own. The check knows all the demanded files by name but `infrastructure_layer.ex`, which it takes to be of the
layer that the file was classified as.
-/

namespace BoundaryLint

namespace Rule

/-- A core app has to define the file, if nothing else is configured. -/
def Demands (file : String) : Prop :=
  ∃ files, strings architecturalLayersDefined.defaults "core_layers" = .ok files ∧ file ∈ files

theorem demands_iff {file : String} :
    Demands file ↔ file ∈ ["domain.ex", "application_layer.ex", "infrastructure_layer.ex"] := by
  constructor
  · rintro ⟨files, listed, mem⟩
    cases listed
    exact mem
  · intro mem
    exact ⟨_, rfl, mem⟩

theorem hasSuffix_of_core {app : String} (core : appKind app = "core") :
    Path.hasSuffix app ["_web", "_tools"] = false := by
  unfold appKind at core
  by_cases web : Text.endsWith app "_web" = true
  · rw [if_pos web] at core
    contradiction
  by_cases tools : Text.endsWith app "_tools" = true
  · rw [if_neg web, if_pos tools] at core
    contradiction
  simp [Path.hasSuffix, web, tools]

end Rule

structure CoreApp (app : String) : Prop where
  slashless : '/' ∉ app.toList
  untested : app ≠ "test"
  core : Rule.appKind app = "core"
  named : ModuleRef.isName (Path.camelize app) = true

namespace CoreApp

variable {app file path : String}

theorem ne_empty (dir : CoreApp app) : app ≠ "" := by
  rintro rfl
  have named := dir.named
  contradiction

theorem components_path (dir : CoreApp app) (plain : '/' ∉ file.toList) :
    Path.components s!"lib/{app}/{file}" = ["lib", app, file] := by
  have joined : s!"lib/{app}/{file}" = Path.ofComponents ["lib", app, file] := by
    simp [Path.ofComponents, toString, String.append_assoc]
  rw [joined]
  apply Path.components_ofComponents (List.cons_ne_nil _ _)
  simp [plain, dir.slashless]

section Placed

variable (dir : CoreApp app) (placed : Path.components path = ["lib", app, file])

include dir placed

theorem appName?_eq (visible : file ≠ "") (unbroken : '\n' ∉ file.toList) : Path.appName? path = some app := by
  have outside : Path.umbrellaApp? path = none := by simp [Path.umbrellaApp?, placed, Path.umbrellaAppOf]
  have line : Path.singleLine? (Path.ofComponents [file]) = some file := by
    rw [Path.ofComponents, String.intercalate_singleton, Path.singleLine?_of_unbroken unbroken visible]
  simp [Path.appName?, outside, ProjectPath.locate?, placed, ProjectPath.locateFrom, dir.ne_empty, line]

theorem inScope_default (visible : file ≠ "") (unbroken : '\n' ∉ file.toList) : Boundary.inScope {} path = true := by
  have outside : Path.isTest path = false := by simp [Path.isTest, placed, dir.untested.symm]
  simp [Boundary.inScope, outside, dir.appName?_eq placed visible unbroken, Rule.hasSuffix_of_core dir.core]

/-- The app is the context of its own files, even if it is called like a layer. -/
theorem modulePrefix?_eq (visible : file ≠ "") (unbroken : '\n' ∉ file.toList) :
    Path.modulePrefix? path = ModuleRef.ofName? (Path.camelize app) := by
  have directories : Path.libDirectories? path = none ∨ Path.libDirectories? path = some [app] := by
    rw [Path.libDirectories?, placed, Path.libDirectoriesOf]
    split
    · exact .inr rfl
    · left
      simp [Path.libDirectoriesOf, Path.ofComponents]
  rw [Path.modulePrefix?, dir.appName?_eq placed visible unbroken, Option.bind_some]
  rcases directories with none | own
  · rw [none]
  · by_cases layer : app ∈ Path.layerDirectories
    · simp [own, layer]
    · simp [own, layer]

theorem isSome_modulePrefix? (visible : file ≠ "") (unbroken : '\n' ∉ file.toList) :
    (Path.modulePrefix? path).isSome = true := by
  have valid : ∀ segment ∈ Text.split '.' (Path.camelize app), ModuleRef.isSegment segment = true :=
    List.all_eq_true.mp dir.named
  rw [dir.modulePrefix?_eq placed visible unbroken, ModuleRef.ofName?, ModuleRef.ofSegments,
    dif_neg (Text.split_ne_nil _ _), dif_pos valid]
  rfl

end Placed

end CoreApp

namespace Boundary

variable {options : GraphOptions} {probe : Probe} {unit : SourceUnit} {context : Context} {declaration : Declaration}

/-- A file that is named like no lifecycle module has the layer of its name, or else the one it was classified as. -/
theorem resolve_of_modulePrefix? (rooted : (Path.modulePrefix? unit.path).isSome = true)
    (plain : unit.filename ≠ "application.ex") (module : ModuleRef) :
    ∃ context, resolve unit module = .ok (some context) ∧
      context.layer = (layerOfFile? unit.filename).getD unit.layer := by
  have layer : layerOf unit = .ok ((layerOfFile? unit.filename).getD unit.layer) := by
    rw [layerOf, if_neg plain]
    rfl
  cases found : (rootOfModule? module).or (Path.modulePrefix? unit.path) with
  | none =>
    rw [Option.or_eq_none_iff] at found
    simp [found.2] at rooted
  | some root =>
    refine ⟨⟨root, Path.contextDirectory unit.path, (layerOfFile? unit.filename).getD unit.layer,
      (ProjectPath.locate? unit.path).isSome⟩, ?_, rfl⟩
    simp [resolve, found, layer, bind, Except.bind, pure, Except.pure]

theorem violations_ne_nil {dep : ModuleRef} (unignored : options.ignoredDeps = []) (listed : dep ∈ declaration.deps)
    (foreign : dep.last ∉ ["Domain", "Application", "ApplicationLayer"]) :
    violations options probe context declaration ≠ [] := by
  intro clean
  have counts : ¬ Ignored options dep := by simp [Ignored, unignored]
  have permitted := permits_of_violations_nil clean listed counts
  rcases last_of_permits permitted with ⟨last, -⟩ | ⟨last | last, -⟩
  · simp [last] at foreign
  · simp [last] at foreign
  · simp [last] at foreign

/-- Of the files that a core app has to define, the check judges every one that lists a foreign dependency, whatever
its module is called, but `infrastructure_layer.ex` only if it was classified as one of the layers. -/
theorem validate_demanded (probe : Probe) (app file : String) (unit : SourceUnit) (declaration : Declaration)
    (dep : ModuleRef) (dir : CoreApp app) (demanded : Rule.Demands file) (placed : unit.path = s!"lib/{app}/{file}")
    (declares : unit.declaration = some declaration) (listed : dep ∈ declaration.deps)
    (foreign : dep.last ∉ ["Domain", "Application", "ApplicationLayer"]) :
    ∃ issues, Gives {} probe unit issues ∧ (∀ issue ∈ issues, issue.ruleId = Rule.boundaryDepsId) ∧
      (issues ≠ [] ↔ file ≠ "infrastructure_layer.ex" ∨ unit.layer.isConstrained = true) := by
  have mem := Rule.demands_iff.mp demanded
  have plain : ∀ name ∈ ["domain.ex", "application_layer.ex", "infrastructure_layer.ex"],
      '/' ∉ name.toList ∧ '\n' ∉ name.toList ∧ name ≠ "" ∧ name ≠ "application.ex" := by decide
  obtain ⟨slashless, unbroken, visible, ordinary⟩ := plain file mem
  have split : Path.components unit.path = ["lib", app, file] := by rw [placed, dir.components_path slashless]
  have filename : unit.filename = file := by simp [SourceUnit.filename, Path.basename, split]
  have rooted := dir.isSome_modulePrefix? split visible unbroken
  obtain ⟨context, resolved, layer⟩ := resolve_of_modulePrefix? rooted (by rwa [filename]) declaration.module
  rw [filename] at layer
  have scope := dir.inScope_default split visible unbroken
  have constrained : context.layer.isConstrained = true ↔
      file ≠ "infrastructure_layer.ex" ∨ unit.layer.isConstrained = true := by
    simp only [List.mem_cons, List.not_mem_nil, or_false] at mem
    rw [layer]
    rcases mem with rfl | rfl | rfl
    · simp [layerOfFile?, List.lookup, Layer.isConstrained]
    · simp [layerOfFile?, List.lookup, Layer.isConstrained]
    · simp [layerOfFile?, List.lookup]
  refine ⟨_, gives_of_validateUnit (validateUnit_of_resolved declares scope resolved), ?_, ?_⟩
  · intro issue mem
    obtain ⟨violation, -, rfl⟩ := List.mem_map.mp mem
    rfl
  · rw [← constrained, ne_eq, List.map_eq_nil_iff]
    by_cases judged : context.layer.isConstrained = true
    · simpa [judged] using violations_ne_nil rfl listed foreign
    · simp [judged]

def shopUnit (file : String) : SourceUnit where
  tree := ⟨s!"lib/shop/{file}", []⟩
  layer := .unknown
  declaration := some (.make ⟨["Shop", "InfrastructureLayer"], by simp, by decide⟩
    [⟨["ShopWeb"], by simp, by decide⟩] 2 [])

theorem coreApp_shop : CoreApp "shop" := ⟨by decide, by decide, by decide, by decide⟩

theorem validate_demanded_shop :
    ∃ issues, validate {} .denied [shopUnit "application_layer.ex"] = .ok issues ∧ issues ≠ [] := by
  obtain ⟨issues, gives, -, judged⟩ := validate_demanded .denied "shop" "application_layer.ex"
    (shopUnit "application_layer.ex") _ ⟨["ShopWeb"], by simp, by decide⟩ coreApp_shop
    (Rule.demands_iff.mpr (by decide)) rfl rfl (ModuleRef.mem_sortDistinct.mpr List.mem_cons_self) (by decide)
  have alone := gives [] [] [] [] rfl rfl
  rw [List.nil_append, List.nil_append, List.append_nil] at alone
  exact ⟨issues, alone, judged.mpr (.inl (by decide))⟩

/-- Nothing classifies the infrastructure file that the app has to define, so that nothing is said about it. -/
theorem validate_demanded_unjudged :
    CoreApp "shop" ∧ Rule.Demands "infrastructure_layer.ex" ∧
      (Classifier.ofPatterns Pattern.read defaultPatterns).toOption.map
        (·.classify "lib/shop/infrastructure_layer.ex" (some "Shop.InfrastructureLayer")) = some .unknown ∧
      validate {} .denied [shopUnit "infrastructure_layer.ex"] = .ok [] :=
  ⟨coreApp_shop, Rule.demands_iff.mpr (by decide), by decide +kernel, rfl⟩

end Boundary

end BoundaryLint
