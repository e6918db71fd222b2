import BoundaryLint.Host.Ordinary
import BoundaryLint.Proofs.Lint.OptionCheck
import Mathlib

/-!
The mark of a top-level boundary. The rule about entry modules finds the directive in one place and reads its marks
from the declaration, which a directive does not always give. So the rule misses a mark that is there exactly if the
directive declares nothing: its module has no name, or its dependencies are no literal list.
-/

namespace BoundaryLint

namespace Boundary

variable {tree : SyntaxTree} {directive : Directive}

def Sets (key : String) (options : List Node) : Prop :=
  ∃ here there line, .pair (.atom key here) (.literal (.boolean true) there) line ∈ options

def IsLiteralList (value : Node) : Prop := ∃ items line, value = .list items line

theorem setOption?_eq_some_iff {node : Node} {key : String} :
    setOption? node = some key ↔ ∃ here there line, node = .pair (.atom key here) (.literal (.boolean true) there) line := by
  constructor
  · intro found
    unfold setOption? at found
    split at found
    · next name here there line =>
      cases found
      exact ⟨here, there, line, rfl⟩
    · cases found
  · rintro ⟨here, there, line, rfl⟩
    rfl

theorem mem_filterMap_setOption? {key : String} {options : List Node} :
    key ∈ options.filterMap setOption? ↔ Sets key options := by
  simp only [List.mem_filterMap, setOption?_eq_some_iff, Sets]
  constructor
  · rintro ⟨node, member, here, there, line, rfl⟩
    exact ⟨here, there, line, member⟩
  · rintro ⟨here, there, line, member⟩
    exact ⟨_, member, here, there, line, rfl⟩

/-- Dependencies are declared unless the value of their key is no literal list. -/
theorem depsOf?_eq_none_iff {options : List Node} :
    depsOf? options = none ↔ ∃ value, Node.lookup? "deps" options = some value ∧ ¬IsLiteralList value := by
  unfold depsOf?
  split
  · next absent => simp [absent]
  · next items line found =>
    simp only [found, Option.some.injEq, reduceCtorEq, false_iff, not_exists, not_and, not_not]
    rintro value rfl
    exact ⟨items, line, rfl⟩
  · next value other found =>
    simp only [found, Option.some.injEq, true_iff]
    refine ⟨value, rfl, ?_⟩
    rintro ⟨items, line, rfl⟩
    exact other items line rfl

theorem any_declaration?_iff {name : Option ModuleRef} (found : findDirective? tree = some (name, directive))
    (key : String) :
    (declaration? tree).any (·.options.contains key) = true ↔
      Sets key directive.options ∧ name ≠ none ∧
        ¬∃ value, Node.lookup? "deps" directive.options = some value ∧ ¬IsLiteralList value := by
  rw [← depsOf?_eq_none_iff, ← mem_filterMap_setOption?]
  cases name with
  | none => simp [declaration?, found]
  | some ref =>
    cases listed : depsOf? directive.options with
    | none => simp [declaration?, found, listed]
    | some deps => simp [declaration?, found, listed, Declaration.make, List.mem_mergeSort, List.mem_eraseDups]

end Boundary

namespace Rule

open Boundary (Sets IsLiteralList findDirective?)

/-- The findings about a directive name its mark exactly if the declaration is without it. -/
theorem trigger_publicApiFindings {appModule : String} {directive : Boundary.Directive}
    {declaration : Option Declaration} :
    (∃ finding ∈ publicApiFindings appModule directive declaration, finding.trigger = "top_level?") ↔
      ¬declaration.any (·.options.contains "top_level?") = true := by
  unfold publicApiFindings
  dsimp only
  generalize declaration.any (·.options.contains "top_level?") = marked
  generalize (declaration.map (·.deps.map (·.name))).getD [] = deps
  cases marked with
  | true =>
    -- The other two findings have triggers of their own.
    simp only [if_true, List.nil_append, List.mem_append, not_true_eq_false, iff_false, not_exists, not_and]
    rintro finding (listed | listed) <;> split at listed <;> simp_all
  | false =>
    simp only [Bool.false_eq_true, if_false, not_false_eq_true, iff_true]
    exact ⟨_, List.mem_append_left _ (List.mem_append_left _ List.mem_cons_self), rfl⟩

theorem trigger_inspect [Host] (inspection : Inspection)
    (declared : inspection.unit.declaration = Boundary.declaration? inspection.unit.tree) :
    ∃ findings, publicApiBoundary.inspect inspection = .ok findings ∧
      ((∃ finding ∈ findings, finding.trigger = "top_level?") ↔
        ∃ name directive, findDirective? inspection.unit.tree = some (name, directive) ∧
          (¬Sets "top_level?" directive.options ∨ name = none ∨
            ∃ value, Node.lookup? "deps" directive.options = some value ∧ ¬IsLiteralList value)) := by
  cases found : findDirective? inspection.unit.tree with
  | none =>
    refine ⟨_, by simp only [publicApiBoundary, found]; rfl, ?_⟩
    simp
  | some both =>
    obtain ⟨name, directive⟩ := both
    refine ⟨publicApiFindings _ directive inspection.unit.declaration, by simp only [publicApiBoundary, found]; rfl, ?_⟩
    rw [trigger_publicApiFindings, declared, Boundary.any_declaration?_iff found]
    constructor
    · intro unmarked
      refine ⟨name, directive, rfl, ?_⟩
      by_contra marked
      simp only [not_or, not_not] at marked
      exact unmarked marked
    · rintro ⟨_, _, ⟨⟩, because⟩ ⟨marked, named, literal⟩
      rcases because with absent | unnamed | other
      · exact absent marked
      · exact named unnamed
      · exact literal other

/-- What the rule reports about the mark of a unit whose declaration was read from its tree. -/
theorem trigger_check [Host] {active : ActiveRule} (named : active.rule = publicApiBoundary) {unit : SourceUnit}
    (declared : unit.declaration = Boundary.declaration? unit.tree) (probe : Probe) :
    ∃ issues, active.check unit probe = .ok issues ∧
      ((∃ issue ∈ issues, issue.trigger = "top_level?") ↔
        ∃ name directive, findDirective? unit.tree = some (name, directive) ∧
          (¬Sets "top_level?" directive.options ∨ name = none ∨
            ∃ value, Node.lookup? "deps" directive.options = some value ∧ ¬IsLiteralList value)) := by
  obtain ⟨findings, inspected, exactly⟩ := trigger_inspect ⟨unit, probe, active.options⟩ declared
  refine ⟨findings.map (active.issue unit.path), ?_, ?_⟩
  · simp only [ActiveRule.check, named, inspected, bind, Except.bind, pure, Except.pure]
  · rw [← exactly]
    simp [ActiveRule.issue]

/-- The rule reports that an entry module lacks its mark exactly if the boundary directive that it found does not carry
the mark, or the module around the directive has no name, or the dependencies of the directive are no literal list. -/
theorem check_unmarked [Host] {settings : RuleConfig} {active : ActiveRule}
    (configured : publicApiBoundary.configure settings = .ok (some active)) {classifier : Classifier}
    {path source : String} {unit : SourceUnit} (analyzed : Lint.analyze classifier path source = .ok unit)
    (probe : Probe) :
    ∃ issues, active.check unit probe = .ok issues ∧
      ((∃ issue ∈ issues, issue.trigger = "top_level?") ↔
        ∃ name directive, findDirective? unit.tree = some (name, directive) ∧
          (¬Sets "top_level?" directive.options ∨ name = none ∨
            ∃ value, Node.lookup? "deps" directive.options = some value ∧ ¬IsLiteralList value)) := by
  obtain ⟨named, -⟩ := keeps_of_configure configured
  obtain ⟨tree, -, same⟩ := bind_eq_ok.mp analyzed
  cases same
  exact trigger_check named rfl probe

section Shop

def shop : ModuleRef := ⟨["Shop"], by simp, by decide⟩

def markedDirective (more : List Node) : Boundary.Directive :=
  ⟨.pair (.atom "top_level?" 1) (.literal (.boolean true) 1) 1 :: more, 1⟩

def useBoundary (directive : Boundary.Directive) : Node :=
  .directive .using (some Boundary.boundaryModule) [Boundary.boundaryModule] directive.options directive.line

def entryUnit (directive : Boundary.Directive) : SourceUnit :=
  Lint.unitOfTree ⟨[]⟩ ⟨"lib/shop.ex", [.moduleDecl (some shop) [useBoundary directive] 1]⟩

def shopFront : List Token :=
  [⟨.identifier, "defmodule", 1, false, false⟩, ⟨.alias, "Shop", 1, true, false⟩, ⟨.keyword, "do", 1, true, false⟩]

def markedTokens (spaced : Bool) : List Token :=
  [⟨.identifier, "use", 1, spaced, false⟩, ⟨.alias, "Boundary", 1, true, false⟩, ⟨.punctuation, ",", 1, false, false⟩,
    ⟨.key, "top_level?", 1, true, false⟩, ⟨.literal, "true", 1, true, false⟩]

def depsTokens : List Token :=
  [⟨.punctuation, ",", 1, false, false⟩, ⟨.key, "deps", 1, true, false⟩, ⟨.operator, "@", 1, true, false⟩,
    ⟨.identifier, "deps", 1, false, false⟩]

def shopEnd : List Token := [⟨.keyword, "end", 1, true, false⟩]

theorem findDirective?_entryUnit (directive : Boundary.Directive) :
    findDirective? (entryUnit directive).tree = some (some shop, directive) := by
  simp [findDirective?, entryUnit, Lint.unitOfTree, SyntaxTree.nodes, Node.walkAll, Boundary.directive?, useBoundary]

theorem sets_markedDirective (more : List Node) : Sets "top_level?" (markedDirective more).options :=
  ⟨1, 1, 1, List.mem_cons_self⟩

theorem analyze_of_scan [Host] {source : String} {tokens : List Token} {body : List Node}
    (scanned : Token.scan source = .ok tokens)
    (parsed : Grammar.program Host.expressionNesting tokens = .ok body) :
    Lint.analyze ⟨[]⟩ "lib/shop.ex" source = .ok (Lint.unitOfTree ⟨[]⟩ ⟨"lib/shop.ex", body⟩) := by
  have made : SyntaxTree.make "lib/shop.ex" body = .ok ⟨"lib/shop.ex", body⟩ := rfl
  simp only [Lint.analyze, Lint.readTree, Grammar.parse, scanned, bind, Except.bind, parsed, made]
  rfl

attribute [local instance] Host.ordinary in
theorem check_unmarked_shop :
    publicApiBoundary.configure {} = .ok (some publicApiBoundary.default) ∧
      Lint.analyze ⟨[]⟩ "lib/shop.ex" "defmodule Shop do use Boundary, top_level?: true end" =
        .ok (entryUnit (markedDirective [])) ∧
      ∃ issues, publicApiBoundary.default.check (entryUnit (markedDirective [])) .denied = .ok issues ∧
        ¬∃ issue ∈ issues, issue.trigger = "top_level?" := by
  have configured : publicApiBoundary.configure {} = .ok (some publicApiBoundary.default) := rfl
  have analyzed : Lint.analyze ⟨[]⟩ "lib/shop.ex" "defmodule Shop do use Boundary, top_level?: true end" =
      .ok (entryUnit (markedDirective [])) := by
    have scanned : Token.scan "defmodule Shop do use Boundary, top_level?: true end" =
        .ok (shopFront ++ markedTokens true ++ shopEnd) := by decide +kernel
    exact analyze_of_scan scanned (by cbv)
  obtain ⟨issues, checked, exactly⟩ := check_unmarked configured analyzed .denied
  refine ⟨configured, analyzed, issues, checked, ?_⟩
  rw [exactly]
  rintro ⟨name, directive, found, because⟩
  rw [findDirective?_entryUnit] at found
  cases found
  rcases because with absent | unnamed | ⟨value, listed, -⟩
  · exact absent (sets_markedDirective [])
  · cases unnamed
  · cases listed

def attributeDeps : List Node := [.pair (.atom "deps" 1) (.unary "@" (.var "deps" 1) 1) 1]

attribute [local instance] Host.ordinary in
/-- An entry module that carries the mark is told that it lacks it when its dependencies are no literal list, and so is
a file without a module name. -/
theorem check_unmarked_attribute :
    (Lint.analyze ⟨[]⟩ "lib/shop.ex" "defmodule Shop do use Boundary, top_level?: true, deps: @deps end" =
        .ok (entryUnit (markedDirective attributeDeps)) ∧
      publicApiBoundary.default.applicable (entryUnit (markedDirective attributeDeps)) = .ok true ∧
      findDirective? (entryUnit (markedDirective attributeDeps)).tree = some (some shop, markedDirective attributeDeps) ∧
      Sets "top_level?" (markedDirective attributeDeps).options ∧
      ∃ issues, publicApiBoundary.default.check (entryUnit (markedDirective attributeDeps)) .denied = .ok issues ∧
        ∃ issue ∈ issues, issue.trigger = "top_level?") ∧
    ∃ unit, Lint.analyze ⟨[]⟩ "lib/shop.ex" "use Boundary, top_level?: true" = .ok unit ∧
      publicApiBoundary.default.applicable unit = .ok true ∧
      findDirective? unit.tree = some (none, markedDirective []) ∧ Sets "top_level?" (markedDirective []).options ∧
      ∃ issues, publicApiBoundary.default.check unit .denied = .ok issues ∧
        ∃ issue ∈ issues, issue.trigger = "top_level?" := by
  have scanned : Token.scan "defmodule Shop do use Boundary, top_level?: true, deps: @deps end" =
      .ok (shopFront ++ markedTokens true ++ depsTokens ++ shopEnd) := by decide +kernel
  have scanned' : Token.scan "use Boundary, top_level?: true" = .ok (markedTokens false) := by decide +kernel
  refine ⟨⟨analyze_of_scan scanned (by cbv), by decide, findDirective?_entryUnit _, sets_markedDirective _, ?_⟩, ?_⟩
  · obtain ⟨issues, checked, exactly⟩ :=
      @trigger_check _ publicApiBoundary.default rfl (entryUnit (markedDirective attributeDeps)) rfl .denied
    refine ⟨issues, checked, exactly.mpr ⟨_, _, findDirective?_entryUnit _, .inr (.inr ⟨_, rfl, ?_⟩)⟩⟩
    rintro ⟨items, line, impossible⟩
    cases impossible
  · have found : findDirective? ⟨"lib/shop.ex", [useBoundary (markedDirective [])]⟩ = some (none, markedDirective []) := by
      cbv
    obtain ⟨issues, checked, exactly⟩ := @trigger_check _ publicApiBoundary.default rfl
      (Lint.unitOfTree ⟨[]⟩ ⟨"lib/shop.ex", [useBoundary (markedDirective [])]⟩) rfl .denied
    exact ⟨_, analyze_of_scan scanned' (by cbv), by decide, found, sets_markedDirective _, issues, checked,
      exactly.mpr ⟨_, _, found, .inr (.inl rfl)⟩⟩

end Shop

end Rule

end BoundaryLint
