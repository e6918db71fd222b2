import BoundaryLint.Host.Ordinary
import BoundaryLint.Proofs.Lint.OptionCheck
import BoundaryLint.Proofs.Rule.CallPlace
import BoundaryLint.Proofs.Tree.Pruning
import Mathlib

/-!
Infrastructure in the private functions of use cases. Every private function is searched on its own, so there is one
report for each pair of a private function and an infrastructure call in its body, and none for what stands under a
look-up of options. A call is therefore reported once unless private functions are nested around it.
-/

namespace BoundaryLint.Rule

open Occurrence (Stands)

def InHelper (helper statement : Occurrence) : Prop :=
  ∃ kind name params body guard line number, helper.node = .definition kind name params body guard line ∧
    kind.isPrivate = true ∧ ¬ "default_".toList <+: name.toList ∧
    helper.children[params.length + guard.toList.length + number]? = some statement

/-- The occurrence lies in the body of such a definition, and no look-up of options from there down to it. -/
def HeldBy (helper occurrence : Occurrence) : Prop :=
  ∃ statement, InHelper helper statement ∧ statement.CoversOutside isKeywordGet occurrence

def CallsOneOf (patterns : List String) (node : Node) : Prop :=
  ∃ call ref, node.call? = some call ∧ call.module? = some ref ∧
    ∃ pattern ∈ patterns, pattern.toList <:+: ref.name.toList

def Offends (patterns : List String) (body : List Node) (helper call : Occurrence) : Prop :=
  Stands body helper ∧ HeldBy helper call ∧ CallsOneOf patterns call.node

variable {patterns : List String} {body : List Node} {helper statement occurrence call : Occurrence}

section Search

def dependency? (patterns : List String) (node : Node) : Option (ModuleRef × Nat) :=
  match node.call?.bind (·.module?) with
  | some ref => if patterns.any (Text.contains ref.name) then some (ref, node.line) else none
  | none => none

def helperStatements (helper : Occurrence) : List Occurrence :=
  match helper.node with
  | .definition kind name params body guard _ =>
    if kind.isPrivate && !Text.startsWith name "default_" then
      Occurrence.numbered helper.place (params.length + guard.toList.length) body
    else []
  | _ => []

def heldCalls (patterns : List String) (helper : Occurrence) : List Occurrence :=
  (Occurrence.walkOutside isKeywordGet (helperStatements helper)).filter fun occurrence =>
    (dependency? patterns occurrence.node).isSome

def heldReports (patterns : List String) (body : List Node) : List (Occurrence × Occurrence) :=
  (Occurrence.ofBody body).flatMap fun helper => (heldCalls patterns helper).map (helper, ·)

theorem dependency?_eq_some_iff {node : Node} {dependency : ModuleRef × Nat} :
    dependency? patterns node = some dependency ↔
      ∃ call ref, node.call? = some call ∧ call.module? = some ref ∧
        (∃ pattern ∈ patterns, pattern.toList <:+: ref.name.toList) ∧ dependency = (ref, node.line) := by
  have listed (ref : ModuleRef) : patterns.any (Text.contains ref.name) = true ↔
      ∃ pattern ∈ patterns, pattern.toList <:+: ref.name.toList := by
    simp only [List.any_eq_true, Text.contains_iff]
  unfold dependency?
  constructor
  · intro found
    split at found
    · next ref given =>
      obtain ⟨own, isCall, module⟩ := Option.bind_eq_some_iff.mp given
      obtain ⟨matched, same⟩ := Option.ite_none_right_eq_some.mp found
      exact ⟨own, ref, isCall, module, (listed ref).mp matched, (Option.some.inj same).symm⟩
    · cases found
  · rintro ⟨own, ref, isCall, module, matched, rfl⟩
    simp only [isCall, Option.bind_some, module, (listed ref).mpr matched, if_true]

theorem isSome_dependency?_iff {node : Node} :
    (dependency? patterns node).isSome = true ↔ CallsOneOf patterns node := by
  simp only [Option.isSome_iff_exists, dependency?_eq_some_iff, CallsOneOf]
  constructor
  · rintro ⟨_, own, ref, isCall, module, found, -⟩
    exact ⟨own, ref, isCall, module, found⟩
  · rintro ⟨own, ref, isCall, module, found⟩
    exact ⟨_, own, ref, isCall, module, found, rfl⟩

theorem mem_helperStatements : statement ∈ helperStatements helper ↔ InHelper helper statement := by
  obtain ⟨place, node⟩ := helper
  cases node with
  | definition kind name params body guard line =>
    have judged : (kind.isPrivate && !Text.startsWith name "default_") = true ↔
        kind.isPrivate = true ∧ ¬ "default_".toList <+: name.toList := by
      rw [Bool.and_eq_true, Bool.not_eq_true', ← Bool.not_eq_true, Text.startsWith, List.isPrefixOf_iff_prefix]
    have numbered := @Occurrence.exists_behind_iff place statement (params ++ guard.toList) body
    rw [List.length_append] at numbered
    constructor
    · intro listed
      unfold helperStatements at listed
      dsimp only at listed
      split at listed
      · next helper =>
        obtain ⟨isPrivate, noDefault⟩ := judged.mp helper
        obtain ⟨number, found⟩ := numbered.mpr listed
        exact ⟨kind, name, params, body, guard, line, number, rfl, isPrivate, noDefault, found⟩
      · cases listed
    · rintro ⟨_, _, _, _, _, _, number, form, isPrivate, noDefault, found⟩
      cases form
      unfold helperStatements
      dsimp only
      rw [if_pos (judged.mpr ⟨isPrivate, noDefault⟩)]
      exact numbered.mp ⟨number, found⟩
  | _ =>
    simp only [helperStatements, List.not_mem_nil, false_iff]
    rintro ⟨_, _, _, _, _, _, _, form, -⟩
    cases form

theorem map_node_helperStatements (helper : Occurrence) :
    (helperStatements helper).map Occurrence.node = (helperBody? helper.node).getD [] := by
  obtain ⟨place, node⟩ := helper
  cases node with
  | definition kind name params body guard line =>
    simp only [helperStatements, helperBody?]
    split
    · exact Occurrence.map_node_numbered _ _ _
    · rfl
  | _ => rfl

theorem mem_heldCalls : call ∈ heldCalls patterns helper ↔ HeldBy helper call ∧ CallsOneOf patterns call.node := by
  rw [heldCalls, List.mem_filter, Occurrence.mem_walkOutside, isSome_dependency?_iff]
  simp only [mem_helperStatements, HeldBy]

theorem mem_heldReports : (helper, call) ∈ heldReports patterns body ↔ Offends patterns body helper call := by
  simp only [heldReports, List.mem_flatMap, List.mem_map, Prod.mk.injEq, Occurrence.mem_ofBody, mem_heldCalls, Offends]
  constructor
  · rintro ⟨_, stands, _, held, rfl, rfl⟩
    exact ⟨stands, held⟩
  · rintro ⟨stands, held⟩
    exact ⟨helper, stands, call, held, rfl, rfl⟩

theorem pairwise_helperStatements (helper : Occurrence) : (helperStatements helper).Pairwise Occurrence.LeftOf := by
  unfold helperStatements
  split
  · split
    · exact Occurrence.pairwise_numbered
    · exact .nil
  · exact .nil

theorem nodup_heldCalls (patterns : List String) (helper : Occurrence) : (heldCalls patterns helper).Nodup := by
  have order := (Occurrence.pairwise_walk (pairwise_helperStatements helper)).sublist
    ((Occurrence.walkOutside_sublist isKeywordGet (helperStatements helper)))
  apply (order.filter _).imp
  intro first second precedes same
  exact precedes.ne (congrArg Occurrence.place same)

theorem nodup_heldReports (patterns : List String) (body : List Node) : (heldReports patterns body).Nodup := by
  rw [heldReports, List.nodup_flatMap]
  constructor
  · intro helper _
    exact (nodup_heldCalls patterns helper).map (Prod.mk_right_injective helper)
  · apply (Occurrence.pairwise_ofBody body).imp
    intro first second precedes
    rw [Function.onFun, List.disjoint_left]
    intro report inFirst inSecond
    obtain ⟨_, _, rfl⟩ := List.mem_map.mp inFirst
    obtain ⟨_, _, same⟩ := List.mem_map.mp inSecond
    exact precedes.ne (congrArg (·.1.place) same.symm)

end Search

section Findings

def ReportsInjection (active : ActiveRule) (file : String) (report : Occurrence × Occurrence) (issue : Issue) : Prop :=
  ∃ call ref, report.2.node.call? = some call ∧ call.module? = some ref ∧
    issue = active.issue file (injectionFinding (ref, report.2.node.line))

theorem directDependencies_helper (patterns : List String) (helper : Occurrence) :
    directDependencies patterns ((helperBody? helper.node).getD []) =
      (Occurrence.walkOutside isKeywordGet (helperStatements helper)).filterMap fun occurrence =>
        dependency? patterns occurrence.node := by
  calc directDependencies patterns ((helperBody? helper.node).getD [])
    _ = (Node.walkOutside isKeywordGet ((helperStatements helper).map Occurrence.node)).filterMap
          (dependency? patterns) := by
        rw [map_node_helperStatements]
        rfl
    _ = _ := by
        rw [← Occurrence.map_node_walkOutside, List.filterMap_map]
        rfl

/-- The rule looks for helpers and then into each of them; here the places are kept. -/
theorem flatMap_helperBody? (patterns : List String) (body : List Node) :
    ((Node.walkAll body).filterMap helperBody?).flatMap (fun body =>
        (directDependencies patterns body).map injectionFinding) =
      (Occurrence.ofBody body).flatMap fun helper =>
        ((Occurrence.walkOutside isKeywordGet (helperStatements helper)).filterMap fun occurrence =>
          dependency? patterns occurrence.node).map injectionFinding := by
  rw [← Occurrence.map_node_ofBody, List.filterMap_map]
  simp only [← directDependencies_helper]
  induction Occurrence.ofBody body with
  | nil => rfl
  | cons helper rest ih =>
    rw [List.flatMap_cons, ← ih]
    cases found : helperBody? helper.node with
    | none => simp [found, directDependencies, Node.walkOutside]
    | some own => simp [found]

theorem forall₂_heldReports (active : ActiveRule) (file : String) (patterns : List String) (body : List Node) :
    List.Forall₂ (ReportsInjection active file) (heldReports patterns body)
      ((((Node.walkAll body).filterMap helperBody?).flatMap fun body =>
        (directDependencies patterns body).map injectionFinding).map (active.issue file)) := by
  rw [flatMap_helperBody?, List.map_flatMap, heldReports]
  apply List.rel_flatMap (R := Eq) (List.forall₂_refl _)
  rintro _ helper rfl
  rw [List.forall₂_map_left_iff, List.forall₂_map_right_iff, List.forall₂_map_right_iff]
  apply (forall₂_filterMap _ _).imp
  rintro occurrence dependency ⟨-, found⟩
  obtain ⟨own, ref, isCall, module, -, rfl⟩ := dependency?_eq_some_iff.mp found
  exact ⟨own, ref, isCall, module, rfl⟩

end Findings

/-- The rule reports every infrastructure call once for each private definition whose body holds it, and nothing else. So
no call is reported twice exactly if none is held by two private definitions. -/
theorem check_reports_injections [Host] {settings : RuleConfig} {active : ActiveRule}
    (configured : useCaseConsistentInjection.configure settings = .ok (some active)) (unit : SourceUnit)
    (probe : Probe) :
    ∃ patterns reports issues,
      strings active.options "infrastructure_patterns" = .ok patterns ∧
      active.check unit probe = .ok issues ∧
      List.Forall₂ (ReportsInjection active unit.path) reports issues ∧
      reports.Nodup ∧
      (∀ helper call, (helper, call) ∈ reports ↔ Offends patterns unit.tree.body helper call) ∧
      ((reports.map Prod.snd).Nodup ↔ ∀ first second call, Offends patterns unit.tree.body first call →
        Offends patterns unit.tree.body second call → first = second) := by
  obtain ⟨named, keeps⟩ := keeps_of_configure configured
  have known : useCaseConsistentInjection.defaults.lookup "infrastructure_patterns" =
      some (textList ["Infrastructure", "Infra"]) := rfl
  obtain ⟨patterns, read, -⟩ := keeps.strings known
  have inspected : active.rule.inspect ⟨unit, probe, active.options⟩ =
      .ok (((Node.walkAll unit.tree.body).filterMap helperBody?).flatMap fun body =>
        (directDependencies patterns body).map injectionFinding) := by
    rw [named]
    simp only [useCaseConsistentInjection, read]
    rfl
  have once := nodup_heldReports patterns unit.tree.body
  refine ⟨patterns, heldReports patterns unit.tree.body, _, read, ?_,
    forall₂_heldReports active unit.path patterns unit.tree.body, once, fun _ _ => mem_heldReports, ?_⟩
  · rw [ActiveRule.check, inspected]
    rfl
  · rw [List.nodup_map_iff_inj_on once]
    constructor
    · intro injective first second call held held'
      exact congrArg Prod.fst (injective _ (mem_heldReports.mpr held) _ (mem_heldReports.mpr held') rfl)
    · rintro single ⟨first, call⟩ listed ⟨second, _⟩ listed' rfl
      rw [single first second call (mem_heldReports.mp listed) (mem_heldReports.mp listed')]

section Nested

def bank : ModuleRef := ⟨["Infra", "Bank"], by simp, by decide⟩

def bankCall : Node := .call (some (.alias bank 3)) "charge" [] [] [] 3

def sendHelper : Node := .definition .privateFunction "send" [] [bankCall] none 2

def payHelper : Node := .definition .privateFunction "pay" [] [sendHelper] none 1

def payUnit : SourceUnit := ⟨⟨"lib/shop/application/use_cases/pay.ex", [payHelper]⟩, .application, none⟩

attribute [local instance] Host.ordinary in
theorem check_reports_injections_pay :
    useCaseConsistentInjection.configure {} = .ok (some useCaseConsistentInjection.default) ∧
      ∃ reports issues, useCaseConsistentInjection.default.check payUnit .denied = .ok issues ∧
        List.Forall₂ (ReportsInjection useCaseConsistentInjection.default payUnit.path) reports issues ∧
        (⟨[0], payHelper⟩, ⟨[0, 0, 0], bankCall⟩) ∈ reports ∧ (⟨[0, 0], sendHelper⟩, ⟨[0, 0, 0], bankCall⟩) ∈ reports := by
  have configured : useCaseConsistentInjection.configure {} = .ok (some useCaseConsistentInjection.default) := rfl
  obtain ⟨patterns, reports, issues, read, checked, reported, -, offends, -⟩ :=
    check_reports_injections configured payUnit .denied
  obtain rfl : ["Infrastructure", "Infra"] = patterns := Except.ok.inj read
  have named : CallsOneOf ["Infrastructure", "Infra"] bankCall := ⟨_, _, rfl, rfl, "Infra", by decide, by decide⟩
  have outer : Stands [payHelper] ⟨[0], payHelper⟩ := .root List.mem_cons_self
  have inner : Stands [payHelper] ⟨[0, 0], sendHelper⟩ := outer.child List.mem_cons_self
  refine ⟨configured, reports, issues, checked, reported, (offends _ _).mpr ⟨outer, ?_, named⟩,
    (offends _ _).mpr ⟨inner, ?_, named⟩⟩
  · refine ⟨⟨[0, 0], sendHelper⟩, ⟨_, _, _, _, _, _, 0, rfl, rfl, by decide, rfl⟩, rfl, ?_⟩
    exact .single ⟨List.mem_cons_self, rfl⟩
  · exact ⟨⟨[0, 0, 0], bankCall⟩, ⟨_, _, _, _, _, _, 0, rfl, rfl, by decide, rfl⟩, rfl, .refl⟩

attribute [local instance] Host.ordinary in
/-- The one call of the bank is reported twice. -/
theorem check_reports_injections_twice :
    payUnit.nodes.filter (fun node => (dependency? ["Infrastructure", "Infra"] node).isSome) = [bankCall] ∧
      ∃ issue, useCaseConsistentInjection.default.check payUnit .denied = .ok [issue, issue] := by
  have nodes : payUnit.nodes = [payHelper, sendHelper, bankCall, .alias bank 3] := by cbv
  have bodies : [payHelper, sendHelper, bankCall, .alias bank 3].filterMap helperBody? = [[sendHelper], [bankCall]] := by
    cbv
  have outer : directDependencies ["Infrastructure", "Infra"] [sendHelper] = [(bank, 3)] := by cbv
  have inner : directDependencies ["Infrastructure", "Infra"] [bankCall] = [(bank, 3)] := by cbv
  have found : useCaseConsistentInjection.default.rule.inspect
      ⟨payUnit, .denied, useCaseConsistentInjection.default.options⟩ =
        .ok [injectionFinding (bank, 3), injectionFinding (bank, 3)] := by
    have searched : ([[sendHelper], [bankCall]].flatMap fun body =>
        (directDependencies ["Infrastructure", "Infra"] body).map injectionFinding) =
          [injectionFinding (bank, 3), injectionFinding (bank, 3)] := by
      simp [outer, inner]
    rw [← searched, ← bodies, ← nodes]
    rfl
  refine ⟨?_, useCaseConsistentInjection.default.issue payUnit.path (injectionFinding (bank, 3)), ?_⟩
  · rw [nodes]
    cbv
  · rw [ActiveRule.check, found]
    rfl

end Nested

end BoundaryLint.Rule
