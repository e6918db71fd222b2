import BoundaryLint.Boundary.Graph
import BoundaryLint.Proofs.Tree.ModuleName
import Mathlib

/-!
The Dependency Rule, said without the check, and the check that decides it. A domain may depend on
nothing; the outer layers may depend on the boundaries of their own context further in, and on the
domains around a context that has none itself.
-/

namespace BoundaryLint

namespace ModuleRef

theorem nodup_eraseDups (refs : List ModuleRef) : refs.eraseDups.Nodup := by
  match refs with
  | [] => exact List.nodup_nil
  | first :: rest =>
    have shorter : (rest.filter fun other => !other == first).length ≤ rest.length := List.length_filter_le _ _
    rw [List.eraseDups_cons, List.nodup_cons]
    refine ⟨?_, nodup_eraseDups _⟩
    intro again
    simp [List.mem_eraseDups] at again
termination_by refs.length

theorem mem_sortDistinct {refs : List ModuleRef} {ref : ModuleRef} : ref ∈ sortDistinct refs ↔ ref ∈ refs := by
  rw [sortDistinct, List.mem_mergeSort, List.mem_eraseDups]

theorem pairwise_sortDistinct (refs : List ModuleRef) : (sortDistinct refs).Pairwise fun a b => a.name < b.name := by
  have ordered : (sortDistinct refs).Pairwise fun a b => nameLe a b = true := by
    apply List.pairwise_mergeSort
    · intro a b c first second
      exact decide_eq_true (String.le_trans (of_decide_eq_true first) (of_decide_eq_true second))
    · intro a b
      simpa [nameLe] using String.le_total a.name b.name
  have distinct : (sortDistinct refs).Nodup := (List.mergeSort_perm _ _).nodup_iff.mpr (nodup_eraseDups refs)
  refine (ordered.and distinct).imp fun {a b} both => ?_
  by_contra above
  exact both.2 (eq_of_name (String.le_antisymm (of_decide_eq_true both.1) (String.not_lt.mp above)))

end ModuleRef

namespace Boundary

def Ignored (options : GraphOptions) (dep : ModuleRef) : Prop :=
  ∃ ignored ∈ options.ignoredDeps, dep.name = ignored ∨ ∃ below, dep.name = ignored ++ "." ++ below

theorem startsWith_iff {text start : String} : Text.startsWith text start = true ↔ ∃ rest, text = start ++ rest := by
  rw [Text.startsWith, List.isPrefixOf_iff_prefix]
  constructor
  · rintro ⟨rest, same⟩
    refine ⟨String.ofList rest, String.toList_inj.mp ?_⟩
    simp [← same]
  · rintro ⟨rest, rfl⟩
    simp

theorem isIgnored_iff {options : GraphOptions} {dep : ModuleRef} :
    isIgnored options dep = true ↔ Ignored options dep := by
  simp [isIgnored, Ignored, startsWith_iff, toString]

namespace Context

/-- The context lies below an app and has a domain file of its own. A probe that fails shows none. -/
def OwnsDomain (context : Context) (probe : Probe) : Prop :=
  context.located = true ∧ probe.find? (context.sibling "domain.ex") = some true

def LiesBelow (context : Context) (outer : ModuleRef) : Prop :=
  outer.segments <+: context.root.segments ∧ outer.segments.length < context.root.segments.length

/-- The dependency is the domain of a context around one that has no domain of its own. -/
def Borrows (context : Context) (probe : Probe) (dep : ModuleRef) : Prop :=
  ¬ context.OwnsDomain probe ∧ ∃ outer, context.LiesBelow outer ∧ dep.segments = outer.segments ++ ["Domain"]

def Permits (context : Context) (probe : Probe) (dep : ModuleRef) : Prop :=
  match context.layer with
  | .application => dep.segments = context.root.segments ++ ["Domain"] ∨ context.Borrows probe dep
  | .infrastructure =>
    dep.segments = context.root.segments ++ ["Domain"] ∨ dep.segments = context.root.segments ++ ["Application"] ∨
      dep.segments = context.root.segments ++ ["ApplicationLayer"] ∨ context.Borrows probe dep
  | .domain | .interface | .unknown => False

variable {context : Context} {probe : Probe}

theorem hasFile_domain_iff : context.hasFile probe "domain.ex" = true ↔ context.OwnsDomain probe := by
  rw [hasFile, Bool.and_eq_true, OwnsDomain, Probe.exists?]
  cases probe.find? (context.sibling "domain.ex") with
  | none => simp
  | some found => simp

theorem mem_outer_iff {dep : ModuleRef} :
    dep ∈ (if context.hasFile probe "domain.ex" then [] else context.ancestorDomains) ↔
      context.Borrows probe dep := by
  by_cases own : context.OwnsDomain probe
  · simp [hasFile_domain_iff.mpr own, Borrows, own]
  · have absent : context.hasFile probe "domain.ex" = false := by
      rw [← Bool.not_eq_true]
      exact mt hasFile_domain_iff.mp own
    simp only [absent, Bool.false_eq_true, if_false, ancestorDomains, List.mem_map, ModuleRef.mem_ancestors,
      Borrows, own, not_false_eq_true, true_and, LiesBelow]
    constructor
    · rintro ⟨outer, below, rfl⟩
      exact ⟨outer, below, rfl⟩
    · rintro ⟨outer, below, same⟩
      exact ⟨outer, below, (ModuleRef.eq_child_iff.mpr same).symm⟩

theorem mem_allowed_iff {dep : ModuleRef} : dep ∈ context.allowed probe ↔ context.Permits probe dep := by
  unfold allowed Permits
  cases context.layer with
  | application => simp only [List.mem_cons, mem_outer_iff, domain, ModuleRef.eq_child_iff]
  | infrastructure =>
    simp only [List.mem_cons, List.mem_append, applications, List.not_mem_nil, or_false, mem_outer_iff, domain,
      application, applicationLayer, ModuleRef.eq_child_iff, or_assoc]
  | domain => simp
  | interface => simp
  | unknown => simp

end Context

namespace Violation

def isForbidden : Violation → Bool
  | .forbidden _ _ _ _ => true
  | _ => false

def isMissing : Violation → Bool
  | .missingDomain _ _ | .missingApplication _ => true
  | _ => false

end Violation

/-- What is said about a domain: one violation if it has a dependency that counts, else none. -/
def JudgesDomain (options : GraphOptions) (declared : List ModuleRef) (found : List Violation) : Prop :=
  (found.length = 1 ↔ ∃ dep ∈ declared, ¬ Ignored options dep) ∧
    (found = [] ↔ ∀ dep ∈ declared, Ignored options dep)

/-- What is said about an outer layer: each dependency that the rule does not permit is named once, in the
order of the names, and none is asked for as long as one is named. -/
def JudgesOuter (options : GraphOptions) (probe : Probe) (context : Context) (declared : List ModuleRef)
    (found : List Violation) : Prop :=
  ((found.filter (·.isForbidden)).map (·.trigger)).Pairwise (· < ·) ∧
    (∀ name, name ∈ (found.filter (·.isForbidden)).map (·.trigger) ↔
      ∃ dep ∈ declared, ¬ Ignored options dep ∧ ¬ context.Permits probe dep ∧ dep.name = name) ∧
    (found.any (·.isForbidden) = true → found.any (·.isMissing) = false) ∧
    ∀ violation ∈ found, violation.isForbidden = true ∨ violation.isMissing = true

section Violations

variable {options : GraphOptions} {probe : Probe} {context : Context} {module : ModuleRef}
  {declared : List ModuleRef} {line : Nat} {flags : List String}

theorem mem_counted_iff {dep : ModuleRef} :
    dep ∈ (Declaration.make module declared line flags).deps.filter (!isIgnored options ·) ↔
      dep ∈ declared ∧ ¬ Ignored options dep := by
  rw [List.mem_filter, Bool.not_eq_true', ← Bool.not_eq_true, isIgnored_iff, Declaration.make,
    ModuleRef.mem_sortDistinct]

theorem judgesDomain_violations (inner : context.layer = .domain) :
    JudgesDomain options declared (violations options probe context (.make module declared line flags)) := by
  have counted := @mem_counted_iff options module declared line flags
  unfold violations JudgesDomain
  simp only [if_pos inner]
  cases deps : (Declaration.make module declared line flags).deps.filter (!isIgnored options ·) with
  | nil =>
    rw [deps] at counted
    have covered : ∀ dep ∈ declared, Ignored options dep := by
      intro dep mem
      by_contra counts
      exact List.not_mem_nil (counted.mpr ⟨mem, counts⟩)
    simpa using covered
  | cons dep rest =>
    rw [deps] at counted
    have first := counted.mp List.mem_cons_self
    simp only [List.isEmpty_cons, Bool.false_eq_true, if_false, List.length_singleton, true_iff,
      List.cons_ne_nil, false_iff]
    refine ⟨⟨dep, first⟩, ?_⟩
    intro covered
    exact first.2 (covered dep first.1)

theorem isMissing_of_mem_missing {deps : List ModuleRef} {violation : Violation}
    (mem : violation ∈ missing probe context deps) :
    violation.isMissing = true ∧ violation.isForbidden = false := by
  unfold missing at mem
  rcases List.mem_append.mp mem with domain | application
  · split at domain
    · cases List.mem_singleton.mp domain
      exact ⟨rfl, rfl⟩
    · cases domain
  · split at application
    · obtain ⟨required, -, rfl⟩ := List.mem_map.mp application
      exact ⟨rfl, rfl⟩
    · cases application

theorem judgesOuter_missing {deps : List ModuleRef}
    (permitted : ∀ dep ∈ declared, ¬ Ignored options dep → context.Permits probe dep) :
    JudgesOuter options probe context declared (missing probe context deps) := by
  have quiet : (missing probe context deps).filter (·.isForbidden) = [] := by
    rw [List.filter_eq_nil_iff]
    intro violation mem
    simp [(isMissing_of_mem_missing mem).2]
  refine ⟨by simp [quiet], ?_, ?_, fun violation mem => .inr (isMissing_of_mem_missing mem).1⟩
  · intro name
    simp only [quiet, List.map_nil, List.not_mem_nil, false_iff]
    rintro ⟨dep, mem, counts, against, -⟩
    exact against (permitted dep mem counts)
  · intro named
    obtain ⟨violation, mem, forbids⟩ := List.any_eq_true.mp named
    rw [(isMissing_of_mem_missing mem).2] at forbids
    cases forbids

theorem judgesOuter_forbidden {forbidden allowed : List ModuleRef} {declaring : ModuleRef}
    (known : ∀ dep, dep ∈ forbidden ↔ (dep ∈ declared ∧ ¬ Ignored options dep) ∧ ¬ context.Permits probe dep)
    (ordered : forbidden.Pairwise fun a b => a.name < b.name) :
    JudgesOuter options probe context declared
      (forbidden.map fun dep => .forbidden context.layer declaring dep allowed) := by
  have all : (forbidden.map fun dep => Violation.forbidden context.layer declaring dep allowed).filter
      (·.isForbidden) = forbidden.map fun dep => .forbidden context.layer declaring dep allowed := by
    rw [List.filter_eq_self]
    intro violation mem
    obtain ⟨dep, -, rfl⟩ := List.mem_map.mp mem
    rfl
  refine ⟨?_, ?_, ?_, ?_⟩
  · rw [all, List.map_map]
    exact List.pairwise_map.mpr ordered
  · intro name
    rw [all, List.map_map, List.mem_map]
    constructor
    · rintro ⟨dep, mem, rfl⟩
      obtain ⟨⟨inside, counts⟩, against⟩ := (known dep).mp mem
      exact ⟨dep, inside, counts, against, rfl⟩
    · rintro ⟨dep, inside, counts, against, rfl⟩
      exact ⟨dep, (known dep).mpr ⟨⟨inside, counts⟩, against⟩, rfl⟩
  · intro _
    rw [List.any_eq_false]
    intro violation mem
    obtain ⟨dep, -, rfl⟩ := List.mem_map.mp mem
    exact Bool.false_ne_true
  · intro violation mem
    obtain ⟨dep, -, rfl⟩ := List.mem_map.mp mem
    exact .inl rfl

theorem judgesOuter_violations (outer : context.layer ≠ .domain) :
    JudgesOuter options probe context declared
      (violations options probe context (.make module declared line flags)) := by
  unfold violations
  simp only [if_neg outer]
  -- What is forbidden of the dependencies that count, in their order.
  generalize listed : ((Declaration.make module declared line flags).deps.filter (!isIgnored options ·)).filter
    (!(context.allowed probe).contains ·) = forbidden
  have known : ∀ dep, dep ∈ forbidden ↔
      (dep ∈ declared ∧ ¬ Ignored options dep) ∧ ¬ context.Permits probe dep := by
    intro dep
    rw [← listed, List.mem_filter, mem_counted_iff, Bool.not_eq_true', ← Bool.not_eq_true,
      List.contains_iff_mem, Context.mem_allowed_iff]
  have ordered : forbidden.Pairwise fun a b => a.name < b.name := by
    rw [← listed]
    exact ((ModuleRef.pairwise_sortDistinct declared).filter _).filter _
  split
  · rename_i none
    rw [List.isEmpty_iff.mp none] at known
    apply judgesOuter_missing
    intro dep mem counts
    by_contra against
    exact List.not_mem_nil ((known dep).mpr ⟨⟨mem, counts⟩, against⟩)
  · exact judgesOuter_forbidden known ordered

end Violations

def Gives (options : GraphOptions) (probe : Probe) (unit : SourceUnit) (own : List Issue) : Prop :=
  ∀ before after first rest, validate options probe before = .ok first →
    validate options probe after = .ok rest →
      validate options probe (before ++ unit :: after) = .ok (first ++ own ++ rest)

section Units

variable {options : GraphOptions} {probe : Probe} {unit : SourceUnit} {own : List Issue}

theorem validate_append (first second : List SourceUnit) :
    validate options probe (first ++ second) = do
      return (← validate options probe first) ++ (← validate options probe second) := by
  simp only [validate, List.mapM_append, bind, Except.bind, pure, Except.pure]
  cases first.mapM (validateUnit options probe) with
  | error fault => rfl
  | ok parts =>
    cases second.mapM (validateUnit options probe) with
    | error fault => rfl
    | ok others => simp

theorem validate_singleton : validate options probe [unit] = validateUnit options probe unit := by
  cases validated : validateUnit options probe unit with
  | error fault => simp [validate, validated, bind, Except.bind]
  | ok own => simp [validate, validated, bind, Except.bind, pure, Except.pure]

theorem gives_of_validateUnit (validated : validateUnit options probe unit = .ok own) :
    Gives options probe unit own := by
  intro before after first rest earlier later
  have split : before ++ unit :: after = before ++ ([unit] ++ after) := rfl
  rw [split, validate_append, validate_append, earlier, later, validate_singleton, validated]
  simp [bind, Except.bind, pure, Except.pure]

theorem validateUnit_of_none (undeclared : unit.declaration = none) : validateUnit options probe unit = .ok [] := by
  simp only [validateUnit, undeclared]

theorem validateUnit_of_unresolved {declaration : Declaration} (declares : unit.declaration = some declaration)
    (apart : inScope options unit.path = false ∨ resolve unit declaration.module = .ok none) :
    validateUnit options probe unit = .ok [] := by
  cases scope : inScope options unit.path with
  | false => simp [validateUnit, declares, scope]
  | true =>
    have unresolved := apart.resolve_left (by simp [scope])
    simp [validateUnit, declares, scope, unresolved, bind, Except.bind, pure, Except.pure]

theorem validateUnit_of_resolved {declaration : Declaration} {context : Context}
    (declares : unit.declaration = some declaration) (scope : inScope options unit.path = true)
    (resolved : resolve unit declaration.module = .ok (some context)) :
    validateUnit options probe unit = .ok
      ((if context.layer.isConstrained then violations options probe context declaration else []).map
        (violationIssue options unit declaration)) := by
  by_cases constrained : context.layer.isConstrained = true
  · simp [validateUnit, declares, scope, resolved, constrained, bind, Except.bind, pure, Except.pure]
  · simp [validateUnit, declares, scope, resolved, constrained, bind, Except.bind, pure, Except.pure]

/-- The check decides the Dependency Rule. A file without a declaration, out of scope, without a context or
of another layer gives no issue. Of the others, a domain gives one issue if it has a dependency that counts,
and an outer layer one for each dependency that the rule does not permit. -/
theorem validate_decides (options : GraphOptions) (probe : Probe) (unit : SourceUnit) :
    (unit.declaration = none → Gives options probe unit []) ∧
    ∀ module declared line flags, unit.declaration = some (.make module declared line flags) →
      (inScope options unit.path = false ∨ resolve unit module = .ok none → Gives options probe unit []) ∧
      ∀ context, inScope options unit.path = true → resolve unit module = .ok (some context) →
        ∃ found : List Violation,
          Gives options probe unit (found.map (violationIssue options unit (.make module declared line flags))) ∧
          match context.layer with
          | .domain => JudgesDomain options declared found
          | .application | .infrastructure => JudgesOuter options probe context declared found
          | .interface | .unknown => found = [] := by
  refine ⟨fun undeclared => gives_of_validateUnit (validateUnit_of_none undeclared), ?_⟩
  intro module declared line flags declares
  refine ⟨fun apart => gives_of_validateUnit (validateUnit_of_unresolved declares apart), ?_⟩
  intro context scope resolved
  refine ⟨_, gives_of_validateUnit (validateUnit_of_resolved declares scope resolved), ?_⟩
  cases layer : context.layer with
  | domain => exact judgesDomain_violations layer
  | application => exact judgesOuter_violations (by simp [layer])
  | infrastructure => exact judgesOuter_violations (by simp [layer])
  | interface => rfl
  | unknown => rfl

end Units

def cartUnit : SourceUnit where
  tree := ⟨"lib/market/cart/infrastructure.ex", []⟩
  layer := .unknown
  declaration := some (.make ⟨["Market", "Cart", "Infrastructure"], by simp, by decide⟩
    [⟨["Market", "Orders"], by simp, by decide⟩, ⟨["Market", "Domain"], by simp, by decide⟩] 2 [])

def cartContext : Context :=
  ⟨⟨["Market", "Cart"], by simp, by decide⟩, "lib/market/cart", .infrastructure, true⟩

theorem validate_decides_cart :
    ∃ declaration found, cartUnit.declaration = some declaration ∧
      inScope {} cartUnit.path = true ∧ resolve cartUnit declaration.module = .ok (some cartContext) ∧
      Gives {} .denied cartUnit (found.map (violationIssue {} cartUnit declaration)) ∧
      JudgesOuter {} .denied cartContext
        [⟨["Market", "Orders"], by simp, by decide⟩, ⟨["Market", "Domain"], by simp, by decide⟩] found := by
  have scope : inScope {} cartUnit.path = true := by decide
  have resolved : resolve cartUnit ⟨["Market", "Cart", "Infrastructure"], by simp, by decide⟩ =
      .ok (some cartContext) := by rfl
  obtain ⟨found, gives, judged⟩ := ((validate_decides {} .denied cartUnit).2 _ _ _ _ rfl).2 cartContext scope resolved
  exact ⟨_, found, rfl, scope, resolved, gives, judged⟩

end Boundary

end BoundaryLint
