import BoundaryLint.Proofs.Boundary.Dependency
import BoundaryLint.Proofs.Source.Outcome
import Mathlib

/-!
Clean boundaries have no cycles. If the check finds nothing, every dependency of a domain, application or
infrastructure on another file leads to a layer further in, so a chain of dependencies cannot come back.
-/

namespace BoundaryLint

def Layer.rank : Layer → Nat
  | .domain => 0
  | .application => 1
  | .infrastructure => 2
  | .interface => 3
  | .unknown => 4

namespace Boundary

def Resolves (unit : SourceUnit) (layer : Layer) : Prop :=
  ∃ declaration context, unit.declaration = some declaration ∧
    resolve unit declaration.module = .ok (some context) ∧ context.layer = layer

def DependsOn (units : List SourceUnit) (unit other : SourceUnit) : Prop :=
  unit ∈ units ∧ other ∈ units ∧ ∃ declaration target, unit.declaration = some declaration ∧
    other.declaration = some target ∧ target.module ∈ declaration.deps

/-- A file whose module ends like a boundary of an inner layer has that layer. -/
def NamedByLayer (unit : SourceUnit) : Prop :=
  ∀ declaration, unit.declaration = some declaration →
    (declaration.module.last = "Domain" → Resolves unit .domain) ∧
    (declaration.module.last = "Application" ∨ declaration.module.last = "ApplicationLayer" →
      Resolves unit .application)

variable {options : GraphOptions} {probe : Probe} {units : List SourceUnit} {unit other : SourceUnit}
  {layer : Layer}

theorem Resolves.layer_eq {second : Layer} (first : Resolves unit layer) (again : Resolves unit second) :
    layer = second := by
  obtain ⟨declaration, context, declares, resolved, rfl⟩ := first
  obtain ⟨_, _, same, found, rfl⟩ := again
  cases declares.symm.trans same
  cases resolved.symm.trans found
  rfl

theorem validateUnit_of_clean (clean : validate options probe units = .ok []) (mem : unit ∈ units) :
    validateUnit options probe unit = .ok [] := by
  obtain ⟨before, after, rfl⟩ := List.append_of_mem mem
  have split : before ++ unit :: after = before ++ ([unit] ++ after) := rfl
  rw [split, validate_append, validate_append, validate_singleton] at clean
  obtain ⟨first, -, rest⟩ := bind_eq_ok.mp clean
  obtain ⟨others, later, joined⟩ := bind_eq_ok.mp rest
  obtain ⟨own, validated, ending⟩ := bind_eq_ok.mp later
  obtain ⟨more, -, together⟩ := bind_eq_ok.mp ending
  cases together
  have none : first ++ (own ++ more) = [] := Except.ok.inj joined
  rw [List.append_eq_nil_iff, List.append_eq_nil_iff] at none
  rw [validated, none.2.1]

theorem permits_of_violations_nil {context : Context} {declaration : Declaration}
    (clean : violations options probe context declaration = []) {dep : ModuleRef} (mem : dep ∈ declaration.deps)
    (counts : ¬ Ignored options dep) : context.Permits probe dep := by
  have counted : dep ∈ declaration.deps.filter (!isIgnored options ·) := by
    rw [List.mem_filter, Bool.not_eq_true', ← Bool.not_eq_true, isIgnored_iff]
    exact ⟨mem, counts⟩
  simp only [violations] at clean
  split at clean
  · split at clean
    · rename_i none
      rw [List.isEmpty_iff.mp none] at counted
      cases counted
    · cases clean
  · split at clean
    · rename_i none
      by_contra against
      have forbidden : dep ∈ (declaration.deps.filter (!isIgnored options ·)).filter
          (!(context.allowed probe).contains ·) := by
        rw [List.mem_filter, Bool.not_eq_true', ← Bool.not_eq_true, List.contains_iff_mem, Context.mem_allowed_iff]
        exact ⟨counted, against⟩
      rw [List.isEmpty_iff.mp none] at forbidden
      cases forbidden
    · rename_i some
      rw [List.map_eq_nil_iff] at clean
      exact absurd (List.isEmpty_iff.mpr clean) some

/-- Whatever the rule permits ends like a boundary of a layer further in. -/
theorem last_of_permits {context : Context} {dep : ModuleRef} (permitted : context.Permits probe dep) :
    dep.last = "Domain" ∧ 0 < context.layer.rank ∨
      (dep.last = "Application" ∨ dep.last = "ApplicationLayer") ∧ 1 < context.layer.rank := by
  have borrowed : context.Borrows probe dep → dep.last = "Domain" := by
    rintro ⟨-, outer, -, same⟩
    exact ModuleRef.last_of_segments same
  unfold Context.Permits at permitted
  cases layer : context.layer with
  | application =>
    rw [layer] at permitted
    left
    refine ⟨?_, Nat.zero_lt_one⟩
    rcases permitted with same | outer
    · exact ModuleRef.last_of_segments same
    · exact borrowed outer
  | infrastructure =>
    rw [layer] at permitted
    rcases permitted with same | same | same | outer
    · exact .inl ⟨ModuleRef.last_of_segments same, Nat.zero_lt_two⟩
    · exact .inr ⟨.inl (ModuleRef.last_of_segments same), Nat.one_lt_two⟩
    · exact .inr ⟨.inr (ModuleRef.last_of_segments same), Nat.one_lt_two⟩
    · exact .inl ⟨borrowed outer, Nat.zero_lt_two⟩
  | domain => simp [layer] at permitted
  | interface => simp [layer] at permitted
  | unknown => simp [layer] at permitted

section Clean

variable (unignored : options.ignoredDeps = []) (scope : ∀ unit ∈ units, inScope options unit.path = true)
  (named : ∀ unit ∈ units, NamedByLayer unit) (clean : validate options probe units = .ok [])

include unignored scope named clean

/-- A dependency of a constrained layer leads further in. -/
theorem rank_lt_of_dependsOn (depends : DependsOn units unit other) (home : Resolves unit layer)
    (constrained : layer.isConstrained = true) :
    ∃ inner, Resolves other inner ∧ inner.isConstrained = true ∧ inner.rank < layer.rank := by
  obtain ⟨mem, among, declaration, target, declares, declared, inside⟩ := depends
  obtain ⟨_, context, same, resolved, rfl⟩ := home
  cases declares.symm.trans same
  have silent := validateUnit_of_clean clean mem
  rw [validateUnit_of_resolved declares (scope unit mem) resolved, if_pos constrained, Except.ok.injEq,
    List.map_eq_nil_iff] at silent
  have counts : ¬ Ignored options target.module := by
    rintro ⟨ignored, listed, -⟩
    rw [unignored] at listed
    cases listed
  have ends := last_of_permits (permits_of_violations_nil silent inside counts)
  obtain ⟨domain, application⟩ := named other among target declared
  rcases ends with ⟨last, further⟩ | ⟨last, further⟩
  · exact ⟨.domain, domain last, rfl, further⟩
  · exact ⟨.application, application last, rfl, further⟩

theorem rank_lt_of_transGen (chain : Relation.TransGen (DependsOn units) unit other) (home : Resolves unit layer)
    (constrained : layer.isConstrained = true) :
    ∃ inner, Resolves other inner ∧ inner.isConstrained = true ∧ inner.rank < layer.rank := by
  induction chain with
  | single depends => exact rank_lt_of_dependsOn unignored scope named clean depends home constrained
  | tail _ depends hypothesis =>
    obtain ⟨middle, between, binds, further⟩ := hypothesis
    obtain ⟨inner, found, last, deeper⟩ := rank_lt_of_dependsOn unignored scope named clean depends between binds
    exact ⟨inner, found, last, Nat.lt_trans deeper further⟩

end Clean

/-- If no dependency is ignored, all files are in scope, files named like a boundary have its layer, and
the check finds nothing, then every dependency of a domain, application or infrastructure on another file
leads to a layer further in, and none of them lies on a cycle of dependencies. -/
theorem clean_acyclic (options : GraphOptions) (probe : Probe) (units : List SourceUnit)
    (unignored : options.ignoredDeps = [])
    (scope : ∀ unit ∈ units, inScope options unit.path = true) (named : ∀ unit ∈ units, NamedByLayer unit)
    (clean : validate options probe units = .ok []) :
    (∀ unit other layer, DependsOn units unit other → Resolves unit layer → layer.isConstrained = true →
      ∃ inner, Resolves other inner ∧ inner.isConstrained = true ∧ inner.rank < layer.rank) ∧
    ∀ unit layer, Resolves unit layer → layer.isConstrained = true →
      ¬ Relation.TransGen (DependsOn units) unit unit := by
  constructor
  · intro unit other layer depends home constrained
    exact rank_lt_of_dependsOn unignored scope named clean depends home constrained
  · intro unit layer home constrained cycle
    obtain ⟨inner, again, -, further⟩ := rank_lt_of_transGen unignored scope named clean cycle home constrained
    rw [again.layer_eq home] at further
    exact Nat.lt_irrefl _ further

def storeRoot : ModuleRef := ⟨["Store"], by simp, by decide⟩

def storeDomain : ModuleRef := ⟨["Store", "Domain"], by simp, by decide⟩

def storeApplication : ModuleRef := ⟨["Store", "ApplicationLayer"], by simp, by decide⟩

def storeInfrastructure : ModuleRef := ⟨["Store", "Infrastructure"], by simp, by decide⟩

def storeUnit (path : String) (module : ModuleRef) (deps : List ModuleRef) : SourceUnit :=
  ⟨⟨path, []⟩, .unknown, some ⟨module, deps, 1, []⟩⟩

def storeUnits : List SourceUnit :=
  [storeUnit "lib/store/domain.ex" storeDomain [],
    storeUnit "lib/store/application_layer.ex" storeApplication [storeDomain],
    storeUnit "lib/store/infrastructure.ex" storeInfrastructure [storeApplication, storeDomain]]

theorem resolves_storeUnit {path : String} {module : ModuleRef} {deps : List ModuleRef} {context : Context}
    (resolved : resolve (storeUnit path module deps) module = .ok (some context)) :
    Resolves (storeUnit path module deps) context.layer :=
  ⟨_, context, rfl, resolved, rfl⟩

theorem clean_acyclic_store :
    (∀ unit ∈ storeUnits, inScope {} unit.path = true) ∧ (∀ unit ∈ storeUnits, NamedByLayer unit) ∧
      validate {} .denied storeUnits = .ok [] ∧
      ∀ unit layer, Resolves unit layer → layer.isConstrained = true →
        ¬ Relation.TransGen (DependsOn storeUnits) unit unit := by
  have scope : ∀ unit ∈ storeUnits, inScope {} unit.path = true := by decide
  have named : ∀ unit ∈ storeUnits, NamedByLayer unit := by
    intro unit mem declaration declares
    simp only [storeUnits, List.mem_cons, List.not_mem_nil, or_false] at mem
    rcases mem with rfl | rfl | rfl
    · cases declares
      exact ⟨fun _ => resolves_storeUnit (show resolve _ _ = .ok (some ⟨storeRoot, "lib/store", .domain, true⟩) from rfl),
        fun other => absurd other (by decide)⟩
    · cases declares
      exact ⟨fun other => absurd other (by decide),
        fun _ => resolves_storeUnit (show resolve _ _ = .ok (some ⟨storeRoot, "lib/store", .application, true⟩) from rfl)⟩
    · cases declares
      exact ⟨fun other => absurd other (by decide), fun other => absurd other (by decide)⟩
  have clean : validate {} .denied storeUnits = .ok [] := by rfl
  exact ⟨scope, named, clean, (clean_acyclic {} .denied storeUnits rfl scope named clean).2⟩

end Boundary

end BoundaryLint
