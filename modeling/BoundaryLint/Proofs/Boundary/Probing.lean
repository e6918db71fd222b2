import BoundaryLint.Proofs.Boundary.Dependency
import BoundaryLint.Proofs.Source.Outcome
import Mathlib

/-!
What more files on disk change. A domain of its own takes the domains around it away from a context, so with more
files more dependencies are forbidden; and a boundary is asked for only where its file is found, so a file without
issues stays without them when files are lost.
-/

namespace BoundaryLint

/-- Whatever is found by the first probe is found by the second. A probe that fails finds nothing. -/
def Probe.Within (less more : Probe) : Prop := ∀ path, less.find? path = some true → more.find? path = some true

theorem Probe.exists?_iff {probe : Probe} {path : String} :
    probe.exists? path = true ↔ probe.find? path = some true := by
  rw [exists?]
  cases probe.find? path with
  | none => simp
  | some found => simp

theorem ModuleRef.name_ne_deps (ref : ModuleRef) : ref.name ≠ "deps" := by
  intro same
  have split : ref.segments = Text.split '.' "deps" := by rw [← split_name ref, same]
  have single : Text.split '.' "deps" = ["deps"] := by decide
  have valid := ref.wellFormed "deps" (by simp [split, single])
  exact absurd valid (by decide)

namespace Boundary

/-- The issue names one dependency that does not point inward; all others speak of the dependencies as a whole. -/
def ForbidsDep (issue : Issue) : Prop := issue.trigger ≠ "deps"

variable {options : GraphOptions} {unit : SourceUnit} {context : Context} {declaration : Declaration}
  {probe less more : Probe}

theorem forbidsDep_iff {violation : Violation} :
    ForbidsDep (violationIssue options unit declaration violation) ↔ violation.isForbidden = true := by
  cases violation with
  | forbidden layer module dep allowed => simp [ForbidsDep, violationIssue, Violation.trigger,
      Violation.isForbidden, dep.name_ne_deps]
  | _ => simp [ForbidsDep, violationIssue, Violation.trigger, Violation.isForbidden]

namespace Context

theorem hasFile_mono (within : less.Within more) {file : String} (found : context.hasFile less file = true) :
    context.hasFile more file = true := by
  rw [hasFile, Bool.and_eq_true, Probe.exists?_iff] at found ⊢
  exact ⟨found.1, within _ found.2⟩

/-- With more files a context borrows from fewer contexts around it. -/
theorem permits_anti (within : less.Within more) {dep : ModuleRef} (permitted : context.Permits more dep) :
    context.Permits less dep := by
  have borrows : context.Borrows more dep → context.Borrows less dep := by
    intro borrowed
    constructor
    · intro owns
      exact borrowed.1 ⟨owns.1, within _ owns.2⟩
    · exact borrowed.2
  unfold Permits at permitted ⊢
  cases layer : context.layer with
  | application =>
    rw [layer] at permitted
    exact permitted.imp id borrows
  | infrastructure =>
    rw [layer] at permitted
    exact permitted.imp id (Or.imp id (Or.imp id borrows))
  | domain => simp [layer] at permitted
  | interface => simp [layer] at permitted
  | unknown => simp [layer] at permitted

theorem applicationOnDisk?_mono (within : less.Within more) (absent : context.applicationOnDisk? more = none) :
    context.applicationOnDisk? less = none := by
  unfold applicationOnDisk? at absent ⊢
  split at absent
  · cases absent
  next unlayered =>
  split at absent
  · cases absent
  next plain =>
  have first : ¬ context.hasFile less "application_layer.ex" = true := fun found => unlayered (hasFile_mono within found)
  rw [if_neg first]
  apply if_neg
  intro both
  rw [Bool.and_eq_true] at both plain
  exact plain ⟨both.1, hasFile_mono within both.2⟩

end Context

def forbiddenDeps (options : GraphOptions) (probe : Probe) (context : Context) (declaration : Declaration) :
    List ModuleRef :=
  (declaration.deps.filter (!isIgnored options ·)).filter (!(context.allowed probe).contains ·)

theorem mem_forbiddenDeps {dep : ModuleRef} :
    dep ∈ forbiddenDeps options probe context declaration ↔
      dep ∈ declaration.deps ∧ ¬ Ignored options dep ∧ ¬ context.Permits probe dep := by
  rw [forbiddenDeps, List.mem_filter, List.mem_filter, Bool.not_eq_true', ← Bool.not_eq_true, isIgnored_iff,
    Bool.not_eq_true', ← Bool.not_eq_true, List.contains_iff_mem, Context.mem_allowed_iff, and_assoc]

theorem forbiddenDeps_mono (within : less.Within more) :
    forbiddenDeps options less context declaration ⊆ forbiddenDeps options more context declaration := by
  intro dep mem
  rw [mem_forbiddenDeps] at mem ⊢
  obtain ⟨declared, counts, against⟩ := mem
  exact ⟨declared, counts, fun permitted => against (Context.permits_anti within permitted)⟩

theorem violations_outer (outer : context.layer ≠ .domain) :
    violations options probe context declaration =
      if (forbiddenDeps options probe context declaration).isEmpty then
        missing probe context (declaration.deps.filter (!isIgnored options ·))
      else (forbiddenDeps options probe context declaration).map fun dep =>
        .forbidden context.layer declaration.module dep (context.allowed probe) := by
  unfold violations
  rw [if_neg outer]
  rfl

theorem missing_mono (within : less.Within more) {deps : List ModuleRef} (none : missing more context deps = []) :
    missing less context deps = [] := by
  obtain ⟨domain, application⟩ := List.append_eq_nil_iff.mp none
  apply List.append_eq_nil_iff.mpr
  constructor
  · apply if_neg
    intro lacks
    rw [Bool.and_eq_true] at lacks
    rw [if_pos (by rw [lacks.1, Context.hasFile_mono within lacks.2]; rfl)] at domain
    cases domain
  · split at application
    · next lacks =>
      rw [if_pos lacks, List.map_eq_nil_iff, Option.toList_eq_nil_iff]
      rw [List.map_eq_nil_iff, Option.toList_eq_nil_iff] at application
      exact Context.applicationOnDisk?_mono within application
    · next content => exact if_neg content

/-- A dependency that is forbidden stays so with more files. -/
theorem forbidden_mono (within : less.Within more) {violation : Violation}
    (found : violation ∈ violations options less context declaration) (forbids : violation.isForbidden = true) :
    ∃ again ∈ violations options more context declaration,
      again.isForbidden = true ∧ again.trigger = violation.trigger := by
  by_cases inner : context.layer = .domain
  · simp only [violations, if_pos inner] at found ⊢
    exact ⟨violation, found, forbids, rfl⟩
  · rw [violations_outer inner] at found ⊢
    split at found
    · rw [(isMissing_of_mem_missing found).2] at forbids
      cases forbids
    · obtain ⟨dep, mem, rfl⟩ := List.mem_map.mp found
      have kept := forbiddenDeps_mono within mem
      have some : ¬ (forbiddenDeps options more context declaration).isEmpty = true := by
        rw [List.isEmpty_iff]
        exact List.ne_nil_of_mem kept
      rw [if_neg some]
      exact ⟨_, List.mem_map.mpr ⟨dep, kept, rfl⟩, rfl, rfl⟩

theorem violations_nil_mono (within : less.Within more) (clean : violations options more context declaration = []) :
    violations options less context declaration = [] := by
  by_cases inner : context.layer = .domain
  · simp only [violations, if_pos inner] at clean ⊢
    exact clean
  · rw [violations_outer inner] at clean ⊢
    split at clean
    · next none =>
      have fewer : forbiddenDeps options less context declaration = [] := by
        apply List.subset_nil.mp
        rw [← List.isEmpty_iff.mp none]
        exact forbiddenDeps_mono within
      rw [fewer, List.isEmpty_nil, if_pos rfl]
      exact missing_mono within clean
    · next some =>
      rw [List.map_eq_nil_iff] at clean
      exact absurd (List.isEmpty_iff.mpr clean) some

/-- A file without a context in a constrained layer gives no issue, whatever the disk holds; any other gives the
violations of its declaration. A context that cannot be resolved stops the check on every disk. -/
theorem validateUnit_shape (options : GraphOptions) (unit : SourceUnit) :
    (∃ fault, ∀ probe, validateUnit options probe unit = .error fault) ∨
      (∀ probe, validateUnit options probe unit = .ok []) ∨
      ∃ declaration context, unit.declaration = some declaration ∧
        resolve unit declaration.module = .ok (some context) ∧
        ∀ probe, validateUnit options probe unit =
          .ok ((violations options probe context declaration).map (violationIssue options unit declaration)) := by
  cases declares : unit.declaration with
  | none => exact .inr (.inl fun probe => validateUnit_of_none declares)
  | some declaration =>
    by_cases scope : inScope options unit.path = true
    · cases resolved : resolve unit declaration.module with
      | error fault =>
        left
        refine ⟨fault, fun probe => ?_⟩
        simp only [validateUnit, declares, scope, resolved, if_true, bind, Except.bind]
      | ok context? =>
        cases context? with
        | none => exact .inr (.inl fun probe => validateUnit_of_unresolved declares (.inr resolved))
        | some context =>
          by_cases constrained : context.layer.isConstrained = true
          · refine .inr (.inr ⟨declaration, context, rfl, resolved, fun probe => ?_⟩)
            rw [validateUnit_of_resolved declares scope resolved, if_pos constrained]
          · refine .inr (.inl fun probe => ?_)
            rw [validateUnit_of_resolved declares scope resolved, if_neg constrained, List.map_nil]
    · exact .inr (.inl fun probe => validateUnit_of_unresolved declares (.inl (by simpa using scope)))

/-- With more files on disk every dependency that was forbidden is forbidden again, and a file that has no issue
with them has none without them. -/
theorem validate_more_files (options : GraphOptions) (unit : SourceUnit) (less more : Probe)
    (within : less.Within more) :
    (∀ few, validate options less [unit] = .ok few → ∃ many, validate options more [unit] = .ok many ∧
      ∀ issue ∈ few, ForbidsDep issue → ∃ again ∈ many, ForbidsDep again ∧ again.trigger = issue.trigger) ∧
    (validate options more [unit] = .ok [] → validate options less [unit] = .ok []) := by
  simp only [validate_singleton]
  rcases validateUnit_shape options unit with ⟨fault, stops⟩ | quiet | ⟨declaration, context, -, -, found⟩
  · simp only [stops]
    constructor
    · intro few impossible
      cases impossible
    · exact id
  · simp only [quiet]
    refine ⟨fun few same => ⟨[], rfl, ?_⟩, id⟩
    cases same
    simp
  · simp only [found]
    constructor
    · intro few same
      cases same
      refine ⟨_, rfl, ?_⟩
      intro issue mem forbids
      obtain ⟨violation, listed, rfl⟩ := List.mem_map.mp mem
      obtain ⟨again, kept, still, trigger⟩ := forbidden_mono within listed (forbidsDep_iff.mp forbids)
      exact ⟨_, List.mem_map_of_mem kept, forbidsDep_iff.mpr still, trigger⟩
    · intro clean
      rw [Except.ok.injEq, List.map_eq_nil_iff] at clean ⊢
      exact violations_nil_mono within clean

def notesUnit : SourceUnit where
  tree := ⟨"lib/bazaar/notes/infrastructure.ex", []⟩
  layer := .unknown
  declaration := some ⟨⟨["Bazaar", "Notes", "Infrastructure"], by simp, by decide⟩,
    [⟨["Bazaar", "Domain"], by simp, by decide⟩], 2, []⟩

def diskOf (files : List String) : Probe := ⟨fun path => some (files.contains path)⟩

theorem diskOf_within {fewer files : List String} (subset : fewer ⊆ files) : (diskOf fewer).Within (diskOf files) := by
  intro path found
  simp only [diskOf, Option.some.injEq, List.contains_iff_mem] at found ⊢
  exact subset found

theorem validate_more_files_notes :
    (diskOf ["lib/bazaar/notes/domain.ex"]).Within (diskOf ["lib/bazaar/notes/domain.ex", "lib/bazaar/domain.ex"]) ∧
      ∃ few many, validate {} (diskOf ["lib/bazaar/notes/domain.ex"]) [notesUnit] = .ok few ∧
        few.map (·.trigger) = ["Bazaar.Domain"] ∧
        validate {} (diskOf ["lib/bazaar/notes/domain.ex", "lib/bazaar/domain.ex"]) [notesUnit] = .ok many ∧
        ∀ issue ∈ few, ForbidsDep issue → ∃ again ∈ many, ForbidsDep again ∧ again.trigger = issue.trigger := by
  have within : (diskOf ["lib/bazaar/notes/domain.ex"]).Within
      (diskOf ["lib/bazaar/notes/domain.ex", "lib/bazaar/domain.ex"]) := diskOf_within (by simp)
  have validated : ∃ few, validate {} (diskOf ["lib/bazaar/notes/domain.ex"]) [notesUnit] = .ok few ∧
      few.map (·.trigger) = ["Bazaar.Domain"] := ⟨_, rfl, by decide⟩
  obtain ⟨few, first, triggers⟩ := validated
  obtain ⟨many, second, kept⟩ := (validate_more_files {} notesUnit _ _ within).1 few first
  exact ⟨within, few, many, first, triggers, second, kept⟩

/-- Losing a file can bring an issue out: without the domain of the context the domain of the app is no longer
forbidden, and what was not asked for as long as it was forbidden is asked for. -/
theorem validate_lost_file :
    (diskOf ["lib/bazaar/notes/application_layer.ex"]).Within
        (diskOf ["lib/bazaar/notes/domain.ex", "lib/bazaar/notes/application_layer.ex"]) ∧
      ∃ few many issue, validate {} (diskOf ["lib/bazaar/notes/application_layer.ex"]) [notesUnit] = .ok few ∧
        validate {} (diskOf ["lib/bazaar/notes/domain.ex", "lib/bazaar/notes/application_layer.ex"]) [notesUnit] =
          .ok many ∧
        issue ∈ few ∧ issue ∉ many :=
  ⟨diskOf_within (by simp), _, _, _, rfl, rfl, .head _, by decide⟩

end Boundary

end BoundaryLint
