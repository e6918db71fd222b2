import BoundaryLint.Proofs.Lint.Completion
import Mathlib

/-!
Engines that mirror each other. Where two engines report related issues about every file, whatever the relation,
two runs report related issues as long as the relation is kept when issues are put together and sorted.
-/

namespace BoundaryLint

/-- Whatever the first step gives, the second gives something that is related to it. -/
def Carries {α β ε δ : Type} (related : α → β → Prop) (first : Except ε α) (second : Except δ β) : Prop :=
  ∀ value, first = .ok value → ∃ other, second = .ok other ∧ related value other

namespace Carries

variable {α β γ ε δ : Type} {related : α → β → Prop} {x : Except ε α} {y : Except δ β}

theorem ok {value : α} {other : β} (same : related value other) :
    Carries related (.ok value : Except ε α) (.ok other : Except δ β) := by
  intro given found
  cases found
  exact ⟨other, rfl, same⟩

theorem self (x : Except ε α) : Carries (· = ·) x x := by
  intro value given
  exact ⟨value, given, rfl⟩

theorem bind {γ' : Type} {further : γ → γ' → Prop} {f : α → Except ε γ} {g : β → Except δ γ'}
    (first : Carries related x y) (later : ∀ a b, related a b → Carries further (f a) (g b)) :
    Carries further (x >>= f) (y >>= g) := by
  intro result given
  obtain ⟨value, found, rest⟩ := bind_eq_ok.mp given
  obtain ⟨other, read, same⟩ := first value found
  obtain ⟨outcome, last, fits⟩ := later value other same result rest
  exact ⟨outcome, bind_eq_ok.mpr ⟨other, read, last⟩, fits⟩

theorem mapError {ε' δ' : Type} {f : ε → ε'} {g : δ → δ'} (carries : Carries related x y) :
    Carries related (x.mapError f) (y.mapError g) := by
  intro value given
  obtain ⟨other, found, same⟩ := carries value (mapError_eq_ok.mp given)
  exact ⟨other, mapError_eq_ok.mpr found, same⟩

theorem mapM {items : List γ} {f : γ → Except ε α} {g : γ → Except δ β}
    (each : ∀ item, Carries related (f item) (g item)) :
    Carries (List.Forall₂ related) (items.mapM f) (items.mapM g) := by
  induction items with
  | nil => exact .ok .nil
  | cons item items ih =>
    rw [List.mapM_cons, List.mapM_cons]
    apply (each item).bind
    intro a b first
    apply ih.bind
    intro others more rest
    exact .ok (.cons first rest)

end Carries

namespace Lint

/-- A relation between the issues of two runs that is kept when issues are put together and sorted. -/
structure Congruence (related : List Issue → List Issue → Prop) : Prop where
  nil : related [] []
  append : ∀ {a b c d}, related a b → related c d → related (a ++ c) (b ++ d)
  sort : ∀ {a b}, related a b → related (Issue.sort a) (Issue.sort b)

def refusalIssues (settings : RuleConfig) (path : String) (cause : Source.Cause) (line : Nat) :
    Except Issue.Fault (List Issue) := do
  if settings.enabled then return [← parseIssue settings path cause line] else return []

def ruleIssues [Host] (rules : List ActiveRule) (probe : Probe) (unit : SourceUnit) : Except RuleFault
    (List Issue) := do
  return (← rules.mapM (applyRule probe unit)).flatten

/-- Whatever one engine reports about a file, the other reports something related. -/
structure Mirrors [Host] (related : List Issue → List Issue → Prop) (engine changed : Engine) : Prop where
  classifier : changed.classifier = engine.classifier
  refusals : ∀ path cause line, Carries related (refusalIssues engine.parseError path cause line)
    (refusalIssues changed.parseError path cause line)
  rules : ∀ probe unit, Carries related (ruleIssues engine.rules probe unit) (ruleIssues changed.rules probe unit)
  graph : ∀ probe (unit? : Option SourceUnit),
    Carries related (checkGraph engine probe unit?.toList) (checkGraph changed probe unit?.toList)

theorem checkFile_eq [Host] (engine : Engine) (probe : Probe) (path source : String) :
    checkFile engine probe path source = match analyze engine.classifier path source with
      | .error (.stop fault) => .error fault
      | .error (.source cause line) => do
        return (none, ← (refusalIssues engine.parseError path cause line).mapError .issue)
      | .ok unit => do
        return (some unit, ← (ruleIssues engine.rules probe unit).mapError .rule) := by
  unfold checkFile
  cases analyze engine.classifier path source with
  | error refused =>
    cases refused with
    | stop fault => rfl
    | source cause line =>
      unfold refusalIssues
      by_cases wanted : engine.parseError.enabled = true
      · simp only [wanted, if_true]
        cases parseIssue engine.parseError path cause line with
        | ok issue => rfl
        | error fault => rfl
      · simp only [wanted, Bool.false_eq_true, if_false]
        rfl
  | ok unit =>
    unfold ruleIssues
    dsimp only
    cases engine.rules.mapM (applyRule probe unit) with
    | ok issues => rfl
    | error fault => rfl

section Mirroring

variable {related : List Issue → List Issue → Prop} {engine changed : Engine}

theorem Mirrors.checkFile [Host] (mirrors : Mirrors related engine changed) (probe : Probe) (path source : String) :
    Carries (fun first second => second.1 = first.1 ∧ related first.2 second.2)
      (Lint.checkFile engine probe path source) (Lint.checkFile changed probe path source) := by
  rw [checkFile_eq, checkFile_eq, mirrors.classifier]
  cases analyze engine.classifier path source with
  | error refused =>
    cases refused with
    | stop fault =>
      intro outcome impossible
      cases impossible
    | source cause line =>
      apply (mirrors.refusals path cause line).mapError.bind
      intro issues others same
      exact .ok ⟨rfl, same⟩
  | ok unit =>
    apply (mirrors.rules probe unit).mapError.bind
    intro issues others same
    exact .ok ⟨rfl, same⟩

theorem Mirrors.share [Host] (mirrors : Mirrors related engine changed) (probe : Probe) (file : String × String) :
    Carries (fun first second => related first.1 second.1 ∧ related first.2 second.2)
      (Lint.share engine probe file) (Lint.share changed probe file) := by
  apply (mirrors.checkFile probe file.1 file.2).bind
  intro (unit?, found) (other?, more) ⟨same, fits⟩
  subst same
  apply (mirrors.graph probe other?).bind
  intro boundary others last
  exact .ok ⟨fits, last⟩

theorem Congruence.flatMap (congruence : Congruence related) {α β : Type} {pick : α → List Issue}
    {choose : β → List Issue} {first : List α} {second : List β}
    (paired : List.Forall₂ (fun a b => related (pick a) (choose b)) first second) :
    related (first.flatMap pick) (second.flatMap choose) := by
  induction paired with
  | nil => exact congruence.nil
  | cons head tail ih =>
    rw [List.flatMap_cons, List.flatMap_cons]
    exact congruence.append head ih

/-- What holds of the issues about every file holds of the issues of the run. -/
theorem Mirrors.run [Host] (mirrors : Mirrors related engine changed) (congruence : Congruence related) (probe : Probe)
    (files : List (String × String)) :
    Carries (fun first second => related first.issues second.issues ∧ second.filesChecked = first.filesChecked)
      (Lint.run engine probe files) (Lint.run changed probe files) := by
  intro result finished
  obtain ⟨shares, shared, rfl⟩ := run_eq_ok_iff.mp finished
  obtain ⟨others, given, paired⟩ := Carries.mapM (mirrors.share probe) shares shared
  refine ⟨gather changed others, run_eq_ok_iff.mpr ⟨others, given, rfl⟩, ?_, paired.length_eq.symm⟩
  apply congruence.sort
  apply congruence.append
  · exact congruence.flatMap (paired.imp fun _ _ both => both.1)
  · exact congruence.flatMap (paired.imp fun _ _ both => both.2)

theorem ruleIssues_append [Host] (first second : List ActiveRule) (probe : Probe) (unit : SourceUnit) :
    ruleIssues (first ++ second) probe unit = do
      return (← ruleIssues first probe unit) ++ (← ruleIssues second probe unit) := by
  unfold ruleIssues
  rw [List.mapM_append]
  cases first.mapM (applyRule probe unit) with
  | error fault => rfl
  | ok issues =>
    cases second.mapM (applyRule probe unit) with
    | error fault => rfl
    | ok others => simp [bind, Except.bind, pure, Except.pure]

theorem ruleIssues_singleton [Host] (active : ActiveRule) (probe : Probe) (unit : SourceUnit) :
    ruleIssues [active] probe unit = applyRule probe unit active := by
  unfold ruleIssues
  rw [List.mapM_cons, List.mapM_nil]
  cases applyRule probe unit active with
  | error fault => rfl
  | ok issues => simp [bind, Except.bind, pure, Except.pure]

theorem Congruence.ruleIssues [Host] (congruence : Congruence related) {first second : List (Option ActiveRule)}
    (paired : List.Forall₂ (fun active other => ∀ probe unit,
      Carries related (Lint.ruleIssues active.toList probe unit) (Lint.ruleIssues other.toList probe unit))
      first second) (probe : Probe) (unit : SourceUnit) :
    Carries related (Lint.ruleIssues (first.filterMap id) probe unit)
      (Lint.ruleIssues (second.filterMap id) probe unit) := by
  have split (active : Option ActiveRule) (rest : List (Option ActiveRule)) :
      (active :: rest).filterMap id = active.toList ++ rest.filterMap id := by
    cases active with
    | none => rfl
    | some rule => rfl
  induction paired with
  | nil => exact .ok congruence.nil
  | cons head tail ih =>
    rw [split, split, ruleIssues_append, ruleIssues_append]
    apply (head probe unit).bind
    intro issues others same
    apply ih.bind
    intro more rest fits
    exact .ok (congruence.append same fits)

end Mirroring

end Lint

end BoundaryLint
