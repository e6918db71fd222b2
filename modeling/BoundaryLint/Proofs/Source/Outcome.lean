import Mathlib

/-!
Steps that can fail. A step has an outcome: something holds of the value it gives, or something holds
of the fault it ends in. Steps that follow each other are judged one by one.
-/

namespace BoundaryLint

variable {ε α β : Type} {x : Except ε α} {f : α → Except ε β}

theorem bind_eq_ok {result : β} :
    (x >>= f) = .ok result ↔ ∃ value, x = .ok value ∧ f value = .ok result := by
  cases x with
  | error fault => simp [bind, Except.bind]
  | ok value => simp [bind, Except.bind]

theorem bind_eq_bind {g : α → Except ε β} (same : ∀ value, x = .ok value → f value = g value) : x >>= f = x >>= g := by
  cases x with
  | error fault => rfl
  | ok value => exact same value rfl

theorem map_eq_ok {g : α → β} {result : β} : x.map g = .ok result ↔ ∃ value, x = .ok value ∧ g value = result := by
  cases x with
  | error fault => simp [Except.map]
  | ok given => simp [Except.map]

theorem mapError_eq_ok {δ : Type} {g : ε → δ} {value : α} : x.mapError g = .ok value ↔ x = .ok value := by
  cases x with
  | error fault => simp [Except.mapError]
  | ok given => simp [Except.mapError]

/-- `good` holds of the value that a step gives, or `bad` of its fault. -/
def Outcome (good : α → Prop) (bad : ε → Prop) : Except ε α → Prop
  | .ok value => good value
  | .error fault => bad fault

namespace Outcome

variable {good : α → Prop} {better : β → Prop} {bad : ε → Prop}

theorem any (x : Except ε α) : Outcome (fun _ => True) (fun _ => True) x := by
  cases x with
  | error fault => trivial
  | ok value => trivial

theorem bind (first : Outcome good bad x) (later : ∀ value, good value → Outcome better bad (f value)) :
    Outcome better bad (x >>= f) := by
  cases x with
  | error fault => exact first
  | ok value => exact later value first

theorem mono {worse : ε → Prop} (outcome : Outcome good bad x) (told : ∀ fault, bad fault → worse fault) :
    Outcome good worse x := by
  cases x with
  | error fault => exact told fault outcome
  | ok value => exact outcome

theorem mapError {δ : Type} {g : ε → δ} {bad : δ → Prop} (outcome : Outcome good (fun fault => bad (g fault)) x) :
    Outcome good bad (x.mapError g) := by
  cases x with
  | error fault => exact outcome
  | ok value => exact outcome

theorem mapM {items : List α} (each : ∀ item ∈ items, Outcome better bad (f item)) :
    Outcome (fun results => ∀ result ∈ results, better result) bad (items.mapM f) := by
  induction items with
  | nil => exact fun result mem => absurd mem List.not_mem_nil
  | cons item items ih =>
    obtain ⟨first, rest⟩ := List.forall_mem_cons.mp each
    rw [List.mapM_cons]
    apply first.bind
    intro value fine
    apply (ih rest).bind
    intro others all
    exact List.forall_mem_cons.mpr ⟨fine, all⟩

end Outcome

def Succeeds (x : Except ε α) : Prop := ∃ value, x = .ok value

namespace Succeeds

theorem ok (value : α) : Succeeds (.ok value : Except ε α) := ⟨value, rfl⟩

theorem outcome {bad : ε → Prop} (given : Succeeds x) : Outcome (fun _ => True) bad x := by
  obtain ⟨value, rfl⟩ := given
  exact trivial

theorem bind (first : Succeeds x) (later : ∀ value, x = .ok value → Succeeds (f value)) : Succeeds (x >>= f) := by
  obtain ⟨value, rfl⟩ := first
  exact later value rfl

theorem bind_iff (total : ∀ value, Succeeds (f value)) : Succeeds (x >>= f) ↔ Succeeds x := by
  constructor
  · rintro ⟨result, given⟩
    obtain ⟨value, first, -⟩ := bind_eq_ok.mp given
    exact ⟨value, first⟩
  · intro first
    exact first.bind fun value _ => total value

theorem mapError_iff {δ : Type} {g : ε → δ} : Succeeds (x.mapError g) ↔ Succeeds x :=
  exists_congr fun _ => mapError_eq_ok

theorem mapM {items : List α} (each : ∀ item ∈ items, Succeeds (f item)) : Succeeds (items.mapM f) := by
  induction items with
  | nil => exact .ok []
  | cons item items ih =>
    obtain ⟨first, rest⟩ := List.forall_mem_cons.mp each
    rw [List.mapM_cons]
    refine .bind first fun value _ => .bind (ih rest) fun others _ => ?_
    exact .ok (value :: others)

end Succeeds

end BoundaryLint
