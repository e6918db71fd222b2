import BoundaryLint.Proofs.Source.Outcome
import BoundaryLint.Source.Fault
import Mathlib

/-!
Loops over a text. An iteration ends the loop or goes on in another state, or it fails. Main statement: a loop whose
iterations all take something from the text ahead is its iterations one after the other, and it is over after at most
one more of them than there are characters ahead.
-/

namespace BoundaryLint.Token

/-- The text from a place on, and what is left of it at a place at least one character further on. -/
def Further (start here : List Char) : Prop := ∃ c taken, start = c :: taken ++ here

section Places

variable {c : Char} {first second third rest : List Char}

theorem Further.length_lt (further : Further first second) : second.length < first.length := by
  obtain ⟨c, taken, rfl⟩ := further
  simp only [List.length_append, List.length_cons]
  omega

theorem Further.suffix (further : Further first second) : second <:+ first := by
  obtain ⟨c, taken, rfl⟩ := further
  exact List.suffix_append _ _

theorem further_of_suffix (ends : second <:+ rest) : Further (c :: rest) second := by
  obtain ⟨taken, rfl⟩ := ends
  exact ⟨c, taken, rfl⟩

theorem further_append {word : List Char} (long : word ≠ []) (rest : List Char) : Further (word ++ rest) rest := by
  obtain ⟨c, word, rfl⟩ := List.exists_cons_of_ne_nil long
  exact ⟨c, word, rfl⟩

theorem further_cons (c : Char) (rest : List Char) : Further (c :: rest) rest := further_of_suffix List.suffix_rfl

theorem Further.trans (begins : Further first second) (goesOn : Further second third) : Further first third := by
  obtain ⟨c, taken, rfl⟩ := begins
  exact further_of_suffix (goesOn.suffix.trans (List.suffix_append taken second))

theorem Further.of_suffix (further : Further second third) (ends : second <:+ first) : Further first third := by
  obtain ⟨taken, rfl⟩ := ends
  cases taken with
  | nil => exact further
  | cons c taken => exact further_of_suffix (further.suffix.trans (List.suffix_append taken second))

end Places

section Loops

variable {σ : Type} (ahead : σ → List Char) (turn : σ → Except Source.Fault (ForInStep σ))

/-- The loop over the text ahead, given by what an iteration does. It stops where an iteration takes nothing. -/
def iterated (state : σ) : Except Source.Fault σ :=
  match turn state with
  | .error fault => .error fault
  | .ok (.done last) => .ok last
  | .ok (.yield later) => if (ahead later).length < (ahead state).length then iterated later else .ok later
termination_by (ahead state).length

def resume (loop : σ → Except Source.Fault σ) : ForInStep σ → Except Source.Fault σ
  | .done last => .ok last
  | .yield later => loop later

def turns : Nat → σ → Except Source.Fault (ForInStep σ)
  | 0, state => .ok (.yield state)
  | count + 1, state => do
    match ← turn state with
    | .done last => return .done last
    | .yield later => turns count later

/-- Every iteration of a loop gets on in the text, so the loop comes to an end. -/
structure Iterates : Prop where
  advances : ∀ {state later}, turn state = .ok (.yield later) → Further (ahead state) (ahead later)
  unrolls : ∀ state, iterated ahead turn state = turn state >>= resume (iterated ahead turn)
  ends : ∀ state, turns turn ((ahead state).length + 1) state = (iterated ahead turn state).map .done

variable {ahead turn}

theorem iterated_unrolls
    (advances : ∀ {state later}, turn state = .ok (.yield later) → Further (ahead state) (ahead later)) (state : σ) :
    iterated ahead turn state = turn state >>= resume (iterated ahead turn) := by
  rw [iterated]
  cases made : turn state with
  | error fault => rfl
  | ok step =>
    cases step with
    | done last => rfl
    | yield later => exact if_pos (advances made).length_lt

/-- The iterations that are left are enough when each of the characters ahead leaves one. -/
theorem turns_eq_iterated
    (advances : ∀ {state later}, turn state = .ok (.yield later) → Further (ahead state) (ahead later)) {count : Nat}
    {state : σ} (enough : (ahead state).length < count) :
    turns turn count state = (iterated ahead turn state).map .done := by
  induction count generalizing state with
  | zero => exact absurd enough (Nat.not_lt_zero _)
  | succ count ih =>
    rw [turns, iterated_unrolls advances]
    cases made : turn state with
    | error fault => rfl
    | ok step =>
      cases step with
      | done last => rfl
      | yield later => exact ih (Nat.lt_of_lt_of_le (advances made).length_lt (Nat.le_of_lt_succ enough))

theorem iterates_of_advances
    (advances : ∀ {state later}, turn state = .ok (.yield later) → Further (ahead state) (ahead later)) :
    Iterates ahead turn where
  advances := advances
  unrolls := iterated_unrolls advances
  ends _ := turns_eq_iterated advances (Nat.lt_succ_self _)

namespace Iterates

variable {state last later : σ} {fault : Source.Fault}

theorem of_error (iterates : Iterates ahead turn) (made : turn state = .error fault) :
    iterated ahead turn state = .error fault := by
  rw [iterates.unrolls, made]
  rfl

theorem of_done (iterates : Iterates ahead turn) (made : turn state = .ok (.done last)) :
    iterated ahead turn state = .ok last := by
  rw [iterates.unrolls, made]
  rfl

theorem of_yield (iterates : Iterates ahead turn) (made : turn state = .ok (.yield later)) :
    iterated ahead turn state = iterated ahead turn later := by
  rw [iterates.unrolls, made]
  rfl

theorem of_eq (iterates : Iterates ahead turn) {other : σ} (same : turn state = turn other) :
    iterated ahead turn state = iterated ahead turn other := by
  rw [iterates.unrolls, iterates.unrolls, same]

/-- A loop ends as one of its iterations does. What holds at the end of the last one may speak of the state in which it
starts, if each iteration before keeps that. -/
theorem outcome (iterates : Iterates ahead turn) {good : σ → σ → Prop} {bad : Source.Fault → Prop}
    (failed : ∀ {state fault}, turn state = .error fault → bad fault)
    (done : ∀ {state last}, turn state = .ok (.done last) → good state last)
    (kept : ∀ {state later last}, turn state = .ok (.yield later) → good later last → good state last) (state : σ) :
    Outcome (good state) bad (iterated ahead turn state) := by
  induction size : (ahead state).length using Nat.strong_induction_on generalizing state with
  | _ size ih =>
    subst size
    cases made : turn state with
    | error fault =>
      rw [iterates.of_error made]
      exact failed made
    | ok step =>
      cases step with
      | done last =>
        rw [iterates.of_done made]
        exact done made
      | yield later =>
        have behind := ih _ (iterates.advances made).length_lt later rfl
        rw [iterates.of_yield made]
        cases goesOn : iterated ahead turn later with
        | error fault =>
          rw [goesOn] at behind
          exact behind
        | ok last =>
          rw [goesOn] at behind
          exact kept made behind

/-- A loop that takes something in its last iteration takes something in any case. -/
theorem further (iterates : Iterates ahead turn)
    (leaves : ∀ {state last}, turn state = .ok (.done last) → Further (ahead state) (ahead last))
    (passed : iterated ahead turn state = .ok last) : Further (ahead state) (ahead last) := by
  have outcome : Outcome (fun last => Further (ahead state) (ahead last)) (fun _ => True) (iterated ahead turn state) :=
    iterates.outcome (fun _ => trivial) leaves (fun made behind => (iterates.advances made).trans behind) state
  rw [passed] at outcome
  exact outcome

end Iterates

end Loops

end BoundaryLint.Token
