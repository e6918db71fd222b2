import BoundaryLint.Tree.Occurrence
import Mathlib

/-!
Where nodes stand. An occurrence stands in a file if it is one of the trees of the file or a child of an occurrence
that stands there; its place tells it from all others. The traversal of a file visits exactly these occurrences, each
once, a node before what lies below it and what stands to the left before what stands to the right.
-/

namespace BoundaryLint.Occurrence

inductive Stands (body : List Node) : Occurrence → Prop
  | root {occurrence : Occurrence} (listed : occurrence ∈ numbered [] 0 body) : Stands body occurrence
  | child {parent occurrence : Occurrence} (above : Stands body parent) (listed : occurrence ∈ parent.children) :
    Stands body occurrence

def Covers : Occurrence → Occurrence → Prop := Relation.ReflTransGen fun parent child => child ∈ parent.children

def Above (first second : Occurrence) : Prop := first.place <:+ second.place ∧ first.place ≠ second.place

/-- The ways to both places part, and the first one goes on at the smaller number. -/
def LeftOf (first second : Occurrence) : Prop :=
  ∃ shared number other, number < other ∧ number :: shared <:+ first.place ∧ other :: shared <:+ second.place

def Precedes (first second : Occurrence) : Prop := first.Above second ∨ first.LeftOf second

variable {body : List Node} {place : List Nat} {start : Nat} {nodes : List Node}
  {occurrence parent child first second third : Occurrence}

section Rows

theorem getElem?_numbered (number : Nat) :
    (numbered place start nodes)[number]? = nodes[number]?.map fun node => ⟨(start + number) :: place, node⟩ := by
  induction nodes generalizing start number with
  | nil => simp [numbered]
  | cons node nodes ih =>
    cases number with
    | zero => simp [numbered]
    | succ number =>
      have next : start + 1 + number = start + (number + 1) := by omega
      simp [numbered, ih, next]

theorem mem_numbered :
    occurrence ∈ numbered place start nodes ↔
      ∃ number node, nodes[number]? = some node ∧ occurrence = ⟨(start + number) :: place, node⟩ := by
  simp [List.mem_iff_getElem?, getElem?_numbered, eq_comm]

theorem mem_children : child ∈ parent.children ↔
    ∃ number node, parent.node.children[number]? = some node ∧ child = ⟨number :: parent.place, node⟩ := by
  simp [children, mem_numbered]

theorem exists_behind_iff {front back : List Node} :
    (∃ number, (numbered place 0 (front ++ back))[front.length + number]? = some occurrence) ↔
      occurrence ∈ numbered place front.length back := by
  rw [List.mem_iff_getElem?]
  simp only [getElem?_numbered, List.getElem?_append_right (Nat.le_add_right _ _), Nat.add_sub_cancel_left, Nat.zero_add]

theorem pairwise_numbered : (numbered place start nodes).Pairwise LeftOf := by
  induction nodes generalizing start with
  | nil => exact .nil
  | cons node nodes ih =>
    refine List.pairwise_cons.mpr ⟨fun later mem => ?_, ih⟩
    obtain ⟨number, node, -, rfl⟩ := mem_numbered.mp mem
    exact ⟨place, start, start + 1 + number, by omega, List.suffix_refl _, List.suffix_refl _⟩

end Rows

section Order

theorem Covers.suffix (covers : first.Covers second) : first.place <:+ second.place := by
  induction covers with
  | refl => exact List.suffix_refl _
  | tail _ listed ih =>
    obtain ⟨number, node, -, rfl⟩ := mem_children.mp listed
    exact ih.trans (List.suffix_cons _ _)

theorem above_of_child (listed : child ∈ parent.children) (covers : child.Covers occurrence) :
    parent.Above occurrence := by
  obtain ⟨number, node, -, rfl⟩ := mem_children.mp listed
  have inside := covers.suffix
  refine ⟨(List.suffix_cons _ _).trans inside, fun same => ?_⟩
  have longer := inside.length_le
  rw [← same, List.length_cons] at longer
  omega

/-- What lies below two places that part goes the same ways. -/
theorem LeftOf.below (left : first.LeftOf second) {first' second' : Occurrence} (under : first.place <:+ first'.place)
    (under' : second.place <:+ second'.place) : first'.LeftOf second' := by
  obtain ⟨shared, number, other, less, before, after⟩ := left
  exact ⟨shared, number, other, less, before.trans under, after.trans under'⟩

/-- Two places on the way to a third one do not part. -/
theorem not_leftOf_of_suffix (above : first.place <:+ third.place) (above' : second.place <:+ third.place) :
    ¬ first.LeftOf second := by
  rintro ⟨shared, number, other, less, before, after⟩
  have inside : number :: shared <:+ other :: shared :=
    List.suffix_of_suffix_length_le (before.trans above) (after.trans above') (by simp)
  have same := inside.eq_of_length (by simp)
  rw [List.cons.injEq] at same
  omega

theorem Precedes.ne (precedes : first.Precedes second) : first.place ≠ second.place := by
  intro same
  rcases precedes with above | left
  · exact above.2 same
  · exact not_leftOf_of_suffix (List.suffix_refl _) (same ▸ List.suffix_refl _) left

/-- Of two occurrences above a third one, the one that comes first in pre-order lies above the other. -/
theorem Precedes.above (precedes : first.Precedes second) (covers : first.place <:+ third.place)
    (covers' : second.place <:+ third.place) : first.Above second :=
  precedes.resolve_right (not_leftOf_of_suffix covers covers')

end Order

section Traversal

theorem mem_walk {pending : List Occurrence} :
    occurrence ∈ walk pending ↔ ∃ top ∈ pending, top.Covers occurrence := by
  fun_induction walk pending with
  | case1 => simp
  | case2 top rest ih =>
    have covers : top.Covers occurrence ↔ occurrence = top ∨ ∃ child ∈ top.children, child.Covers occurrence := by
      rw [Covers, Relation.ReflTransGen.cases_head_iff, eq_comm]
    rw [List.mem_cons, ih, List.exists_mem_cons_iff, covers]
    simp only [List.mem_append, or_and_right, exists_or, or_assoc]

/-- A traversal that starts with trees from the left to the right goes on in pre-order. -/
theorem pairwise_walk {pending : List Occurrence} (row : pending.Pairwise LeftOf) :
    (walk pending).Pairwise Precedes := by
  fun_induction walk pending with
  | case1 => exact .nil
  | case2 top rest ih =>
    obtain ⟨before, later⟩ := List.pairwise_cons.mp row
    refine List.pairwise_cons.mpr ⟨fun visited mem => ?_, ih ?_⟩
    · obtain ⟨next, listed, covers⟩ := mem_walk.mp mem
      rcases List.mem_append.mp listed with below | beside
      · exact .inl (above_of_child below covers)
      · exact .inr ((before next beside).below (List.suffix_refl _) covers.suffix)
    · refine List.pairwise_append.mpr ⟨pairwise_numbered, later, fun child below next beside => ?_⟩
      exact (before next beside).below (Covers.suffix (.single below)) (List.suffix_refl _)

theorem mem_ofBody : occurrence ∈ ofBody body ↔ Stands body occurrence := by
  rw [ofBody, mem_walk]
  constructor
  · rintro ⟨top, listed, covers⟩
    induction covers with
    | refl => exact .root listed
    | tail _ below ih => exact .child ih below
  · intro stands
    induction stands with
    | root listed => exact ⟨_, listed, .refl⟩
    | child _ below ih =>
      obtain ⟨top, listed, covers⟩ := ih
      exact ⟨top, listed, covers.tail below⟩

theorem pairwise_ofBody (body : List Node) : (ofBody body).Pairwise Precedes := pairwise_walk pairwise_numbered

theorem Stands.covered (stands : Stands body first) (covers : first.Covers second) : Stands body second := by
  induction covers with
  | refl => exact stands
  | tail _ below ih => exact .child ih below

theorem nodup_places {occurrences : List Occurrence} (order : occurrences.Pairwise Precedes) :
    (occurrences.map (·.place)).Nodup :=
  List.pairwise_map.mpr (order.imp Precedes.ne)

/-- At one place of a file stands one node. -/
theorem Stands.eq_of_place (stands : Stands body first) (stands' : Stands body second)
    (same : first.place = second.place) : first = second :=
  List.inj_on_of_nodup_map (nodup_places (pairwise_ofBody body)) (mem_ofBody.mpr stands) (mem_ofBody.mpr stands') same

end Traversal

end BoundaryLint.Occurrence
