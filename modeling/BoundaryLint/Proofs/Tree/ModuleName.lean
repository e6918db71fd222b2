import BoundaryLint.Tree.ModuleRef

/-!
Dotted names. A name is cut at its dots into the segments it was joined from, so different modules have
different names.
-/

namespace BoundaryLint

namespace Text

theorem splitChars_eq_singleton {separator : Char} {chars : List Char} (absent : separator ∉ chars) :
    splitChars separator chars = [chars] := by
  induction chars with
  | nil => rfl
  | cons c chars ih =>
    simp only [List.mem_cons, not_or] at absent
    simp [splitChars, ih absent.2, Ne.symm absent.1]

theorem splitChars_append {separator : Char} {piece : List Char} (absent : separator ∉ piece) (rest : List Char) :
    splitChars separator (piece ++ separator :: rest) = piece :: splitChars separator rest := by
  obtain ⟨first, more, pieces⟩ := List.exists_cons_of_ne_nil (splitChars_ne_nil separator rest)
  induction piece with
  | nil => simp [splitChars, pieces]
  | cons c piece ih =>
    simp only [List.mem_cons, not_or] at absent
    simp [splitChars, ih absent.2, Ne.symm absent.1]

theorem splitChars_intercalate {separator : Char} {pieces : List (List Char)} (nonempty : pieces ≠ [])
    (absent : ∀ piece ∈ pieces, separator ∉ piece) :
    splitChars separator ([separator].intercalate pieces) = pieces := by
  induction pieces with
  | nil => exact absurd rfl nonempty
  | cons first pieces ih =>
    have alone := absent first List.mem_cons_self
    cases pieces with
    | nil => simpa using splitChars_eq_singleton alone
    | cons second more =>
      have later := ih (List.cons_ne_nil _ _) fun piece mem => absent piece (List.mem_cons_of_mem _ mem)
      rw [List.intercalate_cons_cons, List.append_assoc, List.singleton_append, splitChars_append alone, later]

theorem not_mem_intercalate {c separator : Char} (different : c ≠ separator) {pieces : List (List Char)}
    (absent : ∀ piece ∈ pieces, c ∉ piece) : c ∉ [separator].intercalate pieces := by
  induction pieces with
  | nil => exact List.not_mem_nil
  | cons first pieces ih =>
    obtain ⟨alone, others⟩ := List.forall_mem_cons.mp absent
    cases pieces with
    | nil => simpa using alone
    | cons second more =>
      rw [List.intercalate_cons_cons]
      simp [alone, different, ih others]

end Text

namespace ModuleRef

theorem not_mem_segment {c : Char} (lower : c.isUpper = false) (other : isSegmentChar c = false) (inLine : c ≠ '\n')
    {segment : String} (valid : isSegment segment = true) : c ∉ segment.toList := by
  intro member
  simp only [isSegment] at valid
  cases chars : segment.toList with
  | nil => simp [chars] at member
  | cons first rest =>
    rw [chars] at valid member
    simp only [isSegmentChars, Bool.and_eq_true, Bool.or_eq_true, decide_eq_true_eq] at valid
    rcases List.mem_cons.mp member with rfl | inside
    · simp [lower] at valid
    · rw [← List.takeWhile_append_dropWhile (p := isSegmentChar) (l := rest)] at inside
      rcases List.mem_append.mp inside with early | late
      · have taken := List.all_eq_true.mp List.all_takeWhile _ early
        simp [other] at taken
      · rcases valid.2 with done | done
        · simp [done] at late
        · simp [done, inLine] at late

theorem dot_not_mem_segment {segment : String} (valid : isSegment segment = true) : '.' ∉ segment.toList :=
  not_mem_segment (by decide) (by decide) (by decide) valid

theorem ofName?_segment {segment : String} (valid : isSegment segment = true) :
    ofName? segment = some ⟨[segment], by simp, by simpa using valid⟩ := by
  have single : Text.split '.' segment = [segment] := by
    simp [Text.split, Text.splitChars_eq_singleton (dot_not_mem_segment valid)]
  simp [ofName?, single, ofSegments, valid, Except.toOption]

theorem eq_of_segments {first second : ModuleRef} (same : first.segments = second.segments) : first = second := by
  cases first
  cases second
  simpa using same

theorem split_name (ref : ModuleRef) : Text.split '.' ref.name = ref.segments := by
  have dotless : ∀ piece ∈ ref.segments.map String.toList, '.' ∉ piece := by
    intro piece mem
    obtain ⟨segment, inside, rfl⟩ := List.mem_map.mp mem
    exact dot_not_mem_segment (ref.wellFormed segment inside)
  have dot : ".".toList = ['.'] := rfl
  rw [Text.split, name, String.toList_intercalate, dot,
    Text.splitChars_intercalate (by simpa using ref.nonempty) dotless]
  simp

theorem eq_of_name {first second : ModuleRef} (same : first.name = second.name) : first = second := by
  apply eq_of_segments
  rw [← split_name first, same, split_name second]

theorem eq_child_iff {ref outer : ModuleRef} {segment : String} {valid : isSegment segment = true} :
    ref = outer.child segment valid ↔ ref.segments = outer.segments ++ [segment] := by
  constructor
  · rintro rfl
    rfl
  · intro same
    exact eq_of_segments same

theorem last_of_segments {ref outer : ModuleRef} {segment : String}
    (same : ref.segments = outer.segments ++ [segment]) : ref.last = segment := by
  simp [last, same]

theorem mem_ancestors {ref outer : ModuleRef} :
    outer ∈ ref.ancestors ↔ outer.segments <+: ref.segments ∧ outer.segments.length < ref.segments.length := by
  simp only [ancestors, List.mem_map, List.mem_reverse, List.mem_range]
  constructor
  · rintro ⟨size, inside, rfl⟩
    simp only [take, List.length_take]
    exact ⟨List.take_prefix _ _, by omega⟩
  · rintro ⟨starts, shorter⟩
    have some := List.length_pos_iff.mpr outer.nonempty
    refine ⟨outer.segments.length - 1, by omega, eq_of_segments ?_⟩
    have size : outer.segments.length - 1 + 1 = outer.segments.length := by omega
    simp only [take, size]
    exact (List.prefix_iff_eq_take.mp starts).symm

end ModuleRef

end BoundaryLint
