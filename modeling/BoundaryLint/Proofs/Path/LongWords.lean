import BoundaryLint.Proofs.Path.WordBoundary
import Mathlib

/-!
Names of long words. If every word of a name in snake case has more than one character, a capital marks each of them in
camel case. Such names come back, and so no two of them have the same module segment.
-/

namespace BoundaryLint.Path

def IsLong : List Char → Prop
  | c :: d :: rest => c.isLower = true ∧ ∀ e ∈ d :: rest, Small e
  | _ => False

def longNames : Set String :=
  {name | ∃ parts : List String, (∀ part ∈ parts, IsLong part.toList) ∧ name = "_".intercalate parts}

section LongWords

variable {word next : List Char} {more : List (List Char)} {parts : List String} {c : Char}

theorem IsLong.shape (long : IsLong word) :
    ∃ c d rest, word = c :: d :: rest ∧ c.isLower = true ∧ ∀ e ∈ d :: rest, Small e := by
  match word, long with
  | c :: d :: rest, long => exact ⟨c, d, rest, rfl, long⟩

theorem IsLong.small (long : IsLong word) : ∀ c ∈ word, Small c := by
  obtain ⟨c, d, rest, rfl, letter, others⟩ := long.shape
  exact List.forall_mem_cons.mpr ⟨.inl letter, others⟩

/-- Behind a long word a letter is enough of a mark. -/
theorem IsLong.marked (first : IsLong word) (second : IsLong next) : Marked word next := by
  obtain ⟨c, d, rest, rfl, -, -⟩ := first.shape
  obtain ⟨e, f, others, rfl, letter, -⟩ := second.shape
  exact ⟨by simpa using letter, .inl (by simp)⟩

theorem isChain_marked (long : ∀ word ∈ more, IsLong word) : more.IsChain Marked := by
  have all : more.Pairwise Marked := List.pairwise_of_forall_mem_list fun word mem next listed =>
    (long word mem).marked (long next listed)
  exact all.isChain

theorem Small.not_underscore (small : Small c) : c ≠ '_' := by
  rintro rfl
  revert small
  simp only [Small]
  decide

theorem words_intercalate (nonempty : parts ≠ []) (long : ∀ part ∈ parts, IsLong part.toList) :
    words ("_".intercalate parts) = parts.map String.toList := by
  have apart : ∀ piece ∈ parts.map String.toList, '_' ∉ piece := by
    intro piece mem inside
    obtain ⟨part, listed, rfl⟩ := List.mem_map.mp mem
    exact ((long part listed).small '_' inside).not_underscore rfl
  rw [words, String.toList_intercalate]
  exact Text.splitChars_intercalate (by simpa using nonempty) apart

theorem isSegmentChar_of_small (small : Small c) : ModuleRef.isSegmentChar c = true := by
  rcases small with lower | digit
  · simp [ModuleRef.isSegmentChar, Char.isAlphanum, Char.isAlpha, lower]
  · simp [ModuleRef.isSegmentChar, Char.isAlphanum, digit]

theorem isSegmentChar_of_mem_capitals (long : ∀ word ∈ more, IsLong word) :
    ∀ d ∈ more.flatMap capitalizePart, ModuleRef.isSegmentChar d = true := by
  intro d mem
  obtain ⟨word, listed, mem⟩ := List.mem_flatMap.mp mem
  obtain ⟨c, e, rest, rfl, letter, others⟩ := (long word listed).shape
  have capital : c.toUpper.isUpper = true := (Small.isUpper_toUpper (.inl letter)).trans letter
  rw [capitalizePart_cons (.inl letter), List.mem_cons] at mem
  rcases mem with rfl | inside
  · simp [ModuleRef.isSegmentChar, Char.isAlphanum, Char.isAlpha, capital]
  · exact isSegmentChar_of_small (others d inside)

/-- A name of long words names a module. -/
theorem isSegment_camelize (nonempty : parts ≠ []) (long : ∀ part ∈ parts, IsLong part.toList) :
    ModuleRef.isSegment (camelize ("_".intercalate parts)) = true := by
  have camel : (camelize ("_".intercalate parts)).toList = (parts.map String.toList).flatMap capitalizePart := by
    rw [camelize, String.toList_ofList, ← words, words_intercalate nonempty long]
  have all : ∀ word ∈ parts.map String.toList, IsLong word := by simpa using long
  have plain := isSegmentChar_of_mem_capitals all
  obtain ⟨first, others, rfl⟩ := List.exists_cons_of_ne_nil nonempty
  obtain ⟨c, d, rest, shape, letter, -⟩ := (long first List.mem_cons_self).shape
  have capital : c.toUpper.isUpper = true := (Small.isUpper_toUpper (.inl letter)).trans letter
  rw [List.map_cons, List.flatMap_cons, shape, capitalizePart_cons (.inl letter), List.cons_append] at camel plain
  obtain ⟨-, inside⟩ := List.forall_mem_cons.mp plain
  have ends := List.dropWhile_eq_nil_iff.mpr inside
  rw [ModuleRef.isSegment, camel, ModuleRef.isSegmentChars, capital, ends]
  rfl

theorem isSnake_intercalate (long : ∀ part ∈ parts, IsLong part.toList) : IsSnake ("_".intercalate parts) := by
  intro c mem
  by_cases underscore : c = '_'
  · exact .inr (.inr underscore)
  · by_contra other
    rw [String.toList_intercalate] at mem
    refine Text.not_mem_intercalate underscore ?_ mem
    intro piece listed inside
    obtain ⟨part, known, rfl⟩ := List.mem_map.mp listed
    rcases (long part known).small c inside with lower | digit
    · exact other (.inl lower)
    · exact other (.inr (.inl digit))

theorem separable_intercalate (nonempty : parts ≠ []) (long : ∀ part ∈ parts, IsLong part.toList) :
    Separable ("_".intercalate parts) := by
  rw [Separable, words_intercalate nonempty long]
  refine ⟨?_, isChain_marked (by simpa using long)⟩
  obtain ⟨first, others, rfl⟩ := List.exists_cons_of_ne_nil nonempty
  obtain ⟨c, d, rest, shape, letter, -⟩ := (long first List.mem_cons_self).shape
  simpa [shape] using letter

theorem leftInvOn_underscore : Set.LeftInvOn underscore camelize longNames := by
  rintro _ ⟨parts, long, rfl⟩
  by_cases nonempty : parts = []
  · subst nonempty
    decide
  · exact (underscore_camelize_iff (isSnake_intercalate long) (isSegment_camelize nonempty long)).mpr
      (separable_intercalate nonempty long)

end LongWords

/-- Names of long words come back from camel case. So they have different camel case, and files in contexts with
different names of this form have different module segments. -/
theorem longNames_come_back :
    (∀ name ∈ longNames, underscore (camelize name) = name) ∧ Set.InjOn camelize longNames ∧
      ∀ project other : ProjectPath, project.context ∈ longNames → other.context ∈ longNames →
        project.context ≠ other.context → camelize project.context ≠ camelize other.context := by
  have different : Set.InjOn camelize longNames := leftInvOn_underscore.injOn
  refine ⟨fun name known => leftInvOn_underscore known, different, ?_⟩
  intro project other known listed apart same
  exact apart (different known listed same)

theorem longNames_come_back_versions :
    "v2_line_items" ∈ longNames ∧ "v2line_items" ∈ longNames ∧
      underscore (camelize "v2_line_items") = "v2_line_items" ∧
      ProjectPath.locate? "lib/shop/v2_line_items/order.ex" = some ⟨"lib/shop/", "shop", "v2_line_items/order.ex"⟩ ∧
      ProjectPath.locate? "lib/shop/v2line_items.ex" = some ⟨"lib/shop/", "shop", "v2line_items.ex"⟩ ∧
      camelize (ProjectPath.context ⟨"lib/shop/", "shop", "v2_line_items/order.ex"⟩) ≠
        camelize (ProjectPath.context ⟨"lib/shop/", "shop", "v2line_items.ex"⟩) := by
  have apart : "v2_line_items" ∈ longNames :=
    ⟨["v2", "line", "items"], by simp [IsLong, Small], by decide⟩
  have joined : "v2line_items" ∈ longNames := ⟨["v2line", "items"], by simp [IsLong, Small], by decide⟩
  have first : ProjectPath.context ⟨"lib/shop/", "shop", "v2_line_items/order.ex"⟩ = "v2_line_items" := by decide
  have second : ProjectPath.context ⟨"lib/shop/", "shop", "v2line_items.ex"⟩ = "v2line_items" := by decide
  obtain ⟨back, -, segments⟩ := longNames_come_back
  exact ⟨apart, joined, back _ apart, by decide, by decide,
    segments _ _ (first ▸ apart) (second ▸ joined) (by rw [first, second]; decide)⟩

end BoundaryLint.Path
