import BoundaryLint.Path.Project
import BoundaryLint.Proofs.Tree.ModuleName
import Mathlib

/-!
The components of a path. Cutting at the slashes and joining undo each other, as they do for the segments of a dotted
name.
-/

namespace BoundaryLint

namespace Text

variable {separator : Char} {chars : List Char}

theorem splitChars_append_separator (start rest : List Char) :
    splitChars separator (start ++ separator :: rest) = splitChars separator start ++ splitChars separator rest := by
  induction start with
  | nil =>
    obtain ⟨first, more, pieces⟩ := List.exists_cons_of_ne_nil (splitChars_ne_nil separator rest)
    simp [splitChars, pieces]
  | cons c start ih =>
    obtain ⟨first, more, pieces⟩ := List.exists_cons_of_ne_nil (splitChars_ne_nil separator start)
    rw [pieces] at ih
    simp only [List.cons_append, splitChars, ih, pieces]
    split <;> rfl

theorem intercalate_splitChars (separator : Char) (chars : List Char) :
    [separator].intercalate (splitChars separator chars) = chars := by
  induction chars with
  | nil => rfl
  | cons c chars ih =>
    obtain ⟨first, more, pieces⟩ := List.exists_cons_of_ne_nil (splitChars_ne_nil separator chars)
    rw [pieces] at ih
    simp only [splitChars, pieces]
    split
    · next same => rw [List.intercalate_cons_cons, ih, same, List.nil_append, List.singleton_append]
    · cases more with
      | nil => simpa using ih
      | cons second more =>
        rw [List.intercalate_cons_cons] at ih ⊢
        rw [List.cons_append, List.cons_append, ih]

theorem separator_not_mem {piece : List Char} (mem : piece ∈ splitChars separator chars) : separator ∉ piece := by
  induction chars generalizing piece with
  | nil => simp_all [splitChars]
  | cons c chars ih =>
    obtain ⟨first, more, pieces⟩ := List.exists_cons_of_ne_nil (splitChars_ne_nil separator chars)
    simp only [splitChars, pieces] at mem ih
    split at mem
    · rcases List.mem_cons.mp mem with rfl | later
      · exact List.not_mem_nil
      · exact ih later
    · next different =>
      rcases List.mem_cons.mp mem with rfl | later
      · have alone := ih List.mem_cons_self
        simp [alone, Ne.symm different]
      · exact ih (List.mem_cons_of_mem _ later)

theorem subset_of_mem_splitChars {piece : List Char} (mem : piece ∈ splitChars separator chars) : piece ⊆ chars := by
  induction chars generalizing piece with
  | nil => simp_all [splitChars]
  | cons c chars ih =>
    obtain ⟨first, more, pieces⟩ := List.exists_cons_of_ne_nil (splitChars_ne_nil separator chars)
    simp only [splitChars, pieces] at mem ih
    split at mem
    · rcases List.mem_cons.mp mem with rfl | later
      · exact List.nil_subset _
      · exact List.subset_cons_of_subset _ (ih later)
    · rcases List.mem_cons.mp mem with rfl | later
      · exact List.cons_subset_cons _ (ih List.mem_cons_self)
      · exact List.subset_cons_of_subset _ (ih (List.mem_cons_of_mem _ later))

theorem splitChars_intercalate_eq_flatMap {pieces : List (List Char)} (nonempty : pieces ≠ []) :
    splitChars separator ([separator].intercalate pieces) = pieces.flatMap (splitChars separator) := by
  induction pieces with
  | nil => exact absurd rfl nonempty
  | cons first pieces ih =>
    cases pieces with
    | nil => simp
    | cons second more =>
      rw [List.intercalate_cons_cons, List.append_assoc, List.singleton_append, splitChars_append_separator,
        ih (List.cons_ne_nil _ _), List.flatMap_cons (x := first)]

end Text

namespace ModuleRef

theorem segments_of_ofName? {text : String} {ref : ModuleRef} (named : ofName? text = some ref) :
    ref.segments = Text.split '.' text := by
  rw [ofName?, ofSegments] at named
  split_ifs at named with none valid
  · simp [Except.toOption] at named
  · simp only [Except.toOption, Option.some.injEq] at named
    rw [← named]
  · simp [Except.toOption] at named

theorem name_of_ofName? {text : String} {ref : ModuleRef} (named : ofName? text = some ref) : ref.name = text := by
  have dot : ".".toList = ['.'] := rfl
  apply String.toList_inj.mp
  rw [name, segments_of_ofName? named, String.toList_intercalate, dot, Text.split, List.map_map]
  simpa using Text.intercalate_splitChars '.' text.toList

theorem empty_not_mem_of_ofName? {pieces : List String} {ref : ModuleRef}
    (named : ofName? (".".intercalate pieces) = some ref) : "" ∉ pieces := by
  intro mem
  have dot : ".".toList = ['.'] := rfl
  have empty : "" ∈ ref.segments := by
    rw [segments_of_ofName? named, Text.split, String.toList_intercalate, dot,
      Text.splitChars_intercalate_eq_flatMap (by simpa using List.ne_nil_of_mem mem)]
    refine List.mem_map.mpr ⟨[], List.mem_flatMap.mpr ⟨[], List.mem_map.mpr ⟨"", mem, rfl⟩, ?_⟩, rfl⟩
    simp [Text.splitChars]
  have valid := ref.wellFormed "" empty
  contradiction

end ModuleRef

namespace Path

variable {path : String} {parts : List String}

theorem ofComponents_components (path : String) : ofComponents (components path) = path := by
  have slash : "/".toList = ['/'] := rfl
  apply String.toList_inj.mp
  rw [ofComponents, String.toList_intercalate, slash, components, Text.split, List.map_map]
  simpa using Text.intercalate_splitChars '/' path.toList

theorem components_ofComponents (nonempty : parts ≠ []) (clean : ∀ part ∈ parts, '/' ∉ part.toList) :
    components (ofComponents parts) = parts := by
  have slash : "/".toList = ['/'] := rfl
  have slashless : ∀ piece ∈ parts.map String.toList, '/' ∉ piece := by
    intro piece mem
    obtain ⟨part, inside, rfl⟩ := List.mem_map.mp mem
    exact clean part inside
  rw [components, Text.split, ofComponents, String.toList_intercalate, slash,
    Text.splitChars_intercalate (by simpa using nonempty) slashless]
  simp

theorem slash_not_mem {part : String} (mem : part ∈ components path) : '/' ∉ part.toList := by
  obtain ⟨piece, listed, rfl⟩ := List.mem_map.mp mem
  simpa using Text.separator_not_mem listed

theorem not_mem_component {c : Char} (absent : c ∉ path.toList) {part : String} (mem : part ∈ components path) :
    c ∉ part.toList := by
  obtain ⟨piece, listed, rfl⟩ := List.mem_map.mp mem
  intro inside
  exact absent (Text.subset_of_mem_splitChars listed (by simpa using inside))

theorem not_mem_ofComponents {c : Char} (other : c ≠ '/') (absent : ∀ part ∈ parts, c ∉ part.toList) :
    c ∉ (ofComponents parts).toList := by
  have slash : "/".toList = ['/'] := rfl
  rw [ofComponents, String.toList_intercalate, slash]
  apply Text.not_mem_intercalate other
  intro piece mem
  obtain ⟨part, inside, rfl⟩ := List.mem_map.mp mem
  exact absent part inside

theorem singleLine?_of_unbroken {text : String} (unbroken : '\n' ∉ text.toList) (nonempty : text ≠ "") :
    singleLine? text = some text := by
  have line : text.toList.getLast? ≠ some '\n' := fun last => unbroken (List.mem_of_getLast? last)
  simp [singleLine?, line, unbroken, nonempty]

theorem ofComponents_cons_cons (first second : String) (more : List String) :
    ofComponents (first :: second :: more) = first ++ "/" ++ ofComponents (second :: more) := by
  apply String.toList_inj.mp
  simp [ofComponents, String.toList_intercalate]

theorem ofComponents_eq_empty_iff {first : String} {more : List String} :
    ofComponents (first :: more) = "" ↔ first = "" ∧ more = [] := by
  cases more with
  | nil => simp [ofComponents]
  | cons second more => simp [ofComponents_cons_cons]

theorem singleLine?_ofComponents (unbroken : ∀ part ∈ parts, '\n' ∉ part.toList) :
    singleLine? (ofComponents parts) = if ofComponents parts = "" then none else some (ofComponents parts) := by
  split
  · next empty =>
    rw [empty]
    rfl
  · next visible => exact singleLine?_of_unbroken (not_mem_ofComponents (by decide) unbroken) visible

theorem ofComponents_append {front back : List String} (nonempty : front ≠ []) (nonempty' : back ≠ []) :
    ofComponents (front ++ back) = ofComponents front ++ "/" ++ ofComponents back :=
  String.intercalate_append_of_ne_nil nonempty nonempty'

theorem ofComponents_concat {above : List String} (nonempty : above ≠ []) (file : String) :
    ofComponents (above ++ [file]) = ofComponents above ++ "/" ++ file := by
  rw [ofComponents_append nonempty (List.cons_ne_nil _ _)]
  simp [ofComponents]

theorem exists_components (path : String) : ∃ above, components path = above ++ [basename path] := by
  obtain ⟨above, file, parts⟩ : ∃ above file, components path = above ++ [file] :=
    ⟨_, _, (List.dropLast_append_getLast (Text.split_ne_nil '/' path)).symm⟩
  exact ⟨above, by simp [basename, parts]⟩

theorem endsWith_basename {ending : String} (slashless : '/' ∉ ending.toList)
    (ends : Text.endsWith path ending = true) :
    Text.endsWith (basename path) ending = true := by
  have ending_path : ending.toList <:+ path.toList := List.isSuffixOf_iff_suffix.mp ends
  apply List.isSuffixOf_iff_suffix.mpr
  obtain ⟨above, parts⟩ := exists_components path
  have whole : ofComponents (above ++ [basename path]) = path := by rw [← parts, ofComponents_components]
  by_cases bare : above = []
  · rwa [← whole, bare, List.nil_append, ofComponents, String.intercalate_singleton] at ending_path
  · have file_path : '/' :: (basename path).toList <:+ path.toList := by
      rw [ofComponents_concat bare] at whole
      exact ⟨(ofComponents above).toList, by simpa using congrArg String.toList whole⟩
    rcases List.suffix_or_suffix_of_suffix ending_path file_path with inner | outer
    · rcases List.suffix_cons_iff.mp inner with same | inner
      · simp [same] at slashless
      · exact inner
    · exact absurd (outer.subset List.mem_cons_self) slashless

theorem components_append (start rest : String) :
    components (start ++ "/" ++ rest) = components start ++ components rest := by
  have chars : (start ++ "/" ++ rest).toList = start.toList ++ '/' :: rest.toList := by simp
  rw [components, Text.split, chars, Text.splitChars_append_separator, List.map_append]
  rfl

theorem basename_append (start rest : String) : basename (start ++ "/" ++ rest) = basename rest := by
  obtain ⟨above, split⟩ := exists_components rest
  rw [basename, components_append, split]
  simp

theorem components_inj {other : String} : components path = components other ↔ path = other := by
  constructor
  · intro same
    rw [← ofComponents_components path, same, ofComponents_components]
  · intro same
    rw [same]

theorem components_of_slashless {name : String} (slashless : '/' ∉ name.toList) : components name = [name] := by
  simp [components, Text.split, Text.splitChars_eq_singleton slashless]

theorem basename_ne_empty (source : Text.endsWith path ".ex" = true) : basename path ≠ "" := by
  intro empty
  have ending := endsWith_basename (by decide) source
  rw [empty] at ending
  exact absurd ending (by decide)

theorem endsWith_of_basename {ending : String} (ends : Text.endsWith (basename path) ending = true) :
    Text.endsWith path ending = true := by
  obtain ⟨above, parts⟩ := exists_components path
  have name_path : (basename path).toList <:+ path.toList := by
    nth_rewrite 2 [← ofComponents_components path]
    rw [parts]
    by_cases bare : above = []
    · rw [bare, List.nil_append, ofComponents, String.intercalate_singleton]
    · rw [ofComponents_concat bare, String.toList_append]
      exact List.suffix_append _ _
  exact Text.endsWith_iff.mpr ((Text.endsWith_iff.mp ends).trans name_path)

theorem basename_of_suffix {name : String} (slashless : '/' ∉ name.toList)
    (ends : ("/" ++ name).toList <:+ path.toList) :
    basename path = name := by
  obtain ⟨start, whole⟩ := ends
  have cut : path = String.ofList start ++ "/" ++ name := by
    apply String.toList_inj.mp
    simp [← whole]
  rw [cut, basename_append, basename, components_of_slashless slashless]
  rfl

/-- A path joined from other paths has the components of all of them. -/
theorem components_ofComponents_eq_flatMap (nonempty : parts ≠ []) :
    components (ofComponents parts) = parts.flatMap components := by
  have slash : "/".toList = ['/'] := rfl
  rw [components, Text.split, ofComponents, String.toList_intercalate, slash,
    Text.splitChars_intercalate_eq_flatMap (by simpa using nonempty), List.flatMap_map, List.map_flatMap]
  rfl

/-- A source file has a stem unless it is named by its extension alone. -/
theorem isSome_sourceStem?_iff (ends : Text.endsWith path ".ex" = true) (unbroken : '\n' ∉ path.toList) :
    (sourceStem? (basename path)).isSome ↔ basename path ≠ ".ex" := by
  have inside : basename path ∈ components path := by
    obtain ⟨above, parts⟩ := exists_components path
    simp [parts]
  have line : (basename path).toList.getLast? ≠ some '\n' :=
    fun last => not_mem_component unbroken inside (List.mem_of_getLast? last)
  have ending := endsWith_basename (by decide) ends
  obtain ⟨stem, name⟩ : ".ex".toList <:+ (basename path).toList := List.isSuffixOf_iff_suffix.mp ending
  have alone : basename path = ".ex" ↔ stem = [] := by
    rw [← String.toList_inj, ← name]
    simp
  have size : 3 < (basename path).toList.length ↔ stem ≠ [] := by
    rw [← name, List.length_append, ← List.length_pos_iff]
    simp
  rw [ne_eq, alone, ← ne_eq, ← size]
  simp [sourceStem?, line, ending]

end Path

end BoundaryLint
