import BoundaryLint.Disk.Probe
import BoundaryLint.Proofs.Path.Components
import Mathlib

/-!
Paths that are known without a disk. The directories are found once, from the components of the known paths, and yet a
path exists exactly if it is known or if a known path lies below it. Slashes at the ends of a path do not count.
-/

namespace BoundaryLint

namespace Text

structure IsCore (core text : List Char) : Prop where
  between : ∃ before after, text = List.replicate before '/' ++ core ++ List.replicate after '/'
  first : core.head? ≠ some '/'
  last : core.getLast? ≠ some '/'

variable {core text : List Char}

theorem dropWhile_slashes (count : Nat) (first : core.head? ≠ some '/') :
    (List.replicate count '/' ++ core).dropWhile (· = '/') = core := by
  rw [List.dropWhile_append_of_pos (by simp)]
  cases core with
  | nil => rfl
  | cons c rest =>
    apply List.dropWhile_cons_of_neg
    simpa using first

theorem stripChars_of_isCore (isCore : IsCore core text) : stripChars (· = '/') text = core := by
  obtain ⟨before, after, rfl⟩ := isCore.between
  rw [stripChars, List.append_assoc]
  cases core with
  | nil => simp
  | cons c rest =>
    have start : (c :: rest ++ List.replicate after '/').head? ≠ some '/' := by simpa using isCore.first
    rw [dropWhile_slashes before start, List.reverse_append, List.reverse_replicate, dropWhile_slashes after,
      List.reverse_reverse]
    rw [List.head?_reverse]
    exact isCore.last

theorem dropWhile_head_ne (text : List Char) : (text.dropWhile (· = '/')).head? ≠ some '/' := by
  intro head
  have kept := List.head?_dropWhile_not (fun c : Char => decide (c = '/')) text
  rw [head] at kept
  simp at kept

theorem exists_replicate_dropWhile (text : List Char) :
    ∃ count, text = List.replicate count '/' ++ text.dropWhile (· = '/') := by
  refine ⟨(text.takeWhile (· = '/')).length, ?_⟩
  have slashes : text.takeWhile (· = '/') = List.replicate (text.takeWhile (· = '/')).length '/' := by
    apply List.eq_replicate_of_mem
    intro c mem
    simpa using List.mem_takeWhile_imp mem
  rw [← slashes, List.takeWhile_append_dropWhile]

theorem isCore_stripChars (text : List Char) : IsCore (stripChars (· = '/') text) text := by
  obtain ⟨before, front⟩ := exists_replicate_dropWhile text
  obtain ⟨after, back⟩ := exists_replicate_dropWhile (text.dropWhile (· = '/')).reverse
  have split : text.dropWhile (· = '/') = stripChars (· = '/') text ++ List.replicate after '/' := by
    have turned := congrArg List.reverse back
    rwa [List.reverse_reverse, List.reverse_append, List.reverse_replicate] at turned
  constructor
  · refine ⟨before, after, ?_⟩
    rw [List.append_assoc, ← split]
    exact front
  · -- What is left starts as the text behind its first slashes does.
    intro head
    apply dropWhile_head_ne text
    rw [split, List.head?_append, head]
    rfl
  · rw [stripChars, List.getLast?_reverse]
    exact dropWhile_head_ne _

theorem isCore_iff : IsCore core text ↔ stripChars (· = '/') text = core := by
  constructor
  · exact stripChars_of_isCore
  · rintro rfl
    exact isCore_stripChars text

end Text

namespace Path

theorem components_append_slash (directory rest : String) :
    components (directory ++ "/" ++ rest) = components directory ++ components rest := by
  have slash : "/".toList = ['/'] := rfl
  rw [components, Text.split, String.toList_append, String.toList_append, slash, List.append_assoc,
    List.singleton_append, Text.splitChars_append_separator, List.map_append]
  rfl

end Path

namespace KnownPaths

variable {file directory : String}

theorem directoriesOf_eq (file : String) : directoriesOf file =
    (List.range ((Path.components file).length - 1)).map fun size =>
      Path.ofComponents ((Path.components file).take (size + 1)) := by
  have parts : (Text.split '/' file).dropLast = (Path.components file).dropLast := rfl
  rw [directoriesOf, parts, List.length_dropLast]
  apply List.map_congr_left
  intro size bound
  have start : (Path.components file).dropLast.take (size + 1) = (Path.components file).take (size + 1) := by
    rw [List.mem_range] at bound
    rw [List.dropLast_eq_take, List.take_take]
    congr 1
    omega
  rw [start, Path.ofComponents]

/-- The directories of a file are what stands before one of its slashes. -/
theorem mem_directoriesOf_iff : directory ∈ directoriesOf file ↔ (directory ++ "/").toList <+: file.toList := by
  rw [directoriesOf_eq, List.mem_map]
  constructor
  · rintro ⟨size, bound, rfl⟩
    rw [List.mem_range] at bound
    have front : (Path.components file).take (size + 1) ≠ [] := by
      rw [ne_eq, List.take_eq_nil_iff]
      simp [Path.components, Text.split_ne_nil]
    have back : (Path.components file).drop (size + 1) ≠ [] := by
      rw [ne_eq, List.drop_eq_nil_iff]
      omega
    have joined := Path.ofComponents_append front back
    rw [List.take_append_drop, Path.ofComponents_components] at joined
    have whole := (congrArg String.toList joined).trans String.toList_append
    rw [whole]
    exact List.prefix_append _ _
  · rintro ⟨rest, joined⟩
    have whole : directory ++ "/" ++ String.ofList rest = file := by
      apply String.toList_inj.mp
      rw [String.toList_append, String.toList_ofList]
      exact joined
    have cut := Path.components_append_slash directory (String.ofList rest)
    rw [whole] at cut
    obtain ⟨first, others, own⟩ := List.exists_cons_of_ne_nil (Text.split_ne_nil '/' directory)
    have size : (Path.components directory).length = others.length + 1 := congrArg List.length own
    have behind : 0 < (Path.components (String.ofList rest)).length :=
      List.length_pos_iff.mpr (Text.split_ne_nil '/' _)
    refine ⟨others.length, ?_, ?_⟩
    · rw [cut, List.mem_range, List.length_append]
      omega
    · rw [cut, ← size, List.take_left, Path.ofComponents_components]

theorem contains_iff_stripped {paths : List String} {query : String} :
    (ofPaths paths).contains query = true ↔ ∃ path ∈ paths, Text.stripSlashes path = Text.stripSlashes query ∨
      (Text.stripSlashes query ++ "/").toList <+: (Text.stripSlashes path).toList := by
  simp only [contains, ofPaths, Bool.or_eq_true, List.contains_iff_mem, List.mem_map, List.mem_flatMap,
    mem_directoriesOf_iff]
  constructor
  · rintro (⟨path, mem, same⟩ | ⟨_, ⟨path, mem, rfl⟩, below⟩)
    · exact ⟨path, mem, .inl same⟩
    · exact ⟨path, mem, .inr below⟩
  · rintro ⟨path, mem, same | below⟩
    · exact .inl ⟨path, mem, same⟩
    · exact .inr ⟨_, ⟨path, mem, rfl⟩, below⟩

/-- A path exists if it is one of the known paths or a known path lies below it, whatever slashes stand at the ends of
both. It keeps existing when more paths are known, and what is known twice or in another order makes no difference. -/
theorem contains_ofPaths (paths : List String) (query : String) :
    ((ofPaths paths).contains query = true ↔ ∃ path ∈ paths, ∃ known wanted, Text.IsCore known path.toList ∧
      Text.IsCore wanted query.toList ∧ (known = wanted ∨ wanted ++ ['/'] <+: known)) ∧
    (∀ more, paths ⊆ more → (ofPaths paths).contains query = true → (ofPaths more).contains query = true) ∧
    ∀ others, (∀ path, path ∈ others ↔ path ∈ paths) →
      (ofPaths others).contains query = (ofPaths paths).contains query := by
  have core (text : String) : Text.stripChars (· = '/') text.toList = (Text.stripSlashes text).toList := by
    rw [Text.stripSlashes, String.toList_ofList]
  have slash : "/".toList = ['/'] := rfl
  constructor
  · rw [contains_iff_stripped]
    simp [Text.isCore_iff, core, slash, String.toList_inj]
  constructor
  · intro more subset found
    obtain ⟨path, mem, exists_⟩ := contains_iff_stripped.mp found
    exact contains_iff_stripped.mpr ⟨path, subset mem, exists_⟩
  · intro others same
    rw [Bool.eq_iff_iff, contains_iff_stripped, contains_iff_stripped]
    simp only [same]

example : (ofPaths ["/lib//shop/cart.ex"]).contains "lib/" = true := by decide

end KnownPaths

end BoundaryLint
