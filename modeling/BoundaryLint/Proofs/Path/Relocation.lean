import BoundaryLint.Proofs.Path.ContextDirectory
import BoundaryLint.Rule.Placement.Location
import Mathlib

/-!
Files that move within their app. A path that goes on differently behind its app directory has the same app directory,
so the place of the moved file is known from what is put behind it.
-/

namespace BoundaryLint

namespace Path

variable {path : String} {parts : List String}

section Joining

theorem singleLine?_append {rest line : String} (found : singleLine? rest = some line) (front : String) :
    singleLine? (front ++ rest) = if '\n' ∈ front.toList then none else some (front ++ line) := by
  have nonempty : rest.toList ≠ [] := by
    intro empty
    simp [singleLine?, empty] at found
  have last : (front ++ rest).toList.getLast? = rest.toList.getLast? := by
    simp [List.getLast?_append_of_ne_nil _ nonempty]
  have init : (front ++ rest).toList.dropLast = front.toList ++ rest.toList.dropLast := by
    rw [String.toList_append, List.dropLast_append_of_ne_nil nonempty]
  unfold singleLine? at found ⊢
  dsimp only at found ⊢
  rw [last, init, String.toList_append]
  generalize inner : (if rest.toList.getLast? = some '\n' then rest.toList.dropLast else rest.toList) = chars at found
  have outer : (if rest.toList.getLast? = some '\n' then front.toList ++ rest.toList.dropLast
      else front.toList ++ rest.toList) = front.toList ++ chars := by
    rw [← inner]
    split <;> rfl
  rw [outer]
  split at found
  · cases found
  · next single =>
    cases found
    rw [Bool.not_eq_true, Bool.or_eq_false_iff] at single
    have shown : chars ≠ [] := by simpa using single.1
    have unbroken : '\n' ∉ chars := by simpa using single.2
    simp [shown, unbroken]

theorem stripSlashes_of_slashless {name : String} (slashless : '/' ∉ name.toList) : Text.stripSlashes name = name := by
  have kept (chars : List Char) (absent : '/' ∉ chars) : chars.dropWhile (· = '/') = chars := by
    cases chars with
    | nil => rfl
    | cons c chars =>
      have other : ¬ c = '/' := fun same => absent (same ▸ List.mem_cons_self)
      rw [List.dropWhile_cons_of_neg (by simpa using other)]
  simp [Text.stripSlashes, Text.stripChars, kept, slashless]

theorem of_singleLine? {text line : String} (found : singleLine? text = some line) :
    line ≠ "" ∧ '\n' ∉ line.toList ∧ (text.toList.getLast? ≠ some '\n' → text = line) := by
  unfold singleLine? at found
  dsimp only at found
  generalize taken : (if text.toList.getLast? = some '\n' then text.toList.dropLast else text.toList) = chars at found
  split at found
  · cases found
  · next single =>
    cases found
    rw [Bool.not_eq_true, Bool.or_eq_false_iff] at single
    refine ⟨by simpa using single.1, by simpa using single.2, fun unended => ?_⟩
    rw [if_neg unended] at taken
    rw [← taken, String.ofList_toList]

theorem stripSlashes_subset (text : String) : (Text.stripSlashes text).toList ⊆ text.toList := by
  intro c mem
  rw [Text.stripSlashes, String.toList_ofList, Text.stripChars, List.mem_reverse] at mem
  exact (List.dropWhile_sublist _).subset (List.mem_reverse.mp ((List.dropWhile_sublist _).subset mem))

end Joining

end Path

namespace ProjectPath

variable {before parts : List String} {project : ProjectPath}

theorem locateFrom_lib {app rest : String} {below : List String} (nonempty : below ≠ []) (named : app ≠ "")
    (line : Path.singleLine? (Path.ofComponents below) = some rest) :
    locateFrom before ("lib" :: app :: below) = some ⟨Path.ofComponents (before ++ ["lib", app]) ++ "/", app, rest⟩ := by
  obtain ⟨first, more, rfl⟩ := List.exists_cons_of_ne_nil nonempty
  simp [locateFrom, named, line]

theorem locateFrom_skip {part next : String} {following : List String} (nonempty : following ≠ [])
    (elsewhere : part = "lib" → next ≠ "" → Path.singleLine? (Path.ofComponents following) = none) :
    locateFrom before (part :: next :: following) = locateFrom (before ++ [part]) (next :: following) := by
  obtain ⟨first, more, rfl⟩ := List.exists_cons_of_ne_nil nonempty
  conv_lhs => unfold locateFrom
  dsimp only
  split
  · next app found =>
    split at found
    · next here => simp [elsewhere here.1 here.2] at found
    · cases found
  · rfl

/-- Whether a path is a line does not depend on its end, once that is one. -/
theorem singleLine?_ofComponents_congr {front below below' : List String} {rest rest' : String} (nonempty : front ≠ [])
    (file : below ≠ []) (file' : below' ≠ []) (line : Path.singleLine? (Path.ofComponents below) = some rest)
    (line' : Path.singleLine? (Path.ofComponents below') = some rest')
    (broken : Path.singleLine? (Path.ofComponents (front ++ below)) = none) :
    Path.singleLine? (Path.ofComponents (front ++ below')) = none := by
  rw [Path.ofComponents_append nonempty file, Path.singleLine?_append line] at broken
  rw [Path.ofComponents_append nonempty file', Path.singleLine?_append line']
  split_ifs at broken ⊢
  rfl

/-- Where the search finds the app directory it does so whatever lies behind it. -/
theorem exists_relocation (found : locateFrom before parts = some project) :
    ∃ above below, parts = above ++ "lib" :: project.app :: below ∧ below ≠ [] ∧
      project.base = Path.ofComponents (before ++ above ++ ["lib", project.app]) ++ "/" ∧
      Path.singleLine? (Path.ofComponents below) = some project.rest ∧
      ∀ below' rest, below' ≠ [] → Path.singleLine? (Path.ofComponents below') = some rest →
        locateFrom before (above ++ "lib" :: project.app :: below') = some { project with rest := rest } := by
  induction parts generalizing before with
  | nil => simp [locateFrom] at found
  | cons part following ih =>
    rcases locateFrom_cons found with ⟨rfl, first, more, rfl, named, line, base⟩ | ⟨elsewhere, found⟩
    · refine ⟨[], first :: more, rfl, by simp, by simpa using base, line, ?_⟩
      intro below rest nonempty line
      rw [List.nil_append, locateFrom_lib nonempty named line, ← base]
    · obtain ⟨above, below, split, nonempty, base, line, moved⟩ := ih found
      refine ⟨part :: above, below, by rw [split]; rfl, nonempty, by simpa using base, line, ?_⟩
      intro below' rest nonempty' line'
      obtain ⟨next, front, cut, longer⟩ : ∃ next front, above ++ ["lib", project.app] = next :: front ∧ front ≠ [] := by
        cases above with
        | nil => exact ⟨"lib", [project.app], rfl, by simp⟩
        | cons next above => exact ⟨next, above ++ ["lib", project.app], rfl, by simp⟩
      have joined (behind : List String) : above ++ "lib" :: project.app :: behind = next :: (front ++ behind) := by
        rw [← List.cons_append, ← cut]
        simp
      have later := moved below' rest nonempty' line'
      rw [joined] at later
      rw [List.cons_append, joined, locateFrom_skip (by simp [longer]), later]
      intro atLib named
      apply singleLine?_ofComponents_congr longer nonempty nonempty' line line'
      obtain ⟨first, more, rfl⟩ := List.exists_cons_of_ne_nil longer
      exact elsewhere atLib next first (more ++ below) (by rw [split, joined]; rfl) named

/-- A source file stands in its project below the components `above`. Any other path that is put behind the base of
the project is found there too. -/
structure Sited (path : String) (project : ProjectPath) (above : List String) : Prop where
  located : locate? path = some project
  source : Text.endsWith path ".ex" = true
  split : Path.components path = above ++ "lib" :: project.app :: project.parts
  base : project.base = Path.ofComponents (above ++ ["lib", project.app]) ++ "/"
  whole : path = project.base ++ project.rest
  unbroken : '\n' ∉ project.rest.toList
  moved : ∀ rest, rest ≠ "" → '\n' ∉ rest.toList → locate? (project.base ++ rest) = some { project with rest := rest }

theorem components_base_append {path : String} {above below : List String}
    (split : Path.components path = above ++ "lib" :: project.app :: below)
    (base : project.base = Path.ofComponents (above ++ ["lib", project.app]) ++ "/") (rest : String) :
    Path.components (project.base ++ rest) = above ++ "lib" :: project.app :: Path.components rest := by
  have slashless : ∀ part ∈ above ++ ["lib", project.app], '/' ∉ part.toList := by
    intro part mem
    have whole : Path.components path = above ++ ["lib", project.app] ++ below := by simp [split]
    exact Path.slash_not_mem (whole ▸ List.mem_append_left below mem)
  rw [base, Path.components_append, Path.components_ofComponents (by simp) slashless]
  simp

theorem exists_sited {path : String} (found : locate? path = some project) (source : Text.endsWith path ".ex" = true) :
    ∃ above, Sited path project above := by
  obtain ⟨above, below, split, nonempty, base, line, moved⟩ := exists_relocation found
  rw [List.nil_append] at base
  have slashless : ∀ part ∈ above ++ "lib" :: project.app :: below, '/' ∉ part.toList := by
    rw [← split]
    exact fun part mem => Path.slash_not_mem mem
  have front : above ++ ["lib", project.app] ≠ [] := by simp
  have joined (behind : List String) : above ++ "lib" :: project.app :: behind = above ++ ["lib", project.app] ++ behind := by
    simp
  have whole : path = project.base ++ Path.ofComponents below := by
    rw [← Path.ofComponents_components path, split, joined, Path.ofComponents_append front nonempty, base]
  obtain ⟨shown, unbroken, same⟩ := Path.of_singleLine? line
  have rest : Path.ofComponents below = project.rest := by
    have last : path.toList.getLast? = some 'x' := by
      obtain ⟨start, ends⟩ := Text.endsWith_iff.mp source
      simp [← ends]
    apply same
    intro broken
    rw [whole, String.toList_append, List.getLast?_append, broken] at last
    simp at last
  have parts : project.parts = below := by
    rw [ProjectPath.parts, ← rest, Path.components_ofComponents nonempty]
    intro part mem
    exact slashless part (by simp [mem])
  refine ⟨above, found, source, by rw [split, parts], base, by rw [whole, rest], unbroken, ?_⟩
  intro other visible single
  rw [locate?, components_base_append split base]
  apply moved (Path.components other) other (Text.split_ne_nil '/' other)
  rw [Path.ofComponents_components]
  exact Path.singleLine?_of_unbroken single visible

theorem Sited.exists_parts {path : String} {above : List String} (sited : Sited path project above) :
    ∃ front, project.parts = front ++ [Path.basename path] := by
  obtain ⟨front, file, parts⟩ : ∃ front file, project.parts = front ++ [file] :=
    ⟨_, _, (List.dropLast_append_getLast (Text.split_ne_nil '/' project.rest)).symm⟩
  have last : Path.components path = (above ++ "lib" :: project.app :: front) ++ [file] := by simp [sited.split, parts]
  rw [Path.basename, last, List.getLastD_concat]
  exact ⟨front, parts⟩

theorem Sited.basename_mem {path : String} {above : List String} (sited : Sited path project above) :
    Path.basename path ∈ project.parts := by
  obtain ⟨front, parts⟩ := sited.exists_parts
  rw [parts]
  exact List.mem_append_right _ List.mem_cons_self

section Context

def InContext (project : ProjectPath) : Prop := project.context ≠ "" ∧ project.context ∉ Path.layerDirectories

instance (project : ProjectPath) : Decidable project.InContext := inferInstanceAs (Decidable (_ ∧ _))

def contextParts (project : ProjectPath) : List String := if project.InContext then [project.context] else []

theorem exists_context_subset (project : ProjectPath) :
    ∃ part ∈ Path.components project.rest, project.context.toList ⊆ part.toList := by
  obtain ⟨first, more, pieces⟩ := List.exists_cons_of_ne_nil (Text.split_ne_nil '/' project.rest)
  refine ⟨first, by rw [Path.components, pieces]; exact List.mem_cons_self, ?_⟩
  rw [context, parts, Path.components, pieces, List.headD_cons, Text.dropEnding]
  split
  · rw [String.toList_ofList]
    exact List.take_subset _ _
  · exact List.Subset.refl _

theorem slash_not_mem_context (project : ProjectPath) : '/' ∉ project.context.toList := by
  obtain ⟨part, mem, inside⟩ := project.exists_context_subset
  exact fun slash => Path.slash_not_mem mem (inside slash)

theorem not_mem_context {c : Char} (absent : c ∉ project.rest.toList) : c ∉ project.context.toList := by
  obtain ⟨part, mem, inside⟩ := project.exists_context_subset
  exact fun found => Path.not_mem_component absent mem (inside found)

end Context

end ProjectPath

namespace Rule

structure Plain (directory : String) : Prop where
  shown : directory ≠ ""
  stripped : Text.stripSlashes directory = directory
  unbroken : '\n' ∉ directory.toList

instance (directory : String) : Decidable (Plain directory) :=
  decidable_of_iff (directory ≠ "" ∧ Text.stripSlashes directory = directory ∧ '\n' ∉ directory.toList)
    ⟨fun ⟨shown, stripped, unbroken⟩ => ⟨shown, stripped, unbroken⟩,
      fun plain => ⟨plain.shown, plain.stripped, plain.unbroken⟩⟩

variable {project : ProjectPath} {directory file name path : String} {above : List String}

theorem relocated_eq (plain : Plain directory) (named : file ≠ "") :
    relocated project directory file =
      project.base ++ Path.ofComponents (project.contextParts ++ [directory, Text.stripSlashes file]) := by
  have kept := Path.stripSlashes_of_slashless project.slash_not_mem_context
  rw [relocated, Path.join, ProjectPath.contextParts]
  by_cases layer : project.context ∈ Path.layerDirectories
  · have outside : ¬ project.InContext := fun inside => inside.2 layer
    simp [layer, outside, plain.shown, named, plain.stripped]
  · by_cases empty : project.context = ""
    · have outside : ¬ project.InContext := fun inside => inside.1 empty
      simp [empty, outside, plain.shown, named, plain.stripped]
    · have inside : project.InContext := ⟨empty, layer⟩
      simp [layer, inside, empty, plain.shown, named, plain.stripped, kept]

theorem ofComponents_kept (project : ProjectPath) (directory kept : String) :
    Path.ofComponents (project.contextParts ++ [directory, kept]) =
      Path.ofComponents (project.contextParts ++ [directory]) ++ "/" ++ kept := by
  have cut : project.contextParts ++ [directory, kept] = project.contextParts ++ [directory] ++ [kept] := by simp
  rw [cut, Path.ofComponents_concat (by simp)]

theorem suffix_relocated (sited : ProjectPath.Sited path project above) (plain : Plain directory) (named : file ≠ "") :
    ("/" ++ directory ++ "/" ++ Text.stripSlashes file).toList <:+ (relocated project directory file).toList := by
  have alone : Path.ofComponents [directory] = directory := String.intercalate_singleton
  rw [relocated_eq plain named, ofComponents_kept, sited.base, ProjectPath.contextParts]
  split
  · have joined : Path.ofComponents ([project.context] ++ [directory]) =
        Path.ofComponents [project.context] ++ "/" ++ Path.ofComponents [directory] :=
      Path.ofComponents_append (by simp) (by simp)
    rw [joined, alone]
    exact ⟨(Path.ofComponents (above ++ ["lib", project.app]) ++ "/" ++ Path.ofComponents [project.context]).toList,
      by simp⟩
  · rw [List.nil_append, alone]
    exact ⟨(Path.ofComponents (above ++ ["lib", project.app])).toList, by simp⟩

theorem unbroken_relocated (sited : ProjectPath.Sited path project above) (plain : Plain directory)
    (unbroken : '\n' ∉ file.toList) :
    '\n' ∉ (Path.ofComponents (project.contextParts ++ [directory, Text.stripSlashes file])).toList := by
  apply Path.not_mem_ofComponents (by decide)
  intro part mem
  rw [List.mem_append, List.mem_cons, List.mem_singleton] at mem
  rcases mem with kept | rfl | rfl
  · rw [ProjectPath.contextParts] at kept
    split at kept
    · rw [List.mem_singleton.mp kept]
      exact ProjectPath.not_mem_context sited.unbroken
    · cases kept
  · exact plain.unbroken
  · exact fun broken => unbroken (Path.stripSlashes_subset file broken)

theorem locate?_relocated (sited : ProjectPath.Sited path project above) (plain : Plain directory) (named : file ≠ "")
    (unbroken : '\n' ∉ file.toList) :
    ProjectPath.locate? (relocated project directory file) = some { project with
      rest := Path.ofComponents (project.contextParts ++ [directory, Text.stripSlashes file]) } := by
  rw [relocated_eq plain named]
  apply sited.moved
  · rw [ofComponents_kept]
    intro empty
    have chars := congrArg String.toList empty
    simp at chars
  · exact unbroken_relocated sited plain unbroken

theorem parts_relocated (project : ProjectPath) (directory : String) (slashless : '/' ∉ name.toList) :
    ProjectPath.parts { project with rest := Path.ofComponents (project.contextParts ++ [directory, name]) } =
      project.contextParts ++ Path.components directory ++ [name] := by
  have kept : project.contextParts.flatMap Path.components = project.contextParts := by
    rw [ProjectPath.contextParts]
    split
    · rw [List.flatMap_singleton, Path.components_of_slashless project.slash_not_mem_context]
    · rfl
  rw [ProjectPath.parts, Path.components_ofComponents_eq_flatMap (by simp), List.flatMap_append, kept]
  simp [Path.components_of_slashless slashless]

end Rule

end BoundaryLint
