import BoundaryLint.Proofs.Path.Components
import Mathlib

/-!
The context of a located file. The directory of the context and its module prefix are found in different ways: one by
the first layer directory on the path, the other by the directories between `lib` and the file. They agree, except
that a layer directory above `lib` cuts the directory short and that a file without a stem has the prefix of its app.
-/

namespace BoundaryLint

namespace Path

variable {path : String} {parts : List String}

theorem getD_beforeLayer (parts : List String) :
    (beforeLayer parts).getD parts.dropLast = parts.dropLast.takeWhile (!layerDirectories.contains ·) := by
  induction parts with
  | nil => rfl
  | cons part following ih =>
    cases following with
    | nil => simp [beforeLayer]
    | cons next more =>
      rw [beforeLayer, List.dropLast_cons_cons, List.takeWhile_cons, ← ih]
      by_cases layer : part ∈ layerDirectories
      · simp [layer]
      · cases beforeLayer (next :: more) <;> simp [layer]

theorem contextDirectory_eq {first : String} {following : List String} (split : components path = first :: following)
    (nonempty : following ≠ []) :
    contextDirectory path = ofComponents (first :: following.dropLast.takeWhile (!layerDirectories.contains ·)) := by
  rw [← getD_beforeLayer, contextDirectory, split]
  cases found : beforeLayer following with
  | none =>
    simp [found, dirname, split, List.dropLast_cons_of_ne_nil nonempty]
  | some parts => simp [found]

theorem getLastD_cons {part : String} {following : List String} (nonempty : following ≠ []) :
    (part :: following).getLastD "" = following.getLastD "" := by
  obtain ⟨next, more, rfl⟩ := List.exists_cons_of_ne_nil nonempty
  rfl

theorem libDirectoriesOf_eq_none (stemless : (sourceStem? (parts.getLastD "")).isSome = false) :
    libDirectoriesOf parts = none := by
  induction parts with
  | nil => rfl
  | cons part following ih =>
    by_cases nonempty : following = []
    · simp [nonempty, libDirectoriesOf, ofComponents]
    · rw [getLastD_cons nonempty] at stemless
      rw [libDirectoriesOf, stemless, ih stemless]
      simp

/-- The directories below a `lib`, once their path is not empty. -/
theorem libDirectoriesOf_lib {first : String} {more : List String} (file : more ≠ [])
    (visible : first ≠ "" ∨ more.dropLast ≠ []) (unbroken : ∀ part ∈ first :: more, '\n' ∉ part.toList)
    (stem : (sourceStem? ((first :: more).getLastD "")).isSome = true) :
    libDirectoriesOf ("lib" :: first :: more) = some (first :: more.dropLast) := by
  have directories : (first :: more).dropLast = first :: more.dropLast := List.dropLast_cons_of_ne_nil file
  have shown : ofComponents (first :: more.dropLast) ≠ "" := by
    rwa [ne_eq, ofComponents_eq_empty_iff, not_and_or]
  have single : '\n' ∉ (ofComponents (first :: more.dropLast)).toList := by
    apply not_mem_ofComponents (by decide)
    intro part mem
    rw [← directories] at mem
    exact unbroken part (List.mem_of_mem_dropLast mem)
  rw [libDirectoriesOf, directories, if_pos ⟨rfl, shown, single, stem⟩]

/-- The directories are those below the app, unless a `lib` further up has an empty component below it. -/
theorem libDirectoriesOf_located {between below : List String} {app : String} (nonempty : below ≠ [])
    (named : app ≠ "") (unbroken : ∀ part ∈ between ++ "lib" :: app :: below, '\n' ∉ part.toList)
    (skips : ∀ front back, between = front ++ "lib" :: back → back.head? = some "")
    (stem : (sourceStem? ((between ++ "lib" :: app :: below).getLastD "")).isSome = true) :
    libDirectoriesOf (between ++ "lib" :: app :: below) = some (app :: below.dropLast) ∨
      ∃ more, libDirectoriesOf (between ++ "lib" :: app :: below) = some ("" :: more) := by
  induction between with
  | nil =>
    rw [List.nil_append] at unbroken stem ⊢
    rw [getLastD_cons (List.cons_ne_nil _ _)] at stem
    left
    exact libDirectoriesOf_lib nonempty (.inl named) (fun part mem => unbroken part (List.mem_cons_of_mem _ mem)) stem
  | cons part between ih =>
    rw [List.cons_append] at unbroken stem ⊢
    rw [getLastD_cons (by simp)] at stem
    have later := fun part mem => unbroken part (List.mem_cons_of_mem _ mem)
    by_cases atLib : part = "lib"
    · subst atLib
      obtain ⟨back, rfl⟩ := List.head?_eq_some_iff.mp (skips [] between rfl)
      have outer : (back ++ "lib" :: app :: below).dropLast ≠ [] := by simp [List.dropLast_append_of_ne_nil]
      right
      exact ⟨_, libDirectoriesOf_lib (by simp) (.inr outer) later stem⟩
    · rw [libDirectoriesOf, if_neg (fun here => atLib here.1)]
      exact ih later (fun front back cut => skips (part :: front) back (by rw [cut]; rfl)) stem

end Path

namespace ProjectPath

variable {before parts : List String} {project : ProjectPath}

theorem locateFrom_cons {part : String} {following : List String}
    (found : locateFrom before (part :: following) = some project) :
    (part = "lib" ∧ ∃ first more, following = project.app :: first :: more ∧ project.app ≠ "" ∧
      Path.singleLine? (Path.ofComponents (first :: more)) = some project.rest ∧
      project.base = Path.ofComponents (before ++ ["lib", project.app]) ++ "/") ∨
    ((part = "lib" → ∀ app first more, following = app :: first :: more → app ≠ "" →
      Path.singleLine? (Path.ofComponents (first :: more)) = none) ∧
      locateFrom (before ++ [part]) following = some project) := by
  unfold locateFrom at found
  split at found
  · next app first more =>
    cases line : Path.singleLine? (Path.ofComponents (first :: more)) with
    | none =>
      refine .inr ⟨?_, by simpa [line] using found⟩
      rintro - _ _ _ ⟨⟩ -
      exact line
    | some rest =>
      by_cases here : part = "lib" ∧ app ≠ ""
      · simp only [if_pos here, line, Option.map_some, Option.some.injEq] at found
        subst found
        exact .inl ⟨here.1, first, more, rfl, here.2, line, rfl⟩
      · refine .inr ⟨?_, by simpa [here] using found⟩
        rintro atLib _ _ _ ⟨⟩ named
        exact absurd ⟨atLib, named⟩ here
  · next short =>
    refine .inr ⟨?_, found⟩
    rintro - app first more rfl
    exact absurd rfl (short app first more)

/-- A component that is not empty would have been the app, were it followed by two more. -/
theorem head?_of_elsewhere {following : List String}
    (elsewhere : ∀ app first more, following = app :: first :: more → app ≠ "" →
      Path.singleLine? (Path.ofComponents (first :: more)) = none)
    (unbroken : ∀ part ∈ following, '\n' ∉ part.toList) (long : 2 < following.length) :
    following.head? = some "" := by
  obtain ⟨app, tail, rfl⟩ := List.exists_cons_of_length_pos (by omega : 0 < following.length)
  rw [List.length_cons] at long
  obtain ⟨first, more, rfl⟩ := List.exists_cons_of_length_pos (by omega : 0 < tail.length)
  by_contra named
  have none := elsewhere app first more rfl (by simpa using named)
  have visible : Path.ofComponents (first :: more) ≠ "" := by
    rw [ne_eq, Path.ofComponents_eq_empty_iff, not_and]
    rintro - rfl
    simp at long
  rw [Path.singleLine?_ofComponents fun part mem => unbroken part (List.mem_cons_of_mem _ mem), if_neg visible] at none
  cases none

/-- The components around the app directory. Every `lib` further up has an empty component below it. -/
theorem exists_of_locateFrom (found : locateFrom before parts = some project)
    (unbroken : ∀ part ∈ parts, '\n' ∉ part.toList) :
    ∃ between below, parts = between ++ "lib" :: project.app :: below ∧ below ≠ [] ∧ project.app ≠ "" ∧
      project.base = Path.ofComponents (before ++ between ++ ["lib", project.app]) ++ "/" ∧
      project.rest = Path.ofComponents below ∧
      ∀ front back, between = front ++ "lib" :: back → back.head? = some "" := by
  induction parts generalizing before with
  | nil => simp [locateFrom] at found
  | cons part following ih =>
    have later := fun part mem => unbroken part (List.mem_cons_of_mem _ mem)
    rcases locateFrom_cons found with ⟨rfl, first, more, rfl, named, line, base⟩ | ⟨elsewhere, found⟩
    · rw [Path.singleLine?_ofComponents fun part mem => later part (List.mem_cons_of_mem _ mem)] at line
      obtain ⟨-, rest⟩ := Option.ite_none_left_eq_some.mp line
      exact ⟨[], first :: more, rfl, by simp, named, by simpa using base, (Option.some.inj rest).symm, by simp⟩
    · obtain ⟨between, below, split, nonempty, named, base, rest, skips⟩ := ih found later
      refine ⟨part :: between, below, by rw [split]; rfl, nonempty, named, by simpa using base, rest, ?_⟩
      intro front back cut
      rcases List.cons_eq_append_iff.mp cut with ⟨rfl, atLib⟩ | ⟨front, rfl, between_eq⟩
      · obtain ⟨rfl, rfl⟩ : "lib" = part ∧ back = between := by simpa using atLib
        have long : 2 < following.length := by
          have some := List.length_pos_iff.mpr nonempty
          simp only [split, List.length_append, List.length_cons]
          omega
        have empty := head?_of_elsewhere (elsewhere rfl) later long
        cases back with
        | nil => simp [split] at empty
        | cons next back => simpa [split] using empty
      · exact skips front back between_eq

def contextDirectories (project : ProjectPath) : List String :=
  (project.app :: project.parts).dropLast.takeWhile (!Path.layerDirectories.contains ·)

theorem contextDirectories_subset (project : ProjectPath) : project.contextDirectories ⊆ project.app :: project.parts :=
  List.Subset.trans (List.takeWhile_subset _) (List.dropLast_subset _)

def contextModules (project : ProjectPath) (appModule : String) : List String :=
  let modules := project.contextDirectories.map Path.camelize
  if modules.head? = some appModule then modules.drop 1 else modules

/-- The file is located below the components `above`. Every `lib` among them has an empty component below it. -/
structure Located (path : String) (project : ProjectPath) (above : List String) : Prop where
  split : Path.components path = above ++ "lib" :: project.app :: project.parts
  base : project.base = Path.ofComponents (above ++ ["lib", project.app]) ++ "/"
  file : project.parts ≠ []
  named : project.app ≠ ""
  skips : ∀ front back, above = front ++ "lib" :: back → back.head? = some ""

variable {path : String} {above : List String}

theorem exists_located (found : locate? path = some project) (unbroken : '\n' ∉ path.toList) :
    ∃ above, Located path project above := by
  obtain ⟨above, below, split, nonempty, named, base, rest, skips⟩ :=
    exists_of_locateFrom found fun part mem => Path.not_mem_component unbroken mem
  have parts : project.parts = below := by
    rw [ProjectPath.parts, rest, Path.components_ofComponents nonempty]
    intro part mem
    have inside : part ∈ Path.components path := by simp [split, mem]
    exact Path.slash_not_mem inside
  subst parts
  exact ⟨above, split, by simpa using base, nonempty, named, skips⟩

namespace Located

/-- The directory of the context is found below `lib` unless a layer directory lies above. -/
theorem contextDirectory_eq_iff (located : Located path project above) :
    Path.contextDirectory path = Path.ofComponents (above ++ "lib" :: project.contextDirectories) ↔
      ∀ part ∈ above.drop 1, part ∉ Path.layerDirectories := by
  have split := located.split
  have slashless : ∀ part ∈ Path.components path, '/' ∉ part.toList := fun part mem => Path.slash_not_mem mem
  cases above with
  | nil =>
    rw [List.nil_append] at split
    simp [Path.contextDirectory_eq split, contextDirectories]
  | cons first above =>
    rw [List.cons_append] at split ⊢
    rw [split] at slashless
    rw [Path.contextDirectory_eq split (by simp), List.drop_one, List.tail_cons]
    constructor
    · intro same part mem
      -- both lists of components are parts of the path, so the two directories have the same components
      have found := List.cons_subset_cons first
        (List.Subset.trans (List.takeWhile_subset (!Path.layerDirectories.contains ·))
          (List.dropLast_subset (above ++ "lib" :: project.app :: project.parts)))
      have wanted := List.cons_subset_cons first
        (List.append_subset.mpr ⟨List.subset_append_left above _,
          List.subset_append_of_subset_right above (List.cons_subset_cons "lib" project.contextDirectories_subset)⟩)
      have taken := congrArg Path.components same
      rw [Path.components_ofComponents (List.cons_ne_nil _ _) fun part mem => slashless part (found mem),
        Path.components_ofComponents (List.cons_ne_nil _ _) fun part mem => slashless part (wanted mem)] at taken
      have inside := List.mem_append_left ("lib" :: project.contextDirectories) mem
      rw [← List.tail_eq_of_cons_eq taken] at inside
      simpa using List.mem_takeWhile_imp inside
    · intro clear
      have outside : ∀ part ∈ above, (!Path.layerDirectories.contains part) = true := by simpa using clear
      have before : (above ++ "lib" :: project.app :: project.parts).dropLast =
          above ++ "lib" :: (project.app :: project.parts).dropLast := by
        rw [List.dropLast_append_of_ne_nil (by simp), List.dropLast_cons_of_ne_nil (by simp)]
      rw [before, List.takeWhile_append_of_pos outside, List.takeWhile_cons_of_pos (by decide), contextDirectories]

/-- The prefix names the directories of the context, which a file without a stem does not show. -/
theorem name_of_modulePrefix? (located : Located path project above) (source : Text.endsWith path ".ex" = true)
    (unbroken : '\n' ∉ path.toList) {ref : ModuleRef} (found : Path.modulePrefix? path = some ref) :
    ∃ app, Path.appName? path = some app ∧
      ref.name = ".".intercalate (Path.camelize app ::
        if Path.basename path = ".ex" then [] else project.contextModules (Path.camelize app)) := by
  rw [Path.modulePrefix?] at found
  obtain ⟨app, owner, found⟩ := Option.bind_eq_some_iff.mp found
  refine ⟨app, owner, ?_⟩
  have stem := Path.isSome_sourceStem?_iff source unbroken
  by_cases bare : Path.basename path = ".ex"
  · have stemless : (Path.sourceStem? (Path.basename path)).isSome = false := by simpa [bare] using stem
    rw [Path.libDirectories?, Path.libDirectoriesOf_eq_none stemless] at found
    rw [ModuleRef.name_of_ofName? found, if_pos bare, String.intercalate_singleton]
  · have inLine : ∀ part ∈ Path.components path, '\n' ∉ part.toList := fun part mem =>
      Path.not_mem_component unbroken mem
    have named := stem.mpr bare
    rw [Path.basename, located.split] at named
    rw [located.split] at inLine
    rw [Path.libDirectories?, located.split] at found
    rcases Path.libDirectoriesOf_located located.file located.named inLine located.skips named with
      directories | ⟨more, directories⟩
    · rw [directories, ← List.dropLast_cons_of_ne_nil located.file] at found
      rw [ModuleRef.name_of_ofName? found, if_neg bare]
      rfl
    · -- an empty directory gives no module name
      rw [directories] at found
      have empty := ModuleRef.empty_not_mem_of_ofName? found
      rw [List.takeWhile_cons_of_pos (by decide), List.map_cons, (by decide : Path.camelize "" = "")] at empty
      split_ifs at empty with same
      · rw [List.head?_cons, Option.some.injEq] at same
        simp [same] at empty
      · simp at empty

end Located

end ProjectPath

namespace Path

/-- The context of a located file. The directory goes down from `lib` to a layer directory exactly when no layer
directory lies above; the module prefix names the same directories unless the file has no stem. -/
theorem context_of_located (path : String) (project : ProjectPath) (located : ProjectPath.locate? path = some project)
    (source : Text.endsWith path ".ex" = true) (unbroken : '\n' ∉ path.toList) :
    ∃ above, components path = above ++ "lib" :: project.app :: project.parts ∧
      project.base = ofComponents (above ++ ["lib", project.app]) ++ "/" ∧
      (contextDirectory path = ofComponents (above ++ "lib" :: project.contextDirectories) ↔
        ∀ part ∈ above.drop 1, part ∉ layerDirectories) ∧
      ∀ ref, modulePrefix? path = some ref → ∃ app, appName? path = some app ∧
        ref.name = ".".intercalate (camelize app ::
          if basename path = ".ex" then [] else project.contextModules (camelize app)) := by
  obtain ⟨above, found⟩ := ProjectPath.exists_located located unbroken
  refine ⟨above, found.split, found.base, found.contextDirectory_eq_iff, ?_⟩
  intro ref named
  exact found.name_of_modulePrefix? source unbroken named

theorem context_of_located_invoice :
    contextDirectory "apps/core/lib/core/billing/domain/invoice.ex" = "apps/core/lib/core/billing" ∧
      ∃ ref, modulePrefix? "apps/core/lib/core/billing/domain/invoice.ex" = some ref ∧ ref.name = "Core.Billing" := by
  obtain ⟨above, split, -, directory, named⟩ := context_of_located "apps/core/lib/core/billing/domain/invoice.ex"
    ⟨"apps/core/lib/core/", "core", "billing/domain/invoice.ex"⟩ (by decide) (by decide) (by decide)
  have outer : ["apps", "core"] = above := List.append_cancel_right split
  subst outer
  have found : modulePrefix? "apps/core/lib/core/billing/domain/invoice.ex" =
      some ⟨["Core", "Billing"], by simp, by decide⟩ := by decide
  obtain ⟨app, owner, name⟩ := named _ found
  obtain rfl : "core" = app := Option.some.inj owner
  exact ⟨directory.mpr (by decide), _, found, name.trans (by decide)⟩

/-- A layer directory above `lib` cuts the directory short, and a file without a stem has the prefix of its app. -/
theorem context_misplaced :
    ProjectPath.locate? "apps/domain/lib/shop/cart/item.ex" = some ⟨"apps/domain/lib/shop/", "shop", "cart/item.ex"⟩ ∧
      contextDirectory "apps/domain/lib/shop/cart/item.ex" = "apps" ∧
      ProjectPath.locate? "lib/shop/cart/.ex" = some ⟨"lib/shop/", "shop", "cart/.ex"⟩ ∧
      (modulePrefix? "lib/shop/cart/.ex").map ModuleRef.name = some "Shop" := by
  decide

end Path

end BoundaryLint
