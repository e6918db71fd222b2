import BoundaryLint.Path.Basic
import BoundaryLint.Path.Naming
import BoundaryLint.Tree.ModuleRef

/-!
Where a file lies in a project. Sources stand below `lib/<app>/`, in an umbrella project below
`apps/<app>/lib/`. The context of a file is the first directory below the app, or the name of the
file itself when it stands there.
-/

namespace BoundaryLint

structure ProjectPath where
  base : String
  app : String
  rest : String
deriving DecidableEq, Repr

namespace ProjectPath

/-- The first place of `lib/<app>/` with something below it, after the given components. -/
def locateFrom (before : List String) : List String → Option ProjectPath
  | [] => none
  | part :: following =>
    let here :=
      match following with
      | app :: first :: more =>
        if part = "lib" ∧ app ≠ "" then
          (Path.singleLine? (Path.ofComponents (first :: more))).map fun rest =>
            ⟨Path.ofComponents (before ++ ["lib", app]) ++ "/", app, rest⟩
        else none
      | _ => none
    match here with
    | some found => some found
    | none => locateFrom (before ++ [part]) following

def locate? (path : String) : Option ProjectPath := locateFrom [] (Path.components path)

def parts (project : ProjectPath) : List String := Path.components project.rest

def isTopLevel (project : ProjectPath) : Bool := !project.rest.toList.contains '/'

def context (project : ProjectPath) : String := Text.dropEnding (project.parts.headD "") ".ex"

def appModule (project : ProjectPath) : String := Path.camelize project.app

end ProjectPath

namespace Path

def umbrellaAppOf : List String → Option String
  | [] => none
  | part :: following =>
    match following with
    | app :: lib :: _ :: _ =>
      if part = "apps" ∧ app ≠ "" ∧ lib = "lib" then some app else umbrellaAppOf following
    | _ => none

def umbrellaApp? (path : String) : Option String := umbrellaAppOf (components path)

def appName? (path : String) : Option String :=
  match umbrellaApp? path with
  | some app => some app
  | none => (ProjectPath.locate? path).map (·.app)

/-- The directories between the first `lib` that has some and an Elixir source file. -/
def libDirectoriesOf : List String → Option (List String)
  | [] => none
  | part :: following =>
    let directories := following.dropLast
    let text := ofComponents directories
    if part = "lib" ∧ text ≠ "" ∧ '\n' ∉ text.toList ∧
        (sourceStem? (following.getLastD "")).isSome then some directories
    else libDirectoriesOf following

def libDirectories? (path : String) : Option (List String) := libDirectoriesOf (components path)

def layerDirectories : List String := ["domain", "application", "infrastructure"]

/-- The module prefix of the context that a path lies in: the app and the directories down to the
first layer directory, the app not twice. -/
def modulePrefix? (path : String) : Option ModuleRef :=
  (appName? path).bind fun app =>
    let appModule := camelize app
    match libDirectories? path with
    | none => ModuleRef.ofName? appModule
    | some directories =>
      let parts := (directories.takeWhile (!layerDirectories.contains ·)).map camelize
      let parts := if parts.head? = some appModule then parts.drop 1 else parts
      ModuleRef.ofName? (".".intercalate (appModule :: parts))

/-- The components after the first one, up to a layer directory that is not the last. -/
def beforeLayer : List String → Option (List String)
  | [] => none
  | part :: following =>
    if following.isEmpty then none
    else if layerDirectories.contains part then some []
    else (beforeLayer following).map (part :: ·)

def contextDirectory (path : String) : String :=
  match components path with
  | [] => ""
  | first :: following =>
    match beforeLayer following with
    | some parts => ofComponents (first :: parts)
    | none => dirname path

def isAppEntry (path : String) : Bool :=
  match (components path).reverse with
  | file :: lib :: more =>
    match sourceStem? file with
    | none => false
    | some stem =>
      if lib ≠ "lib" then false
      else
        match more with
        | app :: apps :: _ =>
          if apps = "apps" ∧ app ≠ "" then app = stem else !Text.endsWith path "_test.ex"
        | _ => !Text.endsWith path "_test.ex"
  | _ => false

/-- The file is a context module, directly in the directory of an app that is no web app. -/
def isContextModule (path : String) (excluded : List String) : Bool :=
  if Text.endsWith path "_test.exs" || !Text.endsWith path ".ex" || containsAny path excluded then
    false
  else
    match ProjectPath.locate? path with
    | none => false
    | some project => !hasSuffix project.app ["_web"] && project.isTopLevel

end Path

end BoundaryLint
