import BoundaryLint.Disk.Basic
import BoundaryLint.Disk.Glob

/-!
Searching a directory with a pattern, name by name. `**` as a whole name stands for any number of
directories.
-/

namespace BoundaryLint.Search

inductive Step where
  | exactly (name : String)
  | like (pattern : String)
  | anyDepth
deriving DecidableEq, Repr

/-- A pattern for paths. With a slash at its end it only finds directories. -/
structure Query where
  steps : List Step
  onlyDirectories : Bool
deriving DecidableEq, Repr

inductive Fault where
  | emptyPattern
  | notRelative
  | partOfName
  | noNames
  | onlySlash
  | disk (fault : Disk.Fault) (path : DiskPath)
deriving DecidableEq, Repr

def Fault.message : Fault → String
  | .emptyPattern => "Unacceptable pattern: ''"
  | .notRelative => "Non-relative patterns are unsupported"
  | .partOfName => "Invalid pattern: '**' can only be an entire path component"
  | .noNames => "tuple index out of range"
  | .onlySlash => "'_TerminatingSelector' object has no attribute 'select_from'"
  | .disk fault path => fault.message path

def Step.ofName (name : String) : Except Fault Step :=
  if name = "**" then .ok .anyDepth
  else if Text.contains name "**" then .error .partOfName
  else if name.toList.any fun c => c = '*' || c = '?' || c = '[' then .ok (.like name)
  else .ok (.exactly name)

def Query.ofText (pattern : String) : Except Fault Query :=
  let path := DiskPath.ofText pattern
  let onlyDirectories := Text.endsWith pattern "/"
  if pattern = "" then .error .emptyPattern
  else if path.anchor ≠ .here then .error .notRelative
  else if path.parts.isEmpty then .error (if onlyDirectories then .onlySlash else .noNames)
  else do return ⟨← path.parts.mapM Step.ofName, onlyDirectories⟩

def Query.takesFiles (query : Query) (rest : List Step) : Bool :=
  rest.isEmpty && !query.onlyDirectories

def select (disk : Disk) (query : Query) (path : DiskPath) :
    List Step → Except Fault (List DiskPath)
  | [] => .ok [path]
  | .exactly name :: rest => do
    let next : DiskPath := ⟨path.anchor, path.parts ++ [name]⟩
    match ← (disk.look next).mapError (.disk · next) with
    | none => return []
    | some entry =>
      if entry = .directory || query.takesFiles rest then select disk query next rest
      else return []
  | .like pattern :: rest => do
    let (place, _) ← (disk.find path).mapError (.disk · path)
    let names := (disk.children place).filter fun (name, entry) =>
      (entry = .directory || query.takesFiles rest) && Glob.matchesWhole name pattern
    return (← names.mapM fun (name, _) =>
      select disk query ⟨path.anchor, path.parts ++ [name]⟩ rest).flatten
  | .anyDepth :: rest => do
    let (place, _) ← (disk.find path).mapError (.disk · path)
    return (← (disk.directoriesBelow place).mapM fun way =>
      select disk query ⟨path.anchor, path.parts ++ way⟩ rest).flatten.eraseDups

def find (disk : Disk) (root : DiskPath) (pattern : String) : Except Fault (List DiskPath) := do
  let query ← Query.ofText pattern
  if ← (disk.isDirectory root).mapError (.disk · root) then select disk query root query.steps
  else return []

end BoundaryLint.Search
