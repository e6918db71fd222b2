import BoundaryLint.Config.Basic
import BoundaryLint.Disk.Search
import BoundaryLint.Text.Lines
import BoundaryLint.Text.Utf8

/-!
The source files of a project: those that one of its patterns finds and none of the others excludes.
-/

namespace BoundaryLint.Project

inductive SourceFault where
  | noDirectory (root : DiskPath)
  | search (fault : Search.Fault)
  | disk (fault : Disk.Fault) (path : DiskPath)
deriving DecidableEq, Repr

def SourceFault.message : SourceFault → String
  | .noDirectory root => s!"root must be a directory: {root.toText}"
  | .search fault => fault.message
  | .disk fault path => fault.message path

def relativeText (root path : DiskPath) : String :=
  (DiskPath.mk .here (path.parts.drop root.parts.length)).toText

def filesLike (disk : Disk) (root : DiskPath) (pattern : String) :
    Except SourceFault (List String) := do
  let paths ← (Search.find disk root pattern).mapError .search
  let files ← paths.filterM fun path => (disk.isFile path).mapError (.disk · path)
  return files.map (relativeText root)

def sources (disk : Disk) (root : DiskPath) (included excluded : List String) :
    Except SourceFault (List String) := do
  if !(← (disk.isDirectory root).mapError (.disk · root)) then throw (.noDirectory root)
  let found := (← included.mapM (filesLike disk root)).flatten
  return (found.filter fun path => !excluded.any (Glob.matchesPath path)).eraseDups.mergeSort

/-- The text of a file. Bad bytes are marked, so that the file gives an issue and not a failure. -/
def readSource (disk : Disk) (path : DiskPath) : Except SourceFault String := do
  let bytes ← (disk.read path).mapError (.disk · path)
  return String.ofList (Text.joinReturns (Utf8.decodeLossy bytes))

def readSources (disk : Disk) (root : DiskPath) (paths : List String) :
    Except SourceFault (List (String × String)) :=
  paths.mapM fun path => do return (path, ← readSource disk (root.child path))

end BoundaryLint.Project
