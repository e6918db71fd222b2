import BoundaryLint.Config.Section
import BoundaryLint.Disk.Basic
import BoundaryLint.Text.Utf8
import BoundaryLint.Toml.Document

/-!
Configuration files. A file of its own holds nothing but the configuration; the file of a whole
project holds it in a section, and does not count without that section.
-/

namespace BoundaryLint.Config

def ownFile : String := "layerguard.toml"

def sharedFile : String := "pyproject.toml"

inductive FileFault where
  | config (fault : Fault)
  | encoding (fault : Utf8.Fault)
  | number (fault : Numeral.Fault)
  | disk (fault : Disk.Fault) (path : DiskPath)
  /-- What should hold the sections of all tools can hold nothing. -/
  | notContainer (found : Datum)
  /-- What should hold the sections of all tools holds no sections. -/
  | noSections (found : Datum)

def FileFault.message : FileFault → String
  | .config fault => fault.cause.message
  | .encoding fault => fault.message
  | .number fault => fault.message
  | .disk fault path => fault.message path
  | .notContainer found => s!"argument of type '{found.toValue.fullKind}' is not iterable"
  | .noSections found => s!"'{found.toValue.fullKind}' object has no attribute 'get'"

def readDocument (disk : Disk) (path : DiskPath) : Except FileFault (List (String × Datum)) :=
  match disk.read path with
  | .error .nulInName => .error (.disk .nulInName path)
  | .error fault => .error (.config ⟨path.toText, .unreadableFile (fault.message path)⟩)
  | .ok bytes =>
    match Utf8.decode bytes with
    | .error fault => .error (.encoding fault)
    | .ok text =>
      match Toml.parse text with
      | .ok entries => .ok entries
      | .error (.notDocument reason) => .error (.config ⟨path.toText, .badDocument reason⟩)
      | .error (.number fault) => .error (.number fault)

def toolSections (entries : List (String × Datum)) : Datum :=
  (entries.lookup "tool").getD (.table [])

/-- A shared file has the section of this tool. A list or a text counts if it holds its name. -/
def hasSection (entries : List (String × Datum)) : Except FileFault Bool :=
  match toolSections entries with
  | .table sections => .ok (sections.any (·.1 = "layerguard"))
  | .list items => .ok (items.any (·.text? = some "layerguard"))
  | .text text => .ok (Text.contains text "layerguard")
  | found => .error (.notContainer found)

def isUsable (disk : Disk) (path : DiskPath) : Except FileFault Bool := do
  if ← (disk.isFile path).mapError (.disk · path) then
    if path.name = sharedFile then hasSection (← readDocument disk path) else return true
  else return false

def firstUsable? (disk : Disk) : List DiskPath → Except FileFault (Option DiskPath)
  | [] => .ok none
  | path :: rest => do
    if ← isUsable disk path then return some path else firstUsable? disk rest

/-- The paths where a configuration file may stand for a directory, nearest first. -/
def candidates (directory : DiskPath) : List DiskPath :=
  directory.withAncestors.flatMap fun above => [above.child ownFile, above.child sharedFile]

def find? (disk : Disk) (start : DiskPath) : Except FileFault (Option DiskPath) := do
  let isDirectory ← (disk.isDirectory start).mapError (.disk · start)
  firstUsable? disk (candidates (if isDirectory then start else start.parent))

def sharedSection (entries : List (String × Datum)) : Except FileFault Datum :=
  match toolSections entries with
  | .table sections => .ok ((sections.lookup "layerguard").getD (.table []))
  | found => .error (.noSections found)

def load [Host] (disk : Disk) (path : DiskPath) : Except FileFault Config := do
  let entries ← readDocument disk path
  let found ← if path.name = sharedFile then sharedSection entries else pure (.table entries)
  (ofSection found).mapError .config

def discover [Host] (disk : Disk) (start : DiskPath) : Except FileFault Config := do
  match ← find? disk start with
  | none => return default
  | some path => load disk path

end BoundaryLint.Config
