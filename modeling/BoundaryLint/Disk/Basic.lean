import BoundaryLint.Disk.Path
import BoundaryLint.Disk.Probe
import BoundaryLint.Text.Quoted

/-!
Disks: directories and files at their places. A place is the row of names from the root of the disk;
a path is followed from the root or from the working directory, name by name.
-/

namespace BoundaryLint

inductive Entry where
  | directory
  | file (bytes : List UInt8)
deriving DecidableEq, Repr

structure Disk where
  /-- The root itself is not listed. -/
  entries : List (List String × Entry) := []
  workingDirectory : List String := []
deriving DecidableEq, Repr

namespace Disk

inductive Fault where
  | missing
  | notDirectory
  | isDirectory
  | taken
  | nameTooLong
  | nulInName
deriving DecidableEq, Repr

def Fault.message (path : DiskPath) : Fault → String
  | .missing => s!"[Errno 2] No such file or directory: {Text.quoted path.toText}"
  | .notDirectory => s!"[Errno 20] Not a directory: {Text.quoted path.toText}"
  | .isDirectory => s!"[Errno 21] Is a directory: {Text.quoted path.toText}"
  | .taken => s!"[Errno 17] File exists: {Text.quoted path.toText}"
  | .nameTooLong => s!"[Errno 36] File name too long: {Text.quoted path.toText}"
  | .nulInName => "embedded null byte"

def nameLimit : Nat := 255

def pathLimit : Nat := 4096

def empty (workingDirectory : List String) : Disk :=
  ⟨(List.range workingDirectory.length).map fun size =>
    (workingDirectory.take (size + 1), .directory), workingDirectory⟩

def entry? (disk : Disk) (place : List String) : Option Entry :=
  if place = [] then some .directory else disk.entries.lookup place

/-- Follows names from a place with its entry. Above the root there is only the root. -/
def follow (disk : Disk) (place : List String) (entry : Entry) :
    List String → Except Fault (List String × Entry)
  | [] => .ok (place, entry)
  | name :: rest =>
    match entry with
    | .file _ => .error .notDirectory
    | .directory =>
      if name = ".." then follow disk place.dropLast .directory rest
      else if nameLimit < name.utf8ByteSize then .error .nameTooLong
      else
        match disk.entry? (place ++ [name]) with
        | none => .error .missing
        | some next => follow disk (place ++ [name]) next rest

def start (disk : Disk) (path : DiskPath) : List String :=
  if path.anchor = .here then disk.workingDirectory else []

/-- The place that the names of a path give, whether or not anything stands there. -/
def placeOf (disk : Disk) (path : DiskPath) : List String :=
  path.parts.foldl (fun place name => if name = ".." then place.dropLast else place ++ [name])
    (disk.start path)

def find (disk : Disk) (path : DiskPath) : Except Fault (List String × Entry) :=
  if path.parts.any (Text.contains · "\x00") then .error .nulInName
  else if pathLimit ≤ path.toText.utf8ByteSize then .error .nameTooLong
  else disk.follow (disk.start path) .directory path.parts

/-- What a path leads to, if anything. Only a name that is too long is refused. -/
def look (disk : Disk) (path : DiskPath) : Except Fault (Option Entry) :=
  match disk.find path with
  | .ok (_, entry) => .ok (some entry)
  | .error .nameTooLong => .error .nameTooLong
  | .error _ => .ok none

def isDirectory (disk : Disk) (path : DiskPath) : Except Fault Bool :=
  (disk.look path).map (· = some .directory)

def isFile (disk : Disk) (path : DiskPath) : Except Fault Bool :=
  (disk.look path).map fun
    | some (.file _) => true
    | _ => false

def probe (disk : Disk) (root : DiskPath) : Probe :=
  ⟨fun path => (disk.look (root.child path)).toOption.map (·.isSome)⟩

inductive ProbeFault where
  | noRoot
deriving DecidableEq, Repr

def ProbeFault.message : ProbeFault → String
  | .noRoot => "root must not be None"

def probeAt (disk : Disk) (root : Option DiskPath) : Except ProbeFault Probe :=
  match root with
  | none => .error .noRoot
  | some root => .ok (disk.probe root)

def read (disk : Disk) (path : DiskPath) : Except Fault (List UInt8) :=
  match disk.find path with
  | .ok (_, .file bytes) => .ok bytes
  | .ok (_, .directory) => .error .isDirectory
  | .error fault => .error fault

def children (disk : Disk) (place : List String) : List (String × Entry) :=
  disk.entries.filterMap fun (other, entry) =>
    if other ≠ [] ∧ other.dropLast = place then some (other.getLastD "", entry) else none

/-- The ways from a place to the directories below it; the first way leads to the place itself. -/
def directoriesBelow (disk : Disk) (place : List String) : List (List String) :=
  [] :: disk.entries.filterMap fun (other, entry) =>
    if entry = .directory ∧ place.length < other.length ∧ place.isPrefixOf other then
      some (other.drop place.length)
    else none

def put (disk : Disk) (place : List String) (entry : Entry) : Disk :=
  { disk with entries := (place, entry) :: disk.entries.filter (·.1 ≠ place) }

def makeFrom (disk : Disk) (place : List String) : List String → Except Fault (Disk × List String)
  | [] => .ok (disk, place)
  | name :: rest =>
    if name = ".." then makeFrom disk place.dropLast rest
    else if nameLimit < name.utf8ByteSize then .error .nameTooLong
    else
      match disk.entry? (place ++ [name]) with
      | some .directory => makeFrom disk (place ++ [name]) rest
      | some (.file _) => .error (if rest.isEmpty then .taken else .notDirectory)
      | none => makeFrom (disk.put (place ++ [name]) .directory) (place ++ [name]) rest

def makeDirectory (disk : Disk) (path : DiskPath) : Except Fault Disk :=
  (disk.makeFrom (disk.start path) path.parts).map (·.1)

def write (disk : Disk) (path : DiskPath) (bytes : List UInt8) : Except Fault Disk := do
  let (disk, place) ← disk.makeFrom (disk.start path) path.parts.dropLast
  match disk.find path with
  | .ok (_, .directory) => .error .isDirectory
  | .ok (place, .file _) => return disk.put place (.file bytes)
  | .error .missing => return disk.put (place ++ [path.name]) (.file bytes)
  | .error fault => .error fault

def delete (disk : Disk) (path : DiskPath) : Except Fault Disk := do
  let (place, _) ← disk.find path
  return { disk with entries := disk.entries.filter (!place.isPrefixOf ·.1) }

end Disk

end BoundaryLint
