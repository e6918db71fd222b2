import BoundaryLint.Command.Run
import BoundaryLint.Host.Ordinary

/-!
The command line. What a run may look at is copied from the disk first; everything else is decided
on the copy.
-/

namespace BoundaryLint.Main

/-- The entries at and below the entries of a directory. Files are listed without their bytes, and
links to directories are not followed. -/
partial def listed (place : List String) (found : List IO.FS.DirEntry) :
    IO (List (List String × Entry)) := do
  let parts ← found.mapM fun entry => do
    let here := place ++ [entry.fileName]
    try
      match (← entry.path.metadata).type with
      | .dir =>
        let isLink := (← entry.path.symlinkMetadata).type == .symlink
        let below ← if isLink then pure [] else listed here (← entry.path.readDir).toList
        return (here, Entry.directory) :: below
      | .file => return [(here, Entry.file [])]
      | _ => return []
    catch _ => return []
  return parts.flatten

def copyFile (disk : Disk) (path : DiskPath) : IO Disk := do
  try
    let bytes ← IO.FS.readBinFile path.toText
    return (disk.write path bytes.toList).toOption.getD disk
  catch _ => return disk

def copyNames (disk : Disk) (root : DiskPath) : IO Disk := do
  try
    let found ← (← IO.FS.realPath root.toText).readDir
    let disk := (disk.makeDirectory root).toOption.getD disk
    let below ← listed (disk.placeOf root) found.toList
    return { disk with entries := below ++ disk.entries }
  catch _ => return disk

/-- Copies what a run with some arguments looks at: the names below its root, the files that may
hold its configuration, and the sources that the configuration leads to. -/
def copyDisk [Host] (arguments : Command.Arguments) : IO Disk := do
  let here := DiskPath.ofText (← IO.FS.realPath ".").toString
  let root := DiskPath.ofText arguments.path
  let named ← copyNames (.empty here.parts) root
  let settings := (arguments.config.map DiskPath.ofText).toList ++ Config.candidates root
  let disk ← settings.foldlM copyFile named
  let sources := do
    let config ← (Command.configuration disk arguments root).toOption
    (Project.sources disk root config.included config.excluded).toOption
  (sources.getD []).foldlM (fun disk path => copyFile disk (root.child path)) disk

def finish (ending : Command.Ending) : IO UInt32 := do
  IO.print ending.output
  IO.eprint (ending.usageMessage?.getD "")
  for line in ending.logged do
    IO.eprintln line
  if let .failed fault := ending then
    IO.eprintln fault.message
  return (ending.status?.getD 1).toUInt32

section

attribute [local instance] Host.ordinary

def run (texts : List String) : IO UInt32 := do
  let disk ← match Command.Arguments.parse texts with
    | .ok arguments => copyDisk arguments
    | .error _ => pure {}
  finish (Command.run disk texts)

end

end BoundaryLint.Main

def main (texts : List String) : IO UInt32 := BoundaryLint.Main.run texts
