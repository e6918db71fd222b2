import BoundaryLint.Text.Split

/-!
Probes: whether a path of the project exists. A probe can fail, and then the path counts as missing.
-/

namespace BoundaryLint

/-- Looks a path up; no answer means that the look-up failed. -/
structure Probe where
  find? : String → Option Bool

namespace Probe

def exists? (probe : Probe) (path : String) : Bool := (probe.find? path).getD false

def denied : Probe := ⟨fun _ => none⟩

end Probe

structure KnownPaths where
  files : List String
  directories : List String
deriving Repr

namespace KnownPaths

def directoriesOf (file : String) : List String :=
  let parts := (Text.split '/' file).dropLast
  (List.range parts.length).map fun size => "/".intercalate (parts.take (size + 1))

/-- Slashes at the ends of a path do not count. -/
def ofPaths (paths : List String) : KnownPaths :=
  let files := paths.map Text.stripSlashes
  ⟨files, files.flatMap directoriesOf⟩

def contains (known : KnownPaths) (path : String) : Bool :=
  let path := Text.stripSlashes path
  known.files.contains path || known.directories.contains path

def probe (known : KnownPaths) : Probe := ⟨fun path => some (known.contains path)⟩

end KnownPaths

end BoundaryLint
