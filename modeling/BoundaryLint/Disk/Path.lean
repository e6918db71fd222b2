import BoundaryLint.Text.Split

/-!
Paths on a disk. A path is kept without empty names and without `.`, so two ways to write the same
steps are one path; `..` is kept, since only the disk can tell where it leads.
-/

namespace BoundaryLint

/-- Where a path starts. Two slashes are a start of their own, three or more are one. -/
inductive Anchor where
  | here
  | root
  | doubleRoot
deriving DecidableEq, Repr

def Anchor.text : Anchor → String
  | .here => ""
  | .root => "/"
  | .doubleRoot => "//"

structure DiskPath where
  anchor : Anchor := .here
  parts : List String := []
deriving DecidableEq, Repr

namespace DiskPath

def anchorOf (slashes : Nat) : Anchor :=
  if slashes = 0 then .here else if slashes = 2 then .doubleRoot else .root

def ofText (text : String) : DiskPath :=
  ⟨anchorOf (text.toList.takeWhile (· = '/')).length,
    (Text.split '/' text).filter fun name => name ≠ "" && name ≠ "."⟩

def toText (path : DiskPath) : String :=
  if path.anchor = .here ∧ path.parts = [] then "."
  else path.anchor.text ++ "/".intercalate path.parts

def join (base path : DiskPath) : DiskPath :=
  if path.anchor = .here then ⟨base.anchor, base.parts ++ path.parts⟩ else path

def child (base : DiskPath) (text : String) : DiskPath := base.join (ofText text)

def name (path : DiskPath) : String := path.parts.getLastD ""

def parent (path : DiskPath) : DiskPath := ⟨path.anchor, path.parts.dropLast⟩

def withAncestors (path : DiskPath) : List DiskPath :=
  (List.range (path.parts.length + 1)).reverse.map fun size =>
    ⟨path.anchor, path.parts.take size⟩

end DiskPath

end BoundaryLint
