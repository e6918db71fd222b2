/-!
Places in source files.
-/

namespace BoundaryLint

structure Location where
  file : String
  line : Nat
deriving DecidableEq, Repr

namespace Location

inductive Fault where
  | noFile
  | line (found : Int)
deriving DecidableEq, Repr

def Fault.message : Fault → String
  | .noFile => "file must not be None"
  | .line found => s!"line must be > 0, got {found}"

def make (file : Option String) (line : Int) : Except Fault Location :=
  match file with
  | none => .error .noFile
  | some file => if line ≤ 0 then .error (.line line) else .ok ⟨file, line.toNat⟩

def toText (location : Location) : String := s!"{location.file}:{location.line}"

instance : ToString Location := ⟨toText⟩

end Location

end BoundaryLint
