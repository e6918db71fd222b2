import BoundaryLint.Source.Fault

/-!
What is told about a source file that cannot be read.
-/

namespace BoundaryLint.Source

structure Refusal where
  path : String
  reason : String
  line : Nat
deriving DecidableEq, Repr

namespace Refusal

inductive Fault where
  | noPath
  | emptyReason
  | line (found : Int)
deriving DecidableEq, Repr

def Fault.message : Fault → String
  | .noPath => "path must not be None"
  | .emptyReason => "reason must be non-empty string"
  | .line found => s!"line must be >= 1, got {found}"

def make (path : Option String) (reason : String) (line : Int) : Except Fault Refusal :=
  match path with
  | none => .error .noPath
  | some path =>
    if reason = "" then .error .emptyReason
    else if line < 1 then .error (.line line)
    else .ok ⟨path, reason, line.toNat⟩

def ofCause (path : String) (cause : Cause) (line : Nat) : Refusal := ⟨path, cause.message, line⟩

def message (refusal : Refusal) : String :=
  s!"Failed to parse {refusal.path}:{refusal.line}: {refusal.reason}"

end Refusal

end BoundaryLint.Source
