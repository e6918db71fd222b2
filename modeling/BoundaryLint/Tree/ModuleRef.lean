import BoundaryLint.Text.Quoted
import BoundaryLint.Text.Split

/-!
Module references: fully qualified module names as non-empty rows of capitalised segments. The rule
for segments is part of the type, so every reference has a well-formed name.
-/

namespace BoundaryLint

namespace ModuleRef

def isSegmentChar (c : Char) : Bool := c.isAlphanum || c = '_'

/-- A capital letter, then letters, digits and underscores; a single line break may end it. -/
def isSegmentChars : List Char → Bool
  | [] => false
  | c :: rest =>
    c.isUpper && (rest.dropWhile isSegmentChar = [] || rest.dropWhile isSegmentChar = ['\n'])

def isSegment (text : String) : Bool := isSegmentChars text.toList

end ModuleRef

structure ModuleRef where
  segments : List String
  nonempty : segments ≠ []
  wellFormed : ∀ segment ∈ segments, ModuleRef.isSegment segment = true
deriving DecidableEq, Repr

namespace ModuleRef

inductive Fault where
  | emptyName
  | noSegments
  | invalidSegment (segment : String)
deriving DecidableEq, Repr

def Fault.message : Fault → String
  | .emptyName => "module name must not be empty"
  | .noSegments => "segments must not be empty"
  | .invalidSegment segment => s!"invalid module segment {Text.quoted segment}"

def ofSegments (segments : List String) : Except Fault ModuleRef :=
  if nonempty : segments = [] then .error .noSegments
  else if wellFormed : ∀ segment ∈ segments, isSegment segment = true then
    .ok ⟨segments, nonempty, wellFormed⟩
  else .error (.invalidSegment ((segments.find? fun segment => !isSegment segment).getD ""))

/-- Reads a dotted name, white space around it aside. -/
def parse (name : String) : Except Fault ModuleRef :=
  if name = "" then .error .emptyName else ofSegments (Text.split '.' (Text.strip name))

def isName (text : String) : Bool := (Text.split '.' text).all isSegment

def ofName? (text : String) : Option ModuleRef := (ofSegments (Text.split '.' text)).toOption

def name (ref : ModuleRef) : String := ".".intercalate ref.segments

instance : ToString ModuleRef := ⟨name⟩

def last (ref : ModuleRef) : String := ref.segments.getLast ref.nonempty

def child (ref : ModuleRef) (segment : String) (valid : isSegment segment = true := by decide) :
    ModuleRef where
  segments := ref.segments ++ [segment]
  nonempty := by simp
  wellFormed := by
    intro s member
    rcases List.mem_append.1 member with old | new
    · exact ref.wellFormed s old
    · rw [List.mem_singleton.1 new]
      exact valid

def extend (ref : ModuleRef) (segments : List String) : Except Fault ModuleRef :=
  ofSegments (ref.segments ++ segments)

def append (ref below : ModuleRef) : ModuleRef where
  segments := ref.segments ++ below.segments
  nonempty := by simp [ref.nonempty]
  wellFormed := by
    intro s member
    rcases List.mem_append.1 member with first | second
    · exact ref.wellFormed s first
    · exact below.wellFormed s second

def take (ref : ModuleRef) (size : Nat) : ModuleRef where
  segments := ref.segments.take (size + 1)
  nonempty := by simp [ref.nonempty]
  wellFormed := fun s member => ref.wellFormed s (List.mem_of_mem_take member)

def ancestors (ref : ModuleRef) : List ModuleRef :=
  (List.range (ref.segments.length - 1)).reverse.map ref.take

def nameLe (a b : ModuleRef) : Bool := a.name ≤ b.name

end ModuleRef

end BoundaryLint
