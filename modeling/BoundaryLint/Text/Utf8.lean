import BoundaryLint.Text.Quoted

/-!
Bytes as text in UTF-8. A byte that can start no character is bad on its own; a character that is
broken off is bad as far as it goes.
-/

namespace BoundaryLint.Utf8

inductive Reason where
  | start
  | continuation
  | cutShort
deriving DecidableEq, Repr

def Reason.message : Reason → String
  | .start => "invalid start byte"
  | .continuation => "invalid continuation byte"
  | .cutShort => "unexpected end of data"

/-- What has to follow a first byte: a number of bytes, the first of them within a range. The bits
are those that the first byte gives to the character. -/
structure Lead where
  tails : Nat
  low : Nat
  high : Nat
  bits : Nat
deriving DecidableEq, Repr

/-- The ranges leave out long forms, surrogates and numbers beyond the last character. -/
def lead? (byte : Nat) : Option Lead :=
  if byte < 0x80 then some ⟨0, 0x80, 0xBF, byte⟩
  else if byte < 0xC2 then none
  else if byte < 0xE0 then some ⟨1, 0x80, 0xBF, byte - 0xC0⟩
  else if byte = 0xE0 then some ⟨2, 0xA0, 0xBF, 0⟩
  else if byte = 0xED then some ⟨2, 0x80, 0x9F, 0xD⟩
  else if byte < 0xF0 then some ⟨2, 0x80, 0xBF, byte - 0xE0⟩
  else if byte = 0xF0 then some ⟨3, 0x90, 0xBF, 0⟩
  else if byte < 0xF4 then some ⟨3, 0x80, 0xBF, byte - 0xF0⟩
  else if byte = 0xF4 then some ⟨3, 0x80, 0x8F, 4⟩
  else none

/-- A piece of text, or a run of bad bytes that starts with `first`. -/
inductive Piece where
  | char (c : Char)
  | bad (first : UInt8) (size : Nat) (reason : Reason)
deriving DecidableEq, Repr

def Piece.size : Piece → Nat
  | .char c => c.utf8Size
  | .bad _ size _ => size

/-- The bits of a character from the bytes after its first one, or why there is none. The number of
bytes that belong to the piece comes with either. -/
def readTails (low high bits used : Nat) : (tails : Nat) → List UInt8 → Except Reason Nat × Nat
  | 0, _ => (.ok bits, used)
  | _ + 1, [] => (.error .cutShort, used)
  | tails + 1, byte :: rest =>
    if low ≤ byte.toNat ∧ byte.toNat ≤ high then
      readTails 0x80 0xBF (bits * 64 + (byte.toNat - 0x80)) (used + 1) tails rest
    else (.error .continuation, used)

def readPiece (first : UInt8) (rest : List UInt8) : Piece × Nat :=
  match lead? first.toNat with
  | none => (.bad first 1 .start, 0)
  | some lead =>
    match readTails lead.low lead.high lead.bits 0 lead.tails rest with
    | (.ok bits, used) => (.char (Char.ofNat bits), used)
    | (.error reason, used) => (.bad first (used + 1) reason, used)

def pieces : List UInt8 → List Piece
  | [] => []
  | first :: rest =>
    (readPiece first rest).1 :: pieces (rest.drop (readPiece first rest).2)
termination_by bytes => bytes.length
decreasing_by simp only [List.length_drop, List.length_cons]; omega

structure Fault where
  first : UInt8
  position : Nat
  size : Nat
  reason : Reason
deriving DecidableEq, Repr

def Fault.message (fault : Fault) : String :=
  if fault.size = 1 then
    let byte := String.ofList (Text.hexDigits 2 fault.first.toNat)
    s!"'utf-8' codec can't decode byte 0x{byte} in position {fault.position}: " ++
      fault.reason.message
  else
    s!"'utf-8' codec can't decode bytes in position {fault.position}-" ++
      s!"{fault.position + fault.size - 1}: {fault.reason.message}"

def charsFrom (position : Nat) : List Piece → Except Fault (List Char)
  | [] => .ok []
  | .char c :: rest => do return c :: (← charsFrom (position + c.utf8Size) rest)
  | .bad first size reason :: _ => .error ⟨first, position, size, reason⟩

def decode (bytes : List UInt8) : Except Fault (List Char) := charsFrom 0 (pieces bytes)

/-- The characters of some bytes, with a mark for every run of bad ones. -/
def decodeLossy (bytes : List UInt8) : List Char :=
  (pieces bytes).map fun
    | .char c => c
    | .bad _ _ _ => Char.ofNat 0xFFFD

end BoundaryLint.Utf8
