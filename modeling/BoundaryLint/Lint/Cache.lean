import BoundaryLint.Lint.Run

/-!
A cache of trees between runs. An entry holds the fingerprint of the text it was read from, so an
edited file is read again. Texts that are refused leave no entry. Looking up, storing and clearing
are separate steps, so that several readers can share a cache.
-/

namespace BoundaryLint.Lint

/-- Trees by their paths, with the fingerprints of their texts. -/
structure Cache (κ : Type) where
  entries : List (String × κ × SyntaxTree) := []

namespace Cache

variable {κ : Type}

def size (cache : Cache κ) : Nat := cache.entries.length

def clear : Cache κ := ⟨[]⟩

def find? [DecidableEq κ] (cache : Cache κ) (path : String) (mark : κ) : Option SyntaxTree :=
  match cache.entries.lookup path with
  | some (found, tree) => if found = mark then some tree else none
  | none => none

def storeEntry (path : String) (entry : κ × SyntaxTree) :
    List (String × κ × SyntaxTree) → List (String × κ × SyntaxTree)
  | [] => [(path, entry)]
  | (other, kept) :: rest =>
    if other = path then (path, entry) :: rest else (other, kept) :: storeEntry path entry rest

def store (cache : Cache κ) (path : String) (mark : κ) (tree : SyntaxTree) : Cache κ :=
  ⟨storeEntry path (mark, tree) cache.entries⟩

end Cache

/-- A reader of trees with a cache in front of it. -/
structure CachedReader (κ ε : Type) where
  inner : String → String → Except ε SyntaxTree
  fingerprint : String → κ
  cache : Cache κ := {}

namespace CachedReader

inductive Fault where
  | noInner
deriving DecidableEq, Repr

def Fault.message : Fault → String
  | .noInner => "_inner parser must not be None"

variable {κ ε : Type}

def around (inner : Option (String → String → Except ε SyntaxTree)) (fingerprint : String → κ) :
    Except Fault (CachedReader κ ε) :=
  match inner with
  | none => .error .noInner
  | some inner => .ok ⟨inner, fingerprint, {}⟩

structure Outcome (κ ε : Type) where
  reader : CachedReader κ ε
  result : Except ε SyntaxTree
  found : Bool

def read [DecidableEq κ] (reader : CachedReader κ ε) (path source : String) : Outcome κ ε :=
  let mark := reader.fingerprint source
  match reader.cache.find? path mark with
  | some tree => ⟨reader, .ok tree, true⟩
  | none =>
    match reader.inner path source with
    | .ok tree => ⟨{ reader with cache := reader.cache.store path mark tree }, .ok tree, false⟩
    | .error fault => ⟨reader, .error fault, false⟩

def clear (reader : CachedReader κ ε) : CachedReader κ ε := { reader with cache := Cache.clear }

end CachedReader

end BoundaryLint.Lint
